import Envoix.Nearby.InviteDelivery
import Envoix.Room.Route
import Mathlib.Data.List.Basic
import Mathlib.Logic.Function.Basic
import Mathlib.Logic.Relation

/-! # Every order of nearby deliveries

Any number of inboxes send to each other and read what has come, strangers present what they like
from endpoints of their own, and any connection or acknowledgement may be lost at any time.  What an
inbox has queued and what became of it is kept beside its state. -/

namespace Envoix.Nearby.Delivery

open Fallible
open Envoix.Room (CoreError Clock)

variable {EndpointId : Type}

/-! ## What an inbox remembers -/

/-- The entry is what is remembered of the invitation at the place. -/
def IsRecent (queued : List (NearbyInvite EndpointId × Nat)) (place : Nat)
    (entry : RecentInvite EndpointId) : Prop :=
  ∃ event look, queued[place]? = some (event, look) ∧ event.recent = entry

/-- One of the times was past the expiry. -/
def ExpiredAt (times : List UInt64) (event : NearbyInvite EndpointId) : Prop :=
  ∃ time ∈ times, event.expiresAtUnixSecs ≤ time

/-- The memory is of queued invitations by their places in order, and what is not remembered had
expired at a later look, or has enough others after it. -/
structure Remembers (queued : List (NearbyInvite EndpointId × Nat))
    (recent : List (RecentInvite EndpointId)) (looks : List UInt64) : Prop where
  looked : ∀ entry ∈ queued, entry.2 ≤ looks.length
  aligned : ∃ places : List Nat, places.Pairwise (· < ·) ∧
    List.Forall₂ (IsRecent queued) places recent ∧
      ∀ place event look, queued[place]? = some (event, look) → place ∉ places →
      ExpiredAt (looks.drop look) event ∨ place + maxRecentInvites < queued.length

/-- No invitation is queued again while it is remembered: it had expired at one of the looks since,
the one that found it gone included, or enough others were queued. -/
def Spaced (looks : List UInt64) (queued : List (NearbyInvite EndpointId × Nat)) : Prop :=
  ∀ early late first second, early < late → queued[early]? = some first →
    queued[late]? = some second →
    first.1.recent.repeats second.1.senderEndpointId second.1 →
    ExpiredAt ((looks.take second.2).drop first.2) first.1 ∨ early + maxRecentInvites < late

theorem ExpiredAt.append {times more : List UInt64} {event : NearbyInvite EndpointId}
    (expired : ExpiredAt times event) :
    ExpiredAt (times ++ more) event := by
  obtain ⟨time, listed, past⟩ := expired
  exact ⟨time, List.mem_append_left _ listed, past⟩

theorem ExpiredAt.look {looks : List UInt64} {look : Nat} {event : NearbyInvite EndpointId}
    (expired : ExpiredAt (looks.drop look) event) (time : UInt64) :
    ExpiredAt ((looks ++ [time]).drop look) event := by
  rw [List.drop_append]
  exact expired.append

theorem lt_of_isRecent {queued : List (NearbyInvite EndpointId × Nat)} {place : Nat}
    {entry : RecentInvite EndpointId} (recent : IsRecent queued place entry) :
    place < queued.length := by
  obtain ⟨_, _, found, -⟩ := recent
  exact (List.getElem?_eq_some_iff.mp found).1

theorem IsRecent.append {queued more : List (NearbyInvite EndpointId × Nat)} {place : Nat}
    {entry : RecentInvite EndpointId} (recent : IsRecent queued place entry) :
    IsRecent (queued ++ more) place entry := by
  obtain ⟨event, now, found, same⟩ := recent
  exact ⟨event, now, List.getElem?_append_left (List.getElem?_eq_some_iff.mp found).1 ▸ found, same⟩

/-- Some places of those that the entries are at, when entries are filtered out. -/
theorem exists_places_filter {relation : Nat → RecentInvite EndpointId → Prop} {places : List Nat}
    {recent : List (RecentInvite EndpointId)} (keep : RecentInvite EndpointId → Bool)
    (aligned : List.Forall₂ relation places recent) :
    ∃ kept, kept.Sublist places ∧ List.Forall₂ relation kept (recent.filter keep) ∧
      ∀ place ∈ places, place ∉ kept → ∃ entry, relation place entry ∧ keep entry = false := by
  induction aligned with
  | nil => exact ⟨[], .slnil, .nil, by simp⟩
  | @cons place entry places recent here _ ih =>
    obtain ⟨kept, within, aligned, dropped⟩ := ih
    by_cases keeps : keep entry = true
    · refine ⟨place :: kept, within.cons_cons place, ?_, ?_⟩
      · rw [List.filter_cons_of_pos keeps]
        exact .cons here aligned
      · intro other listed absent
        obtain rfl | listed := List.mem_cons.mp listed
        · exact absurd List.mem_cons_self absent
        · exact dropped other listed fun there => absent (List.mem_cons_of_mem _ there)
    · refine ⟨kept, within.cons place, ?_, ?_⟩
      · rw [List.filter_cons_of_neg keeps]
        exact aligned
      · intro other listed absent
        obtain rfl | listed := List.mem_cons.mp listed
        · exact ⟨entry, here, by simpa using keeps⟩
        · exact dropped other listed absent

/-- Memory after a look through it at some time. -/
theorem Remembers.retain {queued : List (NearbyInvite EndpointId × Nat)}
    {recent : List (RecentInvite EndpointId)} {looks : List UInt64}
    (remembers : Remembers queued recent looks) (time : UInt64) :
    Remembers queued (recent.filter fun entry => entry.expiresAtUnixSecs > time)
      (looks ++ [time]) where
  looked := by
    intro entry listed
    rw [List.length_append]
    exact Nat.le_trans (remembers.looked entry listed) (Nat.le_add_right _ _)
  aligned := by
    obtain ⟨places, sorted, aligned, forgotten⟩ := remembers.aligned
    obtain ⟨kept, within, aligned, dropped⟩ :=
      exists_places_filter (fun entry => entry.expiresAtUnixSecs > time) aligned
    refine ⟨kept, sorted.sublist within, aligned, fun place event look found absent => ?_⟩
    by_cases listed : place ∈ places
    · obtain ⟨entry, ⟨_, _, here, rfl⟩, expired⟩ := dropped place listed absent
      rw [found] at here
      cases here
      refine .inl ⟨time, ?_, UInt64.not_lt.mp (of_decide_eq_false expired)⟩
      rw [List.drop_append_of_le_length (remembers.looked _ (List.mem_of_getElem? found))]
      exact List.mem_append_right _ List.mem_cons_self
    · exact (forgotten place event look found listed).imp_left fun expired => expired.look time

theorem add_length_lt {first bound : Nat} {rest : List Nat}
    (sorted : (first :: rest).Pairwise (· < ·)) (below : ∀ place ∈ first :: rest, place < bound) :
      first + rest.length < bound := by
  induction rest generalizing first with
  | nil => exact below first List.mem_cons_self
  | cons second rest ih =>
    have step := (List.pairwise_cons.mp sorted).1 second List.mem_cons_self
    have further := ih (List.pairwise_cons.mp sorted).2 fun place listed =>
      below place (List.mem_cons_of_mem _ listed)
    rw [List.length_cons]
    omega

/-- Of increasing places below a bound, the first ones are far below it. -/
theorem add_lt_of_mem_take {places : List Nat} {bound : Nat} (sorted : places.Pairwise (· < ·))
    (below : ∀ place ∈ places, place < bound) {count place : Nat}
      (taken : place ∈ places.take count) :
    place + (places.length - count) < bound := by
  induction places generalizing count with
  | nil => simp at taken
  | cons first rest ih =>
    cases count with
    | zero => simp at taken
    | succ count =>
      rw [List.take_succ_cons] at taken
      obtain rfl | taken := List.mem_cons.mp taken
      · have far := add_length_lt sorted below
        rw [List.length_cons]
        omega
      · have far :=
          ih (List.pairwise_cons.mp sorted).2 (fun place listed =>
            below place (List.mem_cons_of_mem _ listed)) taken
        rw [List.length_cons]
        omega

/-- Memory after one more was queued and the oldest beyond the bound were thrown out. -/
theorem Remembers.push {queued : List (NearbyInvite EndpointId × Nat)}
    {recent : List (RecentInvite EndpointId)} {looks : List UInt64}
    (remembers : Remembers queued recent looks) (event : NearbyInvite EndpointId) :
    Remembers (queued ++ [(event, looks.length)])
      ((recent ++ [event.recent]).drop ((recent ++ [event.recent]).length - maxRecentInvites))
        looks := by
  obtain ⟨looked, places, sorted, aligned, forgotten⟩ := remembers
  have inside : ∀ place ∈ places, place < queued.length := by
    intro place listed
    obtain ⟨index, bound, rfl⟩ := List.mem_iff_getElem.mp listed
    exact lt_of_isRecent (List.Forall₂.get aligned bound (aligned.length_eq ▸ bound))
  have longer : (places ++ [queued.length]).Pairwise (· < ·) := by
    rw [List.pairwise_append]
    exact ⟨sorted, List.pairwise_singleton _ _, by simpa using inside⟩
  have whole : List.Forall₂ (IsRecent (queued ++ [(event, looks.length)]))
      (places ++ [queued.length]) (recent ++ [event.recent]) := by
    refine List.rel_append (aligned.imp fun _ _ here => here.append)
      (.cons ⟨event, looks.length, ?_, rfl⟩ .nil)
    rw [List.getElem?_append_right (Nat.le_refl _), Nat.sub_self]
    rfl
  have lengths : (places ++ [queued.length]).length = (recent ++ [event.recent]).length :=
    whole.length_eq
  refine ⟨?_,
    (places ++ [queued.length]).drop ((recent ++ [event.recent]).length - maxRecentInvites),
    longer.sublist (List.drop_sublist _ _), List.forall₂_drop _ whole, ?_⟩
  · intro entry listed
    obtain earlier | last := List.mem_append.mp listed
    · exact looked entry earlier
    · rw [List.mem_singleton.mp last]
  intro place other look found absent
  rw [List.length_append, List.length_singleton]
  by_cases listed : place ∈ places ++ [queued.length]
  · -- thrown out as one of the oldest
    have taken :
        place ∈ (places ++ [queued.length]).take
            ((recent ++ [event.recent]).length - maxRecentInvites) := by
      rw [← List.take_append_drop ((recent ++ [event.recent]).length - maxRecentInvites)
        (places ++ [queued.length]),
        List.mem_append] at listed
      exact listed.resolve_right absent
    have below : ∀ place ∈ places ++ [queued.length], place < queued.length + 1 := by
      intro place listed
      obtain listed | last := List.mem_append.mp listed
      · exact Nat.lt_succ_of_lt (inside place listed)
      · rw [List.mem_singleton.mp last]
        exact Nat.lt_succ_self _
    have far := add_lt_of_mem_take longer below taken
    have some' : (recent ++ [event.recent]).length - maxRecentInvites ≠ 0 := by
      intro none
      rw [none] at taken
      simp at taken
    right
    omega
  · obtain earlier | ⟨last, -⟩ := Roster.getElem?_append_one.mp found
    · have absent' : place ∉ places := fun there => listed (List.mem_append_left _ there)
      exact (forgotten place other look earlier absent').imp_right fun far => Nat.lt_succ_of_lt far
    · exact absurd (last ▸ List.mem_append_right places List.mem_cons_self) listed

/-! ## Runs -/

variable [DecidableEq EndpointId]

/-- An invitation that was received, what became of it, and what decided that: whether the inbox was
closed, and the clock. -/
structure Reception (EndpointId : Type) where
  event : NearbyInvite EndpointId
  fate : Fate
  closed : Bool
  clock : Clock

/-- An inbox, the times at which it has looked through its memory, all that it has queued with the
number of looks up to then, and all that was received from it. -/
structure Recorded (EndpointId : Type) extends NearbyInviteInbox EndpointId where
  looks : List UInt64
  queued : List (NearbyInvite EndpointId × Nat)
  received : List (Reception EndpointId)

/-- What one call of `send_invite` asks for. -/
structure Request (EndpointId : Type) where
  sender : EndpointId
  target : EndpointId
  requestId : UInt64
  message : WireMessage
  invite : String

/-- A call that has connected: what the handler has answered, and its result. -/
structure Call (EndpointId : Type) extends Request EndpointId where
  answer : Option WireMessage
  result : Option (Except SessionError Unit)

structure World (EndpointId : Type) where
  inboxes : EndpointId → Option (Recorded EndpointId)
  calls : List (Call EndpointId)

def World.init : World EndpointId := ⟨fun _ => none, []⟩

/-- An inbox that nobody has asked anything. -/
def Recorded.opened (inbox : NearbyInviteInbox EndpointId) : Recorded EndpointId :=
  { inbox with looks := [], queued := [], received := [] }

/-- The request has come to `enqueue`, which looks through the memory. -/
def AckStatus.isOfEnqueue : AckStatus → Bool
  | .queued | .duplicate | .busy => true
  | .invalid | .expired => false

def WireMessage.isOfEnqueue : WireMessage → Bool
  | .request _ _ _ _ => false
  | .ack _ status => status.isOfEnqueue

/-- The inbox after it has answered; to `enqueue` a clock that fails stands at the end of time. -/
def Recorded.after (self : Recorded EndpointId) (answer : WireMessage)
    (recent : List (RecentInvite EndpointId)) (incoming : Channel EndpointId) (enqueuing : Clock) :
    Recorded EndpointId :=
  let looks :=
    self.looks ++ if answer.isOfEnqueue then [enqueuing.getD (UInt64.ofNat (2 ^ 64 - 1))] else []
  { self with
    recent, incoming, looks
    queued := self.queued ++ (incoming.queue.drop self.incoming.queue.length).map fun event =>
      (event, looks.length) }

/-- A step anywhere; `own` are the endpoints of inboxes, whose keys nobody else has.  Every clock
may give any time at any reading, or fail. -/
inductive Step (own : EndpointId → Prop) : World EndpointId → World EndpointId → Prop where
  | starts {world : World EndpointId} {id : EndpointId} {peerKey displayName : String}
      {inbox : NearbyInviteInbox EndpointId} (mine : own id) (absent : world.inboxes id = none)
      (started : startNearbyInviteInbox peerKey displayName = .ok inbox) :
      Step own world { world with
        inboxes := Function.update world.inboxes id (some (.opened inbox)) }
  | sends {world : World EndpointId} {sender target : EndpointId} {invite : String}
      {parsing validating : Clock} {requestId : UInt64} {message : WireMessage}
      {inbox : Recorded EndpointId} {opened : NearbyInviteInbox EndpointId}
      (found : world.inboxes sender = some inbox)
      (opens : inbox.openRequest sender target invite parsing validating =
        .ok (requestId, message, opened)) :
      Step own world {
        inboxes :=
          Function.update world.inboxes sender
            (some { inbox with nextRequestId := opened.nextRequestId })
        calls :=
          world.calls ++
            [{ sender, target, requestId, message, invite, answer := none, result := none }] }
  | answers {world : World EndpointId} {place : Nat} {call : Call EndpointId}
      {inbox : Recorded EndpointId} {parsing validating enqueuing : Clock} {answer : WireMessage}
      {recent : List (RecentInvite EndpointId)} {incoming : Channel EndpointId}
      (waiting : world.calls[place]? = some call) (fresh : call.answer = none)
      (found : world.inboxes call.target = some inbox)
      (answered : answerRequest inbox.recent inbox.incoming call.sender call.message parsing
        validating enqueuing =
        .ok (answer, recent, incoming)) :
      Step own world {
        inboxes :=
          Function.update world.inboxes call.target
            (some (inbox.after answer recent incoming enqueuing))
        calls := world.calls.set place { call with answer := some answer } }
  | intrudes {world : World EndpointId} {stranger target : EndpointId}
      {message answer : WireMessage} {inbox : Recorded EndpointId}
      {parsing validating enqueuing : Clock} {recent : List (RecentInvite EndpointId)}
      {incoming : Channel EndpointId} (foreign : ¬ own stranger)
      (found : world.inboxes target = some inbox)
      (answered : answerRequest inbox.recent inbox.incoming stranger message parsing
        validating enqueuing =
        .ok (answer, recent, incoming)) :
      Step own world { world with
        inboxes :=
          Function.update world.inboxes target
            (some (inbox.after answer recent incoming enqueuing)) }
  | acknowledges {world : World EndpointId} {place : Nat} {call : Call EndpointId}
      {answer : WireMessage} (waiting : world.calls[place]? = some call)
      (pending : call.result = none) (answered : call.answer = some answer) :
      Step own world { world with
        calls :=
          world.calls.set place { call with result := some (readAck call.requestId answer) } }
  | loses {world : World EndpointId} {place : Nat} {call : Call EndpointId} {error : SessionError}
      (waiting : world.calls[place]? = some call) (pending : call.result = none) :
      Step own world { world with
        calls := world.calls.set place { call with result := some (.error error) } }
  | receives {world : World EndpointId} {id : EndpointId} {inbox : Recorded EndpointId}
      {clock : Clock} {event : NearbyInvite EndpointId} {fate : Fate}
      {left : NearbyInviteInbox EndpointId} (found : world.inboxes id = some inbox)
      (took : inbox.receive clock = some (event, fate, left)) :
      Step own world { world with
        inboxes := Function.update world.inboxes id (some { inbox with
          incoming := left.incoming
          received := inbox.received ++ [{ event, fate, closed := inbox.closed, clock }] }) }
  | closes {world : World EndpointId} {id : EndpointId} {inbox : Recorded EndpointId}
      (found : world.inboxes id = some inbox) :
      Step own world { world with
        inboxes := Function.update world.inboxes id (some { inbox with closed := true }) }
  -- the rest of `close`: what is still in the channel is thrown away
  | drains {world : World EndpointId} {id : EndpointId} {inbox : Recorded EndpointId}
      (found : world.inboxes id = some inbox) (closed : inbox.closed = true) :
      Step own world { world with
        inboxes := Function.update world.inboxes id (some { inbox with
          incoming := ⟨[], true⟩
          received := inbox.received ++ inbox.incoming.queue.map fun event =>
            { event, fate := .cancelled, closed := true, clock := none } }) }

def Reachable (own : EndpointId → Prop) (world : World EndpointId) : Prop :=
  Relation.ReflTransGen (Step own) World.init world

/-! ## One request -/

/-- What `enqueue` may do with an event. -/
theorem enqueue_cases (entries : List (RecentInvite EndpointId)) (sender : EndpointId)
    (event : NearbyInvite EndpointId) (incoming : Channel EndpointId) (clock : Clock) :
    let kept :=
      entries.filter fun entry => entry.expiresAtUnixSecs > clock.getD (UInt64.ofNat (2 ^ 64 - 1))
    (∃ entry ∈ kept, entry.repeats sender event) ∧
        enqueue entries sender event incoming clock = (.duplicate, kept, incoming) ∨
      (∀ entry ∈ kept, ¬ entry.repeats sender event) ∧
        (incoming.closed = false ∧ incoming.queue.length < nearbyInviteQueueCapacity ∧
            enqueue entries sender event incoming clock =
              (.queued, (kept ++ [{ event.recent with sender }]).drop
                ((kept ++ [{ event.recent with sender }]).length - maxRecentInvites),
                { incoming with queue := incoming.queue ++ [event] }) ∨
          (incoming.closed = true ∨ nearbyInviteQueueCapacity ≤ incoming.queue.length) ∧
            enqueue entries sender event incoming clock = (.busy, kept, incoming)) := by
  intro kept
  by_cases repeated : ∃ entry ∈ kept, entry.repeats sender event
  · left
    refine ⟨repeated, ?_⟩
    have found : (kept.any fun entry => entry.repeats sender event) = true := by
      simpa using repeated
    exact if_pos found
  · right
    have none : ∀ entry ∈ kept, ¬ entry.repeats sender event := fun entry listed same =>
      repeated ⟨entry, listed, same⟩
    have notFound : ¬ (kept.any fun entry => entry.repeats sender event) = true := by
      simpa using none
    refine ⟨none, ?_⟩
    -- the memory does not decide, so the channel does
    have sends : ∀ outcome, incoming.trySend event = outcome →
        enqueue entries sender event incoming clock =
        outcome.toOption.elim (.busy, kept, incoming) fun incoming =>
          (.queued, (kept ++ [{ event.recent with sender }]).drop
          ((kept ++ [{ event.recent with sender }]).length - maxRecentInvites), incoming) := by
      intro outcome sent
      simp only [enqueue]
      rw [sent]
      cases outcome <;> exact if_neg notFound
    by_cases closed : incoming.closed = true
    · exact .inr ⟨.inl closed, sends _ (if_pos closed)⟩
    · by_cases free : incoming.queue.length < nearbyInviteQueueCapacity
      · refine .inl ⟨by simpa using closed, free, sends (.ok _) ?_⟩
        rw [Channel.trySend, if_neg closed, if_pos free]
      · refine .inr ⟨.inr (Nat.le_of_not_lt free), sends (.error .full) ?_⟩
        rw [Channel.trySend, if_neg closed, if_neg free]

/-- A request is turned down as it is, or its event is given to `enqueue`. -/
theorem answerRequest_cases {recent left : List (RecentInvite EndpointId)}
    {incoming after : Channel EndpointId} {sender : EndpointId} {message answer : WireMessage}
    {parsing validating enqueuing : Clock}
    (answered : answerRequest recent incoming sender message parsing validating enqueuing =
      .ok (answer, left, after)) :
    ∃ requestId peerKey displayName invite status, message =
      .request requestId peerKey displayName invite ∧
      answer = .ack requestId status ∧
      ((status = .invalid ∨ status = .expired) ∧ left = recent ∧ after = incoming ∨
        ∃ event : NearbyInvite EndpointId, event.senderEndpointId = sender ∧
          event.requestId = requestId ∧ event.invite = invite ∧
          enqueue recent sender event incoming enqueuing = (status, left, after)) := by
  cases message with
  | ack => cases answered
  | request requestId peerKey displayName invite =>
    simp only [answerRequest] at answered
    split at answered
    · cases answered
      exact ⟨_, _, _, _, _, rfl, rfl, .inl ⟨.inl rfl, rfl, rfl⟩⟩
    · split at answered
      · cases answered
        exact ⟨_, _, _, _, _, rfl, rfl, .inl ⟨.inr rfl, rfl, rfl⟩⟩
      · cases answered
        exact ⟨_, _, _, _, _, rfl, rfl, .inl ⟨.inl rfl, rfl, rfl⟩⟩
      · cases answered
        exact ⟨_, _, _, _, _, rfl, rfl, .inr ⟨_, rfl, rfl, rfl, rfl⟩⟩

/-! ## Every inbox -/

/-- What becomes of a received invitation is decided by the inbox, the clock and its expiry. -/
structure Reception.Fits (reception : Reception EndpointId) : Prop where
  returned : ∀ now, reception.fate = .returned now ↔
    reception.closed = false ∧ reception.clock = some now ∧ now < reception.event.expiresAtUnixSecs
  expired : ∀ now, reception.fate = .expired now ↔
    reception.closed = false ∧ reception.clock = some now ∧ reception.event.expiresAtUnixSecs ≤ now
  cancelled : reception.fate = .cancelled ↔ reception.closed = true
  clockFailed : reception.fate = .clockFailed ↔ reception.closed = false ∧ reception.clock = none

/-- What holds of every inbox at every time. -/
structure Sound (inbox : Recorded EndpointId) : Prop where
  room : inbox.incoming.queue.length ≤ nearbyInviteQueueCapacity
  few : inbox.recent.length ≤ maxRecentInvites
  remembers : Remembers inbox.queued inbox.recent inbox.looks
  spaced : Spaced inbox.looks inbox.queued
  order : inbox.queued.map Prod.fst = inbox.received.map Reception.event ++ inbox.incoming.queue
  fates : ∀ reception ∈ inbox.received, reception.Fits
  shut : ∀ reception ∈ inbox.received, reception.closed = true → inbox.closed = true

omit [DecidableEq EndpointId] in
/-- More looks change nothing of what is queued already. -/
theorem Spaced.look {queued : List (NearbyInvite EndpointId × Nat)} {looks : List UInt64}
    (spaced : Spaced looks queued) (looked : ∀ entry ∈ queued, entry.2 ≤ looks.length)
      (time : UInt64) : Spaced (looks ++ [time]) queued := by
  intro early late first second before foundFirst foundSecond repeats
  rw [List.take_append_of_le_length (looked second (List.mem_of_getElem? foundSecond))]
  exact spaced early late first second before foundFirst foundSecond repeats

omit [DecidableEq EndpointId] in
/-- A later invitation repeats none that is remembered. -/
theorem Spaced.push {queued : List (NearbyInvite EndpointId × Nat)} {looks : List UInt64}
    (spaced : Spaced looks queued) {kept : List (RecentInvite EndpointId)}
    (remembers : Remembers queued kept looks) {event : NearbyInvite EndpointId}
    (fresh : ∀ entry ∈ kept, ¬ entry.repeats event.senderEndpointId event) :
    Spaced looks (queued ++ [(event, looks.length)]) := by
  intro early late first second before foundFirst foundSecond repeats
  obtain earlier | ⟨last, rfl⟩ := Roster.getElem?_append_one.mp foundSecond
  · have inside := (List.getElem?_eq_some_iff.mp earlier).1
    rw [List.getElem?_append_left (by omega)] at foundFirst
    exact spaced early late first second before foundFirst earlier repeats
  · subst last
    rw [List.getElem?_append_left before] at foundFirst
    obtain ⟨places, _, aligned, forgotten⟩ := remembers.aligned
    by_cases listed : early ∈ places
    · obtain ⟨index, bound, rfl⟩ := List.mem_iff_getElem.mp listed
      have bound' : index < kept.length := aligned.length_eq ▸ bound
      obtain ⟨_, _, found, same⟩ := List.Forall₂.get aligned bound bound'
      rw [List.get_eq_getElem, foundFirst] at found
      cases found
      have here : (kept.get ⟨index, bound'⟩).repeats event.senderEndpointId event := same ▸ repeats
      exact absurd here (fresh _ (List.get_mem _ _))
    · rw [List.take_length]
      exact forgotten early first.1 first.2 foundFirst listed

omit [DecidableEq EndpointId] in
/-- An answer that does not come to `enqueue` leaves the inbox as it was. -/
theorem after_refused (inbox : Recorded EndpointId) {answer : WireMessage}
    (refused : answer.isOfEnqueue = false) (enqueuing : Clock) :
    inbox.after answer inbox.recent inbox.incoming enqueuing = inbox := by
  simp [Recorded.after, refused]

omit [DecidableEq EndpointId] in
/-- What an answer of `enqueue` leaves, and the invitations that it has queued. -/
theorem after_enqueue (inbox : Recorded EndpointId) (requestId : UInt64) {status : AckStatus}
    (enqueues : status.isOfEnqueue = true) (left : List (RecentInvite EndpointId))
    (more : List (NearbyInvite EndpointId)) (enqueuing : Clock) :
    let looks := inbox.looks ++ [enqueuing.getD (UInt64.ofNat (2 ^ 64 - 1))]
    inbox.after (.ack requestId status) left { inbox.incoming with
      queue := inbox.incoming.queue ++ more } enqueuing =
      { inbox with
        recent := left
        incoming := { inbox.incoming with queue := inbox.incoming.queue ++ more }
        looks
        queued := inbox.queued ++ more.map fun event => (event, looks.length) } := by
  simp [Recorded.after, WireMessage.isOfEnqueue, enqueues]

omit [DecidableEq EndpointId] in
/-- A look through the memory that queues nothing. -/
theorem Sound.look {inbox : Recorded EndpointId} (sound : Sound inbox) (requestId : UInt64)
    {status : AckStatus} (enqueues : status.isOfEnqueue = true) (enqueuing : Clock) :
    Sound (inbox.after (.ack requestId status) (inbox.recent.filter fun entry =>
      entry.expiresAtUnixSecs > enqueuing.getD (UInt64.ofNat (2 ^ 64 - 1)))
        inbox.incoming enqueuing) := by
  have same := after_enqueue inbox requestId enqueues (inbox.recent.filter fun entry =>
    entry.expiresAtUnixSecs > enqueuing.getD (UInt64.ofNat (2 ^ 64 - 1))) [] enqueuing
  simp only [List.append_nil, List.map_nil] at same
  rw [same]
  exact { sound with
    few := Nat.le_trans (List.length_filter_le _ _) sound.few
    remembers := sound.remembers.retain _
    spaced := sound.spaced.look sound.remembers.looked _ }

theorem Sound.after {inbox : Recorded EndpointId} (sound : Sound inbox)
    {parsing validating enqueuing : Clock} {sender : EndpointId} {message answer : WireMessage}
    {recent : List (RecentInvite EndpointId)} {incoming : Channel EndpointId}
    (answered : answerRequest inbox.recent inbox.incoming sender message parsing
      validating enqueuing =
      .ok (answer, recent, incoming)) : Sound (inbox.after answer recent incoming enqueuing) := by
  obtain ⟨requestId, _, _, _, status, -, rfl,
    ⟨refused, rfl, rfl⟩ | ⟨event, from', -, -, enqueued⟩⟩ :=
    answerRequest_cases answered
  · rw [after_refused inbox (by obtain rfl | rfl := refused <;> rfl)]
    exact sound
  · obtain ⟨-, same⟩ | ⟨fresh, ⟨-, free, same⟩ | ⟨-, same⟩⟩ :=
      enqueue_cases inbox.recent sender event inbox.incoming enqueuing
    · rw [same] at enqueued
      cases enqueued
      exact sound.look requestId rfl enqueuing
    · rw [same] at enqueued
      cases enqueued
      subst from'
      have kept := sound.remembers.retain (enqueuing.getD (UInt64.ofNat (2 ^ 64 - 1)))
      have spaced :=
        sound.spaced.look sound.remembers.looked (enqueuing.getD (UInt64.ofNat (2 ^ 64 - 1)))
      rw [after_enqueue inbox requestId rfl _ [event] enqueuing]
      exact {
        room := by
          rw [List.length_append, List.length_singleton]
          exact free
        few := by
          rw [List.length_drop]
          omega
        remembers := kept.push event
        spaced := spaced.push kept fresh
        order := by
          rw [List.map_append, sound.order]
          exact List.append_assoc _ _ _
        fates := sound.fates
        shut := sound.shut }
    · rw [same] at enqueued
      cases enqueued
      exact sound.look requestId rfl enqueuing

omit [DecidableEq EndpointId] in
theorem Sound.opened {peerKey displayName : String} {inbox : NearbyInviteInbox EndpointId}
    (started : startNearbyInviteInbox peerKey displayName = .ok inbox) :
    Sound (Recorded.opened inbox) := by
  simp only [startNearbyInviteInbox, bind_eq_ok, pure_eq_ok] at started
  obtain ⟨_, _, _, _, rfl⟩ := started
  exact {
    room := Nat.zero_le _
    few := Nat.zero_le _
    remembers := ⟨by simp [Recorded.opened], [], .nil, .nil, by simp [Recorded.opened]⟩
    spaced := by intro _ _ _ _ _ found; simp [Recorded.opened] at found
    order := rfl
    fates := by simp [Recorded.opened]
    shut := by simp [Recorded.opened] }

omit [DecidableEq EndpointId] in
/-- What one turn of `next_invite` takes is the first that waits, and its fate is decided as it
should be. -/
theorem receive_spec {inbox left : NearbyInviteInbox EndpointId} {clock : Clock}
    {event : NearbyInvite EndpointId} {fate : Fate}
    (took : inbox.receive clock = some (event, fate, left)) :
    inbox.incoming.queue = event :: left.incoming.queue ∧
      Reception.Fits ⟨event, fate, inbox.closed, clock⟩ := by
  unfold NearbyInviteInbox.receive at took
  split at took
  · cases took
  next first queue waiting =>
    simp only [Option.some.injEq, Prod.mk.injEq] at took
    obtain ⟨rfl, rfl, rfl⟩ := took
    refine ⟨waiting, ?_⟩
    cases inbox.closed with
    | true => exact ⟨by simp, by simp, by simp, by simp⟩
    | false =>
      cases clock with
      | none => exact ⟨by simp, by simp, by simp, by simp⟩
      | some now =>
        by_cases live : first.expiresAtUnixSecs > now
        · exact ⟨by simp [live], by simp [live], by simp [live], by simp [live]⟩
        · have expired : first.expiresAtUnixSecs ≤ now := UInt64.not_lt.mp live
          exact ⟨by simp [live]; grind, by simp [live]; grind, by simp [live], by simp [live]⟩

omit [DecidableEq EndpointId] in
theorem Sound.receive {inbox : Recorded EndpointId} (sound : Sound inbox) {clock : Clock}
    {event : NearbyInvite EndpointId} {fate : Fate} {left : NearbyInviteInbox EndpointId}
    (took : inbox.receive clock = some (event, fate, left)) :
    Sound { inbox with
      incoming := left.incoming
      received := inbox.received ++ [{ event, fate, closed := inbox.closed, clock }] } := by
  obtain ⟨waiting, fits⟩ := receive_spec took
  have short := sound.room
  have order := sound.order
  rw [waiting] at short order
  exact {
    room := Nat.le_of_succ_le short
    few := sound.few
    remembers := sound.remembers
    spaced := sound.spaced
    order := by
      rw [List.map_append, order]
      exact (List.append_assoc _ [event] left.incoming.queue).symm
    fates := by
      intro reception listed
      obtain earlier | last := List.mem_append.mp listed
      · exact sound.fates reception earlier
      · rw [List.mem_singleton.mp last]
        exact fits
    shut := by
      intro reception listed
      obtain earlier | last := List.mem_append.mp listed
      · exact sound.shut reception earlier
      · rw [List.mem_singleton.mp last]
        exact id }

omit [DecidableEq EndpointId] in
theorem Sound.drain {inbox : Recorded EndpointId} (sound : Sound inbox)
    (closed : inbox.closed = true) :
    Sound { inbox with
      incoming := ⟨[], true⟩
      received := inbox.received ++ inbox.incoming.queue.map fun event =>
        { event, fate := .cancelled, closed := true, clock := none } } where
  room := Nat.zero_le _
  few := sound.few
  remembers := sound.remembers
  spaced := sound.spaced
  order := by
    rw [List.map_append, List.map_map, sound.order, List.append_nil]
    exact congrArg _ (List.map_id _).symm
  fates := by
    intro reception listed
    obtain earlier | last := List.mem_append.mp listed
    · exact sound.fates reception earlier
    · obtain ⟨event, _, rfl⟩ := List.mem_map.mp last
      exact ⟨by simp, by simp, by simp, by simp⟩
  shut := fun _ _ _ => closed

theorem forall_update {inboxes : EndpointId → Option (Recorded EndpointId)}
    (holds : EndpointId → Recorded EndpointId → Prop)
    (every : ∀ id inbox, inboxes id = some inbox → holds id inbox) {target : EndpointId}
      {changed : Recorded EndpointId} (this : holds target changed) :
    ∀ id inbox, Function.update inboxes target (some changed) id = some inbox → holds id inbox := by
  intro id inbox found
  by_cases here : id = target
  · subst here
    rw [Function.update_self] at found
    cases found
    exact this
  · rw [Function.update_of_ne here] at found
    exact every id inbox found

theorem forall_sound {inboxes : EndpointId → Option (Recorded EndpointId)}
    (sound : ∀ id inbox, inboxes id = some inbox → Sound inbox) {target : EndpointId}
      {changed : Recorded EndpointId}
    (this : Sound changed) :
    ∀ id inbox, Function.update inboxes target (some changed) id = some inbox → Sound inbox :=
  forall_update (fun _ => Sound) sound this

/-- A step keeps every inbox sound. -/
theorem sound_step {own : EndpointId → Prop} {world next : World EndpointId}
    (step : Step own world next) (sound : ∀ id inbox, world.inboxes id = some inbox → Sound inbox) :
    ∀ id inbox, next.inboxes id = some inbox → Sound inbox := by
  cases step with
  | starts mine absent started => exact forall_sound sound (Sound.opened started)
  | sends found opens =>
    have before := sound _ _ found
    exact forall_sound sound { before with }
  | answers waiting fresh found answered =>
    exact forall_sound sound ((sound _ _ found).after answered)
  | intrudes foreign found answered => exact forall_sound sound ((sound _ _ found).after answered)
  | acknowledges => exact sound
  | loses => exact sound
  | receives found took => exact forall_sound sound ((sound _ _ found).receive took)
  | closes found =>
    have before := sound _ _ found
    exact forall_sound sound { before with shut := fun _ _ _ => rfl }
  | drains found closed => exact forall_sound sound ((sound _ _ found).drain closed)

theorem sound_of_reachable {own : EndpointId → Prop} {world : World EndpointId}
    (reachable : Reachable own world) :
    ∀ id inbox, world.inboxes id = some inbox → Sound inbox := by
  induction reachable with
  | refl =>
    intro id inbox found
    cases found
  | tail _ step ih => exact sound_step step ih

/-- A refusal for want of room leaves no trace: the request can be queued when there is room. -/
theorem enqueue_busy {entries left : List (RecentInvite EndpointId)} {sender : EndpointId}
    {event : NearbyInvite EndpointId} {incoming after : Channel EndpointId} {clock : Clock}
    (busy : enqueue entries sender event incoming clock = (.busy, left, after)) :
    after = incoming ∧ (∀ entry ∈ left, ¬ entry.repeats sender event) ∧
      ∀ roomy : Channel EndpointId, roomy.closed = false →
        roomy.queue.length < nearbyInviteQueueCapacity →
        ∀ later, (enqueue left sender event roomy later).1 = .queued := by
  obtain ⟨-, same⟩ | ⟨fresh, ⟨-, -, same⟩ | ⟨-, same⟩⟩ :=
    enqueue_cases entries sender event incoming clock
  · rw [same] at busy
    cases busy
  · rw [same] at busy
    cases busy
  · rw [same] at busy
    cases busy
    refine ⟨rfl, fresh, fun roomy opened free later => ?_⟩
    obtain ⟨⟨entry, listed, repeats⟩, -⟩ | ⟨-, ⟨-, -, same⟩ | ⟨shut | full, -⟩⟩ :=
      enqueue_cases (entries.filter fun entry =>
        entry.expiresAtUnixSecs > clock.getD (UInt64.ofNat (2 ^ 64 - 1))) sender event roomy later
    · exact absurd repeats (fresh entry (List.mem_of_mem_filter listed))
    · rw [same]
    · rw [opened] at shut
      cases shut
    · omega

/-- Of every inbox in every run: its bounds, what is not queued twice, and that what is received is
what was queued, once and in order, returned exactly when it had not expired and the inbox was
open. -/
theorem inbox_invariants (own : EndpointId → Prop) (world : World EndpointId)
    (reachable : Reachable own world) (id : EndpointId) (inbox : Recorded EndpointId)
    (found : world.inboxes id = some inbox) :
    inbox.incoming.queue.length ≤ nearbyInviteQueueCapacity ∧
      inbox.recent.length ≤ maxRecentInvites ∧ Spaced inbox.looks inbox.queued ∧
      inbox.queued.map Prod.fst = inbox.received.map Reception.event ++ inbox.incoming.queue ∧
      (∀ reception ∈ inbox.received, reception.Fits ∧
        (reception.closed = true → inbox.closed = true)) ∧
      ∀ sender event clock left after, enqueue inbox.recent sender event inbox.incoming clock =
        (.busy, left, after) →
        after = inbox.incoming ∧ (∀ entry ∈ left, ¬ entry.repeats sender event) ∧
          ∀ roomy : Channel EndpointId, roomy.closed = false →
            roomy.queue.length < nearbyInviteQueueCapacity →
            ∀ later, (enqueue left sender event roomy later).1 = .queued := by
  have sound := sound_of_reachable reachable id inbox found
  exact ⟨sound.room, sound.few, sound.spaced, sound.order,
    fun reception listed => ⟨sound.fates reception listed, sound.shut reception listed⟩,
    fun _ _ _ _ _ busy => enqueue_busy busy⟩

/-! ## A full inbox -/

theorem plainInvite_validates :
    validateInvite Room.plainInvite.payload (some 0) (some 0) = .ok ⟨300⟩ := by
  have scan := Room.plainInvite_issued.settled.parse_payload "" none (some 0)
  have small : ¬ (ByteCodec.asBytes Room.plainInvite.payload).length > maxNearbyInviteBytes := by
    decide
  have starts : ¬ ¬ Invite.startsWith "envoix://room/" Room.plainInvite.payload := by decide
  rw [validateInvite, reject_of_not small, ok_bind, reject_of_not starts, ok_bind, scan]
  rfl

/-- Only the inbox at 0 is one; all others are strangers. -/
def Single (id : Nat) : Prop := id = 0

def lobby : NearbyInviteInbox Nat where
  incoming := ⟨[], false⟩
  recent := []
  senderPeerKey := "0011223344556677"
  senderDisplayName := "Sender"
  nextRequestId := 1
  closed := false

/-- The invitation that a stranger presents. -/
def presented (stranger : Nat) : NearbyInvite Nat where
  requestId := 1
  senderEndpointId := stranger
  senderPeerKey := "0011223344556677"
  senderDisplayName := "Sender"
  invite := Room.plainInvite.payload
  expiresAtUnixSecs := 300

/-- The inbox after a stranger presented its invitation at time 0. -/
def knocked (inbox : Recorded Nat) (stranger : Nat) : Recorded Nat :=
  let (status, left, after) :=
    enqueue inbox.recent stranger (presented stranger) inbox.incoming (some 0)
  inbox.after (.ack 1 status) left after (some 0)

def alone (inbox : Recorded Nat) : World Nat := ⟨Function.update (fun _ => none) 0 (some inbox), []⟩

theorem alone_inbox (inbox : Recorded Nat) : (alone inbox).inboxes 0 = some inbox := by
  simp [alone]

theorem reachable_alone {inbox changed : Recorded Nat} (reachable : Reachable Single (alone inbox))
    (step : Step Single (alone inbox) { alone inbox with
      inboxes := Function.update (alone inbox).inboxes 0 (some changed) }) :
        Reachable Single (alone changed) := by
  have same : alone changed = { alone inbox with
      inboxes := Function.update (alone inbox).inboxes 0 (some changed) } := by
    simp [alone]
  rw [same]
  exact reachable.tail step

theorem reachable_knocked {inbox : Recorded Nat} (reachable : Reachable Single (alone inbox))
    {stranger : Nat} (foreign : stranger ≠ 0) :
    Reachable Single (alone (knocked inbox stranger)) := by
  have answered : answerRequest inbox.recent inbox.incoming stranger
      (.request 1 "0011223344556677" "Sender" Room.plainInvite.payload) (some 0) (some 0) (some 0) =
        .ok (.ack 1 (enqueue inbox.recent stranger (presented stranger) inbox.incoming (some 0)).1,
          (enqueue inbox.recent stranger (presented stranger) inbox.incoming (some 0)).2.1,
          (enqueue inbox.recent stranger (presented stranger) inbox.incoming (some 0)).2.2) := by
    have validates := plainInvite_validates
    have normalized :
      normalizedSender 1 "0011223344556677" "Sender" = some ("0011223344556677", "Sender") := rfl
    simp only [answerRequest, normalized, validates]
    rfl
  exact reachable_alone reachable (.intrudes foreign (alone_inbox inbox) answered)

theorem reachable_crowd {strangers : List Nat} (foreign : ∀ stranger ∈ strangers, stranger ≠ 0)
    {inbox : Recorded Nat} (reachable : Reachable Single (alone inbox)) :
    Reachable Single (alone (strangers.foldl knocked inbox)) := by
  induction strangers generalizing inbox with
  | nil => exact reachable
  | cons stranger strangers ih =>
    exact ih (fun other listed => foreign other (List.mem_cons_of_mem _ listed))
      (reachable_knocked reachable (foreign stranger List.mem_cons_self))

/-- One call of `next_invite` takes an invitation. -/
def took (inbox : Recorded Nat) (clock : Clock) : Recorded Nat :=
  match inbox.receive clock with
  | some (event, fate, left) =>
    { inbox with
      incoming := left.incoming
      received := inbox.received ++ [{ event, fate, closed := inbox.closed, clock }] }
  | none => inbox

theorem reachable_took {inbox : Recorded Nat} (reachable : Reachable Single (alone inbox))
    (clock : Clock) :
    Reachable Single (alone (took inbox clock)) := by
  cases found : inbox.receive clock with
  | none =>
    have same : took inbox clock = inbox := by rw [took, found]
    rw [same]
    exact reachable
  | some taken =>
    obtain ⟨event, fate, left⟩ := taken
    have same : took inbox clock = { inbox with
        incoming := left.incoming
        received := inbox.received ++ [{ event, fate, closed := inbox.closed, clock }] } := by
          rw [took, found]
    rw [same]
    exact reachable_alone reachable (.receives (alone_inbox inbox) found)

/-- Nine strangers come, one more than there is room for; of the invitations one is returned, one
has expired, one meets a failing clock, and the inbox is closed. -/
def crowdedInbox : Recorded Nat :=
  [1, 2, 3, 4, 5, 6, 7, 8, 9].foldl knocked (.opened lobby)

def leftInbox : Recorded Nat :=
  took { took (took (took crowdedInbox (some 299)) (some 300)) none with closed := true } (some 0)

theorem crowdedInbox_reachable : Reachable Single (alone crowdedInbox) := by
  have started : startNearbyInviteInbox "0011223344556677" "Sender" = .ok lobby := rfl
  have opened : Reachable Single (alone (.opened lobby)) :=
    Relation.ReflTransGen.single (@Step.starts Nat _ Single World.init 0 _ _ _ rfl rfl started)
  exact reachable_crowd (by decide) opened

theorem leftInbox_reachable : Reachable Single (alone leftInbox) := by
  have shown :=
    reachable_took (reachable_took (reachable_took crowdedInbox_reachable (some 299))
      (some 300)) none
  have closed := reachable_alone shown (.closes (alone_inbox _))
  exact reachable_took closed (some 0)

theorem inbox_invariants_delivery :
    leftInbox.queued.map (fun entry => entry.1.senderEndpointId) = [1, 2, 3, 4, 5, 6, 7, 8] ∧
      leftInbox.received.map Reception.fate =
        [.returned 299, .expired 300, .clockFailed, .cancelled] ∧
      leftInbox.queued.map Prod.fst = leftInbox.received.map Reception.event ++
        leftInbox.incoming.queue ∧
      (enqueue crowdedInbox.recent 9 (presented 9) leftInbox.incoming (some 0)).1 = .queued := by
  have crowded := inbox_invariants _ _ crowdedInbox_reachable 0 crowdedInbox (alone_inbox _)
  have left := inbox_invariants _ _ leftInbox_reachable 0 leftInbox (alone_inbox _)
  have busy : enqueue crowdedInbox.recent 9 (presented 9) crowdedInbox.incoming (some 0) =
      (.busy, crowdedInbox.recent, crowdedInbox.incoming) := rfl
  obtain ⟨-, -, roomy⟩ := crowded.2.2.2.2.2 _ _ _ _ _ busy
  exact ⟨rfl, rfl, left.2.2.2.1, roomy leftInbox.incoming rfl (by decide) (some 0)⟩

end Envoix.Nearby.Delivery
