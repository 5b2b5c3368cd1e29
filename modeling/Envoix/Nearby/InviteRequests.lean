import Envoix.Nearby.InviteDeliveryRuns

/-! # What an acknowledged invitation tells its sender

The requests of an inbox carry numbers of their own, so an inbox that answers `duplicate` has queued
the very invitation before; and whatever is acknowledged was queued. -/

namespace Envoix.Nearby.Delivery

open Fallible
open Envoix.Room (CoreError Clock)

variable {EndpointId : Type} [DecidableEq EndpointId]

/-! ## Requests and their numbers -/

/-- The requests that `id` has made. -/
def begun (requests : List (Request EndpointId)) (id : EndpointId) : Nat :=
  requests.countP fun request => request.sender = id

/-- Each request carries its own number, as long as the numbers last. -/
def Numbered (requests : List (Request EndpointId)) : Prop :=
  ∀ (place : Nat) (request : Request EndpointId), requests[place]? = some request →
    begun (requests.take place) request.sender < 2 ^ 64 - 1 →
    request.requestId.toNat = begun (requests.take place) request.sender + 1

/-- No sender has used up its numbers. -/
def Unspent (requests : List (Request EndpointId)) : Prop := ∀ id, begun requests id < 2 ^ 64

theorem begun_append_one (requests : List (Request EndpointId)) (request : Request EndpointId)
    (id : EndpointId) :
    begun (requests ++ [request]) id = begun requests id + if request.sender = id then 1
      else 0 := by
  rw [begun, begun, List.countP_append, List.countP_singleton]
  simp

theorem begun_take_le (requests : List (Request EndpointId)) (place : Nat) (id : EndpointId) :
    begun (requests.take place) id ≤ begun requests id := by
  exact (List.take_sublist place requests).countP_le

theorem Unspent.of_append {requests more : List (Request EndpointId)}
    (unspent : Unspent (requests ++ more)) :
    Unspent requests := by
  intro id
  have whole := unspent id
  rw [begun, List.countP_append] at whole
  exact Nat.lt_of_le_of_lt (Nat.le_add_right _ _) whole

/-- The request at a place counts among those before any later place. -/
theorem begun_take_lt {requests : List (Request EndpointId)} {early late : Nat}
    {request : Request EndpointId} (found : requests[early]? = some request)
    (before : early < late) :
    begun (requests.take early) request.sender < begun (requests.take late) request.sender := by
  obtain ⟨inside, rfl⟩ := List.getElem?_eq_some_iff.mp found
  have one : begun (requests.take (early + 1)) requests[early].sender =
      begun (requests.take early) requests[early].sender + 1 := by
    rw [List.take_succ_eq_append_getElem inside, begun_append_one, if_pos rfl]
  have more : begun (requests.take (early + 1)) requests[early].sender ≤
      begun (requests.take late) requests[early].sender := by
    have nested : requests.take (early + 1) = (requests.take late).take (early + 1) := by
      rw [List.take_take, Nat.min_eq_left before]
    rw [nested]
    exact begun_take_le _ _ _
  omega

theorem begun_take_lt_begun {requests : List (Request EndpointId)} {place : Nat}
    {request : Request EndpointId} (found : requests[place]? = some request) :
    begun (requests.take place) request.sender < begun requests request.sender := by
  have inside := (List.getElem?_eq_some_iff.mp found).1
  have before := begun_take_lt found inside
  rwa [List.take_length] at before

/-- Requests of one sender under one number are one request. -/
theorem Numbered.unique {requests : List (Request EndpointId)} (numbered : Numbered requests)
    (unspent : Unspent requests) {left right : Request EndpointId} (first : left ∈ requests)
    (second : right ∈ requests) (sender : left.sender = right.sender)
    (number : left.requestId = right.requestId) : left = right := by
  obtain ⟨early, foundLeft⟩ := List.getElem?_of_mem first
  obtain ⟨late, foundRight⟩ := List.getElem?_of_mem second
  have total := unspent right.sender
  have leftSmall := begun_take_lt_begun foundLeft
  have rightSmall := begun_take_lt_begun foundRight
  rw [sender] at leftSmall
  have leftIs := numbered early left foundLeft (by rw [sender]; omega)
  have rightIs := numbered late right foundRight (by omega)
  rw [number, sender] at leftIs
  obtain before | same | after := Nat.lt_trichotomy early late
  · have less := begun_take_lt foundLeft before
    rw [sender] at less
    omega
  · subst same
    rw [foundLeft] at foundRight
    exact Option.some.inj foundRight
  · have less := begun_take_lt foundRight after
    omega

/-! ## What an acknowledgement tells -/

def World.requests (world : World EndpointId) : List (Request EndpointId) :=
  world.calls.map Call.toRequest

/-- The target has queued the invitation of the request from its sender. -/
def Delivered (inboxes : EndpointId → Option (Recorded EndpointId)) (request : Request EndpointId) :
    Prop :=
  ∃ inbox event now, inboxes request.target = some inbox ∧ (event, now) ∈ inbox.queued ∧
    event.senderEndpointId = request.sender ∧ event.invite = request.invite

/-- The event was made from one of the requests. -/
def Originates (requests : List (Request EndpointId)) (event : NearbyInvite EndpointId) : Prop :=
  ∃ request ∈ requests, request.sender = event.senderEndpointId ∧
    request.requestId = event.requestId ∧ request.invite = event.invite

def AckStatus.IsSuccess (status : AckStatus) : Prop := status = .queued ∨ status = .duplicate

/-- What holds of the requests of every run. -/
structure Traced (own : EndpointId → Prop) (world : World EndpointId) : Prop where
  mine : ∀ id inbox, world.inboxes id = some inbox → own id
  idle : ∀ id, world.inboxes id = none → begun world.requests id = 0
  senders : ∀ request ∈ world.requests, own request.sender
  message : ∀ request ∈ world.requests, ∃ peerKey displayName,
    request.message = .request request.requestId peerKey displayName request.invite
  numbered : Numbered world.requests
  counter : ∀ id inbox, world.inboxes id = some inbox → begun world.requests id < 2 ^ 64 - 1 →
    inbox.nextRequestId.toNat = begun world.requests id + 1
  origin : ∀ id inbox, world.inboxes id = some inbox → ∀ event now, (event, now) ∈ inbox.queued →
    own event.senderEndpointId → Originates world.requests event
  answers : ∀ call ∈ world.calls, ∀ answer, call.answer = some answer →
    ∃ status, answer = .ack call.requestId status ∧
    (Unspent world.requests → status.IsSuccess → Delivered world.inboxes call.toRequest)
  results : ∀ call ∈ world.calls, call.result = some (.ok ()) →
    ∃ status, call.answer = some (.ack call.requestId status) ∧ status.IsSuccess

theorem Delivered.update {inboxes : EndpointId → Option (Recorded EndpointId)}
    {request : Request EndpointId} (delivered : Delivered inboxes request) {id : EndpointId}
    {changed : Recorded EndpointId}
    (keeps : ∀ inbox, inboxes id = some inbox → inbox.queued ⊆ changed.queued) :
    Delivered (Function.update inboxes id (some changed)) request := by
  obtain ⟨inbox, event, now, found, listed, from', text⟩ := delivered
  by_cases here : request.target = id
  · subst here
    exact ⟨changed, event, now, Function.update_self .., keeps inbox found listed, from', text⟩
  · exact ⟨inbox, event, now, (Function.update_of_ne here ..).trans found, listed, from', text⟩

omit [DecidableEq EndpointId] in
theorem Originates.append {requests more : List (Request EndpointId)}
    {event : NearbyInvite EndpointId} (originates : Originates requests event) :
    Originates (requests ++ more) event := by
  obtain ⟨request, listed, same⟩ := originates
  exact ⟨request, List.mem_append_left _ listed, same⟩

variable {own : EndpointId → Prop} {world : World EndpointId}

/-- An inbox changes and keeps its counter; what it newly queues comes from a request or a
stranger. -/
theorem Traced.update (traced : Traced own world) {id : EndpointId}
    {inbox changed : Recorded EndpointId} (found : world.inboxes id = some inbox)
    (counter : changed.nextRequestId = inbox.nextRequestId) (keeps : inbox.queued ⊆ changed.queued)
    (origin : ∀ event now, (event, now) ∈ changed.queued → (event, now) ∈ inbox.queued ∨
      (own event.senderEndpointId → Originates world.requests event)) :
    Traced own { world with inboxes := Function.update world.inboxes id (some changed) } where
  mine := forall_update (fun id _ => own id) traced.mine (traced.mine id inbox found)
  idle := by
    intro other absent
    by_cases here : other = id
    · subst here
      have filled := (Function.update_self other (some changed) world.inboxes).symm.trans absent
      cases filled
    · exact traced.idle other ((Function.update_of_ne here ..).symm.trans absent)
  senders := traced.senders
  message := traced.message
  numbered := traced.numbered
  counter := forall_update (fun id inbox => begun world.requests id < 2 ^ 64 - 1 →
      inbox.nextRequestId.toNat = begun world.requests id + 1) traced.counter
    (fun left => counter ▸ traced.counter id inbox found left)
  origin := forall_update (fun _ inbox => ∀ event now, (event, now) ∈ inbox.queued →
      own event.senderEndpointId → Originates world.requests event) traced.origin
    (fun event now listed =>
      (origin event now listed).elim (traced.origin id inbox found event now) fun new => new)
  answers := by
    intro call listed answer answered
    obtain ⟨status, same, delivers⟩ := traced.answers call listed answer answered
    refine ⟨status, same, fun unspent success =>
      (delivers unspent success).update fun old there => ?_⟩
    rw [found] at there
    cases there
    exact keeps
  results := traced.results

omit [DecidableEq EndpointId] in
theorem requests_set {calls : List (Call EndpointId)} {place : Nat} {call changed : Call EndpointId}
    (found : calls[place]? = some call) (same : changed.toRequest = call.toRequest) :
    (calls.set place changed).map Call.toRequest = calls.map Call.toRequest := by
  obtain ⟨inside, rfl⟩ := List.getElem?_eq_some_iff.mp found
  apply List.ext_getElem (by simp)
  intro other _ _
  simp only [List.getElem_map, List.getElem_set]
  split
  case isTrue here =>
    subst here
    exact same
  case isFalse => rfl

/-- A call gets its answer or its result. -/
theorem Traced.set (traced : Traced own world) {place : Nat} {call changed : Call EndpointId}
    (found : world.calls[place]? = some call) (same : changed.toRequest = call.toRequest)
    (answers : ∀ answer, changed.answer = some answer →
      ∃ status, answer = .ack changed.requestId status ∧
      (Unspent world.requests → status.IsSuccess → Delivered world.inboxes changed.toRequest))
    (results : changed.result = some (.ok ()) →
      ∃ status, changed.answer = some (.ack changed.requestId status) ∧ status.IsSuccess) :
    Traced own { world with calls := world.calls.set place changed } := by
  have requests : World.requests { world with calls := world.calls.set place changed } =
    world.requests :=
    requests_set found same
  refine ⟨traced.mine, requests ▸ traced.idle, requests ▸ traced.senders, requests ▸ traced.message,
    requests ▸ traced.numbered, requests ▸ traced.counter, requests ▸ traced.origin, ?_, ?_⟩
  · intro other listed
    rw [requests]
    obtain earlier | rfl := List.mem_or_eq_of_mem_set listed
    · exact traced.answers other earlier
    · exact answers
  · intro other listed
    obtain earlier | rfl := List.mem_or_eq_of_mem_set listed
    · exact traced.results other earlier
    · exact results

/-- What an answer newly queues comes from the sender of the message. -/
theorem mem_after {inbox : Recorded EndpointId} {sender : EndpointId} {message answer : WireMessage}
    {parsing validating enqueuing : Clock} {recent : List (RecentInvite EndpointId)}
    {incoming : Channel EndpointId}
    (answered : answerRequest inbox.recent inbox.incoming sender message parsing
      validating enqueuing =
      .ok (answer, recent, incoming)) {requestId : UInt64} {peerKey displayName invite : String}
    (asked : message = .request requestId peerKey displayName invite) :
    inbox.queued ⊆ (inbox.after answer recent incoming enqueuing).queued ∧
      (∀ event now, (event, now) ∈ (inbox.after answer recent incoming enqueuing).queued →
        (event, now) ∈ inbox.queued ∨
          event.senderEndpointId = sender ∧ event.requestId = requestId ∧ event.invite = invite) ∧
      ∃ status, answer = .ack requestId status ∧
        (status = .queued →
          ∃ event now, (event, now) ∈ (inbox.after answer recent incoming enqueuing).queued ∧
          event.senderEndpointId = sender ∧ event.invite = invite) ∧
        (status = .duplicate → ∃ entry ∈ inbox.recent, entry.sender = sender ∧
          (entry.requestId = requestId ∨ entry.invite = invite)) := by
  have silent (answer : WireMessage) (left : List (RecentInvite EndpointId)) :
      (inbox.after answer left inbox.incoming enqueuing).queued = inbox.queued := by
    simp [Recorded.after]
  obtain ⟨_, _, _, _, status, same, rfl,
    ⟨refused, rfl, rfl⟩ | ⟨event, from', number, text, enqueued⟩⟩ :=
    answerRequest_cases answered
  · rw [asked] at same
    cases same
    rw [silent]
    refine ⟨List.Subset.refl _, fun _ _ listed => .inl listed, status, rfl, ?_, ?_⟩
    · rintro rfl
      simp at refused
    · rintro rfl
      simp at refused
  · rw [asked] at same
    cases same
    subst from' number text
    obtain ⟨⟨entry, kept, repeats⟩, outcome⟩ | ⟨-, ⟨-, -, outcome⟩ | ⟨-, outcome⟩⟩ :=
      enqueue_cases inbox.recent event.senderEndpointId event inbox.incoming enqueuing
    · rw [outcome] at enqueued
      cases enqueued
      rw [silent]
      refine ⟨List.Subset.refl _, fun _ _ listed => .inl listed, _, rfl, by simp, fun _ => ?_⟩
      exact ⟨entry, List.mem_of_mem_filter kept, repeats⟩
    · rw [outcome] at enqueued
      cases enqueued
      rw [after_enqueue inbox event.requestId rfl _ [event] enqueuing]
      refine ⟨List.subset_append_left _ _, ?_, _, rfl, fun _ => ?_, by simp⟩
      · intro other now listed
        obtain earlier | last := List.mem_append.mp listed
        · exact .inl earlier
        · cases List.mem_singleton.mp last
          exact .inr ⟨rfl, rfl, rfl⟩
      · exact ⟨event, _, List.mem_append_right _ List.mem_cons_self, rfl, rfl⟩
    · rw [outcome] at enqueued
      cases enqueued
      rw [silent]
      exact ⟨List.Subset.refl _, fun _ _ listed => .inl listed, _, rfl, by simp, by simp⟩

/-- Whoever is told that its request is known has had its invitation queued. -/
theorem Traced.delivered_of_recent (traced : Traced own world) (unspent : Unspent world.requests)
    {id : EndpointId} {inbox : Recorded EndpointId} (found : world.inboxes id = some inbox)
    (sound : Sound inbox) {request : Request EndpointId} (asks : request ∈ world.requests)
    (target : request.target = id) {entry : RecentInvite EndpointId} (listed : entry ∈ inbox.recent)
    (sender : entry.sender = request.sender)
    (repeats : entry.requestId = request.requestId ∨ entry.invite = request.invite) :
    Delivered world.inboxes request := by
  obtain ⟨places, -, aligned, -⟩ := sound.remembers.aligned
  obtain ⟨index, bound, rfl⟩ := List.mem_iff_getElem.mp listed
  obtain ⟨event, now, queued, same⟩ := List.Forall₂.get aligned (aligned.length_eq ▸ bound) bound
  rw [List.get_eq_getElem] at same
  rw [← same] at sender repeats
  have there : (event, now) ∈ inbox.queued := List.mem_of_getElem? queued
  refine ⟨inbox, event, now, target ▸ found, there, sender, ?_⟩
  obtain number | text := repeats
  · -- the number is of one request only, and that has one text
    have mine : own event.senderEndpointId := by
      have known := traced.senders request asks
      rwa [← sender] at known
    obtain ⟨other, known, from', numbered, text⟩ :=
      traced.origin id inbox found event now there mine
    have one : other = request :=
      traced.numbered.unique unspent known asks (from'.trans sender) (numbered.trans number)
    rw [← text, one]
  · exact text

theorem isSuccess_of_readAck {requestId : UInt64} {status : AckStatus}
    (read : readAck requestId (.ack requestId status) = .ok ()) : status.IsSuccess := by
  cases status with
  | queued => exact .inl rfl
  | duplicate => exact .inr rfl
  | busy => simp [readAck] at read
  | invalid => simp [readAck] at read
  | expired => simp [readAck] at read

theorem Traced.init : Traced own (World.init : World EndpointId) where
  mine := by simp [World.init]
  idle := by simp [World.init, World.requests, begun]
  senders := by simp [World.init, World.requests]
  message := by simp [World.init, World.requests]
  numbered := by simp [World.init, World.requests, Numbered]
  counter := by simp [World.init]
  origin := by simp [World.init]
  answers := by simp [World.init]
  results := by simp [World.init]

theorem Traced.starts (traced : Traced own world) {id : EndpointId} {peerKey displayName : String}
    {inbox : NearbyInviteInbox EndpointId} (mine : own id) (absent : world.inboxes id = none)
    (started : startNearbyInviteInbox peerKey displayName = .ok inbox) :
    Traced own { world with
      inboxes := Function.update world.inboxes id (some (.opened inbox)) } where
  mine := forall_update (fun id _ => own id) traced.mine mine
  idle := by
    intro other none
    by_cases here : other = id
    · subst here
      exact traced.idle other absent
    · exact traced.idle other ((Function.update_of_ne here ..).symm.trans none)
  senders := traced.senders
  message := traced.message
  numbered := traced.numbered
  counter := by
    refine forall_update (fun id inbox => begun world.requests id < 2 ^ 64 - 1 →
      inbox.nextRequestId.toNat = begun world.requests id + 1) traced.counter fun _ => ?_
    simp only [startNearbyInviteInbox, bind_eq_ok, pure_eq_ok] at started
    obtain ⟨_, _, _, _, rfl⟩ := started
    rw [traced.idle id absent]
    rfl
  origin := forall_update (fun _ inbox => ∀ event now, (event, now) ∈ inbox.queued →
      own event.senderEndpointId → Originates world.requests event) traced.origin (by
        simp [Recorded.opened])
  answers := by
    intro call listed answer answered
    obtain ⟨status, same, delivers⟩ := traced.answers call listed answer answered
    refine ⟨status, same, fun unspent success =>
      (delivers unspent success).update fun old there => ?_⟩
    rw [absent] at there
    cases there
  results := traced.results

/-- The counter after a number was taken, while there are numbers left. -/
theorem takeRequestId_eq {counter : UInt64} {count : Nat} (next : counter.toNat = count + 1) :
    takeRequestId counter = (counter, counter + 1) := by
  have positive : counter ≠ 0 := by
    rintro rfl
    simp at next
  rw [takeRequestId, if_neg positive]

theorem Numbered.append {requests : List (Request EndpointId)} (numbered : Numbered requests)
    {request : Request EndpointId}
    (next : begun requests request.sender < 2 ^ 64 - 1 →
      request.requestId.toNat = begun requests request.sender + 1) :
    Numbered (requests ++ [request]) := by
  intro place other found
  obtain earlier | ⟨rfl, rfl⟩ := Roster.getElem?_append_one.mp found
  · have inside := (List.getElem?_eq_some_iff.mp earlier).1
    rw [List.take_append_of_le_length (Nat.le_of_lt inside)]
    exact numbered place other earlier
  · rw [List.take_append_of_le_length (Nat.le_refl _), List.take_length]
    exact next

/-- One more request, under the number that its sender takes from its counter. -/
theorem Traced.ask (traced : Traced own world) {request : Request EndpointId}
    {inbox changed : Recorded EndpointId} (found : world.inboxes request.sender = some inbox)
    (message : ∃ peerKey displayName, request.message =
      .request request.requestId peerKey displayName request.invite)
    (number : (request.requestId, changed.nextRequestId) = takeRequestId inbox.nextRequestId)
    (queued : changed.queued = inbox.queued) :
    Traced own {
      inboxes := Function.update world.inboxes request.sender (some changed)
      calls := world.calls ++ [{ request with answer := none, result := none }] } := by
  have requests : World.requests {
      inboxes := Function.update world.inboxes request.sender (some changed)
      calls := world.calls ++ [{ request with answer := none, result := none }] } =
          world.requests ++ [request] := by
    rw [World.requests, List.map_append]
    rfl
  have counter := traced.counter request.sender inbox found
  have grows (other : Request EndpointId) (delivered : Delivered world.inboxes other) :
      Delivered (Function.update world.inboxes request.sender (some changed)) other := by
    refine delivered.update fun old there => ?_
    rw [found] at there
    cases there
    rw [queued]
    exact List.Subset.refl _
  refine ⟨forall_update (fun id _ => own id) traced.mine (traced.mine _ _ found), ?_, ?_, ?_, ?_,
    ?_, ?_, ?_, ?_⟩
  · intro id absent
    have other : request.sender ≠ id := by
      rintro rfl
      have filled :=
        (Function.update_self request.sender (some changed) world.inboxes).symm.trans absent
      cases filled
    rw [requests, begun_append_one, if_neg other]
    exact traced.idle id ((Function.update_of_ne (Ne.symm other) ..).symm.trans absent)
  · rw [requests]
    intro other listed
    obtain earlier | last := List.mem_append.mp listed
    · exact traced.senders other earlier
    · rw [List.mem_singleton.mp last]
      exact traced.mine _ _ found
  · rw [requests]
    intro other listed
    obtain earlier | last := List.mem_append.mp listed
    · exact traced.message other earlier
    · rw [List.mem_singleton.mp last]
      exact message
  · rw [requests]
    refine traced.numbered.append fun small => ?_
    -- the counter has not wrapped, so the number is one more than the requests before
    rw [takeRequestId_eq (counter small)] at number
    rw [(Prod.mk.inj number).1]
    exact counter small
  · rw [requests]
    intro id other there small
    by_cases here : id = request.sender
    · subst here
      have same :=
        (Function.update_self request.sender (some changed) world.inboxes).symm.trans there
      cases same
      rw [begun_append_one, if_pos rfl] at small ⊢
      have next := counter (by omega)
      rw [takeRequestId_eq next] at number
      rw [(Prod.mk.inj number).2, UInt64.toNat_add, next]
      have one : (1 : UInt64).toNat = 1 := rfl
      rw [one, Nat.mod_eq_of_lt (by omega)]
    · rw [begun_append_one, if_neg (Ne.symm here)] at small ⊢
      exact traced.counter id other ((Function.update_of_ne here ..).symm.trans there) small
  · rw [requests]
    refine forall_update (fun _ inbox => ∀ event now, (event, now) ∈ inbox.queued →
      own event.senderEndpointId → Originates (world.requests ++ [request]) event) ?_ ?_
    · exact fun id other there event now listed mine =>
        (traced.origin id other there event now listed mine).append
    · rw [queued]
      exact fun event now listed mine => (traced.origin _ _ found event now listed mine).append
  · rw [requests]
    intro call listed answer answered
    obtain earlier | last := List.mem_append.mp listed
    · obtain ⟨status, same, delivers⟩ := traced.answers call earlier answer answered
      exact ⟨status, same, fun unspent success => grows _ (delivers unspent.of_append success)⟩
    · rw [List.mem_singleton.mp last] at answered
      cases answered
  · intro call listed done
    obtain earlier | last := List.mem_append.mp listed
    · exact traced.results call earlier done
    · rw [List.mem_singleton.mp last] at done
      cases done

theorem Traced.sends (traced : Traced own world) {sender target : EndpointId} {invite : String}
    {parsing validating : Clock} {requestId : UInt64} {message : WireMessage}
    {inbox : Recorded EndpointId} {opened : NearbyInviteInbox EndpointId}
    (found : world.inboxes sender = some inbox)
    (opens : inbox.openRequest sender target invite parsing validating =
      .ok (requestId, message, opened)) :
    Traced own {
      inboxes :=
        Function.update world.inboxes sender
          (some { inbox with nextRequestId := opened.nextRequestId })
      calls :=
        world.calls ++
          [{ sender, target, requestId, message, invite, answer := none, result := none }] } := by
  simp only [NearbyInviteInbox.openRequest, bind_eq_ok, pure_eq_ok, Prod.mk.injEq] at opens
  obtain ⟨_, -, _, -, _, -, rfl, rfl, rfl⟩ := opens
  exact @Traced.ask _ _ _ _ traced ⟨sender, target, _, _, invite⟩ inbox _ found ⟨_, _, rfl⟩ rfl rfl

theorem traced_step {next : World EndpointId} (step : Step own world next)
    (traced : Traced own world) (sound : ∀ id inbox, world.inboxes id = some inbox → Sound inbox) :
      Traced own next := by
  cases step with
  | starts mine absent started => exact traced.starts mine absent started
  | sends found opens => exact traced.sends found opens
  | @answers place call inbox parsing validating enqueuing answer recent incoming waiting fresh
      found answered =>
    have listed : call ∈ world.calls := List.mem_of_getElem? waiting
    have asks : call.toRequest ∈ world.requests := List.mem_map_of_mem listed
    obtain ⟨_, _, asked⟩ := traced.message _ asks
    obtain ⟨keeps, new, status, rfl, queued, duplicate⟩ := mem_after answered asked
    have updated : Traced own { world with
        inboxes :=
          Function.update world.inboxes call.target
            (some (inbox.after (.ack call.requestId status) recent
          incoming enqueuing)) } := by
      refine traced.update found rfl keeps fun event now there => (new event now there).imp_right ?_
      rintro ⟨from', number, text⟩ -
      exact ⟨call.toRequest, asks, from'.symm, number.symm, text.symm⟩
    refine updated.set waiting rfl ?_ ?_
    · rintro _ ⟨⟩
      refine ⟨status, rfl, fun unspent => ?_⟩
      rintro (success | success)
      -- told that it is queued: this very answer has queued it
      · obtain ⟨event, now, there, from', text⟩ := queued success
        exact ⟨_, event, now, Function.update_self .., there, from', text⟩
      -- told that it is known: it was queued by an earlier answer
      · obtain ⟨entry, known, from', repeats⟩ := duplicate success
        have delivered :=
          traced.delivered_of_recent unspent found (sound _ _ found) asks rfl known from' repeats
        refine delivered.update fun old there => ?_
        rw [found] at there
        cases there
        exact keeps
    · intro done
      obtain ⟨_, before, -⟩ := traced.results call listed done
      rw [fresh] at before
      cases before
  | @intrudes stranger target message answer inbox parsing validating enqueuing recent incoming
      foreign found answered =>
    obtain ⟨requestId, peerKey, displayName, invite, _, asked, -⟩ := answerRequest_cases answered
    obtain ⟨keeps, new, -⟩ := mem_after answered asked
    refine traced.update found rfl keeps fun event now there => (new event now there).imp_right ?_
    rintro ⟨from', -⟩ mine
    exact absurd (from' ▸ mine) foreign
  | @acknowledges place call answer waiting pending answered =>
    have listed : call ∈ world.calls := List.mem_of_getElem? waiting
    refine traced.set waiting rfl (traced.answers call listed) fun success => ?_
    obtain ⟨status, rfl, -⟩ := traced.answers call listed answer answered
    exact ⟨status, answered, isSuccess_of_readAck (Option.some.inj success)⟩
  | @loses place call error waiting pending =>
    have listed : call ∈ world.calls := List.mem_of_getElem? waiting
    exact traced.set waiting rfl (traced.answers call listed) (by simp)
  | receives found took =>
    exact traced.update found rfl (List.Subset.refl _) fun _ _ there => .inl there
  | closes found => exact traced.update found rfl (List.Subset.refl _) fun _ _ there => .inl there
  | drains found closed =>
    exact traced.update found rfl (List.Subset.refl _) fun _ _ there => .inl there

theorem traced_of_reachable (reachable : Reachable own world) : Traced own world := by
  induction reachable with
  | refl => exact .init
  | tail before step ih => exact traced_step step ih (sound_of_reachable before)

/-- Whoever is told that its invitation has arrived has had it queued, with its text and under its
own endpoint, however requests, answers and losses interleave. -/
theorem send_invite_ok_delivers (own : EndpointId → Prop) (world : World EndpointId)
    (reachable : Reachable own world) (unspent : Unspent world.requests) (call : Call EndpointId)
    (listed : call ∈ world.calls) (done : call.result = some (.ok ())) :
    Delivered world.inboxes call.toRequest := by
  have traced := traced_of_reachable reachable
  obtain ⟨status, answered, success⟩ := traced.results call listed done
  obtain ⟨other, same, delivers⟩ := traced.answers call listed _ answered
  cases same
  exact delivers unspent success

/-! ## One delivery -/

def sampleInbox : NearbyInviteInbox Bool where
  incoming := ⟨[], false⟩
  recent := []
  senderPeerKey := "0011223344556677"
  senderDisplayName := "Sender"
  nextRequestId := 1
  closed := false

theorem sampleInbox_started :
    startNearbyInviteInbox "0011223344556677" "Sender" = .ok sampleInbox := rfl

/-- Two inboxes, and an invitation that goes from one to the other. -/
theorem exists_delivery : ∃ world : World Bool, Reachable (fun _ => True) world ∧
    Unspent world.requests ∧ (∃ call ∈ world.calls, call.result = some (.ok ())) ∧
      ∃ inbox, world.inboxes true = some inbox := by
  have opens :
      (Recorded.opened sampleInbox).openRequest false true Room.plainInvite.payload (some 0)
      (some 0) =
      .ok (1, .request 1 "0011223344556677" "Sender" Room.plainInvite.payload,
        { sampleInbox with nextRequestId := 2 }) := by
    have validates := plainInvite_validates
    simp only [NearbyInviteInbox.openRequest, validates]
    rfl
  have answered : ∃ left after, answerRequest [] ⟨[], false⟩ false
      (.request 1 "0011223344556677" "Sender" Room.plainInvite.payload) (some 0) (some 0) (some 0) =
        .ok (.ack 1 .queued, left, after) := by
    have validates := plainInvite_validates
    have normalized :
      normalizedSender 1 "0011223344556677" "Sender" = some ("0011223344556677", "Sender") := rfl
    simp only [answerRequest, normalized, validates]
    exact ⟨_, _, rfl⟩
  obtain ⟨left, after, answered⟩ := answered
  have first := Relation.ReflTransGen.single
    (@Step.starts Bool _ (fun _ => True) World.init false _ _ _ trivial rfl sampleInbox_started)
  have second := first.tail (@Step.starts Bool _ _ _ true _ _ _ trivial rfl sampleInbox_started)
  have third :=
    second.tail (@Step.sends Bool _ _ _ false true _ _ _ _ _ (.opened sampleInbox) _ rfl opens)
  have fourth := third.tail
    (@Step.answers Bool _ _ _ 0 _ (.opened sampleInbox) _ _ _ _ _ _ rfl rfl rfl answered)
  have fifth := fourth.tail (@Step.acknowledges Bool _ _ _ 0 _ _ rfl rfl rfl)
  refine ⟨_, fifth, ?_, ⟨_, List.mem_cons_self, rfl⟩, _, rfl⟩
  intro id
  refine Nat.lt_of_le_of_lt List.countP_le_length ?_
  simp [World.requests, World.init]

theorem send_invite_ok_delivers_once : ∃ (world : World Bool) (call : Call Bool),
    Reachable (fun _ => True) world ∧
    call ∈ world.calls ∧ call.result = some (.ok ()) ∧ Delivered world.inboxes call.toRequest := by
  obtain ⟨world, reachable, unspent, ⟨call, listed, done⟩, -⟩ := exists_delivery
  exact ⟨world, call, reachable, listed, done,
    send_invite_ok_delivers _ world reachable unspent call listed done⟩

end Envoix.Nearby.Delivery
