import Envoix.Room.OfferEffects
import Envoix.Invite.Codec

/-! # The offer protocol of a room

An offer that waits for its answer is in one place: with a call that is going to write it, on the
stream, before the peer's user, with a call that is going to write the answer, or, as an answer, on
the stream back.  The observations of either direction are therefore complete rounds, one after the
other, and the beginning of at most one more. -/

namespace Envoix.Room

open ByteCodec Fallible
open Envoix.Invite (Libraries)

/-! ## Rounds -/

/-- One offer and what became of it. -/
inductive Round where
  /-- the peer's user saw the offer and answered -/
  | decided (answer : Answer)
  /-- the peer turned the offer away -/
  | refused (offerId : String) (reason : RoomOfferRejection)
deriving DecidableEq

namespace Round

def answer : Round → Answer
  | .decided answer => answer
  | .refused offerId reason => (offerId, some reason)

/-- Up to the answer. -/
def opening : Round → List Exchange
  | .decided answer => [.offered answer.1, .presented answer.1, .decided answer]
  | .refused offerId _ => [.offered offerId]

def exchanges (round : Round) : List Exchange :=
  round.opening ++ [.responded round.answer, .concluded round.answer]

end Round

/-- Where the offer of a side is that has no answer yet. -/
inductive Progress where
  | idle
  | requested (offerId : String)
  | offered (offerId : String)
  | presented (offerId : String)
  /-- the answer is with a call of the peer -/
  | answered (round : Round)
  /-- the answer is on the stream -/
  | responded (round : Round)

namespace Progress

def pending : Progress → Option String
  | .idle => none
  | .requested offerId | .offered offerId | .presented offerId => some offerId
  | .answered round | .responded round => some round.answer.1

def exchanges : Progress → List Exchange
  | .idle | .requested _ => []
  | .offered offerId => [.offered offerId]
  | .presented offerId => [.offered offerId, .presented offerId]
  | .answered round => round.opening
  | .responded round => round.opening ++ [.responded round.answer]

def requests : Progress → Multiset String
  | .requested offerId => {offerId}
  | _ => 0

def offers : Progress → Multiset String
  | .offered offerId => {offerId}
  | _ => 0

def decisions : Progress → Multiset Answer
  | .answered round => {round.answer}
  | _ => 0

def answers : Progress → Multiset Answer
  | .responded round => {round.answer}
  | _ => 0

end Progress

/-! ## One direction -/

/-- The offers of one side, wherever they are, and what has been observed of them. -/
structure View where
  pendingLocal : Option String
  requests : Multiset String
  offers : Multiset String
  pendingRemote : Option String
  decisions : Multiset Answer
  answers : Multiset Answer
  exchanges : List Exchange

def exchange (offerer : Side) (observation : Side × SessionEvent) : Option Exchange :=
  if observation.1 = offerer then asOfferer observation.2 else asResponder observation.2

def RoomPair.view (room : RoomPair) (offerer : Side) : View where
  pendingLocal := (room.session offerer).offers.pendingLocal
  requests := (room.session offerer).dues.1
  offers := ((room.inbox offerer.peer).map fun message => message.dues.1).sum
  pendingRemote := (room.session offerer.peer).offers.pendingRemote
  decisions := (room.session offerer.peer).dues.2.1
  answers := ((room.inbox offerer).map fun message => message.dues.2.1).sum
  exchanges := room.history.filterMap (exchange offerer)

/-- Nothing of an offer is anywhere but where its progress says. -/
structure View.At (view : View) (progress : Progress) : Prop where
  pendingLocal : view.pendingLocal = progress.pending
  requests : view.requests ≤ progress.requests
  offers : view.offers ≤ progress.offers
  pendingRemote : ∀ offerId, view.pendingRemote = some offerId → progress = .presented offerId
  decisions : view.decisions ≤ progress.decisions
  answers : view.answers ≤ progress.answers

/-- The observations are complete rounds and the beginning of one more. -/
def View.Orderly (view : View) : Prop :=
  ∃ (progress : Progress) (rounds : List Round), view.At progress ∧
    view.exchanges = rounds.flatMap Round.exchanges ++ progress.exchanges

theorem cons_le_singleton {α : Type} {a b : α} {rest : Multiset α} (le : a ::ₘ rest ≤ {b}) :
    a = b ∧ rest = 0 := by
  have sized := Multiset.card_le_card le
  rw [Multiset.card_cons, Multiset.card_singleton] at sized
  have none : rest = 0 := Multiset.card_eq_zero.mp (by omega)
  exact ⟨Multiset.mem_singleton.mp (Multiset.mem_of_le le (Multiset.mem_cons_self ..)), none⟩

namespace Progress

variable {progress : Progress}

theorem eq_idle (free : progress.pending = none) : progress = .idle := by
  cases progress <;> first | rfl | cases free

theorem eq_requested {offerId : String} {rest : Multiset String}
    (owed : offerId ::ₘ rest ≤ progress.requests) :
    progress = .requested offerId ∧ rest = 0 := by
  cases progress with
  | requested other =>
    obtain ⟨same, none⟩ := cons_le_singleton owed
    exact ⟨congrArg _ same.symm, none⟩
  | _ => exact absurd (Multiset.le_zero.mp owed) (Multiset.cons_ne_zero)

theorem eq_offered {offerId : String} {rest : Multiset String}
    (owed : offerId ::ₘ rest ≤ progress.offers) :
    progress = .offered offerId ∧ rest = 0 := by
  cases progress with
  | offered other =>
    obtain ⟨same, none⟩ := cons_le_singleton owed
    exact ⟨congrArg _ same.symm, none⟩
  | _ => exact absurd (Multiset.le_zero.mp owed) (Multiset.cons_ne_zero)

theorem eq_answered {answer : Answer} {rest : Multiset Answer}
    (owed : answer ::ₘ rest ≤ progress.decisions) :
    ∃ round : Round, progress = .answered round ∧ round.answer = answer ∧ rest = 0 := by
  cases progress with
  | answered round =>
    obtain ⟨same, none⟩ := cons_le_singleton owed
    exact ⟨round, rfl, same.symm, none⟩
  | _ => exact absurd (Multiset.le_zero.mp owed) (Multiset.cons_ne_zero)

theorem eq_responded {answer : Answer} {rest : Multiset Answer}
    (owed : answer ::ₘ rest ≤ progress.answers) :
    ∃ round : Round, progress = .responded round ∧ round.answer = answer ∧ rest = 0 := by
  cases progress with
  | responded round =>
    obtain ⟨same, none⟩ := cons_le_singleton owed
    exact ⟨round, rfl, same.symm, none⟩
  | _ => exact absurd (Multiset.le_zero.mp owed) (Multiset.cons_ne_zero)

end Progress

/-! ### Steps of the two sides -/

/-- The offers of a side after it took a step. -/
def View.offererTook (view : View) (traffic : Traffic) (after : OfferView)
    (answers : Multiset Answer) : View :=
  { view with
    pendingLocal := after.offers.pendingLocal
    requests := after.requests
    offers := view.offers + traffic.offersWritten
    answers
    exchanges := view.exchanges ++ traffic.asOfferer }

/-- The offers of a side after its peer took a step. -/
def View.responderTook (view : View) (traffic : Traffic) (after : OfferView)
    (offers : Multiset String) : View :=
  { view with
    pendingRemote := after.offers.pendingRemote
    decisions := after.decisions
    answers := view.answers + traffic.answersWritten
    offers
    exchanges := view.exchanges ++ traffic.asResponder }

theorem View.Orderly.offererTook {view : View} {traffic : Traffic} {before after : OfferView}
    {rest : Multiset Answer} (orderly : view.Orderly) (effect : OfferEffect before traffic after)
    (pending : before.offers.pendingLocal = view.pendingLocal)
    (requests : before.requests = view.requests)
    (arrived : view.answers = traffic.answersRead + rest) :
    (view.offererTook traffic after rest).Orderly := by
  obtain ⟨progress, rounds, located, observed⟩ := orderly
  -- The responder's effects leave what the view has of the offerer.
  have unchanged (sameLocal : after.offers.pendingLocal = before.offers.pendingLocal)
    (sameRequests : after.requests = before.requests)
      (wrote : traffic.offersWritten = 0) (read : traffic.answersRead = 0)
        (said : traffic.asOfferer = []) :
      (view.offererTook traffic after rest).Orderly := by
    refine ⟨progress, rounds, ⟨?_, ?_, ?_, located.pendingRemote, located.decisions, ?_⟩, ?_⟩
    · exact sameLocal.trans (pending.trans located.pendingLocal)
    · exact (sameRequests.trans requests).le.trans located.requests
    · simpa [View.offererTook, wrote] using located.offers
    · simpa [View.offererTook, arrived, read] using located.answers
    · simpa [View.offererTook, said] using observed
  cases effect with
  | quiet => exact unchanged rfl rfl rfl rfl rfl
  | presents offerId free none fresh => exact unchanged rfl rfl rfl rfl rfl
  | refuses offerId reason => exact unchanged rfl rfl rfl rfl rfl
  | decides answer shown => exact unchanged rfl rfl rfl rfl rfl
  | responds answer others owed => exact unchanged rfl rfl rfl rfl rfl
  | forgoes answer others owed => exact unchanged rfl rfl rfl rfl rfl
  | registers offerId free none fresh =>
    -- the offerer's slot is free, so no round is open
    have idle : progress = .idle :=
      Progress.eq_idle (by rw [← located.pendingLocal, ← pending, free])
    subst idle
    have none : view.requests = 0 := Multiset.le_zero.mp located.requests
    refine ⟨.requested offerId, rounds, ⟨rfl, ?_, ?_, ?_, located.decisions, ?_⟩, ?_⟩
    · simp [View.offererTook, requests, none, Progress.requests]
    · exact (add_zero _).le.trans located.offers
    · intro other shown
      cases located.pendingRemote other shown
    · have answers := located.answers
      rwa [arrived, Traffic.none, zero_add] at answers
    · simpa [View.offererTook, Traffic.none, Progress.exchanges] using observed
  | withdraws offerId others owed =>
    have asked := located.requests
    rw [← requests, owed] at asked
    obtain ⟨rfl, none⟩ := Progress.eq_requested asked
    subst none
    refine ⟨.idle, rounds, ⟨rfl, le_refl _, ?_, ?_, located.decisions, ?_⟩, ?_⟩
    · exact (add_zero _).le.trans located.offers
    · intro other shown
      cases located.pendingRemote other shown
    · have answers := located.answers
      rwa [arrived, Traffic.none, zero_add] at answers
    · simpa [View.offererTook, Traffic.none, Progress.exchanges] using observed
  | offers offerId others owed =>
    have asked := located.requests
    rw [← requests, owed] at asked
    obtain ⟨rfl, none⟩ := Progress.eq_requested asked
    subst none
    have offers : view.offers = 0 := Multiset.le_zero.mp located.offers
    refine ⟨.offered offerId, rounds, ⟨?_, le_refl _, ?_, ?_, located.decisions, ?_⟩, ?_⟩
    · exact pending.trans located.pendingLocal
    · simp [View.offererTook, offers, Progress.offers]
    · intro other shown
      cases located.pendingRemote other shown
    · have answers := located.answers
      rwa [arrived, Traffic.none, zero_add] at answers
    · simpa [View.offererTook, Progress.exchanges] using observed
  -- the answer that the round wrote is read, and the round joins the finished ones
  | concludes answer expected =>
    have there := located.answers
    rw [arrived] at there
    obtain ⟨round, rfl, same, none⟩ := Progress.eq_responded there
    subst same none
    refine ⟨.idle, rounds ++ [round], ⟨rfl, ?_, ?_, ?_, located.decisions, le_refl _⟩, ?_⟩
    · exact requests.le.trans located.requests
    · exact (add_zero _).le.trans located.offers
    · intro other shown
      cases located.pendingRemote other shown
    · simp [View.offererTook, observed, Progress.exchanges, Round.exchanges]
  | unknown answer unexpected =>
    -- an answer on the stream is the answer to what waits
    have there := located.answers
    rw [arrived] at there
    obtain ⟨round, rfl, same, none⟩ := Progress.eq_responded there
    refine absurd (pending.trans (located.pendingLocal.trans ?_)) unexpected
    rw [Progress.pending, same]

theorem View.Orderly.responderTook {view : View} {traffic : Traffic} {before after : OfferView}
    {rest : Multiset String} (orderly : view.Orderly) (effect : OfferEffect before traffic after)
    (pending : before.offers.pendingRemote = view.pendingRemote)
    (decisions : before.decisions = view.decisions)
    (arrived : view.offers = traffic.offersRead + rest) :
    (view.responderTook traffic after rest).Orderly := by
  obtain ⟨progress, rounds, located, observed⟩ := orderly
  have unchanged (sameRemote : after.offers.pendingRemote = before.offers.pendingRemote)
      (sameDecisions : after.decisions = before.decisions) (wrote : traffic.answersWritten = 0)
      (read : traffic.offersRead = 0) (said : traffic.asResponder = []) :
      (view.responderTook traffic after rest).Orderly := by
    refine ⟨progress, rounds, ⟨located.pendingLocal, located.requests, ?_, ?_, ?_, ?_⟩, ?_⟩
    · simpa [View.responderTook, arrived, read] using located.offers
    · intro offerId shown
      exact located.pendingRemote offerId (pending.symm.trans (sameRemote.symm.trans shown))
    · exact (sameDecisions.trans decisions).le.trans located.decisions
    · simpa [View.responderTook, wrote] using located.answers
    · simpa [View.responderTook, said] using observed
  cases effect with
  | quiet => exact unchanged rfl rfl rfl rfl rfl
  | registers offerId free none fresh => exact unchanged rfl rfl rfl rfl rfl
  | withdraws offerId others owed => exact unchanged rfl rfl rfl rfl rfl
  | offers offerId others owed => exact unchanged rfl rfl rfl rfl rfl
  | concludes answer expected => exact unchanged rfl rfl rfl rfl rfl
  | unknown answer unexpected => exact unchanged rfl rfl rfl rfl rfl
  -- an offer on the stream is the one of the open round
  | presents offerId free none fresh =>
    have there := located.offers
    rw [arrived] at there
    obtain ⟨rfl, none⟩ := Progress.eq_offered there
    subst none
    refine ⟨.presented offerId, rounds,
      ⟨located.pendingLocal, located.requests, le_refl _, ?_, ?_, ?_⟩, ?_⟩
    · intro other shown
      rw [Option.some.inj shown]
    · exact decisions.le.trans located.decisions
    · exact (add_zero _).le.trans located.answers
    · simp [View.responderTook, observed, Progress.exchanges]
  | refuses offerId reason =>
    have there := located.offers
    rw [arrived] at there
    obtain ⟨rfl, none⟩ := Progress.eq_offered there
    subst none
    have undecided : view.decisions = 0 := Multiset.le_zero.mp located.decisions
    refine ⟨.answered (.refused offerId reason), rounds,
      ⟨located.pendingLocal, located.requests, le_refl _, ?_, ?_, ?_⟩, ?_⟩
    · intro other shown
      cases located.pendingRemote other (pending.symm.trans shown)
    · simp [View.responderTook, decisions, undecided, Progress.decisions, Round.answer]
    · exact (add_zero _).le.trans located.answers
    · simp [View.responderTook, Traffic.none, observed, Progress.exchanges, Round.opening]
  | decides answer shown =>
    have presented := located.pendingRemote answer.1 (pending.symm.trans shown)
    subst presented
    have undecided : view.decisions = 0 := Multiset.le_zero.mp located.decisions
    refine ⟨.answered (.decided answer), rounds,
      ⟨located.pendingLocal, located.requests, ?_, ?_, ?_, ?_⟩, ?_⟩
    · have offers := located.offers
      rwa [arrived, Traffic.none, zero_add] at offers
    · exact (by intros; contradiction)
    · simp [View.responderTook, decisions, undecided, Progress.decisions, Round.answer]
    · exact (add_zero _).le.trans located.answers
    · simp [View.responderTook, observed, Progress.exchanges, Round.opening]
  | responds answer others owed =>
    have there := located.decisions
    rw [← decisions, owed] at there
    obtain ⟨round, rfl, same, none⟩ := Progress.eq_answered there
    subst same none
    have unanswered : view.answers = 0 := Multiset.le_zero.mp located.answers
    refine ⟨.responded round, rounds,
      ⟨located.pendingLocal, located.requests, ?_, ?_, le_refl _, ?_⟩, ?_⟩
    · have offers := located.offers
      rwa [arrived, Traffic.none, zero_add] at offers
    · intro other shown
      cases located.pendingRemote other (pending.symm.trans shown)
    · simp [View.responderTook, unanswered, Progress.answers]
    · simp [View.responderTook, observed, Progress.exchanges]
  | forgoes answer others owed =>
    refine ⟨progress, rounds, ⟨located.pendingLocal, located.requests, ?_, ?_, ?_, ?_⟩, ?_⟩
    · have offers := located.offers
      rwa [arrived, Traffic.none, zero_add] at offers
    · intro other shown
      exact located.pendingRemote other (pending.symm.trans shown)
    · have there := located.decisions
      rw [← decisions, owed] at there
      exact (Multiset.le_cons_self ..).trans there
    · exact (add_zero _).le.trans located.answers
    · simpa [View.responderTook, Traffic.none] using observed

/-! ## Rooms -/

namespace RoomPair

variable {room next : RoomPair}

/-- A resumed call of one side, with what it read, what it owed and what it did. -/
structure Moved (room next : RoomPair) (side : Side) where
  before : RoomControlSession
  owed : Dues
  received : Option ControlMessage
  rest : List ControlMessage
  outcome : Outcome
  offers : (room.session side).offers = before.offers
  dues : (room.session side).dues = owed + before.dues
  arrived : room.inbox side = received.toList ++ rest
  effect : before.Effect received owed outcome
  leads : next = (room.taken side rest).apply side outcome

/-- A call that reads nothing. -/
def Moved.silent {side : Side} {before : RoomControlSession} {owed : Dues} {outcome : Outcome}
    (effect : before.Effect none owed outcome) (offers : (room.session side).offers = before.offers)
    (dues : (room.session side).dues = owed + before.dues) :
    Moved room (room.apply side outcome) side :=
  ⟨before, owed, none, room.inbox side, outcome, offers, dues, rfl, effect, by rw [taken_all]⟩

theorem clean_of_add {owed dues : Dues} (clean : (owed + dues).Clean) : owed.Clean := by
  intro there
  exact clean (Multiset.mem_add.mpr (.inl there))

theorem dues_of_waiting {session : RoomControlSession} {update : Update} {rest : List Update}
    (first : session.waiting = update :: rest) :
    session.dues = update.dues + { session with waiting := rest }.dues := by
  simp only [RoomControlSession.dues, first, List.map_cons, List.sum_cons]
  abel

theorem dues_of_holding {session : RoomControlSession} {held : Holding}
    (holds : session.holding = some held) :
    session.dues = held.dues + { session with holding := none }.dues := by
  simp only [RoomControlSession.dues, holds, Option.map_some, Option.getD_some, Option.map_none,
    Option.getD_none]
  abel

theorem dues_of_calls {session : RoomControlSession} {call : Call} {others : Multiset Call}
    (inProgress : session.calls = call ::ₘ others) :
    session.dues = call.dues + { session with calls := others }.dues := by
  simp only [RoomControlSession.dues, inProgress, Multiset.map_cons, Multiset.sum_cons]
  abel

variable [Libraries]

theorem Step.moved (clean : ∀ side, (room.session side).dues.Clean) (step : Step room next) :
    ∃ side, Nonempty (Moved room next side) := by
  -- what the call that is resumed owes is clean, because its session is
  have sendingClean {side : Side} {letter : Letter} {after : Next} {others : Multiset Call}
      (inProgress : (room.session side).calls = .sending letter after ::ₘ others) :
          after.dues.Clean := by
    have mine := clean side
    rw [dues_of_calls inProgress, Call.dues, add_comm letter.message.dues, add_assoc] at mine
    exact clean_of_add mine
  cases step with
  | begins side request clock =>
    exact ⟨side, ⟨.silent (RoomControlSession.begin_effect request clock) rfl (zero_add _).symm⟩⟩
  | @grants side update rest clock free first =>
    have effect :=
      @RoomControlSession.granted_effect { room.session side with waiting := rest }
        free update clock
    exact ⟨side, ⟨.silent effect rfl (dues_of_waiting first)⟩⟩
  | writesHeld side holds connected =>
    exact ⟨side, ⟨.silent (RoomControlSession.heldWritten_effect _) rfl (dues_of_holding holds)⟩⟩
  | failsHeld side error holds gone =>
    exact ⟨side,
      ⟨.silent (RoomControlSession.heldFailed_effect _ error) rfl (dues_of_holding holds)⟩⟩
  | writesHint side inProgress connected =>
    exact ⟨side, ⟨.silent (RoomControlSession.hintWritten_effect _) rfl (dues_of_calls inProgress)⟩⟩
  | failsHint side error inProgress gone =>
    exact ⟨side,
      ⟨.silent (RoomControlSession.hintFailed_effect _ error) rfl (dues_of_calls inProgress)⟩⟩
  | writes side inProgress connected =>
    exact ⟨side, ⟨.silent (RoomControlSession.written_effect _ (sendingClean inProgress)) rfl
      (dues_of_calls inProgress)⟩⟩
  | fails side error inProgress gone =>
    exact ⟨side,
      ⟨.silent (RoomControlSession.writeFailed_effect _ (sendingClean inProgress) error) rfl
      (dues_of_calls inProgress)⟩⟩
  | @receives side message rest others clock inProgress arrived =>
    have effect :=
      @RoomControlSession.receive_effect { room.session side with calls := others } _ message clock
    exact ⟨side,
      ⟨⟨{ room.session side with calls := others }, 0, some message, rest, _, rfl,
        dues_of_calls inProgress, arrived, effect, rfl⟩⟩⟩
  | losesStream side error inProgress gone =>
    exact ⟨side, ⟨.silent (RoomControlSession.returning_error_effect (by simp [unknownOffer])) rfl
      (dues_of_calls inProgress)⟩⟩

omit [Libraries] in
theorem exchanges_apply (room : RoomPair) (side offerer : Side) (outcome : Outcome) :
    (room.apply side outcome).history.filterMap (exchange offerer) =
      room.history.filterMap (exchange offerer) ++
        outcome.observed.filterMap (if side = offerer then asOfferer else asResponder) := by
  have observed (events : List SessionEvent) :
      (events.map fun event => (side, event)).filterMap (exchange offerer) =
      events.filterMap (if side = offerer then asOfferer else asResponder) := by
    rw [List.filterMap_map]
    congr 1
    funext event
    by_cases own : side = offerer
    · simp [exchange, own]
    · simp [exchange, own]
  have wrote : (outcome.sent.map fun message => (side, SessionEvent.wrote message)) =
      (outcome.sent.map SessionEvent.wrote).map fun event => (side, event) := by
    rw [List.map_map]
    rfl
  simp only [apply, List.filterMap_append, wrote, observed, Outcome.observed, List.append_assoc]

omit [Libraries] in
/-- The offers of the side that moved. -/
theorem Moved.view_offerer {side : Side} (moved : Moved room next side) :
    next.view side = (room.view side).offererTook (traffic moved.received moved.outcome)
      (moved.outcome.session.offerView 0)
        ((moved.rest.map fun message => message.dues.2.1).sum) := by
  obtain ⟨before, owed, received, rest, outcome, offers, dues, arrived, effect, leads⟩ := moved
  subst leads
  have exchanges := exchanges_apply (room.taken side rest) side side outcome
  rw [if_pos rfl] at exchanges
  simp only [view, exchanges]
  simp [View.offererTook, apply, taken, traffic, RoomControlSession.offerView]

omit [Libraries] in
/-- The offers of the other side. -/
theorem Moved.view_responder {side : Side} (moved : Moved room next side) :
    next.view side.peer = (room.view side.peer).responderTook (traffic moved.received moved.outcome)
      (moved.outcome.session.offerView 0) ((moved.rest.map fun message => message.dues.1).sum) := by
  obtain ⟨before, owed, received, rest, outcome, offers, dues, arrived, effect, leads⟩ := moved
  subst leads
  have exchanges := exchanges_apply (room.taken side rest) side side.peer outcome
  rw [if_neg side.ne_peer] at exchanges
  simp only [view, exchanges]
  simp [View.responderTook, apply, taken, traffic, RoomControlSession.offerView]

/-! ## Memory -/

/-- The ids that a side remembered, in order. -/
def rememberedIds (side : Side) (history : List (Side × SessionEvent)) : List String :=
  history.filterMap fun observation => if observation.1 = side then
    remembers observation.2 else none

end RoomPair

/-- The newest of the remembered ids are the ones a session knows, and no id was remembered again
before that many others were. -/
structure OfferState.Recalls (offers : OfferState) (ids : List String) : Prop where
  seen : offers.seen = offers.seenOrder.toFinset
  order : offers.seenOrder = ids.drop (ids.length - maxSeenOfferIds)
  distinct : ∀ before window after, ids = before ++ window ++ after →
    window.length ≤ maxSeenOfferIds → window.Nodup

namespace OfferState

theorem dropOldest_toFinset {order : List String} (distinct : order.Nodup) :
    dropOldest order.toFinset order =
      ((order.drop (order.length - maxSeenOfferIds)).toFinset,
        order.drop (order.length - maxSeenOfferIds)) := by
  induction order with
  | nil => rfl
  | cons expired rest ih =>
    obtain ⟨once, distinct⟩ := List.nodup_cons.mp distinct
    rw [dropOldest]
    split
    next many =>
      have others : (expired :: rest).toFinset.erase expired = rest.toFinset := by
        rw [List.toFinset_cons, Finset.erase_insert (by simpa using once)]
      have shorter :
          (expired :: rest).length - maxSeenOfferIds = rest.length - maxSeenOfferIds + 1 := by
        simp only [List.length_cons] at many ⊢
        omega
      rw [others, ih distinct, shorter, List.drop_succ_cons]
    next few =>
      rw [Nat.sub_eq_zero_of_le (by omega), List.drop_zero]

variable {offers : OfferState} {ids : List String} {offerId : String}

theorem Recalls.distinct_order (recalls : offers.Recalls ids) : offers.seenOrder.Nodup := by
  have split : ids = ids.take (ids.length - maxSeenOfferIds) ++
      ids.drop (ids.length - maxSeenOfferIds) ++ [] := by
    rw [List.append_nil, List.take_append_drop]
  rw [recalls.order]
  refine recalls.distinct _ _ _ split ?_
  rw [List.length_drop]
  omega

/-- A short end of the remembered ids is among those the session knows. -/
theorem Recalls.mem_seen (recalls : offers.Recalls ids) {before window : List String}
    (split : ids = before ++ window) (short : window.length ≤ maxSeenOfferIds) {offerId : String}
    (there : offerId ∈ window) : offerId ∈ offers.seen := by
  rw [recalls.seen, List.mem_toFinset, recalls.order, split, List.length_append]
  have fewer : before.length + window.length - maxSeenOfferIds ≤ before.length := by omega
  rw [List.drop_append_of_le_length fewer]
  exact List.mem_append_right _ there

theorem Recalls.remember (recalls : offers.Recalls ids) (fresh : offerId ∉ offers.seen) :
    (offers.remember offerId).Recalls (ids ++ [offerId]) := by
  have unseen : offerId ∉ offers.seenOrder := by
    intro there
    exact fresh (by rw [recalls.seen]; exact List.mem_toFinset.mpr there)
  have distinct : (offers.seenOrder ++ [offerId]).Nodup :=
    List.nodup_append_comm.mp (List.nodup_cons.mpr ⟨unseen, recalls.distinct_order⟩)
  have sized : offers.seenOrder.length = min ids.length maxSeenOfferIds := by
    rw [recalls.order, List.length_drop]
    omega
  have inserted : insert offerId offers.seen = (offers.seenOrder ++ [offerId]).toFinset := by
    rw [recalls.seen]
    ext other
    simp
  have remembered : ((offers.remember offerId).seen, (offers.remember offerId).seenOrder) =
      dropOldest (offers.seenOrder ++ [offerId]).toFinset (offers.seenOrder ++ [offerId]) := by
    rw [← inserted]
    simp [OfferState.remember, fresh]
  rw [dropOldest_toFinset distinct, Prod.mk.injEq] at remembered
  obtain ⟨seen, order⟩ := remembered
  refine ⟨by rw [seen, order], ?_, ?_⟩
  · have whole : ids.drop (ids.length - maxSeenOfferIds) ++ [offerId] =
        (ids ++ [offerId]).drop (ids.length - maxSeenOfferIds) :=
      (List.drop_append_of_le_length (Nat.sub_le ..)).symm
    have shift :
        ids.length - maxSeenOfferIds + (min ids.length maxSeenOfferIds + 1 - maxSeenOfferIds) =
        ids.length + 1 - maxSeenOfferIds := by
      omega
    rw [order, List.length_append, sized, recalls.order, whole, List.drop_drop, List.length_append,
      List.length_singleton, shift]
  · intro before window after split short
    cases List.eq_nil_or_concat after with
    | inl last =>
      subst last
      rw [List.append_nil] at split
      cases List.eq_nil_or_concat window with
      | inl empty =>
        subst empty
        exact List.nodup_nil
      | inr more =>
        obtain ⟨earlier, newest, same⟩ := more
        subst same
        rw [List.concat_eq_append, ← List.append_assoc, List.append_singleton_inj] at split
        obtain ⟨split, same⟩ := split
        subst same
        rw [List.length_concat] at short
        have known : earlier.Nodup :=
          recalls.distinct before earlier [] (by rw [List.append_nil, split]) (by omega)
        have new : offerId ∉ earlier := fun there => fresh (recalls.mem_seen split (by omega) there)
        rw [List.concat_eq_append]
        exact List.nodup_append_comm.mp (List.nodup_cons.mpr ⟨new, known⟩)
    | inr more =>
      obtain ⟨rest, newest, same⟩ := more
      subst same
      rw [List.concat_eq_append, ← List.append_assoc, List.append_singleton_inj] at split
      exact recalls.distinct before window rest split.1 short

end OfferState

namespace RoomPair

variable {room next : RoomPair} [Libraries]

/-- Both directions are orderly, and no call is going to report an unknown offer. -/
structure OffersHold (room : RoomPair) : Prop where
  orderly : ∀ side, (room.view side).Orderly
  clean : ∀ side, (room.session side).dues.Clean
  single : ∀ side, (room.session side).offers.pendingLocal = none ∨
    (room.session side).offers.pendingRemote = none
  recalls : ∀ side, (room.session side).offers.Recalls (rememberedIds side room.history)

omit [Libraries] in
theorem Moved.arrived_sum {α : Type} {side : Side} (moved : Moved room next side)
    (count : ControlMessage → Multiset α) :
    ((room.inbox side).map count).sum = (moved.received.map count).getD 0 +
      (moved.rest.map count).sum := by
  rw [moved.arrived]
  cases moved.received with
  | none => simp
  | some message => simp

omit [Libraries] in
theorem rememberedIds_apply (room : RoomPair) (side other : Side) (outcome : Outcome) :
    rememberedIds other (room.apply side outcome).history =
      rememberedIds other room.history ++ if side = other then outcome.observed.filterMap remembers
        else [] := by
  have observed (events : List SessionEvent) :
      (events.map fun event => (side, event)).filterMap
        (fun observation => if observation.1 = other then remembers observation.2 else none) =
      if side = other then events.filterMap remembers else [] := by
    rw [List.filterMap_map]
    by_cases own : side = other
    · simp [own]
    · simp [own]
  have wrote : (outcome.sent.map fun message => (side, SessionEvent.wrote message)) =
      (outcome.sent.map SessionEvent.wrote).map fun event => (side, event) := by
    rw [List.map_map]
    rfl
  simp only [rememberedIds, apply, List.filterMap_append, wrote, observed, Outcome.observed,
    List.append_assoc]
  by_cases own : side = other
  · simp [own]
  · simp [own]

omit [Libraries] in
theorem Moved.session_self {side : Side} (moved : Moved room next side) :
    next.session side = moved.outcome.session := by
  refine (congrArg (fun room => room.session side) moved.leads).trans ?_
  exact Function.update_self ..

omit [Libraries] in
theorem Moved.session_peer {side : Side} (moved : Moved room next side) :
    next.session side.peer = room.session side.peer := by
  refine (congrArg (fun room => room.session side.peer) moved.leads).trans ?_
  exact Function.update_of_ne side.peer_ne ..

omit [Libraries] in
theorem Moved.rememberedIds {side : Side} (moved : Moved room next side) (other : Side) :
    rememberedIds other next.history = rememberedIds other room.history ++
      if side = other then moved.outcome.observed.filterMap remembers else [] := by
  refine (congrArg (fun room => RoomPair.rememberedIds other room.history) moved.leads).trans ?_
  exact rememberedIds_apply (room.taken side moved.rest) side other moved.outcome

omit [Libraries] in
/-- What an effect leaves of the two offers that may wait. -/
theorem effect_single {before after : OfferView} {traffic : Traffic}
    (effect : OfferEffect before traffic after)
    (single : before.offers.pendingLocal = none ∨ before.offers.pendingRemote = none) :
    after.offers.pendingLocal = none ∨ after.offers.pendingRemote = none := by
  cases effect with
  | registers offerId free none fresh => exact .inr none
  | withdraws offerId rest owed => exact .inl rfl
  | presents offerId free none fresh => exact .inl none
  | decides answer shown => exact .inr rfl
  | concludes answer expected => exact .inl rfl
  | _ => exact single

omit [Libraries] in
theorem effect_recalls {before after : OfferView} {traffic : Traffic} {ids : List String}
    (effect : OfferEffect before traffic after) (recalls : before.offers.Recalls ids) :
    after.offers.Recalls (ids ++ traffic.remembered) := by
  cases effect with
  | registers offerId free none fresh =>
    have pending : ({ before.offers with pendingLocal := some offerId } : OfferState).Recalls ids :=
      ⟨recalls.seen, recalls.order, recalls.distinct⟩
    exact pending.remember fresh
  | presents offerId free none fresh =>
    have pending :
      ({ before.offers with pendingRemote := some offerId } : OfferState).Recalls ids :=
      ⟨recalls.seen, recalls.order, recalls.distinct⟩
    exact pending.remember fresh
  | _ =>
    rw [show ∀ ids : List String, ids ++ Traffic.none.remembered = ids from List.append_nil]
    exact ⟨recalls.seen, recalls.order, recalls.distinct⟩

theorem OffersHold.step (holds : OffersHold room) (step : Step room next) : OffersHold next := by
  obtain ⟨side, ⟨moved⟩⟩ := step.moved holds.clean
  have offers := moved.offers
  have dues := moved.dues
  refine ⟨?_, ?_, ?_, ?_⟩
  · intro offerer
    -- The step of one side is the offerer's in one view and the responder's in the other.
    cases side.eq_or_peer offerer with
    | inl own =>
      subst own
      rw [moved.view_offerer]
      refine (holds.orderly offerer).offererTook moved.effect.offers ?_ ?_ ?_
      · exact congrArg OfferState.pendingLocal offers.symm
      · simp [view, RoomControlSession.offerView, dues]
      · exact moved.arrived_sum _
    | inr other =>
      subst other
      rw [moved.view_responder]
      refine (holds.orderly side.peer).responderTook moved.effect.offers ?_ ?_ ?_
      · simp [view, RoomControlSession.offerView, offers]
      · simp [view, RoomControlSession.offerView, dues]
      · have arrived := moved.arrived_sum fun message => message.dues.1
        simpa [view, traffic] using arrived
  · intro other
    cases side.eq_or_peer other with
    | inl own =>
      subst own
      rw [moved.session_self]
      have clean := holds.clean other
      rw [dues, add_comm] at clean
      exact moved.effect.clean (clean_of_add clean)
    | inr other =>
      subst other
      rw [moved.session_peer]
      exact holds.clean side.peer
  · intro other
    cases side.eq_or_peer other with
    | inl own =>
      subst own
      rw [moved.session_self]
      have single := holds.single other
      rw [offers] at single
      exact effect_single moved.effect.offers single
    | inr other =>
      subst other
      rw [moved.session_peer]
      exact holds.single side.peer
  · intro other
    cases side.eq_or_peer other with
    | inl own =>
      subst own
      have recalls := holds.recalls other
      rw [offers] at recalls
      rw [moved.session_self, moved.rememberedIds, if_pos rfl]
      exact effect_recalls moved.effect.offers recalls
    | inr other =>
      subst other
      rw [moved.session_peer, moved.rememberedIds, if_neg side.ne_peer, List.append_nil]
      exact holds.recalls side.peer

omit [Libraries] in
theorem OffersHold.opened (opened : Opened room) : OffersHold room := by
  obtain ⟨mode, broker, relay, name, binding, now, lifetime, accepted⟩ := opened
  refine ⟨?_, ?_, ?_, ?_⟩
  · intro side
    refine ⟨.idle, [], ⟨rfl, ?_, ?_, nofun, ?_, ?_⟩, ?_⟩
    · simp [view, RoomControlSession.opened, RoomControlSession.dues]
    · simp [view]
    · simp [view, RoomControlSession.opened, RoomControlSession.dues]
    · simp [view]
    · cases side <;> rfl
  · intro side
    simp [RoomControlSession.opened, RoomControlSession.dues, Dues.Clean]
  · intro side
    exact .inl rfl
  · intro side
    have nothing : rememberedIds side ([Side.left, .right].map fun side =>
        (side, .wrote (localHello (mode side) (name side) (binding side) (now side)))) = [] := by
      cases side <;> rfl
    rw [nothing]
    refine ⟨rfl, List.drop_nil.symm, ?_⟩
    intro before window after split _
    have empty : window = [] :=
      (List.append_eq_nil_iff.mp (List.append_eq_nil_iff.mp split.symm).1).2
    rw [empty]
    exact List.nodup_nil

end RoomPair

/-! ## What the observations say -/

namespace Exchange

def isOffered : Exchange → Bool
  | .offered _ => true
  | _ => false

def isResponded : Exchange → Bool
  | .responded _ => true
  | _ => false

def isConcluded : Exchange → Bool
  | .concluded _ => true
  | _ => false

end Exchange

/-- Complete rounds, one after the other, and the beginning of one more. -/
def InRounds (exchanges : List Exchange) : Prop :=
  ∃ (rounds : List Round) (current : List Exchange) (round : Round),
    exchanges = rounds.flatMap Round.exchanges ++ current ∧ current <+: round.exchanges

namespace Round

variable (round : Round)

/-- What follows the offer in a round. -/
def reaction : Round → List Exchange
  | .decided answer => [.presented answer.1, .decided answer, .responded answer, .concluded answer]
  | .refused offerId reason =>
    [.responded (offerId, some reason), .concluded (offerId, some reason)]

theorem exchanges_eq : round.exchanges = .offered round.answer.1 :: round.reaction := by
  cases round <;> rfl

theorem reaction_free : ∀ exchange ∈ round.reaction, exchange.isOffered = false := by
  cases round <;> simp [reaction, Exchange.isOffered]

theorem unknown_not_mem : Exchange.unknown ∉ round.exchanges := by
  cases round <;> simp [exchanges, opening]

end Round

theorem Progress.exchanges_begin (progress : Progress) :
    ∃ round : Round, progress.exchanges <+: round.exchanges := by
  cases progress with
  | idle => exact ⟨.refused "" .busy, List.nil_prefix⟩
  | requested offerId => exact ⟨.refused offerId .busy, List.nil_prefix⟩
  | offered offerId => exact ⟨.refused offerId .busy, List.prefix_append ..⟩
  | presented offerId =>
    refine ⟨.decided (offerId, none), ?_⟩
    simp [exchanges, Round.exchanges, Round.opening]
  | answered round => exact ⟨round, List.prefix_append ..⟩
  | responded round =>
    refine ⟨round, ?_⟩
    rw [Round.exchanges, show [Exchange.responded round.answer, .concluded round.answer] =
      [.responded round.answer] ++ [.concluded round.answer] from rfl, ← List.append_assoc]
    exact List.prefix_append ..

theorem View.Orderly.inRounds {view : View} (orderly : view.Orderly) : InRounds view.exchanges := by
  obtain ⟨progress, rounds, _, observed⟩ := orderly
  obtain ⟨round, begins⟩ := progress.exchanges_begin
  exact ⟨rounds, progress.exchanges, round, observed, begins⟩

/-- Rounds start with an offer. -/
theorem takeWhile_rounds (rounds : List Round) {current : List Exchange} {last : Round}
    (begins : current <+: last.exchanges) :
    (rounds.flatMap Round.exchanges ++ current).takeWhile (fun exchange => !exchange.isOffered) =
      [] := by
  cases rounds with
  | nil =>
    rw [last.exchanges_eq] at begins
    cases current with
    | nil => rfl
    | cons first others =>
      rw [(List.cons_prefix_cons.mp begins).1]
      rfl
  | cons round rounds =>
    rw [List.flatMap_cons, round.exchanges_eq]
    rfl

/-- Between an offer and the next stand the events of one round. -/
theorem InRounds.reaction {exchanges before after : List Exchange} {offerId : String}
    (rounds : InRounds exchanges) (split : exchanges = before ++ .offered offerId :: after) :
    ∃ round : Round, round.answer.1 = offerId ∧
      after.takeWhile (fun exchange => !exchange.isOffered) <+: round.reaction := by
  obtain ⟨rounds, current, last, whole, begins⟩ := rounds
  subst whole
  -- the rounds before the one the offer opens are skipped one by one
  induction rounds generalizing before with
  | nil =>
    rw [List.flatMap_nil, List.nil_append] at split
    rw [split, last.exchanges_eq] at begins
    cases before with
    | nil =>
      obtain ⟨same, rest⟩ := List.cons_prefix_cons.mp begins
      exact ⟨last, (Exchange.offered.inj same).symm, (List.takeWhile_prefix _).trans rest⟩
    | cons first others =>
      have rest := (List.cons_prefix_cons.mp begins).2
      have there : Exchange.offered offerId ∈ last.reaction := rest.subset (by simp)
      exact absurd (last.reaction_free _ there) (by simp [Exchange.isOffered])
  | cons round rounds ih =>
    rw [List.flatMap_cons, List.append_assoc, round.exchanges_eq, List.cons_append] at split
    cases before with
    | nil =>
      obtain ⟨same, rest⟩ := List.cons.inj split
      refine ⟨round, Exchange.offered.inj same, ?_⟩
      rw [← rest, List.takeWhile_append_of_pos (by simpa using round.reaction_free),
        takeWhile_rounds rounds begins, List.append_nil]
    | cons first others =>
      obtain ⟨_, rest⟩ := List.cons.inj split
      obtain ⟨later, _, rest⟩ | ⟨inside, same, rest⟩ := List.append_eq_append_iff.mp rest
      · exact ih rest
      · cases inside with
        | nil => exact @ih [] rest.symm
        | cons next more =>
          have there : Exchange.offered offerId ∈ round.reaction := by
            rw [same, (List.cons.inj rest).1]
            simp
          exact absurd (round.reaction_free _ there) (by simp [Exchange.isOffered])

theorem Round.concluded_last (round : Round) {before after : List Exchange} {answer : Answer}
    (split : round.exchanges = before ++ .concluded answer :: after) :
    round.answer = answer ∧ before = round.opening ++ [.responded answer] := by
  have whole : round.exchanges = (round.opening ++ [.responded round.answer]) ++
      [.concluded round.answer] := by
    rw [Round.exchanges, List.append_assoc]
    rfl
  have open_ : ∀ given, Exchange.concluded given ∉ round.opening ++ [.responded round.answer] := by
    cases round <;> simp [Round.opening]
  rw [whole] at split
  obtain ⟨later, same, rest⟩ | ⟨inside, same, rest⟩ := List.append_eq_append_iff.mp split
  · cases later with
    | nil =>
      have given : Exchange.concluded round.answer = .concluded answer := (List.cons.inj rest).1
      obtain rfl := Exchange.concluded.inj given
      exact ⟨rfl, by rw [same, List.append_nil]⟩
    | cons next more =>
      have longer := congrArg List.length (List.cons.inj rest).2
      simp at longer
  · cases inside with
    | nil =>
      have given : Exchange.concluded answer = .concluded round.answer := (List.cons.inj rest).1
      obtain rfl := Exchange.concluded.inj given
      exact ⟨rfl, by rw [same, List.append_nil]⟩
    | cons next more =>
      obtain ⟨first, _⟩ := List.cons.inj rest
      refine absurd ?_ (open_ answer)
      rw [same, first]
      simp

/-- A round is concluded by its last event. -/
theorem InRounds.concluded {exchanges before after : List Exchange} {answer : Answer}
    (rounds : InRounds exchanges) (split : exchanges = before ++ .concluded answer :: after) :
    ∃ (earlier : List Exchange) (round : Round),
      round.answer = answer ∧ before = earlier ++ (round.opening ++ [.responded answer]) := by
  obtain ⟨rounds, current, last, whole, begins⟩ := rounds
  subst whole
  induction rounds generalizing before with
  | nil =>
    obtain ⟨rest, whole⟩ := begins
    rw [List.flatMap_nil, List.nil_append] at split
    rw [split, List.append_assoc, List.cons_append] at whole
    obtain ⟨same, opened⟩ := last.concluded_last whole.symm
    exact ⟨[], last, same, opened⟩
  | cons round rounds ih =>
    rw [List.flatMap_cons, List.append_assoc] at split
    obtain ⟨later, same, rest⟩ | ⟨inside, same, rest⟩ := List.append_eq_append_iff.mp split
    · obtain ⟨earlier, found, answered, opened⟩ := ih rest
      exact ⟨round.exchanges ++ earlier, found, answered, by rw [same, opened, List.append_assoc]⟩
    · cases inside with
      | nil =>
        obtain ⟨earlier, found, answered, opened⟩ := @ih [] rest.symm
        simp at opened
      | cons next more =>
        obtain ⟨first, _⟩ := List.cons.inj rest
        rw [← first] at same
        obtain ⟨answered, opened⟩ := round.concluded_last same
        exact ⟨[], round, answered, opened⟩

/-- What holds of the offers of a room whatever its two sides do. -/
structure OffersOrderly (room : RoomPair) : Prop where
  /-- no side is told of an answer to an offer it does not wait for -/
  known : ∀ side, (side, SessionEvent.returned (.error unknownOffer)) ∉ room.history
  /-- the offers of a side are taken up one after the other -/
  rounds : ∀ offerer, InRounds (room.view offerer).exchanges
  /-- an offer that was sent is answered at most once, and its offerer sees at most one answer -/
  once : ∀ offerer before offerId after, (room.view offerer).exchanges =
    before ++ .offered offerId :: after →
    (after.takeWhile fun exchange => !exchange.isOffered).countP Exchange.isResponded ≤ 1 ∧
    (after.takeWhile fun exchange => !exchange.isOffered).countP Exchange.isConcluded ≤ 1
  /-- an offer that its offerer sees accepted was presented to the peer and accepted there -/
  accepted : ∀ offerer before offerId after,
    (room.view offerer).exchanges = before ++ .concluded (offerId, none) :: after →
    ∃ earlier, before =
      earlier ++ [.offered offerId, .presented offerId, .decided (offerId, none),
        .responded (offerId, none)]
  /-- a side has at most one offer that waits -/
  single : ∀ side, (room.session side).offers.pendingLocal = none ∨
    (room.session side).offers.pendingRemote = none
  /-- among as many remembered ids as a session keeps, none is presented twice -/
  distinct : ∀ side before window after, RoomPair.rememberedIds side room.history =
    before ++ window ++ after →
    window.length ≤ maxSeenOfferIds → window.Nodup

theorem offer_protocol [Libraries] (room : RoomPair) (reached : room.Reachable) :
    OffersOrderly room := by
  have holds : room.OffersHold :=
    reached.invariant (fun _ => .opened) fun _ _ holds step => holds.step step
  have rounds (offerer : Side) : InRounds (room.view offerer).exchanges :=
    (holds.orderly offerer).inRounds
  refine ⟨?_, rounds, ?_, ?_, holds.single, fun side => (holds.recalls side).distinct⟩
  · intro side reported
    have there : Exchange.unknown ∈ (room.view side).exchanges :=
      List.mem_filterMap.mpr ⟨_, reported, by simp [exchange, asOfferer]⟩
    obtain ⟨complete, current, last, whole, begins⟩ := rounds side
    rw [whole, List.mem_append, List.mem_flatMap] at there
    obtain ⟨round, _, inRound⟩ | inLast := there
    · exact round.unknown_not_mem inRound
    · exact last.unknown_not_mem (begins.subset inLast)
  · intro offerer before offerId after split
    obtain ⟨round, _, reaction⟩ := (rounds offerer).reaction split
    have responded := reaction.sublist.countP_le (p := Exchange.isResponded)
    have concluded := reaction.sublist.countP_le (p := Exchange.isConcluded)
    cases round <;> exact ⟨responded, concluded⟩
  · intro offerer before offerId after split
    obtain ⟨earlier, round, answered, opened⟩ := (rounds offerer).concluded split
    cases round with
    | decided answer =>
      have same : answer = (offerId, none) := answered
      subst same
      exact ⟨earlier, opened⟩
    | refused other reason => cases answered

/-! ## An accepted offer -/

section Accepted

open Envoix.Invite (goldenLibraries goldenCreated goldenBroker goldenNow goldenInvitation)

noncomputable local instance : Libraries := goldenLibraries

def goldenRelay : String := "https://envoix.example:8444"

noncomputable def goldenOffer : RoomTransferOffer where
  offerId := "offer-1"
  transferInvite := goldenCreated.payload
  rootNames := ["note.txt"]
  itemCount := 1
  directoryCount := 0
  totalBytes := 12

theorem goldenOffer_valid :
    goldenOffer.validate goldenBroker (some goldenRelay) (some goldenNow) = .ok () := by
  have parsed : Invite.InviteV2.parse goldenCreated.payload goldenNow = .ok goldenInvitation :=
    (Invite.createdOk Invite.goldenCreated_made).parses (by decide)
  have short : (asBytes goldenCreated.payload).length ≤ maxTransferInviteBytes := by
    have small : (Invite.jcsDocument (.fromInvitation goldenInvitation)).length ≤ 900 := by
      set_option maxRecDepth 8000 in decide
    have encoded := Base64.length_encode (Invite.jcsDocument (.fromInvitation goldenInvitation))
    have split : asBytes goldenCreated.payload = asBytes Invite.inviteV2Prefix ++
        asBytes (Base64.rfc4648.encode (Invite.jcsDocument (.fromInvitation goldenInvitation))) :=
          asBytes_append ..
    rw [split, List.length_append]
    have start : (asBytes Invite.inviteV2Prefix).length ≤ 100 := by decide
    unfold maxTransferInviteBytes
    omega
  simp only [RoomTransferOffer.validate, bind_eq_ok, reject_eq_ok, exists_unit,
    mapErr_eq_ok, forM_eq_ok]
  refine ⟨?_, by simpa [goldenOffer] using short, goldenNow, rfl, goldenInvitation, ?_,
    ?_, ?_, ?_, ?_⟩
  · decide
  · simp only [goldenOffer, Invite.InviteV2.parseForRole, parsed, ok_bind]
    rfl
  · decide
  · decide
  · decide
  · decide

/-- Two remembered peers that have just met. -/
def rememberedSession : RoomControlSession :=
  .opened (.remembered 1) goldenBroker (some goldenRelay) .remembered

def rememberedRoom : RoomPair where
  session := fun _ => rememberedSession
  inbox := fun _ => []
  history := [.left, .right].map fun side => (side, .wrote (localHello (.remembered 1) "peer" [] 0))

theorem rememberedRoom_opened : RoomPair.Opened rememberedRoom := by
  have accepted : ∀ side : Side, validateControlHello (localHello (.remembered 1) "peer" [] 0)
    (.remembered 1) []
      (localLifetime (.remembered 1) 0) = .ok ("peer", .remembered) := by
    intro _
    decide
  exact .intro (fun _ => .remembered 1) (fun _ => goldenBroker) (fun _ => some goldenRelay)
    (fun _ => "peer")
    (fun _ => []) (fun _ => 0) (fun _ => .remembered) accepted

/-- What a side knows after it offered, and after it was offered. -/
def offering : OfferState :=
  OfferState.remember { OfferState.empty with pendingLocal := some "offer-1" } "offer-1"
def presented : OfferState :=
  OfferState.remember { OfferState.empty with pendingRemote := some "offer-1" } "offer-1"

/-- The left side offers, and the offer is presented on the right. -/
noncomputable def offeredRoom : RoomPair :=
  (rememberedRoom.apply .left
    { session := { rememberedSession with
      offers := offering, calls := {.sending ⟨.transferOffer goldenOffer, rfl⟩ .finish} }
      sent := []
      events := [.registered "offer-1"] }).apply .left
    { session := { rememberedSession with offers := offering },
      sent := [.transferOffer goldenOffer], events := [] }

noncomputable def presentedRoom : RoomPair :=
  ((offeredRoom.apply .right { rememberedSession with calls := {Call.receiving} }.quietly).taken
    .right []).apply .right
    ({ rememberedSession with offers := presented }.returning (.ok (.incomingOffer goldenOffer)))

/-- The right side accepts, and the left side hears of it. -/
noncomputable def acceptedRoom : RoomPair :=
  (presentedRoom.apply .right
    { session := { rememberedSession with
        offers := { presented with pendingRemote := none }
        calls := {.sending ⟨.offerAccepted "offer-1", rfl⟩ .finish} }
      sent := []
      events := [.resolved "offer-1" none] }).apply .right
    { session := { rememberedSession with offers := { presented with pendingRemote := none } }
      sent := [.offerAccepted "offer-1"]
      events := [] }

noncomputable def concludedRoom : RoomPair :=
  ((acceptedRoom.apply .left { rememberedSession with
    offers := offering, calls := {Call.receiving} }.quietly).taken
    .left []).apply .left
    ({ rememberedSession with offers := { offering with pendingLocal := none } }.returning
      (.ok (.offerAccepted "offer-1")))

theorem offeredRoom_reachable : offeredRoom.Reachable := by
  have registers : rememberedSession.begin (.offerTransfer goldenOffer) (some goldenNow) =
      { session := { rememberedSession with
        offers := offering, calls := {.sending ⟨.transferOffer goldenOffer, rfl⟩ .finish} }
        sent := []
        events := [.registered "offer-1"] } := by
    show rememberedSession.offerTransfer goldenOffer (some goldenNow) = _
    rw [RoomControlSession.offerTransfer,
      show goldenOffer.validate rememberedSession.broker rememberedSession.relay
      (some goldenNow) = .ok () from goldenOffer_valid]
    rfl
  have begun :=
    @RoomPair.Step.begins _ rememberedRoom .left (.offerTransfer goldenOffer) (some goldenNow)
  rw [show rememberedRoom.session .left = rememberedSession from rfl, registers] at begun
  have wrote :=
    @RoomPair.Step.writes _
      (rememberedRoom.apply .left (rememberedSession.begin (.offerTransfer goldenOffer)
    (some goldenNow))) .left ⟨.transferOffer goldenOffer, rfl⟩ .finish 0 (by rw [registers]; rfl)
      (by rw [registers]; rfl)
  rw [registers] at wrote
  exact ⟨rememberedRoom, rememberedRoom_opened, .tail (.single begun) wrote⟩

theorem presentedRoom_reachable : presentedRoom.Reachable := by
  obtain ⟨start, opened, run⟩ := offeredRoom_reachable
  have presents : rememberedSession.receive (.transferOffer goldenOffer) (some goldenNow) =
      { rememberedSession with offers := presented }.returning
        (.ok (.incomingOffer goldenOffer)) := by
    show rememberedSession.receiveOffer goldenOffer (some goldenNow) = _
    rw [RoomControlSession.receiveOffer,
      show goldenOffer.validate rememberedSession.broker rememberedSession.relay
      (some goldenNow) = .ok () from goldenOffer_valid]
    rfl
  let listening := offeredRoom.apply .right (rememberedSession.begin .nextEvent none)
  have listens : RoomPair.Step offeredRoom listening := .begins .right .nextEvent none
  have target : presentedRoom =
      (listening.taken .right []).apply .right
        (rememberedSession.receive (.transferOffer goldenOffer) (some goldenNow)) := by
    rw [presents]
    rfl
  have receives : RoomPair.Step listening presentedRoom := by
    rw [target]
    exact @RoomPair.Step.receives _ listening .right (.transferOffer goldenOffer)
      [] 0 (some goldenNow) rfl rfl
  exact ⟨start, opened, .tail (.tail run listens) receives⟩

theorem concludedRoom_reachable : concludedRoom.Reachable := by
  obtain ⟨start, opened, run⟩ := presentedRoom_reachable
  let accepting := presentedRoom.apply .right
    ({ rememberedSession with offers := presented }.begin (.acceptOffer "offer-1") none)
  have accepts : RoomPair.Step presentedRoom accepting :=
    .begins .right (.acceptOffer "offer-1") none
  have responds : RoomPair.Step accepting acceptedRoom :=
    @RoomPair.Step.writes _ accepting .right ⟨.offerAccepted "offer-1", rfl⟩ .finish 0 rfl rfl
  let listening :=
    acceptedRoom.apply .left ({ rememberedSession with offers := offering }.begin .nextEvent none)
  have listens : RoomPair.Step acceptedRoom listening := .begins .left .nextEvent none
  have receives : RoomPair.Step listening concludedRoom :=
    @RoomPair.Step.receives _ listening .left (.offerAccepted "offer-1") [] 0 none rfl rfl
  exact ⟨start, opened, .tail (.tail (.tail (.tail run accepts) responds) listens) receives⟩

theorem offer_protocol_accepted :
    concludedRoom.Reachable ∧
    (concludedRoom.view .left).exchanges =
      [.offered "offer-1", .presented "offer-1", .decided ("offer-1", none),
        .responded ("offer-1", none)] ++
        .concluded ("offer-1", none) :: [] ∧
    OffersOrderly concludedRoom :=
  ⟨concludedRoom_reachable, rfl, offer_protocol concludedRoom concludedRoom_reachable⟩

end Accepted

end Envoix.Room
