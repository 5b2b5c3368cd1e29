import Envoix.Room.Session

/-! # What a step does to the offers of a session

Calls in progress owe offers and answers that they are going to write.  `OfferEffect` lists
everything a call can do to them between two await points; each function of the session has one of
these effects. -/

namespace Envoix.Room

open Fallible
open Envoix.Invite (Libraries)

abbrev Answer := String × Option RoomOfferRejection

def unknownOffer : CoreError := .protocol "peer responded to an unknown room offer"

@[simp] theorem OfferState.remember_pendingLocal (offers : OfferState) (offerId : String) :
    (offers.remember offerId).pendingLocal = offers.pendingLocal := rfl

@[simp] theorem OfferState.remember_pendingRemote (offers : OfferState) (offerId : String) :
    (offers.remember offerId).pendingRemote = offers.pendingRemote := rfl

/-! ## What calls owe -/

/-- The offers and answers that calls in progress are going to write, and the errors they are going
to return. -/
abbrev Dues := Multiset String × Multiset Answer × Multiset CoreError

def ControlMessage.dues : ControlMessage → Dues
  | .transferOffer offer => ({offer.offerId}, 0, 0)
  | .offerAccepted offerId => (0, {(offerId, none)}, 0)
  | .offerRejected offerId reason => (0, {(offerId, some reason)}, 0)
  | _ => 0

def After.dues : After → Dues
  | .finish | .listen => 0
  | .send letter => letter.message.dues

def Next.dues : Next → Dues
  | .finish | .listen => 0
  | .fail error => (0, 0, {error})

def Call.dues : Call → Dues
  | .receiving => 0
  | .hinting after => after.dues
  | .sending letter next => letter.message.dues + next.dues

def Update.dues : Update → Dues
  | .transition _ after => after.dues
  | _ => 0

def Holding.dues : Holding → Dues
  | .publishing _ after => after.dues
  | _ => 0

def RoomControlSession.dues (self : RoomControlSession) : Dues :=
  (self.calls.map Call.dues).sum + (self.waiting.map Update.dues).sum +
    (self.holding.map Holding.dues).getD 0

@[simp] theorem dues_call (self : RoomControlSession) (call : Call) :
    (self.call call).dues = call.dues + self.dues := by
  simp only [RoomControlSession.call, RoomControlSession.dues, Multiset.map_cons,
    Multiset.sum_cons, add_assoc]

@[simp] theorem offers_call (self : RoomControlSession) (call : Call) :
    (self.call call).offers = self.offers := rfl

@[simp] theorem dues_with_offers (self : RoomControlSession) (offers : OfferState) :
    ({ self with offers } : RoomControlSession).dues = self.dues := rfl

@[simp] theorem dues_await (self : RoomControlSession) (update : Update) :
    (self.await update).dues = update.dues + self.dues := by
  simp only [RoomControlSession.await, RoomControlSession.dues, List.map_append, List.map_cons,
    List.map_nil, List.sum_append, List.sum_cons, List.sum_nil, add_zero]
  abel

/-! ## Exchanges -/

/-- What happens to the offers of one side, in the order in which it should happen to each. -/
inductive Exchange where
  | offered (offerId : String)
  | presented (offerId : String)
  | decided (answer : Answer)
  | responded (answer : Answer)
  | concluded (answer : Answer)
  /-- an answer to no offer arrived -/
  | unknown
deriving DecidableEq

/-- What an observation says about the offers of the side it was made on. -/
def asOfferer : SessionEvent → Option Exchange
  | .wrote (.transferOffer offer) => some (.offered offer.offerId)
  | .returned (.ok (.offerAccepted offerId)) => some (.concluded (offerId, none))
  | .returned (.ok (.offerRejected offerId reason)) => some (.concluded (offerId, some reason))
  | .returned (.error error) => if error = unknownOffer then some .unknown else none
  | _ => none

/-- What an observation says about the offers of the other side. -/
def asResponder : SessionEvent → Option Exchange
  | .returned (.ok (.incomingOffer offer)) => some (.presented offer.offerId)
  | .resolved offerId rejection => some (.decided (offerId, rejection))
  | .wrote (.offerAccepted offerId) => some (.responded (offerId, none))
  | .wrote (.offerRejected offerId reason) => some (.responded (offerId, some reason))
  | _ => none

/-- The id that a session remembered. -/
def remembers : SessionEvent → Option String
  | .registered offerId => some offerId
  | .returned (.ok (.incomingOffer offer)) => some offer.offerId
  | _ => none

def Outcome.observed (outcome : Outcome) : List SessionEvent :=
  outcome.sent.map .wrote ++ outcome.events

/-! ## What a step does to the offers of a session -/

/-- The offers of a session: what waits, what its calls are going to offer, and what they are going
to answer. -/
structure OfferView where
  offers : OfferState
  requests : Multiset String
  decisions : Multiset Answer

/-- What was read, written and observed of offers. -/
structure Traffic where
  offersRead : Multiset String
  answersRead : Multiset Answer
  offersWritten : Multiset String
  answersWritten : Multiset Answer
  asOfferer : List Exchange
  asResponder : List Exchange
  remembered : List String

def Traffic.none : Traffic :=
  { offersRead := 0, answersRead := 0, offersWritten := 0, answersWritten := 0, asOfferer := [],
    asResponder := [], remembered := [] }

inductive OfferEffect (view : OfferView) : Traffic → OfferView → Prop where
  | quiet : OfferEffect view .none view
  | registers (offerId : String) (free : view.offers.pendingLocal = none)
      (none : view.offers.pendingRemote = none) (fresh : offerId ∉ view.offers.seen) :
      OfferEffect view { Traffic.none with remembered := [offerId] }
        { view with
          offers := { view.offers with pendingLocal := some offerId }.remember offerId
          requests := offerId ::ₘ view.requests }
  | withdraws (offerId : String) (rest : Multiset String)
      (owed : view.requests = offerId ::ₘ rest) :
      OfferEffect view .none { view with
        offers := { view.offers with pendingLocal := none }, requests := rest }
  | offers (offerId : String) (rest : Multiset String) (owed : view.requests = offerId ::ₘ rest) :
      OfferEffect view { Traffic.none with
        offersWritten := {offerId}, asOfferer := [.offered offerId] }
        { view with requests := rest }
  | presents (offerId : String) (free : view.offers.pendingRemote = none)
      (none : view.offers.pendingLocal = none) (fresh : offerId ∉ view.offers.seen) :
      OfferEffect view
        { Traffic.none with
          offersRead := {offerId}
          asResponder := [.presented offerId]
          remembered := [offerId] }
        { view with offers := { view.offers with pendingRemote := some offerId }.remember offerId }
  | refuses (offerId : String) (reason : RoomOfferRejection) :
      OfferEffect view { Traffic.none with offersRead := {offerId} }
        { view with decisions := (offerId, some reason) ::ₘ view.decisions }
  | decides (answer : Answer) (shown : view.offers.pendingRemote = some answer.1) :
      OfferEffect view { Traffic.none with asResponder := [.decided answer] }
        { view with
          offers := { view.offers with pendingRemote := none }
          decisions := answer ::ₘ view.decisions }
  | responds (answer : Answer) (rest : Multiset Answer) (owed : view.decisions = answer ::ₘ rest) :
      OfferEffect view { Traffic.none with
        answersWritten := {answer}, asResponder := [.responded answer] }
        { view with decisions := rest }
  | forgoes (answer : Answer) (rest : Multiset Answer) (owed : view.decisions = answer ::ₘ rest) :
      OfferEffect view .none { view with decisions := rest }
  | concludes (answer : Answer) (expected : view.offers.pendingLocal = some answer.1) :
      OfferEffect view { Traffic.none with
        answersRead := {answer}, asOfferer := [.concluded answer] }
        { view with offers := { view.offers with pendingLocal := none } }
  | unknown (answer : Answer) (unexpected : view.offers.pendingLocal ≠ some answer.1) :
      OfferEffect view { Traffic.none with answersRead := {answer}, asOfferer := [.unknown] } view

def traffic (received : Option ControlMessage) (outcome : Outcome) : Traffic where
  offersRead := (received.map fun message => message.dues.1).getD 0
  answersRead := (received.map fun message => message.dues.2.1).getD 0
  offersWritten := (outcome.sent.map fun message => message.dues.1).sum
  answersWritten := (outcome.sent.map fun message => message.dues.2.1).sum
  asOfferer := outcome.observed.filterMap Room.asOfferer
  asResponder := outcome.observed.filterMap Room.asResponder
  remembered := outcome.observed.filterMap remembers

/-- The errors that are due are not reports of an unknown offer. -/
def Dues.Clean (dues : Dues) : Prop := unknownOffer ∉ dues.2.2

namespace RoomControlSession

/-- The offers of a session in which a resumed call owed `dues` beyond what the rest owes. -/
def offerView (self : RoomControlSession) (dues : Dues) : OfferView where
  offers := self.offers
  requests := dues.1 + self.dues.1
  decisions := dues.2.1 + self.dues.2.1

/-- What a resumed call, which owed `dues`, does to the offers of the session. -/
structure Effect (before : RoomControlSession) (received : Option ControlMessage) (owed : Dues)
    (outcome : Outcome) :
    Prop where
  offers : OfferEffect (before.offerView owed) (traffic received outcome)
    (outcome.session.offerView 0)
  clean : before.dues.Clean → outcome.session.dues.Clean

variable {self : RoomControlSession} {dues : Dues} {outcome : Outcome}

/-- The offers of the outcome, when the call passed its dues on or returned an error. -/
theorem offerView_eq (offers : outcome.session.offers = self.offers) {spent : Multiset CoreError}
    (passed : outcome.session.dues + (0, 0, spent) = dues + self.dues) :
    outcome.session.offerView 0 = self.offerView dues := by
  have requests := congrArg Prod.fst passed
  have decisions := congrArg (fun dues => dues.2.1) passed
  simp only [Prod.fst_add, Prod.snd_add, add_zero] at requests decisions
  simp only [offerView, offers, requests, decisions, Prod.fst_zero, Prod.snd_zero, zero_add]

/-- Nothing happens to the offers. -/
theorem Effect.of_quiet (spent : Multiset CoreError) (silent : traffic none outcome = .none)
    (offers : outcome.session.offers = self.offers)
    (passed : outcome.session.dues + (0, 0, spent) = dues + self.dues) (clean : dues.Clean) :
    self.Effect none dues outcome := by
  constructor
  · rw [silent, offerView_eq offers passed]
    exact .quiet
  · intro others there
    have errors := congrArg (fun dues => dues.2.2) passed
    simp only [Prod.snd_add] at errors
    have dirty : unknownOffer ∈ dues.2.2 + self.dues.2.2 := by
      rw [← errors]
      exact Multiset.mem_add.mpr (.inl there)
    cases Multiset.mem_add.mp dirty with
    | inl mine => exact clean mine
    | inr theirs => exact others theirs

theorem traffic_returning_error {error : CoreError} (known : error ≠ unknownOffer) :
    traffic none (self.returning (.error error)) = .none := by
  have forgotten : remembers (.returned (.error error)) = none := rfl
  simp [traffic, returning, Outcome.observed, asOfferer, asResponder, known, forgotten,
    Traffic.none]

theorem ControlMessage.dues_clean (message : ControlMessage) : message.dues.Clean := by
  cases message <;> simp [ControlMessage.dues, Dues.Clean]

theorem After.dues_clean (after : After) : after.dues.Clean := by
  cases after with
  | finish => simp [After.dues, Dues.Clean]
  | listen => simp [After.dues, Dues.Clean]
  | send letter => exact ControlMessage.dues_clean letter.message

/-- A call goes on with what it owes. -/
structure Passes (before : RoomControlSession) (owed : Dues) (outcome : Outcome) : Prop where
  sent : outcome.sent = []
  events : outcome.events = []
  offers : outcome.session.offers = before.offers
  dues : outcome.session.dues = owed + before.dues

theorem Passes.effect (passes : self.Passes dues outcome) (clean : dues.Clean) :
    self.Effect none dues outcome := by
  refine .of_quiet 0 ?_ passes.offers ?_ clean
  · simp [traffic, Outcome.observed, passes.sent, passes.events, Traffic.none]
  · rw [passes.dues]
    exact add_zero _

theorem Passes.effect_free (passes : self.Passes 0 outcome) : self.Effect none 0 outcome :=
  passes.effect (by simp [Dues.Clean])

theorem passes_proceed (after : After) : self.Passes after.dues (self.proceed after) := by
  cases after with
  | finish => exact ⟨rfl, rfl, rfl, (zero_add _).symm⟩
  | listen => exact ⟨rfl, rfl, rfl, dues_call ..⟩
  | send message =>
    exact ⟨rfl, rfl, rfl, by simp [proceed, quietly, After.dues, Call.dues, Next.dues]⟩

theorem passes_noteActivity (after : After) : self.Passes after.dues (self.noteActivity after) := by
  unfold noteActivity
  split
  · exact passes_proceed after
  · split
    · exact ⟨rfl, rfl, rfl, dues_await ..⟩
    · exact ⟨rfl, rfl, rfl, dues_call ..⟩

theorem giveUp_dues (message : ControlMessage) : (self.giveUp message).dues = self.dues := by
  cases message <;> rfl

/-- A message that is not written takes its offer or its answer with it. -/
theorem giveUp_effect {message : ControlMessage} {errors : Multiset CoreError}
    (left : outcome.session = self.giveUp message) (silent : traffic none outcome = .none) :
    self.Effect none (message.dues + (0, 0, errors)) outcome := by
  have clean : self.dues.Clean → outcome.session.dues.Clean := by
    rw [left, giveUp_dues]
    exact id
  refine ⟨?_, clean⟩
  rw [silent, left]
  conv => rhs; rw [offerView, giveUp_dues]
  cases message with
  | transferOffer offer =>
    have effect :=
      @OfferEffect.withdraws (self.offerView ({offer.offerId}, 0, 0)) offer.offerId self.dues.1 rfl
    simpa [offerView, ControlMessage.dues, giveUp] using effect
  | offerAccepted offerId =>
    have effect := @OfferEffect.forgoes (self.offerView (0, {(offerId, none)}, 0))
      (offerId, none) self.dues.2.1 rfl
    simpa [offerView, ControlMessage.dues, giveUp] using effect
  | offerRejected offerId reason =>
    have effect :=
      @OfferEffect.forgoes (self.offerView (0, {(offerId, some reason)}, 0)) (offerId, some reason)
      self.dues.2.1 rfl
    simpa [offerView, ControlMessage.dues, giveUp] using effect
  | _ =>
    have effect := @OfferEffect.quiet (self.offerView 0)
    simpa [offerView, ControlMessage.dues, giveUp] using effect

theorem failing_effect (error : CoreError) : self.Effect none 0 (self.failing error) :=
  .of_quiet 0 rfl rfl (by simp [failing]) (by simp [Dues.Clean])

theorem returning_error_effect {error : CoreError} (known : error ≠ unknownOffer) :
    self.Effect none 0 (self.returning (.error error)) :=
  .of_quiet 0 (traffic_returning_error known) rfl (by simp [returning]) (by simp [Dues.Clean])

/-- A message that carries no offer and no answer. -/
theorem Effect.received {message : ControlMessage} (effect : self.Effect none dues outcome)
    (other : message.dues = 0) :
    self.Effect (some message) dues outcome := by
  have same : traffic (some message) outcome = traffic none outcome := by
    simp [traffic, other]
  exact ⟨same ▸ effect.offers, effect.clean⟩

theorem returning_effect {event : RoomControlEvent} (own : asOfferer (.returned (.ok event)) = none)
    (other : asResponder (.returned (.ok event)) = none)
    (forgotten : remembers (.returned (.ok event)) = none) :
    self.Effect none 0 (self.returning (.ok event)) := by
  refine .of_quiet 0 ?_ rfl (by simp [returning]) (by simp [Dues.Clean])
  simp [traffic, returning, Outcome.observed, own, other, forgotten, Traffic.none]

theorem passes_quietly {next : RoomControlSession} (offers : next.offers = self.offers)
    (same : next.dues = dues + self.dues) : self.Passes dues next.quietly :=
  ⟨rfl, rfl, offers, same⟩

theorem passes_await {update : Update} (owed : update.dues = dues) :
    self.Passes dues (self.await update).quietly :=
  ⟨rfl, rfl, rfl, by rw [← owed]; exact dues_await self update⟩

theorem passes_call {call : Call} (owed : call.dues = dues) :
    self.Passes dues (self.call call).quietly :=
  ⟨rfl, rfl, rfl, by rw [← owed]; exact dues_call self call⟩

theorem abandon_effect {error : CoreError} (known : error ≠ unknownOffer) (after : After) :
    self.Effect none after.dues (self.abandon error after) := by
  cases after with
  | finish => exact failing_effect error
  | listen => exact returning_error_effect known
  | send letter =>
    have effect :=
      @giveUp_effect self ((self.giveUp letter.message).failing error) letter.message 0 rfl rfl
    rwa [show ((0, 0, 0) : Dues) = 0 from rfl, add_zero] at effect

/-! ### Calls -/

/-- An event that is none of the offerer's comes before a call that passes its dues on. -/
theorem Passes.traffic_after (passes : self.Passes dues outcome) {event : SessionEvent}
    (silent : asOfferer event = none) :
    traffic none (outcome.after event) =
      { Traffic.none with
        asResponder := (asResponder event).toList, remembered := (remembers event).toList } := by
  cases responds : asResponder event <;> cases kept : remembers event <;>
    simp [traffic, Outcome.observed, Outcome.after, passes.sent, passes.events, silent, responds,
      kept, Traffic.none]

theorem Passes.clean_after (passes : self.Passes dues outcome) (clean : dues.Clean)
    (event : SessionEvent) :
    self.dues.Clean → (outcome.after event).session.dues.Clean :=
  (passes.effect clean).clean

/-- The offers of a session that starts a call with the offers `offers` and a letter to write. -/
theorem noteActivity_offerView (offers : OfferState) (letter : Letter) (event : SessionEvent) :
    (({ self with offers }.noteActivity (.send letter)).after event).session.offerView 0 =
      { offers
        requests := letter.message.dues.1 + self.dues.1
        decisions := letter.message.dues.2.1 + self.dues.2.1 } := by
  have passes := @passes_noteActivity { self with offers } (.send letter)
  have kept : ({ self with offers }.noteActivity (.send letter)).session.offers = offers :=
    passes.offers
  have dues : ({ self with offers }.noteActivity (.send letter)).session.dues =
    letter.message.dues + self.dues :=
    passes.dues
  simp only [offerView, Outcome.after, kept, dues, Prod.fst_zero, Prod.snd_zero, zero_add,
    Prod.fst_add, Prod.snd_add]

theorem resolveOffer_effect (offerId : String) (rejection : Option RoomOfferRejection) :
    self.Effect none 0 (self.resolveOffer offerId rejection) := by
  unfold resolveOffer
  cases resolved : self.offers.resolveRemoteOffer offerId with
  | error error => exact failing_effect error
  | ok offers =>
    simp only [OfferState.resolveRemoteOffer, bind_eq_ok, reject_eq_ok, exists_unit,
      not_not, pure_eq, Except.ok.injEq] at resolved
    obtain ⟨shown, same⟩ := resolved
    subst same
    have effect := @OfferEffect.decides (self.offerView 0) (offerId, rejection) shown
    cases rejection with
    | none =>
      have passes :=
        @passes_noteActivity { self with offers := { self.offers with pendingRemote := none } }
        (.send ⟨.offerAccepted offerId, rfl⟩)
      refine ⟨?_, passes.clean_after (After.dues_clean _) _⟩
      rw [passes.traffic_after rfl, noteActivity_offerView]
      simpa [offerView, ControlMessage.dues, asResponder, remembers, Traffic.none] using effect
    | some reason =>
      have passes :=
        @passes_noteActivity { self with offers := { self.offers with pendingRemote := none } }
        (.send ⟨.offerRejected offerId reason, rfl⟩)
      refine ⟨?_, passes.clean_after (After.dues_clean _) _⟩
      rw [passes.traffic_after rfl, noteActivity_offerView]
      simpa [offerView, ControlMessage.dues, asResponder, remembers, Traffic.none] using effect

section

variable [Libraries]

theorem offerTransfer_effect (offer : RoomTransferOffer) (clock : Clock) :
    self.Effect none 0 (self.offerTransfer offer clock) := by
  unfold offerTransfer
  split
  next error _ => exact failing_effect error
  next =>
    split
    · exact failing_effect _
    next free =>
      split
      · exact failing_effect _
      next fresh =>
        let pending : OfferState := { self.offers with pendingLocal := some offer.offerId }
        have passes := @passes_noteActivity { self with offers := pending.remember offer.offerId }
          (.send ⟨.transferOffer offer, rfl⟩)
        have unused : self.offers.pendingLocal = none := by
          simpa using (not_or.mp free).1
        have idle : self.offers.pendingRemote = none := by
          simpa using (not_or.mp free).2
        have effect := @OfferEffect.registers (self.offerView 0) offer.offerId unused idle fresh
        refine ⟨?_, passes.clean_after (After.dues_clean _) _⟩
        rw [passes.traffic_after rfl, noteActivity_offerView]
        simpa [offerView, ControlMessage.dues, asResponder, remembers, Traffic.none, pending]
          using effect

theorem begin_effect (request : Request) (clock : Clock) :
    self.Effect none 0 (self.begin request clock) := by
  cases request with
  | offerTransfer offer => exact offerTransfer_effect offer clock
  | acceptOffer offerId => exact resolveOffer_effect offerId none
  | rejectOffer offerId reason => exact resolveOffer_effect offerId (some reason)
  | setPolicy policy =>
    simp only [begin, setPolicy]
    split
    · exact failing_effect _
    · split
      · exact failing_effect _
      · exact Passes.effect_free (passes_await rfl)
  | setLocalTransferActive active =>
    simp only [begin, setLocalTransferActive]
    split
    · exact Passes.effect_free (passes_quietly rfl (zero_add _).symm)
    · split
      · exact Passes.effect_free (passes_await rfl)
      · exact Passes.effect_free (passes_await rfl)
  | noteActivity => exact Passes.effect_free (passes_noteActivity .finish)
  | ping nonce => exact Passes.effect_free (passes_call rfl)
  | close reason =>
    simp only [begin, close]
    split
    · split
      · exact failing_effect _
      · split
        · exact failing_effect _
        · exact Passes.effect_free (passes_await rfl)
    · exact Passes.effect_free (passes_call rfl)
  | nextEvent => exact Passes.effect_free (passes_call rfl)

theorem validate_error {offer : RoomTransferOffer} {broker : String} {relay : Option String}
    {clock : Clock} {error : CoreError} (fails : offer.validate broker relay clock = .error error) :
    ∃ message, error = .invalidInput message := by
  simp only [RoomTransferOffer.validate, bind_eq_error, reject_eq_error, okOr_eq_error,
    mapErr_eq_error, nowUnixSecs]
    at fails
  obtain ⟨_, rfl⟩ | ⟨_, _,
    ⟨_, rfl⟩ | ⟨_, _, ⟨_, rfl⟩ | ⟨_, _, ⟨_, _, rfl⟩ | ⟨_, _, ⟨_, rfl⟩ | ⟨_, _, ⟨_, rfl⟩ |
    ⟨_, _, ⟨_, rfl⟩ | ⟨_, _, names⟩⟩⟩⟩⟩⟩⟩ := fails
  all_goals first
    | exact ⟨_, rfl⟩
    | skip
  obtain ⟨_, _, failed⟩ := forM_eq_error names
  exact ⟨_, (reject_eq_error.mp failed).2.symm⟩

theorem receiveOffer_effect (offer : RoomTransferOffer) (clock : Clock) :
    self.Effect (some (.transferOffer offer)) 0 (self.receiveOffer offer clock) := by
  unfold receiveOffer
  cases verdict : offer.validate self.broker self.relay clock with
  | error error =>
    obtain ⟨message, same⟩ := validate_error verdict
    subst same
    have effect := @OfferEffect.refuses (self.offerView 0) offer.offerId .invalid
    constructor
    · simpa [offerView, traffic, quietly, Outcome.observed, ControlMessage.dues, Call.dues,
        Next.dues, Traffic.none]
        using effect
    · intro clean
      simpa [Dues.Clean, quietly, ControlMessage.dues, Call.dues, Next.dues,
        unknownOffer] using clean
  | ok done =>
    dsimp only
    split
    · have effect := @OfferEffect.refuses (self.offerView 0) offer.offerId .busy
      constructor
      · simpa [offerView, traffic, quietly, Outcome.observed, ControlMessage.dues, Call.dues,
          Next.dues, Traffic.none]
          using effect
      · intro clean
        simpa [Dues.Clean, quietly, ControlMessage.dues, Call.dues, Next.dues] using clean
    next free =>
      obtain ⟨noLocal, noRemote, fresh⟩ := not_or.mp free |>.imp id not_or.mp
      have idle : self.offers.pendingLocal = none := by simpa using noLocal
      have unused : self.offers.pendingRemote = none := by simpa using noRemote
      have effect := @OfferEffect.presents (self.offerView 0) offer.offerId unused idle fresh
      exact ⟨effect, id⟩

omit [Libraries] in
theorem receiveResponse_effect {message : ControlMessage} {answer : Answer}
    {event : RoomControlEvent} (carries : message.dues = (0, {answer}, 0))
    (concludes : asOfferer (.returned (.ok event)) = some (.concluded answer))
    (own : asResponder (.returned (.ok event)) = none)
    (forgotten : remembers (.returned (.ok event)) = none) :
    self.Effect (some message) 0 (self.receiveResponse answer.1 event) := by
  unfold receiveResponse
  cases resolved : self.offers.resolveLocalOffer answer.1 with
  | error error =>
    simp only [OfferState.resolveLocalOffer, bind_eq_error, reject_eq_error, pure_eq,
      reduceCtorEq, and_false, exists_false, or_false] at resolved
    obtain ⟨unexpected, same⟩ := resolved
    subst same
    have effect := @OfferEffect.unknown (self.offerView 0) answer unexpected
    refine ⟨?_, id⟩
    have silent :
      asResponder (.returned (.error (.protocol "peer responded to an unknown room offer"))) =
        none := rfl
    have nothing :
      remembers (.returned (.error (.protocol "peer responded to an unknown room offer"))) = none :=
        rfl
    simpa [offerView, traffic, returning, Outcome.observed, carries, asOfferer, silent, nothing,
      unknownOffer, Traffic.none] using effect
  | ok offers =>
    simp only [OfferState.resolveLocalOffer, bind_eq_ok, reject_eq_ok, exists_unit,
      not_not, pure_eq, Except.ok.injEq] at resolved
    obtain ⟨expected, same⟩ := resolved
    subst same
    have effect := @OfferEffect.concludes (self.offerView 0) answer expected
    refine ⟨?_, id⟩
    simpa [offerView, traffic, returning, Outcome.observed, carries, concludes, own, forgotten,
      Traffic.none] using effect

theorem receive_effect (message : ControlMessage) (clock : Clock) :
    self.Effect (some message) 0 (self.receive message clock) := by
  cases message with
  | hello hello => exact (returning_error_effect (by decide)).received rfl
  | transferOffer offer => exact receiveOffer_effect offer clock
  | offerAccepted offerId => exact @receiveResponse_effect _ _ (offerId, none) _ rfl rfl rfl rfl
  | offerRejected offerId reason =>
    exact @receiveResponse_effect _ _ (offerId, some reason) _ rfl rfl rfl rfl
  | lifetimeChanged state =>
    simp only [receive]
    split
    · exact (returning_error_effect (by decide)).received rfl
    · split
      · exact (returning_error_effect (by decide)).received rfl
      · exact (Passes.effect_free (passes_await rfl)).received rfl
  | activity =>
    simp only [receive]
    split
    · exact (returning_error_effect (by decide)).received rfl
    · split
      · exact (returning_error_effect (by decide)).received rfl
      · exact (Passes.effect_free (passes_await rfl)).received rfl
  | transferActive active =>
    simp only [receive]
    split
    · exact (returning_error_effect (by decide)).received rfl
    · split
      · exact (returning_error_effect (by decide)).received rfl
      · exact (Passes.effect_free (passes_await rfl)).received rfl
  | close reason =>
    simp only [receive]
    split
    · exact (returning_error_effect (by decide)).received rfl
    · split
      · exact (returning_error_effect (by decide)).received rfl
      · have effect :=
          @returning_effect { self with closed := true } (.peerClosed reason) rfl rfl rfl
        exact Effect.received ⟨effect.offers, effect.clean⟩ rfl
  | ping nonce => exact (Passes.effect_free (passes_call rfl)).received rfl
  | pong nonce => exact (returning_effect rfl rfl rfl).received rfl

end

/-! ### Resumed calls -/

theorem advance_error {lifetime : RoomLifetimeMachine} {deadline : Option UInt64}
    {error : CoreError} (fails : (lifetime.advance deadline).2 = .error error) :
    error ≠ unknownOffer := by
  unfold RoomLifetimeMachine.advance at fails
  split at fails
  · cases fails
    decide
  · cases fails

theorem applyTransferEdge_error {lifetime : RoomLifetimeMachine} {wasActive : Bool} {now : UInt64}
    {error : CoreError} (fails : (lifetime.applyTransferEdge wasActive now).2 = .error error) :
    error ≠ unknownOffer := by
  unfold RoomLifetimeMachine.applyTransferEdge at fails
  split at fails
  · cases fails
  · exact advance_error fails

theorem transition_error {transition : Transition} {lifetime : RoomLifetimeMachine} {now : UInt64}
    {error : CoreError} (fails : (transition.run lifetime now).2 = .error error) :
    error ≠ unknownOffer := by
  cases transition with
  | noteActivity =>
    simp only [Transition.run, RoomLifetimeMachine.noteActivity] at fails
    split at fails
    · cases fails
    · exact advance_error fails
  | setLocalTransferActive active =>
    simp only [Transition.run, RoomLifetimeMachine.setLocalTransferActive] at fails
    split at fails
    · cases fails
    · exact applyTransferEdge_error fails
  | setPeerTransferActive active =>
    simp only [Transition.run, RoomLifetimeMachine.setPeerTransferActive] at fails
    split at fails
    · cases fails
    · exact applyTransferEdge_error fails
  | setPolicy policy =>
    simp only [Transition.run, RoomLifetimeMachine.setPolicy] at fails
    split at fails
    · cases fails
    · exact advance_error fails

theorem applyAuthoritative_error {lifetime : RoomLifetimeMachine} {state : RoomLifetimeState}
    {error : CoreError} (fails : lifetime.applyAuthoritative state = .error error) :
    error ≠ unknownOffer := by
  simp only [RoomLifetimeMachine.applyAuthoritative, RoomLifetimeState.validate, bind_eq_error,
    reject_eq_error, pure_eq, reduceCtorEq, and_false, exists_false, or_false] at fails
  obtain (⟨_, rfl⟩ | ⟨_, _, _, rfl⟩) | ⟨_, _, _, rfl⟩ := fails
  · decide
  · decide
  · decide

theorem updateCreatorLifetime_effect (free : self.holding = none) (transition : Transition)
    (after : After) (clock : Clock) :
    self.Effect none after.dues (self.updateCreatorLifetime transition after clock) := by
  unfold updateCreatorLifetime
  cases clock with
  | none => exact abandon_effect (by decide) after
  | some now =>
    simp only [nowUnixMillis, okOr]
    cases changed : (transition.run self.lifetime now).2 with
    | error error =>
      have effect :=
        @abandon_effect { self with lifetime := (transition.run self.lifetime now).1 } error
        (transition_error changed) after
      exact ⟨effect.offers, effect.clean⟩
    | ok published =>
      cases published with
      | none =>
        have passes :=
          @passes_proceed { self with lifetime := (transition.run self.lifetime now).1 } after
        exact Passes.effect ⟨passes.sent, passes.events, passes.offers,
          passes.dues⟩ (After.dues_clean after)
      | some state =>
        refine Passes.effect ⟨rfl, rfl, rfl, ?_⟩ (After.dues_clean after)
        simp only [quietly, dues, free, Option.map_none, Option.getD_none, Option.map_some,
          Option.getD_some, add_zero, Holding.dues]
        exact add_comm ..

theorem granted_effect (free : self.holding = none) (update : Update) (clock : Clock) :
    self.Effect none update.dues (self.granted update clock) := by
  cases update with
  | transition transition after => exact updateCreatorLifetime_effect free transition after clock
  | transferActive active =>
    simp only [granted]
    split
    · exact Passes.effect_free (passes_quietly rfl (zero_add _).symm)
    · refine Passes.effect_free ⟨rfl, rfl, rfl, ?_⟩
      simp [quietly, dues, free, Holding.dues]
  | authoritative state =>
    simp only [granted]
    cases applied : self.lifetime.applyAuthoritative state with
    | error error => exact returning_error_effect (applyAuthoritative_error applied)
    | ok lifetime =>
      have effect := @returning_effect { self with lifetime } (.lifetimeChanged state) rfl rfl rfl
      exact ⟨effect.offers, effect.clean⟩
  | expire =>
    simp only [granted]
    cases clock with
    | none => exact failing_effect _
    | some now =>
      simp only [nowUnixMillis, okOr]
      split
      · exact failing_effect _
      · refine Passes.effect_free ⟨rfl, rfl, rfl, ?_⟩
        simp [quietly, dues, free, Holding.dues]

/-- What was written beside the rest of the step. -/
theorem traffic_writing (message : ControlMessage) (silent : traffic none outcome = .none) :
    traffic none (outcome.writing message) =
      { Traffic.none with
        offersWritten := message.dues.1
        answersWritten := message.dues.2.1
        asOfferer := (asOfferer (.wrote message)).toList
        asResponder := (asResponder (.wrote message)).toList } := by
  simp only [traffic, Traffic.none, Option.map_none, Option.getD_none, Traffic.mk.injEq,
    true_and] at silent
  obtain ⟨offers, answers, offerer, responder⟩ := silent
  simp only [Outcome.observed] at offerer responder
  simp only [traffic, Outcome.writing, Outcome.observed, List.map_cons, List.sum_cons, offers,
    answers, add_zero, List.cons_append, List.filterMap_cons, offerer, responder]
  cases asOfferer (.wrote message) <;> cases asResponder (.wrote message) <;> rfl

/-- The message that a call owed is on the stream, and the rest of the call is quiet. -/
theorem writing_effect {message : ControlMessage} {errors : Multiset CoreError}
    (silent : traffic none outcome = .none) (offers : outcome.session.offers = self.offers)
    (passed : outcome.session.dues + (0, 0, errors) = dues + self.dues) (clean : dues.Clean) :
    self.Effect none (message.dues + dues) (outcome.writing message) := by
  have passedOn : outcome.session.offerView 0 = self.offerView dues := offerView_eq offers passed
  refine ⟨?_, (Effect.of_quiet errors silent offers passed clean).clean⟩
  rw [traffic_writing message silent,
    show (outcome.writing message).session = outcome.session from rfl, passedOn]
  cases message with
  | transferOffer offer =>
    have effect :=
      @OfferEffect.offers (self.offerView (({offer.offerId}, 0, 0) + dues)) offer.offerId
      (dues.1 + self.dues.1) (by simp [offerView])
    simpa [offerView, ControlMessage.dues, asOfferer, asResponder, Traffic.none] using effect
  | offerAccepted offerId =>
    have effect :=
      @OfferEffect.responds (self.offerView ((0, {(offerId, none)}, 0) + dues)) (offerId, none)
      (dues.2.1 + self.dues.2.1) (by simp [offerView])
    simpa [offerView, ControlMessage.dues, asOfferer, asResponder, Traffic.none] using effect
  | offerRejected offerId reason =>
    have effect := @OfferEffect.responds (self.offerView ((0, {(offerId, some reason)}, 0) + dues))
      (offerId, some reason) (dues.2.1 + self.dues.2.1) (by simp [offerView])
    simpa [offerView, ControlMessage.dues, asOfferer, asResponder, Traffic.none] using effect
  | _ =>
    have effect := @OfferEffect.quiet (self.offerView dues)
    simpa [ControlMessage.dues, asOfferer, asResponder, Traffic.none] using effect

theorem Passes.writing (passes : self.Passes dues outcome) (clean : dues.Clean)
    (message : ControlMessage) :
    self.Effect none (message.dues + dues) (outcome.writing message) := by
  have silent : traffic none outcome = .none := by
    simp [traffic, Outcome.observed, passes.sent, passes.events, Traffic.none]
  exact @writing_effect self dues outcome message 0 silent passes.offers (by
    rw [passes.dues]; exact add_zero _) clean

/-- A message that no offer waits for. -/
theorem Passes.writing_other (passes : self.Passes dues outcome) (clean : dues.Clean)
    {message : ControlMessage} (other : message.dues = 0) :
    self.Effect none dues (outcome.writing message) := by
  have effect := passes.writing clean message
  rwa [other, zero_add] at effect

theorem heldWritten_effect (held : Holding) :
    self.Effect none held.dues (self.heldWritten held) := by
  have nothing : (0 : Dues).Clean := by simp [Dues.Clean]
  cases held with
  | publishing state after =>
    cases after with
    | finish => exact (passes_proceed .finish).writing_other nothing rfl
    | listen =>
      have effect := @writing_effect self 0 (self.returning (.ok (.lifetimeChanged state)))
        (.lifetimeChanged state) 0 rfl
        rfl (add_comm ..) nothing
      exact effect
    | send letter => exact (passes_proceed (.send letter)).writing_other (After.dues_clean _) rfl
  | announcing active =>
    exact Passes.writing_other (passes_quietly rfl (zero_add _).symm) nothing rfl
  | expiring now =>
    have passes : self.Passes 0 { self with closed := true }.quietly :=
      passes_quietly rfl (zero_add _).symm
    exact passes.writing_other nothing rfl

theorem heldFailed_effect (held : Holding) (error : String) :
    self.Effect none held.dues (self.heldFailed (.transport error) held) := by
  have known : CoreError.transport error ≠ unknownOffer := by simp [unknownOffer]
  cases held with
  | publishing state after =>
    have effect := @abandon_effect { self with closed := true } _ known after
    exact ⟨effect.offers, effect.clean⟩
  | announcing active =>
    have effect := @failing_effect { self with closed := true } (.transport error)
    exact ⟨effect.offers, effect.clean⟩
  | expiring now =>
    have effect := @failing_effect { self with closed := true } (.transport error)
    exact ⟨effect.offers, effect.clean⟩

theorem hintWritten_effect (after : After) : self.Effect none after.dues (self.hintWritten after) :=
  (passes_proceed after).writing_other (After.dues_clean after) rfl

theorem hintFailed_effect (after : After) (error : String) :
    self.Effect none after.dues (self.hintFailed (.transport error) after) := by
  have effect :=
    @abandon_effect { self with closed := true } (.transport error) (by simp [unknownOffer]) after
  exact ⟨effect.offers, effect.clean⟩

/-- The rest of a call after its last write is quiet. -/
theorem resume_quiet {next : Next} (clean : next.dues.Clean) :
    traffic none (self.resume next) = .none ∧ (self.resume next).session.offers = self.offers ∧
      ∃ errors, (self.resume next).session.dues + (0, 0, errors) = next.dues + self.dues := by
  cases next with
  | finish => exact ⟨rfl, rfl, 0, add_comm ..⟩
  | listen => exact ⟨rfl, rfl, 0, by simp [resume, quietly, Next.dues, Call.dues]⟩
  | fail error =>
    have known : error ≠ unknownOffer := fun same => clean (by simp [Next.dues, same])
    exact ⟨traffic_returning_error known, rfl, {error}, add_comm ..⟩

theorem written_effect (letter : Letter) {next : Next} (clean : next.dues.Clean) :
    self.Effect none (letter.message.dues + next.dues) (self.written letter next) := by
  have effect (session : RoomControlSession) :
      session.Effect none (letter.message.dues + next.dues)
          ((session.resume next).writing letter.message) := by
    obtain ⟨silent, offers, errors, passed⟩ := @resume_quiet session next clean
    exact writing_effect silent offers passed clean
  unfold written
  split
  · have closing := effect { self with closed := true }
    exact ⟨closing.offers, closing.clean⟩
  · exact effect self

theorem writeFailed_effect (letter : Letter) {next : Next} (clean : next.dues.Clean)
    (error : String) :
    self.Effect none (letter.message.dues + next.dues)
      (self.writeFailed (.transport error) letter next) := by
  cases next with
  | finish => exact giveUp_effect rfl rfl
  | listen => exact giveUp_effect rfl (traffic_returning_error (by simp [unknownOffer]))
  | fail cause =>
    have known : cause ≠ unknownOffer := fun same => clean (by simp [Next.dues, same])
    exact giveUp_effect rfl (traffic_returning_error known)

end RoomControlSession

end Envoix.Room
