import Envoix.Foundation.Replication
import Envoix.Room.Session

/-! # What a step does to the lifetime of a session

The transitions of the lifetime machine, and for every function of a session what it leaves of the
machine, of `lifetime_updates` and of the calls that wait for it. -/

namespace Envoix.Room

open Fallible Replication
open Envoix.Invite (Libraries)

/-! ## The machine -/

def maxRevision : UInt64 := UInt64.ofNat (2 ^ 64 - 1)

namespace RoomLifetimeMachine

/-- There is a deadline exactly while the room idles. -/
def Timed (machine : RoomLifetimeMachine) : Prop :=
  machine.state.idleDeadlineUnixMs.isSome ↔ machine.state.policy = .idle15Minutes ∧
    machine.anyTransferActive = false

variable {machine : RoomLifetimeMachine}

theorem Timed.valid (timed : machine.Timed) (positive : machine.state.revision ≠ 0) :
    machine.state.validate = .ok () := by
  simp only [RoomLifetimeState.validate, bind_eq_ok, reject_eq_ok, exists_unit]
  refine ⟨positive, ?_⟩
  intro ⟨foreground, deadline⟩
  have idle := (timed.mp deadline).1
  rw [foreground] at idle
  cases idle

/-- What a transition may do to a machine that has revisions left. -/
structure Transits (before after : RoomLifetimeMachine) (changed : Option RoomLifetimeState) :
    Prop where
  timed : after.Timed
  silent : changed = none → after.state = before.state
  published : ∀ state, changed = some state → after.state = state ∧
    before.state.revision < state.revision

theorem advance_spec {deadline : Option UInt64} (left : machine.state.revision < maxRevision)
    (timed : deadline.isSome ↔ machine.state.policy = .idle15Minutes ∧
      machine.anyTransferActive = false) :
    ∃ state, machine.advance deadline = ({ machine with state }, .ok (some state)) ∧
      machine.state.revision < state.revision ∧
      ({ machine with state } : RoomLifetimeMachine).Timed := by
  have fits : machine.state.revision.toNat + 1 < 2 ^ 64 := by
    have small := UInt64.lt_iff_toNat_lt.mp left
    have top : maxRevision.toNat = 2 ^ 64 - 1 := by decide
    omega
  have found : checkedAdd64 machine.state.revision 1 = some (machine.state.revision + 1) :=
    if_pos fits
  refine ⟨{ machine.state with
    revision := machine.state.revision + 1, idleDeadlineUnixMs := deadline }, ?_, ?_, timed⟩
  · rw [advance, found]
  · have sum := (checkedAdd64_eq_some.mp found).2
    exact UInt64.lt_iff_toNat_lt.mpr (by rw [sum]; exact Nat.lt_succ_self _)

theorem advance_revision_le (machine : RoomLifetimeMachine) (deadline : Option UInt64) :
    machine.state.revision ≤ (machine.advance deadline).1.state.revision := by
  rw [advance]
  cases found : checkedAdd64 machine.state.revision 1 with
  | none => exact UInt64.le_refl _
  | some revision =>
    have sum := (checkedAdd64_eq_some.mp found).2
    exact UInt64.le_iff_toNat_le.mpr (by rw [sum]; exact Nat.le_succ _)

/-- Nothing but the flags changed, and the deadline still fits them. -/
theorem Transits.unchanged {after : RoomLifetimeMachine} (same : after.state = machine.state)
    (timed : after.Timed) :
    Transits machine after none := by
  refine ⟨timed, fun _ => same, ?_⟩
  intro state changed
  cases changed

theorem Transits.advanced {after : RoomLifetimeMachine} (timed : after.Timed)
    (more : machine.state.revision < after.state.revision) :
    Transits machine after (some after.state) := by
  refine ⟨timed, ?_, ?_⟩
  · intro changed
    cases changed
  · intro state changed
    cases changed
    exact ⟨rfl, more⟩

/-- The flags have changed, and the deadline is to follow them. -/
theorem applyTransferEdge_spec {before : RoomLifetimeMachine} (timed : before.Timed)
    (same : machine.state = before.state) (left : machine.state.revision < maxRevision)
    (now : UInt64) :
    ∃ after changed, machine.applyTransferEdge before.anyTransferActive now = (after, .ok changed) ∧
      Transits before after changed ∧ after.peerTransferActive = machine.peerTransferActive := by
  rw [applyTransferEdge]
  by_cases quiet : before.anyTransferActive = machine.anyTransferActive ∨
    machine.state.policy ≠ .idle15Minutes
  · refine ⟨machine, none, if_pos quiet, .unchanged same ?_, rfl⟩
    rw [Timed, same]
    apply timed.trans
    cases quiet with
    | inl sameFlags => rw [sameFlags]
    | inr foreground =>
      rw [same] at foreground
      exact ⟨fun idle => absurd idle.1 foreground, fun idle => absurd idle.1 foreground⟩
  · rw [if_neg quiet]
    have idle : machine.state.policy = .idle15Minutes := not_not.mp (not_or.mp quiet).2
    obtain ⟨state, advanced, more, fits⟩ :=
      @advance_spec machine (if machine.anyTransferActive then none
        else some (saturatingAdd64 now roomIdleTimeoutMs)) left
        (by cases machine.anyTransferActive <;> simp [idle])
    refine ⟨_, _, advanced, .advanced fits ?_, rfl⟩
    rw [← same]
    exact more

end RoomLifetimeMachine

/-- The flag of the peer that a transition is told. -/
def Transition.announced : Transition → Option Bool
  | .setPeerTransferActive active => some active
  | _ => none

theorem Transition.run_spec {machine : RoomLifetimeMachine} (timed : machine.Timed)
    (left : machine.state.revision < maxRevision) (transition : Transition) (now : UInt64) :
    ∃ after changed, transition.run machine now = (after, .ok changed) ∧
      machine.Transits after changed ∧
      after.peerTransferActive =
        settled machine.peerTransferActive transition.announced.toList := by
  cases transition with
  | noteActivity =>
    simp only [run, RoomLifetimeMachine.noteActivity]
    by_cases quiet : machine.state.policy ≠ .idle15Minutes ∨ machine.anyTransferActive
    · exact ⟨machine, none, if_pos quiet, .unchanged rfl timed, rfl⟩
    · rw [if_neg quiet]
      obtain ⟨idle, inactive⟩ := not_or.mp quiet
      obtain ⟨state, advanced, more, fits⟩ :=
        @RoomLifetimeMachine.advance_spec machine
          (some (saturatingAdd64 now roomIdleTimeoutMs)) left
          ⟨fun _ => ⟨not_not.mp idle, Bool.eq_false_iff.mpr inactive⟩, fun _ => rfl⟩
      exact ⟨_, _, advanced, .advanced fits more, rfl⟩
  | setLocalTransferActive active =>
    simp only [run, RoomLifetimeMachine.setLocalTransferActive]
    by_cases same : machine.localTransferActive = active
    · exact ⟨machine, none, if_pos same, .unchanged rfl timed, rfl⟩
    · rw [if_neg same]
      exact @RoomLifetimeMachine.applyTransferEdge_spec { machine with
        localTransferActive := active } machine timed rfl
        left now
  | setPeerTransferActive active =>
    simp only [run, RoomLifetimeMachine.setPeerTransferActive]
    by_cases same : machine.peerTransferActive = active
    · exact ⟨machine, none, if_pos same, .unchanged rfl timed, same⟩
    · rw [if_neg same]
      exact @RoomLifetimeMachine.applyTransferEdge_spec { machine with
        peerTransferActive := active } machine timed rfl
        left now
  | setPolicy policy =>
    simp only [run, RoomLifetimeMachine.setPolicy]
    by_cases same : machine.state.policy = policy
    · exact ⟨machine, none, if_pos same, .unchanged rfl timed, rfl⟩
    · rw [if_neg same]
      obtain ⟨state, advanced, more, fits⟩ :=
        @RoomLifetimeMachine.advance_spec { machine with state := { machine.state with policy } }
          (if policy = .idle15Minutes ∧ ¬ machine.anyTransferActive then
            some (saturatingAdd64 now roomIdleTimeoutMs)
            else none) left (by split <;> simp_all [RoomLifetimeMachine.anyTransferActive])
      exact ⟨_, _, advanced, .advanced fits more, rfl⟩

/-- No transition takes a revision back, not even one that fails. -/
theorem Transition.run_revision_le (transition : Transition) (machine : RoomLifetimeMachine)
    (now : UInt64) :
    machine.state.revision ≤ (transition.run machine now).1.state.revision := by
  have edge (flagged : RoomLifetimeMachine) (wasActive : Bool) :
      flagged.state.revision ≤ (flagged.applyTransferEdge wasActive now).1.state.revision := by
    rw [RoomLifetimeMachine.applyTransferEdge]
    split
    · exact UInt64.le_refl _
    · exact RoomLifetimeMachine.advance_revision_le ..
  cases transition with
  | noteActivity =>
    simp only [run, RoomLifetimeMachine.noteActivity]
    split
    · exact UInt64.le_refl _
    · exact RoomLifetimeMachine.advance_revision_le ..
  | setLocalTransferActive active =>
    simp only [run, RoomLifetimeMachine.setLocalTransferActive]
    split
    · exact UInt64.le_refl _
    · exact edge { machine with localTransferActive := active } _
  | setPeerTransferActive active =>
    simp only [run, RoomLifetimeMachine.setPeerTransferActive]
    split
    · exact UInt64.le_refl _
    · exact edge { machine with peerTransferActive := active } _
  | setPolicy policy =>
    simp only [run, RoomLifetimeMachine.setPolicy]
    split
    · exact UInt64.le_refl _
    · exact RoomLifetimeMachine.advance_revision_le { machine with
        state := { machine.state with policy } } _

/-! ## What calls leave alone -/

/-- The state that a waiting call is going to apply. -/
def Update.applies : Update → Option RoomLifetimeState
  | .authoritative state => some state
  | _ => none

/-- The flag of the peer that a waiting call is going to set. -/
def Update.sets : Update → Option Bool
  | .transition change _ => change.announced
  | _ => none

/-- The calls of a creator and those of a joiner. -/
def Update.suits (creator : Bool) : Update → Bool
  | .transition _ _ | .expire => creator
  | .transferActive _ | .authoritative _ => !creator

def ControlMessage.publishes : ControlMessage → Option RoomLifetimeState
  | .lifetimeChanged state => some state
  | _ => none

def ControlMessage.announces : ControlMessage → Option Bool
  | .transferActive active => some active
  | _ => none

/-- What the holder of `lifetime_updates` writes. -/
def Holding.message : Holding → ControlMessage
  | .publishing state _ => .lifetimeChanged state
  | .announcing active => .transferActive active
  | .expiring _ => .close .idleExpired

theorem filterMap_toList {α β : Type} (value : Option α) (f : α → Option β) :
    value.toList.filterMap f = (value.bind f).toList := by
  cases value with
  | none => rfl
  | some value => cases found : f value <;> simp [found]

/-- The calls that a message makes a session wait for. -/
structure Asks (mode : RoomControlSessionMode) (received : Option ControlMessage)
    (asked : List Update) : Prop where
  suits : ∀ update ∈ asked, update.suits mode.isCreator = true
  applies : mode = .invitation false →
    asked.filterMap Update.applies = (received.bind ControlMessage.publishes).toList
  sets : mode = .invitation true →
    asked.filterMap Update.sets = (received.bind ControlMessage.announces).toList

theorem Asks.silent {mode : RoomControlSessionMode} {received : Option ControlMessage}
    (states : received.bind ControlMessage.publishes = none)
    (flags : received.bind ControlMessage.announces = none) : Asks mode received [] :=
  ⟨by simp, fun _ => by rw [states]; rfl, fun _ => by rw [flags]; rfl⟩

/-- A call of the application does not act for the peer. -/
theorem Asks.own {mode : RoomControlSessionMode} {update : Update}
    (suits : update.suits mode.isCreator = true) (applies : update.applies = none)
    (sets : update.sets = none) : Asks mode none [update] := by
  refine ⟨by simpa using suits, fun _ => ?_, fun _ => ?_⟩
  · simp [applies]
  · simp [sets]

namespace RoomControlSession

@[simp] theorem nowUnixMillis_some (now : UInt64) : nowUnixMillis (some now) = .ok now := rfl

/-- The lifetime is as it was, and `asked` has come to wait for it. -/
structure Keeps (before after : RoomControlSession) (asked : List Update) : Prop where
  mode : after.mode = before.mode
  lifetime : after.lifetime = before.lifetime
  holding : after.holding = before.holding
  waiting : after.waiting = before.waiting ++ asked
  closed : before.closed = true → after.closed = true

/-- A step that neither has `lifetime_updates` nor takes it. -/
structure Leaves (before : RoomControlSession) (outcome : Outcome) (asked : List Update) :
    Prop extends
    Keeps before outcome.session asked where
  sent : ∀ message ∈ outcome.sent, message.isLetter = true ∨ message = .activity
  events : ∀ message, .wrote message ∉ outcome.events

section

variable {self kept : RoomControlSession} {asked : List Update} {outcome : Outcome}

theorem Keeps.refl : self.Keeps self [] := ⟨rfl, rfl, rfl, (List.append_nil _).symm, id⟩

theorem Keeps.isOpen (keeps : self.Keeps kept asked) (isOpen : kept.closed = false) :
    self.closed = false := by
  by_contra closed
  rw [keeps.closed (Bool.eq_true_of_not_eq_false closed)] at isOpen
  cases isOpen

theorem Keeps.quietly (keeps : self.Keeps kept asked) : self.Leaves kept.quietly asked :=
  ⟨keeps, by simp [RoomControlSession.quietly], by simp [RoomControlSession.quietly]⟩

theorem Keeps.failing (keeps : self.Keeps kept asked) (error : CoreError) :
    self.Leaves (kept.failing error) asked :=
  ⟨keeps, by simp [RoomControlSession.failing], by simp [RoomControlSession.failing]⟩

theorem Keeps.returning (keeps : self.Keeps kept asked)
    (result : Except CoreError RoomControlEvent) :
    self.Leaves (kept.returning result) asked :=
  ⟨keeps, by simp [RoomControlSession.returning], by simp [RoomControlSession.returning]⟩

theorem Keeps.call (keeps : self.Keeps kept asked) (call : Call) :
    self.Keeps (kept.call call) asked :=
  ⟨keeps.mode, keeps.lifetime, keeps.holding, keeps.waiting, keeps.closed⟩

theorem Keeps.offers (keeps : self.Keeps kept asked) (offers : OfferState) :
    self.Keeps { kept with offers } asked :=
  ⟨keeps.mode, keeps.lifetime, keeps.holding, keeps.waiting, keeps.closed⟩

theorem Keeps.close (keeps : self.Keeps kept asked) :
    self.Keeps { kept with closed := true } asked :=
  ⟨keeps.mode, keeps.lifetime, keeps.holding, keeps.waiting, fun _ => rfl⟩

theorem Keeps.await (keeps : self.Keeps kept []) (update : Update) :
    self.Keeps (kept.await update) [update] := by
  refine ⟨keeps.mode, keeps.lifetime, keeps.holding, ?_, keeps.closed⟩
  rw [RoomControlSession.await, keeps.waiting, List.append_nil]

theorem Keeps.giveUp (keeps : self.Keeps kept asked) (message : ControlMessage) :
    self.Keeps (kept.giveUp message) asked := by
  cases message <;> first | exact keeps.close | exact keeps.close.offers _

theorem Keeps.proceed (keeps : self.Keeps kept asked) (rest : After) :
    self.Leaves (kept.proceed rest) asked := by
  cases rest with
  | finish => exact keeps.quietly
  | listen => exact (keeps.call _).quietly
  | send letter => exact (keeps.call _).quietly

theorem Keeps.resume (keeps : self.Keeps kept asked) (next : Next) :
    self.Leaves (kept.resume next) asked := by
  cases next with
  | finish => exact keeps.quietly
  | listen => exact (keeps.call _).quietly
  | fail error => exact keeps.returning _

theorem Keeps.abandon (keeps : self.Keeps kept asked) (error : CoreError) (rest : After) :
    self.Leaves (kept.abandon error rest) asked := by
  cases rest with
  | finish => exact keeps.failing _
  | listen => exact keeps.returning _
  | send letter => exact (keeps.giveUp _).failing _

theorem Leaves.after (leaves : self.Leaves outcome asked) {event : SessionEvent}
    (other : ∀ message, event ≠ .wrote message) :
    self.Leaves (outcome.after event) asked := by
  refine ⟨leaves.toKeeps, leaves.sent, ?_⟩
  intro message there
  cases List.mem_cons.mp there with
  | inl same => exact other message same.symm
  | inr earlier => exact leaves.events message earlier

theorem Leaves.writing (leaves : self.Leaves outcome asked) {message : ControlMessage}
    (plain : message.isLetter = true ∨ message = .activity) :
    self.Leaves (outcome.writing message) asked := by
  refine ⟨leaves.toKeeps, ?_, leaves.events⟩
  intro other there
  cases List.mem_cons.mp there with
  | inl same => exact same ▸ plain
  | inr earlier => exact leaves.sent other earlier

end

section

variable [Libraries] {self kept : RoomControlSession}

omit [Libraries] in
theorem Keeps.noteActivity (keeps : self.Keeps kept []) (rest : After) :
    ∃ asked, Asks self.mode none asked ∧ self.Leaves (kept.noteActivity rest) asked := by
  rw [RoomControlSession.noteActivity, keeps.mode]
  cases self.mode with
  | invitation creator =>
    cases creator with
    | true => exact ⟨_, .own rfl rfl rfl, (keeps.await (.transition .noteActivity rest)).quietly⟩
    | false => exact ⟨_, .silent rfl rfl, (keeps.call (.hinting rest)).quietly⟩
  | remembered generation => exact ⟨_, .silent rfl rfl, keeps.proceed rest⟩

omit [Libraries] in
theorem resolveOffer_leaves (offerId : String)
    (rejection : Option RoomOfferRejection) :
    ∃ asked, Asks self.mode none asked ∧
      self.Leaves (self.resolveOffer offerId rejection) asked := by
  unfold resolveOffer
  cases self.offers.resolveRemoteOffer offerId with
  | error error => exact ⟨_, .silent rfl rfl, Keeps.refl.failing error⟩
  | ok offers =>
    obtain ⟨asked, asks, leaves⟩ := (Keeps.refl.offers offers).noteActivity _
    exact ⟨asked, asks, leaves.after (by simp)⟩

theorem offerTransfer_leaves (offer : RoomTransferOffer) (clock : Clock) :
    ∃ asked, Asks self.mode none asked ∧ self.Leaves (self.offerTransfer offer clock) asked := by
  unfold offerTransfer
  split
  next error _ => exact ⟨_, .silent rfl rfl, Keeps.refl.failing error⟩
  next =>
    split
    · exact ⟨_, .silent rfl rfl, Keeps.refl.failing _⟩
    · split
      · exact ⟨_, .silent rfl rfl, Keeps.refl.failing _⟩
      · obtain ⟨asked, asks, leaves⟩ := (Keeps.refl.offers _).noteActivity _
        exact ⟨asked, asks, leaves.after (by simp)⟩

theorem begin_leaves (request : Request) (clock : Clock) :
    ∃ asked, Asks self.mode none asked ∧ self.Leaves (self.begin request clock) asked := by
  cases request with
  | offerTransfer offer => exact offerTransfer_leaves offer clock
  | acceptOffer offerId => exact resolveOffer_leaves offerId none
  | rejectOffer offerId reason => exact resolveOffer_leaves offerId (some reason)
  | setPolicy policy =>
    rw [begin, setPolicy]
    cases self.mode with
    | invitation creator =>
      cases creator with
      | true => exact ⟨_, .own rfl rfl rfl, (Keeps.refl.await _).quietly⟩
      | false => exact ⟨_, .silent rfl rfl, Keeps.refl.failing _⟩
    | remembered generation => exact ⟨_, .silent rfl rfl, Keeps.refl.failing _⟩
  | setLocalTransferActive active =>
    rw [begin, setLocalTransferActive]
    cases self.mode with
    | invitation creator =>
      cases creator with
      | true => exact ⟨_, .own rfl rfl rfl, (Keeps.refl.await _).quietly⟩
      | false => exact ⟨_, .own rfl rfl rfl, (Keeps.refl.await _).quietly⟩
    | remembered generation => exact ⟨_, .silent rfl rfl, Keeps.refl.quietly⟩
  | noteActivity => exact Keeps.refl.noteActivity .finish
  | ping nonce => exact ⟨_, .silent rfl rfl, (Keeps.refl.call _).quietly⟩
  | close reason =>
    rw [begin, close]
    by_cases expired : reason = .idleExpired
    · rw [dif_pos expired]
      cases self.mode with
      | invitation creator =>
        cases creator with
        | true => exact ⟨_, .own rfl rfl rfl, (Keeps.refl.await _).quietly⟩
        | false => exact ⟨_, .silent rfl rfl, Keeps.refl.failing _⟩
      | remembered generation => exact ⟨_, .silent rfl rfl, Keeps.refl.failing _⟩
    · rw [dif_neg expired]
      exact ⟨_, .silent rfl rfl, (Keeps.refl.call _).quietly⟩
  | nextEvent => exact ⟨_, .silent rfl rfl, (Keeps.refl.call _).quietly⟩

theorem receiveOffer_leaves (offer : RoomTransferOffer) (clock : Clock) :
    self.Leaves (self.receiveOffer offer clock) [] := by
  unfold receiveOffer
  split
  · exact (Keeps.refl.call _).quietly
  · split
    · exact (Keeps.refl.call _).quietly
    · exact (Keeps.refl.offers _).returning _

omit [Libraries] in
theorem receiveResponse_leaves (offerId : String) (event : RoomControlEvent) :
    self.Leaves (self.receiveResponse offerId event) [] := by
  rw [receiveResponse]
  cases self.offers.resolveLocalOffer offerId with
  | error error => exact Keeps.refl.returning _
  | ok offers => exact (Keeps.refl.offers offers).returning _

theorem receive_leaves (message : ControlMessage) (clock : Clock) :
    ∃ asked, Asks self.mode (some message) asked ∧
      self.Leaves (self.receive message clock) asked := by
  cases message with
  | hello hello => exact ⟨_, .silent rfl rfl, Keeps.refl.returning _⟩
  | transferOffer offer => exact ⟨_, .silent rfl rfl, receiveOffer_leaves offer clock⟩
  | offerAccepted offerId => exact ⟨_, .silent rfl rfl, receiveResponse_leaves offerId _⟩
  | offerRejected offerId reason => exact ⟨_, .silent rfl rfl, receiveResponse_leaves offerId _⟩
  | lifetimeChanged state =>
    rw [receive]
    cases self.mode with
    | invitation creator =>
      cases creator with
      | true => exact ⟨_, ⟨by simp, by simp, fun _ => rfl⟩, Keeps.refl.returning _⟩
      | false =>
        exact ⟨_, ⟨by simp [Update.suits, RoomControlSessionMode.isCreator], fun _ => rfl, by simp⟩,
          (Keeps.refl.await _).quietly⟩
    | remembered generation => exact ⟨_, ⟨by simp, by simp, by simp⟩, Keeps.refl.returning _⟩
  | activity =>
    rw [receive]
    cases self.mode with
    | invitation creator =>
      cases creator with
      | true =>
        exact ⟨_, ⟨by simp [Update.suits, RoomControlSessionMode.isCreator], by simp, fun _ => rfl⟩,
          (Keeps.refl.await _).quietly⟩
      | false => exact ⟨_, .silent rfl rfl, Keeps.refl.returning _⟩
    | remembered generation => exact ⟨_, ⟨by simp, by simp, by simp⟩, Keeps.refl.returning _⟩
  | transferActive active =>
    rw [receive]
    cases self.mode with
    | invitation creator =>
      cases creator with
      | true =>
        exact ⟨_, ⟨by simp [Update.suits, RoomControlSessionMode.isCreator], by simp, fun _ => rfl⟩,
          (Keeps.refl.await _).quietly⟩
      | false => exact ⟨_, ⟨by simp, fun _ => rfl, by simp⟩, Keeps.refl.returning _⟩
    | remembered generation => exact ⟨_, ⟨by simp, by simp, by simp⟩, Keeps.refl.returning _⟩
  | close reason =>
    rw [receive]
    split
    · exact ⟨_, .silent rfl rfl, Keeps.refl.returning _⟩
    · split
      · exact ⟨_, .silent rfl rfl, Keeps.refl.returning _⟩
      · exact ⟨_, .silent rfl rfl, Keeps.refl.close.returning _⟩
  | ping nonce => exact ⟨_, .silent rfl rfl, (Keeps.refl.call _).quietly⟩
  | pong nonce => exact ⟨_, .silent rfl rfl, Keeps.refl.returning _⟩

end

section

variable {self kept : RoomControlSession} {asked : List Update}

theorem Keeps.hintWritten (keeps : self.Keeps kept asked) (rest : After) :
    self.Leaves (kept.hintWritten rest) asked :=
  (keeps.proceed rest).writing (.inr rfl)

theorem Keeps.hintFailed (keeps : self.Keeps kept asked) (error : CoreError) (rest : After) :
    self.Leaves (kept.hintFailed error rest) asked :=
  keeps.close.abandon error rest

theorem Keeps.written (keeps : self.Keeps kept asked) (letter : Letter) (next : Next) :
    self.Leaves (kept.written letter next) asked := by
  obtain ⟨message, isLetter⟩ := letter
  cases message <;>
    first
    | exact (keeps.close.resume next).writing (.inl isLetter)
    | exact (keeps.resume next).writing (.inl isLetter)

theorem Keeps.writeFailed (keeps : self.Keeps kept asked) (error : CoreError) (letter : Letter)
    (next : Next) :
    self.Leaves (kept.writeFailed error letter next) asked := by
  cases next with
  | finish => exact (keeps.giveUp _).failing _
  | listen => exact (keeps.giveUp _).returning _
  | fail cause => exact (keeps.giveUp _).returning _

/-- The holder of `lifetime_updates` wrote its message. -/
structure Writes (before : RoomControlSession) (held : Holding) (outcome : Outcome) : Prop extends
    Keeps before outcome.session [] where
  sent : outcome.sent = [held.message]
  events : ∀ message, .wrote message ∉ outcome.events

theorem heldWritten_writes (held : Holding) : self.Writes held (self.heldWritten held) := by
  have proceeds (state : RoomLifetimeState) (rest : After) : self.Writes (.publishing state rest)
      ((self.proceed rest).writing (.lifetimeChanged state)) := by
    have leaves := (@Keeps.refl self).proceed rest
    refine ⟨leaves.toKeeps, ?_, leaves.events⟩
    cases rest <;> rfl
  cases held with
  | publishing state rest =>
    cases rest with
    | finish => exact proceeds state .finish
    | listen =>
      have leaves := (@Keeps.refl self).returning (.ok (.lifetimeChanged state))
      exact ⟨leaves.toKeeps, rfl, leaves.events⟩
    | send letter => exact proceeds state (.send letter)
  | announcing active =>
    have leaves := (@Keeps.refl self).quietly
    exact ⟨leaves.toKeeps, rfl, leaves.events⟩
  | expiring now =>
    have leaves := (@Keeps.refl self).close.quietly
    exact ⟨leaves.toKeeps, rfl, leaves.events⟩

theorem heldFailed_leaves (error : CoreError) (held : Holding) :
    self.Leaves (self.heldFailed error held) [] ∧
      (self.heldFailed error held).session.closed = true := by
  cases held with
  | publishing state rest =>
    refine ⟨Keeps.refl.close.abandon error rest, ?_⟩
    exact (Keeps.refl.abandon error rest).closed rfl
  | announcing active => exact ⟨Keeps.refl.close.failing error, rfl⟩
  | expiring now => exact ⟨Keeps.refl.close.failing error, rfl⟩

/-- What waits for `lifetime_updates` changes the machine, never to an earlier revision, and may
keep `lifetime_updates` for a write; the rest of it leaves both alone. -/
theorem granted_leaves (update : Update) (clock : Clock) :
    ∃ changed : RoomControlSession, changed.mode = self.mode ∧
    self.lifetime.state.revision ≤ changed.lifetime.state.revision ∧
    changed.Leaves (self.granted update clock) [] := by
  cases update with
  | transition transition rest =>
    cases clock with
    | none => exact ⟨self, rfl, UInt64.le_refl _, Keeps.refl.abandon _ rest⟩
    | some now =>
      have more := transition.run_revision_le self.lifetime now
      simp only [granted, updateCreatorLifetime, nowUnixMillis_some]
      generalize transition.run self.lifetime now = ran at more
      obtain ⟨lifetime, result⟩ := ran
      match result with
      | .error error => exact ⟨{ self with lifetime }, rfl, more, Keeps.refl.abandon error rest⟩
      | .ok none => exact ⟨{ self with lifetime }, rfl, more, Keeps.refl.proceed rest⟩
      | .ok (some state) =>
        exact ⟨{ self with lifetime, holding := some (.publishing state rest) }, rfl, more,
          Keeps.refl.quietly⟩
  | transferActive active =>
    rw [granted]
    split
    · exact ⟨self, rfl, UInt64.le_refl _, Keeps.refl.quietly⟩
    · let lifetime : RoomLifetimeMachine := { self.lifetime with localTransferActive := active }
      exact ⟨{ self with lifetime, holding := some (.announcing active) }, rfl, UInt64.le_refl _,
        Keeps.refl.quietly⟩
  | authoritative state =>
    rw [granted]
    cases applied : self.lifetime.applyAuthoritative state with
    | error error => exact ⟨self, rfl, UInt64.le_refl _, Keeps.refl.returning _⟩
    | ok lifetime =>
      simp only [RoomLifetimeMachine.applyAuthoritative, bind_eq_ok, reject_eq_ok,
        exists_unit, pure_eq, Except.ok.injEq] at applied
      obtain ⟨-, newer, same⟩ := applied
      subst same
      exact ⟨{ self with lifetime := { self.lifetime with state } }, rfl,
        UInt64.le_of_lt (UInt64.not_le.mp newer), Keeps.refl.returning _⟩
  | expire =>
    cases clock with
    | none => exact ⟨self, rfl, UInt64.le_refl _, Keeps.refl.failing _⟩
    | some now =>
      simp only [granted, nowUnixMillis_some]
      split
      · exact ⟨self, rfl, UInt64.le_refl _, Keeps.refl.failing _⟩
      · exact ⟨{ self with holding := some (.expiring now) }, rfl, UInt64.le_refl _,
          Keeps.refl.quietly⟩

end

end RoomControlSession

end Envoix.Room
