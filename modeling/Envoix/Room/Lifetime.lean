import Envoix.Room.LifetimeEffects
import Envoix.Invite.Codec

/-! # The lifetime of a room

The creator owns the lifetime of its room and publishes every change; the joiner owns its own
transfer flag and announces every change.  Each side's copy of what the other owns trails it through
the calls that hold or wait for `lifetime_updates` and the stream between them. -/

namespace Envoix.Room

open Fallible Replication
open Envoix.Invite (Libraries)

/-! ## Two sessions -/

/-- The states on their way into the joiner's machine. -/
def comingStates (creator joiner : RoomControlSession) (toJoiner : List ControlMessage) :
    List RoomLifetimeState :=
  joiner.waiting.filterMap Update.applies ++
    (toJoiner ++ creator.holding.toList.map Holding.message).filterMap ControlMessage.publishes

/-- The flags of the joiner on their way into the creator's machine. -/
def comingFlags (creator joiner : RoomControlSession) (toCreator : List ControlMessage) :
    List Bool :=
  creator.waiting.filterMap Update.sets ++
    (toCreator ++ joiner.holding.toList.map Holding.message).filterMap ControlMessage.announces

def Earlier (state later : RoomLifetimeState) : Prop := state.revision < later.revision

instance : IsTrans RoomLifetimeState Earlier := ⟨fun _ _ _ => UInt64.lt_trans⟩

/-- Any flag may follow any other. -/
def Whatever (_ _ : Bool) : Prop := True

instance : IsTrans Bool Whatever := ⟨fun _ _ _ _ _ => trivial⟩

/-- What the two machines, the calls around them and the stream have to do with each other.  The
flags of the joiner arrive only if the creator has always been able to read its clock. -/
structure LifetimesAgree (creator joiner : RoomControlSession)
    (toCreator toJoiner : List ControlMessage) (published : Option RoomLifetimeState)
    (clocked : Prop) : Prop where
  creatorWaits : ∀ update ∈ creator.waiting, update.suits true = true
  joinerWaits : ∀ update ∈ joiner.waiting, update.suits false = true
  timed : creator.lifetime.Timed
  states :
    Trails Earlier joiner.lifetime.state (comingStates creator joiner toJoiner)
      creator.lifetime.state
    (creator.closed = false)
  valid : ∀ state ∈ comingStates creator joiner toJoiner, state.validate = .ok ()
  flags : clocked →
    Trails Whatever creator.lifetime.peerTransferActive (comingFlags creator joiner toCreator)
    joiner.lifetime.localTransferActive (joiner.closed = false)
  published : creator.closed = false → (∀ held ∈ creator.holding, held.message.publishes = none) →
    published = some creator.lifetime.state
  expired : ∀ now, creator.holding = some (.expiring now) → creator.idleExpired now = true

/-- `now_unix_millis` failed. -/
def clockFailure : CoreError := .invalidInput "system clock precedes Unix epoch"

def SessionEvent.clockFailed : SessionEvent → Bool
  | .returned (.error error) | .failed error => error = clockFailure
  | _ => false

def SessionEvent.publishes : SessionEvent → Option RoomLifetimeState
  | .wrote (.hello hello) => hello.lifetime
  | .wrote message => message.publishes
  | _ => none

/-- The state that was published last, after some more messages. -/
def republished (published : Option RoomLifetimeState) (sent : List ControlMessage) :
    Option RoomLifetimeState :=
  (sent.filterMap ControlMessage.publishes).getLast?.or published

namespace RoomControlSession

variable {self : RoomControlSession} {outcome : Outcome} {asked : List Update}

theorem Leaves.publishes_nil (leaves : self.Leaves outcome asked) :
    outcome.sent.filterMap ControlMessage.publishes = [] := by
  rw [List.filterMap_eq_nil_iff]
  intro message there
  cases message with
  | lifetimeChanged state => cases leaves.sent _ there with
    | inl letter => cases letter
    | inr activity => cases activity
  | _ => rfl

theorem Leaves.announces_nil (leaves : self.Leaves outcome asked) :
    outcome.sent.filterMap ControlMessage.announces = [] := by
  rw [List.filterMap_eq_nil_iff]
  intro message there
  cases message with
  | transferActive active => cases leaves.sent _ there with
    | inl letter => cases letter
    | inr activity => cases activity
  | _ => rfl

end RoomControlSession

namespace LifetimesAgree

variable {creator joiner : RoomControlSession} {toCreator toJoiner rest : List ControlMessage}
  {published : Option RoomLifetimeState} {clocked : Prop} {outcome : Outcome} {asked : List Update}
  {received : Option ControlMessage}

/-- What a longer history still says of the clock, a shorter one said. -/
theorem clock (agree : LifetimesAgree creator joiner toCreator toJoiner published clocked)
    {later : Prop} (earlier : later → clocked) :
    LifetimesAgree creator joiner toCreator toJoiner published later :=
  { agree with flags := fun kept => agree.flags (earlier kept) }

theorem creatorLeaves
    (agree : LifetimesAgree creator joiner (received.toList ++ rest) toJoiner published clocked)
    (suits : ∀ update ∈ asked, update.suits true = true)
    (sets : asked.filterMap Update.sets = (received.bind ControlMessage.announces).toList)
    (leaves : creator.Leaves outcome asked) :
    LifetimesAgree outcome.session joiner rest (toJoiner ++ outcome.sent)
      (republished published outcome.sent) clocked := by
  have states : comingStates outcome.session joiner (toJoiner ++ outcome.sent) =
      comingStates creator joiner toJoiner := by
    simp only [comingStates, List.filterMap_append, leaves.publishes_nil, List.append_nil,
      leaves.holding]
  have flags : comingFlags outcome.session joiner rest =
      comingFlags creator joiner (received.toList ++ rest) := by
    have arrived : received.toList.filterMap ControlMessage.announces =
        asked.filterMap Update.sets := by
      rw [sets, filterMap_toList]
    simp only [comingFlags, leaves.waiting, List.filterMap_append, List.append_assoc, arrived]
  refine ⟨?_, agree.joinerWaits, ?_, ?_, ?_, ?_, ?_, ?_⟩
  · intro update there
    rw [leaves.waiting, List.mem_append] at there
    cases there with
    | inl earlier => exact agree.creatorWaits update earlier
    | inr more => exact suits update more
  · rw [leaves.lifetime]
    exact agree.timed
  · rw [states, leaves.lifetime]
    exact agree.states.weaken leaves.isOpen
  · rw [states]
    exact agree.valid
  · rw [flags, leaves.lifetime]
    exact agree.flags
  · intro isOpen free
    rw [republished, leaves.publishes_nil, leaves.lifetime]
    rw [leaves.holding] at free
    exact agree.published (leaves.isOpen isOpen) free
  · intro now holds
    rw [leaves.holding] at holds
    have expired := agree.expired now holds
    rw [RoomControlSession.idleExpired, leaves.lifetime]
    exact expired

theorem joinerLeaves
    (agree : LifetimesAgree creator joiner toCreator (received.toList ++ rest) published clocked)
    (suits : ∀ update ∈ asked, update.suits false = true)
    (applies : asked.filterMap Update.applies = (received.bind ControlMessage.publishes).toList)
    (leaves : joiner.Leaves outcome asked) :
    LifetimesAgree creator outcome.session (toCreator ++ outcome.sent) rest published clocked := by
  have states : comingStates creator outcome.session rest =
      comingStates creator joiner (received.toList ++ rest) := by
    have arrived : received.toList.filterMap ControlMessage.publishes =
        asked.filterMap Update.applies := by
      rw [applies, filterMap_toList]
    simp only [comingStates, leaves.waiting, List.filterMap_append, List.append_assoc, arrived]
  have flags : comingFlags creator outcome.session (toCreator ++ outcome.sent) =
      comingFlags creator joiner toCreator := by
    simp only [comingFlags, List.filterMap_append, leaves.announces_nil, List.append_nil,
      leaves.holding]
  refine ⟨agree.creatorWaits, ?_, agree.timed, ?_, ?_, ?_, agree.published, agree.expired⟩
  · intro update there
    rw [leaves.waiting, List.mem_append] at there
    cases there with
    | inl earlier => exact agree.joinerWaits update earlier
    | inr more => exact suits update more
  · rw [states, leaves.lifetime]
    exact agree.states
  · rw [states]
    exact agree.valid
  · rw [flags, leaves.lifetime]
    intro kept
    exact (agree.flags kept).weaken leaves.isOpen

section Grants

variable (agree : LifetimesAgree creator joiner toCreator toJoiner published clocked)

include agree

theorem creatorSettles (leaves : creator.Leaves outcome []) :
    LifetimesAgree outcome.session joiner toCreator (toJoiner ++ outcome.sent)
      (republished published outcome.sent) clocked :=
  @creatorLeaves _ _ _ _ _ _ _ _ none agree (by simp) rfl leaves

theorem joinerSettles (leaves : joiner.Leaves outcome []) :
    LifetimesAgree creator outcome.session (toCreator ++ outcome.sent) toJoiner published clocked :=
  @joinerLeaves _ _ _ _ _ _ _ _ none agree (by simp) rfl leaves

/-! ### The creator gets `lifetime_updates` -/

/-- The first call that waits begins, and it does not set the peer's flag. -/
theorem creatorTakes {update : Update} {others : List Update}
    (first : creator.waiting = update :: others) (own : clocked → update.sets = none) :
    LifetimesAgree { creator with waiting := others }
      joiner toCreator toJoiner published clocked := by
  refine ⟨?_, agree.joinerWaits, agree.timed, agree.states, agree.valid, ?_, agree.published,
    agree.expired⟩
  · intro update there
    exact agree.creatorWaits update (first ▸ List.mem_cons_of_mem _ there)
  · intro kept
    have flags := agree.flags kept
    simp only [comingFlags, first, List.filterMap_cons_none (own kept)] at flags
    exact flags

/-- A transition is run and what it changed is about to be published. -/
theorem creatorTransits {transition : Transition} {after : After} {others : List Update}
    (free : creator.holding = none)
    (first : creator.waiting = .transition transition after :: others)
    {lifetime : RoomLifetimeMachine} {changed : Option RoomLifetimeState}
    (transits : creator.lifetime.Transits lifetime changed)
    (peer : lifetime.peerTransferActive =
      settled creator.lifetime.peerTransferActive transition.announced.toList) :
    LifetimesAgree { creator with
        waiting := others
        lifetime
        holding := changed.elim creator.holding fun state => some (.publishing state after) }
      joiner toCreator toJoiner published clocked := by
  have waits : ∀ update ∈ others, update.suits true = true := by
    intro update there
    exact agree.creatorWaits update (first ▸ List.mem_cons_of_mem _ there)
  have flags : clocked → Trails Whatever lifetime.peerTransferActive
      (others.filterMap Update.sets ++
        (toCreator ++ joiner.holding.toList.map Holding.message).filterMap ControlMessage.announces)
      joiner.lifetime.localTransferActive (joiner.closed = false) := by
    intro kept
    have flags := agree.flags kept
    simp only [comingFlags, first] at flags
    cases announced : transition.announced with
    | none =>
      rw [announced] at peer
      rw [List.filterMap_cons_none (by exact announced)] at flags
      rw [peer]
      exact flags
    | some active =>
      rw [announced] at peer
      rw [List.filterMap_cons_some (by exact announced)] at flags
      rw [peer]
      exact flags.take.2
  cases changed with
  | none =>
    have same := transits.silent rfl
    refine ⟨waits, agree.joinerWaits, transits.timed, ?_, agree.valid, flags, ?_, ?_⟩
    · rw [same]
      exact agree.states
    · rw [same]
      exact agree.published
    · intro now holds
      rw [Option.elim_none, free] at holds
      cases holds
  | some state =>
    -- what changed is newer than all that is on the way, so it may follow it
    obtain ⟨same, newer⟩ := transits.published state rfl
    have states :
      comingStates { creator with
        waiting := others, lifetime, holding := some (.publishing state after) }
        joiner toJoiner = comingStates creator joiner toJoiner ++ [state] := by
      simp [comingStates, free, Holding.message, ControlMessage.publishes]
    refine ⟨waits, agree.joinerWaits, transits.timed, ?_, ?_, flags, ?_, ?_⟩
    · rw [Option.elim_some, states, same]
      exact agree.states.publish newer
    · intro found there
      rw [Option.elim_some, states, List.mem_append, List.mem_singleton] at there
      cases there with
      | inl earlier => exact agree.valid found earlier
      | inr last =>
        subst last
        rw [← same]
        apply transits.timed.valid
        rw [same]
        intro zero
        rw [zero] at newer
        exact absurd newer UInt64.not_lt_zero
    · intro _ silent
      cases silent _ rfl
    · intro now holds
      cases holds

theorem creatorExpires {now : UInt64} (free : creator.holding = none)
    (expired : creator.idleExpired now = true) :
    LifetimesAgree { creator with holding := some (.expiring now) }
      joiner toCreator toJoiner published clocked := by
  have states : comingStates { creator with holding := some (.expiring now) } joiner toJoiner =
      comingStates creator joiner toJoiner := by
    simp [comingStates, free, Holding.message, ControlMessage.publishes]
  refine ⟨agree.creatorWaits, agree.joinerWaits, agree.timed, ?_, ?_, agree.flags, ?_, ?_⟩
  · rw [states]
    exact agree.states
  · rw [states]
    exact agree.valid
  · intro isOpen _
    exact agree.published isOpen (by simp [free])
  · intro other holds
    cases holds
    exact expired

/-- What is waiting at a creator runs; without a clock it fails and changes nothing. -/
theorem creatorGranted {update : Update} {others : List Update} {clock : Clock}
    (free : creator.holding = none) (first : creator.waiting = update :: others)
    (left : creator.lifetime.state.revision < maxRevision)
    (kept : clocked →
      ∀ event ∈ ({ creator with waiting := others }.granted update clock).events,
        event.clockFailed = false) :
    let outcome := { creator with waiting := others }.granted update clock
    LifetimesAgree outcome.session joiner toCreator (toJoiner ++ outcome.sent)
      (republished published outcome.sent) clocked := by
  have suits := agree.creatorWaits update (first ▸ List.mem_cons_self ..)
  cases update with
  | transferActive active => cases suits
  | authoritative state => cases suits
  | expire =>
    have taken := agree.creatorTakes first fun _ => rfl
    cases clock with
    | none => exact taken.creatorSettles (RoomControlSession.Keeps.refl.failing _)
    | some now =>
      by_cases expired : { creator with waiting := others }.idleExpired now = true
      · have granted : { creator with waiting := others }.granted .expire (some now) =
            { creator with waiting := others, holding := some (.expiring now) }.quietly := by
          simp [RoomControlSession.granted, expired]
        simp only [granted]
        have expiring := taken.creatorExpires free expired
        exact expiring.creatorSettles RoomControlSession.Keeps.refl.quietly
      · have granted : { creator with waiting := others }.granted .expire (some now) =
            { creator with waiting := others }.failing
              (.invalidInput "room idle deadline has not expired") := by
          simp [RoomControlSession.granted, expired]
        simp only [granted]
        exact taken.creatorSettles (RoomControlSession.Keeps.refl.failing _)
  | transition transition after =>
    cases clock with
    | none =>
      -- This call fails for want of a clock, so nothing is promised of the flags.
      have unclocked : ¬ clocked := by
        intro always
        cases after with
        | finish => cases kept always (.failed clockFailure) (List.mem_singleton_self _)
        | listen => cases kept always (.returned (.error clockFailure)) (List.mem_singleton_self _)
        | send letter => cases kept always (.failed clockFailure) (List.mem_singleton_self _)
      have taken := agree.creatorTakes first fun always => absurd always unclocked
      exact taken.creatorSettles (RoomControlSession.Keeps.refl.abandon _ after)
    | some now =>
      obtain ⟨lifetime, changed, ran, transits, peer⟩ := transition.run_spec agree.timed left now
      have transited := agree.creatorTransits free first transits peer
      cases changed with
      | none =>
        have granted : { creator with waiting := others }.granted (.transition transition after)
            (some now) =
            { creator with waiting := others, lifetime }.proceed after := by
          simp [RoomControlSession.granted, RoomControlSession.updateCreatorLifetime, ran]
        simp only [granted]
        exact transited.creatorSettles (RoomControlSession.Keeps.refl.proceed after)
      | some state =>
        have granted : { creator with waiting := others }.granted (.transition transition after)
            (some now) =
            { creator with
              waiting := others, lifetime, holding := some (.publishing state after) }.quietly := by
          simp [RoomControlSession.granted, RoomControlSession.updateCreatorLifetime, ran]
        simp only [granted]
        exact transited.creatorSettles RoomControlSession.Keeps.refl.quietly

/-- The holder at the creator wrote its message. -/
theorem creatorWrote {held : Holding} (holds : creator.holding = some held)
    (connected : creator.closed = false)
    (writes : RoomControlSession.Writes { creator with holding := none } held outcome) :
    LifetimesAgree outcome.session joiner toCreator (toJoiner ++ outcome.sent)
      (republished published outcome.sent) clocked := by
  have states : comingStates outcome.session joiner (toJoiner ++ outcome.sent) =
      comingStates creator joiner toJoiner := by
    simp [comingStates, writes.holding, writes.sent, holds]
  have waiting : outcome.session.waiting = creator.waiting := by
    rw [writes.waiting, List.append_nil]
  have flags : comingFlags outcome.session joiner toCreator =
      comingFlags creator joiner toCreator := by
    simp only [comingFlags, waiting]
  refine ⟨?_, agree.joinerWaits, ?_, ?_, ?_, ?_, ?_, ?_⟩
  · rw [waiting]
    exact agree.creatorWaits
  · rw [writes.lifetime]
    exact agree.timed
  · rw [states, writes.lifetime]
    exact agree.states.weaken fun _ => connected
  · rw [states]
    exact agree.valid
  · rw [flags, writes.lifetime]
    exact agree.flags
  · intro _ _
    rw [republished, writes.sent, writes.lifetime]
    cases publishes : held.message.publishes with
    | none =>
      rw [List.filterMap_cons_none publishes]
      exact agree.published connected (by simp [holds, publishes])
    | some state =>
      rw [List.filterMap_cons_some publishes]
      -- nothing is ahead of what the holder publishes
      have latest := agree.states.latest connected
      simp only [comingStates, holds, Option.toList_some, List.map_cons, List.map_nil,
        List.filterMap_append, List.filterMap_cons_some publishes, settled_append] at latest
      exact congrArg some latest
  · intro now expiring
    rw [writes.holding] at expiring
    cases expiring

/-- The holder at the creator could not write its message. -/
theorem creatorFailed
    (leaves : RoomControlSession.Leaves { creator with holding := none } outcome [])
    (closed : outcome.session.closed = true) :
    LifetimesAgree outcome.session joiner toCreator (toJoiner ++ outcome.sent)
      (republished published outcome.sent) clocked := by
  have shut : ¬ outcome.session.closed = false := by
    rw [closed]
    exact Bool.noConfusion
  have states : comingStates outcome.session joiner (toJoiner ++ outcome.sent) =
      joiner.waiting.filterMap Update.applies ++ toJoiner.filterMap ControlMessage.publishes := by
    simp [comingStates, leaves.holding, leaves.publishes_nil]
  -- What the holder would have published was last on the way.
  have lost : comingStates creator joiner toJoiner =
      joiner.waiting.filterMap Update.applies ++ toJoiner.filterMap ControlMessage.publishes ++
        (creator.holding.toList.map Holding.message).filterMap ControlMessage.publishes := by
    rw [comingStates, List.filterMap_append, List.append_assoc]
  have waiting : outcome.session.waiting = creator.waiting := by
    rw [leaves.waiting, List.append_nil]
  have flags : comingFlags outcome.session joiner toCreator =
      comingFlags creator joiner toCreator := by
    simp only [comingFlags, waiting]
  refine ⟨?_, agree.joinerWaits, ?_, ?_, ?_, ?_, ?_, ?_⟩
  · rw [waiting]
    exact agree.creatorWaits
  · rw [leaves.lifetime]
    exact agree.timed
  · rw [states, leaves.lifetime]
    have trails := agree.states
    rw [lost] at trails
    exact (trails.weaken leaves.isOpen).lose shut
  · rw [states]
    intro state there
    apply agree.valid state
    rw [lost]
    exact List.mem_append_left _ there
  · rw [flags, leaves.lifetime]
    exact agree.flags
  · intro isOpen
    exact absurd isOpen shut
  · intro now expiring
    rw [leaves.holding] at expiring
    cases expiring

/-! ### The joiner gets `lifetime_updates` -/

/-- The state that is first in line can be applied. -/
theorem applies {state : RoomLifetimeState} {others : List Update}
    (first : joiner.waiting = .authoritative state :: others) :
    joiner.lifetime.applyAuthoritative state = .ok { joiner.lifetime with state } := by
  have states := agree.states
  have coming : comingStates creator joiner toJoiner =
      state :: comingStates creator { joiner with waiting := others } toJoiner := by
    simp [comingStates, first, Update.applies]
  have valid := agree.valid state (by rw [coming]; exact List.mem_cons_self ..)
  rw [coming] at states
  have newer := states.take.1
  rw [RoomLifetimeMachine.applyAuthoritative, valid, ok_bind, reject,
    if_neg (UInt64.not_le.mpr newer)]
  rfl

/-- What is waiting at a joiner runs, and a state that is waiting is applied. -/
theorem joinerGranted {update : Update} {others : List Update} {clock : Clock}
    (free : joiner.holding = none) (first : joiner.waiting = update :: others) :
    let outcome := { joiner with waiting := others }.granted update clock
    LifetimesAgree creator outcome.session (toCreator ++ outcome.sent)
      toJoiner published clocked := by
  have suits := agree.joinerWaits update (first ▸ List.mem_cons_self ..)
  have waits : ∀ update ∈ others, update.suits false = true := by
    intro update there
    exact agree.joinerWaits update (first ▸ List.mem_cons_of_mem _ there)
  cases update with
  | transition transition after => cases suits
  | expire => cases suits
  | transferActive active =>
    have states : comingStates creator { joiner with waiting := others } toJoiner =
        comingStates creator joiner toJoiner := by
      rw [comingStates, comingStates, first, List.filterMap_cons_none rfl]
    by_cases same : joiner.lifetime.localTransferActive = active
    · have granted : { joiner with waiting := others }.granted (.transferActive active) clock =
          { joiner with waiting := others }.quietly := if_pos same
      simp only [granted]
      have agreed :
          LifetimesAgree creator { joiner with waiting := others }
              toCreator toJoiner published clocked := by
        refine ⟨agree.creatorWaits, waits, agree.timed, ?_, ?_, agree.flags, agree.published,
          agree.expired⟩
        · rw [states]
          exact agree.states
        · rw [states]
          exact agree.valid
      exact agreed.joinerSettles RoomControlSession.Keeps.refl.quietly
    · let announcing : RoomControlSession := { joiner with
        waiting := others
        lifetime := { joiner.lifetime with localTransferActive := active }
        holding := some (.announcing active) }
      have granted : { joiner with waiting := others }.granted (.transferActive active) clock =
        announcing.quietly :=
        if_neg same
      simp only [granted]
      have flags : comingFlags creator announcing toCreator =
          comingFlags creator joiner toCreator ++ [active] := by
        simp [comingFlags, announcing, free, Holding.message, ControlMessage.announces]
      have agreed : LifetimesAgree creator announcing toCreator toJoiner published clocked := by
        refine ⟨agree.creatorWaits, waits, agree.timed, ?_, ?_, ?_, agree.published, agree.expired⟩
        · have trails := agree.states
          rw [← states] at trails
          exact trails
        · have valid := agree.valid
          rw [← states] at valid
          exact valid
        · rw [flags]
          exact fun kept => (agree.flags kept).publish trivial
      exact agreed.joinerSettles RoomControlSession.Keeps.refl.quietly
  | authoritative state =>
    have states := agree.states
    have coming : comingStates creator joiner toJoiner =
        state :: comingStates creator { joiner with waiting := others } toJoiner := by
      simp [comingStates, first, Update.applies]
    rw [coming] at states
    obtain ⟨newer, trails⟩ := states.take
    -- what is first in line is newer than the joiner's state, so it is never refused
    have applied := agree.applies first
    have granted : { joiner with waiting := others }.granted (.authoritative state) clock =
        { joiner with waiting := others, lifetime := { joiner.lifetime with state } }.returning
          (.ok (.lifetimeChanged state)) := by
      simp [RoomControlSession.granted, applied]
    simp only [granted]
    have agreed :
      LifetimesAgree creator { joiner with
        waiting := others, lifetime := { joiner.lifetime with state } }
        toCreator toJoiner published clocked := by
      refine ⟨agree.creatorWaits, waits, agree.timed, trails, ?_, agree.flags, agree.published,
        agree.expired⟩
      intro other there
      apply agree.valid other
      rw [coming]
      exact List.mem_cons_of_mem _ there
    exact agreed.joinerSettles (RoomControlSession.Keeps.refl.returning _)

/-- The holder at the joiner wrote its message. -/
theorem joinerWrote {held : Holding} (holds : joiner.holding = some held)
    (connected : joiner.closed = false)
    (writes : RoomControlSession.Writes { joiner with holding := none } held outcome) :
    LifetimesAgree creator outcome.session (toCreator ++ outcome.sent)
      toJoiner published clocked := by
  have waiting : outcome.session.waiting = joiner.waiting := by
    rw [writes.waiting, List.append_nil]
  have states : comingStates creator outcome.session toJoiner =
      comingStates creator joiner toJoiner := by
    simp only [comingStates, waiting]
  have flags : comingFlags creator outcome.session (toCreator ++ outcome.sent) =
      comingFlags creator joiner toCreator := by
    simp [comingFlags, writes.holding, writes.sent, holds]
  refine ⟨agree.creatorWaits, ?_, agree.timed, ?_, ?_, ?_, agree.published, agree.expired⟩
  · rw [waiting]
    exact agree.joinerWaits
  · rw [states, writes.lifetime]
    exact agree.states
  · rw [states]
    exact agree.valid
  · rw [flags, writes.lifetime]
    exact fun kept => (agree.flags kept).weaken fun _ => connected

/-- The holder at the joiner could not write its message. -/
theorem joinerFailed
    (leaves : RoomControlSession.Leaves { joiner with holding := none } outcome [])
    (closed : outcome.session.closed = true) :
    LifetimesAgree creator outcome.session (toCreator ++ outcome.sent)
      toJoiner published clocked := by
  have shut : ¬ outcome.session.closed = false := by
    rw [closed]
    exact Bool.noConfusion
  have waiting : outcome.session.waiting = joiner.waiting := by
    rw [leaves.waiting, List.append_nil]
  have states : comingStates creator outcome.session toJoiner =
      comingStates creator joiner toJoiner := by
    simp only [comingStates, waiting]
  have flags : comingFlags creator outcome.session (toCreator ++ outcome.sent) =
      creator.waiting.filterMap Update.sets ++ toCreator.filterMap ControlMessage.announces := by
    simp [comingFlags, leaves.holding, leaves.announces_nil]
  refine ⟨agree.creatorWaits, ?_, agree.timed, ?_, ?_, ?_, agree.published, agree.expired⟩
  · rw [waiting]
    exact agree.joinerWaits
  · rw [states, leaves.lifetime]
    exact agree.states
  · rw [states]
    exact agree.valid
  · rw [flags, leaves.lifetime]
    intro kept
    have trails := agree.flags kept
    rw [comingFlags, List.filterMap_append, ← List.append_assoc] at trails
    exact (trails.weaken leaves.isOpen).lose shut

end Grants

end LifetimesAgree

/-! ## Rooms -/

/-- What a step can do to the lifetime of the session that takes it. -/
inductive RoomControlSession.Move (before : RoomControlSession) : Option ControlMessage →
    Outcome → Prop where
  | leaves {received : Option ControlMessage} {outcome : Outcome} {asked : List Update}
      (asks : Asks before.mode received asked) (leaves : before.Leaves outcome asked) :
      before.Move received outcome
  | grants {update : Update} {others : List Update} (clock : Clock) (free : before.holding = none)
      (first : before.waiting = update :: others) :
      before.Move none ({ before with waiting := others }.granted update clock)
  | writes {held : Holding} {outcome : Outcome} (holds : before.holding = some held)
      (connected : before.closed = false)
      (writes : RoomControlSession.Writes { before with holding := none } held outcome) :
      before.Move none outcome
  | fails {outcome : Outcome}
      (leaves : RoomControlSession.Leaves { before with holding := none } outcome [])
      (closed : outcome.session.closed = true) : before.Move none outcome

namespace RoomControlSession.Move

variable {before : RoomControlSession} {received : Option ControlMessage} {outcome : Outcome}

theorem mode (move : before.Move received outcome) : outcome.session.mode = before.mode := by
  cases move with
  | leaves asks leaves => exact leaves.mode
  | @grants update others clock free first =>
    obtain ⟨changed, mode, -, leaves⟩ :=
      @granted_leaves { before with waiting := others } update clock
    exact leaves.mode.trans mode
  | writes holds connected writes => exact writes.mode
  | fails leaves closed => exact leaves.mode

theorem revision_le (move : before.Move received outcome) :
    before.lifetime.state.revision ≤ outcome.session.lifetime.state.revision := by
  cases move with
  | leaves asks leaves => rw [leaves.lifetime]; exact UInt64.le_refl _
  | @grants update others clock free first =>
    obtain ⟨changed, -, more, leaves⟩ :=
      @granted_leaves { before with waiting := others } update clock
    rw [leaves.lifetime]
    exact more
  | writes holds connected writes => rw [writes.lifetime]; exact UInt64.le_refl _
  | fails leaves closed => rw [leaves.lifetime]; exact UInt64.le_refl _

/-- What is observed of a step that is not a message. -/
theorem events (move : before.Move received outcome) (message : ControlMessage) :
    .wrote message ∉ outcome.events := by
  cases move with
  | leaves asks leaves => exact leaves.events message
  | @grants update others clock free first =>
    obtain ⟨changed, -, -, leaves⟩ := @granted_leaves { before with waiting := others } update clock
    exact leaves.events message
  | writes holds connected writes => exact writes.events message
  | fails leaves closed => exact leaves.events message

/-- A message is that of the holder, or is none about the lifetime. -/
theorem sent (move : before.Move received outcome) {message : ControlMessage}
    (there : message ∈ outcome.sent) :
    (message.isLetter = true ∨ message = .activity) ∨
      before.closed = false ∧ ∃ held, before.holding = some held ∧ message = held.message := by
  cases move with
  | leaves asks leaves => exact .inl (leaves.sent message there)
  | @grants update others clock free first =>
    obtain ⟨changed, -, -, leaves⟩ := @granted_leaves { before with waiting := others } update clock
    exact .inl (leaves.sent message there)
  | writes holds connected writes =>
    rw [writes.sent, List.mem_singleton] at there
    exact .inr ⟨connected, _, holds, there⟩
  | fails leaves closed => exact .inl (leaves.sent message there)

theorem sent_not_hello (move : before.Move received outcome) (hello : Hello) :
    .hello hello ∉ outcome.sent := by
  intro there
  cases move.sent there with
  | inl plain =>
    cases plain with
    | inl letter => cases letter
    | inr activity => cases activity
  | inr held =>
    obtain ⟨-, held, -, same⟩ := held
    cases held <;> cases same

end RoomControlSession.Move

namespace RoomPair

variable {room next : RoomPair}

theorem Step.move [Libraries] (step : Step room next) :
    ∃ side received rest outcome, room.inbox side = received.toList ++ rest ∧
      next = (room.taken side rest).apply side outcome ∧
      (room.session side).Move received outcome := by
  have silent {side : Side} {outcome : Outcome} (move : (room.session side).Move none outcome) :
      ∃ own received rest found, room.inbox own = received.toList ++ rest ∧
        room.apply side outcome = (room.taken own rest).apply own found ∧
        (room.session own).Move received found := by
    refine ⟨side, none, room.inbox side, outcome, rfl, ?_, move⟩
    rw [taken_all]
  -- a call that neither waits for `lifetime_updates` nor reads
  have keeps {side : Side} {outcome : Outcome} (leaves : (room.session side).Leaves outcome []) :
      (room.session side).Move none outcome := .leaves (.silent rfl rfl) leaves
  have forget (side : Side) (others : Multiset Call) :
      (room.session side).Keeps { room.session side with calls := others } [] :=
    ⟨rfl, rfl, rfl, (List.append_nil _).symm, id⟩
  cases step with
  | begins side request clock =>
    obtain ⟨asked, asks, leaves⟩ :=
      @RoomControlSession.begin_leaves _ (room.session side) request clock
    exact silent (.leaves asks leaves)
  | grants side clock free first => exact silent (.grants clock free first)
  | writesHeld side holds connected =>
    exact silent (.writes holds connected (RoomControlSession.heldWritten_writes _))
  | @failsHeld side held error holds gone =>
    obtain ⟨leaves, closed⟩ :=
      @RoomControlSession.heldFailed_leaves { room.session side with holding := none }
        (.transport error) held
    exact silent (.fails leaves closed)
  | writesHint side inProgress connected => exact silent (keeps ((forget side _).hintWritten _))
  | failsHint side error inProgress gone => exact silent (keeps ((forget side _).hintFailed _ _))
  | writes side inProgress connected => exact silent (keeps ((forget side _).written _ _))
  | fails side error inProgress gone => exact silent (keeps ((forget side _).writeFailed _ _ _))
  | @receives side message rest others clock inProgress arrived =>
    obtain ⟨asked, asks, leaves⟩ :=
      @RoomControlSession.receive_leaves _ { room.session side with calls := others } message clock
    have left :
      (room.session side).Leaves ({ room.session side with calls := others }.receive message clock)
        asked :=
      ⟨⟨leaves.mode, leaves.lifetime, leaves.holding, leaves.waiting, leaves.closed⟩, leaves.sent,
        leaves.events⟩
    exact ⟨side, some message, rest, _, arrived, rfl, .leaves asks left⟩
  | losesStream side error inProgress gone => exact silent (keeps ((forget side _).returning _))

/-! ### What the creator published -/

/-- The states that a side has sent, with its hello or later. -/
def publications (creator : Side) (history : List (Side × SessionEvent)) : List RoomLifetimeState :=
  history.filterMap fun observation => if observation.1 = creator then
    observation.2.publishes else none

/-- The state that the peer of the creator was sent last. -/
def lastPublished (room : RoomPair) (creator : Side) : Option RoomLifetimeState :=
  (publications creator room.history).getLast?

theorem publications_map (creator side : Side) (events : List SessionEvent) :
    publications creator (events.map fun event => (side, event)) =
      if side = creator then events.filterMap SessionEvent.publishes else [] := by
  rw [publications, List.filterMap_map]
  by_cases own : side = creator
  · simp only [Function.comp_def, own, if_true]
  · simp [own]

theorem lastPublished_peer {creator side : Side} (other : side ≠ creator) (outcome : Outcome) :
    (room.apply side outcome).lastPublished creator = room.lastPublished creator := by
  have wrote := publications_map creator side (outcome.sent.map SessionEvent.wrote)
  have events := publications_map creator side outcome.events
  rw [if_neg other] at wrote events
  simp only [publications, List.map_map, Function.comp_def] at wrote events
  simp only [lastPublished, publications, apply, List.filterMap_append, events, wrote,
    List.append_nil]

theorem lastPublished_self {side : Side} {outcome : Outcome}
    (hello : ∀ hello, .hello hello ∉ outcome.sent)
      (events : ∀ message, .wrote message ∉ outcome.events) :
    (room.apply side outcome).lastPublished side =
      republished (room.lastPublished side) outcome.sent := by
  have wrote := publications_map side side (outcome.sent.map SessionEvent.wrote)
  have others := publications_map side side outcome.events
  have silent : outcome.events.filterMap SessionEvent.publishes = [] := by
    rw [List.filterMap_eq_nil_iff]
    intro event there
    cases event with
    | wrote message => exact absurd there (events message)
    | _ => rfl
  have published : (outcome.sent.map SessionEvent.wrote).filterMap SessionEvent.publishes =
      outcome.sent.filterMap ControlMessage.publishes := by
    rw [List.filterMap_map]
    apply List.filterMap_congr
    intro message there
    cases message with
    | hello found => exact absurd there (hello found)
    | _ => rfl
  rw [if_pos rfl, published] at wrote
  rw [if_pos rfl, silent] at others
  simp only [publications, List.map_map, Function.comp_def] at wrote others
  simp only [lastPublished, publications, apply, List.filterMap_append, others,
    List.append_nil, wrote]
  rw [List.getLast?_append, republished]

/-! ### Every room -/

/-- No call of the side has ever failed to read the clock. -/
def Clocked (room : RoomPair) (side : Side) : Prop :=
  ∀ event, (side, event) ∈ room.history → event.clockFailed = false

structure LifetimesHold (room : RoomPair) (creator : Side) : Prop where
  created : (room.session creator).mode = .invitation true
  joined : (room.session creator.peer).mode = .invitation false
  agree : (room.session creator).lifetime.state.revision < maxRevision →
    LifetimesAgree (room.session creator) (room.session creator.peer) (room.inbox creator)
      (room.inbox creator.peer) (room.lastPublished creator) (room.Clocked creator)

theorem LifetimesHold.step [Libraries] {creator : Side} (holds : room.LifetimesHold creator)
    (step : Step room next) :
    next.LifetimesHold creator := by
  obtain ⟨side, received, rest, outcome, arrived, leads, move⟩ := step.move
  subst leads
  have clock (kept : ((room.taken side rest).apply side outcome).Clocked creator) :
    room.Clocked creator :=
    fun event there => kept event (List.mem_append_left _ (List.mem_append_left _ there))
  -- A revision once at its maximum stays there, so the run has been below it all along.
  have earlier
    (left : (((room.taken side rest).apply side outcome).session creator).lifetime.state.revision <
      maxRevision) :
      (room.session creator).lifetime.state.revision < maxRevision := by
    refine UInt64.lt_of_le_of_lt ?_ left
    by_cases own : creator = side
    · subst own
      simpa [apply] using move.revision_le
    · simp [apply, own, taken]
  -- The side that moved is the creator or the joiner, and each move has its lemma.
  cases creator.eq_or_peer side with
  | inl same =>
    subst same
    refine ⟨?_, ?_, ?_⟩
    · simpa [apply] using move.mode.trans holds.created
    · simpa [apply, taken] using holds.joined
    · intro left
      have agree := (holds.agree (earlier left)).clock clock
      rw [arrived] at agree
      rw [lastPublished_self move.sent_not_hello move.events]
      simp only [apply, taken, Function.update_self, Function.update_of_ne (Side.peer_ne side),
        Function.update_of_ne (Side.ne_peer side)]
      cases move with
      | leaves asks leaves =>
        have suits := asks.suits
        rw [holds.created] at suits
        exact agree.creatorLeaves suits (asks.sets holds.created) leaves
      | grants clock free first =>
        refine agree.creatorGranted free first (earlier left) ?_
        intro kept event there
        exact kept event (List.mem_append_right _ (List.mem_map_of_mem there))
      | writes held connected writes => exact agree.creatorWrote held connected writes
      | fails leaves closed => exact agree.creatorFailed leaves closed
  | inr same =>
    subst same
    refine ⟨?_, ?_, ?_⟩
    · simpa [apply, taken] using holds.created
    · simpa [apply] using move.mode.trans holds.joined
    · intro left
      have agree := (holds.agree (earlier left)).clock clock
      rw [arrived] at agree
      rw [lastPublished_peer (Side.peer_ne creator)]
      simp only [apply, taken, Function.update_self, Side.peer_peer,
        Function.update_of_ne (Side.peer_ne creator), Function.update_of_ne (Side.ne_peer creator)]
      cases move with
      | leaves asks leaves =>
        have suits := asks.suits
        rw [holds.joined] at suits
        exact agree.joinerLeaves suits (asks.applies holds.joined) leaves
      | grants clock free first => exact agree.joinerGranted free first
      | writes held connected writes => exact agree.joinerWrote held connected writes
      | fails leaves closed => exact agree.joinerFailed leaves closed

theorem validateControlHello_ok {hello : Hello} {mode : RoomControlSessionMode}
    {binding : ByteCodec.Bytes} {own : Option RoomLifetimeState} {name : String}
    {state : RoomLifetimeState}
    (accepted : validateControlHello (.hello hello) mode binding own = .ok (name, state)) :
    hello.sessionKind = mode.sessionKind ∧
      establishLifetime mode own hello.creator hello.lifetime = .ok state := by
  simp only [validateControlHello, helloOf, bind_eq_ok, reject_eq_ok, exists_unit, pure_eq,
    Except.ok.injEq, Prod.mk.injEq] at accepted
  obtain ⟨found, ⟨-, -, same⟩, kind, -, lifetime, established, -, result⟩ := accepted
  subst same result
  exact ⟨not_not.mp kind, established⟩

/-- The peer that a creator accepts is a joiner, and the creator keeps its own lifetime. -/
theorem establishLifetime_creator {joiner : RoomControlSessionMode} {own state : RoomLifetimeState}
    {now : UInt64} (kind : joiner.sessionKind = .invitation)
    (established : establishLifetime (.invitation true)
      (some own) joiner.isCreator (localLifetime joiner now) = .ok state) :
    joiner = .invitation false ∧ state = own := by
  match joiner with
  | .invitation false =>
    cases established
    exact ⟨rfl, rfl⟩
  | .invitation true => cases established
  | .remembered _ => cases kind

theorem establishLifetime_joiner {own state : RoomLifetimeState}
    (established : establishLifetime (.invitation false) none true (some own) = .ok state) :
    state = own := by
  obtain ⟨_, _, same⟩ := bind_eq_ok.mp established
  exact (Except.ok.inj same).symm

theorem LifetimesHold.opened {creator : Side} (opened : Opened room)
    (created : (room.session creator).mode = .invitation true) : room.LifetimesHold creator := by
  obtain ⟨mode, broker, relay, name, binding, now, lifetime, accepted⟩ := opened
  have isCreator : mode creator = .invitation true := created
  obtain ⟨kind, established⟩ := validateControlHello_ok (accepted creator)
  rw [isCreator] at kind established
  obtain ⟨joined, mine⟩ := establishLifetime_creator kind established
  have copied : lifetime creator.peer = .initial (now creator) := by
    have theirs := accepted creator.peer
    rw [Side.peer_peer] at theirs
    have established := (validateControlHello_ok theirs).2
    rw [joined, isCreator] at established
    exact establishLifetime_joiner established
  have sent : localLifetime (mode creator) (now creator) = some (.initial (now creator)) := by
    rw [isCreator]
    rfl
  refine ⟨created, joined, fun _ => ⟨nofun, nofun, ?_, ?_, nofun, fun _ => ?_, ?_, nofun⟩⟩
  · simp [RoomControlSession.opened, RoomLifetimeMachine.new, RoomLifetimeMachine.Timed,
      RoomLifetimeMachine.anyTransferActive, mine, RoomLifetimeState.initial]
  · show Trails Earlier (lifetime creator.peer) [] (lifetime creator) _
    rw [mine, copied]
    exact .start _
  · exact .start _
  · intro _ _
    show _ = some (lifetime creator)
    rw [mine]
    cases creator with
    | left => simp [lastPublished, publications, localHello, SessionEvent.publishes, sent]
    | right => simp [lastPublished, publications, localHello, SessionEvent.publishes, sent]

theorem Step.mode [Libraries] (step : Step room next) (side : Side) :
    (next.session side).mode = (room.session side).mode := by
  obtain ⟨mover, received, rest, outcome, arrived, leads, move⟩ := step.move
  subst leads
  by_cases own : side = mover
  · subst own
    simpa [apply] using move.mode
  · simp [apply, taken, own]

/-- The close of an idle room is written by the call that found the deadline to have passed. -/
theorem Step.expiring [Libraries] {side : Side} {events : List (Side × SessionEvent)}
    (step : Step room next) (grows : next.history = room.history ++ events)
    (closes : (side, .wrote (.close .idleExpired)) ∈ events) :
    ∃ now, (room.session side).holding = some (.expiring now) ∧
      (room.session side).closed = false := by
  obtain ⟨mover, received, rest, outcome, arrived, leads, move⟩ := step.move
  subst leads
  have same : events = (outcome.sent.map fun message => (mover, .wrote message)) ++
      outcome.events.map fun event => (mover, event) := by
    simp only [apply, taken, List.append_assoc] at grows
    exact (List.append_cancel_left grows).symm
  rw [same, List.mem_append, List.mem_map, List.mem_map] at closes
  cases closes with
  | inl wrote =>
    obtain ⟨message, there, equal⟩ := wrote
    cases equal
    cases move.sent there with
    | inl plain =>
      cases plain with
      | inl letter => cases letter
      | inr activity => cases activity
    | inr held =>
      obtain ⟨connected, held, holds, written⟩ := held
      cases held with
      | publishing state after => cases written
      | announcing active => cases written
      | expiring now => exact ⟨now, holds, connected⟩
  | inr event =>
    obtain ⟨event, there, equal⟩ := event
    cases equal
    exact absurd there (move.events _)

theorem Reachable.lifetimesHold [Libraries] {creator : Side} (reached : room.Reachable)
    (created : (room.session creator).mode = .invitation true) : room.LifetimesHold creator := by
  have kept : ∀ room next : RoomPair,
      ((room.session creator).mode = .invitation true → room.LifetimesHold creator) →
      Step room next → (next.session creator).mode = .invitation true →
      next.LifetimesHold creator := by
    intro room next holds step created
    rw [step.mode] at created
    exact (holds created).step step
  exact Reachable.invariant (fun _ opened created => .opened opened created) kept reached created

end RoomPair

/-! ## What the lifetimes say -/

/-- Nothing about the lifetime is on its way, and the connection is up. -/
structure RoomPair.Still (room : RoomPair) : Prop where
  arrived : ∀ side, room.inbox side = []
  free : ∀ side, (room.session side).holding = none
  done : ∀ side, (room.session side).waiting = []
  connected : ∀ side, (room.session side).closed = false

/-- The close of an idle room is among what a step adds to the history. -/
def RoomPair.Expires [Libraries] (room : RoomPair) (creator : Side) : Prop :=
  ∃ next events, RoomPair.Step room next ∧ next.history = room.history ++ events ∧
    (creator, .wrote (.close .idleExpired)) ∈ events

structure LifetimesOrderly [Libraries] (room : RoomPair) (creator : Side) : Prop where
  /-- the creator has a deadline exactly while its room idles -/
  deadline : (room.session creator).lifetime.state.idleDeadlineUnixMs.isSome ↔
    (room.session creator).lifetime.state.policy = .idle15Minutes ∧
      (room.session creator).lifetime.localTransferActive = false ∧
      (room.session creator).lifetime.peerTransferActive = false
  /-- the joiner never refuses a state -/
  applies : ∀ state others, (room.session creator.peer).waiting = .authoritative state :: others →
    (room.session creator.peer).lifetime.applyAuthoritative state =
      .ok { (room.session creator.peer).lifetime with state }
  /-- the joiner has the creator's state, once everything has arrived -/
  agrees : room.Still →
    (room.session creator.peer).lifetime.state = (room.session creator).lifetime.state
  /-- an idle room is closed only at a `now` past the deadline that the joiner was sent, with no
  transfer active as far as the creator knows -/
  expires : room.Expires creator →
    (room.session creator).lifetime.localTransferActive = false ∧
      (room.session creator).lifetime.peerTransferActive = false ∧
      ∃ now state deadline, (room.session creator).holding = some (.expiring now) ∧
        room.lastPublished creator = some state ∧ state.idleDeadlineUnixMs = some deadline ∧
        deadline ≤ now

/-- What the creator knows of the joiner's transfers. -/
structure FlagsOrderly [Libraries] (room : RoomPair) (creator : Side) : Prop where
  /-- the creator has the joiner's flag, once everything has arrived -/
  agrees : room.Still →
    (room.session creator).lifetime.peerTransferActive =
      (room.session creator.peer).lifetime.localTransferActive
  /-- no transfer is active at the joiner of an idle room that is closed, unless its announcement is
  still on its way -/
  expires : room.Expires creator → (room.session creator.peer).closed = false →
    comingFlags (room.session creator) (room.session creator.peer) (room.inbox creator) = [] →
    (room.session creator.peer).lifetime.localTransferActive = false

/-- The lifetimes agree whatever the clocks give; the flags do unless a call of the creator has
failed because its clock stood before the epoch. -/
theorem lifetime_agreement [Libraries] (room : RoomPair) (creator : Side) (reached : room.Reachable)
    (created : (room.session creator).mode = .invitation true)
    (left : (room.session creator).lifetime.state.revision < maxRevision) :
    LifetimesOrderly room creator ∧ (room.Clocked creator → FlagsOrderly room creator) := by
  have agree := (reached.lifetimesHold created).agree left
  have inactive (expires : room.Expires creator) :
      ∃ now, (room.session creator).holding = some (.expiring now) ∧
      (room.session creator).closed = false ∧ (room.session creator).idleExpired now = true := by
    obtain ⟨next, events, step, grows, closes⟩ := expires
    obtain ⟨now, holds, connected⟩ := step.expiring grows closes
    exact ⟨now, holds, connected, agree.expired now holds⟩
  refine ⟨⟨?_, ?_, ?_, ?_⟩, fun kept => ⟨?_, ?_⟩⟩
  · have timed := agree.timed
    rw [RoomLifetimeMachine.Timed, RoomLifetimeMachine.anyTransferActive, Bool.or_eq_false_iff]
      at timed
    exact timed
  · intro state others first
    exact agree.applies first
  · intro still
    -- With nothing under way on either side, nothing is left between the two states.
    have noStates : comingStates (room.session creator) (room.session creator.peer)
        (room.inbox creator.peer) = [] := by
      simp [comingStates, still.done, still.arrived, still.free]
    have states := agree.states.latest (still.connected creator)
    rw [noStates] at states
    exact states
  · intro expires
    obtain ⟨now, holds, connected, expired⟩ := inactive expires
    simp only [RoomControlSession.idleExpired, decide_eq_true_eq,
      RoomLifetimeMachine.anyTransferActive, Bool.not_eq_true, Bool.or_eq_false_iff] at expired
    obtain ⟨-, ⟨mine, theirs⟩, passed⟩ := expired
    have published :=
      agree.published connected (by simp [holds, Holding.message, ControlMessage.publishes])
    obtain ⟨deadline, found, le⟩ := Option.any_eq_true _ _ |>.mp passed
    exact ⟨mine, theirs, now, _, deadline, holds, published, found, by simpa using le⟩
  · intro still
    -- the same for the announcements in the other direction
    have noFlags : comingFlags (room.session creator) (room.session creator.peer)
        (room.inbox creator) = [] := by
      simp [comingFlags, still.done, still.arrived, still.free]
    have flags := (agree.flags kept).latest (still.connected creator.peer)
    rw [noFlags] at flags
    exact flags
  · intro expires connected noFlags
    obtain ⟨now, -, -, expired⟩ := inactive expires
    simp only [RoomControlSession.idleExpired, decide_eq_true_eq,
      RoomLifetimeMachine.anyTransferActive, Bool.not_eq_true, Bool.or_eq_false_iff] at expired
    have flags := (agree.flags kept).latest connected
    rw [noFlags, expired.2.1.2] at flags
    exact flags.symm

section Paused

noncomputable local instance lifetimeLibraries : Libraries := Envoix.Invite.goldenLibraries

/-- A creator at the left and a joiner at the right that have just met. -/
def creatorSession : RoomControlSession := .opened (.invitation true) "broker" none (.initial 0)

def joinerSession : RoomControlSession := .opened (.invitation false) "broker" none (.initial 0)

def invitedRoom : RoomPair where
  session
    | .left => creatorSession
    | .right => joinerSession
  inbox := fun _ => []
  history := [(.left, .wrote (localHello (.invitation true) "peer" [] 0)),
    (.right, .wrote (localHello (.invitation false) "peer" [] 0))]

theorem invitedRoom_opened : RoomPair.Opened invitedRoom := by
  have opened := RoomPair.Opened.intro (fun side => .invitation (side = .left)) (fun _ => "broker")
    (fun _ => none)
    (fun _ => "peer") (fun _ => []) (fun _ => 0) (fun _ => .initial 0) (by
      intro side
      cases side
      · decide
      · decide)
  convert opened using 1
  simp only [invitedRoom, RoomPair.mk.injEq]
  refine ⟨?_, trivial, rfl⟩
  funext side
  cases side <;> rfl

/-- The lifetime while the creator transfers. -/
def paused : RoomLifetimeState :=
  { revision := 2, policy := .idle15Minutes, idleDeadlineUnixMs := none }

/-- The creator starts to transfer, which stops the deadline. -/
noncomputable def pausingRoom : RoomPair :=
  (invitedRoom.apply .left (creatorSession.begin (.setLocalTransferActive true) none)).apply .left
    (creatorSession.granted (.transition (.setLocalTransferActive true) .finish) (some 5))

/-- The creator has published it, and the joiner has applied it. -/
noncomputable def pausedRoom : RoomPair :=
  let published := pausingRoom.apply .left
    ({ pausingRoom.session .left with holding := none }.heldWritten (.publishing paused .finish))
  let listening := published.apply .right (joinerSession.begin .nextEvent none)
  let applying :=
    (listening.taken .right []).apply .right (joinerSession.receive (.lifetimeChanged paused) none)
  applying.apply .right (joinerSession.granted (.authoritative paused) none)

theorem pausedRoom_reachable : pausedRoom.Reachable := by
  have begun := @RoomPair.Step.begins _ invitedRoom .left (.setLocalTransferActive true) none
  have pauses : RoomPair.Step _ pausingRoom := @RoomPair.Step.grants _
    (invitedRoom.apply .left (creatorSession.begin (.setLocalTransferActive true) none)) .left _ []
      (some 5) rfl rfl
  have publishes :=
    @RoomPair.Step.writesHeld _ pausingRoom .left (.publishing paused .finish) rfl rfl
  let published := pausingRoom.apply .left
    ({ pausingRoom.session .left with holding := none }.heldWritten (.publishing paused .finish))
  have listens := @RoomPair.Step.begins _ published .right .nextEvent none
  let listening := published.apply .right (joinerSession.begin .nextEvent none)
  have receives :=
    @RoomPair.Step.receives _ listening .right (.lifetimeChanged paused) [] 0 none rfl rfl
  let applying :=
    (listening.taken .right []).apply .right (joinerSession.receive (.lifetimeChanged paused) none)
  have applies : RoomPair.Step applying pausedRoom :=
    @RoomPair.Step.grants _ applying .right _ [] none rfl rfl
  exact ⟨invitedRoom, invitedRoom_opened,
    .tail (.tail (.tail (.tail (.tail (.single begun) pauses) publishes) listens) receives) applies⟩

theorem pausedRoom_timely (event : SessionEvent) (there : (Side.left, event) ∈ pausedRoom.history) :
    event.clockFailed = false := by
  have history : pausedRoom.history = invitedRoom.history ++
      [(.left, .wrote (.lifetimeChanged paused)),
        (.right, .returned (.ok (.lifetimeChanged paused)))] := rfl
  simp only [history, invitedRoom, List.cons_append, List.nil_append, List.mem_cons, Prod.mk.injEq,
    List.not_mem_nil, reduceCtorEq, false_and, false_or, or_false, true_and] at there
  obtain rfl | rfl := there
  · rfl
  · rfl

theorem lifetime_agreement_paused :
    (pausedRoom.session .right).lifetime.state = paused ∧ LifetimesOrderly pausedRoom .left ∧
      FlagsOrderly pausedRoom .left := by
  have orderly := lifetime_agreement pausedRoom .left pausedRoom_reachable rfl (by decide)
  exact ⟨rfl, orderly.1, orderly.2 pausedRoom_timely⟩

/-! ### A clock before the epoch -/

/-- The joiner has announced a transfer. -/
noncomputable def announcedRoom : RoomPair :=
  let waiting := invitedRoom.apply .right (joinerSession.begin (.setLocalTransferActive true) none)
  let announcing := waiting.apply .right (joinerSession.granted (.transferActive true) none)
  announcing.apply .right
    ({ announcing.session .right with holding := none }.heldWritten (.announcing true))

/-- The creator has read the announcement, and fails for want of a clock. -/
noncomputable def unheardRoom : RoomPair :=
  let listening := announcedRoom.apply .left (creatorSession.begin .nextEvent none)
  let heard :=
    (listening.taken .left []).apply .left (creatorSession.receive (.transferActive true) none)
  heard.apply .left
    (creatorSession.granted (.transition (.setPeerTransferActive true) .listen) none)

theorem unheardRoom_reachable : unheardRoom.Reachable := by
  have begun := @RoomPair.Step.begins _ invitedRoom .right (.setLocalTransferActive true) none
  let waiting := invitedRoom.apply .right (joinerSession.begin (.setLocalTransferActive true) none)
  have announces := @RoomPair.Step.grants _ waiting .right (.transferActive true) [] none rfl rfl
  let announcing := waiting.apply .right (joinerSession.granted (.transferActive true) none)
  have announced : RoomPair.Step announcing announcedRoom :=
    @RoomPair.Step.writesHeld _ announcing .right (.announcing true) rfl rfl
  have listens := @RoomPair.Step.begins _ announcedRoom .left .nextEvent none
  let listening := announcedRoom.apply .left (creatorSession.begin .nextEvent none)
  have hears := @RoomPair.Step.receives _ listening .left (.transferActive true) [] 0 none rfl rfl
  let heard :=
    (listening.taken .left []).apply .left (creatorSession.receive (.transferActive true) none)
  have fails : RoomPair.Step heard unheardRoom :=
    @RoomPair.Step.grants _ heard .left _ [] none rfl rfl
  exact ⟨invitedRoom, invitedRoom_opened,
    .tail (.tail (.tail (.tail (.tail (.single begun) announces) announced) listens) hears) fails⟩

/-! ### A connection that was closed -/

def keptOpen : RoomLifetimeState :=
  { revision := 2, policy := .untilForegroundEnds, idleDeadlineUnixMs := none }

/-- The creator has changed the policy, but the joiner leaves before the change is published. -/
noncomputable def leavingRoom : RoomPair :=
  let waiting :=
    invitedRoom.apply .left (creatorSession.begin (.setPolicy .untilForegroundEnds) none)
  let changing := waiting.apply .left
    (creatorSession.granted (.transition (.setPolicy .untilForegroundEnds) .finish) (some 5))
  let closing := changing.apply .right (joinerSession.begin (.close .userEnded) none)
  closing.apply .right (joinerSession.written ⟨.close .userEnded, rfl⟩ .finish)

/-- The publication fails, and the creator reads that the joiner has left. -/
noncomputable def partedRoom : RoomPair :=
  let failed := leavingRoom.apply .left
    ({ leavingRoom.session .left with holding := none }.heldFailed (.transport "connection lost")
      (.publishing keptOpen .finish))
  let listening := failed.apply .left ((failed.session .left).begin .nextEvent none)
  (listening.taken .left []).apply .left
    ((failed.session .left).receive (.close .userEnded) none)

theorem partedRoom_reachable : partedRoom.Reachable := by
  have begun := @RoomPair.Step.begins _ invitedRoom .left (.setPolicy .untilForegroundEnds) none
  let waiting :=
    invitedRoom.apply .left (creatorSession.begin (.setPolicy .untilForegroundEnds) none)
  have changes := @RoomPair.Step.grants _ waiting .left _ [] (some 5) rfl rfl
  let changing := waiting.apply .left
    (creatorSession.granted (.transition (.setPolicy .untilForegroundEnds) .finish) (some 5))
  have closes := @RoomPair.Step.begins _ changing .right (.close .userEnded) none
  let closing := changing.apply .right (joinerSession.begin (.close .userEnded) none)
  have leaves : RoomPair.Step closing leavingRoom :=
    @RoomPair.Step.writes _ closing .right ⟨.close .userEnded, rfl⟩ .finish 0 rfl rfl
  have fails := @RoomPair.Step.failsHeld _ leavingRoom .left (.publishing keptOpen .finish)
    "connection lost" rfl (.inr rfl)
  let failed := leavingRoom.apply .left
    ({ leavingRoom.session .left with holding := none }.heldFailed (.transport "connection lost")
      (.publishing keptOpen .finish))
  have listens := @RoomPair.Step.begins _ failed .left .nextEvent none
  let listening := failed.apply .left ((failed.session .left).begin .nextEvent none)
  have hears : RoomPair.Step listening partedRoom :=
    @RoomPair.Step.receives _ listening .left (.close .userEnded) [] 0 none rfl rfl
  exact ⟨invitedRoom, invitedRoom_opened,
    .tail (.tail (.tail (.tail (.tail (.tail (.single begun) changes) closes) leaves) fails)
      listens) hears⟩

/-- The flags may differ once the creator could not read its clock, and the states once the
connection is closed. -/
theorem lifetime_agreement_unheard :
    (unheardRoom.Reachable ∧ (unheardRoom.session .left).mode = .invitation true ∧
      (unheardRoom.session .left).lifetime.state.revision < maxRevision ∧ unheardRoom.Still ∧
      (∀ side, (unheardRoom.session side).calls = 0) ∧
      (unheardRoom.session .left).lifetime.peerTransferActive ≠
        (unheardRoom.session .right).lifetime.localTransferActive) ∧
    partedRoom.Reachable ∧ (partedRoom.session .left).mode = .invitation true ∧
      (partedRoom.session .left).lifetime.state.revision < maxRevision ∧
      (∀ side, partedRoom.inbox side = [] ∧ (partedRoom.session side).holding = none ∧
        (partedRoom.session side).waiting = [] ∧ (partedRoom.session side).calls = 0) ∧
      (partedRoom.session .right).lifetime.state ≠ (partedRoom.session .left).lifetime.state := by
  have everySide {holds : Side → Prop} (left : holds .left) (right : holds .right) (side : Side) :
      holds side := by
    cases side with
    | left => exact left
    | right => exact right
  refine ⟨⟨unheardRoom_reachable, rfl, by decide, ⟨?_, ?_, ?_, ?_⟩, ?_, Bool.false_ne_true⟩,
    partedRoom_reachable, rfl, by decide, everySide ⟨rfl, rfl, rfl, rfl⟩ ⟨rfl, rfl, rfl, rfl⟩, ?_⟩
  case refine_6 =>
    show RoomLifetimeState.mk 1 _ _ ≠ RoomLifetimeState.mk 2 _ _
    decide
  all_goals exact everySide rfl rfl

end Paused

end Envoix.Room
