import Envoix.Foundation.PoisonedLock
import Envoix.Rendezvous.RoomAccounting

/-! # The Room registry behind its lock

The sections of the registry compute deadlines (`Instant + Duration`), and the bucket of a room a
wait (`Duration::from_secs_f64`).  Both panic where the result cannot be represented, and
`BrokerConfig::validate` bounds no duration from above.  A panic poisons the registry's mutex: every
later section fails at `expect("registry mutex")`, and `RoomSlotGuard::drop` returns without
counting its connection down. -/

namespace Envoix.Rendezvous

/-- The last instant of a clock that counts its seconds in an `i64`. -/
def Instant.lastOfTimespec : Instant := secs (2 ^ 63) - 1

/-- The attempts of the room are used up. -/
def RoomState.Spent (config : BrokerConfig) (room : RoomState) : Prop :=
  room.shortCode ∧ room.attempts ≥ config.roomAttemptLimit

/-- The room's waiter awaits this joiner. -/
def RoomState.Awaits (config : BrokerConfig) (join : Join) (room : RoomState) : Prop :=
  ¬ room.Spent config ∧ room.activeConnections < config.maxConnectionsPerRoom ∧
    ¬ room.waiter.all fun waiter => (joinsMatch waiter.join join).isNone

/-- The room once its waiter has the joiner, before its attempts are compared with the limit. -/
def RoomState.matched (roomId : String) (room : RoomState) : RoomState :=
  { room with
    waiter := none
    activeConnections := room.activeConnections + 1
    attempts := room.attempts + 1
    consumed := room.consumed || isRememberedRoomId roomId }

namespace RoomRegistry

/-! ## What can be represented -/

/-- `sweep_rooms` expires the room. -/
def IsDue (now : Instant) (room : RoomState) : Prop :=
  room.status = .live ∧ ¬ room.consumed ∧ now ≥ room.expiresAt

/-- The sweep computes a tombstone for every room that is due. -/
def SweepFits (horizon : Instant) (config : BrokerConfig) (now : Instant) (self : RoomRegistry) :
    Prop :=
  ∀ roomId room, self.rooms.get? roomId = some room → IsDue now room →
    now + config.roomTombstoneTtl ≤ horizon

/-- A creator opens a room in the swept registry. -/
def OpensRoom (config : BrokerConfig) (join : Join) (self : RoomRegistry) : Prop :=
  self.rooms.get? join.roomId = none ∧ self.rooms.size < config.maxRoomStates ∧
    self.waitingCreators < config.maxWaitingCreators

/-- A joiner finds the room spent, is told to wait, or uses up its attempts. -/
def JoinerFits (horizon : Instant) (config : BrokerConfig) (join : Join) (now : Instant)
    (rate : Except Duration Unit) (received : Bool) (room : RoomState) : Prop :=
  room.statusRejection = none →
    (room.Spent config → now + config.roomTombstoneTtl ≤ horizon) ∧
    (room.Awaits config join → room.shortCode →
      match rate with
      | .error retryAfter => retryAfter < Duration.limit
      | .ok _ => received → room.attempts + 1 ≥ config.roomAttemptLimit →
        now + config.roomTombstoneTtl ≤ horizon)

end RoomRegistry

/-- Every instant and every wait that the section computes can be represented. -/
def BrokerStep.Representable (horizon : Instant) (config : BrokerConfig) (registry : RoomRegistry) :
    BrokerStep → Prop
  | .creatorJoin join now =>
    registry.SweepFits horizon config now ∧
      ((registry.sweepRooms config now).OpensRoom config join → now + config.roomTtl ≤ horizon)
  | .joinerJoin join now rate received =>
    registry.SweepFits horizon config now ∧
      ∀ room, (registry.sweepRooms config now).rooms.get? join.roomId = some room →
      RoomRegistry.JoinerFits horizon config join now rate received room
  | .expireRoom roomId waiterId now =>
    ∀ room, registry.rooms.get? roomId = some room → RoomRegistry.isParked room waiterId ∧
      room.status = .live →
      now + config.roomTombstoneTtl ≤ horizon
  | .sweep now => registry.SweepFits horizon config now
  | .evictWaiter _ _ | .dropGuard _ => True

/-! ## Panics -/

namespace RoomRegistry

/-- `room.waiter.take()` -/
def takeWaiter (roomId : String) (self : RoomRegistry) : RoomRegistry :=
  { self with rooms := self.rooms.update roomId fun room => { room with waiter := none } }

/-- Where a section panics, and what it leaves behind. -/
inductive Panics (horizon : Instant) (config : BrokerConfig) (self : RoomRegistry) :
    BrokerStep → RoomRegistry → Prop where
  /-- `sweep_rooms`, at the due room that it meets first; the others are as they were. -/
  | sweepRooms {step : BrokerStep} {now : Instant} {roomId : String} {room : RoomState}
      (sweeps : step.sweepsAt = some now) (found : self.rooms.get? roomId = some room)
      (due : IsDue now room) (late : horizon < now + config.roomTombstoneTtl) :
      Panics horizon config self step (self.takeWaiter roomId)
  /-- `serve_creator`, between the instance and the room that would have it. -/
  | openRoom {join : Join} {now : Instant} (swept : self.SweepFits horizon config now)
      (opens : (self.sweepRooms config now).OpensRoom config join)
      (late : horizon < now + config.roomTtl) :
      Panics horizon config self (.creatorJoin join now)
        { self.sweepRooms config now with nextId := self.nextId + 1 }
  /-- `exhaust_room`, before anything was done for the joiner. -/
  | exhaustSpent {join : Join} {now : Instant} {rate : Except Duration Unit} {received : Bool}
      {room : RoomState} (swept : self.SweepFits horizon config now)
      (found : (self.sweepRooms config now).rooms.get? join.roomId = some room)
      (opened : room.statusRejection = none) (spent : room.Spent config)
      (late : horizon < now + config.roomTombstoneTtl) :
      Panics horizon config self (.joinerJoin join now rate received) (self.sweepRooms config now)
  /-- `TokenBucket::take` of the room. -/
  | attemptRate {join : Join} {now : Instant} {retryAfter : Duration} {received : Bool}
      {room : RoomState} (swept : self.SweepFits horizon config now)
      (found : (self.sweepRooms config now).rooms.get? join.roomId = some room)
      (opened : room.statusRejection = none) (awaits : room.Awaits config join)
      (code : room.shortCode) (late : Duration.limit ≤ retryAfter) :
      Panics horizon config self (.joinerJoin join now (.error retryAfter) received)
        (self.sweepRooms config now)
  /-- `exhaust_room`, after the waiter got the joiner's connection with its guard. -/
  | exhaustMatched {join : Join} {now : Instant} {granted : Unit} {room : RoomState}
      (swept : self.SweepFits horizon config now)
      (found : (self.sweepRooms config now).rooms.get? join.roomId = some room)
      (opened : room.statusRejection = none) (awaits : room.Awaits config join)
      (code : room.shortCode) (last : room.attempts + 1 ≥ config.roomAttemptLimit)
      (late : horizon < now + config.roomTombstoneTtl) :
      Panics horizon config self (.joinerJoin join now (.ok granted) true)
        { self.sweepRooms config now with
          rooms :=
            (self.sweepRooms config now).rooms.update join.roomId (RoomState.matched join.roomId)
          guards := { roomId := join.roomId, instanceId := room.instanceId } :: self.guards }
  | expireRoom {roomId : String} {waiterId : Nat} {now : Instant} {room : RoomState}
      (found : self.rooms.get? roomId = some room)
      (parked : isParked room waiterId ∧ room.status = .live)
      (late : horizon < now + config.roomTombstoneTtl) :
      Panics horizon config self (.expireRoom roomId waiterId now) (self.takeWaiter roomId)

/-- With the lock poisoned every section panics, but a connection that ends still gives up its
guard. -/
def refused (self : RoomRegistry) : BrokerStep → RoomRegistry
  | .dropGuard slot => { self with guards := self.guards.erase slot }
  | _ => self

def sections (horizon : Instant) (config : BrokerConfig) : Sections RoomRegistry BrokerStep where
  enabled registry step := step.Enabled registry
  ends registry step after :=
    step.Representable horizon config registry ∧ after = registry.step config step
  panics := Panics horizon config
  refused := refused

/-- The registries that steps with a property lead to, with the lock sound or poisoned. -/
abbrev LockReached (horizon : Instant) (config : BrokerConfig)
    (allowed : RoomRegistry → BrokerStep → Prop) :
    Bool → RoomRegistry → Prop :=
  (sections horizon config).Reached .new allowed

variable {horizon : Instant} {config : BrokerConfig} {self left : RoomRegistry} {step : BrokerStep}

theorem not_sweepFits {now : Instant} (unfit : ¬ self.SweepFits horizon config now) :
    ∃ roomId room, self.rooms.get? roomId = some room ∧ IsDue now room ∧
      horizon < now + config.roomTombstoneTtl := by
  simp only [SweepFits, not_forall, Nat.not_le] at unfit
  obtain ⟨roomId, room, found, due, late⟩ := unfit
  exact ⟨roomId, room, found, due, late⟩

/-- A section whose sweep does not fit panics there. -/
theorem panics_of_not_sweepFits {now : Instant} (sweeps : step.sweepsAt = some now)
    (unfit : ¬ self.SweepFits horizon config now) :
    ∃ left, Panics horizon config self step left := by
  obtain ⟨_, _, found, due, late⟩ := not_sweepFits unfit
  exact ⟨_, .sweepRooms sweeps found due late⟩

theorem Panics.not_representable (panicked : Panics horizon config self step left) :
    ¬ step.Representable horizon config self := by
  intro fits
  cases panicked with
  | @sweepRooms _ now _ _ sweeps found due late =>
    have swept : self.SweepFits horizon config now := by
      cases step with
      | creatorJoin join now => cases sweeps; exact fits.1
      | joinerJoin join now rate received => cases sweeps; exact fits.1
      | sweep now => cases sweeps; exact fits
      | evictWaiter | expireRoom | dropGuard => cases sweeps
    exact Nat.not_le_of_lt late (swept _ _ found due)
  | openRoom _ opens late => exact Nat.not_le_of_lt late (fits.2 opens)
  | exhaustSpent _ found opened spent late =>
    exact Nat.not_le_of_lt late ((fits.2 _ found opened).1 spent)
  | attemptRate _ found opened awaits code late =>
    exact Nat.not_lt_of_le late ((fits.2 _ found opened).2 awaits code)
  | exhaustMatched _ found opened awaits code last late =>
    exact Nat.not_le_of_lt late ((fits.2 _ found opened).2 awaits code rfl last)
  | expireRoom found parked late => exact Nat.not_le_of_lt late (fits _ found parked)

/-- A section panics exactly where it computes what cannot be represented. -/
theorem not_representable_iff :
    ¬ step.Representable horizon config self ↔ ∃ left, Panics horizon config self step left := by
  refine ⟨fun unfit => ?_, fun ⟨_, panicked⟩ => panicked.not_representable⟩
  cases step with
  | creatorJoin join now =>
    by_cases swept : self.SweepFits horizon config now
    · simp only [BrokerStep.Representable, swept, true_and, not_forall, Nat.not_le] at unfit
      obtain ⟨opens, late⟩ := unfit
      exact ⟨_, .openRoom swept opens late⟩
    · exact panics_of_not_sweepFits rfl swept
  | joinerJoin join now rate received =>
    by_cases swept : self.SweepFits horizon config now
    · simp only [BrokerStep.Representable, swept, true_and, not_forall, JoinerFits, not_and_or,
        Nat.not_le] at unfit
      obtain ⟨room, found, opened, ⟨spent, late⟩ | ⟨awaits, code, unfit⟩⟩ := unfit
      · exact ⟨_, .exhaustSpent swept found opened spent late⟩
      · cases rate with
        | error retryAfter =>
          exact ⟨_, .attemptRate swept found opened awaits code (Nat.le_of_not_lt unfit)⟩
        | ok granted =>
          simp only [not_forall, Nat.not_le] at unfit
          obtain ⟨accepted, last, late⟩ := unfit
          obtain rfl : received = true := accepted
          exact ⟨_, .exhaustMatched swept found opened awaits code last late⟩
    · exact panics_of_not_sweepFits rfl swept
  | evictWaiter roomId waiterId => exact absurd trivial unfit
  | expireRoom roomId waiterId now =>
    simp only [BrokerStep.Representable, not_forall, Nat.not_le] at unfit
    obtain ⟨room, found, parked, late⟩ := unfit
    exact ⟨_, .expireRoom found parked late⟩
  | sweep now => exact panics_of_not_sweepFits rfl unfit
  | dropGuard slot => exact absurd trivial unfit

/-! ## Behind a sound lock -/

theorem LockReached.next {allowed : RoomRegistry → BrokerStep → Prop}
    (before : LockReached horizon config allowed false self) (enabled : step.Enabled self)
    (allows : allowed self step) (fits : step.Representable horizon config self) :
    LockReached horizon config allowed false (self.step config step) :=
  Sections.Reached.ends before enabled allows ⟨fits, rfl⟩

/-- Into an empty registry a creator may always come, unless the room's own lifetime is beyond the
clock. -/
theorem representable_first (join : Join) {now : Instant} (fits : now + config.roomTtl ≤ horizon) :
    BrokerStep.Representable horizon config .new (.creatorJoin join now) := by
  constructor
  · intro roomId room found
    cases found
  · exact fun _ => fits

theorem LockReached.accounted {allowed : RoomRegistry → BrokerStep → Prop}
    (valid : config.validate = .ok ()) (reached : LockReached horizon config allowed false self) :
    Accounted config self := by
  apply reached.sound accounted_new
  intro registry step after ok _ _ done
  rw [done.2]
  exact ok.step valid step

/-! ## Behind a poisoned lock -/

/-- What a panic cannot undo: a counter may be too high, never too low. -/
structure Overcounted (config : BrokerConfig) (registry : RoomRegistry) : Prop where
  held : ∀ {roomId room}, registry.rooms.get? roomId = some room →
    registry.guards.count { roomId, instanceId := room.instanceId } ≤ room.activeConnections
  capped : ∀ {roomId room}, registry.rooms.get? roomId = some room →
    room.activeConnections ≤ config.maxConnectionsPerRoom
  idle : ∀ {roomId room}, registry.rooms.get? roomId = some room → room.status ≠ .live →
    room.waiter = none
  size : registry.rooms.size ≤ config.maxRoomStates

theorem Accounted.overcounted (ok : Accounted config self) : Overcounted config self where
  held found := Nat.le_of_eq (ok.room found).accounted.symm
  capped found := (ok.room found).capped
  idle found := (ok.room found).idle
  size := ok.size

theorem Overcounted.takeWaiter (ok : Overcounted config self) (roomId : String) :
    Overcounted config (self.takeWaiter roomId) := by
  have before : ∀ {other room}, (self.takeWaiter roomId).rooms.get? other = some room →
      ∃ was, self.rooms.get? other = some was ∧
        (room = was ∨ room = { was with waiter := none }) := by
    intro other room found
    rw [RoomRegistry.takeWaiter, Table.get?_update] at found
    split at found
    · obtain ⟨was, listed, rfl⟩ := Option.map_eq_some_iff.mp found
      exact ⟨was, listed, .inr rfl⟩
    · exact ⟨room, found, .inl rfl⟩
  constructor
  case held =>
    intro other room found
    obtain ⟨was, listed, rfl | rfl⟩ := before found
    · exact ok.held listed
    · have counted := ok.held listed
      exact counted
  case capped =>
    intro other room found
    obtain ⟨was, listed, rfl | rfl⟩ := before found
    · exact ok.capped listed
    · have capped := ok.capped listed
      exact capped
  case idle =>
    intro other room found closed
    obtain ⟨was, listed, rfl | rfl⟩ := before found
    · exact ok.idle listed closed
    · rfl
  case size => exact (Table.size_update _ _ _).le.trans ok.size

theorem Panics.overcounted (panicked : Panics horizon config self step left)
    (ok : Accounted config self) :
    Overcounted config left := by
  cases panicked with
  | sweepRooms => exact ok.overcounted.takeWaiter _
  | @openRoom _ now =>
    have swept := (ok.sweepRooms now).overcounted
    exact ⟨swept.held, swept.capped, swept.idle, swept.size⟩
  | exhaustSpent | attemptRate => exact (ok.sweepRooms _).overcounted
  | @exhaustMatched join now _ room _ found opened awaits =>
    have swept := ok.sweepRooms now
    have before := swept.room found
    constructor
    case held =>
      intro other changed listed
      rw [Table.get?_update] at listed
      split at listed
      next here =>
        subst here
        rw [found] at listed
        cases listed
        simp only [RoomState.matched, List.count_cons_self]
        exact Nat.succ_le_succ before.accounted.symm.le
      next elsewhere =>
        rw [List.count_cons_of_ne]
        · exact (swept.room listed).accounted.symm.le
        · intro same
          exact elsewhere (congrArg RoomSlotGuard.roomId same).symm
    case capped =>
      intro other changed listed
      rw [Table.get?_update] at listed
      split at listed
      next here =>
        subst here
        rw [found] at listed
        cases listed
        exact awaits.2.1
      next => exact (swept.room listed).capped
    case idle =>
      intro other changed listed closed
      rw [Table.get?_update] at listed
      split at listed
      next here =>
        subst here
        rw [found] at listed
        cases listed
        rfl
      next => exact (swept.room listed).idle closed
    case size =>
      rw [Table.size_update]
      exact swept.size
  | expireRoom => exact ok.overcounted.takeWaiter _

theorem Overcounted.refused (ok : Overcounted config self) (step : BrokerStep) :
    Overcounted config (self.refused step) := by
  cases step with
  | dropGuard slot =>
    exact {
      held := fun found => ((List.erase_sublist).count_le _).trans (ok.held found)
      capped := ok.capped
      idle := ok.idle
      size := ok.size }
  | creatorJoin | joinerJoin | evictWaiter | expireRoom | sweep => exact ok

theorem LockReached.overcounted {allowed : RoomRegistry → BrokerStep → Prop} {poisoned : Bool}
    (valid : config.validate = .ok ())
    (reached : LockReached horizon config allowed poisoned self) :
    Overcounted config self := by
  cases poisoned with
  | false => exact (reached.accounted valid).overcounted
  | true =>
    apply reached.broken accounted_new
    case ends =>
      intro registry step after ok _ _ done
      rw [done.2]
      exact ok.step valid step
    case panics => exact fun ok _ _ panicked => panicked.overcounted ok
    case refused => exact fun ok _ => ok.refused _

end RoomRegistry

open RoomRegistry

/-- Slot accounting, for every interleaving of the registry's locked sections that compute nothing
beyond what can be represented.  The first that does panics, and the first guard dropped after that
leaves its room's counter too high; in every run the counters only ever err on that side. -/
theorem room_slots_accounted {horizon : Instant} {config : BrokerConfig}
    (valid : config.validate = .ok ()) :
    (∀ poisoned registry,
      LockReached horizon config (fun registry step => step.Representable horizon config registry)
        poisoned registry →
      poisoned = false ∧ registry.rooms.size ≤ config.maxRoomStates ∧
      (∀ roomId room, registry.rooms.get? roomId = some room →
        room.activeConnections = registry.guards.count { roomId, instanceId := room.instanceId } ∧
        room.activeConnections ≤ config.maxConnectionsPerRoom ∧
        (room.status ≠ .live → room.waiter = none) ∧
        ({ roomId, instanceId := room.instanceId } ∈ registry.guards → ∀ now, ∃ after,
          (registry.sweepRooms config now).rooms.get? roomId = some after ∧
          after.instanceId = room.instanceId) ∧
        (room.consumed = true → ∀ step, BrokerStep.Enabled registry step →
          (DropsLastGuard registry roomId room step →
            (registry.step config step).rooms.get? roomId = none) ∧
          (¬ DropsLastGuard registry roomId room step →
            ∃ after, (registry.step config step).rooms.get? roomId = some after ∧
              after.instanceId = room.instanceId ∧ after.consumed = true))) ∧
      (∀ join now rate received, isRememberedRoomId join.roomId = true →
        (registry.serveJoiner config join now rate received).1 = none →
        ∃ room, (registry.serveJoiner config join now rate received).2.rooms.get? join.roomId =
          some room ∧
          room.consumed = true)) ∧
    (∀ registry step, ¬ step.Representable horizon config registry ↔
      ∃ left, Panics horizon config registry step left) ∧
    (∀ registry, LockReached horizon config (fun _ _ => True) true registry →
      ∀ slot ∈ registry.guards, ∀ room,
      registry.rooms.get? slot.roomId = some room → room.instanceId = slot.instanceId →
      (registry.refused (.dropGuard slot)).rooms.get? slot.roomId = some room ∧
        (registry.refused (.dropGuard slot)).guards.count slot < room.activeConnections) ∧
    (∀ poisoned registry, LockReached horizon config (fun _ _ => True) poisoned registry →
      registry.rooms.size ≤ config.maxRoomStates ∧
      ∀ roomId room, registry.rooms.get? roomId = some room →
        registry.guards.count { roomId, instanceId := room.instanceId } ≤ room.activeConnections ∧
        room.activeConnections ≤ config.maxConnectionsPerRoom ∧
        (room.status ≠ .live → room.waiter = none)) := by
  refine ⟨fun poisoned registry reached => ?_, fun _ _ => not_representable_iff,
    fun registry reached slot held room found current => ⟨found, ?_⟩,
      fun poisoned registry reached => ?_⟩
  · have sound : poisoned = false := by
      apply reached.never_poisoned
      intro _ _ _ fits panicked
      exact Panics.not_representable panicked fits
    subst sound
    have ok := reached.accounted valid
    refine ⟨rfl, ok.size, ?_, fun _ _ _ _ remembered matched =>
      serveJoiner_consumes remembered matched⟩
    intro roomId room found
    have here := ok.room found
    refine ⟨here.accounted, here.capped, here.idle, ?_,
      fun consumed step _ => consumed_step ok found consumed step⟩
    intro held now
    exact ⟨_, ok.sweepRooms_keeps now found held, expireDue_instanceId now room⟩
  · have counted := (reached.overcounted valid).held found
    have given : (registry.guards.erase slot).count slot = registry.guards.count slot - 1 :=
      List.count_erase_self
    have positive : 0 < registry.guards.count slot := List.count_pos_iff.mpr held
    rw [current] at counted
    show (registry.guards.erase slot).count slot < room.activeConnections
    rw [given]
    exact Nat.lt_of_lt_of_le (Nat.sub_one_lt_of_lt positive) counted
  · have ok := reached.overcounted valid
    exact ⟨ok.size, fun roomId room found => ⟨ok.held found, ok.capped found, ok.idle found⟩⟩

/-- A remembered locator. -/
def sampleLocator : String := "r1_0123456789abcdefghijABCDEFGHIJ0123456789abc"

def sampleCreator : Join :=
  ⟨rendezvousProtocolVersion, sampleLocator, .creator, .receiver, [.fullTicket], none⟩

def sampleJoiner : Join :=
  ⟨rendezvousProtocolVersion, sampleLocator, .joiner, .sender, [], some .fullTicket⟩

/-- A creator parked and was matched. -/
def pairedRegistry : RoomRegistry :=
  (RoomRegistry.new.step .default (.creatorJoin sampleCreator 0)).step .default
    (.joinerJoin sampleJoiner 1 (.ok ()) true)

theorem room_slots_accounted_paired :
    validateJoin sampleCreator = .ok () ∧ validateJoin sampleJoiner = .ok () ∧
    pairedRegistry.guards.count ⟨sampleLocator, 0⟩ = 2 ∧
    (pairedRegistry.rooms.get? sampleLocator).map
      (fun room => (room.consumed, room.activeConnections)) =
      some (true, 2) ∧
    pairedRegistry.rooms.size ≤ 8192 := by
  have parked : LockReached Instant.lastOfTimespec .default
      (fun registry step => step.Representable Instant.lastOfTimespec .default registry) false
      (RoomRegistry.new.step .default (.creatorJoin sampleCreator 0)) := by
    have fits : BrokerStep.Representable Instant.lastOfTimespec .default .new
        (.creatorJoin sampleCreator 0) :=
      representable_first sampleCreator (by decide)
    exact LockReached.next .start trivial fits fits
  have paired : LockReached Instant.lastOfTimespec .default
      (fun registry step => step.Representable Instant.lastOfTimespec .default registry) false
      pairedRegistry := by
    have fits : BrokerStep.Representable Instant.lastOfTimespec .default
        (RoomRegistry.new.step .default (.creatorJoin sampleCreator 0))
        (.joinerJoin sampleJoiner 1 (.ok ()) true) :=
      ⟨fun _ _ _ _ => by decide, fun _ _ _ => ⟨fun _ => by decide, fun _ _ _ _ => by decide⟩⟩
    exact LockReached.next parked trivial fits fits
  exact ⟨by decide, by decide, by decide, by decide,
    ((room_slots_accounted (by decide)).1 _ _ paired).2.1⟩

/-! ## A tombstone beyond the clock -/

/-- `BrokerConfig::default` with a tombstone time of `u64::MAX` seconds. -/
def longTombstone : BrokerConfig :=
  { BrokerConfig.default with roomTombstoneTtl := secs (2 ^ 64 - 1) }

/-- A creator parks in a room of this configuration. -/
def waitingRegistry : RoomRegistry :=
  RoomRegistry.new.step longTombstone (.creatorJoin sampleCreator 0)

/-- The room's lifetime ended, `expire_room` panicked with the waiter taken, and the creator's
connection ended. -/
def strandedRegistry : RoomRegistry :=
  (waitingRegistry.takeWaiter sampleLocator).refused
    (.dropGuard { roomId := sampleLocator, instanceId := 0 })

theorem stranded_reached :
    LockReached Instant.lastOfTimespec longTombstone (fun _ _ => True) true strandedRegistry := by
  have waiting :
    LockReached Instant.lastOfTimespec longTombstone (fun _ _ => True) false waitingRegistry :=
    LockReached.next .start trivial trivial (representable_first sampleCreator (by decide))
  have expired :
    Panics Instant.lastOfTimespec longTombstone waitingRegistry
      (.expireRoom sampleLocator 1 (secs 300))
      (waitingRegistry.takeWaiter sampleLocator) :=
    .expireRoom rfl (by decide) (by decide)
  have poisoned : LockReached Instant.lastOfTimespec longTombstone (fun _ _ => True) true
      (waitingRegistry.takeWaiter sampleLocator) :=
    Sections.Reached.panics waiting (by exact trivial) trivial expired
  have held : { roomId := sampleLocator, instanceId := 0 } ∈
    (waitingRegistry.takeWaiter sampleLocator).guards :=
    List.mem_cons_self
  exact @Sections.Reached.refused _ _ (sections _ longTombstone) _ _ _ (.dropGuard _)
    poisoned held trivial

theorem room_slots_unaccounted :
    longTombstone.validate = .ok () ∧
    LockReached Instant.lastOfTimespec longTombstone (fun _ _ => True) true strandedRegistry ∧
    ∃ room, strandedRegistry.rooms.get? sampleLocator = some room ∧
      room.activeConnections ≠
        strandedRegistry.guards.count { roomId := sampleLocator, instanceId := room.instanceId } :=
  ⟨by decide, stranded_reached, _, rfl, by decide⟩

end Envoix.Rendezvous
