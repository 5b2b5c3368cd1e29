import Envoix.Rendezvous.Broker

/-! # Slot accounting of the Room registry

The counter of a room against the guards that connections hold.  A guard may outlive its room: the
room can be removed and its locator taken again by a later instance, so a guard is matched by
instance, and instances are never drawn twice. -/

namespace Envoix.Rendezvous

open Fallible

namespace RoomRegistry

/-! ## What the locked sections can do -/

theorem statusRejection_eq_none {room : RoomState} :
    room.statusRejection = none ↔ room.status = .live ∧ room.consumed = false := by
  unfold RoomState.statusRejection
  cases room.status <;> simp

theorem creatorRejection_eq_none {config : BrokerConfig} {room : RoomState} :
    creatorRejection config room = none ↔ room.status = .live ∧ room.consumed = false ∧
      room.waiter = none ∧ room.activeConnections < config.maxConnectionsPerRoom := by
  unfold creatorRejection
  cases refused : room.statusRejection with
  | some outcome =>
    have notOpen : ¬ (room.status = .live ∧ room.consumed = false) := by
      rw [← statusRejection_eq_none, refused]
      exact Option.some_ne_none outcome
    simp only [reduceCtorEq, false_iff]
    intro ⟨live, fresh, _⟩
    exact notOpen ⟨live, fresh⟩
  | none =>
    obtain ⟨live, fresh⟩ := statusRejection_eq_none.mp refused
    simp [live, fresh]

/-- The room a creator opens. -/
def freshRoom (config : BrokerConfig) (roomId : String) (now : Instant) (instanceId : Nat) :
    RoomState where
  instanceId := instanceId
  expiresAt := now + config.roomTtl
  attempts := 0
  consumed := false
  activeConnections := 0
  waiter := none
  status := .live
  shortCode := !isRememberedRoomId roomId

/-- A creator is turned away, opens a room below both limits, or reconnects to an open room. -/
theorem serveCreator_cases (config : BrokerConfig) (join : Join) (now : Instant)
    (self : RoomRegistry) :
    (self.serveCreator config join now).2 = self.sweepRooms config now ∨
    ((self.sweepRooms config now).rooms.get? join.roomId = none ∧
      (self.sweepRooms config now).rooms.size < config.maxRoomStates ∧
      (self.sweepRooms config now).waitingCreators < config.maxWaitingCreators ∧
      (self.serveCreator config join now).2 =
        (parkCreator { self.sweepRooms config now with
          rooms :=
            (self.sweepRooms config now).rooms.insert join.roomId
              (freshRoom config join.roomId now self.nextId)
          nextId :=
            self.nextId + 1 } join.roomId (freshRoom config join.roomId now self.nextId) join).2) ∨
    (∃ room, (self.sweepRooms config now).rooms.get? join.roomId = some room ∧
      creatorRejection config room = none ∧ (self.serveCreator config join now).2 =
        (parkCreator (self.sweepRooms config now) join.roomId room join).2) := by
  unfold serveCreator
  cases found : (self.sweepRooms config now).rooms.get? join.roomId with
  | none =>
    by_cases busy : (self.sweepRooms config now).rooms.size ≥ config.maxRoomStates ∨
        (self.sweepRooms config now).waitingCreators ≥ config.maxWaitingCreators
    · left
      simp only [found, if_pos busy]
    · right; left
      simp only [found, if_neg busy]
      exact ⟨trivial, by omega, by omega, rfl⟩
  | some room =>
    cases refused : creatorRejection config room with
    | some outcome =>
      left
      simp only [found, refused]
    | none =>
      right; right
      simp only [found, refused]
      exact ⟨room, rfl, refused, rfl⟩

/-- A joiner is turned away, finds the attempts used up, or takes the waiter of an open room. -/
theorem serveJoiner_cases (config : BrokerConfig) (join : Join) (now : Instant)
    (rate : Except Duration Unit) (received : Bool) (self : RoomRegistry) :
    (∃ rejection, self.serveJoiner config join now rate received =
      (some rejection, self.sweepRooms config now)) ∨
    (∃ room rejection, (self.sweepRooms config now).rooms.get? join.roomId = some room ∧
      room.status = .live ∧ room.shortCode = true ∧ room.attempts ≥ config.roomAttemptLimit ∧
      self.serveJoiner config join now rate received =
        (some rejection, { self.sweepRooms config now with
          rooms := (self.sweepRooms config now).rooms.update join.roomId fun room =>
            room.exhaust config now })) ∨
    (∃ room, (self.sweepRooms config now).rooms.get? join.roomId = some room ∧ room.status = .live ∧
      room.consumed = false ∧ room.activeConnections < config.maxConnectionsPerRoom ∧
      (∃ waiter, room.waiter = some waiter ∧ (joinsMatch waiter.join join).isSome) ∧
      self.serveJoiner config join now rate received =
        handoffJoiner config join.roomId room received now (self.sweepRooms config now)) := by
  unfold serveJoiner
  cases found : (self.sweepRooms config now).rooms.get? join.roomId with
  | none =>
    left
    simp only [found]
    exact ⟨_, rfl⟩
  | some room =>
    simp only [found]
    cases refused : room.statusRejection with
    | some outcome => exact .inl ⟨_, rfl⟩
    | none =>
      obtain ⟨live, fresh⟩ := statusRejection_eq_none.mp refused
      by_cases spent : room.shortCode ∧ room.attempts ≥ config.roomAttemptLimit
      · right; left
        refine ⟨room, config.rejection .roomUnderAttack none, rfl, live, spent.1, spent.2, ?_⟩
        simp only [if_pos spent]
      · by_cases full : room.activeConnections ≥ config.maxConnectionsPerRoom
        · left
          simp only [if_neg spent, if_pos full]
          exact ⟨_, rfl⟩
        · by_cases alone :
            (room.waiter.all fun waiter => (joinsMatch waiter.join join).isNone) = true
          · left
            simp only [if_neg spent, if_neg full, if_pos alone]
            exact ⟨_, rfl⟩
          -- There is a waiter, and its join matches.
          · have awaited : ∃ waiter, room.waiter = some waiter ∧
                (joinsMatch waiter.join join).isSome := by
              cases parked : room.waiter with
              | none => exact absurd (by rw [parked]; rfl) alone
              | some waiter =>
                refine ⟨waiter, rfl, Option.ne_none_iff_isSome.mp fun unmatched => alone ?_⟩
                rw [parked, Option.all_some, unmatched]
                rfl
            by_cases code : room.shortCode = true
            · cases rate with
              | ok _ =>
                right; right
                simp only [if_neg spent, if_neg full, if_neg alone, if_pos code]
                exact ⟨room, rfl, live, fresh, by omega, awaited, rfl⟩
              | error retryAfter =>
                left
                simp only [if_neg spent, if_neg full, if_neg alone, if_pos code]
                exact ⟨_, rfl⟩
            · right; right
              simp only [if_neg spent, if_neg full, if_neg alone, if_neg code]
              exact ⟨room, rfl, live, fresh, by omega, awaited, rfl⟩

/-! ## The invariant -/

/-- What holds of a room in the registry, for the guards outstanding and the ids drawn. -/
structure RoomOk (config : BrokerConfig) (nextId : Nat) (guards : List RoomSlotGuard)
    (roomId : String) (room : RoomState) : Prop where
  drawn : room.instanceId < nextId
  accounted : room.activeConnections = guards.count { roomId, instanceId := room.instanceId }
  capped : room.activeConnections ≤ config.maxConnectionsPerRoom
  idle : room.status ≠ .live → room.waiter = none
  -- keeps `serveJoiner` from exhausting a room under a parked creator
  budget : room.status = .live → room.shortCode = true → room.attempts < config.roomAttemptLimit
  code : room.shortCode = !isRememberedRoomId roomId
  paired : room.consumed = true →
    isRememberedRoomId roomId = true ∧ room.status = .live ∧ room.waiter = none ∧
      0 < room.activeConnections

structure Accounted (config : BrokerConfig) (registry : RoomRegistry) : Prop where
  room : ∀ {roomId room}, registry.rooms.get? roomId = some room →
    RoomOk config registry.nextId registry.guards roomId room
  drawn : ∀ slot ∈ registry.guards, slot.instanceId < registry.nextId
  size : registry.rooms.size ≤ config.maxRoomStates

variable {config : BrokerConfig}

theorem RoomOk.frame {nextId nextId' : Nat} {guards guards' : List RoomSlotGuard} {roomId : String}
    {room : RoomState} (ok : RoomOk config nextId guards roomId room) (later : nextId ≤ nextId')
    (same : guards'.count { roomId, instanceId := room.instanceId } =
      guards.count { roomId, instanceId := room.instanceId }) :
        RoomOk config nextId' guards' roomId room where
  drawn := Nat.lt_of_lt_of_le ok.drawn later
  accounted := ok.accounted.trans same.symm
  capped := ok.capped
  idle := ok.idle
  budget := ok.budget
  code := ok.code
  paired := ok.paired

/-- A section that touches one room, and guards of that room only. -/
theorem Accounted.touch {self : RoomRegistry} (ok : Accounted config self)
    {rooms : Table String RoomState} {nextId : Nat} {guards : List RoomSlotGuard} (roomId : String)
    (later : self.nextId ≤ nextId)
    (others : ∀ other, other ≠ roomId → rooms.get? other = self.rooms.get? other)
      (counts : ∀ slot : RoomSlotGuard, slot.roomId ≠ roomId →
        guards.count slot = self.guards.count slot)
    (touched : ∀ room, rooms.get? roomId = some room → RoomOk config nextId guards roomId room)
    (drawn : ∀ slot ∈ guards, slot.instanceId < nextId) (size : rooms.size ≤ config.maxRoomStates) :
    Accounted config ⟨rooms, nextId, guards⟩ where
  room := by
    intro other room found
    by_cases here : other = roomId
    · subst here
      exact touched room found
    · have before : self.rooms.get? other = some room := (others other here).symm.trans found
      exact (ok.room before).frame later (counts _ here)
  drawn := drawn
  size := size

theorem accounted_new : Accounted config RoomRegistry.new where
  room := by
    intro roomId room found
    cases found
  drawn := by
    intro slot held
    cases held
  size := Nat.zero_le _

/-! ## Sweeping -/

theorem get?_sweepRooms (self : RoomRegistry) (now : Instant) (roomId : String) :
    (self.sweepRooms config now).rooms.get? roomId =
      ((self.rooms.get? roomId).map (expireDue config now)).filter (retained now) := by
  simp [sweepRooms]

theorem expireDue_instanceId (now : Instant) (room : RoomState) :
    (expireDue config now room).instanceId = room.instanceId := by
  unfold expireDue
  split <;> rfl

theorem expireDue_activeConnections (now : Instant) (room : RoomState) :
    (expireDue config now room).activeConnections = room.activeConnections := by
  unfold expireDue
  split <;> rfl

theorem RoomOk.expireDue {nextId : Nat} {guards : List RoomSlotGuard} {roomId : String}
    {room : RoomState} (ok : RoomOk config nextId guards roomId room) (now : Instant) :
    RoomOk config nextId guards roomId (expireDue config now room) := by
  unfold RoomRegistry.expireDue
  split
  next due =>
    exact {
      drawn := ok.drawn, accounted := ok.accounted, capped := ok.capped, code := ok.code
      idle := fun _ => rfl
      budget := fun live => by cases live
      paired := fun consumed => absurd consumed due.2.1 }
  next => exact ok

/-- A connected room outlives every sweep. -/
theorem retained_of_active {room : RoomState} (now : Instant)
    (active : 0 < room.activeConnections) :
    retained now room = true := by
  unfold retained
  cases room.status <;> simp [active]

theorem Accounted.sweepRooms {self : RoomRegistry} (ok : Accounted config self) (now : Instant) :
    Accounted config (self.sweepRooms config now) where
  room := by
    intro roomId room found
    rw [get?_sweepRooms] at found
    obtain ⟨before, listed, rfl⟩ := Option.map_eq_some_iff.mp (Option.filter_eq_some_iff.mp found).1
    exact (ok.room listed).expireDue now
  drawn := ok.drawn
  size := by
    have kept :=
      Table.size_retain_le (self.rooms.mapValues fun _ room =>
        RoomRegistry.expireDue config now room)
      (fun _ room => retained now room)
    rw [Table.size_mapValues] at kept
    exact Nat.le_trans kept ok.size

/-- `sweep_rooms` purges no room that has an outstanding guard. -/
theorem Accounted.sweepRooms_keeps {self : RoomRegistry} (ok : Accounted config self)
    (now : Instant) {roomId : String} {room : RoomState}
    (found : self.rooms.get? roomId = some room)
    (held : { roomId, instanceId := room.instanceId } ∈ self.guards) :
    (self.sweepRooms config now).rooms.get? roomId =
      some (RoomRegistry.expireDue config now room) := by
  have active : 0 < room.activeConnections := by
    rw [(ok.room found).accounted]
    exact List.count_pos_iff.mpr held
  rw [get?_sweepRooms, found, Option.map_some, Option.filter_some,
    retained_of_active now, if_pos rfl]
  rwa [expireDue_activeConnections]

/-! ## Joins -/

/-- One more connection of the room, which becomes `room'`. -/
theorem Accounted.connect {self : RoomRegistry} (ok : Accounted config self) {roomId : String}
    {room : RoomState} (found : self.rooms.get? roomId = some room) {change : RoomState → RoomState}
    {nextId : Nat} (later : self.nextId ≤ nextId)
    (opened : RoomOk config nextId ({ roomId, instanceId := room.instanceId } :: self.guards) roomId
      (change room)) :
    Accounted config ⟨self.rooms.update roomId change, nextId,
      { roomId, instanceId := room.instanceId } :: self.guards⟩ := by
  apply ok.touch roomId later
  case others =>
    intro other elsewhere
    rw [Table.get?_update, if_neg elsewhere]
  case counts =>
    intro slot elsewhere
    apply List.count_cons_of_ne
    intro same
    exact elsewhere (congrArg RoomSlotGuard.roomId same).symm
  case touched =>
    intro changed after
    rw [Table.get?_update, if_pos rfl, found] at after
    cases after
    exact opened
  case drawn =>
    intro slot held
    cases held with
    | head => exact Nat.lt_of_lt_of_le (ok.room found).drawn later
    | tail _ held => exact Nat.lt_of_lt_of_le (ok.drawn slot held) later
  case size =>
    rw [Table.size_update]
    exact ok.size

theorem Accounted.parkCreator {self : RoomRegistry} (ok : Accounted config self) {roomId : String}
    {room : RoomState} (found : self.rooms.get? roomId = some room)
    (opened : creatorRejection config room = none) (join : Join) :
    Accounted config (self.parkCreator roomId room join).2 := by
  obtain ⟨live, fresh, _, below⟩ := creatorRejection_eq_none.mp opened
  have before := ok.room found
  apply ok.connect found (Nat.le_succ _)
  exact {
    drawn := Nat.lt_succ_of_lt before.drawn
    accounted := by
      rw [List.count_cons_self]
      exact congrArg (· + 1) before.accounted
    capped := below
    idle := fun closed => absurd live closed
    budget := before.budget
    code := before.code
    paired := fun consumed => absurd (fresh.symm.trans consumed) Bool.false_ne_true }

theorem validate_limits (valid : config.validate = .ok ()) :
    0 < config.roomAttemptLimit ∧ 2 ≤ config.maxConnectionsPerRoom := by
  simp only [BrokerConfig.validate, bind_eq_ok, reject_eq_ok, exists_unit] at valid
  obtain ⟨_, _, _, _, _, limits, _⟩ := valid
  omega

theorem Accounted.openRoom {self : RoomRegistry} (ok : Accounted config self)
    (valid : config.validate = .ok ()) (roomId : String)
    (below : self.rooms.size < config.maxRoomStates) (now : Instant) :
    Accounted config { self with
      rooms := self.rooms.insert roomId (freshRoom config roomId now self.nextId),
      nextId := self.nextId + 1 } := by
  obtain ⟨attempts, _⟩ := validate_limits valid
  apply ok.touch roomId (Nat.le_succ _)
  case others =>
    intro other elsewhere
    rw [Table.get?_insert, if_neg elsewhere]
  case counts => exact fun _ _ => rfl
  case touched =>
    intro room found
    rw [Table.get?_insert, if_pos rfl] at found
    cases found
    exact {
      drawn := Nat.lt_succ_self _
      accounted := by
        -- no guard has seen the instance yet
        symm
        apply List.count_eq_zero.mpr
        intro held
        exact Nat.lt_irrefl _ (ok.drawn _ held)
      capped := Nat.zero_le _
      idle := fun _ => rfl
      budget := fun _ _ => attempts
      code := rfl
      paired := fun consumed => by cases consumed }
  case drawn => exact fun slot held => Nat.lt_succ_of_lt (ok.drawn slot held)
  case size => exact Nat.le_trans (self.rooms.size_insert_le _ _) below

theorem Accounted.serveCreator {self : RoomRegistry} (ok : Accounted config self)
    (valid : config.validate = .ok ()) (join : Join) (now : Instant) :
    Accounted config (self.serveCreator config join now).2 := by
  have swept := ok.sweepRooms now
  obtain same | ⟨_, below, _, same⟩ | ⟨room, found, opened, same⟩ :=
    serveCreator_cases config join now self
  · rw [same]
    exact swept
  · rw [same]
    apply (swept.openRoom valid join.roomId below now).parkCreator
    · show (Table.insert _ _ _).get? _ = _
      rw [Table.get?_insert, if_pos rfl]
      rfl
    · obtain ⟨_, connections⟩ := validate_limits valid
      exact creatorRejection_eq_none.mpr ⟨rfl, rfl, rfl,
        Nat.lt_of_lt_of_le Nat.zero_lt_two connections⟩
  · rw [same]
    exact swept.parkCreator found opened join

theorem RoomOk.handedRoom {nextId : Nat} {guards : List RoomSlotGuard} {roomId : String}
    {room : RoomState} (ok : RoomOk config nextId guards roomId room) (live : room.status = .live)
    (fresh : room.consumed = false) (below : room.activeConnections < config.maxConnectionsPerRoom)
    (received : Bool) (now : Instant) :
    RoomOk config nextId ({ roomId, instanceId := room.instanceId } :: guards) roomId
      (handedRoom config roomId received now room) := by
  have accounted : room.activeConnections + 1 =
      List.count { roomId, instanceId := room.instanceId }
        ({ roomId, instanceId := room.instanceId } :: guards) := by
    rw [List.count_cons_self]
    exact congrArg (· + 1) ok.accounted
  unfold RoomRegistry.handedRoom
  cases received with
  | false =>
    exact {
      drawn := ok.drawn, accounted, capped := below, code := ok.code
      idle := fun _ => rfl
      budget := ok.budget
      paired := fun consumed => absurd (fresh.symm.trans consumed) Bool.false_ne_true }
  | true =>
    simp only [if_true]
    split
    next spent =>
      -- only a short code runs out of attempts, and it is never consumed
      have notRemembered : isRememberedRoomId roomId = false := by
        have code := ok.code.symm.trans spent.1
        simpa using code
      simp only [RoomState.exhaust, live, if_true]
      exact {
        drawn := ok.drawn, accounted, capped := below, code := ok.code
        idle := fun _ => rfl
        budget := fun stillLive => by cases stillLive
        paired := fun consumed => by simp [fresh, notRemembered] at consumed }
    next spare =>
      exact {
        drawn := ok.drawn, accounted, capped := below, code := ok.code
        idle := fun _ => rfl
        budget := fun _ code => Nat.lt_of_not_le fun spent => spare ⟨code, spent⟩
        paired := fun consumed => by
          have remembered :
            isRememberedRoomId roomId = true := by simpa [fresh] using consumed
          exact ⟨remembered, live, rfl, Nat.succ_pos _⟩ }

theorem Accounted.serveJoiner {self : RoomRegistry} (ok : Accounted config self) (join : Join)
    (now : Instant) (rate : Except Duration Unit) (received : Bool) :
    Accounted config (self.serveJoiner config join now rate received).2 := by
  have swept := ok.sweepRooms now
  obtain ⟨_, same⟩ | ⟨room, _, found, live, code, spent, _⟩ | ⟨room, found, live, fresh,
    below, _, same⟩ :=
    serveJoiner_cases config join now rate received self
  · rw [same]
    exact swept
  · have budget := (swept.room found).budget live code
    omega
  · rw [same]
    exact swept.connect found (Nat.le_refl _)
      ((swept.room found).handedRoom live fresh below received now)

/-! ## Leaving -/

/-- A section that changes or drops one room, with the guards as they are. -/
theorem Accounted.settle {self : RoomRegistry} (ok : Accounted config self)
    {rooms : Table String RoomState} (roomId : String)
    (others : ∀ other, other ≠ roomId → rooms.get? other = self.rooms.get? other)
      (touched : ∀ room, rooms.get? roomId = some room →
        RoomOk config self.nextId self.guards roomId room)
    (size : rooms.size ≤ self.rooms.size) : Accounted config { self with rooms } :=
  ok.touch roomId (Nat.le_refl _) others (fun _ _ => rfl) touched ok.drawn
    (Nat.le_trans size ok.size)

theorem Accounted.evictWaiter {self : RoomRegistry} (ok : Accounted config self) (roomId : String)
    (waiterId : Nat) : Accounted config (self.evictWaiter roomId waiterId) := by
  unfold RoomRegistry.evictWaiter
  cases found : self.rooms.get? roomId with
  | none => exact ok
  | some room =>
    have before := ok.room found
    simp only
    split
    next parked =>
      have evicted : Accounted config { self with
          rooms := self.rooms.update roomId fun room => { room with waiter := none } } := by
        apply ok.settle roomId
        case others =>
          intro other elsewhere
          rw [Table.get?_update, if_neg elsewhere]
        case touched =>
          intro changed after
          rw [Table.get?_update, if_pos rfl, found] at after
          cases after
          exact { before with
                  idle := fun _ => rfl
                  paired := fun consumed =>
                    have ⟨remembered, live, _, active⟩ := before.paired consumed
                    ⟨remembered, live, rfl, active⟩ }
        case size => rw [Table.size_update]
      split
      · apply evicted.settle roomId
        case others =>
          intro other elsewhere
          rw [Table.get?_remove, if_neg elsewhere]
        case touched =>
          intro changed after
          rw [Table.get?_remove, if_pos rfl] at after
          cases after
        case size => exact Table.size_remove_le _ _
      · exact evicted
    next => exact ok

theorem Accounted.expireRoom {self : RoomRegistry} (ok : Accounted config self) (roomId : String)
    (waiterId : Nat) (now : Instant) :
    Accounted config (self.expireRoom config roomId waiterId now) := by
  unfold RoomRegistry.expireRoom
  cases found : self.rooms.get? roomId with
  | none => exact ok
  | some room =>
    have before := ok.room found
    simp only
    split
    next parked =>
      apply ok.settle roomId
      case others =>
        intro other elsewhere
        rw [Table.get?_update, if_neg elsewhere]
      case touched =>
        intro changed after
        rw [Table.get?_update, if_pos rfl, found] at after
        cases after
        exact { before with
                idle := fun _ => rfl
                budget := fun live => by cases live
                paired := fun consumed => by
                  -- a consumed room has no waiter to time out
                  have alone := (before.paired consumed).2.2.1
                  simp [isParked, alone] at parked }
      case size => rw [Table.size_update]
    next => exact ok

theorem Accounted.dropGuard {self : RoomRegistry} (ok : Accounted config self)
    (slot : RoomSlotGuard) :
    Accounted config (self.dropGuard slot) := by
  have elsewhere : ∀ other : RoomSlotGuard, other ≠ slot →
      (self.guards.erase slot).count other = self.guards.count other := by
    intro other different
    exact List.count_erase_of_ne different
  have drawn : ∀ other ∈ self.guards.erase slot, other.instanceId < self.nextId := by
    intro other left
    exact ok.drawn other (List.mem_of_mem_erase left)
  -- Only the count of this very guard changes, so every other room is as before.
  have counts : ∀ other : RoomSlotGuard, other.roomId ≠ slot.roomId →
      (self.guards.erase slot).count other = self.guards.count other := by
    intro other different
    apply elsewhere
    intro same
    exact different (congrArg RoomSlotGuard.roomId same)
  unfold RoomRegistry.dropGuard
  cases found : self.rooms.get? slot.roomId with
  | none =>
    apply ok.touch slot.roomId (Nat.le_refl _) (fun _ _ => rfl) counts _ drawn ok.size
    intro room after
    cases found.symm.trans after
  | some room =>
    have before := ok.room found
    simp only
    by_cases current : room.instanceId = slot.instanceId
    · rw [if_pos current]
      have same :
          ({ roomId := slot.roomId, instanceId := room.instanceId } : RoomSlotGuard) = slot := by
        rw [current]
      have accounted : room.activeConnections = self.guards.count slot := by
        rw [before.accounted, same]
      have left : (self.guards.erase slot).count slot = self.guards.count slot - 1 :=
        List.count_erase_self
      split
      · apply ok.touch slot.roomId (Nat.le_refl _) _ counts _ drawn
        · exact Nat.le_trans (Table.size_remove_le _ _) (by rw [Table.size_update]; exact ok.size)
        · intro other different
          rw [Table.get?_remove, if_neg different, Table.get?_update, if_neg different]
        · intro changed after
          rw [Table.get?_remove, if_pos rfl] at after
          cases after
      -- the room stays, and if it is consumed it still has a connection
      next kept =>
        apply ok.touch slot.roomId (Nat.le_refl _) _ counts _ drawn
        · rw [Table.size_update]
          exact ok.size
        · intro other different
          rw [Table.get?_update, if_neg different]
        · intro changed after
          rw [Table.get?_update, if_pos rfl, found] at after
          cases after
          exact { before with
                  accounted := by
                    show room.activeConnections - 1 = (self.guards.erase slot).count _
                    rw [same, left, accounted]
                  capped := Nat.le_trans (Nat.sub_le _ _) before.capped
                  paired := fun consumed => by
                    obtain ⟨remembered, live, alone, active⟩ := before.paired consumed
                    refine ⟨remembered, live, alone, Nat.pos_of_ne_zero fun last => kept ?_⟩
                    exact ⟨remembered, last, by rw [alone]; rfl, live⟩ }
    · -- a guard of an earlier instance
      rw [if_neg current]
      apply ok.touch slot.roomId (Nat.le_refl _) (fun _ _ => rfl) counts _ drawn ok.size
      intro present after
      cases found.symm.trans after
      apply before.frame (Nat.le_refl _)
      apply elsewhere
      intro same
      exact current (congrArg RoomSlotGuard.instanceId same)

theorem Accounted.step {self : RoomRegistry} (ok : Accounted config self)
    (valid : config.validate = .ok ()) (step : BrokerStep) :
    Accounted config (self.step config step) := by
  cases step with
  | creatorJoin join now => exact ok.serveCreator valid join now
  | joinerJoin join now rate received => exact ok.serveJoiner join now rate received
  | evictWaiter roomId waiterId => exact ok.evictWaiter roomId waiterId
  | expireRoom roomId waiterId now => exact ok.expireRoom roomId waiterId now
  | sweep now => exact ok.sweepRooms now
  | dropGuard slot => exact ok.dropGuard slot

theorem reachable_accounted (valid : config.validate = .ok ()) {registry : RoomRegistry}
    (reached : Reachable config registry) : Accounted config registry := by
  induction reached with
  | new => exact accounted_new
  | step _ _ ih => exact ih.step valid _

/-! ## Other rooms -/

theorem get?_evictWaiter_ne {self : RoomRegistry} {roomId other : String}
    (elsewhere : roomId ≠ other) (waiterId : Nat) :
    (self.evictWaiter other waiterId).rooms.get? roomId = self.rooms.get? roomId := by
  unfold RoomRegistry.evictWaiter
  cases self.rooms.get? other with
  | none => rfl
  | some present =>
    simp only
    split
    · split
      · rw [Table.get?_remove, if_neg elsewhere, Table.get?_update, if_neg elsewhere]
      · rw [Table.get?_update, if_neg elsewhere]
    · rfl

theorem get?_expireRoom_ne {self : RoomRegistry} {roomId other : String}
    (elsewhere : roomId ≠ other) (waiterId : Nat) (now : Instant) :
    (self.expireRoom config other waiterId now).rooms.get? roomId = self.rooms.get? roomId := by
  unfold RoomRegistry.expireRoom
  cases self.rooms.get? other with
  | none => rfl
  | some present =>
    simp only
    split
    · rw [Table.get?_update, if_neg elsewhere]
    · rfl

theorem get?_dropGuard_ne {self : RoomRegistry} {roomId : String} {slot : RoomSlotGuard}
    (elsewhere : roomId ≠ slot.roomId) :
    (self.dropGuard slot).rooms.get? roomId = self.rooms.get? roomId := by
  unfold RoomRegistry.dropGuard
  cases self.rooms.get? slot.roomId with
  | none => rfl
  | some present =>
    simp only
    split
    · split
      · rw [Table.get?_remove, if_neg elsewhere, Table.get?_update, if_neg elsewhere]
      · rw [Table.get?_update, if_neg elsewhere]
    · rfl

/-! ## Consumed rooms -/

theorem sweepRooms_consumed {self : RoomRegistry} {roomId : String} {room : RoomState}
    (found : self.rooms.get? roomId = some room) (live : room.status = .live)
    (consumed : room.consumed = true) (now : Instant) :
    (self.sweepRooms config now).rooms.get? roomId = some room := by
  have notDue : expireDue config now room = room := by
    unfold expireDue
    rw [if_neg]
    intro ⟨_, open', _⟩
    exact open' consumed
  have stays : retained now room = true := by
    unfold retained
    rw [live]
  rw [get?_sweepRooms, found, Option.map_some, notDue, Option.filter_some, stays, if_pos rfl]

/-- The step drops the last guard of the room. -/
def DropsLastGuard (self : RoomRegistry) (roomId : String) (room : RoomState) (step : BrokerStep) :
    Prop :=
  step = .dropGuard { roomId, instanceId := room.instanceId } ∧
    self.guards.count { roomId, instanceId := room.instanceId } = 1

variable {self : RoomRegistry} {roomId : String} {room : RoomState}

theorem serveCreator_consumed (found : self.rooms.get? roomId = some room)
    (live : room.status = .live) (consumed : room.consumed = true) (join : Join) (now : Instant) :
    (self.serveCreator config join now).2.rooms.get? roomId = some room := by
  have swept : (self.sweepRooms config now).rooms.get? roomId = some room :=
    sweepRooms_consumed found live consumed now
  obtain same | ⟨absent, _, _, same⟩ | ⟨other, found', opened, same⟩ :=
    serveCreator_cases config join now self
  · rwa [same]
  · have elsewhere : roomId ≠ join.roomId := by
      intro here
      rw [← here, swept] at absent
      cases absent
    rw [same]
    show (Table.update (Table.insert _ _ _) _ _).get? _ = _
    rwa [Table.get?_update, if_neg elsewhere, Table.get?_insert, if_neg elsewhere]
  · have elsewhere : roomId ≠ join.roomId := by
      intro here
      rw [← here, swept] at found'
      cases found'
      have fresh := (creatorRejection_eq_none.mp opened).2.1
      rw [consumed] at fresh
      cases fresh
    rw [same]
    show (Table.update _ _ _).get? _ = _
    rwa [Table.get?_update, if_neg elsewhere]

theorem serveJoiner_consumed (ok : Accounted config self)
    (found : self.rooms.get? roomId = some room) (consumed : room.consumed = true) (join : Join)
    (now : Instant) (rate : Except Duration Unit) (received : Bool) :
    (self.serveJoiner config join now rate received).2.rooms.get? roomId = some room := by
  obtain ⟨remembered, live, _⟩ := (ok.room found).paired consumed
  have swept : (self.sweepRooms config now).rooms.get? roomId = some room :=
    sweepRooms_consumed found live consumed now
  obtain ⟨_, same⟩ | ⟨other, _, found', _, code, _, same⟩ | ⟨other, found', _, fresh, _, _, same⟩ :=
    serveJoiner_cases config join now rate received self
  · rwa [same]
  · have elsewhere : roomId ≠ join.roomId := by
      intro here
      rw [← here, swept] at found'
      cases found'
      rw [(ok.room found).code, remembered] at code
      cases code
    rw [same]
    show (Table.update _ _ _).get? _ = _
    rwa [Table.get?_update, if_neg elsewhere]
  · have elsewhere : roomId ≠ join.roomId := by
      intro here
      rw [← here, swept] at found'
      cases found'
      rw [consumed] at fresh
      cases fresh
    rw [same]
    show (Table.update _ _ _).get? _ = _
    rwa [Table.get?_update, if_neg elsewhere]

theorem evictWaiter_alone (found : self.rooms.get? roomId = some room) (alone : room.waiter = none)
    (other : String) (waiterId : Nat) :
    (self.evictWaiter other waiterId).rooms.get? roomId = some room := by
  by_cases here : roomId = other
  · subst here
    simp [RoomRegistry.evictWaiter, found, isParked, alone]
  · rwa [get?_evictWaiter_ne here]

theorem expireRoom_alone (found : self.rooms.get? roomId = some room) (alone : room.waiter = none)
    (other : String) (waiterId : Nat) (now : Instant) :
    (self.expireRoom config other waiterId now).rooms.get? roomId = some room := by
  by_cases here : roomId = other
  · subst here
    simp [RoomRegistry.expireRoom, found, isParked, alone]
  · rwa [get?_expireRoom_ne here]

/-- A consumed room leaves the registry with its last guard, and no other way. -/
theorem dropGuard_consumed (ok : Accounted config self) (found : self.rooms.get? roomId = some room)
    (consumed : room.consumed = true) (slot : RoomSlotGuard) :
    (DropsLastGuard self roomId room (.dropGuard slot) →
      (self.dropGuard slot).rooms.get? roomId = none) ∧
    (¬ DropsLastGuard self roomId room (.dropGuard slot) →
      ∃ after, (self.dropGuard slot).rooms.get? roomId = some after ∧
        after.instanceId = room.instanceId ∧ after.consumed = true) := by
  obtain ⟨remembered, live, alone, active⟩ := (ok.room found).paired consumed
  have accounted := (ok.room found).accounted
  by_cases own : slot = { roomId, instanceId := room.instanceId }
  · subst own
    unfold RoomRegistry.dropGuard
    simp only [found, if_true]
    by_cases last : room.activeConnections - 1 = 0
    · rw [if_pos ⟨remembered, last, by rw [alone]; rfl, live⟩]
      constructor
      · intro _
        show (Table.remove _ _).get? _ = _
        rw [Table.get?_remove, if_pos rfl]
      · intro more
        exact absurd ⟨rfl, by omega⟩ more
    · rw [if_neg fun release => last release.2.1]
      constructor
      · intro drops
        have one := drops.2
        omega
      · intro _
        refine ⟨{ room with activeConnections := room.activeConnections - 1 }, ?_, rfl, consumed⟩
        show (Table.update _ _ _).get? _ = _
        rw [Table.get?_update, if_pos rfl, found]
        rfl
  · constructor
    · intro drops
      exact absurd (BrokerStep.dropGuard.inj drops.1) own
    · intro _
      refine ⟨room, ?_, rfl, consumed⟩
      by_cases here : roomId = slot.roomId
      · -- a guard of an earlier instance
        have stale : room.instanceId ≠ slot.instanceId := by
          intro current
          exact own (by rw [here, current])
        unfold RoomRegistry.dropGuard
        rw [← here, found]
        simp only
        rwa [if_neg stale]
      · rwa [get?_dropGuard_ne here]

theorem consumed_step (ok : Accounted config self) (found : self.rooms.get? roomId = some room)
    (consumed : room.consumed = true) (step : BrokerStep) :
    (DropsLastGuard self roomId room step → (self.step config step).rooms.get? roomId = none) ∧
    (¬ DropsLastGuard self roomId room step →
      ∃ after, (self.step config step).rooms.get? roomId = some after ∧
        after.instanceId = room.instanceId ∧ after.consumed = true) := by
  obtain ⟨_, live, alone, _⟩ := (ok.room found).paired consumed
  -- every step but a guard's drop leaves the room as it is
  have kept : ∀ {other : BrokerStep}, (∀ slot, other ≠ .dropGuard slot) →
      (self.step config other).rooms.get? roomId = some room →
      (DropsLastGuard self roomId room other → (self.step config other).rooms.get? roomId = none) ∧
      (¬ DropsLastGuard self roomId room other →
        ∃ after, (self.step config other).rooms.get? roomId = some after ∧
          after.instanceId = room.instanceId ∧ after.consumed = true) := by
    intro other noDrop same
    exact ⟨fun drops => absurd drops.1 (noDrop _), fun _ => ⟨room, same, rfl, consumed⟩⟩
  cases step with
  | creatorJoin join now =>
    exact kept (fun _ => BrokerStep.noConfusion)
      (serveCreator_consumed found live consumed join now)
  | joinerJoin join now rate received =>
    exact kept (fun _ => BrokerStep.noConfusion)
      (serveJoiner_consumed ok found consumed join now rate received)
  | evictWaiter other waiterId =>
    exact kept (fun _ => BrokerStep.noConfusion) (evictWaiter_alone found alone other waiterId)
  | expireRoom other waiterId now =>
    exact kept (fun _ => BrokerStep.noConfusion) (expireRoom_alone found alone other waiterId now)
  | sweep now =>
    exact kept (fun _ => BrokerStep.noConfusion) (sweepRooms_consumed found live consumed now)
  | dropGuard slot => exact dropGuard_consumed ok found consumed slot

/-- A match consumes a remembered room. -/
theorem serveJoiner_consumes {join : Join} {now : Instant} {rate : Except Duration Unit}
    {received : Bool} (remembered : isRememberedRoomId join.roomId = true)
    (matched : (self.serveJoiner config join now rate received).1 = none) :
    ∃ room, (self.serveJoiner config join now rate received).2.rooms.get? join.roomId = some room ∧
      room.consumed = true := by
  obtain ⟨_, same⟩ | ⟨_, _, _, _, _, _, same⟩ | ⟨room, found, _, _, _, _, same⟩ :=
    serveJoiner_cases config join now rate received self
  · rw [same] at matched
    cases matched
  · rw [same] at matched
    cases matched
  · rw [same] at matched ⊢
    cases received with
    | false => cases matched
    | true =>
      refine ⟨handedRoom config join.roomId true now room, ?_, ?_⟩
      · show (Table.update _ _ _).get? _ = _
        rw [Table.get?_update, if_pos rfl, found]
        rfl
      · simp only [handedRoom, if_true, remembered, Bool.or_true]
        split
        · unfold RoomState.exhaust
          split <;> rfl
        · rfl

end RoomRegistry

end Envoix.Rendezvous
