import Envoix.Rendezvous.RoomAccounting

/-! # The cap on waiting creators

`serve_creator` counts the parked creators before it opens a room, and not before a creator parks
again in a room that is already there. -/

namespace Envoix.Rendezvous

open RoomRegistry

/-- A creator comes back to an open room when the cap is already used up. -/
def ReconnectsPastCap (config : BrokerConfig) (registry : RoomRegistry) : BrokerStep → Prop
  | .creatorJoin join now =>
    ∃ room, (registry.sweepRooms config now).rooms.get? join.roomId = some room ∧
      creatorRejection config room = none ∧
      config.maxWaitingCreators ≤ (registry.sweepRooms config now).waitingCreators
  | _ => False

/-- The registries reached by runs whose steps all meet a condition on the registry before them. -/
inductive ReachableBy (config : BrokerConfig) (meets : RoomRegistry → BrokerStep → Prop) :
    RoomRegistry → Prop where
  | new : ReachableBy config meets .new
  | step {registry : RoomRegistry} {step : BrokerStep} (before : ReachableBy config meets registry)
      (enabled : step.Enabled registry) (met : meets registry step) :
      ReachableBy config meets (registry.step config step)

theorem Reachable.next {config : BrokerConfig} {registry : RoomRegistry}
    (before : Reachable config registry) (step : BrokerStep) (enabled : step.Enabled registry) :
    Reachable config (registry.step config step) :=
  .step before enabled

variable {config : BrokerConfig} {self : RoomRegistry}

/-! ## What each section does to the count -/

theorem waitingCreators_sweepRooms (config : BrokerConfig) (self : RoomRegistry) (now : Instant) :
    (self.sweepRooms config now).waitingCreators ≤ self.waitingCreators := by
  simp only [waitingCreators, sweepRooms]
  apply Nat.le_trans (Table.count_retain_le _ _ _)
  apply Table.count_mapValues_le
  intro _ room parked
  unfold expireDue at parked
  split at parked
  · cases parked
  · exact parked

/-- A section that parks no creator in the room it changes. -/
theorem waitingCreators_update (self : RoomRegistry) (roomId : String)
    {change : RoomState → RoomState}
    (parks : ∀ room, (change room).waiter.isSome = true → room.waiter.isSome = true) :
    (self.rooms.update roomId change).count (fun room => room.waiter.isSome) ≤
      self.waitingCreators :=
  Table.count_update_le _ parks

theorem waitingCreators_parkCreator {roomId : String} {room : RoomState} {join : Join}
    (found : self.rooms.get? roomId = some room) (alone : room.waiter = none) :
    (self.parkCreator roomId room join).2.waitingCreators = self.waitingCreators + 1 := by
  have counted := Table.count_update_of_found found
    (fun room => { room with
      waiter := some { id := self.nextId, join }
      activeConnections := room.activeConnections + 1 }) (fun room => room.waiter.isSome)
  simp only [alone, Option.isSome_none, Bool.toNat_false, Option.isSome_some, Bool.toNat_true,
    Nat.add_zero]
    at counted
  exact counted

theorem waitingCreators_serveCreator {join : Join} {now : Instant}
    (met : ¬ ReconnectsPastCap config self (.creatorJoin join now))
    (capped : self.waitingCreators ≤ config.maxWaitingCreators) :
    (self.serveCreator config join now).2.waitingCreators ≤ config.maxWaitingCreators := by
  have swept := Nat.le_trans (waitingCreators_sweepRooms config self now) capped
  obtain same | ⟨_, _, below, same⟩ | ⟨room, found, opened, same⟩ :=
    serveCreator_cases config join now self
  · rw [same]
    exact swept
  · rw [same]
    simp only [parkCreator, waitingCreators]
    apply Nat.le_trans (Table.count_update_le_succ _ _ _ _)
    apply Nat.succ_le_of_lt
    exact Nat.lt_of_le_of_lt (Table.count_insert_le _ rfl) below
  · rw [same, waitingCreators_parkCreator found (creatorRejection_eq_none.mp opened).2.2.1]
    apply Nat.lt_of_not_le
    intro full
    exact met ⟨room, found, opened, full⟩

theorem waitingCreators_serveJoiner (join : Join) (now : Instant) (rate : Except Duration Unit)
    (received : Bool) :
    (self.serveJoiner config join now rate received).2.waitingCreators ≤ self.waitingCreators := by
  apply Nat.le_trans _ (waitingCreators_sweepRooms config self now)
  obtain ⟨_, same⟩ | ⟨_, _, _, _, _, _, same⟩ | ⟨_, _, _, _, _, _, same⟩ :=
    serveJoiner_cases config join now rate received self
  · rw [same]
  · rw [same]
    apply waitingCreators_update
    intro room parked
    unfold RoomState.exhaust at parked
    split at parked <;> exact parked
  · rw [same]
    apply waitingCreators_update
    intro room parked
    unfold handedRoom RoomState.exhaust at parked
    simp only at parked
    split at parked
    · split at parked
      · split at parked <;> cases parked
      · cases parked
    · cases parked

theorem waitingCreators_evictWaiter (roomId : String) (waiterId : Nat) :
    (self.evictWaiter roomId waiterId).waitingCreators ≤ self.waitingCreators := by
  have evicted : (self.rooms.update roomId fun room => { room with waiter := none }).count
      (fun room => room.waiter.isSome) ≤ self.waitingCreators := by
    apply waitingCreators_update
    intro room parked
    cases parked
  unfold evictWaiter
  cases self.rooms.get? roomId with
  | none => exact Nat.le_refl _
  | some room =>
    simp only
    split
    · split
      · exact Nat.le_trans (Table.count_remove_le _ _ _) evicted
      · exact evicted
    · exact Nat.le_refl _

theorem waitingCreators_expireRoom (roomId : String) (waiterId : Nat) (now : Instant) :
    (self.expireRoom config roomId waiterId now).waitingCreators ≤ self.waitingCreators := by
  unfold expireRoom
  cases self.rooms.get? roomId with
  | none => exact Nat.le_refl _
  | some room =>
    simp only
    split
    · apply waitingCreators_update
      intro room parked
      cases parked
    · exact Nat.le_refl _

theorem waitingCreators_dropGuard (slot : RoomSlotGuard) :
    (self.dropGuard slot).waitingCreators ≤ self.waitingCreators := by
  unfold dropGuard
  cases self.rooms.get? slot.roomId with
  | none => exact Nat.le_refl _
  | some room =>
    simp only
    have released : (self.rooms.update slot.roomId fun other =>
        { other with activeConnections := room.activeConnections - 1 }).count
        (fun room => room.waiter.isSome) ≤ self.waitingCreators :=
      waitingCreators_update self slot.roomId fun _ parked => parked
    split
    · split
      · exact Nat.le_trans (Table.count_remove_le _ _ _) released
      · exact released
    · exact Nat.le_refl _

/-! ## Runs -/

theorem waitingCreators_step {step : BrokerStep} (met : ¬ ReconnectsPastCap config self step)
    (capped : self.waitingCreators ≤ config.maxWaitingCreators) :
    (self.step config step).waitingCreators ≤ config.maxWaitingCreators := by
  cases step with
  | creatorJoin join now => exact waitingCreators_serveCreator met capped
  | joinerJoin join now rate received =>
    exact Nat.le_trans (waitingCreators_serveJoiner join now rate received) capped
  | evictWaiter roomId waiterId =>
    exact Nat.le_trans (waitingCreators_evictWaiter roomId waiterId) capped
  | expireRoom roomId waiterId now =>
    exact Nat.le_trans (waitingCreators_expireRoom roomId waiterId now) capped
  | sweep now => exact Nat.le_trans (waitingCreators_sweepRooms config self now) capped
  | dropGuard slot => exact Nat.le_trans (waitingCreators_dropGuard slot) capped

/-- A creator that comes back past the cap is parked all the same. -/
theorem waitingCreators_past_cap {step : BrokerStep} (past : ReconnectsPastCap config self step) :
    config.maxWaitingCreators < (self.step config step).waitingCreators := by
  cases step with
  | creatorJoin join now =>
    obtain ⟨room, found, opened, full⟩ := past
    have parked : (self.serveCreator config join now).2 =
        ((self.sweepRooms config now).parkCreator join.roomId room join).2 := by
      simp only [serveCreator, found, opened]
    show _ < (self.serveCreator config join now).2.waitingCreators
    rw [parked, waitingCreators_parkCreator found (creatorRejection_eq_none.mp opened).2.2.1]
    exact Nat.lt_succ_of_le full
  | joinerJoin _ _ _ _ => cases past
  | evictWaiter _ _ => cases past
  | expireRoom _ _ _ => cases past
  | sweep _ => cases past
  | dropGuard _ => cases past

/-- The cap holds along every run in which no creator comes back past it, and a step that does so
breaks it. -/
theorem waiting_creators_capped (config : BrokerConfig) :
    (∀ registry,
      ReachableBy config (fun before step => ¬ ReconnectsPastCap config before step) registry →
      registry.waitingCreators ≤ config.maxWaitingCreators) ∧
    (∀ registry step, ReconnectsPastCap config registry step →
      config.maxWaitingCreators < (registry.step config step).waitingCreators) := by
  refine ⟨?_, fun _ _ past => waitingCreators_past_cap past⟩
  intro registry reached
  induction reached with
  | new => exact Nat.zero_le _
  | step _ _ met ih => exact waitingCreators_step met ih

def tightConfig : BrokerConfig := { BrokerConfig.default with maxWaitingCreators := 1 }

def codeCreator (roomId : String) : Join :=
  ⟨rendezvousProtocolVersion, roomId, .creator, .receiver, [.fullTicket, .roomCode], none⟩

/-- The first creator loses its connection, a second takes the only place, the first comes back. -/
def crowdedRegistry : RoomRegistry :=
  let first := RoomRegistry.new.step tightConfig (.creatorJoin (codeCreator "540001") 0)
  let gone :=
    (first.step tightConfig (.evictWaiter "540001" 1)).step tightConfig (.dropGuard ⟨"540001", 0⟩)
  let second := gone.step tightConfig (.creatorJoin (codeCreator "540002") 1)
  second.step tightConfig (.creatorJoin (codeCreator "540001") 2)

theorem waiting_creators_past_cap :
    tightConfig.validate = .ok () ∧ validateJoin (codeCreator "540001") = .ok () ∧
    validateJoin (codeCreator "540002") = .ok () ∧ Reachable tightConfig crowdedRegistry ∧
    tightConfig.maxWaitingCreators < crowdedRegistry.waitingCreators := by
  refine ⟨by decide, by decide, by decide, ?_, by decide⟩
  have held : (⟨"540001", 0⟩ : RoomSlotGuard) ∈ ((RoomRegistry.new.step tightConfig
      (.creatorJoin (codeCreator "540001") 0)).step tightConfig
        (.evictWaiter "540001" 1)).guards := by decide
  have parked :
    Reachable tightConfig
      (RoomRegistry.new.step tightConfig (.creatorJoin (codeCreator "540001") 0)) :=
    .step .new trivial
  have evicted := parked.next (.evictWaiter "540001" 1) trivial
  have gone := evicted.next (.dropGuard ⟨"540001", 0⟩) held
  have replaced := gone.next (.creatorJoin (codeCreator "540002") 1) trivial
  exact replaced.next (.creatorJoin (codeCreator "540001") 2) trivial

end Envoix.Rendezvous
