import Envoix.Rendezvous.RoomAccounting

/-! # The guessing budget of a room code

A six-digit code is guessed online, one hand-off a guess.  The hand-offs of a room are counted over
a whole interleaving, from the step that creates the room to the sweep that purges it: a room that
keeps its locator through reconnects, evictions and its own expiry also keeps its attempts. -/

namespace Envoix.Rendezvous

open Fallible RoomRegistry

/-! ## What a step does in a room -/

/-- The room of a successful hand-off. -/
def handsOff (config : BrokerConfig) (registry : RoomRegistry) : BrokerStep → Option RoomSlotGuard
  | .joinerJoin join now rate received =>
    if (registry.serveJoiner config join now rate received).1 = none then
      ((registry.sweepRooms config now).rooms.get? join.roomId).map fun room =>
        { roomId := join.roomId, instanceId := room.instanceId }
    else none
  | _ => none

/-- The room a creator parks in. -/
def parksIn (config : BrokerConfig) (registry : RoomRegistry) : BrokerStep → Option RoomSlotGuard
  | .creatorJoin join now =>
    match (registry.serveCreator config join now).1 with
    | .parked _ _ roomGuard => some roomGuard
    | .rejected _ => none
  | _ => none

/-- The step sweeps after the tombstone time of the room, and no connection holds the room. -/
def Purges (room : RoomState) (step : BrokerStep) : Prop :=
  ∃ now purgeAt, step.sweepsAt = some now ∧
    (room.status = .expired purgeAt ∨ room.status = .exhausted purgeAt) ∧ purgeAt ≤ now ∧
    room.activeConnections = 0

/-- The hand-offs and the parkings of an interleaving, the latest first. -/
structure RoomActivity where
  handed : List RoomSlotGuard
  parked : List RoomSlotGuard

def RoomActivity.note (config : BrokerConfig) (registry : RoomRegistry) (step : BrokerStep)
    (self : RoomActivity) :
    RoomActivity where
  handed := (handsOff config registry step).toList ++ self.handed
  parked := (parksIn config registry step).toList ++ self.parked

/-- An interleaving of locked sections and what it did. -/
inductive BrokerRun (config : BrokerConfig) (start : RoomRegistry) :
    RoomActivity → RoomRegistry → Prop where
  | here : BrokerRun config start ⟨[], []⟩ start
  | step {activity : RoomActivity} {registry : RoomRegistry} {step : BrokerStep}
      (before : BrokerRun config start activity registry) (enabled : step.Enabled registry) :
      BrokerRun config start (activity.note config registry step) (registry.step config step)

variable {config : BrokerConfig} {registry : RoomRegistry}

theorem BrokerRun.reachable {start : RoomRegistry} {activity : RoomActivity}
    (begun : Reachable config start) (run : BrokerRun config start activity registry) :
    Reachable config registry := by
  induction run with
  | here => exact begun
  | step _ enabled ih => exact .step ih enabled

/-! ## Sweeping one room -/

theorem expireDue_attempts (now : Instant) (room : RoomState) :
    (expireDue config now room).attempts = room.attempts := by
  unfold expireDue
  split <;> rfl

theorem expireDue_closed {room : RoomState} (closed : room.status ≠ .live) (now : Instant) :
    expireDue config now room = room := by
  unfold expireDue
  rw [if_neg]
  intro due
  exact closed due.1

theorem live_of_expireDue {now : Instant} {room : RoomState}
    (live : (expireDue config now room).status = .live) :
    room.status = .live := by
  by_cases closed : room.status = .live
  · exact closed
  · rwa [expireDue_closed closed] at live

theorem retained_eq_false {now : Instant} {room : RoomState} :
    retained now room = false ↔
      ∃ purgeAt, (room.status = .expired purgeAt ∨ room.status = .exhausted purgeAt) ∧
        purgeAt ≤ now ∧ room.activeConnections = 0 := by
  unfold retained
  cases status : room.status with
  | live => simp
  | expired purgeAt => simp [and_comm]
  | exhausted purgeAt => simp [and_comm]

/-- A room the sweep itself expires is not purged by it. -/
theorem retained_expireDue (valid : config.validate = .ok ()) (now : Instant) (room : RoomState) :
    retained now (expireDue config now room) = retained now room := by
  unfold expireDue
  split
  next due =>
    have tombstone : 0 < config.roomTombstoneTtl := by
      simp only [BrokerConfig.validate, bind_eq_ok, reject_eq_ok, exists_unit] at valid
      obtain ⟨_, _, _, _, durations, _⟩ := valid
      exact Nat.pos_of_ne_zero fun zero => durations (.inr (.inl zero))
    simp [retained, due.1, tombstone]
  next => rfl

theorem sweepRooms_some (valid : config.validate = .ok ()) {roomId : String} {room : RoomState}
    {now : Instant} (found : registry.rooms.get? roomId = some room)
    (stays : retained now room = true) :
    (registry.sweepRooms config now).rooms.get? roomId = some (expireDue config now room) := by
  rw [get?_sweepRooms, found, Option.map_some, Option.filter_some, retained_expireDue valid,
    stays, if_pos rfl]

theorem sweepRooms_none (valid : config.validate = .ok ()) {roomId : String} {room : RoomState}
    {now : Instant} (found : registry.rooms.get? roomId = some room)
    (due : retained now room = false) :
    (registry.sweepRooms config now).rooms.get? roomId = none := by
  rw [get?_sweepRooms, found, Option.map_some, Option.filter_some, retained_expireDue valid, due,
    if_neg Bool.false_ne_true]

theorem sweepRooms_absent {roomId : String} {now : Instant}
    (absent : registry.rooms.get? roomId = none) :
    (registry.sweepRooms config now).rooms.get? roomId = none := by
  rw [get?_sweepRooms, absent]
  rfl

/-- A room the sweep leaves was there before it. -/
theorem of_sweepRooms {roomId : String} {room : RoomState} {now : Instant}
    (found : (registry.sweepRooms config now).rooms.get? roomId = some room) :
    ∃ before, registry.rooms.get? roomId = some before ∧ room = expireDue config now before := by
  rw [get?_sweepRooms] at found
  obtain ⟨before, listed, same⟩ := Option.map_eq_some_iff.mp (Option.filter_eq_some_iff.mp found).1
  exact ⟨before, listed, same.symm⟩

/-! ## Hand-offs and parkings happen in live rooms -/

theorem handsOff_live {step : BrokerStep} {slot : RoomSlotGuard}
    (handed : handsOff config registry step = some slot) :
    ∃ room, registry.rooms.get? slot.roomId = some room ∧ room.instanceId = slot.instanceId ∧
      room.status = .live := by
  cases step with
  | joinerJoin join now rate received =>
    simp only [handsOff] at handed
    split at handed
    next matched =>
      obtain ⟨swept, found, rfl⟩ := Option.map_eq_some_iff.mp handed
      obtain ⟨room, listed, rfl⟩ := of_sweepRooms found
      refine ⟨room, listed, (expireDue_instanceId now room).symm, ?_⟩
      obtain ⟨_, same⟩ | ⟨_, _, _, _, _, _, same⟩ | ⟨served, found', live, _⟩ :=
        serveJoiner_cases config join now rate received registry
      · rw [same] at matched
        cases matched
      · rw [same] at matched
        cases matched
      · rw [found] at found'
        cases found'
        exact live_of_expireDue live
    next => cases handed
  | _ => cases handed

/-- A creator parks in the room it opens or in one that is live. -/
theorem parksIn_live {step : BrokerStep} {slot : RoomSlotGuard}
    (parked : parksIn config registry step = some slot) :
    slot.instanceId = registry.nextId ∨
    ∃ room, registry.rooms.get? slot.roomId = some room ∧ room.instanceId = slot.instanceId ∧
      room.status = .live := by
  cases step with
  | creatorJoin join now =>
    simp only [parksIn, serveCreator] at parked
    cases found : (registry.sweepRooms config now).rooms.get? join.roomId with
    | none =>
      rw [found] at parked
      simp only at parked
      split at parked
      next decision opened =>
        split at opened
        · cases opened
        · cases opened
          cases parked
          exact .inl rfl
      next => cases parked
    | some swept =>
      rw [found] at parked
      simp only at parked
      cases refused : creatorRejection config swept with
      | some outcome =>
        rw [refused] at parked
        cases parked
      | none =>
        rw [refused] at parked
        cases parked
        obtain ⟨room, listed, rfl⟩ := of_sweepRooms found
        obtain ⟨live, _⟩ := creatorRejection_eq_none.mp refused
        exact .inr ⟨room, listed, (expireDue_instanceId now room).symm, live_of_expireDue live⟩
  | _ => cases parked

/-! ## One step of a room -/

/-- The room before and after a step that leaves it in the registry and hands over so many
joiners. -/
structure Advances (handoffs : Nat) (room after : RoomState) : Prop where
  sameInstance : after.instanceId = room.instanceId
  attempts : after.attempts = room.attempts + handoffs
  closed : room.status ≠ .live → after.status = room.status

/-- The room is new in the registry. -/
def Opened (registry : RoomRegistry) (room : RoomState) : Prop :=
  room.instanceId = registry.nextId ∧ room.attempts = 0

variable {roomId : String} {room : RoomState}

/-- The hand-offs of the step in the room. -/
def handoffsIn (config : BrokerConfig) (registry : RoomRegistry) (roomId : String)
    (room : RoomState) (step : BrokerStep) : Nat :=
  (handsOff config registry step).toList.count { roomId, instanceId := room.instanceId }

theorem advances_expireDue (config : BrokerConfig) (now : Instant) (room : RoomState) :
    Advances 0 room (expireDue config now room) where
  sameInstance := expireDue_instanceId now room
  attempts := expireDue_attempts now room
  closed closed := by rw [expireDue_closed closed]

/-- What a step leaves at the locator of a room: the room itself, or nothing or a new room once the
room is purged. -/
inductive AfterStep (config : BrokerConfig) (registry : RoomRegistry) (roomId : String)
    (room : RoomState) (step : BrokerStep) : Prop where
  | stays (after : RoomState) (kept : ¬ Purges room step)
      (found : (registry.step config step).rooms.get? roomId = some after)
      (advances : Advances (handoffsIn config registry roomId room step) room after)
  | purged (purged : Purges room step)
      (opened : ∀ after, (registry.step config step).rooms.get? roomId = some after →
        Opened registry after)

theorem purges_iff {step : BrokerStep} {now : Instant} (sweeps : step.sweepsAt = some now) :
    Purges room step ↔ retained now room = false := by
  rw [retained_eq_false]
  constructor
  · intro ⟨reading, purgeAt, same, due⟩
    rw [sweeps] at same
    cases same
    exact ⟨purgeAt, due⟩
  · intro ⟨purgeAt, due⟩
    exact ⟨now, purgeAt, sweeps, due⟩

theorem not_purges {step : BrokerStep} (sweeps : step.sweepsAt = none) : ¬ Purges room step := by
  intro ⟨_, _, same, _⟩
  rw [sweeps] at same
  cases same

/-- A section that only sweeps and then changes the table by `after`. -/
theorem afterStep_of_sweep (valid : config.validate = .ok ()) {step : BrokerStep} {now : Instant}
    (sweeps : step.sweepsAt = some now) (found : registry.rooms.get? roomId = some room)
    (left : ∀ swept, (registry.sweepRooms config now).rooms.get? roomId = some swept →
      swept = expireDue config now room →
      ∃ after, (registry.step config step).rooms.get? roomId = some after ∧
        Advances (handoffsIn config registry roomId room step) room after)
    (opened : (registry.sweepRooms config now).rooms.get? roomId = none →
      ∀ after, (registry.step config step).rooms.get? roomId = some after → Opened registry after) :
    AfterStep config registry roomId room step := by
  cases stays : retained now room with
  | true =>
    obtain ⟨after, there, advances⟩ := left _ (sweepRooms_some valid found stays) rfl
    refine .stays after ?_ there advances
    rw [purges_iff sweeps, stays]
    exact Bool.noConfusion
  | false =>
    exact .purged ((purges_iff sweeps).mpr stays) (opened (sweepRooms_none valid found stays))

theorem afterStep_sweep (valid : config.validate = .ok ())
    (found : registry.rooms.get? roomId = some room) (now : Instant) :
    AfterStep config registry roomId room (.sweep now) := by
  apply afterStep_of_sweep valid rfl found
  · intro swept there same
    subst same
    exact ⟨_, there, advances_expireDue config now room⟩
  · intro absent after there
    cases absent.symm.trans there

/-- The locator after `serve_creator`, for the room the sweep left there. -/
theorem get?_serveCreator (config : BrokerConfig) (registry : RoomRegistry) (roomId : String)
    (join : Join) (now : Instant) :
    (∀ swept, (registry.sweepRooms config now).rooms.get? roomId = some swept →
      ∃ after, (registry.serveCreator config join now).2.rooms.get? roomId = some after ∧
        after.instanceId = swept.instanceId ∧ after.attempts = swept.attempts ∧
        after.status = swept.status) ∧
    ((registry.sweepRooms config now).rooms.get? roomId = none →
      ∀ after, (registry.serveCreator config join now).2.rooms.get? roomId = some after →
        Opened registry after) := by
  obtain same | ⟨absent, _, _, same⟩ | ⟨joined, there, _, same⟩ :=
    serveCreator_cases config join now registry
  · rw [same]
    refine ⟨fun swept found => ⟨swept, found, rfl, rfl, rfl⟩, ?_⟩
    intro absent after found
    cases absent.symm.trans found
  · rw [same]
    simp only [parkCreator, Table.get?_update, Table.get?_insert]
    by_cases here : roomId = join.roomId
    · subst here
      refine ⟨fun swept found => ?_, fun _ after found => ?_⟩
      · cases absent.symm.trans found
      · simp only [if_true, Option.map_some, Option.some.injEq] at found
        subst found
        exact ⟨rfl, rfl⟩
    · simp only [if_neg here]
      refine ⟨fun swept found => ⟨swept, found, rfl, rfl, rfl⟩, ?_⟩
      intro missing after found
      cases missing.symm.trans found
  · rw [same]
    simp only [parkCreator, Table.get?_update]
    by_cases here : roomId = join.roomId
    · subst here
      simp only [if_true]
      refine ⟨fun swept found => ?_, fun missing => ?_⟩
      · rw [found]
        exact ⟨_, rfl, rfl, rfl, rfl⟩
      · cases missing.symm.trans there
    · simp only [if_neg here]
      refine ⟨fun swept found => ⟨swept, found, rfl, rfl, rfl⟩, ?_⟩
      intro missing after found
      cases missing.symm.trans found

theorem afterStep_creatorJoin (valid : config.validate = .ok ())
    (found : registry.rooms.get? roomId = some room) (join : Join) (now : Instant) :
    AfterStep config registry roomId room (.creatorJoin join now) := by
  obtain ⟨left, opened⟩ := get?_serveCreator config registry roomId join now
  apply afterStep_of_sweep valid rfl found _ opened
  intro swept there same
  obtain ⟨after, found', sameInstance, attempts, status⟩ := left swept there
  subst same
  have expired := advances_expireDue config now room
  refine ⟨after, found', sameInstance.trans expired.sameInstance,
    attempts.trans expired.attempts, ?_⟩
  intro closed
  exact status.trans (expired.closed closed)

theorem advances_handedRoom (config : BrokerConfig) (roomId : String) (received : Bool)
    (now : Instant) (room : RoomState) (live : room.status = .live) :
    Advances (if received then 1 else 0) room (handedRoom config roomId received now room) := by
  cases received with
  | false => exact ⟨rfl, rfl, fun _ => rfl⟩
  | true =>
    simp only [handedRoom, if_true]
    split
    next =>
      exact ⟨by simp [RoomState.exhaust, live], by simp [RoomState.exhaust, live],
        fun closed => absurd live closed⟩
    next => exact ⟨rfl, rfl, fun _ => rfl⟩

theorem advances_exhaust (now : Instant) (room : RoomState) :
    Advances 0 room (room.exhaust config now) := by
  unfold RoomState.exhaust
  split
  next live => exact ⟨rfl, rfl, fun closed => absurd live closed⟩
  next => exact ⟨rfl, rfl, fun _ => rfl⟩

theorem Advances.after_expireDue {handoffs : Nat} {now : Instant} {after : RoomState}
    (advances : Advances handoffs (expireDue config now room) after) :
    Advances handoffs room after := by
  have expired := advances_expireDue config now room
  refine ⟨advances.sameInstance.trans expired.sameInstance, ?_, ?_⟩
  · rw [advances.attempts, expired.attempts, Nat.add_zero]
  · intro closed
    have same := expired.closed closed
    rw [advances.closed (same ▸ closed), same]

theorem handsOff_rejected {join : Join} {now : Instant} {rate : Except Duration Unit}
    {received : Bool} {rejection : BrokerRejection} {left : RoomRegistry}
    (rejected : registry.serveJoiner config join now rate received = (some rejection, left)) :
    handsOff config registry (.joinerJoin join now rate received) = none := by
  simp only [handsOff, rejected]
  rfl

theorem handsOff_handed {join : Join} {now : Instant} {rate : Except Duration Unit}
    {received : Bool} {joined : RoomState}
    (there : (registry.sweepRooms config now).rooms.get? join.roomId = some joined)
    (handed : registry.serveJoiner config join now rate received =
      handoffJoiner config join.roomId joined received now (registry.sweepRooms config now)) :
    handsOff config registry (.joinerJoin join now rate received) =
      if received then some { roomId := join.roomId, instanceId := joined.instanceId }
      else none := by
  simp only [handsOff, handed, handoffJoiner, there]
  cases received <;> rfl

/-- The locator after `serve_joiner`, for the room the sweep left there. -/
theorem get?_serveJoiner (config : BrokerConfig) (registry : RoomRegistry) (roomId : String)
    (join : Join) (now : Instant) (rate : Except Duration Unit) (received : Bool) :
    (∀ swept, (registry.sweepRooms config now).rooms.get? roomId = some swept →
      ∃ after, (registry.serveJoiner config join now rate received).2.rooms.get? roomId =
        some after ∧
        Advances (handoffsIn config registry roomId swept (.joinerJoin join now rate received))
          swept after) ∧
    ((registry.sweepRooms config now).rooms.get? roomId = none →
      (registry.serveJoiner config join now rate received).2.rooms.get? roomId = none) := by
  obtain ⟨rejection, same⟩ | ⟨joined, rejection, there, _, _, _, same⟩ | ⟨joined, there, live, _,
    _, _, same⟩ :=
    serveJoiner_cases config join now rate received registry
  · simp only [handoffsIn, handsOff_rejected same]
    rw [same]
    exact ⟨fun swept found => ⟨swept, found, rfl, rfl, fun _ => rfl⟩, id⟩
  · simp only [handoffsIn, handsOff_rejected same]
    rw [same]
    simp only [Table.get?_update]
    by_cases here : roomId = join.roomId
    · subst here
      simp only [if_true, there]
      refine ⟨fun swept found => ?_, fun missing => by cases missing⟩
      cases found
      exact ⟨_, rfl, advances_exhaust now _⟩
    · simp only [if_neg here]
      exact ⟨fun swept found => ⟨swept, found, rfl, rfl, fun _ => rfl⟩, id⟩
  · simp only [handoffsIn, handsOff_handed there same]
    rw [same]
    simp only [handoffJoiner, Table.get?_update]
    by_cases here : roomId = join.roomId
    · subst here
      simp only [if_true, there]
      refine ⟨fun swept found => ?_, fun missing => by cases missing⟩
      cases found
      have advances := advances_handedRoom config join.roomId received now joined live
      refine ⟨_, rfl, advances.sameInstance, ?_, advances.closed⟩
      rw [advances.attempts]
      cases received <;> simp
    · -- the hand-off is in another room
      simp only [if_neg here]
      refine ⟨fun swept found => ⟨swept, found, rfl, ?_, fun _ => rfl⟩, id⟩
      have other : ({ roomId := join.roomId, instanceId := joined.instanceId } : RoomSlotGuard) ≠
          { roomId, instanceId := swept.instanceId } := by
        intro same
        exact here (congrArg RoomSlotGuard.roomId same).symm
      cases received <;> simp [other]

theorem afterStep_joinerJoin (valid : config.validate = .ok ())
    (found : registry.rooms.get? roomId = some room) (join : Join) (now : Instant)
    (rate : Except Duration Unit) (received : Bool) :
    AfterStep config registry roomId room (.joinerJoin join now rate received) := by
  obtain ⟨left, absent⟩ := get?_serveJoiner config registry roomId join now rate received
  apply afterStep_of_sweep valid rfl found
  · intro swept there same
    obtain ⟨after, found', advances⟩ := left swept there
    subst same
    refine ⟨after, found', ?_⟩
    rw [handoffsIn, expireDue_instanceId] at advances
    exact advances.after_expireDue
  · intro missing after there
    cases (absent missing).symm.trans there

theorem afterStep_evictWaiter (found : registry.rooms.get? roomId = some room)
    (code : isRememberedRoomId roomId = false) (other : String) (waiterId : Nat) :
    AfterStep config registry roomId room (.evictWaiter other waiterId) := by
  by_cases here : roomId = other
  · subst here
    by_cases parked : isParked room waiterId = true
    · refine .stays { room with waiter := none } (not_purges rfl) ?_ ⟨rfl, rfl, fun _ => rfl⟩
      simp [RoomRegistry.step, evictWaiter, found, parked, code, Table.get?_update]
    · refine .stays room (not_purges rfl) ?_ ⟨rfl, rfl, fun _ => rfl⟩
      simp [RoomRegistry.step, evictWaiter, found, parked]
  · refine .stays room (not_purges rfl) ?_ ⟨rfl, rfl, fun _ => rfl⟩
    exact (get?_evictWaiter_ne here waiterId).trans found

theorem afterStep_expireRoom (found : registry.rooms.get? roomId = some room) (other : String)
    (waiterId : Nat) (now : Instant) :
    AfterStep config registry roomId room (.expireRoom other waiterId now) := by
  by_cases here : roomId = other
  · subst here
    by_cases parked : isParked room waiterId = true ∧ room.status = .live
    · refine .stays { room with waiter := none, status := .expired (now + config.roomTombstoneTtl) }
        (not_purges rfl) ?_ ⟨rfl, rfl, fun closed => absurd parked.2 closed⟩
      simp [RoomRegistry.step, expireRoom, found, parked, Table.get?_update]
    · refine .stays room (not_purges rfl) ?_ ⟨rfl, rfl, fun _ => rfl⟩
      simp only [RoomRegistry.step, expireRoom, found]
      rwa [if_neg parked]
  · refine .stays room (not_purges rfl) ?_ ⟨rfl, rfl, fun _ => rfl⟩
    exact (get?_expireRoom_ne here waiterId now).trans found

theorem afterStep_dropGuard (found : registry.rooms.get? roomId = some room)
    (code : isRememberedRoomId roomId = false) (slot : RoomSlotGuard) :
    AfterStep config registry roomId room (.dropGuard slot) := by
  by_cases here : roomId = slot.roomId
  · by_cases current : room.instanceId = slot.instanceId
    · refine .stays { room with activeConnections := room.activeConnections - 1 }
        (not_purges rfl) ?_
        ⟨rfl, rfl, fun _ => rfl⟩
      subst here
      simp [RoomRegistry.step, dropGuard, found, current, code, Table.get?_update]
    · refine .stays room (not_purges rfl) ?_ ⟨rfl, rfl, fun _ => rfl⟩
      subst here
      simp [RoomRegistry.step, dropGuard, found, current]
  · refine .stays room (not_purges rfl) ?_ ⟨rfl, rfl, fun _ => rfl⟩
    exact (get?_dropGuard_ne here).trans found

/-- Every step, in a room with an attempt budget. -/
theorem afterStep (valid : config.validate = .ok ())
    (found : registry.rooms.get? roomId = some room) (code : isRememberedRoomId roomId = false)
    (step : BrokerStep) :
    AfterStep config registry roomId room step := by
  cases step with
  | creatorJoin join now => exact afterStep_creatorJoin valid found join now
  | joinerJoin join now rate received =>
    exact afterStep_joinerJoin valid found join now rate received
  | evictWaiter other waiterId => exact afterStep_evictWaiter found code other waiterId
  | expireRoom other waiterId now => exact afterStep_expireRoom found other waiterId now
  | sweep now => exact afterStep_sweep valid found now
  | dropGuard slot => exact afterStep_dropGuard found code slot

/-- A room where there was none is new. -/
theorem opened_of_absent (absent : registry.rooms.get? roomId = none) {step : BrokerStep}
    {after : RoomState} (found : (registry.step config step).rooms.get? roomId = some after) :
    Opened registry after := by
  cases step with
  | creatorJoin join now =>
    exact (get?_serveCreator config registry roomId join now).2
      (sweepRooms_absent absent) after found
  | joinerJoin join now rate received =>
    have left :=
      (get?_serveJoiner config registry roomId join now rate received).2 (sweepRooms_absent absent)
    cases left.symm.trans found
  | sweep now => cases (sweepRooms_absent absent).symm.trans found
  | evictWaiter other waiterId =>
    by_cases here : roomId = other
    · subst here
      simp [RoomRegistry.step, evictWaiter, absent] at found
    · cases absent.symm.trans ((get?_evictWaiter_ne here waiterId).symm.trans found)
  | expireRoom other waiterId now =>
    by_cases here : roomId = other
    · subst here
      simp [RoomRegistry.step, expireRoom, absent] at found
    · cases absent.symm.trans ((get?_expireRoom_ne here waiterId now).symm.trans found)
  | dropGuard slot =>
    by_cases here : roomId = slot.roomId
    · subst here
      simp [RoomRegistry.step, dropGuard, absent] at found
    · cases absent.symm.trans ((get?_dropGuard_ne here).symm.trans found)

theorem nextId_le_step (config : BrokerConfig) (registry : RoomRegistry) (step : BrokerStep) :
    registry.nextId ≤ (registry.step config step).nextId := by
  cases step with
  | creatorJoin join now =>
    obtain same | ⟨_, _, _, same⟩ | ⟨_, _, _, same⟩ := serveCreator_cases config join now registry
    · simp only [RoomRegistry.step, same, sweepRooms, le_refl]
    · simp only [RoomRegistry.step, same, sweepRooms, parkCreator]
      omega
    · simp only [RoomRegistry.step, same, sweepRooms, parkCreator]
      omega
  | joinerJoin join now rate received =>
    obtain ⟨_, same⟩ | ⟨_, _, _, _, _, _, same⟩ | ⟨_, _, _, _, _, _, same⟩ :=
      serveJoiner_cases config join now rate received registry
    · simp only [RoomRegistry.step, same, sweepRooms, le_refl]
    · simp only [RoomRegistry.step, same, sweepRooms, le_refl]
    · simp only [RoomRegistry.step, same, sweepRooms, handoffJoiner, le_refl]
  | evictWaiter roomId waiterId =>
    simp only [RoomRegistry.step, evictWaiter]
    split
    · rfl
    · split
      · split <;> rfl
      · rfl
  | expireRoom roomId waiterId now =>
    simp only [RoomRegistry.step, expireRoom]
    split
    · rfl
    · split <;> rfl
  | sweep now => rfl
  | dropGuard slot =>
    simp only [RoomRegistry.step, dropGuard]
    split
    · rfl
    · split
      · split <;> rfl
      · rfl

/-! ## Whole interleavings -/

theorem handsOff_drawn (ok : Accounted config registry) {step : BrokerStep} {slot : RoomSlotGuard}
    (handed : handsOff config registry step = some slot) : slot.instanceId < registry.nextId := by
  obtain ⟨room, found, same, _⟩ := handsOff_live handed
  exact same ▸ (ok.room found).drawn

/-- The hand-offs of an interleaving against the counters of the rooms. -/
structure Budgeted (config : BrokerConfig) (handed : List RoomSlotGuard) (registry : RoomRegistry) :
    Prop where
  counted : ∀ {roomId room}, registry.rooms.get? roomId = some room →
    isRememberedRoomId roomId = false →
    handed.count { roomId, instanceId := room.instanceId } = room.attempts
  limited : ∀ {roomId room}, registry.rooms.get? roomId = some room →
    isRememberedRoomId roomId = false → room.attempts ≤ config.roomAttemptLimit
  drawn : ∀ slot ∈ handed, slot.instanceId < registry.nextId

/-- One hand-off more only in a live room, whose attempts are below the limit. -/
theorem handoffsIn_budget (ok : Accounted config registry)
    (found : registry.rooms.get? roomId = some room) (code : isRememberedRoomId roomId = false)
    (step : BrokerStep) (limited : room.attempts ≤ config.roomAttemptLimit) :
    room.attempts + handoffsIn config registry roomId room step ≤ config.roomAttemptLimit := by
  unfold handoffsIn
  cases handed : handsOff config registry step with
  | none => exact limited
  | some slot =>
    by_cases own : slot = { roomId, instanceId := room.instanceId }
    · subst own
      obtain ⟨served, found', _, live⟩ := handsOff_live handed
      rw [found] at found'
      cases found'
      have short : room.shortCode = true := by
        rw [(ok.room found).code, code]
        rfl
      have spare := (ok.room found).budget live short
      simpa using spare
    · have elsewhere : [slot].count { roomId, instanceId := room.instanceId } = 0 := by simp [own]
      simp only [Option.toList_some, elsewhere]
      exact limited

theorem Budgeted.step {handed : List RoomSlotGuard} (budgeted : Budgeted config handed registry)
    (ok : Accounted config registry) (valid : config.validate = .ok ()) (step : BrokerStep) :
    Budgeted config ((handsOff config registry step).toList ++ handed)
      (registry.step config step) := by
  have later := nextId_le_step config registry step
  have drawn : ∀ slot ∈ (handsOff config registry step).toList ++ handed,
      slot.instanceId < registry.nextId := by
    intro slot listed
    rcases List.mem_append.mp listed with now | before
    · exact handsOff_drawn ok (Option.mem_toList.mp now)
    · exact budgeted.drawn slot before
  -- a room that is new has no attempts, and nothing was handed over in its instance
  have fresh : ∀ {roomId : String} {room : RoomState}, Opened registry room →
      ((handsOff config registry step).toList ++ handed).count
        { roomId, instanceId := room.instanceId } =
        room.attempts ∧ room.attempts ≤ config.roomAttemptLimit := by
    intro roomId room ⟨newest, untried⟩
    rw [untried]
    refine ⟨List.count_eq_zero.mpr fun listed => ?_, Nat.zero_le _⟩
    have before := drawn _ listed
    simp only [newest] at before
    omega
  have both : ∀ {roomId : String} {after : RoomState},
      (registry.step config step).rooms.get? roomId = some after →
      isRememberedRoomId roomId = false →
      ((handsOff config registry step).toList ++ handed).count
        { roomId, instanceId := after.instanceId } =
        after.attempts ∧ after.attempts ≤ config.roomAttemptLimit := by
    intro roomId after there code
    cases found : registry.rooms.get? roomId with
    | none => exact fresh (opened_of_absent found there)
    | some room =>
      cases afterStep valid found code step with
      | purged _ opened => exact fresh (opened after there)
      | stays left _ found' advances =>
        rw [there] at found'
        cases found'
        rw [advances.sameInstance, advances.attempts, List.count_append,
          budgeted.counted found code]
        refine ⟨Nat.add_comm _ _, ?_⟩
        exact handoffsIn_budget ok found code step (budgeted.limited found code)
  exact {
    counted := fun there code => (both there code).1
    limited := fun there code => (both there code).2
    drawn := fun slot listed => Nat.lt_of_lt_of_le (drawn slot listed) later }

theorem BrokerRun.budgeted (valid : config.validate = .ok ()) {activity : RoomActivity}
    (run : BrokerRun config .new activity registry) : Budgeted config activity.handed registry := by
  induction run with
  | here =>
    exact {
      counted := fun found _ => by cases found
      limited := fun found _ => by cases found
      drawn := fun _ listed => by cases listed }
  | step before _ ih => exact ih.step (reachable_accounted valid (before.reachable .new)) valid _

/-- The room of this slot is closed or gone for good. -/
structure Closed (slot : RoomSlotGuard) (registry : RoomRegistry) : Prop where
  drawn : slot.instanceId < registry.nextId
  closed : ∀ {room}, registry.rooms.get? slot.roomId = some room →
    room.instanceId = slot.instanceId → room.status ≠ .live

theorem Closed.idle {slot : RoomSlotGuard} (closed : Closed slot registry) (config : BrokerConfig)
    (step : BrokerStep) :
    handsOff config registry step ≠ some slot ∧ parksIn config registry step ≠ some slot := by
  constructor
  · intro handed
    obtain ⟨room, found, same, live⟩ := handsOff_live handed
    exact closed.closed found same live
  · intro parked
    have drawn := closed.drawn
    rcases parksIn_live parked with newest | ⟨room, found, same, live⟩
    · omega
    · exact closed.closed found same live

theorem Closed.step {slot : RoomSlotGuard} (closed : Closed slot registry)
    (valid : config.validate = .ok ()) (code : isRememberedRoomId slot.roomId = false)
    (step : BrokerStep) :
    Closed slot (registry.step config step) := by
  have drawn := closed.drawn
  refine ⟨Nat.lt_of_lt_of_le drawn (nextId_le_step config registry step), ?_⟩
  intro after there same
  cases found : registry.rooms.get? slot.roomId with
  | none =>
    have newest := (opened_of_absent found there).1
    omega
  | some room =>
    cases afterStep valid found code step with
    | purged _ opened =>
      have newest := (opened after there).1
      omega
    | stays left _ found' advances =>
      rw [there] at found'
      cases found'
      have before := closed.closed found (advances.sameInstance.symm.trans same)
      rw [advances.closed before]
      exact before

theorem Closed.run {slot : RoomSlotGuard} (closed : Closed slot registry)
    (valid : config.validate = .ok ()) (code : isRememberedRoomId slot.roomId = false)
    {activity : RoomActivity} {after : RoomRegistry}
    (run : BrokerRun config registry activity after) :
    Closed slot after ∧ slot ∉ activity.handed ∧ slot ∉ activity.parked := by
  induction run with
  | here => exact ⟨closed, List.not_mem_nil, List.not_mem_nil⟩
  | @step activity reached step _ _ ih =>
    obtain ⟨still, handed, parked⟩ := ih
    obtain ⟨noHand, noPark⟩ := still.idle config step
    refine ⟨still.step valid code step, ?_, ?_⟩
    · intro listed
      rcases List.mem_append.mp listed with now | before
      · exact noHand (Option.mem_toList.mp now)
      · exact handed before
    · intro listed
      rcases List.mem_append.mp listed with now | before
      · exact noPark (Option.mem_toList.mp now)
      · exact parked before

/-- The guessing budget of every room that is not remembered, in every interleaving from the empty
registry: the hand-offs are the attempts and at most the limit, a closed room sees no further
hand-off or parking, and the room leaves the registry with its purge only. -/
theorem guessing_budget {config : BrokerConfig} (valid : config.validate = .ok ())
    {activity : RoomActivity} {registry : RoomRegistry}
    (run : BrokerRun config .new activity registry) {roomId : String} {room : RoomState}
    (found : registry.rooms.get? roomId = some room) (code : isRememberedRoomId roomId = false) :
    activity.handed.count { roomId, instanceId := room.instanceId } = room.attempts ∧
    room.attempts ≤ config.roomAttemptLimit ∧
    (room.status ≠ .live → ∀ later after, BrokerRun config registry later after →
      { roomId, instanceId := room.instanceId } ∉ later.handed ∧
      { roomId, instanceId := room.instanceId } ∉ later.parked) ∧
    (∀ step, BrokerStep.Enabled registry step →
      ((∃ after, (registry.step config step).rooms.get? roomId = some after ∧
        after.instanceId = room.instanceId) ↔
        ¬ Purges room step)) := by
  have ok := reachable_accounted valid (run.reachable .new)
  have budgeted := run.budgeted valid
  refine ⟨budgeted.counted found code, budgeted.limited found code, ?_, ?_⟩
  · intro closed later after onward
    have shut : Closed { roomId, instanceId := room.instanceId } registry := by
      refine ⟨(ok.room found).drawn, ?_⟩
      intro present there _
      rw [found] at there
      cases there
      exact closed
    exact (shut.run valid code onward).2
  · intro step _
    cases afterStep valid found code step with
    | stays after kept there advances =>
      exact ⟨fun _ => kept, fun _ => ⟨after, there, advances.sameInstance⟩⟩
    | purged purged opened =>
      constructor
      · intro ⟨after, there, same⟩
        have newest := (opened after there).1
        have drawn := (ok.room found).drawn
        omega
      · intro kept
        exact absurd purged kept

/-- One guess a code. -/
def strictConfig : BrokerConfig := { BrokerConfig.default with roomAttemptLimit := 1 }

def guessedRoom : Join :=
  ⟨rendezvousProtocolVersion, "314159", .creator, .receiver, [.fullTicket, .roomCode], none⟩

def guess : Join := ⟨rendezvousProtocolVersion, "314159", .joiner, .sender, [], some .roomCode⟩

/-- The creator parks and the only guess is used up. -/
def guessedRegistry : RoomRegistry :=
  (RoomRegistry.new.step strictConfig (.creatorJoin guessedRoom 0)).step strictConfig
    (.joinerJoin guess 1 (.ok ()) true)

theorem guessedRegistry_run :
    BrokerRun strictConfig .new ⟨[⟨"314159", 0⟩], [⟨"314159", 0⟩]⟩ guessedRegistry := by
  have parked : BrokerRun strictConfig .new ⟨[], [⟨"314159", 0⟩]⟩
      (RoomRegistry.new.step strictConfig (.creatorJoin guessedRoom 0)) :=
    @BrokerRun.step strictConfig .new _ _ (.creatorJoin guessedRoom 0) .here trivial
  exact @BrokerRun.step strictConfig .new _ _ (.joinerJoin guess 1 (.ok ()) true) parked trivial

theorem guessing_budget_spent :
    validateJoin guessedRoom = .ok () ∧ validateJoin guess = .ok () ∧
    (guessedRegistry.rooms.get? "314159").map (fun room => (room.attempts, room.status)) =
      some (1, .exhausted (1 + secs 300)) ∧
    ∀ later after, BrokerRun strictConfig guessedRegistry later after →
      ⟨"314159", 0⟩ ∉ later.handed ∧ ⟨"314159", 0⟩ ∉ later.parked := by
  refine ⟨by decide, by decide, by decide, ?_⟩
  have found : guessedRegistry.rooms.get? "314159" =
      some ⟨0, secs 300, 1, false, 2, none, .exhausted (1 + secs 300), true⟩ := by decide
  obtain ⟨_, _, closed, _⟩ := guessing_budget (by decide) guessedRegistry_run found (by decide)
  exact closed (by decide)

end Envoix.Rendezvous
