import Envoix.Rendezvous.GuessingBudget

/-! # Pairing a creator with a joiner

The tasks around the registry.  A match is decided under the lock by the joiner's task, which sends
its connection through the waiter's channel; the parked creator's task receives it later, or is gone
by then, and checks the two joins again in `run_pair`. -/

namespace Envoix.Rendezvous

open Fallible RoomRegistry

/-! ## The tasks -/

inductive Role where
  | initiator
  | responder
deriving DecidableEq

structure Paired where
  role : Role
  selectedBootstrapMethod : BootstrapKind
deriving DecidableEq

def roleFor (join : Join) : Role :=
  match join.invitationSide with
  | .creator => .responder
  | .joiner => .initiator

/-- The replies `run_pair` writes to the two connections before it relays between them. -/
def runPair (firstJoin secondJoin : Join) : Except BrokerOutcome (Paired × Paired) :=
  match joinsMatch firstJoin secondJoin with
  | none => .error .roomNotFound
  | some selected =>
    .ok (⟨roleFor firstJoin, selected⟩, ⟨roleFor secondJoin, selected⟩)

/-- A connection is known by its number. -/
structure MatchedPeer where
  conn : Nat
  join : Join
deriving DecidableEq

/-- A creator's task in `wait_for_joiner`, from its parking until its receiver is dropped.  `ready`
is what the channel holds. -/
structure ParkedCreator where
  waiterId : Nat
  conn : Nat
  join : Join
  ready : Option MatchedPeer
deriving DecidableEq

/-- A joiner's connection was accepted by the channel of a parking. -/
structure Handoff where
  waiterId : Nat
  joiner : Nat
deriving DecidableEq

/-- A call of `run_pair` and the replies it decided on. -/
structure PairRun where
  waiterId : Nat
  creator : MatchedPeer
  joiner : MatchedPeer
  replies : Except BrokerOutcome (Paired × Paired)

/-- The registry, the connections accepted so far, the creators that wait, and what happened. -/
structure BrokerTasks where
  registry : RoomRegistry
  nextConn : Nat
  waiting : List ParkedCreator
  handoffs : List Handoff
  pairs : List PairRun

def BrokerTasks.new : BrokerTasks := ⟨.new, 0, [], [], []⟩

def RoomRegistry.waiterAt (self : RoomRegistry) (roomId : String) : Option Waiter :=
  (self.rooms.get? roomId).bind fun room => room.waiter

namespace BrokerTasks

/-- The receiver of the parking is alive, so the channel takes a value. -/
def listening (self : BrokerTasks) (waiter : Waiter) : Bool :=
  self.waiting.any fun task => task.waiterId = waiter.id

/-- The value is in the channel of the parking. -/
def deliver (waiting : List ParkedCreator) (waiterId : Nat) (peer : MatchedPeer) :
    List ParkedCreator :=
  waiting.map fun task => if task.waiterId = waiterId then
    { task with ready := some peer } else task

def serveCreator (config : BrokerConfig) (join : Join) (now : Instant) (self : BrokerTasks) :
    BrokerTasks :=
  match self.registry.serveCreator config join now with
  | (.parked waiterId _ _, registry) =>
    { self with
      registry
      nextConn := self.nextConn + 1
      waiting := { waiterId, conn := self.nextConn, join, ready := none } :: self.waiting }
  | (.rejected _, registry) => { self with registry, nextConn := self.nextConn + 1 }

def serveJoiner (config : BrokerConfig) (join : Join) (now : Instant) (rate : Except Duration Unit)
    (self : BrokerTasks) : BrokerTasks :=
  let waiter := (self.registry.sweepRooms config now).waiterAt join.roomId
  match self.registry.serveJoiner config join now rate (waiter.any self.listening), waiter with
  | (none, registry), some waiter =>
    { self with
      registry
      nextConn := self.nextConn + 1
      waiting := deliver self.waiting waiter.id { conn := self.nextConn, join }
      handoffs := { waiterId := waiter.id, joiner := self.nextConn } :: self.handoffs }
  | (_, registry), _ => { self with registry, nextConn := self.nextConn + 1 }

/-- A connection whose first frame is this join. -/
def serve (config : BrokerConfig) (join : Join) (now : Instant) (rate : Except Duration Unit)
    (self : BrokerTasks) :
    BrokerTasks :=
  match validateJoin join with
  | .error _ => { self with nextConn := self.nextConn + 1 }
  | .ok _ =>
    match join.invitationSide with
    | .creator => self.serveCreator config join now
    | .joiner => self.serveJoiner config join now rate

/-- The receiver of a parking is dropped. -/
def leave (waiterId : Nat) (self : BrokerTasks) : BrokerTasks :=
  { self with waiting := self.waiting.filter fun task => task.waiterId ≠ waiterId }

/-- The creator's task takes its partner out of the channel and runs the pair. -/
def receive (waiterId : Nat) (self : BrokerTasks) : BrokerTasks :=
  match self.waiting.find? fun task => task.waiterId = waiterId with
  | some task =>
    match task.ready with
    | some partner =>
      { self.leave waiterId with
        pairs :=
          { waiterId, creator := { conn := task.conn, join := task.join }, joiner := partner
            replies := runPair task.join partner.join } :: self.pairs }
    | none => self
  | none => self

end BrokerTasks

/-- `leave` is the end of a waiting task without a partner: a closed channel, a probe that answered,
a timeout or a cancelled task.  What such a task does in the registry first is a step of its own, so
that a joiner may be served in between. -/
inductive TaskStep where
  | serve (join : Join) (now : Instant) (rate : Except Duration Unit)
  | receive (waiterId : Nat)
  | leave (waiterId : Nat)
  | evictWaiter (roomId : String) (waiterId : Nat)
  | expireRoom (roomId : String) (waiterId : Nat) (now : Instant)
  | sweep (now : Instant)
  | dropGuard (slot : RoomSlotGuard)

/-- The section of the registry that a step other than a join or a receipt runs. -/
def TaskStep.locked? : TaskStep → Option BrokerStep
  | .evictWaiter roomId waiterId => some (.evictWaiter roomId waiterId)
  | .expireRoom roomId waiterId now => some (.expireRoom roomId waiterId now)
  | .sweep now => some (.sweep now)
  | .dropGuard slot => some (.dropGuard slot)
  | _ => none

def TaskStep.Enabled (self : BrokerTasks) (step : TaskStep) : Prop :=
  ∀ locked, step.locked? = some locked → locked.Enabled self.registry

def BrokerTasks.step (config : BrokerConfig) (self : BrokerTasks) (step : TaskStep) : BrokerTasks :=
  match step with
  | .serve join now rate => self.serve config join now rate
  | .receive waiterId => self.receive waiterId
  | .leave waiterId => self.leave waiterId
  | .evictWaiter roomId waiterId =>
    { self with registry := self.registry.evictWaiter roomId waiterId }
  | .expireRoom roomId waiterId now =>
    { self with registry := self.registry.expireRoom config roomId waiterId now }
  | .sweep now => { self with registry := self.registry.sweepRooms config now }
  | .dropGuard slot => { self with registry := self.registry.dropGuard slot }

/-- The tasks an interleaving can lead to. -/
inductive TasksReachable (config : BrokerConfig) : BrokerTasks → Prop where
  | new : TasksReachable config .new
  | step {tasks : BrokerTasks} {step : TaskStep} (before : TasksReachable config tasks)
      (enabled : step.Enabled tasks) : TasksReachable config (tasks.step config step)

/-! ## Waiters of the registry -/

variable {config : BrokerConfig} {registry : RoomRegistry} {roomId : String} {waiter : Waiter}

theorem waiterAt_eq_some :
    registry.waiterAt roomId = some waiter ↔
      ∃ room, registry.rooms.get? roomId = some room ∧ room.waiter = some waiter := by
  unfold RoomRegistry.waiterAt
  exact Option.bind_eq_some_iff

theorem waiterAt_sweepRooms {now : Instant}
    (parked : (registry.sweepRooms config now).waiterAt roomId = some waiter) :
    registry.waiterAt roomId = some waiter := by
  obtain ⟨swept, found, there⟩ := waiterAt_eq_some.mp parked
  obtain ⟨room, listed, rfl⟩ := of_sweepRooms found
  refine waiterAt_eq_some.mpr ⟨room, listed, ?_⟩
  unfold expireDue at there
  split at there
  · cases there
  · exact there

theorem waiterAt_evictWaiter {other : String} {waiterId : Nat}
    (parked : (registry.evictWaiter other waiterId).waiterAt roomId = some waiter) :
    registry.waiterAt roomId = some waiter := by
  by_cases here : roomId = other
  · subst here
    obtain ⟨after, found, there⟩ := waiterAt_eq_some.mp parked
    unfold RoomRegistry.evictWaiter at found
    cases before : registry.rooms.get? roomId with
    | none =>
      simp only [before] at found
      cases found
    | some room =>
      simp only [before] at found
      split at found
      · split at found
        · rw [Table.get?_remove, if_pos rfl] at found
          cases found
        · rw [Table.get?_update, if_pos rfl, before] at found
          cases found
          cases there
      · rw [before] at found
        cases found
        exact waiterAt_eq_some.mpr ⟨_, before, there⟩
  · rwa [RoomRegistry.waiterAt, get?_evictWaiter_ne here] at parked

theorem waiterAt_expireRoom {other : String} {waiterId : Nat} {now : Instant}
    (parked : (registry.expireRoom config other waiterId now).waiterAt roomId = some waiter) :
    registry.waiterAt roomId = some waiter := by
  by_cases here : roomId = other
  · subst here
    obtain ⟨after, found, there⟩ := waiterAt_eq_some.mp parked
    unfold RoomRegistry.expireRoom at found
    cases before : registry.rooms.get? roomId with
    | none =>
      simp only [before] at found
      cases found
    | some room =>
      simp only [before] at found
      split at found
      · rw [Table.get?_update, if_pos rfl, before] at found
        cases found
        cases there
      · rw [before] at found
        cases found
        exact waiterAt_eq_some.mpr ⟨_, before, there⟩
  · rwa [RoomRegistry.waiterAt, get?_expireRoom_ne here] at parked

theorem waiterAt_dropGuard {slot : RoomSlotGuard}
    (parked : (registry.dropGuard slot).waiterAt roomId = some waiter) :
    registry.waiterAt roomId = some waiter := by
  by_cases here : roomId = slot.roomId
  · subst here
    obtain ⟨after, found, there⟩ := waiterAt_eq_some.mp parked
    unfold RoomRegistry.dropGuard at found
    cases before : registry.rooms.get? slot.roomId with
    | none =>
      simp only [before] at found
      cases found
    | some room =>
      simp only [before] at found
      split at found
      · split at found
        · rw [Table.get?_remove, if_pos rfl] at found
          cases found
        · rw [Table.get?_update, if_pos rfl, before] at found
          cases found
          exact waiterAt_eq_some.mpr ⟨_, before, there⟩
      · rw [before] at found
        cases found
        exact waiterAt_eq_some.mpr ⟨_, before, there⟩
  · rwa [RoomRegistry.waiterAt, get?_dropGuard_ne here] at parked

/-- A creator that parks takes the place of no other waiter, under an id of its own. -/
theorem serveCreator_waiters (config : BrokerConfig) (registry : RoomRegistry) (join : Join)
    (now : Instant) :
    (∃ rejection, registry.serveCreator config join now =
      (.rejected rejection, registry.sweepRooms config now)) ∨
    (∃ waiterId expiresAt roomGuard after,
      registry.serveCreator config join now = (.parked waiterId expiresAt roomGuard, after) ∧
      registry.nextId ≤ waiterId ∧ waiterId < after.nextId ∧
      ∀ roomId waiter, after.waiterAt roomId = some waiter →
        (roomId = join.roomId ∧ waiter = { id := waiterId, join }) ∨
          registry.waiterAt roomId = some waiter) := by
  have elsewhere : ∀ roomId waiter, (registry.sweepRooms config now).waiterAt roomId = some waiter →
      registry.waiterAt roomId = some waiter := fun _ _ => waiterAt_sweepRooms
  unfold RoomRegistry.serveCreator
  cases found : (registry.sweepRooms config now).rooms.get? join.roomId with
  | none =>
    by_cases busy : (registry.sweepRooms config now).rooms.size ≥ config.maxRoomStates ∨
        (registry.sweepRooms config now).waitingCreators ≥ config.maxWaitingCreators
    · left
      simp only [found, if_pos busy]
      exact ⟨_, rfl⟩
    · right
      simp only [found, if_neg busy]
      refine ⟨_, _, _, _, rfl, Nat.le_succ _, Nat.lt_succ_self _, ?_⟩
      intro roomId waiter parked
      obtain ⟨room, there, waits⟩ := waiterAt_eq_some.mp parked
      simp only [Table.get?_update, Table.get?_insert] at there
      by_cases here : roomId = join.roomId
      · subst here
        simp only [if_true, Option.map_some, Option.some.injEq] at there
        subst there
        simp only [Option.some.injEq] at waits
        exact .inl ⟨rfl, waits.symm⟩
      · simp only [if_neg here] at there
        exact .inr (elsewhere _ _ (waiterAt_eq_some.mpr ⟨room, there, waits⟩))
  | some room =>
    cases refused : creatorRejection config room with
    | some outcome =>
      left
      simp only [found, refused]
      exact ⟨_, rfl⟩
    | none =>
      right
      simp only [found, refused]
      refine ⟨_, _, _, _, rfl, Nat.le_refl _, Nat.lt_succ_self _, ?_⟩
      intro roomId waiter parked
      obtain ⟨after, there, waits⟩ := waiterAt_eq_some.mp parked
      simp only [Table.get?_update] at there
      by_cases here : roomId = join.roomId
      · subst here
        rw [if_pos rfl, found, Option.map_some, Option.some.injEq] at there
        subst there
        simp only [Option.some.injEq] at waits
        exact .inl ⟨rfl, waits.symm⟩
      · rw [if_neg here] at there
        exact .inr (elsewhere _ _ (waiterAt_eq_some.mpr ⟨after, there, waits⟩))

/-- A joiner is turned away, or takes the waiter out of its room. -/
theorem serveJoiner_waiters (config : BrokerConfig) (registry : RoomRegistry) (join : Join)
    (now : Instant) (rate : Except Duration Unit) (received : Bool) :
    (∀ roomId waiter, (registry.serveJoiner config join now rate received).2.waiterAt roomId =
      some waiter →
      registry.waiterAt roomId = some waiter) ∧
    ((registry.serveJoiner config join now rate received).1 = none →
      received = true ∧
      (registry.serveJoiner config join now rate received).2.waiterAt join.roomId = none ∧
        ∃ waiter, (registry.sweepRooms config now).waiterAt join.roomId = some waiter ∧
          (joinsMatch waiter.join join).isSome) := by
  -- what holds of an update of the served room holds of every update that adds no waiter
  have updated : ∀ {change : RoomState → RoomState},
      (∀ room waiter, (change room).waiter = some waiter →
      room.waiter = some waiter) → ∀ {after : RoomRegistry},
      after.rooms = (registry.sweepRooms config now).rooms.update join.roomId change →
      ∀ roomId waiter, after.waiterAt roomId = some waiter →
        registry.waiterAt roomId = some waiter := by
    intro change kept after same roomId waiter parked
    obtain ⟨room, there, waits⟩ := waiterAt_eq_some.mp parked
    rw [same, Table.get?_update] at there
    apply waiterAt_sweepRooms
    by_cases here : roomId = join.roomId
    · rw [if_pos here] at there
      obtain ⟨before, found, rfl⟩ := Option.map_eq_some_iff.mp there
      exact waiterAt_eq_some.mpr ⟨before, found, kept before waiter waits⟩
    · rw [if_neg here] at there
      exact waiterAt_eq_some.mpr ⟨room, there, waits⟩
  obtain ⟨_, same⟩ | ⟨_, _, _, _, _, _, same⟩ | ⟨room, found, _, _, _,
    ⟨waiter, waits, matched⟩, same⟩ :=
    serveJoiner_cases config join now rate received registry
  · rw [same]
    exact ⟨fun _ _ => waiterAt_sweepRooms, fun handed => by cases handed⟩
  · rw [same]
    refine ⟨@updated (fun room => room.exhaust config now) ?_ _ rfl, fun handed => by cases handed⟩
    intro room waiter waits
    unfold RoomState.exhaust at waits
    split at waits <;> exact waits
  · have emptied : ∀ room, (handedRoom config join.roomId received now room).waiter = none := by
      intro room
      unfold handedRoom RoomState.exhaust
      simp only
      split
      · split
        · split <;> rfl
        · rfl
      · rfl
    rw [same]
    refine ⟨updated ?_ rfl, ?_⟩
    · intro room waiter waits
      rw [emptied] at waits
      cases waits
    · intro handed
      refine ⟨?_, ?_, waiter, waiterAt_eq_some.mpr ⟨room, found, waits⟩, matched⟩
      · cases received with
        | true => rfl
        | false => cases handed
      · simp only [RoomRegistry.waiterAt, handoffJoiner, Table.get?_update, if_true, found,
          Option.map_some, Option.bind_some, emptied]

/-! ## The invariant -/

/-- The joins of a creator and a joiner that may be paired. -/
structure Matched (creator joiner : Join) : Prop where
  creatorSide : creator.invitationSide = .creator
  joinerSide : joiner.invitationSide = .joiner
  sameRoom : joiner.roomId = creator.roomId
  matched : (joinsMatch creator joiner).isSome

/-- What `run_pair` did for two peers that may be paired. -/
structure PairRun.Sound (run : PairRun) : Prop where
  creatorSide : run.creator.join.invitationSide = .creator
  joinerSide : run.joiner.join.invitationSide = .joiner
  sameRoom : run.joiner.join.roomId = run.creator.join.roomId
  complementary : run.joiner.join.transferRole = run.creator.join.transferRole.complement
  replied : ∃ selected, run.joiner.join.selectedBootstrapMethod = some selected ∧
    selected ∈ run.creator.join.bootstrapMethods ∧
    run.replies = .ok (⟨.responder, selected⟩, ⟨.initiator, selected⟩)

structure BrokerTasks.Ok (tasks : BrokerTasks) : Prop where
  parked : ∀ {roomId waiter}, tasks.registry.waiterAt roomId = some waiter →
    waiter.id < tasks.registry.nextId ∧ waiter.join.roomId = roomId ∧
      waiter.join.invitationSide = .creator
  distinct : ∀ {roomId other first second}, tasks.registry.waiterAt roomId = some first →
    tasks.registry.waiterAt other = some second → first.id = second.id → roomId = other
  -- the sender of a channel is used once
  pending : ∀ {roomId waiter handoff}, tasks.registry.waiterAt roomId = some waiter →
    handoff ∈ tasks.handoffs → handoff.waiterId ≠ waiter.id
  task : ∀ {task}, task ∈ tasks.waiting → task.waiterId < tasks.registry.nextId ∧
    task.conn < tasks.nextConn
  captured : ∀ {task roomId waiter}, task ∈ tasks.waiting →
    tasks.registry.waiterAt roomId = some waiter → waiter.id = task.waiterId →
    waiter.join = task.join
  ready : ∀ {task peer}, task ∈ tasks.waiting → task.ready = some peer →
    Matched task.join peer.join ∧ task.conn < peer.conn ∧
      ⟨task.waiterId, peer.conn⟩ ∈ tasks.handoffs
  handoff : ∀ {handoff}, handoff ∈ tasks.handoffs →
    handoff.waiterId < tasks.registry.nextId ∧ handoff.joiner < tasks.nextConn
  onceParked : (tasks.handoffs.map Handoff.waiterId).Nodup
  onceJoined : (tasks.handoffs.map Handoff.joiner).Nodup
  pair : ∀ {run}, run ∈ tasks.pairs → run.Sound ∧ run.creator.conn < run.joiner.conn ∧
    ⟨run.waiterId, run.joiner.conn⟩ ∈ tasks.handoffs
  left : ∀ {run task}, run ∈ tasks.pairs → task ∈ tasks.waiting → run.waiterId ≠ task.waiterId
  oncePaired : (tasks.pairs.map PairRun.waiterId).Nodup

namespace BrokerTasks

variable {tasks : BrokerTasks}

theorem ok_new : BrokerTasks.Ok .new where
  parked found := by cases found
  distinct found := by cases found
  pending found := by cases found
  task listed := by cases listed
  captured listed := by cases listed
  ready listed := by cases listed
  handoff listed := by cases listed
  onceParked := List.nodup_nil
  onceJoined := List.nodup_nil
  pair listed := by cases listed
  left listed := by cases listed
  oncePaired := List.nodup_nil

/-- A section that parks nobody, and connections that come to nothing. -/
theorem Ok.frame (ok : tasks.Ok) {registry : RoomRegistry} {nextConn : Nat}
    (fewer : ∀ roomId waiter, registry.waiterAt roomId = some waiter →
      tasks.registry.waiterAt roomId = some waiter)
    (later : tasks.registry.nextId ≤ registry.nextId) (conns : tasks.nextConn ≤ nextConn) :
    Ok { tasks with registry, nextConn } where
  parked found := by
    obtain ⟨drawn, rest⟩ := ok.parked (fewer _ _ found)
    exact ⟨Nat.lt_of_lt_of_le drawn later, rest⟩
  distinct first second same := ok.distinct (fewer _ _ first) (fewer _ _ second) same
  pending found listed := ok.pending (fewer _ _ found) listed
  task listed := by
    obtain ⟨drawn, accepted⟩ := ok.task listed
    exact ⟨Nat.lt_of_lt_of_le drawn later, Nat.lt_of_lt_of_le accepted conns⟩
  captured listed found same := ok.captured listed (fewer _ _ found) same
  ready := ok.ready
  handoff listed := by
    obtain ⟨drawn, accepted⟩ := ok.handoff listed
    exact ⟨Nat.lt_of_lt_of_le drawn later, Nat.lt_of_lt_of_le accepted conns⟩
  onceParked := ok.onceParked
  onceJoined := ok.onceJoined
  pair := ok.pair
  left := ok.left
  oncePaired := ok.oncePaired

theorem Ok.leave (ok : tasks.Ok) (waiterId : Nat) : Ok (tasks.leave waiterId) where
  parked := ok.parked
  distinct := ok.distinct
  pending := ok.pending
  task listed := ok.task (List.mem_of_mem_filter listed)
  captured listed := ok.captured (List.mem_of_mem_filter listed)
  ready listed := ok.ready (List.mem_of_mem_filter listed)
  handoff := ok.handoff
  onceParked := ok.onceParked
  onceJoined := ok.onceJoined
  pair := ok.pair
  left paired listed := ok.left paired (List.mem_of_mem_filter listed)
  oncePaired := ok.oncePaired

/-- The second check of the joins agrees with the first. -/
theorem sound_runPair {waiterId : Nat} {creator joiner : MatchedPeer}
    (matched : Matched creator.join joiner.join) :
    PairRun.Sound { waiterId, creator, joiner, replies := runPair creator.join joiner.join } := by
  obtain ⟨creatorSide, joinerSide, sameRoom, agrees⟩ := matched
  obtain ⟨method, selects⟩ := Option.isSome_iff_exists.mp agrees
  have replied :
      runPair creator.join joiner.join = .ok (⟨.responder, method⟩, ⟨.initiator, method⟩) := by
    simp only [runPair, selects, roleFor, creatorSide, joinerSide]
  simp only [joinsMatch, creatorSide, joinerSide, Option.bind_some] at selects
  split at selects
  · cases selects
  next complementary =>
    obtain ⟨selected, chosen, advertised⟩ := Option.bind_eq_some_iff.mp selects
    split at advertised
    next listed =>
      cases advertised
      exact ⟨creatorSide, joinerSide, sameRoom, (not_not.mp complementary).symm, method, chosen,
        listed, replied⟩
    next => cases advertised

theorem Ok.receive (ok : tasks.Ok) (waiterId : Nat) : Ok (tasks.receive waiterId) := by
  unfold BrokerTasks.receive
  cases found : tasks.waiting.find? fun task => task.waiterId = waiterId with
  | none => exact ok
  | some task =>
    have listed : task ∈ tasks.waiting := List.mem_of_find?_eq_some found
    have own : task.waiterId = waiterId := by simpa using List.find?_some found
    simp only
    cases holds : task.ready with
    | none => exact ok
    | some partner =>
      have rest := ok.leave waiterId
      obtain ⟨matched, ordered, handed⟩ := ok.ready listed holds
      exact { rest with
        pair := by
          intro run paired
          cases paired with
          | head => exact ⟨sound_runPair matched, ordered, own ▸ handed⟩
          | tail _ before => exact ok.pair before
        left := by
          intro run other paired waits
          cases paired with
          | head =>
            have different := (List.mem_filter.mp waits).2
            simpa using Ne.symm (by simpa using different)
          | tail _ before => exact rest.left before waits
        oncePaired := by
          show (waiterId :: tasks.pairs.map PairRun.waiterId).Nodup
          refine List.nodup_cons.mpr ⟨?_, ok.oncePaired⟩
          intro again
          obtain ⟨run, before, same⟩ := List.mem_map.mp again
          exact ok.left before listed (same.trans own.symm) }

theorem Ok.sweepRooms (ok : tasks.Ok) (config : BrokerConfig) (now : Instant) {nextConn : Nat}
    (conns : tasks.nextConn ≤ nextConn) :
    Ok { tasks with registry := tasks.registry.sweepRooms config now, nextConn } :=
  ok.frame (fun _ _ => waiterAt_sweepRooms) (Nat.le_refl _) conns

theorem Ok.serveCreator (ok : tasks.Ok) (config : BrokerConfig) {join : Join}
    (side : join.invitationSide = .creator) (now : Instant) :
    Ok (tasks.serveCreator config join now) := by
  unfold BrokerTasks.serveCreator
  obtain ⟨_, same⟩ | ⟨waiterId, _, _, after, same, fresh, drawn, waiters⟩ :=
    serveCreator_waiters config tasks.registry join now
  · rw [same]
    exact ok.sweepRooms config now (Nat.le_succ _)
  · rw [same]
    -- The waiter's identifier is drawn now: all that is known of others is below it.
    have later : tasks.registry.nextId ≤ after.nextId := by omega
    exact {
      parked := by
        intro roomId waiter found
        rcases waiters roomId waiter found with ⟨rfl, rfl⟩ | before
        · exact ⟨drawn, rfl, side⟩
        · obtain ⟨known, rest⟩ := ok.parked before
          exact ⟨Nat.lt_of_lt_of_le known later, rest⟩
      distinct := by
        intro roomId other first second found found' equal
        rcases waiters roomId first found with ⟨rfl, rfl⟩ | before
        · rcases waiters other second found' with ⟨rfl, _⟩ | before'
          · rfl
          · have known := (ok.parked before').1
            simp only at equal
            omega
        · rcases waiters other second found' with ⟨rfl, rfl⟩ | before'
          · have known := (ok.parked before).1
            simp only at equal
            omega
          · exact ok.distinct before before' equal
      pending := by
        intro roomId waiter handoff found listed
        rcases waiters roomId waiter found with ⟨rfl, rfl⟩ | before
        · have known := (ok.handoff listed).1
          simp only
          omega
        · exact ok.pending before listed
      task := by
        intro task listed
        cases listed with
        | head => exact ⟨drawn, Nat.lt_succ_self _⟩
        | tail _ waits =>
          obtain ⟨known, accepted⟩ := ok.task waits
          exact ⟨Nat.lt_of_lt_of_le known later, Nat.lt_succ_of_lt accepted⟩
      captured := by
        intro task roomId waiter listed found equal
        cases listed with
        | head =>
          rcases waiters roomId waiter found with ⟨_, rfl⟩ | before
          · rfl
          · have known := (ok.parked before).1
            simp only at equal
            omega
        | tail _ waits =>
          rcases waiters roomId waiter found with ⟨_, rfl⟩ | before
          · have known := (ok.task waits).1
            simp only at equal
            omega
          · exact ok.captured waits before equal
      ready := by
        intro task peer listed holds
        cases listed with
        | head => cases holds
        | tail _ waits => exact ok.ready waits holds
      handoff := by
        intro handoff listed
        obtain ⟨known, accepted⟩ := ok.handoff listed
        exact ⟨Nat.lt_of_lt_of_le known later, Nat.lt_succ_of_lt accepted⟩
      onceParked := ok.onceParked
      onceJoined := ok.onceJoined
      pair := ok.pair
      left := by
        intro run task paired listed
        cases listed with
        | head =>
          have known := (ok.handoff (ok.pair paired).2.2).1
          simp only at known ⊢
          omega
        | tail _ waits => exact ok.left paired waits
      oncePaired := ok.oncePaired }

theorem mem_deliver {waiting : List ParkedCreator} {waiterId : Nat} {peer : MatchedPeer}
    {task : ParkedCreator} (listed : task ∈ deliver waiting waiterId peer) :
    ∃ before ∈ waiting, task.waiterId = before.waiterId ∧ task.conn = before.conn ∧
      task.join = before.join ∧
      (task.waiterId ≠ waiterId ∧ task.ready = before.ready ∨ task.waiterId = waiterId ∧
        task.ready = some peer) := by
  obtain ⟨before, waits, same⟩ := List.mem_map.mp listed
  refine ⟨before, waits, ?_⟩
  split at same
  next own =>
    subst same
    exact ⟨rfl, rfl, rfl, .inr ⟨own, rfl⟩⟩
  next other =>
    subst same
    exact ⟨rfl, rfl, rfl, .inl ⟨other, rfl⟩⟩

theorem Ok.serveJoiner (ok : tasks.Ok) (config : BrokerConfig) {join : Join}
    (side : join.invitationSide = .joiner) (now : Instant) (rate : Except Duration Unit) :
    Ok (tasks.serveJoiner config join now rate) := by
  unfold BrokerTasks.serveJoiner
  simp only
  generalize tellsReceived :
    ((tasks.registry.sweepRooms config now).waiterAt join.roomId).any tasks.listening =
    received
  obtain ⟨fewer, handed⟩ := serveJoiner_waiters config tasks.registry join now rate received
  have later := nextId_le_step config tasks.registry (.joinerJoin join now rate received)
  simp only [RoomRegistry.step] at later
  have turnedAway : Ok { tasks with
      registry := (tasks.registry.serveJoiner config join now rate received).2
      nextConn := tasks.nextConn + 1 } := ok.frame fewer later (Nat.le_succ _)
  cases served : tasks.registry.serveJoiner config join now rate received with
  | mk rejection after =>
    rw [served] at fewer handed later turnedAway
    cases rejection with
    | some rejection => exact turnedAway
    | none =>
      obtain ⟨_, emptied, waiter, waits, matched⟩ := handed rfl
      simp only [waits]
      have known := waiterAt_sweepRooms waits
      obtain ⟨drawn, sameRoom, creatorSide⟩ := ok.parked known
      -- the waiter that was taken is in no room any more
      have taken : ∀ {roomId other}, after.waiterAt roomId = some other → other.id ≠ waiter.id := by
        intro roomId other found same
        have here := ok.distinct (fewer _ _ found) known same
        rw [here, emptied] at found
        cases found
      exact { turnedAway with
        pending := by
          intro roomId other handoff found listed
          cases listed with
          | head => exact Ne.symm (taken found)
          | tail _ before => exact turnedAway.pending found before
        task := by
          intro task listed
          obtain ⟨before, there, sameId, sameConn, _⟩ := mem_deliver listed
          rw [sameId, sameConn]
          exact turnedAway.task there
        captured := by
          intro task roomId other listed found equal
          obtain ⟨before, there, sameId, _, sameJoin, _⟩ := mem_deliver listed
          rw [sameJoin]
          exact turnedAway.captured there found (equal.trans sameId)
        ready := by
          intro task peer listed holds
          obtain ⟨before, there, sameId, sameConn, sameJoin, kept⟩ := mem_deliver listed
          rw [sameId, sameConn, sameJoin]
          rcases kept with ⟨_, same⟩ | ⟨own, same⟩
          · obtain ⟨agrees, ordered, counted⟩ := ok.ready there (same.symm.trans holds)
            exact ⟨agrees, ordered, List.mem_cons_of_mem _ counted⟩
          · rw [same] at holds
            cases holds
            have captured := ok.captured there known (own.symm.trans sameId)
            refine ⟨⟨captured ▸ creatorSide, side, ?_, captured ▸ matched⟩, (ok.task there).2, ?_⟩
            · rw [← captured, sameRoom]
            · rw [← sameId, own]
              exact List.mem_cons_self
        handoff := by
          intro handoff listed
          cases listed with
          | head => exact ⟨Nat.lt_of_lt_of_le drawn later, Nat.lt_succ_self _⟩
          | tail _ before => exact turnedAway.handoff before
        onceParked := by
          show (waiter.id :: tasks.handoffs.map Handoff.waiterId).Nodup
          refine List.nodup_cons.mpr ⟨?_, ok.onceParked⟩
          intro again
          obtain ⟨handoff, before, same⟩ := List.mem_map.mp again
          exact ok.pending known before same
        onceJoined := by
          show (tasks.nextConn :: tasks.handoffs.map Handoff.joiner).Nodup
          refine List.nodup_cons.mpr ⟨?_, ok.onceJoined⟩
          intro again
          obtain ⟨handoff, before, same⟩ := List.mem_map.mp again
          have accepted := (ok.handoff before).2
          omega
        pair := by
          intro run paired
          obtain ⟨sound, ordered, counted⟩ := ok.pair paired
          exact ⟨sound, ordered, List.mem_cons_of_mem _ counted⟩
        left := by
          intro run task paired listed
          obtain ⟨before, there, sameId, _⟩ := mem_deliver listed
          rw [sameId]
          exact ok.left paired there }

theorem Ok.serve (ok : tasks.Ok) (config : BrokerConfig) (join : Join) (now : Instant)
    (rate : Except Duration Unit) : Ok (tasks.serve config join now rate) := by
  unfold BrokerTasks.serve
  split
  · exact ok.frame (fun _ _ => id) (Nat.le_refl _) (Nat.le_succ _)
  · split
    next side => exact ok.serveCreator config side now
    next side => exact ok.serveJoiner config side now rate

theorem Ok.step (ok : tasks.Ok) (config : BrokerConfig) (step : TaskStep) :
    Ok (tasks.step config step) := by
  cases step with
  | serve join now rate => exact ok.serve config join now rate
  | receive waiterId => exact ok.receive waiterId
  | leave waiterId => exact ok.leave waiterId
  | evictWaiter roomId waiterId =>
    exact ok.frame (fun _ _ => waiterAt_evictWaiter)
      (nextId_le_step config tasks.registry (.evictWaiter roomId waiterId)) (Nat.le_refl _)
  | expireRoom roomId waiterId now =>
    exact ok.frame (fun _ _ => waiterAt_expireRoom)
      (nextId_le_step config tasks.registry (.expireRoom roomId waiterId now)) (Nat.le_refl _)
  | sweep now => exact ok.sweepRooms config now (Nat.le_refl _)
  | dropGuard slot =>
    exact ok.frame (fun _ _ => waiterAt_dropGuard)
      (nextId_le_step config tasks.registry (.dropGuard slot))
      (Nat.le_refl _)

theorem reachable_ok (reached : TasksReachable config tasks) : tasks.Ok := by
  induction reached with
  | new => exact ok_new
  | step _ _ ih => exact ih.step config _

end BrokerTasks

/-- Pairing soundness, in every interleaving of the broker's tasks.  Every call of `run_pair` tells
a creator and a joiner of one room what they are and the method both know, so that its exit for
joins that do not match is never taken; a joiner's connection goes to one parking, and a parking
gets one joiner and is paired once. -/
theorem pairing_sound {config : BrokerConfig} {tasks : BrokerTasks}
    (reached : TasksReachable config tasks) :
    (∀ run ∈ tasks.pairs, run.Sound ∧ run.creator.conn ≠ run.joiner.conn ∧
      ⟨run.waiterId, run.joiner.conn⟩ ∈ tasks.handoffs) ∧
    (tasks.handoffs.map Handoff.joiner).Nodup ∧ (tasks.handoffs.map Handoff.waiterId).Nodup ∧
    (tasks.pairs.map PairRun.waiterId).Nodup ∧
    (∀ run ∈ tasks.pairs, run.replies ≠ .error .roomNotFound) := by
  have ok := BrokerTasks.reachable_ok reached
  refine ⟨?_, ok.onceJoined, ok.onceParked, ok.oncePaired, ?_⟩
  · intro run paired
    obtain ⟨sound, ordered, handed⟩ := ok.pair paired
    exact ⟨sound, Nat.ne_of_lt ordered, handed⟩
  · intro run paired refused
    obtain ⟨_, _, _, replied⟩ := (ok.pair paired).1.replied
    cases refused.symm.trans replied

/-- A creator and a joiner of one code, matched and relayed. -/
def relayedTasks : BrokerTasks :=
  ((BrokerTasks.new.step .default (.serve guessedRoom 0 (.ok ()))).step .default
    (.serve guess 1 (.ok ()))).step
    .default (.receive 1)

theorem relayedTasks_reachable : TasksReachable .default relayedTasks := by
  have parked :
      TasksReachable .default (BrokerTasks.new.step .default (.serve guessedRoom 0 (.ok ()))) := by
    apply TasksReachable.step .new
    intro locked same
    cases same
  have handed :=
    @TasksReachable.step .default _ (.serve guess 1 (.ok ())) parked (by
      intro locked same; cases same)
  exact @TasksReachable.step .default _ (.receive 1) handed (by intro locked same; cases same)

theorem pairing_sound_relayed :
    relayedTasks.handoffs = [⟨1, 1⟩] ∧
    relayedTasks.pairs.map (fun run => (run.creator, run.joiner)) =
      [(⟨0, guessedRoom⟩, ⟨1, guess⟩)] ∧
    ∀ run ∈ relayedTasks.pairs, run.Sound :=
  ⟨by decide, by decide, fun run paired => ((pairing_sound relayedTasks_reachable).1 run paired).1⟩

end Envoix.Rendezvous
