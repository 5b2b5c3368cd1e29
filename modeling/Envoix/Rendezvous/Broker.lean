import Envoix.Foundation.ByteCodec
import Envoix.Foundation.Table

/-! # The rendezvous broker's Room registry

Model of `envoix-rendezvous/src/broker.rs`: the registry behind its mutex, one function for every
section that holds the lock, and the slot guards that connections keep.  The token bucket of a Room
computes in floating point; its answer is an input of the joiner's step, as is whether the parked
creator still listens when the joiner is handed over.

The functions here are the sections as they run to their end, with the lock sound and every instant
and every wait they compute representable.  Where one is not, the section panics and poisons the
lock; `RegistryLock` has what becomes of the registry then. -/

namespace Envoix.Rendezvous

open ByteCodec Fallible

/-- Nanoseconds. -/
abbrev Duration := Nat

/-- A reading of the monotonic clock. -/
abbrev Instant := Nat

/-! ## Configuration -/

structure RateLimitConfig where
  events : Nat
  period : Duration
  burst : Nat
deriving DecidableEq

def RateLimitConfig.validate (self : RateLimitConfig) : Except String Unit :=
  reject (self.events = 0 ∨ self.burst = 0 ∨ self.period = 0)
    "rate limits must have non-zero events, period, and burst"

structure BrokerConfig where
  roomTtl : Duration
  roomTombstoneTtl : Duration
  roomAttemptLimit : Nat
  roomAttemptRate : RateLimitConfig
  endpointJoinRate : RateLimitConfig
  ipJoinRate : RateLimitConfig
  subnetJoinRate : RateLimitConfig
  maxConnections : Nat
  maxConnectionsPerEndpoint : Nat
  maxConnectionsPerRoom : Nat
  maxRoomStates : Nat
  maxWaitingCreators : Nat
  maxSourceStates : Nat
  sourceStateTtl : Duration
  handshakeTimeout : Duration
  joinTimeout : Duration
  relayTtl : Duration
  relayIdleTimeout : Duration
  slowFrameTimeout : Duration
  closeGrace : Duration
  maxFrameBody : Nat
  maxRetryAfter : Duration
  unavailableRetryAfter : Duration
deriving DecidableEq

def BrokerConfig.validate (self : BrokerConfig) : Except String Unit := do
  self.roomAttemptRate.validate
  self.endpointJoinRate.validate
  self.ipJoinRate.validate
  self.subnetJoinRate.validate
  reject (self.roomTtl = 0 ∨ self.roomTombstoneTtl = 0 ∨ self.sourceStateTtl = 0 ∨
      self.handshakeTimeout = 0 ∨ self.joinTimeout = 0 ∨ self.relayTtl = 0 ∨
      self.relayIdleTimeout = 0 ∨ self.slowFrameTimeout = 0 ∨ self.closeGrace = 0 ∨
      self.maxRetryAfter = 0)
    "broker durations must be non-zero"
  reject (self.roomAttemptLimit = 0 ∨ self.maxConnections = 0 ∨ self.maxConnectionsPerEndpoint = 0 ∨
      self.maxConnectionsPerRoom < 2 ∨ self.maxRoomStates = 0 ∨ self.maxWaitingCreators = 0 ∨
      self.maxSourceStates < 3 ∨ self.maxFrameBody = 0 ∨ self.maxFrameBody > 2 ^ 32 - 1)
    "broker limits must be non-zero and room connections must be at least two"
  reject (self.maxWaitingCreators > self.maxRoomStates)
    "waiting-creator limit cannot exceed the Room-state limit"
  reject (self.unavailableRetryAfter > self.maxRetryAfter)
    "unavailable retry_after cannot exceed the server retry_after cap"

def secs (seconds : Nat) : Duration := seconds * 1000000000

/-- The first time span that no `Duration` of the program holds: its seconds have 64 bits. -/
def Duration.limit : Duration := secs (2 ^ 64)

def RateLimitConfig.perMinute (events burst : Nat) : RateLimitConfig :=
  { events, period := secs 60, burst }

/-- `BrokerConfig::default` -/
def BrokerConfig.default : BrokerConfig where
  roomTtl := secs 300
  roomTombstoneTtl := secs 300
  roomAttemptLimit := 6
  roomAttemptRate := { events := 6, period := secs 300, burst := 2 }
  endpointJoinRate := .perMinute 10 20
  ipJoinRate := .perMinute 30 60
  subnetJoinRate := .perMinute 120 240
  maxConnections := 256
  maxConnectionsPerEndpoint := 8
  maxConnectionsPerRoom := 2
  maxRoomStates := 8192
  maxWaitingCreators := 4096
  maxSourceStates := 8192
  sourceStateTtl := secs 600
  handshakeTimeout := secs 10
  joinTimeout := secs 10
  relayTtl := secs 120
  relayIdleTimeout := secs 30
  slowFrameTimeout := secs 10
  closeGrace := secs 10
  maxFrameBody := 64 * 1024
  maxRetryAfter := secs 300
  unavailableRetryAfter := secs 1

/-! ## Joins -/

inductive InvitationSide where
  | creator
  | joiner
deriving DecidableEq

inductive TransferRole where
  | sender
  | receiver
deriving DecidableEq

def TransferRole.complement : TransferRole → TransferRole
  | .sender => .receiver
  | .receiver => .sender

inductive BootstrapKind where
  | fullTicket
  | roomCode
deriving DecidableEq

structure Join where
  version : Nat
  roomId : String
  invitationSide : InvitationSide
  transferRole : TransferRole
  bootstrapMethods : List BootstrapKind
  selectedBootstrapMethod : Option BootstrapKind
deriving DecidableEq

inductive BrokerOutcome where
  | roomNotFound
  | roomExpired
  | roomFull
  | roomRateLimited
  | roomUnderAttack
  | endpointRateLimited
  | ipRateLimited
  | serverBusy
  | malformedJoin
  | unsupportedVersion
deriving DecidableEq

/-- `retryAfter` is in whole seconds. -/
structure BrokerRejection where
  outcome : BrokerOutcome
  retryAfter : Option Nat
deriving DecidableEq

def rendezvousProtocolVersion : Nat := 2
def roomIdLen : Nat := 6
def rememberedRoomIdPrefix : Bytes := asBytes "r1_"
def rememberedRoomIdEncodedLen : Nat := 43
def roomControlLocatorPrefix : Bytes := asBytes "c2_"

def isAsciiDigit (byte : UInt8) : Bool := 0x30 ≤ byte && byte ≤ 0x39

def isAsciiAlphanumeric (byte : UInt8) : Bool :=
  isAsciiDigit byte || (0x41 ≤ byte && byte ≤ 0x5a) || (0x61 ≤ byte && byte ≤ 0x7a)

/-- `str::strip_prefix`, on the bytes. -/
def stripPrefix (start bytes : Bytes) : Option Bytes :=
  if start <+: bytes then some (bytes.drop start.length) else none

def isRememberedRoomId (value : String) : Bool :=
  (stripPrefix rememberedRoomIdPrefix (asBytes value)).any fun encoded =>
    encoded.length = rememberedRoomIdEncodedLen &&
      encoded.all fun byte => isAsciiAlphanumeric byte || byte == 0x2d || byte == 0x5f

def isRoomControlLocator (value : String) : Bool :=
  (stripPrefix roomControlLocatorPrefix (asBytes value)).any fun roomId =>
    roomId.length = roomIdLen && roomId.all isAsciiDigit

def validCreator (join : Join) : Bool :=
  if isRoomControlLocator join.roomId then
    join.bootstrapMethods = [.roomCode] ∧ join.transferRole = .receiver
  else if isRememberedRoomId join.roomId then
    join.bootstrapMethods = [.fullTicket] ∧ join.transferRole = .receiver
  else join.bootstrapMethods = [.fullTicket, .roomCode]

def validJoiner (join : Join) : Bool :=
  if isRoomControlLocator join.roomId then
    join.selectedBootstrapMethod = some .roomCode ∧ join.transferRole = .sender
  else if isRememberedRoomId join.roomId then
    join.selectedBootstrapMethod = some .fullTicket ∧ join.transferRole = .sender
  else join.selectedBootstrapMethod.isSome

def validateJoin (join : Join) : Except BrokerOutcome Unit := do
  reject (join.version ≠ rendezvousProtocolVersion) .unsupportedVersion
  let invitationRoom :=
    (asBytes join.roomId).length = roomIdLen ∧ (asBytes join.roomId).all isAsciiDigit
  reject (¬ invitationRoom ∧ ¬ isRememberedRoomId join.roomId ∧ ¬ isRoomControlLocator join.roomId)
    .malformedJoin
  match join.invitationSide with
  | .creator => reject (¬ validCreator join ∨ join.selectedBootstrapMethod.isSome) .malformedJoin
  | .joiner => reject (join.bootstrapMethods ≠ [] ∨ ¬ validJoiner join) .malformedJoin

def joinsMatch (first second : Join) : Option BootstrapKind :=
  let pair := match first.invitationSide, second.invitationSide with
    | .creator, .joiner => some (first, second)
    | .joiner, .creator => some (second, first)
    | _, _ => none
  pair.bind fun (creator, joiner) =>
    if creator.transferRole.complement ≠ joiner.transferRole then none
    else joiner.selectedBootstrapMethod.bind fun selected =>
      if selected ∈ creator.bootstrapMethods then some selected else none

/-! ## Rooms -/

structure Waiter where
  id : Nat
  join : Join
deriving DecidableEq

inductive RoomStatus where
  | live
  | expired (purgeAt : Instant)
  | exhausted (purgeAt : Instant)
deriving DecidableEq

structure RoomState where
  instanceId : Nat
  expiresAt : Instant
  attempts : Nat
  consumed : Bool
  activeConnections : Nat
  waiter : Option Waiter
  status : RoomStatus
  shortCode : Bool
deriving DecidableEq

structure RoomSlotGuard where
  roomId : String
  instanceId : Nat
deriving DecidableEq

/-- The registry, the counter its ids come from, and the guards that connections hold.  The
counter has 64 bits, more than any run draws. -/
structure RoomRegistry where
  rooms : Table String RoomState
  nextId : Nat
  guards : List RoomSlotGuard

def RoomRegistry.new : RoomRegistry := ⟨.empty, 0, []⟩

inductive CreatorDecision where
  | parked (waiterId : Nat) (expiresAt : Instant) (roomGuard : RoomSlotGuard)
  | rejected (rejection : BrokerRejection)
deriving DecidableEq

def boundedRetryAfter (retry max : Duration) : Option Nat :=
  if retry = 0 then none
  else
    let retry := min retry max
    some (retry / secs 1 + if retry % secs 1 > 0 then 1 else 0)

def BrokerConfig.rejection (self : BrokerConfig) (outcome : BrokerOutcome)
    (retryAfter : Option Duration) :
    BrokerRejection :=
  { outcome, retryAfter := retryAfter.bind fun retry => boundedRetryAfter retry self.maxRetryAfter }

def RoomState.exhaust (room : RoomState) (config : BrokerConfig) (now : Instant) : RoomState :=
  if room.status = .live then { room with status := .exhausted (now + config.roomTombstoneTtl) }
  else room

/-- The status refuses any further join. -/
def RoomState.statusRejection (room : RoomState) : Option BrokerOutcome :=
  match room.status with
  | .expired _ => some .roomExpired
  | .exhausted _ => some .roomUnderAttack
  | .live => if room.consumed then some .roomFull else none

/-! ## Sections that hold the lock -/

namespace RoomRegistry

def expireDue (config : BrokerConfig) (now : Instant) (room : RoomState) : RoomState :=
  if room.status = .live ∧ ¬ room.consumed ∧ now ≥ room.expiresAt then
    { room with waiter := none, status := .expired (now + config.roomTombstoneTtl) }
  else room

/-- The room is live, still connected or not yet due to be purged. -/
def retained (now : Instant) (room : RoomState) : Bool :=
  match room.status with
  | .live => true
  | .expired purgeAt | .exhausted purgeAt => room.activeConnections > 0 ∨ now < purgeAt

def sweepRooms (config : BrokerConfig) (now : Instant) (self : RoomRegistry) : RoomRegistry :=
  { self with
      rooms := (self.rooms.mapValues fun _ room => expireDue config now room).retain fun _ room =>
      retained now room }

def parkCreator (self : RoomRegistry) (roomId : String) (room : RoomState) (join : Join) :
    CreatorDecision × RoomRegistry :=
  let waiterId := self.nextId
  let roomGuard : RoomSlotGuard := { roomId, instanceId := room.instanceId }
  (.parked waiterId room.expiresAt roomGuard,
    { rooms := self.rooms.update roomId fun room => { room with
        waiter := some { id := waiterId, join }
        activeConnections := room.activeConnections + 1 }
      nextId := self.nextId + 1
      guards := roomGuard :: self.guards })

def waitingCreators (self : RoomRegistry) : Nat := self.rooms.count fun room => room.waiter.isSome

/-- Why a creator may not park in an existing room. -/
def creatorRejection (config : BrokerConfig) (room : RoomState) : Option BrokerOutcome :=
  match room.statusRejection with
  | some outcome => some outcome
  | none =>
    if room.waiter.isSome ∨ room.activeConnections ≥ config.maxConnectionsPerRoom then
      some .roomFull
    else none

/-- The retry hint that goes with a full room only. -/
def retryIfFull (config : BrokerConfig) (outcome : BrokerOutcome) : Option Duration :=
  if outcome = .roomFull then some config.unavailableRetryAfter else none

/-- The locked section of `serve_creator`. -/
def serveCreator (config : BrokerConfig) (join : Join) (now : Instant) (self : RoomRegistry) :
    CreatorDecision × RoomRegistry :=
  let self := self.sweepRooms config now
  match self.rooms.get? join.roomId with
  | none =>
    if self.rooms.size ≥ config.maxRoomStates ∨
      self.waitingCreators ≥ config.maxWaitingCreators then
      (.rejected (config.rejection .serverBusy (some config.unavailableRetryAfter)), self)
    else
      let room : RoomState := {
        instanceId := self.nextId
        expiresAt := now + config.roomTtl
        attempts := 0
        consumed := false
        activeConnections := 0
        waiter := none
        status := .live
        shortCode := !isRememberedRoomId join.roomId }
      parkCreator { self with
        rooms := self.rooms.insert join.roomId room, nextId := self.nextId + 1 } join.roomId
        room join
  | some room =>
    match creatorRejection config room with
    | some outcome => (.rejected (config.rejection outcome (retryIfFull config outcome)), self)
    | none => parkCreator self join.roomId room join

/-- The room after its waiter was taken and the joiner offered to it. -/
def handedRoom (config : BrokerConfig) (roomId : String) (received : Bool) (now : Instant)
    (room : RoomState) :
    RoomState :=
  let room := { room with waiter := none, activeConnections := room.activeConnections + 1 }
  if received then
    let room :=
      { room with attempts := room.attempts + 1, consumed := room.consumed ||
        isRememberedRoomId roomId }
    if room.shortCode ∧ room.attempts ≥ config.roomAttemptLimit then
      room.exhaust config now
    else room
  else room

/-- The joiner's connection takes a guard of the room with it, also when the creator is gone. -/
def handoffJoiner (config : BrokerConfig) (roomId : String) (room : RoomState) (received : Bool)
    (now : Instant) (self : RoomRegistry) : Option BrokerRejection × RoomRegistry :=
  (if received then none
    else some (config.rejection .roomNotFound (some config.unavailableRetryAfter)),
    { self with
      rooms := self.rooms.update roomId (handedRoom config roomId received now)
      guards := { roomId, instanceId := room.instanceId } :: self.guards })

/-- The locked section of `serve_joiner`.  `rate` is what the room's token bucket answers, with the
wait before `Duration::from_secs_f64` takes it, `received` whether the waiting creator still
listens. -/
def serveJoiner (config : BrokerConfig) (join : Join) (now : Instant) (rate : Except Duration Unit)
    (received : Bool) (self : RoomRegistry) : Option BrokerRejection × RoomRegistry :=
  let self := self.sweepRooms config now
  match self.rooms.get? join.roomId with
  | none => (some (config.rejection .roomNotFound (some config.unavailableRetryAfter)), self)
  | some room =>
    match room.statusRejection with
    | some outcome => (some (config.rejection outcome (retryIfFull config outcome)), self)
    | none =>
      if room.shortCode ∧ room.attempts ≥ config.roomAttemptLimit then
        (some (config.rejection .roomUnderAttack none),
          { self with rooms := self.rooms.update join.roomId fun room => room.exhaust config now })
      else if room.activeConnections ≥ config.maxConnectionsPerRoom then
        (some (config.rejection .roomFull (some config.unavailableRetryAfter)), self)
      else if room.waiter.all fun waiter => (joinsMatch waiter.join join).isNone then
        (some (config.rejection .roomNotFound (some config.unavailableRetryAfter)), self)
      else if room.shortCode then
        match rate with
        | .ok _ => handoffJoiner config join.roomId room received now self
        | .error retryAfter => (some (config.rejection .roomRateLimited (some retryAfter)), self)
      else handoffJoiner config join.roomId room received now self

/-- The waiter of this id is parked in the room. -/
def isParked (room : RoomState) (waiterId : Nat) : Bool :=
  room.waiter.any fun waiter => waiter.id = waiterId

def evictWaiter (roomId : String) (waiterId : Nat) (self : RoomRegistry) : RoomRegistry :=
  match self.rooms.get? roomId with
  | none => self
  | some room =>
    if isParked room waiterId then
      let rooms := self.rooms.update roomId fun room => { room with waiter := none }
      if isRememberedRoomId roomId ∧ room.status = .live ∧ room.activeConnections ≤ 1 then
        { self with rooms := rooms.remove roomId }
      else { self with rooms }
    else self

def expireRoom (config : BrokerConfig) (roomId : String) (waiterId : Nat) (now : Instant)
    (self : RoomRegistry) :
    RoomRegistry :=
  match self.rooms.get? roomId with
  | none => self
  | some room =>
    if isParked room waiterId ∧ room.status = .live then
      { self with rooms := self.rooms.update roomId fun room =>
          { room with waiter := none, status := .expired (now + config.roomTombstoneTtl) } }
    else self

/-- `RoomSlotGuard::drop`, with the lock sound. -/
def dropGuard (slot : RoomSlotGuard) (self : RoomRegistry) : RoomRegistry :=
  let guards := self.guards.erase slot
  match self.rooms.get? slot.roomId with
  | none => { self with guards }
  | some room =>
    if room.instanceId = slot.instanceId then
      let activeConnections := room.activeConnections - 1
      let rooms := self.rooms.update slot.roomId fun room => { room with activeConnections }
      if isRememberedRoomId slot.roomId ∧ activeConnections = 0 ∧ room.waiter.isNone ∧
        room.status = .live then
        { self with rooms := rooms.remove slot.roomId, guards }
      else { self with rooms, guards }
    else { self with guards }

end RoomRegistry

/-! ## Interleavings -/

inductive BrokerStep where
  | creatorJoin (join : Join) (now : Instant)
  | joinerJoin (join : Join) (now : Instant) (rate : Except Duration Unit) (received : Bool)
  | evictWaiter (roomId : String) (waiterId : Nat)
  | expireRoom (roomId : String) (waiterId : Nat) (now : Instant)
  | sweep (now : Instant)
  | dropGuard (slot : RoomSlotGuard)

/-- Only a guard that some connection holds can be dropped. -/
def BrokerStep.Enabled (registry : RoomRegistry) : BrokerStep → Prop
  | .dropGuard slot => slot ∈ registry.guards
  | _ => True

/-- The reading of the clock the step sweeps with. -/
def BrokerStep.sweepsAt : BrokerStep → Option Instant
  | .creatorJoin _ now => some now
  | .joinerJoin _ now _ _ => some now
  | .sweep now => some now
  | _ => none

def RoomRegistry.step (config : BrokerConfig) (self : RoomRegistry) : BrokerStep → RoomRegistry
  | .creatorJoin join now => (self.serveCreator config join now).2
  | .joinerJoin join now rate received => (self.serveJoiner config join now rate received).2
  | .evictWaiter roomId waiterId => self.evictWaiter roomId waiterId
  | .expireRoom roomId waiterId now => self.expireRoom config roomId waiterId now
  | .sweep now => self.sweepRooms config now
  | .dropGuard slot => self.dropGuard slot

/-- The registries an interleaving of locked sections can lead to. -/
inductive Reachable (config : BrokerConfig) : RoomRegistry → Prop where
  | new : Reachable config .new
  | step {registry : RoomRegistry} {step : BrokerStep} (before : Reachable config registry)
      (enabled : step.Enabled registry) : Reachable config (registry.step config step)

end Envoix.Rendezvous
