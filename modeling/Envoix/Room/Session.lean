import Envoix.Room.Invite
import Mathlib.Data.Multiset.MapFold

/-! # Room control sessions

`RoomControlSession` of `envoix-session/src/room_control.rs`: two of them, joined by one stream in
each direction.  Every call is cut at its await points.  A call in progress waits for
`lifetime_updates`, holds it while it writes, writes without it, or waits for a message, and between
two such points it runs without interruption; any number of calls may be in progress on either
side. -/

namespace Envoix.Room

open ByteCodec Fallible
open Envoix.Invite (Libraries)

/-! ## Messages -/

inductive RoomLifetimePolicy where
  | idle15Minutes
  | untilForegroundEnds
deriving DecidableEq

structure RoomLifetimeState where
  revision : UInt64
  policy : RoomLifetimePolicy
  idleDeadlineUnixMs : Option UInt64
deriving DecidableEq

inductive RoomCloseReason where
  | userEnded
  | idleExpired
  | invitationExpired
  | peerEnded
  | backgrounded
  | networkLost
  | protocolFailure
deriving DecidableEq

inductive RoomOfferRejection where
  | declined
  | busy
  | expired
  | invalid
deriving DecidableEq

inductive RoomControlEvent where
  | incomingOffer (offer : RoomTransferOffer)
  | offerAccepted (offerId : String)
  | offerRejected (offerId : String) (reason : RoomOfferRejection)
  | lifetimeChanged (state : RoomLifetimeState)
  | peerClosed (reason : RoomCloseReason)
  | pong (nonce : UInt64)
deriving DecidableEq

inductive ControlSessionKind where
  | invitation
  | remembered
deriving DecidableEq

structure Hello where
  protocolVersion : UInt16
  sessionKind : ControlSessionKind
  displayName : String
  creator : Bool
  pairingBinding : Bytes
  lifetime : Option RoomLifetimeState
deriving DecidableEq

inductive ControlMessage where
  | hello (hello : Hello)
  | transferOffer (offer : RoomTransferOffer)
  | offerAccepted (offerId : String)
  | offerRejected (offerId : String) (reason : RoomOfferRejection)
  | lifetimeChanged (state : RoomLifetimeState)
  | activity
  | transferActive (active : Bool)
  | close (reason : RoomCloseReason)
  | ping (nonce : UInt64)
  | pong (nonce : UInt64)
deriving DecidableEq

/-! ## Offers -/

structure OfferState where
  pendingLocal : Option String
  pendingRemote : Option String
  seen : Finset String
  seenOrder : List String
deriving DecidableEq

def maxSeenOfferIds : Nat := 256

namespace OfferState

def empty : OfferState :=
  { pendingLocal := none, pendingRemote := none, seen := ∅, seenOrder := [] }

/-- The loop that drops the oldest ids while there are too many. -/
def dropOldest (seen : Finset String) : List String → Finset String × List String
  | [] => (seen, [])
  | expired :: rest =>
    if (expired :: rest).length > maxSeenOfferIds then dropOldest (seen.erase expired) rest
    else (seen, expired :: rest)

def remember (self : OfferState) (offerId : String) : OfferState :=
  let order := if offerId ∈ self.seen then self.seenOrder else self.seenOrder ++ [offerId]
  let (seen, seenOrder) := dropOldest (insert offerId self.seen) order
  { self with seen, seenOrder }

def resolveRemoteOffer (self : OfferState) (offerId : String) : Except CoreError OfferState := do
  reject (self.pendingRemote ≠ some offerId)
    (.invalidInput "this room offer is not waiting for a local decision")
  return { self with pendingRemote := none }

def resolveLocalOffer (self : OfferState) (offerId : String) : Except CoreError OfferState := do
  reject (self.pendingLocal ≠ some offerId) (.protocol "peer responded to an unknown room offer")
  return { self with pendingLocal := none }

end OfferState

/-! ## Lifetime -/

def roomIdleTimeoutMs : UInt64 := 15 * 60 * 1000

namespace RoomLifetimeState

def initial (nowUnixMs : UInt64) : RoomLifetimeState :=
  { revision := 1, policy := .idle15Minutes,
    idleDeadlineUnixMs := some (saturatingAdd64 nowUnixMs roomIdleTimeoutMs) }

def remembered : RoomLifetimeState :=
  { revision := 1, policy := .untilForegroundEnds, idleDeadlineUnixMs := none }

def validate (self : RoomLifetimeState) : Except CoreError Unit := do
  reject (self.revision = 0) (.protocol "room lifetime revision must be positive")
  reject (self.policy = .untilForegroundEnds ∧ self.idleDeadlineUnixMs.isSome)
    (.protocol "foreground room lifetime cannot have an idle deadline")

end RoomLifetimeState

def validateInitialLifetime (state : RoomLifetimeState) : Except CoreError Unit := do
  state.validate
  reject (state.revision ≠ 1 ∨ state.policy ≠ .idle15Minutes ∨ state.idleDeadlineUnixMs.isNone)
    (.protocol "room creator sent an invalid initial lifetime")

structure RoomLifetimeMachine where
  state : RoomLifetimeState
  localTransferActive : Bool
  peerTransferActive : Bool
deriving DecidableEq

namespace RoomLifetimeMachine

def new (state : RoomLifetimeState) : RoomLifetimeMachine :=
  { state, localTransferActive := false, peerTransferActive := false }

def anyTransferActive (self : RoomLifetimeMachine) : Bool :=
  self.localTransferActive || self.peerTransferActive

/-- What a transition leaves, also when it fails, and the state to publish. -/
abbrev Changed := RoomLifetimeMachine × Except CoreError (Option RoomLifetimeState)

def advance (self : RoomLifetimeMachine) (idleDeadlineUnixMs : Option UInt64) : Changed :=
  match checkedAdd64 self.state.revision 1 with
  | none => (self, .error (.protocol "room lifetime revision exhausted"))
  | some revision =>
    let state := { self.state with revision, idleDeadlineUnixMs }
    ({ self with state }, .ok (some state))

def noteActivity (self : RoomLifetimeMachine) (nowUnixMs : UInt64) : Changed :=
  if self.state.policy ≠ .idle15Minutes ∨ self.anyTransferActive then (self, .ok none)
  else self.advance (some (saturatingAdd64 nowUnixMs roomIdleTimeoutMs))

def applyTransferEdge (self : RoomLifetimeMachine) (wasActive : Bool) (nowUnixMs : UInt64) :
    Changed :=
  if wasActive = self.anyTransferActive ∨ self.state.policy ≠ .idle15Minutes then (self, .ok none)
  else
    self.advance (if self.anyTransferActive then none
      else some (saturatingAdd64 nowUnixMs roomIdleTimeoutMs))

def setLocalTransferActive (self : RoomLifetimeMachine) (active : Bool) (nowUnixMs : UInt64) :
    Changed :=
  if self.localTransferActive = active then (self, .ok none)
  else
    { self with localTransferActive := active }.applyTransferEdge self.anyTransferActive nowUnixMs

def setPeerTransferActive (self : RoomLifetimeMachine) (active : Bool) (nowUnixMs : UInt64) :
    Changed :=
  if self.peerTransferActive = active then (self, .ok none)
  else { self with peerTransferActive := active }.applyTransferEdge self.anyTransferActive nowUnixMs

def setPolicy (self : RoomLifetimeMachine) (policy : RoomLifetimePolicy) (nowUnixMs : UInt64) :
    Changed :=
  if self.state.policy = policy then (self, .ok none)
  else
    let deadline :=
      if policy = .idle15Minutes ∧ ¬ self.anyTransferActive then
        some (saturatingAdd64 nowUnixMs roomIdleTimeoutMs)
      else none
    { self with state := { self.state with policy } }.advance deadline

def applyAuthoritative (self : RoomLifetimeMachine) (state : RoomLifetimeState) :
    Except CoreError RoomLifetimeMachine := do
  state.validate
  reject (state.revision ≤ self.state.revision) (.protocol "room lifetime revision did not advance")
  return { self with state }

end RoomLifetimeMachine

/-- The closures that `update_creator_lifetime` is given. -/
inductive Transition where
  | noteActivity
  | setLocalTransferActive (active : Bool)
  | setPeerTransferActive (active : Bool)
  | setPolicy (policy : RoomLifetimePolicy)
deriving DecidableEq

def Transition.run : Transition → RoomLifetimeMachine → UInt64 → RoomLifetimeMachine.Changed
  | .noteActivity, lifetime, now => lifetime.noteActivity now
  | .setLocalTransferActive active, lifetime, now => lifetime.setLocalTransferActive active now
  | .setPeerTransferActive active, lifetime, now => lifetime.setPeerTransferActive active now
  | .setPolicy policy, lifetime, now => lifetime.setPolicy policy now

/-! ## Calls in progress -/

inductive RoomControlSessionMode where
  | invitation (creator : Bool)
  | remembered (generation : UInt64)
deriving DecidableEq

namespace RoomControlSessionMode

def sessionKind : RoomControlSessionMode → ControlSessionKind
  | .invitation _ => .invitation
  | .remembered _ => .remembered

def isCreator : RoomControlSessionMode → Bool
  | .invitation creator => creator
  | .remembered _ => false

def isRemembered : RoomControlSessionMode → Bool
  | .invitation _ => false
  | .remembered _ => true

end RoomControlSessionMode

/-- Offers, answers, pings and pongs, and the close of a room that did not expire. -/
def ControlMessage.isLetter : ControlMessage → Bool
  | .transferOffer _ | .offerAccepted _ | .offerRejected _ _ | .ping _ | .pong _ => true
  | .close reason => reason ≠ .idleExpired
  | _ => false

/-- A message that is written without `lifetime_updates`. -/
structure Letter where
  message : ControlMessage
  isLetter : message.isLetter = true
deriving DecidableEq

/-- What is left of a call after it noted activity or changed the lifetime. -/
inductive After where
  /-- it returns -/
  | finish
  /-- the loop of `next_event` goes on, unless there is a change to return -/
  | listen
  /-- `offer_transfer`, `accept_offer` or `reject_offer` writes its message and returns -/
  | send (letter : Letter)
deriving DecidableEq

/-- What is left of a call after its last write. -/
inductive Next where
  | finish
  | listen
  /-- `next_event` returns an error, whatever became of the write -/
  | fail (error : CoreError)
deriving DecidableEq

/-- A call that waits for `lifetime_updates`. -/
inductive Update where
  /-- `update_creator_lifetime` -/
  | transition (transition : Transition) (after : After)
  /-- `set_local_transfer_active` of a joiner -/
  | transferActive (active : Bool)
  /-- `apply_authoritative_lifetime` in `next_event` -/
  | authoritative (state : RoomLifetimeState)
  /-- `close` for an idle deadline -/
  | expire
deriving DecidableEq

/-- A call that holds `lifetime_updates` while it writes. -/
inductive Holding where
  | publishing (state : RoomLifetimeState) (after : After)
  | announcing (active : Bool)
  /-- the deadline had passed at `now` -/
  | expiring (now : UInt64)
deriving DecidableEq

/-- A call that does not need `lifetime_updates`. -/
inductive Call where
  /-- `next_event` waits for a message -/
  | receiving
  /-- `note_activity` of a joiner writes its hint -/
  | hinting (after : After)
  | sending (letter : Letter) (next : Next)
deriving DecidableEq

structure RoomControlSession where
  mode : RoomControlSessionMode
  broker : String
  relay : Option String
  offers : OfferState
  lifetime : RoomLifetimeMachine
  holding : Option Holding
  /-- in the order in which they asked -/
  waiting : List Update
  calls : Multiset Call
  /-- this end has closed the connection -/
  closed : Bool

/-- What can be observed of a session. -/
inductive SessionEvent where
  /-- `offer_transfer` took the offer -/
  | registered (offerId : String)
  /-- `accept_offer` (no reason) or `reject_offer` took the decision -/
  | resolved (offerId : String) (rejection : Option RoomOfferRejection)
  | wrote (message : ControlMessage)
  /-- what `next_event` returned -/
  | returned (result : Except CoreError RoomControlEvent)
  /-- another call returned an error -/
  | failed (error : CoreError)

/-- What a call did between two await points. -/
structure Outcome where
  session : RoomControlSession
  sent : List ControlMessage
  events : List SessionEvent

/-- Something happened before the rest. -/
def Outcome.after (self : Outcome) (event : SessionEvent) : Outcome :=
  { self with events := event :: self.events }

/-- The message is on the stream before the rest. -/
def Outcome.writing (self : Outcome) (message : ControlMessage) : Outcome :=
  { self with sent := message :: self.sent }

namespace RoomControlSession

def opened (mode : RoomControlSessionMode) (broker : String) (relay : Option String)
    (lifetime : RoomLifetimeState) :
    RoomControlSession :=
  { mode, broker, relay, offers := .empty, lifetime := .new lifetime, holding := none,
    waiting := [], calls := 0, closed := false }

def call (self : RoomControlSession) (call : Call) : RoomControlSession :=
  { self with calls := call ::ₘ self.calls }

def await (self : RoomControlSession) (update : Update) : RoomControlSession :=
  { self with waiting := self.waiting ++ [update] }

/-- Nothing but the session changes. -/
def quietly (self : RoomControlSession) : Outcome := { session := self, sent := [], events := [] }

def failing (self : RoomControlSession) (error : CoreError) : Outcome :=
  { session := self, sent := [], events := [.failed error] }

def returning (self : RoomControlSession) (result : Except CoreError RoomControlEvent) : Outcome :=
  { session := self, sent := [], events := [.returned result] }

/-- A call goes on to its next await point. -/
def proceed (self : RoomControlSession) : After → Outcome
  | .finish => self.quietly
  | .listen => (self.call .receiving).quietly
  | .send letter => (self.call (.sending letter .finish)).quietly

def resume (self : RoomControlSession) : Next → Outcome
  | .finish => self.quietly
  | .listen => (self.call .receiving).quietly
  | .fail error => self.returning (.error error)

/-- The message of a call is not going to be written; the guard of its mutation closes the
connection, and `offer_transfer` takes its offer back. -/
def giveUp (self : RoomControlSession) (message : ControlMessage) : RoomControlSession :=
  match message with
  | .transferOffer _ =>
    { self with closed := true, offers := { self.offers with pendingLocal := none } }
  | _ => { self with closed := true }

/-- A call fails before what was left of it. -/
def abandon (self : RoomControlSession) (error : CoreError) : After → Outcome
  | .finish => self.failing error
  | .listen => self.returning (.error error)
  | .send letter => (self.giveUp letter.message).failing error

def noteActivity (self : RoomControlSession) (after : After) : Outcome :=
  if self.mode.isRemembered then self.proceed after
  else if self.mode.isCreator then (self.await (.transition .noteActivity after)).quietly
  else (self.call (.hinting after)).quietly

end RoomControlSession

/-- The calls of the application. -/
inductive Request where
  | offerTransfer (offer : RoomTransferOffer)
  | acceptOffer (offerId : String)
  | rejectOffer (offerId : String) (reason : RoomOfferRejection)
  | setPolicy (policy : RoomLifetimePolicy)
  | setLocalTransferActive (active : Bool)
  | noteActivity
  | ping (nonce : UInt64)
  | close (reason : RoomCloseReason)
  | nextEvent

section

variable [Libraries]

namespace RoomControlSession

def offerTransfer (self : RoomControlSession) (offer : RoomTransferOffer) (clock : Clock) :
    Outcome :=
  match offer.validate self.broker self.relay clock with
  | .error error => self.failing error
  | .ok () =>
    if self.offers.pendingLocal.isSome ∨ self.offers.pendingRemote.isSome then
      self.failing (.invalidInput "another room offer is waiting for a decision")
    else if offer.offerId ∈ self.offers.seen then
      self.failing (.invalidInput "room offer id has already been used")
    else
      let offers :=
        OfferState.remember { self.offers with pendingLocal := some offer.offerId } offer.offerId
      ({ self with offers }.noteActivity (.send ⟨.transferOffer offer, rfl⟩)).after
        (.registered offer.offerId)

/-- `accept_offer` and `reject_offer`, which differ in the response. -/
def resolveOffer (self : RoomControlSession) (offerId : String)
    (rejection : Option RoomOfferRejection) : Outcome :=
  match self.offers.resolveRemoteOffer offerId with
  | .error error => self.failing error
  | .ok offers =>
    let response : Letter := match rejection with
      | none => ⟨.offerAccepted offerId, rfl⟩
      | some reason => ⟨.offerRejected offerId reason, rfl⟩
    ({ self with offers }.noteActivity (.send response)).after (.resolved offerId rejection)

def setPolicy (self : RoomControlSession) (policy : RoomLifetimePolicy) : Outcome :=
  if self.mode.isRemembered then
    self.failing (.invalidInput "remembered room lifetime is fixed while connected")
  else if ¬ self.mode.isCreator then
    self.failing (.invalidInput "only the room creator can change its lifetime")
  else (self.await (.transition (.setPolicy policy) .finish)).quietly

def setLocalTransferActive (self : RoomControlSession) (active : Bool) : Outcome :=
  if self.mode.isRemembered then self.quietly
  else if self.mode.isCreator then
    (self.await (.transition (.setLocalTransferActive active) .finish)).quietly
  else (self.await (.transferActive active)).quietly

def close (self : RoomControlSession) (reason : RoomCloseReason) : Outcome :=
  if expired : reason = .idleExpired then
    if self.mode.isRemembered then
      self.failing (.invalidInput "remembered room control has no idle deadline")
    else if ¬ self.mode.isCreator then
      self.failing (.invalidInput "only the room creator can expire its idle deadline")
    else (self.await .expire).quietly
  else (self.call (.sending ⟨.close reason, decide_eq_true expired⟩ .finish)).quietly

/-- A call up to its first await point. -/
def begin (self : RoomControlSession) (request : Request) (clock : Clock) : Outcome :=
  match request with
  | .offerTransfer offer => self.offerTransfer offer clock
  | .acceptOffer offerId => self.resolveOffer offerId none
  | .rejectOffer offerId reason => self.resolveOffer offerId (some reason)
  | .setPolicy policy => self.setPolicy policy
  | .setLocalTransferActive active => self.setLocalTransferActive active
  | .noteActivity => self.noteActivity .finish
  | .ping nonce => (self.call (.sending ⟨.ping nonce, rfl⟩ .finish)).quietly
  | .close reason => self.close reason
  | .nextEvent => (self.call .receiving).quietly

/-- An offer arrives. -/
def receiveOffer (self : RoomControlSession) (offer : RoomTransferOffer) (clock : Clock) :
    Outcome :=
  match offer.validate self.broker self.relay clock with
  | .error error =>
    (self.call (.sending ⟨.offerRejected offer.offerId .invalid, rfl⟩ (.fail error))).quietly
  | .ok () =>
    if self.offers.pendingLocal.isSome ∨ self.offers.pendingRemote.isSome ∨
      offer.offerId ∈ self.offers.seen then
      (self.call (.sending ⟨.offerRejected offer.offerId .busy, rfl⟩ .listen)).quietly
    else
      let offers :=
        OfferState.remember { self.offers with pendingRemote := some offer.offerId } offer.offerId
      { self with offers }.returning (.ok (.incomingOffer offer))

def receiveResponse (self : RoomControlSession) (offerId : String) (event : RoomControlEvent) :
    Outcome :=
  match self.offers.resolveLocalOffer offerId with
  | .error error => self.returning (.error error)
  | .ok offers => { self with offers }.returning (.ok event)

/-- `next_event` from the arrival of a message to its next await point. -/
def receive (self : RoomControlSession) (message : ControlMessage) (clock : Clock) : Outcome :=
  match message with
  | .hello _ => self.returning (.error (.protocol "duplicate room control hello"))
  | .transferOffer offer => self.receiveOffer offer clock
  | .offerAccepted offerId => self.receiveResponse offerId (.offerAccepted offerId)
  | .offerRejected offerId reason => self.receiveResponse offerId (.offerRejected offerId reason)
  | .lifetimeChanged state =>
    if self.mode.isRemembered then
      self.returning (.error (.protocol "remembered room lifetime cannot change"))
    else if self.mode.isCreator then
      self.returning (.error (.protocol "the room joiner cannot publish lifetime state"))
    else (self.await (.authoritative state)).quietly
  | .activity =>
    if self.mode.isRemembered then
      self.returning (.error (.protocol "remembered room control has no activity authority"))
    else if ¬ self.mode.isCreator then
      self.returning (.error (.protocol "the room creator cannot send an activity hint"))
    else (self.await (.transition .noteActivity .listen)).quietly
  | .transferActive active =>
    if self.mode.isRemembered then
      self.returning
        (.error (.protocol "remembered room control has no transfer activity authority"))
    else if ¬ self.mode.isCreator then
      self.returning (.error (.protocol "the room creator cannot send a transfer activity hint"))
    else (self.await (.transition (.setPeerTransferActive active) .listen)).quietly
  | .close reason =>
    if self.mode.isRemembered ∧ reason = .idleExpired then
      self.returning
        (.error (.protocol "remembered room control peer cannot expire an idle deadline"))
    else if self.mode.isCreator ∧ reason = .idleExpired then
      self.returning (.error (.protocol "the room joiner cannot expire the idle deadline"))
    else { self with closed := true }.returning (.ok (.peerClosed reason))
  | .ping nonce => (self.call (.sending ⟨.pong nonce, rfl⟩ .listen)).quietly
  | .pong nonce => self.returning (.ok (.pong nonce))

end RoomControlSession

end

namespace RoomControlSession

/-- `now_unix_millis` -/
def nowUnixMillis (clock : Clock) : Except CoreError UInt64 :=
  okOr clock (.invalidInput "system clock precedes Unix epoch")

/-- `update_creator_lifetime` from the lock to the write. -/
def updateCreatorLifetime (self : RoomControlSession) (transition : Transition) (after : After)
    (clock : Clock) :
    Outcome :=
  match nowUnixMillis clock with
  | .error error => self.abandon error after
  | .ok now =>
    let (lifetime, changed) := transition.run self.lifetime now
    match changed with
    | .error error => { self with lifetime }.abandon error after
    | .ok none => { self with lifetime }.proceed after
    | .ok (some state) => { self with lifetime, holding := some (.publishing state after) }.quietly

/-- The deadline has passed and no transfer is active. -/
def idleExpired (self : RoomControlSession) (now : UInt64) : Bool :=
  self.lifetime.state.policy = .idle15Minutes ∧ ¬ self.lifetime.anyTransferActive ∧
    self.lifetime.state.idleDeadlineUnixMs.any (· ≤ now)

/-- The first call that waits gets `lifetime_updates` and runs to its next await point. -/
def granted (self : RoomControlSession) (update : Update) (clock : Clock) : Outcome :=
  match update with
  | .transition transition after => self.updateCreatorLifetime transition after clock
  | .transferActive active =>
    if self.lifetime.localTransferActive = active then self.quietly
    else
      { self with lifetime := { self.lifetime with localTransferActive := active },
                  holding := some (.announcing active) }.quietly
  | .authoritative state =>
    match self.lifetime.applyAuthoritative state with
    | .error error => self.returning (.error error)
    | .ok lifetime => { self with lifetime }.returning (.ok (.lifetimeChanged state))
  | .expire =>
    match nowUnixMillis clock with
    | .error error => self.failing error
    | .ok now =>
      if ¬ self.idleExpired now then
        self.failing (.invalidInput "room idle deadline has not expired")
      else { self with holding := some (.expiring now) }.quietly

/-- The message of the holder is on the stream: it gives `lifetime_updates` back and goes on. -/
def heldWritten (self : RoomControlSession) : Holding → Outcome
  | .publishing state .listen =>
    (self.returning (.ok (.lifetimeChanged state))).writing (.lifetimeChanged state)
  | .publishing state after => (self.proceed after).writing (.lifetimeChanged state)
  | .announcing active => self.quietly.writing (.transferActive active)
  | .expiring _ => { self with closed := true }.quietly.writing (.close .idleExpired)

/-- The write of the holder fails, and its guard closes the connection. -/
def heldFailed (self : RoomControlSession) (error : CoreError) : Holding → Outcome
  | .publishing _ after => { self with closed := true }.abandon error after
  | _ => { self with closed := true }.failing error

/-- The hint of a joiner is on the stream. -/
def hintWritten (self : RoomControlSession) (after : After) : Outcome :=
  (self.proceed after).writing .activity

def hintFailed (self : RoomControlSession) (error : CoreError) (after : After) : Outcome :=
  { self with closed := true }.abandon error after

/-- The message of another call is on the stream; after a close, the connection is closed. -/
def written (self : RoomControlSession) (letter : Letter) (next : Next) : Outcome :=
  match letter.message with
  | .close _ => ({ self with closed := true }.resume next).writing letter.message
  | _ => (self.resume next).writing letter.message

def writeFailed (self : RoomControlSession) (error : CoreError) (letter : Letter) (next : Next) :
    Outcome :=
  match next with
  | .finish => (self.giveUp letter.message).failing error
  | .listen => (self.giveUp letter.message).returning (.error error)
  | .fail cause => (self.giveUp letter.message).returning (.error cause)

end RoomControlSession

/-! ## The hello -/

def roomControlVersion : UInt16 := 5

def validateDisplayName (name : String) : Except CoreError Unit :=
  reject (trim name = "" ∨ (trim name).toList.length > 48 ∨ (trim name).toList.any isControl)
    (.invalidInput "room display name must contain 1-48 visible characters")

/-- The hello that a peer must send first. -/
def helloOf : ControlMessage → Except CoreError Hello
  | .hello hello => do
    reject (hello.protocolVersion ≠ roomControlVersion)
      (.protocol ("unsupported room control version " ++ toString hello.protocolVersion.toNat))
    validateDisplayName hello.displayName
    return hello
  | _ => .error (.protocol "room control peer did not send hello first")

/-- The lifetime that a session starts with, from what the two sides announced. -/
def establishLifetime (mode : RoomControlSessionMode) (localLifetime : Option RoomLifetimeState)
    (peerCreator : Bool) (peerLifetime : Option RoomLifetimeState) :
    Except CoreError RoomLifetimeState :=
  match mode, localLifetime, peerCreator, peerLifetime with
  | .invitation true, some state, false, none => .ok state
  | .invitation false, none, true, some state => do
    validateInitialLifetime state
    return state
  | .remembered _, none, false, none => .ok .remembered
  | .remembered _, _, _, _ =>
    .error (.protocol "remembered room peers cannot claim creator or lifetime ownership")
  | _, _, _, _ => .error (.protocol "only the room creator can establish its lifetime")

def validateControlHello (peerHello : ControlMessage) (mode : RoomControlSessionMode)
    (expectedPairingBinding : Bytes) (localLifetime : Option RoomLifetimeState) :
    Except CoreError (String × RoomLifetimeState) := do
  let hello ← helloOf peerHello
  reject (hello.sessionKind ≠ mode.sessionKind)
    (.protocol "room control peer selected a different session mode")
  reject (hello.pairingBinding ≠ expectedPairingBinding)
    (.crypto "room control channel is not bound to its pairing")
  let lifetime ← establishLifetime mode localLifetime hello.creator hello.lifetime
  return (hello.displayName, lifetime)

/-- The lifetime that `connect_room_control_inner` announces. -/
def localLifetime (mode : RoomControlSessionMode) (now : UInt64) : Option RoomLifetimeState :=
  match mode with
  | .invitation true => some (.initial now)
  | .invitation false | .remembered _ => none

def localHello (mode : RoomControlSessionMode) (displayName : String) (pairingBinding : Bytes)
    (now : UInt64) :
    ControlMessage :=
  .hello {
    protocolVersion := roomControlVersion
    sessionKind := mode.sessionKind
    displayName
    creator := mode.isCreator
    pairingBinding
    lifetime := localLifetime mode now }

/-! ## Rooms -/

inductive Side where
  | left
  | right
deriving DecidableEq

def Side.peer : Side → Side
  | .left => .right
  | .right => .left

@[simp] theorem Side.peer_ne (side : Side) : side.peer ≠ side := by cases side <;> decide

@[simp] theorem Side.ne_peer (side : Side) : side ≠ side.peer := by cases side <;> decide

@[simp] theorem Side.peer_peer (side : Side) : side.peer.peer = side := by cases side <;> rfl

theorem Side.eq_or_peer (side other : Side) : other = side ∨ other = side.peer := by
  cases side <;> cases other <;> decide

/-- Two sessions, the messages on their way to each, and what has been observed. -/
structure RoomPair where
  session : Side → RoomControlSession
  inbox : Side → List ControlMessage
  history : List (Side × SessionEvent)

namespace RoomPair

/-- A call of one side has run from one await point to the next. -/
def apply (room : RoomPair) (side : Side) (outcome : Outcome) : RoomPair where
  session := Function.update room.session side outcome.session
  inbox := Function.update room.inbox side.peer (room.inbox side.peer ++ outcome.sent)
  history := room.history ++ (outcome.sent.map fun message => (side, .wrote message)) ++
    outcome.events.map fun event => (side, event)

/-- The first message of a side has been read. -/
def taken (room : RoomPair) (side : Side) (rest : List ControlMessage) : RoomPair :=
  { room with inbox := Function.update room.inbox side rest }

theorem taken_all (room : RoomPair) (side : Side) : room.taken side (room.inbox side) = room := by
  rw [taken, Function.update_eq_self]

/-- One of the ends has closed the connection. -/
def Gone (room : RoomPair) (side : Side) : Prop :=
  (room.session side).closed = true ∨ (room.session side.peer).closed = true

/-- Two sessions that accepted each other's hello. -/
inductive Opened : RoomPair → Prop where
  | intro (mode : Side → RoomControlSessionMode) (broker : Side → String)
      (relay : Side → Option String) (name : Side → String) (binding : Side → Bytes)
      (now : Side → UInt64) (lifetime : Side → RoomLifetimeState) (accepted : ∀ side,
        validateControlHello (localHello (mode side.peer) (name side.peer) (binding side.peer)
          (now side.peer)) (mode side) (binding side) (localLifetime (mode side) (now side)) =
            .ok (name side.peer, lifetime side)) :
      Opened {
        session := fun side => .opened (mode side) (broker side) (relay side) (lifetime side)
        inbox := fun _ => []
        history := [.left, .right].map fun side =>
          (side, .wrote (localHello (mode side) (name side) (binding side) (now side))) }

variable [Libraries]

/-- A call of one side runs from one await point to the next.  Writes arrive while the connection is
up and may fail once an end has closed it. -/
inductive Step (room : RoomPair) : RoomPair → Prop where
  | begins (side : Side) (request : Request) (clock : Clock) :
      Step room (room.apply side ((room.session side).begin request clock))
  | grants (side : Side) {update : Update} {rest : List Update} (clock : Clock)
      (free : (room.session side).holding = none)
      (first : (room.session side).waiting = update :: rest) :
      Step room (room.apply side ({ room.session side with waiting := rest }.granted update clock))
  | writesHeld (side : Side) {held : Holding} (holds : (room.session side).holding = some held)
      (connected : (room.session side).closed = false) :
      Step room (room.apply side ({ room.session side with holding := none }.heldWritten held))
  | failsHeld (side : Side) {held : Holding} (error : String)
      (holds : (room.session side).holding = some held) (gone : room.Gone side) :
      Step room
        (room.apply side
          ({ room.session side with holding := none }.heldFailed (.transport error) held))
  | writesHint (side : Side) {after : After} {others : Multiset Call}
      (inProgress : (room.session side).calls = .hinting after ::ₘ others)
      (connected : (room.session side).closed = false) :
      Step room (room.apply side ({ room.session side with calls := others }.hintWritten after))
  | failsHint (side : Side) {after : After} {others : Multiset Call} (error : String)
      (inProgress : (room.session side).calls = .hinting after ::ₘ others) (gone : room.Gone side) :
      Step room
        (room.apply side
          ({ room.session side with calls := others }.hintFailed (.transport error) after))
  | writes (side : Side) {letter : Letter} {next : Next} {others : Multiset Call}
      (inProgress : (room.session side).calls = .sending letter next ::ₘ others)
      (connected : (room.session side).closed = false) :
      Step room (room.apply side ({ room.session side with calls := others }.written letter next))
  | fails (side : Side) {letter : Letter} {next : Next} {others : Multiset Call} (error : String)
      (inProgress : (room.session side).calls = .sending letter next ::ₘ others)
      (gone : room.Gone side) :
      Step room
        (room.apply side
          ({ room.session side with calls := others }.writeFailed (.transport error) letter next))
  | receives (side : Side) {message : ControlMessage} {rest : List ControlMessage}
      {others : Multiset Call} (clock : Clock)
      (inProgress : (room.session side).calls = .receiving ::ₘ others)
      (arrived : room.inbox side = message :: rest) :
      Step room
        ((room.taken side rest).apply side
          ({ room.session side with calls := others }.receive message clock))
  | losesStream (side : Side) {others : Multiset Call} (error : String)
      (inProgress : (room.session side).calls = .receiving ::ₘ others) (gone : room.Gone side) :
      Step room
        (room.apply side
          ({ room.session side with calls := others }.returning (.error (.transport error))))

def Reachable (room : RoomPair) : Prop :=
  ∃ start, Opened start ∧ Relation.ReflTransGen Step start room

/-- What opened rooms have and steps keep, every reachable room has. -/
theorem Reachable.invariant {holds : RoomPair → Prop} (opened : ∀ room, Opened room → holds room)
    (kept : ∀ room next, holds room → Step room next → holds next) {room : RoomPair}
      (reached : Reachable room) :
    holds room := by
  obtain ⟨start, begun, run⟩ := reached
  induction run with
  | refl => exact opened start begun
  | tail _ step ih => exact kept _ _ ih step

end RoomPair

end Envoix.Room
