import Envoix.Foundation.Roster
import Envoix.Room.Invite

/-! # Delivery of nearby invitations

`nearby_invite.rs`: a sender asks the inbox of another endpoint to queue a room invitation and waits
for the acknowledgement.  The inbox remembers what it has queued, by sender, so that a request whose
acknowledgement was lost is not queued again.  What is proved of all interleavings is in
`InviteDeliveryRuns`. -/

namespace Envoix.Nearby.Delivery

open ByteCodec Fallible
open Envoix.Invite (startsWith)
open Envoix.Room (CoreError Clock RoomControlInvite trim nowUnixSecs)

/-! ## Requests -/

def maxNearbyInviteBytes : Nat := 2048
def nearbyInviteQueueCapacity : Nat := 8
def maxRecentInvites : Nat := 32

/-- One accepted invitation; the endpoint id stands for its text. -/
structure NearbyInvite (EndpointId : Type) where
  requestId : UInt64
  senderEndpointId : EndpointId
  senderPeerKey : String
  senderDisplayName : String
  invite : String
  expiresAtUnixSecs : UInt64
deriving DecidableEq

inductive AckStatus where
  | queued
  | duplicate
  | busy
  | invalid
  | expired
deriving DecidableEq

inductive WireMessage where
  | request (requestId : UInt64) (senderPeerKey senderDisplayName invite : String)
  | ack (requestId : UInt64) (status : AckStatus)
deriving DecidableEq

inductive SessionError where
  | cancelled
  | core (error : CoreError)
deriving DecidableEq

structure ValidatedInvite where
  expiresAtUnixSecs : UInt64

inductive InviteValidationError where
  | tooLarge
  | invalid
  | expired
deriving DecidableEq

def InviteValidationError.intoCoreError : InviteValidationError → CoreError
  | .tooLarge =>
    .invalidInput ("nearby Room invitation exceeds " ++ toString maxNearbyInviteBytes ++ " bytes")
  | .invalid => .invalidInput "nearby invitation must be a valid Room invitation"
  | .expired => .invalidInput "nearby Room invitation has expired"

/-- The clock may be read while the invitation is parsed, and is read after. -/
def validateInvite (invite : String) (parsing now : Clock) :
    Except InviteValidationError ValidatedInvite := do
  reject ((asBytes invite).length > maxNearbyInviteBytes) .tooLarge
  reject (¬ startsWith "envoix://room/" invite) .invalid
  let parsed ← mapErr (fun _ => .invalid) (RoomControlInvite.parse invite "" none parsing)
  let now ← mapErr (fun _ => .invalid) (nowUnixSecs now)
  reject (parsed.expiresAtUnixSecs ≤ now) .expired
  return { expiresAtUnixSecs := parsed.expiresAtUnixSecs }

def isAsciiHexdigit (byte : UInt8) : Bool :=
  0x30 ≤ byte && byte ≤ 0x39 || 0x41 ≤ byte && byte ≤ 0x46 || 0x61 ≤ byte && byte ≤ 0x66

def toAsciiLowercase (text : String) : String :=
  String.ofList (text.toList.map fun character => if character.isUpper then character.toLower
    else character)

def normalizePeerKey (peerKey : String) : Except CoreError String := do
  let peerKey := toAsciiLowercase (trim peerKey)
  reject ((asBytes peerKey).length ≠ 16 ∨ ¬ (asBytes peerKey).all isAsciiHexdigit)
    (.invalidInput "nearby presence key must be 16 hexadecimal characters")
  return peerKey

def normalizeDisplayName (displayName : String) : Except CoreError String := do
  let displayName := trim displayName
  reject (displayName = "" ∨ displayName.toList.length > 48 ∨ displayName.toList.any Room.isControl)
    (.invalidInput "nearby display name must contain 1-48 visible characters")
  return displayName

/-! ## The inbox -/

section

variable {EndpointId : Type}

/-- A bounded channel; the receiver may have closed it. -/
structure Channel (EndpointId : Type) where
  queue : List (NearbyInvite EndpointId)
  closed : Bool

inductive TrySendError where
  | full
  | closed

def Channel.trySend (self : Channel EndpointId) (event : NearbyInvite EndpointId) :
    Except TrySendError (Channel EndpointId) :=
  if self.closed then .error .closed
  else if self.queue.length < nearbyInviteQueueCapacity then
    .ok { self with queue := self.queue ++ [event] }
  else .error .full

structure RecentInvite (EndpointId : Type) where
  sender : EndpointId
  requestId : UInt64
  invite : String
  expiresAtUnixSecs : UInt64
deriving DecidableEq

/-- What is remembered of a queued invitation. -/
def NearbyInvite.recent (event : NearbyInvite EndpointId) : RecentInvite EndpointId where
  sender := event.senderEndpointId
  requestId := event.requestId
  invite := event.invite
  expiresAtUnixSecs := event.expiresAtUnixSecs

/-- Either of two keys tells that the request of `sender` is this one. -/
def RecentInvite.repeats (entry : RecentInvite EndpointId) (sender : EndpointId)
    (event : NearbyInvite EndpointId) : Prop :=
  entry.sender = sender ∧ (entry.requestId = event.requestId ∨ entry.invite = event.invite)

variable [DecidableEq EndpointId]

instance (entry : RecentInvite EndpointId) (sender : EndpointId) (event : NearbyInvite EndpointId) :
    Decidable (entry.repeats sender event) :=
  inferInstanceAs (Decidable (_ ∧ _))

/-- `RecentInvites::enqueue`; the sender of the event is `sender`. -/
def enqueue (entries : List (RecentInvite EndpointId)) (sender : EndpointId)
    (event : NearbyInvite EndpointId) (incoming : Channel EndpointId) (clock : Clock) :
    AckStatus × List (RecentInvite EndpointId) × Channel EndpointId :=
  let now := clock.getD (UInt64.ofNat (2 ^ 64 - 1))
  let entries := entries.filter fun entry => entry.expiresAtUnixSecs > now
  if entries.any fun entry => entry.repeats sender event then (.duplicate, entries, incoming)
  else
    match incoming.trySend event with
    | .ok incoming =>
      let entries := entries ++ [{ event.recent with sender }]
      (.queued, entries.drop (entries.length - maxRecentInvites), incoming)
    | .error _ => (.busy, entries, incoming)

/-- The identity of a sender, unless the request has no number or the identity is malformed. -/
def normalizedSender (requestId : UInt64) (senderPeerKey senderDisplayName : String) :
    Option (String × String) :=
  match normalizePeerKey senderPeerKey, normalizeDisplayName senderDisplayName with
  | .ok peerKey, .ok displayName => if requestId = 0 then none else some (peerKey, displayName)
  | _, _ => none

/-- What `handle_incoming` does with the message of `sender`: the answer and what is left. -/
def answerRequest (recent : List (RecentInvite EndpointId)) (incoming : Channel EndpointId)
    (sender : EndpointId) (message : WireMessage) (parsing validating enqueuing : Clock) :
    Except CoreError (WireMessage × List (RecentInvite EndpointId) × Channel EndpointId) :=
  match message with
  | .ack _ _ => .error (.protocol "nearby invitation peer sent an acknowledgement as its request")
  | .request requestId senderPeerKey senderDisplayName invite =>
    match normalizedSender requestId senderPeerKey senderDisplayName with
    | none => .ok (.ack requestId .invalid, recent, incoming)
    | some (senderPeerKey, senderDisplayName) =>
      match validateInvite invite parsing validating with
      | .error .expired => .ok (.ack requestId .expired, recent, incoming)
      | .error _ => .ok (.ack requestId .invalid, recent, incoming)
      | .ok validated =>
        let event :=
          { requestId, senderEndpointId := sender, senderPeerKey, senderDisplayName, invite
            expiresAtUnixSecs := validated.expiresAtUnixSecs }
        let (status, recent, incoming) := enqueue recent sender event incoming enqueuing
        .ok (.ack requestId status, recent, incoming)

structure NearbyInviteInbox (EndpointId : Type) where
  incoming : Channel EndpointId
  recent : List (RecentInvite EndpointId)
  senderPeerKey : String
  senderDisplayName : String
  nextRequestId : UInt64
  closed : Bool

/-- `start_nearby_invite_inbox`, once its endpoint is bound. -/
def startNearbyInviteInbox (peerKey displayName : String) :
    Except CoreError (NearbyInviteInbox EndpointId) := do
  let senderPeerKey ← normalizePeerKey peerKey
  let senderDisplayName ← normalizeDisplayName displayName
  return {
    incoming := ⟨[], false⟩, recent := [], senderPeerKey, senderDisplayName,
    nextRequestId := 1, closed := false }

/-- `next_request_id`: the number taken and the counter after it; zero is passed over. -/
def takeRequestId (counter : UInt64) : UInt64 × UInt64 :=
  if counter = 0 then (counter + 1, counter + 1 + 1) else (counter, counter + 1)

/-- `send_invite` until it connects to `target`. -/
def NearbyInviteInbox.openRequest (self : NearbyInviteInbox EndpointId) (own target : EndpointId)
    (invite : String) (parsing now : Clock) :
    Except SessionError (UInt64 × WireMessage × NearbyInviteInbox EndpointId) := do
  reject self.closed .cancelled
  let _ ← mapErr (fun error => .core error.intoCoreError) (validateInvite invite parsing now)
  reject (target = own)
    (.core (.invalidInput "cannot deliver a nearby invitation to this endpoint"))
  let (requestId, nextRequestId) := takeRequestId self.nextRequestId
  return (requestId, .request requestId self.senderPeerKey self.senderDisplayName invite,
    { self with nextRequestId })

/-- `send_invite` with the answer. -/
def readAck (requestId : UInt64) : WireMessage → Except SessionError Unit
  | .ack acknowledged status =>
    if acknowledged = requestId then
      match status with
      | .queued | .duplicate => .ok ()
      | .busy => .error (.core (.transport "nearby invitation inbox is busy"))
      | .invalid => .error (.core (.invalidInput "nearby peer rejected the room invitation"))
      | .expired =>
        .error (.core (.invalidInput "nearby peer rejected the expired room invitation"))
    else .error (.core (.protocol "nearby invitation acknowledgement did not match its request"))
  | .request _ _ _ _ =>
    .error
      (.core (.protocol "nearby invitation peer returned a request instead of an acknowledgement"))

/-- What became of an invitation that `next_invite` has received. -/
inductive Fate where
  | returned (now : UInt64)
  | expired (now : UInt64)
  | cancelled
  | clockFailed
deriving DecidableEq

/-- One turn of the loop of `next_invite`; nothing while the channel is empty. -/
def NearbyInviteInbox.receive (self : NearbyInviteInbox EndpointId) (clock : Clock) :
    Option (NearbyInvite EndpointId × Fate × NearbyInviteInbox EndpointId) :=
  match self.incoming.queue with
  | [] => none
  | event :: queue =>
    let fate :=
      if self.closed then .cancelled
      else
        match clock with
        | none => .clockFailed
        | some now => if event.expiresAtUnixSecs > now then .returned now else .expired now
    some (event, fate, { self with incoming := { self.incoming with queue } })

end

end Envoix.Nearby.Delivery
