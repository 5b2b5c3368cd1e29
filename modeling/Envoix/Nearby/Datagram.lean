import Envoix.Room.Invite

/-! # The bootstrap of a datagram channel

`envoix-session/src/datagram_transport.rs`: before QUIC runs over a channel of the platform, the two
ends exchange their ids and agree on a datagram size.  The channel keeps datagrams whole and nothing
else: whatever one end has sent may reach the other never, late, out of order or many times. -/

namespace Envoix.Nearby

open ByteCodec Fallible
open Envoix.Room (CoreError)

/-- The public keys of iroh: what is read back from the bytes of a key is that key. -/
class EndpointIds where
  EndpointId : Type
  decidable : DecidableEq EndpointId
  asBytes : EndpointId → Bytes
  fromBytes : Bytes → Option EndpointId
  length_asBytes : ∀ id, (asBytes id).length = 32
  fromBytes_asBytes : ∀ id, fromBytes (asBytes id) = some id

open EndpointIds

instance [EndpointIds] : DecidableEq EndpointId := EndpointIds.decidable

/-! ## Frames -/

/-- `ENVXWA02` -/
def bootstrapMagic : Bytes := [0x45, 0x4e, 0x56, 0x58, 0x57, 0x41, 0x30, 0x32]

def bootstrapClientHello : UInt8 := 1
def bootstrapServerHello : UInt8 := 2
def bootstrapFrameBytes : Nat := bootstrapMagic.length + 1 + 32 + 32 + 2
def bootstrapServerReplyCount : Nat := 5
def minQuicDatagramBytes : UInt16 := 1200
def hybridDataMtu : UInt16 := 1200

structure BootstrapFrame [EndpointIds] where
  kind : UInt8
  senderId : EndpointId
  peerId : Option EndpointId
  maximumDatagramSize : UInt16

section

variable [EndpointIds]

def encodeBootstrap (kind : UInt8) (senderId : EndpointId) (peerId : Option EndpointId)
    (maximumDatagramSize : UInt16) :
    Bytes :=
  bootstrapMagic ++ [kind] ++ EndpointIds.asBytes senderId ++
    (peerId.map EndpointIds.asBytes).getD (List.replicate 32 0) ++ u16Be maximumDatagramSize

def isBootstrap (bytes : Bytes) : Bool := bootstrapMagic.isPrefixOf bytes

/-- `bytes[start..stop]` -/
def slice (bytes : Bytes) (start stop : Nat) : Bytes := (bytes.drop start).take (stop - start)

/-- The key at the place of the peer, if it is not all zeros. -/
def parsePeerId (peerBytes : Bytes) : Except CoreError (Option EndpointId) :=
  if peerBytes.all (· = 0) then .ok none
  else some <$> okOr (fromBytes peerBytes) (.protocol "invalid bootstrap peer key")

def parseBootstrap (bytes : Bytes) : Except CoreError (Option BootstrapFrame) :=
  if ¬ isBootstrap bytes then .ok none
  else do
    reject (bytes.length ≠ bootstrapFrameBytes)
      (.protocol "invalid Wi-Fi Aware datagram bootstrap frame length")
    let senderId ← okOr (fromBytes (slice bytes 9 41)) (.protocol "invalid bootstrap sender key")
    let peerId ← parsePeerId (slice bytes 41 73)
    let maximumDatagramSize := UInt16.ofNat (ofBe (slice bytes 73 75))
    reject (maximumDatagramSize < minQuicDatagramBytes)
      (.protocol "Wi-Fi Aware datagram size is below the QUIC minimum")
    return some { kind := bytes.getD 8 0, senderId, peerId, maximumDatagramSize }

end

def validateMaximumDatagramSize (maximumDatagramSize : UInt32) : Except CoreError UInt16 := do
  reject (maximumDatagramSize.toNat ≥ 2 ^ 16)
    (.invalidInput "platform maximum datagram size exceeds u16")
  let size := UInt16.ofNat maximumDatagramSize.toNat
  reject (size < minQuicDatagramBytes)
    (.invalidInput ("platform maximum datagram size must be at least " ++
      toString minQuicDatagramBytes.toNat))
  return size

/-! ## One end -/

inductive DatagramTransportRole where
  | client
  | server
deriving DecidableEq

def DatagramTransportRole.peer : DatagramTransportRole → DatagramTransportRole
  | .client => .server
  | .server => .client

/-- The two functions that bind an endpoint to the channel. -/
inductive Binding where
  /-- `bind_datagram_endpoint` -/
  | datagram
  /-- `bind_hybrid_datagram_endpoint` -/
  | hybrid
deriving DecidableEq

/-- What an end brings: its key, the validated size of its platform and the function that it
called. -/
structure End [EndpointIds] where
  localId : EndpointId
  maximumDatagramSize : UInt16
  binding : Binding

/-- Where an end is in its exchange. -/
inductive Phase [EndpointIds] where
  /-- in the loop of `exchange_endpoint_ids_inner` -/
  | exchanging
  /-- a server that has sent `index` of its replies -/
  | replying (frame : BootstrapFrame) (index : Nat)
  /-- `exchange_endpoint_ids` returned, and the tasks of the bridge run -/
  | bound (remoteId : EndpointId) (negotiated : UInt16)
  | failed (error : CoreError)

namespace End

variable [EndpointIds] (self : End)

/-- What the client sends on every tick. -/
def hello : Bytes := encodeBootstrap bootstrapClientHello self.localId none self.maximumDatagramSize

/-- What the server sends up to five times. -/
def reply (frame : BootstrapFrame) : Bytes :=
  encodeBootstrap bootstrapServerHello self.localId (some frame.senderId) self.maximumDatagramSize

/-- What `exchange_endpoint_ids_inner` returns for a frame. -/
def exchanged (frame : BootstrapFrame) : Phase :=
  .bound frame.senderId (min self.maximumDatagramSize frame.maximumDatagramSize)

/-- A datagram arrives during the exchange. -/
def receive (role : DatagramTransportRole) (bytes : Bytes) : Phase :=
  match parseBootstrap bytes with
  | .error error => .failed error
  | .ok none => .exchanging
  | .ok (some frame) =>
    match role with
    | .client =>
      if frame.kind = bootstrapServerHello ∧ frame.peerId = some self.localId then
        self.exchanged frame
      else .exchanging
    | .server =>
      if frame.kind ≠ bootstrapClientHello ∨ frame.peerId.isSome then .exchanging
      else .replying frame 0

/-- After a reply was sent, or could not be. -/
def replied (frame : BootstrapFrame) (index : Nat) : Except CoreError Unit → Phase
  | .error error => if index = 0 then .failed error else self.exchanged frame
  | .ok () =>
    if index + 1 < bootstrapServerReplyCount then .replying frame (index + 1)
    else self.exchanged frame

/-- The size that the QUIC endpoint is given. -/
def datagramSize (negotiated : UInt16) : UInt16 :=
  match self.binding with
  | .datagram => negotiated
  | .hybrid => min negotiated hybridDataMtu

/-- The size that `DatagramCustomTransport::start` is given. -/
def bridgeSize (negotiated : UInt16) : UInt16 :=
  match self.binding with
  | .datagram => self.maximumDatagramSize
  | .hybrid => min negotiated hybridDataMtu

/-- What the inbound task of the bridge answers; everything that is no bootstrap frame goes to
QUIC. -/
def bridgeReply (role : DatagramTransportRole) (remoteId : EndpointId) (negotiated : UInt16)
    (bytes : Bytes) :
    Option Bytes :=
  if isBootstrap bytes ∧ role = .server then
    match parseBootstrap bytes with
    | .ok (some frame) =>
      if frame.kind = bootstrapClientHello ∧ frame.peerId = none ∧ frame.senderId = remoteId then
        some (encodeBootstrap bootstrapServerHello self.localId (some remoteId)
          (self.bridgeSize negotiated))
      else none
    | _ => none
  else none

end End

/-! ## Two ends -/

/-- The ends of a channel, how far they are and every datagram that each has sent. -/
structure Channel [EndpointIds] where
  ends : DatagramTransportRole → End
  phase : DatagramTransportRole → Phase
  sent : DatagramTransportRole → List Bytes

namespace Channel

variable [EndpointIds]

def goes (channel : Channel) (role : DatagramTransportRole) (phase : Phase) : Channel :=
  { channel with phase := Function.update channel.phase role phase }

def sends (channel : Channel) (role : DatagramTransportRole) (bytes : Bytes) : Channel :=
  { channel with sent := Function.update channel.sent role (bytes :: channel.sent role) }

/-- Two ends that called one of the binding functions, with what their platforms can carry. -/
inductive Started (platform : DatagramTransportRole → UInt32) : Channel → Prop where
  | intro (ends : DatagramTransportRole → End)
      (valid : ∀ role, validateMaximumDatagramSize (platform role) =
        .ok (ends role).maximumDatagramSize) :
      Started platform { ends, phase := fun _ => .exchanging, sent := fun _ => [] }

/-- One end does something.  A bridge whose tasks have ended does nothing any more. -/
inductive Step (channel : Channel) : Channel → Prop where
  /-- the client's interval ticks -/
  | ticks (exchanging : channel.phase .client = .exchanging) :
      Step channel (channel.sends .client (channel.ends .client).hello)
  | receives (role : DatagramTransportRole) {bytes : Bytes}
      (exchanging : channel.phase role = .exchanging) (arrives : bytes ∈ channel.sent role.peer) :
      Step channel (channel.goes role ((channel.ends role).receive role bytes))
  /-- the platform fails to send the hello or to receive, or the exchange is cancelled or takes too
  long -/
  | givesUp (role : DatagramTransportRole) (error : CoreError)
      (unfinished : ∀ remoteId negotiated, channel.phase role ≠ .bound remoteId negotiated) :
      Step channel (channel.goes role (.failed error))
  | replies {frame : BootstrapFrame} {index : Nat}
      (replying : channel.phase .server = .replying frame index) :
      Step channel ((channel.sends .server ((channel.ends .server).reply frame)).goes .server
        ((channel.ends .server).replied frame index (.ok ())))
  | failsToReply {frame : BootstrapFrame} {index : Nat} (error : CoreError)
      (replying : channel.phase .server = .replying frame index) :
      Step channel
        (channel.goes .server ((channel.ends .server).replied frame index (.error error)))
  /-- the bridge answers a late hello -/
  | bridges (role : DatagramTransportRole) {remoteId : EndpointId} {negotiated : UInt16}
      {bytes answer : Bytes} (bound : channel.phase role = .bound remoteId negotiated)
      (arrives : bytes ∈ channel.sent role.peer)
      (answers : (channel.ends role).bridgeReply role remoteId negotiated bytes = some answer) :
      Step channel (channel.sends role answer)
  /-- an end sends a packet of QUIC, which is no bootstrap frame -/
  | mixes (role : DatagramTransportRole) {packet : Bytes}
      (quic : ∀ frame, parseBootstrap packet ≠ .ok (some frame)) :
      Step channel (channel.sends role packet)

def Reachable (platform : DatagramTransportRole → UInt32) (channel : Channel) : Prop :=
  ∃ start, Started platform start ∧ Relation.ReflTransGen Step start channel

/-- What started channels have and steps keep, every reachable channel has. -/
theorem Reachable.invariant {platform : DatagramTransportRole → UInt32} {holds : Channel → Prop}
    (started : ∀ channel, Started platform channel → holds channel)
    (kept : ∀ channel next, holds channel → Step channel next → holds next) {channel : Channel}
    (reached : Reachable platform channel) : holds channel := by
  obtain ⟨start, begun, run⟩ := reached
  induction run with
  | refl => exact started start begun
  | tail _ step ih => exact kept _ _ ih step

end Channel

end Envoix.Nearby
