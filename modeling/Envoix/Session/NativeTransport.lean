import Envoix.Android.RoomControl
import Envoix.Foundation.BytePipe

/-! # The native transport

`native_transport.rs`: a TLS stream on one end of an in-memory duplex, and on the other end two
tasks that carry its bytes to a platform transport and back.  The tasks outlive whoever started them
unless they are aborted, so a connection owes the platform a close. -/

namespace Envoix.Session.NativeTransport

open BytePipe ByteCodec
open Envoix.Android.RoomControl (CoreError)

/-! ## The bridge -/

def ioChunkBytes : Nat := 64 * 1024
def bridgeBytes : Nat := 256 * 1024

structure NativeTransportRead where
  bytes : Bytes
  endOfStream : Bool
deriving DecidableEq

/-- Where the task that carries bytes to TLS stands. -/
inductive Inbound where
  | receiving
  | writing (rest : Bytes) (endOfStream : Bool)
  | stopped

/-- Where the task that carries bytes from TLS stands. -/
inductive Outbound where
  | reading
  | sending (chunk : Bytes)
  | stopped

/-- The duplex, the two tasks on its platform end and what they have reported; `delivered` and
`sent` are what passed between the tasks and the platform. -/
structure Bridge where
  inbound : Inbound
  outbound : Outbound
  toTls : Pipe UInt8 bridgeBytes
  fromTls : Pipe UInt8 bridgeBytes
  tlsOpen : Bool
  aborted : Bool
  failure : Option String
  failures : List String
  delivered : List NativeTransportRead
  sent : List Bytes

namespace Bridge

/-- `record_bridge_failure` -/
def recordBridgeFailure (self : Bridge) (error : String) : Bridge :=
  { self with failure := self.failure.or (some error), failures := self.failures ++ [error] }

/-- The platform end is dropped with the second of its halves. -/
def dropPlatformEnd (self : Bridge) : Bridge :=
  match self.inbound, self.outbound with
  | .stopped, .stopped => { self with toTls := self.toTls.close, fromTls := self.fromTls.close }
  | _, _ => self

def stopInbound (self : Bridge) : Bridge := dropPlatformEnd { self with inbound := .stopped }

def stopOutbound (self : Bridge) : Bridge := dropPlatformEnd { self with outbound := .stopped }

/-- The inbound task goes on with what `receive` returned. -/
def received (self : Bridge) : Except CoreError NativeTransportRead → Bridge
  | .error error => (self.recordBridgeFailure error.toText).stopInbound
  | .ok read =>
    let self := { self with delivered := self.delivered ++ [read] }
    if read.bytes.length > ioChunkBytes then
      (self.recordBridgeFailure
        (CoreError.toText (.transport "platform transport exceeded its read bound"))).stopInbound
    else if read.bytes = [] ∧ read.endOfStream = false then
      (self.recordBridgeFailure
        (CoreError.toText
          (.transport "platform transport returned an empty non-EOF read"))).stopInbound
    else { self with inbound := .writing read.bytes read.endOfStream }

/-- One turn of `write_all`, and what follows once everything is written; nothing while TLS is
behind. -/
def writes (self : Bridge) : Bytes → Bool → Option Bridge
  | [], true => some (stopInbound { self with toTls := self.toTls.close })
  | [], false => some { self with inbound := .receiving }
  | rest, endOfStream =>
    match self.toTls.pollWrite rest with
    | .pending => none
    | .ready none => some (self.recordBridgeFailure "broken pipe").stopInbound
    | .ready (some (count, toTls)) =>
      some { self with toTls, inbound := .writing (rest.drop count) endOfStream }

/-- The outbound task reads; nothing while TLS has not written. -/
def reads (self : Bridge) : Option Bridge :=
  match self.fromTls.pollRead ioChunkBytes with
  | .pending => none
  | .ready ([], fromTls) => some (stopOutbound { self with fromTls })
  | .ready (chunk, fromTls) =>
    some { self with fromTls, outbound := .sending chunk, sent := self.sent ++ [chunk] }

/-- The outbound task goes on with what `send` returned. -/
def sends (self : Bridge) : Except CoreError Unit → Bridge
  | .ok () => { self with outbound := .reading }
  | .error error => (self.recordBridgeFailure error.toText).stopOutbound

/-- What happens to a bridge by itself: its tasks go on, TLS uses its end, or an aborted task is
gone. -/
inductive Event where
  | received (result : Except CoreError NativeTransportRead)
  | inboundWrites
  | outboundReads
  | sends (result : Except CoreError Unit)
  | tlsReads (limit : Nat)
  | tlsWrites (bytes : Bytes)
  | tlsShutsDown
  | inboundGone
  | outboundGone

def step (self : Bridge) : Event → Option Bridge
  | .received result =>
    match self.inbound with
    | .receiving => some (self.received result)
    | _ => none
  | .inboundWrites =>
    match self.inbound with
    | .writing rest endOfStream => self.writes rest endOfStream
    | _ => none
  | .outboundReads =>
    match self.outbound with
    | .reading => self.reads
    | _ => none
  | .sends result =>
    match self.outbound with
    | .sending _ => some (self.sends result)
    | _ => none
  | .tlsReads limit =>
    if self.tlsOpen then
      match self.toTls.pollRead limit with
      | .pending => none
      | .ready (_, toTls) => some { self with toTls }
    else none
  | .tlsWrites bytes =>
    if self.tlsOpen then
      match self.fromTls.pollWrite bytes with
      | .pending => none
      | .ready none => some self
      | .ready (some (_, fromTls)) => some { self with fromTls }
    else none
  | .tlsShutsDown => if self.tlsOpen then some { self with fromTls := self.fromTls.close } else none
  | .inboundGone => if self.aborted then some self.stopInbound else none
  | .outboundGone => if self.aborted then some self.stopOutbound else none

/-- `bridge_transport` -/
def start : Bridge where
  inbound := .receiving
  outbound := .reading
  toTls := .empty
  fromTls := .empty
  tlsOpen := true
  aborted := false
  failure := none
  failures := []
  delivered := []
  sent := []

/-- Whoever had the TLS end drops it. -/
def dropTls (self : Bridge) : Bridge :=
  { self with tlsOpen := false, toTls := self.toTls.close, fromTls := self.fromTls.close }

def abort (self : Bridge) : Bridge := { self with aborted := true }

end Bridge

/-! ## The connection -/

inductive CloseCall where
  | closeTransport
  | awaitPeerClose

/-- How far a call on the connection has come. -/
inductive Call where
  | none
  | shuttingDown (call : CloseCall)
  | readingPeer
  | closing (call : CloseCall) (shutdown : Except CoreError Unit)

/-- `connect` until it returns, then the connection; `holding` says that it still has the bridge,
and `cause` is why the handshake failed where `error` is what `connect` returns. -/
inductive Phase where
  | connecting
  | failing (error : CoreError)
  | refusing (cause error : CoreError)
  | refused (cause error : CoreError)
  | timedOut (error : CoreError)
  | abandoned
  | connected (holding : Bool) (call : Call)
  | dropped (holding : Bool)

/-- `closes` counts the calls of the platform's close, `returned` what the calls of the connection
returned. -/
structure Endpoint where
  bridge : Bridge
  phase : Phase
  closes : Nat
  returned : List (CloseCall × Except CoreError Unit)

namespace Endpoint

def start : Endpoint where
  bridge := .start
  phase := .connecting
  closes := 0
  returned := []

/-- `NativeTransportBridge::close` up to its wait for the platform. -/
def closeBridge (self : Endpoint) (phase : Phase) : Endpoint :=
  { self with bridge := self.bridge.abort, phase, closes := self.closes + 1 }

/-- What `NativeTransportBridge::close` returns; `none` is the time limit. -/
def bridgeResult : Option (Except CoreError Unit) → Except CoreError Unit
  | none => .error (.transport "native platform close timed out")
  | some result => result

/-- `map_io_error`; the failure of the bridge is only known while it is held. -/
def mapIoError (self : Endpoint) (holding : Bool) (error : String) : CoreError :=
  match holding, self.bridge.failure with
  | true, some failure => .transport failure
  | _, _ => .transport error

/-- What `close_transport` keeps of the shutdown; `none` is the time limit. -/
def shutdownResult (self : Endpoint) (holding : Bool) : Option (Except String Unit) →
    Except CoreError Unit
  | none => .error (.transport "native TLS shutdown timed out")
  | some (.error error) => .error (self.mapIoError holding error)
  | some (.ok ()) => .ok ()

/-- `Result::and` -/
def both : Except CoreError Unit → Except CoreError Unit → Except CoreError Unit
  | .ok (), second => second
  | .error error, _ => .error error

/-- What a call returns once the bridge was taken and, if it was there, closed. -/
def resultOf (shutdown bridge : Except CoreError Unit) : CloseCall → Except CoreError Unit
  | .closeTransport => both shutdown bridge
  | .awaitPeerClose => .ok ()

/-- Takes the bridge and closes it if it is there. -/
def takeBridge (self : Endpoint) (holding : Bool) (call : CloseCall)
    (shutdown : Except CoreError Unit) : Endpoint :=
  if holding then self.closeBridge (.connected false (.closing call shutdown))
  else { self with phase := .connected false .none
                   returned := self.returned ++ [(call, resultOf shutdown (.ok ()) call)] }

inductive Event where
  | bridge (event : Bridge.Event)
  | handshake (result : Except CoreError Unit)
  | handshakeTimesOut
  | cancelled
  | closesBridge
  | platformCloses (outcome : Option (Except CoreError Unit))
  | called (call : CloseCall)
  | shutdownEnds (outcome : Option (Except String Unit))
  | peerReadEnds
  | callDropped
  | connectDropped
  | connectionDropped

def step (self : Endpoint) : Event → Option Endpoint
  | .bridge event => (self.bridge.step event).map fun bridge => { self with bridge }
  | .handshake result =>
    match self.phase, result with
    | .connecting, .ok () => some { self with phase := .connected true .none }
    | .connecting, .error error =>
      some { self with bridge := self.bridge.dropTls, phase := .failing error }
    | _, _ => none
  | .handshakeTimesOut =>
    match self.phase with
    -- the question mark returns from `connect`, past the close of the bridge
    | .connecting => some { self with bridge := self.bridge.dropTls
                                      phase :=
                                        .timedOut (.transport "native TLS handshake timed out") }
    | _ => none
  | .cancelled =>
    match self.phase with
    | .connecting => some { self with bridge := self.bridge.dropTls, phase := .failing .cancelled }
    | _ => none
  | .closesBridge =>
    match self.phase with
    | .failing cause =>
      some (self.closeBridge (.refusing cause ((self.bridge.failure.map .transport).getD cause)))
    | _ => none
  | .platformCloses outcome =>
    match self.phase with
    | .refusing cause error => some { self with phase := .refused cause error }
    | .connected holding (.closing call shutdown) =>
      some { self with phase := .connected holding .none
                       returned :=
                         self.returned ++ [(call, resultOf shutdown (bridgeResult outcome) call)] }
    | _ => none
  | .called call =>
    match self.phase with
    | .connected holding .none =>
      some { self with phase := .connected holding (.shuttingDown call) }
    | _ => none
  | .shutdownEnds outcome =>
    match self.phase with
    | .connected holding (.shuttingDown .closeTransport) =>
      some (self.takeBridge holding .closeTransport (self.shutdownResult holding outcome))
    | .connected holding (.shuttingDown .awaitPeerClose) =>
      some { self with phase := .connected holding .readingPeer }
    | _ => none
  | .peerReadEnds =>
    match self.phase with
    | .connected holding .readingPeer => some (self.takeBridge holding .awaitPeerClose (.ok ()))
    | _ => none
  | .callDropped =>
    match self.phase with
    | .connected holding _ => some { self with phase := .connected holding .none }
    | _ => none
  | .connectDropped =>
    match self.phase with
    | .connecting | .failing _ | .refusing _ _ =>
      some { self with bridge := self.bridge.dropTls, phase := .abandoned }
    | _ => none
  | .connectionDropped =>
    match self.phase with
    | .connected holding _ =>
      some { self with bridge := self.bridge.dropTls, phase := .dropped holding }
    | _ => none

end Endpoint

end Envoix.Session.NativeTransport
