import Envoix.Foundation.IdealCrypto
import Envoix.Invite.Binding

/-! # The control channel through a broker

`envoix-pairing` and `envoix-rendezvous-iroh`: a password-authenticated key exchange in the roles
that the broker has announced, its confirmation, and then one sealed context and one sealed
descriptor in each direction.  Each function is cut where it waits for a frame. -/

namespace Envoix.Pairing

open ByteCodec Fallible IdealCrypto Pake Hmac Sha256 Aead
open Envoix.Invite (Commitment ControlContext)
open Envoix.Rendezvous (BootstrapKind)

def domain : Buffer := .ofText "envoix-invite-control-spake2-v2" (by decide)
def initiatorId : Buffer := .ofText "envoix invitation joiner" (by decide)
def responderId : Buffer := .ofText "envoix invitation creator" (by decide)
def initiatorConfirmLabel : Buffer := .ofText "joiner-confirm" (by decide)
def responderConfirmLabel : Buffer := .ofText "creator-confirm" (by decide)
def nonceLen : Nat := 32

def joinerContextAad : Bytes := asBytes "envoix-invite control context joiner v2"
def creatorContextAad : Bytes := asBytes "envoix-invite control context creator v2"
def joinerDescriptorAad : Bytes := asBytes "envoix-invite endpoint descriptor joiner v2"
def creatorDescriptorAad : Bytes := asBytes "envoix-invite endpoint descriptor creator v2"

abbrev Nonce := ByteVector nonceLen

inductive PairingError where
  | entropy
  | malformed
  | decrypt
  | badJson (text : String)
  | spake2 (text : String)
  | confirm
  | badMessage (text : String)
deriving DecidableEq

/-- What the broker announces. -/
inductive Role where
  | initiator
  | responder
deriving DecidableEq

namespace Role

def peer : Role → Role
  | .initiator => .responder
  | .responder => .initiator

def side : Role → PakeSide
  | .initiator => .a
  | .responder => .b

def confirmLabel : Role → Buffer
  | .initiator => initiatorConfirmLabel
  | .responder => responderConfirmLabel

def contextAad : Role → Bytes
  | .initiator => joinerContextAad
  | .responder => creatorContextAad

def descriptorAad : Role → Bytes
  | .initiator => joinerDescriptorAad
  | .responder => creatorDescriptorAad

@[simp] theorem peer_peer (role : Role) : role.peer.peer = role := by cases role <;> rfl

end Role

/-! ## The handshake -/

/-- `PakeStart` and `PakeResponse` have the same fields. -/
structure PakeMessage where
  nonce : Buffer
  msg : Buffer
deriving DecidableEq

abbrev PakeStart := PakeMessage

abbrev PakeResponse := PakeMessage

def pakeInput (password : String) : PakeInput :=
  { password := asBytes password, idA := initiatorId.bytes, idB := responderId.bytes }

def transcript (context : ControlContext) (initiator : PakeStart) (responder : PakeResponse) :
    Bytes :=
  framed [domain, initiatorId, responderId, context.binding, initiator.nonce, responder.nonce,
    initiator.msg, responder.msg]

section

variable [Pake] [Hmac]

def proof (key : Key) (transcript : Bytes) (label : Buffer) : Tag :=
  hmac key (transcript ++ lenPrefixed label)

def verify (key : Key) (transcript : Bytes) (label : Buffer) (received : Tag) :
    Except PairingError Unit :=
  reject (received ≠ proof key transcript label) .confirm

end

section

variable [Pake]

structure InitiatorPending where
  password : String
  context : ControlContext
  nonce : Nonce
  scalar : Scalar

def InitiatorPending.start (self : InitiatorPending) : PakeStart where
  nonce := .ofVector self.nonce (by decide)
  msg := message .a (pakeInput self.password) self.scalar

/-- What the system draws is up to it. -/
def initiatorStart (password : String) (context : ControlContext) (random : Option Nonce)
    (scalar : Scalar) :
    Except PairingError InitiatorPending := do
  let nonce ← okOr random .entropy
  return { password, context, nonce, scalar }

/-- `InitiatorConfirming` and `ResponderConfirming`: one side that knows the key. -/
structure Confirming where
  role : Role
  password : String
  context : ControlContext
  nonce : Nonce
  scalar : Scalar
  peer : PakeMessage
  key : Key
  finished : finish role.side (pakeInput password) scalar peer.msg = .ok key

namespace Confirming

variable (self : Confirming)

def own : PakeMessage where
  nonce := .ofVector self.nonce (by decide)
  msg := message self.role.side (pakeInput self.password) self.scalar

def transcript : Bytes :=
  match self.role with
  | .initiator => Pairing.transcript self.context self.own self.peer
  | .responder => Pairing.transcript self.context self.peer self.own

def proof [Hmac] : Tag := Pairing.proof self.key self.transcript self.role.confirmLabel

end Confirming

def InitiatorPending.finish (self : InitiatorPending) (response : PakeResponse) :
    Except PairingError Confirming := do
  reject (response.nonce.bytes.length ≠ nonceLen) (.badMessage "creator nonce length")
  match finished : Pake.finish .a (pakeInput self.password) self.scalar response.msg with
  | .error error => .error (.spake2 error)
  | .ok key =>
    return {
      role := .initiator, password := self.password, context := self.context,
      nonce := self.nonce
      scalar := self.scalar, peer := response, key, finished }

def responderRespond (password : String) (context : ControlContext) (start : PakeStart)
    (random : Option Nonce) (scalar : Scalar) : Except PairingError Confirming := do
  reject (start.nonce.bytes.length ≠ nonceLen) (.badMessage "joiner nonce length")
  let nonce ← okOr random .entropy
  match finished : Pake.finish .b (pakeInput password) scalar start.msg with
  | .error error => .error (.spake2 error)
  | .ok key =>
    return { role := .responder, password, context, nonce, scalar, peer := start, key, finished }

/-- A side that has verified the confirmation of the other. -/
structure Paired [Hmac] extends Confirming where
  verified : Tag
  verifies : verify key toConfirming.transcript role.peer.confirmLabel verified = .ok ()

def Confirming.verify [Hmac] (self : Confirming) (confirm : Tag) : Except PairingError Paired :=
  match verifies : Pairing.verify self.key self.transcript self.role.peer.confirmLabel confirm with
  | .error error => .error error
  | .ok () => .ok { self with verified := confirm, verifies }

def Paired.transcriptHash [Hmac] [Sha256] (self : Paired) : Commitment := sha256 self.transcript

end

/-! ## Sealed bundles -/

def bundleKeyContext : String := "envoix-pairing bundle key v1"

section

variable [Pake] [Aead]

def bundleKey (key : Key) : AeadKey := deriveKey bundleKeyContext key

/-- `seal`: the nonce and what was encrypted under it. -/
def sealBytes (key : Key) (aad plaintext : Bytes) (random : Option (ByteVector 12)) :
    Except PairingError Buffer := do
  let nonce ← okOr random .entropy
  match encrypted : encrypt (bundleKey key) nonce aad plaintext with
  | none => .error .decrypt
  | some ciphertext =>
    return ⟨nonce.toList ++ ciphertext, by
      have small := Aead.fits encrypted
      rw [List.length_append, nonce.length_toList]
      omega⟩

/-- `open` of a bundle. -/
def openBytes (key : Key) (aad : Bytes) (sealedBytes : Buffer) : Except PairingError Bytes :=
  if long : 12 ≤ sealedBytes.bytes.length then
    okOr (decrypt (bundleKey key) ⟨sealedBytes.bytes.take 12, by rw [List.length_take]; omega⟩ aad
      (sealedBytes.bytes.drop 12)) .decrypt
  else .error .malformed

end

/-- What `serde_json` writes of a value it reads back. -/
class Serde (α : Type) where
  toVec : α → Except String Bytes
  fromSlice : Bytes → Except String α
  reads : ∀ {value bytes}, toVec value = .ok bytes → fromSlice bytes = .ok value

structure ContextBundle where
  publicContext : Option Bytes
deriving DecidableEq

structure DescriptorBundle (T : Type) where
  peer : Option T
deriving DecidableEq

section

variable [Pake] [Aead] {α : Type} [Serde α]

def sealJson (key : Key) (aad : Bytes) (value : α) (random : Option (ByteVector 12)) :
    Except PairingError Buffer := do
  let json ← mapErr .badJson (Serde.toVec value)
  sealBytes key aad json random

def openJson (key : Key) (aad : Bytes) (sealedBytes : Buffer) : Except PairingError α := do
  let json ← openBytes key aad sealedBytes
  mapErr .badJson (Serde.fromSlice json)

end

/-! ## Contexts and descriptors -/

def completeControlTranscript (pakeTranscriptHash : Commitment) (role : Role)
    (myContext peerContext myDescriptor peerDescriptor : Buffer) : Bytes :=
  match role with
  | .initiator =>
    framed [pakeTranscriptHash.buffer, peerContext, myContext, peerDescriptor, myDescriptor]
  | .responder =>
    framed [pakeTranscriptHash.buffer, myContext, peerContext, myDescriptor, peerDescriptor]

section

variable [Pake] [Hmac] [Aead] [Serde ContextBundle]

/-- `authenticate_invitation` once its context was sent. -/
structure ContextSent extends Paired where
  publicContext : Option Bytes
  random : Option (ByteVector 12)
  contextSealed : Buffer
  seals : sealJson key role.contextAad (ContextBundle.mk publicContext) random = .ok contextSealed

def Paired.sealContext (self : Paired) (publicContext : Option Bytes)
    (random : Option (ByteVector 12)) :
    Except PairingError ContextSent :=
  match seals : sealJson self.key self.role.contextAad (ContextBundle.mk publicContext) random with
  | .error error => .error error
  | .ok contextSealed => .ok { self with publicContext, random, contextSealed, seals }

/-- What `authenticate_invitation` returns. -/
structure AuthenticatedControl extends ContextSent where
  peerContextSealed : Buffer
  peerPublicContext : Option Bytes
  opens : openJson key role.peer.contextAad peerContextSealed =
    .ok (ContextBundle.mk peerPublicContext)

def ContextSent.receive (self : ContextSent) (peerSealed : Buffer) :
    Except PairingError AuthenticatedControl :=
  match opens : openJson (α := ContextBundle) self.key self.role.peer.contextAad peerSealed with
  | .error error => .error error
  | .ok ⟨peerPublicContext⟩ =>
    .ok { self with peerContextSealed := peerSealed, peerPublicContext, opens }

variable (T : Type) [Serde (DescriptorBundle T)]

/-- `exchange_descriptor` once its descriptor was sent. -/
structure DescriptorSent extends AuthenticatedControl where
  mine : Option T
  descriptorRandom : Option (ByteVector 12)
  descriptorSealed : Buffer
  sealsDescriptor : sealJson key role.descriptorAad (DescriptorBundle.mk mine) descriptorRandom =
    .ok descriptorSealed

/-- What `exchange_descriptor` returns, and what it has seen. -/
structure RoomPairing extends DescriptorSent T where
  peerDescriptorSealed : Buffer
  peerDescriptor : Option T
  opensDescriptor : openJson key role.peer.descriptorAad peerDescriptorSealed =
    .ok (DescriptorBundle.mk peerDescriptor)

variable {T}

def AuthenticatedControl.sealDescriptor (self : AuthenticatedControl) (mine : Option T)
    (random : Option (ByteVector 12)) :
    Except PairingError (DescriptorSent T) :=
  match seals : sealJson self.key self.role.descriptorAad (DescriptorBundle.mk mine) random with
  | .error error => .error error
  | .ok descriptorSealed =>
    .ok { self with mine, descriptorRandom := random, descriptorSealed, sealsDescriptor := seals }

def DescriptorSent.receive (self : DescriptorSent T) (peerSealed : Buffer) :
    Except PairingError (RoomPairing T) :=
  match opens :
      openJson (α := DescriptorBundle T) self.key self.role.peer.descriptorAad peerSealed with
  | .error error => .error error
  | .ok ⟨peer⟩ =>
    .ok { self with
      peerDescriptorSealed := peerSealed, peerDescriptor := peer, opensDescriptor := opens }

def RoomPairing.controlTranscriptHash [Sha256] (self : RoomPairing T) : Commitment :=
  sha256 (completeControlTranscript self.transcriptHash self.role self.contextSealed
    self.peerContextSealed
    self.descriptorSealed self.peerDescriptorSealed)

end

end Envoix.Pairing
