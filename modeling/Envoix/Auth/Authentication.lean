import Envoix.Foundation.IdealCrypto
import Envoix.Invite.Binding
import Envoix.Room.Invite

/-! # Authentication of a data connection

`envoix-auth/src/lib.rs`: a password-authenticated key exchange over the connection that it
authenticates, confirmed by both sides, with the optional negotiation of a secret to remember the
peer by.  Each function is cut where it waits for a frame. -/

namespace Envoix.Auth

open ByteCodec Fallible IdealCrypto Pake Hmac Sha256
open Envoix.Invite (Commitment SecretString InvitationAuthContext startsWith)
open Envoix.Rendezvous (TransferRole)
open Envoix.Room (CoreError)

def protocolVersion : UInt32 := 1
def minSharedTokenLen : Nat := 12
def nonceLen : Nat := 32

abbrev Nonce := ByteVector nonceLen

def Nonce.buffer (nonce : Nonce) : Buffer := .ofVector nonce (by decide)

def spake2Domain : Buffer := .ofText "envoix-auth-spake2-v1" (by decide)
def inviteV2Spake2Domain : Buffer := .ofText "envoix-auth-invite-v2" (by decide)
def rememberedV1Spake2Domain : Buffer := .ofText "envoix-auth-remembered-v1" (by decide)
def senderIdentity : Buffer := .ofText "envoix sender" (by decide)
def receiverIdentity : Buffer := .ofText "envoix receiver" (by decide)
def exporterContext : Buffer := .ofText "pairing" (by decide)
def senderConfirmLabel : Buffer := .ofText "sender-confirm" (by decide)
def receiverConfirmLabel : Buffer := .ofText "receiver-confirm" (by decide)
def rememberCombineDomain : Bytes := asBytes "envoix invite v2 remember combine"

/-! ## Configurations -/

/-- The strings are in memory together. -/
structure RememberedAuthContext where
  generation : UInt64
  roomId : String
  broker : String
  controlTranscriptHash : Commitment
  fits : (asBytes roomId).length + (asBytes broker).length < 2 ^ 63
deriving DecidableEq

theorem RememberedAuthContext.fits_roomId (self : RememberedAuthContext) :
    (asBytes self.roomId).length < 2 ^ 64 := by
  have fits := self.fits
  omega

theorem RememberedAuthContext.fits_broker (self : RememberedAuthContext) :
    (asBytes self.broker).length < 2 ^ 64 := by
  have fits := self.fits
  omega

def rememberedPeerV1 : Buffer := .ofText "remembered-peer-v1" (by decide)
def receiverResponder : Buffer := .ofText "receiver-responder" (by decide)
def senderInitiator : Buffer := .ofText "sender-initiator" (by decide)

def RememberedAuthContext.framedBytes (self : RememberedAuthContext) : Bytes :=
  framed [rememberedPeerV1] ++ u64Be self.generation ++
    framed [.ofText self.roomId self.fits_roomId, .ofText self.broker self.fits_broker,
      receiverResponder, senderInitiator, self.controlTranscriptHash.buffer]

theorem RememberedAuthContext.fits_framedBytes (self : RememberedAuthContext) :
    self.framedBytes.length < 2 ^ 64 := by
  have fits := self.fits
  have start : rememberedPeerV1.bytes.length = 18 := by decide
  have responder : receiverResponder.bytes.length = 18 := by decide
  have initiator : senderInitiator.bytes.length = 16 := by decide
  have hash : self.controlTranscriptHash.buffer.bytes.length = 32 :=
    self.controlTranscriptHash.length_toList
  simp only [framedBytes, List.length_append, length_framed, length_u64Be, List.map_cons,
    List.map_nil, List.sum_cons, List.sum_nil, start, responder, initiator, hash]
  simp only [Buffer.ofText]
  omega

def RememberedAuthContext.framedBinding (self : RememberedAuthContext) : Buffer :=
  ⟨self.framedBytes, self.fits_framedBytes⟩

inductive PairingConfig where
  | spake2SharedToken (token : String)
  | invitationV2 (password : SecretString) (context : InvitationAuthContext)
  | rememberedV1 (password : String) (context : RememberedAuthContext)
deriving DecidableEq

inductive AuthFrame [Pake] [Hmac] where
  | spake2Start (protocolVersion : UInt32) (role : TransferRole) (nonce message : Buffer)
      (rememberConsent : Bool)
  | spake2Message (nonce message : Buffer) (rememberConsent : Bool)
  | spake2Confirm (proof : Tag) (rememberContribution : Option Buffer)

/-- An error of the core, or one whose text shows the frame that was not expected. -/
inductive AuthError [Pake] [Hmac] where
  | core (error : CoreError)
  | unexpected (expected : String) (frame : AuthFrame)

def isValidSharedToken (token : String) : Bool :=
  token.toList.all (fun character => character.toNat < 128) &&
    minSharedTokenLen ≤ (asBytes token).length

namespace PairingConfig

def validate : PairingConfig → Except CoreError Unit
  | .spake2SharedToken token =>
    reject (¬ isValidSharedToken token)
      (.invalidInput ("SPAKE2 shared token must be at least " ++ toString minSharedTokenLen ++
        " ASCII bytes"))
  | .invitationV2 password context =>
    reject (¬ (isValidSharedToken password ∧
      context.creatorTransferRole.complement = context.joinerTransferRole))
      (.invalidInput "invalid InviteV2 authentication context")
  | .rememberedV1 password context =>
    reject (¬ (isValidSharedToken password ∧ startsWith "r1_" context.roomId ∧ context.broker ≠ ""))
      (.invalidInput "invalid remembered-device authentication context")

def validateDataRole (config : PairingConfig) (localRole : TransferRole) : Except CoreError Unit :=
  match config with
  | .invitationV2 _ context =>
    reject (context.creatorTransferRole ≠ localRole ∧ context.joinerTransferRole ≠ localRole)
      (.invalidInput "InviteV2 authentication role conflict")
  | _ => .ok ()

def isInvitationV2 : PairingConfig → Bool
  | .invitationV2 _ _ => true
  | _ => false

end PairingConfig

structure AuthProfile where
  password : String
  domain : Buffer
  exporterContext : Buffer
  invitationBinding : Buffer
deriving DecidableEq

def authProfile : PairingConfig → AuthProfile
  | .spake2SharedToken token =>
    { password := token, domain := spake2Domain, exporterContext, invitationBinding := .empty }
  | .invitationV2 password context =>
    { password, domain := inviteV2Spake2Domain, exporterContext := context.framedBinding,
      invitationBinding := context.framedBinding }
  | .rememberedV1 password context =>
    { password, domain := rememberedV1Spake2Domain, exporterContext := context.framedBinding,
      invitationBinding := context.framedBinding }

def AuthProfile.pakeInput (self : AuthProfile) : PakeInput :=
  { password := asBytes self.password, idA := senderIdentity.bytes, idB := receiverIdentity.bytes }

/-! ## Confirmation -/

structure ConfirmationTranscript where
  senderNonce : Buffer
  receiverNonce : Buffer
  senderMessage : Buffer
  receiverMessage : Buffer
  exporter : Buffer
  domain : Buffer
  invitationBinding : Buffer
  senderRememberConsent : Bool
  receiverRememberConsent : Bool
deriving DecidableEq

def consentByte (consent : Bool) : UInt8 := if consent then 1 else 0

def contributionBytes (value : Option Nonce) : Buffer := (value.map Nonce.buffer).getD .empty

/-- What is authenticated, from `update_confirmation_mac` and `update_optional_contribution`. -/
def confirmationText (transcript : ConfirmationTranscript) (proofLabel : Buffer)
    (senderContribution receiverContribution : Option Nonce) : Bytes :=
  framed [transcript.domain] ++ u32Be protocolVersion ++
    framed [senderIdentity, receiverIdentity, transcript.senderNonce, transcript.receiverNonce,
      transcript.senderMessage, transcript.receiverMessage, transcript.exporter,
      transcript.invitationBinding] ++
    [consentByte transcript.senderRememberConsent,
      consentByte transcript.receiverRememberConsent] ++
    framed [proofLabel, contributionBytes senderContribution,
      contributionBytes receiverContribution]

def validateRememberContribution (expected : Bool) (value : Option Buffer) :
    Except CoreError (Option Nonce) :=
  let invalid := CoreError.protocol "invalid Remember contribution in authentication confirmation"
  match expected, value with
  | false, none => .ok none
  | true, some value =>
    if length : value.bytes.length = nonceLen then .ok (some ⟨value.bytes, length⟩)
    else .error invalid
  | _, _ => .error invalid

def validateNonce (nonce : Buffer) : Except CoreError Unit :=
  reject (nonce.bytes.length ≠ nonceLen)
    (.protocol ("SPAKE2 nonce must be " ++ toString nonceLen ++ " bytes"))

structure AuthenticationOutcome where
  rememberSecret : Option (ByteVector 32)
deriving DecidableEq

def combineRemember [Sha256] (mutualRemember : Bool) (sender receiver : Option Nonce)
    (invitationBinding : Buffer) :
    Option (ByteVector 32) :=
  if mutualRemember then do
    let sender ← sender
    let receiver ← receiver
    return sha256 (rememberCombineDomain ++ sender.toList ++ receiver.toList ++
      invitationBinding.bytes)
  else none

section

variable [Pake] [Hmac]

def confirmationProof (sharedKey : Key) (transcript : ConfirmationTranscript) (proofLabel : Buffer)
    (senderContribution receiverContribution : Option Nonce) : Tag :=
  hmac sharedKey (confirmationText transcript proofLabel senderContribution receiverContribution)

def verifyConfirmation (sharedKey : Key) (transcript : ConfirmationTranscript) (proofLabel : Buffer)
    (receivedProof : Tag) (senderContribution receiverContribution : Option Nonce) :
    Except CoreError Unit :=
  reject (receivedProof ≠
    confirmationProof sharedKey transcript proofLabel senderContribution receiverContribution)
    (.crypto "SPAKE2 confirmation proof mismatch")

/-- The system may have no randomness. -/
def randomNonce (random : Except String Nonce) : Except CoreError Nonce := mapErr .crypto random

def core {α : Type} (result : Except CoreError α) : Except AuthError α := mapErr .core result

/-! ## The sender -/

/-- `authenticate_sender_with_remember` after its start was sent. -/
structure SenderOpened where
  config : PairingConfig
  consent : Bool
  exporter : ByteVector 32
  nonce : Nonce
  scalar : Scalar

namespace SenderOpened

variable (self : SenderOpened)

def profile : AuthProfile := authProfile self.config

/-- Only an invitation can be remembered. -/
def rememberConsent : Bool := self.consent && self.config.isInvitationV2

def message : Buffer := Pake.message .a self.profile.pakeInput self.scalar

def start : AuthFrame :=
  .spake2Start protocolVersion .sender self.nonce.buffer self.message self.rememberConsent

end SenderOpened

/-- What the connection exports and the system draws is up to them. -/
def openSender (config : PairingConfig) (consent : Bool)
    (exported : Except CoreError (ByteVector 32)) (random : Except String Nonce) (scalar : Scalar) :
    Except AuthError SenderOpened := do
  core config.validate
  core (config.validateDataRole .sender)
  let exporter ← core exported
  let nonce ← core (randomNonce random)
  return { config, consent, exporter, nonce, scalar }

/-- `authenticate_sender_with_remember` after its confirmation was sent. -/
structure SenderConfirming (opened : SenderOpened) where
  receiverNonce : Buffer
  receiverMessage : Buffer
  receiverConsent : Bool
  sharedKey : Key
  finished : finish .a opened.profile.pakeInput opened.scalar receiverMessage = .ok sharedKey
  contribution : Option Nonce
  contributes : contribution.isSome = (opened.rememberConsent && receiverConsent)

def SenderOpened.receive (self : SenderOpened) (frame : AuthFrame) (random : Except String Nonce) :
    Except AuthError (SenderConfirming self) :=
  match frame with
  | .spake2Message nonce message consent => do
    core (validateNonce nonce)
    match finished : finish .a self.profile.pakeInput self.scalar message with
    | .error error => .error (.core (.crypto ("SPAKE2 failed: " ++ error)))
    | .ok sharedKey =>
      if mutualRemember : self.rememberConsent && consent then do
        let contribution ← core (randomNonce random)
        return {
          receiverNonce := nonce, receiverMessage := message, receiverConsent := consent,
          sharedKey, finished
          contribution := some contribution, contributes := mutualRemember.symm }
      else
        return {
          receiverNonce := nonce, receiverMessage := message, receiverConsent := consent,
          sharedKey, finished
          contribution := none, contributes := (Bool.eq_false_iff.mpr mutualRemember).symm }
  | frame => .error (.unexpected "expected SPAKE2 message, got " frame)

namespace SenderConfirming

variable {opened : SenderOpened} (self : SenderConfirming opened)

def transcript : ConfirmationTranscript where
  senderNonce := opened.nonce.buffer
  receiverNonce := self.receiverNonce
  senderMessage := opened.message
  receiverMessage := self.receiverMessage
  exporter := .ofVector opened.exporter Buffer.fits_32
  domain := opened.profile.domain
  invitationBinding := opened.profile.invitationBinding
  senderRememberConsent := opened.rememberConsent
  receiverRememberConsent := self.receiverConsent

def mutualRemember : Bool := opened.rememberConsent && self.receiverConsent

def proof : Tag :=
  confirmationProof self.sharedKey self.transcript senderConfirmLabel self.contribution none

def confirm : AuthFrame := .spake2Confirm self.proof (self.contribution.map Nonce.buffer)

def outcome [Sha256] (receiverContribution : Option Nonce) : AuthenticationOutcome where
  rememberSecret := combineRemember self.mutualRemember self.contribution receiverContribution
    opened.profile.invitationBinding

def receive [Sha256] (frame : AuthFrame) : Except AuthError AuthenticationOutcome :=
  match frame with
  | .spake2Confirm proof contribution => do
    let receiverContribution ← core (validateRememberContribution self.mutualRemember contribution)
    core (verifyConfirmation self.sharedKey self.transcript receiverConfirmLabel proof
      self.contribution
      receiverContribution)
    return self.outcome receiverContribution
  | frame => .error (.unexpected "expected SPAKE2 confirmation, got " frame)

end SenderConfirming

/-! ## The receiver -/

/-- `authenticate_receiver_with_remember` before the start has arrived. -/
structure ReceiverOpened where
  config : PairingConfig
  consent : Bool
  exporter : ByteVector 32

def ReceiverOpened.profile (self : ReceiverOpened) : AuthProfile := authProfile self.config

def ReceiverOpened.rememberConsent (self : ReceiverOpened) : Bool :=
  self.consent && self.config.isInvitationV2

def openReceiver (config : PairingConfig) (consent : Bool)
    (exported : Except CoreError (ByteVector 32)) :
    Except AuthError ReceiverOpened := do
  core config.validate
  core (config.validateDataRole .receiver)
  let exporter ← core exported
  return { config, consent, exporter }

/-- `authenticate_receiver_with_remember` after its message was sent. -/
structure ReceiverResponding (opened : ReceiverOpened) where
  senderNonce : Buffer
  senderMessage : Buffer
  senderConsent : Bool
  nonce : Nonce
  scalar : Scalar
  sharedKey : Key
  finished : finish .b opened.profile.pakeInput scalar senderMessage = .ok sharedKey

def validateStart (version : UInt32) (role : TransferRole) (nonce : Buffer) :
    Except CoreError Unit := do
  reject (version ≠ protocolVersion)
    (.protocol ("unsupported auth protocol version " ++ toString version.toNat))
  reject (role ≠ .sender) (.protocol "expected sender SPAKE2 role, got Receiver")
  validateNonce nonce

/-- The answer is sent before the exchange is finished. -/
def ReceiverOpened.receive (self : ReceiverOpened) (frame : AuthFrame)
    (random : Except String Nonce) (scalar : Scalar) :
    Except AuthError (AuthFrame × Except AuthError (ReceiverResponding self)) :=
  match frame with
  | .spake2Start version role senderNonce senderMessage senderConsent => do
    core (validateStart version role senderNonce)
    let nonce ← core (randomNonce random)
    let answer :=
      AuthFrame.spake2Message nonce.buffer (Pake.message .b self.profile.pakeInput scalar)
        self.rememberConsent
    return (answer, match finished : finish .b self.profile.pakeInput scalar senderMessage with
      | .error error => .error (.core (.crypto ("SPAKE2 failed: " ++ error)))
      | .ok sharedKey =>
        .ok { senderNonce, senderMessage, senderConsent, nonce, scalar, sharedKey, finished })
  | frame => .error (.unexpected "expected SPAKE2 start, got " frame)

namespace ReceiverResponding

variable {opened : ReceiverOpened} (self : ReceiverResponding opened)

def transcript : ConfirmationTranscript where
  senderNonce := self.senderNonce
  receiverNonce := self.nonce.buffer
  senderMessage := self.senderMessage
  receiverMessage := Pake.message .b opened.profile.pakeInput self.scalar
  exporter := .ofVector opened.exporter Buffer.fits_32
  domain := opened.profile.domain
  invitationBinding := opened.profile.invitationBinding
  senderRememberConsent := self.senderConsent
  receiverRememberConsent := opened.rememberConsent

def mutualRemember : Bool := self.senderConsent && opened.rememberConsent

end ReceiverResponding

/-- `authenticate_receiver_with_remember` once it sends its confirmation. -/
structure ReceiverConfirmed (opened : ReceiverOpened) where
  responding : ReceiverResponding opened
  verified : Tag
  senderContribution : Option Nonce
  receiverContribution : Option Nonce
  verifies :
    verifyConfirmation responding.sharedKey responding.transcript senderConfirmLabel verified
      senderContribution
    none = .ok ()

namespace ReceiverConfirmed

variable {opened : ReceiverOpened} (self : ReceiverConfirmed opened)

def proof : Tag :=
  confirmationProof self.responding.sharedKey self.responding.transcript receiverConfirmLabel
    self.senderContribution
    self.receiverContribution

def confirm : AuthFrame := .spake2Confirm self.proof (self.receiverContribution.map Nonce.buffer)

def outcome [Sha256] : AuthenticationOutcome where
  rememberSecret :=
    combineRemember self.responding.mutualRemember self.senderContribution self.receiverContribution
    opened.profile.invitationBinding

end ReceiverConfirmed

def ReceiverResponding.receive {opened : ReceiverOpened} (self : ReceiverResponding opened)
    (frame : AuthFrame) (random : Except String Nonce) :
    Except AuthError (ReceiverConfirmed opened) :=
  match frame with
  | .spake2Confirm proof contribution => do
    let senderContribution ← core (validateRememberContribution self.mutualRemember contribution)
    match verifies :
        verifyConfirmation self.sharedKey self.transcript senderConfirmLabel proof
            senderContribution none with
    | .error error => .error (.core error)
    | .ok () => do
      let receiverContribution ← core (if self.mutualRemember then some <$> randomNonce random
        else .ok none)
      return { responding := self, verified := proof, senderContribution,
               receiverContribution, verifies }
  | frame => .error (.unexpected "expected SPAKE2 confirmation, got " frame)

end

end Envoix.Auth
