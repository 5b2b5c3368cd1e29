import Envoix.Auth.MutualAuthentication
import Envoix.Pairing.ControlAgreement

/-! # What is authenticated can be read back

Every text that goes under a code or into a commitment, of both planes and of the remembered
pairing: a text determines the fields that it was made from, and the data-plane methods share none.
Fields are framed by their lengths, except numbers and consents of fixed width, and an absent part
is framed as an empty one, which no present part is. -/

namespace Envoix.Auth

open ByteCodec
open Envoix.Invite (Commitment InvitationAuthContext ControlContext)
open Envoix.Pairing (PakeStart PakeResponse Role completeControlTranscript)

/-! ## The bindings -/

theorem commitmentBuffer_inj {left right : Commitment} (same : left.buffer = right.buffer) :
    left = right :=
  ByteVector.ext (congrArg Buffer.bytes same)

theorem commitmentBuffer_ne_empty (commitment : Commitment) : commitment.buffer ≠ .empty := by
  intro none
  have length : commitment.buffer.bytes.length = 32 := commitment.length_toList
  rw [none] at length
  cases length

theorem InvitationAuthContext.framedBinding_injective :
    Function.Injective InvitationAuthContext.framedBinding := by
  intro left right same
  have bytes : framed left.parts ++ [] = framed right.parts ++ [] :=
    congrArg (fun buffer => buffer.bytes ++ []) same
  obtain ⟨parts, -⟩ := framed_append_inj (by rfl) bytes
  simp only [InvitationAuthContext.parts, List.cons.injEq, and_true] at parts
  obtain ⟨invite, commitment, method, creator, joiner, hash⟩ := parts
  cases left with
  | mk leftInvite leftCommitment leftMethod leftCreator leftJoiner leftHash =>
    cases right with
    | mk rightInvite rightCommitment rightMethod rightCreator rightJoiner rightHash =>
      obtain rfl : leftInvite = rightInvite := Buffer.ofVector_inj invite
      obtain rfl : leftCommitment = rightCommitment := commitmentBuffer_inj commitment
      obtain rfl : leftMethod = rightMethod := ControlContext.methodBuffer_inj method
      obtain rfl : leftCreator = rightCreator := ControlContext.roleBuffer_inj creator
      obtain rfl : leftJoiner = rightJoiner := ControlContext.roleBuffer_inj joiner
      -- no transcript is framed as nothing, and a hash is never empty
      have hashes : leftHash = rightHash := by
        cases leftHash with
        | none =>
          cases rightHash with
          | none => rfl
          | some found => exact absurd hash.symm (commitmentBuffer_ne_empty found)
        | some found =>
          cases rightHash with
          | none => exact absurd hash (commitmentBuffer_ne_empty found)
          | some other => exact congrArg some (commitmentBuffer_inj hash)
      rw [hashes]

theorem RememberedAuthContext.framedBinding_injective :
    Function.Injective RememberedAuthContext.framedBinding := by
  intro left right same
  have bytes : left.framedBytes = right.framedBytes := congrArg Buffer.bytes same
  simp only [RememberedAuthContext.framedBytes, List.append_assoc] at bytes
  obtain ⟨-, rest⟩ := framed_append_inj (by rfl) bytes
  obtain ⟨generation, rest⟩ := List.append_inj rest (by rw [length_u64Be, length_u64Be])
  rw [← List.append_nil (framed [.ofText left.roomId _, _, _, _, _]),
    ← List.append_nil (framed [.ofText right.roomId _, _, _, _, _])] at rest
  obtain ⟨parts, -⟩ := framed_append_inj (by rfl) rest
  simp only [List.cons.injEq, and_true, true_and] at parts
  obtain ⟨room, broker, hash⟩ := parts
  cases left with
  | mk leftGeneration leftRoom leftBroker leftHash =>
    cases right with
    | mk rightGeneration rightRoom rightBroker rightHash =>
      obtain rfl : leftGeneration = rightGeneration := u64Be_injective generation
      obtain rfl : leftRoom = rightRoom := Buffer.ofText_inj room
      obtain rfl : leftBroker = rightBroker := Buffer.ofText_inj broker
      obtain rfl : leftHash = rightHash := commitmentBuffer_inj hash
      rfl

/-! ## The control plane -/

/-- What a proof of the control handshake is made over. -/
structure PairingProofInput where
  context : ControlContext
  initiator : PakeStart
  responder : PakeResponse
  label : Buffer

def PairingProofInput.bytes (self : PairingProofInput) : Bytes :=
  Pairing.transcript self.context self.initiator self.responder ++ lenPrefixed self.label

theorem PairingProofInput.bytes_injective : Function.Injective PairingProofInput.bytes := by
  intro left right same
  obtain ⟨context, initiator, responder, labels⟩ := Pairing.transcript_append_inj same
  obtain ⟨label, -⟩ := lenPrefixed_append_inj (congrArg (· ++ []) labels)
  cases left
  cases right
  simp only [PairingProofInput.mk.injEq]
  exact ⟨context, initiator, responder, label⟩

/-- The five parts that the hash of a control channel commits to. -/
structure ControlTranscript where
  pakeTranscriptHash : Commitment
  creatorContext : Buffer
  joinerContext : Buffer
  creatorDescriptor : Buffer
  joinerDescriptor : Buffer

/-- The preimage of `complete_control_transcript_hash`, as the peer in `role` computes it; the
initiator is the joiner. -/
def ControlTranscript.preimage (self : ControlTranscript) (role : Role) : Bytes :=
  match role with
  | .initiator =>
    completeControlTranscript self.pakeTranscriptHash .initiator self.joinerContext
      self.creatorContext
      self.joinerDescriptor self.creatorDescriptor
  | .responder =>
    completeControlTranscript self.pakeTranscriptHash .responder self.creatorContext
      self.joinerContext
      self.creatorDescriptor self.joinerDescriptor

/-- Whoever computes it, the preimage names the five parts. -/
theorem ControlTranscript.preimage_inj {left right : ControlTranscript} {role other : Role}
    (same : left.preimage role = right.preimage other) : left = right := by
  have ordered (self : ControlTranscript) (role : Role) :
      self.preimage role = framed [self.pakeTranscriptHash.buffer,
      self.creatorContext, self.joinerContext, self.creatorDescriptor, self.joinerDescriptor] := by
    cases role <;> rfl
  rw [ordered left, ordered right,
    ← List.append_nil (framed [left.pakeTranscriptHash.buffer, _, _, _, _]),
    ← List.append_nil (framed [right.pakeTranscriptHash.buffer, _, _, _, _])] at same
  obtain ⟨parts, -⟩ := framed_append_inj (by rfl) same
  simp only [List.cons.injEq, and_true] at parts
  obtain ⟨hash, creatorContext, joinerContext, creatorDescriptor, joinerDescriptor⟩ := parts
  cases left
  cases right
  simp only [ControlTranscript.mk.injEq]
  exact ⟨commitmentBuffer_inj hash, creatorContext, joinerContext, creatorDescriptor,
    joinerDescriptor⟩

/-! ## The data plane -/

/-- What a confirmation of the data plane is made over. -/
structure ConfirmationInput where
  transcript : ConfirmationTranscript
  proofLabel : Buffer
  senderContribution : Option Nonce
  receiverContribution : Option Nonce

def ConfirmationInput.bytes (self : ConfirmationInput) : Bytes :=
  confirmationText self.transcript self.proofLabel self.senderContribution self.receiverContribution

theorem ConfirmationInput.bytes_injective : Function.Injective ConfirmationInput.bytes := by
  intro left right same
  obtain ⟨transcript, label, sender, receiver⟩ := confirmationText_inj same
  cases left
  cases right
  simp only [ConfirmationInput.mk.injEq]
  exact ⟨transcript, label, sender, receiver⟩

/-- The ways to authenticate a data connection. -/
inductive DataPlane where
  | sharedToken
  | inviteV2
  | remembered
deriving DecidableEq

def PairingConfig.plane : PairingConfig → DataPlane
  | .spake2SharedToken _ => .sharedToken
  | .invitationV2 _ _ => .inviteV2
  | .rememberedV1 _ _ => .remembered

def DataPlane.domain : DataPlane → Buffer
  | .sharedToken => spake2Domain
  | .inviteV2 => inviteV2Spake2Domain
  | .remembered => rememberedV1Spake2Domain

theorem DataPlane.domain_injective : Function.Injective DataPlane.domain := by
  intro left right same
  cases left <;> cases right <;> first | rfl | exact absurd (Buffer.ofText_inj same) (by decide)

theorem authProfile_domain (config : PairingConfig) :
    (authProfile config).domain = config.plane.domain := by
  cases config <;> rfl

/-- A confirmation under the profile of `config`. -/
def ConfirmationInput.Under (self : ConfirmationInput) (config : PairingConfig) : Prop :=
  self.transcript.domain = (authProfile config).domain

/-! ## The remembered pairing -/

def rememberedRoomIdLabel : Buffer := .ofText "envoix room id" (by decide)
def rememberedRoomAuthLabel : Buffer := .ofText "envoix room auth" (by decide)
def rememberedPresenceTagLabel : Buffer := .ofText "envoix presence tag" (by decide)
def rememberedDataAuthLabel : Buffer := .ofText "envoix remembered data auth" (by decide)
def rememberedControlPairingLabel : Buffer :=
  .ofText "envoix verified device from room control" (by decide)

/-- What `derive_remembered_value` authenticates. -/
def rememberedText (generation : UInt64) (label extra : Buffer) : Bytes :=
  framed [label] ++ u64Be generation ++ framed [extra]

/-- What `RememberedCredential::from_control_pairing` authenticates. -/
def controlPairingText (transcript : Commitment) : Bytes :=
  framed [rememberedControlPairingLabel, transcript.buffer]

/-- What `RememberedSession::finish_pairing` binds its password to; the key is a short one. -/
structure FinishedPairing where
  context : RememberedAuthContext
  controlKey : Buffer
  short : controlKey.bytes.length < 2 ^ 32

def FinishedPairing.extraBytes (self : FinishedPairing) : Bytes :=
  framed [self.controlKey, self.context.controlTranscriptHash.buffer, self.context.framedBinding]

theorem FinishedPairing.fits_extraBytes (self : FinishedPairing) :
    self.extraBytes.length < 2 ^ 64 := by
  have short := self.short
  have fits := self.context.fits
  have start : rememberedPeerV1.bytes.length = 18 := by decide
  have responder : receiverResponder.bytes.length = 18 := by decide
  have initiator : senderInitiator.bytes.length = 16 := by decide
  have hash : self.context.controlTranscriptHash.buffer.bytes.length = 32 :=
    self.context.controlTranscriptHash.length_toList
  have binding : self.context.framedBinding.bytes.length < 2 ^ 63 + 256 := by
    simp only [RememberedAuthContext.framedBinding, RememberedAuthContext.framedBytes,
      List.length_append, length_framed, length_u64Be, List.map_cons, List.map_nil, List.sum_cons,
      List.sum_nil, start, responder, initiator, hash]
    simp only [Buffer.ofText]
    omega
  rw [extraBytes, length_framed]
  simp only [List.map_cons, List.map_nil, List.sum_cons, List.sum_nil, hash]
  omega

def FinishedPairing.extra (self : FinishedPairing) : Buffer :=
  ⟨self.extraBytes, self.fits_extraBytes⟩

/-- All that one remembered secret or control key is used to authenticate. -/
inductive RememberedUse where
  | controlPairing (transcript : Commitment)
  | roomId (generation : UInt64)
  | roomAuth (generation : UInt64)
  | presenceTag (generation : UInt64)
  | dataAuth (pairing : FinishedPairing)

def RememberedUse.bytes : RememberedUse → Bytes
  | .controlPairing transcript => controlPairingText transcript
  | .roomId generation => rememberedText generation rememberedRoomIdLabel .empty
  | .roomAuth generation => rememberedText generation rememberedRoomAuthLabel .empty
  | .presenceTag generation => rememberedText generation rememberedPresenceTagLabel .empty
  | .dataAuth pairing =>
    rememberedText pairing.context.generation rememberedDataAuthLabel pairing.extra

def RememberedUse.label : RememberedUse → Buffer
  | .controlPairing _ => rememberedControlPairingLabel
  | .roomId _ => rememberedRoomIdLabel
  | .roomAuth _ => rememberedRoomAuthLabel
  | .presenceTag _ => rememberedPresenceTagLabel
  | .dataAuth _ => rememberedDataAuthLabel

/-- Each use starts with its own label. -/
theorem RememberedUse.starts (self : RememberedUse) :
    ∃ after, self.bytes = framed [self.label] ++ after := by
  cases self with
  | controlPairing transcript => exact ⟨framed [transcript.buffer], rfl⟩
  | roomId generation => exact ⟨_, List.append_assoc ..⟩
  | roomAuth generation => exact ⟨_, List.append_assoc ..⟩
  | presenceTag generation => exact ⟨_, List.append_assoc ..⟩
  | dataAuth pairing => exact ⟨_, List.append_assoc ..⟩

theorem rememberedText_inj {generation other : UInt64} {label label' extra extra' : Buffer}
    (same : rememberedText generation label extra = rememberedText other label' extra') :
    generation = other ∧ label = label' ∧ extra = extra' := by
  simp only [rememberedText, List.append_assoc] at same
  obtain ⟨labels, rest⟩ := framed_append_inj (by rfl) same
  obtain ⟨generations, rest⟩ := List.append_inj rest (by rw [length_u64Be, length_u64Be])
  rw [← List.append_nil (framed [extra]), ← List.append_nil (framed [extra'])] at rest
  obtain ⟨extras, -⟩ := framed_append_inj (by rfl) rest
  simp only [List.cons.injEq, and_true] at labels extras
  exact ⟨u64Be_injective generations, labels, extras⟩

theorem FinishedPairing.extra_injective : Function.Injective FinishedPairing.extra := by
  intro left right same
  have bytes : left.extraBytes ++ [] = right.extraBytes ++ [] :=
    congrArg (fun buffer => buffer.bytes ++ []) same
  obtain ⟨parts, -⟩ := framed_append_inj (by rfl) bytes
  simp only [List.cons.injEq, and_true] at parts
  obtain ⟨key, -, binding⟩ := parts
  cases left
  cases right
  simp only [FinishedPairing.mk.injEq]
  exact ⟨RememberedAuthContext.framedBinding_injective binding, key⟩

theorem RememberedUse.bytes_injective : Function.Injective RememberedUse.bytes := by
  intro left right same
  obtain ⟨afterLeft, startsLeft⟩ := left.starts
  obtain ⟨afterRight, startsRight⟩ := right.starts
  have labels : left.label = right.label := by
    have whole : framed [left.label] ++ afterLeft = framed [right.label] ++ afterRight :=
      startsLeft.symm.trans (same.trans startsRight)
    obtain ⟨parts, -⟩ := framed_append_inj (by rfl) whole
    exact (List.cons.inj parts).1
  -- uses of different kinds have different labels, uses of one kind differ after them
  cases left <;> cases right <;> first | exact absurd (Buffer.ofText_inj labels) (by decide) | skip
  case controlPairing.controlPairing transcript other =>
    have whole : controlPairingText transcript ++ [] = controlPairingText other ++ [] :=
      congrArg (· ++ []) same
    obtain ⟨parts, -⟩ := framed_append_inj (by rfl) whole
    simp only [List.cons.injEq, and_true, true_and] at parts
    rw [commitmentBuffer_inj parts]
  case roomId.roomId => rw [(rememberedText_inj same).1]
  case roomAuth.roomAuth => rw [(rememberedText_inj same).1]
  case presenceTag.presenceTag => rw [(rememberedText_inj same).1]
  case dataAuth.dataAuth => rw [FinishedPairing.extra_injective (rememberedText_inj same).2.2]

/-! ## All of them -/

/-- Each authenticated text names all that it was made from, and no confirmation of one data-plane
method reads as a confirmation of another. -/
theorem authenticated_texts_injective :
    Function.Injective ControlContext.binding ∧
      Function.Injective InvitationAuthContext.framedBinding ∧
      Function.Injective RememberedAuthContext.framedBinding ∧
      Function.Injective PairingProofInput.bytes ∧
      (∀ role other (left right : ControlTranscript), left.preimage role = right.preimage other →
        left = right) ∧ Function.Injective ConfirmationInput.bytes ∧
          (∀ (config other : PairingConfig) (left right : ConfirmationInput), left.Under config →
            right.Under other →
        left.bytes = right.bytes → config.plane = other.plane) ∧
      Function.Injective RememberedUse.bytes := by
  refine ⟨fun _ _ => ControlContext.binding_inj, InvitationAuthContext.framedBinding_injective,
    RememberedAuthContext.framedBinding_injective, PairingProofInput.bytes_injective, ?_,
    ConfirmationInput.bytes_injective, ?_, RememberedUse.bytes_injective⟩
  · intro role other left right same
    exact ControlTranscript.preimage_inj same
  · intro config other left right mine theirs same
    obtain rfl := ConfirmationInput.bytes_injective same
    have domains := mine.symm.trans theirs
    rw [authProfile_domain, authProfile_domain] at domains
    exact DataPlane.domain_injective domains

end Envoix.Auth
