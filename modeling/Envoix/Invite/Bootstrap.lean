import Envoix.Invite.Codec

/-! # Bootstrapping from an invitation

The three ways into a pairing: the creator holds the invitation and its Room code, a joiner holds
the parsed payload or the Room code only.  The last one learns the public context from the creator,
sealed as canonical JSON, and recomputes its commitment. -/

namespace Envoix.Invite

open ByteCodec Fallible Libraries
open Envoix.Rendezvous (TransferRole InvitationSide BootstrapKind)

/-! ## Contexts -/

def BootstrapKind.id : BootstrapKind → String
  | .fullTicket => fullTicketMethod
  | .roomCode => roomCodeMethod

def transferRoleBytes : TransferRole → Bytes
  | .sender => asBytes "sender"
  | .receiver => asBytes "receiver"

/-- The value after its length in eight bytes. -/
def lenPrefixed (value : Bytes) : Bytes := toBe 8 value.length ++ value

/-- The fields known to both peers before the control PAKE. -/
structure InvitationControlContext where
  roomId : String
  selectedBootstrapMethod : BootstrapKind
  creatorTransferRole : TransferRole
  joinerTransferRole : TransferRole
deriving DecidableEq

/-- The binding of data-plane authentication. -/
structure InvitationAuthContext where
  inviteId : InviteId
  contextCommitment : Commitment
  selectedBootstrapMethod : BootstrapKind
  creatorTransferRole : TransferRole
  joinerTransferRole : TransferRole
  controlTranscriptHash : Option Commitment
deriving DecidableEq

namespace InvitationControlContext

def new (roomId : String) (selectedBootstrapMethod : BootstrapKind)
    (creatorTransferRole joinerTransferRole : TransferRole) :
    Except InvitationError InvitationControlContext := do
  validateRoomId roomId
  reject (creatorTransferRole.complement ≠ joinerTransferRole) .roleConflict
  return { roomId, selectedBootstrapMethod, creatorTransferRole, joinerTransferRole }

def framedBinding (self : InvitationControlContext) : Bytes :=
  lenPrefixed (asBytes self.roomId) ++
    lenPrefixed (asBytes (BootstrapKind.id self.selectedBootstrapMethod)) ++
    lenPrefixed (transferRoleBytes self.creatorTransferRole) ++
    lenPrefixed (transferRoleBytes self.joinerTransferRole)

end InvitationControlContext

def InvitationAuthContext.new (context : InvitationPublicContext) (contextCommitment : Commitment)
    (selectedBootstrapMethod : BootstrapKind) (controlTranscriptHash : Option Commitment) :
    InvitationAuthContext where
  inviteId := context.inviteId
  contextCommitment := contextCommitment
  selectedBootstrapMethod := selectedBootstrapMethod
  creatorTransferRole := context.creatorTransferRole
  joinerTransferRole := context.joinerTransferRole
  controlTranscriptHash := controlTranscriptHash

section

variable [Libraries]

/-! ## Passwords -/

def fullControlPasswordInfo : Bytes := asBytes "envoix invite v2 full-ticket control password"
def roomControlPasswordInfo : Bytes := asBytes "envoix invite v2 room-code control password"
def dataPasswordInfo : Bytes := asBytes "envoix invite v2 data authentication password"

def derivePassword (ikm salt info binding : Bytes) : SecretString :=
  base64.encode (hkdfSha256 salt ikm (lenPrefixed info ++ lenPrefixed binding)).toList

def TicketSecret.controlPakePassword (ticket : TicketSecret) (context : Commitment) :
    SecretString :=
  derivePassword ticket.toList context.toList fullControlPasswordInfo (asBytes fullTicketMethod)

def TicketSecret.dataAuthPassword (ticket : TicketSecret) (context : Commitment)
    (inviteId : InviteId) : SecretString :=
  derivePassword ticket.toList context.toList dataPasswordInfo inviteId.toList

def RoomCode.controlPakePassword (self : RoomCode) : SecretString :=
  derivePassword (asBytes self.text)
    (asBytes self.roomId) roomControlPasswordInfo (asBytes roomCodeMethod)

def deriveRoomDataAuthPassword (controlSharedKey : Bytes) (context : Commitment)
    (inviteId : InviteId) :
    SecretString :=
  derivePassword controlSharedKey context.toList dataPasswordInfo inviteId.toList

/-! ## The bootstrap -/

def roomIdFromContext (context : InvitationPublicContext) : Option String :=
  context.bootstrapMethods.findSome? fun method =>
    match method with
    | .roomCode roomId => some roomId
    | .fullTicket _ => none

/-- A sealed public context and its commitment. -/
def InvitationPublicContext.parseCanonical (bytes : Bytes) (expectedRoomId : String)
    (localJoinerRole : TransferRole) (now : UInt64) :
    Except InvitationError (InvitationPublicContext × Commitment) := do
  reject (bytes.length > maxDecodedPayloadLen) .oversized
  let document ← mapErr (fun error => malformed ("invalid public context JSON: " ++ error))
    (readContext bytes)
  reject (jcsPublicDocument document ≠ bytes) (malformed "public context JSON is not canonical JCS")
  let context ← document.intoContext
  validatePublicContext context now
  reject (context.joinerTransferRole ≠ localJoinerRole) .roleConflict
  let roomId ← okOr (roomIdFromContext context) (malformed "room-code bootstrap is missing")
  reject (roomId ≠ expectedRoomId) .authenticationFailed
  return (context, commitmentForContext context)

inductive InvitationBootstrap where
  | creator (invitation : InviteV2) (roomCode : RoomCode)
  | fullTicketJoiner (invitation : InviteV2)
  | roomCodeJoiner (roomCode : RoomCode) (localRole : TransferRole)

namespace InvitationBootstrap

def side : InvitationBootstrap → InvitationSide
  | .creator _ _ => .creator
  | .fullTicketJoiner _ => .joiner
  | .roomCodeJoiner _ _ => .joiner

def localRole : InvitationBootstrap → TransferRole
  | .creator invitation _ => invitation.publicContext.creatorTransferRole
  | .fullTicketJoiner invitation => invitation.publicContext.joinerTransferRole
  | .roomCodeJoiner _ localRole => localRole

/-- None where the source panics, on an invitation without a room method. -/
def roomId : InvitationBootstrap → Option String
  | .creator _ roomCode => some roomCode.roomId
  | .roomCodeJoiner roomCode _ => some roomCode.roomId
  | .fullTicketJoiner invitation => roomIdFromContext invitation.publicContext

def selectedMethod : InvitationBootstrap → Option BootstrapKind
  | .creator _ _ => none
  | .fullTicketJoiner _ => some .fullTicket
  | .roomCodeJoiner _ _ => some .roomCode

def controlContext (self : InvitationBootstrap) (selected : BootstrapKind) :
    Option (Except InvitationError InvitationControlContext) :=
  if self.selectedMethod.any (· ≠ selected) then some (.error .authenticationFailed)
  else
    let (creatorRole, joinerRole) := match self.side with
      | .creator => (self.localRole, self.localRole.complement)
      | .joiner => (self.localRole.complement, self.localRole)
    self.roomId.map fun roomId =>
      InvitationControlContext.new roomId selected creatorRole joinerRole

def controlPakePassword (self : InvitationBootstrap) (selected : BootstrapKind) :
    Except InvitationError SecretString :=
  match self, selected with
  | .creator invitation _, .fullTicket =>
    .ok (TicketSecret.controlPakePassword invitation.ticket invitation.contextCommitment)
  | .fullTicketJoiner invitation, .fullTicket =>
    .ok (TicketSecret.controlPakePassword invitation.ticket invitation.contextCommitment)
  | .creator _ roomCode, .roomCode => .ok roomCode.controlPakePassword
  | .roomCodeJoiner roomCode _, .roomCode => .ok roomCode.controlPakePassword
  | _, _ => .error .authenticationFailed

/-- Only creators deliver public context. -/
def creatorPublicContext : InvitationBootstrap → Option Bytes
  | .creator invitation _ => some (jcsContext invitation.publicContext)
  | _ => none

/-- The context by which the bootstrap goes on, before it is validated again. -/
def presentedContext (self : InvitationBootstrap) (peerPublicContext : Option Bytes)
    (now : UInt64) :
    Except InvitationError (InvitationPublicContext × Commitment) :=
  match self with
  | .creator invitation _ => do
    reject peerPublicContext.isSome .authenticationFailed
    return (invitation.publicContext, invitation.contextCommitment)
  | .fullTicketJoiner invitation => do
    let received ← okOr peerPublicContext .authenticationFailed
    reject (received ≠ jcsContext invitation.publicContext) .authenticationFailed
    return (invitation.publicContext, invitation.contextCommitment)
  | .roomCodeJoiner roomCode localRole => do
    let received ← okOr peerPublicContext .authenticationFailed
    InvitationPublicContext.parseCanonical received roomCode.roomId localRole now

def authenticatedPublicContext (self : InvitationBootstrap) (selected : BootstrapKind)
    (peerPublicContext : Option Bytes) (now : UInt64) :
    Except InvitationError (InvitationPublicContext × Commitment) := do
  let (context, contextCommitment) ← self.presentedContext peerPublicContext now
  validatePublicContext context now
  reject (selected ≠ self.selectedMethod.getD selected) .authenticationFailed
  validatePublicContext context now
  return (context, contextCommitment)

def finishControl (self : InvitationBootstrap) (selected : BootstrapKind)
    (peerPublicContext : Option Bytes) (controlKey : Bytes) (controlTranscriptHash : Commitment)
    (now : UInt64) :
    Except InvitationError (SecretString × InvitationAuthContext) := do
  let (context, contextCommitment) ← self.authenticatedPublicContext selected peerPublicContext now
  let dataPassword ← match self, selected with
    | .creator invitation _, .fullTicket =>
      .ok (TicketSecret.dataAuthPassword invitation.ticket contextCommitment context.inviteId)
    | .fullTicketJoiner invitation, .fullTicket =>
      .ok (TicketSecret.dataAuthPassword invitation.ticket contextCommitment context.inviteId)
    | _, .roomCode => .ok (deriveRoomDataAuthPassword controlKey contextCommitment context.inviteId)
    | _, _ => .error .authenticationFailed
  return (dataPassword, .new context contextCommitment selected (some controlTranscriptHash))

end InvitationBootstrap

/-- The creator's bootstrap. -/
def CreatedInvitation.intoBootstrap (self : CreatedInvitation) : InvitationBootstrap :=
  .creator self.invitation self.roomCode

/-- What a joiner of this kind starts from: the payload, parsed at this time, or the Room code and
the role that complements the creator's. -/
def CreatedInvitation.joinerBootstrap (self : CreatedInvitation) (now : UInt64) :
    BootstrapKind → Except InvitationError InvitationBootstrap
  | .fullTicket => do
    let invitation ← InviteV2.parse self.payload now
    return .fullTicketJoiner invitation
  | .roomCode => .ok (.roomCodeJoiner self.roomCode self.creatorRole.complement)

/-! ## The sealed public context -/

/-- The public context is part of the payload's document, so it fits where the payload fits. -/
theorem length_jcsContext_le (invitation : InviteV2) :
    (jcsContext invitation.publicContext).length ≤
      (jcsDocument (.fromInvitation invitation)).length := by
  simp only [jcsContext, jcsPublicDocument, jcsDocument, PublicContextDocument.toValue,
    InviteDocument.toValue, PublicContextDocument.fromContext, InviteDocument.fromInvitation,
    Json.render, Json.renderFields, Json.renderMoreFields, List.length_cons, List.length_append,
    List.length_nil]
  omega

omit [Libraries] in
theorem complement_complement (role : TransferRole) : role.complement.complement = role := by
  cases role <;> rfl

section

variable {created : CreatedInvitation} {now : UInt64}

theorem CreatedOk.roomIdFromContext (ok : CreatedOk created) :
    roomIdFromContext created.invitation.publicContext = some created.roomCode.roomId := by
  rw [Invite.roomIdFromContext, ok.methods]
  rfl

theorem CreatedOk.validateNow (ok : CreatedOk created) (fresh : now < created.expiresAt) :
    validatePublicContext created.invitation.publicContext now = .ok () := by
  obtain ⟨_, valid⟩ := ok.valid
  exact validate_later valid (ok.expiresAt ▸ fresh)

/-- The room-code joiner reads the creator's context and arrives at its commitment. -/
theorem CreatedOk.parseCanonical (ok : CreatedOk created) (fresh : now < created.expiresAt) :
    InvitationPublicContext.parseCanonical (jcsContext created.invitation.publicContext)
      created.roomCode.roomId
      created.creatorRole.complement now =
        .ok (created.invitation.publicContext, created.invitation.contextCommitment) := by
  have valid := ok.validateNow fresh
  have small := (encode_eq_ok.mp ok.encoded).1
  have fits := length_jcsContext_le created.invitation
  have role : created.invitation.publicContext.joinerTransferRole =
      created.creatorRole.complement := by
    rw [ok.joinerRole, ok.complementary]
  simp only [InvitationPublicContext.parseCanonical, bind_eq_ok, reject_eq_ok, exists_unit,
    okOr_eq_ok, mapErr_eq_ok, intoContext_eq_ok, not_not, not_lt]
  refine ⟨Nat.le_trans fits small, _, readContext_jcs _, rfl, created.invitation.publicContext,
    ⟨rfl, (contextOk_of_validate valid).rooms⟩, valid, role, created.roomCode.roomId,
    ok.roomIdFromContext, rfl, ?_⟩
  rw [ok.committed]
  rfl

/-! ## The two ends -/

theorem CreatedOk.creatorContext (ok : CreatedOk created) (fresh : now < created.expiresAt)
    (selected : BootstrapKind) :
    created.intoBootstrap.authenticatedPublicContext selected none now =
      .ok (created.invitation.publicContext, created.invitation.contextCommitment) := by
  have valid := ok.validateNow fresh
  simp [InvitationBootstrap.authenticatedPublicContext, InvitationBootstrap.presentedContext,
    CreatedInvitation.intoBootstrap, InvitationBootstrap.selectedMethod, bind_eq_ok,
    reject_eq_ok, valid]

/-- The joiner's end of the invitation, once its payload is parsed. -/
def CreatedInvitation.joiner (self : CreatedInvitation) : BootstrapKind → InvitationBootstrap
  | .fullTicket => .fullTicketJoiner self.invitation
  | .roomCode => .roomCodeJoiner self.roomCode self.creatorRole.complement

theorem CreatedOk.joinerBootstrap (ok : CreatedOk created) (fresh : now < created.expiresAt)
    (selected : BootstrapKind) :
    created.joinerBootstrap now selected = .ok (created.joiner selected) := by
  cases selected with
  | fullTicket =>
    rw [CreatedInvitation.joinerBootstrap, ok.parses fresh]
    rfl
  | roomCode => rfl

theorem CreatedOk.joinerContext (ok : CreatedOk created) (fresh : now < created.expiresAt)
    (selected : BootstrapKind) :
    (created.joiner selected).authenticatedPublicContext selected
      created.intoBootstrap.creatorPublicContext now =
      .ok (created.invitation.publicContext, created.invitation.contextCommitment) := by
  have valid := ok.validateNow fresh
  have presented :
      (created.joiner selected).presentedContext created.intoBootstrap.creatorPublicContext now =
      .ok (created.invitation.publicContext, created.invitation.contextCommitment) := by
    cases selected with
    | fullTicket =>
      simp [CreatedInvitation.joiner, InvitationBootstrap.presentedContext,
        CreatedInvitation.intoBootstrap, InvitationBootstrap.creatorPublicContext, bind_eq_ok,
        reject_eq_ok, okOr_eq_ok]
    | roomCode => exact ok.parseCanonical fresh
  have own : (created.joiner selected).selectedMethod = some selected := by
    cases selected <;> rfl
  simp [InvitationBootstrap.authenticatedPublicContext, presented, own, bind_eq_ok,
    reject_eq_ok, valid]

theorem CreatedOk.controlContexts (ok : CreatedOk created) (fresh : now < created.expiresAt)
    (selected : BootstrapKind) :
    ∃ context, created.intoBootstrap.controlContext selected = some (.ok context) ∧
      (created.joiner selected).controlContext selected = some (.ok context) := by
  have rooms := (contextOk_of_validate (ok.validateNow fresh)).rooms
  have room : validateRoomId created.roomCode.roomId = .ok () := by
    apply rooms (.roomCode created.roomCode.roomId)
    rw [ok.methods]
    simp
  refine ⟨⟨created.roomCode.roomId, selected, created.creatorRole, created.creatorRole.complement⟩,
    ?_, ?_⟩
  · simp [CreatedInvitation.intoBootstrap, InvitationBootstrap.controlContext,
      InvitationBootstrap.selectedMethod, InvitationBootstrap.side, InvitationBootstrap.localRole,
      InvitationBootstrap.roomId, InvitationControlContext.new, ok.creatorRole, room, bind_eq_ok,
      reject_eq_ok]
  · cases selected with
    | fullTicket =>
      simp [CreatedInvitation.joiner, InvitationBootstrap.controlContext,
        InvitationBootstrap.selectedMethod, InvitationBootstrap.side, InvitationBootstrap.localRole,
        InvitationBootstrap.roomId, ok.roomIdFromContext, InvitationControlContext.new,
        ok.joinerRole, ok.complementary, complement_complement, room, bind_eq_ok, reject_eq_ok]
    | roomCode =>
      simp [CreatedInvitation.joiner, InvitationBootstrap.controlContext,
        InvitationBootstrap.selectedMethod, InvitationBootstrap.side, InvitationBootstrap.localRole,
        InvitationBootstrap.roomId, InvitationControlContext.new, complement_complement, room,
        bind_eq_ok, reject_eq_ok]

theorem controlPasswords (created : CreatedInvitation) (selected : BootstrapKind) :
    ∃ password, created.intoBootstrap.controlPakePassword selected = .ok password ∧
      (created.joiner selected).controlPakePassword selected = .ok password := by
  cases selected with
  | fullTicket => exact ⟨_, rfl, rfl⟩
  | roomCode => exact ⟨_, rfl, rfl⟩

/-- Both ends go on from the same context, so they derive the same data-plane inputs from it. -/
theorem CreatedOk.finishControls (ok : CreatedOk created) {creatorNow joinerNow : UInt64}
    (creatorFresh : creatorNow < created.expiresAt) (joinerFresh : joinerNow < created.expiresAt)
    (selected : BootstrapKind) (controlKey : Bytes) (controlTranscriptHash : Commitment) :
    ∃ password auth,
      created.intoBootstrap.finishControl selected none controlKey controlTranscriptHash
        creatorNow =
        .ok (password, auth) ∧
      (created.joiner selected).finishControl selected
        created.intoBootstrap.creatorPublicContext controlKey
        controlTranscriptHash joinerNow = .ok (password, auth) := by
  have creator := ok.creatorContext creatorFresh selected
  have joiner := ok.joinerContext joinerFresh selected
  simp only [InvitationBootstrap.finishControl, creator, joiner, ok_bind]
  cases selected with
  | fullTicket => exact ⟨_, _, rfl, rfl⟩
  | roomCode => exact ⟨_, _, rfl, rfl⟩

end

/-- Both ends of an invitation derive the same secrets, by either bootstrap and at any time before
its expiry: the payload is parsed, and the control exchange finished on each side, at times of their
own. -/
theorem both_ends_agree {created : CreatedInvitation} (made : Created created)
    {parsedAt creatorNow joinerNow : UInt64} (parsedFresh : parsedAt < created.expiresAt)
    (creatorFresh : creatorNow < created.expiresAt) (joinerFresh : joinerNow < created.expiresAt)
    (selected : BootstrapKind) (controlKey : Bytes) (controlTranscriptHash : Commitment) :
    ∃ joiner, created.joinerBootstrap parsedAt selected = .ok joiner ∧
    (∃ context, created.intoBootstrap.controlContext selected = some (.ok context) ∧
      joiner.controlContext selected = some (.ok context)) ∧
    (∃ password, created.intoBootstrap.controlPakePassword selected = .ok password ∧
      joiner.controlPakePassword selected = .ok password) ∧
    ∃ password auth,
      created.intoBootstrap.finishControl selected none controlKey controlTranscriptHash
        creatorNow =
        .ok (password, auth) ∧
      joiner.finishControl selected created.intoBootstrap.creatorPublicContext controlKey
        controlTranscriptHash
        joinerNow = .ok (password, auth) := by
  have ok := createdOk made
  exact ⟨created.joiner selected, ok.joinerBootstrap parsedFresh selected,
    ok.controlContexts joinerFresh selected, controlPasswords created selected,
    ok.finishControls creatorFresh joinerFresh selected controlKey controlTranscriptHash⟩

end

noncomputable local instance : Libraries := goldenLibraries

theorem both_ends_agree_golden :
    Created goldenCreated ∧ goldenNow < goldenCreated.expiresAt ∧
    ∃ joiner, goldenCreated.joinerBootstrap goldenNow .roomCode = .ok joiner ∧
      ∃ password auth,
        goldenCreated.intoBootstrap.finishControl .roomCode none (List.replicate 32 7)
          (ByteVector.zero 32) goldenNow =
          .ok (password, auth) ∧
        joiner.finishControl .roomCode goldenCreated.intoBootstrap.creatorPublicContext
          (List.replicate 32 7)
          (ByteVector.zero 32) goldenNow = .ok (password, auth) := by
  have fresh : goldenNow < goldenCreated.expiresAt := by decide
  obtain ⟨joiner, joins, _, _, same⟩ :=
    both_ends_agree goldenCreated_made fresh fresh fresh .roomCode
    (List.replicate 32 7) (ByteVector.zero 32)
  exact ⟨goldenCreated_made, fresh, joiner, joins, same⟩

end Envoix.Invite
