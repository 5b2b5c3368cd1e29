import Envoix.Invite.Invitation

/-! # The invitation codec

Every layer of the payload is read back by what wrote it and by nothing else: fixed-length values in
base64url, bootstrap methods, documents, canonical JSON, and the payload itself.  One lemma per
layer says which input a reader accepts for a given result. -/

namespace Envoix.Invite

open ByteCodec Fallible Libraries
open Envoix.Rendezvous (TransferRole)

section

variable [Libraries]

/-! ## Fixed-length values and methods -/

theorem decodeFixed_eq_ok {length : Nat} {value field : String} {bytes : ByteVector length} :
    decodeFixed length value field = .ok bytes ↔ value = base64.encode bytes.toList := by
  simp only [decodeFixed, bind_eq_ok, reject_eq_ok, exists_unit, okOr_eq_ok]
  constructor
  · rintro ⟨_, decoded, found, fits⟩
    split at fits
    next sized =>
      cases fits
      exact (base64.encode_decode found).symm
    next => cases fits
  · intro same
    subst same
    refine ⟨base64.unpadded _, bytes.toList, base64.decode_encode _, ?_⟩
    rw [dif_pos bytes.length_toList]
    rfl

/-- The room of a room-code method has six digits. -/
def BootstrapMethod.RoomOk : BootstrapMethod → Prop
  | .fullTicket _ => True
  | .roomCode roomId => validateRoomId roomId = .ok ()

omit [Libraries] in
theorem methods_distinct : roomCodeMethod ≠ fullTicketMethod := by decide

theorem intoMethod_eq_ok {document : BootstrapDocument} {method : BootstrapMethod} :
    document.intoMethod = .ok method ↔ document = BootstrapDocument.fromMethod method ∧
      method.RoomOk := by
  obtain ⟨id, pake, ticketCommitment, roomId⟩ := document
  simp only [BootstrapDocument.intoMethod, bind_eq_ok, reject_eq_ok, exists_unit, not_not]
  constructor
  · intro ⟨suite, rest⟩
    subst suite
    split at rest
    next full =>
      subst full
      simp only [bind_eq_ok, reject_eq_ok, exists_unit, okOr_eq_ok, decodeFixed_eq_ok] at rest
      obtain ⟨noRoom, text, rfl, commitment, rfl, done⟩ := rest
      cases done
      have absent : roomId = none := by simpa using noRoom
      subst absent
      exact ⟨rfl, trivial⟩
    next =>
      split at rest
      next code =>
        subst code
        simp only [bind_eq_ok, reject_eq_ok, exists_unit, okOr_eq_ok] at rest
        obtain ⟨noTicket, room, rfl, valid, done⟩ := rest
        cases done
        have absent : ticketCommitment = none := by simpa using noTicket
        subst absent
        exact ⟨rfl, valid⟩
      next => cases rest
  · intro ⟨same, valid⟩
    cases method with
    | fullTicket commitment =>
      cases same
      refine ⟨rfl, ?_⟩
      rw [if_pos rfl]
      simp only [bind_eq_ok, reject_eq_ok, exists_unit, okOr_eq_ok, decodeFixed_eq_ok]
      exact ⟨Bool.false_ne_true, _, rfl, commitment, rfl, rfl⟩
    | roomCode room =>
      cases same
      refine ⟨rfl, ?_⟩
      rw [if_neg methods_distinct, if_pos rfl]
      simp only [bind_eq_ok, reject_eq_ok, exists_unit, okOr_eq_ok]
      exact ⟨Bool.false_ne_true, room, rfl, valid, rfl⟩

/-! ## Documents -/

def MethodsOk (context : InvitationPublicContext) : Prop :=
  ∀ method ∈ context.bootstrapMethods, method.RoomOk

theorem intoMethods_eq_ok {documents : List BootstrapDocument} {methods : List BootstrapMethod} :
    documents.mapM BootstrapDocument.intoMethod = .ok methods ↔
      documents = methods.map BootstrapDocument.fromMethod ∧ ∀ method ∈ methods, method.RoomOk := by
  induction documents generalizing methods with
  | nil => cases methods <;> simp
  | cons document documents ih =>
    simp only [List.mapM_cons, bind_eq_ok, intoMethod_eq_ok, ih, pure_eq, Except.ok.injEq]
    constructor
    · intro ⟨method, ⟨same, valid⟩, rest, ⟨sameRest, validRest⟩, listed⟩
      subst listed same sameRest
      exact ⟨rfl, List.forall_mem_cons.mpr ⟨valid, validRest⟩⟩
    · intro ⟨same, valid⟩
      cases methods with
      | nil => cases same
      | cons method rest =>
        obtain ⟨first, more⟩ := List.cons.inj same
        obtain ⟨validFirst, validMore⟩ := List.forall_mem_cons.mp valid
        exact ⟨method, ⟨first, validFirst⟩, rest, ⟨more, validMore⟩, rfl⟩

theorem intoContext_eq_ok {document : PublicContextDocument} {context : InvitationPublicContext} :
    document.intoContext = .ok context ↔ document = .fromContext context ∧ MethodsOk context := by
  simp only [PublicContextDocument.intoContext, bind_eq_ok, decodeFixed_eq_ok,
    intoMethods_eq_ok, pure_eq, Except.ok.injEq]
  constructor
  · intro ⟨inviteId, id, methods, ⟨same, valid⟩, built⟩
    subst built
    refine ⟨?_, valid⟩
    simp only [PublicContextDocument.fromContext, ← id, ← same]
  · intro ⟨same, valid⟩
    subst same
    exact ⟨context.inviteId, rfl, context.bootstrapMethods, ⟨rfl, valid⟩, rfl⟩

theorem intoInvitation_eq_ok {document : InviteDocument} {invitation : InviteV2} :
    document.intoInvitation = .ok invitation ↔
      document = .fromInvitation invitation ∧ MethodsOk invitation.publicContext := by
  simp only [InviteDocument.intoInvitation, bind_eq_ok, reject_eq_ok, exists_unit, not_not,
    decodeFixed_eq_ok, intoMethods_eq_ok, pure_eq, Except.ok.injEq]
  constructor
  · intro ⟨method, inviteId, id, commitment, committed, ticket, presented, methods,
      ⟨same, valid⟩, built⟩
    subst built
    refine ⟨?_, valid⟩
    simp only [InviteDocument.fromInvitation, ← id, ← committed, ← presented, ← same, ← method]
  · intro ⟨same, valid⟩
    subst same
    exact ⟨rfl, invitation.publicContext.inviteId, rfl, invitation.contextCommitment, rfl,
      invitation.ticket, rfl, invitation.publicContext.bootstrapMethods, ⟨rfl, valid⟩, rfl⟩

/-! ## Validated contexts -/

omit [Libraries] in
theorem roomsOk_of_validateMethodsAfter {seen : List String} {methods : List BootstrapMethod}
    (valid : validateMethodsAfter seen methods = .ok ()) : ∀ method ∈ methods, method.RoomOk := by
  induction methods generalizing seen with
  | nil =>
    intro method listed
    cases listed
  | cons method methods ih =>
    cases method with
    | fullTicket commitment =>
      simp only [validateMethodsAfter, bind_eq_ok, reject_eq_ok, exists_unit, true_and] at valid
      exact List.forall_mem_cons.mpr ⟨by trivial, ih valid.2⟩
    | roomCode roomId =>
      simp only [validateMethodsAfter, bind_eq_ok, reject_eq_ok, exists_unit] at valid
      obtain ⟨_, first, rest⟩ := valid
      exact List.forall_mem_cons.mpr ⟨first, ih rest⟩

/-- What validation says about a context, apart from the libraries' parsers. -/
structure ContextOk (context : InvitationPublicContext) (now : UInt64) : Prop where
  roles : context.joinerTransferRole = context.creatorTransferRole.complement
  fresh : now < context.expiresAt
  methods : context.bootstrapMethods.map BootstrapMethod.id = [fullTicketMethod, roomCodeMethod]
  rooms : MethodsOk context

theorem contextOk_of_validate {context : InvitationPublicContext} {now : UInt64}
    (valid : validatePublicContext context now = .ok ()) : ContextOk context now := by
  simp only [validatePublicContext, bind_eq_ok, reject_eq_ok, exists_unit, not_not] at valid
  obtain ⟨_, roles, fresh, _, _, _, methods, rooms⟩ := valid
  exact ⟨roles.symm, UInt64.not_le.mp fresh, methods, roomsOk_of_validateMethodsAfter rooms⟩

/-- Validation depends on the time through the expiry only. -/
theorem validate_later {context : InvitationPublicContext} {now later : UInt64}
    (valid : validatePublicContext context now = .ok ()) (fresh : later < context.expiresAt) :
    validatePublicContext context later = .ok () := by
  simp only [validatePublicContext, bind_eq_ok, reject_eq_ok, exists_unit] at valid ⊢
  obtain ⟨versions, roles, _, rest⟩ := valid
  exact ⟨versions, roles, UInt64.not_le.mpr fresh, rest⟩

/-! ## Payloads -/

omit [Libraries] in
theorem stripPrefix_eq_some {start text rest : String} :
    stripPrefix start text = some rest ↔ text = start ++ rest := by
  simp only [stripPrefix, startsWith, List.isPrefixOf_iff_prefix]
  constructor
  · intro found
    split at found
    next starts =>
      obtain ⟨tail, same⟩ := starts
      cases found
      apply String.toList_inj.mp
      rw [String.toList_append, String.toList_ofList, ← same, List.drop_left]
    next => cases found
  · intro same
    subst same
    rw [if_pos (by rw [String.toList_append]; exact List.prefix_append _ _), String.toList_append,
      List.drop_left, String.ofList_toList]

omit [Libraries] in
theorem startsWith_append (start rest : String) : startsWith start (start ++ rest) = true := by
  rw [startsWith, List.isPrefixOf_iff_prefix, String.toList_append]
  exact List.prefix_append _ _

omit [Libraries] in
/-- A payload is no link of another kind. -/
theorem payload_supported (encoded : String) :
    ¬ (startsWith "envoix:" (inviteV2Prefix ++ encoded) = true ∧
        ¬ startsWith inviteV2Prefix (inviteV2Prefix ++ encoded) = true ∨
      startsWith "envoix://pair/" (inviteV2Prefix ++ encoded) = true) := by
  intro other
  rcases other with ⟨_, unknown⟩ | pair
  · exact unknown (startsWith_append _ _)
  · rw [startsWith, String.toList_append] at pair
    simp [inviteV2Prefix, List.isPrefixOf] at pair

theorem encode_eq_ok {invitation : InviteV2} {payload : String} :
    invitation.encode = .ok payload ↔
      (jcsDocument (.fromInvitation invitation)).length ≤ maxDecodedPayloadLen ∧
      (asBytes (base64.encode (jcsDocument (.fromInvitation invitation)))).length ≤
        maxEncodedPayloadLen ∧
      payload = inviteV2Prefix ++ base64.encode (jcsDocument (.fromInvitation invitation)) := by
  simp only [InviteV2.encode, bind_eq_ok, reject_eq_ok, exists_unit, not_lt, pure_eq,
    Except.ok.injEq]
  constructor
  · intro ⟨decoded, encoded, same⟩
    exact ⟨decoded, encoded, same.symm⟩
  · intro ⟨decoded, encoded, same⟩
    exact ⟨decoded, encoded, same.symm⟩

omit [Libraries] in
theorem jcsDocument_ne_nil (document : InviteDocument) : jcsDocument document ≠ [] := by
  intro empty
  have long := Json.length_render_pos document.toValue
  rw [jcsDocument] at empty
  rw [empty] at long
  cases long

/-- What `parse` accepts: the encoding of a valid invitation, with the commitments it announces. -/
theorem parse_eq_ok {input : String} {now : UInt64} {invitation : InviteV2} :
    InviteV2.parse input now = .ok invitation ↔
      invitation.encode = .ok input ∧ validatePublicContext invitation.publicContext now = .ok () ∧
      invitation.contextCommitment = commitmentForContext invitation.publicContext ∧
      InviteV2.advertisedTicket invitation.publicContext.bootstrapMethods =
        some (TicketSecret.commitment invitation.ticket) := by
  simp only [InviteV2.parse, bind_eq_ok, reject_eq_ok, exists_unit, okOr_eq_ok,
    mapErr_eq_ok, not_not, intoInvitation_eq_ok, stripPrefix_eq_some, encode_eq_ok, not_lt, pure_eq,
    Except.ok.injEq]
  constructor
  · intro ⟨_, encoded, input, short, _, decoded, read, small, document, _, canonical, parsed,
      ⟨same, _⟩, valid, committed, advertised, announced, ticket, done⟩
    subst done same
    have strict : base64.encode (jcsDocument (.fromInvitation parsed)) = encoded := by
      rw [canonical]
      exact base64.encode_decode read
    rw [strict, canonical]
    exact ⟨⟨small, short, input⟩, valid, committed.symm, by rw [announced, ticket]⟩
  · intro ⟨⟨small, short, input⟩, valid, committed, announced⟩
    subst input
    refine ⟨payload_supported _, _, rfl, short, ?_, _, base64.decode_encode _, small, _,
      readInvite_jcs _, rfl, invitation, ⟨rfl, (contextOk_of_validate valid).rooms⟩, valid,
      committed.symm, _, announced, rfl, rfl⟩
    intro bad
    rcases bad with empty | padded
    · exact base64.encode_ne_empty (jcsDocument_ne_nil _) empty
    · exact base64.unpadded _ padded

/-- The time decides whether a payload is accepted, not what it holds. -/
theorem parse_unique {input : String} {now later : UInt64} {invitation other : InviteV2}
    (parsed : InviteV2.parse input now = .ok invitation)
    (again : InviteV2.parse input later = .ok other) :
    invitation = other := by
  have early {at_ : UInt64} {found : InviteV2} (parses : InviteV2.parse input at_ = .ok found) :
      InviteV2.parse input 0 = .ok found := by
    obtain ⟨encodes, valid, rest⟩ := parse_eq_ok.mp parses
    have fresh := (contextOk_of_validate valid).fresh
    exact parse_eq_ok.mpr ⟨encodes,
      validate_later valid (UInt64.lt_of_le_of_lt UInt64.zero_le fresh), rest⟩
  have same := (early parsed).symm.trans (early again)
  exact Except.ok.inj same

/-- `InviteV2::create` returned this, with the entropy at hand. -/
def Created (created : CreatedInvitation) : Prop :=
  ∃ broker relayUrls creatorRole capabilities now entropy rest,
    (InviteV2.create broker relayUrls creatorRole capabilities now).run entropy =
      .ok (created, rest)

structure CreatedOk (created : CreatedInvitation) : Prop where
  encoded : created.invitation.encode = .ok created.payload
  valid : ∃ now, validatePublicContext created.invitation.publicContext now = .ok ()
  committed : created.invitation.contextCommitment =
    commitmentForContext created.invitation.publicContext
  methods : created.invitation.publicContext.bootstrapMethods =
    [.fullTicket (TicketSecret.commitment created.invitation.ticket),
      .roomCode created.roomCode.roomId]
  creatorRole : created.invitation.publicContext.creatorTransferRole = created.creatorRole
  joinerRole : created.invitation.publicContext.joinerTransferRole = created.joinerRole
  complementary : created.joinerRole = created.creatorRole.complement
  expiresAt : created.invitation.publicContext.expiresAt = created.expiresAt

theorem createdOk {created : CreatedInvitation} (made : Created created) : CreatedOk created := by
  obtain ⟨broker, relayUrls, creatorRole, capabilities, now, entropy, rest, ran⟩ := made
  simp only [InviteV2.create, Reader.run_bind_ok, run_lift_ok, Reader.run_pure_ok] at ran
  obtain ⟨expiresAt, _, _, inviteId, _, _, ticket, _, _, roomCode, _, _, _, _, ⟨valid, _⟩, payload,
    _, ⟨encoded, _⟩, done, _⟩ := ran
  subst done
  exact ⟨encoded, ⟨now, valid⟩, rfl, rfl, rfl, rfl, rfl, rfl⟩

theorem CreatedOk.parses {created : CreatedInvitation} (ok : CreatedOk created) {now : UInt64}
    (fresh : now < created.expiresAt) :
    InviteV2.parse created.payload now = .ok created.invitation := by
  obtain ⟨_, valid⟩ := ok.valid
  refine parse_eq_ok.mpr ⟨ok.encoded, validate_later valid (ok.expiresAt ▸ fresh), ok.committed, ?_⟩
  rw [ok.methods]
  rfl

/-- The codec of invitations: what `create` returns is parsed back while it is fresh, and what is
parsed is the encoding of a valid invitation with its own commitments, so no two payloads carry the
same one. -/
theorem invitation_codec :
    (∀ created, Created created → ∀ now < created.invitation.publicContext.expiresAt,
      ∃ payload, created.invitation.encode = .ok payload ∧
        InviteV2.parse payload now = .ok created.invitation) ∧
    (∀ text now invitation, InviteV2.parse text now = .ok invitation →
      invitation.encode = .ok text ∧
      invitation.contextCommitment = sha256 (jcsContext invitation.publicContext) ∧
      InviteV2.advertisedTicket invitation.publicContext.bootstrapMethods =
        some (sha256 invitation.ticket.toList) ∧
      now < invitation.publicContext.expiresAt) ∧
    (∀ text other now later invitation, InviteV2.parse text now = .ok invitation →
      InviteV2.parse other later = .ok invitation → text = other) := by
  refine ⟨?_, ?_, ?_⟩
  · intro created made now fresh
    have ok := createdOk made
    exact ⟨created.payload, ok.encoded, ok.parses (ok.expiresAt ▸ fresh)⟩
  · intro text now invitation parsed
    obtain ⟨encoded, valid, committed, advertised⟩ := parse_eq_ok.mp parsed
    exact ⟨encoded, committed, advertised, (contextOk_of_validate valid).fresh⟩
  · intro text other now later invitation parsed parsedOther
    have encoded := (parse_eq_ok.mp parsed).1
    rw [(parse_eq_ok.mp parsedOther).1] at encoded
    exact (Except.ok.inj encoded).symm

end

/-! ## A fixed invitation -/

theorem roleValue_injective {left right : TransferRole} (same : roleValue left = roleValue right) :
    left = right := by
  cases left <;> cases right <;> simp [roleValue] at same ⊢

theorem textsValue_injective {left right : List String}
    (same : textsValue left = textsValue right) : left = right :=
  List.map_injective_iff.mpr (fun _ _ same => Json.Value.string.inj same)
    (Json.Value.array.inj same)

theorem capabilities_injective {left right : Capabilities} (same : left.toValue = right.toValue) :
    left = right := by
  cases left
  cases right
  simp only [Capabilities.toValue, Json.Value.object.injEq, List.cons.injEq, Prod.mk.injEq,
    true_and, and_true] at same
  rw [textsValue_injective same.1, textsValue_injective same.2]

theorem bootstrapDocument_injective : Function.Injective BootstrapDocument.toValue := by
  intro left right same
  obtain ⟨id, pake, ticket, room⟩ := left
  obtain ⟨id', pake', ticket', room'⟩ := right
  cases ticket <;> cases ticket' <;> cases room <;> cases room' <;>
    simp [BootstrapDocument.toValue, optionalField] at same <;> simp [same]

theorem publicDocument_injective {left right : PublicContextDocument}
    (same : left.toValue = right.toValue) :
    left = right := by
  cases left
  cases right
  simp only [PublicContextDocument.toValue, Json.Value.object.injEq, List.cons.injEq,
    Prod.mk.injEq, true_and, and_true, Json.Value.array.injEq, Json.Value.string.injEq,
    Json.Value.number.injEq] at same
  obtain ⟨methods, broker, capabilities, creator, expires, id, joiner, protocol, relays, version⟩ :=
    same
  rw [List.map_injective_iff.mpr bootstrapDocument_injective methods, broker,
    capabilities_injective capabilities, roleValue_injective creator, UInt64.toNat_inj.mp expires,
    id, roleValue_injective joiner, UInt32.toNat_inj.mp protocol, textsValue_injective relays,
    UInt32.toNat_inj.mp version]

theorem inviteDocument_injective {left right : InviteDocument}
    (same : left.toValue = right.toValue) :
    left = right := by
  obtain ⟨_, _, _, _, _, _, _, _, _, _, _, ⟨_, _⟩⟩ := left
  obtain ⟨_, _, _, _, _, _, _, _, _, _, _, ⟨_, _⟩⟩ := right
  simp only [InviteDocument.toValue, PresentedCredential.toValue, Json.Value.object.injEq,
    List.cons.injEq, Prod.mk.injEq, true_and, and_true, Json.Value.array.injEq,
    Json.Value.string.injEq, Json.Value.number.injEq] at same
  obtain ⟨methods, broker, capabilities, commitment, creator, expires, id, joiner, ⟨method, ticket⟩,
    protocol, relays, version⟩ := same
  rw [List.map_injective_iff.mpr bootstrapDocument_injective methods, broker,
    capabilities_injective capabilities, commitment, roleValue_injective creator,
    UInt64.toNat_inj.mp expires, id, roleValue_injective joiner, method, ticket,
    UInt32.toNat_inj.mp protocol, textsValue_injective relays, UInt32.toNat_inj.mp version]

open Classical in
/-- The reader that inverts a writer of documents. -/
noncomputable def readWritten {α : Type} (write : α → Bytes) (bytes : Bytes) : Except String α :=
  if written : ∃ document, write document = bytes then .ok written.choose
  else .error "not a document"

theorem readWritten_write {α : Type} {write : α → Bytes} (injective : Function.Injective write)
    (document : α) :
    readWritten write (write document) = .ok document := by
  have written : ∃ other, write other = write document := ⟨document, rfl⟩
  rw [readWritten, dif_pos written, injective written.choose_spec]

def goldenBroker : String :=
  "e946a31a2207efcd68b9dbf409c4bf241aa02a0cbc0028af2e1ed11472064eff@67.230.187.238:8445"

def goldenTicket : TicketSecret := ⟨List.replicate 32 0x42, by decide⟩

def goldenTicketHash : ByteVector 32 :=
  ⟨[0x42, 0x5e, 0xd4, 0xe4, 0xa3, 0x6b, 0x30, 0xea, 0x21, 0xb9, 0x0e, 0x21, 0xc7, 0x12, 0xc6, 0x49,
    0xe8, 0x21, 0x4c, 0x29, 0xb7, 0xea, 0xf6, 0x80, 0x89, 0xd1, 0x03, 0x9c, 0x6e, 0x55, 0x38, 0x4c],
      by decide⟩

def goldenContextHash : ByteVector 32 :=
  ⟨[0x6a, 0x71, 0x3e, 0x74, 0x2c, 0x29, 0xc6, 0xc1, 0x1c, 0xd7, 0xf7, 0xf4, 0xcd, 0x5e, 0x8d, 0x30,
    0x44, 0x49, 0xa3, 0xe5, 0x6e, 0x43, 0x0a, 0x57, 0x11, 0xd0, 0x0c, 0x17, 0x75, 0xac, 0x93, 0x6d],
      by decide⟩

def goldenTicketControl : ByteVector 32 :=
  ⟨[0x84, 0xa3, 0xa2, 0x6f, 0xc3, 0xcd, 0x3e, 0xe3, 0xa2, 0x3d, 0x98, 0xdf, 0x2b, 0x70, 0x40, 0xf5,
    0xe2, 0x25, 0xe3, 0x3e, 0x39, 0x64, 0x44, 0xfa, 0x2f, 0x10, 0xfc, 0x06, 0x8a, 0xcf, 0x3c, 0x04],
      by decide⟩

def goldenTicketData : ByteVector 32 :=
  ⟨[0x35, 0x25, 0xf7, 0xca, 0x10, 0x07, 0xe5, 0xa6, 0x44, 0xb5, 0x72, 0xb7, 0xf1, 0x36, 0xb9, 0x7d,
    0xf8, 0xa5, 0x16, 0xa8, 0x32, 0x68, 0x66, 0x6c, 0x19, 0xe1, 0xf9, 0x66, 0x04, 0x92, 0xea, 0xdb],
      by decide⟩

def goldenRoomControl : ByteVector 32 :=
  ⟨[0xc1, 0xdf, 0xff, 0x19, 0xa6, 0xe9, 0x5d, 0x96, 0x03, 0xc4, 0x85, 0x18, 0xe7, 0x3a, 0x54, 0xe8,
    0x19, 0x2e, 0x25, 0x17, 0xb3, 0xbd, 0x74, 0xdb, 0xd2, 0x3f, 0x2f, 0xd3, 0x40, 0xf5, 0x3f, 0xfc],
      by decide⟩

def goldenRoomData : ByteVector 32 :=
  ⟨[0xe5, 0xfc, 0x4d, 0xbb, 0xf2, 0x60, 0x17, 0xc3, 0x2b, 0xbe, 0x86, 0x22, 0x56, 0x45, 0x00, 0xd5,
    0xad, 0x90, 0xc4, 0x0f, 0xb6, 0x94, 0x8c, 0x79, 0x7d, 0xe3, 0xfc, 0x42, 0xe7, 0xb1, 0x08, 0x55],
      by decide⟩

/-- The derived keys of the fixed invitation; the infos of the ticket's two differ in length. -/
def goldenHkdf (ikm info : Bytes) : ByteVector 32 :=
  if ikm = goldenTicket.toList then if info.length = 75 then goldenTicketControl
  else goldenTicketData
  else if ikm = asBytes "123456-k7m4-9v2d" then goldenRoomControl
  else goldenRoomData

/-- The libraries on the inputs of the fixed invitation, whose digests and keys are those of SHA-256
and HKDF. -/
noncomputable local instance goldenLibraries : Libraries where
  sha256 bytes := if bytes = goldenTicket.toList then goldenTicketHash else goldenContextHash
  hkdfSha256 _ ikm info := goldenHkdf ikm info
  base64 := Base64.rfc4648
  isEndpointId text := text = "e946a31a2207efcd68b9dbf409c4bf241aa02a0cbc0028af2e1ed11472064eff"
  RelayUrl := String
  decideRelayUrl := inferInstance
  parseRelayUrl text :=
    if text = "https://envoix.example:8444" then some "https://envoix.example:8444/" else none
  readInvite := readWritten jcsDocument
  readContext := readWritten jcsPublicDocument
  readInvite_jcs :=
    readWritten_write fun _ _ same => inviteDocument_injective (Json.render_injective same)
  readContext_jcs :=
    readWritten_write fun _ _ same => publicDocument_injective (Json.render_injective same)

def goldenInviteId : InviteId := ⟨List.replicate 16 0x11, by decide⟩

def goldenNow : UInt64 := 1750000000

def goldenContext : InvitationPublicContext where
  version := inviteVersion
  inviteId := goldenInviteId
  protocolVersion := transferProtocolVersion
  creatorTransferRole := .sender
  joinerTransferRole := .receiver
  broker := goldenBroker
  relayUrls := ["https://envoix.example:8444"]
  capabilities := .current
  expiresAt := 1750000300
  bootstrapMethods := [.fullTicket goldenTicketHash, .roomCode "123456"]

def goldenInvitation : InviteV2 := ⟨goldenContext, goldenContextHash, goldenTicket⟩

/-- The invitation with its room code, as its creator holds it. -/
noncomputable def goldenCreated : CreatedInvitation where
  payload := inviteV2Prefix ++ base64.encode (jcsDocument (.fromInvitation goldenInvitation))
  roomCode := ⟨"123456-k7m4-9v2d"⟩
  creatorRole := .sender
  joinerRole := .receiver
  expiresAt := 1750000300
  invitation := goldenInvitation

theorem goldenContext_valid : validatePublicContext goldenContext goldenNow = .ok () := by decide

theorem goldenInvitation_encode : goldenInvitation.encode = .ok goldenCreated.payload := by
  have small : (jcsDocument (.fromInvitation goldenInvitation)).length ≤ 1024 := by
    set_option maxRecDepth 8000 in decide
  have encoded := Base64.length_encode (jcsDocument (.fromInvitation goldenInvitation))
  refine encode_eq_ok.mpr ⟨?_, ?_, rfl⟩
  · exact Nat.le_trans small (by decide)
  · exact Nat.le_trans encoded (by unfold maxEncodedPayloadLen; omega)

theorem goldenCreated_made : Created goldenCreated := by
  have context : commitmentForContext goldenContext = goldenContextHash := by decide
  have methods : [BootstrapMethod.fullTicket (TicketSecret.commitment goldenTicket),
      .roomCode (RoomCode.roomId ⟨"123456-k7m4-9v2d"⟩)] = goldenContext.bootstrapMethods := by
        decide
  refine ⟨goldenBroker, ["https://envoix.example:8444"], .sender, .current, goldenNow,
    goldenInviteId.toList ++
      (goldenTicket.toList ++ ([12, 34, 56] ++ [20, 7, 22, 4, 9, 31, 2, 13])), [], ?_⟩
  simp only [InviteV2.create, Reader.run_bind_ok, run_lift_ok, Reader.run_pure_ok, fillRandom,
    run_array_ok]
  refine ⟨1750000300, _, ⟨by decide, rfl⟩, goldenInviteId, _, rfl, goldenTicket, _, rfl,
    ⟨"123456-k7m4-9v2d"⟩, [], by decide, (), [], ⟨?_, rfl⟩, goldenCreated.payload, [],
    ⟨?_, rfl⟩, ?_, rfl⟩
  · rw [methods]
    exact goldenContext_valid
  · rw [methods]
    show InviteV2.encode ⟨goldenContext, commitmentForContext goldenContext, goldenTicket⟩ = _
    rw [context]
    exact goldenInvitation_encode
  · rw [methods]
    show CreatedInvitation.mk _ _ _ _ _ ⟨goldenContext, commitmentForContext goldenContext,
      goldenTicket⟩ = _
    rw [context]
    rfl

theorem invitation_codec_golden :
    Created goldenCreated ∧ goldenNow < goldenCreated.invitation.publicContext.expiresAt ∧
    ∃ payload, goldenInvitation.encode = .ok payload ∧
      InviteV2.parse payload goldenNow = .ok goldenInvitation :=
  ⟨goldenCreated_made, by decide,
    invitation_codec.1 goldenCreated goldenCreated_made goldenNow (by decide)⟩

end Envoix.Invite
