import Envoix.Protocol.Offer

/-! # Data-plane frames

Model of `envoix-protocol/src/manifest_v2_frames.rs`: the thirteen frame kinds, their encoder
and their decoder, each with its own list of field checks.  `FrameWriter` and `FrameReader`
hold the small output helpers and the reader's methods under their source names.
-/

namespace Envoix.Protocol

open ByteCodec Fallible

/-! ## Data model -/

structure JobGenerationV2 where
  jobId : JobIdV2
  generation : UInt32
deriving DecidableEq

structure ProofCapabilityV2 where
  bytes : ByteVector 32
deriving DecidableEq

inductive EntryDispositionV2 where
  | receivePayload
  | reuseExisting
deriving DecidableEq

inductive EntryEncodingV2 where
  | identity
  | zstd
deriving DecidableEq

inductive EntryDigestDecisionV2 where
  | proposed
  | continuePayload
  | reuseExisting
deriving DecidableEq

inductive EntryCompletionChoiceV2 where
  | payloadComplete
  | reuseChosen
deriving DecidableEq

inductive EntryResultKindV2 where
  | saved
  | reusedExisting
deriving DecidableEq

inductive EntryArbiterV2 where
  | payloadOpen
  | reuseChosen
  | payloadCompleteChosen
deriving DecidableEq

inductive CancelScopeV2 where
  | job
  | entry
deriving DecidableEq

inductive ManifestFailurePhaseV2 where
  | offer
  | destination
  | payload
  | verify
  | save
  | proof
deriving DecidableEq

structure RootPlanV2 where
  rootId : UInt32
  plannedName : String
deriving DecidableEq

structure EntryPlanV2 where
  entryId : UInt32
  disposition : EntryDispositionV2
  nextPlaintextBlock : UInt64
deriving DecidableEq

structure ManifestAcceptV2 where
  identity : JobGenerationV2
  manifestDigest : ContentDigestV2
  acceptNonce : ByteVector 32
  proofCapability : ProofCapabilityV2
  planRevision : UInt32
  rootPlans : List RootPlanV2
  entryPlans : List EntryPlanV2
deriving DecidableEq

structure EntryStartV2 where
  identity : JobGenerationV2
  entryId : UInt32
  encoding : EntryEncodingV2
  plaintextBlockBytes : UInt32
deriving DecidableEq

structure EntryContentDigestFrameV2 where
  identity : JobGenerationV2
  entryId : UInt32
  digest : ContentDigestV2
  decision : EntryDigestDecisionV2
deriving DecidableEq

structure EntryBlockV2 where
  identity : JobGenerationV2
  entryId : UInt32
  blockIndex : UInt64
  plaintextOffset : UInt64
  plaintextLength : UInt32
  encodedBytes : Bytes
deriving DecidableEq

structure EntryCompleteV2 where
  identity : JobGenerationV2
  entryId : UInt32
  finalSize : UInt64
  finalDigest : ContentDigestV2
  completionChoice : EntryCompletionChoiceV2
deriving DecidableEq

structure EntryResultV2 where
  identity : JobGenerationV2
  entryId : UInt32
  result : EntryResultKindV2
  finalSize : UInt64
  finalDigest : Option ContentDigestV2
  finalComponentOverride : Option String
deriving DecidableEq

structure JobCompleteV2 where
  identity : JobGenerationV2
  senderCompletionSetDigest : ContentDigestV2
deriving DecidableEq

structure DeliveryProofV2 where
  identity : JobGenerationV2
  manifestDigest : ContentDigestV2
  resultSetDigest : ContentDigestV2
  proofNonce : ByteVector 32
  proofMac : ByteVector 32
deriving DecidableEq

structure ResumeRequestV2 where
  identity : JobGenerationV2
  offer : ManifestOfferV2
  acceptBodyDigest : ContentDigestV2
  senderCheckpointDigest : ContentDigestV2
  challengeNonce : ByteVector 32
deriving DecidableEq

structure ResumeEntryV2 where
  entryId : UInt32
  arbiter : EntryArbiterV2
  nextPlaintextBlock : UInt64
  contentDigest : Option ContentDigestV2
  entryResult : Option EntryResultV2
deriving DecidableEq

structure ResumeStatusV2 where
  identity : JobGenerationV2
  acceptBodyDigest : ContentDigestV2
  planRevision : UInt32
  entries : List ResumeEntryV2
  challengeNonce : ByteVector 32
  challengeMac : ByteVector 32
deriving DecidableEq

structure CancelV2 where
  identity : JobGenerationV2
  scope : CancelScopeV2
  entryId : Option UInt32
  failureCode : UInt32
deriving DecidableEq

structure ManifestErrorV2 where
  identity : JobGenerationV2
  failureCode : UInt32
  phase : ManifestFailurePhaseV2
  entryId : Option UInt32
deriving DecidableEq

inductive ManifestV2Frame where
  | offer (value : ManifestOfferV2)
  | accept (value : ManifestAcceptV2)
  | entryStart (value : EntryStartV2)
  | entryContentDigest (value : EntryContentDigestFrameV2)
  | entryBlock (value : EntryBlockV2)
  | entryComplete (value : EntryCompleteV2)
  | entryResult (value : EntryResultV2)
  | jobComplete (value : JobCompleteV2)
  | deliveryProof (value : DeliveryProofV2)
  | resumeRequest (value : ResumeRequestV2)
  | resumeStatus (value : ResumeStatusV2)
  | cancel (value : CancelV2)
  | error (value : ManifestErrorV2)
deriving DecidableEq

/-- Codec errors.  `Io` belongs to the stream functions around the codec and is left out. -/
inductive ManifestV2FrameCodecError where
  | truncated
  | badMagic
  | unsupportedVersion (version : UInt16)
  | unknownFrameType (frameType : UInt16)
  | lengthMismatch (declared actual : Nat)
  | frameTooLarge
  | trailingBytes
  | unknownTag (name : String) (value : UInt8)
  | countTooLarge
  | invalidUtf8
  | unsafeComponent
  | invalidIdentity
  | invalidChallenge
  | invalidEntryId
  | invalidRootId
  | invalidBlock
  | invalidOptional
  | invalidCancelScope
  | offer (message : String)
  | unexpectedOfferPayload
  | io (message : String)
deriving DecidableEq

/-- The `Display` text of a frame error. -/
def ManifestV2FrameCodecError.text : ManifestV2FrameCodecError → String
  | .truncated => "Manifest v2 frame is truncated"
  | .badMagic => "Manifest v2 frame magic is invalid"
  | .unsupportedVersion version => s!"unsupported Manifest v2 frame version {version}"
  | .unknownFrameType frameType => s!"unknown Manifest v2 frame type {frameType}"
  | .lengthMismatch declared actual =>
    s!"Manifest v2 frame length {actual} does not match declared {declared}"
  | .frameTooLarge => "Manifest v2 frame exceeds its bounded allocation"
  | .trailingBytes => "Manifest v2 frame has trailing bytes"
  | .unknownTag name value => s!"unknown {name} tag {value}"
  | .countTooLarge => "Manifest v2 array count exceeds its contract"
  | .invalidUtf8 => "Manifest v2 string is invalid UTF-8"
  | .unsafeComponent => "Manifest v2 component is unsafe"
  | .invalidIdentity => "Manifest v2 identity is invalid"
  | .invalidChallenge => "Manifest v2 resume challenge is invalid"
  | .invalidEntryId => "Manifest v2 entry id is outside the offered entry set"
  | .invalidRootId => "Manifest v2 root id or ordering is invalid"
  | .invalidBlock => "Manifest v2 block shape is invalid"
  | .invalidOptional => "Manifest v2 optional field tag is invalid"
  | .invalidCancelScope => "Manifest v2 Cancel scope and entry disagree"
  | .offer message => "Manifest Offer codec rejected the frame: " ++ message
  | .unexpectedOfferPayload => "Offer must use the structural Manifest codec"
  | .io message => message

/-! ## Tags -/

def EntryDispositionV2.tag : EntryDispositionV2 → UInt8
  | .receivePayload => 0
  | .reuseExisting => 1

def EntryEncodingV2.tag : EntryEncodingV2 → UInt8
  | .identity => 0
  | .zstd => 1

def EntryDigestDecisionV2.tag : EntryDigestDecisionV2 → UInt8
  | .proposed => 0
  | .continuePayload => 1
  | .reuseExisting => 2

def EntryCompletionChoiceV2.tag : EntryCompletionChoiceV2 → UInt8
  | .payloadComplete => 0
  | .reuseChosen => 1

def EntryResultKindV2.tag : EntryResultKindV2 → UInt8
  | .saved => 0
  | .reusedExisting => 1

def EntryArbiterV2.tag : EntryArbiterV2 → UInt8
  | .payloadOpen => 0
  | .reuseChosen => 1
  | .payloadCompleteChosen => 2

def CancelScopeV2.tag : CancelScopeV2 → UInt8
  | .job => 0
  | .entry => 1

def ManifestFailurePhaseV2.tag : ManifestFailurePhaseV2 → UInt8
  | .offer => 0
  | .destination => 1
  | .payload => 2
  | .verify => 3
  | .save => 4
  | .proof => 5

/-- The `tag_decoder!` family: a table of discriminants and the label its error carries. -/
def tagDecoder {α : Type} (label : String) (table : List (UInt8 × α)) (value : UInt8) :
    Except ManifestV2FrameCodecError α :=
  okOr (table.lookup value) (.unknownTag label value)

def entryDisposition : UInt8 → Except ManifestV2FrameCodecError EntryDispositionV2 :=
  tagDecoder "entry disposition" [(0, .receivePayload), (1, .reuseExisting)]

def entryEncoding : UInt8 → Except ManifestV2FrameCodecError EntryEncodingV2 :=
  tagDecoder "entry encoding" [(0, .identity), (1, .zstd)]

def entryDigestDecision : UInt8 → Except ManifestV2FrameCodecError EntryDigestDecisionV2 :=
  tagDecoder "entry digest decision" [(0, .proposed), (1, .continuePayload), (2, .reuseExisting)]

def entryCompletion : UInt8 → Except ManifestV2FrameCodecError EntryCompletionChoiceV2 :=
  tagDecoder "entry completion" [(0, .payloadComplete), (1, .reuseChosen)]

def entryResultKind : UInt8 → Except ManifestV2FrameCodecError EntryResultKindV2 :=
  tagDecoder "entry result" [(0, .saved), (1, .reusedExisting)]

def entryArbiter : UInt8 → Except ManifestV2FrameCodecError EntryArbiterV2 :=
  tagDecoder "entry arbiter" [(0, .payloadOpen), (1, .reuseChosen), (2, .payloadCompleteChosen)]

def cancelScope : UInt8 → Except ManifestV2FrameCodecError CancelScopeV2 :=
  tagDecoder "cancel scope" [(0, .job), (1, .entry)]

def failurePhase : UInt8 → Except ManifestV2FrameCodecError ManifestFailurePhaseV2 :=
  tagDecoder "failure phase"
    [(0, .offer), (1, .destination), (2, .payload), (3, .verify), (4, .save), (5, .proof)]

def frameType (value : UInt16) : Except ManifestV2FrameCodecError ManifestV2FrameType :=
  match value with
  | 1 => .ok .offer
  | 2 => .ok .accept
  | 3 => .ok .entryStart
  | 4 => .ok .entryContentDigest
  | 5 => .ok .entryBlock
  | 6 => .ok .entryComplete
  | 7 => .ok .entryResult
  | 8 => .ok .jobComplete
  | 9 => .ok .deliveryProof
  | 10 => .ok .resumeRequest
  | 11 => .ok .resumeStatus
  | 12 => .ok .cancel
  | 13 => .ok .error
  | other => .error (.unknownFrameType other)

/-! ## Limits and field checks -/

def headerBytes : Nat := 12
def commonPrefixBytes : Nat := 20
def maxControlFrameBytes : Nat := maxManifestV2EncodedBytes
def entryBlockFixedPayloadBytes : Nat := commonPrefixBytes + 4 + 8 + 8 + 4 + 4
def resumeRequestFixedPayloadBytes : Nat := commonPrefixBytes + 4 + 32 * 2 + 32

def maximumPayloadBytes : ManifestV2FrameType → Except ManifestV2FrameCodecError Nat
  | .entryBlock =>
    okOr (checkedAddUsize entryBlockFixedPayloadBytes maxManifestV2BlockEncodedBytes.toNat)
      .frameTooLarge
  | .resumeRequest =>
    okOr (checkedAddUsize resumeRequestFixedPayloadBytes maxManifestV2EncodedBytes) .frameTooLarge
  | _ => .ok (maxControlFrameBytes - headerBytes)

def checkIdentity (identity : JobGenerationV2) : Except ManifestV2FrameCodecError Unit :=
  reject (identity.jobId.bytes = ByteVector.zero 16 ∨ identity.generation = 0) .invalidIdentity

def checkedEntryId (entryId : UInt32) : Except ManifestV2FrameCodecError Unit :=
  reject (entryId.toNat ≥ maxManifestV2Entries) .invalidEntryId

/-- The frames' own component rule, without the NFC check of the manifest's. -/
def validateFrameComponent (value : String) : Except ManifestV2FrameCodecError Unit :=
  reject (value = "" ∨ value = "." ∨ value = ".." ∨
    (asBytes value).length > maxManifestV2ComponentBytes ∨ hasControlOrSeparator value)
      .unsafeComponent

/-! ## Encoder -/

namespace FrameWriter

def identity (value : JobGenerationV2) : Except ManifestV2FrameCodecError Bytes := do
  checkIdentity value
  pure (value.jobId.bytes.toList ++ u32Be value.generation)

def optionalDigest : Option ContentDigestV2 → Bytes
  | some value => [1] ++ value.bytes.toList
  | none => [0]

def optionalU32 : Option UInt32 → Bytes
  | some value => [1] ++ u32Be value
  | none => [0]

def count (value maximum : Nat) : Except ManifestV2FrameCodecError Bytes := do
  reject (value > maximum) .countTooLarge
  reject (value ≥ 2 ^ 32) .countTooLarge
  pure (u32Be (UInt32.ofNat value))

def component (value : String) : Except ManifestV2FrameCodecError Bytes := do
  validateFrameComponent value
  reject ((asBytes value).length ≥ 2 ^ 32) .unsafeComponent
  pure (u32Be (UInt32.ofNat (asBytes value).length) ++ asBytes value)

/-- `match value { Some(item) => push 1 and the item, None => push 0 }` -/
def optional {α : Type} (item : α → Except ManifestV2FrameCodecError Bytes) :
    Option α → Except ManifestV2FrameCodecError Bytes
  | some value => do
    let bytes ← item value
    pure ([1] ++ bytes)
  | none => pure [0]

end FrameWriter

def encodeRootPlan (index : Nat) (root : RootPlanV2) : Except ManifestV2FrameCodecError Bytes := do
  reject (root.rootId ≠ UInt32.ofNat index) .invalidRootId
  let plannedName ← FrameWriter.component root.plannedName
  pure (u32Be root.rootId ++ plannedName)

def encodeEntryPlan (index : Nat) (entry : EntryPlanV2) :
    Except ManifestV2FrameCodecError Bytes := do
  reject (entry.entryId ≠ UInt32.ofNat index) .invalidEntryId
  pure (u32Be entry.entryId ++ [entry.disposition.tag] ++ u64Be entry.nextPlaintextBlock)

def encodeAccept (value : ManifestAcceptV2) : Except ManifestV2FrameCodecError Bytes := do
  let identity ← FrameWriter.identity value.identity
  reject (value.proofCapability.bytes = ByteVector.zero 32 ∨ value.planRevision = 0)
    .invalidIdentity
  let rootCount ← FrameWriter.count value.rootPlans.length maxManifestV2Roots
  let rootPlans ← writeMany encodeRootPlan 0 value.rootPlans
  let entryCount ← FrameWriter.count value.entryPlans.length maxManifestV2Entries
  let entryPlans ← writeMany encodeEntryPlan 0 value.entryPlans
  pure (identity ++ value.manifestDigest.bytes.toList ++ value.acceptNonce.toList ++
    value.proofCapability.bytes.toList ++ u32Be value.planRevision ++ rootCount ++ rootPlans ++
    entryCount ++ entryPlans)

def encodeEntryStart (value : EntryStartV2) : Except ManifestV2FrameCodecError Bytes := do
  let identity ← FrameWriter.identity value.identity
  checkedEntryId value.entryId
  reject (value.plaintextBlockBytes = 0 ∨
    value.plaintextBlockBytes > maxManifestV2BlockPlaintextBytes)
    .invalidBlock
  pure (identity ++ u32Be value.entryId ++ [value.encoding.tag] ++ u32Be value.plaintextBlockBytes)

def encodeEntryContentDigest (value : EntryContentDigestFrameV2) :
    Except ManifestV2FrameCodecError Bytes := do
  let identity ← FrameWriter.identity value.identity
  checkedEntryId value.entryId
  pure (identity ++ u32Be value.entryId ++ value.digest.bytes.toList ++ [value.decision.tag])

def encodeEntryBlock (value : EntryBlockV2) : Except ManifestV2FrameCodecError Bytes := do
  let identity ← FrameWriter.identity value.identity
  checkedEntryId value.entryId
  reject (value.plaintextLength = 0 ∨ value.plaintextLength > maxManifestV2BlockPlaintextBytes ∨
    value.encodedBytes = [] ∨ value.encodedBytes.length > maxManifestV2BlockEncodedBytes.toNat)
      .invalidBlock
  reject (value.encodedBytes.length ≥ 2 ^ 32) .invalidBlock
  pure (identity ++ u32Be value.entryId ++ u64Be value.blockIndex ++ u64Be value.plaintextOffset ++
    u32Be value.plaintextLength ++ u32Be (UInt32.ofNat value.encodedBytes.length) ++
    value.encodedBytes)

def encodeEntryComplete (value : EntryCompleteV2) : Except ManifestV2FrameCodecError Bytes := do
  let identity ← FrameWriter.identity value.identity
  checkedEntryId value.entryId
  pure (identity ++ u32Be value.entryId ++ u64Be value.finalSize ++
    value.finalDigest.bytes.toList ++ [value.completionChoice.tag])

def encodeEntryResultBody (value : EntryResultV2) : Except ManifestV2FrameCodecError Bytes := do
  let identity ← FrameWriter.identity value.identity
  checkedEntryId value.entryId
  let finalComponentOverride ← FrameWriter.optional FrameWriter.component
    value.finalComponentOverride
  pure (identity ++ u32Be value.entryId ++ [value.result.tag] ++ u64Be value.finalSize ++
    FrameWriter.optionalDigest value.finalDigest ++ finalComponentOverride)

def encodeJobComplete (value : JobCompleteV2) : Except ManifestV2FrameCodecError Bytes := do
  let identity ← FrameWriter.identity value.identity
  pure (identity ++ value.senderCompletionSetDigest.bytes.toList)

def encodeDeliveryProof (value : DeliveryProofV2) : Except ManifestV2FrameCodecError Bytes := do
  let identity ← FrameWriter.identity value.identity
  pure (identity ++ value.manifestDigest.bytes.toList ++ value.resultSetDigest.bytes.toList ++
    value.proofNonce.toList ++ value.proofMac.toList)

def encodeResumeEntry (index : Nat) (entry : ResumeEntryV2) :
    Except ManifestV2FrameCodecError Bytes := do
  reject (entry.entryId ≠ UInt32.ofNat index) .invalidEntryId
  let entryResult ← FrameWriter.optional encodeEntryResultBody entry.entryResult
  pure (u32Be entry.entryId ++ [entry.arbiter.tag] ++ u64Be entry.nextPlaintextBlock ++
    FrameWriter.optionalDigest entry.contentDigest ++ entryResult)

def encodeResumeStatus (value : ResumeStatusV2) : Except ManifestV2FrameCodecError Bytes := do
  let identity ← FrameWriter.identity value.identity
  reject (value.challengeNonce = ByteVector.zero 32 ∨ value.challengeMac = ByteVector.zero 32)
    .invalidChallenge
  let entryCount ← FrameWriter.count value.entries.length maxManifestV2Entries
  let entries ← writeMany encodeResumeEntry 0 value.entries
  pure (identity ++ value.acceptBodyDigest.bytes.toList ++ u32Be value.planRevision ++
    entryCount ++ entries ++ value.challengeNonce.toList ++ value.challengeMac.toList)

/-- `matches!(scope, Job) != entry_id.is_none()` -/
def cancelScopeDisagrees (scope : CancelScopeV2) (entryId : Option UInt32) : Bool :=
  (scope == .job) != entryId.isNone

def encodeCancel (value : CancelV2) : Except ManifestV2FrameCodecError Bytes := do
  let identity ← FrameWriter.identity value.identity
  reject (cancelScopeDisagrees value.scope value.entryId) .invalidCancelScope
  pure (identity ++ [value.scope.tag] ++ FrameWriter.optionalU32 value.entryId ++
    u32Be value.failureCode)

def encodeError (value : ManifestErrorV2) : Except ManifestV2FrameCodecError Bytes := do
  let identity ← FrameWriter.identity value.identity
  pure (identity ++ u32Be value.failureCode ++ [value.phase.tag] ++
    FrameWriter.optionalU32 value.entryId)

section Codec

variable [Blake3] [UnicodeNormalization]

/-- Rebuild the offer, compare its structural digest, and encode it. -/
def encodeOfferChecked (offer : ManifestOfferV2) : Except ManifestV2FrameCodecError Bytes := do
  let rebuilt ← mapErr (fun error => .offer error.text) (buildManifestOfferV2 offer.manifest)
  reject (rebuilt.structuralDigest ≠ offer.structuralDigest)
    (.offer "structural digest does not match the canonical Manifest body")
  mapErr (fun error => .offer error.text) (encodeManifestOfferV2 offer.manifest)

def encodeResumeRequest (value : ResumeRequestV2) : Except ManifestV2FrameCodecError Bytes := do
  let identity ← FrameWriter.identity value.identity
  reject (value.challengeNonce = ByteVector.zero 32) .invalidChallenge
  reject (value.identity.jobId ≠ value.offer.manifest.jobId ∨
    value.identity.generation ≠ value.offer.manifest.generation) .invalidIdentity
  let encodedOffer ← encodeOfferChecked value.offer
  reject (encodedOffer.length ≥ 2 ^ 32) .frameTooLarge
  pure (identity ++ u32Be (UInt32.ofNat encodedOffer.length) ++ encodedOffer ++
    value.acceptBodyDigest.bytes.toList ++ value.senderCheckpointDigest.bytes.toList ++
    value.challengeNonce.toList)

/-- The frame type `encode_payload` returns. -/
def ManifestV2Frame.type : ManifestV2Frame → ManifestV2FrameType
  | .offer _ => .offer
  | .accept _ => .accept
  | .entryStart _ => .entryStart
  | .entryContentDigest _ => .entryContentDigest
  | .entryBlock _ => .entryBlock
  | .entryComplete _ => .entryComplete
  | .entryResult _ => .entryResult
  | .jobComplete _ => .jobComplete
  | .deliveryProof _ => .deliveryProof
  | .resumeRequest _ => .resumeRequest
  | .resumeStatus _ => .resumeStatus
  | .cancel _ => .cancel
  | .error _ => .error

def encodePayload : ManifestV2Frame → Except ManifestV2FrameCodecError Bytes
  | .offer _ => .error .unexpectedOfferPayload
  | .accept value => encodeAccept value
  | .entryStart value => encodeEntryStart value
  | .entryContentDigest value => encodeEntryContentDigest value
  | .entryBlock value => encodeEntryBlock value
  | .entryComplete value => encodeEntryComplete value
  | .entryResult value => encodeEntryResultBody value
  | .jobComplete value => encodeJobComplete value
  | .deliveryProof value => encodeDeliveryProof value
  | .resumeRequest value => encodeResumeRequest value
  | .resumeStatus value => encodeResumeStatus value
  | .cancel value => encodeCancel value
  | .error value => encodeError value

def encodeManifestV2Frame (frame : ManifestV2Frame) : Except ManifestV2FrameCodecError Bytes :=
  match frame with
  | .offer offer => encodeOfferChecked offer
  | frame => do
    let payload ← encodePayload frame
    let maximum ← maximumPayloadBytes frame.type
    reject (payload.length > maximum) .frameTooLarge
    reject (payload.length ≥ 2 ^ 32) .frameTooLarge
    pure (offerMagic ++ u16Be manifestV2ProtocolVersion ++ u16Be frame.type.code ++
      u32Be (UInt32.ofNat payload.length) ++ payload)

end Codec

/-! ## Decoder -/

abbrev FrameReader := Reader ManifestV2FrameCodecError

namespace FrameReader

def identity : FrameReader JobGenerationV2 := do
  let jobId ← array .truncated 16
  let generation ← u32 .truncated
  let identity : JobGenerationV2 := { jobId := ⟨jobId⟩, generation }
  lift (checkIdentity identity)
  pure identity

def digest : FrameReader ContentDigestV2 := do
  let bytes ← array .truncated 32
  pure ⟨bytes⟩

def entryId : FrameReader UInt32 := do
  let entryId ← u32 .truncated
  lift (checkedEntryId entryId)
  pure entryId

def count (maximum : Nat) : FrameReader Nat := do
  let count := (← u32 .truncated).toNat
  lift (reject (count > maximum) .countTooLarge)
  pure count

def bytes (maximum : Nat) : FrameReader Bytes := do
  let length := (← u32 .truncated).toNat
  lift (reject (length > maximum) .frameTooLarge)
  exact .truncated length

def component : FrameReader String := do
  let bytes ← bytes maxManifestV2ComponentBytes
  let value ← lift (okOr (fromUtf8 bytes) .invalidUtf8)
  lift (validateFrameComponent value)
  pure value

/-- `match reader.u8()? { 0 => None, 1 => Some(item), _ => InvalidOptional }` -/
def optional {α : Type} (item : FrameReader α) : FrameReader (Option α) := do
  match (← u8 .truncated) with
  | 0 => pure none
  | 1 => do
    let value ← item
    pure (some value)
  | _ => throw .invalidOptional

def optionalU32 : FrameReader (Option UInt32) := optional entryId

def optionalDigest : FrameReader (Option ContentDigestV2) := optional digest

def entryResult : FrameReader EntryResultV2 := do
  let identity ← identity
  let entryId ← entryId
  let result ← lift (entryResultKind (← u8 .truncated))
  let finalSize ← u64 .truncated
  let finalDigest ← optionalDigest
  let finalComponentOverride ← optional component
  pure { identity, entryId, result, finalSize, finalDigest, finalComponentOverride }

end FrameReader

def decodeRootPlan (index : Nat) : FrameReader RootPlanV2 := do
  let rootId ← u32 .truncated
  lift (reject (rootId ≠ UInt32.ofNat index) .invalidRootId)
  let plannedName ← FrameReader.component
  pure { rootId, plannedName }

def decodeEntryPlan (index : Nat) : FrameReader EntryPlanV2 := do
  let entryId ← u32 .truncated
  lift (reject (entryId ≠ UInt32.ofNat index) .invalidEntryId)
  let disposition ← lift (entryDisposition (← u8 .truncated))
  let nextPlaintextBlock ← u64 .truncated
  pure { entryId, disposition, nextPlaintextBlock }

def decodeAccept : FrameReader ManifestAcceptV2 := do
  let identity ← FrameReader.identity
  let manifestDigest ← FrameReader.digest
  let acceptNonce ← array .truncated 32
  let proofCapability ← array .truncated 32
  let planRevision ← u32 .truncated
  lift (reject (proofCapability = ByteVector.zero 32 ∨ planRevision = 0) .invalidIdentity)
  let rootCount ← FrameReader.count maxManifestV2Roots
  let rootPlans ← readMany decodeRootPlan 0 rootCount
  let entryCount ← FrameReader.count maxManifestV2Entries
  let entryPlans ← readMany decodeEntryPlan 0 entryCount
  pure { identity, manifestDigest, acceptNonce, proofCapability := ⟨proofCapability⟩,
         planRevision, rootPlans,
         entryPlans }

def decodeEntryStart : FrameReader EntryStartV2 := do
  let identity ← FrameReader.identity
  let entryId ← FrameReader.entryId
  let encoding ← lift (entryEncoding (← u8 .truncated))
  let plaintextBlockBytes ← u32 .truncated
  lift (reject (plaintextBlockBytes = 0 ∨ plaintextBlockBytes > maxManifestV2BlockPlaintextBytes)
    .invalidBlock)
  pure { identity, entryId, encoding, plaintextBlockBytes }

def decodeEntryContentDigest : FrameReader EntryContentDigestFrameV2 := do
  let identity ← FrameReader.identity
  let entryId ← FrameReader.entryId
  let digest ← FrameReader.digest
  let decision ← lift (entryDigestDecision (← u8 .truncated))
  pure { identity, entryId, digest, decision }

def decodeEntryBlock : FrameReader EntryBlockV2 := do
  let identity ← FrameReader.identity
  let entryId ← FrameReader.entryId
  let blockIndex ← u64 .truncated
  let plaintextOffset ← u64 .truncated
  let plaintextLength ← u32 .truncated
  let encodedBytes ← FrameReader.bytes maxManifestV2BlockEncodedBytes.toNat
  lift (reject (plaintextLength = 0 ∨ plaintextLength > maxManifestV2BlockPlaintextBytes ∨
    encodedBytes = [])
    .invalidBlock)
  pure { identity, entryId, blockIndex, plaintextOffset, plaintextLength, encodedBytes }

def decodeEntryComplete : FrameReader EntryCompleteV2 := do
  let identity ← FrameReader.identity
  let entryId ← FrameReader.entryId
  let finalSize ← u64 .truncated
  let finalDigest ← FrameReader.digest
  let completionChoice ← lift (entryCompletion (← u8 .truncated))
  pure { identity, entryId, finalSize, finalDigest, completionChoice }

def decodeJobComplete : FrameReader JobCompleteV2 := do
  let identity ← FrameReader.identity
  let senderCompletionSetDigest ← FrameReader.digest
  pure { identity, senderCompletionSetDigest }

def decodeDeliveryProof : FrameReader DeliveryProofV2 := do
  let identity ← FrameReader.identity
  let manifestDigest ← FrameReader.digest
  let resultSetDigest ← FrameReader.digest
  let proofNonce ← array .truncated 32
  let proofMac ← array .truncated 32
  pure { identity, manifestDigest, resultSetDigest, proofNonce, proofMac }

def decodeResumeEntry (identity : JobGenerationV2) (index : Nat) : FrameReader ResumeEntryV2 := do
  let entryId ← FrameReader.entryId
  lift (reject (entryId ≠ UInt32.ofNat index) .invalidEntryId)
  let arbiter ← lift (entryArbiter (← u8 .truncated))
  let nextPlaintextBlock ← u64 .truncated
  let contentDigest ← FrameReader.optionalDigest
  let entryResult ← FrameReader.optional FrameReader.entryResult
  lift (reject (∃ result ∈ entryResult, result.identity ≠ identity ∨ result.entryId ≠ entryId)
    .invalidIdentity)
  pure { entryId, arbiter, nextPlaintextBlock, contentDigest, entryResult }

def decodeResumeStatus : FrameReader ResumeStatusV2 := do
  let identity ← FrameReader.identity
  let acceptBodyDigest ← FrameReader.digest
  let planRevision ← u32 .truncated
  let count ← FrameReader.count maxManifestV2Entries
  let entries ← readMany (decodeResumeEntry identity) 0 count
  let challengeNonce ← array .truncated 32
  let challengeMac ← array .truncated 32
  lift (reject (challengeNonce = ByteVector.zero 32 ∨ challengeMac = ByteVector.zero 32)
    .invalidChallenge)
  pure { identity, acceptBodyDigest, planRevision, entries, challengeNonce, challengeMac }

def decodeCancel : FrameReader CancelV2 := do
  let identity ← FrameReader.identity
  let scope ← lift (cancelScope (← u8 .truncated))
  let entryId ← FrameReader.optionalU32
  lift (reject (cancelScopeDisagrees scope entryId) .invalidCancelScope)
  let failureCode ← u32 .truncated
  pure { identity, scope, entryId, failureCode }

def decodeError : FrameReader ManifestErrorV2 := do
  let identity ← FrameReader.identity
  let failureCode ← u32 .truncated
  let phase ← lift (failurePhase (← u8 .truncated))
  let entryId ← FrameReader.optionalU32
  pure { identity, failureCode, phase, entryId }

structure Header where
  frameType : ManifestV2FrameType
  payloadLength : Nat
deriving DecidableEq

def parseHeader (encoded : Bytes) : Except ManifestV2FrameCodecError Header := do
  reject (encoded.length < headerBytes) .truncated
  let (header, _) ← Reader.run (do
    let magic ← exact .truncated 4
    lift (reject (magic ≠ offerMagic) .badMagic)
    let version ← u16 .truncated
    lift (reject (version ≠ manifestV2ProtocolVersion) (.unsupportedVersion version))
    let frameType ← lift (frameType (← u16 .truncated))
    let payloadLength ← u32 .truncated
    pure ({ frameType, payloadLength := payloadLength.toNat } : Header)) (encoded.take headerBytes)
  pure header

section Codec

variable [Blake3] [UnicodeNormalization]

def decodeResumeRequest : FrameReader ResumeRequestV2 := do
  let identity ← FrameReader.identity
  let encodedOffer ← FrameReader.bytes maxManifestV2EncodedBytes
  let offer ← lift (mapErr (fun error => .offer error.text) (decodeManifestOfferV2 encodedOffer))
  lift (reject (identity.jobId ≠ offer.manifest.jobId ∨
    identity.generation ≠ offer.manifest.generation)
    .invalidIdentity)
  let acceptBodyDigest ← FrameReader.digest
  let senderCheckpointDigest ← FrameReader.digest
  let challengeNonce ← array .truncated 32
  lift (reject (challengeNonce = ByteVector.zero 32) .invalidChallenge)
  pure { identity, offer, acceptBodyDigest, senderCheckpointDigest, challengeNonce }

def decodePayload : ManifestV2FrameType → FrameReader ManifestV2Frame
  | .offer => throw .unexpectedOfferPayload
  | .accept => do return .accept (← decodeAccept)
  | .entryStart => do return .entryStart (← decodeEntryStart)
  | .entryContentDigest => do return .entryContentDigest (← decodeEntryContentDigest)
  | .entryBlock => do return .entryBlock (← decodeEntryBlock)
  | .entryComplete => do return .entryComplete (← decodeEntryComplete)
  | .entryResult => do return .entryResult (← FrameReader.entryResult)
  | .jobComplete => do return .jobComplete (← decodeJobComplete)
  | .deliveryProof => do return .deliveryProof (← decodeDeliveryProof)
  | .resumeRequest => do return .resumeRequest (← decodeResumeRequest)
  | .resumeStatus => do return .resumeStatus (← decodeResumeStatus)
  | .cancel => do return .cancel (← decodeCancel)
  | .error => do return .error (← decodeError)

def decodeManifestV2Frame (encoded : Bytes) : Except ManifestV2FrameCodecError ManifestV2Frame := do
  let header ← parseHeader encoded
  reject (encoded.length ≠ headerBytes + header.payloadLength)
    (.lengthMismatch header.payloadLength (encoded.length - headerBytes))
  if header.frameType = .offer then
    let offer ← mapErr (fun error => .offer error.text) (decodeManifestOfferV2 encoded)
    pure (.offer offer)
  else
    let maximum ← maximumPayloadBytes header.frameType
    reject (header.payloadLength > maximum) .frameTooLarge
    let (frame, rest) ← (decodePayload header.frameType).run (encoded.drop headerBytes)
    reject (rest ≠ []) .trailingBytes
    pure frame

/-- The reader over a stream, which ends with an I/O error where bytes are missing. -/
def readManifestV2Frame : FrameReader ManifestV2Frame := do
  let header ← exact (.io "early eof") headerBytes
  let parsed ← lift (parseHeader header)
  let maximum ← lift (maximumPayloadBytes parsed.frameType)
  lift (reject (parsed.payloadLength > maximum) .frameTooLarge)
  let payload ← exact (.io "early eof") parsed.payloadLength
  lift (decodeManifestV2Frame (header ++ payload))

def canonicalManifestV2FrameBodyDigest (frame : ManifestV2Frame) :
    Except ManifestV2FrameCodecError ContentDigestV2 := do
  let encoded ← encodeManifestV2Frame frame
  reject (encoded.length < headerBytes) .truncated
  pure ⟨Blake3.hash (encoded.drop headerBytes)⟩

end Codec

end Envoix.Protocol
