import Envoix.Transfer.Delivery

/-! # The receiver's data-plane ledger

Model of the durable ledger of `envoix-transfer/src/manifest_v2_engine.rs` and of the pure
functions around it: what an Accept may say, what a resume status may say, and how either side
rebuilds the completion of an entry it does not transfer again.
-/

namespace Envoix.Transfer

open ByteCodec Fallible Envoix.Protocol

def receiverDataPlaneSchemaVersion : UInt16 := 1

/-- The `zstd` crate: `None` is an error. -/
class Zstd where
  compress : Bytes → Option Bytes
  decompress : Bytes → Nat → Option Bytes

/-- Foreign errors (`Job`, `Io`, `Core`, `Destination`, `Json`) are carried by their text. -/
inductive ManifestV2DataError where
  | jobNotSealed
  | unexpectedFrame (activity : String)
  | identityMismatch
  | acceptMismatch
  | entryOrder
  | blockOrder
  | digestConflict
  | finalMismatch
  | unsupportedEncoding
  | invalidCompressedBlock
  | reuseUnavailable
  | invalidLedger (detail : String)
  | arithmeticOverflow
  | job (message : String)
  | codec (error : ManifestV2FrameCodecError)
  | io (message : String)
  | core (message : String)
  | destination (message : String)
  | destinationContract (detail : String)
  | delivery (error : DeliveryAuthorityErrorV2)
  | internal (message : String)
  | json (message : String)
deriving DecidableEq

/-! ## Data model -/

structure SavedEntryV2 where
  entryId : UInt32
  result : EntryResultKindV2
  finalComponentOverride : Option String
deriving DecidableEq

structure VerifiedEntryV2 where
  entryId : UInt32
  finalDigest : Option ContentDigestV2
  completionChoice : EntryCompletionChoiceV2
deriving DecidableEq

structure ReceiverEntryCheckpointV2 where
  entryId : UInt32
  start : Option EntryStartV2
  arbiter : EntryArbiterV2
  nextPlaintextBlock : UInt64
  plaintextBytes : UInt64
  contentDigest : Option ContentDigestV2
  completion : Option EntryCompleteV2
  result : Option EntryResultV2
  payloadRetired : Bool
deriving DecidableEq

structure ReceiverDataPlaneLedgerV2 where
  schemaVersion : UInt16
  identity : JobGenerationV2
  manifestDigest : ContentDigestV2
  accept : ManifestAcceptV2
  acceptBodyDigest : ContentDigestV2
  entries : List ReceiverEntryCheckpointV2
  senderCompletionSetDigest : Option ContentDigestV2
deriving DecidableEq

inductive SenderResumeIntentV2 where
  | continueData
  | awaitDelivery
deriving DecidableEq

/-- `DEFAULT_MANIFEST_V2_BLOCK_PLAINTEXT_BYTES as u64` -/
def defaultBlockBytes : UInt64 := defaultManifestV2BlockPlaintextBytes.toUInt64

/-- The digest a manifest commits an entry to, if any. -/
def committedDigest (entry : ManifestEntryV2) : Option ContentDigestV2 :=
  match entry.contentDigest with
  | .known digest => some digest
  | .deferred => none

def emptyDigest [Blake3] : ContentDigestV2 := ⟨Blake3.hash []⟩

/-- Number of default blocks that cover an entry. -/
def totalBlocks (entry : ManifestEntryV2) : Except ManifestV2DataError UInt64 := do
  let padded ← okOr (checkedAdd64 entry.plaintextSize (defaultBlockBytes - 1)) .arithmeticOverflow
  pure (padded / defaultBlockBytes)

/-! ## Accept -/

def validateEntryPlan (entry : ManifestEntryV2) (plan : EntryPlanV2) :
    Except ManifestV2DataError Unit := do
  reject (plan.entryId ≠ entry.entryId ∨
    entry.kind = .directory ∧ (plan.disposition ≠ .receivePayload ∨ plan.nextPlaintextBlock ≠ 0) ∨
    plan.disposition = .reuseExisting ∧
      (committedDigest entry = none ∨ plan.nextPlaintextBlock ≠ 0))
    .acceptMismatch
  let total ← totalBlocks entry
  reject (plan.nextPlaintextBlock > total) .acceptMismatch

def validateAccept (offer : ManifestOfferV2) (accept : ManifestAcceptV2) :
    Except ManifestV2DataError Unit := do
  reject (accept.identity.jobId ≠ offer.manifest.jobId ∨
    accept.identity.generation ≠ offer.manifest.generation ∨
    accept.manifestDigest ≠ offer.structuralDigest ∨
    accept.rootPlans.length ≠ offer.manifest.roots.length ∨
    accept.entryPlans.length ≠ offer.manifest.entries.length) .acceptMismatch
  (offer.manifest.roots.zip accept.rootPlans).zipIdx.forM fun ((root, plan), index) =>
    reject (root.rootId ≠ UInt32.ofNat index ∨ plan.rootId ≠ root.rootId) .acceptMismatch
  (offer.manifest.entries.zip accept.entryPlans).forM fun (entry, plan) =>
    validateEntryPlan entry plan

/-! ## Ledger -/

/-- `EntryBlockV2` accepted at the checkpoint's boundary. -/
def validateBlock (entry : ManifestEntryV2) (checkpoint : ReceiverEntryCheckpointV2)
    (block : EntryBlockV2) :
    Except ManifestV2DataError Unit := do
  let start ← okOr checkpoint.start (.invalidLedger "entry start is missing")
  let expectedOffset ← okOr (checkedMul64 block.blockIndex start.plaintextBlockBytes.toUInt64)
    .arithmeticOverflow
  let ending ← okOr (checkedAdd64 block.plaintextOffset block.plaintextLength.toUInt64)
    .arithmeticOverflow
  reject (block.identity ≠ start.identity ∨
    block.entryId ≠ entry.entryId ∨
    block.blockIndex ≠ checkpoint.nextPlaintextBlock ∨
    block.plaintextOffset ≠ expectedOffset ∨
    ending > entry.plaintextSize ∨
    block.plaintextLength = 0 ∨
    block.plaintextLength > start.plaintextBlockBytes ∨
    block.encodedBytes = [] ∨
    block.encodedBytes.length > maxManifestV2BlockEncodedBytes.toNat ∨
    start.encoding = .identity ∧ block.plaintextLength.toNat ≠ block.encodedBytes.length ∨
    ending < entry.plaintextSize ∧ block.plaintextLength ≠ start.plaintextBlockBytes) .blockOrder

def encodeBlock [Zstd] (encoding : EntryEncodingV2) (plaintext : Bytes) :
    Except ManifestV2DataError Bytes := do
  let encoded ← match encoding with
    | .identity => pure plaintext
    | .zstd => okOr (Zstd.compress plaintext) .invalidCompressedBlock
  reject (encoded = [] ∨ encoded.length > maxManifestV2BlockEncodedBytes.toNat)
    .invalidCompressedBlock
  pure encoded

def decodeBlock [Zstd] (encoding : EntryEncodingV2) (block : EntryBlockV2) :
    Except ManifestV2DataError EntryBlockV2 := do
  let expected := block.plaintextLength.toNat
  let plaintext ← match encoding with
    | .identity => pure block.encodedBytes
    | .zstd => okOr (Zstd.decompress block.encodedBytes expected) .invalidCompressedBlock
  reject (plaintext.length ≠ expected) .invalidCompressedBlock
  pure { block with encodedBytes := plaintext }

/-- The digest a checkpoint holds once `digest` has been offered to it. -/
def setOrEqualDigest (checkpoint : ReceiverEntryCheckpointV2) (digest : ContentDigestV2) :
    Except ManifestV2DataError ReceiverEntryCheckpointV2 :=
  match checkpoint.contentDigest with
  | some existing => if existing ≠ digest then .error .digestConflict else .ok checkpoint
  | none => .ok { checkpoint with contentDigest := some digest }

/-- What `retire_mismatch` and `reset_payload_checkpoint` leave of a checkpoint's payload. -/
def ReceiverEntryCheckpointV2.retired (entry : ManifestEntryV2)
    (checkpoint : ReceiverEntryCheckpointV2) :
    ReceiverEntryCheckpointV2 :=
  { checkpoint with
    arbiter := .payloadOpen
    nextPlaintextBlock := 0
    plaintextBytes := 0
    contentDigest := committedDigest entry
    completion := none
    payloadRetired := true }

def ReceiverEntryCheckpointV2.resumeEntry (checkpoint : ReceiverEntryCheckpointV2) :
    ResumeEntryV2 where
  entryId := checkpoint.entryId
  arbiter := checkpoint.arbiter
  nextPlaintextBlock := checkpoint.nextPlaintextBlock
  contentDigest := checkpoint.contentDigest
  entryResult := checkpoint.result

def newCheckpoint (entry : ManifestEntryV2) (plan : EntryPlanV2) : ReceiverEntryCheckpointV2 where
  entryId := entry.entryId
  start := none
  arbiter := .payloadOpen
  nextPlaintextBlock := plan.nextPlaintextBlock
  plaintextBytes :=
    min (saturatingMul64 plan.nextPlaintextBlock defaultBlockBytes) entry.plaintextSize
  contentDigest := committedDigest entry
  completion := none
  result := none
  payloadRetired := false

section Codec

variable [Blake3] [UnicodeNormalization]

/-- `build_manifest_offer_v2(manifest.clone())` with its error carried as a frame error. -/
def rebuildOffer (manifest : ManifestV2) : Except ManifestV2DataError ManifestOfferV2 :=
  mapErr (fun error => .codec (.offer error.text)) (buildManifestOfferV2 manifest)

namespace ReceiverDataPlaneLedgerV2

/-- `accept.entry_plans[entry.entry_id as usize]` panics out of range; `validate_accept` has
checked the length, and `none` stands for that panic. -/
def new (offer : ManifestOfferV2) (accept : ManifestAcceptV2) :
    Except ManifestV2DataError (Option ReceiverDataPlaneLedgerV2) := do
  validateAccept offer accept
  let acceptBodyDigest ← mapErr .codec (canonicalManifestV2FrameBodyDigest (.accept accept))
  let entries := offer.manifest.entries.mapM fun entry =>
    (accept.entryPlans[entry.entryId.toNat]?).map (newCheckpoint entry)
  pure (entries.map fun entries =>
    { schemaVersion := receiverDataPlaneSchemaVersion
      identity := accept.identity
      manifestDigest := offer.structuralDigest
      accept
      acceptBodyDigest
      entries
      senderCompletionSetDigest := none })

def requiresAuthenticatedResume (ledger : ReceiverDataPlaneLedgerV2) : Bool :=
  ledger.senderCompletionSetDigest.isSome ∨ ledger.entries.any fun entry =>
    entry.start.isSome ∨ entry.completion.isSome ∨ entry.result.isSome ∨
      entry.nextPlaintextBlock > 0 ∨ entry.plaintextBytes > 0

/-- Some embedded frame of the checkpoint at `index` belongs elsewhere. -/
def foreignCheckpoint (identity : JobGenerationV2) (checkpoint : ReceiverEntryCheckpointV2)
    (index : Nat) : Prop :=
  checkpoint.entryId ≠ UInt32.ofNat index ∨
    (∃ result ∈ checkpoint.result, result.identity ≠ identity ∨
      result.entryId ≠ checkpoint.entryId) ∨
    (∃ start ∈ checkpoint.start, start.identity ≠ identity ∨ start.entryId ≠ checkpoint.entryId) ∨
    (∃ completion ∈ checkpoint.completion,
      completion.identity ≠ identity ∨ completion.entryId ≠ checkpoint.entryId)

instance (identity : JobGenerationV2) (checkpoint : ReceiverEntryCheckpointV2) (index : Nat) :
    Decidable (foreignCheckpoint identity checkpoint index) :=
  inferInstanceAs (Decidable (_ ∨ _))

def validate (ledger : ReceiverDataPlaneLedgerV2) (manifest : ManifestV2) :
    Except ManifestV2DataError Unit := do
  let rebuiltOffer ← rebuildOffer manifest
  reject (ledger.schemaVersion ≠ receiverDataPlaneSchemaVersion ∨
    ledger.identity.jobId ≠ manifest.jobId ∨
    ledger.identity.generation ≠ manifest.generation ∨
    ledger.manifestDigest ≠ rebuiltOffer.structuralDigest ∨
    ledger.entries.length ≠ manifest.entries.length ∨
    ledger.accept.identity ≠ ledger.identity ∨
    ledger.accept.manifestDigest ≠ ledger.manifestDigest)
    (.invalidLedger "identity, schema, or entry count changed")
  validateAccept rebuiltOffer ledger.accept
  ledger.entries.zipIdx.forM fun (checkpoint, index) =>
    reject (foreignCheckpoint ledger.identity checkpoint index)
      (.invalidLedger "entry checkpoint identity changed")
  let digest ← mapErr .codec (canonicalManifestV2FrameBodyDigest (.accept ledger.accept))
  reject (digest ≠ ledger.acceptBodyDigest) (.invalidLedger "Accept bytes changed after commit")

omit [Blake3] [UnicodeNormalization]

def resumeStatus (ledger : ReceiverDataPlaneLedgerV2) : ResumeStatusV2 where
  identity := ledger.identity
  acceptBodyDigest := ledger.acceptBodyDigest
  planRevision := ledger.accept.planRevision
  entries := ledger.entries.map (·.resumeEntry)
  challengeNonce := ByteVector.zero 32
  challengeMac := ByteVector.zero 32

def validateResumeRequest (ledger : ReceiverDataPlaneLedgerV2) (request : ResumeRequestV2) :
    Except ManifestV2DataError Unit :=
  reject (request.identity ≠ ledger.identity ∨
    request.offer.structuralDigest ≠ ledger.manifestDigest ∨
    request.acceptBodyDigest ≠ ledger.acceptBodyDigest) .acceptMismatch

def completedSummary (ledger : ReceiverDataPlaneLedgerV2) : Option ReceiverDataPlaneSummaryV2 := do
  let senderCompletionSetDigest ← ledger.senderCompletionSetDigest
  let entryResults ← ledger.entries.mapM (·.result)
  pure { identity := ledger.identity, senderCompletionSetDigest, entryResults }

/-- Boundary of an entry whose payload is still pending: id, next block, bytes, completed. -/
def pendingPayloadBoundaries (ledger : ReceiverDataPlaneLedgerV2) :
    List (UInt32 × UInt64 × UInt64 × Bool) :=
  (ledger.entries.filter fun entry => entry.result = none ∧
      ledger.accept.entryPlans[entry.entryId.toNat]?.map (·.disposition) = some .receivePayload).map
    fun entry => (entry.entryId, entry.nextPlaintextBlock, entry.plaintextBytes,
      entry.completion.isSome)

def pendingReuseEntries (ledger : ReceiverDataPlaneLedgerV2) : List (UInt32 × ContentDigestV2) :=
  (ledger.entries.filter fun entry => entry.result = none ∧ entry.arbiter = .reuseChosen).filterMap
    fun entry => entry.contentDigest.map (entry.entryId, ·)

end ReceiverDataPlaneLedgerV2

/-! ## Completions -/

def completionFromResult (entry : ManifestEntryV2) (result : EntryResultV2) :
    Except ManifestV2DataError EntryCompleteV2 := do
  reject (result.entryId ≠ entry.entryId ∨ result.finalSize ≠ entry.plaintextSize) .finalMismatch
  let finalDigest ← match entry.kind, result.finalDigest with
    | .regularFile, some digest => pure digest
    | .regularFile, none => throw .finalMismatch
    | .directory, none => pure emptyDigest
    | .directory, some _ => throw .finalMismatch
  pure {
    identity := result.identity
    entryId := result.entryId
    finalSize := result.finalSize
    finalDigest
    completionChoice := match result.result with
      | .saved => .payloadComplete
      | .reusedExisting => .reuseChosen }

def completionFromResumeCheckpoint (identity : JobGenerationV2) (entry : ManifestEntryV2)
    (checkpoint : ResumeEntryV2) : Except ManifestV2DataError EntryCompleteV2 := do
  let (finalDigest, completionChoice) ← match checkpoint.arbiter with
    | .payloadOpen => throw (.invalidLedger "open payload cannot be treated as complete")
    | .reuseChosen => do
      let digest ← okOr checkpoint.contentDigest
        (.invalidLedger "reused entry is missing its content digest")
      pure (digest, EntryCompletionChoiceV2.reuseChosen)
    | .payloadCompleteChosen => do
      let digest ← if entry.kind = .directory then pure emptyDigest
        else
          okOr checkpoint.contentDigest
            (.invalidLedger "completed file is missing its content digest")
      pure (digest, EntryCompletionChoiceV2.payloadComplete)
  pure { identity, entryId := entry.entryId, finalSize := entry.plaintextSize, finalDigest,
         completionChoice }

/-- The bytes `update_completion_set` adds to its hasher. -/
def completionSetBytes (completion : EntryCompleteV2) : Except ManifestV2DataError Bytes := do
  let bytes ← mapErr .codec (encodeManifestV2Frame (.entryComplete completion))
  pure (u32Be (UInt32.ofNat bytes.length) ++ bytes)

/-- A `blake3::Hasher` as the bytes it has been fed. -/
def updateCompletionSet (hasher : Bytes) (completion : EntryCompleteV2) :
    Except ManifestV2DataError Bytes := do
  let bytes ← completionSetBytes completion
  pure (hasher ++ bytes)

/-! ## Resume status -/

def validateResumeEntry (status : ResumeStatusV2) (entry : ManifestEntryV2)
    (checkpoint : ResumeEntryV2) :
    Except ManifestV2DataError Unit := do
  let total ← totalBlocks entry
  let resultMatchesArbiter := ∀ result ∈ checkpoint.entryResult,
    checkpoint.arbiter = .reuseChosen ∧ result.result = .reusedExisting ∨
      checkpoint.arbiter = .payloadCompleteChosen ∧ result.result = .saved
  let arbiterShapeValid : Bool := match checkpoint.arbiter with
    | .payloadOpen => checkpoint.entryResult = none
    | .reuseChosen => entry.kind = .regularFile ∧ checkpoint.nextPlaintextBlock = 0 ∧
      checkpoint.contentDigest.isSome
    | .payloadCompleteChosen => true
  reject (checkpoint.entryId ≠ entry.entryId ∨
    checkpoint.nextPlaintextBlock > total ∨
    ¬ arbiterShapeValid ∨
    ¬ resultMatchesArbiter ∨
    ∃ result ∈ checkpoint.entryResult, result.identity ≠ status.identity ∨
      result.entryId ≠ entry.entryId ∨ ¬ (completionFromResult entry result).isOk)
    (.invalidLedger "receiver resume boundary is inconsistent")

def validateResumeStatus (manifest : ManifestV2) (record : SenderDeliveryRecordV2)
    (status : ResumeStatusV2) :
    Except ManifestV2DataError Unit := do
  let accept ← okOr record.accept (.invalidLedger "sender Accept is missing during resume")
  reject (status.identity ≠ record.identity ∨
    some status.acceptBodyDigest ≠ record.acceptBodyDigest ∨
    status.planRevision ≠ accept.planRevision ∨
    status.entries.length ≠ manifest.entries.length) .acceptMismatch
  (manifest.entries.zip status.entries).forM fun (entry, checkpoint) =>
    validateResumeEntry status entry checkpoint
  if record.phase = .waitingForReceiverSave ∨ record.phase = .delivered then
    let completed ← okOr record.completedDataSummary
      (.invalidLedger "sender waiting-for-save record has no completed result set")
    reject (status.entries.mapM (·.entryResult) ≠ some completed.entryResults)
      (.invalidLedger "receiver resume result set differs from the sender checkpoint")

end Codec

/-! ## Sender progress and intent -/

def resumeEntryPlaintextBytes (entry : ManifestEntryV2) (checkpoint : ResumeEntryV2) :
    Except ManifestV2DataError UInt64 := do
  reject (checkpoint.entryId ≠ entry.entryId) .entryOrder
  if checkpoint.entryResult.isSome ∨ checkpoint.arbiter = .reuseChosen ∨
      checkpoint.arbiter = .payloadCompleteChosen then
    pure entry.plaintextSize
  else
    okOr ((checkedMul64 checkpoint.nextPlaintextBlock defaultBlockBytes).map
      (min · entry.plaintextSize))
      .arithmeticOverflow

def resumePlaintextBytes (manifest : ManifestV2) (status : ResumeStatusV2) :
    Except ManifestV2DataError UInt64 :=
  (manifest.entries.zip status.entries).foldlM (fun total (entry, checkpoint) => do
    let bytes ← resumeEntryPlaintextBytes entry checkpoint
    okOr (checkedAdd64 total bytes) .arithmeticOverflow) 0

def SenderResumeIntentV2.tag : SenderResumeIntentV2 → UInt8
  | .continueData => 1
  | .awaitDelivery => 2

def senderCheckpointContext : String := "envoix/manifest/v2/sender-checkpoint"

def senderCheckpointDigest [Blake3] (manifestDigest acceptBodyDigest : ContentDigestV2)
    (intent : SenderResumeIntentV2) : ContentDigestV2 :=
  ⟨Blake3.deriveKey senderCheckpointContext
    (manifestDigest.bytes.toList ++ acceptBodyDigest.bytes.toList ++ [intent.tag])⟩

def senderResumeIntent [Blake3] (manifestDigest acceptBodyDigest : ContentDigestV2)
    (request : ResumeRequestV2) :
    Except ManifestV2DataError SenderResumeIntentV2 :=
  if request.senderCheckpointDigest =
    senderCheckpointDigest manifestDigest acceptBodyDigest .continueData then
    .ok .continueData
  else if request.senderCheckpointDigest =
    senderCheckpointDigest manifestDigest acceptBodyDigest .awaitDelivery then
    .ok .awaitDelivery
  else .error (.invalidLedger "sender reconnect intent is invalid")

/-! ## Entry results -/

/-- The result kind a completion choice leads to. -/
def expectedResult : EntryCompletionChoiceV2 → EntryResultKindV2
  | .payloadComplete => .saved
  | .reuseChosen => .reusedExisting

def validateEntryResult (entry : ManifestEntryV2) (identity : JobGenerationV2)
    (completion : EntryCompleteV2) (result : EntryResultV2) : Except ManifestV2DataError Unit :=
  reject (result.identity ≠ identity ∨
    result.entryId ≠ entry.entryId ∨
    result.result ≠ expectedResult completion.completionChoice ∨
    result.finalSize ≠ entry.plaintextSize ∨
    entry.kind = .directory ∧ result.finalDigest.isSome ∨
    entry.kind = .regularFile ∧ result.finalDigest = none ∨
    entry.kind = .regularFile ∧ result.finalDigest ≠ some completion.finalDigest) .finalMismatch

def handleSenderControl (frame : ManifestV2Frame) (identity : JobGenerationV2) :
    ManifestV2DataError :=
  match frame with
  | .cancel cancel =>
    if cancel.identity = identity then .unexpectedFrame "peer canceled job"
    else .unexpectedFrame "sending entry payload"
  | .error error =>
    if error.identity = identity then .unexpectedFrame "peer reported failure"
    else .unexpectedFrame "sending entry payload"
  | _ => .unexpectedFrame "sending entry payload"

end Envoix.Transfer
