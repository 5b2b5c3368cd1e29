import Envoix.Foundation.Process
import Envoix.Protocol.Frames

/-! # Delivery records, proofs and their stores

Model of `envoix-transfer/src/delivery_v2.rs`: the two durable delivery records, the proof the
receiver builds from its result set, and the two functions that exchange it.  A `&mut self`
method is a state transformer whose state survives an error, as the borrowed record does.
-/

namespace Envoix.Transfer

open ByteCodec Fallible Process Process.Method Envoix.Protocol

def senderDeliverySchemaVersion : UInt16 := 3
def legacySenderDeliverySchemaVersion : UInt16 := 2
def receiverDeliverySchemaVersion : UInt16 := 1

def smartCompressibleExtensions : List String := [
  "c", "cc", "cfg", "conf", "cpp", "css", "csv", "cxx", "fish", "go", "graphql", "h", "hh",
  "hpp", "htm", "html", "ini", "java", "js", "json", "jsonl", "jsx", "kt", "kts", "log", "md",
  "markdown", "ndjson", "php", "plist", "py", "rb", "rs", "rtf", "sh", "sql", "srt", "svg",
  "swift", "text", "toml", "ts", "tsx", "tsv", "txt", "vtt", "xml", "yaml", "yml", "zsh"]

def challengeKeyContext : String := "envoix/manifest/v2/accept-challenge-key"
def deliveryKeyContext : String := "envoix/manifest/v2/delivery-proof-key"
def challengeTranscriptContext : Bytes := asBytes "envoix/manifest/v2/accept-challenge"
def deliveryTranscriptContext : Bytes := asBytes "envoix/manifest/v2/delivery-proof"
def resultSetContext : String := "envoix/manifest/v2/result-set"

/-! ## Data model -/

inductive SenderTransferPhaseV2 where
  | offering
  | transferring
  | waitingForReceiverSave
  | delivered
  | failed
  | canceled
deriving DecidableEq

structure SenderDataPlaneSummaryV2 where
  identity : JobGenerationV2
  acceptBodyDigest : ContentDigestV2
  senderCompletionSetDigest : ContentDigestV2
  entryResults : List EntryResultV2
deriving DecidableEq

structure ReceiverDataPlaneSummaryV2 where
  identity : JobGenerationV2
  senderCompletionSetDigest : ContentDigestV2
  entryResults : List EntryResultV2
deriving DecidableEq

structure SenderDeliveryRecordV2 where
  schemaVersion : UInt16
  identity : JobGenerationV2
  manifestDigest : ContentDigestV2
  phase : SenderTransferPhaseV2
  accept : Option ManifestAcceptV2
  acceptBodyDigest : Option ContentDigestV2
  senderCompletionSetDigest : Option ContentDigestV2
  entryResults : List EntryResultV2
  deliveryProof : Option DeliveryProofV2
  entryEncodings : List EntryEncodingV2
deriving DecidableEq

structure ReceiverDeliveryRecordV2 where
  schemaVersion : UInt16
  identity : JobGenerationV2
  manifestDigest : ContentDigestV2
  resultSetDigest : ContentDigestV2
  entryResults : List EntryResultV2
  proofCapability : ProofCapabilityV2
  deliveryProof : Option DeliveryProofV2
deriving DecidableEq

/-- Foreign errors (`Io`, `Json`, `Transport`) are carried by their text. -/
inductive DeliveryAuthorityErrorV2 where
  | identityMismatch
  | capabilityMismatch
  | resultMismatch
  | invalidProof
  | invalidRecord
  | entropy
  | io (message : String)
  | json (message : String)
  | codec (error : ManifestV2FrameCodecError)
  | transport (message : String)
deriving DecidableEq

/-- The `Display` text of a delivery error. -/
def DeliveryAuthorityErrorV2.text : DeliveryAuthorityErrorV2 → String
  | .identityMismatch => "delivery authority belongs to another job or generation"
  | .capabilityMismatch => "receiver proof capability changed for an accepted job"
  | .resultMismatch => "receiver result set changed after commit"
  | .invalidProof => "delivery proof MAC is invalid"
  | .invalidRecord => "delivery record schema is unsupported or inconsistent"
  | .entropy => "receiver entropy unavailable"
  | .io message => message
  | .json message => message
  | .codec error => error.text
  | .transport message => "transport failed: " ++ message

/-! ## Entry encodings -/

/-- `str::rsplit_once` at a character. -/
def rsplitOnce (text : String) (separator : Char) : Option (String × String) :=
  if separator ∈ text.toList then
    let reversed := text.toList.reverse
    some (String.ofList (reversed.dropWhile (· ≠ separator)).tail.reverse,
      String.ofList (reversed.takeWhile (· ≠ separator)).reverse)
  else
    none

/-- `str::eq_ignore_ascii_case` -/
def eqIgnoreAsciiCase (left right : String) : Bool :=
  left.toList.map Char.toLower = right.toList.map Char.toLower

def isSmartCompressionCandidate (component : String) : Bool :=
  match rsplitOnce component '.' with
  | none => false
  | some (stem, extension) =>
    if stem = "" ∨ extension = "" then false
    else smartCompressibleExtensions.any (eqIgnoreAsciiCase extension)

def initialEntryEncoding (entry : ManifestEntryV2) (policy : CompressionPolicyV2) :
    EntryEncodingV2 :=
  if entry.kind = .directory then .identity
  else match policy with
    | .never => .identity
    | .always => .zstd
    | .smart => if isSmartCompressionCandidate entry.component then .zstd else .identity

def validateEntryEncodings (offer : ManifestOfferV2) (entryEncodings : List EntryEncodingV2) :
    Except DeliveryAuthorityErrorV2 Unit :=
  reject (entryEncodings.length ≠ offer.manifest.entries.length ∨
    ∃ pair ∈ offer.manifest.entries.zip entryEncodings,
      pair.1.kind = .directory ∧ pair.2 ≠ .identity) .invalidRecord

/-! ## Result-set digest and MACs -/

section Digests

variable [Blake3] [UnicodeNormalization]

/-- What `result_set_digest` feeds its hasher, from position `index` on. -/
def resultSetBytes (index : Nat) : List EntryResultV2 → Except DeliveryAuthorityErrorV2 Bytes
  | [] => pure []
  | result :: results => do
    reject (result.entryId ≠ UInt32.ofNat index) .resultMismatch
    let encoded ← mapErr .codec (encodeManifestV2Frame (.entryResult result))
    let rest ← resultSetBytes (index + 1) results
    pure (u32Be (UInt32.ofNat encoded.length) ++ encoded ++ rest)

def resultSetDigest (results : List EntryResultV2) :
    Except DeliveryAuthorityErrorV2 ContentDigestV2 := do
  let bytes ← resultSetBytes 0 results
  pure ⟨Blake3.deriveKey resultSetContext bytes⟩

omit [UnicodeNormalization]

def deliveryTranscript (identity : JobGenerationV2)
    (manifestDigest resultSetDigest : ContentDigestV2) (proofNonce : ByteVector 32) : Bytes :=
  deliveryTranscriptContext ++ identity.jobId.bytes.toList ++ u32Be identity.generation ++
    manifestDigest.bytes.toList ++ resultSetDigest.bytes.toList ++ proofNonce.toList

def deliveryMac (capability : ProofCapabilityV2) (identity : JobGenerationV2)
    (manifestDigest resultSetDigest : ContentDigestV2) (proofNonce : ByteVector 32) :
    ByteVector 32 :=
  Blake3.keyedHash (Blake3.deriveKey deliveryKeyContext capability.bytes.toList)
    (deliveryTranscript identity manifestDigest resultSetDigest proofNonce)

def challengeMac (capability : ProofCapabilityV2) (identity : JobGenerationV2)
    (challengeNonce : ByteVector 32) : ByteVector 32 :=
  Blake3.keyedHash (Blake3.deriveKey challengeKeyContext capability.bytes.toList)
    (challengeTranscriptContext ++ identity.jobId.bytes.toList ++ u32Be identity.generation ++
      challengeNonce.toList)

def buildDeliveryProof (identity : JobGenerationV2)
    (manifestDigest resultSetDigest : ContentDigestV2) (proofNonce : ByteVector 32)
    (capability : ProofCapabilityV2) : DeliveryProofV2 where
  identity
  manifestDigest
  resultSetDigest
  proofNonce
  proofMac := deliveryMac capability identity manifestDigest resultSetDigest proofNonce

/-- The MAC a proof should carry under `capability`. -/
def expectedMac (capability : ProofCapabilityV2) (proof : DeliveryProofV2) : ByteVector 32 :=
  deliveryMac capability proof.identity proof.manifestDigest proof.resultSetDigest proof.proofNonce

def answerResumeChallenge (identity : JobGenerationV2) (challengeNonce : ByteVector 32)
    (capability : ProofCapabilityV2) : ByteVector 32 :=
  challengeMac capability identity challengeNonce

def verifyResumeChallenge (identity : JobGenerationV2) (challengeNonce responseMac : ByteVector 32)
    (capability : ProofCapabilityV2) : Except DeliveryAuthorityErrorV2 Unit :=
  reject (responseMac ≠ challengeMac capability identity challengeNonce) .invalidProof

end Digests

/-- Some result is foreign or out of place: `results.iter().enumerate().any(..)`. -/
def hasForeignResult (identity : JobGenerationV2) (results : List EntryResultV2) : Bool :=
  results.zipIdx.any fun (result, index) => result.identity ≠ identity ∨
    result.entryId ≠ UInt32.ofNat index

/-! ## Sender record -/

namespace SenderDeliveryRecordV2

def new (offer : ManifestOfferV2) : SenderDeliveryRecordV2 where
  schemaVersion := senderDeliverySchemaVersion
  identity := { jobId := offer.manifest.jobId, generation := offer.manifest.generation }
  manifestDigest := offer.structuralDigest
  phase := .offering
  accept := none
  acceptBodyDigest := none
  senderCompletionSetDigest := none
  entryResults := []
  deliveryProof := none
  entryEncodings :=
    offer.manifest.entries.map (initialEntryEncoding · offer.manifest.compressionPolicy)

def frozenEntryEncoding (record : SenderDeliveryRecordV2) (entryId : UInt32) :
    Except DeliveryAuthorityErrorV2 EntryEncodingV2 :=
  okOr record.entryEncodings[entryId.toNat]? .invalidRecord

def requiresEntryEncodingMigration (record : SenderDeliveryRecordV2) : Bool :=
  record.schemaVersion = legacySenderDeliverySchemaVersion ∧ record.entryEncodings = []

def proofCapability (record : SenderDeliveryRecordV2) : Option ProofCapabilityV2 :=
  record.accept.map (·.proofCapability)

def completedDataSummary (record : SenderDeliveryRecordV2) : Option SenderDataPlaneSummaryV2 := do
  let acceptBodyDigest ← record.acceptBodyDigest
  let senderCompletionSetDigest ← record.senderCompletionSetDigest
  let entryResults ← if record.entryResults ≠ [] then some record.entryResults else none
  pure { identity := record.identity, acceptBodyDigest, senderCompletionSetDigest, entryResults }

def acceptCommitted (record : SenderDeliveryRecordV2) : Prop :=
  record.acceptBodyDigest.isSome ∧ record.accept.isSome

instance (record : SenderDeliveryRecordV2) : Decidable record.acceptCommitted :=
  inferInstanceAs (Decidable (_ ∧ _))

/-- The shape `validate` asks of a record in its phase. -/
def validPhase (record : SenderDeliveryRecordV2) : Bool :=
  match record.phase with
  | .offering => ¬ record.acceptCommitted ∧ record.entryResults = [] ∧ record.deliveryProof = none
  | .transferring => record.acceptCommitted ∧ record.entryResults = [] ∧ record.deliveryProof = none
  | .waitingForReceiverSave =>
    record.acceptCommitted ∧ record.entryResults ≠ [] ∧ record.deliveryProof = none
  | .delivered => record.acceptCommitted ∧ record.entryResults ≠ [] ∧ record.deliveryProof.isSome
  | .failed | .canceled => record.deliveryProof = none

def encodingShapeIsValid (record : SenderDeliveryRecordV2) : Bool :=
  if record.schemaVersion = senderDeliverySchemaVersion then record.entryEncodings ≠ []
  else if record.schemaVersion = legacySenderDeliverySchemaVersion then record.entryEncodings = []
  else false

section Digests

variable [Blake3] [UnicodeNormalization]

def validate (record : SenderDeliveryRecordV2) : Except DeliveryAuthorityErrorV2 Unit := do
  reject (¬ record.encodingShapeIsValid ∨
    record.acceptBodyDigest.isSome ≠ record.accept.isSome ∨
    record.entryResults.isEmpty ≠ record.senderCompletionSetDigest.isNone ∨
    hasForeignResult record.identity record.entryResults ∨
    ∃ proof ∈ record.deliveryProof, proof.identity ≠ record.identity) .invalidRecord
  match record.deliveryProof with
  | none => pure ()
  | some proof => do
    let capability ← okOr record.proofCapability .invalidRecord
    reject (proof.manifestDigest ≠ record.manifestDigest) .invalidRecord
    let expected ← resultSetDigest record.entryResults
    reject (proof.resultSetDigest ≠ expected ∨ proof.proofMac ≠ expectedMac capability proof)
      .invalidRecord
  reject (¬ record.validPhase) .invalidRecord

def validateOffer (record : SenderDeliveryRecordV2) (offer : ManifestOfferV2) :
    Except DeliveryAuthorityErrorV2 Unit := do
  reject (record.identity ≠
    { jobId := offer.manifest.jobId, generation := offer.manifest.generation } ∨
    record.manifestDigest ≠ offer.structuralDigest) .invalidRecord
  if record.schemaVersion = senderDeliverySchemaVersion then
    validateEntryEncodings offer record.entryEncodings
  else
    reject (¬ (record.schemaVersion = legacySenderDeliverySchemaVersion ∧
      record.entryEncodings = []))
      .invalidRecord
  record.validate

end Digests

end SenderDeliveryRecordV2

/-- A `&mut self` method of the sender record. -/
abbrev SenderMethod := Method Id SenderDeliveryRecordV2 DeliveryAuthorityErrorV2

namespace SenderDeliveryRecordV2

def freezeEntryEncodings [Blake3] [UnicodeNormalization] (offer : ManifestOfferV2)
    (entryEncodings : List EntryEncodingV2) : SenderMethod Unit := do
  raise (reject (¬ (← get).requiresEntryEncodingMigration) .invalidRecord)
  raise ((← get).validateOffer offer)
  raise (validateEntryEncodings offer entryEncodings)
  modify ({ · with entryEncodings, schemaVersion := senderDeliverySchemaVersion })
  raise ((← get).validateOffer offer)

def commitAccept (accept : ManifestAcceptV2) (acceptBodyDigest : ContentDigestV2) :
    SenderMethod Unit := do
  let record ← get
  raise (reject (record.phase = .failed ∨ record.phase = .canceled) .invalidRecord)
  raise (reject (accept.identity ≠ record.identity ∨ accept.manifestDigest ≠ record.manifestDigest)
    .identityMismatch)
  match record.acceptBodyDigest, record.accept with
  | some existingDigest, some existingAccept =>
    raise (reject (¬ (existingDigest = acceptBodyDigest ∧ existingAccept = accept))
      .capabilityMismatch)
  | none, none =>
    set { record with accept := some accept, acceptBodyDigest := some acceptBodyDigest }
  | _, _ => throw .capabilityMismatch
  if record.phase = .offering then
    modify ({ · with phase := .transferring })

def commitResults (summary : SenderDataPlaneSummaryV2) : SenderMethod Unit := do
  let record ← get
  raise (reject (summary.identity ≠ record.identity ∨
    record.acceptBodyDigest ≠ some summary.acceptBodyDigest)
    .identityMismatch)
  raise (reject (¬ (record.phase = .transferring ∨ record.phase = .waitingForReceiverSave ∨
    record.phase = .delivered)) .invalidRecord)
  if record.entryResults = [] then
    modify ({ · with entryResults := summary.entryResults })
  else
    raise (reject (record.entryResults ≠ summary.entryResults) .resultMismatch)
  match record.senderCompletionSetDigest with
  | some existing => raise (reject (existing ≠ summary.senderCompletionSetDigest) .resultMismatch)
  | none => modify ({ · with senderCompletionSetDigest := some summary.senderCompletionSetDigest })
  if record.phase = .transferring then
    modify ({ · with phase := .waitingForReceiverSave })

end SenderDeliveryRecordV2

/-! ## Receiver record -/

namespace ReceiverDeliveryRecordV2

variable [Blake3] [UnicodeNormalization]

def validate (record : ReceiverDeliveryRecordV2) : Except DeliveryAuthorityErrorV2 Unit := do
  reject (record.schemaVersion ≠ receiverDeliverySchemaVersion ∨
    hasForeignResult record.identity record.entryResults) .invalidRecord
  let digest ← Transfer.resultSetDigest record.entryResults
  reject (digest ≠ record.resultSetDigest) .invalidRecord
  match record.deliveryProof with
  | none => pure ()
  | some proof => reject (proof.identity ≠ record.identity ∨
      proof.manifestDigest ≠ record.manifestDigest ∨
      proof.resultSetDigest ≠ record.resultSetDigest ∨
      proof.proofMac ≠ expectedMac record.proofCapability proof) .invalidRecord

def validated (record : ReceiverDeliveryRecordV2) :
    Except DeliveryAuthorityErrorV2 ReceiverDeliveryRecordV2 := do
  record.validate
  pure record

def new (offer : ManifestOfferV2) (accept : ManifestAcceptV2)
    (summary : ReceiverDataPlaneSummaryV2) :
    Except DeliveryAuthorityErrorV2 ReceiverDeliveryRecordV2 := do
  reject (accept.identity ≠ summary.identity ∨
    accept.identity.jobId ≠ offer.manifest.jobId ∨
    accept.identity.generation ≠ offer.manifest.generation ∨
    accept.manifestDigest ≠ offer.structuralDigest ∨
    summary.entryResults.length ≠ offer.manifest.entries.length) .identityMismatch
  let digest ← Transfer.resultSetDigest summary.entryResults
  validated {
    schemaVersion := receiverDeliverySchemaVersion
    identity := accept.identity
    manifestDigest := offer.structuralDigest
    resultSetDigest := digest
    entryResults := summary.entryResults
    proofCapability := accept.proofCapability
    deliveryProof := none }

end ReceiverDeliveryRecordV2

/-! ## What the functions ask of their environment -/

/-- How the write of a state file ended.  `replace_file` renames first and syncs the directory
after, so a failed write may still have replaced the file. -/
inductive WriteReply where
  | written
  | failed (replaced : Bool) (message : String)
deriving DecidableEq

/-- The state file now holds what was written. -/
def WriteReply.durable : WriteReply → Bool
  | .written => true
  | .failed replaced _ => replaced

/-- `saveReceiver` and `saveSender` are the file operations of the two stores' `save`: create the
directory, write and sync the temporary file, replace the final one. -/
inductive DeliveryOp where
  | fillEntropy
  | saveReceiver (record : ReceiverDeliveryRecordV2)
  | saveSender (record : SenderDeliveryRecordV2)
  | sendManifestV2Frame (frame : ManifestV2Frame)
  | recvManifestV2Frame
deriving DecidableEq

@[reducible] def DeliveryReply : DeliveryOp → Type
  | .fillEntropy => Option (ByteVector 32)
  | .saveReceiver _ => WriteReply
  | .saveSender _ => WriteReply
  | .sendManifestV2Frame _ => Except String Unit
  | .recvManifestV2Frame => Except String ManifestV2Frame

/-- A function that borrows a record mutably and talks to its environment. -/
abbrev DeliveryProgram (Record : Type) :=
  Method (Proc DeliveryOp DeliveryReply) Record DeliveryAuthorityErrorV2

/-- `?` on the outcome of a write. -/
def writeResult : WriteReply → Except DeliveryAuthorityErrorV2 Unit
  | .written => .ok ()
  | .failed _ message => .error (.io message)

section Authority

variable [Blake3] [UnicodeNormalization]

def ReceiverDeliveryStoreV2.save {Record : Type} (record : ReceiverDeliveryRecordV2) :
    DeliveryProgram Record Unit := do
  raise record.validate
  raise (writeResult (← perform (.saveReceiver record)))

def SenderDeliveryStoreV2.save {Record : Type} (record : SenderDeliveryRecordV2) :
    DeliveryProgram Record Unit := do
  raise record.validate
  raise (writeResult (← perform (.saveSender record)))

def receiverSendProof : DeliveryProgram ReceiverDeliveryRecordV2 DeliveryProofV2 := do
  let record ← get
  let proof ← match record.deliveryProof with
    | some proof => pure proof
    | none => do
      let proofNonce ← raise (okOr (← perform .fillEntropy) .entropy)
      let proof := buildDeliveryProof record.identity record.manifestDigest record.resultSetDigest
        proofNonce record.proofCapability
      set { record with deliveryProof := some proof }
      ReceiverDeliveryStoreV2.save (← get)
      pure proof
  raise (mapErr .transport (← perform (.sendManifestV2Frame (.deliveryProof proof))))
  pure proof

def senderConfirmDelivery : DeliveryProgram SenderDeliveryRecordV2 DeliveryProofV2 := do
  let record ← get
  raise (reject (¬ (record.phase = .waitingForReceiverSave ∨ record.phase = .delivered))
    .invalidRecord)
  let proof ← match ← raise (mapErr .transport (← perform .recvManifestV2Frame)) with
    | .deliveryProof proof => pure proof
    | _ => throw .invalidProof
  if record.phase = .delivered then
    raise (reject (record.deliveryProof ≠ some proof) .invalidProof)
    return proof
  let capability ← raise (okOr record.proofCapability .invalidRecord)
  let expectedResultDigest ← raise (resultSetDigest record.entryResults)
  raise (reject (proof.identity ≠ record.identity ∨
    proof.manifestDigest ≠ record.manifestDigest ∨
    proof.resultSetDigest ≠ expectedResultDigest ∨
    proof.proofMac ≠ expectedMac capability proof) .invalidProof)
  set { record with deliveryProof := some proof, phase := .delivered }
  SenderDeliveryStoreV2.save (← get)
  pure proof

end Authority

end Envoix.Transfer
