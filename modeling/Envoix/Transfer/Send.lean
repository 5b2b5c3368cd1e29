import Envoix.Transfer.Engine

/-! # Sending

Model of `ManifestV2DataPlane::send` and `establish_sender_reconnect` in
`envoix-transfer/src/manifest_v2_engine.rs`.  A job enters through the manifest it sealed and
through the sources of its entries.  `fuel` bounds the blocks of one file; a run longer than its
fuel is cut at `abort`.
-/

namespace Envoix.Transfer

open ByteCodec Fallible Process Process.Method Envoix.Protocol

abbrev SendProgram := EngineProgram SenderDeliveryRecordV2

section Entry

variable {State : Type}

def sendLateDigestAndReceiveStatus (identity : JobGenerationV2) (entryId : UInt32)
    (digest : ContentDigestV2) :
    EngineProgram State Bool := do
  sendFrame (.entryContentDigest { identity, entryId, digest, decision := .proposed })
  let response ← match ← recvFrame with
    | .entryContentDigest response => pure response
    | frame => throw (handleSenderControl frame identity)
  raise (reject (response.identity ≠ identity ∨
    response.entryId ≠ entryId ∨
    response.digest ≠ digest ∨
    response.decision = .proposed) .identityMismatch)
  pure (response.decision = .reuseExisting)

def recvEntryResult (identity : JobGenerationV2) (entryId : UInt32) :
    EngineProgram State EntryResultV2 := do
  match ← recvFrame with
  | .entryResult result =>
    raise (reject (¬ (result.identity = identity ∧ result.entryId = entryId))
      (.unexpectedFrame "waiting for EntryResult"))
    pure result
  | _ => throw (.unexpectedFrame "waiting for EntryResult")

def sendDirectory [Blake3] (identity : JobGenerationV2) (entry : ManifestEntryV2) :
    EngineProgram State EntryCompleteV2 := do
  sendFrame (.entryStart {
    identity
    entryId := entry.entryId
    encoding := .identity
    plaintextBlockBytes := defaultManifestV2BlockPlaintextBytes })
  let completion : EntryCompleteV2 := {
    identity
    entryId := entry.entryId
    finalSize := 0
    finalDigest := emptyDigest
    completionChoice := .payloadComplete }
  sendFrame (.entryComplete completion)
  pure completion

/-- The variables of `send_file`'s block loop.  `payload` is what its hasher has been fed,
`hashTask` says that the background hash has not been taken yet. -/
structure SendFileState where
  lateDigest : Option ContentDigestV2
  reuseChosen : Bool
  blockIndex : UInt64
  plaintextOffset : UInt64
  payload : Bytes
  hashTask : Bool
  completed : UInt64

/-- `await_hash_task(hash_task.take())` -/
def awaitHashTask (entryId : UInt32) (pending : Bool) : EngineProgram State ContentDigestV2 := do
  raise (reject (¬ pending) .digestConflict)
  attempt (.awaitHashTask entryId) rfl

/-- Sends one block while listening: the progress after it. -/
def transmitBlock [Zstd] (identity : JobGenerationV2) (entry : ManifestEntryV2)
    (encoding : EntryEncodingV2) (total : UInt64) (file : SendFileState) (length : UInt64)
    (bytes : Bytes) : EngineProgram State UInt64 := do
  let encodedBytes ← raise (encodeBlock encoding bytes)
  let response ← raise (mapErr .core (← perform (EngineOp.sendEntryBlockOrRecvFrame {
    identity
    entryId := entry.entryId
    blockIndex := file.blockIndex
    plaintextOffset := file.plaintextOffset
    plaintextLength := UInt32.ofNat length.toNat
    encodedBytes })))
  match response with
  | some frame => throw (handleSenderControl frame identity)
  | none =>
    onStage .firstPayload
    advance file.completed length total

/-- One block of the loop: read, hash, and send from the boundary on. -/
def sendBlock [Zstd] (identity : JobGenerationV2) (entry : ManifestEntryV2) (plan : EntryPlanV2)
    (encoding : EntryEncodingV2) (total : UInt64) (file : SendFileState) :
    EngineProgram State SendFileState := do
  let length := min (entry.plaintextSize - file.plaintextOffset) defaultBlockBytes
  let bytes ← raise (mapErr .io (← perform (EngineOp.readExact entry.entryId length.toNat)))
  let completed ← if file.blockIndex ≥ plan.nextPlaintextBlock then
      transmitBlock identity entry encoding total file length bytes
    else pure file.completed
  let blockIndex ← raise (okOr (checkedAdd64 file.blockIndex 1) .arithmeticOverflow)
  let plaintextOffset ← raise (okOr (checkedAdd64 file.plaintextOffset length) .arithmeticOverflow)
  pure { file with blockIndex, plaintextOffset, payload := file.payload ++ bytes, completed }

/-- A background hash that has just finished is proposed to the receiver. -/
def proposeLateDigest (identity : JobGenerationV2) (entry : ManifestEntryV2)
    (file : SendFileState) :
    EngineProgram State SendFileState := do
  let digest ← awaitHashTask entry.entryId file.hashTask
  let reuseChosen ← sendLateDigestAndReceiveStatus identity entry.entryId digest
  pure { file with hashTask := false, lateDigest := some digest, reuseChosen }

/-- Whether the background hash is still wanted and has finished. -/
def lateDigestReady (entry : ManifestEntryV2) (file : SendFileState) : EngineProgram State Bool :=
  if file.lateDigest = none ∧ file.hashTask then perform (EngineOp.hashTaskFinished entry.entryId)
  else pure false

def sendFileLoop [Zstd] (identity : JobGenerationV2) (entry : ManifestEntryV2) (plan : EntryPlanV2)
    (encoding : EntryEncodingV2) (total : UInt64) : Nat → SendFileState →
      EngineProgram State SendFileState
  | 0, _ => abort
  | fuel + 1, file => do
    if ¬ file.plaintextOffset < entry.plaintextSize then
      return file
    if ← lateDigestReady entry file then
      let file ← proposeLateDigest identity entry file
      if file.reuseChosen then
        return file
      let file ← sendBlock identity entry plan encoding total file
      sendFileLoop identity entry plan encoding total fuel file
    else
      let file ← sendBlock identity entry plan encoding total file
      sendFileLoop identity entry plan encoding total fuel file

/-- The end of `send_file` without reuse: the final digest, and whether the receiver chose reuse
for a digest proposed only now. -/
def finishPayload [Blake3] (identity : JobGenerationV2) (entry : ManifestEntryV2)
    (file : SendFileState) :
    EngineProgram State (ContentDigestV2 × Bool) := do
  let payloadDigest : ContentDigestV2 := ⟨Blake3.hash file.payload⟩
  attempt (.verifyUnchanged entry.entryId) rfl
  match committedDigest entry with
  | some expected =>
    raise (reject (expected ≠ payloadDigest) .finalMismatch)
    pure (expected, file.reuseChosen)
  | none =>
    let digest ← match file.lateDigest with
      | some digest => pure digest
      | none => awaitHashTask entry.entryId file.hashTask
    raise (reject (digest ≠ payloadDigest) .finalMismatch)
    let reuseChosen ← if file.lateDigest = none then
        sendLateDigestAndReceiveStatus identity entry.entryId digest
      else pure file.reuseChosen
    pure (digest, reuseChosen)

/-- The end of `send_file`: final digest, whether the receiver reuses an object, and progress. -/
def finishFile [Blake3] (identity : JobGenerationV2) (entry : ManifestEntryV2) (plan : EntryPlanV2)
    (total resumedEntryBytes : UInt64) (file : SendFileState) :
    EngineProgram State (ContentDigestV2 × Bool × UInt64) := do
  if file.reuseChosen then
    attempt (.verifyUnchanged entry.entryId) rfl
    let entryProgress := max (max resumedEntryBytes file.plaintextOffset)
      (min (saturatingMul64 plan.nextPlaintextBlock defaultBlockBytes) entry.plaintextSize)
    let completed ← advance file.completed (saturatingSub64 entry.plaintextSize entryProgress) total
    let digest ← raise (okOr file.lateDigest .digestConflict)
    pure (digest, true, completed)
  else
    let (digest, reuseChosen) ← finishPayload identity entry file
    pure (digest, reuseChosen, file.completed)

/-- `send_file` for an object the receiver already has. -/
def sendReusedFile (identity : JobGenerationV2) (entry : ManifestEntryV2)
    (total resumedEntryBytes completed : UInt64) :
    EngineProgram State (EntryCompleteV2 × UInt64) := do
  let finalDigest ← raise (okOr (committedDigest entry) .reuseUnavailable)
  attempt (.verifyUnchanged entry.entryId) rfl
  let completion : EntryCompleteV2 := {
    identity
    entryId := entry.entryId
    finalSize := entry.plaintextSize
    finalDigest
    completionChoice := .reuseChosen }
  sendFrame (.entryComplete completion)
  let completed ← advance completed (saturatingSub64 entry.plaintextSize resumedEntryBytes) total
  pure (completion, completed)

/-- `send_file`: the completion it sent and the progress after it. -/
def sendFile [Blake3] [Zstd] (fuel : Nat) (identity : JobGenerationV2) (entry : ManifestEntryV2)
    (plan : EntryPlanV2) (encoding : EntryEncodingV2) (total resumedEntryBytes completed : UInt64) :
    EngineProgram State (EntryCompleteV2 × UInt64) := do
  sendFrame (.entryStart {
    identity
    entryId := entry.entryId
    encoding
    plaintextBlockBytes := defaultManifestV2BlockPlaintextBytes })
  if plan.disposition = .reuseExisting then
    sendReusedFile identity entry total resumedEntryBytes completed
  else
    attempt (.openSource entry.entryId) rfl
    let file ← sendFileLoop identity entry plan encoding total fuel {
      lateDigest := none
      reuseChosen := false
      blockIndex := 0
      plaintextOffset := 0
      payload := []
      hashTask := committedDigest entry = none
      completed }
    let (finalDigest, reuseChosen,
      completed) ← finishFile identity entry plan total resumedEntryBytes file
    let completion : EntryCompleteV2 := {
      identity
      entryId := entry.entryId
      finalSize := entry.plaintextSize
      finalDigest
      completionChoice := if reuseChosen then .reuseChosen else .payloadComplete }
    sendFrame (.entryComplete completion)
    pure (completion, completed)

def legacyEntryEncoding [Zstd] (entry : ManifestEntryV2) (policy : CompressionPolicyV2) :
    EngineProgram State EntryEncodingV2 := do
  if entry.kind = .directory then
    return .identity
  match policy with
  | .never => return .identity
  | .always => return .zstd
  | .smart =>
    attempt (.sourceForSealedEntry entry.entryId) rfl
    attempt (.openSource entry.entryId) rfl
    let sample ← attempt (.readSample entry.entryId) rfl
    if sample = [] then
      return .identity
    let compressed ← raise (okOr (Zstd.compress sample) .invalidCompressedBlock)
    return if compressed.length < sample.length then .zstd else .identity

end Entry

section Send

variable [Blake3] [UnicodeNormalization]

/-- A pure method of the record, as a program. -/
def onRecord {α : Type} (method : SenderMethod α) : SendProgram α := do
  let (result, record) := method.runOn (← get)
  set record
  raise (mapErr .delivery result)

def prepareSenderEntryEncodings [Zstd] (offer : ManifestOfferV2) : SendProgram Unit := do
  let record ← get
  if ¬ record.requiresEntryEncodingMigration then
    return ()
  match record.phase with
  | .offering => onRecord (SenderDeliveryRecordV2.freezeEntryEncodings offer
      (offer.manifest.entries.map (initialEntryEncoding · offer.manifest.compressionPolicy)))
  | .transferring => do
    let encodings ← offer.manifest.entries.mapM
      (legacyEntryEncoding · offer.manifest.compressionPolicy)
    onRecord (SenderDeliveryRecordV2.freezeEntryEncodings offer encodings)
  | _ => pure ()

def establishSenderReconnect (manifest? : Option ManifestV2) : SendProgram ResumeStatusV2 := do
  let manifest ← raise (okOr manifest? .jobNotSealed)
  let offer ← raise (rebuildOffer manifest)
  let record ← get
  raise (mapErr .delivery (record.validateOffer offer))
  let acceptDigest ← raise
    (okOr record.acceptBodyDigest (.invalidLedger "sender Accept is not committed"))
  let capability ← raise
    (okOr record.proofCapability (.invalidLedger "sender proof capability is missing"))
  let challengeNonce ← raise (okOr (← perform EngineOp.newChallengeNonce) (.delivery .entropy))
  let intent ← match record.phase with
    | .transferring => pure SenderResumeIntentV2.continueData
    | .waitingForReceiverSave | .delivered => pure SenderResumeIntentV2.awaitDelivery
    | _ => throw (.invalidLedger "sender phase cannot establish a reconnect")
  sendFrame (.resumeRequest {
    identity := record.identity
    offer
    acceptBodyDigest := acceptDigest
    senderCheckpointDigest := senderCheckpointDigest offer.structuralDigest acceptDigest intent
    challengeNonce })
  let status ← match ← recvFrame with
    | .resumeStatus status => pure status
    | _ => throw (.unexpectedFrame "waiting for receiver resume status")
  raise (reject (status.challengeNonce ≠ challengeNonce) .acceptMismatch)
  raise
    (mapErr .delivery
      (verifyResumeChallenge record.identity challengeNonce status.challengeMac capability))
  raise (validateResumeStatus manifest record status)
  pure status

/-- The plans of a resumed Accept: each boundary as the receiver reports it. -/
def resumePlans : List EntryPlanV2 → List ResumeEntryV2 → List EntryPlanV2
  | plan :: plans, resume :: resumes =>
    { plan with
      nextPlaintextBlock := resume.nextPlaintextBlock
      disposition := if resume.arbiter = .reuseChosen then .reuseExisting else plan.disposition } ::
      resumePlans plans resumes
  | plans, _ => plans

/-- The completion the sender rebuilds for an entry that the receiver reports as decided. -/
def resumedCompletion (identity : JobGenerationV2) (entry : ManifestEntryV2)
    (checkpoint : ResumeEntryV2) :
    Option (Except ManifestV2DataError EntryCompleteV2) :=
  match checkpoint.entryResult with
  | some result => some (completionFromResult entry result)
  | none =>
    if checkpoint.arbiter ≠ .payloadOpen then
      some (completionFromResumeCheckpoint identity entry checkpoint)
    else none

/-- `resume_status.entries[entry.entry_id]`, when there is one. -/
def resumeCheckpoint (resume : Option ResumeStatusV2) (entry : ManifestEntryV2) :
    SendProgram (Option ResumeEntryV2) := do
  match resume with
  | none => pure none
  | some status =>
    let checkpoint ← element status.entries entry.entryId.toNat
    pure (some checkpoint)

/-- An entry that has to be transferred. -/
def transmitEntry [Zstd] (fuel : Nat) (accept : ManifestAcceptV2)
    (checkpoint : Option ResumeEntryV2) (total : UInt64) (entry : ManifestEntryV2)
    (completed : UInt64) : SendProgram (EntryCompleteV2 × UInt64) := do
  let plan ← element accept.entryPlans entry.entryId.toNat
  if entry.kind = .directory then
    let completion ← sendDirectory accept.identity entry
    pure (completion, completed)
  else
    let encoding ← raise (mapErr .delivery ((← get).frozenEntryEncoding entry.entryId))
    attempt (.sourceForSealedEntry entry.entryId) rfl
    let resumedEntryBytes ← raise (match checkpoint with
      | some checkpoint => resumeEntryPlaintextBytes entry checkpoint
      | none => pure 0)
    sendFile fuel accept.identity entry plan encoding total resumedEntryBytes completed

/-- One entry of `send`: its completion and the progress after it. -/
def sendEntry [Zstd] (fuel : Nat) (accept : ManifestAcceptV2) (resume : Option ResumeStatusV2)
    (total : UInt64) (entry : ManifestEntryV2) (completed : UInt64) :
    SendProgram (EntryCompleteV2 × UInt64) := do
  let checkpoint ← resumeCheckpoint resume entry
  match checkpoint.bind (resumedCompletion accept.identity entry) with
  | some rebuilt =>
    let completion ← raise rebuilt
    pure (completion, completed)
  | none => transmitEntry fuel accept checkpoint total entry completed

/-- The loop of `send` over the entries: the hasher and the completions. -/
def sendEntries [Zstd] (fuel : Nat) (accept : ManifestAcceptV2) (resume : Option ResumeStatusV2)
    (total : UInt64) :
    List ManifestEntryV2 → Bytes → UInt64 → SendProgram (Bytes × List EntryCompleteV2)
  | [], hasher, _ => pure (hasher, [])
  | entry :: entries, hasher, completed => do
    let (completion, completed) ← sendEntry fuel accept resume total entry completed
    let hasher ← raise (updateCompletionSet hasher completion)
    let (hasher, completions) ← sendEntries fuel accept resume total entries hasher completed
    pure (hasher, completion :: completions)

omit [Blake3] [UnicodeNormalization] in
def recvEntryResults (identity : JobGenerationV2) :
    List (ManifestEntryV2 × EntryCompleteV2) → SendProgram (List EntryResultV2)
  | [] => pure []
  | (entry, completion) :: rest => do
    let result ← recvEntryResult identity entry.entryId
    raise (validateEntryResult entry identity completion result)
    return result :: (← recvEntryResults identity rest)

/-- The Accept that `send` works with, its body digest and the resume status it came with. -/
def agreeAccept (manifest? : Option ManifestV2) (offer : ManifestOfferV2) :
    SendProgram (ManifestAcceptV2 × ContentDigestV2 × Option ResumeStatusV2) := do
  onStage .manifestOffer
  if (← get).phase = .transferring then
    let status ← establishSenderReconnect manifest?
    let accept ← raise (okOr (← get).accept (.invalidLedger "sender Accept is missing"))
    let acceptBodyDigest ← raise (okOr (← get).acceptBodyDigest
      (.invalidLedger "sender Accept digest is missing"))
    pure ({ accept with entryPlans := resumePlans accept.entryPlans status.entries },
      acceptBodyDigest, some status)
  else
    sendFrame (.offer offer)
    let accept ← match ← recvFrame with
      | .accept accept => pure accept
      | _ => throw (.unexpectedFrame "waiting for Accept")
    raise (validateAccept offer accept)
    let acceptBodyDigest ← raise
      (mapErr .codec (canonicalManifestV2FrameBodyDigest (.accept accept)))
    onRecord (SenderDeliveryRecordV2.commitAccept accept acceptBodyDigest)
    deliver (SenderDeliveryStoreV2.save (← get))
    pure (accept, acceptBodyDigest, none)

def send [Zstd] (fuel : Nat) (manifest? : Option ManifestV2) :
    SendProgram SenderDataPlaneSummaryV2 := do
  let manifest ← raise (okOr manifest? .jobNotSealed)
  let offer ← raise (rebuildOffer manifest)
  prepareSenderEntryEncodings offer
  raise (mapErr .delivery ((← get).validateOffer offer))
  deliver (SenderDeliveryStoreV2.save (← get))
  let (accept, acceptBodyDigest, resume) ← agreeAccept manifest? offer
  let identity := accept.identity
  onStage .manifestAccepted
  onPhase .transferring
  let total := manifest.totals.totalPlaintextBytes
  let completed ← match resume with
    | some status => raise (resumePlaintextBytes manifest status)
    | none => pure 0
  onProgress completed total
  let (hasher, completions) ← sendEntries fuel accept resume total manifest.entries [] completed
  let senderCompletionSetDigest : ContentDigestV2 := ⟨Blake3.hash hasher⟩
  onStage .payloadComplete
  sendFrame (.jobComplete { identity, senderCompletionSetDigest })
  let entryResults ← recvEntryResults identity (manifest.entries.zip completions)
  let summary : SenderDataPlaneSummaryV2 :=
    { identity, acceptBodyDigest, senderCompletionSetDigest, entryResults }
  onRecord (SenderDeliveryRecordV2.commitResults summary)
  deliver (SenderDeliveryStoreV2.save (← get))
  onPhase .waitingForReceiverSave
  pure summary

end Send

end Envoix.Transfer
