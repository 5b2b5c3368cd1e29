import Envoix.Transfer.Engine

/-! # Receiving

Model of `ManifestV2DataPlane::receive` in `envoix-transfer/src/manifest_v2_engine.rs`, with its
loops over entries and frames.  `fuel` bounds the frames of one entry; a run longer than its fuel
is cut at `abort`, so a statement for every fuel is about every run and every prefix of one.
-/

namespace Envoix.Transfer

open ByteCodec Fallible Process Process.Method Envoix.Protocol

abbrev ReceiveProgram := EngineProgram ReceiverDataPlaneLedgerV2

def checkpointAt (index : Nat) : ReceiveProgram ReceiverEntryCheckpointV2 := do
  element (← get).entries index

def ReceiverDataPlaneLedgerV2.update (index : Nat)
    (change : ReceiverEntryCheckpointV2 → ReceiverEntryCheckpointV2)
    (ledger : ReceiverDataPlaneLedgerV2) :
    ReceiverDataPlaneLedgerV2 :=
  { ledger with entries := ledger.entries.modify index change }

def updateCheckpoint (index : Nat)
    (change : ReceiverEntryCheckpointV2 → ReceiverEntryCheckpointV2) :
    ReceiveProgram Unit :=
  modify (·.update index change)

/-- `ReceiverDataPlaneStoreV2::save` -/
def saveLedger : ReceiveProgram Unit := do
  raise (mapErr (fun error => .io error.text)
    (writeResult (← perform (EngineOp.saveLedger (← get)))))

def resetPayloadCheckpoint (manifest : ManifestV2) (entryId : UInt32) : ReceiveProgram Unit := do
  let ledger ← get
  let entry ← raise
    (okOr (manifest.entries[entryId.toNat]?.filter (·.entryId = entryId)) .entryOrder)
  let plan ← raise
    (okOr (ledger.accept.entryPlans[entryId.toNat]?.filter (·.entryId = entryId)) .entryOrder)
  let checkpoint ← raise
    (okOr (ledger.entries[entryId.toNat]?.filter (·.entryId = entryId)) .entryOrder)
  raise (reject (checkpoint.result.isSome ∨ plan.disposition ≠ .receivePayload)
    (.invalidLedger "cannot reset a terminal or reuse payload checkpoint"))
  updateCheckpoint entryId.toNat fun checkpoint => { checkpoint.retired entry with start := none }
  modify ({ · with senderCompletionSetDigest := none })
  saveLedger

def retireMismatch (entry : ManifestEntryV2) (index : Nat) : ReceiveProgram Unit := do
  updateCheckpoint index (·.retired entry)
  saveLedger
  attempt (.retirePayload entry) rfl

def recvEntryStart (identity : JobGenerationV2) (entryId : UInt32) :
    ReceiveProgram EntryStartV2 := do
  match ← recvFrame with
  | .entryStart start =>
    raise (reject (¬ (start.identity = identity ∧ start.entryId = entryId))
      (.unexpectedFrame "waiting for EntryStart"))
    pure start
  | _ => throw (.unexpectedFrame "waiting for EntryStart")

/-- A verified payload closes the arbiter. -/
def closePayload (entry : ManifestEntryV2) (index : Nat) (finalDigest : ContentDigestV2)
    (checkpoint : ReceiverEntryCheckpointV2) : ReceiveProgram Unit := do
  if checkpoint.arbiter ≠ .payloadOpen ∨ checkpoint.plaintextBytes ≠ entry.plaintextSize then
    retireMismatch entry index
    throw .finalMismatch
  match ← perform (EngineOp.verifyPayload entry finalDigest) with
  | .error error =>
    retireMismatch entry index
    throw error
  | .ok () =>
    updateCheckpoint index ({ · with arbiter := .payloadCompleteChosen })
    saveLedger

def receiveFileCompletion (entry : ManifestEntryV2) (index : Nat) (finalDigest : ContentDigestV2) :
    ReceiveProgram Unit := do
  let checkpoint ← checkpointAt index
  let completion ← raise
    (okOr checkpoint.completion (.invalidLedger "completion was not committed"))
  match completion.completionChoice with
  | .reuseChosen => raise (reject (checkpoint.arbiter ≠ .reuseChosen) .reuseUnavailable)
  | .payloadComplete => closePayload entry index finalDigest checkpoint
  updateCheckpoint index ({ · with completion := some completion })
  saveLedger

def receiveDirectory [Blake3] (entry : ManifestEntryV2) (identity : JobGenerationV2) (index : Nat) :
    ReceiveProgram Unit := do
  let completion ← match ← recvFrame with
    | .entryComplete completion => pure completion
    | _ => throw (.unexpectedFrame "waiting for directory completion")
  raise (reject (completion.identity ≠ identity ∨
    completion.entryId ≠ entry.entryId ∨
    completion.finalSize ≠ 0 ∨
    completion.finalDigest ≠ emptyDigest ∨
    completion.completionChoice ≠ .payloadComplete) .finalMismatch)
  attempt (.stageDirectory entry) rfl
  updateCheckpoint index
    ({ · with arbiter := .payloadCompleteChosen, completion := some completion })
  saveLedger

/-- While the payload is open, the sink may choose an existing object with this digest instead. -/
def chooseReuse (entry : ManifestEntryV2) (index : Nat) (total completed : UInt64)
    (digest : ContentDigestV2) :
    ReceiveProgram UInt64 := do
  let checkpoint ← checkpointAt index
  if checkpoint.arbiter ≠ .payloadOpen then
    return completed
  let chosen ← attempt (.tryChooseReuse entry digest) rfl
  if ¬ chosen then
    return completed
  updateCheckpoint index
    ({ · with arbiter := .reuseChosen, nextPlaintextBlock := 0, plaintextBytes := 0 })
  advance completed (saturatingSub64 entry.plaintextSize checkpoint.plaintextBytes) total

/-- A proposed content digest: remember it, let the sink choose reuse, and answer. -/
def receiveContentDigest (entry : ManifestEntryV2) (index : Nat) (total completed : UInt64)
    (frame : EntryContentDigestFrameV2) : ReceiveProgram UInt64 := do
  let identity := (← get).identity
  raise (reject (frame.identity ≠ identity ∨ frame.entryId ≠ entry.entryId) .identityMismatch)
  raise (reject (frame.decision ≠ .proposed)
    (.unexpectedFrame "receiver expected a proposed content digest"))
  match setOrEqualDigest (← checkpointAt index) frame.digest with
  | .error _ =>
    retireMismatch entry index
    throw .digestConflict
  | .ok checkpoint =>
    updateCheckpoint index fun _ => checkpoint
    let completed ← chooseReuse entry index total completed frame.digest
    saveLedger
    let decision :=
      if (← checkpointAt index).arbiter = .reuseChosen then EntryDigestDecisionV2.reuseExisting
      else .continuePayload
    sendFrame
      (.entryContentDigest { identity, entryId := entry.entryId, digest := frame.digest, decision })
    pure completed

def receiveBlock [Zstd] (entry : ManifestEntryV2) (index : Nat) (total completed : UInt64)
    (block : EntryBlockV2) :
    ReceiveProgram UInt64 := do
  let checkpoint ← checkpointAt index
  raise (validateBlock entry checkpoint block)
  raise (reject (checkpoint.arbiter ≠ .payloadOpen) .blockOrder)
  let start ← raise (okOr checkpoint.start (.invalidLedger "entry start is missing"))
  let plaintextBlock ← raise (decodeBlock start.encoding block)
  attempt (.writeBlock entry plaintextBlock) rfl
  let nextPlaintextBlock ← raise
    (okOr (checkedAdd64 checkpoint.nextPlaintextBlock 1) .arithmeticOverflow)
  updateCheckpoint index ({ · with nextPlaintextBlock })
  let plaintextBytes ← raise
    (okOr (checkedAdd64 block.plaintextOffset block.plaintextLength.toUInt64)
    .arithmeticOverflow)
  updateCheckpoint index ({ · with plaintextBytes })
  saveLedger
  onStage .firstPayload
  advance completed block.plaintextLength.toUInt64 total

/-- A completion with the right digest and size is decided on. -/
def decideCompletion (entry : ManifestEntryV2) (index : Nat) (completion : EntryCompleteV2) :
    ReceiveProgram Unit := do
  updateCheckpoint index ({ · with completion := some completion })
  onPhase .verifying
  -- the phase is reported back before the outcome is passed on, also for a failure
  let result ← outcome (receiveFileCompletion entry index completion.finalDigest)
  onPhase .transferring
  raise result

def receiveEntryComplete (entry : ManifestEntryV2) (index : Nat) (completion : EntryCompleteV2) :
    ReceiveProgram Unit := do
  raise (reject (completion.identity ≠ (← get).identity ∨ completion.entryId ≠ entry.entryId)
    .identityMismatch)
  match setOrEqualDigest (← checkpointAt index) completion.finalDigest with
  | .error _ =>
    retireMismatch entry index
    throw .digestConflict
  | .ok checkpoint =>
    updateCheckpoint index fun _ => checkpoint
    if completion.finalSize ≠ entry.plaintextSize then
      retireMismatch entry index
      throw .finalMismatch
    else
      decideCompletion entry index completion

/-- One frame of a file: `true` when the entry is complete. -/
def receiveFileFrame [Zstd] (entry : ManifestEntryV2) (index : Nat) (total completed : UInt64) :
    ReceiveProgram (Bool × UInt64) := do
  let identity := (← get).identity
  match ← recvFrame with
  | .entryContentDigest frame =>
    do return (false, ← receiveContentDigest entry index total completed frame)
  | .entryBlock block => do return (false, ← receiveBlock entry index total completed block)
  | .entryComplete completion => do
    receiveEntryComplete entry index completion
    return (true, completed)
  | .cancel cancel =>
    throw (.unexpectedFrame (if cancel.identity = identity then "peer canceled entry"
      else "receiving entry payload"))
  | .error error =>
    throw (.unexpectedFrame (if error.identity = identity then "peer reported failure"
      else "receiving entry payload"))
  | _ => throw (.unexpectedFrame "receiving entry payload")

def receiveFileLoop [Zstd] (entry : ManifestEntryV2) (index : Nat) (total : UInt64) :
    Nat → UInt64 → ReceiveProgram UInt64
  | 0, _ => abort
  | fuel + 1, completed => do
    let (finished, completed) ← receiveFileFrame entry index total completed
    if finished then pure completed else receiveFileLoop entry index total fuel completed

/-- A plan that reuses an existing object is carried out before any frame of the entry. -/
def applyReusePlan (entry : ManifestEntryV2) (plan : EntryPlanV2) (index : Nat)
    (total completed : UInt64) :
    ReceiveProgram UInt64 := do
  let checkpoint ← checkpointAt index
  if plan.disposition ≠ .reuseExisting then
    return completed
  let digest ← raise (okOr checkpoint.contentDigest .reuseUnavailable)
  let chosen ← attempt (.tryChooseReuse entry digest) rfl
  raise (reject (¬ chosen) .reuseUnavailable)
  updateCheckpoint index ({ · with arbiter := .reuseChosen })
  saveLedger
  if checkpoint.arbiter = .reuseChosen then
    return completed
  advance completed entry.plaintextSize total

def receiveFile [Zstd] (fuel : Nat) (entry : ManifestEntryV2) (plan : EntryPlanV2) (index : Nat)
    (total completed : UInt64) : ReceiveProgram UInt64 := do
  let completed ← applyReusePlan entry plan index total completed
  receiveFileLoop entry index total fuel completed

/-- The completion of an entry whose payload is already decided, as `receive` reads it from the
ledger. -/
def decidedCompletion (identity : JobGenerationV2) (entry : ManifestEntryV2)
    (checkpoint : ReceiverEntryCheckpointV2) : Except ManifestV2DataError EntryCompleteV2 :=
  match checkpoint.completion with
  | some completion => .ok completion
  | none =>
    if checkpoint.arbiter = .reuseChosen then do
      let finalDigest ← okOr checkpoint.contentDigest
        (.invalidLedger "reused entry is missing its content digest")
      pure {
        identity
        entryId := entry.entryId
        finalSize := entry.plaintextSize
        finalDigest
        completionChoice := .reuseChosen }
    else .error (.invalidLedger "completed payload is missing its completion fact")

/-- The entry start is remembered before anything of the entry is received. -/
def commitStart (index : Nat) (checkpoint : ReceiverEntryCheckpointV2) (start : EntryStartV2) :
    ReceiveProgram Unit := do
  match checkpoint.start with
  | some existing => raise (reject (existing ≠ start) .digestConflict)
  | none => pure ()
  updateCheckpoint index ({ · with start := some start, payloadRetired := false })
  saveLedger

/-- Receives an entry that is still open: the progress after it. -/
def receiveOpenEntry [Blake3] [Zstd] (fuel : Nat) (total : UInt64) (entry : ManifestEntryV2)
    (checkpoint : ReceiverEntryCheckpointV2) (completed : UInt64) : ReceiveProgram UInt64 := do
  let ledger ← get
  let index := entry.entryId.toNat
  let plan ← element ledger.accept.entryPlans index
  let start ← recvEntryStart ledger.identity entry.entryId
  commitStart index checkpoint start
  if entry.kind = .directory then
    receiveDirectory entry ledger.identity index
    return completed
  if plan.disposition = .receivePayload then
    attempt (.beginEntry entry start (← checkpointAt index).nextPlaintextBlock) rfl
  receiveFile fuel entry plan index total completed

/-- One entry of `receive`: the hasher and the progress after it. -/
def receiveEntry [Blake3] [UnicodeNormalization] [Zstd] (fuel : Nat) (total : UInt64)
    (entry : ManifestEntryV2) (hasher : Bytes) (completed : UInt64) :
    ReceiveProgram (Bytes × UInt64) := do
  let index := entry.entryId.toNat
  let checkpoint ← checkpointAt index
  if checkpoint.result.isSome then
    let completion ← raise (okOr checkpoint.completion
      (.invalidLedger "completed entry is missing its completion fact"))
    return (← raise (updateCompletionSet hasher completion), completed)
  if checkpoint.arbiter ≠ .payloadOpen then
    let completion ← raise (decidedCompletion (← get).identity entry checkpoint)
    updateCheckpoint index ({ · with completion := some completion })
    saveLedger
    return (← raise (updateCompletionSet hasher completion), completed)
  let completed ← receiveOpenEntry fuel total entry checkpoint completed
  let completion ← raise
    (okOr (← checkpointAt index).completion (.invalidLedger "entry completion missing"))
  return (← raise (updateCompletionSet hasher completion), completed)

def receiveEntries [Blake3] [UnicodeNormalization] [Zstd] (fuel : Nat) (total : UInt64) :
    List ManifestEntryV2 → Bytes → UInt64 → ReceiveProgram (Bytes × UInt64)
  | [], hasher, completed => pure (hasher, completed)
  | entry :: entries, hasher, completed => do
    let (hasher, completed) ← receiveEntry fuel total entry hasher completed
    receiveEntries fuel total entries hasher completed

def verifiedEntry (manifest : ManifestV2) (checkpoint : ReceiverEntryCheckpointV2) :
    ReceiveProgram VerifiedEntryV2 := do
  let completion ← raise (okOr checkpoint.completion (.invalidLedger "entry completion missing"))
  let entry ← element manifest.entries checkpoint.entryId.toNat
  pure {
    entryId := checkpoint.entryId
    finalDigest := if entry.kind = .regularFile then some completion.finalDigest else none
    completionChoice := completion.completionChoice }

/-- The loop that turns the saved entries into results of the ledger. -/
def recordResults (identity : JobGenerationV2) :
    List (ManifestEntryV2 × VerifiedEntryV2 × SavedEntryV2) → ReceiveProgram (List EntryResultV2)
  | [] => pure []
  | (entry, verified, saved) :: rest => do
    raise (reject (saved.entryId ≠ entry.entryId ∨
      saved.result ≠ expectedResult verified.completionChoice)
      (.destinationContract "destination result set is noncanonical"))
    let result : EntryResultV2 := {
      identity
      entryId := entry.entryId
      result := saved.result
      finalSize := entry.plaintextSize
      finalDigest := verified.finalDigest
      finalComponentOverride := saved.finalComponentOverride }
    updateCheckpoint entry.entryId.toNat ({ · with result := some result })
    return result :: (← recordResults identity rest)

def sendResults : List EntryResultV2 → ReceiveProgram Unit
  | [] => pure ()
  | result :: results => do
    sendFrame (.entryResult result)
    sendResults results

/-- The digest of the first JobComplete is durable; a later one has to repeat it. -/
def commitSenderDigest (senderDigest : ContentDigestV2) : ReceiveProgram Unit := do
  match (← get).senderCompletionSetDigest with
  | some existing => raise (reject (existing ≠ senderDigest) .digestConflict)
  | none => modify ({ · with senderCompletionSetDigest := some senderDigest })
  saveLedger

/-- The results of the job: those of the ledger, or else those the destination reports now. -/
def commitJobResults (manifest : ManifestV2) (identity : JobGenerationV2) :
    ReceiveProgram (List EntryResultV2) := do
  match (← get).entries.mapM (·.result) with
  | some entryResults => pure entryResults
  | none =>
    let verifiedEntries ← (← get).entries.mapM (verifiedEntry manifest)
    onPhase .saving
    let savedEntries ← attempt (.commitJob manifest verifiedEntries) rfl
    let savedEntries ← attempt (.commitResults manifest savedEntries) rfl
    raise (reject (savedEntries.length ≠ manifest.entries.length)
      (.destinationContract "destination returned an incomplete result set"))
    let entryResults ← recordResults identity
      (manifest.entries.zip (verifiedEntries.zip savedEntries))
    saveLedger
    pure entryResults

/-- `receive` from JobComplete on. -/
def receiveJobComplete [Blake3] (manifest : ManifestV2) (hasher : Bytes) :
    ReceiveProgram ReceiverDataPlaneSummaryV2 := do
  let identity := (← get).identity
  let senderDigest ← match ← recvFrame with
    | .jobComplete complete => do
      raise (reject (complete.identity ≠ identity) (.unexpectedFrame "waiting for JobComplete"))
      pure complete.senderCompletionSetDigest
    | _ => throw (.unexpectedFrame "waiting for JobComplete")
  raise (reject (senderDigest ≠ ⟨Blake3.hash hasher⟩) .digestConflict)
  commitSenderDigest senderDigest
  onStage .payloadComplete
  let entryResults ← commitJobResults manifest identity
  sendResults entryResults
  onPhase .finalizingDelivery
  pure { identity, senderCompletionSetDigest := senderDigest, entryResults }

def receive [Blake3] [UnicodeNormalization] [Zstd] (fuel : Nat) (offer : ManifestOfferV2) :
    ReceiveProgram ReceiverDataPlaneSummaryV2 := do
  raise ((← get).validate offer.manifest)
  let total := offer.manifest.totals.totalPlaintextBytes
  let completed ← raise (resumePlaintextBytes offer.manifest (← get).resumeStatus)
  onPhase .transferring
  onProgress completed total
  let (hasher, _) ← receiveEntries fuel total offer.manifest.entries [] completed
  receiveJobComplete offer.manifest hasher

end Envoix.Transfer
