import Envoix.Transfer.Ledger

/-! # What the data plane asks of its environment

The traits and stores that `envoix-transfer/src/manifest_v2_engine.rs` calls, as operations:
connection, ledger store, payload sink, result gate, sources, progress.
-/

namespace Envoix.Transfer

open ByteCodec Fallible Process Process.Method Envoix.Protocol

inductive ManifestV2ProgressPhase where
  | transferring
  | verifying
  | saving
  | waitingForReceiverSave
  | finalizingDelivery
deriving DecidableEq

/-- The stages the data plane reports. -/
inductive TransferStage where
  | manifestOffer
  | manifestAccepted
  | firstPayload
  | payloadComplete
deriving DecidableEq

/-- `beginEntry` to `retirePayload` are the methods of `ManifestV2PayloadSink`, `commitResults` is
the result gate.  A source is named by its entry; `readSample` is the first read of the legacy
compression probe.  `abort` is the end of the task: a panic, or the end of the fuel. -/
inductive EngineOp where
  | delivery (op : DeliveryOp)
  | saveLedger (ledger : ReceiverDataPlaneLedgerV2)
  | beginEntry (entry : ManifestEntryV2) (start : EntryStartV2) (nextPlaintextBlock : UInt64)
  | writeBlock (entry : ManifestEntryV2) (block : EntryBlockV2)
  | tryChooseReuse (entry : ManifestEntryV2) (digest : ContentDigestV2)
  | verifyPayload (entry : ManifestEntryV2) (finalDigest : ContentDigestV2)
  | stageDirectory (entry : ManifestEntryV2)
  | commitJob (manifest : ManifestV2) (verifiedEntries : List VerifiedEntryV2)
  | retirePayload (entry : ManifestEntryV2)
  | commitResults (manifest : ManifestV2) (savedEntries : List SavedEntryV2)
  | sendEntryBlockOrRecvFrame (block : EntryBlockV2)
  | newChallengeNonce
  | sourceForSealedEntry (entryId : UInt32)
  | openSource (entryId : UInt32)
  | readExact (entryId : UInt32) (length : Nat)
  | readSample (entryId : UInt32)
  | verifyUnchanged (entryId : UInt32)
  | hashTaskFinished (entryId : UInt32)
  | awaitHashTask (entryId : UInt32)
  | onProgress (completedPlaintextBytes totalPlaintextBytes : UInt64)
  | onPhase (phase : ManifestV2ProgressPhase)
  | onStage (stage : TransferStage)
  | abort
deriving DecidableEq

@[reducible] def EngineReply : EngineOp → Type
  | .delivery op => DeliveryReply op
  | .saveLedger _ => WriteReply
  | .beginEntry .. => Except ManifestV2DataError Unit
  | .writeBlock .. => Except ManifestV2DataError Unit
  | .tryChooseReuse .. => Except ManifestV2DataError Bool
  | .verifyPayload .. => Except ManifestV2DataError Unit
  | .stageDirectory _ => Except ManifestV2DataError Unit
  | .commitJob .. => Except ManifestV2DataError (List SavedEntryV2)
  | .retirePayload _ => Except ManifestV2DataError Unit
  | .commitResults .. => Except ManifestV2DataError (List SavedEntryV2)
  | .sendEntryBlockOrRecvFrame _ => Except String (Option ManifestV2Frame)
  | .newChallengeNonce => Option (ByteVector 32)
  | .sourceForSealedEntry _ => Except ManifestV2DataError Unit
  | .openSource _ => Except ManifestV2DataError Unit
  | .readExact .. => Except String Bytes
  | .readSample _ => Except ManifestV2DataError Bytes
  | .verifyUnchanged _ => Except ManifestV2DataError Unit
  | .hashTaskFinished _ => Bool
  | .awaitHashTask _ => Except ManifestV2DataError ContentDigestV2
  | .onProgress .. => Unit
  | .onPhase _ => Unit
  | .onStage _ => Unit
  | .abort => Empty

abbrev EngineProgram (State : Type) := Method (Proc EngineOp EngineReply) State ManifestV2DataError

section Effects

variable {State : Type}

def abort {α : Type} : EngineProgram State α := do
  nomatch ← perform EngineOp.abort

/-- An index expression: out of range is a panic. -/
def element {α : Type} (elements : List α) (index : Nat) : EngineProgram State α :=
  match elements[index]? with
  | some found => pure found
  | none => abort

def sendFrame (frame : ManifestV2Frame) : EngineProgram State Unit := do
  raise (mapErr .core (← perform (EngineOp.delivery (.sendManifestV2Frame frame))))

def recvFrame : EngineProgram State ManifestV2Frame := do
  raise (mapErr .core (← perform (EngineOp.delivery .recvManifestV2Frame)))

/-- A call of the sink, the gate or a source that may fail. -/
def attempt {α : Type} (op : EngineOp) (same : EngineReply op = Except ManifestV2DataError α) :
    EngineProgram State α := do
  raise (cast same (← perform op))

/-- A call of a function of the delivery authority or its stores. -/
def deliver {α : Type} (program : DeliveryProgram State α) : EngineProgram State α :=
  embed EngineOp.delivery .delivery program

def onProgress (completed total : UInt64) : EngineProgram State Unit :=
  perform (EngineOp.onProgress completed total)
def onPhase (phase : ManifestV2ProgressPhase) : EngineProgram State Unit :=
  perform (EngineOp.onPhase phase)
def onStage (stage : TransferStage) : EngineProgram State Unit := perform (EngineOp.onStage stage)

/-- `completed.checked_add(bytes).ok_or(ArithmeticOverflow)?` and its report. -/
def advance (completed bytes total : UInt64) : EngineProgram State UInt64 := do
  let completed ← raise (okOr (checkedAdd64 completed bytes) .arithmeticOverflow)
  onProgress completed total
  pure completed

end Effects

end Envoix.Transfer
