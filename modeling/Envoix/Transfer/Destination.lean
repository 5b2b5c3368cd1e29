import Envoix.Foundation.FileSystem
import Envoix.Transfer.Receive

/-! # The local destination

Model of the part of `LocalDestinationProviderV2` in `envoix-transfer/src/destination_v2.rs` that
reuses objects and reconciles a ledger with the staging directory before a resume, on a Linux
target. -/

namespace Envoix.Transfer

open ByteCodec Fallible Process Process.Method Envoix.Protocol FileSystem

inductive DestinationModeV2 where
  | directSave
  | copyAfterVerify
deriving DecidableEq

structure StorageDomainIdentityV2 where
  provider : String
  opaqueVolumeId : String
  stableObjectIdentity : Bool
deriving DecidableEq

structure DestinationWritePlanV2 where
  jobId : JobIdV2
  generation : UInt32
  mode : DestinationModeV2
  storageDomain : StorageDomainIdentityV2
  planRevision : UInt32
  rootPlans : List RootPlanV2
  exceptionalTransferApproved : Bool
  targetDirectory : Path
  stagingDirectory : Path
  reservations : List Path
  reuseEntryIds : List UInt32
deriving DecidableEq

inductive DestinationPlanErrorV2 where
  | copyDecisionRequired
  | missingCopyStaging
  | unsupportedProvider
  | unknownCapacity
  | exceptionalTransferApprovalRequired
  | insufficientSpace (required available : UInt64)
  | spaceOverflow
  | nameExhausted
  | destinationContended
  | reusedObjectLost
  | invalidEntryState
  | io (error : IoError)
deriving DecidableEq

/-- The `Display` text of a destination error. -/
def DestinationPlanErrorV2.text : DestinationPlanErrorV2 → String
  | .copyDecisionRequired => "destination requires explicit CopyAfterVerify approval"
  | .missingCopyStaging => "CopyAfterVerify requires an app-owned staging directory"
  | .unsupportedProvider => "destination provider cannot guarantee no-overwrite finalization"
  | .unknownCapacity => "destination capacity is unknown"
  | .exceptionalTransferApprovalRequired =>
    "exceptional transfer requires receiver approval before payload"
  | .insufficientSpace required available =>
    "destination requires " ++ toString required ++ " bytes but only " ++ toString available ++
      " are allocatable"
  | .spaceOverflow => "destination space projection overflowed"
  | .nameExhausted => "destination name space is exhausted"
  | .destinationContended => "destination namespace changed after the accepted name plan"
  | .reusedObjectLost => "destination source object changed during reuse"
  | .invalidEntryState => "destination entry state is invalid"
  | .io error => error.text

inductive SavedRootResultV2 where
  | saved
  | reusedExisting
deriving DecidableEq

inductive ObjectIdentityV2 where
  | stable (volume object : UInt64)
  | exactContent (rootDigest : ContentDigestV2)
deriving DecidableEq

inductive RootSaveStateV2 where
  | pending
  | finalizeIntent (expectedObject : ObjectIdentityV2) (planRevision : UInt32)
      (plannedName : String) (reservation : Path) (idempotencyKey : ByteVector 16)
  | saved (result : SavedRootResultV2) (finalName : String)
deriving DecidableEq

/-- An object of the target that stands in for a payload; its open file is its content. -/
structure ReuseObject where
  file : Bytes
  size : Nat
  digest : ContentDigestV2
  finalName : String

/-- `entryPaths` and `saveRoots` cover the manifest, as `new` has built and checked them. -/
structure LocalDestinationProviderV2 where
  plan : DestinationWritePlanV2
  manifest : ManifestV2
  entryPaths : List Path
  reuseObjects : List (UInt32 × ReuseObject)
  saveRoots : List RootSaveStateV2
  paths_complete : entryPaths.length = manifest.entries.length
  roots_complete : saveRoots.length = manifest.roots.length

/-- The spelling rules of the platform the crate is built for. -/
class ProviderNames where
  providerSafeComponent : String → String
  nameEquivalenceKey : String → String

/-- On Linux every name is safe and only equal names are equivalent. -/
@[reducible] def linuxNames : ProviderNames where
  providerSafeComponent component := component
  nameEquivalenceKey component := component

def DestinationWritePlanV2.targetPathForRoot (plan : DestinationWritePlanV2) (rootId : UInt32) :
    Option Path :=
  (plan.rootPlans[rootId.toNat]?.filter (·.rootId = rootId)).map fun root =>
    plan.targetDirectory.join root.plannedName

/-- What `reconcile_resume` borrows: the disk, the provider and the ledger. -/
structure Reconciling where
  files : Files
  provider : LocalDestinationProviderV2
  ledger : ReceiverDataPlaneLedgerV2

/-- How a method may end without a value. -/
inductive ReconcileFailure where
  | panic
  | failed (error : ManifestV2DataError)
deriving DecidableEq

abbrev ReconcileMethod := Method Id Reconciling ReconcileFailure

/-- An index expression. -/
def indexed {α : Type} (elements : List α) (index : Nat) : ReconcileMethod α :=
  match elements[index]? with
  | some found => pure found
  | none => throw .panic

def destinationError (error : DestinationPlanErrorV2) : ReconcileFailure :=
  .failed (.destination error.text)

def ioError (error : IoError) : ReconcileFailure := .failed (.io error.text)

/-- `LocalDestinationProviderV2::try_open_reuse`, its error carried as a data-plane error. -/
def tryOpenReuse [Blake3] (entry : ManifestEntryV2) (digest : ContentDigestV2) :
    ReconcileMethod (Option ReuseObject) := do
  let provider := (← get).provider
  if ¬ provider.plan.storageDomain.stableObjectIdentity then
    return none
  let root ← indexed provider.manifest.roots entry.rootId.toNat
  if entry.entryId ≠ root.rootEntryId ∨ entry.kind ≠ .regularFile then
    return none
  let candidateName := linuxNames.providerSafeComponent root.requestedName
  let candidate := provider.plan.targetDirectory.join candidateName
  match (← get).files.metadata candidate with
  | .error .notFound => return none
  | .error error => throw (destinationError (.io error))
  | .ok metadata =>
    if ¬ (metadata.isFile ∧ metadata.len = entry.plaintextSize.toNat) then
      return none
    let content ← raise (mapErr (fun error => destinationError (.io error))
      ((← get).files.read candidate))
    if (⟨Blake3.hash content⟩ : ContentDigestV2) ≠ digest then
      return none
    return some { file := content, size := metadata.len, digest, finalName := candidateName }

def insertReuse (entryId : UInt32) (reuse : ReuseObject) : ReconcileMethod Unit :=
  modify fun state => { state with provider := { state.provider with
    reuseObjects := (entryId, reuse) :: state.provider.reuseObjects.filter (·.1 ≠ entryId) } }

/-- `fs::remove_file`, where a missing file is no error. -/
def removeStaged (path : Path) : ReconcileMethod Unit := do
  let (result, files) := (← get).files.removeFile path
  modify ({ · with files })
  match result with
  | .ok () => pure ()
  | .error .notFound => pure ()
  | .error error => throw (ioError error)

/-- Runs a method of the ledger; `saves` tells the outcome of each write of its store. -/
def onLedger {α : Type} (saves : ReceiverDataPlaneLedgerV2 → WriteReply)
    (method : ReceiveProgram α) :
    ReconcileMethod α := do
  let state ← get
  let outcome := (method.runOn state.ledger).interpret fun
    | .saveLedger ledger => some (saves ledger)
    | _ => none
  match outcome with
  | none => throw .panic
  | some (result, ledger) =>
    set { state with ledger }
    raise (mapErr .failed result)

/-- The first loop of `reconcile_resume`. -/
def reconcileReuses [Blake3] : List (UInt32 × ContentDigestV2) → ReconcileMethod Unit
  | [] => pure ()
  | (entryId, digest) :: rest => do
    let entry ← indexed (← get).provider.manifest.entries entryId.toNat
    let reuse ← raise (okOr (← tryOpenReuse entry digest) (destinationError .reusedObjectLost))
    insertReuse entryId reuse
    reconcileReuses rest

/-- An entry of a root that has been saved, or is about to be, and whose target exists. -/
def rootFinalized (entry : ManifestEntryV2) : ReconcileMethod Bool := do
  let provider := (← get).provider
  match ← indexed provider.saveRoots entry.rootId.toNat with
  | .pending => pure false
  | _ =>
    let target ← raise (okOr (provider.plan.targetPathForRoot entry.rootId)
      (destinationError .invalidEntryState))
    raise (mapErr ioError ((← get).files.tryExists target))

/-- The staging file is there with the length of the boundary. -/
def boundaryIsOwned (path : Path) (plaintextBytes : UInt64) : ReconcileMethod Bool := do
  match (← get).files.metadata path with
  | .ok metadata => pure (metadata.isFile ∧ metadata.len = plaintextBytes.toNat)
  | .error .notFound => pure false
  | .error error => throw (ioError error)

/-- One round of the second loop of `reconcile_resume`. -/
def reconcileBoundary (saves : ReceiverDataPlaneLedgerV2 → WriteReply) (entryId : UInt32)
    (nextPlaintextBlock plaintextBytes : UInt64) (payloadComplete : Bool) :
    ReconcileMethod Unit := do
  if nextPlaintextBlock = 0 ∧ ¬ payloadComplete then
    return ()
  let entry ← indexed (← get).provider.manifest.entries entryId.toNat
  if ← rootFinalized entry then
    return ()
  let path ← indexed (← get).provider.entryPaths entryId.toNat
  if ← boundaryIsOwned path plaintextBytes then
    return ()
  removeStaged path
  onLedger saves (resetPayloadCheckpoint (← get).provider.manifest entryId)

def reconcileBoundaries (saves : ReceiverDataPlaneLedgerV2 → WriteReply) :
    List (UInt32 × UInt64 × UInt64 × Bool) → ReconcileMethod Unit
  | [] => pure ()
  | (entryId, nextPlaintextBlock, plaintextBytes, payloadComplete) :: rest => do
    reconcileBoundary saves entryId nextPlaintextBlock plaintextBytes payloadComplete
    reconcileBoundaries saves rest

def reconcileResume [Blake3] (saves : ReceiverDataPlaneLedgerV2 → WriteReply) :
    ReconcileMethod Unit := do
  reconcileReuses (← get).ledger.pendingReuseEntries
  reconcileBoundaries saves (← get).ledger.pendingPayloadBoundaries

end Envoix.Transfer
