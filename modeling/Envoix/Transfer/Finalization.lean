import Envoix.Foundation.CallLogic
import Envoix.Transfer.Destination

/-! # Finalisation

Model of `LocalDestinationProviderV2::commit_job` in `envoix-transfer/src/destination_v2.rs` and of
the functions it calls: how the verified roots of a job leave their staging directory for the
target directory.  The calls of the file system are operations of the environment, on whole trees
where the code walks one.  The manifest has passed `ManifestV2::validate`, so that its identifiers
are positions. -/

namespace Envoix.Transfer.Finalization

open ByteCodec Fallible Process Process.Method Envoix.Protocol FileSystem

/-! ## Trees -/

inductive FileTree where
  | file (content : Bytes)
  | directory (children : List (String × FileTree))
  | symlink
  | special

namespace FileTree

def find? : FileTree → Path → Option FileTree
  | tree, [] => some tree
  | .directory children, name :: rest =>
    match children.lookup name with
    | none => none
    | some child => child.find? rest
  | .file _, _ :: _ | .symlink, _ :: _ | .special, _ :: _ => none

mutual

/-- The paths of everything below a tree. -/
def paths : FileTree → List Path
  | .directory children => childPaths children
  | .file _ | .symlink | .special => []

def childPaths : List (String × FileTree) → List Path
  | [] => []
  | (name, child) :: rest => [name] :: (paths child).map (name :: ·) ++ childPaths rest

end

end FileTree

/-! ## Calls -/

/-- The places of the disk that a finalisation looks at.  The staging trees, the copies and the
partial copies are private to the application. -/
inductive Place where
  | staging (rootId : UInt32)
  | copyRoot (rootId : UInt32)
  | copyPartial (rootId : UInt32)
  | target (name : String)
deriving DecidableEq

/-- What `symlink_metadata` tells of an object. -/
structure LinkIdentity where
  isSymlink : Bool
  volume : UInt64
  object : UInt64

inductive RenameError where
  | alreadyExists
  | io (error : IoError)

inductive CommitOp where
  | tryExists (place : Place)
  | symlinkMetadata (place : Place)
  | readTree (place : Place)
  | removePrivateStagingPath (place : Place)
  | copyTree (source destination : Place)
  | syncTreeDirectories (place : Place)
  | exclusiveRename (source destination : Place)
  | syncRenameDirectories (source destination : Place)
  | reservationExists (path : Path)
  | removeReservation (path : Path)
  | saveEffectLedger (roots : List RootSaveStateV2)
  | fillRandom
  | readReuse (entryId : UInt32)

abbrev CommitReply : CommitOp → Type
  | .tryExists _ | .reservationExists _ => Except IoError Bool
  | .symlinkMetadata _ => Except IoError LinkIdentity
  | .readTree _ => Except IoError FileTree
  | .exclusiveRename .. => Except RenameError Unit
  | .fillRandom => Except IoError (ByteVector 16)
  | .readReuse _ => Except IoError Bytes
  | .removePrivateStagingPath _ | .copyTree .. | .syncTreeDirectories _ | .syncRenameDirectories ..
  | .removeReservation _ | .saveEffectLedger _ => Except IoError Unit

/-! ## The provider -/

/-- How a method may end without a value.  The first three errors and `destination` are those of
`DestinationPlanErrorV2`. -/
inductive CommitFailure where
  | panic
  | lateCollision
  | reservationLost
  | destination (error : DestinationPlanErrorV2)
  | io (error : IoError)
deriving DecidableEq

/-- The provider with the names that `new` has built for the entries. -/
structure Committing where
  provider : LocalDestinationProviderV2
  entryOverrides : List (Option String)

abbrev CommitMethod := Method (Proc CommitOp CommitReply) Committing CommitFailure

/-- `DestinationPlanErrorV2::Io` -/
def destinationIo (error : IoError) : CommitFailure := .destination (.io error)

def invalidEntryState : CommitFailure := .destination .invalidEntryState

/-- A call of the file system whose error is passed on. -/
def attempt {α : Type} (wrap : IoError → CommitFailure) (op : CommitOp)
    (same : CommitReply op = Except IoError α) :
    CommitMethod α := do
  raise (mapErr wrap (cast same (← perform op)))

/-- An index expression. -/
def index {α : Type} (elements : List α) (position : Nat) : CommitMethod α :=
  raise (okOr elements[position]? .panic)

def plan : CommitMethod DestinationWritePlanV2 := return (← get).provider.plan

def manifest : CommitMethod ManifestV2 := return (← get).provider.manifest

def rootState (rootId : UInt32) : CommitMethod RootSaveStateV2 := do
  index (← get).provider.saveRoots rootId.toNat

def Committing.withRoot (self : Committing) (rootId : UInt32) (state : RootSaveStateV2) :
    Committing :=
  { self with provider := { self.provider with
    saveRoots := self.provider.saveRoots.set rootId.toNat state
    roots_complete := by rw [List.length_set, self.provider.roots_complete] } }

/-- An assignment to `save_ledger.roots`. -/
def setRoot (rootId : UInt32) (state : RootSaveStateV2) : CommitMethod Unit := do
  let _ ← rootState rootId
  modify (·.withRoot rootId state)

def saveEffectLedger : CommitMethod Unit := do
  attempt destinationIo (.saveEffectLedger (← get).provider.saveRoots) rfl

/-! ## What a root is -/

def kindByte : ManifestEntryKindV2 → UInt8
  | .regularFile => 1
  | .directory => 2

/-- What one entry adds to the digest of its root. -/
def entryContent (verifiedEntries : List VerifiedEntryV2) (entry : ManifestEntryV2) :
    Except CommitFailure Bytes := do
  let verified ← okOr (verifiedEntries[entry.entryId.toNat]?.filter (·.entryId = entry.entryId))
    invalidEntryState
  return u32Be entry.entryId ++ kindByte entry.kind :: u64Be entry.plaintextSize ++
    match verified.finalDigest with
    | some digest => 1 :: digest.bytes.toList
    | none => [0]

def rootContentDigest [Blake3] (manifest : ManifestV2) (verifiedEntries : List VerifiedEntryV2)
    (rootId : UInt32) :
    Except CommitFailure ContentDigestV2 := do
  let contents ← (manifest.entries.filter (·.rootId = rootId)).mapM (entryContent verifiedEntries)
  return ⟨Blake3.deriveKey "envoix/manifest/v2/root-content" contents.flatten⟩

/-- Where an entry is below its root.  `placed` lists the paths of the entries before it. -/
def entryPath (manifest : ManifestV2) (entryOverrides : List (Option String))
    (root : ManifestRootV2) (placed : List (UInt32 × Path)) (entry : ManifestEntryV2) :
    Except CommitFailure Path := do
  if entry.entryId = root.rootEntryId then
    return []
  let parentId ← okOr (entry.parentEntryId.filter (·.toNat < manifest.entries.length))
    invalidEntryState
  -- The path of an entry that was not visited is empty, and nothing is found under it.
  let parent ← okOr (placed.lookup parentId) (destinationIo .notFound)
  let renamed ← okOr entryOverrides[entry.entryId.toNat]? .panic
  return parent.join (renamed.getD entry.component)

/-- What is found for an entry has its kind and its content. -/
def verifyFound [Blake3] (verifiedEntries : List VerifiedEntryV2) (entry : ManifestEntryV2)
    (found : FileTree) :
    Except CommitFailure Unit :=
  match entry.kind, found with
  | .directory, .directory _ => pure ()
  | .regularFile, .file content => do
    if content.length ≠ entry.plaintextSize.toNat then
      throw .lateCollision
    let verified ← okOr verifiedEntries[entry.entryId.toNat]? .panic
    let expected ← okOr verified.finalDigest invalidEntryState
    if (⟨Blake3.hash content⟩ : ContentDigestV2) ≠ expected then
      throw .lateCollision
  | _, _ => throw .lateCollision

/-- The round of the first loop of `verify_exact_root` for one entry. -/
def verifyEntry [Blake3] (manifest : ManifestV2) (verifiedEntries : List VerifiedEntryV2)
    (entryOverrides : List (Option String)) (tree : FileTree) (root : ManifestRootV2)
    (placed : List (UInt32 × Path)) (entry : ManifestEntryV2) :
    Except CommitFailure (List (UInt32 × Path)) := do
  let path ← entryPath manifest entryOverrides root placed entry
  let found ← okOr (tree.find? path) (destinationIo .notFound)
  verifyFound verifiedEntries entry found
  return (entry.entryId, path) :: placed

/-- `verify_exact_root`, on the tree that is found. -/
def verifyExactRoot [Blake3] (manifest : ManifestV2) (verifiedEntries : List VerifiedEntryV2)
    (entryOverrides : List (Option String)) (rootId : UInt32) (tree : FileTree) :
    Except CommitFailure Unit := do
  let root ← okOr (manifest.roots[rootId.toNat]?.filter (·.rootId = rootId)) invalidEntryState
  let placed ← (manifest.entries.filter (·.rootId = rootId)).foldlM
    (verifyEntry manifest verifiedEntries entryOverrides tree root) [(root.rootEntryId, [])]
  let rootEntry ← okOr manifest.entries[root.rootEntryId.toNat]? .panic
  -- Every object below the root is one of the entries.
  if rootEntry.kind = .directory ∧ ¬ tree.paths.all (· ∈ placed.map Prod.snd) then
    throw .lateCollision

section Commit

variable [Blake3]

def verifyPlace (place : Place) (verifiedEntries : List VerifiedEntryV2) (rootId : UInt32) :
    CommitMethod Unit := do
  let tree ← attempt destinationIo (.readTree place) rfl
  raise (verifyExactRoot (← manifest) verifiedEntries (← get).entryOverrides rootId tree)

/-- `object_identity` on a Unix target -/
def objectIdentity (place : Place) (exactContent : ContentDigestV2) :
    CommitMethod ObjectIdentityV2 := do
  let metadata ← attempt destinationIo (.symlinkMetadata place) rfl
  if metadata.isSymlink then
    throw invalidEntryState
  if ¬ (← plan).storageDomain.stableObjectIdentity then
    return .exactContent exactContent
  return .stable metadata.volume metadata.object

def verifyAdoptedRoot (place : Place) (expectedObject : ObjectIdentityV2)
    (verifiedEntries : List VerifiedEntryV2) (rootId : UInt32) : CommitMethod Unit := do
  match expectedObject with
  | .stable _ _ =>
    let content ← raise (rootContentDigest (← manifest) verifiedEntries rootId)
    if (← objectIdentity place content) ≠ expectedObject then
      throw .lateCollision
  | .exactContent rootDigest =>
    verifyPlace place verifiedEntries rootId
    if (← raise (rootContentDigest (← manifest) verifiedEntries rootId)) ≠ rootDigest then
      throw .lateCollision

/-! ## Steps of a finalisation -/

def finalizationSourcePath (plan : DestinationWritePlanV2) (rootId : UInt32) : Place :=
  if plan.mode = .copyAfterVerify then .copyRoot rootId else .staging rootId

/-- `target_path_for_root` -/
def targetPlace (plan : DestinationWritePlanV2) (rootId : UInt32) : CommitMethod Place := do
  let root ← raise
    (okOr (plan.rootPlans[rootId.toNat]?.filter (·.rootId = rootId)) invalidEntryState)
  return .target root.plannedName

def copyVerified (rootId : UInt32) (verifiedEntries : List VerifiedEntryV2) :
    CommitMethod Place := do
  attempt destinationIo (.removePrivateStagingPath (.copyPartial rootId)) rfl
  attempt destinationIo (.copyTree (.staging rootId) (.copyPartial rootId)) rfl
  attempt destinationIo (.syncTreeDirectories (.copyPartial rootId)) rfl
  verifyPlace (.copyPartial rootId) verifiedEntries rootId
  match ← perform (CommitOp.exclusiveRename (.copyPartial rootId) (.copyRoot rootId)) with
  | .ok () =>
    attempt destinationIo (.syncRenameDirectories (.copyPartial rootId) (.copyRoot rootId)) rfl
  | .error .alreadyExists => throw (destinationIo (.other "File exists"))
  | .error (.io error) => throw (destinationIo error)
  return .copyRoot rootId

def prepareFinalizationSource (rootId : UInt32) (verifiedEntries : List VerifiedEntryV2) :
    CommitMethod Place := do
  if (← plan).mode ≠ .copyAfterVerify then
    return .staging rootId
  if ← attempt destinationIo (.tryExists (.copyRoot rootId)) rfl then
    match ← outcome (verifyPlace (.copyRoot rootId) verifiedEntries rootId) with
    | .ok () => return .copyRoot rootId
    | .error .lateCollision | .error (.destination (.io _)) =>
      attempt destinationIo (.removePrivateStagingPath (.copyRoot rootId)) rfl
    | .error failure => throw failure
  copyVerified rootId verifiedEntries

def finalizeRootSource (rootId : UInt32) (source : Place) : CommitMethod Unit := do
  let plan ← plan
  let finalPath ← targetPlace plan rootId
  let reservation ← index plan.reservations rootId.toNat
  if ¬ (← attempt destinationIo (.reservationExists reservation) rfl) then
    throw .reservationLost
  match ← perform (CommitOp.exclusiveRename source finalPath) with
  | .ok () => attempt destinationIo (.syncRenameDirectories source finalPath) rfl
  | .error .alreadyExists => throw .lateCollision
  | .error (.io error) => throw (destinationIo error)

def persistNewSaveIntent (rootId : UInt32) (expectedObject : ObjectIdentityV2) :
    CommitMethod Unit := do
  let plan ← plan
  let rootPlan ← raise
    (okOr (plan.rootPlans[rootId.toNat]?.filter (·.rootId = rootId)) invalidEntryState)
  let reservation ← raise (okOr plan.reservations[rootId.toNat]? invalidEntryState)
  let idempotencyKey ← attempt (fun _ => destinationIo (.other "receiver entropy unavailable"))
    .fillRandom rfl
  setRoot rootId
    (.finalizeIntent expectedObject plan.planRevision rootPlan.plannedName reservation
      idempotencyKey)
  saveEffectLedger

/-- A save intent that is the plan's own. -/
def isCurrentIntent (plan : DestinationWritePlanV2) (rootId : UInt32) (planRevision : UInt32)
    (plannedName : String) (reservation : Path) (idempotencyKey : ByteVector 16) :
    Except CommitFailure Bool := do
  if planRevision ≠ plan.planRevision then
    return false
  let rootPlan ← okOr plan.rootPlans[rootId.toNat]? .panic
  if plannedName ≠ rootPlan.plannedName then
    return false
  let reserved ← okOr plan.reservations[rootId.toNat]? .panic
  return reservation = reserved ∧ idempotencyKey ≠ ByteVector.zero 16

def currentIntentObject (rootId : UInt32) : CommitMethod ObjectIdentityV2 := do
  let state ← get
  match state.provider.saveRoots[rootId.toNat]? with
  | some (.finalizeIntent expectedObject planRevision plannedName reservation idempotencyKey) =>
    if ¬ (← raise
      (isCurrentIntent state.provider.plan rootId planRevision plannedName reservation
        idempotencyKey)) then
      throw invalidEntryState
    return expectedObject
  | _ => throw invalidEntryState

/-- Prepares the source of a root, and notes in the ledger what is to be renamed. -/
def prepareIntent (rootId : UInt32) (verifiedEntries : List VerifiedEntryV2)
    (expectedRootDigest : ContentDigestV2) :
    CommitMethod Place := do
  let source ← prepareFinalizationSource rootId verifiedEntries
  attempt .io (.syncTreeDirectories source) rfl
  let expectedObject ← objectIdentity source expectedRootDigest
  persistNewSaveIntent rootId expectedObject
  return source

/-- An intent of an older plan is renewed. -/
def refreshIntent (rootId : UInt32) : CommitMethod Unit := do
  match ← rootState rootId with
  | .finalizeIntent expectedObject planRevision _ _ _ =>
    if planRevision < (← plan).planRevision then
      persistNewSaveIntent rootId expectedObject
    else
      let _ ← currentIntentObject rootId
  | _ => throw invalidEntryState

/-- A name that is taken is reported as contended. -/
def contended (body : CommitMethod Unit) : CommitMethod Unit := do
  match ← outcome body with
  | .ok () => pure ()
  | .error .lateCollision => throw (.destination .destinationContended)
  | .error failure => throw failure

/-- The part of a round of `commit_job` that acts on a recorded intent. -/
def followIntent (rootId : UInt32) (verifiedEntries : List VerifiedEntryV2)
    (expectedRootDigest : ContentDigestV2) :
    CommitMethod Unit := do
  let expectedObject ← currentIntentObject rootId
  let plan ← plan
  let source := finalizationSourcePath plan rootId
  let finalPath ← targetPlace plan rootId
  if ← attempt .io (.tryExists source) rfl then
    if (← objectIdentity source expectedRootDigest) ≠ expectedObject then
      throw invalidEntryState
    contended (finalizeRootSource rootId source)
  else if ← attempt .io (.tryExists finalPath) rfl then
    contended (verifyAdoptedRoot finalPath expectedObject verifiedEntries rootId)
  else if plan.mode = .copyAfterVerify then
    let source ← prepareIntent rootId verifiedEntries expectedRootDigest
    contended (finalizeRootSource rootId source)
  else
    throw invalidEntryState

def isReused : RootSaveStateV2 → Bool
  | .saved .reusedExisting _ => true
  | .saved .saved _ | .pending | .finalizeIntent .. => false

def isSaved : RootSaveStateV2 → Bool
  | .saved .saved _ => true
  | .saved .reusedExisting _ | .pending | .finalizeIntent .. => false

def reuseObject (entryId : UInt32) : CommitMethod ReuseObject := do
  raise (okOr ((← get).provider.reuseObjects.lookup entryId) (.destination .reusedObjectLost))

/-- The round of `commit_job` for one root. -/
def commitRoot (verifiedEntries : List VerifiedEntryV2) (root : ManifestRootV2) :
    CommitMethod Unit := do
  let verified ← index verifiedEntries root.rootEntryId.toNat
  if verified.completionChoice = .reuseChosen then
    let reuse ← reuseObject root.rootEntryId
    if ¬ isReused (← rootState root.rootId) then
      setRoot root.rootId (.saved .reusedExisting reuse.finalName)
      saveEffectLedger
    return ()
  if isSaved (← rootState root.rootId) then
    return ()
  let expectedRootDigest ← raise (rootContentDigest (← manifest) verifiedEntries root.rootId)
  if (← rootState root.rootId) = .pending then
    let _ ← prepareIntent root.rootId verifiedEntries expectedRootDigest
  else
    refreshIntent root.rootId
  followIntent root.rootId verifiedEntries expectedRootDigest
  let rootPlan ← index (← plan).rootPlans root.rootId.toNat
  setRoot root.rootId (.saved .saved rootPlan.plannedName)
  saveEffectLedger

/-- The object that stands in for an entry has not changed since it was chosen. -/
def checkReuse (verified : VerifiedEntryV2) : CommitMethod Unit := do
  if verified.completionChoice = .reuseChosen then
    let reuse ← reuseObject verified.entryId
    let content ← attempt .io (.readReuse verified.entryId) rfl
    if content.length ≠ reuse.size ∨ (⟨Blake3.hash content⟩ : ContentDigestV2) ≠ reuse.digest then
      throw (.destination .reusedObjectLost)

/-- The result of one entry, once its root is saved. -/
def savedEntry (entry : ManifestEntryV2) (verified : VerifiedEntryV2) :
    CommitMethod SavedEntryV2 := do
  let result := if verified.completionChoice = .reuseChosen then .reusedExisting else .saved
  let root ← index (← manifest).roots entry.rootId.toNat
  let overrideName ←
    if entry.entryId = root.rootEntryId then do
      match ← rootState root.rootId with
      | .saved _ finalName => pure (if finalName ≠ entry.component then some finalName else none)
      | .pending | .finalizeIntent .. => throw invalidEntryState
    else index (← get).entryOverrides entry.entryId.toNat
  return { entryId := entry.entryId, result, finalComponentOverride := overrideName }

/-- `fs::remove_file`, where a missing file is no error. -/
def removeReservation (reservation : Path) : CommitMethod Unit := do
  match ← perform (CommitOp.removeReservation reservation) with
  | .ok () | .error .notFound => pure ()
  | .error error => throw (.io error)

def commitJob (manifest : ManifestV2) (verifiedEntries : List VerifiedEntryV2) :
    CommitMethod (List SavedEntryV2) := do
  if manifest.jobId ≠ (← Finalization.manifest).jobId ∨
    verifiedEntries.length ≠ manifest.entries.length then
    throw invalidEntryState
  verifiedEntries.forM checkReuse
  manifest.roots.forM (commitRoot verifiedEntries)
  let results ← (manifest.entries.zip verifiedEntries).mapM fun (entry, verified) =>
    savedEntry entry verified
  (← plan).reservations.forM removeReservation
  return results

end Commit

end Envoix.Transfer.Finalization
