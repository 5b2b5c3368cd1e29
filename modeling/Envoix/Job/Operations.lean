import Envoix.Job.Enumerate
import Mathlib.Data.UInt

/-! # The operations of a transfer job

Model of the `&mut self` methods of `CanonicalTransferJob` in `envoix-transfer/src/job.rs` that
select, prepare, hash, seal and cancel.  A method that fails leaves behind what it had already
changed.
-/

namespace Envoix.Job

open ByteCodec Fallible Process Process.Method Envoix.Protocol

abbrev JobMethod := Method JobProc CanonicalTransferJob TransferJobError

/-- `unix_time_ms`: zero for a clock before the epoch or beyond `u64`. -/
def unixTimeMs : JobProc UInt64 := do
  let now ← Proc.perform JobOp.systemTime
  pure (if 0 ≤ now ∧ now < 2 ^ 64 then UInt64.ofNat now.toNat else 0)

namespace CanonicalTransferJob

def new (compressionPolicy : CompressionPolicyV2) :
    JobProc (Except TransferJobError CanonicalTransferJob) := do
  match ← Proc.perform JobOp.fill with
  | none => pure (.error .entropy)
  | some jobId =>
    if jobId = ByteVector.zero 16 then pure (.error .entropy)
    else
      let now ← unixTimeMs
      pure (.ok {
        schemaVersion := transferJobSchemaVersion
        jobId := ⟨jobId⟩
        createdUnixMs := now
        updatedUnixMs := now
        selectionRevision := firstSelectionRevision
        generation := firstGeneration
        lifecycle := .preparing
        compressionPolicy
        nextSourceItemId := firstSourceItemId
        nextIssueId := 1
        selections := []
        inventory := []
        sourceBindings := []
        cleanupPending := []
        sealed := none })

/-! ## Helpers -/

def ensureMutable : JobMethod Unit := do
  match (← get).lifecycle with
  | .sealed => throw .sealedMutation
  | .canceled => throw .canceled
  | _ => pure ()

def touch (self : CanonicalTransferJob) (now : UInt64) : CanonicalTransferJob :=
  { self with updatedUnixMs := max now self.updatedUnixMs }

/-- `self.updated_unix_ms = unix_time_ms().max(self.updated_unix_ms)` -/
def touchNow : JobMethod Unit := do
  let now ← call unixTimeMs
  modify (touch · now)

def bumpRevision : JobMethod Unit := do
  let self ← get
  let selectionRevision ←
    raise (okOr (checkedAdd64 self.selectionRevision 1)
      (.invalidRecord "selection revision overflow"))
  set { self with selectionRevision }
  touchNow

def allocateSourceItemId : JobMethod SourceItemId := do
  let self ← get
  let nextSourceItemId ←
    raise (okOr (checkedAdd64 self.nextSourceItemId 1) (.invalidRecord "source item ID overflow"))
  set { self with nextSourceItemId }
  pure ⟨self.nextSourceItemId⟩

def issue (rootItemId : SourceItemId) (relativeComponents : List String) (kind : SourceIssueKind) :
    JobMethod SourceIssue := do
  let self ← get
  let nextIssueId ← raise (okOr (checkedAdd64 self.nextIssueId 1)
    (.invalidRecord "issue ID overflow"))
  set { self with nextIssueId }
  pure { issueId := self.nextIssueId, rootItemId, relativeComponents, kind }

/-- The issues of one root, numbered one after the other. -/
def resolveIssues (rootItemId : SourceItemId) : List PendingIssue → JobMethod (List SourceIssue)
  | [] => pure []
  | pending :: rest => do
    let first ← issue rootItemId pending.relativeComponents pending.kind
    let others ← resolveIssues rootItemId rest
    pure (first :: others)

def selectionIndex (rootItemId : SourceItemId) : JobMethod Nat := do
  let self ← get
  raise (okOr (self.selections.findIdx? fun selection => selection.rootItemId = rootItemId)
    (.unknownSelection rootItemId))

/-- `self.selections[index]` -/
def selectionAt (index : Nat) : JobMethod SourceSelection := do
  match (← get).selections[index]? with
  | some selection => pure selection
  | none => call abort

variable [UnicodeNormalization]

def setCompressionPolicy (compressionPolicy : CompressionPolicyV2) : JobMethod Unit := do
  ensureMutable
  if (← get).compressionPolicy ≠ compressionPolicy then
    modify fun self => { self with compressionPolicy }
    bumpRevision

/-! ## Adding a source -/

/-- The canonical path, the directory hint and the first issue of an added path. -/
def inspectSource (path : PathBuf) :
    JobProc (Option PathBuf × Option Bool × Option SourceIssueKind) := do
  match ← Proc.perform (JobOp.symlinkMetadata path) with
  | .error error => pure (none, none, some (issueKind error))
  | .ok metadata =>
    match metadata.fileType with
    | .symlink => pure (none, none, some .symbolicLink)
    | .special => pure (none, none, some .specialFile)
    | fileType =>
      let canonicalPath := (← Proc.perform (JobOp.canonicalize path)).toOption
      pure (canonicalPath, some (decide (fileType = .directory)), none)

/-- The selection an added path is folded into. -/
def foldingSelection (selections : List SourceSelection) (canonicalPath : Option PathBuf) :
    Option SourceSelection :=
  canonicalPath.bind fun candidate => selections.find? fun selection =>
    selection.canonicalPath = some candidate ∨
      (selection.isDirectoryHint = some true ∧ selection.canonicalPath.any fun root =>
        candidate.startsWith root)

/-- The selection lies below the added directory. -/
def isCovered (isDirectoryHint : Option Bool) (canonicalPath : Option PathBuf)
    (selection : SourceSelection) :
    Bool :=
  isDirectoryHint == some true &&
    canonicalPath.any fun root => selection.canonicalPath.any fun existing =>
      existing.startsWith root

def removeCoveredRoots (self : CanonicalTransferJob) (covered : SourceSelection → Bool) :
    CanonicalTransferJob :=
  let removed := (self.selections.filter covered).map fun selection => selection.rootItemId
  retainCurrentBindings { self with
    selections := self.selections.filter fun selection => ¬ covered selection
    inventory := self.inventory.filter fun entry => entry.rootItemId ∉ removed }

def pushSelection (self : CanonicalTransferJob) (selection : SourceSelection) :
    CanonicalTransferJob :=
  reindexSelections { self with selections := self.selections ++ [selection] }

/-- The part of `add_local_source` after the source was looked at and not folded. -/
def admitSource (path : PathBuf) (requestedName : String) (origin : LocalSourceOrigin)
    (jobOwnedStaging : Bool) (canonicalPath : Option PathBuf) (isDirectoryHint : Option Bool)
    (initialIssue : Option SourceIssueKind) :
    JobMethod AddSourceResult := do
  let self ← get
  let covered := isCovered isDirectoryHint canonicalPath
  raise (reject (self.selections.length ≥ maxManifestV2Roots ∧
    ¬ self.selections.any covered) .rootLimit)
  let rootItemId ← allocateSourceItemId
  if isDirectoryHint = some true ∧ canonicalPath.isSome then
    modify (removeCoveredRoots · covered)
  let issues ← resolveIssues rootItemId (initialIssue.toList.map fun kind => ⟨[], kind⟩)
  modify (pushSelection · {
    rootItemId
    selectionOrder := 0
    requestedName
    path
    canonicalPath
    isDirectoryHint
    origin
    jobOwnedStaging
    state := if issues.isEmpty then .pending else .needsDecision
    rootInventoryItemId := none
    completeness := .complete
    issues })
  bumpRevision
  modify refreshLifecycle
  pure {
    rootItemId
    foldedIntoExistingSelection := false
    removedCoveredRoots :=
      (self.selections.filter covered).map fun selection => selection.rootItemId }

def addLocalSource (path : PathBuf) (requestedName : String) (origin : LocalSourceOrigin)
    (jobOwnedStaging : Bool) : JobMethod AddSourceResult := do
  ensureMutable
  let requestedName := canonicalComponent requestedName
  raise (validateComponent requestedName)
  let (canonicalPath, isDirectoryHint, initialIssue) ← call (inspectSource path)
  match foldingSelection (← get).selections canonicalPath with
  | some existing =>
    pure { rootItemId := existing.rootItemId, foldedIntoExistingSelection := true,
           removedCoveredRoots := [] }
  | none =>
    admitSource path requestedName origin jobOwnedStaging canonicalPath isDirectoryHint initialIssue

def addLocalPath (path : PathBuf) : JobMethod AddSourceResult := do
  let requestedName ← raise (sourceName path)
  addLocalSource path requestedName .filesystem false

def addStagedSource (path : PathBuf) (requestedName : String) (origin : LocalSourceOrigin) :
    JobMethod AddSourceResult := do
  raise (reject (origin = .filesystem)
    (.invalidRecord "staged source must retain its platform origin"))
  let requestedName := canonicalComponent requestedName
  raise (validateComponent requestedName)
  addLocalSource path requestedName origin true

def attachProviderIssues (rootItemId : SourceItemId) (providerIssues : List ProviderSourceIssue) :
    JobMethod Unit := do
  if providerIssues.isEmpty then pure ()
  else
    raise (validateProviderIssues providerIssues)
    let resolved ← resolveIssues rootItemId
      (providerIssues.map fun found => ⟨found.relativeComponents, found.kind⟩)
    let index ← selectionIndex rootItemId
    modify fun self => self.updateSelection index fun selection =>
      { selection with issues := selection.issues ++ resolved, state := .needsDecision }
    bumpRevision
    modify refreshLifecycle

/-! ## Preparing a selection -/

variable [Blake3]

/-- The prepared entries join the inventory, and the selection records how the walk ended. -/
def adoptOutcome (self : CanonicalTransferJob) (index : Nat) (outcome : EnumerationOutcome)
    (issues : List SourceIssue) : CanonicalTransferJob :=
  updateSelection { self with
      inventory := self.inventory ++ outcome.entries
      sourceBindings := self.sourceBindings.extend outcome.bindings } index fun selection =>
    { selection with
      rootInventoryItemId := outcome.rootInventoryItemId
      issues
      completeness := .complete
      state := if issues.isEmpty then .ready else .needsDecision }

def occupiedIds (self : CanonicalTransferJob) : List SourceItemId :=
  (self.inventory.map fun entry => entry.itemId) ++ self.selections.map fun selection =>
    selection.rootItemId

def prepareSelection (rootItemId : SourceItemId) : JobMethod Unit := do
  ensureMutable
  let index ← selectionIndex rootItemId
  let selection ← selectionAt index
  raise (reject (selection.state = .needsDecision) .unresolvedSourceDecision)
  modify fun self => self.updateSelection index fun selection =>
    { selection with state := .enumerating }
  modify refreshLifecycle
  modify (dropEntries · rootItemId)
  let selection ← selectionAt index
  let self ← get
  match ← call (enumerateLocalSelection selection self.jobId self.occupiedIds
      (maxManifestV2Entries - self.inventory.length)) with
  | .ok outcome =>
    let issues ← resolveIssues rootItemId outcome.issues
    modify (adoptOutcome · index outcome issues)
  | .error kind =>
    let issues ← resolveIssues rootItemId [⟨[], kind⟩]
    modify fun self => self.updateSelection index fun selection =>
      { selection with issues, rootInventoryItemId := none, state := .needsDecision }
  bumpRevision
  modify refreshLifecycle

def prepareSelections : List SourceItemId → JobMethod Unit
  | [] => pure ()
  | rootItemId :: rest => do
    prepareSelection rootItemId
    prepareSelections rest

def prepareAll : JobMethod Unit := do
  ensureMutable
  let pending := ((← get).selections.filter fun selection => selection.state = .pending).map
    fun selection => selection.rootItemId
  prepareSelections pending
  modify refreshLifecycle

def addProviderPath (path : PathBuf) (requestedName : String) (origin : LocalSourceOrigin)
    (providerIssues : List ProviderSourceIssue) : JobMethod AddSourceResult := do
  raise (reject (origin = .filesystem)
    (.invalidRecord "provider source must retain its platform origin"))
  let requestedName := canonicalComponent requestedName
  let providerIssues ← raise (canonicalProviderIssues providerIssues)
  raise (validateComponent requestedName)
  raise (validateProviderIssues providerIssues)
  let added ← addLocalSource path requestedName origin false
  if added.foldedIntoExistingSelection then pure added
  else
    prepareSelection added.rootItemId
    attachProviderIssues added.rootItemId providerIssues
    pure added

/-! ## Decisions -/

/-- Another selection already reaches the reauthorized path, or lies below it. -/
def overlapsAnother (self : CanonicalTransferJob) (rootItemId : SourceItemId)
    (canonicalPath : Option PathBuf) :
    Bool :=
  canonicalPath.any fun candidate => self.selections.any fun selection =>
    selection.rootItemId ≠ rootItemId && selection.canonicalPath.any fun existing =>
      candidate = existing || candidate.startsWith existing || existing.startsWith candidate

def reauthorizeSelection (rootItemId : SourceItemId) (index : Nat) (localPath : PathBuf) :
    JobMethod Unit := do
  let canonicalPath := (← perform (JobOp.canonicalize localPath)).toOption
  raise (reject (overlapsAnother (← get) rootItemId canonicalPath) .overlappingSelection)
  let isDirectoryHint ← match canonicalPath with
    | none => pure none
    | some path =>
      let found ← perform (JobOp.metadata path)
      pure (found.toOption.map fun metadata => decide (metadata.fileType = .directory))
  modify fun self => self.updateSelection index fun selection => { selection with
    path := localPath
    jobOwnedStaging := false
    canonicalPath
    isDirectoryHint
    rootInventoryItemId := none
    completeness := .complete
    issues := []
    state := .pending }
  modify (dropEntries · rootItemId)

def approvePartial (index : Nat) : JobMethod Unit := do
  let selection ← selectionAt index
  raise (reject (selection.rootInventoryItemId.isNone ∨
    selection.issues.any fun issue => issue.relativeComponents = []) .emptyPartialRoot)
  raise (reject (selection.issues.any fun issue => issue.kind = .entryLimit) .partialNotAllowed)
  modify fun self => self.updateSelection index fun selection => { selection with
    completeness := .userApprovedPartial (UInt64.ofNat selection.issues.length) none
    state := .ready }

/-- `self.selections.remove(index)` with its entries; an owned artifact is left for cleanup. -/
def removeSelection (self : CanonicalTransferJob) (index : Nat) (selection : SourceSelection) :
    CanonicalTransferJob :=
  let self := reindexSelections
    (dropEntries { self with selections := self.selections.eraseIdx index } selection.rootItemId)
  if selection.jobOwnedStaging then
    { self with cleanupPending := self.cleanupPending ++ [selection.path] }
  else self

def resolveSourceDecision (rootItemId : SourceItemId) (decision : SourceDecision) :
    JobMethod (Option PathBuf) := do
  ensureMutable
  let index ← selectionIndex rootItemId
  let selection ← selectionAt index
  raise (reject (selection.state ≠ .needsDecision ∧ decision ≠ .removeSelection ∧
    decision ≠ .cancelJob)
    .decisionNotRequired)
  match decision with
  | .reauthorize localPath =>
    reauthorizeSelection rootItemId index localPath
    bumpRevision
    modify refreshLifecycle
    pure none
  | .approvePartial =>
    approvePartial index
    bumpRevision
    modify refreshLifecycle
    pure none
  | .removeSelection =>
    modify (removeSelection · index selection)
    bumpRevision
    modify refreshLifecycle
    pure (if selection.jobOwnedStaging then some selection.path else none)
  | .cancelJob =>
    modify fun self => { self with lifecycle := .canceled }
    bumpRevision
    pure none

def reauthorizeProviderSource (rootItemId : SourceItemId) (localPath : PathBuf)
    (providerIssues : List ProviderSourceIssue) : JobMethod Unit := do
  let index ← selectionIndex rootItemId
  let selection ← selectionAt index
  raise (reject (selection.origin = .filesystem)
    (.invalidRecord "filesystem sources must use filesystem reauthorization"))
  let providerIssues ← raise (canonicalProviderIssues providerIssues)
  raise (validateProviderIssues providerIssues)
  let _ ← resolveSourceDecision rootItemId (.reauthorize localPath)
  prepareSelection rootItemId
  attachProviderIssues rootItemId providerIssues

/-! ## Hashing -/

def verifySourceFingerprint (path : PathBuf) (expected : SourceFingerprint) : JobMethod Unit := do
  let metadata ← raise (mapErr .io (← perform (JobOp.symlinkMetadata path)))
  raise (reject (metadata.fileType = .symlink ∨ fingerprint path metadata ≠ expected)
    .sourceChanged)

def recordDigest (self : CanonicalTransferJob) (index : Nat) (digest : ContentDigestV2) :
    CanonicalTransferJob :=
  { self with inventory := self.inventory.modify index fun entry =>
    { entry with digest := some digest } }

def hashEntry (itemId : SourceItemId) : JobMethod ContentDigestV2 := do
  let self ← get
  raise (reject (self.lifecycle = .canceled) .canceled)
  let binding ← raise (okOr (self.sourceBindings.lookup itemId) (.unknownItem itemId))
  let index ← raise (okOr (self.inventory.findIdx? fun entry => entry.itemId = itemId)
    (.unknownItem itemId))
  raise (reject (self.inventory[index]?.any fun entry => entry.kind ≠ .regularFile) .notRegularFile)
  verifySourceFingerprint binding.path binding.fingerprint
  let content ← raise (mapErr .io (← perform (JobOp.readSource binding.path)))
  verifySourceFingerprint binding.path binding.fingerprint
  let digest : ContentDigestV2 := ⟨Blake3.hash content⟩
  modify (recordDigest · index digest)
  if (← get).lifecycle ≠ .sealed then bumpRevision else touchNow
  pure digest

/-! ## Sealing -/

structure InventorySummary where
  rootCount : UInt32
  fileCount : UInt32
  directoryCount : UInt32
  totalPlaintextBytes : UInt64
  warningCount : UInt32
deriving DecidableEq

def summarizeEntry (summary : InventorySummary) (entry : PreparedInventoryEntry) :
    InventorySummary :=
  match entry.kind with
  | .regularFile => { summary with
      fileCount := saturatingAdd32 summary.fileCount 1
      totalPlaintextBytes := saturatingAdd64 summary.totalPlaintextBytes entry.plaintextSize }
  | .directory => { summary with directoryCount := saturatingAdd32 summary.directoryCount 1 }

def inventorySummary (self : CanonicalTransferJob) : InventorySummary :=
  self.inventory.foldl summarizeEntry {
    rootCount := UInt32.ofNat self.selections.length
    fileCount := 0
    directoryCount := 0
    totalPlaintextBytes := 0
    warningCount :=
      (self.selections.map fun selection => UInt32.ofNat selection.issues.length).sum }

/-- The manifest under construction. -/
structure Assembly where
  roots : List ManifestRootV2
  entries : List ManifestEntryV2
  itemToEntry : List (SourceItemId × UInt32)

def assembleEntry (rootId : UInt32) (assembly : Assembly) (entry : PreparedInventoryEntry) :
    Except TransferJobError Assembly := do
  let entryId := UInt32.ofNat assembly.entries.length
  let parentEntryId ← match entry.parentItemId with
    | none => pure none
    | some parent =>
      let found ← okOr (assembly.itemToEntry.lookup parent)
        (.invalidRecord "canonical inventory parent appears after its child")
      pure (some found)
  pure { assembly with
    itemToEntry := (entry.itemId, entryId) :: assembly.itemToEntry
    entries := assembly.entries ++ [{
      entryId
      rootId
      parentEntryId
      component := entry.name
      kind := entry.kind
      plaintextSize := entry.plaintextSize
      contentDigest := match entry.digest with | some digest => .known digest | none => .deferred }]
        }

/-- The entries of one root, in inventory order. -/
def entriesOf (inventory : List PreparedInventoryEntry) (rootItemId : SourceItemId) :
    List PreparedInventoryEntry :=
  inventory.filter fun entry => entry.rootItemId = rootItemId

def assembleRoot (inventory : List PreparedInventoryEntry) (rootIndex : Nat) (assembly : Assembly)
    (selection : SourceSelection) : Except TransferJobError Assembly :=
  let rootId := UInt32.ofNat rootIndex
  let root : ManifestRootV2 := {
    rootId
    rootEntryId := UInt32.ofNat assembly.entries.length
    requestedName := selection.requestedName
    completeness := selection.completeness }
  (entriesOf inventory selection.rootItemId).foldlM (assembleEntry rootId)
    { assembly with roots := assembly.roots ++ [root] }

def assembleRoots (inventory : List PreparedInventoryEntry) :
    Nat → List SourceSelection → Assembly → Except TransferJobError Assembly
  | _, [], assembly => pure assembly
  | rootIndex, selection :: selections, assembly => do
    let assembly ← assembleRoot inventory rootIndex assembly selection
    assembleRoots inventory (rootIndex + 1) selections assembly

/-- The manifest `seal_for_send` submits to the protocol crate. -/
def assembleManifest (self : CanonicalTransferJob) : Except TransferJobError ManifestV2 := do
  let assembly ← assembleRoots self.inventory 0 self.selections ⟨[], [], []⟩
  let summary := self.inventorySummary
  pure {
    jobId := self.jobId
    generation := self.generation
    selectionRevision := self.selectionRevision
    compressionPolicy := self.compressionPolicy
    roots := assembly.roots
    entries := assembly.entries
    totals := {
      fileCount := summary.fileCount
      directoryCount := summary.directoryCount
      totalPlaintextBytes := summary.totalPlaintextBytes } }

def sealedFacts (self : CanonicalTransferJob) : Except TransferJobError SealedTransferJob := do
  let manifest ← self.assembleManifest
  let offer ← mapErr (fun error => .protocol error.text) (buildManifestOfferV2 manifest)
  let offerBytes ← mapErr (fun error => .protocol error.text) (encodeManifestOfferV2 offer.manifest)
  pure { manifest := offer.manifest, structuralDigest := offer.structuralDigest, offerBytes }

def sealForSend : JobMethod ManifestV2 := do
  ensureMutable
  modify refreshLifecycle
  let self ← get
  raise (reject (self.lifecycle = .needsSourceDecision) .unresolvedSourceDecision)
  raise (reject (self.lifecycle ≠ .readyToSend) .preparationIncomplete)
  let facts ← raise self.sealedFacts
  modify fun self => { self with sealed := some facts, lifecycle := .sealed }
  touchNow
  pure facts.manifest

def cancel : JobMethod Unit := do
  if (← get).lifecycle = .canceled then pure ()
  else
    modify fun self => { self with lifecycle := .canceled }
    bumpRevision

end CanonicalTransferJob

end Envoix.Job
