import Envoix.Protocol.Offer

/-! # The transfer job record

Model of the data of `envoix-transfer/src/job.rs`: the selections, the prepared inventory, the
sealed manifest, and the pure rules over them up to `validate_durable`.
-/

namespace Envoix.Job

open ByteCodec Fallible Envoix.Protocol

/-! ## Paths -/

/-- A name as the operating system has it, not necessarily UTF-8. -/
abbrev OsString := Bytes

inductive PathComponent where
  | rootDir
  | curDir
  | parentDir
  | normal (name : OsString)
deriving DecidableEq

/-- A path by its components, which is how Rust compares paths. -/
structure PathBuf where
  components : List PathComponent
deriving DecidableEq

namespace PathBuf

def join (self : PathBuf) (name : OsString) : PathBuf := ⟨self.components ++ [.normal name]⟩

def startsWith (self base : PathBuf) : Bool := decide (base.components <+: self.components)

/-- `Path::file_name` -/
def fileName (self : PathBuf) : Option OsString :=
  match self.components.getLast? with
  | some (.normal name) => some name
  | _ => none

def componentBytes : PathComponent → Bytes
  | .rootDir => []
  | .curDir => [0x2e]
  | .parentDir => [0x2e, 0x2e]
  | .normal name => name

/-- `path.as_os_str().as_encoded_bytes()` -/
def encodedBytes (self : PathBuf) : Bytes :=
  if self.components = [.rootDir] then [0x2f]
  else [(0x2f : UInt8)].intercalate (self.components.map componentBytes)

end PathBuf

/-! ## Records -/

def transferJobSchemaVersion : UInt16 := 1
def firstSelectionRevision : UInt64 := 1
def firstGeneration : UInt32 := 1
def firstSourceItemId : UInt64 := 1
def derivedItemIdMask : UInt64 := 0x8000000000000000

structure SourceItemId where
  value : UInt64
deriving DecidableEq

inductive LocalSourceOrigin where
  | filesystem
  | photosStaging
  | shareStaging
  | contentUriStaging
  | fileProviderStaging
deriving DecidableEq

inductive JobLifecycle where
  | preparing
  | needsSourceDecision
  | readyToSend
  | sealed
  | canceled
deriving DecidableEq

inductive SourceSelectionState where
  | pending
  | enumerating
  | needsDecision
  | ready
deriving DecidableEq

inductive SourceIssueKind where
  | permissionDenied
  | unavailable
  | invalidName
  | symbolicLink
  | specialFile
  | sourceChanged
  | depthLimit
  | entryLimit
deriving DecidableEq

structure SourceIssue where
  issueId : UInt64
  rootItemId : SourceItemId
  relativeComponents : List String
  kind : SourceIssueKind
deriving DecidableEq

/-- An issue a platform provider found while stabilizing an opaque tree. -/
structure ProviderSourceIssue where
  relativeComponents : List String
  kind : SourceIssueKind
deriving DecidableEq

inductive SourceDecision where
  | reauthorize (localPath : PathBuf)
  | approvePartial
  | removeSelection
  | cancelJob
deriving DecidableEq

structure AddSourceResult where
  rootItemId : SourceItemId
  foldedIntoExistingSelection : Bool
  removedCoveredRoots : List SourceItemId
deriving DecidableEq

inductive IoError where
  | permissionDenied
  | notFound
  | alreadyExists
  | other (message : String)
deriving DecidableEq

inductive TransferJobError where
  | entropy
  | sealedMutation
  | canceled
  | unknownSelection (rootItemId : SourceItemId)
  | unknownItem (itemId : SourceItemId)
  | decisionNotRequired
  | emptyPartialRoot
  | partialNotAllowed
  | overlappingSelection
  | unresolvedSourceDecision
  | preparationIncomplete
  | staleInventoryCursor (expected actual : UInt64)
  | invalidPageLimit
  | invalidComponent
  | rootLimit
  | sourceChanged
  | notRegularFile
  | unsupportedSchema (version : UInt16)
  | invalidRecord (message : String)
  | protocol (message : String)
  | io (error : IoError)
  | json (message : String)
deriving DecidableEq

structure SourceFingerprint where
  plaintextSize : UInt64
  modifiedUnixNanos : Option UInt64
  canonicalPathDigest : ByteVector 32
deriving DecidableEq

structure LocalSourceBinding where
  path : PathBuf
  origin : LocalSourceOrigin
  jobOwnedStaging : Bool
  fingerprint : SourceFingerprint
deriving DecidableEq

structure SourceSelection where
  rootItemId : SourceItemId
  selectionOrder : UInt32
  requestedName : String
  path : PathBuf
  canonicalPath : Option PathBuf
  isDirectoryHint : Option Bool
  origin : LocalSourceOrigin
  jobOwnedStaging : Bool
  state : SourceSelectionState
  rootInventoryItemId : Option SourceItemId
  completeness : SourceCompletenessV2
  issues : List SourceIssue
deriving DecidableEq

structure PreparedInventoryEntry where
  itemId : SourceItemId
  rootItemId : SourceItemId
  parentItemId : Option SourceItemId
  relativeComponents : List String
  name : String
  kind : ManifestEntryKindV2
  plaintextSize : UInt64
  modifiedUnixNanos : Option UInt64
  digest : Option ContentDigestV2
deriving DecidableEq

structure SealedTransferJob where
  manifest : ManifestV2
  structuralDigest : ContentDigestV2
  offerBytes : Bytes
deriving DecidableEq

/-- `BTreeMap<SourceItemId, LocalSourceBinding>`; its order is that of no modelled result. -/
abbrev SourceBindings := List (SourceItemId × LocalSourceBinding)

/-- `BTreeMap::insert` -/
def SourceBindings.insert (bindings : SourceBindings) (itemId : SourceItemId)
    (binding : LocalSourceBinding) :
    SourceBindings :=
  bindings.filter (fun bound => bound.1 ≠ itemId) ++ [(itemId, binding)]

/-- `BTreeMap::extend` -/
def SourceBindings.extend (bindings added : SourceBindings) : SourceBindings :=
  added.foldl (fun bindings bound => bindings.insert bound.1 bound.2) bindings

structure CanonicalTransferJob where
  schemaVersion : UInt16
  jobId : JobIdV2
  createdUnixMs : UInt64
  updatedUnixMs : UInt64
  selectionRevision : UInt64
  generation : UInt32
  lifecycle : JobLifecycle
  compressionPolicy : CompressionPolicyV2
  nextSourceItemId : UInt64
  nextIssueId : UInt64
  selections : List SourceSelection
  inventory : List PreparedInventoryEntry
  sourceBindings : SourceBindings
  cleanupPending : List PathBuf
  sealed : Option SealedTransferJob
deriving DecidableEq

/-! ## Components and paths of an entry -/

section Component

variable [UnicodeNormalization]

def canonicalComponent (component : String) : String := UnicodeNormalization.nfc component

def validateComponent (component : String) : Except TransferJobError Unit :=
  reject (component = "" ∨ component = "." ∨ component = ".." ∨
    (asBytes component).length > maxManifestV2ComponentBytes ∨ hasControlOrSeparator component ∨
    ¬ UnicodeNormalization.isNfc component) .invalidComponent

def sourceName (path : PathBuf) : Except TransferJobError String := do
  let name ← okOr (path.fileName.bind fromUtf8) .invalidComponent
  let name := canonicalComponent name
  validateComponent name
  pure name

def validateComponents (components : List String) : Except TransferJobError Unit :=
  components.forM validateComponent

def validateProviderIssues (issues : List ProviderSourceIssue) : Except TransferJobError Unit :=
  issues.forM fun issue => validateComponents issue.relativeComponents

def canonicalProviderIssues (issues : List ProviderSourceIssue) :
    Except TransferJobError (List ProviderSourceIssue) :=
  issues.mapM fun issue => do
    let relativeComponents ← issue.relativeComponents.mapM fun component => do
      let component := canonicalComponent component
      validateComponent component
      pure component
    pure { issue with relativeComponents }

end Component

def logicalPathBytes (components : List String) : Nat :=
  (components.map fun component => (asBytes component).length).sum + (components.length - 1)

/-! ## The job's own rules -/

namespace CanonicalTransferJob

/-- The lifecycle the selections of an open job stand for. -/
def derivedLifecycle (selections : List SourceSelection) : JobLifecycle :=
  if selections.any fun selection => selection.state = .needsDecision then .needsSourceDecision
  else if selections ≠ [] ∧ selections.all fun selection => selection.state = .ready then
    .readyToSend
  else .preparing

def refreshLifecycle (self : CanonicalTransferJob) : CanonicalTransferJob :=
  match self.lifecycle with
  | .sealed => self
  | .canceled => self
  | _ => { self with lifecycle := derivedLifecycle self.selections }

def retainCurrentBindings (self : CanonicalTransferJob) : CanonicalTransferJob :=
  let retained := self.inventory.map fun entry => entry.itemId
  { self with sourceBindings := self.sourceBindings.filter fun bound => bound.1 ∈ retained }

def reindexSelections (self : CanonicalTransferJob) : CanonicalTransferJob :=
  { self with
    selections := self.selections.mapIdx fun index selection =>
      { selection with selectionOrder := UInt32.ofNat index } }

/-- `self.inventory.retain(|entry| entry.root_item_id != root_item_id)` and the bindings after
it. -/
def dropEntries (self : CanonicalTransferJob) (rootItemId : SourceItemId) : CanonicalTransferJob :=
  retainCurrentBindings
    { self with inventory := self.inventory.filter fun entry => entry.rootItemId ≠ rootItemId }

def updateSelection (self : CanonicalTransferJob) (index : Nat)
    (change : SourceSelection → SourceSelection) :
    CanonicalTransferJob :=
  { self with selections := self.selections.modify index change }

/-! ### `validate_durable` -/

variable [UnicodeNormalization]

def rootEntryOf (self : CanonicalTransferJob) (selection : SourceSelection) :
    Option PreparedInventoryEntry :=
  selection.rootInventoryItemId.bind fun itemId => self.inventory.find? fun entry =>
    entry.itemId = itemId

def validateSelection (self : CanonicalTransferJob) (selection : SourceSelection) :
    Except TransferJobError Unit := do
  mapErr (fun _ => .invalidRecord "selection name is invalid")
    (validateComponent selection.requestedName)
  reject (selection.issues.any fun issue => issue.rootItemId ≠ selection.rootItemId)
    (.invalidRecord "source issue belongs to another root")
  let rootEntry := self.rootEntryOf selection
  reject ((rootEntry.any fun entry => entry.rootItemId ≠ selection.rootItemId ∨
      entry.parentItemId.isSome ∨ entry.relativeComponents ≠ []) ∨
        (selection.rootInventoryItemId.isSome ∧ rootEntry.isNone))
    (.invalidRecord "selection root inventory reference is invalid")

/-- The checks of one inventory entry; `seen` holds the ids before it. -/
def validateEntry (self : CanonicalTransferJob) (seen : List SourceItemId)
    (entry : PreparedInventoryEntry) :
    Except TransferJobError Unit := do
  reject ((entry.rootItemId ∉ self.selections.map fun selection => selection.rootItemId) ∨
      ¬ (validateComponent entry.name).isOk ∨
      entry.relativeComponents.length > maxManifestV2PathDepth ∨
      logicalPathBytes entry.relativeComponents > maxManifestV2PathBytes ∨
      (entry.kind = .directory ∧ entry.plaintextSize ≠ 0))
    (.invalidRecord "inventory entry violates canonical bounds")
  reject (entry.relativeComponents.getLast?.any fun name => name ≠ entry.name)
    (.invalidRecord "inventory component and logical path disagree")
  match entry.parentItemId with
  | none => pure ()
  | some parentItemId =>
    let parent ← okOr (self.inventory.find? fun candidate => candidate.itemId = parentItemId)
      (.invalidRecord "inventory parent is missing")
    reject (parentItemId ∉ seen ∨ parent.rootItemId ≠ entry.rootItemId ∨ parent.kind ≠ .directory)
      (.invalidRecord "inventory parent ordering or kind is invalid")

def validateEntries (self : CanonicalTransferJob) :
    List SourceItemId → List PreparedInventoryEntry → Except TransferJobError Unit
  | _, [] => .ok ()
  | seen, entry :: entries => do
    self.validateEntry seen entry
    self.validateEntries (entry.itemId :: seen) entries

def validateSealed [Blake3] (self : CanonicalTransferJob) (facts : SealedTransferJob) :
    Except TransferJobError Unit := do
  reject (self.lifecycle ≠ .sealed ∧ self.lifecycle ≠ .canceled)
    (.invalidRecord "only a sealed or canceled job may contain sealed bytes")
  reject (facts.manifest.jobId ≠ self.jobId ∨ facts.manifest.generation ≠ self.generation ∨
      facts.manifest.selectionRevision ≠ self.selectionRevision ∨
      facts.manifest.compressionPolicy ≠ self.compressionPolicy)
    (.invalidRecord "sealed Manifest identity does not match its job")
  let rebuilt ← mapErr (fun error => .protocol error.text) (buildManifestOfferV2 facts.manifest)
  let encoded ← mapErr (fun error => .protocol error.text) (encodeManifestOfferV2 rebuilt.manifest)
  reject (rebuilt.structuralDigest ≠ facts.structuralDigest ∨ encoded ≠ facts.offerBytes)
    (.invalidRecord "sealed Manifest bytes or digest changed")

/-- The lifecycle `validate_durable` expects of a job that is not canceled. -/
def expectedLifecycle (self : CanonicalTransferJob) : JobLifecycle :=
  if self.sealed.isSome then .sealed else derivedLifecycle self.selections

def validateDurable [Blake3] (self : CanonicalTransferJob) : Except TransferJobError Unit := do
  reject (self.schemaVersion ≠ transferJobSchemaVersion) (.unsupportedSchema self.schemaVersion)
  reject (self.jobId.bytes = ByteVector.zero 16 ∨ self.createdUnixMs = 0 ∨
      self.updatedUnixMs < self.createdUnixMs ∨ self.selectionRevision = 0 ∨ self.generation = 0 ∨
      self.selections.length > maxManifestV2Roots ∨ self.inventory.length > maxManifestV2Entries)
    (.invalidRecord "identity, revision, generation, or bounds are invalid")
  let uniqueItems := (self.inventory.map fun entry => entry.itemId).dedup
  reject (uniqueItems.length ≠ self.inventory.length)
    (.invalidRecord "inventory item IDs are not unique")
  let rootIds := (self.selections.map fun selection => selection.rootItemId).dedup
  reject (rootIds.length ≠ self.selections.length ∨
      self.selections.zipIdx.any fun (selection, index) =>
        selection.selectionOrder ≠ UInt32.ofNat index)
    (.invalidRecord "selection IDs or ordering are invalid")
  self.selections.forM self.validateSelection
  self.validateEntries [] self.inventory
  reject (self.sourceBindings.length ≠ self.inventory.length ∨
      self.sourceBindings.any fun bound => bound.1 ∉ uniqueItems)
    (.invalidRecord "source bindings do not match inventory")
  reject (self.cleanupPending.any fun pending => self.selections.any fun selection =>
    selection.path = pending)
    (.invalidRecord "active sources cannot also be pending cleanup")
  reject (self.lifecycle ≠ .canceled ∧ self.lifecycle ≠ self.expectedLifecycle)
    (.invalidRecord "job lifecycle does not match durable facts")
  match self.sealed with
  | none => pure ()
  | some facts => self.validateSealed facts

end CanonicalTransferJob

end Envoix.Job
