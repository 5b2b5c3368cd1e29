import Envoix.Foundation.FileSystem
import Envoix.Foundation.Process
import Envoix.Job.Records

/-! # Enumerating a selection

Model of `enumerate_local_selection` of `envoix-transfer/src/job.rs`: the explicit-stack walk over
a local tree, with its limits, its issues and its collision rule.  The file system, the clock and
the entropy source are the environment: every call is an operation with a reply of its own, so
that the tree may change between two calls.
-/

namespace Envoix.Job

open ByteCodec Fallible Process Envoix.Protocol

/-! ## The environment -/

inductive FileType where
  | regularFile
  | directory
  | symlink
  | special
deriving DecidableEq

structure Metadata where
  fileType : FileType
  len : UInt64
  /-- Nanoseconds since the epoch, where the platform keeps a modification time. -/
  modified : Option Int
deriving DecidableEq

/-- The names `next_entry` returns one by one, and the error that ended them early. -/
structure DirectoryListing where
  names : List OsString
  failure : Option IoError

inductive JobOp where
  | fill
  | systemTime
  | symlinkMetadata (path : PathBuf)
  | metadata (path : PathBuf)
  | canonicalize (path : PathBuf)
  | readDir (path : PathBuf)
  | readSource (path : PathBuf)
  | openSource (path : PathBuf)
  | createDirAll (path : PathBuf)
  | createNew (path : PathBuf)
  | copySource (source destination : PathBuf)
  | syncAll (path : PathBuf)
  | removeFile (path : PathBuf)
  | read (path : PathBuf)
  | write (path : PathBuf) (bytes : Bytes)
  | rename (source destination : PathBuf)
  | abort

/-- A failed write may leave anything at its path; `abort` is a panic or a loop without end. -/
@[reducible] def JobReply : JobOp → Type
  | .fill => Option (ByteVector 16)
  | .systemTime => Int
  | .symlinkMetadata _ => Except IoError Metadata
  | .metadata _ => Except IoError Metadata
  | .canonicalize _ => Except IoError PathBuf
  | .readDir _ => Except IoError DirectoryListing
  | .readSource _ => Except IoError Bytes
  | .openSource _ => Except IoError Unit
  | .createDirAll _ => Except IoError Unit
  | .createNew _ => Except IoError Unit
  | .copySource .. => Except IoError Unit
  | .syncAll _ => Except IoError Unit
  | .removeFile _ => Except IoError Unit
  | .read _ => Except IoError Bytes
  | .write .. => Except (IoError × Option Bytes) Unit
  | .rename .. => Except IoError Unit
  | .abort => Empty

abbrev JobProc := Proc JobOp JobReply

def abort {α : Type} : JobProc α := do
  nomatch ← Proc.perform JobOp.abort

def issueKind : IoError → SourceIssueKind
  | .permissionDenied => .permissionDenied
  | .notFound => .unavailable
  | _ => .unavailable

def modifiedUnixNanos (metadata : Metadata) : Option UInt64 :=
  metadata.modified.bind fun nanos =>
    if 0 ≤ nanos ∧ nanos < 2 ^ 64 then some (UInt64.ofNat nanos.toNat) else none

/-- `if metadata.is_file() { metadata.len() } else { 0 }` -/
def plaintextSizeOf (metadata : Metadata) : UInt64 :=
  if metadata.fileType = .regularFile then metadata.len else 0

/-! ## Item ids -/

section Ids

variable [Blake3]

def fingerprint (path : PathBuf) (metadata : Metadata) : SourceFingerprint where
  plaintextSize := plaintextSizeOf metadata
  modifiedUnixNanos := modifiedUnixNanos metadata
  canonicalPathDigest := Blake3.hash path.encodedBytes

def saltedItemId (jobId : JobIdV2) (rootItemId : SourceItemId) (components : List String)
    (salt : UInt64) :
    SourceItemId :=
  let digest := Blake3.hash (jobId.bytes.toList ++ u64Be rootItemId.value ++ u64Be salt ++
    components.flatMap fun component => u32Be (UInt32.ofNat (asBytes component).length) ++
      asBytes component)
  ⟨UInt64.ofNat (ofBe (digest.toList.take 8)) ||| derivedItemIdMask⟩

/-- The first of `salts` salted ids that is not taken. -/
def firstFreeId (candidate : UInt64 → SourceItemId) (occupied : List SourceItemId) :
    Nat → UInt64 → Option SourceItemId
  | 0, _ => none
  | salts + 1, salt =>
    if candidate salt ∈ occupied then firstFreeId candidate occupied salts (salt + 1)
    else some (candidate salt)

/-- The salt wraps around, so the loop ends within `2 ^ 64` rounds or never. -/
def stableInventoryItemId (jobId : JobIdV2) (rootItemId : SourceItemId) (components : List String)
    (occupied : List SourceItemId) : Option SourceItemId :=
  firstFreeId (saltedItemId jobId rootItemId components) occupied (2 ^ 64) 0

end Ids

/-! ## Children of a directory -/

structure PendingSource where
  path : PathBuf
  relativeComponents : List String
  parentItemId : Option SourceItemId

structure PendingIssue where
  relativeComponents : List String
  kind : SourceIssueKind
deriving DecidableEq

section Children

variable [UnicodeNormalization]

def collectChild (path : PathBuf) (relativeComponents : List String) (itemId : SourceItemId)
    (name : OsString) :
    PendingSource ⊕ PendingIssue :=
  match (fromUtf8 name).map canonicalComponent with
  | none => .inr ⟨relativeComponents, .invalidName⟩
  | some childName =>
    if (validateComponent childName).isOk then
      .inl ⟨path.join name, relativeComponents ++ [childName], some itemId⟩
    else .inr ⟨relativeComponents ++ [childName], .invalidName⟩

/-- The components some earlier child already has, each once. -/
def collidedComponents : List (List String) → List (List String) → List (List String) →
    List (List String)
  | _, collided, [] => collided
  | seen, collided, components :: rest =>
    if components ∈ seen then
      collidedComponents seen (if components ∈ collided then collided
        else collided ++ [components]) rest
    else collidedComponents (components :: seen) collided rest

/-- The issues come out of a hash set, in an order Rust leaves open. -/
def removeComponentCollisions (children : List PendingSource) :
    List PendingSource × List PendingIssue :=
  let collided := collidedComponents [] [] (children.map fun child => child.relativeComponents)
  (children.filter fun child => child.relativeComponents ∉ collided,
    collided.map fun relativeComponents => ⟨relativeComponents, .invalidName⟩)

/-- `left.1.cmp(&right.1)` on `Vec<String>`: lexicographic, each name by its bytes. -/
def sortChildren (children : List PendingSource) : List PendingSource :=
  children.insertionSort fun left right =>
    left.relativeComponents.map asBytes ≤ right.relativeComponents.map asBytes

def readChildren (path : PathBuf) (relativeComponents : List String) (itemId : SourceItemId) :
    JobProc (List PendingSource × List PendingIssue) := do
  match ← Proc.perform (JobOp.readDir path) with
  | .error error => pure ([], [⟨relativeComponents, issueKind error⟩])
  | .ok listing =>
    let collected := listing.names.map (collectChild path relativeComponents itemId)
    let ended := listing.failure.toList.map fun error => ⟨relativeComponents, issueKind error⟩
    let (children, collisions) := removeComponentCollisions (collected.filterMap Sum.getLeft?)
    pure (sortChildren children, collected.filterMap Sum.getRight? ++ ended ++ collisions)

end Children

/-! ## The walk -/

structure EnumerationOutcome where
  rootInventoryItemId : Option SourceItemId
  entries : List PreparedInventoryEntry
  bindings : SourceBindings
  issues : List PendingIssue

/-- The variables of the loop; the stack is kept apart, its top at the head. -/
structure Enumeration extends EnumerationOutcome where
  occupiedIds : List SourceItemId

/-- What one round of the loop does with the source it popped. -/
inductive Visit where
  | skipped (kind : SourceIssueKind)
  | entered (entry : PreparedInventoryEntry) (binding : LocalSourceBinding)
      (children : List PendingSource) (issues : List PendingIssue)

def Enumeration.skip (self : Enumeration) (item : PendingSource) (kind : SourceIssueKind) :
    Enumeration :=
  { self with issues := self.issues ++ [⟨item.relativeComponents, kind⟩] }

def Enumeration.enter (self : Enumeration) (entry : PreparedInventoryEntry)
    (binding : LocalSourceBinding) (issues : List PendingIssue) : Enumeration where
  rootInventoryItemId := some (self.rootInventoryItemId.getD entry.itemId)
  entries := self.entries ++ [entry]
  bindings := self.bindings.insert entry.itemId binding
  issues := self.issues ++ issues
  occupiedIds := entry.itemId :: self.occupiedIds

section Walk

variable [UnicodeNormalization] [Blake3]

def enterSource (selection : SourceSelection) (item : PendingSource) (metadata : Metadata)
    (name : String) (itemId : SourceItemId) : JobProc Visit := do
  let canonicalPath := (← Proc.perform (JobOp.canonicalize item.path)).toOption.getD item.path
  let entry : PreparedInventoryEntry := {
    itemId
    rootItemId := selection.rootItemId
    parentItemId := item.parentItemId
    relativeComponents := item.relativeComponents
    name
    kind := if metadata.fileType = .directory then .directory else .regularFile
    plaintextSize := plaintextSizeOf metadata
    modifiedUnixNanos := modifiedUnixNanos metadata
    digest := none }
  let binding : LocalSourceBinding := {
    path := canonicalPath
    origin := selection.origin
    jobOwnedStaging := selection.jobOwnedStaging
    fingerprint := fingerprint canonicalPath metadata }
  if metadata.fileType = .directory then
    let (children, issues) ← readChildren item.path item.relativeComponents itemId
    pure (.entered entry binding children issues)
  else pure (.entered entry binding [] [])

def visitSource (selection : SourceSelection) (jobId : JobIdV2) (occupiedIds : List SourceItemId)
    (item : PendingSource) : JobProc Visit := do
  if item.relativeComponents.length > maxManifestV2PathDepth ∨
      logicalPathBytes item.relativeComponents > maxManifestV2PathBytes then
    pure (.skipped .depthLimit)
  else
    match ← Proc.perform (JobOp.symlinkMetadata item.path) with
    | .error error => pure (.skipped (issueKind error))
    | .ok metadata =>
      match metadata.fileType with
      | .symlink => pure (.skipped .symbolicLink)
      | .special => pure (.skipped .specialFile)
      | _ =>
        let name := item.relativeComponents.getLast?.getD selection.requestedName
        if (validateComponent name).isOk then
          match stableInventoryItemId jobId selection.rootItemId item.relativeComponents
              occupiedIds with
          | none => abort
          | some itemId => enterSource selection item metadata name itemId
        else pure (.skipped .invalidName)

/-- Rounds of the loop up to the next source that is entered, from where `enter` goes on. -/
def visitPending (selection : SourceSelection) (jobId : JobIdV2)
    (enter : Enumeration → List PendingSource → JobProc EnumerationOutcome) :
    List PendingSource → Enumeration → JobProc EnumerationOutcome
  | [], walk => pure walk.toEnumerationOutcome
  | item :: pending, walk =>
    visitSource selection jobId walk.occupiedIds item >>= fun visit =>
      match visit with
      | .skipped kind => visitPending selection jobId enter pending (walk.skip item kind)
      | .entered entry binding children issues =>
        enter (walk.enter entry binding issues) (children ++ pending)

/-- `while let Some(..) = pending.pop()`, where `remaining` is what `entries` leave of the
budget. -/
def enumerateFrom (selection : SourceSelection) (jobId : JobIdV2) :
    Nat → Enumeration → List PendingSource → JobProc EnumerationOutcome
  | 0, walk, [] => pure walk.toEnumerationOutcome
  | 0, walk, item :: _ => pure (walk.skip item .entryLimit).toEnumerationOutcome
  | remaining + 1, walk, pending =>
    visitPending selection jobId (enumerateFrom selection jobId remaining) pending walk

def enumerateLocalSelection (selection : SourceSelection) (jobId : JobIdV2)
    (occupiedIds : List SourceItemId) (entryBudget : Nat) :
    JobProc (Except SourceIssueKind EnumerationOutcome) := do
  let start : Enumeration :=
    { rootInventoryItemId := none, entries := [], bindings := [], issues := [], occupiedIds }
  let outcome ← enumerateFrom selection jobId entryBudget start
    [{ path := selection.path, relativeComponents := [], parentItemId := none }]
  pure (.ok outcome)

end Walk

end Envoix.Job
