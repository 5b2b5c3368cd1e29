import Envoix.Foundation.ByteCodec
import Envoix.Foundation.Traversal
import Mathlib.Data.List.Sort
import Mathlib.Data.List.GetD

/-! # The Manifest v2 data model and its validator

Model of the structural half of `envoix-protocol/src/manifest_v2.rs`: the offered forest, the
component rules, and `ManifestV2::validate` with its two passes, the explicit-stack traversal
and the positional order check.  BLAKE3 and the Unicode normalization tables are external
crates and enter as the classes `Blake3` and `UnicodeNormalization`.
-/

namespace Envoix.Protocol

open ByteCodec Fallible

/-! ## External crates -/

/-- The `blake3` crate: plain hash, key derivation and keyed hash.  A derive-key `Hasher` fed
piecewise is `deriveKey` of the concatenated input. -/
class Blake3 where
  hash : Bytes → ByteVector 32
  deriveKey : String → Bytes → ByteVector 32
  keyedHash : ByteVector 32 → Bytes → ByteVector 32

/-- The `unicode_normalization` crate. -/
class UnicodeNormalization where
  isNfc : String → Bool
  nfc : String → String

/-! ## Limits -/

def maxManifestV2EncodedBytes : Nat := 4 * 1024 * 1024
def maxManifestV2Entries : Nat := 10000
def maxManifestV2Roots : Nat := 1024
def maxManifestV2ComponentBytes : Nat := 255
def maxManifestV2PathBytes : Nat := 4096
def maxManifestV2PathDepth : Nat := 64
def defaultManifestV2BlockPlaintextBytes : UInt32 := 4 * 1024 * 1024
def maxManifestV2BlockPlaintextBytes : UInt32 := 16 * 1024 * 1024
def maxManifestV2BlockEncodedBytes : UInt32 := maxManifestV2BlockPlaintextBytes + 64 * 1024
def manifestV2ProtocolVersion : UInt16 := 2

/-! ## Data model -/

structure JobIdV2 where
  bytes : ByteVector 16
deriving DecidableEq

structure ContentDigestV2 where
  bytes : ByteVector 32
deriving DecidableEq

inductive CompressionPolicyV2 where
  | never
  | always
  | smart
deriving DecidableEq

inductive ManifestEntryKindV2 where
  | regularFile
  | directory
deriving DecidableEq

inductive EntryContentDigestV2 where
  | deferred
  | known (digest : ContentDigestV2)
deriving DecidableEq

inductive SourceCompletenessV2 where
  | complete
  | userApprovedPartial (inaccessibleBoundaryCount : UInt64) (omittedEntryCount : Option UInt64)
deriving DecidableEq

structure ManifestRootV2 where
  rootId : UInt32
  rootEntryId : UInt32
  requestedName : String
  completeness : SourceCompletenessV2
deriving DecidableEq

structure ManifestEntryV2 where
  entryId : UInt32
  rootId : UInt32
  parentEntryId : Option UInt32
  component : String
  kind : ManifestEntryKindV2
  plaintextSize : UInt64
  contentDigest : EntryContentDigestV2
deriving DecidableEq

structure ManifestTotalsV2 where
  fileCount : UInt32
  directoryCount : UInt32
  totalPlaintextBytes : UInt64
deriving DecidableEq

structure ManifestV2 where
  jobId : JobIdV2
  generation : UInt32
  selectionRevision : UInt64
  compressionPolicy : CompressionPolicyV2
  roots : List ManifestRootV2
  entries : List ManifestEntryV2
  totals : ManifestTotalsV2
deriving DecidableEq

structure ManifestOfferV2 where
  structuralDigest : ContentDigestV2
  manifest : ManifestV2
deriving DecidableEq

/-! ## Errors -/

inductive ManifestV2ComponentViolation where
  | empty
  | currentDirectory
  | parentDirectory
  | controlOrSeparator
  | nonCanonicalUnicode
  | tooLong (bytes maximum : Nat)
deriving DecidableEq

inductive ManifestV2ValidationError where
  | zeroJobId
  | zeroGeneration
  | zeroSelectionRevision
  | emptyRoots
  | tooManyRoots (count maximum : Nat)
  | emptyEntries
  | tooManyEntries (count maximum : Nat)
  | nonCanonicalRootId (expected actual : UInt32)
  | unsafeRootName (rootId : UInt32) (violation : ManifestV2ComponentViolation)
  | invalidRootEntry (rootId entryId : UInt32)
  | emptyPartialFact (rootId : UInt32)
  | duplicateRootEntry
  | nonCanonicalEntryId (expected actual : UInt32)
  | nonCanonicalEntryOrder (expected actual : UInt32)
  | unsafeComponent (entryId : UInt32) (violation : ManifestV2ComponentViolation)
  | unknownRoot (entryId rootId : UInt32)
  | unexpectedRootEntry (entryId : UInt32)
  | rootNameMismatch (rootId entryId : UInt32)
  | nonCanonicalParent (entryId parentEntryId : UInt32)
  | crossRootParent (entryId parentEntryId : UInt32)
  | fileParent (entryId parentEntryId : UInt32)
  | pathSizeOverflow (entryId : UInt32)
  | pathTooDeep (entryId : UInt32) (depth maximum : Nat)
  | pathTooLong (entryId : UInt32) (bytes maximum : Nat)
  | duplicateSiblingComponent (entryId : UInt32)
  | invalidDirectoryMetadata (entryId : UInt32)
  | aggregateOverflow
  | totalsMismatch (declared actual : ManifestTotalsV2)
deriving DecidableEq

/-- The `Display` text of a component violation. -/
def ManifestV2ComponentViolation.text : ManifestV2ComponentViolation → String
  | .empty => "component is empty"
  | .currentDirectory => "component is current-directory marker"
  | .parentDirectory => "component is parent-directory marker"
  | .controlOrSeparator => "component contains a control character or path separator"
  | .nonCanonicalUnicode => "component is not Unicode NFC"
  | .tooLong bytes maximum => s!"component is {bytes} bytes; maximum is {maximum}"

/-- The derived `Debug` text of the totals. -/
def ManifestTotalsV2.debug (totals : ManifestTotalsV2) : String :=
  s!"ManifestTotalsV2 \x7b file_count: {totals.fileCount}, directory_count: {totals.directoryCount}, " ++
    s!"total_plaintext_bytes: {totals.totalPlaintextBytes} \x7d"

/-- The `Display` text of a validation error. -/
def ManifestV2ValidationError.text : ManifestV2ValidationError → String
  | .zeroJobId => "job id is all zeroes"
  | .zeroGeneration => "generation zero is reserved"
  | .zeroSelectionRevision => "selection revision zero is reserved"
  | .emptyRoots => "manifest has no roots"
  | .tooManyRoots count maximum => s!"manifest has {count} roots; maximum is {maximum}"
  | .emptyEntries => "manifest has no entries"
  | .tooManyEntries count maximum => s!"manifest has {count} entries; maximum is {maximum}"
  | .nonCanonicalRootId expected actual => s!"root id {actual} is noncanonical; expected {expected}"
  | .unsafeRootName rootId violation =>
    s!"root {rootId} has unsafe requested name: " ++ violation.text
  | .invalidRootEntry rootId entryId => s!"root {rootId} references invalid entry {entryId}"
  | .emptyPartialFact rootId => s!"root {rootId} declares a partial source without omitted entries"
  | .duplicateRootEntry => "multiple roots reference the same root entry"
  | .nonCanonicalEntryId expected actual =>
    s!"entry id {actual} is noncanonical; expected {expected}"
  | .nonCanonicalEntryOrder expected actual =>
    s!"entry {actual} is out of canonical preorder; expected entry {expected}"
  | .unsafeComponent entryId violation =>
    s!"entry {entryId} has unsafe component: " ++ violation.text
  | .unknownRoot entryId rootId => s!"entry {entryId} references unknown root {rootId}"
  | .unexpectedRootEntry entryId => s!"entry {entryId} is not its root" ++ "'s declared root entry"
  | .rootNameMismatch rootId entryId =>
    s!"root {rootId} and entry {entryId} have different requested names"
  | .nonCanonicalParent entryId parentEntryId =>
    s!"entry {entryId} has noncanonical parent {parentEntryId}"
  | .crossRootParent entryId parentEntryId =>
    s!"entry {entryId} has parent {parentEntryId} in another root"
  | .fileParent entryId parentEntryId => s!"entry {entryId} has regular-file parent {parentEntryId}"
  | .pathSizeOverflow entryId => s!"entry {entryId} path size overflowed"
  | .pathTooDeep entryId depth maximum => s!"entry {entryId} path depth {depth} exceeds {maximum}"
  | .pathTooLong entryId bytes maximum => s!"entry {entryId} path length {bytes} exceeds {maximum}"
  | .duplicateSiblingComponent entryId => s!"entry {entryId} duplicates a sibling component"
  | .invalidDirectoryMetadata entryId => s!"directory entry {entryId} carries file metadata"
  | .aggregateOverflow => "manifest aggregate overflowed"
  | .totalsMismatch declared actual =>
    "declared totals " ++ declared.debug ++ " do not match " ++ actual.debug

/-! ## Components -/

/-- `char::is_control`: general category `Cc`. -/
def isControl (character : Char) : Bool :=
  character.toNat < 0x20 || (0x7f ≤ character.toNat && character.toNat < 0xa0)

def hasControlOrSeparator (component : String) : Bool :=
  component.toList.any (fun character => isControl character || character == '/' ||
    character == '\\')

section Validate

variable [UnicodeNormalization]

def validateComponent (component : String) : Except ManifestV2ComponentViolation Unit := do
  reject (component = "") .empty
  reject (component = ".") .currentDirectory
  reject (component = "..") .parentDirectory
  reject ((asBytes component).length > maxManifestV2ComponentBytes)
    (.tooLong (asBytes component).length maxManifestV2ComponentBytes)
  reject (hasControlOrSeparator component) .controlOrSeparator
  reject (¬ UnicodeNormalization.isNfc component) .nonCanonicalUnicode

/-! ## First pass: the root records -/

def hasEmptyPartialFact (completeness : SourceCompletenessV2) : Bool :=
  match completeness with
  | .userApprovedPartial 0 _ => true
  | _ => false

def validateRoot (entryCount index : Nat) (root : ManifestRootV2) :
    Except ManifestV2ValidationError Unit := do
  let expected := UInt32.ofNat index
  reject (root.rootId ≠ expected) (.nonCanonicalRootId expected root.rootId)
  reject (¬ root.rootEntryId.toNat < entryCount) (.invalidRootEntry root.rootId root.rootEntryId)
  mapErr (.unsafeRootName root.rootId) (validateComponent root.requestedName)
  reject (hasEmptyPartialFact root.completeness) (.emptyPartialFact root.rootId)

def validateRoots (entryCount : Nat) : Nat → List ManifestRootV2 →
    Except ManifestV2ValidationError Unit
  | _, [] => .ok ()
  | index, root :: roots => do
    validateRoot entryCount index root
    validateRoots entryCount (index + 1) roots

/-! ## Second pass: the entries -/

/-- The accumulators of the entry loop. -/
structure EntryScan where
  siblingComponents : List (UInt32 × Option UInt32 × String)
  fileCount : UInt32
  directoryCount : UInt32
  totalPlaintextBytes : UInt64
  depths : List Nat
  pathBytes : List Nat
  children : List (List Nat)
deriving DecidableEq

def EntryScan.start (entryCount : Nat) : EntryScan where
  siblingComponents := []
  fileCount := 0
  directoryCount := 0
  totalPlaintextBytes := 0
  depths := []
  pathBytes := []
  children := List.replicate entryCount []

/-- The `match entry.parent_entry_id` block: the child lists with this entry recorded, and the
entry's depth and path length.  Indexing `entries`, `depths` and `path_bytes` at the parent is
in bounds because the parent precedes the entry. -/
def placeEntry (manifest : ManifestV2) (scan : EntryScan) (index : Nat) (entry : ManifestEntryV2)
    (root : ManifestRootV2) : Except ManifestV2ValidationError (List (List Nat) × Nat × Nat) :=
  match entry.parentEntryId with
  | none => do
    reject (root.rootEntryId ≠ entry.entryId) (.unexpectedRootEntry entry.entryId)
    reject (root.requestedName ≠ entry.component) (.rootNameMismatch root.rootId entry.entryId)
    pure (scan.children, 0, 0)
  | some parentId => do
    let parentIndex := parentId.toNat
    reject (parentIndex ≥ index) (.nonCanonicalParent entry.entryId parentId)
    let parent ← okOr manifest.entries[parentIndex]? (.nonCanonicalParent entry.entryId parentId)
    reject (parent.rootId ≠ entry.rootId) (.crossRootParent entry.entryId parentId)
    reject (parent.kind ≠ .directory) (.fileParent entry.entryId parentId)
    let bytes ← okOr
      ((checkedAddUsize (scan.pathBytes.getD parentIndex 0) (asBytes entry.component).length).bind
      (fun value => checkedAddUsize value 1)) (.pathSizeOverflow entry.entryId)
    pure (scan.children.modify parentIndex (· ++ [index]),
      scan.depths.getD parentIndex 0 + 1, bytes)

/-- The `match entry.kind` block: the running totals. -/
def countEntry (scan : EntryScan) (entry : ManifestEntryV2) :
    Except ManifestV2ValidationError EntryScan :=
  match entry.kind with
  | .regularFile => do
    let fileCount ← okOr (checkedAdd32 scan.fileCount 1) .aggregateOverflow
    let totalPlaintextBytes ←
      okOr (checkedAdd64 scan.totalPlaintextBytes entry.plaintextSize) .aggregateOverflow
    pure { scan with fileCount, totalPlaintextBytes }
  | .directory => do
    reject (entry.plaintextSize ≠ 0 ∨ entry.contentDigest ≠ .deferred)
      (.invalidDirectoryMetadata entry.entryId)
    let directoryCount ← okOr (checkedAdd32 scan.directoryCount 1) .aggregateOverflow
    pure { scan with directoryCount }

def scanEntry (manifest : ManifestV2) (scan : EntryScan) (index : Nat) (entry : ManifestEntryV2) :
    Except ManifestV2ValidationError EntryScan := do
  let expected := UInt32.ofNat index
  reject (entry.entryId ≠ expected) (.nonCanonicalEntryId expected entry.entryId)
  mapErr (.unsafeComponent entry.entryId) (validateComponent entry.component)
  let root ← okOr manifest.roots[entry.rootId.toNat]? (.unknownRoot entry.entryId entry.rootId)
  let (children, depth, bytes) ← placeEntry manifest scan index entry root
  reject (depth > maxManifestV2PathDepth) (.pathTooDeep entry.entryId depth maxManifestV2PathDepth)
  reject (bytes > maxManifestV2PathBytes) (.pathTooLong entry.entryId bytes maxManifestV2PathBytes)
  let key := (entry.rootId, entry.parentEntryId, entry.component)
  reject (key ∈ scan.siblingComponents) (.duplicateSiblingComponent entry.entryId)
  countEntry { scan with
    children
    depths := scan.depths ++ [depth]
    pathBytes := scan.pathBytes ++ [bytes]
    siblingComponents := scan.siblingComponents ++ [key] } entry

def scanEntries (manifest : ManifestV2) :
    Nat → List ManifestEntryV2 → EntryScan → Except ManifestV2ValidationError EntryScan
  | _, [], scan => .ok scan
  | index, entry :: entries, scan => do
    let scan ← scanEntry manifest scan index entry
    scanEntries manifest (index + 1) entries scan

/-! ## Canonical order -/

/-- The component of an entry by position, as the sort key `component.cmp` compares: Rust
orders `str` by its UTF-8 bytes. -/
def ManifestV2.componentKey (manifest : ManifestV2) (index : Nat) : Bytes :=
  match manifest.entries[index]? with
  | some entry => asBytes entry.component
  | none => []

/-- `children[index].sort_unstable_by(component.cmp)` -/
def sortedChildren (manifest : ManifestV2) (children : List (List Nat)) (index : Nat) : List Nat :=
  (children.getD index []).insertionSort
    (fun left right => manifest.componentKey left ≤ manifest.componentKey right)

/-- One explicit-stack traversal per root.  An entry is in the child list of its parent only, so
one traversal pops at most `entries.len()` of them. -/
def canonicalOrder (manifest : ManifestV2) (children : List (List Nat)) : List Nat :=
  manifest.roots.flatMap (fun root =>
    Traversal.visit (sortedChildren manifest children) (manifest.entries.length + 1)
      [root.rootEntryId.toNat])

def checkOrder : Nat → List Nat → Except ManifestV2ValidationError Unit
  | _, [] => .ok ()
  | expected, actual :: order => do
    reject (expected ≠ actual)
      (.nonCanonicalEntryOrder (UInt32.ofNat expected) (UInt32.ofNat actual))
    checkOrder (expected + 1) order

/-! ## `ManifestV2::validate` -/

def ManifestV2.validate (self : ManifestV2) : Except ManifestV2ValidationError Unit := do
  reject (self.jobId.bytes = ByteVector.zero 16) .zeroJobId
  reject (self.generation = 0) .zeroGeneration
  reject (self.selectionRevision = 0) .zeroSelectionRevision
  reject (self.roots = []) .emptyRoots
  reject (self.roots.length > maxManifestV2Roots)
    (.tooManyRoots self.roots.length maxManifestV2Roots)
  reject (self.entries = []) .emptyEntries
  reject (self.entries.length > maxManifestV2Entries)
    (.tooManyEntries self.entries.length maxManifestV2Entries)
  validateRoots self.entries.length 0 self.roots
  let scan ← scanEntries self 0 self.entries (EntryScan.start self.entries.length)
  reject ((self.roots.map (·.rootEntryId)).dedup.length ≠ self.roots.length) .duplicateRootEntry
  checkOrder 0 (canonicalOrder self scan.children)
  let actual : ManifestTotalsV2 :=
    { fileCount := scan.fileCount, directoryCount := scan.directoryCount,
      totalPlaintextBytes := scan.totalPlaintextBytes }
  reject (self.totals ≠ actual) (.totalsMismatch self.totals actual)

end Validate

end Envoix.Protocol
