import Envoix.Protocol.Manifest

/-! # The canonical forest

`CanonicalForest` states what an offered manifest is meant to be: a forest given by parent
links, listed in depth-first preorder.  The module also relates the chain of parent links
above an entry to the path that one forward pass over the list computes.
-/

namespace Envoix.Protocol

open ByteCodec Fallible Traversal

/-! ## The specification -/

section Specification

variable [UnicodeNormalization]

/-- A name that is safe as one path component. -/
structure SafeComponent (component : String) : Prop where
  nonempty : component ≠ ""
  notCurrentDirectory : component ≠ "."
  notParentDirectory : component ≠ ".."
  short : (asBytes component).length ≤ maxManifestV2ComponentBytes
  plain : ∀ character ∈ component.toList,
    isControl character = false ∧ character ≠ '/' ∧ character ≠ '\\'
  canonical : UnicodeNormalization.isNfc component = true

/-- Entry `index` is reached from `root`'s root entry by parent links that stay inside the root;
`path` lists the components below the root. -/
inductive PathFrom (manifest : ManifestV2) (root : ManifestRootV2) : Nat → List String → Prop where
  | root {entry : ManifestEntryV2}
      (found : manifest.entries[root.rootEntryId.toNat]? = some entry)
      (sameRoot : entry.rootId = root.rootId)
      (parentless : entry.parentEntryId = none) :
      PathFrom manifest root root.rootEntryId.toNat []
  | child {index : Nat} {entry : ManifestEntryV2} {parentId : UInt32} {path : List String}
      (found : manifest.entries[index]? = some entry)
      (sameRoot : entry.rootId = root.rootId)
      (parent : entry.parentEntryId = some parentId)
      (parentPath : PathFrom manifest root parentId.toNat path) :
      PathFrom manifest root index (path ++ [entry.component])

/-- Every component with the separator in front of it. -/
def pathLength (path : List String) : Nat :=
  (path.map (fun component => (asBytes component).length + 1)).sum

/-- The children of a position, sorted by the UTF-8 bytes of their names. -/
def SiblingOrder (manifest : ManifestV2) (parent : Nat) (siblings : List Nat) : Prop :=
  siblings.Pairwise (fun left right => manifest.componentKey left < manifest.componentKey right) ∧
    ∀ index, index ∈ siblings ↔
      ∃ entry parentId, manifest.entries[index]? = some entry ∧
        entry.parentEntryId = some parentId ∧ parentId.toNat = parent

def isFile (entry : ManifestEntryV2) : Bool := entry.kind == .regularFile

def fileTotal (entries : List ManifestEntryV2) : Nat := entries.countP isFile

def directoryTotal (entries : List ManifestEntryV2) : Nat :=
  entries.countP (fun entry => !isFile entry)

/-- The unbounded sum of the file sizes. -/
def byteTotal (entries : List ManifestEntryV2) : Nat :=
  ((entries.filter isFile).map (fun entry => entry.plaintextSize.toNat)).sum

/-- The manifests a sender means to offer. -/
structure CanonicalForest (manifest : ManifestV2) : Prop where
  jobId : manifest.jobId.bytes ≠ ByteVector.zero 16
  generation : manifest.generation ≠ 0
  selectionRevision : manifest.selectionRevision ≠ 0
  rootCount : 1 ≤ manifest.roots.length ∧ manifest.roots.length ≤ maxManifestV2Roots
  entryCount : 1 ≤ manifest.entries.length ∧ manifest.entries.length ≤ maxManifestV2Entries
  rootIds : ∀ (index : Nat) (root : ManifestRootV2),
    manifest.roots[index]? = some root → root.rootId.toNat = index
  entryIds : ∀ (index : Nat) (entry : ManifestEntryV2),
    manifest.entries[index]? = some entry → entry.entryId.toNat = index
  rootNames : ∀ root ∈ manifest.roots, SafeComponent root.requestedName
  entryNames : ∀ entry ∈ manifest.entries, SafeComponent entry.component
  partialRoots : ∀ root ∈ manifest.roots, ∀ boundaries omitted,
    root.completeness = .userApprovedPartial boundaries omitted → boundaries ≠ 0
  reachable : ∀ index < manifest.entries.length,
    ∃! root, root ∈ manifest.roots ∧ ∃ path, PathFrom manifest root index path
  parents : ∀ entry ∈ manifest.entries, ∀ parentId, entry.parentEntryId = some parentId →
    ∃ parent, manifest.entries[parentId.toNat]? = some parent ∧
      parent.rootId = entry.rootId ∧ parent.kind = .directory
  rootEntries : ∀ root ∈ manifest.roots,
    ∃! entry, entry ∈ manifest.entries ∧ entry.rootId = root.rootId ∧ entry.parentEntryId = none
  rootEntryNames : ∀ root ∈ manifest.roots, ∀ entry ∈ manifest.entries,
    entry.rootId = root.rootId → entry.parentEntryId = none → entry.component = root.requestedName
  siblings : ∀ (left right : Nat) (leftEntry rightEntry : ManifestEntryV2),
    manifest.entries[left]? = some leftEntry → manifest.entries[right]? = some rightEntry →
    leftEntry.rootId = rightEntry.rootId → leftEntry.parentEntryId = rightEntry.parentEntryId →
    leftEntry.component = rightEntry.component → left = right
  paths : ∀ root ∈ manifest.roots, ∀ index path, PathFrom manifest root index path →
    path.length ≤ maxManifestV2PathDepth ∧ pathLength path ≤ maxManifestV2PathBytes
  directories : ∀ entry ∈ manifest.entries, entry.kind = .directory →
    entry.plaintextSize = 0 ∧ entry.contentDigest = .deferred
  files : manifest.totals.fileCount.toNat = fileTotal manifest.entries
  directoryCount : manifest.totals.directoryCount.toNat = directoryTotal manifest.entries
  bytes : manifest.totals.totalPlaintextBytes.toNat = byteTotal manifest.entries
  order : Preorder (SiblingOrder manifest) (manifest.roots.map (fun root => root.rootEntryId.toNat))
    (List.range manifest.entries.length)

end Specification

/-! ## Wire paths

The path of every entry as one forward pass computes it, from the paths of the entries before
it.  The encoder keeps these paths; the validator keeps only their depth and length. -/

/-- The path of an entry below its root, given the paths of the entries before it. -/
def wirePath (paths : List (List String)) (entry : ManifestEntryV2) : List String :=
  match entry.parentEntryId with
  | none => []
  | some parentId => paths.getD parentId.toNat [] ++ [entry.component]

def wirePaths (entries : List ManifestEntryV2) : List (List String) :=
  entries.foldl (fun paths entry => paths ++ [wirePath paths entry]) []

theorem wirePaths_concat (before : List ManifestEntryV2) (entry : ManifestEntryV2) :
    wirePaths (before ++ [entry]) = wirePaths before ++ [wirePath (wirePaths before) entry] := by
  simp [wirePaths]

@[simp] theorem length_wirePaths (entries : List ManifestEntryV2) :
    (wirePaths entries).length = entries.length := by
  induction entries using List.reverseRecOn with
  | nil => rfl
  | append_singleton before entry inductionHypothesis =>
    simp [wirePaths_concat, inductionHypothesis]

/-- Later entries never change an earlier path. -/
theorem wirePaths_append (before after : List ManifestEntryV2) :
    ∃ rest, wirePaths (before ++ after) = wirePaths before ++ rest := by
  induction after using List.reverseRecOn with
  | nil => exact ⟨[], by simp⟩
  | append_singleton after entry inductionHypothesis =>
    obtain ⟨rest, unchanged⟩ := inductionHypothesis
    exact ⟨rest ++ [wirePath (wirePaths (before ++ after)) entry], by
      rw [← List.append_assoc, wirePaths_concat, unchanged, List.append_assoc]⟩

theorem wirePaths_split (before after : List ManifestEntryV2) (entry : ManifestEntryV2) :
    (wirePaths (before ++ entry :: after))[before.length]? =
      some (wirePath (wirePaths before) entry) := by
  obtain ⟨rest, unchanged⟩ := wirePaths_append (before ++ [entry]) after
  rw [List.append_assoc, List.singleton_append] at unchanged
  rw [unchanged, wirePaths_concat, List.append_assoc, List.getElem?_append_right (by simp)]
  simp

theorem wirePaths_getElem_append {before after : List ManifestEntryV2} {index : Nat}
    (early : index < before.length) :
    (wirePaths (before ++ after))[index]? = (wirePaths before)[index]? := by
  obtain ⟨rest, unchanged⟩ := wirePaths_append before after
  rw [unchanged, List.getElem?_append_left (by rwa [length_wirePaths])]

@[simp] theorem pathLength_nil : pathLength [] = 0 := rfl

@[simp] theorem pathLength_concat (path : List String) (component : String) :
    pathLength (path ++ [component]) = pathLength path + (asBytes component).length + 1 := by
  simp [pathLength, Nat.add_assoc]

/-- Positions of a list split it. -/
theorem exists_split_of_getElem {α : Type} {items : List α} {index : Nat} {item : α}
    (found : items[index]? = some item) :
    ∃ before after, items = before ++ item :: after ∧ before.length = index := by
  obtain ⟨bound, rfl⟩ := List.getElem?_eq_some_iff.mp found
  exact ⟨items.take index, items.drop (index + 1), by simp, by simp; omega⟩

/-! ## Paths -/

/-- A parent precedes its children in the list. -/
def ParentsFirst (manifest : ManifestV2) : Prop :=
  ∀ (index : Nat) (entry : ManifestEntryV2) (parentId : UInt32),
    manifest.entries[index]? = some entry →
    entry.parentEntryId = some parentId → parentId.toNat < index

/-- Two children of one parent never share a name. -/
def DistinctSiblings (manifest : ManifestV2) : Prop :=
  ∀ (left right : Nat) (leftEntry rightEntry : ManifestEntryV2) (parentId : UInt32),
    manifest.entries[left]? = some leftEntry → manifest.entries[right]? = some rightEntry →
    leftEntry.parentEntryId = some parentId → rightEntry.parentEntryId = some parentId →
    leftEntry.component = rightEntry.component → left = right

section Paths

variable {manifest : ManifestV2}

/-- The path a chain of parent links spells is the one the forward pass computes. -/
theorem PathFrom.wirePaths_eq {root : ManifestRootV2} {index : Nat} {path : List String}
    (parentsFirst : ParentsFirst manifest) (pathFrom : PathFrom manifest root index path) :
    (wirePaths manifest.entries)[index]? = some path := by
  induction pathFrom with
  | @root entry found _ parentless =>
    obtain ⟨before, after, position, length⟩ := exists_split_of_getElem found
    rw [position, ← length, wirePaths_split]
    simp [wirePath, parentless]
  | @child index entry parentId path found _ parent _ inductionHypothesis =>
    have early := parentsFirst index entry parentId found parent
    obtain ⟨before, after, position, length⟩ := exists_split_of_getElem found
    rw [position, wirePaths_getElem_append (by omega)] at inductionHypothesis
    rw [position, ← length, wirePaths_split]
    simp [wirePath, parent, List.getD_eq_getElem?_getD, inductionHypothesis]

theorem PathFrom.exists_entry {root : ManifestRootV2} {index : Nat} {path : List String}
    (pathFrom : PathFrom manifest root index path) :
    ∃ entry, manifest.entries[index]? = some entry ∧ entry.rootId = root.rootId ∧
      (entry.parentEntryId = none → index = root.rootEntryId.toNat) := by
  cases pathFrom with
  | root found sameRoot _ => exact ⟨_, found, sameRoot, fun _ => rfl⟩
  | child found sameRoot parent _ =>
    exact ⟨_, found, sameRoot, fun parentless => by rw [parent] at parentless; cases parentless⟩

/-- With dense ids a root record is known by its id. -/
theorem root_unique {left right : ManifestRootV2}
    (rootIds : ∀ (index : Nat) (root : ManifestRootV2), manifest.roots[index]? = some root →
      root.rootId.toNat = index)
    (leftMember : left ∈ manifest.roots) (rightMember : right ∈ manifest.roots)
    (same : left.rootId = right.rootId) : left = right := by
  obtain ⟨leftIndex, leftFound⟩ := List.getElem?_of_mem leftMember
  obtain ⟨rightIndex, rightFound⟩ := List.getElem?_of_mem rightMember
  have sameIndex : leftIndex = rightIndex := by
    rw [← rootIds leftIndex left leftFound, ← rootIds rightIndex right rightFound, same]
  rw [sameIndex, rightFound] at leftFound
  exact (Option.some.inj leftFound).symm

/-- Children of one parent are siblings of one root, so the sibling check separates them. -/
theorem distinctSiblings_of_keys
    (sameRoot : ∀ entry ∈ manifest.entries, ∀ parentId, entry.parentEntryId = some parentId →
      ∃ parent, manifest.entries[parentId.toNat]? = some parent ∧ parent.rootId = entry.rootId ∧
        parent.kind = .directory)
    (siblings : ∀ (left right : Nat) (leftEntry rightEntry : ManifestEntryV2),
      manifest.entries[left]? = some leftEntry → manifest.entries[right]? = some rightEntry →
      leftEntry.rootId = rightEntry.rootId → leftEntry.parentEntryId = rightEntry.parentEntryId →
      leftEntry.component = rightEntry.component → left = right) :
    DistinctSiblings manifest := by
  intro left right leftEntry rightEntry parentId leftFound rightFound leftParent
    rightParent sameName
  obtain ⟨parent, parentFound, leftRoot, _⟩ :=
    sameRoot leftEntry (List.mem_of_getElem? leftFound) parentId leftParent
  obtain ⟨parent', parentFound', rightRoot, _⟩ :=
    sameRoot rightEntry (List.mem_of_getElem? rightFound) parentId rightParent
  rw [parentFound] at parentFound'
  cases parentFound'
  exact siblings left right leftEntry rightEntry leftFound rightFound
    (leftRoot.symm.trans rightRoot)
    (leftParent.trans rightParent.symm) sameName

end Paths

end Envoix.Protocol
