import Envoix.Job.Store

/-! # The selections of a job

`add_local_source` folds a path into the selection that has it already and drops the selections a
new directory covers; a reauthorized path must not overlap another selection.  Here these three
rules are put together over a file system that stands still: the paths of the selections stay an
antichain, and a file stays in exactly one of them until the selection that has it is given up.
-/

namespace Envoix.Job

open ByteCodec Fallible Process Process.Method Envoix.Protocol CanonicalTransferJob

/-! ## A file system that stands still -/

/-- What `symlink_metadata` and `canonicalize` find, while nothing changes. -/
structure FileTree where
  kind : PathBuf → Option FileType
  canonical : PathBuf → Option PathBuf
  canonical_idem : ∀ {path found}, canonical path = some found → canonical found = some found
  /-- A canonical path leads through no link. -/
  canonical_kind : ∀ {path found}, canonical path = some found → ∃ kind', kind found = some kind' ∧
    kind' ≠ .symlink
  /-- Where the path itself is no link, its canonical path is the same object. -/
  kind_canonical : ∀ {path found kind'}, canonical path = some found → kind path = some kind' →
    kind' ≠ .symlink → kind found = some kind'
  /-- What another canonical path leads into is a directory. -/
  directory_above : ∀ {path found given above}, canonical path = some found →
    canonical given = some above → above.components <+: found.components → above ≠ found →
    kind above = some .directory

namespace FileTree

variable (tree : FileTree)

/-- The replies of such a file system; everything else is left open. -/
def Answers : (op : JobOp) → JobReply op → Prop
  | .symlinkMetadata path, reply =>
    reply.toOption.map (fun found => found.fileType) = tree.kind path
  | .metadata path, reply =>
    reply.toOption.map (fun found => found.fileType) = (tree.canonical path).bind tree.kind
  | .canonicalize path, reply => reply.toOption = tree.canonical path
  | _, _ => True

def contract : Contract JobOp JobReply Unit where
  may _ := tree.Answers
  after _ _ _ := ()
  keeps _ := True

/-- The canonical path of a file or a directory, as `add_local_source` looks it up. -/
def source (path : PathBuf) : Option PathBuf :=
  match tree.kind path with
  | some .regularFile => tree.canonical path
  | some .directory => tree.canonical path
  | _ => none

/-- The path is the canonical one of something that is there. -/
def Resolved (path : PathBuf) : Prop := ∃ given, tree.canonical given = some path

def isDirectory (path : PathBuf) : Bool := decide (tree.kind path = some .directory)

variable {tree}

theorem isDirectory_above {above path : PathBuf} (resolved : tree.Resolved path)
    (there : tree.Resolved above) (below : path.startsWith above) (apart : above ≠ path) :
    tree.isDirectory above = true := by
  obtain ⟨given, canonical⟩ := resolved
  obtain ⟨other, found⟩ := there
  exact decide_eq_true (tree.directory_above canonical found (of_decide_eq_true below) apart)

end FileTree

/-! ## Places -/

/-- What the overlap rules read of a selection. -/
structure Place where
  rootItemId : SourceItemId
  canonicalPath : Option PathBuf
  isDirectoryHint : Option Bool

def SourceSelection.place (selection : SourceSelection) : Place where
  rootItemId := selection.rootItemId
  canonicalPath := selection.canonicalPath
  isDirectoryHint := selection.isDirectoryHint

/-- One path leads into the other. -/
def Overlap (left right : PathBuf) : Prop := left.startsWith right ∨ right.startsWith left

/-- Two places with known paths, neither of which leads into the other. -/
def Place.Apart (left right : Place) : Prop :=
  ∀ path other, left.canonicalPath = some path → right.canonicalPath = some other →
    ¬ Overlap path other

def Place.covers (place : Place) (file : PathBuf) : Bool :=
  place.canonicalPath.any fun root => file.startsWith root

theorem Place.covers_iff {place : Place} {file : PathBuf} :
    place.covers file ↔ ∃ root, place.canonicalPath = some root ∧ file.startsWith root :=
  Option.any_eq_true _ _

theorem startsWith_trans {file below above : PathBuf} (first : file.startsWith below)
    (second : below.startsWith above) :
    file.startsWith above :=
  decide_eq_true ((of_decide_eq_true second).trans (of_decide_eq_true first))

theorem startsWith_refl (path : PathBuf) : path.startsWith path := decide_eq_true List.prefix_rfl

theorem Overlap.symm {left right : PathBuf} (overlap : Overlap left right) : Overlap right left :=
  Or.symm overlap

theorem Place.Apart.symm {left right : Place} (apart : left.Apart right) : right.Apart left :=
  fun _ _ known other overlap => apart _ _ other known overlap.symm

/-- Of two places apart, one at most covers a file. -/
theorem Place.Apart.covers_one {left right : Place} {file : PathBuf} (apart : left.Apart right)
    (covered : left.covers file) : right.covers file = false := by
  by_contra twice
  obtain ⟨path, known, below⟩ := Place.covers_iff.mp covered
  obtain ⟨other, otherKnown, otherBelow⟩ := Place.covers_iff.mp (eq_true_of_ne_false twice)
  have comparable :=
    List.prefix_or_prefix_of_prefix (of_decide_eq_true below) (of_decide_eq_true otherBelow)
  refine apart path other known otherKnown ?_
  cases comparable with
  | inl first => exact .inr (decide_eq_true first)
  | inr second => exact .inl (decide_eq_true second)

/-- The place says what the tree has. -/
def Place.Describes (tree : FileTree) (place : Place) : Prop :=
  ∀ path, place.canonicalPath = some path →
    tree.Resolved path ∧ place.isDirectoryHint = some (tree.isDirectory path)

/-- An added place is folded into this one. -/
def Place.folds (existing added : Place) : Bool :=
  added.canonicalPath.any fun candidate => existing.canonicalPath = some candidate ∨
    (existing.isDirectoryHint = some true ∧ existing.canonicalPath.any fun root =>
      candidate.startsWith root)

/-- An added directory takes this place in. -/
def Place.swallows (added existing : Place) : Bool :=
  added.isDirectoryHint == some true &&
    added.canonicalPath.any fun root => existing.canonicalPath.any fun below =>
      below.startsWith root

/-- The three rules together: what is neither folded nor taken in lies apart. -/
theorem Place.apart_of_not_folds {tree : FileTree} {existing added : Place}
    (existingThere : existing.Describes tree) (addedThere : added.Describes tree)
    (unfolded : existing.folds added = false) (left : added.swallows existing = false) :
    existing.Apart added := by
  intro path candidate known candidateKnown overlap
  have different : path ≠ candidate := by
    intro same
    simp [Place.folds, candidateKnown, known, same] at unfolded
  cases overlap with
  | inl below =>
    -- the existing path lies in the added one, which must be a directory
    have directory :=
      FileTree.isDirectory_above (existingThere path known).1
        (addedThere candidate candidateKnown).1
      below different.symm
    have hint := (addedThere candidate candidateKnown).2
    simp [Place.swallows, candidateKnown, known, hint, directory, below] at left
  | inr below =>
    have directory :=
      FileTree.isDirectory_above (addedThere candidate candidateKnown).1
        (existingThere path known).1
      below different
    have hint := (existingThere path known).2
    simp [Place.folds, candidateKnown, known, hint, directory, below] at unfolded

/-! ## Layouts -/

/-- The places of a job, and the number it gives the next root. -/
structure Layout where
  places : List Place
  nextSourceItemId : UInt64

namespace Layout

/-- What one call can do to the places; the root it gives up, if it gives up one. -/
inductive Step (tree : FileTree) : Option SourceItemId → Layout → Layout → Prop where
  | allocated {layout : Layout} (bounded : layout.nextSourceItemId.toNat + 1 < 2 ^ 64) :
      Step tree none layout { layout with nextSourceItemId := layout.nextSourceItemId + 1 }
  | admitted {layout : Layout} {place : Place}
      (bounded : layout.nextSourceItemId.toNat + 1 < 2 ^ 64)
      (fresh : place.rootItemId = ⟨layout.nextSourceItemId⟩) (there : place.Describes tree)
      (unfolded : ∀ existing ∈ layout.places, existing.folds place = false)
        (room : layout.places.length < maxManifestV2Roots ∨
          ∃ existing ∈ layout.places, place.swallows existing) :
      Step tree none layout
        ⟨layout.places.filter (fun existing => ¬ place.swallows existing) ++ [place],
          layout.nextSourceItemId + 1⟩
  | replaced {before after : List Place} {old new : Place} {next : UInt64}
      (same : new.rootItemId = old.rootItemId) (there : new.Describes tree)
      (apart : ∀ other ∈ before ++ after, other.rootItemId ≠ old.rootItemId → new.Apart other) :
      Step tree (some old.rootItemId) ⟨before ++ old :: after, next⟩ ⟨before ++ new :: after, next⟩
  | removed {before after : List Place} {old : Place} {next : UInt64} :
      Step tree (some old.rootItemId) ⟨before ++ old :: after, next⟩ ⟨before ++ after, next⟩

structure Sound (tree : FileTree) (layout : Layout) : Prop where
  apart : layout.places.Pairwise Place.Apart
  there : ∀ place ∈ layout.places, place.Describes tree
  numbered : ∀ place ∈ layout.places, place.rootItemId.value < layout.nextSourceItemId
  distinct : layout.places.Pairwise fun left right => left.rootItemId ≠ right.rootItemId
  room : layout.places.length ≤ maxManifestV2Roots

variable {tree : FileTree} {layout next : Layout} {root : Option SourceItemId}

theorem Sound.admitted {place : Place} (sound : layout.Sound tree)
    (bounded : layout.nextSourceItemId.toNat + 1 < 2 ^ 64)
    (fresh : place.rootItemId = ⟨layout.nextSourceItemId⟩) (there : place.Describes tree)
    (unfolded : ∀ existing ∈ layout.places, existing.folds place = false)
      (room : layout.places.length < maxManifestV2Roots ∨
        ∃ existing ∈ layout.places, place.swallows existing) :
    Sound tree ⟨layout.places.filter (fun existing => ¬ place.swallows existing) ++ [place],
      layout.nextSourceItemId + 1⟩ := by
  have below : layout.nextSourceItemId < layout.nextSourceItemId + 1 := by
    rw [UInt64.lt_iff_toNat_lt, UInt64.toNat_add, UInt64.toNat_one]
    omega
  have kept : ∀ existing ∈ layout.places.filter (fun existing => ¬ place.swallows existing),
      existing ∈ layout.places ∧ place.swallows existing = false := by
    intro existing listed
    simpa using listed
  constructor
  · rw [List.pairwise_append]
    refine ⟨sound.apart.filter _, List.pairwise_singleton _ _, ?_⟩
    intro existing listed added same
    obtain rfl := List.mem_singleton.mp same
    obtain ⟨old, left⟩ := kept existing listed
    exact Place.apart_of_not_folds (sound.there existing old) there (unfolded existing old) left
  · intro other listed
    cases List.mem_append.mp listed with
    | inl old => exact sound.there other (kept other old).1
    | inr new => rwa [List.mem_singleton.mp new]
  · intro other listed
    cases List.mem_append.mp listed with
    | inl old => exact UInt64.lt_trans (sound.numbered other (kept other old).1) below
    | inr new => rwa [List.mem_singleton.mp new, fresh]
  · rw [List.pairwise_append]
    refine ⟨sound.distinct.filter _, List.pairwise_singleton _ _, ?_⟩
    intro existing listed added same clash
    obtain rfl := List.mem_singleton.mp same
    have older := sound.numbered existing (kept existing listed).1
    rw [clash, fresh] at older
    exact absurd older (UInt64.lt_irrefl _)
  · rw [List.length_append, List.length_singleton]
    cases room with
    | inl free =>
      have fewer :=
        List.length_filter_le (fun existing => decide (¬ place.swallows existing)) layout.places
      omega
    | inr taken =>
      obtain ⟨existing, listed, swallowed⟩ := taken
      have fewer : (layout.places.filter (fun existing => ¬ place.swallows existing)).length <
        layout.places.length :=
        List.length_filter_lt_length_iff_exists.mpr ⟨existing, listed, by simpa using swallowed⟩
      have full := sound.room
      omega

theorem Sound.replaced {before after : List Place} {old new : Place} {number : UInt64}
    (sound : Sound tree ⟨before ++ old :: after, number⟩) (same : new.rootItemId = old.rootItemId)
    (there : new.Describes tree)
    (apart : ∀ other ∈ before ++ after, other.rootItemId ≠ old.rootItemId → new.Apart other) :
    Sound tree ⟨before ++ new :: after, number⟩ := by
  obtain ⟨pairwise, described, numbered, distinct, room⟩ := sound
  rw [List.pairwise_append, List.pairwise_cons] at pairwise distinct
  have earlier : ∀ other ∈ before, new.Apart other := fun other listed =>
    apart other (List.mem_append_left _ listed) (distinct.2.2 other listed old List.mem_cons_self)
  have later : ∀ other ∈ after, new.Apart other := fun other listed =>
    apart other (List.mem_append_right _ listed) (distinct.2.1.1 other listed).symm
  constructor
  · rw [List.pairwise_append, List.pairwise_cons]
    refine ⟨pairwise.1, ⟨later, pairwise.2.1.2⟩, ?_⟩
    intro left listed right found
    cases List.mem_cons.mp found with
    | inl same => exact same ▸ (earlier left listed).symm
    | inr rest => exact pairwise.2.2 left listed right (.tail _ rest)
  · simp only [List.mem_append, List.mem_cons] at described ⊢
    grind
  · simp only [List.mem_append, List.mem_cons] at numbered ⊢
    grind
  · rw [List.pairwise_append, List.pairwise_cons, same]
    refine ⟨distinct.1, distinct.2.1, ?_⟩
    intro left listed right found
    cases List.mem_cons.mp found with
    | inl renewed => rw [renewed, same]; exact distinct.2.2 left listed old List.mem_cons_self
    | inr rest => exact distinct.2.2 left listed right (.tail _ rest)
  · simpa using room

theorem Sound.removed {before after : List Place} {old : Place} {number : UInt64}
    (sound : Sound tree ⟨before ++ old :: after, number⟩) :
    Sound tree ⟨before ++ after, number⟩ := by
  have fewer : (before ++ after).Sublist (before ++ old :: after) :=
    List.Sublist.append_left (List.sublist_cons_self old after) before
  exact ⟨sound.apart.sublist fewer, fun place listed => sound.there place (fewer.subset listed),
    fun place listed => sound.numbered place (fewer.subset listed), sound.distinct.sublist fewer,
    fewer.length_le.trans sound.room⟩

theorem Step.sound (step : Step tree root layout next) (sound : layout.Sound tree) :
    next.Sound tree := by
  cases step with
  | allocated bounded =>
    refine ⟨sound.apart, sound.there, fun place listed => ?_, sound.distinct, sound.room⟩
    have older := sound.numbered place listed
    rw [UInt64.lt_iff_toNat_lt] at older ⊢
    rw [UInt64.toNat_add, UInt64.toNat_one]
    omega
  | admitted bounded fresh there unfolded room =>
    exact sound.admitted bounded fresh there unfolded room
  | replaced same there apart => exact sound.replaced same there apart
  | removed => exact sound.removed

/-! ### Covered files -/

def Covers (layout : Layout) (file : PathBuf) : Prop := ∃ place ∈ layout.places, place.covers file

/-- The file is covered by the place of this root. -/
def CoversAt (layout : Layout) (rootItemId : SourceItemId) (file : PathBuf) : Prop :=
  ∃ place ∈ layout.places, place.rootItemId = rootItemId ∧ place.covers file

theorem Sound.covers_exactly_one {file : PathBuf} (sound : layout.Sound tree)
    (covered : layout.Covers file) :
    (layout.places.filter fun place => place.covers file).length = 1 := by
  obtain ⟨place, listed, covers⟩ := covered
  have apart := sound.apart
  obtain ⟨before, after, split⟩ := List.append_of_mem listed
  rw [split, List.pairwise_append, List.pairwise_cons] at apart
  have none_before : before.filter (fun place => place.covers file) = [] := by
    rw [List.filter_eq_nil_iff]
    intro other found
    simp [(apart.2.2 other found place List.mem_cons_self).symm.covers_one covers]
  have none_after : after.filter (fun place => place.covers file) = [] := by
    rw [List.filter_eq_nil_iff]
    intro other found
    simp [(apart.2.1.1 other found).covers_one covers]
  rw [split, List.filter_append, List.filter_cons, if_pos covers, none_before, none_after]
  rfl

/-- A call keeps a file covered, or gives up the root that covered it. -/
theorem Step.covers {file : PathBuf} (step : Step tree root layout next)
    (covered : layout.Covers file) :
    next.Covers file ∨ ∃ rootItemId, root = some rootItemId ∧ layout.CoversAt rootItemId file ∧
      ¬ next.CoversAt rootItemId file := by
  obtain ⟨place, listed, covers⟩ := covered
  cases step with
  | allocated bounded => exact .inl ⟨place, listed, covers⟩
  | @admitted _ added bounded fresh there unfolded room =>
    left
    by_cases swallowed : added.swallows place
    · refine ⟨added, List.mem_append_right _ (List.mem_singleton_self _), ?_⟩
      simp only [Place.swallows, Bool.and_eq_true, Option.any_eq_true] at swallowed
      obtain ⟨-, root, known, below, placeKnown, inside⟩ := swallowed
      obtain ⟨found, foundKnown, start⟩ := Place.covers_iff.mp covers
      rw [placeKnown] at foundKnown
      obtain rfl := Option.some.inj foundKnown
      exact Place.covers_iff.mpr ⟨root, known, startsWith_trans start inside⟩
    · exact ⟨place, List.mem_append_left _ (List.mem_filter.mpr ⟨listed, by simpa using swallowed⟩),
        covers⟩
  | @replaced before after old new number same there apart =>
    by_cases still : Covers ⟨before ++ new :: after, number⟩ file
    · exact .inl still
    · right
      refine ⟨old.rootItemId, rfl, ?_, fun ⟨found, inside, _, covering⟩ =>
        still ⟨found, inside, covering⟩⟩
      refine ⟨old, by simp, rfl, ?_⟩
      simp only [Covers, List.mem_append, List.mem_cons] at still listed
      grind
  | @removed before after old number =>
    by_cases still : Covers ⟨before ++ after, number⟩ file
    · exact .inl still
    · right
      refine ⟨old.rootItemId, rfl, ?_, fun ⟨found, inside, _, covering⟩ =>
        still ⟨found, inside, covering⟩⟩
      refine ⟨old, by simp, rfl, ?_⟩
      simp only [Covers, List.mem_append, List.mem_cons] at still listed
      grind

end Layout

def layout (job : CanonicalTransferJob) : Layout where
  places := job.selections.map SourceSelection.place
  nextSourceItemId := job.nextSourceItemId

end Envoix.Job
