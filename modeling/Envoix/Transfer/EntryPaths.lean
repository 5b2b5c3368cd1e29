import Envoix.Transfer.SafeNames
import Envoix.Transfer.ResumeSpace
import Envoix.Protocol.ManifestCanonical

/-! # Staging paths

`build_entry_paths` of `envoix-transfer/src/destination_v2.rs`: where each entry of a manifest is
staged, under which name, and when the names run out. -/

namespace Envoix.Transfer

open ByteCodec Fallible Envoix.Protocol FileSystem

section Build

variable [names : ProviderNames]

/-- The suffixes left to try, of `0..10_000`. -/
def allocateSuffixes (base : String) (preserveExtension : Bool) (occupied : List String) :
    List Nat → Except DestinationPlanErrorV2 (String × List String)
  | [] => .error .nameExhausted
  | suffix :: rest =>
    let candidate := candidateName base preserveExtension suffix
    let key := names.nameEquivalenceKey candidate
    if key ∈ occupied then allocateSuffixes base preserveExtension occupied rest
    else .ok (candidate, key :: occupied)

def allocateInMemoryName (base : String) (preserveExtension : Bool) (occupied : List String) :
    Except DestinationPlanErrorV2 (String × List String) :=
  allocateSuffixes base preserveExtension occupied (List.range 10000)

/-- The accumulators of `build_entry_paths`. -/
structure EntryPaths where
  paths : List Path
  overrides : List (Option String)
  occupied : Option UInt32 → List String

def EntryPaths.start : EntryPaths where
  paths := []
  overrides := []
  occupied _ := []

def stagingRoot (plan : DestinationWritePlanV2) (rootId : UInt32) : Path :=
  plan.stagingDirectory.join ("root-" ++ toString rootId.toNat)

/-- A name other than the one it replaces. -/
def overriding (name component : String) : Option String :=
  if name ≠ component then some name else none

def EntryPaths.place (plan : DestinationWritePlanV2) (manifest : ManifestV2) (built : EntryPaths)
    (entry : ManifestEntryV2) : Except PlanFailure EntryPaths := do
  let root ← okOr manifest.roots[entry.rootId.toNat]? .panic
  if entry.entryId = root.rootEntryId then
    let rootPlan ← okOr plan.rootPlans[root.rootId.toNat]? .panic
    return { built with
      paths := built.paths ++ [stagingRoot plan root.rootId]
      overrides := built.overrides ++ [overriding rootPlan.plannedName root.requestedName] }
  else
    let parentId ← okOr entry.parentEntryId (.failed .invalidEntryState)
    let parent ← okOr built.paths[parentId.toNat]? (.failed .invalidEntryState)
    let safe := names.providerSafeComponent entry.component
    let (finalName, siblings) ← mapErr .failed
      (allocateInMemoryName safe (entry.kind = .regularFile) (built.occupied (some parentId)))
    return {
      paths := built.paths ++ [parent.join finalName]
      overrides := built.overrides ++ [overriding finalName entry.component]
      occupied := fun parent => if parent = some parentId then siblings else built.occupied parent }

/-- `build_entry_paths` -/
def buildEntryPaths (plan : DestinationWritePlanV2) (manifest : ManifestV2) :
    Except PlanFailure (List Path × List (Option String)) := do
  let built ← manifest.entries.foldlM (EntryPaths.place plan manifest) EntryPaths.start
  return (built.paths, built.overrides)

/-! ## One name -/

theorem allocateSuffixes_cases (base : String) (preserveExtension : Bool) (occupied : List String)
    (suffixes : List Nat) :
    (∃ suffix ∈ suffixes, names.nameEquivalenceKey (candidateName base preserveExtension suffix) ∉
      occupied ∧
      allocateSuffixes base preserveExtension occupied suffixes =
        .ok (candidateName base preserveExtension suffix,
          names.nameEquivalenceKey (candidateName base preserveExtension suffix) :: occupied)) ∨
    ((∀ suffix ∈ suffixes, names.nameEquivalenceKey (candidateName base preserveExtension suffix) ∈
      occupied) ∧
      allocateSuffixes base preserveExtension occupied suffixes = .error .nameExhausted) := by
  induction suffixes with
  | nil => exact .inr ⟨fun _ listed => absurd listed List.not_mem_nil, rfl⟩
  | cons suffix rest ih =>
    rw [allocateSuffixes]
    by_cases taken :
      names.nameEquivalenceKey (candidateName base preserveExtension suffix) ∈ occupied
    · rw [if_pos taken]
      obtain ⟨later, listed, free, result⟩ | ⟨all, result⟩ := ih
      · exact .inl ⟨later, List.mem_cons_of_mem _ listed, free, result⟩
      · refine .inr ⟨fun other listed => ?_, result⟩
        cases listed with
        | head => exact taken
        | tail _ listed => exact all other listed
    · rw [if_neg taken]
      exact .inl ⟨suffix, List.mem_cons_self, taken, rfl⟩

/-- The base is taken where it is free. -/
theorem allocateInMemoryName_base {base : String} {preserveExtension : Bool}
    {occupied : List String} (free : names.nameEquivalenceKey base ∉ occupied) :
    allocateInMemoryName base preserveExtension occupied =
      .ok (base, names.nameEquivalenceKey base :: occupied) := by
  have first : List.range 10000 = 0 :: List.range' 1 9999 := by
    rw [List.range_eq_range', List.range'_succ]
  rw [allocateInMemoryName, first, allocateSuffixes]
  exact if_neg free

/-- No name is left for a base. -/
def Exhausted (base : String) (preserveExtension : Bool) (occupied : List String) : Prop :=
  ∀ suffix < 10000, names.nameEquivalenceKey (candidateName base preserveExtension suffix) ∈
    occupied

theorem allocateInMemoryName_cases (base : String) (preserveExtension : Bool)
    (occupied : List String) :
    (∃ name, names.nameEquivalenceKey name ∉ occupied ∧
      allocateInMemoryName base preserveExtension occupied =
        .ok (name, names.nameEquivalenceKey name :: occupied)) ∨
    (Exhausted base preserveExtension occupied ∧
      allocateInMemoryName base preserveExtension occupied = .error .nameExhausted) := by
  obtain ⟨suffix, _, free, result⟩ | ⟨all, result⟩ :=
    allocateSuffixes_cases base preserveExtension occupied (List.range 10000)
  · exact .inl ⟨_, free, result⟩
  · exact .inr ⟨fun suffix bound => all suffix (List.mem_range.mpr bound), result⟩

/-! ## The tree of paths -/

/-- The staging paths of the first entries of a manifest: every root has its own directory, every
other entry is one component below its parent, and siblings differ in the keys of their names. -/
structure FaithfulTree (plan : DestinationWritePlanV2) (entries : List ManifestEntryV2)
    (paths : List Path) (overrides : List (Option String)) : Prop where
  paths_length : paths.length = entries.length
  overrides_length : overrides.length = entries.length
  roots : ∀ (index : Nat) (entry : ManifestEntryV2), entries[index]? = some entry →
    entry.parentEntryId = none → paths[index]? = some (stagingRoot plan entry.rootId) ∧
      ∃ rootPlan, plan.rootPlans[entry.rootId.toNat]? = some rootPlan ∧
        overrides[index]? = some (overriding rootPlan.plannedName entry.component)
  children : ∀ (index : Nat) (entry : ManifestEntryV2) (parentId : UInt32),
    entries[index]? = some entry →
    entry.parentEntryId = some parentId → ∃ parent name, paths[parentId.toNat]? = some parent ∧
      paths[index]? = some (parent.join name) ∧
      overrides[index]? = some (overriding name entry.component)
  below : ∀ (index : Nat) (entry : ManifestEntryV2) (parentId : UInt32),
    entries[index]? = some entry →
    entry.parentEntryId = some parentId →
    ∃ components, components ≠ [] ∧
      paths[index]? = some (stagingRoot plan entry.rootId ++ components)
  siblings : ∀ (left right : Nat) (leftEntry rightEntry : ManifestEntryV2) (parentId : UInt32)
    (parent : Path) (leftName rightName : String), left ≠ right →
    entries[left]? = some leftEntry → entries[right]? = some rightEntry →
    leftEntry.parentEntryId = some parentId → rightEntry.parentEntryId = some parentId →
    paths[left]? = some (parent.join leftName) → paths[right]? = some (parent.join rightName) →
    names.nameEquivalenceKey leftName ≠ names.nameEquivalenceKey rightName

/-- The keys on record are those of the names given out, and no more than these. -/
structure KeysRecorded (entries : List ManifestEntryV2) (paths : List Path)
    (occupied : Option UInt32 → List String) :
    Prop where
  given : ∀ (parentId : UInt32) (key : String), key ∈ occupied (some parentId) →
    ∃ (index : Nat) (entry : ManifestEntryV2) (parent : Path) (name : String),
      entries[index]? = some entry ∧
      entry.parentEntryId = some parentId ∧ paths[index]? = some (parent.join name) ∧
      key = names.nameEquivalenceKey name
  listed : ∀ (index : Nat) (entry : ManifestEntryV2) (parentId : UInt32) (parent : Path)
    (name : String),
    entries[index]? = some entry → entry.parentEntryId = some parentId →
    paths[index]? = some (parent.join name) →
    names.nameEquivalenceKey name ∈ occupied (some parentId)
  -- A parent is no child of its own.
  few : ∀ parentId : UInt32, (occupied (some parentId)).length +
    (if parentId.toNat < entries.length then 1 else 0) ≤
    entries.length

omit names in
theorem getElem?_concat {α : Type} {items : List α} {last item : α} {index : Nat} :
    (items ++ [last])[index]? = some item ↔
      items[index]? = some item ∨ index = items.length ∧ item = last := by
  obtain early | rfl | late := Nat.lt_trichotomy index items.length
  · rw [List.getElem?_append_left early]
    exact ⟨.inl, fun | .inl found => found | .inr ⟨same, _⟩ => absurd same early.ne⟩
  · simp [eq_comm]
  · rw [List.getElem?_eq_none (by rw [List.length_append, List.length_singleton]; omega),
      List.getElem?_eq_none late.le]
    simp [late.ne']

/-- The path and the override of an entry fit those of the entries before it. -/
structure Fits (plan : DestinationWritePlanV2) (entries : List ManifestEntryV2) (paths : List Path)
    (entry : ManifestEntryV2) (path : Path) (override : Option String) : Prop where
  root : entry.parentEntryId = none → path = stagingRoot plan entry.rootId ∧
    ∃ rootPlan, plan.rootPlans[entry.rootId.toNat]? = some rootPlan ∧
      override = overriding rootPlan.plannedName entry.component
  child : ∀ parentId, entry.parentEntryId = some parentId → ∃ parentEntry parent name,
    entries[parentId.toNat]? = some parentEntry ∧ parentEntry.rootId = entry.rootId ∧
      paths[parentId.toNat]? = some parent ∧ path = parent.join name ∧
      override = overriding name entry.component ∧ ∀ (index : Nat) (sibling : ManifestEntryV2)
        (siblingParent : Path) (siblingName : String),
        entries[index]? = some sibling → sibling.parentEntryId = some parentId →
        paths[index]? = some (siblingParent.join siblingName) →
        names.nameEquivalenceKey siblingName ≠ names.nameEquivalenceKey name

section Concat

variable {plan : DestinationWritePlanV2} {entries : List ManifestEntryV2} {paths : List Path}
  {overrides : List (Option String)} {occupied : Option UInt32 → List String}
  {entry : ManifestEntryV2} {path : Path} {override : Option String}

theorem FaithfulTree.kept (tree : FaithfulTree plan entries paths overrides) {index : Nat}
    {old : ManifestEntryV2} (found : entries[index]? = some old) :
    (paths ++ [path])[index]? = paths[index]? := by
  have early := (List.getElem?_eq_some_iff.mp found).1
  exact List.getElem?_append_left (tree.paths_length ▸ early)

theorem FaithfulTree.last (tree : FaithfulTree plan entries paths overrides) :
    (paths ++ [path])[entries.length]? = some path := by
  rw [← tree.paths_length, List.getElem?_concat_length]

/-- The path of an entry ends in the name that is above its root's directory. -/
theorem FaithfulTree.rooted (tree : FaithfulTree plan entries paths overrides) {index : Nat}
    {old : ManifestEntryV2} {found : Path} (listed : entries[index]? = some old)
    (placed : paths[index]? = some found) :
    ∃ components, found = stagingRoot plan old.rootId ++ components := by
  cases parent : old.parentEntryId with
  | none =>
    have same := placed.symm.trans (tree.roots index old listed parent).1
    exact ⟨[], by rw [List.append_nil]; exact Option.some.inj same⟩
  | some parentId =>
    obtain ⟨components, _, under⟩ := tree.below index old parentId listed parent
    exact ⟨components, Option.some.inj (placed.symm.trans under)⟩

theorem FaithfulTree.concat (tree : FaithfulTree plan entries paths overrides)
    (fits : Fits plan entries paths entry path override) :
    FaithfulTree plan (entries ++ [entry]) (paths ++ [path]) (overrides ++ [override]) where
  paths_length := by simp [tree.paths_length]
  overrides_length := by simp [tree.overrides_length]
  roots index old listed parentless := by
    obtain early | ⟨rfl, rfl⟩ := getElem?_concat.mp listed
    · obtain ⟨placed, rootPlan, planned, overridden⟩ := tree.roots index old early parentless
      exact ⟨getElem?_concat.mpr (.inl placed), rootPlan, planned,
        getElem?_concat.mpr (.inl overridden)⟩
    · obtain ⟨rfl, rootPlan, planned, rfl⟩ := fits.root parentless
      exact ⟨tree.last, rootPlan, planned,
        by rw [← tree.overrides_length, List.getElem?_concat_length]⟩
  children index old parentId listed parent := by
    obtain early | ⟨rfl, rfl⟩ := getElem?_concat.mp listed
    · obtain ⟨above, name, aboveFound, placed, overridden⟩ :=
        tree.children index old parentId early parent
      exact ⟨above, name, getElem?_concat.mpr (.inl aboveFound), getElem?_concat.mpr (.inl placed),
        getElem?_concat.mpr (.inl overridden)⟩
    · obtain ⟨_, above, name, _, _, aboveFound, rfl, rfl, _⟩ := fits.child parentId parent
      exact ⟨above, name, getElem?_concat.mpr (.inl aboveFound), tree.last,
        by rw [← tree.overrides_length, List.getElem?_concat_length]⟩
  below index old parentId listed parent := by
    obtain early | ⟨rfl, rfl⟩ := getElem?_concat.mp listed
    · obtain ⟨components, nonempty, placed⟩ := tree.below index old parentId early parent
      exact ⟨components, nonempty, getElem?_concat.mpr (.inl placed)⟩
    · obtain ⟨parentEntry, above, name, parentListed, sameRoot, aboveFound, rfl, _⟩ :=
        fits.child parentId parent
      obtain ⟨components, rfl⟩ := tree.rooted parentListed aboveFound
      refine ⟨components ++ [name], by simp, ?_⟩
      rw [tree.last, sameRoot, Path.join, List.append_assoc]
  siblings left right leftEntry rightEntry parentId parent leftName rightName different leftListed
    rightListed leftParent
      rightParent leftPlaced rightPlaced := by
    -- The new entry differs from each of its siblings, whichever of the two it is.
    have newest : ∀ (index : Nat) (old : ManifestEntryV2) (oldName newName : String),
        entries[index]? = some old →
        old.parentEntryId = some parentId → entry.parentEntryId = some parentId →
        (paths ++ [path])[index]? = some (parent.join oldName) →
        some path = some (parent.join newName) →
        names.nameEquivalenceKey oldName ≠ names.nameEquivalenceKey newName := by
      intro index old oldName newName listed oldParent newParent oldPlaced newPlaced
      obtain ⟨_, above, name, _, _, _, rfl, _, fresh⟩ := fits.child parentId newParent
      have same : name = newName := by
        have ends := congrArg List.getLast? (Option.some.inj newPlaced)
        simpa [Path.join] using ends
      rw [tree.kept listed] at oldPlaced
      exact same ▸ fresh index old parent oldName listed oldParent oldPlaced
    obtain leftEarly | ⟨rfl, rfl⟩ := getElem?_concat.mp leftListed
    · obtain rightEarly | ⟨rfl, rfl⟩ := getElem?_concat.mp rightListed
      · rw [tree.kept leftEarly] at leftPlaced
        rw [tree.kept rightEarly] at rightPlaced
        exact tree.siblings left right leftEntry rightEntry parentId parent leftName rightName
          different leftEarly
          rightEarly leftParent rightParent leftPlaced rightPlaced
      · exact newest left leftEntry leftName rightName leftEarly leftParent rightParent leftPlaced
          (tree.last.symm.trans rightPlaced)
    · obtain rightEarly | ⟨rfl, rfl⟩ := getElem?_concat.mp rightListed
      · exact (newest right rightEntry rightName leftName rightEarly rightParent
          leftParent rightPlaced
          (tree.last.symm.trans leftPlaced)).symm
      · exact absurd rfl different

/-- A root takes no name among siblings. -/
theorem KeysRecorded.root (recorded : KeysRecorded entries paths occupied)
    (tree : FaithfulTree plan entries paths overrides) (parentless : entry.parentEntryId = none)
    (unborn : ∀ parentId : UInt32, occupied (some parentId) ≠ [] →
      parentId.toNat < entries.length) :
    KeysRecorded (entries ++ [entry]) (paths ++ [path]) occupied where
  given parentId key listed := by
    obtain ⟨index, sibling, parent, name, found, below, placed, same⟩ :=
      recorded.given parentId key listed
    exact ⟨index, sibling, parent, name, getElem?_concat.mpr (.inl found), below,
      getElem?_concat.mpr (.inl placed), same⟩
  listed index sibling parentId parent name found below placed := by
    obtain early | ⟨rfl, rfl⟩ := getElem?_concat.mp found
    · rw [tree.kept early] at placed
      exact recorded.listed index sibling parentId parent name early below placed
    · cases parentless.symm.trans below
  few parentId := by
    have few := recorded.few parentId
    rw [List.length_append, List.length_singleton]
    by_cases empty : occupied (some parentId) = []
    · rw [empty]
      split <;> simp
    · rw [if_pos (unborn parentId empty)] at few
      split <;> omega

theorem KeysRecorded.child (recorded : KeysRecorded entries paths occupied)
    (tree : FaithfulTree plan entries paths overrides) {parentId : UInt32} {parent : Path}
    {name : String} (below : entry.parentEntryId = some parentId)
    (born : parentId.toNat < entries.length)
    (unborn : ∀ other : UInt32, occupied (some other) ≠ [] → other.toNat < entries.length) :
    KeysRecorded (entries ++ [entry]) (paths ++ [parent.join name]) fun other =>
      if other = some parentId then names.nameEquivalenceKey name :: occupied (some parentId)
      else occupied other where
  given other key listed := by
    by_cases same : other = parentId
    · subst same
      rw [if_pos rfl] at listed
      cases listed with
      | head =>
        exact ⟨entries.length, entry, parent, name, List.getElem?_concat_length, below,
          tree.last, rfl⟩
      | tail _ listed =>
        obtain ⟨index, sibling, above, given, found, under, placed, keyed⟩ :=
          recorded.given other key listed
        exact ⟨index, sibling, above, given, getElem?_concat.mpr (.inl found), under,
          getElem?_concat.mpr (.inl placed), keyed⟩
    · rw [if_neg fun equal => same (Option.some.inj equal)] at listed
      obtain ⟨index, sibling, above, given, found, under, placed, keyed⟩ :=
        recorded.given other key listed
      exact ⟨index, sibling, above, given, getElem?_concat.mpr (.inl found), under,
        getElem?_concat.mpr (.inl placed), keyed⟩
  listed index sibling other above given found under placed := by
    obtain early | ⟨rfl, rfl⟩ := getElem?_concat.mp found
    · rw [tree.kept early] at placed
      have old := recorded.listed index sibling other above given early under placed
      by_cases same : other = parentId
      · subst same
        rw [if_pos rfl]
        exact List.mem_cons_of_mem _ old
      · rw [if_neg fun equal => same (Option.some.inj equal)]
        exact old
    · cases Option.some.inj (below.symm.trans under)
      have ends := congrArg List.getLast? (Option.some.inj (tree.last.symm.trans placed))
      have same : name = given := by simpa [Path.join] using ends
      rw [if_pos rfl, same]
      exact List.mem_cons_self
  few other := by
    have few := recorded.few other
    rw [List.length_append, List.length_singleton]
    by_cases same : other = parentId
    · subst same
      rw [if_pos born] at few
      rw [if_pos rfl, if_pos (by omega), List.length_cons]
      omega
    · rw [if_neg fun equal => same (Option.some.inj equal)]
      by_cases empty : occupied (some other) = []
      · rw [empty]
        split <;> simp
      · rw [if_pos (unborn other empty)] at few
        split <;> omega

end Concat

/-! ## One entry -/

variable (names) in
/-- Every name is safe and equivalent to itself only. -/
def Plain : Prop :=
  ∀ component, names.providerSafeComponent component = component ∧
    names.nameEquivalenceKey component = component

/-- What holds of the accumulators after the first entries. -/
structure Built (plan : DestinationWritePlanV2) (entries : List ManifestEntryV2)
    (built : EntryPaths) : Prop where
  tree : FaithfulTree plan entries built.paths built.overrides
  recorded : KeysRecorded entries built.paths built.occupied
  plain : Plain names → ∀ (index : Nat) (entry : ManifestEntryV2) (parentId : UInt32)
    (parent : Path) (name : String),
    entries[index]? = some entry → entry.parentEntryId = some parentId →
    built.paths[index]? = some (parent.join name) → name = entry.component

theorem built_start (plan : DestinationWritePlanV2) : Built plan [] EntryPaths.start where
  tree := {
    paths_length := rfl
    overrides_length := rfl
    roots := fun _ _ listed => by cases listed
    children := fun _ _ _ listed => by cases listed
    below := fun _ _ _ listed => by cases listed
    siblings := fun _ _ _ _ _ _ _ _ _ listed => by cases listed }
  recorded := {
    given := fun _ _ listed => absurd listed List.not_mem_nil
    listed := fun _ _ _ _ _ listed => by cases listed
    few := fun _ => Nat.le_refl 0 }
  plain _ _ _ _ _ _ listed := by cases listed

variable [UnicodeNormalization] {plan : DestinationWritePlanV2} {manifest : ManifestV2}

section Place

variable {before after : List ManifestEntryV2} {entry : ManifestEntryV2} {built : EntryPaths}

/-- Only an entry that came before has names of its children on record. -/
theorem Built.born (holds : Built plan before built) (accepted : Accepted manifest)
    (position : manifest.entries = before ++ entry :: after) {parentId : UInt32}
    (occupied : built.occupied (some parentId) ≠ []) : parentId.toNat < before.length := by
  obtain ⟨key, listed⟩ := List.exists_mem_of_ne_nil _ occupied
  obtain ⟨index, sibling, _, _, found, below, _⟩ := holds.recorded.given parentId key listed
  have early := (List.getElem?_eq_some_iff.mp found).1
  have inManifest : manifest.entries[index]? = some sibling := by
    rw [position, List.getElem?_append_left early, found]
  exact (accepted.parentsFirst index sibling parentId inManifest below).trans early

theorem place_root (accepted : Accepted manifest)
    (planned : plan.rootPlans.length = manifest.roots.length)
    (position : manifest.entries = before ++ entry :: after) (holds : Built plan before built)
    (parentless : entry.parentEntryId = none) :
    ∃ built', built.place plan manifest entry = .ok built' ∧
      Built plan (before ++ [entry]) built' := by
  have listed : manifest.entries[before.length]? = some entry := by rw [position]; simp
  obtain ⟨root, rootListed, sameId, rootEntry, sameName⟩ := accepted.parentless listed parentless
  have entryId := (accepted.entries before entry after position).entryId
  have isRoot : entry.entryId = root.rootEntryId :=
    UInt32.toNat_inj.mp (entryId.trans rootEntry.symm)
  have inside : entry.rootId.toNat < plan.rootPlans.length :=
    planned ▸ (List.getElem?_eq_some_iff.mp rootListed).1
  obtain ⟨rootPlan, planListed⟩ : ∃ rootPlan, plan.rootPlans[entry.rootId.toNat]? = some rootPlan :=
    ⟨_, List.getElem?_eq_getElem inside⟩
  let built' : EntryPaths := { built with
    paths := built.paths ++ [stagingRoot plan root.rootId]
    overrides := built.overrides ++ [overriding rootPlan.plannedName root.requestedName] }
  refine ⟨built', ?_, ?_⟩
  · simp only [EntryPaths.place, rootListed, okOr, ok_bind, if_pos isRoot, sameId, planListed,
      pure_eq, built']
  · have fits : Fits plan before built.paths entry (stagingRoot plan root.rootId)
        (overriding rootPlan.plannedName root.requestedName) :=
      ⟨fun _ => ⟨by rw [sameId], rootPlan, planListed, by rw [sameName]⟩, fun parentId parent => by
        cases parentless.symm.trans parent⟩
    refine ⟨holds.tree.concat fits, holds.recorded.root holds.tree parentless fun _ =>
      holds.born accepted position, ?_⟩
    intro plain index old parentId parent name found below placed
    obtain early | ⟨rfl, rfl⟩ := getElem?_concat.mp found
    · rw [holds.tree.kept early] at placed
      exact holds.plain plain index old parentId parent name early below placed
    · cases parentless.symm.trans below

/-- An entry below a parent is placed beside its siblings, unless no name is left for it. -/
theorem place_child (accepted : Accepted manifest)
    (position : manifest.entries = before ++ entry :: after) (holds : Built plan before built)
    {parentId : UInt32} (below : entry.parentEntryId = some parentId) :
    (∃ built', built.place plan manifest entry = .ok built' ∧
      Built plan (before ++ [entry]) built') ∨
      (built.place plan manifest entry = .error (.failed .nameExhausted) ∧ ¬ Plain names ∧
        (built.occupied (some parentId)).length + 1 ≤ before.length ∧
        Exhausted (names.providerSafeComponent entry.component) (entry.kind = .regularFile)
          (built.occupied (some parentId))) := by
  have listed : manifest.entries[before.length]? = some entry := by rw [position]; simp
  obtain ⟨early, parentEntry, parentListed, sameRoot, _⟩ := accepted.parent listed below
  have parentBefore : before[parentId.toNat]? = some parentEntry := by
    rwa [position, List.getElem?_append_left early] at parentListed
  have pathBefore : parentId.toNat < built.paths.length := holds.tree.paths_length ▸ early
  obtain ⟨parent, parentFound⟩ : ∃ parent, built.paths[parentId.toNat]? = some parent :=
    ⟨_, List.getElem?_eq_getElem pathBefore⟩
  have entryOk := accepted.entries before entry after position
  obtain ⟨root, rootListed, _⟩ := entryOk.placed
  have notRoot : entry.entryId ≠ root.rootEntryId := by
    intro same
    have found : manifest.entries[root.rootEntryId.toNat]? = some entry := by
      rw [← same, entryOk.entryId, listed]
    have parentless := accepted.rootEntry_parentless (List.mem_of_getElem? rootListed) found
    cases parentless.symm.trans below
  have unfolded : built.place plan manifest entry =
      (mapErr .failed (allocateInMemoryName (names.providerSafeComponent entry.component)
        (entry.kind = .regularFile)
        (built.occupied (some parentId)))) >>= fun result => .ok {
          paths := built.paths ++ [parent.join result.1]
          overrides := built.overrides ++ [overriding result.1 entry.component]
          occupied := fun other => if other = some parentId then result.2
              else built.occupied other } := by
    simp only [EntryPaths.place, rootListed, okOr, ok_bind, if_neg notRoot, below,
      parentFound, pure_eq]
  -- A plain name is the component itself, which no sibling has.
  have plainFree (plain : Plain names) :
      names.nameEquivalenceKey (names.providerSafeComponent entry.component) ∉
          built.occupied (some parentId) := by
    intro taken
    obtain ⟨index, sibling, above, name, found, under, placed, same⟩ :=
      holds.recorded.given _ _ taken
    have unrenamed := holds.plain plain index sibling parentId above name found under placed
    rw [(plain entry.component).1, (plain entry.component).2, (plain name).2, unrenamed] at same
    have siblingEarly := (List.getElem?_eq_some_iff.mp found).1
    have siblingListed : manifest.entries[index]? = some sibling := by
      rw [position, List.getElem?_append_left siblingEarly, found]
    obtain ⟨_, siblingParent, siblingParentListed, siblingRoot, _⟩ :=
      accepted.parent siblingListed under
    have sameParent : siblingParent = parentEntry :=
      Option.some.inj (siblingParentListed.symm.trans parentListed)
    have equal := accepted.siblings index before.length sibling entry siblingListed listed
      (by rw [← siblingRoot, ← sameRoot, sameParent]) (under.trans below.symm) same.symm
    omega
  obtain ⟨name, free, allocated⟩ | ⟨exhausted, failed⟩ := allocateInMemoryName_cases
    (names.providerSafeComponent entry.component) (entry.kind = .regularFile)
      (built.occupied (some parentId))
  · refine .inl ⟨_, by rw [unfolded, allocated]; rfl, ?_⟩
    have fits : Fits plan before built.paths entry (parent.join name)
        (overriding name entry.component) := by
      refine ⟨fun parentless => absurd (parentless.symm.trans below) (by simp),
        fun other under => ?_⟩
      cases Option.some.inj (below.symm.trans under)
      refine ⟨parentEntry, parent, name, parentBefore, sameRoot, parentFound, rfl, rfl, ?_⟩
      intro index sibling siblingParent siblingName found siblingBelow placed same
      exact free
        (same ▸ holds.recorded.listed index sibling parentId siblingParent siblingName found
          siblingBelow placed)
    refine ⟨holds.tree.concat fits, holds.recorded.child holds.tree below early fun _ =>
      holds.born accepted position, ?_⟩
    intro plain index old other above given found under placed
    obtain oldEarly | ⟨rfl, rfl⟩ := getElem?_concat.mp found
    · rw [holds.tree.kept oldEarly] at placed
      exact holds.plain plain index old other above given oldEarly under placed
    · have ends := congrArg List.getLast? (Option.some.inj (holds.tree.last.symm.trans placed))
      have same : name = given := by simpa [Path.join] using ends
      -- plain names never need a suffix
      have base := allocated.symm.trans (allocateInMemoryName_base (plainFree plain))
      rw [← same, (Prod.mk.inj (Except.ok.inj base)).1, (plain _).1]
  · refine .inr ⟨by rw [unfolded, failed]; rfl, ?_, ?_, exhausted⟩
    · intro plain
      have base := failed.symm.trans (allocateInMemoryName_base (plainFree plain))
      cases base
    · have few := holds.recorded.few parentId
      rwa [if_pos early] at few

end Place

/-! ## All entries -/

/-- The names ran out for an entry: few enough were taken, and its own do not all differ. -/
def RunsOut (manifest : ManifestV2) (entry : ManifestEntryV2) : Prop :=
  ¬ Plain names ∧ ∃ occupied : List String, occupied.length + 2 ≤ manifest.entries.length ∧
    Exhausted (names.providerSafeComponent entry.component) (entry.kind = .regularFile) occupied

theorem place_all (accepted : Accepted manifest)
    (planned : plan.rootPlans.length = manifest.roots.length) (after before : List ManifestEntryV2)
    (built : EntryPaths) (position : manifest.entries = before ++ after)
    (holds : Built plan before built) :
    (∃ built', after.foldlM (EntryPaths.place plan manifest) built = .ok built' ∧
      Built plan manifest.entries built') ∨
      (after.foldlM (EntryPaths.place plan manifest) built = .error (.failed .nameExhausted) ∧
        ∃ entry ∈ manifest.entries, RunsOut manifest entry) := by
  induction after generalizing before built with
  | nil =>
    rw [List.append_nil] at position
    exact .inl ⟨built, rfl, position ▸ holds⟩
  | cons entry after ih =>
    rw [List.foldlM_cons]
    have onward : ∀ built', built.place plan manifest entry = .ok built' →
      Built plan (before ++ [entry]) built' → _ :=
      fun built' _ holds' =>
        ih (before ++ [entry]) built' (by rw [position, List.append_assoc]; rfl) holds'
    cases parent : entry.parentEntryId with
    | none =>
      obtain ⟨built', placed, holds'⟩ := place_root accepted planned position holds parent
      rw [placed, ok_bind]
      exact onward built' placed holds'
    | some parentId =>
      obtain ⟨built', placed, holds'⟩ | ⟨failed, special, few, exhausted⟩ :=
        place_child accepted position holds parent
      · rw [placed, ok_bind]
        exact onward built' placed holds'
      · refine .inr ⟨by rw [failed]; rfl, entry, by rw [position]; simp, special, _, ?_, exhausted⟩
        rw [position, List.length_append, List.length_cons]
        omega

theorem buildEntryPaths_cases (valid : manifest.validate = .ok ())
    (planned : plan.rootPlans.length = manifest.roots.length) :
    (∃ paths overrides, buildEntryPaths plan manifest = .ok (paths, overrides) ∧
      FaithfulTree plan manifest.entries paths overrides) ∨
    (buildEntryPaths plan manifest = .error (.failed .nameExhausted) ∧
      ∃ entry ∈ manifest.entries, RunsOut manifest entry) := by
  rw [buildEntryPaths]
  obtain ⟨built, run, holds⟩ | ⟨failed, runsOut⟩ :=
    place_all (validate_eq_ok.mp valid) planned manifest.entries []
    EntryPaths.start rfl (built_start plan)
  · exact .inl ⟨built.paths, built.overrides, by rw [run]; rfl, holds.tree⟩
  · exact .inr ⟨by rw [failed]; rfl, runsOut⟩

end Build

/-! ## How many names there are -/

section Windows

variable [Lowercase]

theorem lowered_append (left right : List Char) :
    lowered (left ++ right) = lowered left ++ lowered right :=
  List.flatMap_append

theorem lowered_suffixText (suffix : Nat) : lowered (suffixText suffix) = suffixText suffix := by
  have fixed : ∀ character ∈ suffixText suffix, Lowercase.lower character = [character] := by
    intro character listed
    simp only [suffixText, List.mem_append, List.mem_cons, List.not_mem_nil, or_false] at listed
    obtain ((rfl | rfl) | digit) | rfl := listed
    · exact Lowercase.lower_sign _ (by decide)
    · exact Lowercase.lower_sign _ (by decide)
    · exact Lowercase.lower_digit _ (Nat.isDigit_of_mem_toDigits (by decide) (by decide) digit)
    · exact Lowercase.lower_sign _ (by decide)
  rw [lowered, List.flatMap_congr fixed]
  exact List.flatMap_singleton' _

theorem length_le_lowered (name : List Char) : name.length ≤ (lowered name).length := by
  induction name with
  | nil => exact Nat.le_refl 0
  | cons character rest ih =>
    have some := List.length_pos_iff.mpr (Lowercase.lower_ne_nil character)
    rw [lowered, List.flatMap_cons, List.length_append, List.length_cons, ← lowered]
    omega

omit [Lowercase] in
/-- A text ends in one suffix at most. -/
theorem suffixText_end {left right : List Char} {first second : Nat}
    (same : left ++ suffixText first = right ++ suffixText second) : first = second := by
  have digits (suffix : Nat) : ∀ digit ∈ (Nat.toDigits 10 suffix).reverse, digit.isDigit = true :=
    fun digit listed => Nat.isDigit_of_mem_toDigits (by decide) (by decide)
      (List.mem_reverse.mp listed)
  -- Seen from the end: the parenthesis, then the digits up to the other one.
  have reversed (text : List Char) (suffix : Nat) : (text ++ suffixText suffix).reverse.tail =
      (Nat.toDigits 10 suffix).reverse ++ '(' :: ' ' :: text.reverse := by
    simp [suffixText]
  have taken (text : List Char) (suffix : Nat) :
      ((text ++ suffixText suffix).reverse.tail).takeWhile Char.isDigit =
          (Nat.toDigits 10 suffix).reverse := by
    rw [reversed, List.takeWhile_append_of_pos (digits suffix)]
    simp [List.takeWhile_cons_of_neg]
  have equal : (Nat.toDigits 10 first).reverse = (Nat.toDigits 10 second).reverse := by
    rw [← taken left first, same, taken right second]
  have numbers := congrArg (fun text => Nat.ofDigitChars 10 text.reverse 0) equal
  simpa only [List.reverse_reverse, Nat.ofDigitChars_ten_toDigits] using numbers

/-- With the extension in the same place, the suffix can be read off. -/
theorem lowered_suffixed_inj {base : List Char} {preserveExtension : Bool} {first second : Nat}
    (parts : (suffixParts base first preserveExtension).2 =
      (suffixParts base second preserveExtension).2)
    (same : lowered (suffixed base first preserveExtension) =
      lowered (suffixed base second preserveExtension)) :
    first = second := by
  simp only [suffixed, lowered_append, lowered_suffixText, parts] at same
  exact suffixText_end (List.append_cancel_right same)

omit [Lowercase] in
theorem componentBytes_le (name : List Char) : componentBytes name ≤ 4 * name.length := by
  induction name with
  | nil => exact Nat.le_refl 0
  | cons character rest ih =>
    have bound := Char.utf8Size_le_four character
    rw [componentBytes_cons, List.length_cons]
    omega

omit [Lowercase] in
theorem length_suffixText {suffix : Nat} (bound : suffix ≤ 9999) :
    (suffixText suffix).length = componentBytes (suffixText suffix) ∧
      componentBytes (suffixText suffix) ≤ 7 := by
  have digits : (Nat.toDigits 10 suffix).length ≤ 4 :=
    (Nat.length_toDigits_le_iff (by decide) (by decide)).mpr (by omega)
  rw [componentBytes_suffixText]
  simp only [suffixText, List.length_append, List.length_cons, List.length_nil]
  omega

/-- A name that keeps its extension is equivalent to one that does not only if the extension ends in
the suffix. -/
theorem extension_ends {base stem extension : List Char} {first second : Nat}
    {preserveExtension : Bool} (bound : second ≤ 9999)
    (keeps : suffixParts base first preserveExtension = (stem, extension))
    (long : 255 < componentBytes extension + componentBytes (suffixText second))
    (drops : (suffixParts base second preserveExtension).2 = [])
    (same : lowered (suffixed base first preserveExtension) =
      lowered (suffixed base second preserveExtension)) :
    ∃ text, lowered extension = text ++ suffixText second := by
  simp only [suffixed, lowered_append, lowered_suffixText, keeps, drops] at same
  have ends : suffixText second <:+ lowered extension := by
    have whole :
        suffixText second <:+ lowered (takeBytes (255 - (componentBytes (suffixText first) +
        componentBytes extension)) stem) ++ suffixText first ++ lowered extension := by
      rw [same]
      simp [lowered]
    have size := length_le_lowered extension
    have wide := componentBytes_le extension
    have short := length_suffixText bound
    exact List.suffix_of_suffix_length_le whole (List.suffix_append _ _) (by omega)
  obtain ⟨text, whole⟩ := ends
  exact ⟨text, whole.symm⟩

/-- All the suffixed names have keys of their own but for one, which may coincide with another. -/
theorem exists_odd_suffix (base : List Char) (preserveExtension : Bool) :
    ∃ odd, ∀ first second, first ≤ 9999 → second ≤ 9999 → first ≠ odd → second ≠ odd →
      lowered (suffixed base first preserveExtension) =
        lowered (suffixed base second preserveExtension) →
      first = second := by
  cases split : if preserveExtension then splitExtension base else none with
  | none =>
    have parts (suffix : Nat) : suffixParts base suffix preserveExtension = (base, []) := by
      rw [suffixParts, split]
      rfl
    exact ⟨0, fun first second _ _ _ _ same => lowered_suffixed_inj (by rw [parts, parts]) same⟩
  | some pair =>
    obtain ⟨stem, extension⟩ := pair
    -- The extension is kept as long as it fits beside the suffix.
    have keeps {suffix : Nat}
      (fits : componentBytes extension + componentBytes (suffixText suffix) ≤ 255) :
        suffixParts base suffix preserveExtension = (stem, extension) := by
      rw [suffixParts, split, Option.filter_some, if_pos (decide_eq_true fits), Option.getD_some]
    have drops {suffix : Nat}
      (long : 255 < componentBytes extension + componentBytes (suffixText suffix)) :
        suffixParts base suffix preserveExtension = (base, []) := by
      rw [suffixParts, split, Option.filter_some, if_neg (by simpa using long), Option.getD_none]
    obtain ⟨odd, unique⟩ : ∃ odd, ∀ suffix text, lowered extension = text ++ suffixText suffix →
        suffix = odd := by
      by_cases ending : ∃ odd text, lowered extension = text ++ suffixText odd
      · obtain ⟨odd, text, whole⟩ := ending
        exact ⟨odd, fun suffix text' whole' => suffixText_end (whole'.symm.trans whole)⟩
      · exact ⟨0, fun suffix text whole => absurd ⟨suffix, text, whole⟩ ending⟩
    refine ⟨odd, fun first second firstBound secondBound firstOther secondOther same => ?_⟩
    by_cases firstFits : componentBytes extension + componentBytes (suffixText first) ≤ 255
    · by_cases secondFits : componentBytes extension + componentBytes (suffixText second) ≤ 255
      · exact lowered_suffixed_inj (by rw [keeps firstFits, keeps secondFits]) same
      · have long := not_le.mp secondFits
        obtain ⟨text, whole⟩ :=
          extension_ends secondBound (keeps firstFits) long (by rw [drops long]) same
        exact absurd (unique second text whole) secondOther
    · have firstLong := not_le.mp firstFits
      by_cases secondFits : componentBytes extension + componentBytes (suffixText second) ≤ 255
      · obtain ⟨text, whole⟩ :=
          extension_ends firstBound (keeps secondFits) firstLong (by rw [drops firstLong]) same.symm
        exact absurd (unique first text whole) firstOther
      · exact lowered_suffixed_inj (by rw [drops firstLong, drops (not_le.mp secondFits)]) same

theorem windows_key (base : String) (preserveExtension : Bool) {suffix : Nat}
    (positive : 1 ≤ suffix) :
    (windowsNames.nameEquivalenceKey (candidateName base preserveExtension suffix)).toList =
      lowered (suffixed base.toList suffix preserveExtension) := by
  rw [candidateName, if_neg (by omega), ← toList_componentWithSuffix]
  exact String.toList_ofList

/-- Taken keys in the number of the suffixes that are known to differ. -/
theorem length_of_exhausted {base : String} {preserveExtension : Bool} {occupied : List String}
    {suffixes : Finset Nat} (range : ∀ suffix ∈ suffixes, 1 ≤ suffix ∧ suffix ≤ 9999)
    (differ : ∀ first ∈ suffixes, ∀ second ∈ suffixes,
      lowered (suffixed base.toList first preserveExtension) =
        lowered (suffixed base.toList second preserveExtension) →
      first = second)
    (exhausted : @Exhausted windowsNames base preserveExtension occupied) :
    suffixes.card ≤ occupied.length := by
  apply le_trans _ occupied.toFinset_card_le
  apply Finset.card_le_card_of_injOn fun suffix =>
    windowsNames.nameEquivalenceKey (candidateName base preserveExtension suffix)
  · intro suffix member
    have bounds := range suffix member
    exact List.mem_toFinset.mpr (exhausted suffix (by omega))
  · intro first firstMember second secondMember same
    have keys := congrArg String.toList same
    rw [windows_key base preserveExtension (range first firstMember).1,
      windows_key base preserveExtension (range second secondMember).1] at keys
    exact differ first firstMember second secondMember keys

/-- Two of the suffixed forms of a name are equivalent. -/
def SelfCollides (base : List Char) (preserveExtension : Bool) : Prop :=
  ∃ first second, 1 ≤ first ∧ first < second ∧ second ≤ 9999 ∧
    lowered (suffixed base first preserveExtension) =
      lowered (suffixed base second preserveExtension)

theorem crowded_of_exhausted {base : String} {preserveExtension : Bool} {occupied : List String}
    (exhausted : @Exhausted windowsNames base preserveExtension occupied) :
    9998 ≤ occupied.length ∧
      (occupied.length ≤ 9998 → SelfCollides base.toList preserveExtension) := by
  obtain ⟨odd, differ⟩ := exists_odd_suffix base.toList preserveExtension
  constructor
  · have enough : 9998 ≤ ((Finset.Icc 1 9999).erase odd).card := by
      have size : (Finset.Icc 1 9999).card = 9999 := Nat.card_Icc 1 9999
      have erased := Finset.pred_card_le_card_erase (s := Finset.Icc 1 9999) (a := odd)
      omega
    refine enough.trans (length_of_exhausted (fun suffix member => ?_) ?_ exhausted)
    · exact Finset.mem_Icc.mp (Finset.mem_of_mem_erase member)
    · intro first firstMember second secondMember
      exact differ first second (Finset.mem_Icc.mp (Finset.mem_of_mem_erase firstMember)).2
        (Finset.mem_Icc.mp (Finset.mem_of_mem_erase secondMember)).2
          (Finset.ne_of_mem_erase firstMember)
        (Finset.ne_of_mem_erase secondMember)
  · intro few
    by_contra distinct
    have enough : (Finset.Icc 1 9999).card ≤ occupied.length := by
      refine length_of_exhausted (fun suffix member => Finset.mem_Icc.mp member) ?_ exhausted
      intro first firstMember second secondMember same
      rw [Finset.mem_Icc] at firstMember secondMember
      by_contra different
      obtain less | greater := Nat.lt_or_gt_of_ne different
      · exact distinct ⟨first, second, firstMember.1, less, secondMember.2, same⟩
      · exact distinct ⟨second, first, secondMember.1, greater, firstMember.2, same.symm⟩
    rw [Nat.card_Icc] at enough
    omega

end Windows

/-- The paths of a valid manifest form its tree, unless its 10,000 entries leave no name for one
that collides with itself on Windows. -/
theorem entry_paths_faithful [Lowercase] [UnicodeNormalization] (rules : NameRules)
    {plan : DestinationWritePlanV2} {manifest : ManifestV2} (valid : manifest.validate = .ok ())
    (planned : plan.rootPlans.length = manifest.roots.length) :
    (∃ paths overrides, @buildEntryPaths rules.names plan manifest = .ok (paths, overrides) ∧
      @FaithfulTree rules.names plan manifest.entries paths overrides) ∨
    (@buildEntryPaths rules.names plan manifest = .error (.failed .nameExhausted) ∧
      rules = .windows ∧ manifest.entries.length = 10000 ∧ ∃ entry ∈ manifest.entries,
        SelfCollides (windowsSafe entry.component.toList) (entry.kind = .regularFile)) := by
  obtain built | ⟨failed, entry, listed, special, occupied, few, exhausted⟩ :=
    @buildEntryPaths_cases rules.names _ plan manifest valid planned
  · exact .inl built
  · cases rules with
    | identity => exact absurd (fun _ => ⟨rfl, rfl⟩) special
    | windows =>
      obtain ⟨many, collides⟩ := crowded_of_exhausted exhausted
      have bound : manifest.entries.length ≤ 10000 := (validate_eq_ok.mp valid).entryCount.2
      have spelled : (NameRules.windows.names.providerSafeComponent entry.component).toList =
          windowsSafe entry.component.toList := String.toList_ofList
      have self := collides (by omega)
      rw [spelled] at self
      exact .inr ⟨failed, rfl, by omega, entry, listed, self⟩

/-- The names of the sample are taken as they are, but for a root whose name is taken in the
target. -/
def samplePlan : DestinationWritePlanV2 :=
  { postcardPlan with rootPlans := [⟨0, "Photos"⟩, ⟨1, "notes (1).txt"⟩] }

attribute [local instance] asciiLowercase identityNormalization

theorem entry_paths_faithful_sample :
    (∃ paths overrides, @buildEntryPaths NameRules.windows.names samplePlan sampleManifest =
      .ok (paths, overrides) ∧
      @FaithfulTree NameRules.windows.names samplePlan sampleManifest.entries paths overrides) ∨
    (@buildEntryPaths NameRules.windows.names samplePlan sampleManifest =
      .error (.failed .nameExhausted) ∧
      NameRules.windows = .windows ∧ sampleManifest.entries.length = 10000 ∧
        ∃ entry ∈ sampleManifest.entries,
        SelfCollides (windowsSafe entry.component.toList) (entry.kind = .regularFile)) :=
  entry_paths_faithful .windows (by decide) rfl

end Envoix.Transfer
