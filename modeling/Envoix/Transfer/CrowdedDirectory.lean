import Envoix.Transfer.EntryPaths

/-! # A crowded directory

A directory whose 9,999 files leave no name for the last of them on Windows: the others have the
names of all its suffixed forms, of which three are one. -/

namespace Envoix.Transfer

open ByteCodec Fallible Envoix.Protocol FileSystem Traversal

/-! ## A directory of files -/

def crowdRoot : ManifestEntryV2 where
  entryId := 0
  rootId := 0
  parentEntryId := none
  component := "crowd"
  kind := .directory
  plaintextSize := 0
  contentDigest := .deferred

def flatEntry (file : String × Nat) : ManifestEntryV2 where
  entryId := UInt32.ofNat (file.2 + 1)
  rootId := 0
  parentEntryId := some 0
  component := file.1
  kind := .regularFile
  plaintextSize := 0
  contentDigest := .deferred

def flatManifest (components : List String) : ManifestV2 where
  jobId := sampleJobId
  generation := 1
  selectionRevision := 1
  compressionPolicy := .smart
  roots := [{ rootId := 0, rootEntryId := 0, requestedName := "crowd", completeness := .complete }]
  entries := crowdRoot :: components.zipIdx.map flatEntry
  totals :=
    { fileCount := UInt32.ofNat components.length, directoryCount := 1, totalPlaintextBytes := 0 }

section Flat

variable {components : List String}

theorem flat_entry {index : Nat} {entry : ManifestEntryV2}
    (found : (flatManifest components).entries[index]? = some entry) :
    index = 0 ∧ entry = crowdRoot ∨
      ∃ position component, index = position + 1 ∧ components[position]? = some component ∧
        entry = flatEntry (component, position) := by
  cases index with
  | zero => exact .inl ⟨rfl, (Option.some.inj found).symm⟩
  | succ position =>
    simp only [flatManifest, List.getElem?_cons_succ, List.getElem?_map, List.getElem?_zipIdx,
      Option.map_map, Option.map_eq_some_iff, Function.comp_apply, Nat.zero_add] at found
    obtain ⟨component, listed, rfl⟩ := found
    exact .inr ⟨position, component, rfl, listed, rfl⟩

theorem flat_entry_mem {entry : ManifestEntryV2}
    (listed : entry ∈ (flatManifest components).entries) :
    entry = crowdRoot ∨ ∃ position component, component ∈ components ∧
      entry = flatEntry (component, position) := by
  obtain ⟨index, found⟩ := List.getElem?_of_mem listed
  obtain ⟨_, same⟩ | ⟨position, component, _, componentListed, same⟩ := flat_entry found
  · exact .inl same
  · exact .inr ⟨position, component, List.mem_of_getElem? componentListed, same⟩

theorem flat_file (components : List String) (position : Nat) :
    (flatManifest components).entries[position + 1]? = components[position]?.map fun component =>
      flatEntry (component, position) := by
  simp only [flatManifest, List.getElem?_cons_succ, List.getElem?_map, List.getElem?_zipIdx,
    Option.map_map, Nat.zero_add]
  rfl

theorem length_flat (components : List String) :
    (flatManifest components).entries.length = components.length + 1 := by
  simp [flatManifest]

theorem componentKey_flat {position : Nat} {component : String}
    (listed : components[position]? = some component) :
    (flatManifest components).componentKey (position + 1) = asBytes component := by
  rw [ManifestV2.componentKey, flat_file, listed]
  rfl

/-- The files are the children of the directory, in their order. -/
theorem siblingOrder_flat (sorted : components.Pairwise fun left right =>
    asBytes left < asBytes right) :
    SiblingOrder (flatManifest components) 0 (List.range' 1 components.length) := by
  constructor
  · rw [List.pairwise_iff_getElem] at sorted ⊢
    intro left right leftBound rightBound less
    rw [List.length_range'] at leftBound rightBound
    rw [List.getElem_range', List.getElem_range', Nat.one_mul, Nat.one_mul, Nat.add_comm 1,
      Nat.add_comm 1, componentKey_flat (List.getElem?_eq_getElem leftBound),
      componentKey_flat (List.getElem?_eq_getElem rightBound)]
    exact sorted left right leftBound rightBound less
  · intro index
    rw [List.mem_range'_1]
    constructor
    · intro ⟨positive, bound⟩
      obtain ⟨position, rfl⟩ := Nat.exists_eq_add_of_le' positive
      refine ⟨flatEntry (components[position], position), 0, ?_, rfl, rfl⟩
      rw [flat_file, List.getElem?_eq_getElem (by omega)]
      rfl
    · intro ⟨entry, parentId, found, parent, _⟩
      obtain ⟨_, rfl⟩ | ⟨position, component, rfl, listed, _⟩ := flat_entry found
      · cases parent
      · have bound := (List.getElem?_eq_some_iff.mp listed).1
        omega

theorem childless_flat {node : Nat} (positive : 1 ≤ node) :
    SiblingOrder (flatManifest components) node [] := by
  refine ⟨.nil, fun index => ⟨fun listed => absurd listed List.not_mem_nil, ?_⟩⟩
  intro ⟨entry, parentId, found, parent, here⟩
  obtain ⟨_, rfl⟩ | ⟨position, component, _, _, rfl⟩ := flat_entry found
  · cases parent
  · cases parent
    rw [← here] at positive
    cases positive

theorem preorder_childless {children : Nat → List Nat → Prop} {nodes : List Nat}
    (childless : ∀ node ∈ nodes, children node []) : Preorder children nodes nodes := by
  induction nodes with
  | nil => exact .nil
  | cons node nodes ih =>
    exact .cons (childless node List.mem_cons_self) .nil (ih fun other listed =>
      childless other (List.mem_cons_of_mem _ listed))

theorem flat_root_path {root : ManifestRootV2} {index : Nat} {path : List String}
    (reached : PathFrom (flatManifest components) root index path) :
    path = [] ∨ ∃ component ∈ components, path = [component] := by
  have parentless : ∀ {index : Nat} {path : List String},
      PathFrom (flatManifest components) root index path →
      index = 0 → path = [] := by
    intro index path reached first
    cases reached with
    | root => rfl
    | child found _ parent _ =>
      rw [first] at found
      cases found
      cases parent
  cases reached with
  | root => exact .inl rfl
  | child found _ parent parentPath =>
    obtain ⟨_, rfl⟩ | ⟨position, component, _, listed, rfl⟩ := flat_entry found
    · cases parent
    · cases parent
      rw [parentless parentPath rfl]
      exact .inr ⟨component, List.mem_of_getElem? listed, rfl⟩

theorem flat_canonical [UnicodeNormalization] (few : components.length ≤ 9999)
    (rootSafe : SafeComponent "crowd") (safe : ∀ component ∈ components, SafeComponent component)
    (sorted : components.Pairwise fun left right => asBytes left < asBytes right) :
    CanonicalForest (flatManifest components) where
  jobId := show (flatManifest []).jobId.bytes ≠ _ by decide
  generation := show (1 : UInt32) ≠ 0 by decide
  selectionRevision := show (1 : UInt64) ≠ 0 by decide
  rootCount := show 1 ≤ 1 ∧ 1 ≤ maxManifestV2Roots by decide
  entryCount := by
    rw [length_flat, maxManifestV2Entries]
    omega
  rootIds index root found := by
    cases index with
    | zero =>
      cases found
      rfl
    | succ index => cases found
  entryIds index entry found := by
    obtain ⟨rfl, rfl⟩ | ⟨position, component, rfl, listed, rfl⟩ := flat_entry found
    · rfl
    · have bound := (List.getElem?_eq_some_iff.mp listed).1
      exact UInt32.toNat_ofNat_of_lt' (by simp only [UInt32.size]; omega)
  rootNames root listed := by
    rw [List.mem_singleton.mp listed]
    exact rootSafe
  entryNames entry listed := by
    obtain rfl | ⟨_, component, componentListed, rfl⟩ := flat_entry_mem listed
    · exact rootSafe
    · exact safe component componentListed
  partialRoots root listed boundaries omitted isPartial := by
    rw [List.mem_singleton.mp listed] at isPartial
    cases isPartial
  reachable index bound := by
    refine ⟨_, ⟨List.mem_singleton_self _, ?_⟩,
      fun other ⟨listed, _⟩ => List.mem_singleton.mp listed⟩
    cases index with
    | zero => exact ⟨[], .root rfl rfl rfl⟩
    | succ position =>
      rw [length_flat] at bound
      have found : (flatManifest components).entries[position + 1]? =
          some (flatEntry (components[position], position)) := by
        rw [flat_file, List.getElem?_eq_getElem (by omega)]
        rfl
      exact ⟨_, .child found rfl rfl (.root rfl rfl rfl)⟩
  parents entry listed parentId parent := by
    obtain rfl | ⟨_, component, _, rfl⟩ := flat_entry_mem listed
    · cases parent
    · cases parent
      exact ⟨crowdRoot, rfl, rfl, rfl⟩
  rootEntries root listed := by
    rw [List.mem_singleton.mp listed]
    refine ⟨crowdRoot, ⟨List.mem_cons_self, rfl, rfl⟩, fun other ⟨otherListed, _, parentless⟩ => ?_⟩
    obtain same | ⟨_, component, _, rfl⟩ := flat_entry_mem otherListed
    · exact same
    · cases parentless
  rootEntryNames root listed entry entryListed _ parentless := by
    rw [List.mem_singleton.mp listed]
    obtain rfl | ⟨_, component, _, rfl⟩ := flat_entry_mem entryListed
    · rfl
    · cases parentless
  siblings left right leftEntry rightEntry leftFound rightFound _ sameParent sameName := by
    obtain ⟨rfl, rfl⟩ | ⟨leftPosition, leftName, rfl, leftListed, rfl⟩ := flat_entry leftFound
    · obtain ⟨rfl, rfl⟩ | ⟨_, _, _, _, rfl⟩ := flat_entry rightFound
      · rfl
      · cases sameParent
    · obtain ⟨_, rfl⟩ | ⟨rightPosition, rightName, rfl, rightListed, rfl⟩ := flat_entry rightFound
      · cases sameParent
      · have nodup : components.Nodup := by
          refine sorted.imp fun {left right} less same => ?_
          rw [same] at less
          exact Std.lt_irrefl less
        obtain ⟨leftBound, leftIs⟩ := List.getElem?_eq_some_iff.mp leftListed
        obtain ⟨rightBound, rightIs⟩ := List.getElem?_eq_some_iff.mp rightListed
        have same : components[leftPosition] = components[rightPosition] :=
          leftIs.trans (sameName.trans rightIs.symm)
        rw [(List.Nodup.getElem_inj_iff nodup).mp same]
  paths root _ index path reached := by
    obtain rfl | ⟨component, listed, rfl⟩ := flat_root_path reached
    · decide
    · have short := (safe component listed).short
      simp only [pathLength, List.map_cons, List.map_nil, List.sum_cons, List.sum_nil,
        List.length_singleton, maxManifestV2PathDepth, maxManifestV2PathBytes,
        maxManifestV2ComponentBytes] at short ⊢
      omega
  directories entry listed directory := by
    obtain rfl | ⟨_, component, _, rfl⟩ := flat_entry_mem listed
    · exact ⟨rfl, rfl⟩
    · cases directory
  files := by
    have all : (components.zipIdx.map flatEntry).countP isFile = components.length := by
      rw [List.countP_eq_length.mpr, List.length_map, List.length_zipIdx]
      intro entry listed
      obtain ⟨_, _, rfl⟩ := List.mem_map.mp listed
      rfl
    rw [fileTotal]
    simp only [flatManifest, List.countP_cons, all]
    exact UInt32.toNat_ofNat_of_lt' (by simp only [UInt32.size]; omega)
  directoryCount := by
    have none : (components.zipIdx.map flatEntry).countP (fun entry => !isFile entry) = 0 := by
      rw [List.countP_eq_zero]
      intro entry listed
      obtain ⟨_, _, rfl⟩ := List.mem_map.mp listed
      exact Bool.false_ne_true
    rw [directoryTotal]
    simp only [flatManifest, List.countP_cons, none]
    rfl
  bytes := by
    rw [byteTotal]
    refine (List.sum_eq_zero fun size listed => ?_).symm
    obtain ⟨entry, filtered, rfl⟩ := List.mem_map.mp listed
    obtain rfl | ⟨_, component, _, rfl⟩ := flat_entry_mem (List.mem_of_mem_filter filtered)
    · rfl
    · rfl
  order := by
    have nodes : List.range (flatManifest components).entries.length =
        0 :: (List.range' 1 components.length ++ []) := by
      rw [length_flat, List.append_nil, List.range_eq_range', List.range'_succ]
    rw [nodes]
    exact .cons (siblingOrder_flat sorted)
      (preorder_childless fun node listed => childless_flat (List.mem_range'_1.mp listed).1) .nil

end Flat

/-! ## Names that are taken -/

section Place

variable [Lowercase] {plan : DestinationWritePlanV2} {components : List String}

attribute [local instance] windowsNames

/-- A file with a safe name of its own keeps it. -/
theorem place_file {built : EntryPaths} {component : String} {position : Nat} {parent : Path}
    (small : position < 9999) (rootPlaced : built.paths[0]? = some parent)
    (safe : windowsSafe component.toList = component.toList)
    (free : windowsNames.nameEquivalenceKey component ∉ built.occupied (some 0)) :
    ∃ built', built.place plan (flatManifest components) (flatEntry (component, position)) =
      .ok built' ∧
      built'.paths[0]? = some parent ∧
      built'.occupied (some 0) = windowsNames.nameEquivalenceKey component ::
        built.occupied (some 0) := by
  have notRoot : UInt32.ofNat (position + 1) ≠ 0 := by
    intro same
    have zero := congrArg UInt32.toNat same
    rw [UInt32.toNat_ofNat_of_lt' (by simp only [UInt32.size]; omega)] at zero
    cases zero
  have spelled : windowsNames.providerSafeComponent component = component := by
    rw [← String.toList_inj]
    exact String.toList_ofList.trans safe
  let built' : EntryPaths := {
    paths := built.paths ++ [parent.join component]
    overrides := built.overrides ++ [overriding component component]
    occupied := fun other => if other = some 0 then
      windowsNames.nameEquivalenceKey component :: built.occupied (some 0)
        else built.occupied other }
  refine ⟨built', ?_, getElem?_concat.mpr (.inl rootPlaced), by simp [built']⟩
  simp only [EntryPaths.place, flatEntry, flatManifest]
  simp only [show (0 : UInt32).toNat = 0 from rfl, List.getElem?_cons_zero, okOr, ok_bind,
    if_neg notRoot, rootPlaced, spelled, allocateInMemoryName_base free, mapErr, pure_eq, built']

/-- Files with safe names and keys of their own keep them, and the keys are taken afterwards. -/
theorem place_files {parent : Path} (rest : List String) (start : Nat) (built : EntryPaths)
    (few : start + rest.length ≤ 9999) (rootPlaced : built.paths[0]? = some parent)
    (safe : ∀ component ∈ rest, windowsSafe component.toList = component.toList)
    (distinct : (rest.map windowsNames.nameEquivalenceKey).Nodup)
    (free : ∀ component ∈ rest, windowsNames.nameEquivalenceKey component ∉
      built.occupied (some 0)) :
    ∃ built', ((rest.zipIdx start).map flatEntry).foldlM
        (EntryPaths.place plan (flatManifest components)) built =
        .ok built' ∧ built'.paths[0]? = some parent ∧
      (∀ key ∈ built.occupied (some 0), key ∈ built'.occupied (some 0)) ∧
      ∀ component ∈ rest, windowsNames.nameEquivalenceKey component ∈ built'.occupied (some 0) := by
  induction rest generalizing start built with
  | nil =>
    exact ⟨built, rfl, rootPlaced, fun _ taken => taken,
      fun _ listed => absurd listed List.not_mem_nil⟩
  | cons component rest ih =>
    rw [List.length_cons] at few
    rw [List.map_cons, List.nodup_cons] at distinct
    obtain ⟨next, placed, nextRoot, nextTaken⟩ : ∃ next, built.place plan (flatManifest components)
        (flatEntry (component, start)) = .ok next ∧ next.paths[0]? = some parent ∧
          next.occupied (some 0) = windowsNames.nameEquivalenceKey component ::
            built.occupied (some 0) :=
      place_file (by omega) rootPlaced (safe component List.mem_cons_self)
        (free component List.mem_cons_self)
    have nextFree :
        ∀ other ∈ rest, windowsNames.nameEquivalenceKey other ∉ next.occupied (some 0) := by
      intro other listed
      rw [nextTaken, List.mem_cons, not_or]
      exact ⟨fun same => distinct.1 (same ▸ List.mem_map_of_mem listed),
        free other (List.mem_cons_of_mem _ listed)⟩
    obtain ⟨built', run, rootPlaced', keeps, taken⟩ := ih (start + 1) next (by omega) nextRoot
      (fun other listed => safe other (List.mem_cons_of_mem _ listed)) distinct.2 nextFree
    rw [nextTaken] at keeps
    rw [List.zipIdx_cons, List.map_cons, List.foldlM_cons, placed, ok_bind]
    refine ⟨built', run, rootPlaced', fun key old => keeps key (List.mem_cons_of_mem _ old),
      fun other listed => ?_⟩
    cases listed with
    | head => exact keeps _ List.mem_cons_self
    | tail _ listed => exact taken other listed

/-- When the names of the others are all the last file could take, it gets none. -/
theorem last_file_fails {names : List String} {last : String} (planned : plan.rootPlans[0]?.isSome)
    (few : names.length + 1 ≤ 9999)
    (safe : ∀ component ∈ names, windowsSafe component.toList = component.toList)
      (distinct : (names.map windowsNames.nameEquivalenceKey).Nodup)
    (exhausts : ∀ occupied : List String,
      (∀ component ∈ names, windowsNames.nameEquivalenceKey component ∈ occupied) →
      allocateInMemoryName (windowsNames.providerSafeComponent last) true occupied =
        .error .nameExhausted) :
    buildEntryPaths plan (flatManifest (names ++ [last])) = .error (.failed .nameExhausted) := by
  obtain ⟨rootPlan, planListed⟩ := Option.isSome_iff_exists.mp planned
  obtain ⟨root, first, rootPlaced, unoccupied⟩ :
    ∃ root, EntryPaths.start.place plan (flatManifest (names ++ [last]))
      crowdRoot = .ok root ∧ root.paths[0]? = some (stagingRoot plan 0) ∧
          root.occupied (some 0) = [] := by
    refine ⟨⟨[stagingRoot plan 0], [overriding rootPlan.plannedName "crowd"], fun _ => []⟩,
      ?_, rfl, rfl⟩
    simp only [EntryPaths.place, crowdRoot, flatManifest]
    simp only [show (0 : UInt32).toNat = 0 from rfl, List.getElem?_cons_zero, okOr,
      ok_bind, planListed]
    rfl
  obtain ⟨built, run, rootPlaced, _, taken⟩ : ∃ built, ((names.zipIdx 0).map flatEntry).foldlM
      (EntryPaths.place plan (flatManifest (names ++ [last]))) root = .ok built ∧
        built.paths[0]? = some (stagingRoot plan 0) ∧ _ :=
    place_files names 0 root (by omega) rootPlaced safe distinct fun _ _ => by
      rw [unoccupied]
      exact List.not_mem_nil
  have failed : built.place plan (flatManifest (names ++ [last])) (flatEntry (last, names.length)) =
      .error (.failed .nameExhausted) := by
    have notRoot : UInt32.ofNat (names.length + 1) ≠ 0 := by
      intro same
      have zero := congrArg UInt32.toNat same
      rw [UInt32.toNat_ofNat_of_lt' (by simp only [UInt32.size]; omega)] at zero
      cases zero
    simp only [EntryPaths.place, flatEntry, flatManifest]
    simp only [show (0 : UInt32).toNat = 0 from rfl, List.getElem?_cons_zero, okOr, ok_bind,
      if_neg notRoot, rootPlaced, decide_true, exhausts _ taken, mapErr, error_bind]
  have entries : (flatManifest (names ++ [last])).entries =
      crowdRoot :: ((names.zipIdx 0).map flatEntry ++ [flatEntry (last, names.length)]) := by
    simp only [flatManifest, List.zipIdx_append, List.map_append, List.zipIdx_cons, List.zipIdx_nil,
      List.map_cons, List.map_nil, Nat.zero_add]
  rw [buildEntryPaths, entries, List.foldlM_cons, first, ok_bind, List.foldlM_append, run, ok_bind,
    List.foldlM_cons, failed]
  rfl

end Place

/-! ## The crowd -/

/-- A name of 255 bytes: its fifth and its hundredth suffixed form are itself. -/
def crowdBase : List Char :=
  ['_', ' ', '(', '5', ')', '.'] ++ List.replicate 243 'x' ++ [' ', '(', '1', '0', '0', ')']

def crowdName (suffix : Nat) : String := candidateName (String.ofList crowdBase) true suffix

def crowdSuffixes : List Nat := 0 :: (List.range' 1 9999).filter (· ∉ [5, 100])

/-- A file that is called like the others but for a character that Windows replaces. -/
def intruder : String := String.ofList ('|' :: crowdBase.tail)

def byBytes (left right : String) : Prop := asBytes left ≤ asBytes right

instance : DecidableRel byBytes := fun left right =>
    inferInstanceAs (Decidable (asBytes left ≤ asBytes right))

def crowd : List String := (crowdSuffixes.map crowdName).insertionSort byBytes ++ [intruder]

theorem crowdName_zero : (crowdName 0).toList = crowdBase := String.toList_ofList

theorem crowdName_eq (suffix : Nat) (positive : suffix ≠ 0) :
    (crowdName suffix).toList = suffixed crowdBase suffix true := by
  rw [crowdName, candidateName, if_neg positive, toList_componentWithSuffix, String.toList_ofList]

theorem crowdName_five : crowdName 5 = crowdName 0 := by
  rw [← String.toList_inj, crowdName_eq 5 (by decide), crowdName_zero]
  set_option maxRecDepth 8000 in decide

theorem crowdName_hundred : crowdName 100 = crowdName 0 := by
  rw [← String.toList_inj, crowdName_eq 100 (by decide), crowdName_zero]
  set_option maxRecDepth 8000 in decide

theorem windowsSafe_intruder : windowsSafe intruder.toList = crowdBase := by
  rw [intruder, String.toList_ofList]
  set_option maxRecDepth 8000 in decide

theorem mem_crowdSuffixes {suffix : Nat} :
    suffix ∈ crowdSuffixes ↔ suffix = 0 ∨ 1 ≤ suffix ∧ suffix ≤ 9999 ∧ suffix ≠ 5 ∧
      suffix ≠ 100 := by
  simp only [crowdSuffixes, List.mem_cons, List.mem_filter, List.mem_range'_1, decide_eq_true_eq,
    List.not_mem_nil, or_false, not_or]
  omega

theorem nodup_crowdSuffixes : crowdSuffixes.Nodup := by
  rw [crowdSuffixes, List.nodup_cons]
  exact ⟨by simp, (List.nodup_range' (s := 1) (n := 9999)).filter _⟩

theorem length_crowd : crowd.length ≤ 9999 := by
  have together : ((List.range' 1 9999).filter (· ∉ [5, 100]) ++ [5, 100]).length ≤
      (List.range' 1 9999).length := by
    refine (List.subperm_of_subset ?_ ?_).length_le
    · rw [List.nodup_append]
      refine ⟨(List.nodup_range' (s := 1) (n := 9999)).filter _, by decide, ?_⟩
      rintro suffix kept _ dropped rfl
      exact of_decide_eq_true (List.mem_filter.mp kept).2 dropped
    · intro suffix listed
      rw [List.mem_append] at listed
      obtain kept | dropped := listed
      · exact List.mem_of_mem_filter kept
      · rw [List.mem_range'_1]
        simp only [List.mem_cons, List.not_mem_nil, or_false] at dropped
        omega
  rw [List.length_append, List.length_range'] at together
  rw [crowd, List.length_append, List.length_insertionSort, List.length_map, crowdSuffixes,
    List.length_cons, List.length_singleton]
  simp only [List.length_cons, List.length_nil] at together
  omega

section Crowd

attribute [local instance] asciiLowercase identityNormalization windowsNames

/-- The name begins with an underscore or a space and ends in a parenthesis. -/
theorem crowdName_ends (suffix : Nat) :
    ∃ first ∈ ['_', ' '], ∃ middle, (crowdName suffix).toList = first :: middle ++ [')'] := by
  by_cases zero : suffix = 0
  · subst zero
    refine ⟨'_', by decide, crowdBase.tail.dropLast, ?_⟩
    rw [crowdName_zero]
    set_option maxRecDepth 8000 in decide
  · rw [crowdName_eq suffix zero, suffixed]
    have parts := (suffixParts_spec crowdBase suffix true).1
    generalize suffixParts crowdBase suffix true = split at parts
    -- The front: a part of the stem, which begins as the base does, and the text of the suffix.
    have front : ∃ first ∈ ['_', ' '], ∃ middle,
        takeBytes (255 - (componentBytes (suffixText suffix) + componentBytes split.2)) split.1 ++
          suffixText suffix =
          first :: middle ++ [')'] := by
      generalize 255 - (componentBytes (suffixText suffix) + componentBytes split.2) = room
      cases taken : takeBytes room split.1 with
      | nil => exact ⟨' ', by decide, '(' :: Nat.toDigits 10 suffix, by simp [suffixText]⟩
      | cons first rest =>
        obtain ⟨more, whole⟩ := takeBytes_starts room split.1
        rw [taken] at whole
        have head : crowdBase.head? = some first := by rw [parts, ← whole]; rfl
        have isUnderscore : first = '_' := (Option.some.inj (head.symm.trans (by decide)))
        exact ⟨'_', by decide, rest ++ [' ', '('] ++ Nat.toDigits 10 suffix,
          by simp [suffixText, isUnderscore]⟩
    obtain ⟨first, listed, middle, whole⟩ := front
    rw [whole]
    by_cases empty : split.2 = []
    · exact ⟨first, listed, middle, by rw [empty, List.append_nil]⟩
    · have last : split.2.getLast? = some ')' := by
        have ends : crowdBase.getLast? = some ')' := by decide
        rw [parts, List.getLast?_append_of_ne_nil _ empty] at ends
        exact ends
      obtain ⟨init, isLast⟩ := List.getLast?_eq_some_iff.mp last
      exact ⟨first, listed, middle ++ [')'] ++ init, by simp [isLast]⟩

theorem crowdName_characters (suffix : Nat) :
    ∀ character ∈ (crowdName suffix).toList, character ∉ forbiddenCharacters ∧
      allowed character = true := by
  have base : ∀ character ∈ crowdBase, character ∉ forbiddenCharacters ∧
      allowed character = true := by
    set_option maxRecDepth 8000 in decide
  by_cases zero : suffix = 0
  · subst zero
    rw [crowdName_zero]
    exact base
  · rw [crowdName_eq suffix zero, suffixed]
    have parts := (suffixParts_spec crowdBase suffix true).1
    generalize suffixParts crowdBase suffix true = split at parts
    intro character listed
    rw [List.mem_append, List.mem_append] at listed
    obtain (kept | added) | extended := listed
    · exact base character (parts ▸ List.mem_append_left _ ((takeBytes_starts _ _).subset kept))
    · refine ⟨?_, suffixText_allowed suffix character added⟩
      simp only [suffixText, List.mem_append, List.mem_cons, List.not_mem_nil, or_false] at added
      obtain ((rfl | rfl) | digit) | rfl := added
      · decide
      · decide
      · intro forbidden
        have none : ∀ sign ∈ forbiddenCharacters, sign.isDigit = false := by decide
        have found := Nat.isDigit_of_mem_toDigits (by decide) (by decide) digit
        rw [none character forbidden] at found
        cases found
      · decide
    · exact base character (parts ▸ List.mem_append_right _ extended)

theorem crowdName_safe (suffix : Nat) :
    windowsSafe (crowdName suffix).toList = (crowdName suffix).toList := by
  obtain ⟨first, listed, middle, whole⟩ := crowdName_ends suffix
  refine windowsSafe_eq_self ?_ (fun character found =>
    (crowdName_characters suffix character found).1) ?_ ?_
  · rw [whole]
    simp
  · rw [whole, List.rdropWhile_eq_self_iff]
    intro nonempty
    rw [List.getLast_append_singleton]
    decide
  · have heads : ∀ name ∈ deviceNames, ∀ head ∈ ['_', ' '],
      name.head? ≠ some head.toUpper := by decide
    have noDot : first ≠ '.' := by
      rintro rfl
      exact absurd listed (by decide)
    rw [isDevice, decide_eq_false_iff_not]
    intro device
    refine heads _ device first listed ?_
    rw [whole, stemOf, List.cons_append, List.takeWhile_cons_of_pos (by simpa using noDot)]
    rfl

theorem crowdName_valid {suffix : Nat} (bound : suffix ≤ 9999) :
    SafeComponent (crowdName suffix) := by
  refine validateComponent_eq_ok.mp (valid_of_frameComponentOk ?_ rfl)
  by_cases zero : suffix = 0
  · subst zero
    rw [frameComponentOk_iff, crowdName_zero]
    set_option maxRecDepth 8000 in decide
  · rw [crowdName, candidateName, if_neg zero]
    refine suffixed_ok true bound fun character listed => ?_
    rw [String.toList_ofList, ← crowdName_zero] at listed
    exact (crowdName_characters 0 character listed).2

/-- The intruder is the last of the files. -/
theorem crowdName_before_intruder (suffix : Nat) :
    asBytes (crowdName suffix) < asBytes intruder := by
  obtain ⟨first, listed, middle, whole⟩ := crowdName_ends suffix
  have bytes : asBytes (crowdName suffix) = String.utf8EncodeChar first ++
      (middle ++ [')']).flatMap String.utf8EncodeChar := by
    rw [← String.ofList_toList (s := crowdName suffix), asBytes_ofList, whole]
    rfl
  have last : asBytes intruder = 0x7c :: (crowdBase.tail).flatMap String.utf8EncodeChar := by
    rw [intruder, asBytes_ofList]
    rfl
  rw [bytes, last]
  simp only [List.mem_cons, List.not_mem_nil, or_false] at listed
  obtain rfl | rfl := listed
  · exact List.Lex.rel (by decide)
  · exact List.Lex.rel (by decide)

theorem crowdName_key_inj {first second : Nat} (firstListed : first ∈ crowdSuffixes)
    (secondListed : second ∈ crowdSuffixes)
    (same : windowsNames.nameEquivalenceKey (crowdName first) =
      windowsNames.nameEquivalenceKey (crowdName second)) :
    first = second := by
  obtain ⟨odd, differ⟩ := exists_odd_suffix crowdBase true
  have keys := congrArg String.toList same
  have spelled (suffix : Nat) (positive : suffix ≠ 0) :
      (windowsNames.nameEquivalenceKey (crowdName suffix)).toList =
          lowered (suffixed crowdBase suffix true) := by
    rw [← crowdName_eq suffix positive]
    exact String.toList_ofList
  -- The fifth and the hundredth form coincide, so one of them is the odd one; the other stands for
  -- the base.
  have coincide : lowered (suffixed crowdBase 5 true) = lowered (suffixed crowdBase 100 true) := by
    rw [← crowdName_eq 5 (by decide), ← crowdName_eq 100 (by decide), crowdName_five,
      crowdName_hundred]
  have isOdd : odd = 5 ∨ odd = 100 := by
    by_contra neither
    rw [not_or] at neither
    exact absurd (differ 5 100 (by decide) (by decide) (Ne.symm neither.1)
      (Ne.symm neither.2) coincide) (by decide)
  obtain ⟨stand, standBound, standOther, standSmall, standing⟩ : ∃ stand, stand ≠ 0 ∧ stand ≠ odd ∧
      stand ≤ 9999 ∧ crowdName stand = crowdName 0 ∧ (stand = 5 ∨ stand = 100) := by
    obtain rfl | rfl := isOdd
    · exact ⟨100, by decide, by decide, by decide, crowdName_hundred, .inr rfl⟩
    · exact ⟨5, by decide, by decide, by decide, crowdName_five, .inl rfl⟩
  have represented (suffix : Nat) (listed : suffix ∈ crowdSuffixes) :
      ∃ other, other ≠ odd ∧ other ≤ 9999 ∧
      (windowsNames.nameEquivalenceKey (crowdName suffix)).toList =
        lowered (suffixed crowdBase other true) ∧
      (suffix = 0 ∧ other = stand ∨ suffix ≠ 5 ∧ suffix ≠ 100 ∧ suffix ≠ 0 ∧ other = suffix) := by
    obtain rfl | ⟨positive, bound, notFive, notHundred⟩ := mem_crowdSuffixes.mp listed
    · exact ⟨stand, standOther, standSmall, by rw [← standing.1, spelled stand standBound],
        .inl ⟨rfl, rfl⟩⟩
    · refine ⟨suffix, ?_, bound, spelled suffix (by omega),
        .inr ⟨notFive, notHundred, by omega, rfl⟩⟩
      obtain rfl | rfl := isOdd
      · exact notFive
      · exact notHundred
  obtain ⟨left, leftOther, leftBound, leftKey, leftCase⟩ := represented first firstListed
  obtain ⟨right, rightOther, rightBound, rightKey, rightCase⟩ := represented second secondListed
  rw [leftKey, rightKey] at keys
  have equal := differ left right leftBound rightBound leftOther rightOther keys
  have which := standing.2
  omega

theorem crowd_valid : (flatManifest crowd).validate = .ok () := by
  rw [validate_eq_ok, accepted_iff_canonicalForest]
  have rootSafe : SafeComponent "crowd" := validateComponent_eq_ok.mp (by decide)
  have intruderSafe : SafeComponent intruder := by
    refine validateComponent_eq_ok.mp (valid_of_frameComponentOk ?_ rfl)
    rw [frameComponentOk_iff, intruder, String.toList_ofList]
    set_option maxRecDepth 8000 in decide
  have listed {component : String}
    (member : component ∈ (crowdSuffixes.map crowdName).insertionSort byBytes) :
      ∃ suffix ≤ 9999, component = crowdName suffix := by
    obtain ⟨suffix, known, rfl⟩ := List.mem_map.mp ((List.mem_insertionSort byBytes).mp member)
    obtain rfl | ⟨_, bound, _⟩ := mem_crowdSuffixes.mp known
    · exact ⟨0, by decide, rfl⟩
    · exact ⟨suffix, bound, rfl⟩
  refine flat_canonical length_crowd rootSafe ?_ ?_
  · intro component member
    obtain inside | last := List.mem_append.mp member
    · obtain ⟨suffix, bound, rfl⟩ := listed inside
      exact crowdName_valid bound
    · rw [List.mem_singleton.mp last]
      exact intruderSafe
  · rw [crowd, List.pairwise_append]
    refine ⟨?_, List.pairwise_singleton _ _, ?_⟩
    · have total : Std.Total byBytes := ⟨fun _ _ => Std.le_total⟩
      have transitive : IsTrans String byBytes := ⟨fun _ _ _ => Std.le_trans⟩
      have sorted := List.pairwise_insertionSort byBytes (crowdSuffixes.map crowdName)
      have distinct : (crowdSuffixes.map crowdName).Nodup :=
        List.Nodup.map_on (fun first firstListed second secondListed same =>
          crowdName_key_inj firstListed secondListed (congrArg _ same)) nodup_crowdSuffixes
      have nodup :=
        (List.perm_insertionSort byBytes (crowdSuffixes.map crowdName)).nodup_iff.mpr distinct
      refine (sorted.and nodup).imp fun {left right} ⟨ordered, different⟩ => ?_
      exact Std.lt_of_le_of_ne ordered fun same => different (asBytes_injective same)
    · intro component member last isLast
      obtain ⟨suffix, _, rfl⟩ := listed member
      rw [List.mem_singleton.mp isLast]
      exact crowdName_before_intruder suffix

def crowdPlan : DestinationWritePlanV2 where
  jobId := (flatManifest []).jobId
  generation := 1
  mode := .directSave
  storageDomain :=
    { provider := "local_path", opaqueVolumeId := "64769", stableObjectIdentity := true }
  planRevision := 1
  rootPlans := [⟨0, "crowd"⟩]
  exceptionalTransferApproved := false
  targetDirectory := ["received"]
  stagingDirectory := ["received", ".envoix-staging-v2", "6a6f622d76322d666978747572652121"]
  reservations := [["received", ".envoix-reservations-v2", "0.reservation"]]
  reuseEntryIds := []

/-- Every form of the base is taken by one of the others. -/
theorem crowd_exhausted {occupied : List String}
    (taken : ∀ component ∈ (crowdSuffixes.map crowdName).insertionSort byBytes,
    windowsNames.nameEquivalenceKey component ∈ occupied) :
    allocateInMemoryName (String.ofList crowdBase) true occupied = .error .nameExhausted := by
  obtain ⟨suffix, listed, free, _⟩ | ⟨_, failed⟩ :=
    allocateSuffixes_cases (String.ofList crowdBase) true occupied (List.range 10000)
  · have bound := List.mem_range.mp listed
    have represented : ∃ other ∈ crowdSuffixes, crowdName suffix = crowdName other := by
      by_cases five : suffix = 5
      · exact ⟨0, by simp [crowdSuffixes], by rw [five, crowdName_five]⟩
      · by_cases hundred : suffix = 100
        · exact ⟨0, by simp [crowdSuffixes], by rw [hundred, crowdName_hundred]⟩
        · exact ⟨suffix, mem_crowdSuffixes.mpr (by omega), rfl⟩
    obtain ⟨other, otherListed, same⟩ := represented
    have member :=
      (List.mem_insertionSort byBytes).mpr (List.mem_map_of_mem (f := crowdName) otherListed)
    have here := taken _ member
    rw [← same] at here
    exact absurd here free
  · exact failed

theorem crowd_fails :
    buildEntryPaths crowdPlan (flatManifest crowd) = .error (.failed .nameExhausted) := by
  have known {component : String}
    (member : component ∈ (crowdSuffixes.map crowdName).insertionSort byBytes) :
      ∃ suffix ∈ crowdSuffixes, crowdName suffix = component :=
    List.mem_map.mp ((List.mem_insertionSort byBytes).mp member)
  have permuted :=
    (List.perm_insertionSort byBytes (crowdSuffixes.map crowdName)).map
      windowsNames.nameEquivalenceKey
  rw [crowd]
  refine last_file_fails rfl ?_ ?_ ?_ ?_
  · have whole := length_crowd
    rwa [crowd, List.length_append, List.length_singleton] at whole
  · intro component member
    obtain ⟨suffix, _, rfl⟩ := known member
    exact crowdName_safe suffix
  · rw [permuted.nodup_iff, List.map_map]
    exact List.Nodup.map_on (fun first firstListed second secondListed same =>
      crowdName_key_inj firstListed secondListed same) nodup_crowdSuffixes
  · intro occupied taken
    have spelled : (windowsNames.providerSafeComponent intruder).toList = crowdBase := by
      calc (windowsNames.providerSafeComponent intruder).toList
        _ = windowsSafe intruder.toList := String.toList_ofList
        _ = crowdBase := windowsSafe_intruder
    rw [show windowsNames.providerSafeComponent intruder = String.ofList crowdBase by
      rw [← spelled, String.ofList_toList]]
    exact crowd_exhausted taken

/-- On Windows the names run out for a valid manifest with a plan that fits it. -/
theorem crowded_directory_exhausts_names :
    ¬ ∀ [Lowercase] [UnicodeNormalization] (rules : NameRules) (plan : DestinationWritePlanV2)
      (manifest : ManifestV2),
      manifest.validate = .ok () → @DestinationWritePlanV2.validateShape rules.names plan = .ok () →
      plan.rootPlans.length = manifest.roots.length →
      @buildEntryPaths rules.names plan manifest ≠ .error (.failed .nameExhausted) := by
  intro never
  have shape : @DestinationWritePlanV2.validateShape windowsNames crowdPlan = .ok () := by decide
  exact never .windows crowdPlan (flatManifest crowd) crowd_valid shape rfl crowd_fails

end Crowd

end Envoix.Transfer
