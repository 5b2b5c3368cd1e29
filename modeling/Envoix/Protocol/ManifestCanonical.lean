import Envoix.Protocol.ManifestScan

/-! # Validation accepts exactly the canonical forests

`validate` never builds the forest.  It scans the entries once, then compares one traversal per
root with the positions of the list.  The positions decide everything: a root that points into
another subtree is visited twice, an entry no root reaches leaves the order short.
-/

namespace Envoix.Protocol

open ByteCodec Fallible Traversal

/-! ## Sorted siblings -/

theorem nodup_childPositions (entries : List ManifestEntryV2) (parent : Nat) :
    (childPositions entries parent).Nodup := by
  unfold childPositions
  have positions : (entries.zipIdx.map Prod.snd).Nodup := by
    rw [List.zipIdx_map_snd]
    exact List.nodup_range'
  exact positions.sublist (List.filter_sublist.map Prod.snd)

theorem SiblingOrder.unique {manifest : ManifestV2} {parent : Nat} {left right : List Nat}
    (leftOrder : SiblingOrder manifest parent left)
    (rightOrder : SiblingOrder manifest parent right) :
    left = right := by
  let before : Nat → Nat →
    Prop := fun left right => manifest.componentKey left < manifest.componentKey right
  have irrefl : Std.Irrefl before := ⟨fun _ => Std.lt_irrefl⟩
  have antisymm : Std.Antisymm before :=
    ⟨fun _ _ less greater => absurd greater (Std.not_gt_of_lt less)⟩
  apply List.Pairwise.eq_of_mem_iff (r := before) leftOrder.1 rightOrder.1
  intro index
  rw [leftOrder.2, rightOrder.2]

/-- The sort the traversal applies yields the sibling order. -/
theorem siblingOrder_sortedChildren {manifest : ManifestV2} {parent : Nat}
    (distinct : DistinctSiblings manifest) (bound : parent < manifest.entries.length) :
    SiblingOrder manifest parent
      (sortedChildren manifest
        ((List.range manifest.entries.length).map (childPositions manifest.entries))
        parent) := by
  let notAfter : Nat → Nat →
    Prop := fun left right => manifest.componentKey left ≤ manifest.componentKey right
  have total : Std.Total notAfter := ⟨fun _ _ => Std.le_total⟩
  have transitive : IsTrans Nat notAfter := ⟨fun _ _ _ => Std.le_trans⟩
  have children :
      ((List.range manifest.entries.length).map (childPositions manifest.entries)).getD parent [] =
      childPositions manifest.entries parent := by
    simp [List.getD_eq_getElem?_getD, bound]
  have permutation := List.perm_insertionSort notAfter (childPositions manifest.entries parent)
  have sorted := List.pairwise_insertionSort notAfter (childPositions manifest.entries parent)
  have nodup := permutation.nodup_iff.mpr (nodup_childPositions manifest.entries parent)
  unfold sortedChildren
  rw [children]
  refine ⟨(sorted.and nodup).imp_of_mem ?_, fun index => ?_⟩
  · intro left right leftMember rightMember ⟨ordered, different⟩
    rw [permutation.mem_iff, mem_childPositions] at leftMember rightMember
    obtain ⟨leftEntry, leftParent, leftFound, leftBelow, leftHere⟩ := leftMember
    obtain ⟨rightEntry, rightParent, rightFound, rightBelow, rightHere⟩ := rightMember
    have sameParent : leftParent = rightParent :=
      UInt32.toNat_inj.mp (leftHere.trans rightHere.symm)
    refine Std.lt_of_le_of_ne ordered (fun sameKey => different ?_)
    simp only [ManifestV2.componentKey, leftFound, rightFound] at sameKey
    exact distinct left right leftEntry rightEntry leftParent leftFound rightFound leftBelow
      (sameParent ▸ rightBelow) (asBytes_injective sameKey)
  · rw [permutation.mem_iff, mem_childPositions]

/-! ## From the traversal to the preorder -/

/-- A sibling list holds entries of the list only. -/
theorem SiblingOrder.lt_length {manifest : ManifestV2} {parent index : Nat} {siblings : List Nat}
    (siblingOrder : SiblingOrder manifest parent siblings) (member : index ∈ siblings) :
    index < manifest.entries.length := by
  obtain ⟨_, _, found, _⟩ := (siblingOrder.2 index).mp member
  exact (List.getElem?_eq_some_iff.mp found).1

theorem exists_preorder {manifest : ManifestV2} (distinct : DistinctSiblings manifest)
    (parentsFirst : ParentsFirst manifest) {positions : List Nat}
    (bound : ∀ position ∈ positions, position < manifest.entries.length) :
    ∃ order, Preorder (SiblingOrder manifest) positions order := by
  refine @Preorder.exists_of_measure _ _ manifest.entries.length id
    (fun position => position < manifest.entries.length) (fun node nodeBound => ?_) positions bound
  refine ⟨_, siblingOrder_sortedChildren distinct nodeBound, fun child member => ?_⟩
  have order := siblingOrder_sortedChildren distinct nodeBound
  obtain ⟨entry, parentId, found, parent, here⟩ := (order.2 child).mp member
  have first := parentsFirst child entry parentId found parent
  exact ⟨order.lt_length member, by simp only [id]; omega, order.lt_length member⟩

theorem positions_lt_length {manifest : ManifestV2} {positions order : List Nat}
    (preorder : Preorder (SiblingOrder manifest) positions order)
    (bound : ∀ position ∈ positions, position < manifest.entries.length) :
    ∀ position ∈ order, position < manifest.entries.length :=
  preorder.forall_mem bound (fun _ _ _ siblingOrder _ member => siblingOrder.lt_length member)

/-- What the loop emits for some of the roots: each root's preorder, cut off after one position
more than there are entries. -/
theorem exists_cut_orders {manifest : ManifestV2} (distinct : DistinctSiblings manifest)
    (parentsFirst : ParentsFirst manifest) {roots : List ManifestRootV2}
    (bound : ∀ root ∈ roots, root.rootEntryId.toNat < manifest.entries.length) :
    ∃ orders : List (List Nat),
      Preorder (SiblingOrder manifest)
      (roots.map (fun root => root.rootEntryId.toNat)) orders.flatten ∧
      roots.flatMap (fun root => visit
        (sortedChildren manifest
          ((List.range manifest.entries.length).map (childPositions manifest.entries)))
        (manifest.entries.length + 1) [root.rootEntryId.toNat]) =
        orders.flatMap (List.take (manifest.entries.length + 1)) := by
  induction roots with
  | nil => exact ⟨[], .nil, rfl⟩
  | cons root roots inductionHypothesis =>
    have rootBound := bound root List.mem_cons_self
    obtain ⟨orders, preorder, visited⟩ := inductionHypothesis
      (fun other member => bound other (List.mem_cons_of_mem _ member))
    have single : ∀ position ∈ [root.rootEntryId.toNat], position < manifest.entries.length := by
      simpa using rootBound
    obtain ⟨order, rootOrder⟩ := exists_preorder distinct parentsFirst single
    refine ⟨order :: orders, rootOrder.append preorder, ?_⟩
    rw [List.flatMap_cons, List.flatMap_cons, visited, visit_eq_take rootOrder]
    intro node member below siblingOrder
    have nodeBound := positions_lt_length rootOrder single node member
    exact (siblingOrder_sortedChildren distinct nodeBound).unique siblingOrder

theorem flatMap_take_eq_flatten {orders : List (List Nat)} {fuel : Nat}
    (enough : ∀ order ∈ orders, order.length ≤ fuel) :
      orders.flatMap (List.take fuel) = orders.flatten := by
  induction orders with
  | nil => rfl
  | cons order orders inductionHypothesis =>
    rw [List.flatMap_cons, List.flatten_cons,
      List.take_of_length_le (enough order List.mem_cons_self),
      inductionHypothesis (fun other member => enough other (List.mem_cons_of_mem _ member))]

/-- The traversal lists the first positions exactly when these are a preorder of the forest. -/
theorem traversal_eq_range {manifest : ManifestV2} (distinct : DistinctSiblings manifest)
    (parentsFirst : ParentsFirst manifest)
    (bound : ∀ root ∈ manifest.roots, root.rootEntryId.toNat < manifest.entries.length) :
    traversal manifest = List.range (traversal manifest).length ↔
      ∃ count, Preorder (SiblingOrder manifest)
        (manifest.roots.map (fun root => root.rootEntryId.toNat)) (List.range count) := by
  obtain ⟨orders, preorder, visited⟩ := exists_cut_orders distinct parentsFirst bound
  change traversal manifest = _ at visited
  have positionBound : ∀ position ∈ orders.flatten, position < manifest.entries.length :=
    positions_lt_length preorder (by simpa using bound)
  rw [visited]
  constructor
  · intro positional
    have short : (orders.flatMap (List.take (manifest.entries.length + 1))).length ≤
        manifest.entries.length := by
      by_contra long
      rw [not_le, ← List.mem_range, ← positional, List.mem_flatMap] at long
      obtain ⟨order, member, position⟩ := long
      exact Nat.lt_irrefl _
        (positionBound _ (List.mem_flatten.mpr ⟨order, member, List.mem_of_mem_take position⟩))
    have enough : ∀ order ∈ orders, order.length ≤ manifest.entries.length + 1 := by
      intro order member
      have piece := (List.sublist_flatten_of_mem
        (List.mem_map_of_mem (f := List.take (manifest.entries.length + 1)) member)).length_le
      rw [← List.flatMap_def, List.length_take] at piece
      omega
    rw [flatMap_take_eq_flatten enough] at positional
    exact ⟨_, positional ▸ preorder⟩
  · intro ⟨count, positional⟩
    have same : orders.flatten = List.range count :=
      preorder.unique (fun _ _ _ left right => left.unique right) positional
    have enough : ∀ order ∈ orders, order.length ≤ manifest.entries.length + 1 := by
      intro order member
      have piece := (List.sublist_flatten_of_mem member).length_le
      rw [same, List.length_range] at piece
      have countBound : count ≤ manifest.entries.length := by
        by_contra more
        have last := positionBound manifest.entries.length (by rw [same, List.mem_range]; omega)
        omega
      omega
    rw [flatMap_take_eq_flatten enough, same, List.length_range]

/-! ## Acceptance implies canonicity -/

section Sound

variable [UnicodeNormalization] {manifest : ManifestV2}

theorem Accepted.entryOk (accepted : Accepted manifest) {index : Nat} {entry : ManifestEntryV2}
    (found : manifest.entries[index]? = some entry) :
    ∃ before after, manifest.entries = before ++ entry :: after ∧ before.length = index ∧
      EntryOk manifest before entry := by
  obtain ⟨before, after, position, length⟩ := exists_split_of_getElem found
  exact ⟨before, after, position, length, accepted.entries before entry after position⟩

theorem Accepted.rootOk (accepted : Accepted manifest) {index : Nat} {root : ManifestRootV2}
    (found : manifest.roots[index]? = some root) : RootOk manifest.entries.length index root := by
  have rootOk := each_iff_getElem.mp accepted.roots index root found
  rwa [Nat.zero_add] at rootOk

theorem Accepted.rootIds (accepted : Accepted manifest) (index : Nat) (root : ManifestRootV2)
    (found : manifest.roots[index]? = some root) : root.rootId.toNat = index :=
  (accepted.rootOk found).rootId

theorem Accepted.parent (accepted : Accepted manifest) {index : Nat} {entry : ManifestEntryV2}
    {parentId : UInt32} (found : manifest.entries[index]? = some entry)
    (parent : entry.parentEntryId = some parentId) :
    parentId.toNat < index ∧ ∃ parentEntry, manifest.entries[parentId.toNat]? = some parentEntry ∧
      parentEntry.rootId = entry.rootId ∧ parentEntry.kind = .directory := by
  obtain ⟨before, after, position, length, entryOk⟩ := accepted.entryOk found
  obtain ⟨root, _, placed⟩ := entryOk.placed
  simp only [Placed, parent] at placed
  obtain ⟨parentEntry, parentFound, sameRoot, directory⟩ := placed
  obtain ⟨early, _⟩ := List.getElem?_eq_some_iff.mp parentFound
  refine ⟨by omega, parentEntry, ?_, sameRoot, directory⟩
  rw [position, List.getElem?_append_left early, parentFound]

theorem Accepted.parentsFirst (accepted : Accepted manifest) : ParentsFirst manifest :=
  fun _ _ _ found parent => (accepted.parent found parent).1

theorem Accepted.siblings (accepted : Accepted manifest) (left right : Nat)
    (leftEntry rightEntry : ManifestEntryV2) (leftFound : manifest.entries[left]? = some leftEntry)
    (rightFound : manifest.entries[right]? = some rightEntry)
    (sameRoot : leftEntry.rootId = rightEntry.rootId)
    (sameParent : leftEntry.parentEntryId = rightEntry.parentEntryId)
    (sameName : leftEntry.component = rightEntry.component) : left = right := by
  have sameKey : siblingKey leftEntry = siblingKey rightEntry := by
    simp [siblingKey, sameRoot, sameParent, sameName]
  -- The later of the two is checked against the earlier one.
  have noEarlier : ∀ (early late : Nat) (earlyEntry lateEntry : ManifestEntryV2),
      manifest.entries[early]? = some earlyEntry → manifest.entries[late]? = some lateEntry →
      siblingKey earlyEntry = siblingKey lateEntry → ¬ early < late := by
    intro early late earlyEntry lateEntry earlyFound lateFound same less
    obtain ⟨before, after, position, length, entryOk⟩ := accepted.entryOk lateFound
    rw [position, List.getElem?_append_left (by omega)] at earlyFound
    exact entryOk.siblings (same ▸ List.mem_map_of_mem (List.mem_of_getElem? earlyFound))
  have notLess := noEarlier left right leftEntry rightEntry leftFound rightFound sameKey
  have notGreater := noEarlier right left rightEntry leftEntry rightFound leftFound sameKey.symm
  omega

theorem Accepted.parents (accepted : Accepted manifest) :
    ∀ entry ∈ manifest.entries, ∀ parentId, entry.parentEntryId = some parentId →
      ∃ parent, manifest.entries[parentId.toNat]? = some parent ∧
        parent.rootId = entry.rootId ∧ parent.kind = .directory := by
  intro entry member parentId parent
  obtain ⟨index, found⟩ := List.getElem?_of_mem member
  exact (accepted.parent found parent).2

theorem Accepted.rootBound (accepted : Accepted manifest) :
    ∀ root ∈ manifest.roots, root.rootEntryId.toNat < manifest.entries.length := by
  intro root member
  obtain ⟨index, found⟩ := List.getElem?_of_mem member
  exact (accepted.rootOk found).rootEntryId

/-- The root record of a parentless entry points back at it. -/
theorem Accepted.parentless (accepted : Accepted manifest) {index : Nat} {entry : ManifestEntryV2}
    (found : manifest.entries[index]? = some entry) (parentless : entry.parentEntryId = none) :
    ∃ root, manifest.roots[entry.rootId.toNat]? = some root ∧ root.rootId = entry.rootId ∧
      root.rootEntryId.toNat = index ∧ root.requestedName = entry.component := by
  obtain ⟨before, after, position, length, entryOk⟩ := accepted.entryOk found
  obtain ⟨root, rootFound, placed⟩ := entryOk.placed
  simp only [Placed, parentless] at placed
  refine ⟨root, rootFound, ?_, ?_, placed.2⟩
  · exact UInt32.toNat_inj.mp (accepted.rootIds _ root rootFound)
  · rw [placed.1, entryOk.entryId, length]

theorem Accepted.preorder (accepted : Accepted manifest) :
    ∃ count, Preorder (SiblingOrder manifest)
      (manifest.roots.map (fun root => root.rootEntryId.toNat)) (List.range count) :=
  (traversal_eq_range (distinctSiblings_of_keys accepted.parents accepted.siblings)
    accepted.parentsFirst
    accepted.rootBound).mp accepted.order

/-- A root record cannot point into another subtree: the traversal of an earlier root has
already visited every child of what it visited, so the position would come twice. -/
theorem Accepted.rootEntry_parentless (accepted : Accepted manifest) {root : ManifestRootV2}
    (member : root ∈ manifest.roots) {entry : ManifestEntryV2}
    (found : manifest.entries[root.rootEntryId.toNat]? = some entry) :
    entry.parentEntryId = none := by
  obtain ⟨count, preorder⟩ := accepted.preorder
  obtain ⟨left, right, split⟩ := List.append_of_mem member
  rw [split, List.map_append] at preorder
  obtain ⟨leftOrder, rightOrder, order, leftPreorder, rightPreorder⟩ := preorder.append_inv
  cases rightPreorder with
  | @cons _ below _ inner outer _ _ _ =>
    have position : leftOrder.length = root.rootEntryId.toNat := by
      have here : (List.range count)[leftOrder.length]? = some root.rootEntryId.toNat := by
        rw [order, List.getElem?_append_right (Nat.le_refl _)]
        simp
      obtain ⟨_, value⟩ := List.getElem?_eq_some_iff.mp here
      simpa using value
    have leftRange : leftOrder = List.range root.rootEntryId.toNat := by
      have prefixed : leftOrder = (List.range count).take leftOrder.length := by rw [order]; simp
      have shorter : root.rootEntryId.toNat ≤ count := by
        have := congrArg List.length order
        simp only [List.length_range, List.length_append, List.length_cons] at this
        omega
      rw [prefixed, position, List.take_range, Nat.min_eq_left shorter]
    cases parent : entry.parentEntryId with
    | none => rfl
    | some parentId =>
      have early := accepted.parentsFirst _ entry parentId found parent
      have visited : parentId.toNat ∈ leftOrder := by rw [leftRange]; exact List.mem_range.mpr early
      obtain ⟨siblings, before, after, siblingOrder, split', included⟩ :=
        leftPreorder.child_after visited
      have again : root.rootEntryId.toNat ∈ leftOrder := by
        rw [split']
        exact List.mem_append_right _ (List.mem_cons_of_mem _
          (included ((siblingOrder.2 _).mpr ⟨entry, parentId, found, parent, rfl⟩)))
      rw [leftRange] at again
      exact absurd (List.mem_range.mp again) (Nat.lt_irrefl _)

theorem Accepted.rootEntry (accepted : Accepted manifest) {root : ManifestRootV2}
    (member : root ∈ manifest.roots) :
    ∃ entry, manifest.entries[root.rootEntryId.toNat]? = some entry ∧ entry.rootId = root.rootId ∧
      entry.parentEntryId = none := by
  have bound := accepted.rootBound root member
  have found : manifest.entries[root.rootEntryId.toNat]? =
    some manifest.entries[root.rootEntryId.toNat] :=
    List.getElem?_eq_getElem bound
  have parentless := accepted.rootEntry_parentless member found
  refine ⟨_, found, ?_, parentless⟩
  obtain ⟨owner, ownerFound, ownerId, points, _⟩ := accepted.parentless found parentless
  have samePointer : owner.rootEntryId = root.rootEntryId := UInt32.toNat_inj.mp points
  have sameRoot : owner = root :=
    List.inj_on_of_nodup_map accepted.distinct (List.mem_of_getElem? ownerFound) member samePointer
  rw [← ownerId, sameRoot]

theorem Accepted.pathFrom (accepted : Accepted manifest) (index : Nat)
    (bound : index < manifest.entries.length) :
    ∃ root ∈ manifest.roots, ∃ path, PathFrom manifest root index path := by
  -- Parents precede their children, so strong induction on the position follows the links up.
  induction index using Nat.strongRecOn with
  | ind index inductionHypothesis =>
    have found : manifest.entries[index]? = some manifest.entries[index] :=
      List.getElem?_eq_getElem bound
    cases parent : manifest.entries[index].parentEntryId with
    | none =>
      obtain ⟨root, rootFound, sameRoot, points, _⟩ := accepted.parentless found parent
      subst points
      exact ⟨root, List.mem_of_getElem? rootFound, [], .root found sameRoot.symm parent⟩
    | some parentId =>
      obtain ⟨early, parentEntry, parentFound, sameRoot, _⟩ := accepted.parent found parent
      obtain ⟨root, member, path, parentPath⟩ := inductionHypothesis parentId.toNat early (by omega)
      obtain ⟨parentEntry', parentFound', ownRoot, _⟩ := parentPath.exists_entry
      rw [parentFound] at parentFound'
      cases parentFound'
      exact ⟨root, member, _, .child found (sameRoot.symm.trans ownRoot) parent parentPath⟩

theorem Accepted.order_complete (accepted : Accepted manifest) :
    Preorder (SiblingOrder manifest) (manifest.roots.map (fun root => root.rootEntryId.toNat))
      (List.range manifest.entries.length) := by
  obtain ⟨count, preorder⟩ := accepted.preorder
  have inBounds := positions_lt_length preorder (by simpa using accepted.rootBound)
  have covered : ∀ root ∈ manifest.roots, ∀ index path, PathFrom manifest root index path →
      index ∈ List.range count := by
    intro root member index path pathFrom
    induction pathFrom with
    | root => exact preorder.roots_subset (List.mem_map_of_mem member)
    | @child index entry parentId _ found _ parent _ inductionHypothesis =>
      obtain ⟨siblings, before, after, siblingOrder, split, included⟩ :=
        preorder.child_after inductionHypothesis
      rw [split]
      exact List.mem_append_right _ (List.mem_cons_of_mem _
        (included ((siblingOrder.2 _).mpr ⟨entry, parentId, found, parent, rfl⟩)))
  have everything : count = manifest.entries.length := by
    apply Nat.le_antisymm
    · by_contra more
      have last := inBounds manifest.entries.length (List.mem_range.mpr (by omega))
      omega
    · by_contra less
      obtain ⟨root, member, path, pathFrom⟩ := accepted.pathFrom count (by omega)
      have := List.mem_range.mp (covered root member count path pathFrom)
      omega
  rw [everything] at preorder
  exact preorder

omit [UnicodeNormalization] in
theorem hasEmptyPartialFact_eq_false {completeness : SourceCompletenessV2} :
    hasEmptyPartialFact completeness = false ↔
      ∀ boundaries omitted, completeness = .userApprovedPartial boundaries omitted →
        boundaries ≠ 0 := by
  cases completeness with
  | complete => simp [hasEmptyPartialFact]
  | userApprovedPartial boundaries omitted =>
    by_cases zero : boundaries = 0
    · subst zero
      simp [hasEmptyPartialFact]
    · have unmatched : hasEmptyPartialFact (.userApprovedPartial boundaries omitted) = false := by
        unfold hasEmptyPartialFact
        split
        next matched => simp_all
        next => rfl
      simp [unmatched, zero]

theorem canonicalForest_of_accepted (accepted : Accepted manifest) : CanonicalForest manifest where
  jobId := accepted.jobId
  generation := accepted.generation
  selectionRevision := accepted.selectionRevision
  rootCount := accepted.rootCount
  entryCount := accepted.entryCount
  rootIds := accepted.rootIds
  entryIds := by
    intro index entry found
    obtain ⟨before, _, _, length, entryOk⟩ := accepted.entryOk found
    exact entryOk.entryId.trans length
  rootNames := by
    intro root member
    obtain ⟨index, found⟩ := List.getElem?_of_mem member
    exact (accepted.rootOk found).name
  entryNames := by
    intro entry member
    obtain ⟨index, found⟩ := List.getElem?_of_mem member
    obtain ⟨_, _, _, _, entryOk⟩ := accepted.entryOk found
    exact entryOk.name
  partialRoots := by
    intro root member
    obtain ⟨index, found⟩ := List.getElem?_of_mem member
    exact hasEmptyPartialFact_eq_false.mp (accepted.rootOk found).partialFact
  reachable := by
    intro index bound
    obtain ⟨root, member, path, pathFrom⟩ := accepted.pathFrom index bound
    refine ⟨root, ⟨member, path, pathFrom⟩, fun other ⟨otherMember, _, otherPath⟩ => ?_⟩
    obtain ⟨entry, found, sameRoot, _⟩ := pathFrom.exists_entry
    obtain ⟨entry', found', otherRoot, _⟩ := otherPath.exists_entry
    rw [found] at found'
    cases found'
    exact root_unique accepted.rootIds otherMember member (otherRoot.symm.trans sameRoot)
  parents := accepted.parents
  rootEntries := by
    intro root member
    obtain ⟨entry, found, sameRoot, parentless⟩ := accepted.rootEntry member
    refine ⟨entry, ⟨List.mem_of_getElem? found, sameRoot, parentless⟩,
      fun other ⟨otherMember, otherRoot, otherParentless⟩ => ?_⟩
    obtain ⟨index, otherFound⟩ := List.getElem?_of_mem otherMember
    obtain ⟨owner, ownerFound, ownerId, points, _⟩ := accepted.parentless otherFound otherParentless
    have sameOwner : owner = root :=
      root_unique accepted.rootIds (List.mem_of_getElem? ownerFound) member
        (ownerId.trans otherRoot)
    rw [sameOwner] at points
    rw [points, otherFound] at found
    exact Option.some.inj found
  rootEntryNames := by
    intro root member entry entryMember sameRoot parentless
    obtain ⟨index, found⟩ := List.getElem?_of_mem entryMember
    obtain ⟨owner, ownerFound, ownerId, _, name⟩ := accepted.parentless found parentless
    have sameOwner : owner = root :=
      root_unique accepted.rootIds (List.mem_of_getElem? ownerFound) member (ownerId.trans sameRoot)
    rw [← name, sameOwner]
  siblings := accepted.siblings
  paths := by
    intro root member index path pathFrom
    have computed := pathFrom.wirePaths_eq accepted.parentsFirst
    obtain ⟨entry, found, _, _⟩ := pathFrom.exists_entry
    obtain ⟨before, after, position, length, entryOk⟩ := accepted.entryOk found
    rw [position, ← length, wirePaths_split, Option.some.injEq] at computed
    rw [← computed]
    exact ⟨entryOk.depth, entryOk.pathBytes⟩
  directories := by
    intro entry member
    obtain ⟨index, found⟩ := List.getElem?_of_mem member
    obtain ⟨_, _, _, _, entryOk⟩ := accepted.entryOk found
    exact entryOk.directory
  files := accepted.files
  directoryCount := accepted.directoryCount
  bytes := accepted.bytes
  order := accepted.order_complete

end Sound

/-! ## Canonicity implies acceptance -/

section Complete

variable [UnicodeNormalization] {manifest : ManifestV2}

theorem CanonicalForest.parentsFirst (forest : CanonicalForest manifest) :
    ParentsFirst manifest := by
  intro index entry parentId found parent
  obtain ⟨parentEntry, parentFound, _⟩ :=
    forest.parents entry (List.mem_of_getElem? found) parentId parent
  obtain ⟨parentBound, _⟩ := List.getElem?_eq_some_iff.mp parentFound
  obtain ⟨siblings, before, after, siblingOrder, split, included⟩ :=
    forest.order.child_after (List.mem_range.mpr parentBound)
  have later : index ∈ after :=
    included ((siblingOrder.2 index).mpr ⟨entry, parentId, found, parent, rfl⟩)
  have increasing := @List.pairwise_lt_range manifest.entries.length
  rw [split, List.pairwise_append] at increasing
  exact (List.pairwise_cons.mp increasing.2.1).1 index later

/-- The root of an entry, at the position its id names. -/
theorem CanonicalForest.owner (forest : CanonicalForest manifest) {index : Nat}
    {entry : ManifestEntryV2} (found : manifest.entries[index]? = some entry) :
    ∃ root path, manifest.roots[entry.rootId.toNat]? = some root ∧ root.rootId = entry.rootId ∧
      PathFrom manifest root index path ∧
      (entry.parentEntryId = none → root.rootEntryId.toNat = index) := by
  obtain ⟨bound, _⟩ := List.getElem?_eq_some_iff.mp found
  obtain ⟨root, ⟨member, path, pathFrom⟩, _⟩ := forest.reachable index bound
  obtain ⟨entry', found', sameRoot, atRoot⟩ := pathFrom.exists_entry
  rw [found] at found'
  cases found'
  obtain ⟨rootIndex, rootFound⟩ := List.getElem?_of_mem member
  refine ⟨root, path, ?_, sameRoot.symm, pathFrom, fun parentless => (atRoot parentless).symm⟩
  rw [sameRoot, forest.rootIds rootIndex root rootFound, rootFound]

/-- Every root record points at its parentless entry. -/
theorem CanonicalForest.rootEntry (forest : CanonicalForest manifest) {root : ManifestRootV2}
    (member : root ∈ manifest.roots) :
    ∃ entry, manifest.entries[root.rootEntryId.toNat]? = some entry ∧
      entry.rootId = root.rootId := by
  obtain ⟨entry, ⟨entryMember, sameRoot, parentless⟩, _⟩ := forest.rootEntries root member
  obtain ⟨index, found⟩ := List.getElem?_of_mem entryMember
  obtain ⟨owner, _, ownerFound, ownerId, _, points⟩ := forest.owner found
  have sameOwner : owner = root :=
    root_unique forest.rootIds (List.mem_of_getElem? ownerFound) member (ownerId.trans sameRoot)
  have here := points parentless
  rw [sameOwner] at here
  exact ⟨entry, by rw [here, found], sameRoot⟩

theorem CanonicalForest.rootBound (forest : CanonicalForest manifest) :
    ∀ root ∈ manifest.roots, root.rootEntryId.toNat < manifest.entries.length := by
  intro root member
  obtain ⟨entry, found, _⟩ := forest.rootEntry member
  exact (List.getElem?_eq_some_iff.mp found).1

omit [UnicodeNormalization] in
theorem byteTotal_append (left right : List ManifestEntryV2) :
    byteTotal (left ++ right) = byteTotal left + byteTotal right := by
  simp [byteTotal]

theorem CanonicalForest.entryOk (forest : CanonicalForest manifest)
    {before after : List ManifestEntryV2} {entry : ManifestEntryV2}
    (position : manifest.entries = before ++ entry :: after) :
    EntryOk manifest before entry := by
  have found : manifest.entries[before.length]? = some entry := by simp [position]
  have member := List.mem_of_getElem? found
  obtain ⟨root, path, rootFound, sameRoot, pathFrom, points⟩ := forest.owner found
  have rootMember := List.mem_of_getElem? rootFound
  have computed := pathFrom.wirePaths_eq forest.parentsFirst
  rw [position, wirePaths_split, Option.some.injEq] at computed
  have limits := forest.paths root rootMember before.length path pathFrom
  refine {
    entryId := forest.entryIds before.length entry found
    name := forest.entryNames entry member
    placed := ⟨root, rootFound, ?_⟩
    depth := computed ▸ limits.1
    pathBytes := computed ▸ limits.2
    siblings := ?_
    directory := forest.directories entry member
    bytes := ?_ }
  · cases parent : entry.parentEntryId with
    | none =>
      simp only [Placed, parent]
      refine ⟨UInt32.toNat_inj.mp ?_,
        (forest.rootEntryNames root rootMember entry member sameRoot.symm parent).symm⟩
      rw [points parent, forest.entryIds before.length entry found]
    | some parentId =>
      obtain ⟨parentEntry, parentFound, sameRoot', directory⟩ :=
        forest.parents entry member parentId parent
      have early := forest.parentsFirst before.length entry parentId found parent
      rw [position, List.getElem?_append_left early] at parentFound
      simp only [Placed, parent]
      exact ⟨parentEntry, parentFound, sameRoot', directory⟩
  · intro duplicate
    obtain ⟨other, otherMember, sameKey⟩ := List.mem_map.mp duplicate
    obtain ⟨index, otherFound⟩ := List.getElem?_of_mem otherMember
    obtain ⟨early, _⟩ := List.getElem?_eq_some_iff.mp otherFound
    have wide : manifest.entries[index]? = some other := by
      rw [position, List.getElem?_append_left early, otherFound]
    simp only [siblingKey, Prod.mk.injEq] at sameKey
    have same :=
      forest.siblings index before.length other entry wide found sameKey.1 sameKey.2.1 sameKey.2.2
    omega
  · have whole := forest.bytes
    have fits := manifest.totals.totalPlaintextBytes.toNat_lt
    rw [position, List.append_cons, byteTotal_append] at whole
    omega

theorem accepted_of_canonicalForest (forest : CanonicalForest manifest) : Accepted manifest where
  jobId := forest.jobId
  generation := forest.generation
  selectionRevision := forest.selectionRevision
  rootCount := forest.rootCount
  entryCount := forest.entryCount
  roots := by
    rw [each_iff_getElem]
    intro index root found
    have member := List.mem_of_getElem? found
    rw [Nat.zero_add]
    exact ⟨forest.rootIds index root found, forest.rootBound root member,
      forest.rootNames root member,
      hasEmptyPartialFact_eq_false.mpr (forest.partialRoots root member)⟩
  entries := fun _ _ _ position => forest.entryOk position
  distinct := by
    rw [List.nodup_iff_getElem?_ne_getElem?]
    intro left right less bound same
    rw [List.length_map] at bound
    simp only [List.getElem?_map, List.getElem?_eq_getElem bound,
      List.getElem?_eq_getElem (Nat.lt_trans less bound), Option.map_some, Option.some.injEq]
        at same
    obtain ⟨entry, found, leftRoot⟩ := forest.rootEntry (List.getElem_mem (Nat.lt_trans less bound))
    obtain ⟨entry', found', rightRoot⟩ := forest.rootEntry (List.getElem_mem bound)
    rw [← same, found] at found'
    cases found'
    have leftId := forest.rootIds left _ (List.getElem?_eq_getElem (Nat.lt_trans less bound))
    have rightId := forest.rootIds right _ (List.getElem?_eq_getElem bound)
    rw [← leftRoot] at leftId
    rw [← rightRoot] at rightId
    omega
  order :=
    (traversal_eq_range (distinctSiblings_of_keys forest.parents forest.siblings)
      forest.parentsFirst
    forest.rootBound).mpr ⟨_, forest.order⟩
  files := forest.files
  directoryCount := forest.directoryCount
  bytes := forest.bytes

theorem accepted_iff_canonicalForest : Accepted manifest ↔ CanonicalForest manifest :=
  ⟨canonicalForest_of_accepted, accepted_of_canonicalForest⟩

/-- Manifest validation accepts exactly the canonical forests. -/
theorem validate_ok_iff_canonicalForest (manifest : ManifestV2) :
    manifest.validate = .ok () ↔ CanonicalForest manifest :=
  validate_eq_ok.trans accepted_iff_canonicalForest

end Complete

end Envoix.Protocol
