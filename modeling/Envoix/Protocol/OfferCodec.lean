import Envoix.Protocol.Offer
import Envoix.Protocol.ManifestCanonical

/-! # The Offer codec is a bijection onto its image

Every piece of the wire format gets one iff that says which bytes its reader accepts.  Only
the entry loop needs more than that: the decoder learns a parent from `path_to_entry`, and in a
canonical forest the pair of root and path identifies an entry.
-/

namespace Envoix.Protocol

open ByteCodec Fallible Traversal

/-! ## Tags and components -/

theorem compressionPolicy_tryFrom_eq_ok {value : UInt8} {policy : CompressionPolicyV2} :
    CompressionPolicyV2.tryFrom value = .ok policy ↔ value = policy.tag := by
  constructor
  · intro accepted
    unfold CompressionPolicyV2.tryFrom at accepted
    split at accepted <;> cases accepted <;> rfl
  · intro tagged
    subst tagged
    cases policy <;> rfl

theorem entryKind_tryFrom_eq_ok {value : UInt8} {kind : ManifestEntryKindV2} :
    ManifestEntryKindV2.tryFrom value = .ok kind ↔ value = kind.tag := by
  constructor
  · intro accepted
    unfold ManifestEntryKindV2.tryFrom at accepted
    split at accepted <;> cases accepted <;> rfl
  · intro tagged
    subst tagged
    cases kind <;> rfl

/-- A length below the limit survives its four bytes. -/
theorem toNat_ofNat_length {α : Type} {items : List α} {limit : Nat} (short : items.length ≤ limit)
    (fits : limit < 2 ^ 32) : (UInt32.ofNat items.length).toNat = items.length :=
  UInt32.toNat_ofNat_of_lt' (Nat.lt_of_le_of_lt short fits)

theorem readComponent_reads :
    Reads readComponent (fun component => (asBytes component).length ≤ maxManifestV2ComponentBytes)
      encodeComponent := by
  intro bytes component rest
  simp only [readComponent, Reader.run_bind_ok, run_u32_ok, run_lift_ok, reject_eq_ok, exact_run_ok,
    okOr_eq_ok, fromUtf8_eq_some, gt_iff_lt, not_lt, encodeComponent, pushBytes]
  constructor
  · rintro ⟨length, _, rfl, _, _, ⟨short, rfl⟩, _, _, ⟨lengthHere, rfl⟩, rfl, rfl⟩
    rw [← lengthHere] at short
    refine ⟨short, ?_⟩
    rw [lengthHere, UInt32.ofNat_toNat, List.append_assoc]
  · rintro ⟨short, rfl⟩
    have length := toNat_ofNat_length short (by decide)
    exact ⟨_, _, by rw [List.append_assoc], (), _, ⟨by rwa [length], rfl⟩, _, _,
      ⟨length.symm, rfl⟩, rfl, rfl⟩

theorem readCompleteness_reads : Reads readCompleteness (fun _ => True) encodeCompleteness := by
  intro bytes completeness rest
  simp only [readCompleteness, Reader.run_bind_ok, run_u8_ok, true_and]
  constructor
  · rintro ⟨tag, afterTag, rfl, accepted⟩
    split at accepted
    · simp only [Reader.run_pure_ok] at accepted
      obtain ⟨rfl, rfl⟩ := accepted
      rfl
    · simp only [Reader.run_bind_ok, run_u64_ok, run_u8_ok] at accepted
      obtain ⟨boundaries, _, rfl, omittedTag, afterOmitted, rfl, accepted⟩ := accepted
      split at accepted
      · simp only [Reader.run_pure_ok] at accepted
        obtain ⟨rfl, rfl⟩ := accepted
        simp [encodeCompleteness]
      · simp only [Reader.run_bind_ok, run_u64_ok, Reader.run_pure_ok] at accepted
        obtain ⟨count, _, rfl, rfl, rfl⟩ := accepted
        simp [encodeCompleteness]
      · simp at accepted
    · simp at accepted
  · rintro rfl
    cases completeness with
    | complete => exact ⟨0, rest, rfl, by simp⟩
    | userApprovedPartial boundaries omitted =>
      cases omitted with
      | none =>
        refine ⟨1, u64Be boundaries ++ 0 :: rest, by simp [encodeCompleteness], ?_⟩
        exact Reader.run_bind_ok.mpr ⟨boundaries, _, run_u64_ok.mpr rfl,
          Reader.run_bind_ok.mpr ⟨0, rest, run_u8_ok.mpr rfl, by simp⟩⟩
      | some count =>
        refine ⟨1, u64Be boundaries ++ 1 :: (u64Be count ++ rest), by simp [encodeCompleteness], ?_⟩
        exact Reader.run_bind_ok.mpr ⟨boundaries, _, run_u64_ok.mpr rfl,
          Reader.run_bind_ok.mpr ⟨1, _, run_u8_ok.mpr rfl, by simp⟩⟩

theorem readContentDigest_reads : Reads readContentDigest (fun _ => True) encodeContentDigest := by
  intro bytes digest rest
  simp only [readContentDigest, Reader.run_bind_ok, run_u8_ok, true_and]
  constructor
  · rintro ⟨tag, afterTag, rfl, accepted⟩
    split at accepted
    · simp only [Reader.run_pure_ok] at accepted
      obtain ⟨rfl, rfl⟩ := accepted
      rfl
    · simp only [Reader.run_bind_ok, run_array_ok, Reader.run_pure_ok] at accepted
      obtain ⟨bytes, _, rfl, rfl, rfl⟩ := accepted
      simp [encodeContentDigest]
    · simp at accepted
  · rintro rfl
    cases digest with
    | deferred => exact ⟨0, rest, rfl, by simp⟩
    | known digest =>
      refine ⟨1, digest.bytes.toList ++ rest, by simp [encodeContentDigest], ?_⟩
      exact Reader.run_bind_ok.mpr ⟨digest.bytes, rest, run_array_ok.mpr rfl, by simp⟩

theorem readRoot_reads :
    Reads readRoot (fun root => (asBytes root.requestedName).length ≤ maxManifestV2ComponentBytes)
      encodeRoot := by
  intro bytes root rest
  simp only [readRoot, Reader.run_bind_ok, run_u32_ok, readComponent_reads _ _ _,
    readCompleteness_reads _ _ _, Reader.run_pure_ok, true_and]
  constructor
  · rintro ⟨rootId, _, rfl, rootEntryId, _, rfl, name, _, ⟨short, rfl⟩, completeness, _,
      rfl, rfl, rfl⟩
    exact ⟨short, by simp [encodeRoot]⟩
  · rintro ⟨short, rfl⟩
    simp only [encodeRoot, List.append_assoc]
    exact ⟨_, _, rfl, _, _, rfl, _, _, ⟨short, rfl⟩, _, _, rfl, rfl, rfl⟩

/-! ## Wire paths

The decoder counts a separator between components, the validator one before each, so the
decoder's running limit is the weaker of the two. -/

def wireBytes : Nat → List String → Nat
  | _, [] => 0
  | index, component :: path =>
    (asBytes component).length + (if 0 < index then 1 else 0) + wireBytes (index + 1) path

theorem wireBytes_le_pathLength (index : Nat) (path : List String) :
    wireBytes index path ≤ pathLength path := by
  induction path generalizing index with
  | nil => exact Nat.le_refl _
  | cons component path inductionHypothesis =>
    have tail := inductionHypothesis (index + 1)
    have separator : (if 0 < index then 1 else 0) ≤ 1 := by split <;> omega
    simp only [wireBytes, pathLength, List.map_cons, List.sum_cons] at tail ⊢
    omega

theorem readPath_run_ok {index pathBytes count : Nat} {bytes rest : Bytes} {path : List String}
    (sofar : pathBytes ≤ maxManifestV2PathBytes) :
    (readPath index pathBytes count).run bytes = .ok (path, rest) ↔
      path.length = count ∧
        (∀ component ∈ path, (asBytes component).length ≤ maxManifestV2ComponentBytes) ∧
          pathBytes + wireBytes index path ≤ maxManifestV2PathBytes ∧
        bytes = path.flatMap encodeComponent ++ rest := by
  have limit : maxManifestV2PathBytes ≤ usizeMax := by decide
  induction count generalizing index pathBytes bytes rest path with
  | zero =>
    simp only [readPath, Reader.run_pure_ok, List.length_eq_zero_iff]
    constructor
    · rintro ⟨rfl, rfl⟩
      exact ⟨rfl, by simp, by simpa [wireBytes] using sofar, rfl⟩
    · rintro ⟨rfl, _, _, rfl⟩
      exact ⟨rfl, rfl⟩
  | succ count inductionHypothesis =>
    simp only [readPath, Reader.run_bind_ok, readComponent_reads _ _ _, run_lift_ok, okOr_eq_ok,
      checkedAddUsize_chain, reject_eq_ok, gt_iff_lt, not_lt, Reader.run_pure_ok]
    constructor
    · rintro ⟨component, _, ⟨short, rfl⟩, sum, _, ⟨⟨total, _⟩, rfl⟩, _, _, ⟨fits, rfl⟩, tail, _,
        read, rfl, rfl⟩
      obtain ⟨rfl, each, tailFits, rfl⟩ := (inductionHypothesis fits).mp read
      refine ⟨rfl, by simpa using ⟨short, each⟩, ?_, by simp⟩
      simp only [wireBytes]
      omega
    · rintro ⟨length, each, fits, rfl⟩
      cases path with
      | nil => simp at length
      | cons component tail =>
        simp only [wireBytes] at fits
        have head : pathBytes + (asBytes component).length + (if 0 < index then 1 else 0) ≤
            maxManifestV2PathBytes := by omega
        refine ⟨component, tail.flatMap encodeComponent ++ rest,
          ⟨each component List.mem_cons_self, by simp⟩, _, _, ⟨⟨rfl, Nat.le_trans head limit⟩, rfl⟩,
          (), _, ⟨head, rfl⟩, tail, rest, ?_, rfl, rfl⟩
        exact (inductionHypothesis head).mpr ⟨by simpa using length,
          fun other member => each other (List.mem_cons_of_mem _ member), by omega, rfl⟩

/-! ## One entry -/

/-- What the decoder knows after reading the path of an entry. -/
def Resolves (roots : List ManifestRootV2) (pathToEntry : PathToEntry) (path : List String)
    (entry : ManifestEntryV2) : Prop :=
  ∃ root, roots[entry.rootId.toNat]? = some root ∧
    resolvePath pathToEntry root entry.entryId entry.rootId path =
      .ok (entry.parentEntryId, entry.component)

def PathFits (path : List String) : Prop :=
  path.length ≤ maxManifestV2PathDepth ∧
    (∀ component ∈ path, (asBytes component).length ≤ maxManifestV2ComponentBytes) ∧
    wireBytes 0 path ≤ maxManifestV2PathBytes

theorem readEntry_run_ok {roots : List ManifestRootV2} {pathToEntry : PathToEntry}
    {bytes rest : Bytes} {path : List String} {entry : ManifestEntryV2} :
    (readEntry roots pathToEntry).run bytes = .ok ((path, entry), rest) ↔
      PathFits path ∧ Resolves roots pathToEntry path entry ∧
        bytes = encodeEntry path entry ++ rest := by
  have start : 0 ≤ maxManifestV2PathBytes := Nat.zero_le _
  simp only [readEntry, Reader.run_bind_ok, run_u32_ok, run_u8_ok, run_u64_ok, run_lift_ok,
    reject_eq_ok, okOr_eq_ok, readPath_run_ok start, entryKind_tryFrom_eq_ok,
    readContentDigest_reads _ _ _, gt_iff_lt, not_lt, Reader.run_pure_ok, true_and, Prod.exists,
    Prod.mk.injEq, Nat.zero_add]
  constructor
  · rintro ⟨entryId, _, rfl, rootId, _, rfl, pathCount, _, rfl, _, _, ⟨shallow, rfl⟩, wire, _,
      ⟨length, each, fits, rfl⟩, root, _, ⟨found, rfl⟩, parentEntryId, component, _,
      ⟨resolved, rfl⟩, tag, _, rfl, kind, _, ⟨rfl, rfl⟩, plaintextSize, _, rfl, contentDigest, _,
      rfl, ⟨rfl, rfl⟩, rfl⟩
    rw [← length] at shallow
    refine ⟨⟨shallow, each, fits⟩, ⟨root, found, resolved⟩, ?_⟩
    simp [encodeEntry, length]
  · rintro ⟨⟨shallow, each, fits⟩, ⟨root, found, resolved⟩, rfl⟩
    have length := toNat_ofNat_length shallow (by decide)
    simp only [encodeEntry, List.append_assoc]
    exact ⟨_, _, rfl, _, _, rfl, _, _, rfl, (), _, ⟨by rwa [length], rfl⟩, path, _,
      ⟨length.symm, each, fits, rfl⟩, root, _, ⟨found, rfl⟩, _, _, _, ⟨resolved, rfl⟩, _,
      _, rfl, _, _, ⟨rfl, rfl⟩, _, _, rfl, _, _, rfl, ⟨rfl, rfl⟩, rfl⟩

/-! ## Paths identify entries -/

section Forest

variable [UnicodeNormalization] {manifest : ManifestV2}

/-- In a canonical forest no two entries of a root share a path. -/
theorem PathFrom.index_unique (forest : CanonicalForest manifest) {root : ManifestRootV2}
    {left right : Nat} {path : List String} (leftPath : PathFrom manifest root left path)
    (rightPath : PathFrom manifest root right path) : left = right := by
  induction leftPath generalizing right with
  | root =>
    generalize spelled : [] = path at rightPath
    cases rightPath with
    | root => rfl
    | child => simp at spelled
  | @child left leftEntry leftParent path leftFound leftRoot leftBelow _ inductionHypothesis =>
    generalize spelled : path ++ [leftEntry.component] = whole at rightPath
    cases rightPath with
    | root => simp at spelled
    | @child right rightEntry rightParent path' rightFound rightRoot rightBelow rightAbove =>
      obtain ⟨samePath, sameName⟩ := List.append_inj' spelled rfl
      have sameParent : leftParent = rightParent :=
        UInt32.toNat_inj.mp (inductionHypothesis (samePath ▸ rightAbove))
      exact forest.siblings left right leftEntry rightEntry leftFound rightFound
        (leftRoot.trans rightRoot.symm)
        (by rw [leftBelow, rightBelow, sameParent]) (by simpa using sameName)

theorem PathFrom.components (forest : CanonicalForest manifest) {root : ManifestRootV2}
    {index : Nat} {path : List String} (pathFrom : PathFrom manifest root index path) :
    ∀ component ∈ path, SafeComponent component := by
  induction pathFrom with
  | root => simp
  | child found _ _ _ inductionHypothesis =>
    intro component member
    cases List.mem_append.mp member with
    | inl above => exact inductionHypothesis component above
    | inr last =>
      rw [List.mem_singleton] at last
      exact last ▸ forest.entryNames _ (List.mem_of_getElem? found)

end Forest

/-! ## The entry loop -/

/-- `path_to_entry` after the entries `before`. -/
def pathMap (before : List ManifestEntryV2) : PathToEntry :=
  (before.zip (wirePaths before)).map (fun item => ((item.1.rootId, item.2), item.1.entryId))

theorem pathMap_concat (before : List ManifestEntryV2) (entry : ManifestEntryV2) :
    pathMap (before ++ [entry]) =
      pathMap before ++ [((entry.rootId, wirePath (wirePaths before) entry), entry.entryId)] := by
  rw [pathMap, wirePaths_concat, List.zip_append (length_wirePaths before).symm]
  simp [pathMap]

theorem mem_pathMap {before : List ManifestEntryV2} {rootId entryId : UInt32} {path : List String} :
    ((rootId, path), entryId) ∈ pathMap before ↔
      ∃ (index : Nat) (entry : ManifestEntryV2), before[index]? = some entry ∧
        (wirePaths before)[index]? = some path ∧ entry.rootId = rootId ∧
        entry.entryId = entryId := by
  simp only [pathMap, List.mem_map, Prod.exists, Prod.mk.injEq]
  constructor
  · rintro ⟨entry, path, member, ⟨rfl, rfl⟩, rfl⟩
    obtain ⟨index, found⟩ := List.getElem?_of_mem member
    obtain ⟨entryFound, pathFound⟩ := List.getElem?_zip_eq_some.mp found
    exact ⟨index, entry, entryFound, pathFound, rfl, rfl⟩
  · rintro ⟨index, entry, entryFound, pathFound, rfl, rfl⟩
    exact ⟨entry, path,
      List.mem_of_getElem? (List.getElem?_zip_eq_some.mpr ⟨entryFound, pathFound⟩), ⟨rfl, rfl⟩, rfl⟩

theorem mem_of_lookup {pathToEntry : PathToEntry} {key : UInt32 × List String} {entryId : UInt32}
    (found : pathToEntry.lookup key = some entryId) : (key, entryId) ∈ pathToEntry := by
  obtain ⟨before, after, split, _⟩ := List.lookup_eq_some_iff.mp found
  rw [split]
  simp

theorem lookup_pathMap_isSome {before : List ManifestEntryV2} {index : Nat}
    {other : ManifestEntryV2} {path : List String} (otherFound : before[index]? = some other)
    (otherPath : (wirePaths before)[index]? = some path) :
    ((pathMap before).lookup (other.rootId, path)).isSome := by
  rw [List.lookup_isSome_iff]
  exact ⟨_, mem_pathMap.mpr ⟨index, other, otherFound, otherPath, rfl, rfl⟩, by simp⟩

section Forest

variable [UnicodeNormalization] {manifest : ManifestV2} {before after : List ManifestEntryV2}
  {entry : ManifestEntryV2}

/-- A key of the map belongs to the one earlier entry with that root and path. -/
theorem lookup_pathMap (forest : CanonicalForest manifest)
    (position : manifest.entries = before ++ after) {root : ManifestRootV2} {index : Nat}
    {path : List String} (pathFrom : PathFrom manifest root index path)
    (rootMember : root ∈ manifest.roots) {entryId : UInt32}
    (found : (pathMap before).lookup (root.rootId, path) = some entryId) :
    entryId.toNat = index ∧ index < before.length := by
  obtain ⟨other, otherEntry, otherFound, otherPath, sameRoot, rfl⟩ :=
    mem_pathMap.mp (mem_of_lookup found)
  obtain ⟨early, _⟩ := List.getElem?_eq_some_iff.mp otherFound
  have wide : manifest.entries[other]? = some otherEntry := by
    rw [position, List.getElem?_append_left early, otherFound]
  obtain ⟨owner, ownPath, ownerFound, ownerId, ownFrom, _⟩ := forest.owner wide
  have sameOwner : owner = root :=
    root_unique forest.rootIds (List.mem_of_getElem? ownerFound) rootMember (ownerId.trans sameRoot)
  have spelled := ownFrom.wirePaths_eq forest.parentsFirst
  rw [position, wirePaths_getElem_append early, otherPath, Option.some.injEq] at spelled
  rw [sameOwner, ← spelled] at ownFrom
  have sameIndex := ownFrom.index_unique forest pathFrom
  exact ⟨(forest.entryIds other otherEntry wide).trans sameIndex, by omega⟩

/-- The decoder resolves an entry exactly by the path the encoder wrote for it. -/
theorem resolves_iff (forest : CanonicalForest manifest)
    (position : manifest.entries = before ++ entry :: after) {path : List String} :
    PathFits path ∧ Resolves manifest.roots (pathMap before) path entry ∧
        ¬ ((pathMap before).lookup (entry.rootId, path)).isSome ↔
      path = wirePath (wirePaths before) entry := by
  have found : manifest.entries[before.length]? = some entry := by simp [position]
  have entryOk := forest.entryOk position
  obtain ⟨root, spelled, rootFound, sameRoot, pathFrom, _⟩ := forest.owner found
  have rootMember := List.mem_of_getElem? rootFound
  have computed := pathFrom.wirePaths_eq forest.parentsFirst
  rw [position, wirePaths_split, Option.some.injEq] at computed
  constructor
  · rintro ⟨_, ⟨other, otherFound, resolved⟩, _⟩
    unfold resolvePath at resolved
    split at resolved
    case h_1 component last =>
      simp only [bind_eq_ok, okOr_eq_ok, pure_eq_ok, Prod.mk.injEq] at resolved
      obtain ⟨parentId, parentFound, parent, rfl⟩ := resolved
      obtain ⟨index, parentEntry, early, parentPath, _, rfl⟩ :=
        mem_pathMap.mp (mem_of_lookup parentFound)
      have inside : index < before.length := (List.getElem?_eq_some_iff.mp early).1
      have wide : manifest.entries[index]? = some parentEntry := by
        rw [position, List.getElem?_append_left inside, early]
      simp only [wirePath, ← parent, forest.entryIds index parentEntry wide,
        List.getD_eq_getElem?_getD, parentPath, Option.getD_some]
      exact (List.dropLast_append_getLast? _ last).symm
    case h_2 last =>
      rw [List.getLast?_eq_none_iff] at last
      simp only [Except.ok.injEq, Prod.mk.injEq] at resolved
      rw [last, wirePath, ← resolved.1]
  · rintro rfl
    refine ⟨⟨entryOk.depth, ?_, Nat.le_trans (wireBytes_le_pathLength 0 _) entryOk.pathBytes⟩,
      ⟨root, rootFound, ?_⟩, ?_⟩
    · intro component member
      rw [computed] at member
      exact (pathFrom.components forest component member).short
    · cases parent : entry.parentEntryId with
      | none =>
        have name :=
          forest.rootEntryNames root rootMember entry (List.mem_of_getElem? found)
            sameRoot.symm parent
        simp [resolvePath, wirePath, parent, name]
      | some parentId =>
        obtain ⟨parentEntry, parentFound, parentRoot, _⟩ :=
          forest.parents entry (List.mem_of_getElem? found) parentId parent
        have early := forest.parentsFirst _ entry parentId found parent
        obtain ⟨parentOwner, parentPath, ownerFound, ownerId, parentFrom, _⟩ :=
          forest.owner parentFound
        have parentSpelled := parentFrom.wirePaths_eq forest.parentsFirst
        rw [position, List.getElem?_append_left early] at parentFound
        rw [position, wirePaths_getElem_append early] at parentSpelled
        have known := lookup_pathMap_isSome parentFound parentSpelled
        obtain ⟨parentId', looked⟩ := Option.isSome_iff_exists.mp known
        have sameId := lookup_pathMap forest position parentFrom (List.mem_of_getElem? ownerFound)
          (ownerId ▸ looked)
        rw [parentRoot, UInt32.toNat_inj.mp sameId.1] at looked
        simp [resolvePath, wirePath, parent, List.getD_eq_getElem?_getD, parentSpelled,
          looked, okOr, bind, Except.bind, pure, Except.pure]
    · intro known
      obtain ⟨entryId, looked⟩ := Option.isSome_iff_exists.mp known
      rw [computed, ← sameRoot] at looked
      have earlier := (lookup_pathMap forest position pathFrom rootMember looked).2
      omega

omit [UnicodeNormalization] in
theorem length_of_readEntries {roots : List ManifestRootV2} {count : Nat}
    {pathToEntry : PathToEntry} {bytes rest : Bytes} {entries : List ManifestEntryV2}
    (read : (readEntries roots count pathToEntry).run bytes = .ok (entries, rest)) :
    entries.length = count := by
  induction count generalizing pathToEntry bytes rest entries with
  | zero =>
    simp only [readEntries, Reader.run_pure_ok] at read
    rw [read.1, List.length_nil]
  | succ count inductionHypothesis =>
    simp only [readEntries, Reader.run_bind_ok, Reader.run_pure_ok, Prod.exists] at read
    obtain ⟨_, _, _, _, _, _, _, tail, _, readTail, rfl, _⟩ := read
    rw [List.length_cons, inductionHypothesis readTail]

/-- The entry loop reads back exactly what the encoder's entry loop wrote. -/
theorem readEntries_run_ok (forest : CanonicalForest manifest) {entries : List ManifestEntryV2}
    (position : manifest.entries = before ++ entries) {bytes rest : Bytes} :
    (readEntries manifest.roots entries.length (pathMap before)).run bytes = .ok (entries, rest) ↔
      bytes = encodeEntries (wirePaths before) entries ++ rest := by
  induction entries generalizing before bytes with
  | nil => simp [readEntries, encodeEntries]
  | cons entry entries inductionHypothesis =>
    have next : manifest.entries = (before ++ [entry]) ++ entries := by simp [position]
    have resolves := fun path => @resolves_iff _ _ _ _ _ forest position path
    simp only [List.length_cons, readEntries, Reader.run_bind_ok, readEntry_run_ok, run_lift_ok,
      reject_eq_ok, Reader.run_pure_ok, Prod.exists, encodeEntries, List.cons.injEq]
    constructor
    · rintro ⟨path, _, _, ⟨fits, resolved, rfl⟩, _, _, ⟨fresh, rfl⟩, _, _, read, ⟨rfl, rfl⟩, rfl⟩
      have same := (resolves path).mp ⟨fits, resolved, fresh⟩
      rw [same, ← pathMap_concat, inductionHypothesis next, wirePaths_concat] at read
      rw [read, same, List.append_assoc]
    · rintro rfl
      obtain ⟨fits, resolved, fresh⟩ := (resolves _).mpr rfl
      refine ⟨_, entry, _, ⟨fits, resolved, by rw [List.append_assoc]⟩, (), _, ⟨fresh, rfl⟩,
        entries, rest, ?_, ⟨rfl, rfl⟩, rfl⟩
      rw [← pathMap_concat, inductionHypothesis next, wirePaths_concat]

/-! ## Body and offer -/

omit [UnicodeNormalization] in
theorem each_of_forall {α : Type} {valid : Nat → α → Prop} {start : Nat} {items : List α}
    (holds : ∀ index, ∀ item ∈ items, valid index item) : Each valid start items := by
  rw [each_iff_getElem]
  exact fun index item found => holds _ item (List.mem_of_getElem? found)

theorem decodeManifestBody_run_ok (forest : CanonicalForest manifest) {bytes rest : Bytes} :
    decodeManifestBody.run bytes = .ok (manifest, rest) ↔
      bytes = encodeManifestBody manifest ++ rest := by
  have readRoots : ∀ (count : Nat) (bytes rest : Bytes) (roots : List ManifestRootV2),
      (readMany (fun _ => readRoot) 0 count).run bytes = .ok (roots, rest) ↔ _ :=
    fun count bytes rest roots => readMany_run_ok (fun _ => readRoot_reads)
  have shortNames :
    Each (fun _ root => (asBytes root.requestedName).length ≤ maxManifestV2ComponentBytes) 0
      manifest.roots := each_of_forall (fun _ root member => (forest.rootNames root member).short)
  have rootLength := toNat_ofNat_length forest.rootCount.2 (by decide)
  have entryLength := toNat_ofNat_length forest.entryCount.2 (by decide)
  simp only [decodeManifestBody, Reader.run_bind_ok, run_array_ok, run_u8_ok, run_u32_ok,
    run_u64_ok, run_lift_ok, compressionPolicy_tryFrom_eq_ok, reject_eq_ok, gt_iff_lt, not_lt,
    readRoots, Reader.run_pure_ok]
  constructor
  · rintro ⟨jobId, _, rfl, generation, _, rfl, selectionRevision, _, rfl, _, _, rfl,
      compressionPolicy, _, ⟨rfl, rfl⟩, rootCount, _, rfl, _, _, ⟨_, rfl⟩, roots, _,
      ⟨rootsLength, _, rfl⟩, entryCount, afterCount, rfl, _, _, ⟨_, rfl⟩, entries, _, read,
      fileCount, _, rfl, directoryCount, _, rfl, totalBytes, _, rfl, rfl, rfl⟩
    have entriesLength := length_of_readEntries read
    rw [← entriesLength] at read
    rw [(@readEntries_run_ok _ _ [] forest entries rfl _ _).mp read]
    simp [encodeManifestBody, rootsLength, entriesLength, wirePaths]
  · rintro rfl
    simp only [encodeManifestBody, List.append_assoc, List.singleton_append]
    refine ⟨_, _, rfl, _, _, rfl, _, _, rfl, _, _, rfl, _, _, ⟨rfl, rfl⟩, _, _, rfl, (), _,
      ⟨by rw [rootLength]; exact forest.rootCount.2, rfl⟩, manifest.roots, _,
      ⟨rootLength.symm, shortNames, rfl⟩, _, _, rfl, (), _,
      ⟨by rw [entryLength]; exact forest.entryCount.2, rfl⟩, manifest.entries, _, ?_, _, _, rfl, _,
      _, rfl, _, _,
      rfl, rfl, rfl⟩
    rw [entryLength]
    exact (@readEntries_run_ok _ _ [] forest manifest.entries rfl _ _).mpr rfl

end Forest

section Offer

variable [Blake3] [UnicodeNormalization]

/-- The frame an offer is carried in. -/
def offerBytes (manifest : ManifestV2) : Bytes :=
  offerMagic ++ u16Be manifestV2ProtocolVersion ++ u16Be ManifestV2FrameType.offer.code ++
    u32Be (UInt32.ofNat (32 + (encodeManifestBody manifest).length)) ++
    (Blake3.hash (encodeManifestBody manifest)).toList ++ encodeManifestBody manifest

omit [UnicodeNormalization] in
theorem length_offerBytes (manifest : ManifestV2) :
    (offerBytes manifest).length = 12 + (32 + (encodeManifestBody manifest).length) := by
  simp [offerBytes, offerMagic]
  omega

theorem encodeManifestOfferV2_eq_ok {manifest : ManifestV2} {encoded : Bytes} :
    encodeManifestOfferV2 manifest = .ok encoded ↔
      CanonicalForest manifest ∧ (offerBytes manifest).length ≤ maxManifestV2EncodedBytes ∧
        encoded = offerBytes manifest := by
  have limit : maxManifestV2EncodedBytes < 2 ^ 32 := by decide
  have wide : 2 ^ 32 ≤ usizeMax := by decide
  rw [length_offerBytes]
  simp only [encodeManifestOfferV2, buildManifestOfferV2, bind_eq_ok, mapErr_eq_ok,
    exists_unit, pure_eq_ok, okOr_eq_ok, checkedAddUsize_eq_some, reject_eq_ok, gt_iff_lt, not_lt,
    digestBytes, offerHeaderBytes, validate_eq_ok, accepted_iff_canonicalForest]
  constructor
  · rintro ⟨_, ⟨forest, rfl⟩, _, ⟨rfl, _⟩, _, ⟨rfl, _⟩, small, _, rfl⟩
    exact ⟨forest, small, rfl⟩
  · rintro ⟨forest, small, rfl⟩
    have payload : 32 + (encodeManifestBody manifest).length < 2 ^ 32 := by omega
    have payloadFits : 32 + (encodeManifestBody manifest).length ≤ usizeMax := by omega
    have frameFits : 12 + (32 + (encodeManifestBody manifest).length) ≤ usizeMax := by omega
    exact ⟨_, ⟨forest, rfl⟩, _, ⟨rfl, payloadFits⟩, _, ⟨rfl, frameFits⟩, small,
      not_le.mpr payload, rfl⟩

theorem decodeManifestOfferV2_eq_ok {offer : ManifestOfferV2} {encoded : Bytes} :
    decodeManifestOfferV2 encoded = .ok offer ↔
      CanonicalForest offer.manifest ∧ encoded.length ≤ maxManifestV2EncodedBytes ∧
        encoded = offerBytes offer.manifest ∧
        offer.structuralDigest = ⟨Blake3.hash (encodeManifestBody offer.manifest)⟩ := by
  simp only [decodeManifestOfferV2, readManifestOffer, bind_eq_ok, exists_unit, reject_eq_ok,
    gt_iff_lt, not_lt, pure_eq_ok, Prod.exists, Reader.run_bind_ok, exact_run_ok, run_u16_ok,
    run_u32_ok, run_lift_ok, run_remainingSlice_ok, run_array_ok, ne_eq, not_not,
    Reader.run_pure_ok, mapErr_eq_ok, validate_eq_ok, accepted_iff_canonicalForest]
  constructor
  · rintro ⟨small, _, _,
      ⟨magic, _, ⟨_, rfl⟩, _, ⟨rfl, rfl⟩, version, _, rfl, _, ⟨rfl, rfl⟩, frameType, _, rfl, _,
        ⟨rfl, rfl⟩, payloadLen, _, rfl, _, _, ⟨rfl, rfl⟩, _, ⟨length, rfl⟩, digest, _, rfl, body, _,
        ⟨rfl, rfl⟩, _,
      ⟨rfl, rfl⟩, manifest, _, read, _, _, ⟨rfl, rfl⟩, _, ⟨drained, rfl⟩, _, ⟨forest, rfl⟩,
      rfl, rfl⟩, rfl⟩
    rw [List.length_eq_zero_iff] at drained
    subst drained
    have body := (decodeManifestBody_run_ok forest).mp read
    rw [List.append_nil] at body
    subst body
    refine ⟨forest, small, ?_, rfl⟩
    have payload : 32 + (encodeManifestBody manifest).length = payloadLen.toNat := by
      rw [length]; simp
    simp [offerBytes, payload]
  · rintro ⟨forest, small, rfl, digest⟩
    have payload : (UInt32.ofNat (32 + (encodeManifestBody offer.manifest).length)).toNat =
        32 + (encodeManifestBody offer.manifest).length := by
      rw [length_offerBytes] at small
      have limit : maxManifestV2EncodedBytes < UInt32.size := by decide
      exact UInt32.toNat_ofNat_of_lt' (by omega)
    have read := (@decodeManifestBody_run_ok _ _ forest _ []).mpr (List.append_nil _).symm
    refine ⟨small, offer, [], ?_, rfl⟩
    simp only [offerBytes, List.append_assoc]
    refine ⟨offerMagic, _, ⟨rfl, rfl⟩, _, ⟨rfl, rfl⟩, _, _, rfl, _, ⟨rfl, rfl⟩, _, _, rfl, _,
      ⟨rfl, rfl⟩, _, _, rfl, _, _, ⟨rfl, rfl⟩, _, ⟨by rw [payload]; simp, rfl⟩, _, _, rfl, _, _,
      ⟨rfl, rfl⟩, _, ⟨rfl, rfl⟩, offer.manifest, [], read, _, _, ⟨rfl, rfl⟩, _, ⟨rfl, rfl⟩, _,
      ⟨forest, rfl⟩, ?_, rfl⟩
    cases offer
    simp only at digest
    rw [digest]

/-- The Offer codec is a bijection between the canonical forests whose offer fits its budget and
the byte strings the decoder accepts. -/
theorem offer_codec_bijective :
    (∀ (manifest : ManifestV2) (encoded : Bytes), encodeManifestOfferV2 manifest = .ok encoded →
      ∃ offer, decodeManifestOfferV2 encoded = .ok offer ∧ offer.manifest = manifest ∧
        offer.structuralDigest = ⟨Blake3.hash (encoded.drop (offerHeaderBytes + digestBytes))⟩) ∧
    (∀ (encoded : Bytes) (offer : ManifestOfferV2), decodeManifestOfferV2 encoded = .ok offer →
      encodeManifestOfferV2 offer.manifest = .ok encoded) := by
  constructor
  · intro manifest encoded encodes
    obtain ⟨forest, small, rfl⟩ := encodeManifestOfferV2_eq_ok.mp encodes
    refine ⟨⟨⟨Blake3.hash (encodeManifestBody manifest)⟩, manifest⟩, ?_, rfl, ?_⟩
    · exact decodeManifestOfferV2_eq_ok.mpr ⟨forest, small, rfl, rfl⟩
    · have body : (offerBytes manifest).drop (offerHeaderBytes + digestBytes) =
          encodeManifestBody manifest := by
        unfold offerBytes
        exact List.drop_left' (by simp [offerMagic, offerHeaderBytes, digestBytes])
      rw [body]
  · intro encoded offer decodes
    obtain ⟨forest, small, rfl, _⟩ := decodeManifestOfferV2_eq_ok.mp decodes
    exact encodeManifestOfferV2_eq_ok.mpr ⟨forest, small, rfl⟩

end Offer

/-! ## The frozen golden vector

The fixture of the source's codec test.  The two external crates are fixed to what they answer
on it: its names are ASCII, and `goldenDigest` is the BLAKE3 hash of its body. -/

def sampleJobId : JobIdV2 := ⟨⟨asBytes "job-v2-fixture!!", by decide⟩⟩

def sampleManifest : ManifestV2 where
  jobId := sampleJobId
  generation := 7
  selectionRevision := 11
  compressionPolicy := .smart
  roots := [
    { rootId := 0, rootEntryId := 0, requestedName := "Photos",
      completeness := .userApprovedPartial 1 (some 2) },
    { rootId := 1, rootEntryId := 3, requestedName := "notes.txt", completeness := .complete }]
  entries := [
    { entryId := 0, rootId := 0, parentEntryId := none, component := "Photos", kind := .directory,
      plaintextSize := 0, contentDigest := .deferred },
    { entryId := 1, rootId := 0, parentEntryId := some 0, component := "Empty", kind := .directory,
      plaintextSize := 0, contentDigest := .deferred },
    { entryId := 2, rootId := 0, parentEntryId := some 0, component := "a.jpg",
      kind := .regularFile, plaintextSize := 3, contentDigest := .known ⟨.replicate 32 0x11⟩ },
    { entryId := 3, rootId := 1, parentEntryId := none, component := "notes.txt",
      kind := .regularFile, plaintextSize := 5, contentDigest := .deferred }]
  totals := { fileCount := 2, directoryCount := 2, totalPlaintextBytes := 8 }

/-- Normalization of ASCII names, which are all in NFC. -/
@[reducible] def asciiNormalization : UnicodeNormalization where
  isNfc text := text.toList.all (fun character => character.toNat < 0x80)
  nfc := id

def goldenDigest : ByteVector 32 :=
  ⟨[0x72, 0x79, 0x38, 0xab, 0xe4, 0xaa, 0x6f, 0xf9, 0x71, 0xc1, 0xdc, 0xf8, 0xa7, 0xb3, 0xd3, 0x69,
    0xf9, 0x71, 0xf7, 0x5c, 0x71, 0x2a, 0xed, 0x9b, 0xe2, 0xe7, 0x25, 0x5b, 0x7c, 0xcd, 0x94, 0x7d],
      rfl⟩

@[reducible] def goldenBlake3 : Blake3 where
  hash _ := goldenDigest
  deriveKey _ _ := goldenDigest
  keyedHash _ _ := goldenDigest

def goldenOffer : Bytes :=
  [0x45, 0x4e, 0x56, 0x32, 0x00, 0x02, 0x00, 0x01, 0x00, 0x00, 0x01, 0x19, 0x72, 0x79, 0x38, 0xab,
   0xe4, 0xaa, 0x6f, 0xf9, 0x71, 0xc1, 0xdc, 0xf8, 0xa7, 0xb3, 0xd3, 0x69, 0xf9, 0x71, 0xf7, 0x5c,
   0x71, 0x2a, 0xed, 0x9b, 0xe2, 0xe7, 0x25, 0x5b, 0x7c, 0xcd, 0x94, 0x7d, 0x6a, 0x6f, 0x62, 0x2d,
   0x76, 0x32, 0x2d, 0x66, 0x69, 0x78, 0x74, 0x75, 0x72, 0x65, 0x21, 0x21, 0x00, 0x00, 0x00, 0x07,
   0x00, 0x00, 0x00, 0x00, 0x00, 0x00, 0x00, 0x0b, 0x02, 0x00, 0x00, 0x00, 0x02, 0x00, 0x00, 0x00,
   0x00, 0x00, 0x00, 0x00, 0x00, 0x00, 0x00, 0x00, 0x06, 0x50, 0x68, 0x6f, 0x74, 0x6f, 0x73, 0x01,
   0x00, 0x00, 0x00, 0x00, 0x00, 0x00, 0x00, 0x01, 0x01, 0x00, 0x00, 0x00, 0x00, 0x00, 0x00, 0x00,
   0x02, 0x00, 0x00, 0x00, 0x01, 0x00, 0x00, 0x00, 0x03, 0x00, 0x00, 0x00, 0x09, 0x6e, 0x6f, 0x74,
   0x65, 0x73, 0x2e, 0x74, 0x78, 0x74, 0x00, 0x00, 0x00, 0x00, 0x04, 0x00, 0x00, 0x00, 0x00, 0x00,
   0x00, 0x00, 0x00, 0x00, 0x00, 0x00, 0x00, 0x02, 0x00, 0x00, 0x00, 0x00, 0x00, 0x00, 0x00, 0x00,
   0x00, 0x00, 0x00, 0x00, 0x01, 0x00, 0x00, 0x00, 0x00, 0x00, 0x00, 0x00, 0x01, 0x00, 0x00, 0x00,
   0x05, 0x45, 0x6d, 0x70, 0x74, 0x79, 0x02, 0x00, 0x00, 0x00, 0x00, 0x00, 0x00, 0x00, 0x00, 0x00,
   0x00, 0x00, 0x00, 0x02, 0x00, 0x00, 0x00, 0x00, 0x00, 0x00, 0x00, 0x01, 0x00, 0x00, 0x00, 0x05,
   0x61, 0x2e, 0x6a, 0x70, 0x67, 0x01, 0x00, 0x00, 0x00, 0x00, 0x00, 0x00, 0x00, 0x03, 0x01, 0x11,
   0x11, 0x11, 0x11, 0x11, 0x11, 0x11, 0x11, 0x11, 0x11, 0x11, 0x11, 0x11, 0x11, 0x11, 0x11, 0x11,
   0x11, 0x11, 0x11, 0x11, 0x11, 0x11, 0x11, 0x11, 0x11, 0x11, 0x11, 0x11, 0x11, 0x11, 0x11, 0x00,
   0x00, 0x00, 0x03, 0x00, 0x00, 0x00, 0x01, 0x00, 0x00, 0x00, 0x00, 0x01, 0x00, 0x00, 0x00, 0x00,
   0x00, 0x00, 0x00, 0x05, 0x00, 0x00, 0x00, 0x00, 0x02, 0x00, 0x00, 0x00, 0x02, 0x00, 0x00, 0x00,
   0x00, 0x00, 0x00, 0x00, 0x08]

theorem offer_codec_bijective_golden :
    @encodeManifestOfferV2 goldenBlake3 asciiNormalization sampleManifest = .ok goldenOffer ∧
      (∃ offer, @decodeManifestOfferV2 goldenBlake3 asciiNormalization goldenOffer = .ok offer ∧
        offer.manifest = sampleManifest ∧ offer.structuralDigest = ⟨goldenDigest⟩) ∧
      @encodeManifestOfferV2 goldenBlake3 asciiNormalization
        (⟨⟨goldenDigest⟩, sampleManifest⟩ : ManifestOfferV2).manifest = .ok goldenOffer :=
  have encodes : @encodeManifestOfferV2 goldenBlake3 asciiNormalization sampleManifest =
      .ok goldenOffer := by
    set_option maxRecDepth 8000 in decide
  have decodes : @decodeManifestOfferV2 goldenBlake3 asciiNormalization goldenOffer =
      .ok ⟨⟨goldenDigest⟩, sampleManifest⟩ := by
    set_option maxRecDepth 8000 in decide
  ⟨encodes,
    (@offer_codec_bijective goldenBlake3 asciiNormalization).1 sampleManifest goldenOffer encodes,
    (@offer_codec_bijective goldenBlake3 asciiNormalization).2 goldenOffer _ decodes⟩

end Envoix.Protocol
