import Envoix.Protocol.ManifestForest

/-! # What the validator checks

`Accepted` is `ManifestV2::validate` check by check: the loops are replaced by statements about
every root record and about every entry after the entries before it, and the traversal stays
as the code computes it.
-/

namespace Envoix.Protocol

open ByteCodec Fallible

/-! ## Components and root records -/

theorem hasControlOrSeparator_eq_false {component : String} :
    hasControlOrSeparator component = false ↔
      ∀ character ∈ component.toList, isControl character = false ∧ character ≠ '/' ∧
        character ≠ '\\' := by
  simp [hasControlOrSeparator, and_assoc]

theorem eq_ofNat_iff {value : UInt32} {index : Nat} (fits : index < 2 ^ 32) :
    value = UInt32.ofNat index ↔ value.toNat = index := by
  rw [← UInt32.toNat_inj, UInt32.toNat_ofNat_of_lt' fits]

section Roots

variable [UnicodeNormalization]

theorem validateComponent_eq_ok {component : String} :
    validateComponent component = .ok () ↔ SafeComponent component := by
  simp only [validateComponent, bind_eq_ok, reject_eq_ok, exists_const, not_lt, gt_iff_lt,
    Bool.not_eq_true, Bool.not_eq_false, hasControlOrSeparator_eq_false]
  constructor
  · intro ⟨nonempty, notCurrentDirectory, notParentDirectory, short, plain, canonical⟩
    exact ⟨nonempty, notCurrentDirectory, notParentDirectory, short, plain, canonical⟩
  · intro safe
    exact ⟨safe.nonempty, safe.notCurrentDirectory, safe.notParentDirectory, safe.short, safe.plain,
      safe.canonical⟩

/-- What the first pass checks of one root record. -/
structure RootOk (entryCount index : Nat) (root : ManifestRootV2) : Prop where
  rootId : root.rootId.toNat = index
  rootEntryId : root.rootEntryId.toNat < entryCount
  name : SafeComponent root.requestedName
  partialFact : hasEmptyPartialFact root.completeness = false

theorem validateRoot_eq_ok {entryCount index : Nat} {root : ManifestRootV2}
    (fits : index < 2 ^ 32) :
    validateRoot entryCount index root = .ok () ↔ RootOk entryCount index root := by
  simp only [validateRoot, bind_eq_ok, reject_eq_ok, mapErr_eq_ok, exists_unit, not_not, ne_eq,
    eq_ofNat_iff fits, validateComponent_eq_ok, Bool.not_eq_true]
  constructor
  · intro ⟨rootId, rootEntryId, name, partialFact⟩
    exact ⟨rootId, rootEntryId, name, partialFact⟩
  · intro rootOk
    exact ⟨rootOk.rootId, rootOk.rootEntryId, rootOk.name, rootOk.partialFact⟩

theorem validateRoots_eq_ok {entryCount start : Nat} {roots : List ManifestRootV2}
    (fits : start + roots.length ≤ 2 ^ 32) :
    validateRoots entryCount start roots = .ok () ↔ Each (RootOk entryCount) start roots := by
  induction roots generalizing start with
  | nil => simp [validateRoots, Each]
  | cons root roots inductionHypothesis =>
    rw [List.length_cons] at fits
    have later : start + 1 + roots.length ≤ 2 ^ 32 := by omega
    simp only [validateRoots, bind_eq_ok, Each, exists_unit,
      validateRoot_eq_ok (by omega : start < 2 ^ 32), inductionHypothesis later]

end Roots

/-! ## The scan of the entries

`Scanned` says what the accumulators hold after a prefix of the entries, `EntryOk` what one
iteration demands of the next entry. -/

def siblingKey (entry : ManifestEntryV2) : UInt32 × Option UInt32 × String :=
  (entry.rootId, entry.parentEntryId, entry.component)

def hasParent (parent : Nat) (entry : ManifestEntryV2) : Bool :=
  entry.parentEntryId.map UInt32.toNat == some parent

/-- The positions, in list order, of the entries below `parent`. -/
def childPositions (entries : List ManifestEntryV2) (parent : Nat) : List Nat :=
  (entries.zipIdx.filter (fun item => hasParent parent item.1)).map Prod.snd

theorem mem_childPositions {entries : List ManifestEntryV2} {parent index : Nat} :
    index ∈ childPositions entries parent ↔
      ∃ entry parentId, entries[index]? = some entry ∧
        entry.parentEntryId = some parentId ∧ parentId.toNat = parent := by
  simp [childPositions, hasParent, List.mem_zipIdx_iff_getElem?]

theorem childPositions_concat (before : List ManifestEntryV2) (entry : ManifestEntryV2)
    (parent : Nat) :
    childPositions (before ++ [entry]) parent =
      childPositions before parent ++ (if hasParent parent entry then [before.length] else []) := by
  by_cases below : hasParent parent entry <;> simp [childPositions, List.zipIdx_append, below]

structure Scanned (entryCount : Nat) (before : List ManifestEntryV2) (scan : EntryScan) : Prop where
  siblingComponents : scan.siblingComponents = before.map siblingKey
  fileCount : scan.fileCount.toNat = fileTotal before
  directoryCount : scan.directoryCount.toNat = directoryTotal before
  totalPlaintextBytes : scan.totalPlaintextBytes.toNat = byteTotal before
  depths : scan.depths = (wirePaths before).map List.length
  pathBytes : scan.pathBytes = (wirePaths before).map pathLength
  children : scan.children = (List.range entryCount).map (childPositions before)

theorem scanned_start (entryCount : Nat) : Scanned entryCount [] (EntryScan.start entryCount) where
  siblingComponents := rfl
  fileCount := rfl
  directoryCount := rfl
  totalPlaintextBytes := rfl
  depths := rfl
  pathBytes := rfl
  children := by
    have noChildren : childPositions [] = fun _ => [] := rfl
    simp [EntryScan.start, noChildren]

/-- Where an entry may hang: at its root's declared entry, or below an earlier directory of the
same root. -/
def Placed (before : List ManifestEntryV2) (root : ManifestRootV2) (entry : ManifestEntryV2) :
    Prop :=
  match entry.parentEntryId with
  | none => root.rootEntryId = entry.entryId ∧ root.requestedName = entry.component
  | some parentId => ∃ parent, before[parentId.toNat]? = some parent ∧
      parent.rootId = entry.rootId ∧ parent.kind = .directory

/-- The child lists after the entry at position `before.length`. -/
theorem children_concat {entryCount : Nat} (before : List ManifestEntryV2)
    (entry : ManifestEntryV2) :
    (List.range entryCount).map (childPositions (before ++ [entry])) =
      match entry.parentEntryId with
      | none => (List.range entryCount).map (childPositions before)
      | some parentId =>
        ((List.range entryCount).map (childPositions before)).modify parentId.toNat
          (· ++ [before.length]) := by
  cases parent : entry.parentEntryId with
  | none =>
    apply List.map_congr_left
    intro index _
    simp [childPositions_concat, hasParent, parent]
  | some parentId =>
    apply List.ext_getElem?
    intro index
    rw [List.getElem?_modify]
    by_cases bound : index < entryCount
    · by_cases here : parentId.toNat = index
      · simp [bound, here, childPositions_concat, hasParent, parent]
      · simp [bound, here, childPositions_concat, hasParent, parent]
    · simp [bound]

section Scan

variable {manifest : ManifestV2} {before after : List ManifestEntryV2} {entry : ManifestEntryV2}
  {scan scan' : EntryScan}

theorem placeEntry_eq_ok {root : ManifestRootV2} {placement : List (List Nat) × Nat × Nat}
    (scanned : Scanned manifest.entries.length before scan)
    (position : manifest.entries = before ++ entry :: after) :
    placeEntry manifest scan before.length entry root = .ok placement ↔
      Placed before root entry ∧ pathLength (wirePath (wirePaths before) entry) ≤ usizeMax ∧
        placement = ((List.range manifest.entries.length).map (childPositions (before ++ [entry])),
          (wirePath (wirePaths before) entry).length,
          pathLength (wirePath (wirePaths before) entry)) := by
  rw [children_concat]
  cases parent : entry.parentEntryId with
  | none =>
    simp only [placeEntry, Placed, wirePath, parent, bind_eq_ok, reject_eq_ok, pure_eq_ok,
      exists_unit, ne_eq, not_not, scanned.children, pathLength_nil, List.length_nil, Nat.zero_le,
      true_and, and_assoc, @eq_comm _ placement]
  | some parentId =>
    have depth :
        scan.depths.getD parentId.toNat 0 = ((wirePaths before).getD parentId.toNat []).length := by
      rw [scanned.depths, ← List.length_nil, List.getD_map]
    have bytes : scan.pathBytes.getD parentId.toNat 0 =
        pathLength ((wirePaths before).getD parentId.toNat []) := by
      rw [scanned.pathBytes, ← pathLength_nil, List.getD_map]
    simp only [placeEntry, Placed, wirePath, parent, bind_eq_ok, reject_eq_ok, pure_eq_ok,
      exists_unit, ne_eq, not_not, scanned.children, okOr_eq_ok, checkedAddUsize_chain, depth,
      bytes, ge_iff_le, not_le, pathLength_concat, List.length_append, List.length_singleton]
    constructor
    · rintro ⟨early, parentEntry, found, sameRoot, directory, sum, ⟨rfl, fits⟩, same⟩
      rw [position, List.getElem?_append_left early] at found
      exact ⟨⟨parentEntry, found, sameRoot, directory⟩, fits, same.symm⟩
    · rintro ⟨⟨parentEntry, found, sameRoot, directory⟩, fits, same⟩
      obtain ⟨early, _⟩ := List.getElem?_eq_some_iff.mp found
      have wide : (before ++ entry :: after)[parentId.toNat]? = some parentEntry := by
        rw [List.getElem?_append_left early, found]
      rw [← position] at wide
      exact ⟨early, parentEntry, wide, sameRoot, directory, _, ⟨rfl, fits⟩, same.symm⟩

theorem fileTotal_concat (before : List ManifestEntryV2) (entry : ManifestEntryV2) :
    fileTotal (before ++ [entry]) = fileTotal before + if isFile entry then 1 else 0 := by
  simp [fileTotal, List.countP_singleton]

theorem directoryTotal_concat (before : List ManifestEntryV2) (entry : ManifestEntryV2) :
    directoryTotal (before ++ [entry]) = directoryTotal before + if isFile entry then 0 else 1 := by
  cases file : isFile entry <;> simp [directoryTotal, file]

theorem byteTotal_concat (before : List ManifestEntryV2) (entry : ManifestEntryV2) :
    byteTotal (before ++ [entry]) = byteTotal before + if isFile entry then
      entry.plaintextSize.toNat else 0 := by
  cases file : isFile entry <;> simp [byteTotal, List.filter_append, file]

/-- The running totals after one more entry. -/
def Counted (before : List ManifestEntryV2) (scan : EntryScan) : Prop :=
  scan.fileCount.toNat = fileTotal before ∧ scan.directoryCount.toNat = directoryTotal before ∧
    scan.totalPlaintextBytes.toNat = byteTotal before

/-- `countEntry` touches the three totals only. -/
def sameOutsideTotals (scan scan' : EntryScan) : Prop :=
  scan' = { scan with
    fileCount := scan'.fileCount
    directoryCount := scan'.directoryCount
    totalPlaintextBytes := scan'.totalPlaintextBytes }

theorem countEntry_eq_ok (counted : Counted before scan) (small : before.length < 2 ^ 32 - 1) :
    countEntry scan entry = .ok scan' ↔
      (entry.kind = .directory → entry.plaintextSize = 0 ∧ entry.contentDigest = .deferred) ∧
        byteTotal (before ++ [entry]) < 2 ^ 64 ∧ Counted (before ++ [entry]) scan' ∧
        sameOutsideTotals scan scan' := by
  obtain ⟨files, directories, bytes⟩ := counted
  have filesFit : fileTotal before ≤ before.length := List.countP_le_length
  have directoriesFit : directoryTotal before ≤ before.length := List.countP_le_length
  have bytesFit : byteTotal before < 2 ^ 64 := bytes ▸ scan.totalPlaintextBytes.toNat_lt
  have one : (1 : UInt32).toNat = 1 := rfl
  cases kind : entry.kind with
  | regularFile =>
    have file : isFile entry = true := by simp [isFile, kind]
    simp only [countEntry, kind, bind_eq_ok, okOr_eq_ok, checkedAdd32_eq_some, checkedAdd64_eq_some,
      pure_eq_ok, Counted, sameOutsideTotals, fileTotal_concat, directoryTotal_concat,
      byteTotal_concat, file, if_true, files, bytes, one, reduceCtorEq, false_implies, true_and]
    constructor
    · rintro ⟨fileCount, ⟨_, fileSum⟩, byteCount, ⟨byteFits, byteSum⟩, rfl⟩
      exact ⟨byteFits, ⟨fileSum, by simpa using directories, byteSum⟩, rfl⟩
    · rintro ⟨byteFits, ⟨fileSum, directorySum, byteSum⟩, same⟩
      have unchanged : scan'.directoryCount = scan.directoryCount := by
        rw [← UInt32.toNat_inj, directorySum, directories, Nat.add_zero]
      refine ⟨scan'.fileCount, ⟨by omega, fileSum⟩, scan'.totalPlaintextBytes,
        ⟨byteFits, byteSum⟩, ?_⟩
      rw [same]
      simp only [unchanged]
  | directory =>
    have file : isFile entry = false := by simp [isFile, kind]
    simp only [countEntry, kind, bind_eq_ok, reject_eq_ok, exists_unit, okOr_eq_ok,
      checkedAdd32_eq_some, pure_eq_ok, Counted, sameOutsideTotals, fileTotal_concat,
      directoryTotal_concat, byteTotal_concat, file, Bool.false_eq_true, if_false, directories, one,
      ne_eq, not_or, not_not, Nat.add_zero, true_implies]
    constructor
    · rintro ⟨metadata, directoryCount, ⟨_, directorySum⟩, rfl⟩
      exact ⟨metadata, bytesFit, ⟨files, directorySum, bytes⟩, rfl⟩
    · rintro ⟨metadata, _, ⟨fileSum, directorySum, byteSum⟩, same⟩
      have filesUnchanged : scan'.fileCount = scan.fileCount := by
        rw [← UInt32.toNat_inj, fileSum, files]
      have bytesUnchanged : scan'.totalPlaintextBytes = scan.totalPlaintextBytes := by
        rw [← UInt64.toNat_inj, byteSum, bytes]
      refine ⟨metadata, scan'.directoryCount, ⟨by omega, directorySum⟩, ?_⟩
      rw [same]
      simp only [filesUnchanged, bytesUnchanged]

variable [UnicodeNormalization]

/-- What one iteration of the scan demands of the entry after `before`. -/
structure EntryOk (manifest : ManifestV2) (before : List ManifestEntryV2)
    (entry : ManifestEntryV2) :
    Prop where
  entryId : entry.entryId.toNat = before.length
  name : SafeComponent entry.component
  placed : ∃ root, manifest.roots[entry.rootId.toNat]? = some root ∧ Placed before root entry
  depth : (wirePath (wirePaths before) entry).length ≤ maxManifestV2PathDepth
  pathBytes : pathLength (wirePath (wirePaths before) entry) ≤ maxManifestV2PathBytes
  siblings : siblingKey entry ∉ before.map siblingKey
  directory : entry.kind = .directory → entry.plaintextSize = 0 ∧ entry.contentDigest = .deferred
  bytes : byteTotal (before ++ [entry]) < 2 ^ 64

/-- One iteration accepts exactly `EntryOk`, and then the accumulators describe one entry more. -/
theorem scanEntry_eq_ok (scanned : Scanned manifest.entries.length before scan)
    (position : manifest.entries = before ++ entry :: after)
    (small : before.length < maxManifestV2Entries) :
    scanEntry manifest scan before.length entry = .ok scan' ↔
      EntryOk manifest before entry ∧
        Scanned manifest.entries.length (before ++ [entry]) scan' := by
  have smallEnough : before.length < 2 ^ 32 - 1 := by
    have := small; unfold maxManifestV2Entries at this; omega
  have counted : ∀ children depths pathBytes siblingComponents, Counted before
      { scan with children, depths, pathBytes, siblingComponents } :=
    fun _ _ _ _ => ⟨scanned.fileCount, scanned.directoryCount, scanned.totalPlaintextBytes⟩
  simp only [scanEntry, bind_eq_ok, reject_eq_ok, mapErr_eq_ok, okOr_eq_ok, exists_unit,
    not_not, ne_eq, eq_ofNat_iff (by omega : before.length < 2 ^ 32), validateComponent_eq_ok,
    placeEntry_eq_ok scanned position, countEntry_eq_ok (counted _ _ _ _) smallEnough,
    gt_iff_lt, not_lt]
  constructor
  · rintro ⟨entryId, name, root, knownRoot, placement, ⟨placed, _, rfl⟩, depth, pathBytes, siblings,
      directory, bytes, ⟨files, directories, total⟩, same⟩
    rw [scanned.siblingComponents] at siblings
    refine ⟨⟨entryId, name, ⟨root, knownRoot, placed⟩, depth, pathBytes, siblings,
      directory, bytes⟩, ?_⟩
    rw [same]
    exact ⟨by simp [scanned.siblingComponents, siblingKey], files, directories, total,
      by simp [scanned.depths, wirePaths_concat],
      by simp [scanned.pathBytes, wirePaths_concat], rfl⟩
  · rintro ⟨entryOk, next⟩
    obtain ⟨root, knownRoot, placed⟩ := entryOk.placed
    have fits : pathLength (wirePath (wirePaths before) entry) ≤ usizeMax :=
      Nat.le_trans entryOk.pathBytes (by decide)
    refine ⟨entryOk.entryId, entryOk.name, root, knownRoot, _, ⟨placed, fits, rfl⟩, entryOk.depth,
      entryOk.pathBytes, ?_, entryOk.directory, entryOk.bytes,
      ⟨next.fileCount, next.directoryCount, next.totalPlaintextBytes⟩, ?_⟩
    · rw [scanned.siblingComponents]
      exact entryOk.siblings
    · obtain ⟨siblings, _, _, _, depths, pathBytes, children⟩ := next
      unfold sameOutsideTotals
      rw [← children, scanned.depths, scanned.pathBytes, scanned.siblingComponents]
      rw [wirePaths_concat, List.map_append] at depths pathBytes
      rw [List.map_append] at siblings
      cases scan'
      simp_all [siblingKey]

omit [UnicodeNormalization] in
theorem Scanned.unique {entryCount : Nat} (left : Scanned entryCount before scan)
    (right : Scanned entryCount before scan') : scan = scan' := by
  have files : scan.fileCount = scan'.fileCount :=
    UInt32.toNat_inj.mp (left.fileCount.trans right.fileCount.symm)
  have directories : scan.directoryCount = scan'.directoryCount :=
    UInt32.toNat_inj.mp (left.directoryCount.trans right.directoryCount.symm)
  have bytes : scan.totalPlaintextBytes = scan'.totalPlaintextBytes :=
    UInt64.toNat_inj.mp (left.totalPlaintextBytes.trans right.totalPlaintextBytes.symm)
  obtain ⟨leftSiblings, _, _, _, leftDepths, leftPathBytes, leftChildren⟩ := left
  obtain ⟨rightSiblings, _, _, _, rightDepths, rightPathBytes, rightChildren⟩ := right
  cases scan
  cases scan'
  simp_all

omit [UnicodeNormalization] in
/-- The totals of a prefix that fits have a scan that holds them. -/
theorem exists_scanned (entryCount : Nat) (small : before.length ≤ maxManifestV2Entries)
    (bytes : byteTotal before < 2 ^ 64) : ∃ scan, Scanned entryCount before scan := by
  have filesFit : fileTotal before ≤ before.length := List.countP_le_length
  have directoriesFit : directoryTotal before ≤ before.length := List.countP_le_length
  have limit : maxManifestV2Entries < UInt32.size := by decide
  exact ⟨{
      siblingComponents := before.map siblingKey
      fileCount := UInt32.ofNat (fileTotal before)
      directoryCount := UInt32.ofNat (directoryTotal before)
      totalPlaintextBytes := UInt64.ofNat (byteTotal before)
      depths := (wirePaths before).map List.length
      pathBytes := (wirePaths before).map pathLength
      children := (List.range entryCount).map (childPositions before) },
    rfl, UInt32.toNat_ofNat_of_lt' (by omega), UInt32.toNat_ofNat_of_lt' (by omega),
    UInt64.toNat_ofNat_of_lt' bytes, rfl, rfl, rfl⟩

/-- The whole scan accepts exactly when every entry is fine after the entries before it. -/
theorem scanEntries_eq_ok {rest : List ManifestEntryV2}
    (scanned : Scanned manifest.entries.length before scan)
    (position : manifest.entries = before ++ rest)
    (small : manifest.entries.length ≤ maxManifestV2Entries) :
    scanEntries manifest before.length rest scan = .ok scan' ↔
      (∀ middle entry after, rest = middle ++ entry :: after →
        EntryOk manifest (before ++ middle) entry) ∧
        Scanned manifest.entries.length manifest.entries scan' := by
  induction rest generalizing before scan with
  | nil =>
    rw [List.append_nil] at position
    simp only [scanEntries, Except.ok.injEq]
    constructor
    · rintro rfl
      exact ⟨by simp, position ▸ scanned⟩
    · intro ⟨_, complete⟩
      rw [position] at scanned complete
      exact scanned.unique complete
  | cons entry rest inductionHypothesis =>
    have roomy : before.length < maxManifestV2Entries := by
      have := congrArg List.length position
      simp only [List.length_append, List.length_cons] at this
      omega
    have tailPosition : manifest.entries = (before ++ [entry]) ++ rest := by simp [position]
    simp only [scanEntries, bind_eq_ok, scanEntry_eq_ok scanned position roomy]
    constructor
    · intro ⟨next, ⟨entryOk, nextScanned⟩, tail⟩
      rw [show before.length + 1 = (before ++ [entry]).length by simp,
        inductionHypothesis nextScanned tailPosition] at tail
      refine ⟨fun middle other after split => ?_, tail.2⟩
      cases middle with
      | nil =>
        simp only [List.nil_append, List.cons.injEq] at split
        rw [List.append_nil, ← split.1]
        exact entryOk
      | cons first middle =>
        simp only [List.cons_append, List.cons.injEq] at split
        have later := tail.1 middle other after split.2
        rwa [List.append_assoc, List.singleton_append, split.1] at later
    · intro ⟨every, complete⟩
      have entryOk : EntryOk manifest before entry := by
        have first := every [] entry rest rfl
        rwa [List.append_nil] at first
      obtain ⟨next, nextScanned⟩ := exists_scanned manifest.entries.length
        (by simpa using roomy : (before ++ [entry]).length ≤ maxManifestV2Entries) entryOk.bytes
      refine ⟨next, ⟨entryOk, nextScanned⟩, ?_⟩
      rw [show before.length + 1 = (before ++ [entry]).length by simp,
        inductionHypothesis nextScanned tailPosition]
      refine ⟨fun middle other after split => ?_, complete⟩
      have later := every (entry :: middle) other after (by rw [split, List.cons_append])
      rwa [← List.singleton_append, ← List.append_assoc] at later

end Scan

/-! ## The canonical order -/

theorem checkOrder_eq_ok {expected : Nat} {order : List Nat} :
    checkOrder expected order = .ok () ↔ order = List.range' expected order.length := by
  induction order generalizing expected with
  | nil => simp [checkOrder]
  | cons actual order inductionHypothesis =>
    simp only [checkOrder, bind_eq_ok, reject_eq_ok, exists_unit, ne_eq, not_not,
      inductionHypothesis, List.length_cons, List.range'_succ, List.cons.injEq, @eq_comm _ expected]

theorem length_dedup_eq_iff {ids : List UInt32} : ids.dedup.length = ids.length ↔ ids.Nodup := by
  rw [← List.dedup_eq_self]
  exact ⟨(List.dedup_sublist ids).eq_of_length, congrArg List.length⟩

/-- The traversal `validate` compares with the list positions. -/
def traversal (manifest : ManifestV2) : List Nat :=
  canonicalOrder manifest
    ((List.range manifest.entries.length).map (childPositions manifest.entries))

section Accepted

variable [UnicodeNormalization]

/-- `validate`, check by check. -/
structure Accepted (manifest : ManifestV2) : Prop where
  jobId : manifest.jobId.bytes ≠ ByteVector.zero 16
  generation : manifest.generation ≠ 0
  selectionRevision : manifest.selectionRevision ≠ 0
  rootCount : 1 ≤ manifest.roots.length ∧ manifest.roots.length ≤ maxManifestV2Roots
  entryCount : 1 ≤ manifest.entries.length ∧ manifest.entries.length ≤ maxManifestV2Entries
  roots : Each (RootOk manifest.entries.length) 0 manifest.roots
  entries : ∀ before entry after, manifest.entries = before ++ entry :: after →
    EntryOk manifest before entry
  distinct : (manifest.roots.map (fun root => root.rootEntryId)).Nodup
  order : traversal manifest = List.range (traversal manifest).length
  files : manifest.totals.fileCount.toNat = fileTotal manifest.entries
  directoryCount : manifest.totals.directoryCount.toNat = directoryTotal manifest.entries
  bytes : manifest.totals.totalPlaintextBytes.toNat = byteTotal manifest.entries

theorem validate_eq_ok {manifest : ManifestV2} : manifest.validate = .ok () ↔
    Accepted manifest := by
  have sameLength :
    manifest.roots.length = (manifest.roots.map (fun root => root.rootEntryId)).length :=
    (List.length_map _).symm
  simp only [ManifestV2.validate, bind_eq_ok, reject_eq_ok, exists_unit, gt_iff_lt, not_lt,
    ne_eq, not_not, checkOrder_eq_ok, ← List.length_pos_iff, sameLength, length_dedup_eq_iff]
  simp only [← sameLength]
  constructor
  · rintro ⟨jobId, generation, selectionRevision, someRoots, rootCount, someEntries, entryCount,
      roots, scan, scanOk, distinct, order, totals⟩
    have rootsFit : 0 + manifest.roots.length ≤ 2 ^ 32 := by
      unfold maxManifestV2Roots at rootCount; omega
    obtain ⟨every, scanned⟩ :=
      (scanEntries_eq_ok (scanned_start manifest.entries.length) rfl entryCount).mp scanOk
    rw [scanned.children, ← List.range_eq_range'] at order
    exact {
      jobId, generation, selectionRevision
      rootCount := ⟨someRoots, rootCount⟩
      entryCount := ⟨someEntries, entryCount⟩
      roots := (validateRoots_eq_ok rootsFit).mp roots
      entries := every
      distinct, order
      files := totals ▸ scanned.fileCount
      directoryCount := totals ▸ scanned.directoryCount
      bytes := totals ▸ scanned.totalPlaintextBytes }
  · intro accepted
    have rootsFit : 0 + manifest.roots.length ≤ 2 ^ 32 := by
      have := accepted.rootCount.2
      unfold maxManifestV2Roots at this; omega
    have bytesFit : byteTotal manifest.entries < 2 ^ 64 :=
      accepted.bytes ▸ manifest.totals.totalPlaintextBytes.toNat_lt
    obtain ⟨scan, scanned⟩ := exists_scanned manifest.entries.length accepted.entryCount.2 bytesFit
    refine ⟨accepted.jobId, accepted.generation, accepted.selectionRevision, accepted.rootCount.1,
      accepted.rootCount.2, accepted.entryCount.1, accepted.entryCount.2,
      (validateRoots_eq_ok rootsFit).mpr accepted.roots, scan,
      (scanEntries_eq_ok (scanned_start manifest.entries.length) rfl accepted.entryCount.2).mpr
        ⟨accepted.entries, scanned⟩, accepted.distinct, ?_, ?_⟩
    · rw [scanned.children, ← List.range_eq_range']
      exact accepted.order
    · have files : manifest.totals.fileCount = scan.fileCount :=
        UInt32.toNat_inj.mp (accepted.files.trans scanned.fileCount.symm)
      have directories : manifest.totals.directoryCount = scan.directoryCount :=
        UInt32.toNat_inj.mp (accepted.directoryCount.trans scanned.directoryCount.symm)
      have bytes : manifest.totals.totalPlaintextBytes = scan.totalPlaintextBytes :=
        UInt64.toNat_inj.mp (accepted.bytes.trans scanned.totalPlaintextBytes.symm)
      rw [← files, ← directories, ← bytes]

end Accepted

end Envoix.Protocol
