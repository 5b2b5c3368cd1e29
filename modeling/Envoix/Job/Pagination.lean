import Envoix.Job.SelectionRuns

/-! # Pages of an inventory

Model of `list_children` and `page_inventory` of `envoix-transfer/src/job.rs`.  The pages a caller
gets by following the cursors, whatever limits it asks for, are the children of the parent in the
order of the inventory. -/

namespace Envoix.Job

open ByteCodec Fallible Envoix.Protocol CanonicalTransferJob

def maxInventoryPageSize : Nat := 512

structure InventoryCursor where
  revision : UInt64
  offset : UInt32
deriving DecidableEq

structure InventoryItem where
  itemId : SourceItemId
  rootItemId : SourceItemId
  parentItemId : Option SourceItemId
  name : String
  kind : ManifestEntryKindV2
  plaintextSize : UInt64
  digestKnown : Bool
  hasWarning : Bool
deriving DecidableEq

structure InventoryPage where
  revision : UInt64
  items : List InventoryItem
  nextCursor : Option InventoryCursor
deriving DecidableEq

namespace CanonicalTransferJob

def projectInventoryItem (self : CanonicalTransferJob) (entry : PreparedInventoryEntry) :
    InventoryItem where
  itemId := entry.itemId
  rootItemId := entry.rootItemId
  parentItemId := entry.parentItemId
  name := entry.name
  kind := entry.kind
  plaintextSize := entry.plaintextSize
  digestKnown := entry.digest.isSome
  hasWarning := (self.selections.find? fun selection => selection.rootItemId = entry.rootItemId).any
    fun selection => ¬ selection.issues.isEmpty

/-- The offset a cursor stands for; it has to be of the job's revision. -/
def cursorOffset (self : CanonicalTransferJob) : Option InventoryCursor →
    Except TransferJobError Nat
  | none => pure 0
  | some cursor => do
    reject (cursor.revision ≠ self.selectionRevision)
      (.staleInventoryCursor self.selectionRevision cursor.revision)
    pure cursor.offset.toNat

/-- The sum saturates at `usize::MAX` in the source, which no list reaches. -/
def pageInventory (self : CanonicalTransferJob) (entries : List PreparedInventoryEntry)
    (cursor : Option InventoryCursor) (limit : Nat) : Except TransferJobError InventoryPage := do
  reject (limit = 0 ∨ limit > maxInventoryPageSize) .invalidPageLimit
  let offset ← self.cursorOffset cursor
  let items := ((entries.drop offset).take limit).map self.projectInventoryItem
  let nextOffset := offset + items.length
  pure {
    revision := self.selectionRevision
    items
    nextCursor := if nextOffset < entries.length then
      some ⟨self.selectionRevision, UInt32.ofNat nextOffset⟩
    else none }

def childrenOf (self : CanonicalTransferJob) (parentItemId : SourceItemId) :
    List PreparedInventoryEntry :=
  self.inventory.filter fun entry => entry.parentItemId = some parentItemId

def listChildren (self : CanonicalTransferJob) (parentItemId : SourceItemId)
    (cursor : Option InventoryCursor) (limit : Nat) : Except TransferJobError InventoryPage :=
  self.pageInventory (self.childrenOf parentItemId) cursor limit

end CanonicalTransferJob

/-! ## Following the cursors -/

/-- The pages a caller gets for these limits, from a cursor on until there is no other. -/
inductive FollowsCursors (job : CanonicalTransferJob) (parentItemId : SourceItemId) :
    Option InventoryCursor → List Nat → List InventoryPage → Prop where
  | last {cursor : Option InventoryCursor} {limit : Nat} {page : InventoryPage}
      (listed : job.listChildren parentItemId cursor limit = .ok page)
      (done : page.nextCursor = none) :
      FollowsCursors job parentItemId cursor [limit] [page]
  | next {cursor : Option InventoryCursor} {limit : Nat} {page : InventoryPage}
      {following : InventoryCursor} {limits : List Nat} {pages : List InventoryPage}
      (listed : job.listChildren parentItemId cursor limit = .ok page)
      (more : page.nextCursor = some following)
      (rest : FollowsCursors job parentItemId (some following) limits pages) :
      FollowsCursors job parentItemId cursor (limit :: limits) (page :: pages)

section Pages

variable {job : CanonicalTransferJob} {parentItemId : SourceItemId}
  {cursor : Option InventoryCursor} {offset : Nat}

/-- The page at an offset: the next entries, and a cursor to those after them. -/
theorem listChildren_at {limit : Nat} (here : job.cursorOffset cursor = .ok offset)
    (positive : 1 ≤ limit) (bounded : limit ≤ maxInventoryPageSize)
    (within : offset ≤ (job.childrenOf parentItemId).length) :
    job.listChildren parentItemId cursor limit = .ok {
      revision := job.selectionRevision
      items := (((job.childrenOf parentItemId).drop offset).take limit).map job.projectInventoryItem
      nextCursor :=
        if offset + limit < (job.childrenOf parentItemId).length then
          some ⟨job.selectionRevision, UInt32.ofNat (offset + limit)⟩
        else none } := by
  unfold listChildren pageInventory
  rw [reject_of_not (by omega), ok_bind, here, ok_bind]
  refine congrArg Except.ok (congrArg _ ?_)
  rw [List.length_map, List.length_take, List.length_drop]
  by_cases more : offset + limit < (job.childrenOf parentItemId).length
  · rw [Nat.min_eq_left (by omega)]
  · rw [Nat.min_eq_right (by omega), if_neg more, if_neg (by omega)]

/-- A page there is was asked for with a limit the code takes. -/
theorem limit_of_listChildren {limit : Nat} {page : InventoryPage}
    (listed : job.listChildren parentItemId cursor limit = .ok page) :
    1 ≤ limit ∧ limit ≤ maxInventoryPageSize := by
  unfold listChildren pageInventory at listed
  simp only [bind_eq_ok, reject_eq_ok] at listed
  obtain ⟨_, valid, _⟩ := listed
  omega

theorem offset_of_cursor (few : (job.childrenOf parentItemId).length ≤ maxManifestV2Entries)
    {next : Nat} (more : next < (job.childrenOf parentItemId).length) :
    job.cursorOffset (some ⟨job.selectionRevision, UInt32.ofNat next⟩) = .ok next := by
  have small : next < 2 ^ 32 := by
    have bound : maxManifestV2Entries < 2 ^ 32 := by decide
    omega
  rw [cursorOffset, reject_of_not (by simp), ok_bind]
  exact congrArg Except.ok (UInt32.toNat_ofNat_of_lt small)

/-- From an offset on the pages are the rest of the list: the page there is its next piece, and the
cursor it gives is at the end of that. -/
theorem FollowsCursors.items (few : (job.childrenOf parentItemId).length ≤ maxManifestV2Entries)
    {limits : List Nat} {pages : List InventoryPage}
    (follows : FollowsCursors job parentItemId cursor limits pages)
    (here : job.cursorOffset cursor = .ok offset)
    (within : offset ≤ (job.childrenOf parentItemId).length) :
    pages.flatMap (fun page => page.items) =
      ((job.childrenOf parentItemId).drop offset).map job.projectInventoryItem := by
  induction follows generalizing offset with
  | @last cursor limit page listed done =>
    obtain ⟨positive, bounded⟩ := limit_of_listChildren listed
    rw [listChildren_at here positive bounded within] at listed
    obtain rfl := Except.ok.inj listed
    dsimp only at done
    split at done
    · cases done
    · next end_ =>
      rw [List.flatMap_singleton, List.take_of_length_le]
      rw [List.length_drop]
      omega
  | @next cursor limit page following limits pages listed more rest ih =>
    obtain ⟨positive, bounded⟩ := limit_of_listChildren listed
    rw [listChildren_at here positive bounded within] at listed
    obtain rfl := Except.ok.inj listed
    dsimp only at more
    split at more
    · next inside =>
      obtain rfl := Option.some.inj more
      rw [List.flatMap_cons, ih (offset_of_cursor few inside) inside.le, ← List.map_append,
        ← List.drop_drop, List.take_append_drop]
    · cases more

/-- Every page moves on by at least one entry, so the cursors end. -/
theorem exists_followsCursors (few : (job.childrenOf parentItemId).length ≤ maxManifestV2Entries)
    (limits : Nat → Nat) (taken : ∀ index, 1 ≤ limits index ∧ limits index ≤ maxInventoryPageSize)
      (left asked : Nat)
    (here : job.cursorOffset cursor = .ok offset)
    (rest : offset + left = (job.childrenOf parentItemId).length) :
    ∃ count ≤ left + 1, ∃ pages,
      FollowsCursors job parentItemId cursor ((List.range' asked count).map limits) pages := by
  induction left using Nat.strongRecOn generalizing cursor offset asked with
  | ind left ih =>
    obtain ⟨positive, bounded⟩ := taken asked
    have within : offset ≤ (job.childrenOf parentItemId).length := by omega
    have listed := listChildren_at here positive bounded within
    by_cases inside : offset + limits asked < (job.childrenOf parentItemId).length
    · have next := offset_of_cursor few inside
      obtain ⟨count, short, pages, follows⟩ :=
        ih (left - limits asked) (by omega) (asked + 1) next (by omega)
      have first := FollowsCursors.next listed (if_pos inside) follows
      rw [← List.map_cons, ← List.range'_succ] at first
      exact ⟨count + 1, by omega, _, first⟩
    · exact ⟨1, by omega, [_], .last listed (if_neg inside)⟩

end Pages

/-- For every job, the pages under any limits end, and are the children of the parent in the order
of the inventory; a cursor of another revision is refused. -/
theorem pagination_lossless [UnicodeNormalization] [Blake3] [JobJson] {World : Type}
    {contract : Process.Contract JobOp JobReply World} {store : TransferJobStore}
    {job : CanonicalTransferJob} {world : World} (held : HeldJob contract store job world)
    (parentItemId : SourceItemId) :
    (∀ limits : Nat → Nat, (∀ index, 1 ≤ limits index ∧ limits index ≤ maxInventoryPageSize) →
      ∃ count ≤ (job.childrenOf parentItemId).length + 1, ∃ pages,
        FollowsCursors job parentItemId none ((List.range count).map limits) pages) ∧
    (∀ limits pages, FollowsCursors job parentItemId none limits pages →
      pages.flatMap (fun page => page.items) =
        (job.childrenOf parentItemId).map job.projectInventoryItem) ∧
    ((job.childrenOf parentItemId).map fun entry => entry.itemId).Nodup ∧
    (∀ (cursor : InventoryCursor) (limit : Nat), cursor.revision ≠ job.selectionRevision →
      job.listChildren parentItemId (some cursor) limit = .error
        (if 1 ≤ limit ∧ limit ≤ maxInventoryPageSize then
          .staleInventoryCursor job.selectionRevision cursor.revision
        else .invalidPageLimit)) := by
  have stocked := held.stocked
  have few : (job.childrenOf parentItemId).length ≤ maxManifestV2Entries :=
    (List.length_filter_le _ _).trans stocked.few
  refine ⟨fun limits taken => ?_, fun limits pages follows => ?_, ?_, fun cursor limit stale => ?_⟩
  · simp only [List.range_eq_range']
    exact exists_followsCursors few limits taken _ 0 rfl (Nat.zero_add _)
  · exact follows.items few rfl (Nat.zero_le _)
  · exact stocked.nodup.sublist (List.filter_sublist.map _)
  · unfold listChildren pageInventory
    by_cases valid : 1 ≤ limit ∧ limit ≤ maxInventoryPageSize
    · rw [reject_of_not (by omega), ok_bind, cursorOffset, reject_of stale, if_pos valid]
      rfl
    · rw [reject_of (by omega), if_neg valid]
      rfl

/-! ## A folder of three -/

def secondPath : PathBuf := folderPath.join (asBytes "g")
def thirdPath : PathBuf := folderPath.join (asBytes "h")

def threeObjects : List (PathBuf × FileType) :=
  [(folderPath, .directory), (filePath, .regularFile), (secondPath, .regularFile),
    (thirdPath, .directory)]

theorem threeObjects_plain : ∀ object ∈ threeObjects, object.2 ≠ .symlink := by decide

theorem threeObjects_nested : ∀ object ∈ threeObjects, ∀ above ∈ threeObjects,
    above.1.components <+: object.1.components → above.1 ≠ object.1 →
      threeObjects.lookup above.1 = some .directory := by
  decide

def threeTree : FileTree := plainTree threeObjects threeObjects_plain threeObjects_nested

def secondItem : ByteVector 32 :=
  ⟨[0x90, 0xb6, 0xc1, 0xe6, 0xf7, 0xb9, 0xd8, 0xcd, 0xd5, 0x3f, 0xfe, 0xd9, 0x75, 0x1e, 0xa6, 0x88,
    0x85, 0xda, 0x62, 0x13, 0xda, 0x1e, 0xe3, 0x06, 0x1c, 0xc7, 0x89, 0xe8, 0x5f, 0x2b, 0xaf, 0xf9],
      rfl⟩

def thirdItem : ByteVector 32 :=
  ⟨[0xe7, 0x89, 0xd8, 0xe5, 0x94, 0xce, 0xdc, 0x74, 0x98, 0x67, 0xf6, 0x1a, 0x6e, 0xa5, 0x3e, 0x8c,
    0x91, 0x39, 0x40, 0x90, 0x63, 0x59, 0xd3, 0x63, 0x0e, 0x23, 0xb0, 0x59, 0xf3, 0xe2, 0xd3, 0x0d],
      rfl⟩

def secondPathDigest : ByteVector 32 :=
  ⟨[0x1e, 0xbb, 0xd0, 0x8f, 0x1d, 0x4a, 0x81, 0x93, 0xec, 0xcf, 0xee, 0x78, 0x7e, 0x0f, 0x3a, 0x00,
    0x7d, 0x36, 0xdf, 0x6c, 0x22, 0x99, 0x09, 0x53, 0x17, 0x51, 0x8f, 0x4f, 0x96, 0x7f, 0x91, 0xad],
      rfl⟩

def thirdPathDigest : ByteVector 32 :=
  ⟨[0x2e, 0x25, 0x2c, 0x34, 0x1f, 0x7a, 0x61, 0x69, 0x2d, 0xa1, 0xc5, 0x96, 0x0a, 0xb9, 0x92, 0x7e,
    0xd2, 0x04, 0x9f, 0x0b, 0xa7, 0xb9, 0x33, 0x87, 0x49, 0xa6, 0x01, 0x2e, 0x3c, 0x06, 0x70, 0xdc],
      rfl⟩

/-- BLAKE3 on what preparing the folder of three hashes. -/
@[reducible] def threeBlake3 : Blake3 where
  hash input :=
    let seed : Bytes := List.replicate 16 7 ++ u64Be 1 ++ u64Be 0
    if input = seed ++ u32Be 1 ++ asBytes "g" then secondItem
    else if input = seed ++ u32Be 1 ++ asBytes "h" then thirdItem
    else if input = secondPath.encodedBytes then secondPathDigest
    else if input = thirdPath.encodedBytes then thirdPathDigest
    else sampleTreeBlake3.hash input
  deriveKey _ _ := ByteVector.zero 32
  keyedHash _ _ := ByteVector.zero 32

/-- The folder with its two files and its directory, prepared. -/
def preparedRun : Option (List JobEvent × CanonicalTransferJob × Unit) :=
  @playJob asciiNormalization threeBlake3 unusedJson _ threeTree.contract.after
    (treeReplies threeTree [asBytes "f", asBytes "g", asBytes "h"]) sampleStore .smart
    [.addLocalPath folderPath, .prepareAll] ()

def folderItemId : SourceItemId := ⟨0xfbcd9166490285fa⟩

/-- Pages of one, of two and of one again, the second of which is the last. -/
theorem pagination_lossless_folder :
    ∃ events job, preparedRun = some (events, job, ()) ∧
      ((job.childrenOf folderItemId).map fun entry => entry.name) = ["f", "g", "h"] ∧
      (job.listChildren folderItemId none 1).toOption.map (fun page =>
        (page.items.map InventoryItem.name, page.nextCursor)) =
          some (["f"], some ⟨job.selectionRevision, 1⟩) ∧
      (job.listChildren folderItemId (some ⟨job.selectionRevision, 1⟩) 2).toOption.map (fun page =>
        (page.items.map InventoryItem.name, page.nextCursor)) = some (["g", "h"], none) ∧
      (∃ count ≤ (job.childrenOf folderItemId).length + 1, ∃ pages,
        FollowsCursors job folderItemId none ((List.range count).map fun index =>
          index % 2 + 1) pages) ∧
      (∀ limits pages, FollowsCursors job folderItemId none limits pages →
        pages.flatMap (fun page => page.items) =
          (job.childrenOf folderItemId).map job.projectInventoryItem) ∧
      job.listChildren folderItemId (some ⟨1, 0⟩) 1 =
        .error (.staleInventoryCursor job.selectionRevision 1) := by
  have prepared : preparedRun.any (fun reached =>
      decide (((reached.2.1.childrenOf folderItemId).map fun entry => entry.name) =
        ["f", "g", "h"]) &&
      decide (reached.2.1.selectionRevision = 3) &&
      decide ((reached.2.1.listChildren folderItemId none 1).toOption.map (fun page =>
        (page.items.map InventoryItem.name, page.nextCursor)) = some (["f"], some ⟨3, 1⟩)) &&
      decide ((reached.2.1.listChildren folderItemId (some ⟨3, 1⟩) 2).toOption.map (fun page =>
        (page.items.map InventoryItem.name, page.nextCursor)) = some (["g", "h"], none))) =
          true := by decide +kernel
  obtain ⟨⟨events, job, world⟩, played, holds⟩ := (Option.any_eq_true _ _).mp prepared
  simp only [Bool.and_eq_true, decide_eq_true_eq] at holds
  obtain ⟨⟨⟨names, revision⟩, first⟩, second⟩ := holds
  have run :=
    @jobRun_of_playJob asciiNormalization threeBlake3 unusedJson _ _ _ _ _ treeReplies_allowed
      _ _ _ played
  have held := @JobRun.held asciiNormalization threeBlake3 unusedJson _ _ _ _ _ _ _ run
  obtain ⟨ends, lossless, -, stale⟩ :=
    @pagination_lossless asciiNormalization threeBlake3 unusedJson _ _ _ _ _ held folderItemId
  refine ⟨events, job, played, names, revision ▸ first, revision ▸ second, ends _ fun index => ?_,
    lossless, ?_⟩
  · have bound : 2 ≤ maxInventoryPageSize := by decide
    omega
  · exact stale ⟨1, 0⟩ 1 (show (1 : UInt64) ≠ job.selectionRevision by rw [revision]; decide)

end Envoix.Job
