import Envoix.Job.SelectionRuns
import Envoix.Protocol.ManifestCanonical

/-! # The sources of a sealed job

`source_for_sealed_entry` of `envoix-transfer/src/job.rs` finds the file of a manifest entry by
going through selections and inventory a second time.  Sealing has left a record of which inventory
entry each manifest entry was built from, and the two agree as long as the job is not canceled. -/

namespace Envoix.Job

open ByteCodec Fallible Process Process.Method Relation Envoix.Protocol CanonicalTransferJob

structure PreparedFileSource where
  path : PathBuf
  fingerprint : SourceFingerprint
deriving DecidableEq

namespace CanonicalTransferJob

/-- The inventory entries, root by root in the order of the selections. -/
def entriesByRoot (self : CanonicalTransferJob) : List PreparedInventoryEntry :=
  self.selections.flatMap fun selection => entriesOf self.inventory selection.rootItemId

def sourceForSealedEntry (self : CanonicalTransferJob) (entryId : UInt32) :
    Except TransferJobError PreparedFileSource := do
  reject (self.lifecycle ≠ .sealed) .preparationIncomplete
  let entry ← okOr self.entriesByRoot[entryId.toNat]? (.unknownItem ⟨entryId.toUInt64⟩)
  reject (entry.kind ≠ .regularFile) .notRegularFile
  let binding ← okOr (self.sourceBindings.lookup entry.itemId) (.unknownItem entry.itemId)
  pure { path := binding.path, fingerprint := binding.fingerprint }

end CanonicalTransferJob

/-! ## Bindings and ids -/

theorem lookup_extend {added : SourceBindings} (distinct : (added.map Prod.fst).Nodup)
    (bindings : SourceBindings) (itemId : SourceItemId) :
    (bindings.extend added).lookup itemId = (added.lookup itemId).or (bindings.lookup itemId) := by
  induction added generalizing bindings with
  | nil => rfl
  | cons bound rest ih =>
    obtain ⟨key, binding⟩ := bound
    rw [List.map_cons, List.nodup_cons] at distinct
    show ((bindings.insert key binding).extend rest).lookup itemId = _
    rw [ih distinct.2, lookup_insert, List.lookup_cons]
    by_cases same : itemId = key
    · have gone : rest.lookup itemId = none := by
        rw [List.lookup_eq_none_iff]
        intro other listed
        have apart : other.1 ≠ itemId := fun here =>
          distinct.1 (List.mem_map.mpr ⟨other, listed, here.trans same⟩)
        exact bne_iff_ne.mpr apart.symm
      rw [gone, if_pos same, beq_iff_eq.mpr same]
      rfl
    · rw [if_neg same, beq_false_of_ne same]

theorem lookup_filter_mem {ids : List SourceItemId} {itemId : SourceItemId} (kept : itemId ∈ ids)
    (bindings : SourceBindings) :
    (bindings.filter fun bound => bound.1 ∈ ids).lookup itemId = bindings.lookup itemId := by
  induction bindings with
  | nil => rfl
  | cons bound rest ih =>
    obtain ⟨key, binding⟩ := bound
    by_cases listed : key ∈ ids
    · rw [List.filter_cons_of_pos (by simpa using listed), List.lookup_cons, List.lookup_cons, ih]
    · have apart : (itemId == key) = false := beq_false_of_ne fun same => listed (same ▸ kept)
      rw [List.filter_cons_of_neg (by simpa using listed), List.lookup_cons, ih, apart]

/-- Every entry of the inventory has the binding it was enumerated with, and no two roots have one
id. -/
structure CanonicalTransferJob.Sourced (job : CanonicalTransferJob) : Prop where
  bound : ∀ entry ∈ job.inventory, ∃ binding,
    job.sourceBindings.lookup entry.itemId = some binding ∧ binding.Binds entry
  roots : (job.selections.map fun selection => selection.rootItemId).Nodup
  numbered : ∀ selection ∈ job.selections, selection.rootItemId.value < job.nextSourceItemId

theorem CanonicalTransferJob.Fresh.sourced {job : CanonicalTransferJob} (fresh : job.Fresh) :
    job.Sourced where
  bound entry listed := absurd (fresh.inventory ▸ listed) List.not_mem_nil
  roots := by rw [fresh.selections]; exact List.nodup_nil
  numbered selection listed := absurd (fresh.selections ▸ listed) List.not_mem_nil

/-- Entries that stay keep their bindings. -/
theorem bound_retain {job : CanonicalTransferJob} (sourced : job.Sourced)
    {keep : PreparedInventoryEntry → Bool} {entry : PreparedInventoryEntry}
    (listed : entry ∈ job.inventory.filter keep) :
    ∃ binding, (job.sourceBindings.filter fun bound =>
      bound.1 ∈ (job.inventory.filter keep).map fun entry => entry.itemId).lookup entry.itemId =
        some binding ∧
        binding.Binds entry := by
  rw [lookup_filter_mem (List.mem_map_of_mem listed)]
  exact sourced.bound entry (List.mem_filter.mp listed).1

theorem rootItemId_reindex (selections : List SourceSelection) :
    (selections.mapIdx fun index selection =>
      { selection with selectionOrder := UInt32.ofNat index }).map
      (fun selection => selection.rootItemId) = selections.map fun selection =>
        selection.rootItemId := by
  refine List.ext_getElem (by simp) fun index _ _ => ?_
  simp only [List.getElem_map, List.getElem_mapIdx]

theorem rootItemId_modify {change : SourceSelection → SourceSelection}
    (same : ∀ selection, (change selection).rootItemId = selection.rootItemId)
      (selections : List SourceSelection)
    (index : Nat) :
    (selections.modify index change).map (fun selection => selection.rootItemId) =
      selections.map fun selection => selection.rootItemId := by
  refine List.ext_getElem? fun position => ?_
  simp only [List.getElem?_map, List.getElem?_modify]
  cases selections[position]? with
  | none => rfl
  | some selection =>
    show some _ = some _
    split
    · exact congrArg some (same selection)
    · rfl

/-- Entries, bindings and ids are the same up to digests. -/
theorem CanonicalTransferJob.Sourced.same {job left : CanonicalTransferJob} (sourced : job.Sourced)
    (inventory : left.inventory.map (fun entry => { entry with digest := none }) =
      job.inventory.map fun entry => { entry with digest := none })
    (bindings : left.sourceBindings = job.sourceBindings)
    (roots : left.selections.map (fun selection => selection.rootItemId) =
      job.selections.map fun selection => selection.rootItemId)
    (next : job.nextSourceItemId ≤ left.nextSourceItemId) : left.Sourced where
  bound entry listed := by
    have there : ({ entry with digest := none } : PreparedInventoryEntry) ∈
        job.inventory.map fun entry => { entry with digest := none } :=
      inventory ▸ List.mem_map_of_mem listed
    obtain ⟨old, oldListed, alike⟩ := List.mem_map.mp there
    obtain ⟨binding, found, binds⟩ := sourced.bound old oldListed
    simp only [PreparedInventoryEntry.mk.injEq] at alike
    obtain ⟨itemId, -, -, -, -, -, size, modified, -⟩ := alike
    exact ⟨binding, by rw [bindings, ← itemId, found], binds.1.trans size, binds.2.trans modified⟩
  roots := roots ▸ sourced.roots
  numbered selection listed := by
    have there : selection.rootItemId ∈ job.selections.map fun selection => selection.rootItemId :=
      roots ▸ List.mem_map_of_mem listed
    obtain ⟨old, oldListed, same⟩ := List.mem_map.mp there
    exact UInt64.lt_of_lt_of_le (same ▸ sourced.numbered old oldListed) next

/-- Some entries are dropped with their bindings, and some roots. -/
theorem CanonicalTransferJob.Sourced.drop {job left : CanonicalTransferJob} (sourced : job.Sourced)
    {keep : PreparedInventoryEntry → Bool} (inventory : left.inventory = job.inventory.filter keep)
    (bindings : left.sourceBindings = job.sourceBindings.filter fun bound =>
      bound.1 ∈ (job.inventory.filter keep).map fun entry => entry.itemId)
    (roots : (left.selections.map fun selection => selection.rootItemId).Sublist
      (job.selections.map fun selection => selection.rootItemId))
    (next : job.nextSourceItemId ≤ left.nextSourceItemId) : left.Sourced where
  bound entry listed := by
    rw [inventory] at listed
    rw [bindings]
    exact bound_retain sourced listed
  roots := sourced.roots.sublist roots
  numbered selection listed := by
    obtain ⟨old, oldListed, same⟩ := List.mem_map.mp (roots.subset (List.mem_map_of_mem listed))
    exact UInt64.lt_of_lt_of_le (same ▸ sourced.numbered old oldListed) next

theorem CanonicalTransferJob.Sourced.makeRoom {job : CanonicalTransferJob} (sourced : job.Sourced)
    {next : UInt64} (counted : checkedAdd64 job.nextSourceItemId 1 = some next) (hint : Option Bool)
    (canonicalPath : Option PathBuf) :
    (job.makeRoom next hint canonicalPath).Sourced ∧
      (job.makeRoom next hint canonicalPath).nextSourceItemId = next := by
  have more : job.nextSourceItemId ≤ next := by
    obtain ⟨-, sum⟩ := checkedAdd64_eq_some.mp counted
    rw [UInt64.le_iff_toNat_le]
    omega
  rw [makeRoom_eq]
  split
  · exact ⟨sourced.drop rfl rfl (List.filter_sublist.map _) more, rfl⟩
  · exact ⟨sourced.same rfl rfl rfl more, rfl⟩

theorem CanonicalTransferJob.Sourced.pushSelection {job : CanonicalTransferJob}
    (sourced : job.Sourced) {selection : SourceSelection}
    (fresh : ∀ old ∈ job.selections, old.rootItemId ≠ selection.rootItemId)
      (numbered : selection.rootItemId.value < job.nextSourceItemId) :
        (job.pushSelection selection).Sourced where
  bound := sourced.bound
  roots := by
    show (List.map _ (List.mapIdx _ _)).Nodup
    rw [rootItemId_reindex, List.map_append, List.nodup_append]
    refine ⟨sourced.roots, List.nodup_singleton _, ?_⟩
    intro id listed other last same
    obtain ⟨old, there, rfl⟩ := List.mem_map.mp listed
    exact fresh old there (same.trans (List.mem_singleton.mp last))
  numbered other listed := by
    have there : other.rootItemId ∈ ((job.selections ++ [selection]).mapIdx fun index selection =>
        { selection with selectionOrder := UInt32.ofNat index }).map fun selection =>
          selection.rootItemId :=
      List.mem_map_of_mem listed
    rw [rootItemId_reindex, List.map_append, List.mem_append] at there
    obtain old | last := there
    · obtain ⟨existing, oldListed, same⟩ := List.mem_map.mp old
      exact same ▸ sourced.numbered existing oldListed
    · rw [List.mem_singleton.mp last]
      exact numbered

theorem rootItemIds_adoptOutcome (job : CanonicalTransferJob) (index : Nat)
    (outcome : EnumerationOutcome) (issues : List SourceIssue) :
    (job.adoptOutcome index outcome issues).selections.map (fun selection => selection.rootItemId) =
      job.selections.map fun selection => selection.rootItemId := by
  refine rootItemId_modify ?_ job.selections index
  exact fun _ => rfl

theorem CanonicalTransferJob.Sourced.adoptOutcome {job : CanonicalTransferJob}
    (sourced : job.Sourced) {index : Nat} {rootItemId : SourceItemId} {entryBudget : Nat}
    {outcome : EnumerationOutcome} {issues : List SourceIssue}
    (walks : Walks job.occupiedIds rootItemId entryBudget outcome) :
    (job.adoptOutcome index outcome issues).Sourced where
  bound entry listed := by
    have enumerated := walks.1
    show ∃ binding, (job.sourceBindings.extend outcome.bindings).lookup entry.itemId =
      some binding ∧ _
    rw [lookup_extend enumerated.distinct]
    obtain old | new := List.mem_append.mp listed
    · have gone : outcome.bindings.lookup entry.itemId = none := by
        rw [List.lookup_eq_none_iff]
        intro bound there
        refine bne_iff_ne.mpr fun same => ?_
        obtain ⟨other, otherListed, sameId⟩ := List.mem_map.mp (enumerated.keys bound there)
        refine enumerated.fresh other otherListed (List.mem_append_left _ ?_)
        rw [sameId, ← same]
        exact List.mem_map_of_mem old
      rw [gone, Option.none_or]
      exact sourced.bound entry old
    · obtain ⟨binding, found, binds⟩ := enumerated.bound entry new
      exact ⟨binding, by rw [found, Option.some_or], binds⟩
  roots := by
    rw [rootItemIds_adoptOutcome]
    exact sourced.roots
  numbered selection listed := by
    have there := List.mem_map_of_mem (f := fun selection => selection.rootItemId) listed
    rw [rootItemIds_adoptOutcome] at there
    obtain ⟨old, oldListed, same⟩ := List.mem_map.mp there
    exact same ▸ sourced.numbered old oldListed

section Changes

variable [UnicodeNormalization] [Blake3] {told : PathBuf → Except IoError PathBuf → Prop}
  {before after : CanonicalTransferJob}

theorem JobChange.sourced (change : JobChange told before after) (sourced : before.Sourced) :
    after.Sourced := by
  cases change with
  | refreshed =>
    unfold CanonicalTransferJob.refreshLifecycle
    split <;> exact sourced.same rfl rfl rfl (UInt64.le_refl _)
  | cleared admits => exact (sourced.makeRoom admits.counted _ _).1
  | @admitted path hint canonicalPath next admits selection named given =>
    obtain ⟨room, same⟩ := sourced.makeRoom admits.counted hint canonicalPath
    obtain ⟨-, sum⟩ := checkedAdd64_eq_some.mp admits.counted
    refine room.pushSelection ?_ ?_
    · -- the roots that are left are those of before, with smaller ids
      intro old listed clash
      have there : old ∈ before.selections := by
        rw [makeRoom_eq] at listed
        split at listed
        · exact (List.mem_filter.mp listed).1
        · exact listed
      have smaller := sourced.numbered old there
      rw [clash, named] at smaller
      exact UInt64.lt_irrefl _ smaller
    · rw [same, named, UInt64.lt_iff_toNat_lt]
      show before.nextSourceItemId.toNat < next.toNat
      rw [sum]
      exact Nat.lt_add_one _
  | edited index change kept =>
    exact sourced.same rfl rfl
      (rootItemId_modify (fun selection => (kept selection).rootItemId) _ _) (UInt64.le_refl _)
  | dropped isOpen rootItemId => exact sourced.drop rfl rfl (List.Sublist.refl _) (UInt64.le_refl _)
  | adopted isOpen found outcome issues walks => exact sourced.adoptOutcome walks
  | @reauthorized isOpen index selection found due localPath reply answered apart hint =>
    refine sourced.same rfl rfl (rootItemId_modify ?_ _ _) (UInt64.le_refl _)
    exact fun _ => rfl
  | @removed isOpen index selection found =>
    have roots : ((before.selections.eraseIdx index).mapIdx fun index selection =>
        { selection with selectionOrder := UInt32.ofNat index }).map (fun selection =>
          selection.rootItemId) |>.Sublist
        (before.selections.map fun selection => selection.rootItemId) := by
      rw [rootItemId_reindex]
      exact (List.eraseIdx_sublist _ _).map _
    unfold CanonicalTransferJob.removeSelection
    split
    · exact sourced.drop rfl rfl roots (UInt64.le_refl _)
    · exact sourced.drop rfl rfl roots (UInt64.le_refl _)
  | hashed index digest =>
    exact sourced.same (inventory_recordDigest before index digest) rfl rfl (UInt64.le_refl _)
  | _ => exact sourced.same rfl rfl rfl (UInt64.le_refl _)

/-- The job holds what was sealed, and what sealing went through is as it was, but for digests. -/
structure SealedAs (before : CanonicalTransferJob) (facts : SealedTransferJob)
    (job : CanonicalTransferJob) : Prop where
  facts : job.sealed = some facts
  closed : job.lifecycle = .sealed ∨ job.lifecycle = .canceled
  inventory : job.inventory.map (fun entry => { entry with digest := none }) =
    before.inventory.map fun entry => { entry with digest := none }
  bindings : job.sourceBindings = before.sourceBindings
  roots : job.selections.map (fun selection => selection.rootItemId) =
    before.selections.map fun selection => selection.rootItemId

omit [UnicodeNormalization] [Blake3] in
theorem SealedAs.not_open {start job : CanonicalTransferJob} {facts : SealedTransferJob}
    (sealed : SealedAs start facts job) : ¬ job.Open :=
  fun isOpen => sealed.closed.elim isOpen.1 isOpen.2

/-- Every change that would matter needs an open job. -/
theorem JobChange.sealedAs {start : CanonicalTransferJob} {facts : SealedTransferJob}
    (change : JobChange told before after) (sealed : SealedAs start facts before) :
    SealedAs start facts after := by
  cases change with
  | refreshed =>
    have same : before.refreshLifecycle = before := by
      unfold CanonicalTransferJob.refreshLifecycle
      obtain closed | closed := sealed.closed <;> rw [closed]
    rwa [same]
  | canceled => exact ⟨sealed.facts, .inr rfl, sealed.inventory, sealed.bindings, sealed.roots⟩
  | policed isOpen policy => exact absurd isOpen sealed.not_open
  | cleared admits => exact absurd admits.isOpen sealed.not_open
  | admitted admits selection named given => exact absurd admits.isOpen sealed.not_open
  | edited index change kept =>
    have roots :=
      rootItemId_modify (fun selection => (kept selection).rootItemId) before.selections index
    exact ⟨sealed.facts, sealed.closed, sealed.inventory, sealed.bindings, roots.trans sealed.roots⟩
  | dropped isOpen rootItemId => exact absurd isOpen sealed.not_open
  | adopted isOpen found outcome issues walks => exact absurd isOpen sealed.not_open
  | reauthorized isOpen found due localPath reply answered apart hint =>
    exact absurd isOpen sealed.not_open
  | removed isOpen found => exact absurd isOpen sealed.not_open
  | hashed index digest =>
    have inventory := inventory_recordDigest before index digest
    exact ⟨sealed.facts, sealed.closed, inventory.trans sealed.inventory, sealed.bindings,
      sealed.roots⟩
  | «sealed» ready made =>
    obtain closed | closed := sealed.closed
    · cases closed.symm.trans ready
    · cases closed.symm.trans ready
  | _ => exact ⟨sealed.facts, sealed.closed, sealed.inventory, sealed.bindings, sealed.roots⟩

end Changes

/-! ## Sealing -/

section Sealing

theorem mem_of_lookup_eq {Key Value : Type} [DecidableEq Key] {pairs : List (Key × Value)}
    {key : Key} {value : Value} (found : pairs.lookup key = some value) : (key, value) ∈ pairs := by
  obtain ⟨before, after, rfl, -⟩ := List.lookup_eq_some_iff.mp found
  simp

theorem lookup_eq_of_mem {Key Value : Type} [DecidableEq Key] {pairs : List (Key × Value)}
    {key : Key} {value : Value} (distinct : (pairs.map Prod.fst).Nodup)
    (listed : (key, value) ∈ pairs) : pairs.lookup key = some value := by
  induction pairs with
  | nil => cases listed
  | cons pair rest ih =>
    obtain ⟨first, given⟩ := pair
    rw [List.map_cons, List.nodup_cons] at distinct
    rw [List.lookup_cons]
    cases listed with
    | head => rw [beq_self_eq_true]
    | tail _ later =>
      have apart : key ≠ first := fun same => distinct.1 (List.mem_map.mpr ⟨_, later, same⟩)
      rw [beq_false_of_ne apart]
      exact ih distinct.2 later

/-- The manifest entry is the one for this inventory entry. -/
structure BuiltFrom (entry : PreparedInventoryEntry) (entryId : UInt32) (built : ManifestEntryV2) :
    Prop where
  entryId : built.entryId = entryId
  component : built.component = entry.name
  kind : built.kind = entry.kind
  plaintextSize : built.plaintextSize = entry.plaintextSize

/-- The entries were built one after another, and `item_to_entry` says from what. -/
structure Assembled (done : List PreparedInventoryEntry) (assembly : Assembly) : Prop where
  length : assembly.entries.length = done.length
  built : ∀ (index : Nat) (entry : PreparedInventoryEntry), done[index]? = some entry →
    ∃ made, assembly.entries[index]? = some made ∧ BuiltFrom entry (UInt32.ofNat index) made
  recorded : assembly.itemToEntry =
    (done.mapIdx fun index entry => (entry.itemId, UInt32.ofNat index)).reverse

theorem assembleEntry_eq_ok {assembly next : Assembly} {rootId : UInt32}
    {entry : PreparedInventoryEntry} (step : assembleEntry rootId assembly entry = .ok next) :
    ∃ made, BuiltFrom entry (UInt32.ofNat assembly.entries.length) made ∧ next = { assembly with
      entries := assembly.entries ++ [made]
      itemToEntry :=
        (entry.itemId, UInt32.ofNat assembly.entries.length) :: assembly.itemToEntry } := by
  unfold assembleEntry at step
  cases parent : entry.parentItemId with
  | none =>
    rw [parent] at step
    exact ⟨_, ⟨rfl, rfl, rfl, rfl⟩, (Except.ok.inj step).symm⟩
  | some parentItemId =>
    rw [parent] at step
    obtain ⟨found, -, step⟩ := bind_eq_ok.mp step
    exact ⟨_, ⟨rfl, rfl, rfl, rfl⟩, (Except.ok.inj step).symm⟩

theorem Assembled.entry {done : List PreparedInventoryEntry} {assembly next : Assembly}
    {rootId : UInt32} {entry : PreparedInventoryEntry} (assembled : Assembled done assembly)
    (step : assembleEntry rootId assembly entry = .ok next) : Assembled (done ++ [entry]) next := by
  obtain ⟨made, fits, rfl⟩ := assembleEntry_eq_ok step
  constructor
  · simp [assembled.length]
  · intro index other listed
    obtain early | ⟨rfl, rfl⟩ : done[index]? = some other ∨ index = done.length ∧
        other = entry := by
      obtain short | same | long := Nat.lt_trichotomy index done.length
      · rw [List.getElem?_append_left short] at listed
        exact .inl listed
      · rw [same, List.getElem?_concat_length] at listed
        exact .inr ⟨same, (Option.some.inj listed).symm⟩
      · rw [List.getElem?_eq_none (by simp; omega)] at listed
        cases listed
    · obtain ⟨earlier, found, fits⟩ := assembled.built index other early
      refine ⟨earlier, ?_, fits⟩
      rw [List.getElem?_append_left (List.getElem?_eq_some_iff.mp found).1, found]
    · rw [← assembled.length, List.getElem?_concat_length]
      exact ⟨made, rfl, fits⟩
  · rw [List.mapIdx_concat, List.reverse_concat, ← assembled.recorded, assembled.length]

theorem Assembled.entries {done rest : List PreparedInventoryEntry} {assembly next : Assembly}
    {rootId : UInt32} (assembled : Assembled done assembly)
    (steps : rest.foldlM (assembleEntry rootId) assembly = .ok next) :
    Assembled (done ++ rest) next := by
  induction rest generalizing done assembly with
  | nil =>
    obtain rfl := Except.ok.inj steps
    rwa [List.append_nil]
  | cons entry rest ih =>
    rw [List.foldlM_cons, bind_eq_ok] at steps
    obtain ⟨middle, step, steps⟩ := steps
    have later := ih (assembled.entry step) steps
    rwa [List.append_assoc] at later

theorem Assembled.roots {inventory : List PreparedInventoryEntry}
    {selections : List SourceSelection} {rootIndex : Nat} {done : List PreparedInventoryEntry}
    {assembly next : Assembly} (assembled : Assembled done assembly)
    (steps : assembleRoots inventory rootIndex selections assembly = .ok next) :
    Assembled (done ++ selections.flatMap fun selection =>
      entriesOf inventory selection.rootItemId) next := by
  induction selections generalizing rootIndex done assembly with
  | nil =>
    obtain rfl := Except.ok.inj steps
    rwa [List.flatMap_nil, List.append_nil]
  | cons selection rest ih =>
    rw [assembleRoots, bind_eq_ok] at steps
    obtain ⟨middle, root, steps⟩ := steps
    have started (roots : List ManifestRootV2) : Assembled done { assembly with roots } :=
      ⟨assembled.length, assembled.built, assembled.recorded⟩
    have later := ih ((started _).entries root) steps
    rw [List.append_assoc] at later
    rwa [List.flatMap_cons]

theorem Assembled.start : Assembled [] ⟨[], [], []⟩ where
  length := rfl
  built := nofun
  recorded := rfl

/-- No entry is visited twice. -/
theorem nodup_entriesByRoot {job : CanonicalTransferJob} (stocked : job.Stocked)
    (sourced : job.Sourced) :
    (job.entriesByRoot.map fun entry => entry.itemId).Nodup := by
  have apart : job.selections.Pairwise fun left right => left.rootItemId ≠ right.rootItemId :=
    List.pairwise_map.mp sourced.roots
  have entries : job.entriesByRoot.Nodup := by
    rw [entriesByRoot, List.nodup_flatMap]
    refine ⟨fun selection _ => (stocked.nodup.of_map _).filter _,
      apart.imp fun {left right} different => ?_⟩
    intro entry first second
    have here := (List.mem_filter.mp first).2
    have there := (List.mem_filter.mp second).2
    simp only [decide_eq_true_eq] at here there
    exact different (here.symm.trans there)
  refine entries.map_on fun first firstListed second secondListed same => ?_
  have stock {entry : PreparedInventoryEntry} (listed : entry ∈ job.entriesByRoot) :
      entry ∈ job.inventory := by
    obtain ⟨selection, -, there⟩ := List.mem_flatMap.mp listed
    exact (List.mem_filter.mp there).1
  exact List.inj_on_of_nodup_map stocked.nodup (stock firstListed) (stock secondListed) same

theorem Assembled.recorded_iff {done : List PreparedInventoryEntry} {assembly : Assembly}
    (assembled : Assembled done assembly) (nodup : (done.map fun entry => entry.itemId).Nodup)
      {itemId : SourceItemId}
    {entryId : UInt32} :
    assembly.itemToEntry.lookup itemId = some entryId ↔
      ∃ (index : Nat) (entry : PreparedInventoryEntry), done[index]? = some entry ∧
        entry.itemId = itemId ∧ UInt32.ofNat index = entryId := by
  have keys : (assembly.itemToEntry.map Prod.fst).Nodup := by
    rw [assembled.recorded, List.map_reverse, List.nodup_reverse]
    have same : (done.mapIdx fun index entry => (entry.itemId, UInt32.ofNat index)).map Prod.fst =
        done.map fun entry => entry.itemId := by
      refine List.ext_getElem (by simp) fun index _ _ => ?_
      simp only [List.getElem_map, List.getElem_mapIdx]
    exact same ▸ nodup
  have listed : assembly.itemToEntry.lookup itemId = some entryId ↔
    (itemId, entryId) ∈ assembly.itemToEntry :=
    ⟨mem_of_lookup_eq, lookup_eq_of_mem keys⟩
  rw [listed, assembled.recorded, List.mem_reverse, List.mem_iff_getElem?]
  simp only [List.getElem?_mapIdx, Option.map_eq_some_iff, Prod.mk.injEq]

variable [UnicodeNormalization] [Blake3]

theorem sealedFacts_refreshLifecycle (job : CanonicalTransferJob) :
    job.refreshLifecycle.sealedFacts = job.sealedFacts := by
  unfold refreshLifecycle
  split <;> rfl

variable {World : Type} {contract : Contract JobOp JobReply World} {job : CanonicalTransferJob}
  {world : World}

theorem sealForSend_spec :
    sealForSend.Ensures contract offDisk (fun result left _ => ∀ manifest, result = .ok manifest →
      ∃ facts, job.sealedFacts = .ok facts ∧ SealedAs job facts left) job world := by
  unfold sealForSend
  rw [ensures_bind]
  refine ensureMutable_spec.mono fun result left world mutable => ?_
  obtain ⟨rfl, -⟩ := mutable
  cases result with
  | error error => exact nofun
  | ok value =>
    rw [resumeWith_ok, ensures_bind, ensures_modify, resumeWith_ok, ensures_bind, ensures_get,
      resumeWith_ok, ensures_bind, ensures_raise]
    generalize reject (left.refreshLifecycle.lifecycle = .needsSourceDecision) _ = decided
    cases decided with
    | error error => exact nofun
    | ok _ =>
      rw [resumeWith_ok, ensures_bind, ensures_raise]
      generalize reject (left.refreshLifecycle.lifecycle ≠ .readyToSend) _ = ready
      cases ready with
      | error error => exact nofun
      | ok _ =>
        rw [resumeWith_ok, ensures_bind, ensures_raise, sealedFacts_refreshLifecycle]
        cases made : left.sealedFacts with
        | error error => exact nofun
        | ok facts =>
          rw [resumeWith_ok, ensures_bind, ensures_modify, resumeWith_ok, ensures_bind]
          refine touchNow_spec.mono fun result final _ touched => ?_
          obtain ⟨updated, rfl⟩ := touched
          have sealed : SealedAs left facts
              { left.refreshLifecycle with
                  sealed := some facts, lifecycle := .sealed, updatedUnixMs := updated } := by
            unfold refreshLifecycle
            split <;> exact ⟨rfl, .inl rfl, rfl, rfl, rfl⟩
          cases result with
          | error error => exact nofun
          | ok _ => exact fun _ _ => ⟨facts, rfl, sealed⟩

variable [JobJson] {store : TransferJobStore} {start : World} {events : List JobEvent}
  {event : JobEvent}

theorem JobRun.stocked (run : JobRun contract store start events job world) : job.Stocked :=
  run.invariant (fun _ fresh => fresh.stocked) fun _ _ change stocked => change.stocked stocked

theorem JobRun.sourced (run : JobRun contract store start events job world) : job.Sourced :=
  run.invariant (fun _ fresh => fresh.sourced) fun _ _ change sourced => change.sourced sourced

/-- What a run keeps of a sealing in it, and of the job that was sealed. -/
theorem JobRun.sealedAs (run : JobRun contract store start events job world)
    (sealing : event ∈ events) (called : event.call = .sealForSend) {value : Option PathBuf}
    (succeeded : event.result = .ok value) :
    event.before.Stocked ∧ event.before.Sourced ∧
      ∃ facts, event.before.sealedFacts = .ok facts ∧ SealedAs event.before facts job := by
  induction run with
  | new created => cases sealing
  | @call events job left world final result call earlier ran ih =>
    cases sealing with
    | head =>
      obtain rfl : call = .sealForSend := called
      obtain rfl : result = .ok value := succeeded
      have spec : (runCall store .sealForSend).Ensures contract offDisk (fun result left _ =>
          ∀ value, result = .ok value → ∃ facts, job.sealedFacts = .ok facts ∧
              SealedAs job facts left) job world := by
        show Ensures _ _ _ (sealForSend >>= fun _ => pure none) _ _
        rw [ensures_bind]
        refine sealForSend_spec.mono fun result left _ after => ?_
        cases result with
        | error error => exact nofun
        | ok manifest => exact fun _ _ => after manifest rfl
      exact ⟨earlier.stocked, earlier.sourced, Proc.Follows.rest spec ran value rfl⟩
    | tail _ before =>
      obtain ⟨stocked, sourced, facts, made, sealed⟩ := ih before
      have went := (stepping_runCall call).reaches ran
      refine ⟨stocked, sourced, facts, made, ?_⟩
      exact went.head_induction_on (motive := fun job _ => SealedAs event.before facts job →
        SealedAs _ facts _) id
        (fun change _ rest now => rest (change.sealedAs now)) sealed

/-- The answer for an entry id of the manifest, where `entry` is what that manifest entry was built
from. -/
structure SourceKept (before job : CanonicalTransferJob) (facts : SealedTransferJob)
    (entry : PreparedInventoryEntry) (entryId : UInt32) : Prop where
  built : ∃ made, facts.manifest.entries[entryId.toNat]? = some made ∧ BuiltFrom entry entryId made
  source : ∃ binding, before.sourceBindings.lookup entry.itemId = some binding ∧
    binding.Binds entry ∧ job.sourceForSealedEntry entryId =
      if job.lifecycle = .canceled then .error .preparationIncomplete
      else if entry.kind = .regularFile then .ok ⟨binding.path, binding.fingerprint⟩
      else .error .notRegularFile

omit [UnicodeNormalization] [Blake3] [JobJson] in
/-- The second traversal, in a job that still holds what was sealed, finds the same entry at each
position. -/
theorem SealedAs.entriesByRoot {before : CanonicalTransferJob} {facts : SealedTransferJob}
    (sealed : SealedAs before facts job) :
    job.entriesByRoot.map (fun entry => { entry with digest := none }) =
      before.entriesByRoot.map fun entry => { entry with digest := none } := by
  have split (current : CanonicalTransferJob) :
      current.entriesByRoot.map (fun entry => { entry with digest := none }) =
        (current.selections.map fun selection => selection.rootItemId).flatMap fun rootItemId =>
          (current.inventory.map fun entry => { entry with digest := none }).filter fun entry =>
            entry.rootItemId = rootItemId := by
    rw [CanonicalTransferJob.entriesByRoot, List.map_flatMap, List.flatMap_map]
    refine List.flatMap_congr fun selection _ => ?_
    rw [entriesOf, List.filter_map]
    rfl
  rw [split, split, sealed.inventory, sealed.roots]

omit [JobJson] in
/-- What was sealed is what the assembly made, which the protocol crate has accepted. -/
theorem assembly_of_sealedFacts {facts : SealedTransferJob} (made : job.sealedFacts = .ok facts) :
    ∃ assembly, assembleRoots job.inventory 0 job.selections ⟨[], [], []⟩ = .ok assembly ∧
      facts.manifest.entries = assembly.entries ∧
      assembly.entries.length ≤ maxManifestV2Entries := by
  unfold sealedFacts assembleManifest buildManifestOfferV2 at made
  simp only [bind_eq_ok, mapErr_eq_ok] at made
  obtain ⟨manifest, ⟨assembly, assembled, whole⟩, offer, ⟨_, valid, same⟩, bytes, _, rest⟩ := made
  obtain rfl := Except.ok.inj whole
  obtain rfl := Except.ok.inj same
  obtain rfl := Except.ok.inj rest
  exact ⟨assembly, assembled, rfl, (validate_eq_ok.mp valid).entryCount.2⟩

omit [UnicodeNormalization] [Blake3] [JobJson] in
theorem SealedAs.sourceForSealedEntry {before : CanonicalTransferJob} {facts : SealedTransferJob}
    (sealed : SealedAs before facts job) {entryId : UInt32} {entry : PreparedInventoryEntry}
    (found : before.entriesByRoot[entryId.toNat]? = some entry) {binding : LocalSourceBinding}
    (bound : before.sourceBindings.lookup entry.itemId = some binding) :
    job.sourceForSealedEntry entryId =
      if job.lifecycle = .canceled then .error .preparationIncomplete
      else if entry.kind = .regularFile then .ok ⟨binding.path, binding.fingerprint⟩
      else .error .notRegularFile := by
  have alike := congrArg (fun entries => entries[entryId.toNat]?) sealed.entriesByRoot
  rw [List.getElem?_map, List.getElem?_map, found] at alike
  obtain ⟨current, here, same⟩ := Option.map_eq_some_iff.mp alike
  simp only [PreparedInventoryEntry.mk.injEq] at same
  obtain ⟨itemId, -, -, -, -, kind, -⟩ := same
  unfold CanonicalTransferJob.sourceForSealedEntry
  obtain closed | closed := sealed.closed
  · rw [reject_of_not (by simp [closed]), ok_bind, here, closed, if_neg nofun]
    show (reject (current.kind ≠ .regularFile) _ >>= fun _ => _) = _
    rw [kind]
    by_cases regular : entry.kind = .regularFile
    · rw [reject_of_not (by simp [regular]), if_pos regular, ok_bind, itemId,
        sealed.bindings, bound]
      rfl
    · rw [reject_of regular, if_neg regular]
      rfl
  · rw [reject_of (by simp [closed]), if_pos closed]
    rfl

theorem sealed_sources (run : JobRun contract store start events job world)
    (sealing : event ∈ events) (called : event.call = .sealForSend) {value : Option PathBuf}
    (succeeded : event.result = .ok value) :
    ∃ facts assembly, job.sealed = some facts ∧
      assembleRoots event.before.inventory 0 event.before.selections ⟨[], [], []⟩ = .ok assembly ∧
      facts.manifest.entries = assembly.entries ∧
      ∀ entryId : UInt32, entryId.toNat < facts.manifest.entries.length →
        (∃ entry ∈ event.before.inventory, assembly.itemToEntry.lookup entry.itemId =
          some entryId) ∧
        ∀ entry ∈ event.before.inventory, assembly.itemToEntry.lookup entry.itemId = some entryId →
          SourceKept event.before job facts entry entryId := by
  obtain ⟨stocked, sourced, facts, made, sealed⟩ := run.sealedAs sealing called succeeded
  obtain ⟨assembly, steps, entries, few⟩ := assembly_of_sealedFacts made
  have assembled : Assembled event.before.entriesByRoot assembly := Assembled.start.roots steps
  have recorded {itemId : SourceItemId} {entryId : UInt32} :
      assembly.itemToEntry.lookup itemId = some entryId ↔
        ∃ (index : Nat) (entry : PreparedInventoryEntry),
          event.before.entriesByRoot[index]? = some entry ∧
          entry.itemId = itemId ∧ UInt32.ofNat index = entryId :=
    assembled.recorded_iff (nodup_entriesByRoot stocked sourced)
  have stock {entry : PreparedInventoryEntry} {index : Nat}
    (found : event.before.entriesByRoot[index]? = some entry) :
      entry ∈ event.before.inventory := by
    obtain ⟨selection, -, there⟩ := List.mem_flatMap.mp (List.mem_of_getElem? found)
    exact (List.mem_filter.mp there).1
  refine ⟨facts, assembly, sealed.facts, steps, entries, fun entryId inside => ?_⟩
  rw [entries, assembled.length] at inside
  constructor
  · have found := List.getElem?_eq_getElem inside
    refine ⟨_, stock found, recorded.mpr ⟨_, _, found, rfl, UInt32.ofNat_toNat⟩⟩
  · intro entry listed mapped
    obtain ⟨index, other, found, same, rfl⟩ := recorded.mp mapped
    -- ids are unique, so the recorded entry is the one at the position
    obtain rfl : other = entry := List.inj_on_of_nodup_map stocked.nodup (stock found) listed same
    have small : index < 2 ^ 32 := by
      have bound : maxManifestV2Entries < 2 ^ 32 := by decide
      have position := (List.getElem?_eq_some_iff.mp found).1
      rw [← assembled.length] at position
      omega
    have position : (UInt32.ofNat index).toNat = index := UInt32.toNat_ofNat_of_lt small
    obtain ⟨binding, bound, binds⟩ := sourced.bound other listed
    constructor
    · rw [position, entries]
      exact assembled.built index other found
    · exact ⟨binding, bound, binds, sealed.sourceForSealedEntry (by rw [position, found]) bound⟩

end Sealing

/-! ## The sample folder, sealed -/

def sealedRun (further : List JobCall) : Option (List JobEvent × CanonicalTransferJob × Unit) :=
  @playJob asciiNormalization sampleTreeBlake3 unusedJson _ sampleTree.contract.after sampleReplies
    sampleStore .smart
    ([.addLocalPath folderPath, .prepareAll, .sealForSend] ++ further) ()

def JobEvent.seals (event : JobEvent) : Bool :=
  match event.call, event.result with
  | .sealForSend, .ok _ => true
  | _, _ => false

theorem JobEvent.of_seals {event : JobEvent} (seals : event.seals = true) :
    event.call = .sealForSend ∧ ∃ value, event.result = .ok value := by
  unfold JobEvent.seals at seals
  split at seals
  · next called succeeded => exact ⟨called, _, succeeded⟩
  · cases seals

/-- Entry 0 is the folder and entry 1 the file in it. -/
theorem sealed_sources_folder :
    ∃ events job event, sealedRun [] = some (events, job, ()) ∧ event ∈ events ∧
      event.seals = true ∧ job.sourceForSealedEntry 0 = .error .notRegularFile ∧
      job.sourceForSealedEntry 1 = .ok ⟨filePath, ⟨5, some 1, filePathDigest⟩⟩ ∧
      ∃ facts assembly, job.sealed = some facts ∧
        assembleRoots event.before.inventory 0 event.before.selections ⟨[], [], []⟩ = .ok assembly ∧
        facts.manifest.entries = assembly.entries ∧
        ∀ entryId : UInt32, entryId.toNat < facts.manifest.entries.length →
          (∃ entry ∈ event.before.inventory, assembly.itemToEntry.lookup entry.itemId =
            some entryId) ∧
          ∀ entry ∈ event.before.inventory, assembly.itemToEntry.lookup entry.itemId =
            some entryId →
            SourceKept event.before job facts entry entryId := by
  have answers : (sealedRun []).map (fun reached => (reached.1.any JobEvent.seals,
      reached.2.1.sourceForSealedEntry 0, reached.2.1.sourceForSealedEntry 1)) =
      some (true, .error .notRegularFile, .ok ⟨filePath, ⟨5, some 1, filePathDigest⟩⟩) := by
    set_option maxRecDepth 8000 in decide
  obtain ⟨⟨events, job, world⟩, played, holds⟩ := Option.map_eq_some_iff.mp answers
  simp only [Prod.mk.injEq] at holds
  obtain ⟨event, listed, seals⟩ := List.any_eq_true.mp holds.1
  obtain ⟨called, value, succeeded⟩ := JobEvent.of_seals seals
  have run :=
    @jobRun_of_playJob asciiNormalization sampleTreeBlake3 unusedJson _ _ _ _ _ treeReplies_allowed
      _ _ _ played
  exact ⟨events, job, event, played, listed, seals, holds.2.1, holds.2.2,
    @sealed_sources asciiNormalization sampleTreeBlake3 _ _ _ _ unusedJson _ _ _ _ run listed called
      _ succeeded⟩

/-- A canceled job has no sources, although it still holds its manifest. -/
theorem canceled_job_has_no_sources :
    ¬ ∀ (tree : FileTree) (store : TransferJobStore) (events : List JobEvent)
      (job : CanonicalTransferJob) (world : Unit),
      @JobRun asciiNormalization sampleTreeBlake3 unusedJson _ tree.contract store ()
        events job world →
        ∀ event ∈ events, event.seals = true → ∀ facts, job.sealed = some facts →
          ∀ entryId : UInt32, entryId.toNat < facts.manifest.entries.length →
            job.sourceForSealedEntry entryId = .error .notRegularFile ∨
              ∃ bound ∈ job.sourceBindings, job.sourceForSealedEntry entryId =
                .ok ⟨bound.2.path, bound.2.fingerprint⟩ := by
  intro kept
  have answers : (sealedRun [.cancel]).map (fun reached => (reached.1.any JobEvent.seals,
      reached.2.1.sealed.any (fun facts => facts.manifest.entries.length = 2),
      reached.2.1.sourceForSealedEntry 1)) = some (true, true, .error .preparationIncomplete) := by
    set_option maxRecDepth 8000 in decide
  obtain ⟨⟨events, job, world⟩, played, holds⟩ := Option.map_eq_some_iff.mp answers
  simp only [Prod.mk.injEq] at holds
  obtain ⟨sealing, whole, refused⟩ := holds
  obtain ⟨event, listed, seals⟩ := List.any_eq_true.mp sealing
  obtain ⟨facts, stored, length⟩ := (Option.any_eq_true _ _).mp whole
  have run :=
    @jobRun_of_playJob asciiNormalization sampleTreeBlake3 unusedJson _ _ _ _ _ treeReplies_allowed
      _ _ _ played
  obtain found | ⟨bound, -, found⟩ := kept _ _ _ _ _ run event listed seals facts stored 1
    (by rw [of_decide_eq_true length]; decide)
  · cases refused.symm.trans found
  · cases refused.symm.trans found

end Envoix.Job
