import Envoix.Job.Selections
import Envoix.Job.Changes
import Envoix.Protocol.OfferCodec

/-! # The selections along every run

Every operation of a job leaves the places of its selections alone, or takes one `Layout.Step`.  So
over a file system that stands still no two selections ever overlap, and a file stays in exactly one
of them.  A reauthorization puts another path in the place of a root, and what that root had is
given up with it.
-/

namespace Envoix.Job

open ByteCodec Fallible Process Process.Method Envoix.Protocol CanonicalTransferJob

/-! ## Calls that leave the places alone -/

theorem layout_refreshLifecycle (job : CanonicalTransferJob) :
    layout job.refreshLifecycle = layout job := by
  unfold refreshLifecycle
  split <;> rfl

theorem layout_dropEntries (job : CanonicalTransferJob) (rootItemId : SourceItemId) :
    layout (job.dropEntries rootItemId) = layout job := rfl

theorem map_place_modify (selections : List SourceSelection) (index : Nat)
    (change : SourceSelection → SourceSelection)
    (same : ∀ selection, (change selection).place = selection.place) :
    (selections.modify index change).map SourceSelection.place =
      selections.map SourceSelection.place := by
  induction selections generalizing index with
  | nil => cases index <;> rfl
  | cons selection selections ih =>
    cases index with
    | zero => simp [List.modify_zero_cons, same]
    | succ index => simp [List.modify_succ_cons, ih]

theorem layout_updateSelection {change : SourceSelection → SourceSelection}
    (same : ∀ selection, (change selection).place = selection.place) (job : CanonicalTransferJob)
      (index : Nat) :
    layout (job.updateSelection index change) = layout job := by
  unfold layout updateSelection
  simp only [map_place_modify _ _ _ same]

theorem layout_adoptOutcome (job : CanonicalTransferJob) (index : Nat)
    (outcome : EnumerationOutcome) (issues : List SourceIssue) :
    layout (job.adoptOutcome index outcome issues) = layout job := by
  unfold adoptOutcome
  refine Eq.trans (layout_updateSelection ?_ _ index) rfl
  intro selection
  rfl

section Leaves

variable {World View : Type} {contract : Contract JobOp JobReply World}
  {view : CanonicalTransferJob → View}
  {rootItemId : SourceItemId} {index : Nat}

theorem leaves_ensureMutable : ensureMutable.Leaves contract view := by
  refine leaves_get.bind fun self => ?_
  split
  · exact leaves_throw
  · exact leaves_throw
  · exact leaves_pure

theorem leaves_touchNow : touchNow.Leaves contract layout :=
  leaves_call.bind fun _ => leaves_modify fun _ => rfl

theorem leaves_bumpRevision : bumpRevision.Leaves contract layout := by
  intro job world
  unfold bumpRevision
  rw [ensures_bind, ensures_get, resumeWith_ok, ensures_bind, ensures_raise]
  generalize okOr (checkedAdd64 job.selectionRevision 1) _ = result
  cases result with
  | error error => exact rfl
  | ok revision =>
    rw [resumeWith_ok, ensures_bind, ensures_set, resumeWith_ok]
    exact leaves_touchNow _ world

theorem leaves_issue {components : List String} {kind : SourceIssueKind} :
    (issue rootItemId components kind).Leaves contract layout := by
  intro job world
  unfold issue
  rw [ensures_bind, ensures_get, resumeWith_ok, ensures_bind, ensures_raise]
  generalize okOr (checkedAdd64 job.nextIssueId 1) _ = result
  cases result with
  | error error => exact rfl
  | ok number => exact rfl

theorem leaves_resolveIssues {pending : List PendingIssue} :
    (resolveIssues rootItemId pending).Leaves contract layout := by
  induction pending with
  | nil => exact leaves_pure
  | cons first rest ih => exact leaves_issue.bind fun _ => ih.bind fun _ => leaves_pure

theorem leaves_selectionIndex : (selectionIndex rootItemId).Leaves contract view :=
  leaves_get.bind fun _ => leaves_raise

theorem leaves_selectionAt : (selectionAt index).Leaves contract view := by
  refine leaves_get.bind fun _ => ?_
  split
  · exact leaves_pure
  · exact leaves_call

theorem leaves_refresh : (modify refreshLifecycle : JobMethod PUnit).Leaves contract layout :=
  leaves_modify layout_refreshLifecycle

theorem leaves_update {change : SourceSelection → SourceSelection}
    (same : ∀ selection, (change selection).place = selection.place) :
    (modify (updateSelection · index change) : JobMethod PUnit).Leaves contract layout :=
  leaves_modify fun job => layout_updateSelection same job index

/-- How an operation that changed something ends. -/
theorem leaves_settle {α : Type} {value : α} :
    (do bumpRevision; modify refreshLifecycle; pure value : JobMethod α).Leaves contract layout :=
  leaves_bumpRevision.bind fun _ => leaves_refresh.bind fun _ => leaves_pure

theorem leaves_approvePartial : (approvePartial index).Leaves contract layout := by
  refine leaves_selectionAt.bind fun selection => leaves_raise.bind fun _ =>
    leaves_raise.bind fun _ => ?_
  exact leaves_update fun _ => rfl

theorem leaves_setCompressionPolicy {policy : CompressionPolicyV2} :
    (setCompressionPolicy policy).Leaves contract layout := by
  refine leaves_ensureMutable.bind fun _ => leaves_get.bind fun self => ?_
  split
  · exact Leaves.bind (leaves_modify fun _ => rfl) fun _ => leaves_bumpRevision
  · exact leaves_pure

theorem leaves_cancel : cancel.Leaves contract layout := by
  refine leaves_get.bind fun self => ?_
  split
  · exact leaves_pure
  · exact Leaves.bind (leaves_modify fun _ => rfl) fun _ => leaves_bumpRevision

variable [UnicodeNormalization]

theorem leaves_attachProviderIssues {issues : List ProviderSourceIssue} :
    (attachProviderIssues rootItemId issues).Leaves contract layout := by
  unfold attachProviderIssues
  split
  · exact leaves_pure
  · refine leaves_raise.bind fun _ => leaves_resolveIssues.bind fun _ =>
      leaves_selectionIndex.bind fun _ => ?_
    refine Leaves.bind ?_ fun _ => leaves_bumpRevision.bind fun _ => leaves_refresh
    exact leaves_update fun _ => rfl

variable [Blake3]

theorem leaves_prepareSelection : (prepareSelection rootItemId).Leaves contract layout := by
  refine leaves_ensureMutable.bind fun _ => leaves_selectionIndex.bind fun index => ?_
  refine leaves_selectionAt.bind fun selection => leaves_raise.bind fun _ => ?_
  refine Leaves.bind ?_ fun _ => leaves_refresh.bind fun _ => ?_
  · exact leaves_update fun _ => rfl
  refine Leaves.bind (leaves_modify fun job => layout_dropEntries job rootItemId) fun _ => ?_
  refine leaves_selectionAt.bind fun selection => leaves_get.bind fun self =>
    leaves_call.bind fun found => ?_
  cases found with
  | ok outcome =>
    refine leaves_resolveIssues.bind fun issues => ?_
    refine Leaves.bind (leaves_modify fun job => ?_) fun _ => leaves_bumpRevision.bind fun _ =>
      leaves_refresh
    exact layout_adoptOutcome job index outcome issues
  | error kind =>
    refine leaves_resolveIssues.bind fun issues => ?_
    refine Leaves.bind ?_ fun _ => leaves_bumpRevision.bind fun _ => leaves_refresh
    exact leaves_update fun _ => rfl

theorem leaves_prepareAll : prepareAll.Leaves contract layout := by
  refine leaves_ensureMutable.bind fun _ => leaves_get.bind fun self => ?_
  refine Leaves.bind ?_ fun _ => leaves_refresh
  induction (self.selections.filter fun selection => selection.state = .pending).map
      (fun selection => selection.rootItemId) with
  | nil => exact leaves_pure
  | cons root rest ih => exact leaves_prepareSelection.bind fun _ => ih

omit [UnicodeNormalization] in
theorem leaves_verifySourceFingerprint {path : PathBuf} {expected : SourceFingerprint} :
    (verifySourceFingerprint path expected).Leaves contract layout :=
  leaves_perform.bind fun _ => leaves_raise.bind fun _ => leaves_raise

omit [UnicodeNormalization] in
theorem leaves_hashEntry {itemId : SourceItemId} : (hashEntry itemId).Leaves contract layout := by
  refine leaves_get.bind fun self => leaves_raise.bind fun _ => leaves_raise.bind fun binding => ?_
  refine leaves_raise.bind fun index => leaves_raise.bind fun _ =>
    leaves_verifySourceFingerprint.bind fun _ => ?_
  refine leaves_perform.bind fun _ => leaves_raise.bind fun content =>
    leaves_verifySourceFingerprint.bind fun _ => ?_
  refine Leaves.bind (leaves_modify fun _ => rfl) fun _ => leaves_get.bind fun _ => ?_
  split
  · exact leaves_bumpRevision.bind fun _ => leaves_pure
  · exact leaves_touchNow.bind fun _ => leaves_pure

theorem leaves_sealForSend : sealForSend.Leaves contract layout := by
  refine leaves_ensureMutable.bind fun _ => leaves_refresh.bind fun _ =>
    leaves_get.bind fun self => ?_
  refine leaves_raise.bind fun _ => leaves_raise.bind fun _ => leaves_raise.bind fun facts => ?_
  exact Leaves.bind (leaves_modify fun _ => rfl) fun _ => leaves_touchNow.bind fun _ => leaves_pure

variable [JobJson] {store : TransferJobStore} {directory path : PathBuf}

theorem leaves_releaseStaged : (store.releaseStaged path).Leaves contract layout :=
  leaves_removeStagedArtifact.bind fun _ =>
    Leaves.bind (leaves_modify fun _ => rfl) fun _ => leaves_save

theorem leaves_reconcilePendingCleanup : store.reconcilePendingCleanup.Leaves contract layout := by
  refine leaves_get.bind fun job => ?_
  induction job.cleanupPending with
  | nil => exact leaves_pure
  | cons path rest ih => exact leaves_releaseStaged.bind fun _ => ih

end Leaves

/-! ## Calls that move the places -/

/-- The call does nothing to the places, or one step. -/
def Layout.Move (tree : FileTree) (root : Option SourceItemId) (before after : Layout) : Prop :=
  after = before ∨ Layout.Step tree root before after

section Moves

variable {tree : FileTree}

/-- What `add_local_source` learns of a path. -/
structure Inspected (tree : FileTree) (path : PathBuf)
    (found : Option PathBuf × Option Bool × Option SourceIssueKind) :
    Prop where
  canonical : found.1 = tree.source path
  known : ∀ candidate, found.1 = some candidate → found.2.1 = some (tree.isDirectory candidate) ∧
    found.2.2 = none

theorem inspected_of_canonicalize {path : PathBuf} {kind : FileType}
    {reply : Except IoError PathBuf} (found : tree.kind path = some kind)
    (plain : kind = .regularFile ∨ kind = .directory)
    (answered : reply.toOption = tree.canonical path) :
    Inspected tree path (reply.toOption, some (decide (kind = .directory)), none) := by
  have canonical : tree.source path = tree.canonical path := by
    unfold FileTree.source
    rw [found]
    cases plain with
    | inl regular => rw [regular]
    | inr directory => rw [directory]
  refine ⟨answered.trans canonical.symm, fun candidate known => ⟨?_, rfl⟩⟩
  have same := tree.kind_canonical (answered.symm.trans known) found (by cases plain <;> simp_all)
  simp only [FileTree.isDirectory, same, Option.some.injEq]

theorem follows_inspectSource {path : PathBuf} :
    (inspectSource path).Follows tree.contract (fun _ _ => True)
    (fun found _ => Inspected tree path found) () := by
  unfold inspectSource
  rw [Proc.follows_bind]
  refine ⟨by trivial, fun reply answered => ?_⟩
  have answered : reply.toOption.map (fun found => found.fileType) = tree.kind path := answered
  cases reply with
  | error error => exact ⟨by simp [FileTree.source, ← answered, Except.toOption], by simp⟩
  | ok metadata =>
    have kind : tree.kind path = some metadata.fileType := answered.symm
    unfold Proc.Follows
    dsimp only
    cases shape : metadata.fileType with
    | symlink =>
      show Inspected tree path _
      exact ⟨by simp [FileTree.source, kind, shape], by simp⟩
    | special =>
      show Inspected tree path _
      exact ⟨by simp [FileTree.source, kind, shape], by simp⟩
    | regularFile =>
      refine Proc.follows_bind.mpr ⟨by trivial, fun reply resolved => ?_⟩
      exact inspected_of_canonicalize (shape ▸ kind) (.inl rfl) resolved
    | directory =>
      refine Proc.follows_bind.mpr ⟨by trivial, fun reply resolved => ?_⟩
      exact inspected_of_canonicalize (shape ▸ kind) (.inr rfl) resolved

theorem map_place_reindex (selections : List SourceSelection) :
    (selections.mapIdx fun index selection =>
      { selection with selectionOrder := UInt32.ofNat index }).map
      SourceSelection.place = selections.map SourceSelection.place := by
  refine List.ext_getElem (by simp) fun index _ _ => ?_
  simp only [List.getElem_map, List.getElem_mapIdx]
  rfl

theorem layout_pushSelection (job : CanonicalTransferJob) (selection : SourceSelection) :
    layout (job.pushSelection selection) =
      ⟨(layout job).places ++ [selection.place], job.nextSourceItemId⟩ := by
  unfold layout pushSelection reindexSelections
  simp only [map_place_reindex, List.map_append, List.map_cons, List.map_nil]

theorem layout_removeCoveredRoots (job : CanonicalTransferJob) (place : Place)
    (covered : SourceSelection → Bool)
    (same : ∀ selection, covered selection = place.swallows selection.place) :
    layout (job.removeCoveredRoots covered) =
      ⟨(layout job).places.filter (fun existing => ¬ place.swallows existing),
        job.nextSourceItemId⟩ := by
  unfold layout removeCoveredRoots retainCurrentBindings
  simp only [List.filter_map, same, Function.comp_def]

theorem ensures_allocateSourceItemId {job : CanonicalTransferJob} :
    allocateSourceItemId.Ensures tree.contract (fun _ _ => True) (fun result left _ =>
      (∃ error, result = .error error ∧ left = job) ∨
        (job.nextSourceItemId.toNat + 1 < 2 ^ 64 ∧ result = .ok ⟨job.nextSourceItemId⟩ ∧
          left = { job with nextSourceItemId := job.nextSourceItemId + 1 })) job () := by
  unfold allocateSourceItemId
  rw [ensures_bind, ensures_get, resumeWith_ok, ensures_bind, ensures_raise]
  cases added : checkedAdd64 job.nextSourceItemId 1 with
  | none => exact .inl ⟨_, rfl, rfl⟩
  | some number =>
    unfold checkedAdd64 at added
    split at added
    · next bounded =>
      cases added
      exact .inr ⟨bounded, rfl, rfl⟩
    · cases added

/-- The end of `add_local_source`: the new selection is listed, whatever the counters say. -/
theorem ensures_enlist {α : Type} {start : CanonicalTransferJob} {rootItemId : SourceItemId}
    {pending : List PendingIssue} {make : List SourceIssue → SourceSelection}
    {place : Place} {value : α} (same : ∀ issues, (make issues).place = place) :
    (do
      let issues ← resolveIssues rootItemId pending
      modify (pushSelection · (make issues))
      bumpRevision
      modify refreshLifecycle
      pure value : JobMethod α).Ensures tree.contract (fun _ _ => True)
      (fun result left _ =>
        (pending ≠ [] ∧ layout left = layout start ∧ ∀ found, result ≠ .ok found) ∨
        layout left = ⟨(layout start).places ++ [place], start.nextSourceItemId⟩) start () := by
  have enlist : ∀ (issues : List SourceIssue) (left : CanonicalTransferJob),
      layout left = layout start →
      (do
        modify (pushSelection · (make issues))
        bumpRevision
        modify refreshLifecycle
        pure value : JobMethod α).Ensures tree.contract (fun _ _ => True)
        (fun _ left _ => layout left = ⟨(layout start).places ++ [place], start.nextSourceItemId⟩)
            left () := by
    intro issues left unchanged
    rw [ensures_bind, ensures_modify, resumeWith_ok]
    refine (leaves_settle _ _).mono fun result final _ settled => ?_
    rw [settled, layout_pushSelection, unchanged, same]
    exact congrArg _ (congrArg Layout.nextSourceItemId unchanged)
  rw [ensures_bind]
  cases pending with
  | nil =>
    rw [resolveIssues, ensures_pure, resumeWith_ok]
    refine (enlist [] start rfl).mono fun _ _ _ listed => ?_
    exact .inr listed
  | cons first rest =>
    refine (leaves_resolveIssues start ()).mono fun result left _ unchanged => ?_
    cases result with
    | error error => exact .inl ⟨nofun, unchanged, nofun⟩
    | ok issues =>
      rw [resumeWith_ok]
      refine (enlist issues left unchanged).mono fun _ _ _ listed => ?_
      exact .inr listed

/-- `foldingSelection` looks at the places only. -/
theorem folds_of_foldingSelection {selections : List SourceSelection} {place : Place}
    (unfolded : foldingSelection selections place.canonicalPath = none) :
    ∀ existing ∈ selections.map SourceSelection.place, existing.folds place = false := by
  intro existing listed
  obtain ⟨selection, found, rfl⟩ := List.mem_map.mp listed
  cases known : place.canonicalPath with
  | none => simp [Place.folds, known]
  | some candidate =>
    simp only [foldingSelection, known, Option.bind_some, List.find?_eq_none] at unfolded
    have left := eq_false_of_ne_true (unfolded selection found)
    simp only [Place.folds, known, Option.any_some]
    exact left

theorem ensures_admitSource {job : CanonicalTransferJob} {path : PathBuf} {requestedName : String}
    {origin : LocalSourceOrigin} {owned : Bool} {canonicalPath : Option PathBuf}
    {hint : Option Bool} {initialIssue : Option SourceIssueKind}
    (inspected : Inspected tree path (canonicalPath, hint, initialIssue))
    (unfolded : foldingSelection job.selections canonicalPath = none) :
    (admitSource path requestedName origin owned canonicalPath hint initialIssue).Ensures
      tree.contract (fun _ _ => True)
      (fun result left _ => Layout.Move tree none (layout job) (layout left) ∧
        ∀ value, result = .ok value → ∀ file, canonicalPath = some file →
          (layout left).Covers file) job () := by
  unfold admitSource
  rw [ensures_bind, ensures_get, resumeWith_ok]
  dsimp only
  rw [ensures_bind, ensures_raise]
  by_cases full : job.selections.length ≥ maxManifestV2Roots ∧
    ¬ job.selections.any (isCovered hint canonicalPath)
  · rw [reject_of full]
    exact ⟨.inl rfl, nofun⟩
  rw [reject_of_not full, resumeWith_ok, ensures_bind]
  refine ensures_allocateSourceItemId.mono fun result left world allocated => ?_
  obtain ⟨error, rfl, rfl⟩ | ⟨bounded, rfl, rfl⟩ := allocated
  · exact ⟨.inl rfl, nofun⟩
  rw [resumeWith_ok]
  let place : Place := ⟨⟨job.nextSourceItemId⟩, canonicalPath, hint⟩
  have there : place.Describes tree := by
    intro candidate known
    have found := inspected.known candidate known
    refine ⟨⟨path, ?_⟩, found.1⟩
    have source : tree.source path = some candidate := inspected.canonical.symm.trans known
    unfold FileTree.source at source
    split at source <;> first | exact source | cases source
  -- At the limit a source is admitted only in the place of those it covers.
  have room : (layout job).places.length < maxManifestV2Roots ∨
      ∃ existing ∈ (layout job).places, place.swallows existing := by
    rw [not_and_or, not_not, List.any_eq_true] at full
    obtain short | ⟨selection, listed, covered⟩ := full
    · exact .inl (by simpa [layout] using short)
    · exact .inr ⟨selection.place, List.mem_map_of_mem listed, covered⟩
  have admitted := Layout.Step.admitted bounded rfl there (folds_of_foldingSelection unfolded) room
  have covering : ∀ file, canonicalPath = some file → place.covers file := fun file known =>
    Place.covers_iff.mpr ⟨file, known, startsWith_refl file⟩
  split
  · next directory =>
    -- a known directory brings no issue, so nothing can fail before it is listed
    rw [ensures_bind, ensures_modify, resumeWith_ok]
    obtain ⟨file, known⟩ := Option.isSome_iff_exists.mp directory.2
    obtain rfl : initialIssue = none := (inspected.known file known).2
    refine (ensures_enlist fun _ => show SourceSelection.place _ = place
      from rfl).mono fun result left _ listed => ?_
    obtain ⟨absurd, -⟩ | listed := listed
    · exact (absurd rfl).elim
    have listed : layout left =
        ⟨(layout job).places.filter (fun existing => ¬ place.swallows existing) ++ [place],
        job.nextSourceItemId + 1⟩ := by
      rw [listed, layout_removeCoveredRoots _ place (isCovered hint canonicalPath) fun _ => rfl]
      rfl
    rw [listed]
    refine ⟨.inr admitted, fun _ _ file known =>
      ⟨place, List.mem_append_right _ (List.mem_singleton_self _), ?_⟩⟩
    exact covering file known
  · next other =>
    have unswallowed : ∀ existing, place.swallows existing = false := by
      intro existing
      cases known : canonicalPath with
      | none => simp [place, Place.swallows, known]
      | some file => simp_all [place, Place.swallows]
    have all : (layout job).places.filter (fun existing => ¬ place.swallows existing) =
        (layout job).places := by
      rw [List.filter_eq_self]
      intro existing _
      simp [unswallowed existing]
    refine (ensures_enlist fun _ => show SourceSelection.place _ = place
      from rfl).mono fun result left _ listed => ?_
    obtain ⟨-, unchanged, failed⟩ | listed := listed
    · rw [unchanged]
      exact ⟨.inr (.allocated bounded), fun value succeeded => (failed value succeeded).elim⟩
    · rw [all] at admitted
      rw [listed]
      refine ⟨.inr admitted,
        fun _ _ file known => ⟨place, List.mem_append_right _ (List.mem_singleton_self _), ?_⟩⟩
      exact covering file known

/-- The places were left alone or went one step, and a call that succeeded has put `path` into the
job. -/
def Moved (tree : FileTree) (root : Option SourceItemId) (path : Option PathBuf)
    (before : Layout) {α : Type} (result : Except TransferJobError α) (after : Layout) : Prop :=
  Layout.Move tree root before after ∧
    ∀ value, result = .ok value → ∀ given, path = some given →
      ∀ file, tree.source given = some file → after.Covers file

section Rules

variable {α β : Type} {root : Option SourceItemId} {path : Option PathBuf} {before : Layout}
  {job : CanonicalTransferJob} {first : JobMethod α} {next : α → JobMethod β}

theorem Moved.failed {error : TransferJobError} :
    Moved tree root path before (.error error : Except TransferJobError α) before :=
  ⟨.inl rfl, nofun⟩

theorem Moved.stayed {result : Except TransferJobError α} :
    Moved tree root none before result before :=
  ⟨.inl rfl, nofun⟩

/-- A part that leaves the places alone in front of one that moves them. -/
theorem moved_after (leaves : first.Leaves tree.contract layout)
    (rest : ∀ value left, (next value).Ensures tree.contract (fun _ _ => True)
      (fun result final _ => Moved tree root path (layout left) result (layout final)) left ()) :
    (first >>= next).Ensures tree.contract (fun _ _ => True)
      (fun result final _ => Moved tree root path (layout job) result (layout final)) job () := by
  refine leaves.ensures_bind ?_ ?_
  · intro error left _ same
    rw [same]
    exact .failed
  · intro value left _ same
    rw [← same]
    exact rest value left

/-- What follows a move leaves the places alone. -/
theorem moved_before (moves : first.Ensures tree.contract (fun _ _ => True)
      (fun result left _ => Moved tree root path before result (layout left)) job ())
    (rest : ∀ value, (next value).Leaves tree.contract layout) :
    (first >>= next).Ensures tree.contract (fun _ _ => True)
      (fun result left _ => Moved tree root path before result (layout left)) job () := by
  rw [ensures_bind]
  refine moves.mono fun result left _ after => ?_
  cases result with
  | error error => exact ⟨after.1, nofun⟩
  | ok value =>
    rw [resumeWith_ok]
    refine (rest value left ()).mono fun result final _ same => ?_
    rw [same]
    exact ⟨after.1, fun _ _ => after.2 value rfl⟩

theorem moved_of_leaves (leaves : first.Leaves tree.contract layout) :
    first.Ensures tree.contract (fun _ _ => True)
      (fun result left _ => Moved tree root none (layout job) result (layout left)) job () := by
  refine (leaves job ()).mono fun result left _ same => ?_
  rw [same]
  exact .stayed

end Rules

/-! ### Adding -/

/-- The selection a path is folded into covers it. -/
theorem covers_of_foldingSelection {job : CanonicalTransferJob} {existing : SourceSelection}
    {file : PathBuf} (folded : foldingSelection job.selections (some file) = some existing) :
    (layout job).Covers file := by
  simp only [foldingSelection, Option.bind_some] at folded
  refine ⟨existing.place, List.mem_map_of_mem (List.mem_of_find?_eq_some folded),
    Place.covers_iff.mpr ?_⟩
  have holds := List.find?_some folded
  simp only [decide_eq_true_eq] at holds
  cases holds with
  | inl same => exact ⟨file, same, startsWith_refl file⟩
  | inr below => exact (Option.any_eq_true _ _).mp below.2

section Adding

variable [UnicodeNormalization] {job : CanonicalTransferJob} {path : PathBuf}
  {requestedName : String}
  {origin : LocalSourceOrigin} {owned : Bool}

theorem moved_addLocalSource :
    (addLocalSource path requestedName origin owned).Ensures tree.contract (fun _ _ => True)
      (fun result left _ => Moved tree none (some path) (layout job) result (layout left))
        job () := by
  refine moved_after leaves_ensureMutable fun _ job => moved_after leaves_raise fun _ job => ?_
  rw [ensures_bind, ensures_call]
  refine follows_inspectSource.mono fun found _ inspected => ?_
  obtain ⟨canonicalPath, hint, initialIssue⟩ := found
  rw [resumeWith_ok]
  dsimp only
  rw [ensures_bind, ensures_get, resumeWith_ok]
  have source : canonicalPath = tree.source path := inspected.canonical
  split
  · next existing folded =>
    refine ⟨.inl rfl, fun _ _ _ given file known => ?_⟩
    cases given
    rw [source, known] at folded
    exact covers_of_foldingSelection folded
  · next unfolded =>
    refine (ensures_admitSource inspected unfolded).mono fun result after _ admitted => ?_
    refine ⟨admitted.1, fun value succeeded _ given file known => ?_⟩
    cases given
    exact admitted.2 value succeeded file (source.trans known)

theorem moved_addLocalPath :
    (addLocalPath path).Ensures tree.contract (fun _ _ => True)
      (fun result left _ => Moved tree none (some path) (layout job) result (layout left)) job () :=
  moved_after leaves_raise fun _ _ => moved_addLocalSource

theorem moved_addProviderPath [Blake3] {providerIssues : List ProviderSourceIssue} :
    (addProviderPath path requestedName origin providerIssues).Ensures tree.contract
      (fun _ _ => True)
      (fun result left _ => Moved tree none (some path) (layout job) result (layout left))
        job () := by
  refine moved_after leaves_raise fun _ _ => moved_after leaves_raise fun _ _ =>
    moved_after leaves_raise fun _ _ => ?_
  refine moved_after leaves_raise fun _ _ => moved_before moved_addLocalSource fun added => ?_
  split
  · exact leaves_pure
  · exact leaves_prepareSelection.bind fun _ =>
      leaves_attachProviderIssues.bind fun _ => leaves_pure

theorem moved_attachStaged :
    (TransferJobStore.attachStaged path requestedName origin).Ensures tree.contract
      (fun _ _ => True)
      (fun result left _ => Moved tree none (some path) (layout job) result (layout left))
        job () := by
  unfold TransferJobStore.attachStaged
  rw [ensures_bind, ensures_outcome]
  have added :
    (addStagedSource path (canonicalComponent requestedName) origin).Ensures tree.contract
      (fun _ _ => True)
      (fun result left _ => Moved tree none (some path) (layout job) result (layout left)) job () :=
    moved_after leaves_raise fun _ _ => moved_after leaves_raise fun _ _ => moved_addLocalSource
  refine added.mono fun result left _ moved => ?_
  rw [resumeWith_ok]
  cases result with
  | ok added => exact moved
  | error error => exact ⟨by trivial, fun _ _ => ⟨moved.1, nofun⟩⟩

/-- The path is chosen on the way. -/
theorem moved_importStaged {store : TransferJobStore} {rounds : Nat} :
    (store.importStaged path requestedName origin rounds).Ensures tree.contract (fun _ _ => True)
      (fun result left _ => Layout.Move tree none (layout job) (layout left) ∧
        ∀ imported, result = .ok imported →
        ∀ file, tree.source imported.1 = some file → (layout left).Covers file) job () := by
  have staging : (store.stageFile path requestedName origin rounds).Leaves tree.contract layout :=
    leaves_stageFile
  refine staging.ensures_bind ?_ ?_
  · intro error left _ same
    rw [same]
    exact ⟨.inl rfl, nofun⟩
  · intro staged left _ same
    rw [← same, ensures_bind]
    refine moved_attachStaged.mono fun result final _ moved => ?_
    cases result with
    | error error => exact ⟨moved.1, nofun⟩
    | ok added =>
      refine ⟨moved.1, fun imported succeeded => ?_⟩
      obtain rfl := Except.ok.inj succeeded
      exact moved.2 added rfl staged rfl

end Adding

/-! ### Deciding -/

section Deciding

variable {job : CanonicalTransferJob} {rootItemId : SourceItemId} {index : Nat}
  {selection : SourceSelection}
  {localPath : PathBuf}

/-- The places around the selection at an index. -/
theorem places_split (found : job.selections[index]? = some selection) :
    (layout job).places = (job.selections.take index).map SourceSelection.place ++
      selection.place :: (job.selections.drop (index + 1)).map SourceSelection.place := by
  obtain ⟨inside, here⟩ := List.getElem?_eq_some_iff.mp found
  have split : job.selections = job.selections.take index ++
      selection :: job.selections.drop (index + 1) := by
    rw [← here, ← List.drop_eq_getElem_cons inside, List.take_append_drop]
  show job.selections.map SourceSelection.place = _
  conv_lhs => rw [split]
  simp

theorem layout_replaced {change : SourceSelection → SourceSelection}
    (found : job.selections[index]? = some selection) :
    layout (job.updateSelection index change) =
      ⟨(job.selections.take index).map SourceSelection.place ++
        (change selection).place :: (job.selections.drop (index + 1)).map SourceSelection.place,
        job.nextSourceItemId⟩ := by
  obtain ⟨inside, here⟩ := List.getElem?_eq_some_iff.mp found
  unfold layout updateSelection
  simp only [List.modify_eq_take_cons_drop inside, here, List.map_append, List.map_cons]

theorem layout_removeSelection (job : CanonicalTransferJob) (index : Nat)
    (selection : SourceSelection) :
    layout (job.removeSelection index selection) =
      ⟨(job.selections.take index).map SourceSelection.place ++
        (job.selections.drop (index + 1)).map SourceSelection.place, job.nextSourceItemId⟩ := by
  have places : layout (job.removeSelection index selection) =
      ⟨(job.selections.eraseIdx index).map SourceSelection.place, job.nextSourceItemId⟩ := by
    unfold removeSelection layout
    split <;> exact congrArg (Layout.mk · job.nextSourceItemId) (map_place_reindex _)
  rw [places, List.eraseIdx_eq_take_drop_succ, List.map_append]

/-- No other selection overlaps the path that takes the place of this one. -/
theorem apart_of_overlapsAnother {candidate : Option PathBuf} {place : Place}
    (free : overlapsAnother job rootItemId candidate = false)
    (known : place.canonicalPath = candidate) :
    ∀ other ∈ (layout job).places, other.rootItemId ≠ rootItemId → place.Apart other := by
  intro other listed different path existing placed otherKnown overlap
  obtain ⟨selection, found, rfl⟩ := List.mem_map.mp listed
  have candidateKnown : candidate = some path := known.symm.trans placed
  have otherKnown : selection.canonicalPath = some existing := otherKnown
  have different : selection.rootItemId ≠ rootItemId := different
  unfold overlapsAnother at free
  rw [candidateKnown, Option.any_some, List.any_eq_false] at free
  have apart := free selection found
  cases overlap with
  | inl below => simp [different, otherKnown, below] at apart
  | inr below => simp [different, otherKnown, below] at apart

/-- A path of the tree takes the place of this one. -/
theorem moved_replaced {change : SourceSelection → SourceSelection}
    (found : job.selections[index]? = some selection)
    (same : (change selection).rootItemId = selection.rootItemId)
    (canonical : (change selection).canonicalPath = tree.canonical localPath)
    (hint : ∀ file, tree.canonical localPath = some file →
      (change selection).isDirectoryHint = some (tree.isDirectory file))
    (free : overlapsAnother job selection.rootItemId (tree.canonical localPath) = false)
    {left : CanonicalTransferJob}
    (changed : layout left = layout (job.updateSelection index change)) :
    Moved tree (some selection.rootItemId) (some localPath) (layout job)
      (.ok () : Except TransferJobError Unit) (layout left) := by
  have there : (change selection).place.Describes tree := fun file known =>
    ⟨⟨localPath, canonical.symm.trans known⟩, hint file (canonical.symm.trans known)⟩
  have split := places_split found
  have apart :=
    apart_of_overlapsAnother free (show (change selection).place.canonicalPath = _ from canonical)
  rw [split] at apart
  have before : layout job = ⟨_, job.nextSourceItemId⟩ :=
    congrArg (Layout.mk · job.nextSourceItemId) split
  rw [changed, layout_replaced found, before]
  refine ⟨.inr (@Layout.Step.replaced tree _ _ selection.place _ _ same there ?_),
    fun _ _ given known file source => ?_⟩
  · intro other listed different
    simp only [List.mem_append, List.mem_cons] at listed apart
    exact apart other (by tauto) different
  · cases known
    refine ⟨(change selection).place, by simp,
      Place.covers_iff.mpr ⟨file, ?_, startsWith_refl file⟩⟩
    refine canonical.trans ?_
    unfold FileTree.source at source
    split at source <;> first | exact source | cases source

theorem moved_reauthorizeSelection (found : job.selections[index]? = some selection) :
    (reauthorizeSelection selection.rootItemId index localPath).Ensures tree.contract
      (fun _ _ => True)
      (fun result left _ => Moved tree (some selection.rootItemId) (some localPath)
        (layout job) result (layout left))
      job () := by
  unfold reauthorizeSelection
  rw [ensures_bind, ensures_perform]
  refine ⟨by trivial, fun reply answered => ?_⟩
  have canonical : reply.toOption = tree.canonical localPath := answered
  rw [resumeWith_ok]
  dsimp only
  rw [ensures_bind, ensures_get, resumeWith_ok, ensures_bind, ensures_raise, canonical]
  by_cases overlaps : overlapsAnother job selection.rootItemId (tree.canonical localPath) = true
  · rw [reject_of overlaps]
    exact .failed
  have free := eq_false_of_ne_true overlaps
  rw [reject_of_not overlaps, resumeWith_ok]
  split
  · next unknown =>
    refine moved_replaced found rfl rfl ?_ free rfl
    intro file known
    rw [unknown] at known
    cases known
  · next file known =>
    rw [ensures_bind, ensures_perform]
    refine ⟨by trivial, fun reply answered => ?_⟩
    have kind : reply.toOption.map (fun found => found.fileType) = tree.kind file := by
      refine Eq.trans answered ?_
      rw [tree.canonical_idem known, Option.bind_some]
    refine moved_replaced found rfl rfl ?_ free rfl
    intro other same
    obtain rfl : file = other := Option.some.inj (known.symm.trans same)
    obtain ⟨kind', there, -⟩ := tree.canonical_kind known
    rw [there] at kind
    obtain ⟨metadata, answer, shape⟩ := Option.map_eq_some_iff.mp kind
    simp only [answer, Option.map_some, FileTree.isDirectory, there, shape, Option.some.injEq]

theorem ensures_selectionIndex :
    (selectionIndex rootItemId).Ensures tree.contract (fun _ _ => True)
    (fun result left _ => left = job ∧
      ∀ index, result = .ok index → ∃ selection, job.selections[index]? = some selection ∧
        selection.rootItemId = rootItemId) job () := by
  unfold selectionIndex
  rw [ensures_bind, ensures_get, resumeWith_ok, ensures_raise]
  refine ⟨rfl, fun index found => ?_⟩
  rw [okOr_eq_ok, List.findIdx?_eq_some_iff_getElem] at found
  obtain ⟨inside, named, -⟩ := found
  exact ⟨_, List.getElem?_eq_getElem inside, by simpa using named⟩

theorem ensures_selectionAt {post : Except TransferJobError SourceSelection → CanonicalTransferJob →
    Unit → Prop}
    (found : job.selections[index]? = some selection) (holds : post (.ok selection) job ()) :
    (selectionAt index).Ensures tree.contract (fun _ _ => True) post job () := by
  unfold selectionAt
  rw [ensures_bind, ensures_get, resumeWith_ok, found]
  exact holds

/-- The root a decision gives up. -/
def SourceDecision.releases (rootItemId : SourceItemId) : SourceDecision → Option SourceItemId
  | .reauthorize _ => some rootItemId
  | .removeSelection => some rootItemId
  | _ => none

theorem moved_resolveSourceDecision (decision : SourceDecision) :
    (resolveSourceDecision rootItemId decision).Ensures tree.contract (fun _ _ => True)
      (fun result left _ =>
        Moved tree (decision.releases rootItemId) decision.path (layout job) result (layout left))
      job () := by
  refine moved_after leaves_ensureMutable fun _ job => ?_
  rw [ensures_bind]
  refine ensures_selectionIndex.mono fun result left _ after => ?_
  obtain ⟨rfl, indexed⟩ := after
  cases result with
  | error error => exact .failed
  | ok index =>
    obtain ⟨selection, found, rfl⟩ := indexed index rfl
    rw [resumeWith_ok, ensures_bind]
    refine ensures_selectionAt found ?_
    rw [resumeWith_ok, ensures_bind, ensures_raise]
    generalize reject (selection.state ≠ .needsDecision ∧ decision ≠ .removeSelection ∧
      decision ≠ .cancelJob) _ = due
    cases due with
    | error error => exact .failed
    | ok _ =>
      rw [resumeWith_ok]
      cases decision with
      | reauthorize localPath =>
        refine moved_before (moved_reauthorizeSelection found) fun _ => ?_
        exact leaves_settle
      | approvePartial => exact moved_of_leaves (leaves_approvePartial.bind fun _ => leaves_settle)
      | removeSelection =>
        refine moved_before ?_ fun _ => leaves_settle
        rw [ensures_modify, layout_removeSelection]
        have before : layout left = ⟨_, left.nextSourceItemId⟩ :=
          congrArg (Layout.mk · left.nextSourceItemId) (places_split found)
        rw [before]
        exact ⟨.inr (@Layout.Step.removed tree _ _ selection.place _), nofun⟩
      | cancelJob =>
        refine moved_of_leaves (Leaves.bind ?_ fun _ => leaves_bumpRevision.bind fun _ =>
          leaves_pure)
        exact leaves_modify fun _ => rfl

variable [UnicodeNormalization] [Blake3] {store : TransferJobStore}

theorem moved_reauthorizeProviderSource {providerIssues : List ProviderSourceIssue} :
    (reauthorizeProviderSource rootItemId localPath providerIssues).Ensures tree.contract
      (fun _ _ => True)
      (fun result left _ => Moved tree (some rootItemId) (some localPath)
        (layout job) result (layout left)) job () := by
  refine moved_after leaves_selectionIndex fun index _ =>
    moved_after leaves_selectionAt fun selection _ => ?_
  refine moved_after leaves_raise fun _ _ => moved_after leaves_raise fun issues _ => ?_
  refine moved_after leaves_raise fun _ _ => ?_
  refine moved_before (moved_resolveSourceDecision (.reauthorize localPath)) fun _ => ?_
  exact leaves_prepareSelection.bind fun _ => leaves_attachProviderIssues

theorem moved_applySourceDecision [JobJson] (decision : SourceDecision) :
    (store.applySourceDecision rootItemId decision).Ensures tree.contract (fun _ _ => True)
      (fun result left _ =>
        Moved tree (decision.releases rootItemId) decision.path (layout job) result (layout left))
      job () := by
  refine moved_before (moved_resolveSourceDecision decision) fun artifact =>
    leaves_save.bind fun _ => ?_
  split
  · exact leaves_pure
  · exact leaves_releaseStaged

end Deciding

end Moves

/-! ## Every run -/

section Runs

variable [UnicodeNormalization] [Blake3] [JobJson] {tree : FileTree} {store : TransferJobStore}

/-- The root a call gives up: it is removed, or another path takes its place. -/
def JobCall.releases : JobCall → Option SourceItemId
  | .applySourceDecision rootItemId decision => decision.releases rootItemId
  | .reauthorizeProviderSource rootItemId _ _ => some rootItemId
  | _ => none

/-- The root a call removes. -/
def JobCall.removes : JobCall → Option SourceItemId
  | .applySourceDecision rootItemId .removeSelection => some rootItemId
  | _ => none

/-- What a call has done to the places, and where the path it returns is then. -/
def CallMoved (tree : FileTree) (call : JobCall) (before : Layout)
    (result : Except TransferJobError (Option PathBuf)) (after : Layout) : Prop :=
  Layout.Move tree call.releases before after ∧ ∀ path, result = .ok (some path) →
    ∀ file, tree.source path = some file → after.Covers file

omit [UnicodeNormalization] [Blake3] [JobJson] in
theorem callMoved_of_moved {α : Type} {call : JobCall} {path : Option PathBuf}
    {job : CanonicalTransferJob} {method : JobMethod α}
    (moves : method.Ensures tree.contract (fun _ _ => True)
      (fun result left _ => Moved tree call.releases path (layout job) result (layout left)) job
        ()) :
    (method >>= fun _ => pure path).Ensures tree.contract (fun _ _ => True)
      (fun result left _ => CallMoved tree call (layout job) result (layout left)) job () := by
  rw [ensures_bind]
  refine moves.mono fun result left _ after => ?_
  cases result with
  | error error => exact ⟨after.1, nofun⟩
  | ok value =>
    refine ⟨after.1, fun given same => ?_⟩
    exact after.2 value rfl given (Except.ok.inj same)

theorem callMoved_runCall {job : CanonicalTransferJob} (call : JobCall) :
    (runCall store call).Ensures tree.contract (fun _ _ => True)
      (fun result left _ => CallMoved tree call (layout job) result (layout left)) job () := by
  cases call with
  | addLocalPath path => exact callMoved_of_moved moved_addLocalPath
  | addProviderPath path requestedName origin providerIssues =>
    exact callMoved_of_moved moved_addProviderPath
  | importStagedFile sourcePath requestedName origin rounds =>
    unfold runCall
    rw [ensures_bind]
    refine moved_importStaged.mono fun result left _ moved => ?_
    cases result with
    | error error => exact ⟨moved.1, nofun⟩
    | ok imported =>
      refine ⟨moved.1, fun path same => ?_⟩
      cases same
      exact moved.2 imported rfl
  | prepareSelection rootItemId =>
    exact callMoved_of_moved (moved_of_leaves leaves_prepareSelection)
  | prepareAll => exact callMoved_of_moved (moved_of_leaves leaves_prepareAll)
  | applySourceDecision rootItemId decision =>
    exact callMoved_of_moved (moved_applySourceDecision decision)
  | reauthorizeProviderSource rootItemId localPath providerIssues =>
    exact callMoved_of_moved moved_reauthorizeProviderSource
  | hashEntry itemId => exact callMoved_of_moved (moved_of_leaves leaves_hashEntry)
  | setCompressionPolicy policy =>
    exact callMoved_of_moved (moved_of_leaves leaves_setCompressionPolicy)
  | sealForSend => exact callMoved_of_moved (moved_of_leaves leaves_sealForSend)
  | cancel => exact callMoved_of_moved (moved_of_leaves leaves_cancel)
  | save => exact callMoved_of_moved (moved_of_leaves leaves_save)
  | reconcilePendingCleanup =>
    exact callMoved_of_moved (moved_of_leaves leaves_reconcilePendingCleanup)

/-- The selection is the one of this root, and the file lies in it. -/
def holdsAt (job : CanonicalTransferJob) (rootItemId : SourceItemId) (file : PathBuf) : Bool :=
  job.selections.any fun selection => selection.rootItemId = rootItemId &&
    selection.place.covers file

/-- The event gave up the root that had the file, by the reading of `gives`. -/
def JobEvent.withdraws (gives : JobCall → Option SourceItemId) (event : JobEvent) (file : PathBuf) :
    Bool :=
  (gives event.call).any fun rootItemId =>
    holdsAt event.before rootItemId file && ¬ holdsAt event.after rootItemId file

/-- The canonical path of a source the event put into the job. -/
def JobEvent.adds (tree : FileTree) (event : JobEvent) : Option PathBuf :=
  match event.result with
  | .ok (some path) => tree.source path
  | _ => none

/-- The files that were added and not given up since, the latest event first. -/
def kept (tree : FileTree) (gives : JobCall → Option SourceItemId) : List JobEvent → List PathBuf
  | [] => []
  | event :: earlier =>
    (event.adds tree).toList ++ (kept tree gives earlier).filter fun file =>
      ¬ event.withdraws gives file

/-- The job is as its events say. -/
structure Placed (tree : FileTree) (events : List JobEvent) (job : CanonicalTransferJob) :
    Prop where
  sound : (layout job).Sound tree
  covered : ∀ file ∈ kept tree JobCall.releases events, (layout job).Covers file

omit [UnicodeNormalization] [Blake3] [JobJson] in
theorem placed_new {policy : CompressionPolicyV2} {job : CanonicalTransferJob}
    (created : Proc.Reaches tree.contract (CanonicalTransferJob.new policy) ()
      (.ret (.ok job)) ()) :
    Placed tree [] job := by
  have empty : (CanonicalTransferJob.new policy).Follows tree.contract (fun _ _ => True)
      (fun result _ => ∀ job, result = .ok job → job.selections = []) () := by
    refine ⟨by trivial, fun reply _ => ?_⟩
    cases reply with
    | none => exact nofun
    | some jobId =>
      show Proc.Follows _ _ _ (if _ then _ else _) _
      split
      · exact nofun
      · exact ⟨by trivial, fun now _ job same => by cases same; rfl⟩
  have none : job.selections = [] := empty.rest created job rfl
  have places : (layout job).places = [] := by rw [layout, none]; rfl
  refine ⟨⟨?_, ?_, ?_, ?_, ?_⟩, nofun⟩ <;> rw [places] <;> simp

omit [UnicodeNormalization] [Blake3] [JobJson] in
theorem mem_layout_coversAt {job : CanonicalTransferJob} {rootItemId : SourceItemId}
    {file : PathBuf} :
    holdsAt job rootItemId file = true ↔ (layout job).CoversAt rootItemId file := by
  unfold holdsAt Layout.CoversAt layout
  simp [SourceSelection.place]

omit [UnicodeNormalization] [Blake3] [JobJson] in
theorem Placed.call {events : List JobEvent} {job left : CanonicalTransferJob} {call : JobCall}
    {result : Except TransferJobError (Option PathBuf)} (placed : Placed tree events job)
    (moved : CallMoved tree call (layout job) result (layout left)) :
    Placed tree (⟨job, call, result, left⟩ :: events) left := by
  refine ⟨?_, ?_⟩
  · obtain same | step := moved.1
    · exact same ▸ placed.sound
    · exact step.sound placed.sound
  · intro file listed
    unfold kept at listed
    rcases List.mem_append.mp listed with added | earlier
    · have added : (⟨job, call, result, left⟩ : JobEvent).adds tree = some file :=
        Option.mem_toList.mp added
      unfold JobEvent.adds at added
      split at added
      · next path succeeded => exact moved.2 path succeeded file added
      · cases added
    · obtain ⟨before, stays⟩ := List.mem_filter.mp earlier
      have covered := placed.covered file before
      obtain same | step := moved.1
      · rwa [same]
      · obtain still | ⟨rootItemId, released, held, lost⟩ := step.covers covered
        · exact still
        · rw [← mem_layout_coversAt] at held lost
          simp [JobEvent.withdraws, released, held, lost] at stays

theorem JobRun.placed {events : List JobEvent} {job : CanonicalTransferJob} {world : Unit}
    (run : JobRun tree.contract store () events job world) : Placed tree events job := by
  induction run with
  | new created => exact placed_new created
  | call call earlier ran ih => exact ih.call ((callMoved_runCall call).rest ran)

/-- Where both canonical paths are known they differ, and neither leads into the other. -/
def SourceSelection.Separate (left right : SourceSelection) : Prop :=
  ∀ path other, left.canonicalPath = some path → right.canonicalPath = some other →
    path ≠ other ∧ ¬ path.startsWith other ∧ ¬ other.startsWith path

/-- The file lies in the selection. -/
def SourceSelection.covers (selection : SourceSelection) (file : PathBuf) : Bool :=
  selection.canonicalPath.any fun root => file.startsWith root

omit [UnicodeNormalization] [Blake3] [JobJson] in
theorem Placed.separate {events : List JobEvent} {job : CanonicalTransferJob}
    (placed : Placed tree events job) :
    job.selections.Pairwise SourceSelection.Separate := by
  refine (List.pairwise_map.mp placed.sound.apart).imp fun {left
    right} apart path other known otherKnown => ?_
  have separate := apart path other known otherKnown
  refine ⟨fun same => separate (.inl (same ▸ startsWith_refl path)),
    fun below => separate (.inl below), ?_⟩
  exact fun below => separate (.inr below)

/-- Over a file system that stands still, whatever the callers of a job do. -/
theorem selections_never_overlap {events : List JobEvent} {job : CanonicalTransferJob}
    {world : Unit} (run : JobRun tree.contract store () events job world) :
    job.selections.Pairwise SourceSelection.Separate ∧
    (∀ file ∈ kept tree JobCall.releases events,
      (job.selections.filter fun selection => selection.covers file).length = 1) ∧
    job.selections.length ≤ maxManifestV2Roots := by
  have placed := run.placed
  refine ⟨placed.separate, fun file listed => ?_, ?_⟩
  · have one := placed.sound.covers_exactly_one (placed.covered file listed)
    rw [layout, List.filter_map, List.length_map] at one
    exact one
  · simpa [layout] using placed.sound.room

end Runs

/-! ## A folder, a file in it, and another folder -/

theorem mem_of_lookup {objects : List (PathBuf × FileType)} {path : PathBuf} {kind : FileType}
    (found : objects.lookup path = some kind) : (path, kind) ∈ objects := by
  obtain ⟨before, after, split, -⟩ := List.lookup_eq_some_iff.mp found
  rw [split]
  exact List.mem_append_right _ List.mem_cons_self

/-- A tree without links, each object under its canonical path. -/
def plainTree (objects : List (PathBuf × FileType))
    (plain : ∀ object ∈ objects, object.2 ≠ .symlink)
      (nested : ∀ object ∈ objects, ∀ above ∈ objects, above.1.components <+: object.1.components →
      above.1 ≠ object.1 → objects.lookup above.1 = some .directory) : FileTree where
  kind path := objects.lookup path
  canonical path := (objects.lookup path).map fun _ => path
  canonical_idem := by
    intro path found known
    obtain ⟨kind, there, rfl⟩ := Option.map_eq_some_iff.mp known
    exact known
  canonical_kind := by
    intro path found known
    obtain ⟨kind, there, rfl⟩ := Option.map_eq_some_iff.mp known
    exact ⟨kind, there, plain _ (mem_of_lookup there)⟩
  kind_canonical := by
    intro path found kind known there _
    obtain ⟨_, _, rfl⟩ := Option.map_eq_some_iff.mp known
    exact there
  directory_above := by
    intro path found given above known aboveKnown below different
    obtain ⟨kind, there, rfl⟩ := Option.map_eq_some_iff.mp known
    obtain ⟨aboveKind, aboveThere, rfl⟩ := Option.map_eq_some_iff.mp aboveKnown
    exact nested _ (mem_of_lookup there) _ (mem_of_lookup aboveThere) below different

def folderPath : PathBuf := ⟨[.rootDir, .normal (asBytes "a")]⟩
def filePath : PathBuf := folderPath.join (asBytes "f")
def otherPath : PathBuf := ⟨[.rootDir, .normal (asBytes "b")]⟩

def sampleTree : FileTree :=
  plainTree [(folderPath, .directory), (filePath, .regularFile), (otherPath, .directory)]
    (by decide) (by decide)

/-- The replies of a tree with these names in the one folder, a clock that stands and entropy of one
byte. -/
def treeReplies (tree : FileTree) (names : List OsString) (_ : Unit) :
    (op : JobOp) → Option (JobReply op)
  | .fill => some (some ⟨List.replicate 16 7, rfl⟩)
  | .systemTime => some 1000
  | .symlinkMetadata path => some (match tree.kind path with
    | some fileType => .ok ⟨fileType, 5, some 1⟩
    | none => .error .notFound)
  | .metadata path => some (match (tree.canonical path).bind tree.kind with
    | some fileType => .ok ⟨fileType, 5, some 1⟩
    | none => .error .notFound)
  | .canonicalize path => some (match tree.canonical path with
    | some found => .ok found
    | none => .error .notFound)
  | .readDir path => some (.ok ⟨if path = folderPath then names else [], none⟩)
  | _ => none

theorem treeReplies_allowed {tree : FileTree} {names : List OsString} (world : Unit) (op : JobOp)
    (reply : JobReply op) (answered : treeReplies tree names world op = some reply) :
    tree.contract.may world op reply := by
  cases op with
  | symlinkMetadata path =>
    obtain rfl := Option.some.inj answered
    show Option.map _ (Except.toOption _) = _
    cases tree.kind path <;> rfl
  | metadata path =>
    obtain rfl := Option.some.inj answered
    show Option.map _ (Except.toOption _) = _
    cases (tree.canonical path).bind tree.kind <;> rfl
  | canonicalize path =>
    obtain rfl := Option.some.inj answered
    show Except.toOption _ = _
    cases tree.canonical path <;> rfl
  | _ => trivial

def sampleReplies : Unit → (op : JobOp) → Option (JobReply op) :=
  treeReplies sampleTree [asBytes "f"]

def folderItem : ByteVector 32 :=
  ⟨[0x7b, 0xcd, 0x91, 0x66, 0x49, 0x02, 0x85, 0xfa, 0x42, 0xb4, 0xf8, 0xc4, 0x35, 0x57, 0xac, 0x10,
    0x54, 0x90, 0x53, 0x1a, 0x40, 0xbc, 0xeb, 0xfd, 0x4c, 0xce, 0x6e, 0x5d, 0x01, 0x80, 0xc0, 0x50],
      rfl⟩

def fileItem : ByteVector 32 :=
  ⟨[0xc3, 0xfa, 0x40, 0x2e, 0x85, 0x67, 0x75, 0x50, 0x44, 0x84, 0xbc, 0x6d, 0xe2, 0xd7, 0x4a, 0x6d,
    0x32, 0xc3, 0x74, 0x9d, 0xdc, 0xfd, 0x01, 0x06, 0x88, 0x5f, 0x36, 0x58, 0x44, 0x5e, 0x45, 0x60],
      rfl⟩

def folderPathDigest : ByteVector 32 :=
  ⟨[0xd3, 0x7c, 0x8a, 0xa1, 0x6f, 0xec, 0xf8, 0xe5, 0x74, 0xad, 0xa2, 0xa8, 0xeb, 0x12, 0x4e, 0x68,
    0xe1, 0x23, 0xfd, 0x63, 0xd3, 0x66, 0xaf, 0x7d, 0x83, 0xbf, 0xde, 0x9e, 0x40, 0x2d, 0x98, 0x0a],
      rfl⟩

def filePathDigest : ByteVector 32 :=
  ⟨[0xf0, 0xcb, 0x19, 0x2d, 0xd7, 0xd0, 0x5b, 0xbb, 0xeb, 0x9e, 0x95, 0x88, 0xb1, 0x6b, 0x44, 0x0b,
    0x13, 0x88, 0x20, 0x9e, 0x15, 0xcb, 0xad, 0x76, 0x91, 0xc9, 0xdc, 0xb3, 0xbc, 0xf7, 0x40, 0x8a],
      rfl⟩

def otherPathDigest : ByteVector 32 :=
  ⟨[0x7c, 0x17, 0x73, 0x09, 0x76, 0x29, 0x7d, 0x3f, 0x0d, 0x0b, 0xb7, 0x96, 0x24, 0x48, 0x52, 0x81,
    0xf2, 0x6b, 0x3f, 0x7d, 0x17, 0x7e, 0x2a, 0x0d, 0x62, 0xee, 0xd5, 0x3c, 0xec, 0xb5, 0x80, 0xd4],
      rfl⟩

/-- BLAKE3 on what preparing the two folders hashes. -/
@[reducible] def sampleTreeBlake3 : Blake3 where
  hash input :=
    let seed : Bytes := List.replicate 16 7 ++ u64Be 1 ++ u64Be 0
    if input = seed then folderItem
    else if input = seed ++ u32Be 1 ++ asBytes "f" then fileItem
    else if input = folderPath.encodedBytes then folderPathDigest
    else if input = filePath.encodedBytes then filePathDigest
    else if input = otherPath.encodedBytes then otherPathDigest
    else ByteVector.zero 32
  deriveKey _ _ := ByteVector.zero 32
  keyedHash _ _ := ByteVector.zero 32

/-- No call below writes a job. -/
@[reducible] def unusedJson : JobJson where
  toVec _ := .error "not asked for"
  fromSlice _ := .error "not asked for"

def sampleStore : TransferJobStore := ⟨⟨[.rootDir, .normal (asBytes "jobs")]⟩⟩

/-- A provider brings the folder with a child it could not read, the file in it is folded into the
folder, and the folder is then reauthorized as the other one. -/
def reauthorizedRun : Option (List JobEvent × CanonicalTransferJob × Unit) :=
  @playJob asciiNormalization sampleTreeBlake3 unusedJson _ sampleTree.contract.after sampleReplies
    sampleStore .smart
    [.addProviderPath folderPath "a" .contentUriStaging [⟨["x"], .permissionDenied⟩],
      .addLocalPath filePath, .reauthorizeProviderSource ⟨1⟩ otherPath []] ()

/-- The file first, then the other folder, then the folder that takes the file in, and the file
again. -/
def foldedRun : Option (List JobEvent × CanonicalTransferJob × Unit) :=
  @playJob asciiNormalization sampleTreeBlake3 unusedJson _ sampleTree.contract.after sampleReplies
    sampleStore .smart
    [.addLocalPath filePath, .addLocalPath otherPath, .addLocalPath folderPath,
      .addLocalPath filePath] ()

theorem selections_never_overlap_folded :
    ∃ events job, foldedRun = some (events, job, ()) ∧
      kept sampleTree JobCall.releases events = [filePath, folderPath, otherPath, filePath] ∧
      job.selections.map (fun selection => selection.canonicalPath) =
        [some otherPath, some folderPath] ∧
      job.selections.Pairwise SourceSelection.Separate ∧
      (job.selections.filter fun selection => selection.covers filePath).length = 1 := by
  have files : foldedRun.map (fun reached => (kept sampleTree JobCall.releases reached.1,
      reached.2.1.selections.map fun selection => selection.canonicalPath)) =
      some ([filePath, folderPath, otherPath, filePath], [some otherPath, some folderPath]) := by
    decide +kernel
  obtain ⟨⟨events, job, world⟩, played, holds⟩ := Option.map_eq_some_iff.mp files
  obtain ⟨keeps, paths⟩ := Prod.mk.inj holds
  have run :=
    @jobRun_of_playJob asciiNormalization sampleTreeBlake3 unusedJson _ _ _ _ _ treeReplies_allowed
      _ _ _ played
  obtain ⟨separate, one, -⟩ :=
    @selections_never_overlap asciiNormalization sampleTreeBlake3 unusedJson _ _ _ _ _ run
  refine ⟨events, job, played, keeps, paths, separate, one filePath ?_⟩
  rw [keeps]
  exact List.mem_cons_self

/-- The file was added and no root was ever removed, yet it lies in no selection. -/
theorem reauthorized_file_uncovered :
    ¬ ∀ (tree : FileTree) (store : TransferJobStore) (events : List JobEvent)
      (job : CanonicalTransferJob) (world : Unit),
      @JobRun asciiNormalization sampleTreeBlake3 unusedJson _ tree.contract store ()
        events job world →
        ∀ file ∈ kept tree JobCall.removes events,
          (job.selections.filter fun selection => selection.covers file).length = 1 := by
  intro covered
  have lost :
      reauthorizedRun.any (fun reached => filePath ∈ kept sampleTree JobCall.removes reached.1 &&
      (reached.2.1.selections.filter fun selection => selection.covers filePath).length = 0) =
        true := by
    decide +kernel
  obtain ⟨reached, played, holds⟩ := (Option.any_eq_true _ _).mp lost
  simp only [Bool.and_eq_true, decide_eq_true_eq] at holds
  have run :=
    @jobRun_of_playJob asciiNormalization sampleTreeBlake3 unusedJson _ _ _ _ _ treeReplies_allowed
      _ _ _ played
  have one := covered _ _ _ _ _ run filePath holds.1
  rw [holds.2] at one
  cases one

end Envoix.Job
