import Envoix.Job.Store

/-! # What a call changes

Every operation of `Operations.lean` and `Store.lean` is a sequence of a few changes to the job,
each under the conditions its method has checked by then.  What holds along every run is proved
change by change. -/

namespace Envoix.Job

open ByteCodec Fallible Process Process.Method Relation Envoix.Protocol CanonicalTransferJob

/-- The operations that put a file into staging or take one out. -/
def JobOp.stages : JobOp → Bool
  | .createNew _ => true
  | .removeFile _ => true
  | _ => false

/-- No call touches the staged files. -/
abbrev offDisk {World : Type} : World → JobOp → Prop := fun _ op => op.stages = false

/-! ## What an enumeration brings -/

/-- The binding was made together with the entry. -/
def LocalSourceBinding.Binds (binding : LocalSourceBinding) (entry : PreparedInventoryEntry) :
    Prop :=
  binding.fingerprint.plaintextSize = entry.plaintextSize ∧
    binding.fingerprint.modifiedUnixNanos = entry.modifiedUnixNanos

/-- The entries are those of one root, under ids of their own, and each has its binding. -/
structure Enumerated (occupied : List SourceItemId) (rootItemId : SourceItemId)
    (entries : List PreparedInventoryEntry) (bindings : SourceBindings) : Prop where
  nodup : (entries.map fun entry => entry.itemId).Nodup
  fresh : ∀ entry ∈ entries, entry.itemId ∉ occupied
  roots : ∀ entry ∈ entries, entry.rootItemId = rootItemId
  bound : ∀ entry ∈ entries, ∃ binding, bindings.lookup entry.itemId = some binding ∧
    binding.Binds entry
  keys : ∀ bound ∈ bindings, bound.1 ∈ entries.map fun entry => entry.itemId
  distinct : (bindings.map Prod.fst).Nodup

theorem lookup_filter_ne {itemId other : SourceItemId} (different : other ≠ itemId)
    (bindings : SourceBindings) :
    (bindings.filter fun bound => bound.1 ≠ itemId).lookup other = bindings.lookup other := by
  induction bindings with
  | nil => rfl
  | cons bound rest ih =>
    obtain ⟨key, binding⟩ := bound
    by_cases same : key = itemId
    · have apart : (other == key) = false := beq_false_of_ne (same ▸ different)
      rw [List.filter_cons_of_neg (by simp [same]), ih, List.lookup_cons, apart]
    · rw [List.filter_cons_of_pos (by simp [same]), List.lookup_cons, List.lookup_cons, ih]

theorem lookup_append (first second : SourceBindings) (itemId : SourceItemId) :
    (first ++ second).lookup itemId = (first.lookup itemId).or (second.lookup itemId) := by
  induction first with
  | nil => rfl
  | cons bound rest ih =>
    rw [List.cons_append, List.lookup_cons, List.lookup_cons, ih]
    split <;> rfl

theorem lookup_insert (bindings : SourceBindings) (itemId other : SourceItemId)
    (binding : LocalSourceBinding) :
    (bindings.insert itemId binding).lookup other = if other = itemId then some binding
      else bindings.lookup other := by
  rw [SourceBindings.insert, lookup_append]
  by_cases same : other = itemId
  · have gone : (bindings.filter fun bound => bound.1 ≠ itemId).lookup other = none := by
      rw [List.lookup_eq_none_iff]
      intro bound listed
      have kept := (List.mem_filter.mp listed).2
      simp only [decide_eq_true_eq] at kept
      simp [same, kept.symm]
    rw [gone, if_pos same]
    simp [same]
  · have apart : (other == itemId) = false := beq_false_of_ne same
    rw [lookup_filter_ne same, if_neg same, List.lookup_cons, apart]
    simp

theorem mem_insert {bindings : SourceBindings} {itemId : SourceItemId}
    {binding : LocalSourceBinding} {bound : SourceItemId × LocalSourceBinding}
    (listed : bound ∈ bindings.insert itemId binding) :
    bound ∈ bindings ∨ bound.1 = itemId := by
  rw [SourceBindings.insert, List.mem_append, List.mem_singleton] at listed
  obtain kept | rfl := listed
  · exact .inl (List.mem_filter.mp kept).1
  · exact .inr rfl

theorem Enumerated.start (occupied : List SourceItemId) (rootItemId : SourceItemId) :
    Enumerated occupied rootItemId [] [] where
  nodup := List.nodup_nil
  fresh := nofun
  roots := nofun
  bound := nofun
  keys := nofun
  distinct := List.nodup_nil

/-- An entry under a new id. -/
theorem Enumerated.enter {occupied : List SourceItemId} {rootItemId : SourceItemId}
    {entries : List PreparedInventoryEntry} {bindings : SourceBindings}
    (enumerated : Enumerated occupied rootItemId entries bindings) {entry : PreparedInventoryEntry}
    {binding : LocalSourceBinding} (apart : entry.itemId ∉ entries.map fun entry => entry.itemId)
    (free : entry.itemId ∉ occupied) (root : entry.rootItemId = rootItemId)
    (binds : binding.Binds entry) :
    Enumerated occupied rootItemId (entries ++ [entry]) (bindings.insert entry.itemId binding) where
  nodup := by
    rw [List.map_append, List.nodup_append]
    refine ⟨enumerated.nodup, List.nodup_singleton _, ?_⟩
    intro id listed other last same
    rw [List.map_singleton, List.mem_singleton] at last
    exact apart (last ▸ same ▸ listed)
  fresh other listed := by
    obtain earlier | rfl := List.mem_append.mp listed |>.imp_right List.mem_singleton.mp
    · exact enumerated.fresh other earlier
    · exact free
  roots other listed := by
    obtain earlier | rfl := List.mem_append.mp listed |>.imp_right List.mem_singleton.mp
    · exact enumerated.roots other earlier
    · exact root
  bound other listed := by
    rw [lookup_insert]
    obtain earlier | rfl := List.mem_append.mp listed |>.imp_right List.mem_singleton.mp
    · have different : other.itemId ≠ entry.itemId :=
        fun same => apart (List.mem_map.mpr ⟨other, earlier, same⟩)
      rw [if_neg different]
      exact enumerated.bound other earlier
    · exact ⟨binding, if_pos rfl, binds⟩
  keys bound listed := by
    rw [List.map_append, List.mem_append]
    obtain earlier | same := mem_insert listed
    · exact .inl (enumerated.keys bound earlier)
    · exact .inr (by simp [same])
  distinct := by
    rw [SourceBindings.insert, List.map_append, List.nodup_append]
    refine ⟨enumerated.distinct.sublist (List.filter_sublist.map _), List.nodup_singleton _, ?_⟩
    intro key listed other last same
    obtain ⟨bound, kept, rfl⟩ := List.mem_map.mp listed
    have different := (List.mem_filter.mp kept).2
    rw [List.map_singleton, List.mem_singleton] at last
    simp [same, last] at different

/-- The loop's own list of ids is the one it started from and those of its entries. -/
structure Enumeration.Walked (walk : Enumeration) (occupied : List SourceItemId)
    (rootItemId : SourceItemId) : Prop where
  enumerated : Enumerated occupied rootItemId walk.entries walk.bindings
  occupiedIds : ∀ id, id ∈ walk.occupiedIds ↔ id ∈ walk.entries.map (fun entry => entry.itemId) ∨
    id ∈ occupied

theorem Enumeration.Walked.enter {walk : Enumeration} {occupied : List SourceItemId}
    {rootItemId : SourceItemId} (walked : walk.Walked occupied rootItemId)
    {entry : PreparedInventoryEntry} {binding : LocalSourceBinding} {issues : List PendingIssue}
    (free : entry.itemId ∉ walk.occupiedIds) (root : entry.rootItemId = rootItemId)
    (binds : binding.Binds entry) :
    (walk.enter entry binding issues).Walked occupied rootItemId where
  enumerated := by
    rw [walked.occupiedIds, not_or] at free
    exact walked.enumerated.enter free.1 free.2 root binds
  occupiedIds id := by
    simp only [Enumeration.enter, List.mem_cons, walked.occupiedIds, List.map_append,
      List.mem_append, List.map_cons, List.map_nil, List.not_mem_nil, or_false]
    tauto

section Enumerating

variable {World : Type} {contract : Contract JobOp JobReply World} {selection : SourceSelection}
  {jobId : JobIdV2}
  {occupied : List SourceItemId} {world : World}

theorem firstFreeId_free {candidate : UInt64 → SourceItemId} {salts : Nat} {salt : UInt64}
    {itemId : SourceItemId} (found : firstFreeId candidate occupied salts salt = some itemId) :
    itemId ∉ occupied := by
  induction salts generalizing salt with
  | zero => cases found
  | succ salts ih =>
    rw [firstFreeId] at found
    split at found
    · exact ih found
    · next free => exact Option.some.inj found ▸ free

/-- What a visit may enter. -/
def Visit.Enters (occupied : List SourceItemId) (rootItemId : SourceItemId) : Visit → Prop
  | .skipped _ => True
  | .entered entry binding _ _ => entry.itemId ∉ occupied ∧ entry.rootItemId = rootItemId ∧
    binding.Binds entry

variable [UnicodeNormalization]

theorem follows_readChildren {path : PathBuf} {components : List String} {itemId : SourceItemId} :
    (readChildren path components itemId).Follows contract offDisk (fun _ _ => True) world := by
  unfold readChildren
  refine Proc.follows_bind.mpr ⟨rfl, fun reply _ => ?_⟩
  cases reply <;> trivial

variable [Blake3]

theorem follows_enterSource {item : PendingSource} {metadata : Metadata} {name : String}
    {itemId : SourceItemId} (free : itemId ∉ occupied) :
    (enterSource selection item metadata name itemId).Follows contract offDisk
      (fun visit _ => visit.Enters occupied selection.rootItemId) world := by
  unfold enterSource
  refine Proc.follows_bind.mpr ⟨rfl, fun reply _ => ?_⟩
  have binds : Visit.Enters occupied selection.rootItemId (.entered
      { itemId, rootItemId := selection.rootItemId, parentItemId := item.parentItemId,
        relativeComponents := item.relativeComponents, name,
        kind := if metadata.fileType = .directory then .directory else .regularFile,
        plaintextSize := plaintextSizeOf metadata, modifiedUnixNanos := modifiedUnixNanos metadata,
        digest := none }
      { path := reply.toOption.getD item.path, origin := selection.origin,
        jobOwnedStaging := selection.jobOwnedStaging,
        fingerprint := fingerprint (reply.toOption.getD item.path) metadata } [] []) :=
          ⟨free, rfl, rfl, rfl⟩
  unfold Proc.Follows
  dsimp only
  split
  · exact Proc.follows_bind.mpr (follows_readChildren.mono fun _ _ _ => binds)
  · exact binds

theorem follows_visitSource {item : PendingSource} :
    (visitSource selection jobId occupied item).Follows contract offDisk
      (fun visit _ => visit.Enters occupied selection.rootItemId) world := by
  unfold visitSource
  split
  · trivial
  refine Proc.follows_bind.mpr ⟨rfl, fun reply _ => ?_⟩
  unfold Proc.Follows
  cases reply with
  | error error => trivial
  | ok metadata =>
    dsimp only
    split
    · trivial
    · trivial
    · split
      · split
        · exact Proc.follows_bind.mpr ⟨rfl, nofun⟩
        · next itemId found => exact follows_enterSource (firstFreeId_free found)
      · trivial

/-- What a walk over a tree ends with, whatever the tree is meanwhile. -/
def Walks (occupied : List SourceItemId) (rootItemId : SourceItemId) (entryBudget : Nat)
    (outcome : EnumerationOutcome) : Prop :=
  Enumerated occupied rootItemId outcome.entries outcome.bindings ∧
    outcome.entries.length ≤ entryBudget

theorem follows_visitPending {start : List SourceItemId} {entryBudget : Nat}
    {enter : Enumeration → List PendingSource → JobProc EnumerationOutcome}
    {pending : List PendingSource} {walk : Enumeration}
    (walked : walk.Walked start selection.rootItemId) (short : walk.entries.length ≤ entryBudget)
    (entered : ∀ (next : Enumeration) (rest : List PendingSource) (world : World),
      next.Walked start selection.rootItemId → next.entries.length = walk.entries.length + 1 →
      (enter next rest).Follows contract offDisk (fun outcome _ =>
        Walks start selection.rootItemId entryBudget outcome)
        world) :
    (visitPending selection jobId enter pending walk).Follows contract offDisk
      (fun outcome _ => Walks start selection.rootItemId entryBudget outcome) world := by
  induction pending generalizing walk world with
  | nil => exact ⟨walked.enumerated, short⟩
  | cons item pending ih =>
    rw [visitPending]
    refine Proc.follows_bind.mpr (follows_visitSource.mono fun visit final enters => ?_)
    cases visit with
    | skipped kind => exact ih ⟨walked.enumerated, walked.occupiedIds⟩ short entered
    | entered entry binding children issues =>
      obtain ⟨free, root, binds⟩ := enters
      exact entered _ _ final (walked.enter free root binds) List.length_append

theorem follows_enumerateFrom {start : List SourceItemId} {entryBudget remaining : Nat}
    {pending : List PendingSource} {walk : Enumeration}
    (walked : walk.Walked start selection.rootItemId)
    (left : walk.entries.length + remaining = entryBudget) :
    (enumerateFrom selection jobId remaining walk pending).Follows contract offDisk
      (fun outcome _ => Walks start selection.rootItemId entryBudget outcome) world := by
  induction remaining generalizing walk pending world with
  | zero =>
    cases pending with
    | nil => exact ⟨walked.enumerated, left.le⟩
    | cons item pending => exact ⟨walked.enumerated, left.le⟩
  | succ remaining ih =>
    rw [enumerateFrom]
    refine follows_visitPending walked (by omega) fun next rest world walked length => ?_
    exact ih walked (by omega)

theorem follows_enumerateLocalSelection {entryBudget : Nat} :
    (enumerateLocalSelection selection jobId occupied entryBudget).Follows contract offDisk
      (fun found _ => ∀ outcome, found = .ok outcome →
        Walks occupied selection.rootItemId entryBudget outcome) world := by
  unfold enumerateLocalSelection
  refine Proc.follows_bind.mpr
    (Proc.Follows.mono (follows_enumerateFrom ⟨.start occupied _, ?_⟩ (Nat.zero_add _)) ?_)
  · simp
  · intro outcome final walks other same
    exact Except.ok.inj same ▸ walks

end Enumerating

/-! ## The changes -/

namespace CanonicalTransferJob

/-- Neither sealed nor canceled. -/
def Open (self : CanonicalTransferJob) : Prop :=
  self.lifecycle ≠ .sealed ∧ self.lifecycle ≠ .canceled

/-- A job without the roots a new source covers, and with the id of that source given out. -/
def makeRoom (self : CanonicalTransferJob) (nextSourceItemId : UInt64)
    (isDirectoryHint : Option Bool) (canonicalPath : Option PathBuf) : CanonicalTransferJob :=
  if isDirectoryHint = some true ∧ canonicalPath.isSome then
    removeCoveredRoots { self with nextSourceItemId } (isCovered isDirectoryHint canonicalPath)
  else { self with nextSourceItemId }

theorem Open.refreshLifecycle {job : CanonicalTransferJob} (isOpen : job.Open) :
    job.refreshLifecycle.Open := by
  have derived (selections : List SourceSelection) :
      derivedLifecycle selections ≠ .sealed ∧ derivedLifecycle selections ≠ .canceled := by
    unfold derivedLifecycle
    split
    · exact ⟨nofun, nofun⟩
    · split <;> exact ⟨nofun, nofun⟩
  unfold CanonicalTransferJob.refreshLifecycle
  split
  · next sealed => exact absurd sealed isOpen.1
  · next canceled => exact absurd canceled isOpen.2
  · exact derived job.selections

end CanonicalTransferJob

/-- What `add_local_source` has found out when it lists a new source. -/
structure Admits (told : PathBuf → Except IoError PathBuf → Prop) (job : CanonicalTransferJob)
    (path : PathBuf) (isDirectoryHint : Option Bool) (canonicalPath : Option PathBuf)
    (nextSourceItemId : UInt64) : Prop where
  isOpen : job.Open
  answered : ∀ resolved, canonicalPath = some resolved → told path (.ok resolved)
  unfolded : foldingSelection job.selections canonicalPath = none
  room :
    ¬ (job.selections.length ≥ maxManifestV2Roots ∧
      ¬ job.selections.any (isCovered isDirectoryHint canonicalPath))
  counted : checkedAdd64 job.nextSourceItemId 1 = some nextSourceItemId

/-- The fields of a selection that only a reauthorization replaces. -/
structure SourceSelection.Kept (before after : SourceSelection) : Prop where
  rootItemId : after.rootItemId = before.rootItemId
  requestedName : after.requestedName = before.requestedName
  path : after.path = before.path
  jobOwnedStaging : after.jobOwnedStaging = before.jobOwnedStaging

/-- One change of a job; `told` says what the file system may have answered when a path was
resolved. -/
inductive JobChange [UnicodeNormalization] [Blake3]
    (told : PathBuf → Except IoError PathBuf → Prop) :
    CanonicalTransferJob → CanonicalTransferJob → Prop where
  | booked {job : CanonicalTransferJob} (selectionRevision updatedUnixMs nextIssueId : UInt64) :
      JobChange told job { job with selectionRevision, updatedUnixMs, nextIssueId }
  | refreshed {job : CanonicalTransferJob} : JobChange told job job.refreshLifecycle
  | policed {job : CanonicalTransferJob} (isOpen : job.Open)
      (compressionPolicy : CompressionPolicyV2) :
      JobChange told job { job with compressionPolicy }
  | canceled {job : CanonicalTransferJob} : JobChange told job { job with lifecycle := .canceled }
  | cleared {job : CanonicalTransferJob} {path : PathBuf} {hint : Option Bool}
      {canonicalPath : Option PathBuf} {next : UInt64}
      (admits : Admits told job path hint canonicalPath next) :
      JobChange told job (job.makeRoom next hint canonicalPath)
  | admitted {job : CanonicalTransferJob} {path : PathBuf} {hint : Option Bool}
      {canonicalPath : Option PathBuf} {next : UInt64}
      (admits : Admits told job path hint canonicalPath next) (selection : SourceSelection)
      (named : selection.rootItemId = ⟨job.nextSourceItemId⟩) (given : selection.path = path) :
      JobChange told job ((job.makeRoom next hint canonicalPath).pushSelection selection)
  | edited {job : CanonicalTransferJob} (index : Nat) (change : SourceSelection → SourceSelection)
      (kept : ∀ selection : SourceSelection, selection.Kept (change selection)) :
        JobChange told job (job.updateSelection index change)
  | dropped {job : CanonicalTransferJob} (isOpen : job.Open) (rootItemId : SourceItemId) :
      JobChange told job (job.dropEntries rootItemId)
  | adopted {job : CanonicalTransferJob} (isOpen : job.Open) {index : Nat}
      {selection : SourceSelection} (found : job.selections[index]? = some selection)
      (outcome : EnumerationOutcome) (issues : List SourceIssue)
      (walks : Walks job.occupiedIds selection.rootItemId
        (maxManifestV2Entries - job.inventory.length) outcome) :
      JobChange told job (job.adoptOutcome index outcome issues)
  | reauthorized {job : CanonicalTransferJob} (isOpen : job.Open) {index : Nat}
      {selection : SourceSelection} (found : job.selections[index]? = some selection)
      (due : selection.state = .needsDecision) (localPath : PathBuf)
      (reply : Except IoError PathBuf) (answered : told localPath reply)
      (apart : job.overlapsAnother selection.rootItemId reply.toOption = false)
      (isDirectoryHint : Option Bool) :
      JobChange told job (job.updateSelection index fun selection => { selection with
        path := localPath
        jobOwnedStaging := false
        canonicalPath := reply.toOption
        isDirectoryHint
        rootInventoryItemId := none
        completeness := .complete
        issues := []
        state := .pending })
  | removed {job : CanonicalTransferJob} (isOpen : job.Open) {index : Nat}
      {selection : SourceSelection} (found : job.selections[index]? = some selection) :
      JobChange told job (job.removeSelection index selection)
  | hashed {job : CanonicalTransferJob} (index : Nat) (digest : ContentDigestV2) :
      JobChange told job (job.recordDigest index digest)
  | sealed {job : CanonicalTransferJob} (ready : job.lifecycle = .readyToSend)
      {facts : SealedTransferJob} (made : job.sealedFacts = .ok facts) :
      JobChange told job { job with sealed := some facts, lifecycle := .sealed }
  | released {job : CanonicalTransferJob} (path : PathBuf) :
      JobChange told job { job with cleanupPending := job.cleanupPending.filter fun pending =>
        pending ≠ path }

/-! ## The parts of the methods -/

section Parts

variable {World α : Type} {contract : Contract JobOp JobReply World} {job : CanonicalTransferJob}
  {world : World}
  {rootItemId : SourceItemId} {index : Nat}

/-- What the environment may answer when a path is resolved. -/
def Told (contract : Contract JobOp JobReply World) (path : PathBuf)
    (reply : Except IoError PathBuf) : Prop :=
  ∃ world, contract.may world (JobOp.canonicalize path) reply

theorem ensureMutable_spec :
    ensureMutable.Ensures contract offDisk (fun result left _ => left = job ∧
      ∀ value, result = .ok value → job.Open)
      job world := by
  unfold ensureMutable
  rw [ensures_bind, ensures_get, resumeWith_ok]
  split
  · exact ⟨rfl, nofun⟩
  · exact ⟨rfl, nofun⟩
  · next notSealed notCanceled => exact ⟨rfl, fun _ _ => ⟨notSealed, notCanceled⟩⟩

theorem touchNow_spec :
    touchNow.Ensures contract offDisk (fun _ left _ =>
      ∃ updatedUnixMs, left = { job with updatedUnixMs }) job world := by
  unfold touchNow unixTimeMs
  rw [ensures_bind, ensures_call]
  exact Proc.follows_bind.mpr ⟨rfl, fun now _ => ⟨_, rfl⟩⟩

theorem bumpRevision_spec :
    bumpRevision.Ensures contract offDisk (fun _ left _ => ∃ selectionRevision updatedUnixMs,
      left = { job with selectionRevision, updatedUnixMs }) job world := by
  unfold bumpRevision
  rw [ensures_bind, ensures_get, resumeWith_ok, ensures_bind, ensures_raise]
  generalize okOr (checkedAdd64 job.selectionRevision 1) _ = result
  cases result with
  | error error => exact ⟨_, _, rfl⟩
  | ok revision =>
    rw [resumeWith_ok, ensures_bind, ensures_set, resumeWith_ok]
    refine touchNow_spec.mono fun _ left _ touched => ?_
    obtain ⟨updated, rfl⟩ := touched
    exact ⟨revision, updated, rfl⟩

theorem resolveIssues_spec {pending : List PendingIssue} :
    (resolveIssues rootItemId pending).Ensures contract offDisk
      (fun _ left _ => ∃ nextIssueId, left = { job with nextIssueId }) job world := by
  induction pending generalizing job with
  | nil => exact ⟨_, rfl⟩
  | cons first rest ih =>
    unfold resolveIssues CanonicalTransferJob.issue
    rw [ensures_bind, ensures_bind, ensures_get, resumeWith_ok, ensures_bind, ensures_raise]
    generalize okOr (checkedAdd64 job.nextIssueId 1) _ = result
    cases result with
    | error error => exact ⟨_, rfl⟩
    | ok number =>
      rw [resumeWith_ok, ensures_bind, ensures_set, resumeWith_ok, ensures_pure, resumeWith_ok,
        ensures_bind]
      refine ih.mono fun result left _ numbered => ?_
      obtain ⟨nextIssueId, rfl⟩ := numbered
      cases result <;> exact ⟨nextIssueId, rfl⟩

theorem selectionIndex_spec :
    (selectionIndex rootItemId).Ensures contract offDisk (fun result left _ => left = job ∧
      ∀ index, result = .ok index → ∃ selection, job.selections[index]? = some selection ∧
        selection.rootItemId = rootItemId) job world := by
  unfold selectionIndex
  rw [ensures_bind, ensures_get, resumeWith_ok, ensures_raise]
  refine ⟨rfl, fun index found => ?_⟩
  rw [okOr_eq_ok, List.findIdx?_eq_some_iff_getElem] at found
  obtain ⟨inside, named, -⟩ := found
  exact ⟨_, List.getElem?_eq_getElem inside, by simpa using named⟩

theorem selectionAt_spec :
    (selectionAt index).Ensures contract offDisk (fun result left _ => left = job ∧
      ∀ selection, result = .ok selection → job.selections[index]? = some selection) job world := by
  unfold selectionAt
  rw [ensures_bind, ensures_get, resumeWith_ok]
  split
  · next selection found =>
    refine ⟨rfl, fun other same => ?_⟩
    exact Except.ok.inj same ▸ found
  · exact ensures_call.mpr (Proc.follows_bind.mpr ⟨rfl, nofun⟩)

end Parts

/-! ## The store -/

section Leaves

variable {World View : Type} {contract : Contract JobOp JobReply World}
  {view : CanonicalTransferJob → View}
  {store : TransferJobStore} {directory path : PathBuf}

theorem leaves_save [UnicodeNormalization] [Blake3] [JobJson] :
    store.save.Leaves contract view := by
  refine leaves_get.bind fun job => leaves_raise.bind fun _ => leaves_perform.bind fun _ => ?_
  refine leaves_raise.bind fun _ => leaves_raise.bind fun bytes => leaves_perform.bind fun _ => ?_
  refine leaves_raise.bind fun _ => leaves_perform.bind fun _ => leaves_raise.bind fun _ => ?_
  exact leaves_perform.bind fun _ => leaves_raise

theorem leaves_removeStagedArtifact : (store.removeStagedArtifact path).Leaves contract view := by
  refine leaves_get.bind fun job => leaves_raise.bind fun relative => leaves_raise.bind fun _ => ?_
  refine leaves_perform.bind fun removed => ?_
  split
  · exact leaves_pure
  · exact leaves_pure
  · exact leaves_throw

theorem leaves_stageUnder : (TransferJobStore.stageUnder directory path).Leaves contract view := by
  refine leaves_perform.bind fun _ => leaves_raise.bind fun randomName =>
    leaves_perform.bind fun created => ?_
  split
  · exact leaves_pure
  · exact leaves_throw
  · refine leaves_perform.bind fun copied => ?_
    split
    · exact leaves_perform.bind fun _ => leaves_throw
    · refine leaves_perform.bind fun synced => ?_
      split
      · exact leaves_perform.bind fun _ => leaves_throw
      · exact leaves_pure

theorem leaves_stageWithin {rounds : Nat} :
    (TransferJobStore.stageWithin directory path rounds).Leaves contract view := by
  induction rounds with
  | zero => exact leaves_call
  | succ rounds ih =>
    refine leaves_stageUnder.bind fun found => ?_
    split
    · exact leaves_pure
    · exact ih

theorem leaves_stageFile [UnicodeNormalization] {requestedName : String}
    {origin : LocalSourceOrigin} {rounds : Nat} :
    (store.stageFile path requestedName origin rounds).Leaves contract view := by
  refine leaves_raise.bind fun _ => leaves_raise.bind fun _ => leaves_perform.bind fun _ => ?_
  refine leaves_raise.bind fun _ => leaves_raise.bind fun _ => leaves_get.bind fun job => ?_
  refine leaves_perform.bind fun _ => leaves_raise.bind fun _ => leaves_perform.bind fun _ => ?_
  exact leaves_raise.bind fun _ => leaves_stageWithin

end Leaves

/-! ## The methods -/

section Stepping

variable [UnicodeNormalization] [Blake3] {World α : Type} {contract : Contract JobOp JobReply World}
  {job : CanonicalTransferJob} {world : World} {rootItemId : SourceItemId} {index : Nat}
    {path : PathBuf}
  {requestedName : String} {origin : LocalSourceOrigin} {owned : Bool}

/-- The job goes from change to change, and the staged files stay as they are. -/
abbrev Stepping (contract : Contract JobOp JobReply World) (method : JobMethod α)
    (job : CanonicalTransferJob) (world : World) : Prop :=
  method.Steps contract offDisk (JobChange (Told contract)) job world

theorem stepping_bumpRevision : Stepping contract bumpRevision job world := by
  refine bumpRevision_spec.mono fun _ left _ booked => ?_
  obtain ⟨revision, updated, rfl⟩ := booked
  exact .single (.booked revision updated job.nextIssueId)

theorem stepping_touchNow : Stepping contract touchNow job world := by
  refine touchNow_spec.mono fun _ left _ touched => ?_
  obtain ⟨updated, rfl⟩ := touched
  exact .single (.booked job.selectionRevision updated job.nextIssueId)

/-- How an operation that changed something ends. -/
theorem stepping_settle {value : α} :
    Stepping contract (do bumpRevision; modify refreshLifecycle; pure value : JobMethod α)
      job world :=
  Steps.seq stepping_bumpRevision fun _ _ _ _ => steps_modify_bind .refreshed steps_pure

theorem stepping_settled :
    Stepping contract (do bumpRevision; modify refreshLifecycle : JobMethod PUnit) job world :=
  Steps.seq stepping_bumpRevision fun _ _ _ _ => steps_modify .refreshed

theorem stepping_setCompressionPolicy {policy : CompressionPolicyV2} :
    Stepping contract (setCompressionPolicy policy) job world := by
  refine Steps.look ensureMutable_spec fun _ _ isOpen => steps_get_bind ?_
  split
  · exact steps_modify_bind (.policed isOpen policy) stepping_bumpRevision
  · exact steps_pure

/-! ### Adding -/

omit [UnicodeNormalization] [Blake3] in
theorem inspectSource_spec :
    (inspectSource path).Follows contract offDisk
      (fun found _ => ∀ resolved, found.1 = some resolved →
        Told contract path (.ok resolved)) world := by
  unfold inspectSource
  refine Proc.follows_bind.mpr ⟨rfl, fun reply _ => ?_⟩
  unfold Proc.Follows
  cases reply with
  | error error => exact nofun
  | ok metadata =>
    dsimp only
    split
    · exact nofun
    · exact nofun
    · refine Proc.follows_bind.mpr ⟨rfl, fun reply answered => ?_⟩
      cases reply with
      | error error => exact nofun
      | ok resolved => exact fun _ same => ⟨_, Option.some.inj same ▸ answered⟩

omit [UnicodeNormalization] [Blake3] in
theorem mem_pushSelection (job : CanonicalTransferJob) (selection : SourceSelection) :
    ∃ order, { selection with selectionOrder := order } ∈
      (job.pushSelection selection).selections := by
  refine ⟨UInt32.ofNat job.selections.length, ?_⟩
  show _ ∈ (job.selections ++ [selection]).mapIdx _
  rw [List.mapIdx_append]
  exact List.mem_append_right _ (by simp)

/-- The end of `add_local_source`: room is made, and the new selection is listed unless an id runs
out. -/
theorem enlist_spec (owned : Bool) {hint : Option Bool} {canonicalPath : Option PathBuf}
    {next : UInt64} {value : α} {pending : List PendingIssue}
    {make : List SourceIssue → SourceSelection}
    (admits : Admits (Told contract) job path hint canonicalPath next)
    (made : ∀ issues, (make issues).rootItemId = ⟨job.nextSourceItemId⟩ ∧
      (make issues).path = path ∧ (make issues).jobOwnedStaging = owned) :
    (do
      let issues ← resolveIssues rootItemId pending
      modify (pushSelection · (make issues))
      bumpRevision
      modify refreshLifecycle
      pure value : JobMethod α).Ensures contract offDisk
      (fun result left _ => ReflTransGen (JobChange (Told contract)) job left ∧
        ∀ added, result = .ok added →
        added = value ∧ ∃ selection ∈ left.selections, selection.path = path ∧
          selection.jobOwnedStaging = owned)
      (job.makeRoom next hint canonicalPath) world := by
  rw [ensures_bind]
  refine resolveIssues_spec.mono fun result left final numbered => ?_
  obtain ⟨nextIssueId, rfl⟩ := numbered
  cases result with
  | error error =>
    let room := job.makeRoom next hint canonicalPath
    exact ⟨.tail (.single (.cleared admits))
      (.booked room.selectionRevision room.updatedUnixMs nextIssueId), nofun⟩
  | ok issues =>
    obtain ⟨named, given, owner⟩ := made issues
    let listed := (job.makeRoom next hint canonicalPath).pushSelection (make issues)
    have there : ∃ selection ∈ listed.selections, selection.path = path ∧
        selection.jobOwnedStaging = owned := by
      obtain ⟨order, last⟩ := mem_pushSelection (job.makeRoom next hint canonicalPath) (make issues)
      exact ⟨_, last, given, owner⟩
    have went : ReflTransGen (JobChange (Told contract)) job { listed with nextIssueId } :=
      .tail (.single (.admitted admits (make issues) named given))
        (.booked listed.selectionRevision listed.updatedUnixMs nextIssueId)
    rw [resumeWith_ok, ensures_bind, ensures_modify, resumeWith_ok, ensures_bind]
    refine bumpRevision_spec.mono fun result left final booked => ?_
    obtain ⟨revision, updated, rfl⟩ := booked
    have bumped := went.tail (.booked revision updated nextIssueId)
    cases result with
    | error error => exact ⟨bumped, nofun⟩
    | ok _ =>
      rw [resumeWith_ok, ensures_bind, ensures_modify, resumeWith_ok, ensures_pure]
      refine ⟨bumped.tail .refreshed, fun added same => ⟨(Except.ok.inj same).symm, ?_⟩⟩
      unfold refreshLifecycle
      split <;> exact there

/-- The call listed a source of its own: it was not folded, and it is the selection of `path`. -/
def Listed (path : PathBuf) (owned : Bool) (added : AddSourceResult) (job : CanonicalTransferJob) :
    Prop :=
  added.foldedIntoExistingSelection = false ∧
    ∃ selection ∈ job.selections, selection.path = path ∧ selection.jobOwnedStaging = owned

omit [UnicodeNormalization] [Blake3] in
theorem makeRoom_eq (job : CanonicalTransferJob) (next : UInt64) (hint : Option Bool)
    (canonicalPath : Option PathBuf) :
    job.makeRoom next hint canonicalPath =
      if hint = some true ∧ canonicalPath.isSome then
        removeCoveredRoots { job with nextSourceItemId := next } (isCovered hint canonicalPath)
      else { job with nextSourceItemId := next } := rfl

theorem admitSource_spec {hint : Option Bool} {canonicalPath : Option PathBuf}
    {initialIssue : Option SourceIssueKind} (isOpen : job.Open)
    (answered : ∀ resolved, canonicalPath = some resolved → Told contract path (.ok resolved))
      (unfolded : foldingSelection job.selections canonicalPath = none) :
    (admitSource path requestedName origin owned canonicalPath hint initialIssue).Ensures
      contract offDisk
      (fun result left _ => ReflTransGen (JobChange (Told contract)) job left ∧
        ∀ added, result = .ok added → Listed path owned added left) job world := by
  unfold admitSource
  rw [ensures_bind, ensures_get, resumeWith_ok]
  dsimp only
  rw [ensures_bind, ensures_raise]
  by_cases full : job.selections.length ≥ maxManifestV2Roots ∧
    ¬ job.selections.any (isCovered hint canonicalPath)
  · rw [reject_of full]
    exact ⟨.refl, nofun⟩
  rw [reject_of_not full, resumeWith_ok]
  unfold allocateSourceItemId
  rw [ensures_bind, ensures_bind, ensures_get, resumeWith_ok, ensures_bind, ensures_raise]
  cases counted : checkedAdd64 job.nextSourceItemId 1 with
  | none => exact ⟨.refl, nofun⟩
  | some next =>
    have admits : Admits (Told contract) job path hint canonicalPath next :=
      ⟨isOpen, answered, unfolded, full, counted⟩
    have made : okOr (some next) (TransferJobError.invalidRecord "source item ID overflow") =
      .ok next := rfl
    rw [made, resumeWith_ok, ensures_bind, ensures_set, resumeWith_ok, ensures_pure, resumeWith_ok]
    split
    · next directory =>
      have room : removeCoveredRoots { job with nextSourceItemId := next }
          (isCovered hint canonicalPath) =
          job.makeRoom next hint canonicalPath := (if_pos directory).symm
      rw [ensures_bind, ensures_modify, resumeWith_ok, room]
      refine Ensures.mono (enlist_spec owned admits ?_) ?_
      · exact fun _ => ⟨rfl, rfl, rfl⟩
      · intro result left _ enlisted
        refine ⟨enlisted.1, fun added same => ?_⟩
        obtain ⟨rfl, there⟩ := enlisted.2 added same
        exact ⟨rfl, there⟩
    · next other =>
      have room : { job with nextSourceItemId := next } = job.makeRoom next hint canonicalPath :=
        (if_neg other).symm
      rw [room]
      refine Ensures.mono (enlist_spec owned admits ?_) ?_
      · exact fun _ => ⟨rfl, rfl, rfl⟩
      · intro result left _ enlisted
        refine ⟨enlisted.1, fun added same => ?_⟩
        obtain ⟨rfl, there⟩ := enlisted.2 added same
        exact ⟨rfl, there⟩

/-- A source that was not listed lies within a selection, and nothing has changed. -/
def Folded (contract : Contract JobOp JobReply World) (path : PathBuf)
    (job left : CanonicalTransferJob) : Prop :=
  ∃ resolved existing, Told contract path (.ok resolved) ∧
    foldingSelection job.selections (some resolved) = some existing ∧ left = job

theorem addLocalSource_spec :
    (addLocalSource path requestedName origin owned).Ensures contract offDisk
      (fun result left _ => ReflTransGen (JobChange (Told contract)) job left ∧
        ∀ added, result = .ok added → Listed path owned added left ∨ Folded contract path job left)
          job world := by
  unfold addLocalSource
  rw [ensures_bind]
  refine ensureMutable_spec.mono fun result left world mutable => ?_
  obtain ⟨rfl, isOpen⟩ := mutable
  cases result with
  | error error => exact ⟨.refl, nofun⟩
  | ok value =>
    rw [resumeWith_ok, ensures_bind, ensures_raise]
    generalize validateComponent (canonicalComponent requestedName) = named
    cases named with
    | error error => exact ⟨.refl, nofun⟩
    | ok _ =>
      rw [resumeWith_ok, ensures_bind, ensures_call]
      refine inspectSource_spec.mono fun found world answered => ?_
      obtain ⟨canonicalPath, hint, initialIssue⟩ := found
      rw [resumeWith_ok]
      dsimp only
      rw [ensures_bind, ensures_get, resumeWith_ok]
      split
      · next existing folded =>
        refine ⟨.refl, fun added _ => .inr ?_⟩
        cases known : canonicalPath with
        | none =>
          rw [known] at folded
          cases folded
        | some resolved => exact ⟨resolved, existing, answered resolved known, known ▸ folded, rfl⟩
      · next unfolded =>
        refine (admitSource_spec (isOpen value rfl) answered unfolded).mono fun _ left _ admitted =>
          ?_
        exact ⟨admitted.1, fun added same => .inl (admitted.2 added same)⟩

theorem stepping_addLocalSource :
    Stepping contract (addLocalSource path requestedName origin owned) job world :=
  addLocalSource_spec.mono fun _ _ _ added => added.1

theorem stepping_addLocalPath : Stepping contract (addLocalPath path) job world :=
  steps_raise_bind fun _ _ => stepping_addLocalSource

theorem stepping_attachProviderIssues {issues : List ProviderSourceIssue} :
    Stepping contract (attachProviderIssues rootItemId issues) job world := by
  unfold attachProviderIssues
  split
  · exact steps_pure
  · refine steps_raise_bind fun _ _ =>
      Steps.bind (resolveIssues_spec.mono fun result left world numbered => ?_)
    obtain ⟨nextIssueId, rfl⟩ := numbered
    refine ⟨.single (.booked job.selectionRevision job.updatedUnixMs nextIssueId),
      fun resolved _ => ?_⟩
    refine Steps.look selectionIndex_spec fun index world found => ?_
    refine steps_modify_bind (.edited index _ ?_) stepping_settled
    exact fun _ => ⟨rfl, rfl, rfl, rfl⟩

/-! ### Preparing -/

theorem stepping_prepareSelection : Stepping contract (prepareSelection rootItemId) job world := by
  unfold prepareSelection
  refine Steps.look ensureMutable_spec fun _ world isOpen => ?_
  refine Steps.look selectionIndex_spec fun index world _ => ?_
  refine Steps.look selectionAt_spec fun selection world _ => ?_
  refine steps_raise_bind fun _ _ => ?_
  refine steps_modify_bind (.edited index _ fun _ => ⟨rfl, rfl, rfl, rfl⟩) ?_
  refine steps_modify_bind .refreshed ?_
  have edited :
    (job.updateSelection index fun selection => { selection with state := .enumerating }).Open :=
      isOpen
  have reopened := edited.refreshLifecycle
  refine steps_modify_bind (.dropped reopened rootItemId) ?_
  generalize dropped : dropEntries (refreshLifecycle _) rootItemId = emptied
  have stillOpen : emptied.Open := dropped ▸ reopened
  refine Steps.look selectionAt_spec fun selection world found => steps_get_bind ?_
  refine steps_call_bind follows_enumerateLocalSelection fun enumerated world walks => ?_
  cases enumerated with
  | ok outcome =>
    refine Steps.bind (resolveIssues_spec.mono fun result left world numbered => ?_)
    obtain ⟨nextIssueId, rfl⟩ := numbered
    refine ⟨.single (.booked emptied.selectionRevision emptied.updatedUnixMs nextIssueId),
      fun issues _ => ?_⟩
    have adopted : JobChange (Told contract) { emptied with nextIssueId }
        (adoptOutcome { emptied with nextIssueId } index outcome issues) := by
      apply JobChange.adopted
      · exact stillOpen
      · exact found
      · exact walks outcome rfl
    exact steps_modify_bind adopted stepping_settled
  | error kind =>
    refine Steps.bind (resolveIssues_spec.mono fun result left world numbered => ?_)
    obtain ⟨nextIssueId, rfl⟩ := numbered
    refine ⟨.single (.booked emptied.selectionRevision emptied.updatedUnixMs nextIssueId),
      fun issues _ => ?_⟩
    refine steps_modify_bind (.edited index _ ?_) stepping_settled
    exact fun _ => ⟨rfl, rfl, rfl, rfl⟩

theorem stepping_prepareSelections {pending : List SourceItemId} :
    Stepping contract (prepareSelections pending) job world := by
  induction pending generalizing job world with
  | nil => exact steps_pure
  | cons root rest ih => exact Steps.seq stepping_prepareSelection fun _ _ _ _ => ih

theorem stepping_prepareAll : Stepping contract prepareAll job world := by
  refine Steps.look ensureMutable_spec fun _ world _ => steps_get_bind ?_
  exact Steps.seq stepping_prepareSelections fun _ _ _ _ => steps_modify .refreshed

theorem stepping_addProviderPath {issues : List ProviderSourceIssue} :
    Stepping contract (addProviderPath path requestedName origin issues) job world := by
  refine steps_raise_bind fun _ _ => steps_raise_bind fun _ _ => steps_raise_bind fun _ _ => ?_
  refine steps_raise_bind fun _ _ => Steps.seq stepping_addLocalSource fun added left world _ => ?_
  split
  · exact steps_pure
  · refine Steps.seq stepping_prepareSelection fun _ _ _ _ => ?_
    exact Steps.seq stepping_attachProviderIssues fun _ _ _ _ => steps_pure

theorem stepping_addStagedSource :
    Stepping contract (addStagedSource path requestedName origin) job world :=
  steps_raise_bind fun _ _ => steps_raise_bind fun _ _ => stepping_addLocalSource

/-! ### Deciding -/

theorem stepping_reauthorizeSelection {selection : SourceSelection} {localPath : PathBuf}
    (isOpen : job.Open) (found : job.selections[index]? = some selection)
    (due : selection.state = .needsDecision) :
    Stepping contract (reauthorizeSelection selection.rootItemId index localPath) job world := by
  unfold reauthorizeSelection
  refine steps_perform_bind rfl fun reply answered =>
    steps_get_bind (steps_raise_bind fun _ passed => ?_)
  have apart : job.overlapsAnother selection.rootItemId reply.toOption = false := by
    rw [reject_eq_ok] at passed
    exact eq_false_of_ne_true passed
  have replaced (hint : Option Bool) (world : World) :
      Stepping contract (do
        modify fun self => self.updateSelection index fun selection => { selection with
          path := localPath
          jobOwnedStaging := false
          canonicalPath := reply.toOption
          isDirectoryHint := hint
          rootInventoryItemId := none
          completeness := .complete
          issues := []
          state := .pending }
        modify (dropEntries · selection.rootItemId) : JobMethod PUnit) job world := by
    refine steps_modify_bind ?_ (steps_modify (.dropped ?_ selection.rootItemId))
    · exact .reauthorized isOpen found due localPath reply ⟨_, answered⟩ apart hint
    · exact isOpen
  split
  · exact replaced none _
  · exact steps_perform_bind rfl fun _ _ => replaced _ _

theorem stepping_approvePartial : Stepping contract (approvePartial index) job world := by
  refine Steps.look selectionAt_spec fun selection world _ => ?_
  refine steps_raise_bind fun _ _ => steps_raise_bind fun _ _ => ?_
  exact steps_modify (.edited index _ fun _ => ⟨rfl, rfl, rfl, rfl⟩)

theorem stepping_resolveSourceDecision (decision : SourceDecision) :
    Stepping contract (resolveSourceDecision rootItemId decision) job world := by
  refine Steps.look ensureMutable_spec fun _ world isOpen => ?_
  refine Steps.look selectionIndex_spec fun index world named => ?_
  refine Steps.look selectionAt_spec fun selection world found =>
    steps_raise_bind fun _ passed => ?_
  obtain ⟨same, there, rfl⟩ := named
  obtain rfl : same = selection := Option.some.inj (there.symm.trans found)
  cases decision with
  | reauthorize localPath =>
    have due : same.state = .needsDecision := by
      rw [reject_eq_ok] at passed
      by_contra other
      exact passed ⟨other, nofun, nofun⟩
    exact Steps.seq (stepping_reauthorizeSelection isOpen found due) fun _ _ _ _ => stepping_settle
  | approvePartial => exact Steps.seq stepping_approvePartial fun _ _ _ _ => stepping_settle
  | removeSelection => exact steps_modify_bind (.removed isOpen found) stepping_settle
  | cancelJob =>
    exact steps_modify_bind .canceled (Steps.seq stepping_bumpRevision fun _ _ _ _ => steps_pure)

theorem stepping_reauthorizeProviderSource {localPath : PathBuf}
    {issues : List ProviderSourceIssue} :
    Stepping contract (reauthorizeProviderSource rootItemId localPath issues) job world := by
  refine Steps.look selectionIndex_spec fun index world _ =>
    Steps.look selectionAt_spec fun selection world _ => ?_
  refine steps_raise_bind fun _ _ => steps_raise_bind fun _ _ => steps_raise_bind fun _ _ => ?_
  refine Steps.seq (stepping_resolveSourceDecision (.reauthorize localPath)) fun _ _ _ _ => ?_
  exact Steps.seq stepping_prepareSelection fun _ _ _ _ => stepping_attachProviderIssues

/-! ### Hashing, sealing, saving -/

omit [UnicodeNormalization] in
theorem verifySourceFingerprint_spec {expected : SourceFingerprint} :
    (verifySourceFingerprint path expected).Ensures contract offDisk (fun _ left _ => left = job)
      job world := by
  unfold verifySourceFingerprint
  rw [ensures_bind, ensures_perform]
  refine ⟨rfl, fun reply _ => ?_⟩
  rw [resumeWith_ok, ensures_bind, ensures_raise]
  cases reply <;> rfl

theorem stepping_hashEntry {itemId : SourceItemId} :
    Stepping contract (hashEntry itemId) job world := by
  refine steps_get_bind (steps_raise_bind fun _ _ => steps_raise_bind fun binding _ => ?_)
  refine steps_raise_bind fun index _ => steps_raise_bind fun _ _ => ?_
  refine Steps.keep verifySourceFingerprint_spec fun _ world =>
    steps_perform_bind rfl fun reply _ => ?_
  refine steps_raise_bind fun content _ => Steps.keep verifySourceFingerprint_spec fun _ world => ?_
  refine steps_modify_bind (.hashed index _) (steps_get_bind ?_)
  split
  · exact Steps.seq stepping_bumpRevision fun _ _ _ _ => steps_pure
  · exact Steps.seq stepping_touchNow fun _ _ _ _ => steps_pure

theorem stepping_sealForSend : Stepping contract sealForSend job world := by
  refine Steps.look ensureMutable_spec fun _ world _ =>
    steps_modify_bind .refreshed (steps_get_bind ?_)
  refine steps_raise_bind fun _ _ => steps_raise_bind fun _ ready =>
    steps_raise_bind fun facts made => ?_
  have ready : (job.refreshLifecycle).lifecycle = .readyToSend := by
    rw [reject_eq_ok] at ready
    exact not_not.mp ready
  exact steps_modify_bind (.sealed ready made)
    (Steps.seq stepping_touchNow fun _ _ _ _ => steps_pure)

theorem stepping_cancel : Stepping contract cancel job world := by
  refine steps_get_bind ?_
  split
  · exact steps_pure
  · exact steps_modify_bind .canceled stepping_bumpRevision

variable [JobJson] {store : TransferJobStore}

theorem stepping_save : Stepping contract store.save job world := by
  refine steps_get_bind (steps_raise_bind fun _ _ => steps_perform_bind rfl fun _ _ =>
    steps_raise_bind fun _ _ => ?_)
  refine steps_raise_bind fun _ _ => steps_perform_bind rfl fun _ _ =>
    steps_raise_bind fun _ _ => ?_
  exact steps_perform_bind rfl fun _ _ => steps_raise_bind fun _ _ =>
    steps_perform_bind rfl fun _ _ => steps_raise

/-! ### Every call -/

theorem stepping_releaseStaged :
    (store.releaseStaged path).Steps contract (fun _ _ => True)
    (JobChange (Told contract)) job world := by
  refine Steps.leave leaves_removeStagedArtifact fun _ _ => steps_modify_bind (.released path) ?_
  exact Steps.loosen (fun _ _ _ => trivial) stepping_save

theorem stepping_releaseAll {paths : List PathBuf} :
    (store.releaseAll paths).Steps contract (fun _ _ => True)
    (JobChange (Told contract)) job world := by
  induction paths generalizing job world with
  | nil => exact steps_pure
  | cons path rest ih => exact Steps.seq stepping_releaseStaged fun _ _ _ _ => ih

theorem stepping_applySourceDecision (decision : SourceDecision) :
    (store.applySourceDecision rootItemId decision).Steps contract (fun _ _ => True)
    (JobChange (Told contract)) job
      world := by
  refine Steps.seq (Steps.loosen (fun _ _ _ => trivial)
    (stepping_resolveSourceDecision decision)) fun artifact _ _ _ => ?_
  refine Steps.seq (Steps.loosen (fun _ _ _ => trivial) stepping_save) fun _ _ _ _ => ?_
  split
  · exact steps_pure
  · exact stepping_releaseStaged

omit [JobJson] in
theorem stepping_importStaged {rounds : Nat} :
    (store.importStaged path requestedName origin rounds).Steps contract (fun _ _ => True)
    (JobChange (Told contract))
      job world := by
  refine Steps.leave leaves_stageFile fun staged world => Steps.seq ?_ fun _ _ _ _ => steps_pure
  unfold TransferJobStore.attachStaged
  have added :
    (addStagedSource staged (canonicalComponent requestedName) origin).Steps contract
      (fun _ _ => True)
      (JobChange (Told contract)) job world :=
        Steps.loosen (fun _ _ _ => trivial) stepping_addStagedSource
  refine Steps.bind
    (ensures_outcome.mpr (added.mono fun result left final went => ⟨went, fun tried _ => ?_⟩))
  cases tried with
  | ok result => exact steps_pure
  | error error => exact steps_perform_bind trivial fun _ _ => steps_throw

theorem stepping_runCall (call : JobCall) :
    (runCall store call).Steps contract (fun _ _ => True)
    (JobChange (Told contract)) job world := by
  have ends {β : Type} {method : JobMethod β} {value : Option PathBuf}
      (steps : method.Steps contract (fun _ _ => True) (JobChange (Told contract)) job world) :
      (method >>= fun _ => pure value).Steps contract (fun _ _ => True)
        (JobChange (Told contract)) job world :=
    Steps.seq steps fun _ _ _ _ => steps_pure
  have calm {β : Type} {method : JobMethod β} {value : Option PathBuf}
    (steps : Stepping contract method job world) :
      (method >>= fun _ => pure value).Steps contract (fun _ _ => True)
        (JobChange (Told contract)) job world :=
    ends (Steps.loosen (fun _ _ _ => trivial) steps)
  cases call with
  | addLocalPath path => exact calm stepping_addLocalPath
  | addProviderPath path requestedName origin issues => exact calm stepping_addProviderPath
  | importStagedFile path requestedName origin rounds =>
    exact Steps.seq stepping_importStaged fun _ _ _ _ => steps_pure
  | prepareSelection rootItemId => exact calm stepping_prepareSelection
  | prepareAll => exact calm stepping_prepareAll
  | applySourceDecision rootItemId decision => exact ends (stepping_applySourceDecision decision)
  | reauthorizeProviderSource rootItemId path issues =>
    exact calm stepping_reauthorizeProviderSource
  | hashEntry itemId => exact calm stepping_hashEntry
  | setCompressionPolicy policy => exact calm stepping_setCompressionPolicy
  | sealForSend => exact calm stepping_sealForSend
  | cancel => exact calm stepping_cancel
  | save => exact calm stepping_save
  | reconcilePendingCleanup => exact ends (steps_get_bind stepping_releaseAll)

end Stepping

/-! ## Every job -/

namespace CanonicalTransferJob

/-- What `new` returns. -/
structure Fresh (job : CanonicalTransferJob) : Prop where
  selections : job.selections = []
  inventory : job.inventory = []
  sourceBindings : job.sourceBindings = []
  cleanupPending : job.cleanupPending = []
  lifecycle : job.lifecycle = .preparing
  sealed : job.sealed = none

theorem new_spec {World : Type} {contract : Contract JobOp JobReply World}
    {policy : CompressionPolicyV2} {world : World} :
    (CanonicalTransferJob.new policy).Follows contract offDisk (fun result _ =>
      ∀ job, result = .ok job → job.Fresh)
      world := by
  unfold CanonicalTransferJob.new
  refine Proc.follows_bind.mpr ⟨rfl, fun filled _ => ?_⟩
  unfold Proc.Follows
  cases filled with
  | none => exact nofun
  | some jobId =>
    dsimp only
    split
    · exact nofun
    · unfold unixTimeMs
      refine Proc.follows_bind.mpr (Proc.follows_bind.mpr ⟨rfl, fun now _ job same => ?_⟩)
      obtain rfl := Except.ok.inj same
      exact ⟨rfl, rfl, rfl, rfl, rfl, rfl⟩

/-- The inventory has room in a manifest, and no id twice. -/
structure Stocked (job : CanonicalTransferJob) : Prop where
  few : job.inventory.length ≤ maxManifestV2Entries
  nodup : (job.inventory.map fun entry => entry.itemId).Nodup

theorem Fresh.stocked {job : CanonicalTransferJob} (fresh : job.Fresh) : job.Stocked := by
  constructor
  · rw [fresh.inventory]
    exact Nat.zero_le _
  · rw [fresh.inventory]
    exact List.nodup_nil

theorem Stocked.filter {job left : CanonicalTransferJob} (stocked : job.Stocked)
    {keep : PreparedInventoryEntry → Bool} (kept : left.inventory = job.inventory.filter keep) :
    left.Stocked := by
  constructor
  · rw [kept]
    exact (List.length_filter_le _ _).trans stocked.few
  · rw [kept]
    exact stocked.nodup.sublist (List.filter_sublist.map _)

theorem Stocked.makeRoom {job : CanonicalTransferJob} (stocked : job.Stocked) (next : UInt64)
    (hint : Option Bool) (canonicalPath : Option PathBuf) :
    (job.makeRoom next hint canonicalPath).Stocked := by
  rw [makeRoom_eq]
  split
  · exact stocked.filter rfl
  · exact ⟨stocked.few, stocked.nodup⟩

theorem inventory_recordDigest (job : CanonicalTransferJob) (index : Nat)
    (digest : ContentDigestV2) :
    (job.recordDigest index digest).inventory.map (fun entry => { entry with digest := none }) =
      job.inventory.map fun entry => { entry with digest := none } := by
  refine List.ext_getElem? fun position => ?_
  simp only [recordDigest, List.getElem?_map, List.getElem?_modify]
  cases job.inventory[position]? with
  | none => rfl
  | some entry => split <;> rfl

theorem Stocked.adoptOutcome {job : CanonicalTransferJob} (stocked : job.Stocked) {index : Nat}
    {rootItemId : SourceItemId} {outcome : EnumerationOutcome} {issues : List SourceIssue}
    (walks : Walks job.occupiedIds rootItemId
      (maxManifestV2Entries - job.inventory.length) outcome) :
    (job.adoptOutcome index outcome issues).Stocked := by
  obtain ⟨enumerated, short⟩ := walks
  constructor
  · show (job.inventory ++ outcome.entries).length ≤ maxManifestV2Entries
    have few := stocked.few
    rw [List.length_append]
    omega
  · show ((job.inventory ++ outcome.entries).map _).Nodup
    rw [List.map_append, List.nodup_append]
    refine ⟨stocked.nodup, enumerated.nodup, ?_⟩
    intro id listed other new same
    obtain ⟨entry, there, rfl⟩ := List.mem_map.mp new
    exact enumerated.fresh entry there (List.mem_append_left _ (same ▸ listed))

end CanonicalTransferJob

section Every

variable [UnicodeNormalization] [Blake3] {told : PathBuf → Except IoError PathBuf → Prop}
  {before after : CanonicalTransferJob}

theorem JobChange.stocked (change : JobChange told before after) (stocked : before.Stocked) :
    after.Stocked := by
  cases change with
  | refreshed =>
    unfold refreshLifecycle
    split <;> exact ⟨stocked.few, stocked.nodup⟩
  | cleared admits => exact stocked.makeRoom _ _ _
  | @admitted path hint canonicalPath next admits selection named given =>
    have room := stocked.makeRoom next hint canonicalPath
    exact ⟨room.few, room.nodup⟩
  | dropped isOpen rootItemId => exact stocked.filter rfl
  | adopted isOpen found outcome issues walks => exact stocked.adoptOutcome walks
  | @removed isOpen index selection found =>
    unfold CanonicalTransferJob.removeSelection
    split <;> exact stocked.filter rfl
  | hashed index digest =>
    have same := inventory_recordDigest before index digest
    constructor
    · have length := congrArg List.length same
      rw [List.length_map, List.length_map] at length
      exact length ▸ stocked.few
    · have ids := congrArg (List.map fun entry => entry.itemId) same
      rw [List.map_map, List.map_map] at ids
      exact ids ▸ stocked.nodup
  | _ => exact ⟨stocked.few, stocked.nodup⟩

variable [JobJson] {World : Type} {contract : Contract JobOp JobReply World}
  {store : TransferJobStore}
  {job : CanonicalTransferJob} {start world : World}

/-- What `new` establishes and every change keeps holds along every run. -/
theorem JobRun.invariant {invariant : CanonicalTransferJob → Prop} {events : List JobEvent}
    (fresh : ∀ job : CanonicalTransferJob, job.Fresh → invariant job)
    (kept : ∀ before after, JobChange (Told contract) before after → invariant before →
      invariant after)
    (run : JobRun contract store start events job world) : invariant job := by
  induction run with
  | new created => exact fresh _ (Proc.Follows.rest new_spec created _ rfl)
  | call call earlier ran ih =>
    have went := (stepping_runCall call).reaches ran
    exact went.head_induction_on (motive := fun job _ => invariant job → invariant _) id
      (fun change _ rest now => rest (kept _ _ change now)) ih

/-- A job in a caller's hands: a new one or a loaded one, after any calls. -/
inductive HeldJob (contract : Contract JobOp JobReply World) (store : TransferJobStore) :
    CanonicalTransferJob → World → Prop where
  | new {policy : CompressionPolicyV2} {job : CanonicalTransferJob} {start world : World}
      (created : Proc.Reaches contract (CanonicalTransferJob.new policy) start
        (.ret (.ok job)) world) :
      HeldJob contract store job world
  | loaded {bytes : Bytes} {job : CanonicalTransferJob} (world : World)
      (parsed : TransferJobStore.parse bytes = .ok job) : HeldJob contract store job world
  | call {job left : CanonicalTransferJob} {world final : World}
      {result : Except TransferJobError (Option PathBuf)} (call : JobCall)
      (earlier : HeldJob contract store job world)
      (ran : Proc.Reaches contract ((runCall store call).runOn job) world
        (.ret (result, left)) final) :
      HeldJob contract store left final

theorem JobRun.held {events : List JobEvent} (run : JobRun contract store start events job world) :
    HeldJob contract store job world := by
  induction run with
  | new created => exact .new created
  | call call earlier ran ih => exact ih.call call ran

omit [JobJson] in
/-- A record that passes its checks is stocked. -/
theorem stocked_of_validateDurable (valid : job.validateDurable = .ok ()) : job.Stocked := by
  unfold validateDurable at valid
  simp only [bind_eq_ok, reject_eq_ok] at valid
  obtain ⟨_, _, _, bounds, _, unique, _⟩ := valid
  constructor
  · by_contra many
    exact bounds (by simp only [not_le] at many; tauto)
  · have same := not_not.mp unique
    rw [← List.dedup_eq_self]
    exact (List.dedup_sublist _).eq_of_length (by rw [same, List.length_map])

theorem HeldJob.stocked (held : HeldJob contract store job world) : job.Stocked := by
  induction held with
  | new created => exact (Proc.Follows.rest new_spec created _ rfl).stocked
  | loaded world parsed =>
    unfold TransferJobStore.parse at parsed
    simp only [bind_eq_ok] at parsed
    obtain ⟨found, _, _, valid, same⟩ := parsed
    obtain rfl := Except.ok.inj same
    exact stocked_of_validateDurable valid
  | call call earlier ran ih =>
    have went := (stepping_runCall call).reaches ran
    exact went.head_induction_on (motive := fun job _ => job.Stocked → Stocked _) id
      (fun change _ rest now => rest (change.stocked now)) ih

end Every

end Envoix.Job
