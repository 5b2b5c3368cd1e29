import Envoix.Transfer.FinalizationRecovery

/-! # Every call of a resumed finalisation is answered

One lemma for each function of `commit_job`: on a sound disk that nobody has disturbed it succeeds,
once no call fails. -/

namespace Envoix.Transfer.Finalization

open ByteCodec Fallible Process Process.Method Envoix.Protocol FileSystem

section Resume

variable [Blake3] {job : Job} {start world left : World} {rootId : UInt32}
  {reuses : List (UInt32 × ReuseObject)}
  {state : Committing}

/-- What a function obeys holds of its success, and no call fails after it. -/
theorem Clear.achieved {α : Type} {method : CommitMethod α} {post : α → Committing → World → Prop}
    (clear : Clear start world)
    (obeys : method.Obeys diskContract (Permitted job start) post state world)
    (succeeds : method.Achieves diskContract (fun _ _ _ => True) state world) :
    method.Achieves diskContract (fun value after left => Clear start left ∧ post value after left)
      state world := by
  have stays : ∀ (between : World) (op : CommitOp) (reply : CommitReply op), Clear start between →
      diskContract.may between op reply → Clear start (diskContract.after between op reply) :=
    fun _ op _ clear _ => clear.after op
  exact ((obeys.achieves succeeds).upgrade stays clear).mono fun _ _ _ holds => ⟨holds.1, holds.2.1⟩

/-- An object has one identity. -/
theorem identity_unique {stored : StoredObject} {first second : ObjectIdentityV2}
    (one : job.Identifies rootId stored first) (other : job.Identifies rootId stored second) :
    first = second := by
  cases first with
  | stable volume object =>
    cases second with
    | stable => rw [← one.2.1, ← one.2.2, other.2.1, other.2.2]
    | exactContent => exact absurd (one.1.symm.trans other.1) (by simp)
  | exactContent digest =>
    cases second with
    | stable => exact absurd (one.1.symm.trans other.1) (by simp)
    | exactContent => rw [Except.ok.inj (one.2.symm.trans other.2)]

/-! ## Looking at a root -/

theorem verifyPlace_runs {place : Place} {stored : StoredObject} (running : Running job state)
    (clear : Clear start world) (found : world.next.objects place = some stored) :
    (verifyPlace place job.verifiedEntries rootId).Ensures diskContract (fun _ _ => True)
      (fun result after left =>
        result =
          verifyExactRoot job.manifest job.verifiedEntries job.entryOverrides rootId stored.tree ∧
          after = state ∧ left = world.next) state world := by
  unfold verifyPlace manifest
  rw [ensures_bind]
  have looks :
    (attempt destinationIo (.readTree place) rfl : CommitMethod FileTree).Achieves diskContract
      (fun tree after left => tree = stored.tree ∧ after = state ∧ left = world.next) state world :=
    look_achieves rfl (clear.readTree found) ⟨rfl, rfl, rfl⟩
  refine Ensures.mono looks fun result after left holds => ?_
  cases result with
  | error failure => exact holds.elim
  | ok tree =>
    obtain ⟨rfl, rfl, rfl⟩ := holds
    refine ⟨?_, rfl, rfl⟩
    rw [running.manifest, running.overrides]

theorem verifyPlace_achieves {place : Place} {stored : StoredObject} (running : Running job state)
    (clear : Clear start world) (found : world.next.objects place = some stored)
    (exact : job.Exact rootId stored.tree) :
    (verifyPlace place job.verifiedEntries rootId).Achieves diskContract
      (fun _ after left => after = state ∧ left = world.next) state world := by
  refine (verifyPlace_runs running clear found).mono fun result after left holds => ?_
  obtain ⟨same, kept⟩ := holds
  rw [show verifyExactRoot job.manifest job.verifiedEntries job.entryOverrides rootId stored.tree =
    .ok () from exact] at same
  subst same
  exact kept

theorem objectIdentity_achieves {place : Place} {stored : StoredObject} {digest : ContentDigestV2}
    (running : Running job state)
    (digested : rootContentDigest job.manifest job.verifiedEntries rootId = .ok digest)
    (clear : Clear start world) (found : world.next.objects place = some stored)
    (plain : stored.identity.isSymlink = false) :
    (objectIdentity place digest).Achieves diskContract
      (fun identity after left => after = state ∧ left = world.next ∧
        job.Identifies rootId stored identity)
      state world := by
  unfold objectIdentity plan
  rw [achieves_bind]
  refine look_achieves rfl (clear.symlinkMetadata found) ?_
  rw [if_neg (by simp [plain])]
  simp only [achieves_bind, achieves_get, achieves_pure, running.plan]
  split
  · next unstable => exact ⟨rfl, rfl, by simpa using unstable, digested⟩
  · next stable => exact ⟨rfl, rfl, by simpa using stable, rfl, rfl⟩

/-! ## Copies -/

theorem copyVerified_achieves {stored : StoredObject} (running : Running job state)
    (clear : Clear start world) (staged : world.objects (.staging rootId) = some stored)
    (exact : job.Exact rootId stored.tree) (plain : stored.identity.isSymlink = false)
    (free : world.objects (.copyRoot rootId) = none) :
    (copyVerified rootId job.verifiedEntries).Achieves diskContract (fun _ _ _ => True)
      state world := by
  unfold copyVerified
  obtain ⟨cleared, -, others⟩ := clear.removed (.copyPartial rootId)
  rw [achieves_bind]
  refine attempt_achieves cleared ?_
  replace clear := clear.after (.removePrivateStagingPath (.copyPartial rootId))
  replace staged := (others (.staging rootId) rfl (by simp)).trans staged
  replace free := (others (.copyRoot rootId) rfl (by simp)).trans free
  generalize (answer (.removePrivateStagingPath (.copyPartial rootId)) world).2 =
    empty at clear staged free
  obtain ⟨copied, becomes⟩ := clear.copied ((World.next_objects rfl).trans staged)
  rw [achieves_bind]
  refine attempt_achieves copied ?_
  replace clear := clear.after (.copyTree (.staging rootId) (.copyPartial rootId))
  replace free :
      (answer (.copyTree (.staging rootId) (.copyPartial rootId)) empty).2.objects
          (.copyRoot rootId) = none := by
    rw [becomes, World.store_objects, put_of_ne (by simp)]
    exact (World.next_objects rfl).trans free
  have there :
      (answer (.copyTree (.staging rootId) (.copyPartial rootId)) empty).2.objects
        (.copyPartial rootId) =
      some ⟨stored.tree, empty.choice.volume, empty.choice.object⟩ := by
    rw [becomes]
    exact put_self ..
  generalize (answer (.copyTree (.staging rootId) (.copyPartial rootId)) empty).2 =
    filled at clear free there
  rw [achieves_bind]
  refine look_achieves rfl (clear.syncTree ((World.next_objects rfl).trans there) plain) ?_
  rw [achieves_bind]
  refine (verifyPlace_achieves running clear.next
    (((quiet_next _).trans (quiet_next _)).objects _ rfl |>.trans there)
    exact).mono ?_
  rintro _ _ _ ⟨rfl, rfl⟩
  have last := clear.next.next
  have quiet := ((quiet_next filled).trans (quiet_next _)).trans (quiet_next filled.next.next)
  obtain ⟨renamed, -⟩ :=
    last.renamed ((quiet.objects _ rfl).trans there) ((quiet.objects _ rfl).trans free)
  rw [achieves_bind, achieves_perform]
  intro reply replied
  obtain rfl : reply = .ok () := (show reply = _ from replied).trans renamed
  dsimp only
  rw [achieves_bind]
  exact look_achieves rfl ((last.after _).syncRename _ _) trivial

/-- A copy that is not what was staged is made anew. -/
theorem prepareFinalizationSource_achieves {stored : StoredObject} (running : Running job state)
    (clear : Clear start world) (staged : world.objects (.staging rootId) = some stored)
    (exact : job.Exact rootId stored.tree) (plain : stored.identity.isSymlink = false) :
    (prepareFinalizationSource rootId job.verifiedEntries).Achieves diskContract (fun _ _ _ => True)
      state world := by
  unfold prepareFinalizationSource plan
  simp only [achieves_bind, achieves_get, achieves_pure]
  rw [running.plan]
  split
  · trivial
  · rw [achieves_bind]
    refine look_achieves rfl (clear.tryExists _) ?_
    replace clear := clear.next
    replace staged := (World.next_objects rfl).trans staged
    generalize world.next = looked at clear staged
    cases found : looked.objects (.copyRoot rootId) with
    | none => exact copyVerified_achieves running clear staged exact plain found
    | some old =>
      rw [Option.isSome_some, if_pos rfl, achieves_bind]
      refine achieves_outcome ?_
      refine (verifyPlace_runs running clear ((World.next_objects rfl).trans found)).mono ?_
      rintro result kept _ ⟨rfl, rfl, rfl⟩
      have removes : Achieves diskContract (fun _ _ _ => True) (do
          attempt destinationIo (.removePrivateStagingPath (.copyRoot rootId)) rfl
          copyVerified rootId job.verifiedEntries) kept looked.next := by
        obtain ⟨removed, gone, others⟩ := clear.next.removed (.copyRoot rootId)
        rw [achieves_bind]
        refine attempt_achieves removed
          (copyVerified_achieves running (clear.next.after _) ?_ exact plain gone)
        exact (others _ rfl (by simp)).trans ((World.next_objects rfl).trans staged)
      -- How an old copy fails depends on what was staged, which is exact: only as a copy that is
      -- removed.
      obtain same | ⟨failure, differs, failed⟩ := exact_or_differs exact old.tree
      · rw [show verifyExactRoot job.manifest job.verifiedEntries job.entryOverrides rootId
          old.tree = .ok () from same]
        trivial
      · rw [failed]
        obtain rfl | rfl := differs
        · exact removes
        · exact removes

/-! ## The ledger -/

omit [Blake3] in
theorem Job.Canonical.inside {root : ManifestRootV2} (canonical : job.Canonical)
    (listed : root ∈ job.manifest.roots) (restored : Restored job reuses world state) :
    root.rootId.toNat < state.provider.saveRoots.length := by
  obtain ⟨position, found⟩ := List.getElem?_of_mem listed
  rw [state.provider.roots_complete, restored.manifest, canonical.root_ids position root found]
  exact (List.getElem?_eq_some_iff.mp found).1

omit [Blake3] in
theorem rootState_achieves {post : RootSaveStateV2 → Committing → World → Prop}
    (restored : Restored job reuses world state)
    (inside : rootId.toNat < state.provider.saveRoots.length)
    (next : post (world.rootState rootId) state world) :
    (rootState rootId).Achieves diskContract post state world := by
  unfold rootState index
  simp only [achieves_bind, achieves_get, achieves_raise]
  have present := List.getElem?_eq_getElem inside
  refine ⟨_, okOr_eq_ok.mpr present, ?_⟩
  rwa [← restored.rootState present]

omit [Blake3] in
theorem record_achieves (changed : RootSaveStateV2) (clear : Clear start world)
    (inside : rootId.toNat < state.provider.saveRoots.length) :
    (do setRoot rootId changed; saveEffectLedger : CommitMethod Unit).Achieves diskContract
      (fun _ _ _ => True)
      state world := by
  unfold setRoot rootState index saveEffectLedger
  simp only [achieves_bind, achieves_get, achieves_raise, achieves_modify]
  refine ⟨_, okOr_eq_ok.mpr (List.getElem?_eq_getElem inside), ?_⟩
  exact attempt_achieves (clear.saved _) trivial

omit [Blake3] in
theorem plannedName_plan {name : String} (planned : job.plannedName rootId = some name) :
    ∃ rootPlan, job.plan.rootPlans[rootId.toNat]? = some rootPlan ∧ rootPlan.plannedName = name ∧
      job.plan.rootPlans[rootId.toNat]?.filter (·.rootId = rootId) = some rootPlan := by
  obtain ⟨rootPlan, found, named⟩ := Option.map_eq_some_iff.mp planned
  exact ⟨rootPlan, (Option.filter_eq_some_iff.mp found).1, named, found⟩

omit [Blake3] in
theorem persistNewSaveIntent_achieves {name : String} {reservation : Path}
    {expectedObject : ObjectIdentityV2} (restored : Restored job reuses world state)
    (clear : Clear start world) (planned : job.plannedName rootId = some name)
    (reserved : job.plan.reservations[rootId.toNat]? = some reservation)
    (inside : rootId.toNat < state.provider.saveRoots.length) :
    (persistNewSaveIntent rootId expectedObject).Achieves diskContract (fun _ _ _ => True)
      state world := by
  unfold persistNewSaveIntent plan
  simp only [achieves_bind, achieves_get, achieves_pure, achieves_raise]
  rw [restored.plan]
  obtain ⟨rootPlan, -, -, found⟩ := plannedName_plan planned
  refine ⟨rootPlan, okOr_eq_ok.mpr found, reservation, okOr_eq_ok.mpr reserved, ?_⟩
  refine look_achieves rfl (clear.reply _) ?_
  rw [← achieves_bind]
  exact record_achieves _ clear.next inside

/-- An intent of the plan is current. -/
theorem currentIntentObject_achieves {post : ObjectIdentityV2 → Committing → World → Prop}
    (supplied : job.Supplied start) (sound : Sound job start world)
    (restored : Restored job reuses world state)
    (intended : isIntent (world.rootState rootId) = true)
    (next : ∀ expectedObject planRevision plannedName reservation key,
      world.rootState rootId =
        .finalizeIntent expectedObject planRevision plannedName reservation key →
      post expectedObject state world) :
    (currentIntentObject rootId).Achieves diskContract post state world := by
  have ok := sound.states rootId
  cases intent : world.rootState rootId with
  | pending | saved => simp [intent, isIntent] at intended
  | finalizeIntent expectedObject planRevision plannedName reservation key =>
    rw [intent] at ok
    obtain ⟨rfl, planned, -, reserved, ⟨turn, rfl⟩, -⟩ := ok
    obtain ⟨rootPlan, found, rfl, -⟩ := plannedName_plan planned
    have current :
      isCurrentIntent job.plan rootId job.plan.planRevision rootPlan.plannedName reservation
        (start.choices turn).key = .ok true := by
      simp [isCurrentIntent, found, reserved, okOr, supplied.drawn turn]
    have present : state.provider.saveRoots[rootId.toNat]? =
      some (.finalizeIntent expectedObject job.plan.planRevision
        rootPlan.plannedName reservation (start.choices turn).key) := by
      have written := restored.getD rootId
      rw [intent] at written
      cases here : state.provider.saveRoots[rootId.toNat]? with
      | none =>
        rw [here] at written
        cases written
      | some found =>
        rw [here] at written
        exact congrArg some written
    unfold currentIntentObject
    simp only [achieves_bind, achieves_get, present, achieves_raise, restored.plan]
    exact ⟨true, current, next _ _ _ _ _ intent⟩

theorem refreshIntent_achieves (supplied : job.Supplied start) (sound : Sound job start world)
    (restored : Restored job reuses world state)
    (inside : rootId.toNat < state.provider.saveRoots.length)
    (intended : isIntent (world.rootState rootId) = true) :
    (refreshIntent rootId).Achieves diskContract (fun _ after left => after = state ∧
      left = world) state world := by
  unfold refreshIntent plan
  rw [achieves_bind]
  refine rootState_achieves restored inside ?_
  cases intent : world.rootState rootId with
  | pending | saved => simp [intent, isIntent] at intended
  | finalizeIntent expectedObject planRevision plannedName reservation key =>
    have ok := sound.states rootId
    rw [intent] at ok
    simp only [achieves_bind, achieves_get, achieves_pure]
    rw [restored.plan, ok.1, if_neg (UInt32.lt_irrefl _), achieves_bind]
    exact currentIntentObject_achieves supplied sound restored intended fun _ _ _ _ _ _ =>
      ⟨rfl, rfl⟩

/-! ## Where a root is -/

/-- What is given of a job that can be resumed. -/
structure Resumable (job : Job) (start : World) : Prop where
  canonical : job.Canonical
  supplied : job.Supplied start
  undisturbed : job.Undisturbed start

/-- A root that is sent has its name and its reservation. -/
structure Sending (job : Job) (start : World) (rootId : UInt32) : Prop where
  listed : ∃ root ∈ job.manifest.roots, root.rootId = rootId
  sent : ¬ job.Reuses rootId
  staged : ∃ stored, start.objects (.staging rootId) = some stored ∧ job.Exact rootId stored.tree
  planned : ∃ name, job.plannedName rootId = some name
  reserved : ∃ reservation, job.plan.reservations[rootId.toNat]? = some reservation ∧
    reservation ∈ start.reservations

theorem Resumable.sending {root : ManifestRootV2} (given : Resumable job start)
    (listed : root ∈ job.manifest.roots) (sent : ¬ job.Reuses root.rootId) :
    Sending job start root.rootId where
  listed := ⟨root, listed, rfl⟩
  sent := sent
  staged := given.supplied.staged root listed sent
  planned := given.canonical.planned root listed
  reserved := given.supplied.reserved root listed

theorem Sending.inside (sending : Sending job start rootId) (given : Resumable job start)
    (restored : Restored job reuses world state) :
    rootId.toNat < state.provider.saveRoots.length := by
  obtain ⟨root, listed, rfl⟩ := sending.listed
  exact given.canonical.inside listed restored

theorem Sending.plain {stored : StoredObject} (sending : Sending job start rootId)
    (given : Resumable job start) (exact : job.Exact rootId stored.tree) :
    stored.identity.isSymlink = false := by
  obtain ⟨root, listed, rfl⟩ := sending.listed
  exact exact_plain given.canonical listed exact

/-- What is staged leaves only as a source. -/
theorem Sound.unmoved (sound : Sound job start world) (inside : job.source rootId ∉ world.sources) :
    .staging rootId ∉ world.sources := by
  intro listed
  obtain ⟨⟨source, name, stored⟩, here, same⟩ := List.mem_map.mp listed
  obtain ⟨other, -, from_, -⟩ := sound.moved source name stored here
  obtain rfl : source = .staging rootId := same
  refine inside ?_
  unfold Job.source finalizationSourcePath at from_ ⊢
  split at from_
  · cases from_
  · next direct => rwa [if_neg direct]

/-- A source that was never renamed and, where the job copies, was copied is in its place. -/
theorem Sending.copied (sending : Sending job start rootId) (sound : Sound job start world)
    (inside : job.source rootId ∉ world.sources)
    (copied : job.plan.mode = .copyAfterVerify → Copied job world rootId) :
    Copied job world rootId := by
  by_cases copies : job.plan.mode = .copyAfterVerify
  · exact copied copies
  · obtain ⟨stored, staged, exact⟩ := sending.staged
    refine ⟨stored, ?_, exact⟩
    rw [source_direct copies]
    exact (sound.kept rootId (sound.unmoved inside)).trans staged

/-- The source that an intent was recorded for is exact. -/
theorem Sending.exact {stored : StoredObject} (sending : Sending job start rootId)
    (sound : Sound job start world) (intended : isIntent (world.rootState rootId) = true)
    (found : world.objects (job.source rootId) = some stored) :
    job.Exact rootId stored.tree := by
  by_cases copies : job.plan.mode = .copyAfterVerify
  · exact sound.copies rootId stored copies (source_copy copies rootId ▸ found) intended
  · obtain ⟨original, staged, exact⟩ := sending.staged
    rw [source_direct copies] at found
    -- A direct save renames what was staged itself.
    have stays : .staging rootId ∉ world.sources := fun outside => by
      simp [sound.gone rootId outside] at found
    rwa [Option.some.inj ((sound.kept rootId stays).symm.trans found |>.symm.trans staged)]

/-- What was renamed is exact. -/
theorem Sending.verified {stored : StoredObject} (sending : Sending job start rootId)
    (verified : job.Verified start rootId stored) : job.Exact rootId stored.tree := by
  unfold Job.Verified at verified
  split at verified
  · exact verified
  · obtain ⟨original, staged, exact⟩ := sending.staged
    rwa [Option.some.inj (verified.symm.trans staged)]

/-- While a root is unsettled its name stays reserved. -/
theorem Sending.held (sending : Sending job start rootId) (sound : Sound job start world)
    (intended : isIntent (world.rootState rootId) = true) :
    ∃ reservation, job.plan.reservations[rootId.toNat]? = some reservation ∧
      reservation ∈ world.reservations := by
  obtain ⟨root, listed, rfl⟩ := sending.listed
  have unsettled : ¬ job.Settles world := by
    intro settles
    have settled := settles root listed
    cases state : world.rootState root.rootId <;>
      simp [state, isIntent, isSaved, isReused] at intended settled
  obtain ⟨reservation, reserved, held⟩ := sending.reserved
  exact ⟨reservation, reserved, sound.reserved unsettled ▸ held⟩

/-! ## Renaming a root -/

omit [Blake3] in
theorem targetPlace_achieves {name : String} {post : Place → Committing → World → Prop}
    (planned : job.plannedName rootId = some name) (next : post (.target name) state world) :
    (targetPlace job.plan rootId).Achieves diskContract post state world := by
  unfold targetPlace
  simp only [achieves_bind, achieves_raise, achieves_pure]
  obtain ⟨rootPlan, -, rfl, found⟩ := plannedName_plan planned
  exact ⟨rootPlan, okOr_eq_ok.mpr found, next⟩

theorem finalizeRootSource_achieves {stored : StoredObject} (given : Resumable job start)
    (sending : Sending job start rootId) (sound : Sound job start world)
    (restored : Restored job reuses world state) (clear : Clear start world)
    (intended : isIntent (world.rootState rootId) = true)
    (found : world.objects (job.source rootId) = some stored) :
    (finalizeRootSource rootId (job.source rootId)).Achieves diskContract (fun _ _ _ => True)
      state world := by
  obtain ⟨name, planned⟩ := sending.planned
  obtain ⟨reservation, reserved, held⟩ := sending.held sound intended
  unfold finalizeRootSource plan
  simp only [achieves_bind, achieves_get, achieves_pure]
  rw [restored.plan]
  refine targetPlace_achieves planned ?_
  unfold index
  rw [achieves_raise]
  refine ⟨reservation, okOr_eq_ok.mpr reserved, ?_⟩
  refine look_achieves rfl (clear.reply _) ?_
  have kept : decide (reservation ∈ world.next.reservations) = true := decide_eq_true held
  rw [if_neg (not_not.mpr kept), achieves_bind, achieves_perform]
  intro reply replied
  have quiet := (quiet_next world).trans (quiet_next world.next)
  have there := (quiet.objects _ (source_private rootId)).trans found
  -- The target is free because the source, which is still here, was never renamed.
  have unmoved : job.source rootId ∉ world.next.next.sources := by
    intro listed
    have gone := ((sound.quiet quiet).recoverable given.undisturbed).consumed rootId listed
    simp [there] at gone
  have free :=
    ((sound.quiet quiet).recoverable given.undisturbed).vacant rootId name planned unmoved
  obtain rfl : reply = .ok () :=
    (show reply = _ from replied).trans (clear.next.renamed there free).1
  exact look_achieves rfl ((clear.next.after _).syncRename _ _) trivial

omit [Blake3] in
theorem contended_achieves {body : CommitMethod Unit}
    (succeeds : body.Achieves diskContract (fun _ _ _ => True) state world) :
    (contended body).Achieves diskContract (fun _ _ _ => True) state world := by
  unfold contended
  rw [achieves_bind]
  refine achieves_outcome (Ensures.mono succeeds fun result after left holds => ?_)
  cases result with
  | ok value => trivial
  | error failure => exact holds.elim

theorem verifyAdoptedRoot_achieves {place : Place} {stored : StoredObject}
    {expectedObject : ObjectIdentityV2} {digest : ContentDigestV2} (running : Running job state)
    (digested : rootContentDigest job.manifest job.verifiedEntries rootId = .ok digest)
    (clear : Clear start world) (found : world.next.objects place = some stored)
    (exact : job.Exact rootId stored.tree) (plain : stored.identity.isSymlink = false)
    (identified : job.Identifies rootId stored expectedObject) :
    (verifyAdoptedRoot place expectedObject job.verifiedEntries rootId).Achieves diskContract
      (fun _ _ _ => True)
      state world := by
  unfold verifyAdoptedRoot manifest
  cases expectedObject with
  | stable volume object =>
    simp only [achieves_bind, achieves_get, achieves_pure, achieves_raise, running.manifest]
    refine ⟨digest, digested, (objectIdentity_achieves running digested clear found plain).mono ?_⟩
    rintro identity _ _ ⟨rfl, rfl, same⟩
    rw [if_neg (not_not.mpr (identity_unique same identified))]
    trivial
  | exactContent rootDigest =>
    rw [achieves_bind]
    refine (verifyPlace_achieves running clear found exact).mono ?_
    rintro _ _ _ ⟨rfl, rfl⟩
    simp only [achieves_bind, achieves_get, achieves_pure, achieves_raise, running.manifest]
    refine ⟨rootDigest, identified.2, ?_⟩
    rw [if_neg (by simp)]
    trivial

theorem prepareIntent_achieves {digest : ContentDigestV2} (given : Resumable job start)
    (sending : Sending job start rootId) (sound : Sound job start world)
    (restored : Restored job reuses world state) (clear : Clear start world)
    (digested : rootContentDigest job.manifest job.verifiedEntries rootId = .ok digest)
    (pending : world.rootState rootId = .pending) :
    (prepareIntent rootId job.verifiedEntries digest).Achieves diskContract (fun _ _ _ => True)
      state world := by
  unfold prepareIntent
  have unmoved : job.source rootId ∉ world.sources := by
    have ok := sound.states rootId
    rwa [pending] at ok
  obtain ⟨original, staged, originalExact⟩ := sending.staged
  have prepares := prepareFinalizationSource_achieves restored.running clear
    ((sound.kept rootId (sound.unmoved unmoved)).trans staged) originalExact
      (sending.plain given originalExact)
  rw [achieves_bind]
  refine (clear.achieved
    (prepareFinalizationSource_obeys restored.running sound (fun _ => pending) fun _ =>
      .inl pending)
    prepares).mono ?_
  rintro _ _ between ⟨clear, rfl, rfl, sound, records, copied⟩
  replace unmoved : job.source rootId ∉ between.sources := by rwa [World.sources, records.moved]
  obtain ⟨stored, found, exact⟩ := sending.copied sound unmoved copied
  have plain := sending.plain given exact
  have first := (World.next_objects (source_private rootId)).trans found
  rw [achieves_bind]
  refine look_achieves rfl (clear.syncTree first plain) ?_
  rw [achieves_bind]
  refine (objectIdentity_achieves restored.running digested clear.next
    ((World.next_objects (source_private rootId)).trans first) plain).mono ?_
  rintro expectedObject _ _ ⟨rfl, rfl, -⟩
  obtain ⟨name, planned⟩ := sending.planned
  obtain ⟨reservation, reserved, -⟩ := sending.reserved
  rw [achieves_bind]
  exact persistNewSaveIntent_achieves (restored.same (records.ledger))
    clear.next.next planned reserved
    (sending.inside given restored)

/-- An intent is followed to the rename: its own, or the one that was cut off before it was
recorded. -/
theorem followIntent_achieves {digest : ContentDigestV2} (given : Resumable job start)
    (sending : Sending job start rootId) (sound : Sound job start world)
    (restored : Restored job reuses world state) (clear : Clear start world)
    (digested : rootContentDigest job.manifest job.verifiedEntries rootId = .ok digest)
    (intended : isIntent (world.rootState rootId) = true) :
    (followIntent rootId job.verifiedEntries digest).Achieves diskContract (fun _ _ _ => True)
      state world := by
  obtain ⟨name, planned⟩ := sending.planned
  have recoverable := sound.recoverable given.undisturbed
  unfold followIntent plan
  rw [achieves_bind]
  refine currentIntentObject_achieves given.supplied sound restored intended ?_
  intro expectedObject planRevision plannedName reservation key intent
  simp only [achieves_bind, achieves_get, achieves_pure]
  rw [restored.plan]
  refine targetPlace_achieves planned ?_
  refine look_achieves rfl (clear.tryExists _) ?_
  have first := quiet_next world
  have second := first.trans (quiet_next world.next)
  cases found : world.next.objects (job.source rootId) with
  | some stored =>
    have there := (first.objects _ (source_private rootId)).symm.trans found
    have exact := sending.exact sound intended there
    rw [show finalizationSourcePath job.plan rootId = job.source rootId from rfl, found,
      Option.isSome_some, if_pos rfl, achieves_bind]
    refine (objectIdentity_achieves restored.running digested clear.next
      ((second.objects _ (source_private rootId)).trans there) (sending.plain given exact)).mono ?_
    rintro identity _ _ ⟨rfl, rfl, same⟩
    have expected := recoverable.identified rootId _ _ _ _ _ stored intent (.inl there)
    rw [if_neg (not_not.mpr (identity_unique same expected))]
    exact contended_achieves (finalizeRootSource_achieves given sending (sound.quiet second)
      (restored.same rfl)
      clear.next.next intended ((second.objects _ (source_private rootId)).trans there))
  | none =>
    -- The source of an intended root leaves only for its target, so the attempt was cut after the
    -- rename.
    have missing := (first.objects _ (source_private rootId)).symm.trans found
    obtain ⟨-, -, -, renamed⟩ := sound.intended intended
    obtain ⟨landedName, stored, listed, landedPlanned, verified⟩ := sound.renamed (renamed missing)
    obtain rfl := Option.some.inj (landedPlanned.symm.trans planned)
    obtain rfl : plannedName = landedName := by
      have ok := sound.states rootId
      rw [intent] at ok
      exact Option.some.inj (ok.2.1.symm.trans planned)
    have exact := sending.verified verified
    have identified := recoverable.identified rootId _ _ _ _ _ stored intent (.inr listed)
    have lands : ∀ {last : World}, Quiet world last →
        last.objects (.target plannedName) = some stored := fun quiet =>
      ((sound.quiet quiet).recoverable given.undisturbed).landed _ _ _ (quiet.moved ▸ listed)
    rw [show finalizationSourcePath job.plan rootId = job.source rootId from rfl, found,
      Option.isSome_none, if_neg (by simp), achieves_bind]
    refine look_achieves rfl (clear.next.tryExists _) ?_
    rw [lands second, Option.isSome_some, if_pos rfl]
    exact contended_achieves (verifyAdoptedRoot_achieves restored.running digested clear.next.next
      (lands (second.trans (quiet_next _))) exact (sending.plain given exact) identified)

/-! ## The rounds -/

/-- A provider of the job on a sound disk, with no failing call ahead. -/
structure Ready (job : Job) (reuses : List (UInt32 × ReuseObject)) (start : World)
    (state : Committing) (world : World) :
    Prop where
  going : Going job reuses start state world
  clear : Clear start world

omit [Blake3] in
theorem reuseObject_achieves {entryId : UInt32} {reuse : ReuseObject}
    {post : ReuseObject → Committing → World → Prop} (restored : Restored job reuses world state)
    (known : reuses.lookup entryId = some reuse) (next : post reuse state world) :
    (reuseObject entryId).Achieves diskContract post state world := by
  unfold reuseObject
  simp only [achieves_bind, achieves_get, achieves_raise]
  exact ⟨reuse, okOr_eq_ok.mpr (restored.reuses ▸ known), next⟩

/-- The object that stands in for an entry is at hand. -/
def AtHand (job : Job) (reuses : List (UInt32 × ReuseObject)) : Prop :=
  ∀ verified ∈ job.verifiedEntries, verified.completionChoice = .reuseChosen →
    ∃ reuse, reuses.lookup verified.entryId = some reuse

theorem commitRoot_achieves {root : ManifestRootV2} (given : Resumable job start)
    (atHand : AtHand job reuses) (listed : root ∈ job.manifest.roots)
    (ready : Ready job reuses start state world) :
    (commitRoot job.verifiedEntries root).Achieves diskContract (fun _ _ _ => True)
      state world := by
  obtain ⟨⟨restored, sound⟩, clear⟩ := ready
  have inside := given.canonical.inside listed restored
  obtain ⟨entry, present, -⟩ := given.canonical.root_entries root listed
  have covered : root.rootEntryId.toNat < job.verifiedEntries.length := by
    rw [given.canonical.verified_length]
    exact (List.getElem?_eq_some_iff.mp present).1
  have found := List.getElem?_eq_getElem covered
  have identity := given.canonical.verified_ids _ _ found
  generalize job.verifiedEntries[root.rootEntryId.toNat] = verified at found identity
  unfold commitRoot index
  simp only [achieves_bind, achieves_raise]
  refine ⟨verified, okOr_eq_ok.mpr found, ?_⟩
  split
  · next reuses =>
    obtain ⟨reuse, known⟩ := atHand verified (List.mem_of_getElem? found) reuses
    rw [UInt32.toNat_inj.mp identity] at known
    rw [achieves_bind]
    refine reuseObject_achieves restored known ?_
    rw [achieves_bind]
    refine rootState_achieves restored inside ?_
    split
    · have records := record_achieves (.saved .reusedExisting reuse.finalName) clear inside
      simp only [achieves_bind] at records ⊢
      exact records.mono fun _ _ _ saves => saves.mono fun _ _ _ _ => trivial
    · trivial
  · next sent =>
    have sending := given.sending listed (not_reuses given.canonical.distinct listed found sent)
    rw [achieves_bind]
    refine rootState_achieves restored inside ?_
    split
    · trivial
    · next unsaved =>
      obtain ⟨digest, digested⟩ := rootContentDigest_ok given.canonical root.rootId
      unfold manifest
      simp only [achieves_bind, achieves_get, achieves_pure, achieves_raise, restored.manifest]
      refine ⟨digest, digested, ?_⟩
      -- The rest of the round, once an intent has been recorded.
      have goesOn : ∀ {after : Committing} {left : World}, Restored job reuses left after →
          Sound job start left → Clear start left → isIntent (left.rootState root.rootId) = true →
          (do
            followIntent root.rootId job.verifiedEntries digest
            let rootPlan ← index (← plan).rootPlans root.rootId.toNat
            setRoot root.rootId (.saved .saved rootPlan.plannedName)
            saveEffectLedger : CommitMethod Unit).Achieves diskContract (fun _ _ _ => True)
                after left := by
        intro after left restored sound clear intended
        rw [achieves_bind]
        refine (clear.achieved (followIntent_obeys sound restored sending.sent digested)
          (followIntent_achieves given sending sound restored clear digested intended)).mono ?_
        rintro _ after left ⟨clear, followed⟩
        obtain ⟨name, planned⟩ := sending.planned
        obtain ⟨rootPlan, inPlan, -, -⟩ := plannedName_plan planned
        unfold plan index
        simp only [achieves_bind, achieves_get, achieves_pure, achieves_raise,
          followed.restored.plan]
        refine ⟨rootPlan, okOr_eq_ok.mpr inPlan, ?_⟩
        have records := record_achieves (.saved .saved rootPlan.plannedName) clear
          (sending.inside given followed.restored)
        rw [achieves_bind] at records
        exact records
      refine rootState_achieves restored inside ?_
      split
      · next pending =>
        rw [achieves_bind]
        refine (clear.achieved
          (prepareIntent_obeys sound restored sending.sent digested (.inl pending)
            (fun _ => pending) (.inl pending))
          (prepareIntent_achieves given sending sound restored clear digested pending)).mono ?_
        rintro _ after left ⟨clear, -, restored, sound, intended⟩
        exact goesOn restored sound clear intended
      · next started =>
        have intended : isIntent (world.rootState root.rootId) = true := by
          have ok := sound.states root.rootId
          cases now : world.rootState root.rootId with
          | pending => exact absurd now started
          | finalizeIntent => rfl
          | saved result finalName =>
            rw [now] at ok unsaved
            cases result with
            | saved => simp [isSaved] at unsaved
            | reusedExisting => exact absurd ok.1 sending.sent
        rw [achieves_bind]
        refine (refreshIntent_achieves given.supplied sound restored inside intended).mono ?_
        rintro _ _ _ ⟨rfl, rfl⟩
        exact goesOn restored sound clear intended

end Resume

end Envoix.Transfer.Finalization
