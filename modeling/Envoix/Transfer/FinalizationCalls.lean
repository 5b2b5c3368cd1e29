import Envoix.Transfer.FinalizationRule

/-! # The calls of `commit_job`

On a sound disk `commit_job` makes only calls that the rule permits.  One lemma for each function
says what a success of it leaves. -/

namespace Envoix.Transfer.Finalization

open ByteCodec Fallible Process Process.Method Envoix.Protocol FileSystem

section Safety

variable [Blake3] {job : Job} {start world left : World} {rootId : UInt32}
  {reuses : List (UInt32 × ReuseObject)}

/-! ## The calls that are made -/

/-- What the provider keeps of the job. -/
structure Running (job : Job) (state : Committing) : Prop where
  plan : state.provider.plan = job.plan
  manifest : state.provider.manifest = job.manifest
  overrides : state.entryOverrides = job.entryOverrides

theorem obeys_attempt {α : Type} {wrap : IoError → CommitFailure} {op : CommitOp}
    {same : CommitReply op = Except IoError α} {post : α → Committing → World → Prop}
    {state : Committing} (permitted : Permitted job start world op)
    (next : ∀ value, cast same (answer op world).1 = .ok value →
      post value state (answer op world).2) :
    (attempt wrap op same).Obeys diskContract (Permitted job start) post state world := by
  unfold attempt
  rw [obeys_bind, obeys_perform]
  refine ⟨permitted, fun reply replied => ?_⟩
  rw [obeys_raise]
  intro value succeeded
  refine next value ?_
  rw [← show reply = (answer op world).1 from replied]
  exact mapErr_eq_ok.mp succeeded

/-- A call that only looks. -/
theorem obeys_look {α : Type} {wrap : IoError → CommitFailure} {op : CommitOp}
    {same : CommitReply op = Except IoError α} {post : α → Committing → World → Prop}
    {state : Committing} (reads : op.reads = true)
    (next : ∀ value, cast same (answer op world).1 = .ok value → post value state world.next) :
    (attempt wrap op same).Obeys diskContract (Permitted job start) post state world := by
  refine obeys_attempt ?_ fun value replied => answer_reads reads world ▸ next value replied
  cases op <;> trivial

omit [Blake3] in
theorem reply_eq_ok {α : Type} {choice : Choice} {value found : α}
    (replied : choice.reply value = .ok found) :
    value = found := by
  unfold Choice.reply at replied
  split at replied
  · exact Except.ok.inj replied
  · cases replied

omit [Blake3] in
theorem tryExists_eq {place : Place} {exist : Bool}
    (replied : (answer (.tryExists place) world).1 = .ok exist) :
    (world.next.objects place).isSome = exist := reply_eq_ok replied

omit [Blake3] in
theorem readTree_found {place : Place} {tree : FileTree}
    (replied : (answer (.readTree place) world).1 = .ok tree) :
    ∃ stored, world.next.objects place = some stored ∧ stored.tree = tree := by
  unfold Finalization.answer at replied
  simp only at replied
  split at replied
  · cases replied
  · exact ⟨_, by assumption, reply_eq_ok replied⟩

omit [Blake3] in
theorem symlinkMetadata_found {place : Place} {metadata : LinkIdentity}
    (replied : (answer (.symlinkMetadata place) world).1 = .ok metadata) :
    ∃ stored, world.next.objects place = some stored ∧ stored.identity = metadata := by
  unfold Finalization.answer at replied
  simp only at replied
  split at replied
  · cases replied
  · exact ⟨_, by assumption, reply_eq_ok replied⟩

theorem ensures_look {α : Type} {wrap : IoError → CommitFailure} {op : CommitOp}
    {same : CommitReply op = Except IoError α}
    {post : Except CommitFailure α → Committing → World → Prop} {state : Committing}
    (reads : op.reads = true)
    (next : post (mapErr wrap (cast same (answer op world).1)) state world.next) :
    (attempt wrap op same).Ensures diskContract (Permitted job start) post state world := by
  unfold attempt
  rw [ensures_bind, ensures_perform]
  refine ⟨by cases op <;> trivial, fun reply replied => ?_⟩
  rw [show reply = (answer op world).1 from replied,
    show diskContract.after world op _ = world.next from answer_reads reads world]
  exact next

/-- A tree is looked at, and found exact or not. -/
theorem verifyPlace_ensures {state : Committing} (running : Running job state) (place : Place) :
    (verifyPlace place job.verifiedEntries rootId).Ensures diskContract (Permitted job start)
      (fun result after left => after = state ∧ left = world.next ∧ ∀ value, result = .ok value →
        ∃ stored, left.objects place = some stored ∧ job.Exact rootId stored.tree) state world := by
  unfold verifyPlace manifest
  rw [ensures_bind]
  refine ensures_look rfl ?_
  cases replied : (answer (.readTree place) world).1 with
  | error error => exact ⟨rfl, rfl, fun value failed => by cases failed⟩
  | ok tree =>
    obtain ⟨stored, found, rfl⟩ := readTree_found replied
    refine ⟨rfl, rfl, fun value exact => ⟨stored, found, ?_⟩⟩
    rw [running.manifest, running.overrides] at exact
    exact exact

theorem verifyPlace_obeys {state : Committing} (running : Running job state) (place : Place) :
    (verifyPlace place job.verifiedEntries rootId).Obeys diskContract (Permitted job start)
      (fun _ after left => after = state ∧ left = world.next ∧
        ∃ stored, left.objects place = some stored ∧ job.Exact rootId stored.tree) state world := by
  refine (verifyPlace_ensures running place).mono fun result after left holds => ?_
  cases result with
  | ok value => exact ⟨holds.1, holds.2.1, holds.2.2 value rfl⟩
  | error failure => trivial

theorem objectIdentity_obeys {state : Committing} {exactContent : ContentDigestV2}
    (running : Running job state)
    (digested : rootContentDigest job.manifest job.verifiedEntries rootId = .ok exactContent)
    (place : Place) :
    (objectIdentity place exactContent).Obeys diskContract (Permitted job start)
      (fun identity after left => after = state ∧ left = world.next ∧
        ∃ stored, left.objects place = some stored ∧ job.Identifies rootId stored identity)
          state world := by
  unfold objectIdentity plan
  rw [obeys_bind]
  refine obeys_look rfl fun metadata replied => ?_
  obtain ⟨stored, found, rfl⟩ := symlinkMetadata_found replied
  split
  · simp
  · simp only [obeys_bind, obeys_get, obeys_pure, running.plan]
    split
    · next unstable => exact ⟨rfl, rfl, stored, found, by simpa using unstable, digested⟩
    · next stable => exact ⟨rfl, rfl, stored, found, by simpa using stable, rfl, rfl⟩

/-- The ledger and the record of the renames are as they were. -/
structure SameRecords (world left : World) : Prop where
  ledger : left.ledger = world.ledger
  moved : left.moved = world.moved

omit [Blake3] in
theorem SameRecords.trans {last : World} (first : SameRecords world left)
    (second : SameRecords left last) :
    SameRecords world last := ⟨second.ledger.trans first.ledger, second.moved.trans first.moved⟩

omit [Blake3] in
theorem SameRecords.rootState (same : SameRecords world left) (rootId : UInt32) :
    left.rootState rootId = world.rootState rootId := by
  simp only [World.rootState, same.ledger]

omit [Blake3] in
theorem sameRecords_next (world : World) : SameRecords world world.next := ⟨rfl, rfl⟩

omit [Blake3] in
theorem removed_sameRecords (place : Place) (world : World) :
    SameRecords world (answer (.removePrivateStagingPath place) world).2 := by
  unfold answer
  simp only
  split <;> exact ⟨rfl, rfl⟩

omit [Blake3] in
theorem copied_sameRecords (source destination : Place) (world : World) :
    SameRecords world (answer (.copyTree source destination) world).2 := by
  unfold answer
  simp only
  split <;> exact ⟨rfl, rfl⟩

omit [Blake3] in
theorem removeReservation_sameRecords (path : Path) (world : World) :
    SameRecords world (answer (.removeReservation path) world).2 := by
  unfold answer
  simp only
  split
  · exact ⟨rfl, rfl⟩
  · split <;> exact ⟨rfl, rfl⟩

omit [Blake3] in
theorem exclusiveRename_moved {source destination : Place}
    (replied : (answer (.exclusiveRename source destination) world).1 = .ok ()) :
    ∃ stored, world.next.objects source = some stored ∧ world.next.objects destination = none ∧
      (answer (.exclusiveRename source destination) world).2 =
        world.next.move source destination stored := by
  unfold answer at replied ⊢
  simp only at replied ⊢
  split at replied
  · cases replied
  · cases replied
  · next stored found free never =>
    rw [found, free]
    exact ⟨stored, rfl, rfl, rfl⟩
  · cases replied

theorem copyVerified_obeys {state : Committing} (running : Running job state)
    (sound : Sound job start world)
    (first : job.Undisturbed start → world.rootState rootId = .pending) :
    (copyVerified rootId job.verifiedEntries).Obeys diskContract (Permitted job start)
      (fun source after left => source = .copyRoot rootId ∧ after = state ∧ Sound job start left ∧
        SameRecords world left ∧ ∃ stored, left.objects (.copyRoot rootId) = some stored ∧
          job.Exact rootId stored.tree) state world := by
  unfold copyVerified
  rw [obeys_bind]
  have clears : Permitted job start world (.removePrivateStagingPath (.copyPartial rootId)) :=
    .inl ⟨rootId, rfl⟩
  refine obeys_attempt clears fun _ _ => ?_
  have cleared := sound.answer clears
  have records := removed_sameRecords (.copyPartial rootId) world
  generalize (answer (.removePrivateStagingPath (.copyPartial rootId)) world).2 =
    empty at cleared records
  rw [obeys_bind]
  have copies : Permitted job start empty (.copyTree (.staging rootId) (.copyPartial rootId)) :=
    ⟨rootId, rfl⟩
  refine obeys_attempt copies fun _ _ => ?_
  replace cleared := cleared.answer copies
  replace records :=
    records.trans (copied_sameRecords (.staging rootId) (.copyPartial rootId) empty)
  generalize (answer (.copyTree (.staging rootId) (.copyPartial rootId)) empty).2 =
    filled at cleared records
  rw [obeys_bind]
  refine obeys_look rfl fun _ _ => ?_
  rw [obeys_bind]
  refine (verifyPlace_obeys running _).mono ?_
  rintro _ _ _ ⟨rfl, rfl, stored, found, exact⟩
  replace cleared := (cleared.quiet (quiet_next _)).quiet (quiet_next _)
  replace records := (records.trans (sameRecords_next _)).trans (sameRecords_next _)
  generalize filled.next.next = verified at cleared records found
  have renames :
      Permitted job start verified (.exclusiveRename (.copyPartial rootId) (.copyRoot rootId)) := by
    refine Renames.copy (fun undisturbed =>
      (records.rootState rootId).trans (first undisturbed)) fun other found' => ?_
    rwa [Option.some.inj (found'.symm.trans found)]
  rw [obeys_bind, obeys_perform]
  refine ⟨renames, fun reply replied => ?_⟩
  split
  · obtain ⟨moved, moved_found, -, after⟩ := exclusiveRename_moved replied.symm
    have same : moved = stored := Option.some.inj
      (moved_found.symm.trans ((World.next_objects rfl).trans found))
    subst same
    replace cleared := cleared.answer renames
    rw [after] at cleared
    rw [obeys_bind]
    refine obeys_look rfl fun _ _ => ?_
    rw [obeys_pure,
      show diskContract.after verified (.exclusiveRename (.copyPartial rootId) (.copyRoot rootId))
        _ = _ from after]
    refine ⟨rfl, rfl, cleared.quiet (quiet_next _), records.trans ⟨rfl, rfl⟩, moved, ?_, exact⟩
    rw [World.next_objects rfl]
    exact put_self ..
  · simp
  · simp

/-- A copy is ready: it is there, and it is exact. -/
def Copied (job : Job) (world : World) (rootId : UInt32) : Prop :=
  ∃ stored, world.objects (job.source rootId) = some stored ∧ job.Exact rootId stored.tree

/-- A copy that is there is looked at only while its root is pending. -/
theorem prepareFinalizationSource_obeys {state : Committing} (running : Running job state)
    (sound : Sound job start world)
    (first : job.Undisturbed start → world.rootState rootId = .pending)
    (absent : job.plan.mode = .copyAfterVerify → world.rootState rootId = .pending ∨
      world.objects (.copyRoot rootId) = none) :
    (prepareFinalizationSource rootId job.verifiedEntries).Obeys diskContract (Permitted job start)
      (fun source after left => source = job.source rootId ∧ after = state ∧ Sound job start left ∧
        SameRecords world left ∧ (job.plan.mode = .copyAfterVerify → Copied job left rootId))
          state world := by
  unfold prepareFinalizationSource plan
  simp only [obeys_bind, obeys_get, obeys_pure]
  rw [running.plan]
  split
  · next direct =>
    rw [obeys_pure]
    exact ⟨(source_direct direct rootId).symm, rfl, sound, ⟨rfl, rfl⟩,
      fun copies => absurd copies direct⟩
  · next copies =>
    replace copies := not_not.mp copies
    have source := source_copy copies rootId
    -- Copies anew once the old copy, if any, is out of the way.
    have anew : ∀ {between : World}, Sound job start between → SameRecords world between →
        (copyVerified rootId job.verifiedEntries).Obeys diskContract (Permitted job start)
          (fun source after left => source = job.source rootId ∧ after = state ∧
            Sound job start left ∧ SameRecords world left ∧
            (job.plan.mode = .copyAfterVerify → Copied job left rootId)) state between := by
      intro between sound records
      have still := fun undisturbed => (records.rootState rootId).trans (first undisturbed)
      refine (copyVerified_obeys running sound still).mono ?_
      rintro _ _ _ ⟨rfl, rfl, sound, same, stored, found, exact⟩
      exact ⟨source.symm, rfl, sound, records.trans same, fun _ => ⟨stored, source ▸ found, exact⟩⟩
    rw [obeys_bind]
    refine obeys_look rfl fun exist replied => ?_
    replace replied := tryExists_eq replied
    have next := sound.quiet (quiet_next world)
    cases exist with
    | false => exact anew next (sameRecords_next world)
    | true =>
      -- The copy is there, so by the hypothesis its root is still pending.
      have pending : world.rootState rootId = .pending := by
        refine (absent copies).resolve_right fun missing => ?_
        rw [World.next_objects rfl, missing] at replied
        cases replied
      rw [if_pos rfl, obeys_bind]
      unfold Obeys
      rw [ensures_outcome]
      refine (verifyPlace_ensures running _).mono ?_
      rintro result kept left ⟨rfl, rfl, verified⟩
      have clears :
        Permitted job start world.next.next (.removePrivateStagingPath (.copyRoot rootId)) :=
        .inr ⟨rootId, rfl, pending⟩
      have cleared := (next.quiet (quiet_next _)).answer clears
      have records := removed_sameRecords (.copyRoot rootId) world.next.next
      -- A copy that does not verify is removed and made anew.
      have removes : Obeys diskContract (Permitted job start)
          (fun source after left => source = job.source rootId ∧ after = kept ∧
            Sound job start left ∧ SameRecords world left ∧
            (job.plan.mode = .copyAfterVerify → Copied job left rootId))
          (do
            attempt destinationIo (.removePrivateStagingPath (.copyRoot rootId)) rfl
            copyVerified rootId job.verifiedEntries) kept world.next.next := by
        rw [obeys_bind]
        exact obeys_attempt clears fun _ _ => anew cleared ⟨records.ledger, records.moved⟩
      cases result with
      | ok value =>
        obtain ⟨stored, found, exact⟩ := verified value rfl
        exact ⟨source.symm, rfl, next.quiet (quiet_next _), ⟨rfl, rfl⟩,
          fun _ => ⟨stored, source ▸ found, exact⟩⟩
      | error failure =>
        cases failure with
        | lateCollision => exact removes
        | destination error =>
          cases error with
          | io error => exact removes
          | _ => trivial
        | _ => trivial

/-! ## Writing the ledger -/

omit [Blake3] in
theorem roots_getD (job : Job) (world : World) (rootId : UInt32) :
    (world.roots job)[rootId.toNat]?.getD .pending = world.rootState rootId := by
  unfold World.roots World.rootState
  cases world.ledger with
  | none =>
    simp only [Option.getD_none, List.getElem?_replicate, List.getElem?_nil]
    split <;> rfl
  | some roots => rfl

omit [Blake3] in
theorem Restored.running {state : Committing} (restored : Restored job reuses world state) :
    Running job state :=
  ⟨restored.plan, restored.manifest, restored.overrides⟩

omit [Blake3] in
theorem Restored.same {state : Committing} (restored : Restored job reuses world state)
    (same : left.ledger = world.ledger) :
    Restored job reuses left state where
  plan := restored.plan
  manifest := restored.manifest
  overrides := restored.overrides
  reuses := restored.reuses
  roots := by rw [restored.roots, World.roots, World.roots, same]

omit [Blake3] in
theorem Restored.getD {state : Committing} (restored : Restored job reuses world state)
    (rootId : UInt32) :
    state.provider.saveRoots[rootId.toNat]?.getD .pending = world.rootState rootId := by
  rw [restored.roots, roots_getD]

omit [Blake3] in
theorem Restored.rootState {state : Committing} (restored : Restored job reuses world state)
    {found : RootSaveStateV2} (present : state.provider.saveRoots[rootId.toNat]? = some found) :
    world.rootState rootId = found := by
  rw [← restored.getD, present]
  rfl

theorem rootState_obeys {state : Committing} {post : RootSaveStateV2 → Committing → World → Prop}
    (restored : Restored job reuses world state)
    (next : post (world.rootState rootId) state world) :
    (rootState rootId).Obeys diskContract (Permitted job start) post state world := by
  unfold rootState index
  simp only [obeys_bind, obeys_get, obeys_raise]
  intro found present
  rwa [← restored.rootState (okOr_eq_ok.mp present)]

omit [Blake3] in
theorem saveEffectLedger_saved {roots : List RootSaveStateV2}
    (replied : (answer (.saveEffectLedger roots) world).1 = .ok ()) :
    (answer (.saveEffectLedger roots) world).2 = { world.next with ledger := some roots } := by
  unfold answer at replied ⊢
  simp only at replied ⊢
  split at replied
  · rfl
  · cases replied

/-- What a recorded change of one root leaves. -/
structure Recorded (job : Job) (reuses : List (UInt32 × ReuseObject)) (start world : World)
    (rootId : UInt32) (state : RootSaveStateV2) (after : Committing) (left : World) : Prop where
  restored : Restored job reuses left after
  sound : Sound job start left
  state : left.rootState rootId = state
  moved : left.moved = world.moved
  objects : ∀ place : Place, place.isPrivate = true → left.objects place = world.objects place

theorem record_obeys {state : Committing} {changed : RootSaveStateV2}
    (sound : Sound job start world) (restored : Restored job reuses world state)
    (change : Change job start world rootId changed) :
    (do setRoot rootId changed; saveEffectLedger : CommitMethod Unit).Obeys diskContract
      (Permitted job start)
      (fun _ after left => Recorded job reuses start world rootId changed after left)
        state world := by
  unfold setRoot rootState index
  simp only [obeys_bind, obeys_get, obeys_raise, obeys_modify]
  intro found present
  have inside : rootId.toNat < state.provider.saveRoots.length :=
    (List.getElem?_eq_some_iff.mp (okOr_eq_ok.mp present)).1
  unfold saveEffectLedger
  rw [obeys_bind, obeys_get]
  have written : ∀ other : UInt32,
      ((state.withRoot rootId changed).provider.saveRoots)[other.toNat]?.getD .pending =
      if other = rootId then changed else world.rootState other := by
    intro other
    show (state.provider.saveRoots.set rootId.toNat changed)[other.toNat]?.getD .pending = _
    by_cases same : other = rootId
    · subst same
      simp [List.getElem?_set_self inside]
    · have apart : rootId.toNat ≠ other.toNat := fun equal => same (UInt32.toNat_inj.mp equal).symm
      rw [List.getElem?_set_ne apart, restored.getD, if_neg same]
  have changes :
      Permitted job start world
          (.saveEffectLedger (state.withRoot rootId changed).provider.saveRoots) := by
    intro other
    rw [written]
    split
    · next same => exact same ▸ change
    · exact .same
  refine obeys_attempt changes fun _ replied => ?_
  have after := saveEffectLedger_saved replied
  rw [after]
  have saved := sound.answer changes
  rw [after] at saved
  exact {
    restored := ⟨restored.plan, restored.manifest, restored.overrides, restored.reuses, rfl⟩
    sound := saved
    state := (written rootId).trans (if_pos rfl)
    moved := rfl
    objects := fun place alone => World.next_objects alone }

omit [Blake3] in
theorem Running.plannedName {state : Committing} (running : Running job state)
    {rootPlan : RootPlanV2}
    (found : state.provider.plan.rootPlans[rootId.toNat]?.filter (·.rootId = rootId) =
      some rootPlan) :
    job.plannedName rootId = some rootPlan.plannedName := by
  rw [running.plan] at found
  rw [Job.plannedName, found]
  rfl

/-- An intent is recorded for the object that is there. -/
theorem persistNewSaveIntent_obeys {state : Committing} {expectedObject : ObjectIdentityV2}
    {stored : StoredObject} (sound : Sound job start world)
    (restored : Restored job reuses world state)
    (was : world.rootState rootId = .pending ∨ isIntent (world.rootState rootId) = true)
    (first : job.Undisturbed start → world.rootState rootId = .pending) (sent : ¬ job.Reuses rootId)
    (held : world.objects (job.source rootId) = some stored)
    (identified : job.Identifies rootId stored expectedObject)
    (exact : job.plan.mode = .copyAfterVerify → job.Exact rootId stored.tree) :
    (persistNewSaveIntent rootId expectedObject).Obeys diskContract (Permitted job start)
      (fun _ after left => Restored job reuses left after ∧ Sound job start left ∧
        isIntent (left.rootState rootId) = true)
      state world := by
  unfold persistNewSaveIntent plan
  simp only [obeys_bind, obeys_get, obeys_pure, obeys_raise]
  intro rootPlan found reservation reserved
  refine obeys_look rfl fun key drawn => ?_
  have planned := restored.running.plannedName (okOr_eq_ok.mp found)
  replace reserved := okOr_eq_ok.mp reserved
  replace held := (World.next_objects (source_private rootId)).trans held
  rw [restored.plan] at reserved
  have change :
    Change job start world.next rootId
      (.finalizeIntent expectedObject state.provider.plan.planRevision
      rootPlan.plannedName reservation key) := by
    rw [restored.plan]
    exact .intent was first sent planned reserved ⟨world.turn,
      by rw [← sound.choices]; exact reply_eq_ok drawn⟩ held
      identified exact
  rw [← obeys_bind]
  refine (record_obeys (sound.quiet (quiet_next world))
    (restored.same rfl) change).mono fun _ after left recorded => ?_
  exact ⟨recorded.restored, recorded.sound, by rw [recorded.state]; rfl⟩

theorem currentIntentObject_obeys {state : Committing}
    {post : ObjectIdentityV2 → Committing → World → Prop}
    (restored : Restored job reuses world state)
    (next : ∀ expectedObject, isIntent (world.rootState rootId) = true →
      post expectedObject state world) :
    (currentIntentObject rootId).Obeys diskContract (Permitted job start) post state world := by
  unfold currentIntentObject
  rw [obeys_bind, obeys_get]
  split
  · next expectedObject planRevision plannedName reservation idempotencyKey present =>
    have intended : isIntent (world.rootState rootId) = true := by
      rw [restored.rootState present]
      rfl
    rw [obeys_bind, obeys_raise]
    intro current _
    split
    · simp
    · exact next expectedObject intended
  · trivial

/-- The intents of a job are those of its plan, so none is older. -/
theorem refreshIntent_obeys {state : Committing} (sound : Sound job start world)
    (restored : Restored job reuses world state) :
    (refreshIntent rootId).Obeys diskContract (Permitted job start)
    (fun _ after left => after = state ∧ left = world)
      state world := by
  unfold refreshIntent
  rw [obeys_bind]
  refine rootState_obeys restored ?_
  split
  · next expectedObject planRevision plannedName reservation idempotencyKey intended =>
    have ok := sound.states rootId
    rw [intended] at ok
    unfold plan
    simp only [obeys_bind, obeys_get, obeys_pure]
    rw [restored.plan, ok.1, if_neg (UInt32.lt_irrefl _), obeys_bind]
    exact currentIntentObject_obeys restored fun _ _ => ⟨rfl, rfl⟩
  · trivial

/-! ## Renaming a root -/

theorem targetPlace_obeys {state : Committing} {post : Place → Committing → World → Prop}
    (running : Running job state)
    (next : ∀ name, job.plannedName rootId = some name → post (.target name) state world) :
    (targetPlace job.plan rootId).Obeys diskContract (Permitted job start) post state world := by
  unfold targetPlace
  simp only [obeys_bind, obeys_raise, obeys_pure]
  intro rootPlan found
  exact next _ (running.plannedName (running.plan ▸ okOr_eq_ok.mp found))

/-- What a round has done for a root whose intent is recorded. -/
structure Followed (job : Job) (reuses : List (UInt32 × ReuseObject)) (start : World)
    (rootId : UInt32) (after : Committing) (left : World) : Prop where
  restored : Restored job reuses left after
  sound : Sound job start left
  intended : isIntent (left.rootState rootId) = true
  renamed : job.source rootId ∈ left.sources

theorem finalizeRootSource_obeys {state : Committing} (sound : Sound job start world)
    (restored : Restored job reuses world state)
    (intended : isIntent (world.rootState rootId) = true) :
    (finalizeRootSource rootId (job.source rootId)).Obeys diskContract (Permitted job start)
      (fun _ after left => Followed job reuses start rootId after left) state world := by
  unfold finalizeRootSource plan
  simp only [obeys_bind, obeys_get, obeys_pure]
  rw [restored.plan]
  refine targetPlace_obeys restored.running fun name planned => ?_
  unfold index
  rw [obeys_raise]
  intro reservation _
  refine obeys_look rfl fun reserved _ => ?_
  split
  · simp
  · have renames :
      Permitted job start world.next (.exclusiveRename (job.source rootId) (.target name)) :=
      .root planned intended
    rw [obeys_bind, obeys_perform]
    refine ⟨renames, fun reply replied => ?_⟩
    split
    · obtain ⟨stored, _, _, moved⟩ := exclusiveRename_moved replied.symm
      refine obeys_look rfl fun _ _ => ?_
      have after := (sound.quiet (quiet_next world)).answer renames
      rw [moved] at after
      rw [show diskContract.after world.next (.exclusiveRename (job.source rootId) (.target name))
        _ = _ from moved]
      exact {
        restored := restored.same rfl
        sound := after.quiet (quiet_next _)
        intended
        renamed := by
          show job.source rootId ∈
            List.map Prod.fst (world.moved ++ [(job.source rootId, name, stored)])
          simp }
    · trivial
    · trivial

theorem contended_obeys {body : CommitMethod Unit} {post : Unit → Committing → World → Prop}
    {state : Committing} (holds : body.Obeys diskContract (Permitted job start) post state world) :
    (contended body).Obeys diskContract (Permitted job start) post state world := by
  unfold contended
  rw [obeys_bind]
  refine obeys_outcome holds fun result after left succeeded => ?_
  split
  · exact succeeded () rfl
  · trivial
  · trivial

theorem verifyAdoptedRoot_obeys {state : Committing} {place : Place}
    {expectedObject : ObjectIdentityV2} (running : Running job state) :
    (verifyAdoptedRoot place expectedObject job.verifiedEntries rootId).Obeys diskContract
      (Permitted job start)
      (fun _ after left => after = state ∧ Quiet world left) state world := by
  unfold verifyAdoptedRoot manifest
  cases expectedObject with
  | stable volume object =>
    simp only [obeys_bind, obeys_get, obeys_pure, obeys_raise]
    intro content digested
    rw [running.manifest] at digested
    refine (objectIdentity_obeys running digested place).mono ?_
    rintro _ _ _ ⟨rfl, rfl, _⟩
    split
    · trivial
    · exact ⟨rfl, quiet_next world⟩
  | exactContent rootDigest =>
    rw [obeys_bind]
    refine (verifyPlace_obeys running place).mono ?_
    rintro _ _ _ ⟨rfl, rfl, _⟩
    simp only [obeys_bind, obeys_get, obeys_pure, obeys_raise]
    intro content _
    split
    · trivial
    · exact ⟨rfl, quiet_next world⟩

/-- A source is prepared and its intent recorded. -/
theorem prepareIntent_obeys {state : Committing} {digest : ContentDigestV2}
    (sound : Sound job start world) (restored : Restored job reuses world state)
    (sent : ¬ job.Reuses rootId)
    (digested : rootContentDigest job.manifest job.verifiedEntries rootId = .ok digest)
    (was : world.rootState rootId = .pending ∨ isIntent (world.rootState rootId) = true)
    (first : job.Undisturbed start → world.rootState rootId = .pending)
    (absent : world.rootState rootId = .pending ∨ world.objects (job.source rootId) = none) :
    (prepareIntent rootId job.verifiedEntries digest).Obeys diskContract (Permitted job start)
      (fun source after left => source = job.source rootId ∧ Restored job reuses left after ∧
        Sound job start left ∧ isIntent (left.rootState rootId) = true) state world := by
  unfold prepareIntent
  rw [obeys_bind]
  refine (prepareFinalizationSource_obeys restored.running sound first fun copies => ?_).mono ?_
  · rwa [source_copy copies] at absent
  rintro _ _ left ⟨rfl, rfl, sound, records, copied⟩
  replace restored := restored.same records.ledger
  rw [← records.rootState] at was first
  rw [obeys_bind]
  refine obeys_look rfl fun _ _ => ?_
  rw [obeys_bind]
  refine (objectIdentity_obeys restored.running digested _).mono ?_
  rintro expectedObject _ _ ⟨rfl, rfl, stored, found, identified⟩
  have quiet := (quiet_next left).trans (quiet_next left.next)
  have exact : job.plan.mode = .copyAfterVerify → job.Exact rootId stored.tree := by
    intro copies
    obtain ⟨copy, there, exact⟩ := copied copies
    rwa [Option.some.inj (found.symm.trans ((quiet.objects _ (source_private rootId)).trans there))]
  rw [obeys_bind]
  refine (persistNewSaveIntent_obeys (sound.quiet quiet)
    (restored.same rfl) was first sent found identified exact).mono ?_
  intro _ after last recorded
  exact ⟨rfl, recorded⟩

/-- An intent leads to a rename: its own, or one before a crash whose object is adopted. -/
theorem followIntent_obeys {state : Committing} {digest : ContentDigestV2}
    (sound : Sound job start world) (restored : Restored job reuses world state)
    (sent : ¬ job.Reuses rootId)
    (digested : rootContentDigest job.manifest job.verifiedEntries rootId = .ok digest) :
    (followIntent rootId job.verifiedEntries digest).Obeys diskContract (Permitted job start)
      (fun _ after left => Followed job reuses start rootId after left) state world := by
  unfold followIntent plan
  rw [obeys_bind]
  refine currentIntentObject_obeys restored fun expectedObject intended => ?_
  simp only [obeys_bind, obeys_get, obeys_pure]
  rw [restored.plan]
  refine targetPlace_obeys restored.running fun name planned => ?_
  refine obeys_look rfl fun exist replied => ?_
  replace replied := tryExists_eq replied
  have next := sound.quiet (quiet_next world)
  cases exist with
  | true =>
    rw [if_pos rfl, obeys_bind]
    refine (objectIdentity_obeys restored.running digested _).mono ?_
    rintro object _ _ ⟨rfl, rfl, _⟩
    split
    · trivial
    · exact contended_obeys (finalizeRootSource_obeys (next.quiet (quiet_next _))
        (restored.same rfl) intended)
  | false =>
    have missing : world.next.objects (job.source rootId) = none :=
      Option.not_isSome_iff_eq_none.mp (by simp [replied, Job.source])
    -- The source of an intended root goes nowhere but to its target.
    have renamed : job.source rootId ∈ world.sources := by
      obtain ⟨_, _, _, renamed⟩ := next.intended intended
      exact renamed missing
    rw [if_neg (by simp), obeys_bind]
    refine obeys_look rfl fun exist taken => ?_
    have last := next.quiet (quiet_next _)
    cases exist with
    | true =>
      rw [if_pos rfl]
      refine (contended_obeys (verifyAdoptedRoot_obeys restored.running)).mono ?_
      rintro _ _ left ⟨rfl, quiet⟩
      exact ⟨restored.same quiet.ledger, last.quiet quiet, (quiet.rootState rootId).symm ▸ intended,
        quiet.sources.symm ▸ renamed⟩
    | false =>
      rw [if_neg (by simp)]
      split
      · -- The renamed object was taken away again, so the name was disturbed.
        have first : job.Undisturbed start → world.next.next.rootState rootId = .pending := by
          intro undisturbed
          have recoverable := last.recoverable undisturbed
          obtain ⟨landedName, stored, listed, landedPlanned, -⟩ := last.renamed renamed
          obtain rfl := Option.some.inj (landedPlanned.symm.trans planned)
          have vacant := tryExists_eq taken
          rw [recoverable.landed _ _ _ listed] at vacant
          cases vacant
        rw [obeys_bind]
        refine (prepareIntent_obeys last (restored.same rfl) sent digested (.inr intended) first
          (.inr ?_)).mono ?_
        · exact (World.next_objects (source_private rootId)).trans missing
        rintro source after left ⟨rfl, restored, sound, intended⟩
        exact contended_obeys (finalizeRootSource_obeys sound restored intended)
      · trivial

/-! ## The loops of `commit_job` -/

/-- What is done for a root stays done, whatever call comes next. -/
theorem done_stays {op : CommitOp} (permitted : Permitted job start world op)
    (done : isSaved (world.rootState rootId) = true ∨ isReused (world.rootState rootId) = true) :
    isSaved ((answer op world).2.rootState rootId) = true ∨
      isReused ((answer op world).2.rootState rootId) = true := by
  replace permitted := (quiet_next world).permitted permitted
  cases op with
  | saveEffectLedger roots =>
    have written := (permitted rootId).done done
    unfold answer
    simp only
    split
    · exact written
    · split
      · exact written
      · exact done
  | removePrivateStagingPath place => rwa [(removed_sameRecords place world).rootState]
  | copyTree source destination => rwa [(copied_sameRecords source destination world).rootState]
  | removeReservation path => rwa [(removeReservation_sameRecords path world).rootState]
  | exclusiveRename source destination =>
    unfold answer
    simp only
    split
    · exact done
    · exact done
    · cases destination <;> exact done
    · exact done
  | tryExists | symlinkMetadata | readTree | syncTreeDirectories | syncRenameDirectories
  | reservationExists | fillRandom
  | readReuse =>
    rw [answer_reads rfl]
    exact done

/-- A loop that finishes one root after the other. -/
theorem forM_obeys_done {body : ManifestRootV2 → CommitMethod Unit}
    {invariant : Committing → World → Prop} {roots : List ManifestRootV2}
    (each : ∀ root ∈ roots, ∀ {state world}, invariant state world →
      (body root).Obeys diskContract (Permitted job start)
        (fun _ after left => invariant after left ∧
        (isSaved (left.rootState root.rootId) = true ∨
          isReused (left.rootState root.rootId) = true)) state world)
    {state : Committing} (now : invariant state world) :
    (roots.forM body).Obeys diskContract (Permitted job start)
    (fun _ after left => invariant after left ∧
      ∀ root ∈ roots, isSaved (left.rootState root.rootId) = true ∨
        isReused (left.rootState root.rootId) = true)
      state world := by
  induction roots generalizing state world with
  | nil => exact ⟨now, fun _ listed => absurd listed List.not_mem_nil⟩
  | cons first rest ih =>
    show (body first >>= fun _ => rest.forM body).Obeys diskContract (Permitted job start)
      _ state world
    rw [obeys_bind]
    refine (each first List.mem_cons_self now).mono ?_
    rintro _ after left ⟨kept, done⟩
    have later := ih (fun root listed => each root (List.mem_cons_of_mem _ listed)) kept
    have stays : ∀ (between : World) (op : CommitOp) (reply : CommitReply op),
        (isSaved (between.rootState first.rootId) = true ∨
          isReused (between.rootState first.rootId) = true) →
        Permitted job start between op → diskContract.may between op reply →
        (isSaved ((diskContract.after between op reply).rootState first.rootId) = true ∨
          isReused ((diskContract.after between op reply).rootState first.rootId) = true) :=
      fun _ _ _ done permitted _ => done_stays permitted done
    refine (Obeys.upgrade stays (fun _ _ _ permitted => permitted) later done).mono ?_
    rintro _ last final ⟨firstDone, kept, restDone⟩
    refine ⟨kept, fun root listed => ?_⟩
    obtain rfl | listed := List.mem_cons.mp listed
    · exact firstDone
    · exact restDone root listed

/-- The provider has read the ledger of a sound disk. -/
def Going (job : Job) (reuses : List (UInt32 × ReuseObject)) (start : World) (state : Committing)
    (world : World) : Prop :=
  Restored job reuses world state ∧ Sound job start world

theorem Going.quiet {state : Committing} (going : Going job reuses start state world)
    (quiet : Quiet world left) :
    Going job reuses start state left := ⟨going.1.same quiet.ledger, going.2.quiet quiet⟩

theorem reuseObject_obeys {state : Committing} {entryId : UInt32}
    {post : ReuseObject → Committing → World → Prop} (next : ∀ reuse, post reuse state world) :
    (reuseObject entryId).Obeys diskContract (Permitted job start) post state world := by
  unfold reuseObject
  simp only [obeys_bind, obeys_get, obeys_raise]
  exact fun reuse _ => next reuse

theorem checkReuse_obeys {verified : VerifiedEntryV2} {state : Committing}
    (going : Going job reuses start state world) :
    (checkReuse verified).Obeys diskContract (Permitted job start)
      (fun _ after left => Going job reuses start after left) state world := by
  unfold checkReuse
  split
  · rw [obeys_bind]
    refine reuseObject_obeys fun reuse => ?_
    rw [obeys_bind]
    refine obeys_look rfl fun content _ => ?_
    split
    · trivial
    · exact going.quiet (quiet_next world)
  · exact going

omit [Blake3] in
/-- The entry of a root is not reused under another root. -/
theorem not_reuses {root : ManifestRootV2} {verified : VerifiedEntryV2}
    (distinct : (job.manifest.roots.map (·.rootId)).Nodup) (listed : root ∈ job.manifest.roots)
    (found : job.verifiedEntries[root.rootEntryId.toNat]? = some verified)
    (sent : verified.completionChoice ≠ .reuseChosen) :
    ¬ job.Reuses root.rootId := by
  rintro ⟨other, other_listed, same, reused, reused_found, reuses⟩
  have equal := List.inj_on_of_nodup_map distinct other_listed listed same
  subst equal
  exact sent (Option.some.inj (found.symm.trans reused_found) ▸ reuses)

omit [Blake3] in
theorem plannedName_eq {rootPlan : RootPlanV2} {name : String}
    (planned : job.plannedName rootId = some name)
    (present : job.plan.rootPlans[rootId.toNat]? = some rootPlan) :
    job.plannedName rootId = some rootPlan.plannedName := by
  rw [Job.plannedName, present] at planned ⊢
  cases kept : Option.filter (·.rootId = rootId) (some rootPlan) with
  | none =>
    rw [kept] at planned
    cases planned
  | some found =>
    rw [Option.some.inj (Option.filter_eq_some_iff.mp kept).1]
    rfl

theorem commitRoot_obeys {root : ManifestRootV2} {state : Committing}
    (distinct : (job.manifest.roots.map (·.rootId)).Nodup) (listed : root ∈ job.manifest.roots)
    (going : Going job reuses start state world) :
    (commitRoot job.verifiedEntries root).Obeys diskContract (Permitted job start)
      (fun _ after left => Going job reuses start after left ∧
        (isSaved (left.rootState root.rootId) = true ∨
          isReused (left.rootState root.rootId) = true)) state world := by
  obtain ⟨restored, sound⟩ := going
  unfold commitRoot index
  simp only [obeys_bind, obeys_raise]
  intro verified found
  replace found := okOr_eq_ok.mp found
  split
  · next reuses =>
    rw [obeys_bind]
    refine reuseObject_obeys fun reuse => ?_
    rw [obeys_bind]
    refine rootState_obeys restored ?_
    split
    · have change : Change job start world root.rootId (.saved .reusedExisting reuse.finalName) :=
        .reused ⟨root, listed, rfl, verified, found, reuses⟩
      have recorded := record_obeys sound restored change
      simp only [obeys_bind] at recorded ⊢
      exact recorded.mono fun _ _ _ saves => saves.mono fun _ _ _ recorded =>
        ⟨⟨recorded.restored, recorded.sound⟩, by rw [recorded.state]; exact .inr rfl⟩
    · next reused => exact ⟨⟨restored, sound⟩, .inr (not_not.mp reused)⟩
  · next sent =>
    -- No other root is reused under this identifier, since the identifiers are distinct.
    have own := not_reuses distinct listed found sent
    rw [obeys_bind]
    refine rootState_obeys restored ?_
    split
    · next saved => exact ⟨⟨restored, sound⟩, .inl saved⟩
    · unfold manifest
      simp only [obeys_bind, obeys_get, obeys_pure, obeys_raise]
      intro digest digested
      rw [restored.manifest] at digested
      -- The rest of the round, once an intent has been recorded.
      have goesOn : ∀ {after : Committing} {left : World}, Going job reuses start after left →
          (do
            followIntent root.rootId job.verifiedEntries digest
            let rootPlan ← index (← plan).rootPlans root.rootId.toNat
            setRoot root.rootId (.saved .saved rootPlan.plannedName)
            saveEffectLedger : CommitMethod Unit).Obeys diskContract (Permitted job start)
            (fun _ after left => Going job reuses start after left ∧
              (isSaved (left.rootState root.rootId) = true ∨
                isReused (left.rootState root.rootId) = true)) after left := by
        rintro after left ⟨restored, sound⟩
        rw [obeys_bind]
        refine (followIntent_obeys sound restored own digested).mono fun _ after left followed => ?_
        unfold plan index
        simp only [obeys_bind, obeys_get, obeys_pure, obeys_raise]
        intro rootPlan present
        obtain ⟨name, planned, _, _⟩ := followed.sound.intended followed.intended
        replace present := plannedName_eq planned (followed.restored.plan ▸ okOr_eq_ok.mp present)
        have change : Change job start left root.rootId (.saved .saved rootPlan.plannedName) :=
          .saved followed.intended present followed.renamed
        have recorded := record_obeys followed.sound followed.restored change
        rw [obeys_bind] at recorded
        exact recorded.mono fun _ _ _ saves => saves.mono fun _ _ _ recorded =>
          ⟨⟨recorded.restored, recorded.sound⟩, by rw [recorded.state]; exact .inl rfl⟩
      refine rootState_obeys restored ?_
      split
      -- the intent is recorded now, before anything is renamed
      · next pending =>
        rw [obeys_bind]
        refine (prepareIntent_obeys sound restored own digested (.inl pending) (fun _ => pending)
          (.inl pending)).mono ?_
        rintro _ after left ⟨-, restored, sound, -⟩
        exact goesOn ⟨restored, sound⟩
      · rw [obeys_bind]
        refine (refreshIntent_obeys sound restored).mono ?_
        rintro _ _ _ ⟨rfl, rfl⟩
        exact goesOn ⟨restored, sound⟩

theorem savedEntry_obeys {entry : ManifestEntryV2} {verified : VerifiedEntryV2}
    {state : Committing} :
    (savedEntry entry verified).Obeys diskContract (Permitted job start)
      (fun _ after left => after = state ∧ left = world ∧ True) state world := by
  unfold savedEntry manifest rootState index
  simp only [obeys_bind, obeys_get, obeys_pure, obeys_raise]
  intro root _
  split
  · simp only [obeys_bind, obeys_get, obeys_raise]
    intro found _
    split
    · simp
    · trivial
    · trivial
  · simp only [obeys_bind, obeys_get, obeys_pure, obeys_raise]
    intro _ _
    simp

theorem removeReservation_obeys {path : Path} {state : Committing}
    (going : Going job reuses start state world) (settled : job.Settles world) :
    (removeReservation path).Obeys diskContract (Permitted job start)
      (fun _ after left => Going job reuses start after left ∧ job.Settles left) state world := by
  unfold removeReservation
  rw [obeys_bind, obeys_perform]
  refine ⟨settled, fun reply _ => ?_⟩
  have records := removeReservation_sameRecords path world
  have after : Going job reuses start state (answer (.removeReservation path) world).2 ∧
      job.Settles (answer (.removeReservation path) world).2 := by
    refine ⟨⟨going.1.same records.ledger, going.2.answer settled⟩, fun root listed => ?_⟩
    rw [records.rootState]
    exact settled root listed
  split
  · exact after
  · exact after
  · trivial

theorem commitJob_obeys {state : Committing} (distinct : (job.manifest.roots.map (·.rootId)).Nodup)
    (going : Going job reuses start state world) :
    (commitJob job.manifest job.verifiedEntries).Obeys diskContract (Permitted job start)
      (fun _ after left => Going job reuses start after left ∧ job.Settles left) state world := by
  unfold commitJob manifest
  simp only [obeys_bind, obeys_get, obeys_pure]
  split
  · simp
  · rw [obeys_bind]
    refine (obeys_forM (fun verified _ _ _ going => checkReuse_obeys going)
      going).mono fun _ checked between going => ?_
    rw [obeys_bind]
    refine (forM_obeys_done (fun root listed _ _ going => commitRoot_obeys distinct listed going)
      going).mono ?_
    rintro _ committed last ⟨going, settled⟩
    rw [obeys_bind]
    refine (obeys_mapM fun element _ => savedEntry_obeys).mono ?_
    rintro results _ _ ⟨rfl, rfl, _⟩
    unfold plan
    simp only [obeys_bind, obeys_get, obeys_pure]
    exact obeys_forM (fun path _ _ _ kept => removeReservation_obeys kept.1 kept.2) ⟨going, settled⟩

end Safety

end Envoix.Transfer.Finalization
