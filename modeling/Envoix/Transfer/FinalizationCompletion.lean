import Envoix.Transfer.FinalizationResume

/-! # A resumed finalisation completes

The loops of `commit_job`, and what an attempt whose calls do not fail leaves behind. -/

namespace Envoix.Transfer.Finalization

open ByteCodec Fallible Process Process.Method Envoix.Protocol FileSystem

section Completion

variable [Blake3] {job : Job} {start world left : World} {rootId : UInt32}
  {reuses : List (UInt32 × ReuseObject)}
  {state : Committing}

/-! ## The loops of `commit_job` -/

theorem Intact.atHand {turn : Nat} (intact : Intact job start reuses turn) : AtHand job reuses := by
  intro verified listed chosen
  obtain ⟨reuse, known, -⟩ := intact verified listed chosen
  exact ⟨reuse, known⟩

theorem checkReuse_achieves {verified : VerifiedEntryV2} (listed : verified ∈ job.verifiedEntries)
    (ready : Ready job reuses start state world) (intact : Intact job start reuses world.turn) :
    (checkReuse verified).Achieves diskContract
      (fun _ after left => Ready job reuses start after left ∧ Intact job start reuses left.turn)
        state world := by
  unfold checkReuse
  split
  · next chosen =>
    obtain ⟨reuse, known, unchanged⟩ := intact verified listed chosen
    obtain ⟨sameSize, sameDigest⟩ := unchanged world.turn (Nat.le_refl _)
    rw [achieves_bind]
    refine reuseObject_achieves ready.going.1 known ?_
    rw [achieves_bind]
    refine look_achieves rfl (ready.clear.reply _) ?_
    rw [World.choice, ready.clear.choices, if_neg (by simp [sameSize, sameDigest]), achieves_pure]
    refine ⟨⟨ready.going.quiet (quiet_next world), ready.clear.next⟩, ?_⟩
    intro other among reused
    obtain ⟨object, there, later⟩ := intact other among reused
    exact ⟨object, there, fun turn after => later turn (Nat.le_of_succ_le after)⟩
  · exact ⟨ready, intact⟩

/-- What is reported of an entry: a root by the name that is recorded of it, and the entries below
it by their built names. -/
structure Reported (job : Job) (left : World) (entry : ManifestEntryV2) (verified : VerifiedEntryV2)
    (saved : SavedEntryV2) : Prop where
  entryId : saved.entryId = entry.entryId
  result : saved.result = if verified.completionChoice = .reuseChosen then
    .reusedExisting else .saved
  below : ∀ root ∈ job.manifest.roots, root.rootId = entry.rootId →
    entry.entryId ≠ root.rootEntryId →
    job.entryOverrides[entry.entryId.toNat]? = some saved.finalComponentOverride
  root : ∀ root ∈ job.manifest.roots, root.rootId = entry.rootId →
    entry.entryId = root.rootEntryId → ¬ job.Reuses root.rootId →
    job.plannedName root.rootId = some (saved.finalComponentOverride.getD entry.component)
  recorded : ∀ root ∈ job.manifest.roots, root.rootId = entry.rootId →
    entry.entryId = root.rootEntryId →
    ∃ result, left.rootState root.rootId =
      .saved result (saved.finalComponentOverride.getD entry.component)

omit [Blake3] in
theorem Reported.congr {entry : ManifestEntryV2} {verified : VerifiedEntryV2} {saved : SavedEntryV2}
    (reported : Reported job world entry verified saved) (same : left.ledger = world.ledger) :
    Reported job left entry verified saved where
  entryId := reported.entryId
  result := reported.result
  below := reported.below
  root := reported.root
  recorded root listed own first := by
    obtain ⟨result, recorded⟩ := reported.recorded root listed own first
    exact ⟨result, by simpa only [World.rootState, same] using recorded⟩

theorem savedEntry_achieves {entry : ManifestEntryV2} {verified : VerifiedEntryV2}
    (canonical : job.Canonical) (listed : entry ∈ job.manifest.entries)
    (sound : Sound job start world) (restored : Restored job reuses world state)
    (settled : job.Settles world) :
    (savedEntry entry verified).Achieves diskContract
      (fun saved after left => after = state ∧ left = world ∧
        Reported job world entry verified saved) state world := by
  obtain ⟨root, present⟩ := canonical.entry_roots entry listed
  have among := List.mem_of_getElem? present
  have own : ∀ other ∈ job.manifest.roots, other.rootId = entry.rootId → other = root := by
    intro other otherListed same
    obtain ⟨position, there⟩ := List.getElem?_of_mem otherListed
    rw [← same, canonical.root_ids position other there, there] at present
    exact Option.some.inj present
  unfold savedEntry manifest index
  simp only [achieves_bind, achieves_get, achieves_pure, achieves_raise, restored.manifest]
  refine ⟨root, okOr_eq_ok.mpr present, ?_⟩
  split
  · next first =>
    simp only [achieves_bind]
    refine rootState_achieves restored (canonical.inside among restored) ?_
    have ok := sound.states root.rootId
    -- The name of a root is the one in the ledger, and all roots are settled by now.
    cases now : world.rootState root.rootId with
    | pending | finalizeIntent =>
      have done := settled root among
      simp [now, isSaved, isReused] at done
    | saved result finalName =>
      rw [now] at ok
      have reports :
          (if finalName ≠ entry.component then some finalName else none).getD entry.component =
          finalName := by
        by_cases renamed : finalName = entry.component
        · simp [renamed]
        · simp [renamed]
      refine ⟨rfl, rfl, rfl, rfl, ?_, ?_, ?_⟩
      · intro other otherListed same apart
        exact absurd (own other otherListed same ▸ first) apart
      · intro other otherListed same _ sent
        obtain rfl := own other otherListed same
        cases result with
        | reusedExisting => exact absurd ok.1 sent
        | saved => exact ok.1.trans (congrArg some reports.symm)
      · intro other otherListed same _
        obtain rfl := own other otherListed same
        exact ⟨result, now.trans (congrArg (RootSaveStateV2.saved result) reports.symm)⟩
  · next apart =>
    obtain ⟨position, there⟩ := List.getElem?_of_mem listed
    have inside : entry.entryId.toNat < job.entryOverrides.length := by
      rw [canonical.overrides_length, canonical.entry_ids position entry there]
      exact (List.getElem?_eq_some_iff.mp there).1
    simp only [achieves_bind, achieves_get, achieves_pure, achieves_raise, restored.overrides]
    refine ⟨_, okOr_eq_ok.mpr (List.getElem?_eq_getElem inside), trivial, trivial, rfl,
      rfl, ?_, ?_, ?_⟩
    · exact fun _ _ _ _ => List.getElem?_eq_getElem inside
    · intro other otherListed same first _
      exact absurd (own other otherListed same ▸ first) apart
    · intro other otherListed same first
      exact absurd (own other otherListed same ▸ first) apart

omit [Blake3] in
theorem removeReservation_achieves {path : Path} (clear : Clear start world) :
    (removeReservation path).Achieves diskContract
      (fun _ after left => after = state ∧ Clear start left ∧ path ∉ left.reservations ∧
        left.reservations ⊆ world.reservations ∧ left.ledger = world.ledger) state world := by
  unfold removeReservation
  rw [achieves_bind, achieves_perform]
  intro reply replied
  have later := clear.after (.removeReservation path)
  rw [show reply = (answer (.removeReservation path) world).1 from replied,
    show diskContract.after world (.removeReservation path) _ =
      (answer (.removeReservation path) world).2 from rfl]
  unfold answer at later ⊢
  simp only at later ⊢
  by_cases missing : path ∉ world.next.reservations
  · rw [if_pos missing] at later ⊢
    exact ⟨rfl, later, missing, List.Subset.refl _, rfl⟩
  · rw [if_neg missing, clear.fails] at later ⊢
    exact ⟨rfl, later, by simp, List.filter_subset_self _, rfl⟩

omit [Blake3] in
/-- The reservations are given up one after the other. -/
theorem removeReservations_achieves {paths : List Path} (clear : Clear start world) :
    (paths.forM removeReservation).Achieves diskContract
      (fun _ _ left => (∀ path ∈ paths, path ∉ left.reservations) ∧
        left.reservations ⊆ world.reservations ∧
        left.ledger = world.ledger)
      state world := by
  induction paths generalizing state world with
  | nil => exact ⟨fun _ listed => absurd listed List.not_mem_nil, List.Subset.refl _, rfl⟩
  | cons first rest ih =>
    show (removeReservation first >>= fun _ => rest.forM removeReservation).Achieves diskContract
      _ state world
    rw [achieves_bind]
    refine (removeReservation_achieves clear).mono ?_
    rintro _ _ between ⟨-, clear, gone, fewer, same⟩
    refine (ih clear).mono ?_
    rintro _ _ left ⟨others, less, kept⟩
    refine ⟨fun path listed => ?_, fun path listed => fewer (less listed), kept.trans same⟩
    obtain rfl | later := List.mem_cons.mp listed
    · exact fun stays => gone (less stays)
    · exact others path later

/-- A settled root was sent and renamed, or something stands in for it. -/
theorem Sound.settles {root : ManifestRootV2} (sound : Sound job start world)
    (settled : job.Settles world) (listed : root ∈ job.manifest.roots) :
    (¬ job.Reuses root.rootId ∧ ∃ name, world.rootState root.rootId = .saved .saved name ∧
      job.plannedName root.rootId = some name ∧ job.source root.rootId ∈ world.sources) ∨
    (job.Reuses root.rootId ∧ isReused (world.rootState root.rootId) = true) := by
  have ok := sound.states root.rootId
  have done := settled root listed
  cases now : world.rootState root.rootId with
  | pending | finalizeIntent => simp [now, isSaved, isReused] at done
  | saved result finalName =>
    rw [now] at ok
    cases result with
    | saved => exact .inl ⟨ok.2.1, finalName, rfl, ok.1, ok.2.2⟩
    | reusedExisting => exact .inr ⟨ok.1, rfl⟩

/-- What a finished attempt leaves. -/
structure Finished (job : Job) (start left : World) (results : List SavedEntryV2) : Prop where
  reported : List.Forall₂ (fun element saved => Reported job left element.1 element.2 saved)
    (job.manifest.entries.zip job.verifiedEntries) results
  settled : job.Settles left
  sound : Sound job start left
  unreserved : ∀ path ∈ job.plan.reservations, path ∉ left.reservations

theorem commitJob_achieves (given : Resumable job start)
    (ready : Ready job reuses start state world) (intact : Intact job start reuses world.turn) :
    (commitJob job.manifest job.verifiedEntries).Achieves diskContract
      (fun results _ left => Finished job start left results) state world := by
  have distinct := given.canonical.distinct
  unfold commitJob manifest
  simp only [achieves_bind, achieves_get, achieves_pure, ready.going.1.manifest]
  rw [if_neg (by simp [given.canonical.verified_length]), achieves_bind]
  refine (achieves_forM (fun verified listed _ _ kept => checkReuse_achieves listed kept.1 kept.2)
    ⟨ready, intact⟩).mono ?_
  rintro _ checked between ⟨ready, intact⟩
  rw [achieves_bind]
  -- Each round succeeds; what the rounds obey then tells what they have done.
  have rounds : (job.manifest.roots.forM (commitRoot job.verifiedEntries)).Achieves diskContract
      (fun _ after left => Ready job reuses start after left) checked between := by
    refine achieves_forM (fun root listed _ _ ready => ?_) ready
    refine (ready.clear.achieved (commitRoot_obeys distinct listed ready.going)
      (commitRoot_achieves given intact.atHand listed ready)).mono ?_
    rintro _ after left ⟨clear, going, -⟩
    exact ⟨going, clear⟩
  have finishes :=
    forM_obeys_done (fun root listed _ _ going =>
      commitRoot_obeys distinct listed going) ready.going
  refine (ready.clear.achieved finishes (rounds.mono fun _ _ _ _ => trivial)).mono ?_
  rintro _ committed last ⟨clear, ⟨restored, sound⟩, settled⟩
  rw [achieves_bind]
  refine (achieves_mapM fun element listed => savedEntry_achieves given.canonical
    (List.of_mem_zip (show (element.1, element.2) ∈ job.manifest.entries.zip job.verifiedEntries
      from listed)).1
    sound restored settled).mono ?_
  rintro results committed last ⟨rfl, rfl, reported⟩
  unfold plan
  simp only [achieves_bind, achieves_get, achieves_pure, restored.plan]
  have kept :
    (job.plan.reservations.forM removeReservation).Obeys diskContract (Permitted job start)
      (fun _ after left => Going job reuses start after left ∧ job.Settles left) committed last :=
    obeys_forM (fun path _ _ _ kept => removeReservation_obeys kept.1 kept.2)
      ⟨⟨restored, sound⟩, settled⟩
  refine (Obeys.achieves kept (removeReservations_achieves clear)).mono ?_
  rintro _ after left ⟨⟨⟨-, sound⟩, settled⟩, unreserved, -, same⟩
  exact ⟨reported.imp fun _ _ known => known.congr same, settled, sound, unreserved⟩

/-- A finalisation that was cut anywhere, any number of times, can be resumed: where nobody disturbs
the planned names, an attempt whose calls do not fail ends, whatever the attempts before it have
left.  Then every root that was received lies under its planned name and is recorded there, nothing
of it is left in its staging place, the roots that others stand in for are recorded as reused, every
root is reported under the name that is recorded of it and every entry below one under its built
name, and no name is reserved any more. -/
theorem finalisation_resumes (canonical : job.Canonical) (supplied : job.Supplied start)
    (undisturbed : job.Undisturbed start) (fresh : start.Fresh) (reached : Reached job start world)
    (restored : Restored job reuses world state) (clear : Clear start world)
    (intact : Intact job start reuses world.turn) :
    ∃ results after left,
      ((commitJob job.manifest job.verifiedEntries).runOn state).exec answer world =
        ((.ok results, after), left) ∧
      List.Forall₂ (fun element saved => Reported job left element.1 element.2 saved)
        (job.manifest.entries.zip job.verifiedEntries) results ∧
      (∀ root ∈ job.manifest.roots, ¬ job.Reuses root.rootId → ∃ name stored,
        job.plannedName root.rootId = some name ∧ left.rootState root.rootId = .saved .saved name ∧
          left.objects (.target name) = some stored ∧ job.Verified start root.rootId stored ∧
          left.objects (job.source root.rootId) = none) ∧
      (∀ root ∈ job.manifest.roots, job.Reuses root.rootId →
        isReused (left.rootState root.rootId) = true) ∧
      ∀ path ∈ job.plan.reservations, path ∉ left.reservations := by
  have sound := reached.sound canonical.distinct fresh
  obtain ⟨results, after, left, ends, finished⟩ := Achieves.exec (fun _ _ => rfl) (fun _ _ => rfl)
    (commitJob_achieves ⟨canonical, supplied, undisturbed⟩ ⟨⟨restored, sound⟩, clear⟩ intact)
  have recoverable := finished.sound.recoverable undisturbed
  refine ⟨results, after, left, ends, finished.reported, fun root listed sent => ?_,
    fun root listed stands => ?_, finished.unreserved⟩
  · obtain ⟨-, name, saved, planned, renamed⟩ | ⟨stands, -⟩ :=
      finished.sound.settles finished.settled listed
    · obtain ⟨recordedName, stored, recorded, recordedPlanned, verified⟩ :=
        finished.sound.renamed renamed
      obtain rfl := Option.some.inj (recordedPlanned.symm.trans planned)
      exact ⟨recordedName, stored, planned, saved, recoverable.landed _ _ _ recorded, verified,
        recoverable.consumed _ renamed⟩
    · exact absurd stands sent
  · obtain ⟨sent, -⟩ | ⟨-, reused⟩ := finished.sound.settles finished.settled listed
    · exact absurd stands sent
    · exact reused

end Completion

/-! ## The note is adopted where it lies -/

attribute [local instance] rootBlake3

theorem noteJob_planned {rootId : UInt32} {name : String}
    (planned : noteJob.plannedName rootId = some name) :
    rootId = 0 ∧ name = "notes.txt" := by
  obtain ⟨rootPlan, found, named, -⟩ := plannedName_plan planned
  obtain ⟨position, same⟩ : ∃ position, rootId.toNat = position := ⟨_, rfl⟩
  rw [same] at found
  cases position with
  | zero =>
    cases found
    exact ⟨UInt32.toNat_inj.mp same, named.symm⟩
  | succ => cases found

theorem noteJob_canonical : noteJob.Canonical where
  root_ids position root found := by cases position <;> cases found; rfl
  entry_ids position entry found := by cases position <;> cases found; rfl
  entry_roots entry listed := by
    obtain rfl := List.mem_singleton.mp listed
    exact ⟨_, rfl⟩
  root_entries root listed := by
    obtain rfl := List.mem_singleton.mp listed
    exact ⟨_, rfl, rfl⟩
  verified_ids position verified found := by cases position <;> cases found; rfl
  verified_length := rfl
  overrides_length := rfl
  planned root listed := by
    obtain rfl := List.mem_singleton.mp listed
    exact ⟨"notes.txt", rfl⟩

theorem noteJob_supplied : noteJob.Supplied noteDisk where
  staged root listed _ := by
    obtain rfl := List.mem_singleton.mp listed
    exact ⟨noteObject, rfl, by rfl⟩
  reserved root listed := by
    obtain rfl := List.mem_singleton.mp listed
    exact ⟨noteReservation, rfl, List.mem_singleton_self _⟩
  drawn _ := show ByteVector.replicate 16 0x33 ≠ ByteVector.zero 16 by decide

theorem noteJob_undisturbed : noteJob.Undisturbed noteDisk where
  distinct _ _ _ first second := (noteJob_planned first).1.trans (noteJob_planned second).1.symm
  vacant _ _ _ := rfl
  untouched rootId name planned turn object := by
    obtain ⟨-, rfl⟩ := noteJob_planned planned
    simp [noteDisk]

/-- What the attempt that was cut off has recorded. -/
def noteIntent : RootSaveStateV2 :=
  .finalizeIntent (.stable 64769 7) 1 "notes.txt" noteReservation (.replicate 16 0x33)

theorem finalisation_resumes_note : ∃ results after left,
    ((commitJob noteManifest noteJob.verifiedEntries).runOn (noteProvider noteIntent)).exec answer
      noteAttempt.2 =
      ((.ok results, after), left) ∧
    left.rootState 0 = .saved .saved "notes.txt" ∧ left.objects (.staging 0) = none ∧
    noteReservation ∉ left.reservations := by
  have recorded : noteAttempt.2.ledger = some [noteIntent] := by decide
  have restored : Restored noteJob [] noteAttempt.2 (noteProvider noteIntent) :=
    ⟨rfl, rfl, rfl, rfl, by rw [World.roots, recorded]; rfl⟩
  have clear : Clear noteDisk noteAttempt.2 := ⟨rfl, fun _ _ => rfl⟩
  have intact : Intact noteJob noteDisk [] noteAttempt.2.turn := by
    intro verified listed chosen
    obtain rfl := List.mem_singleton.mp listed
    cases chosen
  have sent : ¬ noteJob.Reuses 0 := by
    rintro ⟨root, listed, -, verified, found, chosen⟩
    obtain rfl := List.mem_singleton.mp listed
    obtain rfl := Option.some.inj found
    cases chosen
  obtain ⟨results, after, left, ends, -, sends, -, unreserved⟩ :=
    finalisation_resumes noteJob_canonical noteJob_supplied
    noteJob_undisturbed noteDisk_fresh noteAttempt_reached restored clear intact
  obtain ⟨name, stored, planned, saved, -, -, gone⟩ := sends _ (List.mem_singleton_self _) sent
  obtain ⟨-, rfl⟩ := noteJob_planned planned
  exact ⟨results, after, left, ends, saved, gone, unreserved _ (List.mem_singleton_self _)⟩

end Envoix.Transfer.Finalization
