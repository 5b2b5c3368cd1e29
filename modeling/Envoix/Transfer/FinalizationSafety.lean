import Envoix.Transfer.FinalizationCalls
import Envoix.Transfer.Reconciliation

/-! # Finalisation harms nothing and is exact

The runs of a job: any attempts to commit it, each cut anywhere, with others at work in the target
directory. -/

namespace Envoix.Transfer.Finalization

open ByteCodec Fallible Process Process.Method Envoix.Protocol FileSystem

section Safety

variable [Blake3] {job : Job} {start world left : World} {rootId : UInt32}

/-! ## Runs -/

/-- Every disk of a job is sound, wherever its attempts were cut. -/
theorem Reached.sound (distinct : (job.manifest.roots.map (·.rootId)).Nodup) (fresh : start.Fresh)
    (reached : Reached job start world) : Sound job start world := by
  induction reached with
  | start => exact fresh.sound
  | attempt _ restored run ih =>
    exact Proc.Follows.invariant (fun _ _ _ sound permitted => sound.answer permitted)
      (commitJob_obeys distinct ⟨restored, ih⟩) ih run
  | others _ ih => exact ih.quiet (quiet_next _)

/-- The renames of one root. -/
def World.renamesOf (world : World) (source : Place) : List (Place × String × StoredObject) :=
  world.moved.filter (·.1 = source)

/-- What was saved stays saved, and is not renamed again. -/
def Settled (job : Job) (world left : World) : Prop :=
  ∀ rootId, isSaved (world.rootState rootId) = true →
    left.rootState rootId = world.rootState rootId ∧
      left.renamesOf (job.source rootId) = world.renamesOf (job.source rootId)

omit [Blake3] in
theorem Settled.trans {last : World} (first : Settled job world left)
    (second : Settled job left last) :
    Settled job world last := by
  intro rootId saved
  obtain ⟨state, renames⟩ := first rootId saved
  obtain ⟨lastState, lastRenames⟩ := second rootId (state ▸ saved)
  exact ⟨lastState.trans state, lastRenames.trans renames⟩

omit [Blake3] in
theorem SameRecords.settled (same : SameRecords world left) : Settled job world left :=
  fun rootId _ => ⟨same.rootState rootId, by rw [World.renamesOf, World.renamesOf, same.moved]⟩

omit [Blake3] in
/-- Another root is renamed. -/
theorem settled_move {name : String} {stored : StoredObject}
    (intended : isIntent (world.rootState rootId) = true) :
    Settled job world (world.move (job.source rootId) (.target name) stored) := by
  intro other saved
  refine ⟨rfl, ?_⟩
  have apart : job.source rootId ≠ job.source other := by
    intro same
    rw [source_injective same] at intended
    cases state : world.rootState other <;> simp [state, isIntent, isSaved] at intended saved
  show (world.moved ++ [(job.source rootId, name, stored)]).filter (·.1 = job.source other) = _
  simp [World.renamesOf, apart]

theorem settled_save {roots : List RootSaveStateV2} (sound : Sound job start world)
    (changes : ∀ rootId : UInt32,
      Change job start world rootId (roots[rootId.toNat]?.getD .pending)) :
    Settled job world { world with ledger := some roots } := by
  intro rootId saved
  refine ⟨?_, rfl⟩
  show roots[rootId.toNat]?.getD .pending = world.rootState rootId
  have change := changes rootId
  have ok := sound.states rootId
  generalize roots[rootId.toNat]?.getD .pending = written at change
  cases change with
  | same => rfl
  | intent was sent planned held exact =>
    obtain pending | intended := was
    · simp [pending, isSaved] at saved
    · cases state : world.rootState rootId <;> simp [state, isIntent, isSaved] at intended saved
  | saved was planned renamed =>
    cases state : world.rootState rootId <;> simp [state, isIntent, isSaved] at was saved
  | reused reuses =>
    cases state : world.rootState rootId with
    | pending | finalizeIntent => simp [state, isSaved] at saved
    | saved result finalName =>
      cases result with
      | reusedExisting => simp [state, isSaved] at saved
      | saved =>
        rw [state] at ok
        exact absurd reuses ok.2.1

/-- No permitted call touches a root that is saved. -/
theorem Sound.settled (sound : Sound job start world) {op : CommitOp}
    (permitted : Permitted job start world op) :
    Settled job world (Finalization.answer op world).2 := by
  have before : Settled job world world.next := (sameRecords_next world).settled
  replace sound := sound.quiet (quiet_next world)
  replace permitted := (quiet_next world).permitted permitted
  cases op with
  | removePrivateStagingPath place => exact (removed_sameRecords place world).settled
  | copyTree source destination => exact (copied_sameRecords source destination world).settled
  | removeReservation path => exact (removeReservation_sameRecords path world).settled
  | exclusiveRename source destination =>
    unfold Finalization.answer
    simp only
    split
    · exact before
    · exact before
    · next stored found free never =>
      cases permitted with
      | copy exact =>
        exact (SameRecords.mk rfl rfl : SameRecords world (world.next.move _ _ stored)).settled
      | root planned intended => exact before.trans (settled_move intended)
    · exact before
  | saveEffectLedger roots =>
    unfold Finalization.answer
    simp only
    split
    · exact before.trans (settled_save sound permitted)
    · split
      · exact before.trans (settled_save sound permitted)
      · exact before
  | tryExists | symlinkMetadata | readTree | syncTreeDirectories | syncRenameDirectories
  | reservationExists | fillRandom
  | readReuse =>
    rw [answer_reads rfl]
    exact before

/-- Whatever others do in the target directory, whichever calls fail and wherever the attempts to
commit a job are cut: no object that was there is overwritten, removed or taken away; what is
renamed into the directory is the root that was received, or an exact copy of it, under its planned
name; a root that is not copied is renamed at most once; a root is recorded as saved only once it
was renamed to the name that is recorded, and from then on neither the record nor its renames
change. -/
theorem finalisation_harmless (distinct : (job.manifest.roots.map (·.rootId)).Nodup)
    (fresh : start.Fresh) (reached : Reached job start world) :
    world.harmed = [] ∧
      (∀ source name stored, (source, name, stored) ∈ world.moved →
        ∃ rootId, job.plannedName rootId = some name ∧
        source = job.source rootId ∧ job.Verified start rootId stored) ∧
      (job.plan.mode ≠ .copyAfterVerify → world.sources.Nodup) ∧
      (∀ rootId finalName, world.rootState rootId = .saved .saved finalName → ∃ stored,
        (job.source rootId, finalName, stored) ∈ world.moved ∧
          job.plannedName rootId = some finalName ∧ job.Verified start rootId stored) ∧
      ∀ reuses state rest after, Restored job reuses world state →
        Proc.Reaches diskContract ((commitJob job.manifest job.verifiedEntries).runOn state)
          world rest after →
        Settled job world after := by
  have sound := reached.sound distinct fresh
  refine ⟨sound.harmed, sound.moved, sound.once, fun rootId finalName saved => ?_,
    fun reuses state rest after restored run => ?_⟩
  · have ok := sound.states rootId
    rw [saved] at ok
    obtain ⟨name, stored, listed, planned, verified⟩ := sound.renamed ok.2.2
    obtain rfl := Option.some.inj (planned.symm.trans ok.1)
    exact ⟨stored, listed, planned, verified⟩
  -- A further attempt: what is settled is an invariant of the permitted calls.
  · have preserved : ∀ (between : World) (op : CommitOp) (_ : CommitReply op),
        (Sound job start between ∧ Settled job world between) → Permitted job start between op →
        (Sound job start (answer op between).2 ∧ Settled job world (answer op between).2) :=
      fun _ _ _ holds permitted =>
        ⟨holds.1.answer permitted, holds.2.trans (holds.1.settled permitted)⟩
    have now : Sound job start world ∧ Settled job world world := ⟨sound, fun _ _ => ⟨rfl, rfl⟩⟩
    exact (Proc.Follows.invariant preserved (commitJob_obeys distinct ⟨restored, sound⟩) now run).2

end Safety

/-! ## A note that was renamed when the process ended -/

def noteContentDigest : ByteVector 32 :=
  ⟨[0x2a, 0x36, 0x5a, 0xbc, 0x18, 0x04, 0x6f, 0xd5, 0xf9, 0xbf, 0x24, 0xe9, 0xce, 0xb4, 0x8a, 0x14,
    0x48, 0x6e, 0x7e, 0x3f, 0x24, 0xde, 0x03, 0x99, 0x71, 0xa3, 0xc1, 0xdf, 0x8f, 0x3f, 0x9a, 0xf6],
      rfl⟩

@[reducible] def rootBlake3 : Blake3 where
  hash _ := nothingDigest.bytes
  deriveKey _ _ := noteContentDigest
  keyedHash _ _ := nothingDigest.bytes

attribute [local instance] rootBlake3

def noteReservation : Path := ["downloads", ".envoix-reservations-v2", "0.reservation"]

def noteEntryPaths : List Path := [["notes.txt"]]

theorem noteEntryPaths_complete : noteEntryPaths.length = noteManifest.entries.length := rfl

theorem noteRoots_complete (state : RootSaveStateV2) :
    [state].length = noteManifest.roots.length := rfl

def noteJob : Job where
  plan := {
    jobId := noteManifest.jobId
    generation := 7
    mode := .directSave
    storageDomain := { provider := "unix", opaqueVolumeId := "1", stableObjectIdentity := true }
    planRevision := 1
    rootPlans := [⟨0, "notes.txt"⟩]
    exceptionalTransferApproved := false
    targetDirectory := ["downloads"]
    stagingDirectory := ["downloads", ".envoix-staging-v2", "6a6f622d76322d666978747572652121"]
    reservations := [noteReservation]
    reuseEntryIds := [] }
  manifest := noteManifest
  entryPaths := noteEntryPaths
  entryOverrides := [none]
  verifiedEntries := [⟨0, some nothingDigest, .payloadComplete⟩]
  paths_complete := noteEntryPaths_complete

def noteObject : StoredObject := ⟨.file [], 64769, 7⟩

/-- Someone keeps putting a file of another name into the target directory. -/
def noteDisk : World where
  objects place := if place = .staging 0 then some noteObject else none
  reservations := [noteReservation]
  ledger := none
  moved := []
  harmed := []
  choices _ := {
    meanwhile := [("guest.txt", some ⟨.file [], 64769, 9⟩)]
    fails := none
    leaves := none
    volume := 0
    object := 0
    tookPlace := false
    key := .replicate 16 0x33
    reads := fun _ => [] }
  turn := 0

/-- A provider for the note that has read one state. -/
def noteProvider (state : RootSaveStateV2) : Committing where
  provider := {
    plan := noteJob.plan
    manifest := noteManifest
    entryPaths := noteEntryPaths
    reuseObjects := []
    saveRoots := [state]
    paths_complete := noteEntryPaths_complete
    roots_complete := noteRoots_complete state }
  entryOverrides := [none]

def noteReplies (world : World) (op : CommitOp) : Option (CommitReply op) :=
  some (answer op world).1

theorem noteReplies_allowed (world : World) (op : CommitOp) (reply : CommitReply op)
    (answered : noteReplies world op = some reply) : diskContract.may world op reply :=
  (Option.some.inj answered).symm

/-- The process ends right after the rename. -/
def noteAttempt :=
  Proc.walk diskContract.after noteReplies 8
    ((commitJob noteManifest noteJob.verifiedEntries).runOn (noteProvider .pending)) noteDisk

theorem noteDisk_fresh : noteDisk.Fresh := ⟨rfl, rfl, rfl⟩

theorem noteAttempt_reached : Reached noteJob noteDisk noteAttempt.2 := by
  have run :
    Proc.Reaches diskContract
      ((commitJob noteManifest noteJob.verifiedEntries).runOn (noteProvider .pending))
      noteDisk noteAttempt.1 noteAttempt.2 :=
    Proc.walk_reaches noteReplies_allowed 8 _ _
  exact .attempt .start ⟨rfl, rfl, rfl, rfl, rfl⟩ run

theorem noteAttempt_moved : noteAttempt.2.moved = [(.staging 0, "notes.txt", noteObject)] := by rfl

theorem finalisation_harmless_note :
    noteAttempt.2.harmed = [] ∧ isIntent (noteAttempt.2.rootState 0) = true ∧
      ∃ rootId, noteJob.plannedName rootId = some "notes.txt" ∧
        Place.staging 0 = noteJob.source rootId ∧ noteJob.Verified noteDisk rootId noteObject := by
  have harmless :=
    @finalisation_harmless _ noteJob noteDisk noteAttempt.2 (by decide)
      noteDisk_fresh noteAttempt_reached
  refine ⟨harmless.1, by decide, harmless.2.1 _ _ _ ?_⟩
  rw [noteAttempt_moved]
  exact List.mem_singleton_self _

end Envoix.Transfer.Finalization
