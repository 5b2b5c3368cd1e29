import Envoix.Transfer.FinalizationDisk

/-! # What a finalisation may do to the disk

A rule says which calls a finalisation may make of a disk, and an invariant what every disk
satisfies that such calls lead to.  The calls that the rule permits preserve the invariant,
whatever others do in the target directory. -/

namespace Envoix.Transfer.Finalization

open ByteCodec Fallible Process Process.Method Envoix.Protocol FileSystem

def isIntent : RootSaveStateV2 → Bool
  | .finalizeIntent .. => true
  | .pending | .saved .. => false

/-- What the ledger on the disk says of a root. -/
def World.rootState (world : World) (rootId : UInt32) : RootSaveStateV2 :=
  ((world.ledger.getD [])[rootId.toNat]?).getD .pending

namespace Job

/-- The name that a root gets in the target directory. -/
def plannedName (job : Job) (rootId : UInt32) : Option String :=
  (job.plan.rootPlans[rootId.toNat]?.filter (·.rootId = rootId)).map (·.plannedName)

/-- Where a root is renamed from. -/
def source (job : Job) (rootId : UInt32) : Place := finalizationSourcePath job.plan rootId

/-- An object of the target directory stands in for the root. -/
def Reuses (job : Job) (rootId : UInt32) : Prop :=
  ∃ root ∈ job.manifest.roots, root.rootId = rootId ∧
    ∃ verified, job.verifiedEntries[root.rootEntryId.toNat]? = some verified ∧
      verified.completionChoice = .reuseChosen

/-- A tree is the verified tree of a root. -/
def Exact [Blake3] (job : Job) (rootId : UInt32) (tree : FileTree) : Prop :=
  verifyExactRoot job.manifest job.verifiedEntries job.entryOverrides rootId tree = .ok ()

/-- An object is the root that was received, or an exact copy of it. -/
def Verified [Blake3] (job : Job) (start : World) (rootId : UInt32) (stored : StoredObject) :
    Prop :=
  if job.plan.mode = .copyAfterVerify then job.Exact rootId stored.tree
  else start.objects (.staging rootId) = some stored

end Job

/-- What a recorded identity says of an object. -/
def Job.Identifies [Blake3] (job : Job) (rootId : UInt32) (stored : StoredObject) :
    ObjectIdentityV2 → Prop
  | .stable volume object =>
    job.plan.storageDomain.stableObjectIdentity = true ∧ stored.volume = volume ∧
      stored.object = object
  | .exactContent rootDigest =>
    job.plan.storageDomain.stableObjectIdentity = false ∧
      rootContentDigest job.manifest job.verifiedEntries rootId = .ok rootDigest

/-- The planned names are free at the start, and others leave them alone. -/
structure Job.Undisturbed (job : Job) (start : World) : Prop where
  distinct : ∀ first second name, job.plannedName first = some name →
    job.plannedName second = some name → first = second
  vacant : ∀ rootId name, job.plannedName rootId = some name → start.objects (.target name) = none
  untouched : ∀ rootId name, job.plannedName rootId = some name → start.Untouched name

/-- The roots that were renamed, by their places. -/
def World.sources (world : World) : List Place := world.moved.map Prod.fst

section Places

variable {job : Job} {world left : World}

theorem source_injective {first second : UInt32} (same : job.source first = job.source second) :
    first = second := by
  unfold Job.source finalizationSourcePath at same
  split at same
  · exact Place.copyRoot.inj same
  · exact Place.staging.inj same

theorem source_private (rootId : UInt32) : (job.source rootId).isPrivate = true := by
  unfold Job.source finalizationSourcePath
  split <;> rfl

theorem source_copy (copies : job.plan.mode = .copyAfterVerify) (rootId : UInt32) :
    job.source rootId = .copyRoot rootId := if_pos copies

theorem source_direct (direct : job.plan.mode ≠ .copyAfterVerify) (rootId : UInt32) :
    job.source rootId = .staging rootId := if_neg direct

/-- The private places, the ledger and the records are as they were. -/
structure Quiet (world left : World) : Prop where
  objects : ∀ place : Place, place.isPrivate = true → left.objects place = world.objects place
  ledger : left.ledger = world.ledger
  moved : left.moved = world.moved
  harmed : left.harmed = world.harmed
  choices : left.choices = world.choices
  reservations : left.reservations = world.reservations
  targets : ∀ name, world.Untouched name →
    left.objects (.target name) = world.objects (.target name)

theorem Quiet.untouched (quiet : Quiet world left) {name : String}
    (untouched : world.Untouched name) :
    left.Untouched name := by
  unfold World.Untouched
  rw [quiet.choices]
  exact untouched

theorem Quiet.trans {last : World} (first : Quiet world left) (second : Quiet left last) :
    Quiet world last where
  objects place alone := (second.objects place alone).trans (first.objects place alone)
  ledger := second.ledger.trans first.ledger
  moved := second.moved.trans first.moved
  harmed := second.harmed.trans first.harmed
  choices := second.choices.trans first.choices
  reservations := second.reservations.trans first.reservations
  targets name untouched :=
    (second.targets name (first.untouched untouched)).trans (first.targets name untouched)

theorem quiet_next (world : World) : Quiet world world.next where
  objects _ alone := World.next_objects alone
  ledger := rfl
  moved := rfl
  harmed := rfl
  choices := rfl
  reservations := rfl
  targets _ untouched := World.next_target untouched

theorem Quiet.rootState (quiet : Quiet world left) (rootId : UInt32) :
    left.rootState rootId = world.rootState rootId := by
  simp only [World.rootState, quiet.ledger]

theorem Quiet.sources (quiet : Quiet world left) : left.sources = world.sources := by
  simp only [World.sources, quiet.moved]

end Places

section Safety

variable [Blake3] {job : Job} {start world left : World} {rootId : UInt32}

/-! ## The rule -/

/-- What a call may write into the ledger of a root. -/
inductive Change (job : Job) (start world : World) (rootId : UInt32) : RootSaveStateV2 → Prop where
  | same : Change job start world rootId (world.rootState rootId)
  | intent {expectedObject : ObjectIdentityV2} {plannedName : String} {reservation : Path}
      {key : ByteVector 16} {stored : StoredObject}
      (was : world.rootState rootId = .pending ∨ isIntent (world.rootState rootId) = true)
      (first : job.Undisturbed start → world.rootState rootId = .pending)
      (sent : ¬ job.Reuses rootId) (planned : job.plannedName rootId = some plannedName)
      (reserved : job.plan.reservations[rootId.toNat]? = some reservation)
      (drawn : ∃ turn, (start.choices turn).key = key)
        (held : world.objects (job.source rootId) = some stored)
        (identified : job.Identifies rootId stored expectedObject)
        (exact : job.plan.mode = .copyAfterVerify → job.Exact rootId stored.tree) :
      Change job start world rootId
        (.finalizeIntent expectedObject job.plan.planRevision plannedName reservation key)
  | saved {plannedName : String} (was : isIntent (world.rootState rootId) = true)
      (planned : job.plannedName rootId = some plannedName)
      (renamed : job.source rootId ∈ world.sources) :
      Change job start world rootId (.saved .saved plannedName)
  | reused {finalName : String} (reuses : job.Reuses rootId) :
      Change job start world rootId (.saved .reusedExisting finalName)

/-- A rename that a finalisation may make. -/
inductive Renames (job : Job) (start world : World) : Place → Place → Prop where
  | copy {rootId : UInt32} (first : job.Undisturbed start → world.rootState rootId = .pending)
      (exact : ∀ stored, world.objects (.copyPartial rootId) = some stored →
        job.Exact rootId stored.tree) :
      Renames job start world (.copyPartial rootId) (.copyRoot rootId)
  | root {rootId : UInt32} {name : String} (planned : job.plannedName rootId = some name)
      (intended : isIntent (world.rootState rootId) = true) :
      Renames job start world (job.source rootId) (.target name)

/-- Nothing is left to do for any root. -/
def Job.Settles (job : Job) (world : World) : Prop :=
  ∀ root ∈ job.manifest.roots, isSaved (world.rootState root.rootId) = true ∨
    isReused (world.rootState root.rootId) = true

/-- The calls that a finalisation may make. -/
def Permitted (job : Job) (start world : World) : CommitOp → Prop
  | .removePrivateStagingPath place =>
    (∃ rootId, place = .copyPartial rootId) ∨ ∃ rootId, place = .copyRoot rootId ∧
      world.rootState rootId = .pending
  | .copyTree _ destination => ∃ rootId, destination = .copyPartial rootId
  | .exclusiveRename source destination => Renames job start world source destination
  | .saveEffectLedger roots =>
    ∀ rootId : UInt32, Change job start world rootId (roots[rootId.toNat]?.getD .pending)
  | .removeReservation _ => job.Settles world
  | .tryExists _ | .symlinkMetadata _ | .readTree _ | .syncTreeDirectories _
  | .syncRenameDirectories ..
  | .reservationExists _ | .fillRandom | .readReuse _ => True

/-! ## The invariant -/

/-- What a state of a root says of the disk. -/
def StateOk (job : Job) (start world : World) (rootId : UInt32) : RootSaveStateV2 → Prop
  | .pending => job.source rootId ∉ world.sources
  | .finalizeIntent _ planRevision plannedName reservation key =>
    planRevision = job.plan.planRevision ∧ job.plannedName rootId = some plannedName ∧
      ¬ job.Reuses rootId ∧ job.plan.reservations[rootId.toNat]? = some reservation ∧
      (∃ turn, (start.choices turn).key = key) ∧
        (world.objects (job.source rootId) = none → job.source rootId ∈ world.sources)
  | .saved .saved finalName =>
    job.plannedName rootId = some finalName ∧ ¬ job.Reuses rootId ∧
      job.source rootId ∈ world.sources
  | .saved .reusedExisting _ => job.Reuses rootId ∧ job.source rootId ∉ world.sources

/-- What nobody has disturbed: a root is in its place or under its planned name, and is the object
that its intent identifies. -/
structure Recoverable (job : Job) (world : World) : Prop where
  vacant : ∀ rootId name, job.plannedName rootId = some name → job.source rootId ∉ world.sources →
    world.objects (.target name) = none
  landed : ∀ source name stored, (source, name, stored) ∈ world.moved →
    world.objects (.target name) = some stored
  consumed : ∀ rootId, job.source rootId ∈ world.sources → world.objects (job.source rootId) = none
  identified : ∀ rootId expectedObject planRevision plannedName reservation key stored,
    world.rootState rootId =
      .finalizeIntent expectedObject planRevision plannedName reservation key →
    (world.objects (job.source rootId) = some stored ∨
      (job.source rootId, plannedName, stored) ∈ world.moved) →
    job.Identifies rootId stored expectedObject

structure Sound (job : Job) (start world : World) : Prop where
  choices : world.choices = start.choices
  harmed : world.harmed = []
  moved : ∀ source name stored, (source, name, stored) ∈ world.moved →
    ∃ rootId, job.plannedName rootId = some name ∧ source = job.source rootId ∧
      job.Verified start rootId stored
  copies : ∀ rootId stored, job.plan.mode = .copyAfterVerify →
    world.objects (.copyRoot rootId) = some stored → isIntent (world.rootState rootId) = true →
    job.Exact rootId stored.tree
  kept : ∀ rootId, .staging rootId ∉ world.sources →
    world.objects (.staging rootId) = start.objects (.staging rootId)
  gone : ∀ rootId, .staging rootId ∈ world.sources → world.objects (.staging rootId) = none
  once : job.plan.mode ≠ .copyAfterVerify → world.sources.Nodup
  states : ∀ rootId, StateOk job start world rootId (world.rootState rootId)
  reserved : ¬ job.Settles world → world.reservations = start.reservations
  recoverable : job.Undisturbed start → Recoverable job world

/-- Nothing is moved before the first attempt. -/
theorem World.Fresh.sound (fresh : start.Fresh) : Sound job start start := by
  have none : start.sources = [] := by simp [World.sources, fresh.moved]
  have pending : ∀ rootId, start.rootState rootId = .pending := by
    simp [World.rootState, fresh.ledger]
  exact {
    choices := rfl
    harmed := fresh.harmed
    moved := by simp [fresh.moved]
    copies := fun rootId _ _ _ intended => by simp [pending, isIntent] at intended
    kept := fun _ _ => rfl
    gone := by simp [none]
    once := by simp [none]
    states := fun rootId => by simp [pending, StateOk, none]
    reserved := fun _ => rfl
    recoverable := fun undisturbed => {
      vacant := fun rootId name planned _ => undisturbed.vacant rootId name planned
      landed := by simp [fresh.moved]
      consumed := by simp [none]
      identified := by simp [pending] } }

/-! ## Calls that change nothing of their own -/

omit [Blake3] in
theorem Quiet.stateOk (quiet : Quiet world left) {state : RootSaveStateV2}
    (ok : StateOk job start world rootId state) :
    StateOk job start left rootId state := by
  cases state with
  | pending => simpa only [StateOk, quiet.sources] using ok
  | finalizeIntent =>
    simpa only [StateOk, quiet.sources, quiet.objects _ (source_private rootId)] using ok
  | saved result finalName => cases result <;> simpa only [StateOk, quiet.sources] using ok

omit [Blake3] in
theorem Quiet.settles (quiet : Quiet world left) (settled : job.Settles world) :
    job.Settles left := by
  intro root listed
  rw [quiet.rootState]
  exact settled root listed

theorem Sound.quiet (sound : Sound job start world) (quiet : Quiet world left) :
    Sound job start left where
  choices := quiet.choices.trans sound.choices
  harmed := quiet.harmed.trans sound.harmed
  moved source name stored listed := sound.moved source name stored (quiet.moved ▸ listed)
  copies rootId stored copies found intended :=
    sound.copies rootId stored copies (quiet.objects (.copyRoot rootId) rfl ▸ found)
      (quiet.rootState rootId ▸ intended)
  kept rootId inside :=
    (quiet.objects (.staging rootId) rfl).trans (sound.kept rootId (quiet.sources ▸ inside))
  gone rootId outside :=
    (quiet.objects (.staging rootId) rfl).trans (sound.gone rootId (quiet.sources ▸ outside))
  once direct := quiet.sources ▸ sound.once direct
  states rootId := quiet.rootState rootId ▸ quiet.stateOk (sound.states rootId)
  reserved unsettled :=
    quiet.reservations.trans (sound.reserved fun settled => unsettled (quiet.settles settled))
  recoverable undisturbed := by
    have before := sound.recoverable undisturbed
    have targets : ∀ rootId name, job.plannedName rootId = some name →
        left.objects (.target name) = world.objects (.target name) := by
      intro rootId name planned
      refine quiet.targets name ?_
      unfold World.Untouched
      rw [sound.choices]
      exact undisturbed.untouched rootId name planned
    exact {
      vacant := fun rootId name planned inside =>
        (targets rootId name planned).trans
          (before.vacant rootId name planned (quiet.sources ▸ inside))
      landed := by
        intro source name stored listed
        rw [quiet.moved] at listed
        obtain ⟨rootId, planned, -⟩ := sound.moved source name stored listed
        exact (targets rootId name planned).trans (before.landed source name stored listed)
      consumed := fun rootId outside =>
        (quiet.objects _ (source_private rootId)).trans
          (before.consumed rootId (quiet.sources ▸ outside))
      identified := by
        intro rootId expectedObject planRevision plannedName reservation key stored state found
        rw [quiet.rootState] at state
        rw [quiet.objects _ (source_private rootId), quiet.moved] at found
        exact before.identified _ _ _ _ _ _ _ state found }

/-- An intent is for the planned name of a root that was received, and its source leaves only for
that name. -/
theorem Sound.intended (sound : Sound job start world)
    (intended : isIntent (world.rootState rootId) = true) :
    ∃ name, job.plannedName rootId = some name ∧ ¬ job.Reuses rootId ∧
      (world.objects (job.source rootId) = none → job.source rootId ∈ world.sources) := by
  have ok := sound.states rootId
  cases state : world.rootState rootId with
  | finalizeIntent =>
    rw [state] at ok
    exact ⟨_, ok.2.1, ok.2.2.1, ok.2.2.2.2.2⟩
  | pending | saved => simp [state, isIntent] at intended

/-- A source in the record is that of a root, under its planned name. -/
theorem Sound.renamed (sound : Sound job start world) (listed : job.source rootId ∈ world.sources) :
    ∃ name stored, (job.source rootId, name, stored) ∈ world.moved ∧
      job.plannedName rootId = some name ∧ job.Verified start rootId stored := by
  obtain ⟨⟨source, name, stored⟩, here, rfl⟩ := List.mem_map.mp listed
  obtain ⟨other, planned, same, verified⟩ := sound.moved _ name stored here
  rw [← source_injective same] at planned verified
  exact ⟨name, stored, here, planned, verified⟩

/-! ## Calls that change the disk -/

/-- Something is stored in a copy or a partial copy. -/
theorem Sound.store (sound : Sound job start world) {place : Place} {object : Option StoredObject}
    (copy : (∃ rootId, place = .copyPartial rootId) ∨ ∃ rootId, place = .copyRoot rootId ∧
      (job.Undisturbed start → world.rootState rootId = .pending) ∧
      (world.rootState rootId = .pending ∨ ∃ stored, object = some stored ∧
        job.Exact rootId stored.tree)) :
    Sound job start (world.store place object) := by
  -- Both places are the code's own, so neither a target nor a staged root is touched.
  have alone : place.isPrivate = true := by obtain ⟨_, rfl⟩ | ⟨_, rfl, _, _⟩ := copy <;> rfl
  have staging : ∀ rootId, (world.store place object).objects (.staging rootId) =
      world.objects (.staging rootId) := by
    intro rootId
    refine put_of_ne ?_
    obtain ⟨_, rfl⟩ | ⟨_, rfl, _, _⟩ := copy <;> simp
  -- The source of a root is stored over only while the root is pending, or by an exact copy.
  have sources : ∀ rootId, (world.store place object).objects (job.source rootId) =
      world.objects (job.source rootId) ∨
      world.rootState rootId = .pending ∨
        (job.Undisturbed start → world.rootState rootId = .pending) ∧
        ∃ stored, (world.store place object).objects (job.source rootId) = some stored ∧
          job.Exact rootId stored.tree := by
    intro rootId
    by_cases here : job.source rootId = place
    · obtain ⟨other, rfl⟩ | ⟨other, rfl, first, safe⟩ := copy
      · unfold Job.source finalizationSourcePath at here
        split at here <;> cases here
      · have same : rootId = other := by
          unfold Job.source finalizationSourcePath at here
          split at here <;> cases here
          rfl
        subst same
        obtain pending | ⟨stored, rfl, exact⟩ := safe
        · exact .inr (.inl pending)
        · exact .inr (.inr ⟨first, stored, by rw [here]; exact put_self .., exact⟩)
    · exact .inl (put_of_ne here)
  exact {
    choices := sound.choices
    harmed := (World.store_harmed (.inl alone)).trans sound.harmed
    moved := sound.moved
    copies := by
      intro rootId stored copies found intended
      obtain same | pending | ⟨-, other, other_found, exact⟩ := sources rootId
      · rw [source_copy copies] at same
        exact sound.copies rootId stored copies (same.symm.trans found) intended
      · replace intended : isIntent (world.rootState rootId) = true := intended
        simp [pending, isIntent] at intended
      · rw [source_copy copies] at other_found
        rwa [Option.some.inj (found.symm.trans other_found)]
    kept := fun rootId inside => (staging rootId).trans (sound.kept rootId inside)
    gone := fun rootId outside => (staging rootId).trans (sound.gone rootId outside)
    once := sound.once
    states := by
      intro rootId
      show StateOk job start _ rootId (world.rootState rootId)
      have ok := sound.states rootId
      cases state : world.rootState rootId with
      | pending => rwa [state] at ok
      | finalizeIntent =>
        rw [state] at ok
        refine ⟨ok.1, ok.2.1, ok.2.2.1, ok.2.2.2.1, ok.2.2.2.2.1, fun missing => ?_⟩
        obtain same | pending | ⟨-, stored, found, -⟩ := sources rootId
        · exact ok.2.2.2.2.2 (same.symm.trans missing)
        · rw [state] at pending
          cases pending
        · rw [missing] at found
          cases found
      | saved result finalName =>
        rw [state] at ok
        cases result <;> exact ok
    reserved := sound.reserved
    recoverable := by
      intro undisturbed
      have before := sound.recoverable undisturbed
      have targets : ∀ name, (world.store place object).objects (.target name) =
          world.objects (.target name) := by
        intro name
        refine put_of_ne ?_
        rintro rfl
        cases alone
      exact {
        vacant := fun rootId name planned inside =>
          (targets name).trans (before.vacant rootId name planned inside)
        landed := fun source name stored listed =>
          (targets name).trans (before.landed source name stored listed)
        -- A source once consumed belongs to a root that is decided.
        consumed := by
          intro rootId outside
          have unpended : world.rootState rootId ≠ .pending := by
            intro pending
            have ok := sound.states rootId
            rw [pending] at ok
            exact ok outside
          obtain same | pending | ⟨first, -⟩ := sources rootId
          · exact same.trans (before.consumed rootId outside)
          · exact absurd pending unpended
          · exact absurd (first undisturbed) unpended
        identified := by
          intro rootId expectedObject planRevision plannedName reservation key stored state found
          replace state :
            world.rootState rootId =
              .finalizeIntent expectedObject planRevision plannedName reservation key :=
            state
          obtain same | pending | ⟨first, -⟩ := sources rootId
          · rw [same] at found
            exact before.identified _ _ _ _ _ _ _ state found
          · rw [state] at pending
            cases pending
          · have pending := first undisturbed
            rw [state] at pending
            cases pending } }

/-- The source of an intended root is renamed to its planned name. -/
theorem Sound.rename (sound : Sound job start world) {name : String} {stored : StoredObject}
    (planned : job.plannedName rootId = some name)
    (intended : isIntent (world.rootState rootId) = true)
    (found : world.objects (job.source rootId) = some stored)
    (free : world.objects (.target name) = none) :
    Sound job start (world.move (job.source rootId) (.target name) stored) := by
  have ok := sound.states rootId
  have decided : world.rootState rootId ≠ .pending := by
    intro pending
    simp [pending, isIntent] at intended
  have sources : (world.move (job.source rootId) (.target name) stored).sources = world.sources ++
      [job.source rootId] := by
    simp [World.move, World.sources]
  have differs : ∀ place : Place, place.isPrivate = true → place ≠ .target name := by
    rintro place alone rfl
    cases alone
  have objects : ∀ place : Place, place.isPrivate = true → place ≠ job.source rootId →
      (world.move (job.source rootId) (.target name) stored).objects place =
        world.objects place := by
    intro place alone other
    simp [World.move, put_of_ne (differs place alone), put_of_ne other]
  have missing :
      (world.move (job.source rootId) (.target name) stored).objects (job.source rootId) =
          none := by
    simp [World.move, put_of_ne (differs _ (source_private rootId))]
  have fresh : job.plan.mode ≠ .copyAfterVerify → job.source rootId ∉ world.sources := by
    intro direct listed
    rw [source_direct direct] at listed found
    rw [sound.gone rootId listed] at found
    cases found
  exact {
    choices := sound.choices
    harmed := by
      have first : (world.store (job.source rootId) none).harmed = [] :=
        (World.store_harmed (.inl (source_private rootId))).trans sound.harmed
      have vacant : (world.store (job.source rootId) none).objects (.target name) = none :=
        (put_of_ne (differs _ (source_private rootId)).symm).trans free
      show ((world.store (job.source rootId) none).store (.target name) (some stored)).harmed = []
      rw [World.store_harmed (.inr vacant), first]
    moved := by
      intro source other object listed
      have cases : (source, other, object) ∈ world.moved ++ [(job.source rootId, name, stored)] :=
        listed
      obtain before | now := List.mem_append.mp cases
      · exact sound.moved source other object before
      · cases List.mem_singleton.mp now
        refine ⟨rootId, planned, rfl, ?_⟩
        unfold Job.Verified
        split
        -- the copy was compared before the intent was saved
        next copies =>
          rw [source_copy copies] at found
          exact sound.copies rootId stored copies found intended
        next direct =>
          have unmoved := fresh direct
          rw [source_direct direct] at found unmoved
          exact (sound.kept rootId unmoved).symm.trans found
    copies := by
      intro other object copies copied intended
      by_cases same : other = rootId
      · subst same
        have copyless := (congrArg _ (source_copy copies other)).symm.trans missing
        exact absurd (copyless.symm.trans copied) (by simp)
      · have apart : Place.copyRoot other ≠ job.source rootId := by
          rw [source_copy copies]
          exact fun equal => same (Place.copyRoot.inj equal)
        exact sound.copies other object copies ((objects _ rfl apart).symm.trans copied) intended
    kept := by
      intro other inside
      rw [sources, List.mem_append, not_or, List.mem_singleton] at inside
      exact (objects _ rfl inside.2).trans (sound.kept other inside.1)
    gone := by
      intro other outside
      rw [sources, List.mem_append, List.mem_singleton] at outside
      obtain here | elsewhere := decEq (Place.staging other) (job.source rootId)
      · exact (objects _ rfl here).trans (sound.gone other (outside.resolve_right here))
      · rw [elsewhere]
        exact missing
    once := by
      intro direct
      rw [sources]
      exact List.nodup_append.mpr ⟨sound.once direct, List.nodup_singleton _, by
        intro place listed other same
        rw [List.mem_singleton.mp same]
        rintro rfl
        exact fresh direct listed⟩
    states := by
      intro other
      show StateOk job start _ other (world.rootState other)
      by_cases same : other = rootId
      · subst same
        cases state : world.rootState other with
        | pending => exact absurd state decided
        | finalizeIntent =>
          rw [state] at ok
          refine ⟨ok.1, ok.2.1, ok.2.2.1, ok.2.2.2.1, ok.2.2.2.2.1, fun _ => ?_⟩
          rw [sources]
          exact List.mem_append_right _ (List.mem_singleton_self _)
        | saved => simp [state, isIntent] at intended
      · have apart : job.source other ≠ job.source rootId := fun equal =>
          same (source_injective equal)
        have listed :
            job.source other ∈ (world.move (job.source rootId) (.target name) stored).sources ↔
            job.source other ∈ world.sources := by
          rw [sources, List.mem_append, List.mem_singleton]
          exact or_iff_left apart
        have unchanged := objects _ (source_private other) apart
        have ok := sound.states other
        cases state : world.rootState other with
        | pending => simpa only [StateOk, listed, state] using ok
        | finalizeIntent => simpa only [StateOk, listed, unchanged, state] using ok
        | saved result finalName => cases result <;> simpa only [StateOk, listed, state] using ok
    reserved := sound.reserved
    recoverable := by
      intro undisturbed
      have before := sound.recoverable undisturbed
      have targets : ∀ other, other ≠ name →
          (world.move (job.source rootId) (.target name) stored).objects (.target other) =
            world.objects (.target other) := by
        intro other apart
        have first : Place.target other ≠ .target name := fun same => apart (Place.target.inj same)
        have second : Place.target other ≠ job.source rootId := by
          intro same
          have alone : (job.source rootId).isPrivate = true := source_private rootId
          rw [← same] at alone
          cases alone
        simp [World.move, put_of_ne first, put_of_ne second]
      exact {
        -- distinct roots have distinct planned names
        vacant := by
          intro other otherName otherPlanned inside
          rw [sources, List.mem_append, not_or, List.mem_singleton] at inside
          have apart : otherName ≠ name := by
            rintro rfl
            exact inside.2 (congrArg _ (undisturbed.distinct _ _ _ otherPlanned planned))
          exact (targets _ apart).trans (before.vacant other otherName otherPlanned inside.1)
        landed := by
          intro source other object listed
          have cases :
            (source, other, object) ∈ world.moved ++ [(job.source rootId, name, stored)] := listed
          obtain earlier | now := List.mem_append.mp cases
          · have there := before.landed source other object earlier
            have apart : other ≠ name := by
              rintro rfl
              exact absurd (there.symm.trans free) (by simp)
            exact (targets _ apart).trans there
          · cases List.mem_singleton.mp now
            simp [World.move]
        consumed := by
          intro other outside
          rw [sources, List.mem_append, List.mem_singleton] at outside
          by_cases same : job.source other = job.source rootId
          · exact (congrArg _ same).trans missing
          · exact (objects _ (source_private other) same).trans
              (before.consumed other (outside.resolve_right same))
        identified := by
          intro other expectedObject planRevision plannedName reservation key object state present
          replace state :
            world.rootState other =
              .finalizeIntent expectedObject planRevision plannedName reservation key :=
            state
          refine before.identified _ _ _ _ _ _ _ state ?_
          obtain there | recorded := present
          · by_cases same : job.source other = job.source rootId
            · rw [same, missing] at there
              cases there
            · exact .inl ((objects _ (source_private other) same).symm.trans there)
          · have cases :
              (job.source other, plannedName, object) ∈ world.moved ++
                [(job.source rootId, name, stored)] :=
              recorded
            obtain earlier | now := List.mem_append.mp cases
            · exact .inr earlier
            · have same := List.mem_singleton.mp now
              simp only [Prod.mk.injEq] at same
              rw [same.1, same.2.2]
              exact .inl found } }

/-- The reservations are given up once nothing is left to do. -/
theorem Sound.unreserved (sound : Sound job start world) (settled : job.Settles world)
    (reservations : List Path) :
    Sound job start { world with reservations } where
  choices := sound.choices
  harmed := sound.harmed
  moved := sound.moved
  copies := sound.copies
  kept := sound.kept
  gone := sound.gone
  once := sound.once
  states := sound.states
  reserved unsettled := absurd settled unsettled
  recoverable undisturbed :=
    ⟨(sound.recoverable undisturbed).vacant, (sound.recoverable undisturbed).landed,
    (sound.recoverable undisturbed).consumed, (sound.recoverable undisturbed).identified⟩

/-- What is done for a root stays done. -/
theorem Change.done {state : RootSaveStateV2} (change : Change job start world rootId state)
    (done : isSaved (world.rootState rootId) = true ∨ isReused (world.rootState rootId) = true) :
    isSaved state = true ∨ isReused state = true := by
  have unfinished :
      ¬ (world.rootState rootId = .pending ∨ isIntent (world.rootState rootId) = true) := by
    cases now : world.rootState rootId <;> simp [now, isIntent, isSaved, isReused] at done ⊢
  cases change with
  | same => exact done
  | intent was => exact absurd was unfinished
  | saved => exact .inl rfl
  | reused => exact .inr rfl

/-- A permitted change of the ledger is written. -/
theorem Sound.save (sound : Sound job start world) {roots : List RootSaveStateV2}
    (changes : ∀ rootId : UInt32,
      Change job start world rootId (roots[rootId.toNat]?.getD .pending)) :
    Sound job start { world with ledger := some roots } := by
  have ok :
      ∀ rootId : UInt32, StateOk job start world rootId (roots[rootId.toNat]?.getD .pending) := by
    intro rootId
    have now := sound.states rootId
    generalize written : roots[rootId.toNat]?.getD .pending = state
    have change := changes rootId
    rw [written] at change
    cases change with
    | same => exact now
    | intent was first sent planned reserved drawn held identified exact =>
      exact ⟨rfl, planned, sent, reserved, drawn,
        fun missing => absurd (held.symm.trans missing) (by simp)⟩
    -- only an intent becomes saved, and its own facts carry over
    | saved was planned renamed =>
      cases state : world.rootState rootId with
      | finalizeIntent =>
        rw [state] at now
        exact ⟨planned, now.2.2.1, renamed⟩
      | pending | saved => simp [state, isIntent] at was
    | reused reuses =>
      refine ⟨reuses, ?_⟩
      cases state : world.rootState rootId with
      | pending =>
        rw [state] at now
        exact now
      | finalizeIntent =>
        rw [state] at now
        exact absurd reuses now.2.2.1
      | saved result finalName =>
        rw [state] at now
        cases result with
        | saved => exact absurd reuses now.2.1
        | reusedExisting => exact now.2
  exact {
    choices := sound.choices
    harmed := sound.harmed
    moved := sound.moved
    copies := by
      intro rootId stored copies found intended
      have change := changes rootId
      replace intended : isIntent (roots[rootId.toNat]?.getD .pending) = true := intended
      generalize roots[rootId.toNat]?.getD .pending = written at change intended
      cases change with
      | same => exact sound.copies rootId stored copies found intended
      | intent was first sent planned reserved drawn held identified exact =>
        rw [source_copy copies] at held
        rw [Option.some.inj (found.symm.trans held)]
        exact exact copies
      | saved | reused => simp [isIntent] at intended
    kept := sound.kept
    gone := sound.gone
    once := sound.once
    states := ok
    reserved := by
      intro unsettled
      refine sound.reserved fun settled => unsettled fun root listed => ?_
      exact (changes root.rootId).done (settled root listed)
    recoverable := by
      intro undisturbed
      have before := sound.recoverable undisturbed
      refine ⟨before.vacant, before.landed, before.consumed, ?_⟩
      intro rootId expectedObject planRevision plannedName reservation key stored state present
      have change := changes rootId
      rw [show roots[rootId.toNat]?.getD .pending = _ from state] at change
      have now := sound.states rootId
      generalize written :
        RootSaveStateV2.finalizeIntent expectedObject planRevision plannedName reservation key =
          intent
        at change
      cases change with
      | same => exact before.identified _ _ _ _ _ _ _ written.symm present
      | intent was first sent planned reserved drawn held identified exact =>
        obtain ⟨rfl, -⟩ := RootSaveStateV2.finalizeIntent.inj written
        obtain there | recorded := present
        · rwa [Option.some.inj (there.symm.trans held)]
        · rw [first undisturbed] at now
          exact absurd (List.mem_map_of_mem recorded) now
      | saved | reused => cases written }

/-! ## Every permitted call -/

theorem Quiet.change (quiet : Quiet world left) {state : RootSaveStateV2}
    (change : Change job start world rootId state) :
    Change job start left rootId state := by
  cases change with
  | same =>
    rw [← quiet.rootState]
    exact .same
  | intent was first sent planned reserved drawn held identified exact =>
    rw [← quiet.rootState rootId] at was first
    exact .intent was first sent planned reserved drawn
      ((quiet.objects _ (source_private rootId)).trans held) identified
      exact
  | saved was planned renamed =>
    exact .saved (quiet.rootState rootId ▸ was) planned (quiet.sources ▸ renamed)
  | reused reuses => exact .reused reuses

theorem Quiet.renames (quiet : Quiet world left) {source destination : Place}
    (renames : Renames job start world source destination) :
    Renames job start left source destination := by
  cases renames with
  | copy first exact =>
    rw [← quiet.rootState] at first
    exact .copy first fun stored found => exact stored ((quiet.objects _ rfl).symm.trans found)
  | root planned intended => exact .root planned (quiet.rootState _ ▸ intended)

theorem Quiet.permitted (quiet : Quiet world left) {op : CommitOp}
    (permitted : Permitted job start world op) :
    Permitted job start left op := by
  cases op with
  | removePrivateStagingPath place =>
    obtain part | ⟨rootId, copy, pending⟩ := permitted
    · exact .inl part
    · exact .inr ⟨rootId, copy, (quiet.rootState rootId).trans pending⟩
  | copyTree source destination => exact permitted
  | exclusiveRename source destination => exact quiet.renames permitted
  | saveEffectLedger roots => exact fun rootId => quiet.change (permitted rootId)
  | removeReservation path => exact quiet.settles permitted
  | tryExists | symlinkMetadata | readTree | syncTreeDirectories | syncRenameDirectories
  | reservationExists
  | fillRandom | readReuse => trivial

/-- The calls that only look. -/
def CommitOp.reads : CommitOp → Bool
  | .tryExists _ | .symlinkMetadata _ | .readTree _ | .syncTreeDirectories _
  | .syncRenameDirectories ..
  | .reservationExists _ | .fillRandom | .readReuse _ => true
  | .removePrivateStagingPath _ | .copyTree .. | .exclusiveRename .. | .removeReservation _
  | .saveEffectLedger _ => false

omit [Blake3] in
theorem answer_reads {op : CommitOp} (reads : op.reads = true) (world : World) :
    (answer op world).2 = world.next := by
  cases op with
  | symlinkMetadata place | readTree place =>
    unfold answer
    simp only
    split <;> rfl
  | syncTreeDirectories place =>
    unfold answer
    simp only
    split
    · rfl
    · split <;> rfl
  | tryExists | syncRenameDirectories | reservationExists | fillRandom | readReuse => rfl
  | removePrivateStagingPath | copyTree | exclusiveRename | removeReservation
  | saveEffectLedger => cases reads

/-- Whatever a permitted call is answered, the invariant holds after it. -/
theorem Sound.answer (sound : Sound job start world) {op : CommitOp}
    (permitted : Permitted job start world op) :
    Sound job start (answer op world).2 := by
  replace sound := sound.quiet (quiet_next world)
  replace permitted := (quiet_next world).permitted permitted
  cases op with
  | removePrivateStagingPath place =>
    have stored : ∀ object, Sound job start (world.next.store place object) := by
      intro object
      obtain part | ⟨rootId, copy, pending⟩ := permitted
      · exact sound.store (.inl part)
      · exact sound.store (.inr ⟨rootId, copy, fun _ => pending, .inl pending⟩)
    unfold Finalization.answer
    simp only
    split
    · exact sound
    · exact stored none
    · exact stored _
  | copyTree source destination =>
    have stored : ∀ object, Sound job start (world.next.store destination object) := fun object =>
      sound.store (.inl permitted)
    unfold Finalization.answer
    simp only
    split
    · exact sound
    · exact stored _
    · exact stored _
  | exclusiveRename source destination =>
    unfold Finalization.answer
    simp only
    split
    · exact sound
    · exact sound
    · next stored found free _ =>
      cases permitted with
      | @copy rootId first exact =>
        have removed : Sound job start (world.next.store (.copyPartial rootId) none) :=
          sound.store (.inl ⟨rootId, rfl⟩)
        exact removed.store (.inr ⟨rootId, rfl, first, .inr ⟨stored, rfl, exact stored found⟩⟩)
      | root planned intended => exact sound.rename planned intended found free
    · exact sound
  | removeReservation path =>
    unfold Finalization.answer
    simp only
    split
    · exact sound
    · split
      · exact sound.unreserved permitted _
      · exact sound
  | saveEffectLedger roots =>
    unfold Finalization.answer
    simp only
    split
    · exact sound.save permitted
    · split
      · exact sound.save permitted
      · exact sound
  | tryExists | symlinkMetadata | readTree | syncTreeDirectories | syncRenameDirectories
  | reservationExists | fillRandom
  | readReuse =>
    rw [answer_reads rfl]
    exact sound

end Safety

end Envoix.Transfer.Finalization
