import Envoix.Foundation.CallSuccess
import Envoix.Transfer.FinalizationSafety

/-! # An interrupted finalisation can be resumed

Where nobody disturbs the planned names, an attempt none of whose calls fails commits the job,
whatever became of the attempts before it. -/

namespace Envoix.Transfer.Finalization

open ByteCodec Fallible Process Process.Method Envoix.Protocol FileSystem

/-! ## What is given -/

/-- The manifest has passed validation, the verified entries and the built names are in its order,
and every root has a name. -/
structure Job.Canonical (job : Job) : Prop where
  root_ids : ∀ (position : Nat) (root : ManifestRootV2), job.manifest.roots[position]? = some root →
    root.rootId.toNat = position
  entry_ids : ∀ (position : Nat) (entry : ManifestEntryV2),
    job.manifest.entries[position]? = some entry →
    entry.entryId.toNat = position
  entry_roots : ∀ entry ∈ job.manifest.entries, ∃ root,
    job.manifest.roots[entry.rootId.toNat]? = some root
  root_entries : ∀ root ∈ job.manifest.roots, ∃ entry,
    job.manifest.entries[root.rootEntryId.toNat]? = some entry ∧
    entry.rootId = root.rootId
  verified_ids : ∀ (position : Nat) (verified : VerifiedEntryV2),
    job.verifiedEntries[position]? = some verified →
    verified.entryId.toNat = position
  verified_length : job.verifiedEntries.length = job.manifest.entries.length
  overrides_length : job.entryOverrides.length = job.manifest.entries.length
  planned : ∀ root ∈ job.manifest.roots, ∃ name, job.plannedName root.rootId = some name

theorem Job.Canonical.distinct {job : Job} (canonical : job.Canonical) :
    (job.manifest.roots.map (·.rootId)).Nodup := by
  rw [List.nodup_iff_injective_getElem]
  intro first second same
  simp only [List.getElem_map] at same
  have left := canonical.root_ids first _ (List.getElem?_eq_getElem (by simpa using first.2))
  have right := canonical.root_ids second _ (List.getElem?_eq_getElem (by simpa using second.2))
  rw [same] at left
  exact Fin.ext (left.symm.trans right)

/-- The roots that are sent are staged as they were verified, the names are reserved, and the keys
that are drawn are not zero. -/
structure Job.Supplied [Blake3] (job : Job) (start : World) : Prop where
  staged : ∀ root ∈ job.manifest.roots, ¬ job.Reuses root.rootId →
    ∃ stored, start.objects (.staging root.rootId) = some stored ∧ job.Exact root.rootId stored.tree
  reserved : ∀ root ∈ job.manifest.roots, ∃ reservation,
    job.plan.reservations[root.rootId.toNat]? = some reservation ∧ reservation ∈ start.reservations
  drawn : ∀ turn, (start.choices turn).key ≠ ByteVector.zero 16

/-- No call fails from now on. -/
structure Clear (start world : World) : Prop where
  choices : world.choices = start.choices
  calm : ∀ turn, world.turn ≤ turn → (start.choices turn).fails = none

/-- The objects that stand in for entries are at hand, and will be found unchanged. -/
def Intact [Blake3] (job : Job) (start : World) (reuses : List (UInt32 × ReuseObject))
    (turn : Nat) : Prop :=
  ∀ verified ∈ job.verifiedEntries, verified.completionChoice = .reuseChosen →
    ∃ reuse, reuses.lookup verified.entryId = some reuse ∧ ∀ later, turn ≤ later →
      ((start.choices later).reads verified.entryId).length = reuse.size ∧
        (⟨Blake3.hash ((start.choices later).reads verified.entryId)⟩ : ContentDigestV2) =
          reuse.digest

/-! ## Calls that do not fail -/

section Calls

variable {start world : World}

/-- A call takes one choice, and leaves the rest. -/
theorem answer_clock (op : CommitOp) (world : World) :
    (answer op world).2.choices = world.choices ∧ (answer op world).2.turn = world.turn + 1 := by
  cases op with
  | removePrivateStagingPath | copyTree | exclusiveRename | saveEffectLedger =>
    unfold answer
    simp only
    split <;> simp
    all_goals (split <;> simp)
  | removeReservation path =>
    unfold answer
    simp only
    split
    · simp
    · split <;> simp
  | tryExists | symlinkMetadata | readTree | syncTreeDirectories | syncRenameDirectories
  | reservationExists | fillRandom
  | readReuse =>
    rw [answer_reads rfl]
    exact ⟨rfl, rfl⟩

namespace Clear

theorem after (clear : Clear start world) (op : CommitOp) : Clear start (answer op world).2 where
  choices := (answer_clock op world).1.trans clear.choices
  calm turn later := clear.calm turn (by rw [(answer_clock op world).2] at later; omega)

theorem next (clear : Clear start world) : Clear start world.next where
  choices := clear.choices
  calm turn later := clear.calm turn (Nat.le_of_succ_le later)

theorem fails (clear : Clear start world) : world.choice.fails = none := by
  rw [World.choice, clear.choices]
  exact clear.calm _ (Nat.le_refl _)

theorem reply (clear : Clear start world) {α : Type} (value : α) :
    world.choice.reply value = .ok value := by
  rw [Choice.reply, clear.fails]

end Clear

/-- A call that succeeds. -/
theorem attempt_achieves {α : Type} {wrap : IoError → CommitFailure} {op : CommitOp}
    {same : CommitReply op = Except IoError α} {post : α → Committing → World → Prop}
    {state : Committing} {value : α} (replied : cast same (answer op world).1 = .ok value)
    (next : post value state (answer op world).2) :
    (attempt wrap op same).Achieves diskContract post state world := by
  unfold attempt
  rw [achieves_bind, achieves_perform]
  intro reply given
  rw [achieves_raise, show reply = (answer op world).1 from given]
  exact ⟨value, mapErr_eq_ok.mpr replied, next⟩

theorem look_achieves {α : Type} {wrap : IoError → CommitFailure} {op : CommitOp}
    {same : CommitReply op = Except IoError α} {post : α → Committing → World → Prop}
    {state : Committing} {value : α} (reads : op.reads = true)
    (replied : cast same (answer op world).1 = .ok value) (next : post value state world.next) :
    (attempt wrap op same).Achieves diskContract post state world :=
  attempt_achieves replied (answer_reads reads world ▸ next)

theorem Clear.tryExists (clear : Clear start world) (place : Place) :
    (answer (.tryExists place) world).1 = .ok (world.next.objects place).isSome := clear.reply _

theorem Clear.symlinkMetadata (clear : Clear start world) {place : Place} {stored : StoredObject}
    (found : world.next.objects place = some stored) :
    (answer (.symlinkMetadata place) world).1 = .ok stored.identity := by
  unfold answer
  simp only [found]
  exact clear.reply _

theorem Clear.readTree (clear : Clear start world) {place : Place} {stored : StoredObject}
    (found : world.next.objects place = some stored) :
    (answer (.readTree place) world).1 = .ok stored.tree := by
  unfold answer
  simp only [found]
  exact clear.reply _

theorem Clear.syncTree (clear : Clear start world) {place : Place} {stored : StoredObject}
    (found : world.next.objects place = some stored) (plain : stored.identity.isSymlink = false) :
    (answer (.syncTreeDirectories place) world).1 = .ok () := by
  unfold answer
  simp only [found, plain]
  exact clear.reply _

theorem Clear.syncRename (clear : Clear start world) (source destination : Place) :
    (answer (.syncRenameDirectories source destination) world).1 = .ok () := clear.reply _

/-- A private place is cleared, and the other ones stay. -/
theorem Clear.removed (clear : Clear start world) (place : Place) :
    (answer (.removePrivateStagingPath place) world).1 = .ok () ∧
      (answer (.removePrivateStagingPath place) world).2.objects place = none ∧
      ∀ other : Place, other.isPrivate = true → other ≠ place →
        (answer (.removePrivateStagingPath place) world).2.objects other = world.objects other := by
  unfold answer
  simp only
  cases found : world.next.objects place with
  | none => exact ⟨clear.reply _, found, fun other private_ _ => World.next_objects private_⟩
  | some stored =>
    rw [clear.fails]
    exact ⟨rfl, put_self .., fun other private_ apart =>
      (put_of_ne apart).trans (World.next_objects private_)⟩

theorem Clear.copied (clear : Clear start world) {source destination : Place}
    {stored : StoredObject} (found : world.next.objects source = some stored) :
    (answer (.copyTree source destination) world).1 = .ok () ∧
      (answer (.copyTree source destination) world).2 =
        world.next.store destination
          (some ⟨stored.tree, world.choice.volume, world.choice.object⟩) := by
  unfold answer
  simp only [found, clear.fails]
  exact ⟨trivial, trivial⟩

theorem Clear.renamed (clear : Clear start world) {source destination : Place}
    {stored : StoredObject} (found : world.next.objects source = some stored)
    (free : world.next.objects destination = none) :
    (answer (.exclusiveRename source destination) world).1 = .ok () ∧
      (answer (.exclusiveRename source destination) world).2 =
        world.next.move source destination stored := by
  unfold answer
  simp only [found, free, clear.fails]
  exact ⟨trivial, trivial⟩

theorem Clear.saved (clear : Clear start world) (roots : List RootSaveStateV2) :
    (answer (.saveEffectLedger roots) world).1 = .ok () := by
  unfold answer
  simp only [clear.fails]

end Calls

/-! ## Trees that are exact -/

section Trees

variable [Blake3] {job : Job} {rootId : UInt32}

omit [Blake3] in
theorem mem_foldlM {α β ε : Type} {step : β → α → Except ε β} {elements : List α} {first last : β}
    {element : α} (folds : elements.foldlM step first = .ok last) (listed : element ∈ elements) :
    ∃ before after, step before element = .ok after := by
  induction elements generalizing first with
  | nil => cases listed
  | cons head rest ih =>
    rw [List.foldlM_cons] at folds
    obtain ⟨between, stepped, rests⟩ := bind_eq_ok.mp folds
    obtain rfl | later := List.mem_cons.mp listed
    · exact ⟨first, between, stepped⟩
    · exact ih rests later

/-- How a look at a tree fails where another tree is exact. -/
def Differs (failure : CommitFailure) : Prop :=
  failure = .lateCollision ∨ failure = destinationIo .notFound

theorem verifyFound_file {entry : ManifestEntryV2} {content : Bytes}
    (kind : entry.kind = .regularFile) {done : Unit}
    (exact : verifyFound job.verifiedEntries entry (.file content) = .ok done) :
    ∃ verified expected, job.verifiedEntries[entry.entryId.toNat]? = some verified ∧
      verified.finalDigest = some expected := by
  unfold verifyFound at exact
  rw [kind] at exact
  simp only at exact
  split at exact
  · cases exact
  · obtain ⟨verified, found, rest⟩ := bind_eq_ok.mp exact
    obtain ⟨expected, digested, -⟩ := bind_eq_ok.mp rest
    exact ⟨verified, expected, okOr_eq_ok.mp found, okOr_eq_ok.mp digested⟩

/-- Where one object is as it should be, another is or is not. -/
theorem verifyFound_other {entry : ManifestEntryV2} {found : FileTree} {done : Unit}
    (exact : verifyFound job.verifiedEntries entry found = .ok done) (other : FileTree) :
    verifyFound job.verifiedEntries entry other = .ok () ∨
      verifyFound job.verifiedEntries entry other = .error .lateCollision := by
  cases kind : entry.kind with
  | directory =>
    unfold verifyFound
    rw [kind]
    cases other with
    | directory children => exact .inl rfl
    | file | symlink | special => exact .inr rfl
  | regularFile =>
    cases found with
    | file content =>
      obtain ⟨verified, expected, present, digested⟩ := verifyFound_file kind exact
      unfold verifyFound
      rw [kind]
      cases other with
      | file content =>
        simp only [present, digested, okOr, ok_bind]
        split
        · exact .inr rfl
        · split
          · exact .inr rfl
          · exact .inl rfl
      | directory | symlink | special => exact .inr rfl
    | directory | symlink | special =>
      unfold verifyFound at exact
      rw [kind] at exact
      cases exact

/-- Which paths are looked at does not depend on the tree. -/
theorem verifyEntry_other {tree : FileTree} {root : ManifestRootV2}
    {placed after : List (UInt32 × Path)} {entry : ManifestEntryV2}
    (exact : verifyEntry job.manifest job.verifiedEntries job.entryOverrides tree root placed
      entry = .ok after)
    (other : FileTree) :
    verifyEntry job.manifest job.verifiedEntries job.entryOverrides other root placed entry =
      .ok after ∨
      ∃ failure, Differs failure ∧
        verifyEntry job.manifest job.verifiedEntries job.entryOverrides other root placed entry =
          .error failure := by
  unfold verifyEntry at exact ⊢
  obtain ⟨path, placedAt, rest⟩ := bind_eq_ok.mp exact
  obtain ⟨found, present, rest⟩ := bind_eq_ok.mp rest
  obtain ⟨done, checked, returned⟩ := bind_eq_ok.mp rest
  rw [placedAt, ok_bind]
  cases there : other.find? path with
  | none => exact .inr ⟨_, .inr rfl, rfl⟩
  | some object =>
    rw [okOr, ok_bind]
    obtain same | differs := verifyFound_other checked object
    · rw [same, ok_bind]
      exact .inl returned
    · rw [differs]
      exact .inr ⟨_, .inl rfl, rfl⟩

theorem verifyEntries_other {tree : FileTree} {root : ManifestRootV2}
    {entries : List ManifestEntryV2} {placed after : List (UInt32 × Path)}
    (exact : entries.foldlM
      (verifyEntry job.manifest job.verifiedEntries job.entryOverrides tree root) placed =
        .ok after)
    (other : FileTree) :
    entries.foldlM (verifyEntry job.manifest job.verifiedEntries job.entryOverrides other root)
      placed = .ok after ∨
      ∃ failure, Differs failure ∧
        entries.foldlM (verifyEntry job.manifest job.verifiedEntries job.entryOverrides other root)
          placed =
          .error failure := by
  induction entries generalizing placed with
  | nil => exact .inl exact
  | cons entry rest ih =>
    rw [List.foldlM_cons] at exact ⊢
    obtain ⟨between, first, later⟩ := bind_eq_ok.mp exact
    obtain same | ⟨failure, differs, failed⟩ := verifyEntry_other first other
    · rw [same, ok_bind]
      exact ih later
    · rw [failed]
      exact .inr ⟨failure, differs, rfl⟩

/-- Where the verified tree of a root is known to exist, any other tree is exact or differs from
it. -/
theorem exact_or_differs {tree : FileTree} (exact : job.Exact rootId tree) (other : FileTree) :
    job.Exact rootId other ∨ ∃ failure, Differs failure ∧
      verifyExactRoot job.manifest job.verifiedEntries job.entryOverrides rootId other =
        .error failure := by
  unfold Job.Exact verifyExactRoot at exact
  unfold Job.Exact verifyExactRoot
  obtain ⟨root, known, rest⟩ := bind_eq_ok.mp exact
  obtain ⟨placed, folded, rest⟩ := bind_eq_ok.mp rest
  obtain ⟨rootEntry, present, -⟩ := bind_eq_ok.mp rest
  rw [known, ok_bind]
  obtain same | ⟨failure, differs, failed⟩ := verifyEntries_other folded other
  · rw [same, ok_bind, present, ok_bind]
    split
    · exact .inr ⟨_, .inl rfl, rfl⟩
    · exact .inl rfl
  · rw [failed]
    exact .inr ⟨failure, differs, rfl⟩

/-- The verified tree of a root is no link. -/
theorem exact_plain {root : ManifestRootV2} {stored : StoredObject} (canonical : job.Canonical)
    (listed : root ∈ job.manifest.roots) (exact : job.Exact root.rootId stored.tree) :
    stored.identity.isSymlink = false := by
  obtain ⟨entry, present, own⟩ := canonical.root_entries root listed
  obtain ⟨position, found⟩ := List.getElem?_of_mem listed
  have here := canonical.root_ids position root found
  unfold Job.Exact verifyExactRoot at exact
  obtain ⟨known, kept, rest⟩ := bind_eq_ok.mp exact
  obtain ⟨placed, folded, -⟩ := bind_eq_ok.mp rest
  have same : known = root := by
    have filtered := (Option.filter_eq_some_iff.mp (okOr_eq_ok.mp kept)).1
    rw [here, found] at filtered
    exact (Option.some.inj filtered).symm
  subst same
  have inside : entry ∈ job.manifest.entries.filter (·.rootId = known.rootId) :=
    List.mem_filter.mpr ⟨List.mem_of_getElem? present, by simpa using own⟩
  obtain ⟨before, after, checked⟩ := mem_foldlM folded inside
  unfold verifyEntry at checked
  obtain ⟨path, placedAt, rest⟩ := bind_eq_ok.mp checked
  obtain ⟨object, there, rest⟩ := bind_eq_ok.mp rest
  obtain ⟨done, verified, -⟩ := bind_eq_ok.mp rest
  have first : entry.entryId = known.rootEntryId :=
    UInt32.toNat_inj.mp (canonical.entry_ids _ entry present)
  unfold entryPath at placedAt
  rw [if_pos first] at placedAt
  obtain rfl := Except.ok.inj placedAt
  have whole : stored.tree = object := by
    have top := okOr_eq_ok.mp there
    unfold FileTree.find? at top
    exact Option.some.inj top
  unfold StoredObject.identity
  rw [whole]
  cases object with
  | symlink =>
    unfold verifyFound at verified
    cases kind : entry.kind <;> simp [kind] at verified
  | file | directory | special => rfl

/-- Every entry is verified, so that the digest of a root can be computed. -/
theorem rootContentDigest_ok (canonical : job.Canonical) (rootId : UInt32) :
    ∃ digest, rootContentDigest job.manifest job.verifiedEntries rootId = .ok digest := by
  suffices contents :
      ∀ entries : List ManifestEntryV2, (∀ entry ∈ entries, entry ∈ job.manifest.entries) →
      ∃ bytes, entries.mapM (entryContent job.verifiedEntries) = .ok bytes by
    obtain ⟨bytes, collected⟩ := contents (job.manifest.entries.filter (·.rootId = rootId))
      fun entry listed => (List.mem_filter.mp listed).1
    unfold rootContentDigest
    rw [collected]
    exact ⟨_, rfl⟩
  intro entries known
  induction entries with
  | nil => exact ⟨[], rfl⟩
  | cons entry rest ih =>
    obtain ⟨bytes, collected⟩ := ih fun other listed => known other (List.mem_cons_of_mem _ listed)
    obtain ⟨position, inside, rfl⟩ := List.getElem_of_mem (known entry List.mem_cons_self)
    have here := canonical.entry_ids position _ (List.getElem?_eq_getElem inside)
    have covered : position < job.verifiedEntries.length := canonical.verified_length.symm ▸ inside
    have verified := canonical.verified_ids position _ (List.getElem?_eq_getElem covered)
    have found : job.verifiedEntries[job.manifest.entries[position].entryId.toNat]?.filter
        (·.entryId = job.manifest.entries[position].entryId) =
            some job.verifiedEntries[position] := by
      rw [here, List.getElem?_eq_getElem covered]
      refine Option.filter_eq_some_iff.mpr ⟨rfl, ?_⟩
      simpa using UInt32.toNat_inj.mp (verified.trans here.symm)
    have head : ∃ content, entryContent job.verifiedEntries job.manifest.entries[position] =
        .ok content := by
      unfold entryContent
      rw [found]
      exact ⟨_, rfl⟩
    obtain ⟨content, done⟩ := head
    refine ⟨content :: bytes, ?_⟩
    rw [List.mapM_cons, done, ok_bind, collected]
    rfl

end Trees

end Envoix.Transfer.Finalization
