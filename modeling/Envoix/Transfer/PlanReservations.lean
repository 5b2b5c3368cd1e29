import Envoix.Protocol.OfferCodec
import Envoix.Transfer.DestinationPlan

/-! # Reservations of a plan that fails

`create` makes the reservation files one root at a time and takes none back when a later root, the
search for reusable objects or the storage domain fails.  So a failed call leaves the reservation
files as they were exactly when it makes none, or when nothing after the first can fail. -/

namespace Envoix.Transfer

open ByteCodec Fallible Process Process.Method Envoix.Protocol FileSystem

/-- The reservation files of a disk. -/
def reservationFiles (files : Files) : Set Path :=
  { path | (∃ (target : Path) (digits : String),
    path = (target.join ".envoix-reservations-v2").join (digits ++ ".reservation")) ∧
      files path ≠ .missing }

section Claims

variable (system : PlanSystem) [names : ProviderNames] [Blake3]

/-- Where a name is reserved. -/
def place (directory : Path) (name : String) : Path :=
  reservationPath directory (names.nameEquivalenceKey name)

/-- No object of the target has the name and nobody has reserved it. -/
def Available (directory : Path) (occupied : List String) (files : Files) (name : String) : Bool :=
  names.nameEquivalenceKey name ∉ occupied ∧ files (place directory name) = .missing

/-- The text of a reservation reaches the disk. -/
def Stores (path : Path) : Prop := system.writeAll path = none ∧ system.syncAll path = none

/-! ## One root -/

/-- The ways in which one root may be given the first available one of its candidates: the name it
is given, and the disk it leaves. -/
inductive Claim (directory : Path) (occupied : List String) (files : Files)
    (candidates : List String) :
    Option String → Files → Prop where
  | refused (taken : candidates.find? (Available directory occupied files) = none) :
      Claim directory occupied files candidates none files
  | unopened {name : String} {error : IoError}
      (first : candidates.find? (Available directory occupied files) = some name)
      (fails : system.openNew (place directory name) = some error) :
      Claim directory occupied files candidates none files
  | unwritten {name : String} {content : Bytes}
      (first : candidates.find? (Available directory occupied files) = some name)
      (opens : system.openNew (place directory name) = none)
      (fails : ¬ Stores system (place directory name)) :
      Claim directory occupied files candidates none (files.put (place directory name)
        (.file content))
  | granted {name : String} {content : Bytes}
      (first : candidates.find? (Available directory occupied files) = some name)
      (opens : system.openNew (place directory name) = none)
      (stores : Stores system (place directory name)) :
      Claim directory occupied files candidates (some name)
        (files.put (place directory name) (.file content))

section Opening

variable {α : Type} {path : Path} {files : Files} (next : CreateNew → PlanMethod α)

omit names [Blake3]

theorem createNew_present (present : files path ≠ .missing) :
    (createNew system path >>= next).runOn files = (next .alreadyExists).runOn files := by
  have found : (createNew system path).runOn files = (.ok .alreadyExists, files) := by
    simp [createNew, present]
    rfl
  exact runOn_bind_of_ok next found

theorem createNew_refused {error : IoError} (missing : files path = .missing)
    (fails : system.openNew path = some error) :
    (createNew system path >>= next).runOn files = (next (.refused error)).runOn files := by
  have found : (createNew system path).runOn files = (.ok (.refused error), files) := by
    simp [createNew, missing, fails]
    rfl
  exact runOn_bind_of_ok next found

theorem createNew_created (missing : files path = .missing) (opens : system.openNew path = none) :
    (createNew system path >>= next).runOn files =
      (next .created).runOn (files.put path (.file [])) := by
  have found : (createNew system path).runOn files = (.ok .created, files.put path (.file [])) := by
    simp [createNew, missing, opens]
    rfl
  exact runOn_bind_of_ok next found

end Opening

omit names [Blake3] in
/-- Whether or not the text arrives, the new file stays. -/
theorem runOn_writeReservation (path : Path) (jobId : JobIdV2) (rootId : UInt32) (files : Files) :
    ∃ result content, (writeReservation system path jobId rootId).runOn files =
      (result, files.put path (.file content)) ∧
      (result.isOk = true ↔ Stores system path) := by
  unfold writeReservation Stores
  cases writes : system.writeAll path with
  | some failure => exact ⟨.error _, _, rfl, by simp [Except.isOk, Except.toBool]⟩
  | none =>
    cases syncs : system.syncAll path with
    | some error => exact ⟨.error _, _, rfl, by simp [Except.isOk, Except.toBool]⟩
    | none => exact ⟨.ok (), _, rfl, by simp [Except.isOk, Except.toBool]⟩

omit names [Blake3] in
/-- The end of a reservation whose file has just been made. -/
theorem runOn_written {α : Type} (path : Path) (jobId : JobIdV2) (rootId : UInt32) (files : Files)
    (value : α) :
    ∃ content, ((do writeReservation system path jobId rootId; return value) : PlanMethod α).runOn
        (files.put path (.file [])) = (.ok value, files.put path (.file content)) ∧
          Stores system path ∨
      ∃ failure, ((do writeReservation system path jobId rootId; return value) : PlanMethod α).runOn
        (files.put path (.file [])) = (.error failure, files.put path (.file content)) ∧
          ¬ Stores system path := by
  obtain ⟨result, content, written, stores⟩ :=
    runOn_writeReservation system path jobId rootId (files.put path (.file []))
  rw [Files.put_put] at written
  refine ⟨content, ?_⟩
  cases result with
  | ok done => exact .inl ⟨runOn_bind_of_ok _ written, stores.mp rfl⟩
  | error failure =>
    refine .inr ⟨failure, runOn_bind_of_error _ written, ?_⟩
    intro holds
    cases stores.mpr holds

variable {system} {directory : Path} {occupied : List String} {files left : Files}

/-- A candidate that is taken is passed over. -/
theorem Claim.skip {candidate : String} {candidates : List String} {claimed : Option String}
    (taken : Available directory occupied files candidate = false)
    (claim : Claim system directory occupied files candidates claimed left) :
    Claim system directory occupied files (candidate :: candidates) claimed left := by
  cases claim with
  | refused none => exact .refused (by simpa [List.find?_cons, taken] using none)
  | unopened first fails => exact .unopened (by simpa [List.find?_cons, taken] using first) fails
  | unwritten first opens fails =>
    exact .unwritten (by simpa [List.find?_cons, taken] using first) opens fails
  | granted first opens stores =>
    exact .granted (by simpa [List.find?_cons, taken] using first) opens stores

theorem available_of_missing {name : String} (fresh : names.nameEquivalenceKey name ∉ occupied)
    (missing : files (place directory name) = .missing) :
    Available directory occupied files name = true := by
  simp [Available, fresh, missing]

theorem not_available_of_occupied {name : String}
    (taken : names.nameEquivalenceKey name ∈ occupied) :
    Available directory occupied files name = false := by
  simp [Available, taken]

theorem not_available_of_present {name : String}
    (present : files (place directory name) ≠ .missing) :
    Available directory occupied files name = false := by
  simp [Available, present]

variable (system directory occupied files)

theorem reserveSuffixes_claim (base : String) (preserveExtension : Bool) (jobId : JobIdV2)
    (rootId : UInt32) (suffixes : List Nat) :
    ∃ outcome left,
      (reserveSuffixes system directory base preserveExtension occupied jobId rootId suffixes).runOn
        files
        = (outcome, left) ∧
      Claim system directory occupied files (suffixes.map (candidateName base preserveExtension))
        (outcome.toOption.map Prod.fst) left ∧
      ∀ name reservation after, outcome = .ok (name, reservation, after) →
        after = names.nameEquivalenceKey name :: occupied := by
  induction suffixes with
  | nil => exact ⟨.error (.failed .nameExhausted), files, rfl, .refused rfl, nofun⟩
  | cons suffix rest ih =>
    obtain ⟨outcome, left, runs, claim, after⟩ := ih
    unfold reserveSuffixes
    rw [List.map_cons]
    generalize candidateName base preserveExtension suffix = candidate
    by_cases taken : names.nameEquivalenceKey candidate ∈ occupied
    · refine ⟨outcome, left, ?_, claim.skip (not_available_of_occupied taken), after⟩
      simp only [taken, if_true]
      exact runs
    simp only [taken, if_false]
    by_cases missing : files (place directory candidate) = .missing
    · have first : (candidate :: rest.map (candidateName base preserveExtension)).find?
          (Available directory occupied files) = some candidate := by
        simp [available_of_missing taken missing]
      cases opens : system.openNew (place directory candidate) with
      | some error =>
        exact ⟨.error (.failed (.io error)), files, createNew_refused system _ missing opens,
          .unopened first opens, nofun⟩
      | none =>
        obtain ⟨content, ⟨written, stores⟩ | ⟨failure, written, fails⟩⟩ := runOn_written system
          (place directory candidate) jobId rootId files
          (candidate, place directory candidate, names.nameEquivalenceKey candidate :: occupied)
        · refine ⟨.ok _, _, (createNew_created system _ missing opens).trans written,
            .granted first opens stores, ?_⟩
          intro name reservation after same
          cases same
          rfl
        · exact ⟨.error failure, _, (createNew_created system _ missing opens).trans written,
            .unwritten first opens fails, nofun⟩
    · exact ⟨outcome, left, (createNew_present system _ missing).trans runs,
        claim.skip (not_available_of_present missing), after⟩

theorem reserveExactName_claim (plannedName : String) (jobId : JobIdV2) (rootId : UInt32) :
    ∃ outcome left,
      (reserveExactName system directory plannedName occupied jobId rootId).runOn files
        = (outcome, left) ∧
      Claim system directory occupied files [plannedName]
      (outcome.toOption.map fun _ => plannedName) left ∧
      ∀ reservation after, outcome = .ok (reservation, after) →
        after = names.nameEquivalenceKey plannedName :: occupied := by
  unfold reserveExactName
  by_cases taken : names.nameEquivalenceKey plannedName ∈ occupied
  · refine ⟨.error (.failed .destinationContended), files, ?_, .refused ?_, nofun⟩
    · simp only [taken, if_true]
      rfl
    · simp [not_available_of_occupied taken]
  simp only [taken, if_false]
  by_cases missing : files (place directory plannedName) = .missing
  · have first : [plannedName].find? (Available directory occupied files) = some plannedName := by
      simp [available_of_missing taken missing]
    cases opens : system.openNew (place directory plannedName) with
    | some error =>
      exact ⟨.error (.failed (.io error)), files, createNew_refused system _ missing opens,
        .unopened first opens, nofun⟩
    | none =>
      obtain ⟨content, ⟨written, stores⟩ | ⟨failure, written, fails⟩⟩ := runOn_written system
        (place directory plannedName) jobId rootId files
        (place directory plannedName, names.nameEquivalenceKey plannedName :: occupied)
      · refine ⟨.ok _, _, (createNew_created system _ missing opens).trans written,
          .granted first opens stores, ?_⟩
        intro reservation after same
        cases same
        rfl
      · exact ⟨.error failure, _, (createNew_created system _ missing opens).trans written,
          .unwritten first opens fails, nofun⟩
  · refine ⟨.error (.failed .destinationContended), files, createNew_present system _ missing,
      .refused ?_, nofun⟩
    simp [not_available_of_present missing]

/-! ## All roots -/

/-- The runs of a loop over the roots, each with its candidates (`none` where the entry of the root
is missing): whether the loop comes to its end, and the disk it leaves. -/
inductive Claims (directory : Path) : List String → Files → List (Option (List String)) → Bool →
    Files → Prop where
  | done {occupied : List String} {files : Files} : Claims directory occupied files [] true files
  | missing {occupied : List String} {files : Files} {rest : List (Option (List String))} :
      Claims directory occupied files (none :: rest) false files
  | failed {occupied : List String} {files left : Files} {candidates : List String}
      {rest : List (Option (List String))}
      (claim : Claim system directory occupied files candidates none left) :
      Claims directory occupied files (some candidates :: rest) false left
  | next {occupied : List String} {files between left : Files} {candidates : List String}
      {name : String} {rest : List (Option (List String))} {complete : Bool}
      (claim : Claim system directory occupied files candidates (some name) between)
      (others : Claims directory (names.nameEquivalenceKey name :: occupied)
        between rest complete left) :
      Claims directory occupied files (some candidates :: rest) complete left

/-- The candidates of a preplanned root. -/
def preplannedWish (root : RootPlanV2) : Option (List String) := some [root.plannedName]

/-- The candidates of a root of the manifest. -/
def requestedWish (manifest : ManifestV2) (root : ManifestRootV2) : Option (List String) :=
  manifest.entries[root.rootEntryId.toNat]?.map fun entry =>
    (List.range 10000).map (candidateName (names.providerSafeComponent root.requestedName)
      (entry.kind = .regularFile))

theorem reservePreplanned_claims (jobId : JobIdV2) (roots : List RootPlanV2) :
    ∀ (occupied : List String) (files : Files), ∃ outcome left,
      (reservePreplanned system directory jobId occupied roots).runOn files = (outcome, left) ∧
        Claims system directory occupied files (roots.map preplannedWish) outcome.isOk left := by
  induction roots with
  | nil => exact fun occupied files => ⟨.ok ([], []), files, rfl, .done⟩
  | cons root rest ih =>
    intro occupied files
    obtain ⟨outcome, between, runs, claim, after⟩ :=
      reserveExactName_claim system directory occupied files root.plannedName jobId root.rootId
    unfold reservePreplanned
    cases outcome with
    | error failure => exact ⟨.error failure, between, runOn_bind_of_error _ runs, .failed claim⟩
    | ok reserved =>
      obtain ⟨reservation, occupied'⟩ := reserved
      cases after reservation occupied' rfl
      rw [runOn_bind_of_ok _ runs]
      obtain ⟨outcome, left, others, claims⟩ :=
        ih (names.nameEquivalenceKey root.plannedName :: occupied) between
      cases outcome with
      | error failure =>
        exact ⟨.error failure, left, runOn_bind_of_error _ others, .next claim claims⟩
      | ok found => exact ⟨.ok _, left, runOn_bind_of_ok _ others, .next claim claims⟩

theorem reserveRequested_claims (manifest : ManifestV2) (roots : List ManifestRootV2) :
    ∀ (occupied : List String) (files : Files), ∃ outcome left,
      (reserveRequested system directory manifest occupied roots).runOn files = (outcome, left) ∧
        Claims system directory occupied files (roots.map (requestedWish manifest))
          outcome.isOk left := by
  induction roots with
  | nil => exact fun occupied files => ⟨.ok ([], []), files, rfl, .done⟩
  | cons root rest ih =>
    intro occupied files
    unfold reserveRequested
    rw [List.map_cons]
    unfold requestedWish
    cases found : manifest.entries[root.rootEntryId.toNat]? with
    | none => exact ⟨.error .panic, files, rfl, .missing⟩
    | some entry =>
      obtain ⟨outcome, between, runs, claim, after⟩ :=
        reserveSuffixes_claim system directory occupied files
        (names.providerSafeComponent root.requestedName)
          (entry.kind = .regularFile) manifest.jobId root.rootId
        (List.range 10000)
      have indexed : (raise (okOr (some entry) .panic) : PlanMethod ManifestEntryV2).runOn files =
        (.ok entry, files) :=
        rfl
      rw [runOn_bind_of_ok _ indexed]
      cases outcome with
      | error failure => exact ⟨.error failure, between, runOn_bind_of_error _ runs, .failed claim⟩
      | ok reserved =>
        obtain ⟨name, reservation, occupied'⟩ := reserved
        cases after name reservation occupied' rfl
        obtain ⟨outcome, left, others, claims⟩ :=
          ih (names.nameEquivalenceKey name :: occupied) between
        rw [runOn_bind_of_ok _
          (show (reserveKeepBothName system directory _ _ occupied _ _).runOn files = _ from runs)]
        cases outcome with
        | error failure =>
          exact ⟨.error failure, left, runOn_bind_of_error _ others, .next claim claims⟩
        | ok plans => exact ⟨.ok _, left, runOn_bind_of_ok _ others, .next claim claims⟩

/-- The first root has an available candidate whose reservation file can be opened. -/
def MakesOne : List (Option (List String)) → Prop
  | some candidates :: _ =>
    ∃ name, candidates.find? (Available directory occupied files) = some name ∧
      system.openNew (place directory name) = none
  | _ => False

/-- Every root has a candidate that is available and not given to an earlier root (`made` are their
reservations), and the reservation file of the first one such can be opened and written. -/
def AllGranted : List Path → List (Option (List String)) → Prop
  | _, [] => True
  | made, wish :: rest => ∃ candidates name, wish = some candidates ∧
      candidates.find? (fun name => Available directory occupied files name &&
        place directory name ∉ made) = some name ∧
      system.openNew (place directory name) = none ∧ Stores system (place directory name) ∧
      AllGranted (place directory name :: made) rest

variable {system directory occupied files}

theorem Claim.keeps_present {candidates : List String} {claimed : Option String} {path : Path}
    (claim : Claim system directory occupied files candidates claimed left)
    (present : files path ≠ .missing) :
    left path ≠ .missing := by
  have stays : ∀ (name : String) (content : Bytes),
      files.put (place directory name) (.file content) path ≠ .missing := by
    intro name content missing
    exact present ((Files.put_eq_missing_iff (by simp)).mp missing).1
  cases claim with
  | refused => exact present
  | unopened => exact present
  | unwritten => exact stays _ _
  | granted => exact stays _ _

theorem Claims.keeps_present {wishes : List (Option (List String))} {complete : Bool} {path : Path}
    (claims : Claims system directory occupied files wishes complete left)
    (present : files path ≠ .missing) :
    left path ≠ .missing := by
  induction claims with
  | done => exact present
  | missing => exact present
  | failed claim => exact claim.keeps_present present
  | next claim _ ih => exact ih (claim.keeps_present present)

/-- Where the first root gets a file, the call has made one that was not there. -/
theorem Claims.makes {wishes : List (Option (List String))} {complete : Bool}
    (claims : Claims system directory occupied files wishes complete left)
    (makes : MakesOne system directory occupied files wishes) :
    ∃ name, files (place directory name) = .missing ∧ left (place directory name) ≠ .missing := by
  have available {name : String} {candidates : List String}
      (first : candidates.find? (Available directory occupied files) = some name) :
      files (place directory name) = .missing := by
    have holds := List.find?_some first
    simp only [Available, decide_eq_true_eq] at holds
    exact holds.2
  cases claims with
  | done => exact makes.elim
  | missing => exact makes.elim
  | failed claim =>
    obtain ⟨name, first, opens⟩ := makes
    cases claim with
    | refused none => rw [none] at first; cases first
    | unopened other fails =>
      cases first.symm.trans other
      rw [opens] at fails
      cases fails
    | unwritten other _ _ => exact ⟨_, available other, by simp⟩
  | next claim others =>
    cases claim with
    | granted first _ _ => exact ⟨_, available first, others.keeps_present (by simp)⟩

theorem Claims.unchanged {wishes : List (Option (List String))} {complete : Bool}
    (claims : Claims system directory occupied files wishes complete left)
    (none : ¬ MakesOne system directory occupied files wishes) : left = files := by
  cases claims with
  | done => rfl
  | missing => rfl
  | failed claim =>
    cases claim with
    | refused => rfl
    | unopened => rfl
    | unwritten first opens _ => exact absurd ⟨_, first, opens⟩ none
  | next claim _ =>
    cases claim with
    | granted first opens _ => exact absurd ⟨_, first, opens⟩ none

/-- Once a name is reserved, the names with the same place are no longer available. -/
theorem available_reserved (name other : String) (content : Bytes) :
    Available directory (names.nameEquivalenceKey name :: occupied)
      (files.put (place directory name) (.file content)) other =
      (Available directory occupied files other &&
        place directory other ≠ place directory name) := by
  have apart (differ : place directory other ≠ place directory name) :
      names.nameEquivalenceKey other ≠ names.nameEquivalenceKey name := by
    intro same
    exact differ (congrArg (reservationPath directory) same)
  rw [Bool.eq_iff_iff]
  simp only [Available, List.mem_cons, not_or,
    Files.put_eq_missing_iff (show Node.file content ≠ .missing by simp), decide_eq_true_eq,
    Bool.and_eq_true]
  constructor
  · intro ⟨⟨_, fresh⟩, missing, differ⟩
    exact ⟨⟨fresh, missing⟩, differ⟩
  · intro ⟨⟨fresh, missing⟩, differ⟩
    exact ⟨⟨apart differ, fresh⟩, missing, differ⟩

/-- The loop comes to its end exactly when every root is granted a name.  The names still
available are those available at first whose places no earlier root has taken. -/
theorem Claims.complete_iff {wishes : List (Option (List String))} {complete : Bool}
    {made : List Path} {occupied' : List String} {files' : Files}
    (tracks : ∀ name, Available directory occupied' files' name =
      (Available directory occupied files name && place directory name ∉ made))
    (claims : Claims system directory occupied' files' wishes complete left) :
    complete = true ↔ AllGranted system directory occupied files made wishes := by
  have search :
      (fun name => Available directory occupied files name &&
        decide (place directory name ∉ made)) =
      Available directory occupied' files' := by
    funext name
    exact (tracks name).symm
  induction claims generalizing made with
  | done => simp [AllGranted]
  | missing => simp [AllGranted]
  | failed claim =>
    simp only [Bool.false_eq_true, false_iff]
    rintro ⟨candidates, name, same, first, opens, stores, _⟩
    cases same
    rw [search] at first
    cases claim with
    | refused none => rw [none] at first; cases first
    | unopened other fails =>
      cases first.symm.trans other
      rw [opens] at fails
      cases fails
    | unwritten other _ fails =>
      cases first.symm.trans other
      exact fails stores
  | @next taken held between _ _ name _ _ claim _ ih =>
    cases claim with
    | @granted _ content first opens stores =>
      have tracked : ∀ other, Available directory (names.nameEquivalenceKey name :: taken)
          (held.put (place directory name) (.file content)) other =
            (Available directory occupied files other &&
              place directory other ∉ place directory name :: made) := by
        intro other
        rw [available_reserved, tracks other, Bool.and_assoc, Bool.and_comm (decide _)]
        simp only [List.mem_cons, not_or, ne_eq, Bool.decide_and]
      apply (ih tracked (funext fun other => (tracked other).symm)).trans
      constructor
      · intro others
        exact ⟨_, name, rfl, by rw [search]; exact first, opens, stores, others⟩
      · rintro ⟨candidates, other, same, found, _, _, others⟩
        cases same
        rw [search] at found
        cases first.symm.trans found
        exact others

end Claims

/-- Both decisions end in an exclusive rename. -/
theorem chooseMode_supported {decision : DestinationDecisionV2} {supported : Bool}
    {mode : DestinationModeV2} (chosen : chooseMode decision supported = .ok mode) :
    supported = true := by
  cases supported with
  | true => rfl
  | false => cases decision <;> cases chosen

section Create

variable (system : PlanSystem) [names : ProviderNames] [Blake3]
variable (offer : ManifestOfferV2) (request : DestinationRequestV2)

/-! ## Reaching the reservations -/

omit [Blake3] in
/-- The request passes every check that comes before the reservations: `copyStaging` is its
canonical copy directory, `available` the capacity of the target and `sameDomain` whether target
and copy directory share it. -/
structure Admits (copyStaging : Option Path) (available : UInt64) (sameDomain : Bool)
    (prepared : Prepared) :
    Prop where
  target_created : system.createDirAll .target request.targetDirectory = .ok ()
  target_resolved :
    system.canonicalize .target request.targetDirectory = .ok prepared.targetDirectory
  copy_resolved : canonicalCopyStaging system request = .ok copyStaging
  capacity : request.targetAllocatableBytes = some available
  exceptional : prepared.exceptionalTransfer = isExceptional offer.manifest available
  approved : prepared.exceptionalTransfer = true → request.exceptionalTransferApproved = true
  renames : system.exclusiveRenameSupported = true
  probed : system.exclusiveRenameProbe prepared.targetDirectory = .ok true
  mode : chooseMode request.decision true = .ok prepared.mode
  domain : copyStagingDomain system prepared.targetDirectory prepared.mode copyStaging =
    .ok sameDomain
  space : validateSpace offer.manifest request prepared.mode sameDomain = .ok ()
  staging :
    stagingDirectoryOf offer.manifest.jobId prepared.targetDirectory prepared.mode copyStaging =
    .ok prepared.stagingDirectory
  staging_created : system.createDirAll .staging prepared.stagingDirectory = .ok ()
  staging_private : system.restrictPrivateDirectory prepared.stagingDirectory = .ok ()
  reservations_created : system.createDirAll .reservations prepared.reservationDirectory = .ok ()
  reservations_private : system.restrictPrivateDirectory prepared.reservationDirectory = .ok ()
  listed : destinationNames system prepared.targetDirectory = .ok prepared.occupiedNames

omit [Blake3] in
theorem prepare_eq_ok {prepared : Prepared} :
    prepare system offer request = .ok prepared ↔
      ∃ copyStaging available sameDomain,
        Admits system offer request copyStaging available sameDomain prepared := by
  unfold prepare
  simp only [bind_eq_ok, mapErr_eq_ok, okOr_eq_ok, ite_eq_ok, throw_eq_ok, pure_eq_ok,
    exists_unit, false_and, and_false, false_or]
  constructor
  · rintro ⟨targetCreated, target, targetResolved, copyStaging, copyResolved, available, capacity,
      approved, supported⟩
    obtain ⟨renames, directSupported, probed, mode, chosen, sameDomain, domain, space, directory,
      staging, stagingCreated, stagingPrivate, reservationsCreated, reservationsPrivate, occupied,
      listed, rfl⟩ |
      ⟨_, _, rfl, mode, chosen, _⟩ := supported
    · cases chooseMode_supported chosen
      refine ⟨copyStaging, available, sameDomain,
        ⟨targetCreated, targetResolved, copyResolved, capacity, rfl, ?_, renames, probed, chosen,
          domain, space, staging, stagingCreated, stagingPrivate, reservationsCreated,
          reservationsPrivate,
        listed⟩⟩
      intro exceptional
      by_contra refused
      exact approved ⟨exceptional, refused⟩
    · cases chooseMode_supported chosen
  · rintro ⟨copyStaging, available, sameDomain, admits⟩
    obtain ⟨target, mode, exceptional, staging, occupied⟩ := prepared
    cases admits.exceptional
    refine ⟨admits.target_created, target, admits.target_resolved, copyStaging,
      admits.copy_resolved, available, admits.capacity, ?_,
        .inl ⟨admits.renames, true, admits.probed, mode, admits.mode, sameDomain, admits.domain,
          admits.space, staging, admits.staging, admits.staging_created, admits.staging_private,
        admits.reservations_created, admits.reservations_private, occupied, admits.listed, rfl⟩⟩
    intro ⟨large, refused⟩
    exact refused (admits.approved large)

/-- The candidates of the roots, in the order in which `create` reserves names for them; a plan
that came with the request has to fit the manifest. -/
inductive Wishes : List (Option (List String)) → Prop where
  | preplanned {roots : List RootPlanV2} (given : request.preplannedRootNames = some roots)
      (valid : validatePreplannedRoots offer.manifest roots = .ok ()) :
      Wishes (roots.map preplannedWish)
  | requested (given : request.preplannedRootNames = none) :
      Wishes (offer.manifest.roots.map (requestedWish offer.manifest))

theorem reserveRoots_invalid {roots : List RootPlanV2} {error : DestinationPlanErrorV2}
    (prepared : Prepared) (files : Files) (given : request.preplannedRootNames = some roots)
    (invalid : validatePreplannedRoots offer.manifest roots = .error error) :
    (reserveRoots system offer request prepared).runOn files = (.error (.failed error), files) := by
  simp only [reserveRoots, given, invalid]
  rfl

theorem reserveRoots_claims {wishes : List (Option (List String))} (prepared : Prepared)
    (files : Files) (wanted : Wishes offer request wishes) :
    ∃ outcome left, (reserveRoots system offer request prepared).runOn files = (outcome, left) ∧
      Claims system prepared.reservationDirectory prepared.occupiedNames files wishes
        outcome.isOk left := by
  cases wanted with
  | @preplanned roots given valid =>
    have start : (reserveRoots system offer request prepared).runOn files =
        (reservePreplanned system prepared.reservationDirectory offer.manifest.jobId
          prepared.occupiedNames roots).runOn
          files := by
      simp only [reserveRoots, given, valid]
      rfl
    rw [start]
    exact reservePreplanned_claims system prepared.reservationDirectory
      offer.manifest.jobId roots _ _
  | requested given =>
    simp only [reserveRoots, given]
    exact reserveRequested_claims system prepared.reservationDirectory offer.manifest
      offer.manifest.roots _ _

/-- The search for reusable objects and the storage domain do not fail. -/
def Finishes (prepared : Prepared) : Prop :=
  (∃ reusable,
    discoverKnownReuseEntries system offer prepared.targetDirectory request.stableObjectIdentity =
    .ok reusable) ∧
  ∃ domain, localStorageDomain system .domain prepared.targetDirectory
    request.stableObjectIdentity = .ok domain

theorem finishPlan_isOk (prepared : Prepared) (rootPlans : List RootPlanV2)
    (reservations : List Path) :
    (finishPlan system offer request prepared rootPlans reservations).isOk = true ↔
      Finishes system offer request prepared := by
  unfold finishPlan Finishes
  cases discoverKnownReuseEntries system offer prepared.targetDirectory
      request.stableObjectIdentity with
  | error failure => simp [Except.isOk, Except.toBool]
  | ok reusable =>
    cases localStorageDomain system .domain prepared.targetDirectory
      request.stableObjectIdentity <;>
      simp [Except.isOk, Except.toBool, mapErr]

/-! ## Whole calls -/

/-- The call has come to the names of the roots. -/
def Reaches (prepared : Prepared) (wishes : List (Option (List String))) : Prop :=
  (∃ copyStaging available sameDomain,
    Admits system offer request copyStaging available sameDomain prepared) ∧
    Wishes offer request wishes

theorem create_reaching {prepared : Prepared} {wishes : List (Option (List String))} (files : Files)
    (reaches : Reaches system offer request prepared wishes) :
    ∃ complete outcome left, (DestinationWritePlanV2.create system offer request).runOn files =
      (outcome, left) ∧
      Claims system prepared.reservationDirectory prepared.occupiedNames files wishes
        complete left ∧
      (outcome.isOk = true ↔ complete = true ∧ Finishes system offer request prepared) := by
  obtain ⟨admitted, wanted⟩ := reaches
  have ready :
      (raise (mapErr .failed (prepare system offer request)) : PlanMethod Prepared).runOn files =
      (.ok prepared, files) := by
    rw [(prepare_eq_ok system offer request).mpr admitted]
    rfl
  obtain ⟨outcome, left, reserves, claims⟩ :=
    reserveRoots_claims system offer request prepared files wanted
  unfold DestinationWritePlanV2.create
  rw [runOn_bind_of_ok _ ready]
  cases outcome with
  | error failure =>
    exact ⟨false, .error failure, left, runOn_bind_of_error _ reserves, claims,
      by simp [Except.isOk, Except.toBool]⟩
  | ok planned =>
    obtain ⟨rootPlans, reservations⟩ := planned
    refine ⟨true, _, left, runOn_bind_of_ok _ reserves, claims, ?_⟩
    simp only [true_and]
    exact finishPlan_isOk system offer request prepared rootPlans reservations

theorem create_not_reaching (files : Files)
    (refused : ∀ prepared wishes, ¬ Reaches system offer request prepared wishes) :
    ∃ failure, (DestinationWritePlanV2.create system offer request).runOn files =
      (.error failure, files) := by
  unfold DestinationWritePlanV2.create
  cases ready : prepare system offer request with
  | error error => exact ⟨.failed error, rfl⟩
  | ok prepared =>
    have admitted := (prepare_eq_ok system offer request).mp ready
    cases given : request.preplannedRootNames with
    | none => exact absurd ⟨admitted, .requested given⟩ (refused _ _)
    | some roots =>
      cases valid : validatePreplannedRoots offer.manifest roots with
      | ok done => exact absurd ⟨admitted, .preplanned given valid⟩ (refused _ _)
      | error error =>
        have start : (raise (mapErr .failed (.ok prepared)) : PlanMethod Prepared).runOn files =
          (.ok prepared, files) :=
          rfl
        rw [runOn_bind_of_ok _ start]
        exact ⟨.failed error,
          runOn_bind_of_error _
            (reserveRoots_invalid system offer request prepared files given valid)⟩

/-- A call that fails leaves the reservation files as they were, and no later call with the same
offer and request ends otherwise than it would have without the failed one. -/
def KeepsReservations (files : Files) : Prop :=
  ∀ failure left, (DestinationWritePlanV2.create system offer request).runOn files =
    (.error failure, left) →
    reservationFiles left = reservationFiles files ∧
    ∀ later : PlanSystem, ((DestinationWritePlanV2.create later offer request).runOn left).1 =
      ((DestinationWritePlanV2.create later offer request).runOn files).1

/-- A failed call keeps the reservation files exactly when the first root gets none, or when every
root gets one and nothing fails after them. -/
theorem create_keepsReservations_iff (files : Files) :
    KeepsReservations system offer request files ↔
      ∀ prepared wishes, Reaches system offer request prepared wishes →
        MakesOne system prepared.reservationDirectory prepared.occupiedNames files wishes →
          AllGranted system prepared.reservationDirectory prepared.occupiedNames files [] wishes ∧
            Finishes system offer request prepared := by
  constructor
  · intro keeps prepared wishes reaches makes
    obtain ⟨complete, outcome, left, runs, claims, succeeds⟩ :=
      create_reaching system offer request files reaches
    rw [← claims.complete_iff (fun name => by simp)]
    cases outcome with
    | ok plan => exact succeeds.mp rfl
    | error failure =>
      -- The file of the first root is among those left, and was not there before.
      exfalso
      obtain ⟨same, _⟩ := keeps failure left runs
      obtain ⟨name, missing, present⟩ := claims.makes makes
      have member : place prepared.reservationDirectory name ∈ reservationFiles left :=
        ⟨⟨prepared.targetDirectory, _, rfl⟩, present⟩
      rw [same] at member
      exact member.2 missing
  · intro condition failure left runs
    suffices unchanged : left = files by
      subst unchanged
      exact ⟨rfl, fun later => rfl⟩
    by_cases reached : ∃ prepared wishes, Reaches system offer request prepared wishes
    · obtain ⟨prepared, wishes, reaches⟩ := reached
      obtain ⟨complete, outcome, left', runs', claims, succeeds⟩ :=
        create_reaching system offer request files reaches
      cases runs.symm.trans runs'
      by_cases makes :
        MakesOne system prepared.reservationDirectory prepared.occupiedNames files wishes
      · obtain ⟨granted, finishes⟩ := condition prepared wishes reaches makes
        have complete := (claims.complete_iff (fun name => by simp)).mpr granted
        cases succeeds.mpr ⟨complete, finishes⟩
      · exact claims.unchanged makes
    · obtain ⟨failure', runs'⟩ := create_not_reaching system offer request files
        fun prepared wishes reaches => reached ⟨prepared, wishes, reaches⟩
      cases runs.symm.trans runs'
      rfl

end Create

/-! ## Two folders, one of them taken

The plan names two folders and the target has an object with the name of the second.  The digests
are the BLAKE3 values of the inputs that occur. -/

def deskManifest : ManifestV2 where
  jobId := sampleJobId
  generation := 1
  selectionRevision := 1
  compressionPolicy := .smart
  roots := [
    { rootId := 0, rootEntryId := 0, requestedName := "notes", completeness := .complete },
    { rootId := 1, rootEntryId := 1, requestedName := "report", completeness := .complete }]
  entries := [
    { entryId := 0, rootId := 0, parentEntryId := none, component := "notes", kind := .directory,
      plaintextSize := 0, contentDigest := .deferred },
    { entryId := 1, rootId := 1, parentEntryId := none, component := "report", kind := .directory,
      plaintextSize := 0, contentDigest := .deferred }]
  totals := { fileCount := 0, directoryCount := 2, totalPlaintextBytes := 0 }

def deskDigest : ByteVector 32 :=
  ⟨[0xd9, 0x74, 0xe0, 0xf9, 0xff, 0xf1, 0x0d, 0x33, 0x38, 0xc3, 0x24, 0xa0, 0xc6, 0x89, 0x77, 0xd6,
    0x4c, 0x03, 0xe6, 0x64, 0x3c, 0x16, 0xb5, 0x9a, 0x20, 0x63, 0x6e, 0xd0, 0x43, 0xec, 0x91, 0xd7],
      rfl⟩

def notesDigest : ByteVector 32 :=
  ⟨[0xf7, 0xbc, 0x58, 0x45, 0x89, 0xa6, 0x85, 0x12, 0x61, 0x31, 0x0f, 0x7c, 0xd0, 0xc4, 0x41, 0x33,
    0x92, 0xc0, 0xaa, 0x75, 0x77, 0xfd, 0x40, 0xf1, 0x28, 0xb6, 0x2c, 0x8a, 0xb4, 0xfb, 0xba, 0x7e],
      rfl⟩

def reportDigest : ByteVector 32 :=
  ⟨[0x31, 0xf2, 0x7c, 0xf7, 0xdb, 0x1e, 0x79, 0x00, 0xe8, 0xf1, 0x03, 0xeb, 0x79, 0x5a, 0x37, 0xf4,
    0x85, 0x94, 0xa1, 0x54, 0xed, 0x8f, 0x60, 0x40, 0x81, 0xfa, 0x2f, 0xc1, 0xf3, 0xd3, 0xe8, 0x84],
      rfl⟩

@[reducible] def deskBlake3 : Blake3 where
  hash input :=
    if input = asBytes "notes" then notesDigest else if input = asBytes "report" then reportDigest
    else deskDigest
  deriveKey _ _ := deskDigest
  keyedHash _ _ := deskDigest

def deskOffer : ManifestOfferV2 := ⟨⟨deskDigest⟩, deskManifest⟩

def deskRequest : DestinationRequestV2 where
  targetDirectory := ["received"]
  copyStagingDirectory := none
  decision := .useDirectSave
  targetAllocatableBytes := some (postSaveReserveBytes * 4)
  stagingAllocatableBytes := none
  stableObjectIdentity := true
  exceptionalTransferApproved := false
  preplannedRootNames := some [⟨0, "notes"⟩, ⟨1, "report"⟩]

/-- A system on which nothing fails and the target lists these names. -/
def deskSystem (listing : List String) : PlanSystem where
  createDirAll _ _ := .ok ()
  canonicalize _ path := .ok path
  volumeId _ _ := .ok "64769"
  restrictPrivateDirectory _ := .ok ()
  exclusiveRenameSupported := true
  exclusiveRenameProbe _ := .ok true
  readDir _ := .ok (listing.map some)
  openNew _ := none
  writeAll _ := none
  syncAll _ := none
  symlinkMetadata _ := .error .notFound
  openFile _ := .error .notFound

attribute [local instance] linuxNames deskBlake3

/-- The plan is refused because of the second folder, the reservation of the first stays, and once
the object in the way is gone the same request is refused because of that reservation. -/
theorem create_leaves_reservation :
    let call :=
      (DestinationWritePlanV2.create (deskSystem ["report"]) deskOffer deskRequest).runOn fun _ =>
        .missing
    call.1 = .error (.failed .destinationContended) ∧
      reservationFiles call.2 ≠ reservationFiles (fun _ => .missing) ∧
      ¬ KeepsReservations (deskSystem ["report"]) deskOffer deskRequest (fun _ => .missing) ∧
      ((DestinationWritePlanV2.create (deskSystem []) deskOffer deskRequest).runOn call.2).1 =
        .error (.failed .destinationContended) ∧
      ((DestinationWritePlanV2.create (deskSystem []) deskOffer deskRequest).runOn fun _ =>
        .missing).1.isOk = true := by
  intro call
  have refused : call.1 = .error (.failed .destinationContended) := by decide
  have contended :
      ((DestinationWritePlanV2.create (deskSystem []) deskOffer deskRequest).runOn call.2).1 =
      .error (.failed .destinationContended) := by decide
  have free :
      ((DestinationWritePlanV2.create (deskSystem []) deskOffer deskRequest).runOn fun _ =>
        .missing).1.isOk =
      true := by decide
  have left : reservationFiles call.2 ≠ reservationFiles fun _ => .missing := by
    intro same
    have present : call.2 (place ["received", ".envoix-reservations-v2"] "notes") ≠
      .missing := by decide
    have member : place ["received", ".envoix-reservations-v2"] "notes" ∈ reservationFiles call.2 :=
      ⟨⟨["received"], _, rfl⟩, present⟩
    rw [same] at member
    exact member.2 rfl
  refine ⟨refused, left, ?_, contended, free⟩
  intro keeps
  exact left (keeps _ call.2 (Prod.ext refused rfl)).1

end Envoix.Transfer
