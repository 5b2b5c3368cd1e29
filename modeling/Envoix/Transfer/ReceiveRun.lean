import Envoix.Transfer.EntryReception

/-! # Runs of `receive`

The loop over the entries, the end of the job and whole runs over reconnects: every ledger that
is ever durable is consistent, and the receiver hashes for each entry the completion its ledger
had decided at the start, or else the one that came in.
-/

namespace Envoix.Transfer

open ByteCodec Fallible Process Process.Method Envoix.Protocol

section Run

variable [Blake3] [UnicodeNormalization] [PayloadSink]

/-! ## The completions of a run -/

/-- The completion a receiver reads from its ledger for an entry that has a result or a closed
arbiter, as it feeds it to its completion hasher. -/
def storedCompletion (identity : JobGenerationV2) (entry : ManifestEntryV2)
    (checkpoint : ReceiverEntryCheckpointV2) :
    Option (Except ManifestV2DataError EntryCompleteV2) :=
  if checkpoint.result.isSome then
    some
      (okOr checkpoint.completion (.invalidLedger "completed entry is missing its completion fact"))
  else if checkpoint.arbiter ≠ .payloadOpen then some (decidedCompletion identity entry checkpoint)
  else none

/-- The completions of a run: one per entry, decided before or taken from those transferred. -/
inductive Merged (decided : ManifestEntryV2 → Option EntryCompleteV2) :
    List ManifestEntryV2 → List EntryCompleteV2 → List EntryCompleteV2 → Prop where
  | nil : Merged decided [] [] []
  | known {entry : ManifestEntryV2} {completion : EntryCompleteV2} {entries : List ManifestEntryV2}
      {transferred completions : List EntryCompleteV2} (found : decided entry = some completion)
      (rest : Merged decided entries transferred completions) :
      Merged decided (entry :: entries) transferred (completion :: completions)
  | transferred {entry : ManifestEntryV2} {completion : EntryCompleteV2}
      {entries : List ManifestEntryV2} {transferred completions : List EntryCompleteV2}
      (unknown : decided entry = none) (rest : Merged decided entries transferred completions) :
      Merged decided (entry :: entries) (completion :: transferred) (completion :: completions)

omit [Blake3] [UnicodeNormalization] [PayloadSink] in
theorem Merged.unique {decided : ManifestEntryV2 → Option EntryCompleteV2}
    {entries : List ManifestEntryV2} {transferred left right : List EntryCompleteV2}
    (first : Merged decided entries transferred left)
    (second : Merged decided entries transferred right) : left = right := by
  induction first generalizing right with
  | nil =>
    cases second
    rfl
  | known found rest ih =>
    cases second with
    | known again rest =>
      rw [found, Option.some.injEq] at again
      rw [again, ih rest]
    | transferred unknown rest =>
      rw [found] at unknown
      cases unknown
  | transferred unknown rest ih =>
    cases second with
    | known found rest =>
      rw [found] at unknown
      cases unknown
    | transferred _ rest => rw [ih rest]

omit [Blake3] [UnicodeNormalization] [PayloadSink] in
/-- How many completions are transferred depends on what is decided only. -/
theorem Merged.length_eq {decided : ManifestEntryV2 → Option EntryCompleteV2}
    {entries : List ManifestEntryV2} {left right first second : List EntryCompleteV2}
    (merged : Merged decided entries left first) (other : Merged decided entries right second) :
    left.length = right.length := by
  induction merged generalizing right second with
  | nil =>
    cases other
    rfl
  | known found rest ih =>
    cases other with
    | known _ others => exact ih others
    | transferred unknown _ =>
      rw [found] at unknown
      cases unknown
  | transferred unknown rest ih =>
    cases other with
    | known found _ =>
      rw [found] at unknown
      cases unknown
    | transferred _ others => rw [List.length_cons, List.length_cons, ih others]

omit [Blake3] [UnicodeNormalization] [PayloadSink] in
theorem Merged.congr {left right : ManifestEntryV2 → Option EntryCompleteV2}
    {entries : List ManifestEntryV2} {transferred completions : List EntryCompleteV2}
    (merged : Merged left entries transferred completions)
    (same : ∀ entry ∈ entries, left entry = right entry) :
      Merged right entries transferred completions := by
  induction merged with
  | nil => exact .nil
  | known found rest ih =>
    exact .known (by rw [← same _ List.mem_cons_self, found])
      (ih fun entry listed => same entry (.tail _ listed))
  | transferred unknown rest ih =>
    exact .transferred (by rw [← same _ List.mem_cons_self, unknown])
      (ih fun entry listed => same entry (.tail _ listed))

/-! ## The loop over the entries -/

/-- What a ledger has decided for an entry before a run. -/
def decidedIn (ledger : ReceiverDataPlaneLedgerV2) (entry : ManifestEntryV2) :
    Option EntryCompleteV2 :=
  ledger.entries[entry.entryId.toNat]?.bind fun checkpoint =>
    (storedCompletion ledger.identity entry checkpoint).bind (·.toOption)

variable {offer : ManifestOfferV2} {accept : ManifestAcceptV2} {ledger : ReceiverDataPlaneLedgerV2}
  {index : Nat} {entry : ManifestEntryV2} {plan : EntryPlanV2}
    {checkpoint : ReceiverEntryCheckpointV2}
  {world : EngineWorld}

omit [UnicodeNormalization] in
/-- A decided checkpoint has the completion that a resume status describes. -/
theorem CheckpointOk.stored (ok : CheckpointOk accept.identity entry plan checkpoint)
    (decided : checkpoint.arbiter ≠ .payloadOpen) :
    ∃ completion, storedCompletion accept.identity entry checkpoint = some (.ok completion) ∧
      completionFromResumeCheckpoint accept.identity entry checkpoint.resumeEntry = .ok completion ∧
      CheckpointOk accept.identity entry plan { checkpoint with
        completion := some completion } := by
  cases stored : checkpoint.completion with
  | some completion =>
    refine ⟨completion, ?_, ok.completed decided completion stored, ?_⟩
    · simp [storedCompletion, decidedCompletion, stored, decided, okOr]
    · rw [← stored]
      exact ok
  | none =>
    -- only a reused entry may be decided without its completion
    have chosen : checkpoint.arbiter = .reuseChosen := by
      cases arbiter : checkpoint.arbiter with
      | payloadOpen => exact absurd arbiter decided
      | reuseChosen => rfl
      | payloadCompleteChosen =>
        have finished := ok.finished arbiter
        rw [stored] at finished
        cases finished
    have unfinished : checkpoint.result = none := by
      cases finished : checkpoint.result with
      | none => rfl
      | some result =>
        obtain ⟨-, -, completion, found, -⟩ := ok.result result finished
        rw [stored] at found
        cases found
    obtain ⟨file, -, known⟩ := ok.reused chosen
    obtain ⟨digest, content⟩ := Option.isSome_iff_exists.mp known
    have rebuilt : completionFromResumeCheckpoint accept.identity entry checkpoint.resumeEntry =
        .ok ⟨accept.identity, entry.entryId, entry.plaintextSize, digest, .reuseChosen⟩ :=
      completionFromResumeCheckpoint_file file ⟨rfl, rfl, rfl⟩ content (.inl ⟨chosen, rfl⟩)
    refine ⟨_, ?_, rebuilt, ?_⟩
    · simp [storedCompletion, decidedCompletion, unfinished, stored, chosen, content, okOr]
    · exact {
        ok with
        opened := fun opened => absurd opened decided
        finished := fun _ => rfl
        completed := fun _ completion same => by
          obtain rfl := Option.some.inj same
          exact rebuilt
        result := fun result found => by
          rw [unfinished] at found
          cases found }

/-- A checkpoint that is decided keeps its completion at hand. -/
def DecidedAt (ledger : ReceiverDataPlaneLedgerV2) (index : Nat) : Prop :=
  ∃ checkpoint, ledger.entries[index]? = some checkpoint ∧ checkpoint.arbiter ≠ .payloadOpen ∧
    checkpoint.completion.isSome

/-- What one entry adds to a run: a decided checkpoint, and a completion that was either decided
before or came in meanwhile. -/
structure EntryReceived (offer : ManifestOfferV2) (accept : ManifestAcceptV2)
    (before : ReceiverDataPlaneLedgerV2) (index : Nat) (entry : ManifestEntryV2)
    (world : EngineWorld) (hasher fed : Bytes) (ledger : ReceiverDataPlaneLedgerV2)
    (final : EngineWorld) : Prop where
  kept : (receiverContract offer accept).keeps final
  ok : LedgerOk offer accept ledger
  elsewhere : ∀ other, other ≠ index → ledger.entries[other]? = before.entries[other]?
  decided : DecidedAt ledger index
  hashed : ∃ completion, updateCompletionSet hasher completion = .ok fed ∧
    (decidedIn before entry = some completion ∧
      completes final.received = completes world.received ∨
      decidedIn before entry = none ∧
        completes final.received = completes world.received ++ [completion])

/-- The checkpoint of a decided entry, put back with its completion. -/
theorem EntryReceived.of_decided {completion : EntryCompleteV2} {hasher fed : Bytes}
    {final : EngineWorld} (focus : Focus offer accept ledger index entry plan)
    (kept : (receiverContract offer accept).keeps final)
    (ok : CheckpointOk accept.identity entry plan checkpoint)
    (decided : checkpoint.arbiter ≠ .payloadOpen) (stored : checkpoint.completion = some completion)
    (hashed : updateCompletionSet hasher completion = .ok fed)
    (origin : decidedIn ledger entry = some completion ∧
      completes final.received = completes world.received ∨
      decidedIn ledger entry = none ∧
        completes final.received = completes world.received ++ [completion]) :
    EntryReceived offer accept ledger index entry world hasher fed
      (ledger.put index checkpoint) final where
  kept := kept
  ok := focus.ok.put focus.entryFound focus.planFound ok
  elsewhere := fun _ elsewhere => ReceiverDataPlaneLedgerV2.entries_put_of_ne elsewhere
  decided :=
    ⟨checkpoint, ReceiverDataPlaneLedgerV2.entries_put_self focus.bound, decided, by simp [stored]⟩
  hashed := ⟨completion, hashed, origin⟩

theorem decidedIn_eq (focus : Focus offer accept ledger index entry plan)
    (here : entry.entryId.toNat = index) (found : ledger.entries[index]? = some checkpoint) :
    decidedIn ledger entry =
      (storedCompletion accept.identity entry checkpoint).bind (·.toOption) := by
  rw [decidedIn, here, found, focus.ok.identity]
  rfl

theorem receiveEntry_yields [Zstd] (focus : Focus offer accept ledger index entry plan)
    (here : entry.entryId.toNat = index) (kept : (receiverContract offer accept).keeps world)
    (fuel : Nat) (total completed : UInt64) (hasher : Bytes) :
    (receiveEntry fuel total entry hasher completed).Yields (receiverContract offer accept)
      (fun next => EntryReceived offer accept ledger index entry world hasher next.1)
        ledger world := by
  rw [receiveEntry, here, yields_bind]
  apply yields_checkpointAt
  intro checkpoint found
  have ok : CheckpointOk accept.identity entry plan checkpoint :=
    focus.ok.entries index entry plan checkpoint focus.entryFound focus.planFound found
  have known := decidedIn_eq focus here found
  have same := ReceiverDataPlaneLedgerV2.put_self found
  split
  case isTrue finished =>
    -- a result has its completion beside it
    simp only [yields_bind, yields_raise, okOr_eq_ok, yields_pure]
    intro completion stored fed hashed
    have decided : checkpoint.arbiter ≠ .payloadOpen := by
      intro opened
      rw [(ok.opened opened).1] at finished
      cases finished
    rw [storedCompletion, if_pos finished, stored] at known
    have received :
      EntryReceived offer accept ledger index entry world hasher fed
        (ledger.put index checkpoint) world :=
      .of_decided focus kept ok decided stored hashed (.inl ⟨known, rfl⟩)
    rwa [same] at received
  case isFalse unfinished =>
    split
    case isTrue decided =>
      obtain ⟨completion, stored, -, completedOk⟩ := ok.stored decided
      rw [stored] at known
      rw [storedCompletion, if_neg unfinished, if_pos decided, Option.some.injEq] at stored
      simp only [yields_bind, yields_get, yields_raise]
      rw [focus.ok.identity, stored]
      intro _ rebuilt
      obtain rfl := Except.ok.inj rebuilt
      have update :=
        ReceiverDataPlaneLedgerV2.update_eq_put found ({ · with completion := some completion })
      apply yields_updateCheckpoint
      rw [update]
      refine focus.save kept completedOk fun saved fed hashed => ?_
      exact yields_pure.mpr
        (EntryReceived.of_decided focus saved completedOk decided rfl hashed (.inl ⟨known, rfl⟩))
    case isFalse opened =>
      rw [storedCompletion, if_neg unfinished, if_neg opened] at known
      rw [not_not] at opened
      rw [yields_bind]
      have received := receiveOpenEntry_yields focus kept ok here opened fuel total completed
      rw [same] at received
      refine received.mono ?_
      rintro completed left final ⟨completion, completions, kept, next, rewritten, ok,
        decided, stored⟩
      subst rewritten
      rw [yields_bind]
      apply focus.checkpointAt
      rw [stored]
      simp only [yields_bind, yields_raise, okOr_eq_ok]
      intro _ again fed hashed
      obtain rfl := Option.some.inj again
      exact yields_pure.mpr
        (EntryReceived.of_decided focus kept ok decided stored hashed (.inr ⟨known, completions⟩))

/-- What the loop over the entries from `offset` on adds to a run. -/
structure EntriesReceived (offer : ManifestOfferV2) (accept : ManifestAcceptV2)
    (before : ReceiverDataPlaneLedgerV2) (offset : Nat) (world : EngineWorld) (hasher fed : Bytes)
    (ledger : ReceiverDataPlaneLedgerV2) (final : EngineWorld) : Prop where
  kept : (receiverContract offer accept).keeps final
  ok : LedgerOk offer accept ledger
  earlier : ∀ other < offset, ledger.entries[other]? = before.entries[other]?
  decided : ∀ index, offset ≤ index → index < offer.manifest.entries.length → DecidedAt ledger index
  hashed : ∃ completions transferred, completions.foldlM updateCompletionSet hasher = .ok fed ∧
    completes final.received = completes world.received ++ transferred ∧
    Merged (decidedIn before) (offer.manifest.entries.drop offset) transferred completions

omit [Blake3] [PayloadSink] in
theorem Agreed.plan_at (agreed : Agreed offer accept)
    (found : offer.manifest.entries[index]? = some entry) :
    ∃ plan, accept.entryPlans[index]? = some plan := by
  have bound := (List.getElem?_eq_some_iff.mp found).1
  rw [← agreed.plans_length] at bound
  exact ⟨_, List.getElem?_eq_getElem bound⟩

/-- An entry further on is decided in the next ledger as it was in this one. -/
theorem EntryReceived.decidedIn_rest {hasher fed : Bytes} {left : ReceiverDataPlaneLedgerV2}
    {final : EngineWorld}
    (received : EntryReceived offer accept ledger index entry world hasher fed left final)
    (ok : LedgerOk offer accept ledger) (ids : ∀ (index : Nat) (entry : ManifestEntryV2),
      offer.manifest.entries[index]? = some entry → entry.entryId.toNat = index) :
    ∀ later ∈ offer.manifest.entries.drop (index + 1),
      decidedIn left later = decidedIn ledger later := by
  intro later listed
  obtain ⟨offset, bound, found⟩ := List.mem_iff_getElem.mp listed
  rw [List.getElem_drop] at found
  have place := ids _ later (List.getElem?_eq_some_iff.mpr ⟨_, found⟩)
  rw [decidedIn, decidedIn, received.elsewhere _ (by omega), received.ok.identity, ok.identity]

theorem receiveEntries_yields [Zstd] (agreed : Agreed offer accept) (fuel : Nat) (total : UInt64)
    (entries : List ManifestEntryV2) (offset : Nat)
    (suffix : offer.manifest.entries.drop offset = entries) (ok : LedgerOk offer accept ledger)
    (kept : (receiverContract offer accept).keeps world) (hasher : Bytes) (completed : UInt64) :
    (receiveEntries fuel total entries hasher completed).Yields (receiverContract offer accept)
      (fun next => EntriesReceived offer accept ledger offset world hasher next.1)
        ledger world := by
  induction entries generalizing offset ledger world hasher completed with
  | nil =>
    have ended := List.drop_eq_nil_iff.mp suffix
    refine yields_pure.mpr ⟨kept, ok, fun _ _ => rfl, fun index from_ below => ?_, [], [],
      rfl, ?_, ?_⟩
    · omega
    · rw [List.append_nil]
    · rw [suffix]
      exact .nil
  | cons entry entries ih =>
    have found : offer.manifest.entries[offset]? = some entry := by
      rw [← List.head?_drop, suffix]
      rfl
    have rest : offer.manifest.entries.drop (offset + 1) = entries := by
      rw [← List.tail_drop, suffix]
      rfl
    obtain ⟨plan, planFound⟩ := agreed.plan_at found
    have here := agreed.forest.entryIds offset entry found
    rw [receiveEntries, yields_bind]
    refine (receiveEntry_yields ⟨agreed, ok, found,
      planFound⟩ here kept fuel total completed hasher).mono ?_
    intro (fed, completed) left arrived received
    refine (ih (offset + 1) rest received.ok received.kept fed completed).mono ?_
    intro (last, progress) final ended after
    have unchanged := received.decidedIn_rest ok agreed.forest.entryIds
    obtain ⟨completion, update, origin⟩ := received.hashed
    obtain ⟨completions, transferred, folded, arrivedCompletions, merged⟩ := after.hashed
    have merged := merged.congr unchanged
    have folded : (completion :: completions).foldlM updateCompletionSet hasher = .ok last := by
      rw [List.foldlM_cons, update]
      exact folded
    refine ⟨after.kept, after.ok, ?_, ?_, ?_⟩
    · intro other earlier
      rw [after.earlier other (by omega), received.elsewhere other (by omega)]
    · intro index from_ below
      by_cases first : index = offset
      · subst first
        obtain ⟨checkpoint, same, decided⟩ := received.decided
        exact ⟨checkpoint, (after.earlier index (by omega)).trans same, decided⟩
      · exact after.decided index (by omega) below
    · rw [suffix, ← rest]
      obtain ⟨known, none_⟩ | ⟨unknown, one⟩ := origin
      · exact ⟨completion :: completions, transferred, folded, by rw [arrivedCompletions, none_],
          .known known merged⟩
      · exact ⟨completion :: completions, completion :: transferred, folded,
          by rw [arrivedCompletions, one, List.append_assoc]; rfl, .transferred unknown merged⟩

/-! ## The end of the job -/

/-- What the sink is told of a decided checkpoint. -/
def VerifiedAs (manifest : ManifestV2) (checkpoint : ReceiverEntryCheckpointV2)
    (verified : VerifiedEntryV2) : Prop :=
  ∃ completion entry, checkpoint.completion = some completion ∧
    manifest.entries[checkpoint.entryId.toNat]? = some entry ∧
    verified.finalDigest =
      (if entry.kind = .regularFile then some completion.finalDigest else none) ∧
    verified.completionChoice = completion.completionChoice

theorem verifiedEntries_yields {checkpoints : List ReceiverEntryCheckpointV2}
    {manifest : ManifestV2} :
    (checkpoints.mapM (verifiedEntry manifest)).Yields (receiverContract offer accept)
      (fun verified left final => left = ledger ∧ final = world ∧
        List.Forall₂ (VerifiedAs manifest) checkpoints verified) ledger world := by
  apply yields_mapM
  intro checkpoint _
  rw [verifiedEntry, yields_bind, yields_raise]
  intro completion stored
  rw [yields_bind]
  apply yields_element
  intro entry found
  exact yields_pure.mpr ⟨rfl, rfl, completion, entry, okOr_eq_ok.mp stored, found, rfl, rfl⟩

omit [UnicodeNormalization] [PayloadSink] in
theorem completionFromResumeCheckpoint_inv {identity : JobGenerationV2} {resumed : ResumeEntryV2}
    {completion : EntryCompleteV2}
    (rebuilt : completionFromResumeCheckpoint identity entry resumed = .ok completion) :
    completion.identity = identity ∧ completion.entryId = entry.entryId ∧
      completion.finalSize = entry.plaintextSize ∧
      (resumed.arbiter = .reuseChosen ∧ completion.completionChoice = .reuseChosen ∨
        resumed.arbiter = .payloadCompleteChosen ∧ completion.completionChoice = .payloadComplete ∧
          (entry.kind = .directory → completion.finalDigest = emptyDigest)) := by
  unfold completionFromResumeCheckpoint at rebuilt
  cases arbiter : resumed.arbiter with
  | payloadOpen =>
    rw [arbiter] at rebuilt
    cases rebuilt
  | reuseChosen =>
    simp only [arbiter, bind_eq_ok, pure_eq_ok, pure_bind] at rebuilt
    obtain ⟨digest, -, rfl⟩ := rebuilt
    exact ⟨rfl, rfl, rfl, .inl ⟨rfl, rfl⟩⟩
  | payloadCompleteChosen =>
    by_cases directory : entry.kind = .directory
    · simp only [arbiter, directory, if_true, pure_bind, pure_eq_ok] at rebuilt
      subst rebuilt
      exact ⟨rfl, rfl, rfl, .inr ⟨rfl, rfl, fun _ => rfl⟩⟩
    · simp only [arbiter, directory, if_false, bind_eq_ok, pure_eq_ok] at rebuilt
      obtain ⟨digest, -, _, rfl, rfl⟩ := rebuilt
      exact ⟨rfl, rfl, rfl, .inr ⟨rfl, rfl, fun other => absurd other directory⟩⟩

omit [UnicodeNormalization] in
/-- The result of a decided entry gives its completion back. -/
theorem CheckpointOk.withResult (ok : CheckpointOk accept.identity entry plan checkpoint)
    (decided : checkpoint.arbiter ≠ .payloadOpen) {completion : EntryCompleteV2}
    (stored : checkpoint.completion = some completion) (override : Option String) :
    CheckpointOk accept.identity entry plan { checkpoint with result := some {
      identity := accept.identity
      entryId := entry.entryId
      result := expectedResult completion.completionChoice
      finalSize := entry.plaintextSize
      finalDigest := if entry.kind = .regularFile then some completion.finalDigest else none
      finalComponentOverride := override } } := by
  have rebuilt := ok.completed decided completion stored
  exact {
    ok with
    opened := fun opened => absurd opened decided
    completed := fun _ found same => ok.completed decided found same
    result := fun result same => by
      obtain rfl := Option.some.inj same
      refine ⟨rfl, rfl, completion, stored, ?_, rfl⟩
      obtain ⟨identity, entryId, size, digest, choice⟩ := completion
      obtain ⟨rfl, rfl, rfl, chosen⟩ := completionFromResumeCheckpoint_inv rebuilt
      obtain ⟨arbiter, rfl⟩ | ⟨arbiter, rfl, empty⟩ := chosen
      · simp [completionFromResult, (ok.reused arbiter).1, reject, expectedResult]
      · cases kind : entry.kind with
        | regularFile => simp [completionFromResult, kind, reject, expectedResult]
        | directory =>
          obtain rfl := empty kind
          simp [completionFromResult, kind, reject, expectedResult] }

/-- The results recorded from `offset` on, in a ledger that was decided there. -/
structure Recorded (offer : ManifestOfferV2) (accept : ManifestAcceptV2)
    (before : ReceiverDataPlaneLedgerV2) (offset : Nat) (results : List EntryResultV2)
    (ledger : ReceiverDataPlaneLedgerV2) : Prop where
  ok : LedgerOk offer accept ledger
  header : ledger = { before with entries := ledger.entries }
  earlier : ∀ other < offset, ledger.entries[other]? = before.entries[other]?
  results : (ledger.entries.drop offset).mapM (·.result) = some results

theorem recordResults_yields (agreed : Agreed offer accept) (entries : List ManifestEntryV2)
    (verifieds : List VerifiedEntryV2) (saveds : List SavedEntryV2) (offset : Nat)
    (suffix : offer.manifest.entries.drop offset = entries)
    (complete : saveds.length = entries.length)
    (verified : List.Forall₂ (VerifiedAs offer.manifest) (ledger.entries.drop offset) verifieds)
    (ok : LedgerOk offer accept ledger)
    (decided : ∀ index, offset ≤ index → index < offer.manifest.entries.length →
      DecidedAt ledger index) :
    (recordResults accept.identity (entries.zip (verifieds.zip saveds))).Yields
      (receiverContract offer accept)
      (fun results left final => final = world ∧ Recorded offer accept ledger offset results left)
        ledger world := by
  induction entries generalizing offset ledger verifieds saveds with
  | nil =>
    have ended := List.drop_eq_nil_iff.mp suffix
    refine yields_pure.mpr ⟨rfl, ok, rfl, fun _ _ => rfl, ?_⟩
    rw [List.drop_eq_nil_iff.mpr (ok.length ▸ ended)]
    rfl
  | cons entry entries ih =>
    have found : offer.manifest.entries[offset]? = some entry := by
      rw [← List.head?_drop, suffix]
      rfl
    have rest : offer.manifest.entries.drop (offset + 1) = entries := by
      rw [← List.tail_drop, suffix]
      rfl
    have bound : offset < offer.manifest.entries.length := (List.getElem?_eq_some_iff.mp found).1
    have here := agreed.forest.entryIds offset entry found
    obtain ⟨plan, planFound⟩ := agreed.plan_at found
    obtain ⟨checkpoint, at_, closed, -⟩ := decided offset (Nat.le_refl _) bound
    have checkpointOk := ok.entries offset entry plan checkpoint found planFound at_
    have split : ledger.entries.drop offset = checkpoint :: ledger.entries.drop (offset + 1) := by
      rw [← List.getElem_cons_drop (ok.length ▸ bound)]
      rw [(List.getElem?_eq_some_iff.mp at_).2]
    rw [split] at verified
    cases verified with
    | cons first later =>
    rename_i verified verifieds
    cases saveds with
    | nil => cases complete
    | cons saved saveds =>
    obtain ⟨completion, own, stored, owned, digest, choice⟩ := first
    rw [checkpointOk.entryId, here, found, Option.some.injEq] at owned
    subst owned
    simp only [List.zip_cons_cons, recordResults, yields_bind, yields_raise, reject_eq_ok,
      not_or, not_not]
    rintro _ ⟨_, kind⟩
    rw [here, digest, kind, choice]
    apply yields_updateCheckpoint
    rw [ReceiverDataPlaneLedgerV2.update_eq_put at_]
    have recorded := checkpointOk.withResult closed stored saved.finalComponentOverride
    refine (ih verifieds saveds (offset + 1) rest (Nat.succ.inj complete) ?_
      (ok.put found planFound recorded)
      ?_).mono ?_
    · rw [ReceiverDataPlaneLedgerV2.drop_put (Nat.lt_succ_self offset)]
      exact later
    · intro index from_ below
      obtain ⟨other, same, decided⟩ := decided index (by omega) below
      exact ⟨other, (ReceiverDataPlaneLedgerV2.entries_put_of_ne (by omega)).trans same, decided⟩
    · rintro results left final ⟨same, done⟩
      refine yields_pure.mpr ⟨same, done.ok, done.header, ?_, ?_⟩
      · intro other earlier
        rw [done.earlier other (by omega), ReceiverDataPlaneLedgerV2.entries_put_of_ne (by omega)]
      · have kept := done.earlier offset (Nat.lt_succ_self offset)
        rw [ReceiverDataPlaneLedgerV2.entries_put_self (ok.length ▸ bound)] at kept
        rw [List.drop_eq_getElem?_toList_append, kept]
        simp [List.mapM_cons, done.results]

theorem sendResults_yields (results : List EntryResultV2)
    (kept : (receiverContract offer accept).keeps world) :
    (sendResults results).Yields (receiverContract offer accept)
      (fun _ left final => left = ledger ∧ final = { world with sent := final.sent })
        ledger world := by
  induction results generalizing world with
  | nil => exact yields_pure.mpr ⟨rfl, rfl⟩
  | cons result results ih =>
    rw [sendResults, yields_bind]
    apply yields_sendFrame
    have kept :
      (receiverContract offer accept).keeps { world with
        sent := world.sent ++ [.entryResult result] } := kept
    refine ⟨kept, (ih kept).mono ?_⟩
    intro _ left final ⟨same, sent⟩
    exact ⟨same, sent⟩

omit [Blake3] [UnicodeNormalization] [PayloadSink] in
theorem completedSummary_eq_some {summary : ReceiverDataPlaneSummaryV2} :
    ledger.completedSummary = some summary ↔ summary.identity = ledger.identity ∧
      ledger.senderCompletionSetDigest = some summary.senderCompletionSetDigest ∧
      ledger.entries.mapM (·.result) = some summary.entryResults := by
  obtain ⟨identity, digest, results⟩ := summary
  simp only [ReceiverDataPlaneLedgerV2.completedSummary, Option.bind_eq_bind,
    Option.bind_eq_some_iff, Option.pure_def, Option.some.injEq,
    ReceiverDataPlaneSummaryV2.mk.injEq]
  constructor
  · rintro ⟨_, complete, _, recorded, own, rfl, rfl⟩
    exact ⟨own.symm, complete, recorded⟩
  · rintro ⟨own, complete, recorded⟩
    exact ⟨_, complete, _, recorded, own.symm, rfl, rfl⟩

omit [UnicodeNormalization] in
theorem LedgerOk.withDigest [UnicodeNormalization] (ok : LedgerOk offer accept ledger)
    (digest : Option ContentDigestV2) :
    LedgerOk offer accept { ledger with senderCompletionSetDigest := digest } :=
  { ok with }

/-- The job ends with a durable ledger that has a result for every entry. -/
def JobReceived (offer : ManifestOfferV2) (accept : ManifestAcceptV2)
    (summary : ReceiverDataPlaneSummaryV2) (ledger : ReceiverDataPlaneLedgerV2)
    (final : EngineWorld) : Prop :=
  LedgerOk offer accept ledger ∧ final.ledger = some ledger ∧ ledger.completedSummary = some summary

theorem commitSenderDigest_yields (ok : LedgerOk offer accept ledger)
    (kept : (receiverContract offer accept).keeps world) (senderDigest : ContentDigestV2) :
    (commitSenderDigest senderDigest).Yields (receiverContract offer accept)
      (fun _ left final => (receiverContract offer accept).keeps final ∧ final.ledger = some left ∧
        left = { ledger with senderCompletionSetDigest := some senderDigest }) ledger world := by
  have committed := ok.withDigest (some senderDigest)
  have saved : (receiverContract offer accept).keeps
      { world with
          ledger := some { ledger with senderCompletionSetDigest := some senderDigest } } := by
    intro found same
    obtain rfl := Option.some.inj same
    exact committed
  rw [commitSenderDigest, yields_bind, yields_get]
  cases first : ledger.senderCompletionSetDigest with
  | none =>
    rw [yields_bind, yields_modify]
    exact yields_saveLedger kept ⟨saved, saved, rfl, rfl⟩
  | some existing =>
    simp only [yields_bind, yields_raise, reject_eq_ok, not_not]
    intro _ same
    have unchanged : ledger = { ledger with senderCompletionSetDigest := some senderDigest } := by
      rw [← same, ← first]
    rw [← unchanged] at saved
    exact yields_saveLedger kept ⟨saved, saved, rfl, unchanged⟩

theorem commitJobResults_yields (agreed : Agreed offer accept) (ok : LedgerOk offer accept ledger)
    (kept : (receiverContract offer accept).keeps world) (durable : world.ledger = some ledger)
    (decided : ∀ index < offer.manifest.entries.length, DecidedAt ledger index) :
    (commitJobResults offer.manifest accept.identity).Yields (receiverContract offer accept)
      (fun results left final => (receiverContract offer accept).keeps final ∧
        final.ledger = some left ∧ Recorded offer accept ledger 0 results left) ledger world := by
  rw [commitJobResults, yields_bind, yields_get]
  cases finished : ledger.entries.mapM (·.result) with
  | some results => exact yields_pure.mpr ⟨kept, durable, ok, rfl, fun _ _ => rfl, finished⟩
  | none =>
    simp only [yields_bind, yields_get]
    refine verifiedEntries_yields.mono ?_
    intro verifieds _ _ ⟨sameLedger, sameWorld, verified⟩
    subst sameLedger sameWorld
    apply yields_onPhase kept
    refine yields_attempt (fun _ _ => rfl) kept fun _ => ?_
    refine yields_attempt (fun _ _ => rfl) kept fun saveds => ?_
    rw [yields_raise]
    intro _ complete
    rw [reject_eq_ok, not_not] at complete
    refine (recordResults_yields agreed offer.manifest.entries verifieds saveds 0 rfl
      complete verified ok
      fun index _ => decided index).mono ?_
    intro results left final ⟨same, recorded⟩
    subst same
    have saved : (receiverContract offer accept).keeps { final with ledger := some left } := by
      intro found same
      obtain rfl := Option.some.inj same
      exact recorded.ok
    exact yields_saveLedger kept ⟨saved, yields_pure.mpr ⟨saved, rfl, recorded⟩⟩

theorem receiveJobComplete_yields (agreed : Agreed offer accept) (ok : LedgerOk offer accept ledger)
    (kept : (receiverContract offer accept).keeps world)
    (decided : ∀ index < offer.manifest.entries.length, DecidedAt ledger index) (hasher : Bytes) :
    (receiveJobComplete offer.manifest hasher).Yields (receiverContract offer accept)
      (JobReceived offer accept) ledger world := by
  rw [receiveJobComplete, yields_bind, yields_get, ok.identity, yields_bind]
  refine yields_recvFrame kept fun frame _ => ⟨kept, ?_⟩
  have kept :
    (receiverContract offer accept).keeps { world with received := world.received ++ [frame] } :=
      kept
  cases frame with
  | jobComplete complete =>
    simp only [yields_bind, yields_raise, yields_pure]
    intro _ _ _ _
    refine (commitSenderDigest_yields ok kept complete.senderCompletionSetDigest).mono ?_
    rintro _ _ _ ⟨kept, durable, same⟩
    subst same
    apply yields_onStage kept
    refine (commitJobResults_yields agreed (ok.withDigest _) kept durable decided).mono ?_
    rintro results _ _ ⟨kept, durable, recorded⟩
    refine (sendResults_yields results kept).mono ?_
    rintro _ left final ⟨same, sent⟩
    subst same
    have durable : final.ledger = some left := by rw [sent, durable]
    have kept : (receiverContract offer accept).keeps final := by
      rw [sent]
      exact kept
    apply yields_onPhase kept
    refine ⟨recorded.ok, durable,
      completedSummary_eq_some.mpr ⟨recorded.ok.identity.symm, ?_, recorded.results⟩⟩
    rw [recorded.header]
  | _ => exact yields_throw.mpr trivial

/-- Whatever arrives, the durable ledger stays consistent, and a finished run leaves a result for
every entry. -/
theorem receive_yields [Zstd] (agreed : Agreed offer accept) (ok : LedgerOk offer accept ledger)
    (kept : (receiverContract offer accept).keeps world) (fuel : Nat) :
    (receive fuel offer).Yields (receiverContract offer accept)
    (JobReceived offer accept) ledger world := by
  simp only [receive, yields_bind, yields_get, yields_raise]
  intro _ _ completed _
  apply yields_onPhase kept
  apply yields_onProgress kept
  refine (receiveEntries_yields agreed fuel _ _ 0 rfl ok kept [] completed).mono ?_
  rintro ⟨hasher, _⟩ left final received
  exact receiveJobComplete_yields agreed received.ok received.kept
    (fun index => received.decided index (Nat.zero_le _))
    hasher

/-- `reset_payload_checkpoint`, as the destination calls it while it reconciles a resume. -/
theorem resetPayloadCheckpoint_yields (ok : LedgerOk offer accept ledger)
    (kept : (receiverContract offer accept).keeps world) (entryId : UInt32) :
    (resetPayloadCheckpoint offer.manifest entryId).Yields (receiverContract offer accept)
      (fun _ left _ => LedgerOk offer accept left) ledger world := by
  simp only [resetPayloadCheckpoint, yields_bind, yields_get, yields_raise, okOr_eq_ok,
    Option.filter_eq_some_iff, reject_eq_ok, not_or, not_not, decide_eq_true_eq]
  rintro entry ⟨found, _⟩ plan ⟨planFound, _⟩ checkpoint ⟨present, _⟩ _ ⟨unfinished, _⟩
  rw [ok.agreement] at planFound
  have checkpointOk := ok.entries _ entry plan checkpoint found planFound present
  obtain ⟨total, blocks, -⟩ := checkpointOk.boundary
  have unfinished : checkpoint.result = none := by simpa using unfinished
  have retired :
    CheckpointOk accept.identity entry plan { checkpoint.retired entry with start := none } :=
    { (checkpointOk_retired checkpointOk.entryId blocks unfinished checkpointOk.start :
        CheckpointOk accept.identity entry plan (checkpoint.retired entry)) with
      start := fun _ absent => absurd absent (by simp)}
  apply yields_updateCheckpoint
  rw [yields_modify, ReceiverDataPlaneLedgerV2.update_eq_put present]
  have reset := (ok.put found planFound retired).withDigest none
  have saved : (receiverContract offer accept).keeps { world with
      ledger := some { ledger.put entryId.toNat { checkpoint.retired entry with start := none } with
        senderCompletionSetDigest := none } } := by
    intro left same
    obtain rfl := Option.some.inj same
    exact reset
  exact yields_saveLedger kept ⟨saved, reset⟩

/-! ## Runs over reconnects -/

omit [Blake3] [UnicodeNormalization] [PayloadSink] in
theorem checkpointOk_new [Blake3] [PayloadSink] {identity : JobGenerationV2}
    (planOk : PlanOk entry plan) :
    CheckpointOk identity entry plan (newCheckpoint entry plan) where
  entryId := rfl
  boundary := planOk.boundary
  start := fun _ absent => nomatch absent
  planned := fun reuse => (planOk.reuse reuse).2
  opened := fun _ => ⟨rfl, rfl⟩
  reused := fun other => nomatch other
  owned := fun other => nomatch other
  finished := fun other => nomatch other
  completed := fun other => absurd rfl other
  result := fun _ absent => nomatch absent

/-- A new ledger is consistent with the Accept it is made for. -/
theorem LedgerOk.of_new (forest : CanonicalForest offer.manifest)
    (created : ReceiverDataPlaneLedgerV2.new offer accept = .ok (some ledger)) :
    Agreed offer accept ∧ LedgerOk offer accept ledger := by
  simp only [ReceiverDataPlaneLedgerV2.new, bind_eq_ok, exists_unit, mapErr_eq_ok, pure_eq_ok,
    Option.map_eq_some_iff, mapM_eq_some] at created
  obtain ⟨accepted, digest, body, checkpoints, planned, rfl⟩ := created
  have agreed : Agreed offer accept := ⟨forest, accepted⟩
  refine ⟨agreed, rfl, rfl, body, ?_, ?_⟩
  · have length := congrArg List.length planned
    simpa using length.symm
  · intro index entry plan checkpoint found planFound present
    have here := congrArg (·[index]?) planned
    simp only [List.getElem?_map, found, Option.map_some,
      show checkpoints[index]? = some checkpoint from present, forest.entryIds index entry found,
        planFound, Option.some.injEq] at here
    rw [← here]
    exact checkpointOk_new (agreed.planOk found planFound)

/-- The ledgers a receiver of `offer` under `accept` may find in its store: a new one, and those
left by any run of `receive`, or by a reset of the destination, cut anywhere. -/
inductive ReachableLedger [Zstd] (offer : ManifestOfferV2) (accept : ManifestAcceptV2) :
    ReceiverDataPlaneLedgerV2 → Prop where
  | created {ledger : ReceiverDataPlaneLedgerV2}
      (new : ReceiverDataPlaneLedgerV2.new offer accept = .ok (some ledger)) :
      ReachableLedger offer accept ledger
  | received {ledger next : ReceiverDataPlaneLedgerV2} {fuel : Nat} {world final : EngineWorld}
      {rest : Proc EngineOp EngineReply (Except ManifestV2DataError ReceiverDataPlaneSummaryV2 ×
        ReceiverDataPlaneLedgerV2)}
      (before : ReachableLedger offer accept ledger) (loaded : world.ledger = some ledger)
      (run : Proc.Reaches (engineContract defaultStart PayloadSink.reusable fun _ => True)
        ((receive fuel offer).runOn ledger) world rest final)
      (durable : final.ledger = some next) : ReachableLedger offer accept next
  | reset {ledger next : ReceiverDataPlaneLedgerV2} {entryId : UInt32} {world final : EngineWorld}
      {rest : Proc EngineOp EngineReply (Except ManifestV2DataError Unit ×
        ReceiverDataPlaneLedgerV2)}
      (before : ReachableLedger offer accept ledger) (loaded : world.ledger = some ledger)
      (run : Proc.Reaches (engineContract defaultStart PayloadSink.reusable fun _ => True)
        ((resetPayloadCheckpoint offer.manifest entryId).runOn ledger) world rest final)
      (durable : final.ledger = some next) : ReachableLedger offer accept next

/-- Every durable ledger is consistent. -/
theorem ReachableLedger.ok [Zstd] (forest : CanonicalForest offer.manifest)
    (reachable : ReachableLedger offer accept ledger) :
    Agreed offer accept ∧ LedgerOk offer accept ledger := by
  induction reachable with
  | created new => exact LedgerOk.of_new forest new
  | received before loaded run durable ih =>
    obtain ⟨agreed, ok⟩ := ih
    have kept : (receiverContract offer accept).keeps _ := fun found same => by
      rw [loaded] at same
      exact Option.some.inj same ▸ ok
    have run := run.keeping (receiverContract offer accept).keeps
    exact ⟨agreed, (receive_yields agreed ok kept _).reaches kept run _ durable⟩
  | reset before loaded run durable ih =>
    obtain ⟨agreed, ok⟩ := ih
    have kept : (receiverContract offer accept).keeps _ := fun found same => by
      rw [loaded] at same
      exact Option.some.inj same ▸ ok
    have run := run.keeping (receiverContract offer accept).keeps
    exact ⟨agreed, (resetPayloadCheckpoint_yields ok kept _).reaches kept run _ durable⟩

end Run

end Envoix.Transfer
