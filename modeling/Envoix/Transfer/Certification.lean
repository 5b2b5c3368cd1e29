import Envoix.Transfer.ResumeAgreement

/-! # What a finished `send` certifies

The results that `send` commits to, against the digests the manifest commits to.  An entry that is
transferred is hashed from its source; the completion of an entry that the receiver reports as
decided is rebuilt from the report, with the digest of the report.
-/

namespace Envoix.Transfer

open ByteCodec Fallible Process Process.Method Envoix.Protocol

section Entry

variable {State : Type} {state : State} {world : EngineWorld} {identity : JobGenerationV2}
  {entry : ManifestEntryV2}
  {plan : EntryPlanV2} {encoding : EntryEncodingV2}

/-- The completion has the digest the manifest commits the entry to, if any. -/
def Certifies (entry : ManifestEntryV2) (completion : EntryCompleteV2) : Prop :=
  ∀ digest ∈ committedDigest entry, completion.finalDigest = digest

/-- No digest is computed in the background for an entry with a committed one. -/
structure Unproposed (file : SendFileState) : Prop where
  hashTask : file.hashTask = false
  lateDigest : file.lateDigest = none
  reuseChosen : file.reuseChosen = false

theorem sendBlock_unproposed [Zstd] {total : UInt64} {file : SendFileState}
    (unproposed : Unproposed file) :
    (sendBlock identity entry plan encoding total file : EngineProgram State SendFileState).Yields
      senderContract
      (fun next _ _ => Unproposed next) state world := by
  unfold sendBlock
  refine (quiet_perform fun _ _ => rfl).bind ?_
  intro reply left read _
  rw [yields_bind, yields_raise]
  intro bytes _
  have kept : ∀ next : SendFileState, next.hashTask = file.hashTask →
      next.lateDigest = file.lateDigest →
      next.reuseChosen = file.reuseChosen → Unproposed next := by
    intro next hashTask lateDigest reuseChosen
    exact ⟨hashTask ▸ unproposed.hashTask, lateDigest ▸ unproposed.lateDigest,
      reuseChosen ▸ unproposed.reuseChosen⟩
  split
  case isTrue _ =>
    simp only [yields_bind, yields_raise, yields_pure]
    refine (yields_free fun _ => trivial).mono fun _ _ _ _ _ _ _ _ => ?_
    exact kept _ rfl rfl rfl
  case isFalse _ =>
    simp only [yields_bind, yields_raise, yields_pure]
    exact fun _ _ _ _ => kept _ rfl rfl rfl

theorem sendFileLoop_unproposed [Zstd] {total : UInt64} (fuel : Nat) {file : SendFileState}
    (unproposed : Unproposed file) :
    (sendFileLoop identity entry plan encoding total fuel file :
      EngineProgram State SendFileState).Yields
      senderContract (fun next _ _ => Unproposed next) state world := by
  induction fuel generalizing file state world with
  | zero => exact yields_abort
  | succ fuel ih =>
    rw [sendFileLoop]
    by_cases more : file.plaintextOffset < entry.plaintextSize
    · have notReady : (lateDigestReady entry file : EngineProgram State Bool) = pure false := by
        simp [lateDigestReady, unproposed.hashTask]
      rw [if_neg (not_not.mpr more), notReady, pure_bind, if_neg Bool.false_ne_true, yields_bind]
      refine (sendBlock_unproposed unproposed).mono ?_
      intro next left sent still
      exact ih still
    · rw [if_pos more]
      exact yields_pure.mpr unproposed

theorem finishFile_certifies [Blake3] {total resumedEntryBytes : UInt64} {file : SendFileState}
    {digest : ContentDigestV2} (committed : committedDigest entry = some digest)
    (unproposed : Unproposed file) :
    (finishFile identity entry plan total resumedEntryBytes file :
      EngineProgram State (ContentDigestV2 × Bool × UInt64)).Yields senderContract
      (fun next _ _ => next.1 = digest) state world := by
  unfold finishFile finishPayload
  simp only [unproposed.reuseChosen, Bool.false_eq_true, if_false, committed, yields_bind,
    yields_raise, yields_pure]
  exact (yields_free fun _ => trivial).mono fun _ _ _ _ _ _ => trivial

theorem sendReusedFile_certifies {total resumedEntryBytes completed : UInt64} :
    (sendReusedFile identity entry total resumedEntryBytes completed :
      EngineProgram State (EntryCompleteV2 × UInt64)).Yields senderContract
      (fun next _ _ => Certifies entry next.1) state world := by
  unfold sendReusedFile
  rw [yields_bind, yields_raise]
  intro digest known
  rw [okOr_eq_ok] at known
  simp only [yields_bind, yields_pure]
  refine (yields_free fun _ => trivial).mono fun _ _ _ _ => ?_
  refine (yields_free fun _ => trivial).mono fun _ _ _ _ => ?_
  refine (yields_free fun _ => trivial).mono fun _ _ _ _ => ?_
  intro other committed
  exact Option.some.inj (known.symm.trans committed)

theorem sendFile_certifies [Blake3] [Zstd] (fuel : Nat)
    {total resumedEntryBytes completed : UInt64} :
    (sendFile fuel identity entry plan encoding total resumedEntryBytes completed :
      EngineProgram State (EntryCompleteV2 × UInt64)).Yields senderContract
      (fun next _ _ => Certifies entry next.1) state world := by
  cases committed : committedDigest entry with
  | none =>
    refine (yields_free fun _ => trivial).mono fun _ _ _ _ => ?_
    intro digest listed
    rw [committed] at listed
    cases listed
  | some digest =>
    rw [sendFile, yields_bind]
    refine (yields_free fun _ => trivial).mono fun _ _ _ _ => ?_
    split
    case isTrue _ => exact sendReusedFile_certifies
    case isFalse _ =>
      simp only [yields_bind, yields_pure]
      refine (yields_free fun _ => trivial).mono fun _ _ _ _ => ?_
      refine (sendFileLoop_unproposed fuel ⟨by simp [committed], rfl,
        rfl⟩).mono fun file _ _ unproposed => ?_
      refine (finishFile_certifies committed unproposed).mono fun next _ _ same => ?_
      refine (yields_free fun _ => trivial).mono fun _ _ _ _ => ?_
      intro other listed
      rw [committed] at listed
      exact same.trans (Option.some.inj listed)

end Entry

section Run

variable [Blake3] [UnicodeNormalization] {accept : ManifestAcceptV2}
  {record : SenderDeliveryRecordV2}
  {world : EngineWorld}

/-- The completion is the one rebuilt from the report, or else has the committed digest. -/
def Vouched (identity : JobGenerationV2) (resume : Option ResumeStatusV2) (entry : ManifestEntryV2)
    (completion : EntryCompleteV2) : Prop :=
  match (resume.bind (·.entries[entry.entryId.toNat]?)).bind (resumedCompletion identity entry) with
  | some rebuilt => rebuilt = .ok completion
  | none => Certifies entry completion

omit [UnicodeNormalization] in
theorem transmitEntry_certifies [Zstd] (fuel : Nat) (checkpoint : Option ResumeEntryV2)
    (total completed : UInt64) {entry : ManifestEntryV2}
    (directory : entry.kind = .directory → committedDigest entry = none) :
    (transmitEntry fuel accept checkpoint total entry completed).Yields senderContract
      (fun next _ _ => Certifies entry next.1) record world := by
  unfold transmitEntry
  rw [yields_bind]
  apply yields_element
  intro plan _
  split
  case isTrue kind =>
    refine (yields_free fun _ => trivial).mono fun _ _ _ _ => ?_
    intro digest listed
    rw [directory kind] at listed
    cases listed
  case isFalse _ =>
    rw [yields_bind, yields_get, yields_bind, yields_raise]
    intro encoding _
    rw [yields_bind]
    refine (yields_free fun _ => trivial).mono fun _ _ _ _ => ?_
    rw [yields_bind, yields_raise]
    intro resumedEntryBytes _
    exact sendFile_certifies fuel

omit [UnicodeNormalization] in
theorem sendEntry_vouches [Zstd] (fuel : Nat) (resume : Option ResumeStatusV2)
    (total completed : UInt64) {entry : ManifestEntryV2}
    (directory : entry.kind = .directory → committedDigest entry = none) :
    (sendEntry fuel accept resume total entry completed).Yields senderContract
      (fun next _ _ => Vouched accept.identity resume entry next.1) record world := by
  rw [sendEntry, yields_bind]
  refine (resumeCheckpoint_yields resume entry).mono ?_
  rintro checkpoint _ _ ⟨_, _, found⟩
  simp only [Vouched, ← found]
  cases checkpoint.bind (resumedCompletion accept.identity entry) with
  | some rebuilt =>
    simp only [yields_bind, yields_raise, yields_pure]
    exact fun _ ok => ok
  | none => exact transmitEntry_certifies fuel checkpoint total completed directory

theorem sendEntries_vouches [Zstd] (fuel : Nat) (resume : Option ResumeStatusV2) (total : UInt64)
    {entries : List ManifestEntryV2}
    (directories : ∀ entry ∈ entries, entry.kind = .directory → committedDigest entry = none)
      (hasher : Bytes)
    (completed : UInt64) :
    (sendEntries fuel accept resume total entries hasher completed).Yields senderContract
      (fun next _ _ => List.Forall₂ (Vouched accept.identity resume) entries next.2)
        record world := by
  induction entries generalizing hasher completed record world with
  | nil => exact yields_pure.mpr .nil
  | cons entry entries ih =>
    rw [sendEntries, yields_bind]
    refine (sendEntry_vouches fuel resume total completed
      (directories entry List.mem_cons_self)).mono ?_
    rintro ⟨completion, completed⟩ left sent vouched
    rw [yields_bind, yields_raise]
    intro fed _
    rw [yields_bind]
    refine (ih (fun other listed => directories other (.tail _ listed)) fed completed).mono ?_
    rintro ⟨last, completions⟩ _ final rest
    exact yields_pure.mpr (.cons vouched rest)

omit [Blake3] [UnicodeNormalization] in
theorem recvEntryResults_yields {identity : JobGenerationV2}
    (pairs : List (ManifestEntryV2 × EntryCompleteV2)) :
    (recvEntryResults identity pairs).Yields senderContract
      (fun results _ _ =>
        List.Forall₂ (fun pair result => validateEntryResult pair.1 identity pair.2 result = .ok ())
        pairs results) record world := by
  induction pairs generalizing record world with
  | nil => exact yields_pure.mpr .nil
  | cons pair pairs ih =>
    rw [recvEntryResults, yields_bind]
    refine (yields_free fun _ => trivial).mono fun result _ _ _ => ?_
    rw [yields_bind, yields_raise]
    intro _ valid
    rw [yields_bind]
    refine ih.mono fun results _ _ rest => ?_
    exact yields_pure.mpr (.cons valid rest)

/-! ## The frame that opens the run -/

/-- Beyond what had arrived before, `frame` arrived first. -/
def ArrivedFirst (before : List ManifestV2Frame) (frame : ManifestV2Frame) (world : EngineWorld) :
    Prop :=
  before ++ [frame] <+: world.received

omit [Blake3] [UnicodeNormalization] in
theorem arrivedFirst_stable {before : List ManifestV2Frame} {frame : ManifestV2Frame}
    (world : EngineWorld) (op : EngineOp) (reply : EngineReply op)
    (arrived : ArrivedFirst before frame world) :
    ArrivedFirst before frame (senderContract.after world op reply) :=
  arrived.trans (world.received_grows op reply)

/-- What opened the run: the status it resumes from, or an Accept. -/
inductive Opening (manifest : ManifestV2) (before : List ManifestV2Frame) (world : EngineWorld) :
    Option ResumeStatusV2 → Prop where
  | resumed {status : ResumeStatusV2} (covers : status.entries.length = manifest.entries.length)
      (arrived : ArrivedFirst before (.resumeStatus status) world) :
      Opening manifest before world (some status)
  | accepted {accept : ManifestAcceptV2} (arrived : ArrivedFirst before (.accept accept) world) :
      Opening manifest before world none

omit [UnicodeNormalization] in
theorem validateResumeStatus_length {manifest : ManifestV2} {status : ResumeStatusV2} {done : Unit}
    (valid : validateResumeStatus manifest record status = .ok done) :
    status.entries.length = manifest.entries.length := by
  simp only [validateResumeStatus, bind_eq_ok, reject_eq_ok, not_or, not_not] at valid
  obtain ⟨_, _, _, ⟨_, _, _, covers⟩, _⟩ := valid
  exact covers

theorem establishSenderReconnect_opens (manifest : ManifestV2) :
    (establishSenderReconnect (some manifest)).Yields senderContract
      (fun status _ final => Opening manifest world.received final (some status)) record world := by
  simp only [establishSenderReconnect, yields_bind, yields_raise, yields_get, okOr_eq_ok]
  intro sealed same offer _ _ _ digest _ capability _
  obtain rfl := Option.some.inj same
  rw [yields_perform]
  intro reply _
  refine ⟨trivial, ?_⟩
  intro nonce _
  cases record.phase with
  | transferring | waitingForReceiverSave | delivered =>
    rw [yields_bind, yields_pure, yields_bind]
    apply yields_sendFrame
    refine ⟨trivial, ?_⟩
    rw [yields_bind]
    refine yields_recvFrame trivial fun frame _ => ⟨trivial, ?_⟩
    cases frame with
    | resumeStatus status =>
      simp only [yields_bind, yields_raise, yields_pure]
      intro _ _ _ _ _ valid
      exact .resumed (validateResumeStatus_length valid) (List.prefix_refl _)
    | _ =>
      rw [yields_bind]
      exact yields_throw.mpr trivial
  | offering | failed | canceled =>
    rw [yields_bind]
    exact yields_throw.mpr trivial

/-- Nothing has arrived before the Accept or the resume status does. -/
theorem agreeAccept_opens (manifest : ManifestV2) (offer : ManifestOfferV2) :
    (agreeAccept (some manifest) offer).Yields senderContract
      (fun next _ final => Opening manifest world.received final next.2.2) record world := by
  rw [agreeAccept, yields_bind]
  apply yields_onStage trivial
  rw [yields_bind, yields_get]
  split
  case isTrue _ =>
    rw [yields_bind]
    refine (establishSenderReconnect_opens manifest).mono ?_
    intro status _ final opening
    simp only [yields_bind, yields_get, yields_raise, yields_pure]
    exact fun _ _ _ _ => opening
  case isFalse _ =>
    rw [yields_bind]
    apply yields_sendFrame
    refine ⟨trivial, ?_⟩
    rw [yields_bind]
    refine yields_recvFrame trivial fun frame _ => ⟨trivial, ?_⟩
    cases frame with
    | accept accept =>
      simp only [yields_bind, yields_get, yields_raise, yields_pure]
      intro _ _ digest _
      refine yields_onRecord fun _ left _ => ?_
      refine yields_saveSender trivial fun _ => ⟨trivial, ?_⟩
      exact .accepted (List.prefix_refl _)
    | _ =>
      rw [yields_bind]
      exact yields_throw.mpr trivial

/-! ## Results -/

/-- The receiver reports the entry as decided. -/
def ReportedDecided (checkpoint : ResumeEntryV2) : Prop :=
  checkpoint.entryResult.isSome ∨ checkpoint.arbiter ≠ .payloadOpen

instance (checkpoint : ResumeEntryV2) : Decidable (ReportedDecided checkpoint) :=
  inferInstanceAs (Decidable (_ ∨ _))

/-- The digest the report gives for an entry. -/
def reportedDigest (checkpoint : ResumeEntryV2) : Option ContentDigestV2 :=
  match checkpoint.entryResult with
  | some result => result.finalDigest
  | none => checkpoint.contentDigest

/-- A status reports every decided entry with the digest the manifest commits it to. -/
def ReportsCommitted (manifest : ManifestV2) (status : ResumeStatusV2) : Prop :=
  ∀ pair ∈ manifest.entries.zip status.entries, ReportedDecided pair.2 →
    ∀ digest ∈ committedDigest pair.1, reportedDigest pair.2 = some digest

instance (manifest : ManifestV2) (status : ResumeStatusV2) :
    Decidable (ReportsCommitted manifest status) :=
  inferInstanceAs (Decidable (∀ pair ∈ _, _ → ∀ digest ∈ committedDigest _, _))

/-- The results are those of the files in the manifest: one per entry, every size, and every
committed digest. -/
structure CertifiesManifest (manifest : ManifestV2) (results : List EntryResultV2) : Prop where
  length : results.length = manifest.entries.length
  sizes : ∀ pair ∈ manifest.entries.zip results, pair.2.finalSize = pair.1.plaintextSize
  digests : ∀ pair ∈ manifest.entries.zip results, ∀ digest, pair.1.contentDigest = .known digest →
    pair.2.finalDigest = some digest

omit [UnicodeNormalization] in
theorem resumedCompletion_eq_none {identity : JobGenerationV2} {entry : ManifestEntryV2}
    {checkpoint : ResumeEntryV2} :
    resumedCompletion identity entry checkpoint = none ↔ ¬ ReportedDecided checkpoint := by
  unfold resumedCompletion ReportedDecided
  cases checkpoint.entryResult with
  | some result => simp
  | none => cases checkpoint.arbiter <;> simp

omit [UnicodeNormalization] in
/-- A rebuilt completion of a file has the digest of the report. -/
theorem resumedCompletion_digest {identity : JobGenerationV2} {entry : ManifestEntryV2}
    {checkpoint : ResumeEntryV2} {completion : EntryCompleteV2} (file : entry.kind = .regularFile)
    (rebuilt : resumedCompletion identity entry checkpoint = some (.ok completion)) :
    reportedDigest checkpoint = some completion.finalDigest := by
  unfold resumedCompletion at rebuilt
  unfold reportedDigest
  cases reports : checkpoint.entryResult with
  | some result =>
    simp only [reports, Option.some.injEq] at rebuilt
    simp only [completionFromResult, file, bind_eq_ok] at rebuilt
    obtain ⟨_, _, built⟩ := rebuilt
    cases reported : result.finalDigest with
    | none =>
      rw [reported] at built
      cases built
    | some digest =>
      rw [reported] at built
      obtain rfl := Except.ok.inj built
      exact reported
  | none =>
    simp only [reports] at rebuilt
    cases arbiter : checkpoint.arbiter with
    | payloadOpen => simp [arbiter] at rebuilt
    | reuseChosen =>
      simp only [arbiter, ne_eq, reduceCtorEq, not_false_eq_true, if_true, Option.some.injEq,
        completionFromResumeCheckpoint, bind_eq_ok, okOr_eq_ok, pure_eq_ok] at rebuilt
      obtain ⟨digest, known, _, same, built⟩ := rebuilt
      rw [← built, ← same]
      exact known
    | payloadCompleteChosen =>
      simp only [arbiter, ne_eq, reduceCtorEq, not_false_eq_true, if_true, Option.some.injEq,
        completionFromResumeCheckpoint, file, if_false, bind_eq_ok, okOr_eq_ok,
        pure_eq_ok] at rebuilt
      obtain ⟨digest, known, _, same, built⟩ := rebuilt
      rw [← built, ← same]
      exact known

/-- What a finished run has established, entry by entry. -/
structure Finished (manifest : ManifestV2) (before : List ManifestV2Frame)
    (results : List EntryResultV2) (world : EngineWorld) : Prop where
  forest : CanonicalForest manifest
  entries : ∃ identity resume completions, Opening manifest before world resume ∧
    List.Forall₂ (Vouched identity resume) manifest.entries completions ∧
    List.Forall₂ (fun pair result => validateEntryResult pair.1 identity pair.2 result = .ok ())
      (manifest.entries.zip completions) results

omit [Blake3] [UnicodeNormalization] in
theorem Opening.stable {manifest : ManifestV2} {before : List ManifestV2Frame}
    {resume : Option ResumeStatusV2} (world : EngineWorld) (op : EngineOp) (reply : EngineReply op)
    (opening : Opening manifest before world resume) :
    Opening manifest before (senderContract.after world op reply) resume := by
  cases opening with
  | resumed covers arrived => exact .resumed covers (arrivedFirst_stable world op reply arrived)
  | accepted arrived => exact .accepted (arrivedFirst_stable world op reply arrived)

theorem send_finishes [Zstd] (fuel : Nat) (manifest : ManifestV2) :
    (send fuel (some manifest)).Yields senderContract
      (fun summary _ final => Finished manifest world.received summary.entryResults final)
        record world := by
  simp only [send, yields_bind, yields_raise, yields_get, okOr_eq_ok]
  intro _ same offer rebuilt
  obtain rfl := Option.some.inj same
  have forest : CanonicalForest manifest := by
    simp only [rebuildOffer, mapErr_eq_ok, buildManifestOfferV2, bind_eq_ok, exists_unit] at rebuilt
    exact accepted_iff_canonicalForest.mp (validate_eq_ok.mp rebuilt.1)
  have directories : ∀ entry ∈ manifest.entries, entry.kind = .directory →
      committedDigest entry = none := by
    intro entry listed directory
    rw [committedDigest, (forest.directories entry listed directory).2]
  refine (prepareSenderEntryEncodings_yields trivial offer).mono ?_
  rintro _ prepared _ ⟨sameWorld, _⟩ _ _
  subst sameWorld
  refine yields_saveSender trivial fun _ => ⟨trivial, ?_⟩
  refine (agreeAccept_opens manifest offer).mono ?_
  rintro ⟨accept, acceptBodyDigest, resume⟩ _ opened opening
  apply yields_onStage trivial
  apply yields_onPhase trivial
  cases resume
  case' none => simp only [yields_bind, yields_pure, yields_get]
  case' some status =>
    simp only [yields_bind, yields_raise, yields_pure, yields_get]
    intro completed _
  all_goals
    apply yields_onProgress trivial
    refine ((sendEntries_vouches fuel _ _ directories [] _).stable Opening.stable opening).mono ?_
    rintro ⟨hasher, completions⟩ _ sent ⟨opening, vouched⟩
    apply yields_onStage trivial
    apply yields_sendFrame
    refine ⟨trivial, ?_⟩
    have opening :=
      opening.stable sent
        (.delivery (.sendManifestV2Frame (.jobComplete ⟨accept.identity, ⟨Blake3.hash hasher⟩⟩)))
          (.ok ())
    refine ((recvEntryResults_yields (manifest.entries.zip completions)).stable Opening.stable
      opening).mono ?_
    rintro results _ received ⟨opening, valid⟩
    refine yields_onRecord fun _ left _ => ?_
    refine yields_saveSender trivial fun _ => ⟨trivial, ?_⟩
    apply yields_onPhase trivial
    have opening := opening.stable received (.delivery (.saveSender left)) .written
    exact ⟨forest, accept.identity, _, completions, opening, vouched, valid⟩

omit [UnicodeNormalization] in
/-- A certified result of an entry that was reported, or of one that was transferred. -/
theorem vouched_result {identity : JobGenerationV2} {resume : Option ResumeStatusV2}
    {entry : ManifestEntryV2} {completion : EntryCompleteV2} {result : EntryResultV2}
    (file : entry.kind = .regularFile) (vouched : Vouched identity resume entry completion)
    (valid : validateEntryResult entry identity completion result = .ok ()) :
    (∃ checkpoint, resume.bind (·.entries[entry.entryId.toNat]?) = some checkpoint ∧
      ReportedDecided checkpoint ∧ result.finalDigest = reportedDigest checkpoint) ∨
    ((∀ checkpoint, resume.bind (·.entries[entry.entryId.toNat]?) = some checkpoint →
      ¬ ReportedDecided checkpoint) ∧
        ∀ digest ∈ committedDigest entry, result.finalDigest = some digest) := by
  have digests : result.finalDigest = some completion.finalDigest := by
    simp only [validateEntryResult, reject_eq_ok, not_or, file, true_and, not_not] at valid
    exact valid.2.2.2.2.2.2
  unfold Vouched at vouched
  cases found : resume.bind (·.entries[entry.entryId.toNat]?) with
  | none =>
    right
    rw [found] at vouched
    refine ⟨(by simp), ?_⟩
    intro digest committed
    rw [digests, vouched digest committed]
  | some checkpoint =>
    rw [found] at vouched
    by_cases decided : ReportedDecided checkpoint
    · left
      cases rebuilt : resumedCompletion identity entry checkpoint with
      | none => exact absurd decided (resumedCompletion_eq_none.mp rebuilt)
      | some outcome =>
        simp only [Option.bind_some, rebuilt] at vouched
        subst vouched
        exact ⟨checkpoint, rfl, decided, digests.trans (resumedCompletion_digest file rebuilt).symm⟩
    · right
      simp only [Option.bind_some, resumedCompletion_eq_none.mpr decided] at vouched
      refine ⟨?_, ?_⟩
      · intro other same
        rwa [← Option.some.inj same]
      · intro digest committed
        rw [digests, vouched digest committed]

omit [Blake3] [UnicodeNormalization] in
theorem committedDigest_eq_some {entry : ManifestEntryV2} {digest : ContentDigestV2} :
    committedDigest entry = some digest ↔ entry.contentDigest = .known digest := by
  unfold committedDigest
  cases entry.contentDigest <;> simp

omit [Blake3] [UnicodeNormalization] in
/-- Beyond the frames from before, the first of a run is the one that opened it. -/
theorem ArrivedFirst.head {before frames : List ManifestV2Frame} {frame : ManifestV2Frame}
    {world : EngineWorld} (first : ArrivedFirst before frame world)
    (arrived : world.received = before ++ frames) :
    frames.head? = some frame := by
  obtain ⟨rest, same⟩ := first
  rw [arrived, List.append_assoc, List.append_cancel_left_eq] at same
  rw [← same]
  rfl

/-- The facts about the entry at one position of a finished run. -/
theorem Finished.at {manifest : ManifestV2} {before : List ManifestV2Frame}
    {results : List EntryResultV2} {world : EngineWorld}
    (finished : Finished manifest before results world) :
    results.length = manifest.entries.length ∧
      ∃ identity resume, Opening manifest before world resume ∧ ∀ (index : Nat)
        (entry : ManifestEntryV2) (result : EntryResultV2), manifest.entries[index]? = some entry →
        results[index]? = some result → entry.entryId.toNat = index ∧ ∃ completion,
          Vouched identity resume entry completion ∧
            validateEntryResult entry identity completion result = .ok () := by
  obtain ⟨forest, identity, resume, completions, opening, vouched, valid⟩ := finished
  have pairs : (manifest.entries.zip completions).length = manifest.entries.length := by
    rw [List.length_zip, ← vouched.length_eq, Nat.min_self]
  refine ⟨valid.length_eq.symm.trans pairs, identity, resume, opening, ?_⟩
  intro index entry result entryFound resultFound
  refine ⟨forest.entryIds index entry entryFound, ?_⟩
  obtain ⟨bound, same⟩ := List.getElem?_eq_some_iff.mp entryFound
  have completionBound : index < completions.length := vouched.length_eq ▸ bound
  refine ⟨completions[index], ?_, ?_⟩
  · have here := List.Forall₂.get vouched bound completionBound
    simpa [same] using here
  · obtain ⟨resultBound, sameResult⟩ := List.getElem?_eq_some_iff.mp resultFound
    have here := List.Forall₂.get valid (pairs ▸ bound) resultBound
    simpa [same, sameResult] using here

omit [Blake3] [UnicodeNormalization] in
theorem index_of_mem_zip {α β : Type} {left : List α} {right : List β} {pair : α × β}
    (listed : pair ∈ left.zip right) :
    ∃ index : Nat, left[index]? = some pair.1 ∧ right[index]? = some pair.2 := by
  obtain ⟨index, found⟩ := List.mem_iff_getElem?.mp listed
  exact ⟨index, List.getElem?_zip_eq_some.mp found⟩

/-- A committed digest is one of a file. -/
theorem Finished.file {manifest : ManifestV2} {before : List ManifestV2Frame}
    {results : List EntryResultV2} {world : EngineWorld}
    (finished : Finished manifest before results world) {index : Nat} {entry : ManifestEntryV2}
    {digest : ContentDigestV2} (found : manifest.entries[index]? = some entry)
    (committed : entry.contentDigest = .known digest) : entry.kind = .regularFile := by
  cases kind : entry.kind with
  | regularFile => rfl
  | directory =>
    rw [(finished.forest.directories entry (List.mem_of_getElem? found) kind).2] at committed
    cases committed

/-- A finished run certifies the files of the manifest exactly when it was not resumed from a report
that gives a decided entry another digest than the committed one. -/
theorem send_certifies_iff [Zstd] {fuel : Nat} {manifest : ManifestV2}
    {record left : SenderDeliveryRecordV2} {world final : EngineWorld}
    {summary : SenderDataPlaneSummaryV2} {frames : List ManifestV2Frame}
    (run : Proc.Reaches senderContract ((send fuel (some manifest)).runOn record) world
      (.ret (.ok summary, left)) final) (arrived : final.received = world.received ++ frames) :
    CertifiesManifest manifest summary.entryResults ↔
      ∀ status, frames.head? = some (.resumeStatus status) → ReportsCommitted manifest status := by
  have finished := (send_finishes fuel manifest).returns trivial run
  obtain ⟨length, identity, resume, opening, entries⟩ := finished.at
  constructor
  · intro certified status first pair listed decided digest committed
    -- the status is the one the run was resumed from
    cases opening with
    | accepted accepted =>
      rw [accepted.head arrived] at first
      cases first
    | resumed covers opened =>
      rw [opened.head arrived] at first
      cases first
      obtain ⟨index, entryFound, checkpointFound⟩ := index_of_mem_zip listed
      have bound : index < summary.entryResults.length := by
        rw [length]
        exact (List.getElem?_eq_some_iff.mp entryFound).1
      have resultFound := List.getElem?_eq_getElem bound
      obtain ⟨place, completion, vouched, valid⟩ := entries index pair.1 _ entryFound resultFound
      have known := committedDigest_eq_some.mp committed
      have here : Option.bind (some status) (fun status => status.entries[pair.1.entryId.toNat]?) =
          some pair.2 := by
        rw [place]
        exact checkpointFound
      have final := certified.digests (pair.1, summary.entryResults[index])
        (List.mem_of_getElem? (List.getElem?_zip_eq_some.mpr ⟨entryFound, resultFound⟩))
          digest known
      obtain ⟨checkpoint, found, _, reported⟩ | ⟨undecided, _⟩ :=
        vouched_result (finished.file entryFound known) vouched valid
      · obtain rfl := Option.some.inj (here.symm.trans found)
        exact reported.symm.trans final
      · exact absurd decided (undecided pair.2 here)
  · intro reports
    refine ⟨length, ?_, ?_⟩
    · intro pair listed
      obtain ⟨index, entryFound, resultFound⟩ := index_of_mem_zip listed
      obtain ⟨_, _, _, valid⟩ := entries index pair.1 pair.2 entryFound resultFound
      simp only [validateEntryResult, reject_eq_ok, not_or, not_not] at valid
      exact valid.2.2.2.1
    · intro pair listed digest known
      obtain ⟨index, entryFound, resultFound⟩ := index_of_mem_zip listed
      obtain ⟨place, completion, vouched, valid⟩ :=
        entries index pair.1 pair.2 entryFound resultFound
      have committed := committedDigest_eq_some.mpr known
      obtain ⟨checkpoint, found, decided, reported⟩ | ⟨_, certified⟩ :=
        vouched_result (finished.file entryFound known) vouched valid
      · cases opening with
        | accepted _ => cases found
        | @resumed status covers opened =>
          rw [Option.bind_some, place] at found
          rw [reported]
          exact reports status (opened.head arrived) (pair.1, checkpoint)
            (List.mem_of_getElem? (List.getElem?_zip_eq_some.mpr ⟨entryFound, found⟩))
              decided digest committed
      · exact certified digest committed

end Run

/-! ## A resumed job of one file

The manifest commits the empty file to its digest; the receiver reports it as complete with the
digest it likes.  The digests are the BLAKE3 values of the inputs that occur. -/

def knownManifest : ManifestV2 := { folderManifest with
  roots :=
    [{ rootId := 0, rootEntryId := 0, requestedName := "notes.txt", completeness := .complete }]
  entries := [{
    entryId := 0, rootId := 0, parentEntryId := none, component := "notes.txt",
    kind := .regularFile, plaintextSize := 0, contentDigest := .known nothingDigest }]
  totals := { fileCount := 1, directoryCount := 0, totalPlaintextBytes := 0 } }

/-- The digest of another file. -/
def forgedDigest : ContentDigestV2 := ⟨.replicate 32 0x77⟩

def knownDigest : ContentDigestV2 :=
  ⟨⟨[0xe0, 0x65, 0xb1, 0x13, 0xf4, 0x46, 0x12, 0x55, 0x8d, 0x4c, 0x51, 0x39, 0xed, 0xcc, 0xae, 0x66,
    0x4b, 0x81, 0xd2, 0x26, 0xe6, 0xd4, 0x2d, 0x8e, 0x16, 0x87, 0x86, 0x7d, 0xdc, 0x10, 0xfb, 0x1d],
      rfl⟩⟩

def knownAcceptDigest : ContentDigestV2 :=
  ⟨⟨[0xac, 0xf2, 0x2b, 0x72, 0x29, 0x94, 0x14, 0x14, 0x94, 0x3f, 0x0b, 0x6c, 0x73, 0x67, 0xad, 0x8b,
    0xe6, 0x02, 0x0a, 0x27, 0xdc, 0x42, 0xbd, 0xef, 0x9f, 0x5a, 0x57, 0x90, 0x52, 0x65, 0x63, 0xbb],
      rfl⟩⟩

def forgedSetDigest : ContentDigestV2 :=
  ⟨⟨[0x8d, 0xe0, 0x06, 0x4c, 0xa3, 0x5c, 0xba, 0xbe, 0xff, 0x98, 0x2e, 0xab, 0x40, 0xd7, 0xfd, 0xe3,
    0x5c, 0xe9, 0x59, 0x55, 0x5e, 0x50, 0xa0, 0xa6, 0xa7, 0xd9, 0x6e, 0x0a, 0x3b, 0x3d, 0x6a, 0xf4],
      rfl⟩⟩

def honestSetDigest : ContentDigestV2 :=
  ⟨⟨[0x62, 0xf9, 0x34, 0x5e, 0x5e, 0x52, 0x9f, 0x53, 0x7c, 0x28, 0x35, 0x4b, 0x74, 0x2b, 0xeb, 0x41,
    0x0a, 0xb6, 0x4b, 0x38, 0xcc, 0xa8, 0xad, 0x4e, 0xe1, 0x0b, 0x14, 0x58, 0xf7, 0x4e, 0x8f, 0x86],
      rfl⟩⟩

def knownChallengeKey : ByteVector 32 :=
  ⟨[0x8c, 0x36, 0x69, 0x30, 0x0b, 0xd7, 0xd9, 0x6a, 0x7c, 0x44, 0x41, 0xc4, 0x2c, 0xe7, 0x7d, 0x5b,
    0xb7, 0x1d, 0xfb, 0xdf, 0x3b, 0x06, 0x90, 0x1d, 0x81, 0x51, 0x80, 0x27, 0x5c, 0x7f, 0xa2, 0x49],
      rfl⟩

def knownChallengeMac : ByteVector 32 :=
  ⟨[0xff, 0xa6, 0x41, 0x30, 0x25, 0x4b, 0x0b, 0xc1, 0x0d, 0x63, 0x5a, 0x93, 0x76, 0xe4, 0x94, 0x93,
    0xa4, 0x07, 0x53, 0x66, 0x26, 0x4b, 0x40, 0x03, 0xbf, 0x74, 0x67, 0x57, 0x32, 0x87, 0x25, 0x02],
      rfl⟩

def knownCheckpoint : ByteVector 32 :=
  ⟨[0x09, 0x61, 0x13, 0xa8, 0xdb, 0x70, 0xb5, 0xba, 0x3e, 0x8e, 0x9c, 0x11, 0x6b, 0x52, 0x67, 0x72,
    0xa9, 0x32, 0x3d, 0x5a, 0xaf, 0xe6, 0xdf, 0x89, 0x94, 0x42, 0xe5, 0x3c, 0xfd, 0xc8, 0xec, 0xdd],
      rfl⟩

@[reducible] def knownBlake3 : Blake3 where
  hash input :=
    if input = encodeManifestBody knownManifest then knownDigest.bytes
    else if forgedDigest.bytes.toList <:+: input then forgedSetDigest.bytes
    else honestSetDigest.bytes
  deriveKey context _ :=
    if context = challengeKeyContext then knownChallengeKey else knownCheckpoint
  keyedHash _ _ := knownChallengeMac

def knownAccept : ManifestAcceptV2 :=
  { folderAccept with manifestDigest := knownDigest, rootPlans := [⟨0, "notes.txt"⟩] }

def knownRecord : SenderDeliveryRecordV2 :=
  { folderRecord with
    manifestDigest := knownDigest, accept := some knownAccept,
    acceptBodyDigest := some knownAcceptDigest }

def knownNonce : ByteVector 32 := .replicate 32 0x21

def reportedStatus (digest : ContentDigestV2) : ResumeStatusV2 where
  identity := folderIdentity
  acceptBodyDigest := knownAcceptDigest
  planRevision := 1
  entries := [⟨0, .payloadCompleteChosen, 0, some digest, none⟩]
  challengeNonce := knownNonce
  challengeMac := knownChallengeMac

def reportedResult (digest : ContentDigestV2) : EntryResultV2 :=
  ⟨folderIdentity, 0, .saved, 0, some digest, none⟩

def reportedFrames (digest : ContentDigestV2) : List ManifestV2Frame :=
  [.resumeStatus (reportedStatus digest), .entryResult (reportedResult digest)]

/-- Every write goes through, and `frames` come in one after another. -/
def senderSmoothly (frames : List ManifestV2Frame) (world : EngineWorld) : (op : EngineOp) →
    Option (EngineReply op)
  | .delivery (.saveSender _) => some .written
  | .delivery (.sendManifestV2Frame _) => some (.ok ())
  | .newChallengeNonce => some (some knownNonce)
  | op => smoothly frames world op

def emptyWorld : EngineWorld := ⟨none, none, none, [], []⟩

def reportedRun (digest : ContentDigestV2) :=
  Proc.walk EngineWorld.after (senderSmoothly (reportedFrames digest)) 40
    ((@send knownBlake3 asciiNormalization storedZstd 5 (some knownManifest)).runOn knownRecord)
      emptyWorld

def reportedSummary (setDigest digest : ContentDigestV2) : SenderDataPlaneSummaryV2 :=
  ⟨folderIdentity, knownAcceptDigest, setDigest, [reportedResult digest]⟩

/-- The record after the results. -/
def reportedRecord (setDigest digest : ContentDigestV2) : SenderDeliveryRecordV2 :=
  { knownRecord with
    phase := .waitingForReceiverSave
    entryResults := [reportedResult digest]
    senderCompletionSetDigest := some setDigest }

theorem reported_reaches {setDigest digest : ContentDigestV2}
      (ended : (reportedRun digest).1.value? =
      some (.ok (reportedSummary setDigest digest), reportedRecord setDigest digest)) :
    Proc.Reaches senderContract
      ((@send knownBlake3 asciiNormalization storedZstd 5 (some knownManifest)).runOn knownRecord)
        emptyWorld
      (.ret (.ok (reportedSummary setDigest digest), reportedRecord setDigest digest))
        (reportedRun digest).2 := by
  have run : Proc.Reaches senderContract
      ((@send knownBlake3 asciiNormalization storedZstd 5 (some knownManifest)).runOn knownRecord)
        emptyWorld
      (reportedRun digest).1 (reportedRun digest).2 :=
    Proc.walk_reaches (fun _ op reply _ => repliesWith_free op reply) 40 _ _
  rwa [Proc.value?_eq_some.mp ended] at run

/-- The receiver says that another file is complete, and the sender certifies that file. -/
theorem forged_report_is_certified :
    ¬ ∀ (fuel : Nat) (manifest : ManifestV2) (record left : SenderDeliveryRecordV2)
      (world final : EngineWorld) (summary : SenderDataPlaneSummaryV2), record.phase = .offering ∨
        record.phase = .transferring →
      Proc.Reaches senderContract
        ((@send knownBlake3 asciiNormalization storedZstd fuel (some manifest)).runOn record) world
        (.ret (.ok summary, left)) final →
      CertifiesManifest manifest summary.entryResults := by
  intro always
  have ended : (reportedRun forgedDigest).1.value? =
      some (.ok (reportedSummary forgedSetDigest forgedDigest),
        reportedRecord forgedSetDigest forgedDigest) := by
    set_option maxRecDepth 8000 in decide
  have certified := always 5 knownManifest _ _ _ _ _ (.inr rfl) (reported_reaches ended)
  have digest := certified.digests _ List.mem_cons_self nothingDigest rfl
  revert digest
  decide

/-- The report of the file itself is certified. -/
theorem send_certifies_iff_honest :
    (reportedRun nothingDigest).1.value? =
      some (.ok (reportedSummary honestSetDigest nothingDigest),
        reportedRecord honestSetDigest nothingDigest) ∧
    CertifiesManifest knownManifest [reportedResult nothingDigest] := by
  have ended : (reportedRun nothingDigest).1.value? =
      some (.ok (reportedSummary honestSetDigest nothingDigest),
        reportedRecord honestSetDigest nothingDigest) := by
    set_option maxRecDepth 8000 in decide
  have arrived : (reportedRun nothingDigest).2.received = [] ++ reportedFrames nothingDigest := by
    set_option maxRecDepth 8000 in decide
  refine ⟨ended, (@send_certifies_iff knownBlake3 asciiNormalization storedZstd _ _ _ _ _ _ _ _
    (reported_reaches ended) arrived).mpr ?_⟩
  intro status first
  obtain rfl : reportedStatus nothingDigest = status := by
    simpa [reportedFrames] using first
  decide

end Envoix.Transfer
