import Envoix.Transfer.LedgerConsistency

/-! # Receiving one entry

Whatever frames an open entry is sent and wherever its reception is cut, the durable ledger stays
consistent; an entry that ends is decided with the one completion that came in for it.
-/

namespace Envoix.Transfer

open ByteCodec Fallible Process Process.Method Envoix.Protocol

section Entry

variable [Blake3] [UnicodeNormalization] [PayloadSink]

/-- The completions among some frames, in order. -/
def completes (frames : List ManifestV2Frame) : List EntryCompleteV2 :=
  frames.filterMap fun
    | .entryComplete completion => some completion
    | _ => none

/-- A sender of this repository announces every entry with the default block size. -/
def defaultStart : ManifestV2Frame → Prop
  | .entryStart start => start.plaintextBlockBytes = defaultManifestV2BlockPlaintextBytes
  | _ => True

/-- Any environment of a receiver, with its durable ledger consistent. -/
def receiverContract (offer : ManifestOfferV2) (accept : ManifestAcceptV2) :
    Contract EngineOp EngineReply EngineWorld :=
  engineContract defaultStart PayloadSink.reusable fun world =>
    ∀ ledger ∈ world.ledger, LedgerOk offer accept ledger

/-- A consistent ledger seen at the entry that is being received. -/
structure Focus (offer : ManifestOfferV2) (accept : ManifestAcceptV2)
    (base : ReceiverDataPlaneLedgerV2) (index : Nat) (entry : ManifestEntryV2)
    (plan : EntryPlanV2) : Prop where
  agreed : Agreed offer accept
  ok : LedgerOk offer accept base
  entryFound : offer.manifest.entries[index]? = some entry
  planFound : accept.entryPlans[index]? = some plan

/-- The entry's payload is still being decided. -/
structure Receiving (plan : EntryPlanV2) (checkpoint : ReceiverEntryCheckpointV2) : Prop where
  unfinished : checkpoint.result = none
  undecided : checkpoint.arbiter ≠ .payloadCompleteChosen
  reuse : plan.disposition = .reuseExisting → checkpoint.arbiter = .reuseChosen

variable {offer : ManifestOfferV2} {accept : ManifestAcceptV2} {base : ReceiverDataPlaneLedgerV2}
  {index : Nat}
  {entry : ManifestEntryV2} {plan : EntryPlanV2} {checkpoint : ReceiverEntryCheckpointV2}
    {world : EngineWorld}
  {done : Unit → ReceiverDataPlaneLedgerV2 → EngineWorld → Prop}

namespace Focus

theorem bound (focus : Focus offer accept base index entry plan) : index < base.entries.length := by
  rw [focus.ok.length]
  exact (List.getElem?_eq_some_iff.mp focus.entryFound).1

theorem planOk (focus : Focus offer accept base index entry plan) : PlanOk entry plan :=
  focus.agreed.planOk focus.entryFound focus.planFound

theorem checkpointAt (focus : Focus offer accept base index entry plan)
    {post : ReceiverEntryCheckpointV2 → ReceiverDataPlaneLedgerV2 → EngineWorld → Prop}
    (holds : post checkpoint (base.put index checkpoint) world) :
    (checkpointAt index).Yields (receiverContract offer accept) post
      (base.put index checkpoint) world := by
  apply yields_checkpointAt
  intro found same
  rw [ReceiverDataPlaneLedgerV2.entries_put_self focus.bound, Option.some.injEq] at same
  exact same ▸ holds

theorem update {change : ReceiverEntryCheckpointV2 → ReceiverEntryCheckpointV2}
    (holds : done () (base.put index (change checkpoint)) world) :
    (updateCheckpoint index change).Yields (receiverContract offer accept) done
      (base.put index checkpoint)
      world := by
  apply yields_updateCheckpoint
  rw [ReceiverDataPlaneLedgerV2.put_update]
  exact holds

theorem save (focus : Focus offer accept base index entry plan)
    (kept : (receiverContract offer accept).keeps world)
    (ok : CheckpointOk accept.identity entry plan checkpoint)
    (holds : (receiverContract offer accept).keeps { world with
      ledger := some (base.put index checkpoint) } →
      done () (base.put index checkpoint)
      { world with ledger := some (base.put index checkpoint) }) :
    saveLedger.Yields (receiverContract offer accept) done (base.put index checkpoint) world := by
  have saved :
      (receiverContract offer accept).keeps { world with
          ledger := some (base.put index checkpoint) } := by
    intro ledger same
    obtain rfl := Option.some.inj same
    exact focus.ok.put focus.entryFound focus.planFound ok
  exact yields_saveLedger kept ⟨saved, holds saved⟩

/-- A retired payload is durable before the sink hears of it; what follows is an error. -/
theorem retireMismatch (focus : Focus offer accept base index entry plan)
    (kept : (receiverContract offer accept).keeps world)
    (entryId : checkpoint.entryId = entry.entryId) (unfinished : checkpoint.result = none)
    (start : ∀ start ∈ checkpoint.start, start.plaintextBlockBytes =
      defaultManifestV2BlockPlaintextBytes)
    (holds : ∀ ledger world, done () ledger world) :
    (retireMismatch entry index).Yields (receiverContract offer accept) done
      (base.put index checkpoint) world := by
  obtain ⟨total, blocks, -⟩ := focus.planOk.boundary
  rw [Transfer.retireMismatch, yields_bind]
  apply update
  rw [yields_bind]
  apply focus.save kept (checkpointOk_retired entryId blocks unfinished start)
  intro saved
  exact yields_attempt (fun _ _ => rfl) saved fun _ => holds _ _

end Focus

omit [Blake3] [UnicodeNormalization] [PayloadSink] in
theorem setOrEqualDigest_eq_ok {digest : ContentDigestV2} {digested : ReceiverEntryCheckpointV2} :
    setOrEqualDigest checkpoint digest = .ok digested ↔
      digested = { checkpoint with contentDigest := some digest } ∧
        ∀ existing ∈ checkpoint.contentDigest, existing = digest := by
  obtain ⟨entryId, start, arbiter, next, bytes, content, completion, result, retired⟩ := checkpoint
  cases content with
  | none => simp [setOrEqualDigest, eq_comm]
  | some existing =>
    by_cases same : existing = digest
    · simp [setOrEqualDigest, same, eq_comm]
    · simp [setOrEqualDigest, same]

omit [UnicodeNormalization] in
/-- Remembering a digest changes nothing that is decided. -/
theorem CheckpointOk.digested (ok : CheckpointOk accept.identity entry plan checkpoint)
    (receiving : Receiving plan checkpoint) {digest : ContentDigestV2}
    (known : ∀ existing ∈ checkpoint.contentDigest, existing = digest) :
    CheckpointOk accept.identity entry plan { checkpoint with contentDigest := some digest } where
  entryId := ok.entryId
  boundary := ok.boundary
  start := ok.start
  planned := ok.planned
  opened := ok.opened
  reused := fun chosen => ⟨(ok.reused chosen).1, (ok.reused chosen).2.1, rfl⟩
  owned := ok.owned
  finished := fun chosen => absurd chosen receiving.undecided
  completed := by
    intro decided completion found
    have chosen : checkpoint.arbiter = .reuseChosen := by
      cases arbiter : checkpoint.arbiter with
      | payloadOpen => exact absurd arbiter decided
      | reuseChosen => rfl
      | payloadCompleteChosen => exact absurd arbiter receiving.undecided
    obtain ⟨-, -, some_⟩ := ok.reused chosen
    obtain ⟨existing, content⟩ := Option.isSome_iff_exists.mp some_
    obtain rfl := known existing content
    have before := ok.completed decided completion found
    simpa [ReceiverEntryCheckpointV2.resumeEntry, content] using before
  result := ok.result

omit [Blake3] [UnicodeNormalization] [PayloadSink] in
/-- An accepted block starts within the file, so the boundary after it is still within the file. -/
theorem next_le_of_validateBlock {block : EntryBlockV2} {next : UInt64}
    (start : ∀ start ∈ checkpoint.start, start.plaintextBlockBytes =
      defaultManifestV2BlockPlaintextBytes)
    (valid : validateBlock entry checkpoint block = .ok ())
    (advanced : checkedAdd64 checkpoint.nextPlaintextBlock 1 = some next) {total : UInt64}
    (blocks : totalBlocks entry = .ok total) : next ≤ total := by
  simp only [validateBlock, bind_eq_ok, okOr_eq_ok, reject_eq_ok, checkedMul64_eq_some,
    checkedAdd64_eq_some, not_or, not_not] at valid advanced
  obtain ⟨found, started, offset, ⟨-, product⟩, ending, ⟨-, sum⟩, -, -, boundary, placed, within,
    nonempty, -⟩ := valid
  rw [start found started] at product
  have width : defaultManifestV2BlockPlaintextBytes.toUInt64.toNat = defaultBlockBytes.toNat := rfl
  have positive : 0 < block.plaintextLength.toUInt64.toNat := by
    rw [UInt32.toNat_toUInt64]
    exact Nat.pos_of_ne_zero fun zero => nonempty (UInt32.toNat_inj.mp zero)
  have inside : checkpoint.nextPlaintextBlock.toNat * defaultBlockBytes.toNat <
      entry.plaintextSize.toNat := by
    have within := UInt64.le_iff_toNat_le.mp (UInt64.not_lt.mp within)
    rw [sum, placed, product, boundary, width] at within
    omega
  rw [UInt64.le_iff_toNat_le, advanced.2, (totalBlocks_eq_ok.mp blocks).2,
    Nat.le_div_iff_mul_le (by decide : 0 < defaultBlockBytes.toNat), Nat.add_mul,
    show (1 : UInt64).toNat = 1 from rfl, Nat.one_mul]
  omega

theorem closePayload_yields (focus : Focus offer accept base index entry plan)
    (kept : (receiverContract offer accept).keeps world)
    (entryId : checkpoint.entryId = entry.entryId) (unfinished : checkpoint.result = none)
    (start : ∀ start ∈ checkpoint.start, start.plaintextBlockBytes =
      defaultManifestV2BlockPlaintextBytes)
    {digest : ContentDigestV2} (closed : checkpoint.arbiter = .payloadOpen →
      CheckpointOk accept.identity entry plan { checkpoint with arbiter := .payloadCompleteChosen })
    (holds : ∀ final, (receiverContract offer accept).keeps final →
      final.received = world.received → checkpoint.arbiter = .payloadOpen →
      done () (base.put index { checkpoint with arbiter := .payloadCompleteChosen }) final) :
    (closePayload entry index digest checkpoint).Yields (receiverContract offer accept) done
      (base.put index checkpoint) world := by
  rw [closePayload]
  split
  case isTrue _ =>
    rw [yields_bind]
    refine focus.retireMismatch kept entryId unfinished start fun _ _ => ?_
    exact yields_throw.mpr trivial
  case isFalse matching =>
    rw [not_or, not_not] at matching
    rw [yields_bind, yields_perform]
    intro reply _
    refine ⟨kept, ?_⟩
    cases reply with
    | error error =>
      rw [yields_bind]
      refine focus.retireMismatch kept entryId unfinished start fun _ _ => ?_
      exact yields_throw.mpr trivial
    | ok _ =>
      rw [yields_bind]
      apply Focus.update
      exact focus.save kept (closed matching.1) fun saved => holds _ saved rfl matching.1

omit [UnicodeNormalization] [PayloadSink] in
/-- The completion of a decided file, as a resume status describes it. -/
theorem completionFromResumeCheckpoint_file {identity : JobGenerationV2} {resumed : ResumeEntryV2}
    {completion : EntryCompleteV2} (file : entry.kind = .regularFile)
    (fields : completion.identity = identity ∧ completion.entryId = entry.entryId ∧
      completion.finalSize = entry.plaintextSize)
    (digest : resumed.contentDigest = some completion.finalDigest)
    (choice : resumed.arbiter = .reuseChosen ∧ completion.completionChoice = .reuseChosen ∨
      resumed.arbiter = .payloadCompleteChosen ∧ completion.completionChoice = .payloadComplete) :
    completionFromResumeCheckpoint identity entry resumed = .ok completion := by
  obtain ⟨own, id, size, final, chosen⟩ := completion
  obtain ⟨rfl, rfl, rfl⟩ := fields
  obtain ⟨arbiter, rfl⟩ | ⟨arbiter, rfl⟩ := choice
  all_goals simp [completionFromResumeCheckpoint, arbiter, digest, file, okOr]

omit [Blake3] [UnicodeNormalization] [PayloadSink] in
theorem completes_append (before after : List ManifestV2Frame) :
    completes (before ++ after) = completes before ++ completes after := by
  simp only [completes, List.filterMap_append]

theorem recvEntryStart_yields {identity : JobGenerationV2} {entryId : UInt32}
    {ledger : ReceiverDataPlaneLedgerV2} (kept : (receiverContract offer accept).keeps world) :
    (recvEntryStart identity entryId).Yields (receiverContract offer accept)
      (fun start left final => left = ledger ∧ (receiverContract offer accept).keeps final ∧
        completes final.received = completes world.received ∧
        start.plaintextBlockBytes = defaultManifestV2BlockPlaintextBytes)
      ledger world := by
  rw [recvEntryStart, yields_bind]
  refine yields_recvFrame kept fun frame default => ⟨kept, ?_⟩
  cases frame with
  | entryStart start =>
    rw [yields_bind, yields_raise]
    intro _ _
    refine yields_pure.mpr ⟨rfl, kept, ?_, default⟩
    rw [completes_append]
    exact List.append_nil _
  | _ => exact yields_throw.mpr trivial

/-- What one frame of a file may do while the entry is being received. -/
def StillReceiving (offer : ManifestOfferV2) (accept : ManifestAcceptV2)
    (base : ReceiverDataPlaneLedgerV2) (index : Nat) (entry : ManifestEntryV2) (plan : EntryPlanV2)
    (world : EngineWorld) (ledger : ReceiverDataPlaneLedgerV2) (final : EngineWorld) : Prop :=
  (receiverContract offer accept).keeps final ∧ final.received = world.received ∧
    ∃ checkpoint, ledger = base.put index checkpoint ∧
      CheckpointOk accept.identity entry plan checkpoint ∧ Receiving plan checkpoint

/-- The entry is decided with this completion. -/
def Decided (offer : ManifestOfferV2) (accept : ManifestAcceptV2) (base : ReceiverDataPlaneLedgerV2)
    (index : Nat) (entry : ManifestEntryV2) (plan : EntryPlanV2) (completion : EntryCompleteV2)
    (ledger : ReceiverDataPlaneLedgerV2) (final : EngineWorld) : Prop :=
  (receiverContract offer accept).keeps final ∧ ∃ checkpoint, ledger = base.put index checkpoint ∧
    CheckpointOk accept.identity entry plan checkpoint ∧ checkpoint.arbiter ≠ .payloadOpen ∧
    checkpoint.completion = some completion

/-- The entry is decided with the one completion that came in meanwhile. -/
def Received (offer : ManifestOfferV2) (accept : ManifestAcceptV2)
    (base : ReceiverDataPlaneLedgerV2) (index : Nat) (entry : ManifestEntryV2) (plan : EntryPlanV2)
    (world : EngineWorld) (ledger : ReceiverDataPlaneLedgerV2) (final : EngineWorld) : Prop :=
  ∃ completion, completes final.received = completes world.received ++ [completion] ∧
    Decided offer accept base index entry plan completion ledger final

section Frames

variable (focus : Focus offer accept base index entry plan)
  (kept : (receiverContract offer accept).keeps world)
  (ok : CheckpointOk accept.identity entry plan checkpoint)

include focus kept ok

/-- A directory is complete when the sender says so and the sink has made it. -/
theorem receiveDirectory_yields (opened : checkpoint.arbiter = .payloadOpen)
    (directory : entry.kind = .directory) :
    (receiveDirectory entry accept.identity index).Yields (receiverContract offer accept)
      (fun _ ledger final => (receiverContract offer accept).keeps final ∧ ∃ completion decided,
        ledger = base.put index decided ∧ CheckpointOk accept.identity entry plan decided ∧
        decided.arbiter ≠ .payloadOpen ∧ decided.completion = some completion ∧
        completes final.received = completes world.received ++ [completion])
      (base.put index checkpoint) world := by
  rw [receiveDirectory, yields_bind]
  refine yields_recvFrame kept fun frame _ => ⟨kept, ?_⟩
  cases frame with
  | entryComplete completion =>
    simp only [yields_bind, yields_pure, yields_raise, reject_eq_ok, not_or, not_not]
    rintro _ ⟨identity, entryId, size, digest, choice⟩
    refine yields_attempt (fun _ _ => rfl) ?_ fun _ => ?_
    · exact kept
    apply Focus.update
    have empty :=
      (focus.agreed.forest.directories entry (List.mem_of_getElem? focus.entryFound) directory).1
    have unfinished := (ok.opened opened).1
    have decided : CheckpointOk accept.identity entry plan
        { checkpoint with arbiter := .payloadCompleteChosen, completion := some completion } := {
      entryId := ok.entryId
      boundary := ok.boundary
      start := ok.start
      planned := ok.planned
      opened := fun other => absurd other (by simp)
      reused := fun other => absurd other (by simp)
      owned := fun other => absurd other (by simp)
      finished := fun _ => rfl
      completed := by
        intro _ other same
        obtain rfl := Option.some.inj same
        simp [completionFromResumeCheckpoint, ReceiverEntryCheckpointV2.resumeEntry,
          directory, empty]
        rw [← identity, ← entryId, ← size, ← digest, ← choice]
      result := by
        intro result found
        rw [unfinished] at found
        cases found }
    refine focus.save kept decided fun saved => ?_
    exact ⟨saved, completion, _, rfl, decided, (by simp), rfl, by simp [completes]⟩
  | _ => exact yields_throw.mpr trivial

theorem chooseReuse_yields (receiving : Receiving plan checkpoint)
    (file : entry.kind = .regularFile) (total completed : UInt64) {digest : ContentDigestV2}
    (known : checkpoint.contentDigest = some digest) :
    (chooseReuse entry index total completed digest).Yields (receiverContract offer accept)
      (fun _ => StillReceiving offer accept base index entry plan world)
        (base.put index checkpoint) world := by
  have unchanged :
    StillReceiving offer accept base index entry plan world (base.put index checkpoint) world :=
    ⟨kept, rfl, checkpoint, rfl, ok, receiving⟩
  rw [chooseReuse, yields_bind]
  apply focus.checkpointAt
  split
  case isTrue _ => exact yields_pure.mpr unchanged
  case isFalse opened =>
    rw [not_not] at opened
    rw [yields_bind]
    refine yields_tryChooseReuse kept fun chosen reusable => ?_
    split
    case isTrue _ => exact yields_pure.mpr unchanged
    case isFalse positive =>
      rw [yields_bind]
      apply Focus.update
      refine yields_advance kept fun _ => ⟨kept, rfl, _, rfl, ?_, ?_⟩
      · obtain ⟨total, blocks, -⟩ := ok.boundary
        obtain ⟨unfinished, incomplete⟩ := ok.opened opened
        exact {
          entryId := ok.entryId
          boundary := ⟨total, blocks, UInt64.le_iff_toNat_le.mpr (Nat.zero_le _)⟩
          start := ok.start
          planned := fun _ => rfl
          opened := fun other => absurd other (by simp)
          reused := fun _ => ⟨file, rfl, by simp [known]⟩
          owned := fun _ => reusable (by simpa using positive)
          finished := fun other => absurd other (by simp)
          completed := fun _ completion found => by
            rw [incomplete] at found
            cases found
          result := ok.result }
      · exact ⟨receiving.unfinished, (by simp), fun _ => rfl⟩

theorem receiveContentDigest_yields (receiving : Receiving plan checkpoint)
    (file : entry.kind = .regularFile) (total completed : UInt64)
    (frame : EntryContentDigestFrameV2) :
    (receiveContentDigest entry index total completed frame).Yields (receiverContract offer accept)
      (fun _ => StillReceiving offer accept base index entry plan world)
        (base.put index checkpoint) world := by
  simp only [receiveContentDigest, yields_bind, yields_get, yields_raise]
  intro _ _ _ _
  apply focus.checkpointAt
  cases digested : setOrEqualDigest checkpoint frame.digest with
  | error _ =>
    simp only [yields_bind, yields_throw]
    exact focus.retireMismatch kept ok.entryId receiving.unfinished ok.start fun _ _ => trivial
  | ok next =>
    obtain ⟨rfl, known⟩ := setOrEqualDigest_eq_ok.mp digested
    have ok := ok.digested receiving known
    have receiving : Receiving plan { checkpoint with contentDigest := some frame.digest } :=
      ⟨receiving.unfinished, receiving.undecided, receiving.reuse⟩
    simp only [yields_bind]
    apply Focus.update
    refine (chooseReuse_yields focus kept ok receiving file total completed rfl).mono ?_
    rintro _ ledger final ⟨kept, received, chosen, same, ok, receiving⟩
    subst same
    refine focus.save kept ok fun saved => ?_
    apply focus.checkpointAt
    apply yields_sendFrame
    exact ⟨saved, yields_pure.mpr ⟨saved, received, chosen, rfl, ok, receiving⟩⟩

theorem receiveBlock_yields [Zstd] (receiving : Receiving plan checkpoint)
    (total completed : UInt64) (block : EntryBlockV2) :
    (receiveBlock entry index total completed block).Yields (receiverContract offer accept)
      (fun _ => StillReceiving offer accept base index entry plan world)
        (base.put index checkpoint) world := by
  rw [receiveBlock, yields_bind]
  apply focus.checkpointAt
  simp only [yields_bind, yields_raise, reject_eq_ok, okOr_eq_ok, not_not]
  intro _ valid _ opened start _ _ _
  refine yields_attempt (fun _ _ => rfl) kept fun _ next advanced => ?_
  apply Focus.update
  intro bytes _
  apply Focus.update
  obtain ⟨unfinished, incomplete⟩ := ok.opened opened
  have moved : CheckpointOk accept.identity entry plan
      { checkpoint with nextPlaintextBlock := next, plaintextBytes := bytes } := {
    entryId := ok.entryId
    boundary := by
      obtain ⟨total, blocks, -⟩ := ok.boundary
      exact ⟨total, blocks, next_le_of_validateBlock ok.start valid advanced blocks⟩
    start := ok.start
    planned := fun reuse => by
      rw [receiving.reuse reuse] at opened
      cases opened
    opened := ok.opened
    reused := fun chosen => by
      rw [opened] at chosen
      cases chosen
    owned := ok.owned
    finished := fun chosen => by
      rw [opened] at chosen
      cases chosen
    completed := fun decided => absurd opened decided
    result := ok.result }
  refine focus.save kept moved fun saved => ?_
  apply yields_onStage saved
  refine yields_advance saved fun _ => ⟨saved, rfl, _, rfl, moved, ?_⟩
  exact ⟨receiving.unfinished, receiving.undecided, receiving.reuse⟩

theorem receiveFileCompletion_yields (receiving : Receiving plan checkpoint)
    (file : entry.kind = .regularFile) {completion : EntryCompleteV2}
    (fields : completion.identity = accept.identity ∧ completion.entryId = entry.entryId ∧
      completion.finalSize = entry.plaintextSize)
    (digest : checkpoint.contentDigest = some completion.finalDigest) :
    (receiveFileCompletion entry index completion.finalDigest).Yields
      (receiverContract offer accept)
      (fun _ ledger final => final.received = world.received ∧
        Decided offer accept base index entry plan completion ledger final)
      (base.put index { checkpoint with completion := some completion }) world := by
  rw [receiveFileCompletion, yields_bind]
  apply focus.checkpointAt
  simp only [okOr, yields_bind, yields_raise, Except.ok.injEq, forall_eq']
  cases choice : completion.completionChoice with
  | reuseChosen =>
    simp only [yields_bind, yields_raise, reject_eq_ok, not_not]
    intro _ chosen
    apply Focus.update
    have decided :
      CheckpointOk accept.identity entry plan { checkpoint with completion := some completion } := {
      entryId := ok.entryId
      boundary := ok.boundary
      start := ok.start
      planned := ok.planned
      opened := fun opened => by
        rw [show checkpoint.arbiter = .reuseChosen from chosen] at opened
        cases opened
      reused := ok.reused
      owned := ok.owned
      finished := fun _ => rfl
      completed := fun _ found same => by
        obtain rfl := Option.some.inj same
        exact completionFromResumeCheckpoint_file file fields digest (.inl ⟨chosen, choice⟩)
      result := fun result found => by
        rw [receiving.unfinished] at found
        cases found }
    refine focus.save kept decided fun saved => ⟨rfl, saved, _, rfl, decided, ?_, rfl⟩
    rw [show checkpoint.arbiter = .reuseChosen from chosen]
    simp
  | payloadComplete =>
    have closed : CheckpointOk accept.identity entry plan
        { checkpoint with completion := some completion, arbiter := .payloadCompleteChosen } := {
      entryId := ok.entryId
      boundary := ok.boundary
      start := ok.start
      planned := ok.planned
      opened := fun other => absurd other (by simp)
      reused := fun other => absurd other (by simp)
      owned := fun other => absurd other (by simp)
      finished := fun _ => rfl
      completed := fun _ found same => by
        obtain rfl := Option.some.inj same
        exact completionFromResumeCheckpoint_file file fields digest (.inr ⟨rfl, choice⟩)
      result := fun result found => by
        rw [receiving.unfinished] at found
        cases found }
    simp only [yields_bind]
    apply closePayload_yields focus kept
    · exact ok.entryId
    · exact receiving.unfinished
    · exact ok.start
    · exact fun _ => closed
    intro final kept received _
    apply Focus.update
    exact focus.save kept closed fun saved => ⟨received, saved, _, rfl, closed, (by simp), rfl⟩

theorem receiveEntryComplete_yields (receiving : Receiving plan checkpoint)
    (file : entry.kind = .regularFile) (completion : EntryCompleteV2) :
    (receiveEntryComplete entry index completion).Yields (receiverContract offer accept)
      (fun _ ledger final => final.received = world.received ∧
        Decided offer accept base index entry plan completion ledger final)
      (base.put index checkpoint) world := by
  simp only [receiveEntryComplete, yields_bind, yields_get, yields_raise, reject_eq_ok,
    not_or, not_not]
  rintro _ ⟨identity, entryId⟩
  apply focus.checkpointAt
  cases digested : setOrEqualDigest checkpoint completion.finalDigest with
  | error _ =>
    simp only [yields_bind, yields_throw]
    exact focus.retireMismatch kept ok.entryId receiving.unfinished ok.start fun _ _ => trivial
  | ok next =>
    obtain ⟨rfl, known⟩ := setOrEqualDigest_eq_ok.mp digested
    have ok := ok.digested receiving known
    have receiving :
      Receiving plan { checkpoint with contentDigest := some completion.finalDigest } :=
      ⟨receiving.unfinished, receiving.undecided, receiving.reuse⟩
    simp only [yields_bind]
    apply Focus.update
    split
    case isTrue _ =>
      rw [yields_bind]
      refine focus.retireMismatch kept ok.entryId receiving.unfinished ok.start fun _ _ => ?_
      exact yields_throw.mpr trivial
    case isFalse size =>
      rw [not_not] at size
      have fields : completion.identity = accept.identity ∧ completion.entryId = entry.entryId ∧
          completion.finalSize = entry.plaintextSize :=
            ⟨identity.trans focus.ok.identity, entryId, size⟩
      rw [decideCompletion, yields_bind]
      apply Focus.update
      rw [yields_bind]
      apply yields_onPhase kept
      rw [yields_bind]
      refine yields_outcome kept
        (receiveFileCompletion_yields focus kept ok receiving file fields rfl) ?_
      intro result ledger final kept holds
      rw [yields_bind]
      exact yields_onPhase kept (yields_raise.mpr holds)

/-- One frame of a file either leaves the entry open or decides it. -/
theorem receiveFileFrame_yields [Zstd] (receiving : Receiving plan checkpoint)
    (file : entry.kind = .regularFile) (total completed : UInt64) :
    (receiveFileFrame entry index total completed).Yields (receiverContract offer accept)
      (fun step ledger final => (receiverContract offer accept).keeps final ∧
        if step.1 then Received offer accept base index entry plan world ledger final
        else completes final.received = completes world.received ∧
          ∃ checkpoint, ledger = base.put index checkpoint ∧
            CheckpointOk accept.identity entry plan checkpoint ∧ Receiving plan checkpoint)
      (base.put index checkpoint) world := by
  rw [receiveFileFrame, yields_bind, yields_get, yields_bind]
  refine yields_recvFrame kept fun frame _ => ⟨kept, ?_⟩
  have kept :
    (receiverContract offer accept).keeps { world with received := world.received ++ [frame] } :=
      kept
  cases frame with
  | entryContentDigest frame =>
    rw [yields_bind]
    refine (receiveContentDigest_yields focus kept ok receiving file total completed frame).mono ?_
    intro _ ledger final ⟨kept, received, next⟩
    rw [yields_pure, received, completes_append]
    exact ⟨kept, List.append_nil _, next⟩
  | entryBlock block =>
    rw [yields_bind]
    refine (receiveBlock_yields focus kept ok receiving total completed block).mono ?_
    intro _ ledger final ⟨kept, received, next⟩
    rw [yields_pure, received, completes_append]
    exact ⟨kept, List.append_nil _, next⟩
  | entryComplete completion =>
    rw [yields_bind]
    refine (receiveEntryComplete_yields focus kept ok receiving file completion).mono ?_
    intro _ ledger final ⟨received, decided⟩
    rw [yields_pure]
    refine ⟨decided.1, completion, ?_, decided⟩
    rw [received, completes_append]
    rfl
  | _ => exact yields_throw.mpr trivial

/-- The loop ends with the completion that decided the entry. -/
theorem receiveFileLoop_yields [Zstd] (file : entry.kind = .regularFile) (total : UInt64)
    (fuel : Nat) (completed : UInt64) (receiving : Receiving plan checkpoint) :
    (receiveFileLoop entry index total fuel completed).Yields (receiverContract offer accept)
      (fun _ => Received offer accept base index entry plan world)
        (base.put index checkpoint) world := by
  induction fuel generalizing completed world checkpoint with
  | zero => exact yields_abort
  | succ fuel ih =>
    rw [receiveFileLoop, yields_bind]
    refine (receiveFileFrame_yields focus kept ok receiving file total completed).mono ?_
    intro (finished, completed) ledger final ⟨kept, step⟩
    cases finished with
    | true => exact yields_pure.mpr step
    | false =>
      obtain ⟨unchanged, next, rfl, ok, receiving⟩ := step
      refine (ih kept ok completed receiving).mono ?_
      intro _ ledger last ⟨completion, received, decided⟩
      exact ⟨completion, unchanged ▸ received, decided⟩

theorem applyReusePlan_yields (opened : checkpoint.arbiter = .payloadOpen)
    (file : entry.kind = .regularFile) (total completed : UInt64) :
    (applyReusePlan entry plan index total completed).Yields (receiverContract offer accept)
      (fun _ => StillReceiving offer accept base index entry plan world)
        (base.put index checkpoint) world := by
  obtain ⟨unfinished, incomplete⟩ := ok.opened opened
  rw [applyReusePlan, yields_bind]
  apply focus.checkpointAt
  split
  case isTrue payload =>
    refine yields_pure.mpr ⟨kept, rfl, checkpoint, rfl, ok, unfinished, ?_,
      fun reuse => absurd reuse payload⟩
    rw [opened]
    simp
  case isFalse reuse =>
    rw [not_not] at reuse
    simp only [yields_bind, yields_raise, okOr_eq_ok]
    intro digest known
    refine yields_tryChooseReuse kept fun chosen reusable _ positive => ?_
    rw [reject_eq_ok] at positive
    apply Focus.update
    have chosen :
      CheckpointOk accept.identity entry plan { checkpoint with arbiter := .reuseChosen } := {
      entryId := ok.entryId
      boundary := ok.boundary
      start := ok.start
      planned := ok.planned
      opened := fun other => (by simp at other)
      reused := fun _ => ⟨file, ok.planned reuse, by simp [known]⟩
      owned := fun _ => reusable (by simpa using positive)
      finished := fun other => (by simp at other)
      completed := fun _ completion found => by
        rw [incomplete] at found
        cases found
      result := ok.result }
    refine focus.save kept chosen fun saved => ?_
    have still : StillReceiving offer accept base index entry plan world
        (base.put index { checkpoint with arbiter := .reuseChosen })
        { world with
          ledger := some (base.put index { checkpoint with arbiter := .reuseChosen }) } :=
      ⟨saved, rfl, _, rfl, chosen, unfinished, (by rintro ⟨⟩), fun _ => rfl⟩
    split
    case isTrue _ => exact yields_pure.mpr still
    case isFalse _ => exact yields_advance saved fun _ => still

theorem receiveFile_yields [Zstd] (opened : checkpoint.arbiter = .payloadOpen)
    (file : entry.kind = .regularFile) (fuel : Nat) (total completed : UInt64) :
    (receiveFile fuel entry plan index total completed).Yields (receiverContract offer accept)
      (fun _ => Received offer accept base index entry plan world)
        (base.put index checkpoint) world := by
  rw [receiveFile, yields_bind]
  refine (applyReusePlan_yields focus kept ok opened file total completed).mono ?_
  intro completed ledger final ⟨kept, received, next, same, ok, receiving⟩
  subst same
  refine (receiveFileLoop_yields focus kept ok file total fuel completed receiving).mono ?_
  intro _ ledger last ⟨completion, completions, decided⟩
  exact ⟨completion, received ▸ completions, decided⟩

theorem commitStart_yields {start : EntryStartV2}
    (default : start.plaintextBlockBytes = defaultManifestV2BlockPlaintextBytes) :
    (commitStart index checkpoint start).Yields (receiverContract offer accept)
      (fun _ ledger final => (receiverContract offer accept).keeps final ∧
        final.received = world.received ∧ ∃ started, ledger = base.put index started ∧
          CheckpointOk accept.identity entry plan started ∧ started.arbiter = checkpoint.arbiter)
      (base.put index checkpoint) world := by
  have started : CheckpointOk accept.identity entry plan
      { checkpoint with start := some start, payloadRetired := false } := {
    ok with
    start := fun found same => by
      obtain rfl := Option.some.inj same
      exact default }
  have commit :
      (updateCheckpoint index ({ · with start := some start, payloadRetired := false }) >>= fun _ =>
      saveLedger).Yields (receiverContract offer accept)
      (fun _ ledger final => (receiverContract offer accept).keeps final ∧
        final.received = world.received ∧ ∃ started, ledger = base.put index started ∧
          CheckpointOk accept.identity entry plan started ∧ started.arbiter = checkpoint.arbiter)
      (base.put index checkpoint) world := by
    rw [yields_bind]
    apply Focus.update
    exact focus.save kept started fun saved => ⟨saved, rfl, _, rfl, started, rfl⟩
  rw [commitStart]
  cases checkpoint.start with
  | none => exact commit
  | some existing =>
    rw [yields_bind, yields_raise]
    exact fun _ _ => commit

/-- An open entry is decided with the one completion that came in meanwhile. -/
theorem receiveOpenEntry_yields [Zstd] (here : entry.entryId.toNat = index)
    (opened : checkpoint.arbiter = .payloadOpen) (fuel : Nat) (total completed : UInt64) :
    (receiveOpenEntry fuel total entry checkpoint completed).Yields (receiverContract offer accept)
      (fun _ => Received offer accept base index entry plan world)
        (base.put index checkpoint) world := by
  rw [receiveOpenEntry, yields_bind, yields_get, here, yields_bind]
  apply yields_element
  intro found planFound
  rw [show (base.put index checkpoint).accept = accept from focus.ok.agreement, focus.planFound,
    Option.some.injEq] at planFound
  subst planFound
  rw [show (base.put index checkpoint).identity = accept.identity from focus.ok.identity,
    yields_bind]
  refine (recvEntryStart_yields kept).mono ?_
  rintro start _ arrived ⟨same, kept, before, default⟩
  subst same
  rw [yields_bind]
  refine (commitStart_yields focus kept ok default).mono ?_
  rintro _ _ started ⟨kept, received, next, same, ok, arbiter⟩
  subst same
  rw [opened] at arbiter
  have before : completes started.received = completes world.received := by rw [received, before]
  split
  case isTrue directory =>
    rw [yields_bind]
    refine (receiveDirectory_yields focus kept ok arbiter directory).mono ?_
    rintro _ ledger final ⟨kept, completion, decided, same, ok, closed, stored, received⟩
    exact yields_pure.mpr ⟨completion, before ▸ received, kept, decided, same, ok, closed, stored⟩
  case isFalse notDirectory =>
    have file : entry.kind = .regularFile := by
      cases kind : entry.kind with
      | regularFile => rfl
      | directory => exact absurd kind notDirectory
    have rest :
      (receiveFile fuel entry plan index total completed).Yields (receiverContract offer accept)
        (fun _ => Received offer accept base index entry plan world)
            (base.put index next) started := by
      refine (receiveFile_yields focus kept ok arbiter file fuel total completed).mono ?_
      rintro _ ledger final ⟨completion, received, decided⟩
      exact ⟨completion, before ▸ received, decided⟩
    split
    case isTrue payload =>
      rw [yields_bind]
      apply focus.checkpointAt
      rw [yields_bind]
      exact yields_attempt (fun _ _ => rfl) kept fun _ => rest
    case isFalse _ => exact rest

end Frames

end Entry

end Envoix.Transfer
