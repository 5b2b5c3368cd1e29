import Envoix.Transfer.ReceiveRun

/-! # What a save of `receive` can do

Every ledger that `receive` writes differs from the durable one by one `LedgerStep`: a step of the
entry being received, the sender's digest, or the results of the job.  `receive_obeys` says so for
any ledger and any frames; what a step preserves then holds at every cut of every run.

In memory the ledger runs ahead of the store by what the current frame has changed.  The lemmas
keep both apart: the store holds `base.put index checkpoint` while the method works on a later
checkpoint of the same entry.
-/

namespace Envoix.Transfer

open ByteCodec Fallible Process Process.Method Envoix.Protocol

/-! ## Steps -/

/-- The frame says something else of the entry than its checkpoint has committed to. -/
def Contradicts (entry : ManifestEntryV2) (checkpoint : ReceiverEntryCheckpointV2) :
    ManifestV2Frame → Prop
  | .entryContentDigest frame => frame.entryId = entry.entryId ∧
      ∃ existing ∈ checkpoint.contentDigest, existing ≠ frame.digest
  | .entryComplete completion => completion.entryId = entry.entryId ∧
      ((∃ existing ∈ checkpoint.contentDigest, existing ≠ completion.finalDigest) ∨
        completion.finalSize ≠ entry.plaintextSize ∨ completion.completionChoice = .payloadComplete)
  | _ => False

/-- The entry has been started and has no result. -/
structure Live (checkpoint : ReceiverEntryCheckpointV2) : Prop where
  started : checkpoint.start.isSome
  unfinished : checkpoint.result = none

/-- What one save may do to the checkpoint of an entry, after these frames. -/
inductive CheckpointStep (entry : ManifestEntryV2) (plan : EntryPlanV2)
    (received : List ManifestV2Frame) (checkpoint : ReceiverEntryCheckpointV2) :
    ReceiverEntryCheckpointV2 → Prop where
  | started {start : EntryStartV2} (opened : checkpoint.arbiter = .payloadOpen)
      (unfinished : checkpoint.result = none)
      (same : ∀ existing ∈ checkpoint.start, existing = start)
        (arrived : .entryStart start ∈ received) :
      CheckpointStep entry plan received checkpoint { checkpoint with
        start := some start, payloadRetired := false }
  | reusePlanned (live : Live checkpoint) (opened : checkpoint.arbiter = .payloadOpen)
      (planned : plan.disposition = .reuseExisting) (known : checkpoint.contentDigest.isSome) :
      CheckpointStep entry plan received checkpoint { checkpoint with arbiter := .reuseChosen }
  | digested (live : Live checkpoint) {digest : ContentDigestV2}
      (known : ∀ existing ∈ checkpoint.contentDigest, existing = digest) :
      CheckpointStep entry plan received checkpoint { checkpoint with contentDigest := some digest }
  | reused (live : Live checkpoint) (opened : checkpoint.arbiter = .payloadOpen)
      {digest : ContentDigestV2}
      (known : ∀ existing ∈ checkpoint.contentDigest, existing = digest) :
      CheckpointStep entry plan received checkpoint
        { checkpoint with
          contentDigest := some digest, arbiter := .reuseChosen, nextPlaintextBlock := 0,
          plaintextBytes := 0 }
  | block (live : Live checkpoint) (opened : checkpoint.arbiter = .payloadOpen)
      {nextPlaintextBlock plaintextBytes : UInt64} :
      CheckpointStep entry plan received checkpoint { checkpoint with
        nextPlaintextBlock, plaintextBytes }
  | retired (live : Live checkpoint) (contradicted : checkpoint.arbiter = .reuseChosen →
        ∃ frame, received.getLast? = some frame ∧ Contradicts entry checkpoint frame) :
      CheckpointStep entry plan received checkpoint (checkpoint.retired entry)
  | completed (live : Live checkpoint) (chosen : checkpoint.arbiter = .reuseChosen)
      {completion : EntryCompleteV2}
      (known : ∀ existing ∈ checkpoint.contentDigest, existing = completion.finalDigest) :
      CheckpointStep entry plan received checkpoint
        { checkpoint with
          contentDigest := some completion.finalDigest, completion := some completion }
  | verified (live : Live checkpoint) (opened : checkpoint.arbiter = .payloadOpen)
      {completion : EntryCompleteV2}
      (known : ∀ existing ∈ checkpoint.contentDigest, existing = completion.finalDigest) :
      CheckpointStep entry plan received checkpoint
        { checkpoint with
          contentDigest := some completion.finalDigest, completion := some completion,
          arbiter := .payloadCompleteChosen }
  | staged (live : Live checkpoint) (opened : checkpoint.arbiter = .payloadOpen)
      {completion : EntryCompleteV2} :
      CheckpointStep entry plan received checkpoint
        { checkpoint with arbiter := .payloadCompleteChosen, completion := some completion }
  | recalled (unfinished : checkpoint.result = none) (decided : checkpoint.arbiter ≠ .payloadOpen)
      {completion : EntryCompleteV2}
      (same : ∀ existing ∈ checkpoint.completion, existing = completion) :
      CheckpointStep entry plan received checkpoint { checkpoint with
        completion := some completion }

/-- What one save of `receive` may do to the durable ledger, after these frames. -/
inductive LedgerStep (offer : ManifestOfferV2) (received : List ManifestV2Frame)
    (ledger : ReceiverDataPlaneLedgerV2) :
    ReceiverDataPlaneLedgerV2 → Prop where
  | checkpoint {index : Nat} {entry : ManifestEntryV2} {plan : EntryPlanV2}
      {checkpoint next : ReceiverEntryCheckpointV2}
      (entryFound : offer.manifest.entries[index]? = some entry)
      (planFound : ledger.accept.entryPlans[index]? = some plan)
      (found : ledger.entries[index]? = some checkpoint)
      (step : CheckpointStep entry plan received checkpoint next) :
      LedgerStep offer received ledger (ledger.put index next)
  | completionSet {complete : JobCompleteV2} (arrived : .jobComplete complete ∈ received)
      (same : ∀ existing ∈ ledger.senderCompletionSetDigest, existing =
        complete.senderCompletionSetDigest) :
      LedgerStep offer received ledger
        { ledger with senderCompletionSetDigest := some complete.senderCompletionSetDigest }
  | results {entries : List ReceiverEntryCheckpointV2}
      (missing : ledger.entries.mapM (·.result) = none)
      (ended : ledger.senderCompletionSetDigest.isSome)
      (recorded : List.Forall₂ (fun before after =>
        ∃ result, after = { before with result := some result })
        ledger.entries entries) :
      LedgerStep offer received ledger { ledger with entries }

/-- The checkpoint shows that the sender has started. -/
def Discloses (checkpoint : ReceiverEntryCheckpointV2) : Prop :=
  checkpoint.start.isSome ∨ checkpoint.completion.isSome ∨ checkpoint.result.isSome ∨
    checkpoint.nextPlaintextBlock > 0 ∨ checkpoint.plaintextBytes > 0

theorem requiresAuthenticatedResume_iff {ledger : ReceiverDataPlaneLedgerV2} :
    ledger.requiresAuthenticatedResume = true ↔
      ledger.senderCompletionSetDigest.isSome ∨
        ∃ checkpoint ∈ ledger.entries, Discloses checkpoint := by
  simp [ReceiverDataPlaneLedgerV2.requiresAuthenticatedResume, Discloses]

/-- After any step of an entry, its checkpoint shows it. -/
theorem CheckpointStep.discloses {entry : ManifestEntryV2} {plan : EntryPlanV2}
    {received : List ManifestV2Frame} {checkpoint next : ReceiverEntryCheckpointV2}
    (step : CheckpointStep entry plan received checkpoint next) :
    Discloses next := by
  cases step with
  | started => exact .inl rfl
  | recalled => exact .inr (.inl rfl)
  | reusePlanned live | digested live | reused live | block live | retired live | completed live
  | verified live
  | staged live => exact .inl live.started

theorem LedgerStep.discloses {offer : ManifestOfferV2} {received : List ManifestV2Frame}
    {ledger next : ReceiverDataPlaneLedgerV2} (step : LedgerStep offer received ledger next) :
    next.requiresAuthenticatedResume = true := by
  rw [requiresAuthenticatedResume_iff]
  cases step with
  | checkpoint _ _ found step =>
    have bound := (List.getElem?_eq_some_iff.mp found).1
    exact .inr ⟨_, List.mem_of_getElem? (ReceiverDataPlaneLedgerV2.entries_put_self bound),
      step.discloses⟩
  | completionSet => exact .inl rfl
  | results _ ended => exact .inl ended

theorem LedgerStep.accept {offer : ManifestOfferV2} {received : List ManifestV2Frame}
    {ledger next : ReceiverDataPlaneLedgerV2} (step : LedgerStep offer received ledger next) :
    next.accept = ledger.accept := by
  cases step <;> rfl

/-- When `receive` may call an operation. -/
def ReceiverRule (offer : ManifestOfferV2) (world : EngineWorld) : EngineOp → Prop
  | .saveLedger next => ∃ ledger, world.ledger = some ledger ∧
    LedgerStep offer world.received ledger next
  | .writeBlock entry _ => ∃ ledger checkpoint, world.ledger = some ledger ∧
      ledger.entries[entry.entryId.toNat]? = some checkpoint ∧ checkpoint.arbiter = .payloadOpen
  | .delivery (.sendManifestV2Frame frame) =>
      (∃ answer, frame = .entryContentDigest answer) ∨ ∃ result, frame = .entryResult result
  | .delivery (.saveReceiver _) => False
  | .delivery (.saveSender _) => False
  | .sendEntryBlockOrRecvFrame _ => False
  | _ => True

/-! ## One entry -/

section Entry

variable {arrives : ManifestV2Frame → Prop} {reusable : ManifestEntryV2 → Prop}
  {keeps : EngineWorld → Prop}

/-- A ledger and one of its entries, as `receive` finds them together. -/
structure Spot (offer : ManifestOfferV2) (base : ReceiverDataPlaneLedgerV2) (index : Nat)
    (entry : ManifestEntryV2) (plan : EntryPlanV2) : Prop where
  entryFound : offer.manifest.entries[index]? = some entry
  planFound : base.accept.entryPlans[index]? = some plan
  here : entry.entryId.toNat = index
  bound : index < base.entries.length

/-- The entry is live, and the store holds what memory holds. -/
def Holding (base : ReceiverDataPlaneLedgerV2) (index : Nat) (ledger : ReceiverDataPlaneLedgerV2)
    (world : EngineWorld) : Prop :=
  ∃ checkpoint, Live checkpoint ∧ ledger = base.put index checkpoint ∧ world.ledger = some ledger

/-- The same once the entry is decided. -/
def Settled (base : ReceiverDataPlaneLedgerV2) (index : Nat) (ledger : ReceiverDataPlaneLedgerV2)
    (world : EngineWorld) : Prop :=
  ∃ checkpoint, ledger = base.put index checkpoint ∧ world.ledger = some ledger

variable {offer : ManifestOfferV2} {base : ReceiverDataPlaneLedgerV2} {index : Nat}
  {entry : ManifestEntryV2}
  {plan : EntryPlanV2} {checkpoint current : ReceiverEntryCheckpointV2} {world : EngineWorld}
  {done : Unit → ReceiverDataPlaneLedgerV2 → EngineWorld → Prop}

namespace Spot

theorem checkpointAt (spot : Spot offer base index entry plan)
    {post : ReceiverEntryCheckpointV2 → ReceiverDataPlaneLedgerV2 → EngineWorld → Prop}
    (holds : post current (base.put index current) world) :
    (checkpointAt index).Obeys (engineContract arrives reusable keeps) (ReceiverRule offer) post
      (base.put index current) world := by
  apply obeys_checkpointAt trivial
  intro found same
  rw [ReceiverDataPlaneLedgerV2.entries_put_self spot.bound, Option.some.injEq] at same
  exact same ▸ holds

theorem update {change : ReceiverEntryCheckpointV2 → ReceiverEntryCheckpointV2}
    (holds : done () (base.put index (change current)) world) :
    (updateCheckpoint index change).Obeys (engineContract arrives reusable keeps)
    (ReceiverRule offer) done
      (base.put index current) world := by
  rw [updateCheckpoint, obeys_modify, ReceiverDataPlaneLedgerV2.put_update]
  exact holds

/-- A save is a step from the durable checkpoint to the one in memory. -/
theorem save (spot : Spot offer base index entry plan)
    (durable : world.ledger = some (base.put index checkpoint))
    (step : CheckpointStep entry plan world.received checkpoint current)
    (holds : done () (base.put index current)
      { world with ledger := some (base.put index current) }) :
    saveLedger.Obeys (engineContract arrives reusable keeps)
      (ReceiverRule offer) done (base.put index current)
      world := by
  refine obeys_saveLedger ⟨_, durable, ?_⟩ holds
  have found : (base.put index checkpoint).entries[index]? = some checkpoint :=
    ReceiverDataPlaneLedgerV2.entries_put_self spot.bound
  have planFound : (base.put index checkpoint).accept.entryPlans[index]? = some plan :=
    spot.planFound
  have stepped : LedgerStep offer world.received (base.put index checkpoint)
    ((base.put index checkpoint).put index current) :=
    .checkpoint spot.entryFound planFound found step
  rwa [ReceiverDataPlaneLedgerV2.put_put] at stepped

/-- A retired payload is durable before the sink hears of it; what follows is an error. -/
theorem retireMismatch (spot : Spot offer base index entry plan)
    (durable : world.ledger = some (base.put index checkpoint)) (live : Live checkpoint)
    (same : current.retired entry = checkpoint.retired entry)
    (contradicted : checkpoint.arbiter = .reuseChosen →
      ∃ frame, world.received.getLast? = some frame ∧ Contradicts entry checkpoint frame)
    (holds : ∀ ledger world, done () ledger world) :
    (retireMismatch entry index).Obeys (engineContract arrives reusable keeps)
    (ReceiverRule offer) done
      (base.put index current) world := by
  rw [Transfer.retireMismatch, obeys_bind]
  apply update
  rw [same, obeys_bind]
  apply spot.save durable (.retired live contradicted)
  exact obeys_attempt (fun _ _ => rfl) trivial fun _ => holds _ _

end Spot

theorem setOrEqualDigest_eq_error {digest : ContentDigestV2} {error : ManifestV2DataError}
    (failed : setOrEqualDigest checkpoint digest = .error error) :
    ∃ existing ∈ checkpoint.contentDigest, existing ≠ digest := by
  unfold setOrEqualDigest at failed
  cases content : checkpoint.contentDigest with
  | none =>
    rw [content] at failed
    cases failed
  | some existing =>
    refine ⟨existing, rfl, fun same => ?_⟩
    simp [content, same] at failed

/-- Late reuse is chosen in memory only. -/
theorem chooseReuse_obeys (spot : Spot offer base index entry plan) (total completed : UInt64)
    {digest : ContentDigestV2} {post : UInt64 → ReceiverDataPlaneLedgerV2 → EngineWorld → Prop}
    (unchanged : ∀ completed, post completed (base.put index current) world)
    (chosen : ∀ completed, current.arbiter = .payloadOpen → post completed (base.put index
      { current with arbiter := .reuseChosen, nextPlaintextBlock := 0, plaintextBytes := 0 })
        world) :
    (chooseReuse entry index total completed digest).Obeys (engineContract arrives reusable keeps)
      (ReceiverRule offer) post (base.put index current) world := by
  rw [chooseReuse, obeys_bind]
  apply spot.checkpointAt
  split
  case isTrue _ => exact unchanged completed
  case isFalse opened =>
    rw [not_not] at opened
    rw [obeys_bind]
    refine obeys_attempt (fun _ _ => rfl) trivial fun reuse => ?_
    split
    case isTrue _ => exact unchanged completed
    case isFalse _ =>
      rw [obeys_bind]
      apply Spot.update
      exact obeys_advance (fun _ => trivial) fun completed => chosen completed opened

theorem recvEntryStart_obeys {identity : JobGenerationV2} {entryId : UInt32}
    {ledger : ReceiverDataPlaneLedgerV2} :
    (recvEntryStart identity entryId).Obeys (engineContract arrives reusable keeps)
    (ReceiverRule offer)
      (fun start left final => left = ledger ∧ final.ledger = world.ledger ∧
        .entryStart start ∈ final.received)
      ledger world := by
  rw [recvEntryStart, obeys_bind]
  refine obeys_recvFrame trivial fun frame _ => ?_
  cases frame with
  | entryStart start =>
    rw [obeys_bind, obeys_raise]
    exact fun _ _ => ⟨rfl, rfl, by simp⟩
  | _ => exact obeys_throw.mpr trivial

section Frames

variable (spot : Spot offer base index entry plan)
  (durable : world.ledger = some (base.put index checkpoint))

include spot durable

theorem receiveContentDigest_obeys (live : Live checkpoint) (total completed : UInt64)
    {frame : EntryContentDigestFrameV2}
    (last : world.received.getLast? = some (.entryContentDigest frame)) :
    (receiveContentDigest entry index total completed frame).Obeys
      (engineContract arrives reusable keeps)
      (ReceiverRule offer) (fun _ => Holding base index) (base.put index checkpoint) world := by
  simp only [receiveContentDigest, obeys_bind, obeys_get, obeys_raise, reject_eq_ok,
    not_or, not_not]
  rintro _ ⟨_, own⟩ _ _
  apply spot.checkpointAt
  cases digested : setOrEqualDigest checkpoint frame.digest with
  | error _ =>
    simp only [obeys_bind, obeys_throw]
    refine spot.retireMismatch durable live rfl (fun _ => ⟨_, last, own, ?_⟩) fun _ _ => trivial
    exact setOrEqualDigest_eq_error digested
  | ok next =>
    obtain ⟨rfl, known⟩ := setOrEqualDigest_eq_ok.mp digested
    -- whichever way the sink decides, the answer follows a save
    have answered (saved : ReceiverEntryCheckpointV2)
        (step : CheckpointStep entry plan world.received checkpoint saved) (stays : Live saved)
          (completed : UInt64)
        (decision : ReceiverEntryCheckpointV2 → EntryContentDigestFrameV2) :
        (saveLedger >>= fun _ => Transfer.checkpointAt index >>= fun checkpoint =>
          sendFrame (.entryContentDigest (decision checkpoint)) >>= fun _ => pure completed).Obeys
          (engineContract arrives reusable keeps) (ReceiverRule offer) (fun _ => Holding base index)
          (base.put index saved) world := by
      rw [obeys_bind]
      apply spot.save durable step
      rw [obeys_bind]
      apply spot.checkpointAt
      rw [obeys_bind]
      exact obeys_sendFrame (.inl ⟨_, rfl⟩) ⟨saved, stays, rfl, rfl⟩
    rw [obeys_bind]
    apply Spot.update
    rw [obeys_bind]
    apply chooseReuse_obeys spot
    · intro completed
      exact answered _ (.digested live known) ⟨live.started, live.unfinished⟩ completed _
    · intro completed opened
      exact answered _ (.reused live opened known) ⟨live.started, live.unfinished⟩ completed _

theorem receiveBlock_obeys [Zstd] (live : Live checkpoint) (total completed : UInt64)
    (block : EntryBlockV2) :
    (receiveBlock entry index total completed block).Obeys (engineContract arrives reusable keeps)
      (ReceiverRule offer) (fun _ => Holding base index) (base.put index checkpoint) world := by
  rw [receiveBlock, obeys_bind]
  apply spot.checkpointAt
  simp only [obeys_bind, obeys_raise, reject_eq_ok, okOr_eq_ok, not_not]
  intro _ _ _ opened start _ _ _
  have stored : (base.put index checkpoint).entries[entry.entryId.toNat]? = some checkpoint := by
    rw [spot.here]
    exact ReceiverDataPlaneLedgerV2.entries_put_self spot.bound
  refine obeys_attempt (fun _ _ => rfl) ⟨_, checkpoint, durable, stored, opened⟩ fun _ next _ => ?_
  apply Spot.update
  intro bytes _
  apply Spot.update
  apply spot.save durable (.block live opened)
  refine obeys_silent (fun _ _ => rfl) trivial fun _ => ?_
  have stays : Live { checkpoint with nextPlaintextBlock := next, plaintextBytes := bytes } :=
    ⟨live.started, live.unfinished⟩
  exact obeys_advance (fun _ => trivial) fun _ => ⟨_, stays, rfl, rfl⟩

theorem closePayload_obeys (live : Live checkpoint) {completion : EntryCompleteV2}
    (last : world.received.getLast? = some (.entryComplete completion))
    (own : completion.entryId = entry.entryId)
    (choice : completion.completionChoice = .payloadComplete)
    (known : ∀ existing ∈ checkpoint.contentDigest, existing = completion.finalDigest)
    {closing closed : ReceiverEntryCheckpointV2}
    (opening : closing = { checkpoint with
      contentDigest := some completion.finalDigest, completion := some completion })
    (closes : closed = { closing with arbiter := .payloadCompleteChosen })
    (holds :
      done () (base.put index closed) { world with ledger := some (base.put index closed) }) :
    (closePayload entry index completion.finalDigest closing).Obeys
      (engineContract arrives reusable keeps)
      (ReceiverRule offer) done (base.put index closing) world := by
  subst opening closes
  have refused : (Transfer.retireMismatch entry index).Obeys (engineContract arrives reusable keeps)
      (ReceiverRule offer) (fun _ _ _ => True) (base.put index
        { checkpoint with
          contentDigest := some completion.finalDigest, completion := some completion }) world :=
    spot.retireMismatch durable live rfl (fun _ => ⟨_, last, own, .inr (.inr choice)⟩) fun _ _ =>
      trivial
  rw [closePayload]
  split
  case isTrue _ => exact obeys_bind.mpr (refused.mono fun _ _ _ _ => trivial)
  case isFalse matching =>
    rw [not_or, not_not] at matching
    rw [obeys_bind]
    refine obeys_silent (fun _ _ => rfl) trivial fun reply => ?_
    cases reply with
    | error error => exact obeys_bind.mpr (refused.mono fun _ _ _ _ => trivial)
    | ok _ =>
      rw [obeys_bind]
      apply Spot.update
      exact spot.save durable (.verified live matching.1 known) holds

theorem receiveFileCompletion_obeys (live : Live checkpoint) {completion : EntryCompleteV2}
    (last : world.received.getLast? = some (.entryComplete completion))
    (own : completion.entryId = entry.entryId)
    (known : ∀ existing ∈ checkpoint.contentDigest, existing = completion.finalDigest) :
    (receiveFileCompletion entry index completion.finalDigest).Obeys
      (engineContract arrives reusable keeps)
      (ReceiverRule offer) (fun _ => Settled base index)
      (base.put index { checkpoint with
        contentDigest := some completion.finalDigest, completion := some completion })
      world := by
  rw [receiveFileCompletion, obeys_bind]
  apply spot.checkpointAt
  simp only [okOr, obeys_bind, obeys_raise, Except.ok.injEq, forall_eq']
  cases choice : completion.completionChoice with
  | reuseChosen =>
    simp only [obeys_bind, obeys_raise, reject_eq_ok, not_not]
    intro _ chosen
    apply Spot.update
    exact spot.save durable (.completed live chosen known) ⟨_, rfl, rfl⟩
  | payloadComplete =>
    simp only [obeys_bind]
    refine closePayload_obeys spot durable live last own choice known rfl rfl ?_
    apply Spot.update
    -- the second save writes the same ledger again
    refine spot.save rfl (.recalled ?_ ?_ ?_) ⟨_, rfl, rfl⟩
    · exact live.unfinished
    · simp
    · exact fun existing found => (Option.some.inj found).symm

theorem receiveEntryComplete_obeys (live : Live checkpoint) {completion : EntryCompleteV2}
    (last : world.received.getLast? = some (.entryComplete completion)) :
    (receiveEntryComplete entry index completion).Obeys (engineContract arrives reusable keeps)
      (ReceiverRule offer) (fun _ => Settled base index) (base.put index checkpoint) world := by
  simp only [receiveEntryComplete, obeys_bind, obeys_get, obeys_raise, reject_eq_ok,
    not_or, not_not]
  rintro _ ⟨_, own⟩
  apply spot.checkpointAt
  cases digested : setOrEqualDigest checkpoint completion.finalDigest with
  | error _ =>
    simp only [obeys_bind, obeys_throw]
    refine spot.retireMismatch durable live rfl (fun _ => ⟨_, last, own, ?_⟩) fun _ _ => trivial
    exact .inl (setOrEqualDigest_eq_error digested)
  | ok next =>
    obtain ⟨rfl, known⟩ := setOrEqualDigest_eq_ok.mp digested
    simp only [obeys_bind]
    apply Spot.update
    split
    case isTrue size =>
      rw [obeys_bind]
      refine spot.retireMismatch durable live rfl
        (fun _ => ⟨_, last, own, .inr (.inl size)⟩) fun _ _ => ?_
      exact obeys_throw.mpr trivial
    case isFalse _ =>
      rw [decideCompletion, obeys_bind]
      apply Spot.update
      rw [obeys_bind]
      refine obeys_silent (fun _ _ => rfl) trivial fun _ => ?_
      rw [obeys_bind]
      refine obeys_outcome (receiveFileCompletion_obeys spot durable live last own known) ?_
      intro result ledger final settled
      rw [obeys_bind]
      refine obeys_silent (fun _ _ => rfl) trivial fun _ => ?_
      exact obeys_raise.mpr settled

/-- One frame of a file leaves the entry live, or settles it. -/
theorem receiveFileFrame_obeys [Zstd] (live : Live checkpoint) (total completed : UInt64) :
    (receiveFileFrame entry index total completed).Obeys (engineContract arrives reusable keeps)
      (ReceiverRule offer)
      (fun step ledger final => if step.1 then Settled base index ledger final
        else Holding base index ledger final)
      (base.put index checkpoint) world := by
  rw [receiveFileFrame, obeys_bind, obeys_get, obeys_bind]
  refine obeys_recvFrame trivial fun frame _ => ?_
  have last : { world with received := world.received ++ [frame] }.received.getLast? = some frame :=
    List.getLast?_concat
  have durable : { world with received := world.received ++ [frame] }.ledger =
    some (base.put index checkpoint) :=
    durable
  cases frame with
  | entryContentDigest frame =>
    rw [obeys_bind]
    exact receiveContentDigest_obeys spot durable live total completed last
  | entryBlock block =>
    rw [obeys_bind]
    exact receiveBlock_obeys spot durable live total completed block
  | entryComplete completion =>
    rw [obeys_bind]
    exact receiveEntryComplete_obeys spot durable live last
  | _ => exact obeys_throw.mpr trivial

theorem receiveFileLoop_obeys [Zstd] (total : UInt64) (fuel : Nat) (completed : UInt64)
    (live : Live checkpoint) :
    (receiveFileLoop entry index total fuel completed).Obeys (engineContract arrives reusable keeps)
      (ReceiverRule offer) (fun _ => Settled base index) (base.put index checkpoint) world := by
  induction fuel generalizing completed world checkpoint with
  | zero => exact obeys_abort trivial
  | succ fuel ih =>
    rw [receiveFileLoop, obeys_bind]
    refine (receiveFileFrame_obeys spot durable live total completed).mono ?_
    rintro ⟨finished, completed⟩ ledger final step
    cases finished with
    | true => exact step
    | false =>
      obtain ⟨next, live, rfl, durable⟩ := step
      exact ih durable completed live

theorem applyReusePlan_obeys (live : Live checkpoint) (opened : checkpoint.arbiter = .payloadOpen)
    (total completed : UInt64) :
    (applyReusePlan entry plan index total completed).Obeys (engineContract arrives reusable keeps)
      (ReceiverRule offer) (fun _ => Holding base index) (base.put index checkpoint) world := by
  rw [applyReusePlan, obeys_bind]
  apply spot.checkpointAt
  split
  case isTrue _ => exact ⟨checkpoint, live, rfl, durable⟩
  case isFalse planned =>
    rw [not_not] at planned
    simp only [obeys_bind, obeys_raise, okOr_eq_ok]
    intro digest known
    refine obeys_attempt (fun _ _ => rfl) trivial fun chosen _ _ => ?_
    apply Spot.update
    apply spot.save durable (.reusePlanned live opened planned (by simp [known]))
    have stays : Live { checkpoint with arbiter := .reuseChosen } := ⟨live.started, live.unfinished⟩
    split
    case isTrue _ => exact ⟨_, stays, rfl, rfl⟩
    case isFalse _ => exact obeys_advance (fun _ => trivial) fun _ => ⟨_, stays, rfl, rfl⟩

theorem receiveFile_obeys [Zstd] (live : Live checkpoint)
    (opened : checkpoint.arbiter = .payloadOpen) (fuel : Nat) (total completed : UInt64) :
    (receiveFile fuel entry plan index total completed).Obeys
      (engineContract arrives reusable keeps)
      (ReceiverRule offer) (fun _ => Settled base index) (base.put index checkpoint) world := by
  rw [receiveFile, obeys_bind]
  refine (applyReusePlan_obeys spot durable live opened total completed).mono ?_
  rintro completed ledger final ⟨next, live, same, durable⟩
  subst same
  exact receiveFileLoop_obeys spot durable total fuel completed live

theorem commitStart_obeys (opened : checkpoint.arbiter = .payloadOpen)
    (unfinished : checkpoint.result = none) {start : EntryStartV2}
    (arrived : .entryStart start ∈ world.received) :
    (commitStart index checkpoint start).Obeys (engineContract arrives reusable keeps)
    (ReceiverRule offer)
      (fun _ ledger final => ∃ next, Live next ∧ next.arbiter = .payloadOpen ∧
        ledger = base.put index next ∧ final.ledger = some ledger)
      (base.put index checkpoint) world := by
  have commit (same : ∀ existing ∈ checkpoint.start, existing = start) :
      (updateCheckpoint index ({ · with start := some start, payloadRetired := false }) >>= fun _ =>
        saveLedger).Obeys (engineContract arrives reusable keeps) (ReceiverRule offer)
        (fun _ ledger final => ∃ next, Live next ∧ next.arbiter = .payloadOpen ∧
          ledger = base.put index next ∧ final.ledger = some ledger)
        (base.put index checkpoint) world := by
    rw [obeys_bind]
    apply Spot.update
    have live : Live { checkpoint with start := some start, payloadRetired := false } :=
      ⟨rfl, unfinished⟩
    exact spot.save durable (.started opened unfinished same arrived) ⟨_, live, opened, rfl, rfl⟩
  rw [commitStart]
  cases started : checkpoint.start with
  | none => exact commit fun existing found => by simp [started] at found
  | some existing =>
    rw [obeys_bind, obeys_raise]
    intro _ same
    rw [reject_eq_ok, not_not] at same
    refine commit fun other found => ?_
    rw [started] at found
    exact (Option.some.inj found).symm.trans same

theorem receiveDirectory_obeys [Blake3] {identity : JobGenerationV2} (live : Live checkpoint)
    (opened : checkpoint.arbiter = .payloadOpen) :
    (receiveDirectory entry identity index).Obeys (engineContract arrives reusable keeps)
    (ReceiverRule offer)
      (fun _ => Settled base index) (base.put index checkpoint) world := by
  rw [receiveDirectory, obeys_bind]
  refine obeys_recvFrame trivial fun frame _ => ?_
  cases frame with
  | entryComplete completion =>
    simp only [obeys_bind, obeys_pure, obeys_raise]
    intro _ _
    refine obeys_attempt (fun _ _ => rfl) trivial fun _ => ?_
    apply Spot.update
    exact spot.save durable (.staged live opened) ⟨_, rfl, rfl⟩
  | _ => exact obeys_throw.mpr trivial

theorem receiveOpenEntry_obeys [Blake3] [Zstd] (opened : checkpoint.arbiter = .payloadOpen)
    (unfinished : checkpoint.result = none) (fuel : Nat) (total completed : UInt64) :
    (receiveOpenEntry fuel total entry checkpoint completed).Obeys
      (engineContract arrives reusable keeps)
      (ReceiverRule offer) (fun _ => Settled base index) (base.put index checkpoint) world := by
  rw [receiveOpenEntry, obeys_bind, obeys_get, spot.here, obeys_bind]
  apply obeys_element trivial
  intro found planFound
  obtain rfl : plan = found := Option.some.inj (spot.planFound.symm.trans planFound)
  rw [obeys_bind]
  refine recvEntryStart_obeys.mono ?_
  rintro start _ arrived ⟨same, unchanged, started⟩
  subst same
  rw [obeys_bind]
  refine (commitStart_obeys spot (unchanged.trans durable) opened unfinished started).mono ?_
  rintro _ _ committed ⟨next, live, opened, same, durable⟩
  subst same
  split
  case isTrue _ =>
    rw [obeys_bind]
    exact receiveDirectory_obeys spot durable live opened
  case isFalse _ =>
    have rest :=
      @receiveFile_obeys arrives reusable keeps _ _ _ _ _ _ _ spot durable _ live opened fuel
        total completed
    split
    case isTrue _ =>
      rw [obeys_bind]
      apply spot.checkpointAt
      rw [obeys_bind]
      exact obeys_attempt (fun _ _ => rfl) trivial fun _ => rest
    case isFalse _ => exact rest

end Frames

end Entry

/-! ## The loop over the entries -/

section Entries

variable [Blake3] [UnicodeNormalization] [Zstd] {arrives : ManifestV2Frame → Prop}
  {reusable : ManifestEntryV2 → Prop}
  {keeps : EngineWorld → Prop} {offer : ManifestOfferV2} {ledger : ReceiverDataPlaneLedgerV2}
    {index : Nat}
  {entry : ManifestEntryV2} {plan : EntryPlanV2} {world : EngineWorld}

theorem receiveEntry_obeys (spot : Spot offer ledger index entry plan)
    (durable : world.ledger = some ledger) (fuel : Nat) (total completed : UInt64)
    (hasher : Bytes) :
    (receiveEntry fuel total entry hasher completed).Obeys (engineContract arrives reusable keeps)
      (ReceiverRule offer) (fun _ => Settled ledger index) ledger world := by
  rw [receiveEntry, spot.here, obeys_bind]
  apply obeys_checkpointAt trivial
  intro checkpoint found
  have same := ReceiverDataPlaneLedgerV2.put_self found
  have durable : world.ledger = some (ledger.put index checkpoint) := same.symm ▸ durable
  split
  case isTrue _ =>
    simp only [obeys_bind, obeys_raise]
    exact fun _ _ _ _ => ⟨checkpoint, same.symm, same ▸ durable⟩
  case isFalse finished =>
    have unfinished : checkpoint.result = none := by simpa using finished
    split
    case isTrue decided =>
      simp only [obeys_bind, obeys_get, obeys_raise]
      intro completion rebuilt
      rw [updateCheckpoint, obeys_modify, ReceiverDataPlaneLedgerV2.update_eq_put found]
      refine spot.save durable (.recalled unfinished decided ?_) fun _ _ => ⟨_, rfl, rfl⟩
      intro existing stored
      rw [decidedCompletion, stored] at rebuilt
      exact Except.ok.inj rebuilt
    case isFalse opened =>
      rw [not_not] at opened
      rw [obeys_bind]
      have received :=
        @receiveOpenEntry_obeys arrives reusable keeps _ _ _ _ _ _ _ spot durable _ _ opened
          unfinished fuel total completed
      rw [same] at received
      refine received.mono ?_
      intro completed left final settled
      obtain ⟨next, rewritten, durable⟩ := settled
      subst rewritten
      rw [obeys_bind]
      apply spot.checkpointAt
      simp only [obeys_bind, obeys_raise]
      exact fun _ _ _ _ => ⟨next, rfl, durable⟩

/-- The store holds the ledger in memory, and it is one of this offer. -/
structure Stored (offer : ManifestOfferV2) (ledger : ReceiverDataPlaneLedgerV2)
    (world : EngineWorld) : Prop where
  durable : world.ledger = some ledger
  length : ledger.entries.length = offer.manifest.entries.length
  plans : ledger.accept.entryPlans.length = offer.manifest.entries.length

omit [Blake3] [UnicodeNormalization] [Zstd] in
theorem Stored.settled {left : ReceiverDataPlaneLedgerV2} {final : EngineWorld}
    (stored : Stored offer ledger world) (settled : Settled ledger index left final) :
    Stored offer left final := by
  obtain ⟨checkpoint, rfl, durable⟩ := settled
  exact ⟨durable, ReceiverDataPlaneLedgerV2.length_put.trans stored.length, stored.plans⟩

omit [Blake3] [UnicodeNormalization] [Zstd] in
theorem Stored.spot (stored : Stored offer ledger world)
    (found : offer.manifest.entries[index]? = some entry) (here : entry.entryId.toNat = index) :
    ∃ plan, Spot offer ledger index entry plan := by
  have bound := (List.getElem?_eq_some_iff.mp found).1
  have planned := stored.plans.symm ▸ bound
  exact ⟨_, found, List.getElem?_eq_getElem planned, here, stored.length.symm ▸ bound⟩

/-- The entry ids of a manifest count its entries. -/
def CanonicalIds (manifest : ManifestV2) : Prop :=
  ∀ (index : Nat) (entry : ManifestEntryV2), manifest.entries[index]? = some entry →
    entry.entryId.toNat = index

theorem receiveEntries_obeys (ids : CanonicalIds offer.manifest) (fuel : Nat) (total : UInt64)
    (entries : List ManifestEntryV2) (offset : Nat)
    (suffix : offer.manifest.entries.drop offset = entries) (stored : Stored offer ledger world)
    (hasher : Bytes) (completed : UInt64) :
    (receiveEntries fuel total entries hasher completed).Obeys
      (engineContract arrives reusable keeps)
      (ReceiverRule offer) (fun _ => Stored offer) ledger world := by
  induction entries generalizing offset ledger world hasher completed with
  | nil => exact stored
  | cons entry entries ih =>
    have found : offer.manifest.entries[offset]? = some entry := by
      rw [← List.head?_drop, suffix]
      rfl
    have rest : offer.manifest.entries.drop (offset + 1) = entries := by
      rw [← List.tail_drop, suffix]
      rfl
    obtain ⟨plan, spot⟩ := stored.spot found (ids offset entry found)
    rw [receiveEntries, obeys_bind]
    refine (receiveEntry_obeys spot stored.durable fuel total completed hasher).mono ?_
    rintro ⟨hasher, completed⟩ left final settled
    exact ih (offset + 1) rest (stored.settled settled) hasher completed

/-! ## The end of the job -/

omit [Blake3] [UnicodeNormalization] [Zstd] in
/-- Results are recorded entry by entry, in memory. -/
theorem recordResults_obeys (identity : JobGenerationV2) (ids : CanonicalIds offer.manifest)
    (entries : List ManifestEntryV2) (verifieds : List VerifiedEntryV2) (saveds : List SavedEntryV2)
    (offset : Nat) (suffix : offer.manifest.entries.drop offset = entries)
    (length : ledger.entries.length = offer.manifest.entries.length)
    (verified : verifieds.length = entries.length) (saved : saveds.length = entries.length) :
    (recordResults identity (entries.zip (verifieds.zip saveds))).Obeys
      (engineContract arrives reusable keeps)
      (ReceiverRule offer)
      (fun results left final => final = world ∧ ∃ recorded,
        left = { ledger with entries := ledger.entries.take offset ++ recorded } ∧
        List.Forall₂ (fun before after => ∃ result, after = { before with result := some result })
          (ledger.entries.drop offset) recorded ∧ recorded.mapM (·.result) = some results)
      ledger world := by
  induction entries generalizing offset ledger verifieds saveds with
  | nil =>
    have ended : ledger.entries.length ≤ offset := length ▸ List.drop_eq_nil_iff.mp suffix
    refine ⟨rfl, [], ?_, ?_, rfl⟩
    · rw [List.take_of_length_le ended, List.append_nil]
    · rw [List.drop_of_length_le ended]
      exact .nil
  | cons entry entries ih =>
    have found : offer.manifest.entries[offset]? = some entry := by
      rw [← List.head?_drop, suffix]
      rfl
    have rest : offer.manifest.entries.drop (offset + 1) = entries := by
      rw [← List.tail_drop, suffix]
      rfl
    have bound : offset < ledger.entries.length := length ▸ (List.getElem?_eq_some_iff.mp found).1
    obtain ⟨first, verifieds, rfl⟩ := List.exists_cons_of_length_eq_add_one verified
    obtain ⟨save, saveds, rfl⟩ := List.exists_cons_of_length_eq_add_one saved
    simp only [List.zip_cons_cons, recordResults, obeys_bind, obeys_raise]
    intro _ _
    generalize (⟨identity, entry.entryId, save.result, entry.plaintextSize, first.finalDigest,
      save.finalComponentOverride⟩ : EntryResultV2) = result
    rw [ids offset entry found, updateCheckpoint, obeys_modify,
      ReceiverDataPlaneLedgerV2.update_eq_put (List.getElem?_eq_getElem bound)]
    refine (ih verifieds saveds (offset + 1) rest
      (ReceiverDataPlaneLedgerV2.length_put.trans length)
      (Nat.succ.inj verified) (Nat.succ.inj saved)).mono ?_
    rintro results left final ⟨same, recorded, written, related, collected⟩
    rw [ReceiverDataPlaneLedgerV2.take_put bound, List.append_assoc] at written
    rw [ReceiverDataPlaneLedgerV2.drop_put (Nat.lt_succ_self offset)] at related
    refine ⟨same, { ledger.entries[offset] with result := some result } :: recorded,
      written, ?_, ?_⟩
    · rw [List.drop_eq_getElem_cons bound]
      exact .cons ⟨result, rfl⟩ related
    · simp [List.mapM_cons, collected]

omit [Blake3] [UnicodeNormalization] [Zstd] in
theorem sendResults_obeys (results : List EntryResultV2) :
    (sendResults results).Obeys (engineContract arrives reusable keeps) (ReceiverRule offer)
      (fun _ left final => left = ledger ∧ final.ledger = world.ledger) ledger world := by
  induction results generalizing world with
  | nil => exact ⟨rfl, rfl⟩
  | cons result results ih =>
    rw [sendResults, obeys_bind]
    refine obeys_sendFrame (.inr ⟨result, rfl⟩) (ih.mono ?_)
    exact fun _ _ _ unchanged => unchanged

omit [Blake3] [UnicodeNormalization] [Zstd] in
theorem commitSenderDigest_obeys (stored : Stored offer ledger world) {complete : JobCompleteV2}
    (arrived : .jobComplete complete ∈ world.received) :
    (commitSenderDigest complete.senderCompletionSetDigest).Obeys
      (engineContract arrives reusable keeps)
      (ReceiverRule offer)
      (fun _ left final => Stored offer left final ∧
        left.senderCompletionSetDigest = some complete.senderCompletionSetDigest ∧
        left.identity = ledger.identity)
      ledger world := by
  rw [commitSenderDigest, obeys_bind, obeys_get]
  cases first : ledger.senderCompletionSetDigest with
  | none =>
    rw [obeys_bind, obeys_modify]
    refine obeys_saveLedger ⟨ledger, stored.durable, .completionSet arrived ?_⟩
      ⟨⟨rfl, stored.length, stored.plans⟩, rfl, rfl⟩
    exact fun existing found => by simp [first] at found
  | some existing =>
    simp only [obeys_bind, obeys_raise, reject_eq_ok, not_not]
    intro _ same
    have step : LedgerStep offer world.received ledger
        { ledger with senderCompletionSetDigest := some complete.senderCompletionSetDigest } :=
      .completionSet arrived fun other found => by
        rw [first] at found
        exact (Option.some.inj found).symm.trans same
    rw [← same, ← first] at step
    exact obeys_saveLedger ⟨ledger, stored.durable, step⟩ ⟨⟨rfl, stored.length, stored.plans⟩,
      same ▸ first, rfl⟩

omit [Blake3] [UnicodeNormalization] [Zstd] in
theorem verifiedEntries_obeys (checkpoints : List ReceiverEntryCheckpointV2)
    (manifest : ManifestV2) :
    (checkpoints.mapM (verifiedEntry manifest)).Obeys (engineContract arrives reusable keeps)
    (ReceiverRule offer)
      (fun verified left final => left = ledger ∧ final = world ∧
        List.Forall₂ (fun _ _ => True) checkpoints verified) ledger world := by
  apply obeys_mapM
  intro checkpoint _
  rw [verifiedEntry, obeys_bind, obeys_raise]
  intro completion _
  rw [obeys_bind]
  exact obeys_element trivial fun _ _ => ⟨rfl, rfl, trivial⟩

omit [Blake3] [UnicodeNormalization] [Zstd] in
theorem commitJobResults_obeys (identity : JobGenerationV2) (ids : CanonicalIds offer.manifest)
    (stored : Stored offer ledger world) (ended : ledger.senderCompletionSetDigest.isSome) :
    (commitJobResults offer.manifest identity).Obeys (engineContract arrives reusable keeps)
    (ReceiverRule offer)
      (fun results left final => final.ledger = some left ∧
        left.entries.mapM (·.result) = some results ∧
        left.identity = ledger.identity ∧
        left.senderCompletionSetDigest = ledger.senderCompletionSetDigest)
      ledger world := by
  rw [commitJobResults, obeys_bind, obeys_get]
  cases finished : ledger.entries.mapM (·.result) with
  | some results => exact ⟨stored.durable, finished, rfl, rfl⟩
  | none =>
    simp only [obeys_bind, obeys_get]
    refine (verifiedEntries_obeys ledger.entries offer.manifest).mono ?_
    rintro verifieds _ _ ⟨sameLedger, sameWorld, verified⟩
    subst sameLedger sameWorld
    refine obeys_silent (fun _ _ => rfl) trivial fun _ => ?_
    refine obeys_attempt (fun _ _ => rfl) trivial fun _ => ?_
    refine obeys_attempt (fun _ _ => rfl) trivial fun saveds => ?_
    rw [obeys_raise]
    intro _ complete
    rw [reject_eq_ok, not_not] at complete
    refine (recordResults_obeys identity ids offer.manifest.entries verifieds saveds 0 rfl
      stored.length
      (verified.length_eq.symm.trans stored.length) complete).mono ?_
    rintro results left final ⟨same, recorded, written, related, collected⟩
    subst same written
    rw [List.take_zero, List.nil_append] at *
    exact obeys_saveLedger ⟨_, stored.durable, .results finished ended related⟩ ⟨rfl,
      collected, rfl, rfl⟩

omit [UnicodeNormalization] [Zstd] in
theorem receiveJobComplete_obeys (ids : CanonicalIds offer.manifest)
    (stored : Stored offer ledger world) (hasher : Bytes) :
    (receiveJobComplete offer.manifest hasher).Obeys (engineContract arrives reusable keeps)
    (ReceiverRule offer)
      (fun summary left final => final.ledger = some left ∧ left.completedSummary = some summary)
        ledger world := by
  rw [receiveJobComplete, obeys_bind, obeys_get, obeys_bind]
  refine obeys_recvFrame trivial fun frame _ => ?_
  cases frame with
  | jobComplete complete =>
    simp only [obeys_bind, obeys_raise, obeys_pure]
    intro _ _ _ _
    have stored :
      Stored offer ledger { world with received := world.received ++ [.jobComplete complete] } :=
      ⟨stored.durable, stored.length, stored.plans⟩
    refine (commitSenderDigest_obeys stored (by simp)).mono ?_
    rintro _ committed _ ⟨stored, digest, identity⟩
    refine obeys_silent (fun _ _ => rfl) trivial fun _ => ?_
    refine (commitJobResults_obeys ledger.identity ids stored (by simp [digest])).mono ?_
    rintro results left saved ⟨durable, collected, sameIdentity, sameDigest⟩
    refine (sendResults_obeys results).mono ?_
    rintro _ _ final ⟨same, unchanged⟩
    subst same
    refine obeys_silent (fun _ _ => rfl) trivial fun _ => ?_
    refine ⟨unchanged.trans durable, completedSummary_eq_some.mpr ⟨?_, ?_, collected⟩⟩
    · rw [sameIdentity, identity]
    · rw [sameDigest, digest]
  | _ => exact obeys_throw.mpr trivial

omit [Zstd] in
/-- What `receive` learns of a ledger before it starts. -/
theorem Stored.of_validate (durable : world.ledger = some ledger)
    (valid : ledger.validate offer.manifest = .ok ()) :
    CanonicalIds offer.manifest ∧ Stored offer ledger world := by
  simp only [ReceiverDataPlaneLedgerV2.validate, bind_eq_ok, exists_unit, reject_eq_ok, not_or,
    not_not] at valid
  obtain ⟨rebuilt, built, ⟨-, -, -, -, length, -, -⟩, accepted, -⟩ := valid
  simp only [rebuildOffer, mapErr_eq_ok, buildManifestOfferV2, bind_eq_ok, exists_unit,
    pure_eq_ok] at built
  obtain ⟨validated, rfl⟩ := built
  have forest := accepted_iff_canonicalForest.mp (validate_eq_ok.mp validated)
  have agreed :
    Agreed ⟨⟨Blake3.hash (encodeManifestBody offer.manifest)⟩, offer.manifest⟩ ledger.accept :=
    ⟨forest, accepted⟩
  exact ⟨forest.entryIds, durable, length, agreed.plans_length⟩

/-- Every call of `receive` keeps to the rule, and it ends with a result for every entry. -/
theorem receive_obeys (durable : world.ledger = some ledger) (fuel : Nat) :
    (receive fuel offer).Obeys (engineContract arrives reusable keeps) (ReceiverRule offer)
      (fun summary left final => final.ledger = some left ∧ left.completedSummary = some summary)
        ledger world := by
  simp only [receive, obeys_bind, obeys_get, obeys_raise]
  intro _ valid completed _
  obtain ⟨ids, stored⟩ := Stored.of_validate durable valid
  refine obeys_silent (fun _ _ => rfl) trivial fun _ => ?_
  refine obeys_silent (fun _ _ => rfl) trivial fun _ => ?_
  refine (receiveEntries_obeys ids fuel _ _ 0 rfl stored [] completed).mono ?_
  rintro ⟨hasher, _⟩ left final stored
  exact receiveJobComplete_obeys ids stored hasher

end Entries

end Envoix.Transfer
