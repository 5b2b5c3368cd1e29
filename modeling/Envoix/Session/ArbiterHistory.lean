import Envoix.Session.Disclosure

/-! # A committed reuse and the reconnects after it

An entry leaves `ReuseChosen` in two ways: the sender's last frame contradicts what was committed
and the payload is retired, or a round of `reconcile_resume` takes the entry for a lost payload and
resets it.  The second is the case of a reuse that was chosen after the payload had begun: choosing
it has removed the staging file that the round then looks for.
-/

namespace Envoix.Session

open ByteCodec Fallible Process Process.Method Envoix.Protocol Envoix.Transfer FileSystem

/-- The durable arbiter of an entry. -/
def ArbiterAt (world : EngineWorld) (index : Nat) (arbiter : EntryArbiterV2) : Prop :=
  ∃ ledger checkpoint, world.ledger = some ledger ∧ ledger.entries[index]? = some checkpoint ∧
    checkpoint.arbiter = arbiter

/-- The payload of the entry is retired because the last frame contradicts its checkpoint. -/
structure Retires (index : Nat) (world next : EngineWorld) (offer : ManifestOfferV2)
    (entry : ManifestEntryV2) (ledger : ReceiverDataPlaneLedgerV2)
    (checkpoint : ReceiverEntryCheckpointV2) (frame : ManifestV2Frame) : Prop where
  presented : Presented offer world.received
  entryFound : offer.manifest.entries[index]? = some entry
  stored : world.ledger = some ledger
  found : ledger.entries[index]? = some checkpoint
  last : world.received.getLast? = some frame
  contradicts : Contradicts entry checkpoint frame
  retired : next.ledger = some (ledger.put index (checkpoint.retired entry))

def Retired (index : Nat) (world next : EngineWorld) : Prop :=
  ∃ offer entry ledger checkpoint frame,
    Retires index world next offer entry ledger checkpoint frame

/-- The round does not reset an entry that has chosen reuse. -/
def SparesReuse (state : Reconciling) : Boundary → Prop
  | (entryId, nextPlaintextBlock, plaintextBytes, payloadComplete) =>
    Claimed nextPlaintextBlock payloadComplete → Lost state entryId plaintextBytes →
      ∀ checkpoint, state.ledger.entries[entryId.toNat]? = some checkpoint →
        checkpoint.arbiter ≠ .reuseChosen

section Steps

variable {entry : ManifestEntryV2} {plan : EntryPlanV2} {received : List ManifestV2Frame}
  {checkpoint next : ReceiverEntryCheckpointV2} {world : EngineWorld} {index : Nat}

/-- A step leaves a committed reuse alone or retires it after a contradiction. -/
theorem CheckpointStep.keeps_reuse (step : CheckpointStep entry plan received checkpoint next)
    (chosen : checkpoint.arbiter = .reuseChosen) :
    next.arbiter = .reuseChosen ∨ next = checkpoint.retired entry ∧
      ∃ frame, received.getLast? = some frame ∧ Contradicts entry checkpoint frame := by
  cases step with
  | started opened | reusePlanned _ opened | reused _ opened | block _ opened | verified _ opened
  | staged _ opened =>
    rw [chosen] at opened
    cases opened
  | digested | completed | recalled => exact .inl chosen
  | retired _ contradicted => exact .inr ⟨rfl, contradicted chosen⟩

theorem LedgerStep.keeps_reuse {offer : ManifestOfferV2} {ledger left : ReceiverDataPlaneLedgerV2}
    (step : LedgerStep offer received ledger left)
    (found : ledger.entries[index]? = some checkpoint)
    (chosen : checkpoint.arbiter = .reuseChosen) :
    (∃ after, left.entries[index]? = some after ∧ after.arbiter = .reuseChosen) ∨
      ∃ entry frame, offer.manifest.entries[index]? = some entry ∧ received.getLast? = some frame ∧
        Contradicts entry checkpoint frame ∧
        left = ledger.put index (checkpoint.retired entry) := by
  cases step with
  | @checkpoint moved entry _ before next entryFound _ present step =>
    by_cases here : index = moved
    · subst here
      obtain rfl := Option.some.inj (found.symm.trans present)
      obtain kept | ⟨rfl, frame, last, contradicts⟩ := CheckpointStep.keeps_reuse step chosen
      · have bound := (List.getElem?_eq_some_iff.mp found).1
        exact .inl ⟨next, ReceiverDataPlaneLedgerV2.entries_put_self bound, kept⟩
      · exact .inr ⟨entry, frame, entryFound, last, contradicts, rfl⟩
    · have kept : (ledger.put moved next).entries[index]? = ledger.entries[index]? :=
        ReceiverDataPlaneLedgerV2.entries_put_of_ne here
      exact .inl ⟨checkpoint, kept.trans found, chosen⟩
  | completionSet => exact .inl ⟨checkpoint, found, chosen⟩
  | results _ _ recorded =>
    obtain ⟨bound, same⟩ := List.getElem?_eq_some_iff.mp found
    have bound' := recorded.length_eq ▸ bound
    obtain ⟨result, recordedHere⟩ := recorded.get bound bound'
    refine .inl ⟨_, List.getElem?_eq_getElem bound', ?_⟩
    rw [List.get_eq_getElem, List.get_eq_getElem, same] at recordedHere
    rw [recordedHere]
    exact chosen

variable [Blake3] [UnicodeNormalization]

/-- No allowed call takes a committed reuse back but a retirement. -/
theorem ArbiterAt.move {arrives : ManifestV2Frame → Prop} {next : EngineWorld}
    (chosen : ArbiterAt world index .reuseChosen)
    (move : ReceiverMove arrives SparesReuse world next) :
    ArbiterAt next index .reuseChosen ∨ Retired index world next := by
  obtain ⟨ledger, checkpoint, stored, found, arbiter⟩ := chosen
  cases move with
  | stays | hears | sends | proves => exact .inl ⟨ledger, checkpoint, stored, found, arbiter⟩
  | @advances next saved =>
    cases saved with
    | created absent =>
      rw [stored] at absent
      cases absent
    | @stepped offer _ again presented step =>
      obtain rfl := Option.some.inj (stored.symm.trans again)
      obtain ⟨after, present, kept⟩ | ⟨entry, frame, entryFound, last, contradicts, rfl⟩ :=
        LedgerStep.keeps_reuse step found arbiter
      · exact .inl ⟨next, after, rfl, present, kept⟩
      · exact .inr ⟨offer, entry, ledger, checkpoint, frame, presented, entryFound, stored, found,
          last, contradicts,
          rfl⟩
  | @resets _ _ _ _ boundary entry reset again spares claimed lost resettable =>
    obtain rfl := Option.some.inj (stored.symm.trans again)
    -- a reset of this entry is not permitted, one of another leaves it alone
    by_cases here : index = boundary.1.toNat
    · subst here
      exact absurd arbiter (spares claimed lost checkpoint found)
    · have kept : (ledger.withReset boundary.1 entry reset).entries[index]? =
        ledger.entries[index]? :=
        ReceiverDataPlaneLedgerV2.entries_put_of_ne here
      exact .inl ⟨_, checkpoint, rfl, kept.trans found, arbiter⟩

variable [Zstd] {party later : Receiver}

theorem ArbiterAt.step {arrives : ManifestV2Frame → Prop}
    (lawful : party.Lawful (sessionContract arrives SparesReuse) ReceiverSessionRule)
    (chosen : ArbiterAt party.world index .reuseChosen)
    (step : Party.Step (sessionContract arrives SparesReuse) ReceiverOpens party later) :
    ArbiterAt later.world index .reuseChosen ∨ Retired index party.world later.world := by
  cases step with
  | starts => exact .inl chosen
  | calls may => exact chosen.move (lawful.call.move may)
  | stops => exact .inl chosen

/-- Along every run a committed reuse stays or is retired because the sender contradicts it, and
no block is handed to the sink for an entry whose payload is not open, as long as no round resets
an entry that has chosen reuse. -/
theorem committed_reuse_survives {world : EngineWorld}
    (reached : ReceiverRuns (fun _ => True) SparesReuse ⟨none, world⟩ party)
    (run : ReceiverRuns (fun _ => True) SparesReuse party later) :
    (∀ index, ArbiterAt party.world index .reuseChosen → ArbiterAt later.world index .reuseChosen ∨
      ∃ before after, ReceiverRuns (fun _ => True) SparesReuse party before ∧
        Party.Step (sessionContract (fun _ => True) SparesReuse) ReceiverOpens before after ∧
        ReceiverRuns (fun _ => True) SparesReuse after later ∧
        Retired index before.world after.world) ∧
    ∀ entry block rest, later.running = some (.call (.engine (.writeBlock entry block)) rest) →
      ArbiterAt later.world entry.entryId.toNat .payloadOpen := by
  constructor
  · intro index chosen
    induction run with
    | refl => exact .inl chosen
    | @tail before after run step ih =>
      obtain kept | ⟨first, second, earlier, change, between, retired⟩ := ih
      · obtain kept | retired := kept.step (ReceiverRuns.lawful (reached.trans run)) step
        · exact .inl kept
        · exact .inr ⟨before, after, run, step, .refl, retired⟩
      · exact .inr ⟨first, second, earlier, change, between.tail step, retired⟩
  · intro entry block rest running
    obtain ⟨running', now⟩ := later
    obtain rfl := running
    exact (ReceiverRuns.lawful (reached.trans run)).call

end Steps

/-! ## A job of one file that is reused late -/

section Frames

variable [Blake3] [UnicodeNormalization] [Zstd]

theorem ReceiverRuns.received_grows {arrives : ManifestV2Frame → Prop}
    {permitted : Reconciling → Boundary → Prop} {party later : Receiver}
    (run : ReceiverRuns arrives permitted party later) :
    party.world.received <+: later.world.received := by
  induction run with
  | refl => exact List.prefix_rfl
  | tail _ step ih =>
    cases step with
    | starts | stops => exact ih
    | calls => exact ih.trans (Session.received_grows _ _ _)

/-- While nothing comes in after a resume request, nothing is retired. -/
theorem not_retired_of_resumeRequest {arrives : ManifestV2Frame → Prop}
    {permitted : Reconciling → Boundary → Prop} {party before after later : Receiver}
    {request : ResumeRequestV2} {index : Nat}
    (earlier : ReceiverRuns arrives permitted party before)
    (rest : ReceiverRuns arrives permitted before later)
    (silent : later.world.received = party.world.received)
    (last : party.world.received.getLast? = some (.resumeRequest request)) :
    ¬ Retired index before.world after.world := by
  intro ⟨_, _, _, _, frame, retires⟩
  have lower := earlier.received_grows
  have upper := rest.received_grows
  rw [silent] at upper
  have seen := retires.last
  rw [upper.eq_of_length_le lower.length_le, last] at seen
  obtain rfl := Option.some.inj seen
  exact retires.contradicts

end Frames

/-- The object that an entry has chosen to reuse is where it was, with its size and digest. -/
def ReusedIntact [Blake3] (state : Reconciling) : Boundary → Prop
  | (entryId, _, _, _) =>
    ∀ entry checkpoint, state.provider.manifest.entries[entryId.toNat]? = some entry →
      state.ledger.entries[entryId.toNat]? = some checkpoint → checkpoint.arbiter = .reuseChosen →
      ∀ digest ∈ checkpoint.contentDigest, ObjectIntact state.provider state.files entry digest

def noteReused : EntryCompleteV2 := ⟨folderIdentity, 0, 0, nothingDigest, .reuseChosen⟩

/-- The ledger once the reuse has been chosen, without and with the sender's completion. -/
def noteChosen (completion : Option EntryCompleteV2) : ReceiverDataPlaneLedgerV2 :=
  noteLedger .reuseChosen (some folderStart) (some nothingDigest) completion

/-- The file is in the target directory and nothing is staged. -/
def targetOnly : Files := fun path => if path = ["downloads", "notes.txt"] then .file []
    else .missing

/-- The frames of a connection that ends after these many and of the resume after it. -/
def lateFrames (cut : Nat) : List ManifestV2Frame :=
  ([.offer noteOffer, .entryStart folderStart,
    .entryContentDigest ⟨folderIdentity, 0, nothingDigest, .proposed⟩, .entryComplete noteReused] :
      List ManifestV2Frame).take cut ++ [.resumeRequest noteRequest]

/-- An environment in which these frames arrive, the object is found, and the round for the entry
leaves this ledger. -/
def reusing (current left : ReceiverDataPlaneLedgerV2) (complete : Bool)
    (frames : List ManifestV2Frame) (world : EngineWorld) : (op : SessionOp) →
      Option (SessionReply op)
  | .engine (.delivery .recvManifestV2Frame) => frames[world.received.length]?.map .ok
  | .engine (.delivery (.sendManifestV2Frame _)) => some (.ok ())
  | .engine (.saveLedger _) => some .written
  | .engine (.beginEntry ..) => some (.ok ())
  | .engine (.tryChooseReuse ..) => some (.ok true)
  | .engine (.onProgress ..) => some ()
  | .engine (.onPhase _) => some ()
  | .engine (.onStage _) => some ()
  | .loadLedger => some (.ok world.ledger)
  | .loadReceiver => some (.ok world.receiver)
  | .destinationPlan .. => some (.ok noteProvider.plan)
  | .newProvider .. => some (.ok ())
  | .reconcileReuses .. => some (.ok ())
  | .reconcileBoundary manifest ledger boundary =>
    if manifest = noteManifest ∧ ledger = current ∧ boundary = (0, 0, 0, complete) then
      some ⟨left, .ok ()⟩
    else none
  | _ => none

theorem reusing_allowed {permitted : Reconciling → Boundary → Prop}
    {current left : ReceiverDataPlaneLedgerV2} {complete : Bool}
    (round : permitted ⟨targetOnly, noteProvider, current⟩ (0, 0, 0, complete))
    (leads : (reconcileBoundary (fun _ => .written) 0 0 0 complete).Leads ⟨targetOnly,
      noteProvider, current⟩ ()
      ⟨targetOnly, noteProvider, left⟩)
    (frames : List ManifestV2Frame) (world : EngineWorld) (op : SessionOp) (reply : SessionReply op)
    (answered : reusing current left complete frames world op = some reply) :
    (sessionContract (fun _ => True) permitted).may world op reply := by
  cases op with
  | engine op => exact repliesWith_free op reply
  | loadLedger | loadReceiver =>
    intro found same
    obtain rfl := Option.some.inj answered
    exact (Except.ok.inj same).symm
  | loadSender => cases answered
  | reconcileBoundary manifest ledger boundary =>
    simp only [reusing, Option.ite_none_right_eq_some, Option.some.injEq] at answered
    obtain ⟨⟨rfl, rfl, rfl⟩, rfl⟩ := answered
    exact .inl ⟨_, noteProvider, _, rfl, round, leads, rfl⟩
  | _ => trivial

/-- A receiver that runs for these many calls from where it is. -/
def lateCalls (current left : ReceiverDataPlaneLedgerV2) (cut calls : Nat) (party : Receiver) :
    Receiver :=
  party.walked afterSession (reusing current left (decide (cut = 4)) (lateFrames cut)) calls

/-- A receiver at the start of a connection. -/
def connecting (world : EngineWorld) : Receiver :=
  ⟨some ((@receiveSession resumeBlake3 asciiNormalization storedZstd 5).runOn ()), world⟩

theorem lateCalls_runs {permitted : Reconciling → Boundary → Prop}
    {current left : ReceiverDataPlaneLedgerV2} {cut : Nat} (allowed : ∀ world op reply,
      reusing current left (decide (cut = 4)) (lateFrames cut) world op = some reply →
      (sessionContract (fun _ => True) permitted).may world op reply) (calls : Nat)
        (party : Receiver) :
    @ReceiverRuns resumeBlake3 asciiNormalization storedZstd (fun _ => True) permitted party
      (lateCalls current left cut calls party) :=
  Party.run_walked allowed calls party

/-- The first connection, cut off after these calls, and the next one up to its round. -/
def lateCut (current left : ReceiverDataPlaneLedgerV2) (cut calls : Nat) : Receiver :=
  ⟨none,
    (lateCalls current left cut calls
      (connecting (folderWorld (noteLedger .payloadOpen none none none)))).world⟩

def lateRound (current left : ReceiverDataPlaneLedgerV2) (cut calls : Nat) : Receiver :=
  lateCalls current left cut 5 (connecting (lateCut current left cut calls).world)

theorem lateCut_runs {permitted : Reconciling → Boundary → Prop}
    {current left : ReceiverDataPlaneLedgerV2} {cut : Nat} (allowed : ∀ world op reply,
      reusing current left (decide (cut = 4)) (lateFrames cut) world op = some reply →
      (sessionContract (fun _ => True) permitted).may world op reply) (calls : Nat) :
    @ReceiverRuns resumeBlake3 asciiNormalization storedZstd (fun _ => True) permitted
      ⟨none, folderWorld (noteLedger .payloadOpen none none none)⟩
        (lateCut current left cut calls) :=
  .head (.starts ⟨5, rfl⟩) (.tail (lateCalls_runs allowed calls _) .stops)

theorem lateRound_runs {permitted : Reconciling → Boundary → Prop}
    {current left : ReceiverDataPlaneLedgerV2} {cut : Nat} (allowed : ∀ world op reply,
      reusing current left (decide (cut = 4)) (lateFrames cut) world op = some reply →
      (sessionContract (fun _ => True) permitted).may world op reply) (calls : Nat) :
    @ReceiverRuns resumeBlake3 asciiNormalization storedZstd (fun _ => True) permitted
      (lateCut current left cut calls) (lateRound current left cut calls) :=
  .head (.starts ⟨5, rfl⟩) (lateCalls_runs allowed 5 _)

/-- The reuse is chosen after the payload has begun and the sender agrees to it; the resume takes
the removed staging file for a lost payload and opens the payload again. -/
theorem late_reuse_is_reset :
    ¬ ∀ (world : EngineWorld) (party later : Receiver),
      @ReceiverRuns resumeBlake3 asciiNormalization storedZstd (fun _ => True)
      (@ReusedIntact resumeBlake3)
        ⟨none, world⟩ party →
      @ReceiverRuns resumeBlake3 asciiNormalization storedZstd (fun _ => True)
      (@ReusedIntact resumeBlake3)
        party later →
      (∀ index, ArbiterAt party.world index .reuseChosen →
        ArbiterAt later.world index .reuseChosen ∨
        ∃ before after, @ReceiverRuns resumeBlake3 asciiNormalization storedZstd (fun _ => True)
            (@ReusedIntact resumeBlake3) party before ∧
          Party.Step (sessionContract (fun _ => True) (@ReusedIntact resumeBlake3))
            (@ReceiverOpens resumeBlake3 asciiNormalization storedZstd) before after ∧
          @ReceiverRuns resumeBlake3 asciiNormalization storedZstd (fun _ => True)
          (@ReusedIntact resumeBlake3)
            after later ∧
          Retired index before.world after.world) ∧
      ∀ entry block rest, later.running = some (.call (.engine (.writeBlock entry block)) rest) →
        ArbiterAt later.world entry.entryId.toNat .payloadOpen := by
  intro always
  have intact :
      @ReusedIntact resumeBlake3 ⟨targetOnly, noteProvider, noteChosen (some noteReused)⟩ (0, 0,
          0, true) := by
    intro entry checkpoint entryFound found _ digest known root rootFound
    obtain rfl := Option.some.inj entryFound
    obtain rfl := Option.some.inj found
    obtain rfl := Option.some.inj known
    obtain rfl := Option.some.inj rootFound
    exact ⟨[], by decide, by decide, by decide⟩
  let current := noteChosen (some noteReused)
  let reset := lateCalls current noteReset 4 1 (lateRound current noteReset 4 20)
  have allowed :=
    @reusing_allowed (@ReusedIntact resumeBlake3) current noteReset true intact rfl (lateFrames 4)
  have last : @ReceiverRuns resumeBlake3 asciiNormalization storedZstd (fun _ => True)
    (@ReusedIntact resumeBlake3)
      (lateRound current noteReset 4 20) reset := lateCalls_runs allowed 1 _
  have frames : (lateRound current noteReset 4 20).world.received = lateFrames 4 ∧
      reset.world.received = lateFrames 4 := by set_option maxRecDepth 8000 in decide
  have chosen : (lateRound current noteReset 4 20).world.ledger = some current ∧
      reset.world.ledger = some noteReset := by set_option maxRecDepth 8000 in decide
  obtain ⟨survives, -⟩ := always _ _ reset
    ((lateCut_runs allowed 20).trans (lateRound_runs allowed 20)) last
  obtain ⟨ledger, checkpoint, stored, found, arbiter⟩ | ⟨before, after, earlier, step,
    between, retired⟩ :=
    survives 0 ⟨current, _, chosen.1, rfl, rfl⟩
  · obtain rfl := Option.some.inj (chosen.2.symm.trans stored)
    obtain rfl := Option.some.inj found
    cases arbiter
  · refine @not_retired_of_resumeRequest resumeBlake3 asciiNormalization storedZstd _ _ _ _ _ _
      noteRequest _ earlier
      (.head step between) (frames.2.trans frames.1.symm) ?_ retired
    rw [frames.1]
    rfl

/-- The same job cut off before the sender's completion: the round leaves the reuse alone. -/
theorem committed_reuse_survives_note :
    ArbiterAt (lateRound (noteChosen none) (noteChosen none) 3 16).world 0 .reuseChosen ∧
    ArbiterAt (lateCalls (noteChosen none) (noteChosen none) 3 4
      (lateRound (noteChosen none) (noteChosen none) 3 16)).world 0 .reuseChosen := by
  let current := noteChosen none
  have spares : SparesReuse ⟨targetOnly, noteProvider, current⟩ (0, 0, 0, false) :=
    fun claimed => absurd ⟨rfl, Bool.false_ne_true⟩ claimed
  have allowed := @reusing_allowed SparesReuse current current false spares rfl (lateFrames 3)
  have chosen : (lateRound current current 3 16).world.ledger = some current := by
    set_option maxRecDepth 8000 in decide
  have now : ArbiterAt (lateRound current current 3 16).world 0 .reuseChosen :=
    ⟨current, _, chosen, rfl, rfl⟩
  have frames : (lateRound current current 3 16).world.received = lateFrames 3 ∧
      (lateCalls current current 3 4 (lateRound current current 3 16)).world.received =
        lateFrames 3 := by
    set_option maxRecDepth 8000 in decide
  refine ⟨now, ?_⟩
  obtain ⟨survives, -⟩ := @committed_reuse_survives resumeBlake3 asciiNormalization storedZstd _ _ _
    ((lateCut_runs allowed 16).trans (lateRound_runs allowed 16))
      (lateCalls_runs allowed 4 (lateRound current current 3 16))
  obtain kept | ⟨before, after, earlier, step, between, retired⟩ := survives 0 now
  · exact kept
  · refine absurd retired ?_
    refine @not_retired_of_resumeRequest resumeBlake3 asciiNormalization storedZstd _ _ _ _ _ _
      noteRequest _ earlier
      (.head step between) (frames.2.trans frames.1.symm) ?_
    rw [frames.1]
    rfl

end Envoix.Session
