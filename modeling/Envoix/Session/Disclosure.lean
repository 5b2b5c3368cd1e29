import Envoix.Session.ReceiverSession

/-! # When the capability may be disclosed again

A receiver answers a plain Offer with its Accept, which carries the proof capability, as long as
its ledger shows nothing of the sender.  Every save of the data plane leaves a ledger that shows
the sender, so only a round of `reconcile_resume` can take that back: one that resets the last
entry which showed it.
-/

namespace Envoix.Session

open ByteCodec Fallible Process Process.Method Envoix.Protocol Envoix.Transfer FileSystem

section Receiver

variable [Blake3] [UnicodeNormalization] [Zstd]

/-- A receiver and its connections, one after another. -/
abbrev Receiver :=
  Party SessionOp SessionReply EngineWorld
    (Except SessionError ReceiverManifestV2SessionSummary × Unit)

/-- A connection of the receiver, from its first frame on. -/
def ReceiverOpens
    (program : Proc SessionOp SessionReply
      (Except SessionError ReceiverManifestV2SessionSummary × Unit)) :
    Prop :=
  ∃ fuel, program = (receiveSession fuel).runOn ()

/-- Any number of steps of a receiver: connections, crashes and reconnects. -/
def ReceiverRuns (arrives : ManifestV2Frame → Prop) (permitted : Reconciling → Boundary → Prop) :
    Receiver → Receiver → Prop :=
  Relation.ReflTransGen (Party.Step (sessionContract arrives permitted) ReceiverOpens)

variable {arrives : ManifestV2Frame → Prop} {permitted : Reconciling → Boundary → Prop}

theorem receiver_obedient
    (program : Proc SessionOp SessionReply
      (Except SessionError ReceiverManifestV2SessionSummary × Unit))
    (opened : ReceiverOpens program) (world : EngineWorld) :
    program.Follows (sessionContract arrives permitted) ReceiverSessionRule
      (fun _ _ => True) world := by
  obtain ⟨fuel, rfl⟩ := opened
  exact Proc.Follows.mono (receiveSession_obeys fuel world) fun _ _ _ => trivial

/-- A receiver that starts idle keeps to its rule. -/
theorem ReceiverRuns.lawful {world : EngineWorld} {party : Receiver}
    (run : ReceiverRuns arrives permitted ⟨none, world⟩ party) :
    party.Lawful (sessionContract arrives permitted) ReceiverSessionRule :=
  (Party.invariant_of_run (fun _ => True) receiver_obedient (fun _ _ _ _ _ _ => trivial) run
    (Party.lawful_idle _)
    trivial).1

end Receiver

section Disclosure

/-- Another entry of the ledger shows the sender. -/
def DisclosedElsewhere (ledger : ReceiverDataPlaneLedgerV2) (entryId : UInt32) : Prop :=
  ∃ index checkpoint, index ≠ entryId.toNat ∧ ledger.entries[index]? = some checkpoint ∧
    Discloses checkpoint

/-- The round resets its entry only if another one shows the sender. -/
def SparesDisclosure (state : Reconciling) : Boundary → Prop
  | (entryId, nextPlaintextBlock, plaintextBytes, payloadComplete) =>
    Claimed nextPlaintextBlock payloadComplete → Lost state entryId plaintextBytes →
      DisclosedElsewhere state.ledger entryId

/-- A reset ledger shows the sender exactly if another entry does. -/
theorem withReset_discloses_iff {manifest : ManifestV2} {ledger : ReceiverDataPlaneLedgerV2}
    {entryId : UInt32} {entry : ManifestEntryV2} {checkpoint : ReceiverEntryCheckpointV2}
    (resettable : Resettable manifest ledger entryId entry checkpoint) :
    (ledger.withReset entryId entry checkpoint).requiresAuthenticatedResume = true ↔
      DisclosedElsewhere ledger entryId := by
  rw [requiresAuthenticatedResume_iff]
  constructor
  · intro shown
    obtain digest | ⟨other, listed, shows⟩ := shown
    · cases digest
    obtain ⟨index, found⟩ := List.getElem?_of_mem listed
    by_cases here : index = entryId.toNat
    · -- the reset entry shows nothing
      subst here
      have reset : (ledger.withReset entryId entry checkpoint).entries[entryId.toNat]? =
          some { checkpoint.retired entry with start := none } :=
        ReceiverDataPlaneLedgerV2.entries_put_self (List.getElem?_eq_some_iff.mp resettable.found).1
      obtain rfl := Option.some.inj (reset.symm.trans found)
      simp [Discloses, ReceiverEntryCheckpointV2.retired, resettable.unfinished] at shows
    · have kept : (ledger.withReset entryId entry checkpoint).entries[index]? =
        ledger.entries[index]? :=
        ReceiverDataPlaneLedgerV2.entries_put_of_ne here
      exact ⟨index, other, here, kept.symm.trans found, shows⟩
  · rintro ⟨index, other, elsewhere, found, shows⟩
    have kept : (ledger.withReset entryId entry checkpoint).entries[index]? =
      ledger.entries[index]? :=
      ReceiverDataPlaneLedgerV2.entries_put_of_ne elsewhere
    exact .inr ⟨other, List.mem_of_getElem? (kept.trans found), shows⟩

/-- The stored ledger shows the sender, and no Accept has been sent beyond these frames. -/
structure Disclosed (sent : List ManifestV2Frame) (world : EngineWorld) : Prop where
  stored : ∃ ledger, world.ledger = some ledger ∧ ledger.requiresAuthenticatedResume = true
  silent : ∃ answers, world.sent = sent ++ answers ∧ ∀ accept, .accept accept ∉ answers

theorem Disclosed.sends {sent : List ManifestV2Frame} {world : EngineWorld}
    {frame : ManifestV2Frame} (disclosed : Disclosed sent world)
    (other : ∀ accept, frame ≠ .accept accept) :
    Disclosed sent { world with sent := world.sent ++ [frame] } := by
  obtain ⟨answers, grown, silent⟩ := disclosed.silent
  refine ⟨disclosed.stored, answers ++ [frame], ?_, ?_⟩
  · show world.sent ++ [frame] = _
    rw [grown, List.append_assoc]
  · intro accept listed
    obtain before | last := List.mem_append.mp listed
    · exact silent accept before
    · exact other accept (List.mem_singleton.mp last).symm

variable [Blake3] [UnicodeNormalization]

/-- No allowed call takes the disclosure back. -/
theorem Disclosed.move {arrives : ManifestV2Frame → Prop} {sent : List ManifestV2Frame}
    {world next : EngineWorld} (disclosed : Disclosed sent world)
    (move : ReceiverMove arrives SparesDisclosure world next) :
    Disclosed sent next := by
  obtain ⟨ledger, stored, shows⟩ := disclosed.stored
  cases move with
  | stays => exact disclosed
  | hears | proves => exact ⟨disclosed.stored, disclosed.silent⟩
  | sends allowed =>
    apply disclosed.sends
    intro accept same
    subst same
    obtain ⟨found, again, -, undisclosed⟩ := allowed
    obtain rfl := Option.some.inj (stored.symm.trans again)
    rw [shows] at undisclosed
    cases undisclosed
  | @advances next saved =>
    refine ⟨⟨next, rfl, ?_⟩, disclosed.silent⟩
    cases saved with
    | created absent =>
      rw [stored] at absent
      cases absent
    | stepped _ _ step => exact step.discloses
  | resets again spares claimed lost resettable =>
    obtain rfl := Option.some.inj (stored.symm.trans again)
    refine ⟨⟨_, rfl, ?_⟩, disclosed.silent⟩
    exact (withReset_discloses_iff resettable).mpr (spares claimed lost)

/-- Once the durable ledger requires an authenticated resume, it does so for good and no Accept is
sent any more, as long as no round resets the last entry that shows the sender. -/
theorem disclosure_is_one_way [Zstd] {world : EngineWorld} {party later : Receiver}
    {ledger : ReceiverDataPlaneLedgerV2}
    (reached : ReceiverRuns (fun _ => True) SparesDisclosure ⟨none, world⟩ party)
    (stored : party.world.ledger = some ledger)
    (disclosed : ledger.requiresAuthenticatedResume = true)
    (run : ReceiverRuns (fun _ => True) SparesDisclosure party later) :
    (∃ next, later.world.ledger = some next ∧ next.requiresAuthenticatedResume = true) ∧
      ∃ answers, later.world.sent = party.world.sent ++ answers ∧
        ∀ accept, .accept accept ∉ answers := by
  have now : Disclosed party.world.sent party.world :=
    ⟨⟨ledger, stored, disclosed⟩, [], (List.append_nil _).symm, fun _ listed => nomatch listed⟩
  have finally_ := (Party.invariant_of_run (Disclosed party.world.sent) receiver_obedient
    (fun _ _ _ disclosed allowed may => disclosed.move (allowed.move may)) run reached.lawful now).2
  exact ⟨finally_.stored, finally_.silent⟩

end Disclosure

/-! ## A job of one file whose staging file is lost -/

def noteCheckpoint : ByteVector 32 :=
  ⟨[0x87, 0x05, 0x9d, 0xcc, 0x3a, 0x07, 0x33, 0xab, 0xb1, 0xac, 0x7d, 0x03, 0x18, 0x54, 0xaa, 0x7a,
    0x67, 0x63, 0x0c, 0xb6, 0x9f, 0x53, 0x15, 0x66, 0xc4, 0x8a, 0xe2, 0x4e, 0xf9, 0xb4, 0x3c, 0x79],
      rfl⟩

/-- BLAKE3 on what the resume of this job hashes. -/
@[reducible] def resumeBlake3 : Blake3 where
  hash := noteBlake3.hash
  deriveKey context input :=
    if context = senderCheckpointContext ∧
        input = noteDigest.bytes.toList ++ noteAcceptDigest.bytes.toList ++
          [SenderResumeIntentV2.continueData.tag]
    then noteCheckpoint else nothingDigest.bytes
  keyedHash _ _ := nothingDigest.bytes

def noteOffer : ManifestOfferV2 := ⟨noteDigest, noteManifest⟩

def noteRequest : ResumeRequestV2 where
  identity := folderIdentity
  offer := noteOffer
  acceptBodyDigest := noteAcceptDigest
  senderCheckpointDigest := ⟨noteCheckpoint⟩
  challengeNonce := .replicate 32 0x21

def noteProvider : LocalDestinationProviderV2 := oneEntryProvider noteManifest rfl rfl

/-- The ledger once its only entry has been reset. -/
def noteReset : ReceiverDataPlaneLedgerV2 :=
  { noteLedger .payloadOpen none none none with
    entries := [⟨0, none, .payloadOpen, 0, 0, none, none, none, true⟩] }

/-- An environment in which these frames arrive and the round for the entry leaves this ledger. -/
def answering (left : ReceiverDataPlaneLedgerV2) (frames : List ManifestV2Frame)
    (world : EngineWorld) :
    (op : SessionOp) → Option (SessionReply op)
  | .engine (.delivery .recvManifestV2Frame) => frames[world.received.length]?.map .ok
  | .engine (.delivery (.sendManifestV2Frame _)) => some (.ok ())
  | .loadLedger => some (.ok world.ledger)
  | .destinationPlan .. => some (.ok noteProvider.plan)
  | .newProvider .. => some (.ok ())
  | .reconcileReuses .. => some (.ok ())
  | .reconcileBoundary manifest ledger boundary =>
    if manifest = noteManifest ∧ ledger = noteCut ∧ boundary = (0, 0, 0, true) then
      some ⟨left, .ok ()⟩
    else none
  | _ => none

theorem answering_allowed {permitted : Reconciling → Boundary → Prop} {node : Node}
    {left : ReceiverDataPlaneLedgerV2}
    (round : permitted ⟨stagingOf node, noteProvider, noteCut⟩ (0, 0, 0, true))
    (leads : (reconcileBoundary (fun _ => .written) 0 0 0 true).Leads ⟨stagingOf node,
      noteProvider, noteCut⟩ ()
      ⟨stagingOf node, noteProvider, left⟩)
    (frames : List ManifestV2Frame) (world : EngineWorld) (op : SessionOp) (reply : SessionReply op)
    (answered : answering left frames world op = some reply) :
    (sessionContract (fun _ => True) permitted).may world op reply := by
  cases op with
  | engine op => exact repliesWith_free op reply
  | loadLedger =>
    intro found same
    obtain rfl := Option.some.inj answered
    exact (Except.ok.inj same).symm
  | loadSender | loadReceiver => cases answered
  | reconcileBoundary manifest ledger boundary =>
    simp only [answering, Option.ite_none_right_eq_some, Option.some.injEq] at answered
    obtain ⟨⟨rfl, rfl, rfl⟩, rfl⟩ := answered
    exact .inl ⟨_, noteProvider, _, rfl, round, leads, rfl⟩
  | _ => trivial

/-- The resume request, and in a later connection a plain offer. -/
def noteFrames : List ManifestV2Frame := [.resumeRequest noteRequest, .offer noteOffer]

/-- The first calls of a connection. -/
def noteSession (left : ReceiverDataPlaneLedgerV2) (fuel : Nat) (world : EngineWorld) :=
  Proc.walk afterSession (answering left noteFrames) fuel
    ((@receiveSession resumeBlake3 asciiNormalization storedZstd 5).runOn ()) world

/-- A connection that is cut off after these calls. -/
theorem noteSession_runs {permitted : Reconciling → Boundary → Prop}
    {left : ReceiverDataPlaneLedgerV2}
    (allowed : ∀ world op reply, answering left noteFrames world op = some reply →
      (sessionContract (fun _ => True) permitted).may world op reply) (fuel : Nat)
        (world : EngineWorld) :
    @ReceiverRuns resumeBlake3 asciiNormalization storedZstd (fun _ => True) permitted ⟨none, world⟩
      ⟨none, (noteSession left fuel world).2⟩ := by
  have run :
    Proc.Reaches (sessionContract (fun _ => True) permitted) _ world (noteSession left fuel world).1
      (noteSession left fuel world).2 := Proc.walk_reaches allowed fuel _ world
  exact .head (.starts ⟨5, rfl⟩) (.tail (Party.run_of_reaches run) .stops)

/-- The worlds after the connection that resets the entry, and after the next one. -/
def resetWorld : EngineWorld := (noteSession noteReset 6 (folderWorld noteCut)).2

def answeredWorld : EngineWorld := (noteSession noteReset 4 resetWorld).2

/-- The resume of a job whose staging file is lost resets its only entry; the next plain Offer is
answered with the Accept again. -/
theorem lost_note_is_disclosed_again :
    ¬ ∀ (world : EngineWorld) (party later : Receiver) (ledger : ReceiverDataPlaneLedgerV2),
      @ReceiverRuns resumeBlake3 asciiNormalization storedZstd (fun _ => True)
      (fun _ _ => True) ⟨none, world⟩ party →
      party.world.ledger = some ledger → ledger.requiresAuthenticatedResume = true →
      @ReceiverRuns resumeBlake3 asciiNormalization storedZstd (fun _ => True)
      (fun _ _ => True) party later →
      (∃ next, later.world.ledger = some next ∧ next.requiresAuthenticatedResume = true) ∧
        ∃ answers, later.world.sent = party.world.sent ++ answers ∧
          ∀ accept, .accept accept ∉ answers := by
  intro always
  have allowed := @answering_allowed (fun _ _ => True) .missing noteReset trivial rfl noteFrames
  obtain ⟨⟨next, stored, shows⟩, -⟩ := always (folderWorld noteCut) ⟨none, folderWorld noteCut⟩
    ⟨none, answeredWorld⟩ noteCut .refl rfl (by decide)
    (.trans (noteSession_runs allowed 6 (folderWorld noteCut))
      (noteSession_runs allowed 4 resetWorld))
  have reset : answeredWorld.ledger = some noteReset ∧
      answeredWorld.sent = [.accept noteAccept] := by
    set_option maxRecDepth 8000 in decide
  obtain rfl := Option.some.inj (stored.symm.trans reset.1)
  have hidden : noteReset.requiresAuthenticatedResume = false := by decide
  rw [hidden] at shows
  cases shows

/-- The world after the resume of the job with its staging file in place. -/
def resumedWorld : EngineWorld := (noteSession noteCut 6 (folderWorld noteCut)).2

/-- The same resume with the staging file in place. -/
theorem disclosure_is_one_way_note :
    noteCut.requiresAuthenticatedResume = true ∧
    resumedWorld.received = [.resumeRequest noteRequest] ∧
      ((∃ next, resumedWorld.ledger = some next ∧ next.requiresAuthenticatedResume = true) ∧
        ∃ answers, resumedWorld.sent = [] ++ answers ∧ ∀ accept, .accept accept ∉ answers) := by
  have spares : SparesDisclosure ⟨stagingOf (.file []), noteProvider, noteCut⟩ (0, 0, 0, true) := by
    intro _ ⟨_, path, _, _, found, missing⟩
    obtain rfl := Option.some.inj found
    exact absurd ⟨[], rfl, rfl⟩ missing
  have run :
    @ReceiverRuns resumeBlake3 asciiNormalization storedZstd (fun _ => True) SparesDisclosure
      ⟨none, folderWorld noteCut⟩ ⟨none, resumedWorld⟩ :=
    noteSession_runs (answering_allowed spares rfl noteFrames) 6 (folderWorld noteCut)
  have shows : noteCut.requiresAuthenticatedResume = true := by decide
  refine ⟨shows, by set_option maxRecDepth 8000 in decide, ?_⟩
  exact @disclosure_is_one_way resumeBlake3 asciiNormalization storedZstd (folderWorld noteCut)
    ⟨none, folderWorld noteCut⟩ ⟨none, resumedWorld⟩ noteCut .refl rfl shows run

end Envoix.Session
