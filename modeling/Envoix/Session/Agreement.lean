import Envoix.Session.Disclosure
import Envoix.Session.SenderSession

/-! # A sender and a receiver of one job

Both ends run their connections one after another, may stop anywhere and receive frames that the
other end has sent, in any order, more than once, or never.  A ledger that requires an
authenticated resume has seen a frame of the data plane, such a frame is sent under a durable
Accept only, and that Accept came from the ledger.
-/

namespace Envoix.Session

open ByteCodec Fallible Process Process.Method Envoix.Protocol Envoix.Transfer FileSystem

section System

variable [Blake3] [UnicodeNormalization] [Zstd]

/-- A sender and its connections, one after another. -/
abbrev Sender :=
  Party SessionOp SessionReply EngineWorld
    (Except SessionError SenderManifestV2SessionSummary × Unit)

/-- A connection of the sender of a sealed job. -/
def SenderOpens (manifest : ManifestV2)
    (program : Proc SessionOp SessionReply (Except SessionError SenderManifestV2SessionSummary ×
      Unit)) : Prop :=
  ∃ fuel, program = (sendSession fuel (some manifest)).runOn ()

structure Pair where
  sender : Sender
  receiver : Receiver

/-- One step of either end; what arrives is what the other has sent. -/
inductive Pair.Step (manifest : ManifestV2) (pair : Pair) : Pair → Prop where
  | sender {next : Sender}
      (step : Party.Step (sessionContract (· ∈ pair.receiver.world.sent) fun _ _ => True)
        (SenderOpens manifest)
        pair.sender next) : Step manifest pair { pair with sender := next }
  | receiver {next : Receiver}
      (step : Party.Step (sessionContract (· ∈ pair.sender.world.sent) fun _ _ => True)
        ReceiverOpens
        pair.receiver next) : Step manifest pair { pair with receiver := next }

/-- Both ends before their first connection. -/
def Pair.start : Pair := ⟨⟨none, none, none, none, [], []⟩, ⟨none, none, none, none, [], []⟩⟩

/-- The pairs of any run. -/
def Pair.Reachable (manifest : ManifestV2) : Pair → Prop :=
  Relation.ReflTransGen (Pair.Step manifest) Pair.start

end System

/-! ## The sender's end -/

section Sender

variable [Blake3] [UnicodeNormalization] {offer : ManifestOfferV2} {said : List ManifestV2Frame}
  {opened : Nat}
  {world next : EngineWorld} {record : SenderDeliveryRecordV2}

/-- What holds of a durable record of the offer: an Accept in it came in and is digested. -/
structure RecordHolds (offer : ManifestOfferV2) (received : List ManifestV2Frame)
    (record : SenderDeliveryRecordV2) :
    Prop where
  valid : record.validateOffer offer = .ok ()
  current : record.schemaVersion = senderDeliverySchemaVersion
  running : record.phase ≠ .failed ∧ record.phase ≠ .canceled
  accepted : ∀ accept, record.accept = some accept → .accept accept ∈ received ∧
    ∃ digest, canonicalManifestV2FrameBodyDigest (.accept accept) = .ok digest ∧
      record.acceptBodyDigest = some digest

/-- What holds of a sender's end, whose peer has said these frames. -/
structure SenderHolds (offer : ManifestOfferV2) (said : List ManifestV2Frame)
    (world : EngineWorld) : Prop where
  heard : ∀ frame ∈ world.received, frame ∈ said
  record : ∀ record, world.sender = some record → RecordHolds offer world.received record
  offered : ∀ sent, .offer sent ∈ world.sent → sent = offer
  started : ∀ frame ∈ world.sent, CarriesData frame → ∃ record, world.sender = some record ∧
    record.accept.isSome

theorem RecordHolds.more (holds : RecordHolds offer world.received record)
    (frame : ManifestV2Frame) :
    RecordHolds offer (world.received ++ [frame]) record := by
  refine ⟨holds.valid, holds.current, holds.running, fun accept committed => ?_⟩
  obtain ⟨arrived, digested⟩ := holds.accepted accept committed
  exact ⟨List.mem_append_left _ arrived, digested⟩

theorem SenderHolds.hears {frame : ManifestV2Frame} (holds : SenderHolds offer said world)
    (arrived : frame ∈ said) :
    SenderHolds offer said { world with received := world.received ++ [frame] } := by
  refine ⟨?_, fun record stored => (holds.record record stored).more frame, holds.offered,
    holds.started⟩
  intro other listed
  obtain before | last := List.mem_append.mp listed
  · exact holds.heard other before
  · rw [List.mem_singleton.mp last]
    exact arrived

theorem SenderHolds.sends {frame : ManifestV2Frame} (holds : SenderHolds offer said world)
    (allowed : SenderSends offer opened world frame) :
    SenderHolds offer said { world with sent := world.sent ++ [frame] } := by
  refine ⟨holds.heard, holds.record, ?_, ?_⟩
  · intro sent listed
    obtain before | last := List.mem_append.mp listed
    · exact holds.offered sent before
    · obtain rfl := List.mem_singleton.mp last
      exact allowed.1
  · intro other listed carries
    obtain before | last := List.mem_append.mp listed
    · exact holds.started other before carries
    · obtain rfl := List.mem_singleton.mp last
      cases other with
      | entryStart | entryContentDigest | entryBlock | entryComplete | jobComplete =>
        exact allowed.2.2
      | _ => exact carries.elim

/-- The step of a save, by what it changes. -/
theorem SenderHolds.saves (holds : SenderHolds offer said world)
    (saved : SenderSave offer world record) (valid : record.validateOffer offer = .ok ()) :
    SenderHolds offer said { world with sender := some record } := by
  -- what was sent under an Accept stays under it
  have keeps (kept : ∀ old, world.sender = some old → old.accept.isSome → record.accept.isSome)
      (now : RecordHolds offer world.received record) :
          SenderHolds offer said { world with sender := some record } := by
    refine ⟨holds.heard, ?_, holds.offered, ?_⟩
    · intro found stored
      obtain rfl := Option.some.inj stored
      exact now
    · intro frame listed carries
      obtain ⟨old, stored, accepted⟩ := holds.started frame listed carries
      exact ⟨record, rfl, kept old stored accepted⟩
  cases saved with
  | created absent new =>
    subst new
    apply keeps
    · intro old stored
      rw [absent] at stored
      cases stored
    · exact ⟨valid, rfl, ⟨(by intro same; cases same), (by intro same; cases same)⟩,
        fun accept committed => (by cases committed)⟩
  -- a retry freezes the manifest anew and keeps the Accept
  | @refrozen old stored frozen current =>
    obtain ⟨-, schema, running, accepted⟩ := holds.record old stored
    have schema : record.schemaVersion = senderDeliverySchemaVersion := by
      obtain rfl | same := current
      · exact schema
      · exact same
    have same : record.accept = old.accept ∧ record.acceptBodyDigest = old.acceptBodyDigest ∧
        record.phase = old.phase := by
      rw [frozen]
      exact ⟨rfl, rfl, rfl⟩
    apply keeps
    · intro found again
      obtain rfl := Option.some.inj (stored.symm.trans again)
      rw [same.1]
      exact id
    · refine ⟨valid, schema, same.2.2 ▸ running, ?_⟩
      rw [same.1, same.2.1]
      exact accepted
  | @accepted old accept digest stored opening arrived digested same =>
    subst same
    obtain ⟨-, schema, running, -⟩ := holds.record old stored
    apply keeps
    · exact fun _ _ _ => rfl
    · refine ⟨valid, schema, ?_, ?_⟩
      · by_cases offering : old.phase = .offering
        · simp [SenderDeliveryRecordV2.underAccept, offering]
        · simpa [SenderDeliveryRecordV2.underAccept, offering] using running
      · intro committed same
        obtain rfl := Option.some.inj same
        exact ⟨arrived, digest, digested, rfl⟩
  | @results old summary stored same =>
    subst same
    obtain ⟨-, schema, running, accepted⟩ := holds.record old stored
    apply keeps
    · intro found again
      obtain rfl := Option.some.inj (stored.symm.trans again)
      exact id
    · refine ⟨valid, schema, ?_, accepted⟩
      by_cases transferring : old.phase = .transferring
      · simp [SenderDeliveryRecordV2.withResults, transferring]
      · simpa [SenderDeliveryRecordV2.withResults, transferring] using running
  -- a delivered record is neither failed nor cancelled
  | @delivered old proof stored waiting arrived same =>
    subst same
    obtain ⟨-, schema, -, accepted⟩ := holds.record old stored
    apply keeps
    · intro found again
      obtain rfl := Option.some.inj (stored.symm.trans again)
      exact id
    · exact ⟨valid, schema, ⟨(by rintro ⟨⟩), (by rintro ⟨⟩)⟩, accepted⟩

theorem SenderHolds.move (holds : SenderHolds offer said world)
    (move : SenderMove (· ∈ said) offer opened world next) : SenderHolds offer said next := by
  cases move with
  | stays => exact holds
  | hears arrived => exact holds.hears arrived
  | sends allowed => exact holds.sends allowed
  | answered allowed arrived => exact (holds.sends allowed).hears arrived
  | saves saved valid => exact holds.saves saved valid

theorem SenderMove.sent_grows {arrives : ManifestV2Frame → Prop}
    (move : SenderMove arrives offer opened world next) : world.sent ⊆ next.sent := by
  cases move with
  | stays | hears | saves => exact List.Subset.refl _
  | sends | answered => exact List.subset_append_left _ _

theorem SenderHolds.said_more {more : List ManifestV2Frame} (holds : SenderHolds offer said world)
    (grows : said ⊆ more) : SenderHolds offer more world :=
  ⟨fun frame listed => grows (holds.heard frame listed), holds.record, holds.offered, holds.started⟩

end Sender

/-! ## The receiver's end -/

section Receiver

/-- The ledger shows that the sender has begun, or has decided an entry. -/
def Begun (ledger : ReceiverDataPlaneLedgerV2) : Prop :=
  ledger.requiresAuthenticatedResume = true ∨ ∃ checkpoint ∈ ledger.entries, checkpoint.arbiter ≠
    .payloadOpen

theorem begun_of_start {ledger : ReceiverDataPlaneLedgerV2} {index : Nat}
    {checkpoint : ReceiverEntryCheckpointV2} (found : ledger.entries[index]? = some checkpoint)
    (started : checkpoint.start.isSome) : Begun ledger :=
  .inl (requiresAuthenticatedResume_iff.mpr
    (.inr ⟨checkpoint, List.mem_of_getElem? found, .inl started⟩))

variable [Blake3] [UnicodeNormalization] {said received : List ManifestV2Frame}
  {world next : EngineWorld}
  {ledger : ReceiverDataPlaneLedgerV2}

/-- The ledger was made for an offer that came in. -/
structure FoundedOn (offer : ManifestOfferV2) (ledger : ReceiverDataPlaneLedgerV2) : Prop where
  identity : ledger.identity = manifestIdentity offer.manifest
  manifestDigest : ledger.manifestDigest = offer.structuralDigest
  entries : ledger.entries.length = offer.manifest.entries.length

/-- What holds of a durable ledger, after these frames. -/
structure LedgerHolds (received : List ManifestV2Frame) (ledger : ReceiverDataPlaneLedgerV2) :
    Prop where
  founded : ∃ offer, .offer offer ∈ received ∧ FoundedOn offer ledger
  digested : canonicalManifestV2FrameBodyDigest (.accept ledger.accept) =
    .ok ledger.acceptBodyDigest
  begun : Begun ledger → ∃ frame ∈ received, CarriesData frame

/-- What holds of a receiver's end, whose peer has said these frames. -/
structure ReceiverHolds (said : List ManifestV2Frame) (world : EngineWorld) : Prop where
  heard : ∀ frame ∈ world.received, frame ∈ said
  ledger : ∀ ledger, world.ledger = some ledger → LedgerHolds world.received ledger
  accepts : ∀ accept, .accept accept ∈ world.sent → ∃ ledger, world.ledger = some ledger ∧
    ledger.accept = accept

/-- A new ledger without boundaries shows nothing yet. -/
theorem LedgerHolds.of_new {offer : ManifestOfferV2} {accept : ManifestAcceptV2}
    (arrived : .offer offer ∈ received)
    (fresh : ∀ plan ∈ accept.entryPlans, plan.nextPlaintextBlock = 0)
      (new : ReceiverDataPlaneLedgerV2.new offer accept = .ok (some ledger)) :
        LedgerHolds received ledger := by
  simp only [ReceiverDataPlaneLedgerV2.new, bind_eq_ok, exists_unit, mapErr_eq_ok, pure_eq_ok,
    Option.map_eq_some_iff, mapM_eq_some] at new
  obtain ⟨accepted, digest, body, checkpoints, planned, rfl⟩ := new
  simp only [validateAccept, bind_eq_ok, exists_unit, reject_eq_ok, not_or, not_not] at accepted
  obtain ⟨⟨jobId, generation, -⟩, -⟩ := accepted
  have length : checkpoints.length = offer.manifest.entries.length := by
    simpa using (congrArg List.length planned).symm
  refine ⟨⟨offer, arrived, ?_, rfl, length⟩, body, ?_⟩
  · show accept.identity = ⟨offer.manifest.jobId, offer.manifest.generation⟩
    rw [← jobId, ← generation]
  · intro begun
    -- every checkpoint is as it was made
    have made : ∀ checkpoint ∈ checkpoints, ¬ Discloses checkpoint ∧
        checkpoint.arbiter = .payloadOpen := by
      intro checkpoint listed
      have mapped := List.mem_map_of_mem (f := some) listed
      rw [← planned] at mapped
      obtain ⟨entry, -, same⟩ := List.mem_map.mp mapped
      obtain ⟨plan, planFound, rfl⟩ := Option.map_eq_some_iff.mp same
      have start := fresh plan (List.mem_of_getElem? planFound)
      have nothing : min (saturatingMul64 0 defaultBlockBytes) entry.plaintextSize = 0 := by
        rw [show saturatingMul64 0 defaultBlockBytes = 0 by decide]
        exact if_pos (UInt64.le_iff_toNat_le.mpr (Nat.zero_le _))
      simp [Discloses, newCheckpoint, start, nothing]
    obtain shows | ⟨checkpoint, listed, decided⟩ := begun
    · obtain digest | ⟨checkpoint, listed, shows⟩ := requiresAuthenticatedResume_iff.mp shows
      · cases digest
      · exact absurd shows (made checkpoint listed).1
    · exact absurd (made checkpoint listed).2 decided

theorem LedgerHolds.step {offer : ManifestOfferV2} {left : ReceiverDataPlaneLedgerV2}
    (holds : LedgerHolds received ledger) (step : LedgerStep offer received ledger left) :
    LedgerHolds received left := by
  obtain ⟨⟨founding, arrived, founded⟩, digested, begun⟩ := holds
  cases step with
  | checkpoint _ _ found step =>
    refine ⟨⟨founding, arrived, founded.identity, founded.manifestDigest, ?_⟩, digested,
      fun _ => ?_⟩
    · rw [ReceiverDataPlaneLedgerV2.length_put]
      exact founded.entries
    · cases step with
      | @started start _ _ _ arrived => exact ⟨.entryStart start, arrived, trivial⟩
      | reusePlanned live | digested live | reused live | block live | retired live | completed live
      | verified live
      | staged live => exact begun (begun_of_start found live.started)
      | recalled _ decided => exact begun (.inr ⟨_, List.mem_of_getElem? found, decided⟩)
  | @completionSet complete arrivedComplete =>
    refine ⟨⟨founding, arrived, founded.identity, founded.manifestDigest, founded.entries⟩,
      digested, fun _ => ?_⟩
    exact ⟨.jobComplete complete, arrivedComplete, trivial⟩
  | results _ ended recorded =>
    refine ⟨⟨founding, arrived, founded.identity, founded.manifestDigest, ?_⟩, digested,
      fun _ => ?_⟩
    · exact recorded.length_eq.symm.trans founded.entries
    · exact begun (.inl (requiresAuthenticatedResume_iff.mpr (.inl ended)))

omit [Blake3] [UnicodeNormalization] in
/-- A reset shows no more than the ledger it is made from. -/
theorem Begun.of_reset {manifest : ManifestV2} {entryId : UInt32} {entry : ManifestEntryV2}
    {checkpoint : ReceiverEntryCheckpointV2}
    (resettable : Resettable manifest ledger entryId entry checkpoint)
    (begun : Begun (ledger.withReset entryId entry checkpoint)) : Begun ledger := by
  obtain shows | ⟨other, listed, decided⟩ := begun
  · obtain ⟨index, other, -, found, shows⟩ := (withReset_discloses_iff resettable).mp shows
    exact .inl
      (requiresAuthenticatedResume_iff.mpr (.inr ⟨other, List.mem_of_getElem? found, shows⟩))
  · obtain ⟨index, found⟩ := List.getElem?_of_mem listed
    by_cases here : index = entryId.toNat
    · subst here
      have reset : (ledger.withReset entryId entry checkpoint).entries[entryId.toNat]? =
          some { checkpoint.retired entry with start := none } :=
        ReceiverDataPlaneLedgerV2.entries_put_self (List.getElem?_eq_some_iff.mp resettable.found).1
      obtain rfl := Option.some.inj (reset.symm.trans found)
      exact absurd rfl decided
    · have kept : (ledger.withReset entryId entry checkpoint).entries[index]? =
        ledger.entries[index]? :=
        ReceiverDataPlaneLedgerV2.entries_put_of_ne here
      exact .inr ⟨other, List.mem_of_getElem? (kept.symm.trans found), decided⟩

theorem LedgerHolds.reset {manifest : ManifestV2} {entryId : UInt32} {entry : ManifestEntryV2}
    {checkpoint : ReceiverEntryCheckpointV2} (holds : LedgerHolds received ledger)
    (resettable : Resettable manifest ledger entryId entry checkpoint) :
    LedgerHolds received (ledger.withReset entryId entry checkpoint) := by
  obtain ⟨⟨founding, arrived, founded⟩, digested, begun⟩ := holds
  refine ⟨⟨founding, arrived, founded.identity, founded.manifestDigest, ?_⟩, digested, ?_⟩
  · exact ReceiverDataPlaneLedgerV2.length_put.trans founded.entries
  · exact fun shows => begun (Begun.of_reset resettable shows)

theorem LedgerHolds.more (holds : LedgerHolds received ledger) (frame : ManifestV2Frame) :
    LedgerHolds (received ++ [frame]) ledger := by
  obtain ⟨⟨founding, arrived, founded⟩, digested, begun⟩ := holds
  refine ⟨⟨founding, List.mem_append_left _ arrived, founded⟩, digested, fun shows => ?_⟩
  obtain ⟨other, listed, carries⟩ := begun shows
  exact ⟨other, List.mem_append_left _ listed, carries⟩

/-- A ledger takes the place of another under the same Accept, or of none. -/
theorem ReceiverHolds.replaces (holds : ReceiverHolds said world)
    (now : LedgerHolds world.received ledger)
    (kept : ∀ old, world.ledger = some old → ledger.accept = old.accept) :
    ReceiverHolds said { world with ledger := some ledger } := by
  refine ⟨holds.heard, ?_, ?_⟩
  · intro found stored
    obtain rfl := Option.some.inj stored
    exact now
  · intro accept listed
    obtain ⟨old, stored, same⟩ := holds.accepts accept listed
    exact ⟨ledger, rfl, (kept old stored).trans same⟩

theorem ReceiverHolds.move {permitted : Reconciling → Boundary → Prop}
    (holds : ReceiverHolds said world) (move : ReceiverMove (· ∈ said) permitted world next) :
    ReceiverHolds said next := by
  cases move with
  | stays => exact holds
  | proves => exact ⟨holds.heard, holds.ledger, holds.accepts⟩
  | @hears frame arrived =>
    refine ⟨?_, fun ledger stored => (holds.ledger ledger stored).more frame, holds.accepts⟩
    intro other listed
    obtain before | last := List.mem_append.mp listed
    · exact holds.heard other before
    · rw [List.mem_singleton.mp last]
      exact arrived
  | sends allowed =>
    refine ⟨holds.heard, holds.ledger, ?_⟩
    intro accept listed
    obtain before | last := List.mem_append.mp listed
    · exact holds.accepts accept before
    · obtain rfl := List.mem_singleton.mp last
      obtain ⟨ledger, stored, same, -⟩ := allowed
      exact ⟨ledger, stored, same⟩
  | advances saved =>
    cases saved with
    | created absent arrived fresh new =>
      refine holds.replaces (.of_new arrived fresh new) fun old stored => ?_
      rw [absent] at stored
      cases stored
    | stepped stored _ step =>
      refine holds.replaces ((holds.ledger _ stored).step step) fun old again => ?_
      obtain rfl := Option.some.inj (stored.symm.trans again)
      exact step.accept
  | resets stored _ _ _ resettable =>
    refine holds.replaces ((holds.ledger _ stored).reset resettable) fun old again => ?_
    obtain rfl := Option.some.inj (stored.symm.trans again)
    rfl

theorem ReceiverMove.sent_grows {arrives : ManifestV2Frame → Prop}
    {permitted : Reconciling → Boundary → Prop} (move : ReceiverMove arrives permitted world next) :
    world.sent ⊆ next.sent := by
  cases move with
  | sends => exact List.subset_append_left _ _
  | _ => exact List.Subset.refl _

theorem ReceiverHolds.said_more {more : List ManifestV2Frame} (holds : ReceiverHolds said world)
    (grows : said ⊆ more) : ReceiverHolds more world :=
  ⟨fun frame listed => grows (holds.heard frame listed), holds.ledger, holds.accepts⟩

end Receiver

/-! ## Both ends -/

section Agreement

variable [Blake3] [UnicodeNormalization] [Zstd] {manifest : ManifestV2} {offer : ManifestOfferV2}
  {pair : Pair}

/-- When a sender of `offer` may call an operation, in whichever connection. -/
def SenderRuns (offer : ManifestOfferV2) (world : EngineWorld) (op : SessionOp) : Prop :=
  ∃ opened, SenderSessionRule offer opened world op

/-- The ends keep to their rules, and what each holds is about what the other has said. -/
structure Pair.Holds (offer : ManifestOfferV2) (pair : Pair) : Prop where
  senderLawful : pair.sender.Lawful (sessionContract (fun _ => True) fun _ _ => True)
    (SenderRuns offer)
  receiverLawful :
    pair.receiver.Lawful (sessionContract (fun _ => True) fun _ _ => True) ReceiverSessionRule
  sender : SenderHolds offer pair.receiver.world.sent pair.sender.world
  receiver : ReceiverHolds pair.sender.world.sent pair.receiver.world

theorem sender_obedient (built : buildManifestOfferV2 manifest = .ok offer)
    (program : Proc SessionOp SessionReply
      (Except SessionError SenderManifestV2SessionSummary × Unit))
    (starts : SenderOpens manifest program) (world : EngineWorld) :
    program.Follows (sessionContract (fun _ => True) fun _ _ => True) (SenderRuns offer)
      (fun _ _ => True) world := by
  obtain ⟨fuel, rfl⟩ := starts
  have obeys :=
    @sendSession_obeys _ _ (fun _ => True) (fun _ _ => True) offer manifest _ built fuel world
  exact (Proc.Follows.loosen (fun _ _ allowed => ⟨_, allowed⟩) obeys).mono fun _ _ _ => trivial

theorem Pair.Holds.step {later : Pair} (built : buildManifestOfferV2 manifest = .ok offer)
    (holds : pair.Holds offer) (step : Pair.Step manifest pair later) : later.Holds offer := by
  obtain ⟨senderLawful, receiverLawful, sender, receiver⟩ := holds
  cases step with
  | @sender next step =>
    have wide : Party.Step (sessionContract (fun _ => True) fun _ _ => True)
      (SenderOpens manifest) pair.sender next :=
      step.widen (fun world op reply may => sessionReplies_widen world op reply may) rfl
    have lawful : next.Lawful (sessionContract (fun _ => True) fun _ _ => True)
      (SenderRuns offer) :=
      wide.lawful (sender_obedient built) senderLawful
    obtain same | ⟨op, reply, ⟨opened, allowed⟩, may, moved⟩ := step.world_cases senderLawful
    · refine ⟨lawful, receiverLawful, ?_, ?_⟩
      · rw [same]
        exact sender
      · rw [same]
        exact receiver
    · have move := allowed.move may
      rw [← moved] at move
      exact ⟨lawful, receiverLawful, sender.move move, receiver.said_more move.sent_grows⟩
  | @receiver next step =>
    have wide :
      Party.Step (sessionContract (fun _ => True) fun _ _ => True)
        ReceiverOpens pair.receiver next :=
      step.widen (fun world op reply may => sessionReplies_widen world op reply may) rfl
    have lawful :
      next.Lawful (sessionContract (fun _ => True) fun _ _ => True) ReceiverSessionRule :=
      wide.lawful receiver_obedient receiverLawful
    obtain same | ⟨op, reply, allowed, may, moved⟩ := step.world_cases receiverLawful
    · refine ⟨senderLawful, lawful, ?_, ?_⟩
      · rw [same]
        exact sender
      · rw [same]
        exact receiver
    · have move := allowed.move may
      rw [← moved] at move
      exact ⟨senderLawful, lawful, sender.said_more move.sent_grows, receiver.move move⟩

theorem Pair.Reachable.holds (built : buildManifestOfferV2 manifest = .ok offer)
    (reached : Pair.Reachable manifest pair) : pair.Holds offer := by
  induction reached with
  | refl =>
    refine ⟨Party.lawful_idle _, Party.lawful_idle _, ?_, ?_⟩
    · exact ⟨nofun, nofun, nofun, nofun⟩
    · exact ⟨nofun, nofun, nofun⟩
  | tail _ step ih => exact ih.step built step

omit [Zstd] in
/-- The ledger is one of the offer that the sender has sealed. -/
theorem Pair.Holds.founded {ledger : ReceiverDataPlaneLedgerV2} (holds : pair.Holds offer)
    (stored : pair.receiver.world.ledger = some ledger) : FoundedOn offer ledger := by
  obtain ⟨founding, arrived, founded⟩ := (holds.receiver.ledger ledger stored).founded
  obtain rfl := holds.sender.offered founding (holds.receiver.heard _ arrived)
  exact founded

omit [Zstd] in
/-- A committed Accept is the ledger's, digest included. -/
theorem Pair.Holds.accept_agrees {record : SenderDeliveryRecordV2} {accept : ManifestAcceptV2}
    (holds : pair.Holds offer) (stored : pair.sender.world.sender = some record)
    (committed : record.accept = some accept) :
    ∃ ledger, pair.receiver.world.ledger = some ledger ∧ ledger.accept = accept ∧
      record.acceptBodyDigest = some ledger.acceptBodyDigest := by
  obtain ⟨arrived, digest, digested, recorded⟩ :=
    (holds.sender.record record stored).accepted accept committed
  obtain ⟨ledger, there, rfl⟩ := holds.receiver.accepts accept (holds.sender.heard _ arrived)
  have same := (holds.receiver.ledger ledger there).digested
  rw [digested, Except.ok.injEq] at same
  exact ⟨ledger, there, rfl, same ▸ recorded⟩

omit [Zstd] in
/-- A ledger that has begun has its Accept committed at the sender. -/
theorem Pair.Holds.committed {ledger : ReceiverDataPlaneLedgerV2} (holds : pair.Holds offer)
    (stored : pair.receiver.world.ledger = some ledger)
    (begun : ledger.requiresAuthenticatedResume = true) :
    ∃ record, pair.sender.world.sender = some record ∧ record.accept = some ledger.accept ∧
      record.acceptBodyDigest = some ledger.acceptBodyDigest := by
  obtain ⟨frame, arrived, carries⟩ := (holds.receiver.ledger ledger stored).begun (.inl begun)
  obtain ⟨record, there, accepted⟩ :=
    holds.sender.started frame (holds.receiver.heard frame arrived) carries
  obtain ⟨accept, committed⟩ := Option.isSome_iff_exists.mp accepted
  obtain ⟨found, again, same, digest⟩ := holds.accept_agrees there committed
  obtain rfl := Option.some.inj (stored.symm.trans again)
  exact ⟨record, there, same ▸ committed, digest⟩

omit [Zstd] in
/-- The ledger accepts a request for its offer and its Accept. -/
theorem Pair.Holds.request_accepted {ledger : ReceiverDataPlaneLedgerV2}
    {record : SenderDeliveryRecordV2} {request : ResumeRequestV2} (holds : pair.Holds offer)
    (stored : pair.receiver.world.ledger = some ledger)
    (recorded : pair.sender.world.sender = some record)
    (digest : record.acceptBodyDigest = some ledger.acceptBodyDigest)
    (requests : Requests offer record request) :
    ledger.validateResumeRequest request = .ok () := by
  have founded := holds.founded stored
  have identity := (validateOffer_eq_ok.mp (holds.sender.record record recorded).valid).1.1
  have sameDigest : request.acceptBodyDigest = ledger.acceptBodyDigest :=
    Option.some.inj (requests.accept.symm.trans digest)
  rw [ReceiverDataPlaneLedgerV2.validateResumeRequest, reject_eq_ok, not_or, not_or, not_not,
    not_not, not_not]
  refine ⟨?_, ?_, sameDigest⟩
  · rw [requests.identity, identity, founded.identity]
    rfl
  · rw [requests.offer, founded.manifestDigest]

/-- What one end does while the other rests is a part of the run. -/
theorem Pair.Reachable.sender_run {next : Sender} (reached : Pair.Reachable manifest pair)
    (steps : Relation.ReflTransGen
      (Party.Step (sessionContract (· ∈ pair.receiver.world.sent) fun _ _ => True)
      (SenderOpens manifest)) pair.sender next) : Pair.Reachable manifest { pair with sender :=
        next } := by
  induction steps with
  | refl => exact reached
  | tail _ step ih => exact .tail ih (.sender step)

theorem Pair.Reachable.receiver_run {next : Receiver} (reached : Pair.Reachable manifest pair)
    (steps : Relation.ReflTransGen
      (Party.Step (sessionContract (· ∈ pair.sender.world.sent) fun _ _ => True)
      ReceiverOpens) pair.receiver next) : Pair.Reachable manifest { pair with receiver :=
        next } := by
  induction steps with
  | refl => exact reached
  | tail _ step ih => exact .tail ih (.receiver step)

/-- The next connection of the sender, cut anywhere. -/
theorem Pair.Reachable.connects {fuel : Nat} {final : EngineWorld}
    {rest : Proc SessionOp SessionReply (Except SessionError SenderManifestV2SessionSummary × Unit)}
    (reached : Pair.Reachable manifest pair)
    (run : Proc.Reaches (sessionContract (· ∈ pair.receiver.world.sent) fun _ _ => True)
      ((sendSession fuel (some manifest)).runOn ()) pair.sender.world rest final) :
    Pair.Reachable manifest { pair with sender := ⟨some rest, final⟩ } :=
  reached.sender_run (.head .stops (.head (.starts ⟨fuel, rfl⟩) (Party.run_of_reaches run)))

/-- In every run, a ledger that requires an authenticated resume has its Accept committed at the
sender, whose next connection then opens with a resume request that the ledger accepts; and a
committed Accept is always that of the ledger. -/
theorem accepts_agree (built : buildManifestOfferV2 manifest = .ok offer)
    (reached : Pair.Reachable manifest pair) :
    (∀ ledger, pair.receiver.world.ledger = some ledger →
      ledger.requiresAuthenticatedResume = true →
        (∃ record, pair.sender.world.sender = some record ∧ record.accept = some ledger.accept ∧
        record.acceptBodyDigest = some ledger.acceptBodyDigest) ∧
      ∀ fuel,
        (∃ request, ledger.validateResumeRequest request = .ok () ∧
          (sendSession fuel (some manifest)).Calls
            (sessionContract (· ∈ pair.receiver.world.sent) fun _ _ => True)
            (.engine (.delivery (.sendManifestV2Frame (.resumeRequest request))))
              pair.sender.world ()
            pair.sender.world) ∧
        ∀ frame rest final,
          Proc.Reaches (sessionContract (· ∈ pair.receiver.world.sent) fun _ _ => True)
            ((sendSession fuel (some manifest)).runOn ()) pair.sender.world
            (.call (.engine (.delivery (.sendManifestV2Frame frame))) rest) final →
          final.sent = pair.sender.world.sent →
          ∃ request, frame = .resumeRequest request ∧
            ledger.validateResumeRequest request = .ok ()) ∧
    ∀ record accept, pair.sender.world.sender = some record → record.accept = some accept →
      ∃ ledger, pair.receiver.world.ledger = some ledger ∧ ledger.accept = accept := by
  have holds := reached.holds built
  refine ⟨?_, ?_⟩
  · intro ledger stored begun
    obtain ⟨record, recorded, committed, digest⟩ := holds.committed stored begun
    refine ⟨⟨record, recorded, committed, digest⟩, fun fuel => ⟨?_, ?_⟩⟩
    · have recordHolds := holds.sender.record record recorded
      have accepted : record.accept.isSome := by
        rw [committed]
        rfl
      have resumable : Resumable record.phase := by
        -- Nothing in these runs fails or cancels a record, and an accepted one no longer offers.
        obtain ⟨failed, canceled⟩ := recordHolds.running
        cases phase : record.phase with
        | offering =>
          rw [unaccepted_of_offering recordHolds.valid phase] at committed
          cases committed
        | transferring => exact .inl rfl
        | waitingForReceiverSave => exact .inr (.inl rfl)
        | delivered => exact .inr (.inr rfl)
        | failed => exact absurd phase failed
        | canceled => exact absurd phase canceled
      obtain ⟨request, requests, calls⟩ :=
        sendSession_calls built recorded recordHolds.valid accepted
        recordHolds.current resumable fuel
      exact ⟨request, holds.request_accepted stored recorded digest requests, calls⟩
    · intro frame rest final run silent
      -- the first frame is allowed by what is durable where it is sent
      have there := (reached.connects run).holds built
      obtain ⟨later, laterRecorded, laterCommitted, laterDigest⟩ := there.committed stored begun
      have obeys := @sendSession_obeys _ _ (· ∈ pair.receiver.world.sent)
        (fun _ _ => True) offer manifest _ built fuel
        pair.sender.world
      have allowed : SenderSends offer pair.sender.world.sent.length final frame :=
        (obeys.rest run).1
      -- No frame has been sent on this connection, so nothing that needs an opening can be.
      have closed : ¬ Underpinned pair.sender.world.sent.length final := by
        intro underpinned
        have begun := underpinned.1
        rw [silent] at begun
        exact Nat.lt_irrefl _ begun
      cases frame with
      | offer sent =>
        obtain ⟨-, found, again, unaccepted⟩ := allowed
        obtain rfl := Option.some.inj (laterRecorded.symm.trans again)
        rw [laterCommitted] at unaccepted
        cases unaccepted
      | resumeRequest request =>
        obtain ⟨own, found, again, identity, accept⟩ := allowed
        obtain rfl := Option.some.inj (laterRecorded.symm.trans again)
        exact ⟨request, rfl,
          there.request_accepted stored laterRecorded laterDigest ⟨identity, own, accept⟩⟩
      | _ => exact absurd allowed.2 closed
  · intro record accept stored committed
    obtain ⟨ledger, there, same, -⟩ := holds.accept_agrees stored committed
    exact ⟨ledger, there, same⟩

end Agreement

/-! ## The first frames of a job of one file -/

/-- Stores and sources that answer, entropy of one byte, and these frames one after another. -/
def smoothReplies (entropy : UInt8) (frames : List ManifestV2Frame) (world : EngineWorld) :
    (op : SessionOp) → Option (SessionReply op)
  | .engine (.delivery .recvManifestV2Frame) => frames[world.received.length]?.map .ok
  | .engine (.delivery (.sendManifestV2Frame _)) => some (.ok ())
  | .engine (.delivery (.saveSender _)) => some .written
  | .engine (.delivery .fillEntropy) => some (some ⟨List.replicate 32 entropy, rfl⟩)
  | .engine (.saveLedger _) => some .written
  | .engine (.sourceForSealedEntry _) => some (.ok ())
  | .engine (.onProgress ..) => some ()
  | .engine (.onPhase _) => some ()
  | .engine (.onStage _) => some ()
  | .loadSender => some (.ok world.sender)
  | .loadLedger => some (.ok world.ledger)
  | .loadReceiver => some (.ok world.receiver)
  | .destinationPlan .. => some (.ok { noteProvider.plan with rootPlans := [⟨0, "notes.txt"⟩] })
  | .newProvider .. => some (.ok ())
  | _ => none

theorem smoothReplies_allowed {said frames : List ManifestV2Frame} {entropy : UInt8}
    (arrive : ∀ frame ∈ frames, frame ∈ said) (world : EngineWorld) (op : SessionOp)
      (reply : SessionReply op)
    (answered : smoothReplies entropy frames world op = some reply) :
    (sessionContract (· ∈ said) fun _ _ => True).may world op reply := by
  cases op with
  | engine op =>
    cases op with
    | delivery op =>
      cases op with
      | recvManifestV2Frame =>
        obtain ⟨frame, found, rfl⟩ := Option.map_eq_some_iff.mp answered
        intro other same
        obtain rfl := Except.ok.inj same
        exact arrive frame (List.mem_of_getElem? found)
      | _ => trivial
    | sendEntryBlockOrRecvFrame | tryChooseReuse => cases answered
    | _ => trivial
  | loadSender | loadLedger | loadReceiver =>
    intro found same
    obtain rfl := Option.some.inj answered
    exact (Except.ok.inj same).symm
  | reconcileBoundary => cases answered
  | _ => trivial

/-- One end runs for these many calls. -/
def Pair.senderWalks (entropy : UInt8) (frames : List ManifestV2Frame) (calls : Nat) (pair : Pair) :
    Pair :=
  { pair with sender := pair.sender.walked afterSession (smoothReplies entropy frames) calls }

def Pair.receiverWalks (entropy : UInt8) (frames : List ManifestV2Frame) (calls : Nat)
    (pair : Pair) : Pair :=
  { pair with receiver := pair.receiver.walked afterSession (smoothReplies entropy frames) calls }

section Walks

variable [Blake3] [UnicodeNormalization] [Zstd] {manifest : ManifestV2} {pair : Pair}
  {frames : List ManifestV2Frame}

theorem Pair.connected (fuel : Nat) :
    Pair.Reachable manifest
      ⟨⟨some ((sendSession fuel (some manifest)).runOn ()), Pair.start.sender.world⟩,
      ⟨some ((receiveSession fuel).runOn ()), Pair.start.receiver.world⟩⟩ :=
  .tail (.single (.sender (.starts ⟨fuel, rfl⟩))) (.receiver (.starts ⟨fuel, rfl⟩))

theorem Pair.Reachable.sender_walks (reached : Pair.Reachable manifest pair) (entropy : UInt8)
    (arrive : ∀ frame ∈ frames, frame ∈ pair.receiver.world.sent) (calls : Nat) :
    Pair.Reachable manifest (pair.senderWalks entropy frames calls) :=
  reached.sender_run (Party.run_walked (smoothReplies_allowed arrive) calls pair.sender)

theorem Pair.Reachable.receiver_walks (reached : Pair.Reachable manifest pair) (entropy : UInt8)
    (arrive : ∀ frame ∈ frames, frame ∈ pair.sender.world.sent) (calls : Nat) :
    Pair.Reachable manifest (pair.receiverWalks entropy frames calls) :=
  reached.receiver_run (Party.run_walked (smoothReplies_allowed arrive) calls pair.receiver)

end Walks

/-- Both ends connect, the offer is accepted with a nonce and a capability, and the file is
started. -/
def notePair : Pair :=
  ⟨⟨some ((@sendSession resumeBlake3 asciiNormalization storedZstd 5 (some noteManifest)).runOn ()),
    Pair.start.sender.world⟩,
    ⟨some ((@receiveSession resumeBlake3 asciiNormalization storedZstd 5).runOn ()),
      Pair.start.receiver.world⟩⟩

def noteOffered : Pair := notePair.senderWalks 0 [] 5
def noteDrawn : Pair := noteOffered.receiverWalks 0x40 [.offer noteOffer] 4
def noteAccepted : Pair := noteDrawn.receiverWalks 0x41 [.offer noteOffer] 7
def noteSent : Pair := noteAccepted.senderWalks 0 [.accept noteAccept] 7
def noteBegun : Pair :=
  noteSent.receiverWalks 0 [.offer noteOffer, .entryStart { folderStart with encoding := .zstd }] 2

theorem noteBegun_reachable :
    @Pair.Reachable resumeBlake3 asciiNormalization storedZstd noteManifest noteBegun := by
  have connected :
    @Pair.Reachable resumeBlake3 asciiNormalization storedZstd noteManifest notePair :=
    @Pair.connected resumeBlake3 asciiNormalization storedZstd noteManifest 5
  have offered :=
    @Pair.Reachable.sender_walks resumeBlake3 asciiNormalization storedZstd _ _ []
      connected 0 nofun 5
  have drawn :=
    @Pair.Reachable.receiver_walks resumeBlake3 asciiNormalization storedZstd _ _
      [.offer noteOffer] offered
    0x40 (by decide) 4
  have accepted :=
    @Pair.Reachable.receiver_walks resumeBlake3 asciiNormalization storedZstd _ _
      [.offer noteOffer] drawn
    0x41 (by decide) 7
  have sent :=
    @Pair.Reachable.sender_walks resumeBlake3 asciiNormalization storedZstd _ _
      [.accept noteAccept] accepted
    0 (by set_option maxRecDepth 8000 in decide) 7
  exact @Pair.Reachable.receiver_walks resumeBlake3 asciiNormalization storedZstd _ _ _ sent
    0 (by set_option maxRecDepth 8000 in decide) 2

/-- The receiver has stored the start of the file; the sender has stored the Accept it came
under. -/
theorem accepts_agree_note :
    noteBegun.receiver.world.received =
      [.offer noteOffer, .entryStart { folderStart with encoding := .zstd }] ∧
    ∃ ledger record, noteBegun.receiver.world.ledger = some ledger ∧
      ledger.requiresAuthenticatedResume = true ∧ noteBegun.sender.world.sender = some record ∧
      record.accept = some ledger.accept ∧
      record.acceptBodyDigest = some ledger.acceptBodyDigest := by
  refine ⟨by set_option maxRecDepth 8000 in decide, ?_⟩
  have built : @buildManifestOfferV2 resumeBlake3 asciiNormalization noteManifest =
    .ok noteOffer := by decide
  obtain ⟨agree, -⟩ :=
    @accepts_agree resumeBlake3 asciiNormalization storedZstd _ _ _ built noteBegun_reachable
  have started : (noteBegun.receiver.world.ledger.map (·.requiresAuthenticatedResume)) =
      some true := by
    set_option maxRecDepth 8000 in decide
  obtain ⟨ledger, stored, begun⟩ := Option.map_eq_some_iff.mp started
  obtain ⟨⟨record, recorded, committed, digest⟩, -⟩ := agree ledger stored begun
  exact ⟨ledger, record, stored, begun, recorded, committed, digest⟩

end Envoix.Session
