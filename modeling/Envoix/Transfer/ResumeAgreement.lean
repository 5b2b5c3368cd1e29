import Envoix.Transfer.SendRun
import Envoix.Transfer.DeliveryPersistence

/-! # Resume agreement

A receiver that was interrupted anywhere describes its ledger in a resume status.  The sender
accepts that status, and from it rebuilds for every decided entry the completion that the receiver
itself hashes, so that both ends arrive at one completion-set digest.
-/

namespace Envoix.Transfer

open ByteCodec Fallible Process Process.Method Envoix.Protocol

section Resume

variable [Blake3] [UnicodeNormalization] [PayloadSink] {offer : ManifestOfferV2}
  {accept : ManifestAcceptV2}
  {ledger : ReceiverDataPlaneLedgerV2} {index : Nat} {entry : ManifestEntryV2} {plan : EntryPlanV2}
  {checkpoint : ReceiverEntryCheckpointV2}

/-- The status a receiver answers a resume request with. -/
def ReceiverDataPlaneLedgerV2.answer (ledger : ReceiverDataPlaneLedgerV2)
    (challengeNonce challengeMac : ByteVector 32) :
    ResumeStatusV2 :=
  { ledger.resumeStatus with challengeNonce, challengeMac }

/-- A sender record that has committed `accept` and transfers under it. -/
structure TransfersUnder (accept : ManifestAcceptV2) (record : SenderDeliveryRecordV2) : Prop where
  phase : record.phase = .transferring
  identity : record.identity = accept.identity
  committed : record.accept = some accept
  digest : ∃ digest, canonicalManifestV2FrameBodyDigest (.accept accept) = .ok digest ∧
    record.acceptBodyDigest = some digest

omit [UnicodeNormalization] in
/-- A result of a consistent checkpoint has the completion of the checkpoint. -/
theorem CheckpointOk.of_result (ok : CheckpointOk accept.identity entry plan checkpoint)
    {result : EntryResultV2} (finished : checkpoint.result = some result) :
    checkpoint.arbiter ≠ .payloadOpen := by
  intro opened
  rw [(ok.opened opened).1] at finished
  cases finished

omit [UnicodeNormalization] in
/-- The sender's checks of one entry hold of every consistent checkpoint. -/
theorem CheckpointOk.validateResumeEntry_ok
    (ok : CheckpointOk accept.identity entry plan checkpoint)
    {status : ResumeStatusV2} (identity : status.identity = accept.identity) :
    validateResumeEntry status entry checkpoint.resumeEntry = .ok () := by
  obtain ⟨total, blocks, boundary⟩ := ok.boundary
  simp only [validateResumeEntry, bind_eq_ok, reject_eq_ok, not_or, not_not]
  refine ⟨total, blocks, ok.entryId, UInt64.not_lt.mpr boundary, ?_, ?_, ?_⟩
  · cases arbiter : checkpoint.arbiter with
    | payloadOpen => simp [ReceiverEntryCheckpointV2.resumeEntry, arbiter, (ok.opened arbiter).1]
    | reuseChosen =>
      obtain ⟨file, boundary, known⟩ := ok.reused arbiter
      simp [ReceiverEntryCheckpointV2.resumeEntry, arbiter, file, boundary, known]
    | payloadCompleteChosen => simp [ReceiverEntryCheckpointV2.resumeEntry, arbiter]
  · intro result finished
    have decided := ok.of_result finished
    obtain ⟨-, -, completion, stored, -, kind⟩ := ok.result result finished
    obtain ⟨-, -, -, chosen⟩ :=
      completionFromResumeCheckpoint_inv (ok.completed decided completion stored)
    rw [kind]
    obtain ⟨arbiter, choice⟩ | ⟨arbiter, choice, -⟩ := chosen
    · exact .inl ⟨arbiter, by rw [choice]; rfl⟩
    · exact .inr ⟨arbiter, by rw [choice]; rfl⟩
  · rintro ⟨result, finished, foreign⟩
    obtain ⟨own, id, completion, -, rebuilt, -⟩ := ok.result result finished
    rw [rebuilt, identity] at foreign
    obtain other | other | failed := foreign
    · exact other own
    · exact other id
    · exact failed rfl

/-- The sender accepts the status of every consistent ledger. -/
theorem LedgerOk.validateResumeStatus_ok (agreed : Agreed offer accept)
    (ok : LedgerOk offer accept ledger) {record : SenderDeliveryRecordV2}
    (transfers : TransfersUnder accept record) (nonce mac : ByteVector 32) :
    validateResumeStatus offer.manifest record (ledger.answer nonce mac) = .ok () := by
  obtain ⟨digest, body, committed⟩ := transfers.digest
  have same : digest = ledger.acceptBodyDigest := Except.ok.inj (body.symm.trans ok.body)
  simp only [validateResumeStatus, bind_eq_ok, okOr_eq_ok, reject_eq_ok, exists_unit, forM_eq_ok,
    not_or, not_not]
  refine ⟨accept, transfers.committed, ⟨?_, ?_, ?_, ?_⟩, ?_, ?_⟩
  · exact ok.identity.trans transfers.identity.symm
  · rw [committed, same]
    rfl
  · show ledger.accept.planRevision = _
    rw [ok.agreement]
  · exact (List.length_map _).trans ok.length
  · rintro ⟨entry, resumed⟩ listed
    obtain ⟨index, found⟩ := List.getElem?_of_mem listed
    obtain ⟨entryFound, resumedFound⟩ := List.getElem?_zip_eq_some.mp found
    obtain ⟨plan, planFound⟩ := agreed.plan_at entryFound
    have present : (ledger.entries.map (·.resumeEntry))[index]? = some resumed := resumedFound
    rw [List.getElem?_map, Option.map_eq_some_iff] at present
    obtain ⟨checkpoint, present, rfl⟩ := present
    exact (ok.entries index entry plan checkpoint entryFound planFound
      present).validateResumeEntry_ok ok.identity
  · rw [if_neg]
    · rfl
    · rw [transfers.phase]
      decide

omit [UnicodeNormalization] in
/-- Both ends read the same completion from a decided checkpoint. -/
theorem CheckpointOk.rebuilt (ok : CheckpointOk accept.identity entry plan checkpoint)
    (decided : checkpoint.result.isSome ∨ checkpoint.arbiter ≠ .payloadOpen) :
    ∃ completion, resumedCompletion accept.identity entry checkpoint.resumeEntry =
      some (.ok completion) ∧
      storedCompletion accept.identity entry checkpoint = some (.ok completion) := by
  cases finished : checkpoint.result with
  | some result =>
    obtain ⟨-, -, completion, stored, rebuilt, -⟩ := ok.result result finished
    refine ⟨completion, ?_, ?_⟩
    · simp [resumedCompletion, ReceiverEntryCheckpointV2.resumeEntry, finished, rebuilt]
    · simp [storedCompletion, finished, Option.mem_def.mp stored, okOr]
  | none =>
    have closed : checkpoint.arbiter ≠ .payloadOpen := by simpa [finished] using decided
    obtain ⟨completion, stored, rebuilt, -⟩ := ok.stored closed
    refine ⟨completion, ?_, stored⟩
    simpa [resumedCompletion, ReceiverEntryCheckpointV2.resumeEntry, finished, closed] using rebuilt

/-- The status decides for every entry what the ledger has decided. -/
theorem LedgerOk.resumedIn_eq (agreed : Agreed offer accept) (ok : LedgerOk offer accept ledger)
    (nonce mac : ByteVector 32) {entry : ManifestEntryV2}
    (listed : entry ∈ offer.manifest.entries) :
    resumedIn accept.identity (some (ledger.answer nonce mac)) entry = decidedIn ledger entry := by
  obtain ⟨index, found⟩ := List.getElem?_of_mem listed
  obtain ⟨plan, planFound⟩ := agreed.plan_at found
  have bound : index < ledger.entries.length := by
    rw [ok.length]
    exact (List.getElem?_eq_some_iff.mp found).1
  have present := List.getElem?_eq_getElem bound
  have checkpointOk := ok.entries index entry plan _ found planFound present
  have status : (ledger.answer nonce mac).entries[index]? =
      some ledger.entries[index].resumeEntry := by
    show (ledger.entries.map (·.resumeEntry))[index]? = _
    rw [List.getElem?_map, present]
    rfl
  rw [resumedIn, Option.bind_some, agreed.forest.entryIds index entry found, status,
    decidedIn_eq ⟨agreed, ok, found, planFound⟩ (agreed.forest.entryIds index entry found) present,
    Option.bind_some]
  by_cases decided : ledger.entries[index].result.isSome ∨
    ledger.entries[index].arbiter ≠ .payloadOpen
  · obtain ⟨completion, resumed, stored⟩ := checkpointOk.rebuilt decided
    rw [resumed, stored]
  · rw [not_or, not_not, Option.not_isSome_iff_eq_none] at decided
    simp [resumedCompletion, storedCompletion, ReceiverEntryCheckpointV2.resumeEntry,
      decided.1, decided.2]

/-- A finished entry loop of a sender that resumed from `status`: what it hashed, and the frames it
sent meanwhile. -/
def SenderHashes [Zstd] (offer : ManifestOfferV2) (accept : ManifestAcceptV2)
    (status : ResumeStatusV2) (hashed : Bytes) (frames : List ManifestV2Frame) : Prop :=
  ∃ fuel total completed completions record left world final,
    Proc.Reaches senderContract
      ((sendEntries fuel { accept with entryPlans := resumePlans accept.entryPlans status.entries }
        (some status) total
        offer.manifest.entries [] completed).runOn record) world
          (.ret (.ok (hashed, completions), left)) final ∧
    final.sent = world.sent ++ frames

/-- A finished entry loop of a receiver that resumes with `ledger`: what it hashed, and the frames
it received meanwhile. -/
def ReceiverHashes [Zstd] (offer : ManifestOfferV2) (ledger : ReceiverDataPlaneLedgerV2)
    (hashed : Bytes) (frames : List ManifestV2Frame) : Prop :=
  ∃ fuel total completed progress left world final,
    world.ledger = some ledger ∧
    Proc.Reaches (engineContract defaultStart PayloadSink.reusable fun _ => True)
      ((receiveEntries fuel total offer.manifest.entries [] completed).runOn ledger) world
      (.ret (.ok (hashed, progress), left)) final ∧
    final.received = world.received ++ frames

/-- Over a connection that delivers what was sent in order, both loops hash the same bytes. -/
theorem LedgerOk.hashers_agree [Zstd] (agreed : Agreed offer accept)
    (ok : LedgerOk offer accept ledger) {nonce mac : ByteVector 32} {sent received : Bytes}
    {sentFrames receivedFrames : List ManifestV2Frame}
    (sends : SenderHashes offer accept (ledger.answer nonce mac) sent sentFrames)
    (receives : ReceiverHashes offer ledger received receivedFrames)
    (inOrder : receivedFrames <+: sentFrames) :
    sent = received := by
  obtain ⟨_, _, _, _, _, _, _, _, send, sends⟩ := sends
  obtain ⟨_, _, _, _, _, _, _, loaded, receive, receives⟩ := receives
  have kept : (receiverContract offer accept).keeps _ := fun found same => by
    rw [loaded] at same
    exact Option.some.inj same ▸ ok
  have run := receive.keeping (receiverContract offer accept).keeps
  obtain ⟨transferred, fed, sentCompletes, merged⟩ :=
    (sendEntries_yields _ _ _ _ _ _).returns trivial send
  have entriesReceived := (receiveEntries_yields agreed _ _ _ 0 rfl ok kept [] _).returns kept run
  obtain ⟨hashed, arrived, folded, receivedCompletes, stored⟩ := entriesReceived.hashed
  rw [sends, completes_append, List.append_cancel_left_eq] at sentCompletes
  rw [receives, completes_append, List.append_cancel_left_eq] at receivedCompletes
  have merged := merged.congr fun entry listed => ok.resumedIn_eq agreed nonce mac listed
  have arrivals : arrived <+: transferred := by
    rw [← sentCompletes, ← receivedCompletes]
    exact inOrder.filterMap _
  obtain rfl := arrivals.eq_of_length (stored.length_eq merged)
  obtain rfl := merged.unique stored
  exact Except.ok.inj (fed.symm.trans folded)

omit [PayloadSink] in
/-- An offer that was built is one of a canonical manifest. -/
theorem canonicalForest_of_build (built : buildManifestOfferV2 offer.manifest = .ok offer) :
    CanonicalForest offer.manifest := by
  simp only [buildManifestOfferV2, bind_eq_ok, mapErr_eq_ok, exists_unit] at built
  exact accepted_iff_canonicalForest.mp (validate_eq_ok.mp built.1)

/-- For every durable ledger of any run: the sender accepts the status built from it, rebuilds the
completion of each decided entry as the receiver has it, and both ends hash the same set. -/
theorem resume_agreement [Zstd] {record : SenderDeliveryRecordV2}
    (built : buildManifestOfferV2 offer.manifest = .ok offer)
    (reachable : ReachableLedger offer accept ledger) (transfers : TransfersUnder accept record)
    (nonce mac : ByteVector 32) :
    validateResumeStatus offer.manifest record (ledger.answer nonce mac) = .ok () ∧
    (∀ (index : Nat) (entry : ManifestEntryV2) (checkpoint : ReceiverEntryCheckpointV2),
      offer.manifest.entries[index]? = some entry → ledger.entries[index]? = some checkpoint →
      checkpoint.result.isSome ∨ checkpoint.arbiter ≠ .payloadOpen →
      ∃ completion, resumedCompletion accept.identity entry checkpoint.resumeEntry =
        some (.ok completion) ∧
        storedCompletion ledger.identity entry checkpoint = some (.ok completion)) ∧
    ∀ (sent received : Bytes) (sentFrames receivedFrames : List ManifestV2Frame),
      SenderHashes offer accept (ledger.answer nonce mac) sent sentFrames →
      ReceiverHashes offer ledger received receivedFrames → receivedFrames <+: sentFrames →
      sent = received := by
  obtain ⟨agreed, ok⟩ := reachable.ok (canonicalForest_of_build built)
  refine ⟨ok.validateResumeStatus_ok agreed transfers nonce mac, ?_, ?_⟩
  · intro index entry checkpoint found present decided
    obtain ⟨plan, planFound⟩ := agreed.plan_at found
    rw [ok.identity]
    exact (ok.entries index entry plan checkpoint found planFound present).rebuilt decided
  · intro sent received sentFrames receivedFrames sends receives inOrder
    exact ok.hashers_agree agreed sends receives inOrder

end Resume

/-! ## An interrupted job

A job of one empty folder.  The receiver is cut off between the folder and the end of the job; the
digests are the BLAKE3 values of the inputs that occur. -/

def folderManifest : ManifestV2 where
  jobId := sampleJobId
  generation := 7
  selectionRevision := 11
  compressionPolicy := .smart
  roots := [{ rootId := 0, rootEntryId := 0, requestedName := "Photos", completeness := .complete }]
  entries := [{
    entryId := 0, rootId := 0, parentEntryId := none, component := "Photos", kind := .directory,
    plaintextSize := 0, contentDigest := .deferred }]
  totals := { fileCount := 0, directoryCount := 1, totalPlaintextBytes := 0 }

def folderDigest : ContentDigestV2 :=
  ⟨⟨[0x5d, 0xcd, 0x1b, 0xc1, 0xce, 0x3d, 0x3e, 0x89, 0x87, 0x5f, 0xb7, 0xe7, 0x05, 0x0d, 0x7a, 0xe1,
    0xcf, 0xac, 0x37, 0xf5, 0x4a, 0x26, 0x83, 0xec, 0x63, 0x5a, 0x6b, 0x63, 0x2f, 0x3f, 0x37, 0x64],
      rfl⟩⟩

def folderAcceptDigest : ContentDigestV2 :=
  ⟨⟨[0xea, 0x30, 0xc1, 0xba, 0xeb, 0xef, 0xb0, 0x92, 0x9d, 0x52, 0x04, 0x31, 0xa1, 0xb2, 0xc0, 0x2c,
    0x8f, 0x17, 0x5b, 0x27, 0xf0, 0xaf, 0x13, 0xd7, 0x4b, 0x20, 0x38, 0x6d, 0xa4, 0x45, 0xd3, 0x6e],
      rfl⟩⟩

def nothingDigest : ContentDigestV2 :=
  ⟨⟨[0xaf, 0x13, 0x49, 0xb9, 0xf5, 0xf9, 0xa1, 0xa6, 0xa0, 0x40, 0x4d, 0xea, 0x36, 0xdc, 0xc9, 0x49,
    0x9b, 0xcb, 0x25, 0xc9, 0xad, 0xc1, 0x12, 0xb7, 0xcc, 0x9a, 0x93, 0xca, 0xe4, 0x1f, 0x32, 0x62],
      rfl⟩⟩

@[reducible] def folderBlake3 : Blake3 where
  hash input :=
    if input = [] then nothingDigest.bytes
    else if input = encodeManifestBody folderManifest then folderDigest.bytes
    else folderAcceptDigest.bytes
  deriveKey _ _ := nothingDigest.bytes
  keyedHash _ _ := nothingDigest.bytes

@[reducible] def storedZstd : Zstd where
  compress := some
  decompress bytes _ := some bytes

/-- A sink that may have an object for every entry. -/
@[reducible] def openSink : PayloadSink where
  reusable _ := True

def folderOffer : ManifestOfferV2 := ⟨folderDigest, folderManifest⟩

def folderIdentity : JobGenerationV2 := ⟨folderManifest.jobId, folderManifest.generation⟩

def folderAccept : ManifestAcceptV2 where
  identity := folderIdentity
  manifestDigest := folderDigest
  acceptNonce := .replicate 32 0x40
  proofCapability := ⟨.replicate 32 0x41⟩
  planRevision := 1
  rootPlans := [⟨0, "Photos"⟩]
  entryPlans := [⟨0, .receivePayload, 0⟩]

def folderComplete : EntryCompleteV2 := ⟨folderIdentity, 0, 0, nothingDigest, .payloadComplete⟩

def folderLedger (arbiter : EntryArbiterV2) (start : Option EntryStartV2)
    (completion : Option EntryCompleteV2) :
    ReceiverDataPlaneLedgerV2 where
  schemaVersion := receiverDataPlaneSchemaVersion
  identity := folderIdentity
  manifestDigest := folderDigest
  accept := folderAccept
  acceptBodyDigest := folderAcceptDigest
  entries := [⟨0, start, arbiter, 0, 0, none, completion, none, false⟩]
  senderCompletionSetDigest := none

def folderStart : EntryStartV2 :=
  ⟨folderIdentity, 0, .identity, defaultManifestV2BlockPlaintextBytes⟩

/-- The ledger at the cut. -/
def cutLedger : ReceiverDataPlaneLedgerV2 :=
  folderLedger .payloadCompleteChosen (some folderStart) (some folderComplete)

def folderRecord : SenderDeliveryRecordV2 where
  schemaVersion := senderDeliverySchemaVersion
  identity := folderIdentity
  manifestDigest := folderDigest
  phase := .transferring
  accept := some folderAccept
  acceptBodyDigest := some folderAcceptDigest
  senderCompletionSetDigest := none
  entryResults := []
  deliveryProof := none
  entryEncodings := [.identity]

/-- Every write goes through, and `frames` come in one after another. -/
def smoothly (frames : List ManifestV2Frame) (world : EngineWorld) : (op : EngineOp) →
    Option (EngineReply op)
  | .delivery .recvManifestV2Frame => frames[world.received.length]?.map .ok
  | .saveLedger _ => some .written
  | .beginEntry .. => some (.ok ())
  | .verifyPayload .. => some (.ok ())
  | .stageDirectory _ => some (.ok ())
  | .onProgress .. => some ()
  | .onPhase _ => some ()
  | .onStage _ => some ()
  | _ => none

theorem smoothly_allowed {arrives : ManifestV2Frame → Prop} {reusable : ManifestEntryV2 → Prop}
    {frames : List ManifestV2Frame} (fits : ∀ frame ∈ frames, arrives frame) (world : EngineWorld)
      (op : EngineOp)
    (reply : EngineReply op) (answered : smoothly frames world op = some reply) :
    repliesWith arrives reusable op reply := by
  cases op with
  | delivery op =>
    cases op with
    | recvManifestV2Frame =>
      obtain ⟨frame, found, rfl⟩ := Option.map_eq_some_iff.mp answered
      intro other same
      obtain rfl := Except.ok.inj same
      exact fits frame (List.mem_of_getElem? found)
    | _ => cases answered
  | sendEntryBlockOrRecvFrame block => cases answered
  | tryChooseReuse entry digest => cases answered
  | _ => trivial

def folderWorld (ledger : ReceiverDataPlaneLedgerV2) : EngineWorld where
  ledger := some ledger
  receiver := none
  sender := none
  received := []
  sent := []

/-- The run of `receive` that is cut after the folder. -/
def cutRun :=
  Proc.walk EngineWorld.after (smoothly [.entryStart folderStart, .entryComplete folderComplete]) 20
    ((@receive folderBlake3 asciiNormalization storedZstd 5 folderOffer).runOn
      (folderLedger .payloadOpen none none))
    (folderWorld (folderLedger .payloadOpen none none))

theorem cutLedger_reachable (sink : PayloadSink) :
    @ReachableLedger folderBlake3 asciiNormalization sink storedZstd folderOffer folderAccept
      cutLedger := by
  have created :
      @ReceiverDataPlaneLedgerV2.new folderBlake3 asciiNormalization folderOffer folderAccept =
      .ok (some (folderLedger .payloadOpen none none)) := by set_option maxRecDepth 8000 in decide
  have frames : ∀ frame ∈ [.entryStart folderStart, .entryComplete folderComplete],
      defaultStart frame := by
    simp [defaultStart, folderStart]
  have run :
    Proc.Reaches (engineContract defaultStart PayloadSink.reusable fun _ => True)
      _ _ cutRun.1 cutRun.2 :=
    Proc.walk_reaches (smoothly_allowed frames) 20 _ _
  have cut : cutRun.2.ledger = some cutLedger := by set_option maxRecDepth 8000 in decide
  exact @ReachableLedger.received folderBlake3 asciiNormalization sink storedZstd _ _ _ _ _ _ _ _
    (@ReachableLedger.created folderBlake3 asciiNormalization sink storedZstd _ _ _ created)
      rfl run cut

/-! ## An interrupted album

The folder with two files in it, of which the first is received and the second is on the receiver's
disk already. The receiver is cut off after the block of the first.  The digests are the BLAKE3
values of the inputs that occur. -/

def memoDigest : ContentDigestV2 :=
  ⟨⟨[0x64, 0x37, 0xb3, 0xac, 0x38, 0x46, 0x51, 0x33, 0xff, 0xb6, 0x3b, 0x75, 0x27, 0x3a, 0x8d, 0xb5,
    0x48, 0xc5, 0x58, 0x46, 0x5d, 0x79, 0xdb, 0x03, 0xfd, 0x35, 0x9c, 0x6c, 0xd5, 0xbd, 0x9d, 0x85],
      rfl⟩⟩

def pictureDigest : ContentDigestV2 :=
  ⟨⟨[0x3f, 0x79, 0x61, 0x63, 0xeb, 0xf9, 0x47, 0x18, 0xde, 0x1c, 0xd7, 0x58, 0x26, 0x55, 0xc0, 0x12,
    0xf9, 0x95, 0xc0, 0x6f, 0x1e, 0x69, 0x70, 0xea, 0x2b, 0xdc, 0x15, 0xbc, 0xd8, 0x8a, 0x32, 0x4a],
      rfl⟩⟩

def albumManifest : ManifestV2 := { folderManifest with
  entries := [
    { entryId := 0, rootId := 0, parentEntryId := none, component := "Photos", kind := .directory,
      plaintextSize := 0
      contentDigest := .deferred },
    { entryId := 1, rootId := 0, parentEntryId := some 0, component := "a.txt",
      kind := .regularFile, plaintextSize := 3
      contentDigest := .known memoDigest },
    { entryId := 2, rootId := 0, parentEntryId := some 0, component := "b.jpg",
      kind := .regularFile, plaintextSize := 5
      contentDigest := .known pictureDigest }]
  totals := { fileCount := 2, directoryCount := 1, totalPlaintextBytes := 8 } }

def albumDigest : ContentDigestV2 :=
  ⟨⟨[0xb7, 0x2e, 0xe9, 0x16, 0x94, 0x89, 0x82, 0x0e, 0xfc, 0x4a, 0x12, 0xbf, 0x73, 0x97, 0xd7, 0x08,
    0x9c, 0x8e, 0x90, 0x26, 0x3f, 0x2a, 0x15, 0x52, 0xf9, 0x1d, 0x9e, 0x06, 0x48, 0xe7, 0xf3, 0xe3],
      rfl⟩⟩

def albumAccept : ManifestAcceptV2 := { folderAccept with
  manifestDigest := albumDigest
  entryPlans := [⟨0, .receivePayload, 0⟩, ⟨1, .receivePayload, 0⟩, ⟨2, .reuseExisting, 0⟩] }

def albumAcceptDigest : ContentDigestV2 :=
  ⟨⟨[0xd2, 0xb2, 0x64, 0x52, 0x75, 0x61, 0xa6, 0xc2, 0x4d, 0xe8, 0x9c, 0x38, 0xf8, 0x67, 0x5c, 0x45,
    0x87, 0x1f, 0x5e, 0x12, 0x54, 0x7f, 0xbd, 0x18, 0x49, 0x7b, 0x2e, 0xdb, 0xfe, 0x6f, 0x8e, 0xf9],
      rfl⟩⟩

@[reducible] def albumBlake3 : Blake3 where
  hash input :=
    if input = [] then nothingDigest.bytes
    else if input = encodeManifestBody albumManifest then albumDigest.bytes
    else if input = asBytes "abc" then memoDigest.bytes
    else albumAcceptDigest.bytes
  deriveKey _ _ := nothingDigest.bytes
  keyedHash _ _ := nothingDigest.bytes

def albumOffer : ManifestOfferV2 := ⟨albumDigest, albumManifest⟩

def startOf (entryId : UInt32) : EntryStartV2 :=
  ⟨folderIdentity, entryId, .identity, defaultManifestV2BlockPlaintextBytes⟩

def memoBlock : EntryBlockV2 := ⟨folderIdentity, 1, 0, 0, 3, asBytes "abc"⟩

def memoComplete : EntryCompleteV2 := ⟨folderIdentity, 1, 3, memoDigest, .payloadComplete⟩

def pictureComplete : EntryCompleteV2 := ⟨folderIdentity, 2, 5, pictureDigest, .reuseChosen⟩

def albumLedger (folder memo : ReceiverEntryCheckpointV2) : ReceiverDataPlaneLedgerV2 where
  schemaVersion := receiverDataPlaneSchemaVersion
  identity := folderIdentity
  manifestDigest := albumDigest
  accept := albumAccept
  acceptBodyDigest := albumAcceptDigest
  entries := [folder, memo, ⟨2, none, .payloadOpen, 0, 0, some pictureDigest, none, none, false⟩]
  senderCompletionSetDigest := none

def newAlbum : ReceiverDataPlaneLedgerV2 :=
  albumLedger ⟨0, none, .payloadOpen, 0, 0, none, none, none, false⟩
    ⟨1, none, .payloadOpen, 0, 0, some memoDigest, none, none, false⟩

/-- The ledger of the album at the cut. -/
def cutAlbum : ReceiverDataPlaneLedgerV2 :=
  albumLedger ⟨0, some folderStart, .payloadCompleteChosen, 0, 0, none, some folderComplete,
    none, false⟩
    ⟨1, some (startOf 1), .payloadOpen, 1, 3, some memoDigest, none, none, false⟩

def albumRecord : SenderDeliveryRecordV2 := { folderRecord with
  manifestDigest := albumDigest
  accept := some albumAccept
  acceptBodyDigest := some albumAcceptDigest
  entryEncodings := [.identity, .identity, .identity] }

/-- What goes over before the cut, and after it. -/
def framesBefore : List ManifestV2Frame :=
  [.entryStart folderStart, .entryComplete folderComplete, .entryStart (startOf 1),
    .entryBlock memoBlock]

def framesAfter : List ManifestV2Frame :=
  [.entryStart (startOf 1), .entryComplete memoComplete, .entryStart (startOf 2),
    .entryComplete pictureComplete]

/-- The files are there on either side, and every other call goes through. -/
def albumReplies (frames : List ManifestV2Frame) (world : EngineWorld) : (op : EngineOp) →
    Option (EngineReply op)
  | .writeBlock .. => some (.ok ())
  | .tryChooseReuse .. => some (.ok true)
  | .delivery (.sendManifestV2Frame _) => some (.ok ())
  | .sourceForSealedEntry _ => some (.ok ())
  | .openSource _ => some (.ok ())
  | .readExact .. => some (.ok (asBytes "abc"))
  | .verifyUnchanged _ => some (.ok ())
  | op => smoothly frames world op

theorem albumReplies_allowed {frames : List ManifestV2Frame} {arrives : ManifestV2Frame → Prop}
    {reusable : ManifestEntryV2 → Prop} (fits : ∀ frame ∈ frames, arrives frame)
      (all : ∀ entry, reusable entry)
    (world : EngineWorld) (op : EngineOp) (reply : EngineReply op)
    (answered : albumReplies frames world op = some reply) :
    repliesWith arrives reusable op reply := by
  unfold albumReplies at answered
  split at answered
  · trivial
  · exact fun _ => all _
  · trivial
  · trivial
  · trivial
  · trivial
  · trivial
  · exact smoothly_allowed fits world _ reply answered

/-- The run of `receive` that is cut in the first file. -/
def albumRun :=
  Proc.walk EngineWorld.after (albumReplies framesBefore) 40
    ((@receive albumBlake3 asciiNormalization storedZstd 5 albumOffer).runOn newAlbum)
      (folderWorld newAlbum)

theorem cutAlbum_reachable :
    @ReachableLedger albumBlake3 asciiNormalization openSink storedZstd albumOffer albumAccept
      cutAlbum := by
  have created :
      @ReceiverDataPlaneLedgerV2.new albumBlake3 asciiNormalization albumOffer albumAccept =
      .ok (some newAlbum) := by set_option maxRecDepth 8000 in decide
  have frames : ∀ frame ∈ framesBefore, defaultStart frame := by
    simp [framesBefore, defaultStart, folderStart, startOf]
  have run :
    Proc.Reaches (engineContract defaultStart openSink.reusable fun _ => True)
      _ _ albumRun.1 albumRun.2 :=
    Proc.walk_reaches (albumReplies_allowed frames fun _ => trivial) 40 _ _
  have cut : albumRun.2.ledger = some cutAlbum := by set_option maxRecDepth 8000 in decide
  exact @ReachableLedger.received albumBlake3 asciiNormalization openSink storedZstd _ _ _ _ _ _ _ _
    (@ReachableLedger.created albumBlake3 asciiNormalization openSink storedZstd _ _ _ created)
      rfl run cut

theorem albumRecord_transfers :
    @TransfersUnder albumBlake3 asciiNormalization albumAccept albumRecord :=
  @TransfersUnder.mk albumBlake3 asciiNormalization _ _ rfl rfl rfl
    ⟨albumAcceptDigest, by set_option maxRecDepth 8000 in decide, rfl⟩

def albumStatus : ResumeStatusV2 := cutAlbum.answer (.replicate 32 0x42) (.replicate 32 0x43)

/-- The sender's loop over the entries, after the cut. -/
def albumSend :=
  Proc.walk EngineWorld.after (albumReplies []) 40
    ((@sendEntries albumBlake3 asciiNormalization storedZstd 5
      { albumAccept with entryPlans := resumePlans albumAccept.entryPlans albumStatus.entries }
        (some albumStatus) 8
      albumManifest.entries [] 3).runOn albumRecord) (folderWorld cutAlbum)

/-- The receiver's loop, after the cut. -/
def albumReceive :=
  Proc.walk EngineWorld.after (albumReplies framesAfter) 40
    ((@receiveEntries albumBlake3 asciiNormalization storedZstd 5 8 albumManifest.entries []
      3).runOn cutAlbum)
    (folderWorld cutAlbum)

theorem albumSend_hashes : ∃ sent,
    @SenderHashes albumBlake3 asciiNormalization storedZstd albumOffer albumAccept albumStatus sent
      framesAfter := by
  have run : Proc.Reaches senderContract _ _ albumSend.1 albumSend.2 :=
    Proc.walk_reaches (albumReplies_allowed (fun _ absent => by cases absent) fun _ =>
      trivial) 40 _ _
  have ends : (albumSend.1.value?.any fun left => left.1.isOk) = true := by
    set_option maxRecDepth 8000 in decide
  have frames : albumSend.2.sent = framesAfter := by set_option maxRecDepth 8000 in decide
  obtain ⟨⟨result, left⟩, ended, fine⟩ := (Option.any_eq_true _ _).mp ends
  cases result with
  | error _ => cases fine
  | ok hashed =>
    rw [Proc.value?_eq_some.mp ended] at run
    exact ⟨hashed.1, 5, 8, 3, hashed.2, albumRecord, left, _, _, run, frames⟩

theorem albumReceive_hashes : ∃ received,
    @ReceiverHashes albumBlake3 asciiNormalization openSink storedZstd albumOffer cutAlbum received
      framesAfter := by
  have fits : ∀ frame ∈ framesAfter, defaultStart frame := by
    simp [framesAfter, defaultStart, startOf]
  have run :
    Proc.Reaches (engineContract defaultStart openSink.reusable fun _ => True)
      _ _ albumReceive.1 albumReceive.2 :=
    Proc.walk_reaches (albumReplies_allowed fits fun _ => trivial) 40 _ _
  have ends : (albumReceive.1.value?.any fun left => left.1.isOk) = true := by
    set_option maxRecDepth 8000 in decide
  have frames : albumReceive.2.received = framesAfter := by set_option maxRecDepth 8000 in decide
  obtain ⟨⟨result, left⟩, ended, fine⟩ := (Option.any_eq_true _ _).mp ends
  cases result with
  | error _ => cases fine
  | ok hashed =>
    rw [Proc.value?_eq_some.mp ended] at run
    exact ⟨hashed.1, 5, 8, 3, hashed.2, left, _, _, rfl, run, frames⟩

/-- The sender accepts the status of the cut album, and what both ends hash in the frames after it
is the same. -/
theorem resume_agreement_album :
    @buildManifestOfferV2 albumBlake3 asciiNormalization albumManifest = .ok albumOffer ∧
    @ReachableLedger albumBlake3 asciiNormalization openSink storedZstd albumOffer
      albumAccept cutAlbum ∧
    @TransfersUnder albumBlake3 asciiNormalization albumAccept albumRecord ∧
    @validateResumeStatus albumBlake3 albumManifest albumRecord albumStatus = .ok () ∧
    ∃ hashed, @SenderHashes albumBlake3 asciiNormalization storedZstd albumOffer albumAccept
      albumStatus hashed framesAfter ∧
      @ReceiverHashes albumBlake3 asciiNormalization openSink storedZstd albumOffer cutAlbum hashed
        framesAfter := by
  have built : @buildManifestOfferV2 albumBlake3 asciiNormalization albumManifest =
      .ok albumOffer := by
    set_option maxRecDepth 8000 in decide
  obtain ⟨valid, -, agree⟩ :=
    @resume_agreement albumBlake3 asciiNormalization openSink albumOffer albumAccept cutAlbum
    storedZstd albumRecord built cutAlbum_reachable albumRecord_transfers (.replicate 32 0x42)
      (.replicate 32 0x43)
  obtain ⟨sent, sends⟩ := albumSend_hashes
  obtain ⟨received, receives⟩ := albumReceive_hashes
  obtain rfl := agree sent received framesAfter framesAfter sends receives (List.prefix_refl _)
  exact ⟨built, cutAlbum_reachable, albumRecord_transfers, valid, sent, sends, receives⟩

end Envoix.Transfer
