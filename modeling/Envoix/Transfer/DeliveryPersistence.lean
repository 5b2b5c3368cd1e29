import Envoix.Transfer.Delivery
import Envoix.Protocol.OfferCodec

/-! # What is durable when a proof is reported

`receiver_send_proof` and `sender_confirm_delivery` as trees of calls, and runs of both over the
same two in-memory records in which any write may fail.  A proof that leaves the receiver, or
that the sender reports, is in the durable record as long as nobody goes on with a record whose
write was lost.
-/

namespace Envoix.Transfer

open ByteCodec Fallible Process Process.Method Envoix.Protocol

section Persistence

variable [Blake3] [UnicodeNormalization]

/-! ## Valid records -/

/-- The checks of `ReceiverDeliveryRecordV2::validate`. -/
structure ReceiverDeliveryRecordV2.Valid (record : ReceiverDeliveryRecordV2) : Prop where
  schema : record.schemaVersion = receiverDeliverySchemaVersion
  results : hasForeignResult record.identity record.entryResults = false
  digest : Transfer.resultSetDigest record.entryResults = .ok record.resultSetDigest
  proof : ∀ proof ∈ record.deliveryProof, proof.identity = record.identity ∧
    proof.manifestDigest = record.manifestDigest ∧ proof.resultSetDigest = record.resultSetDigest ∧
    proof.proofMac = expectedMac record.proofCapability proof

theorem ReceiverDeliveryRecordV2.validate_eq_ok {record : ReceiverDeliveryRecordV2} :
    record.validate = .ok () ↔ record.Valid := by
  cases stored : record.deliveryProof with
  | none =>
    simp only [validate, stored, bind_eq_ok, reject_eq_ok, exists_unit, pure_eq_ok]
    constructor
    · rintro ⟨checks, digest, found, same, -⟩
      have same : digest = record.resultSetDigest := by simpa using same
      subst same
      exact ⟨by simp_all, by simp_all, found, by simp [stored]⟩
    · rintro ⟨schema, results, digest, -⟩
      exact ⟨by simp_all, _, digest, by simp⟩
  | some proof =>
    simp only [validate, stored, bind_eq_ok, reject_eq_ok, exists_unit]
    constructor
    · rintro ⟨checks, digest, found, same, bound⟩
      have same : digest = record.resultSetDigest := by simpa using same
      subst same
      exact ⟨by simp_all, by simp_all, found, by simpa [stored] using bound⟩
    · rintro ⟨schema, results, digest, bound⟩
      exact ⟨by simp_all, _, digest, by simp, by simpa [stored] using bound⟩

/-- The checks of `SenderDeliveryRecordV2::validate`. -/
structure SenderDeliveryRecordV2.Valid (record : SenderDeliveryRecordV2) : Prop where
  encodings : record.encodingShapeIsValid = true
  accept : record.acceptBodyDigest.isSome = record.accept.isSome
  completion : record.entryResults.isEmpty = record.senderCompletionSetDigest.isNone
  results : hasForeignResult record.identity record.entryResults = false
  proof : ∀ proof ∈ record.deliveryProof, proof.identity = record.identity ∧
    proof.manifestDigest = record.manifestDigest ∧
    Transfer.resultSetDigest record.entryResults = .ok proof.resultSetDigest ∧
    ∃ capability, record.proofCapability = some capability ∧
      proof.proofMac = expectedMac capability proof
  phase : record.validPhase = true

theorem SenderDeliveryRecordV2.validate_eq_ok {record : SenderDeliveryRecordV2} :
    record.validate = .ok () ↔ record.Valid := by
  cases stored : record.deliveryProof with
  | none =>
    simp only [validate, stored, bind_eq_ok, reject_eq_ok, exists_unit, not_or, not_not]
    constructor
    · rintro ⟨⟨encodings, accept, completion, results, -⟩, phase⟩
      exact ⟨by simpa using encodings, accept, completion, by simpa using results,
        by simp [stored], phase⟩
    · rintro ⟨encodings, accept, completion, results, -, phase⟩
      exact ⟨⟨by simpa using encodings, accept, completion, by simpa using results, by simp⟩, phase⟩
  | some proof =>
    simp only [validate, stored, bind_eq_ok, reject_eq_ok, okOr_eq_ok, exists_unit, not_or, not_not]
    constructor
    · rintro ⟨⟨encodings, accept, completion, results, identity⟩,
        capability, granted, manifest, digest, found, ⟨same, mac⟩, phase⟩
      subst same
      refine ⟨by simpa using encodings, accept, completion, by simpa using results, ?_, phase⟩
      intro other isProof
      obtain rfl : proof = other := by simpa [stored] using isProof
      exact ⟨by simpa using identity, manifest, found, capability, granted, mac⟩
    · rintro ⟨encodings, accept, completion, results, bound, phase⟩
      obtain ⟨identity, manifest, digest, capability, granted, mac⟩ :=
        bound proof (by simp [stored])
      exact ⟨⟨by simpa using encodings, accept, completion, by simpa using results,
        by simpa using identity⟩, capability, granted, manifest, _, digest, ⟨rfl, mac⟩, phase⟩

/-! ## What the sender commits -/

/-- The record with this Accept committed. -/
def SenderDeliveryRecordV2.underAccept (record : SenderDeliveryRecordV2) (accept : ManifestAcceptV2)
    (digest : ContentDigestV2) : SenderDeliveryRecordV2 :=
  { record with
    accept := some accept
    acceptBodyDigest := some digest
    phase := if record.phase = .offering then .transferring else record.phase }

omit [Blake3] [UnicodeNormalization] in
/-- An Accept is committed once; later ones have to repeat it. -/
theorem SenderDeliveryRecordV2.commitAccept_leads {record after : SenderDeliveryRecordV2}
    {accept : ManifestAcceptV2} {digest : ContentDigestV2} {done : Unit}
    (committed : (commitAccept accept digest).Leads record done after) :
    accept.identity = record.identity ∧ accept.manifestDigest = record.manifestDigest ∧
      (record.accept = none ∨ record.accept = some accept) ∧
      after = record.underAccept accept digest := by
  simp only [commitAccept, leads_bind, leads_get, leads_raise, reject_eq_ok, not_or, not_not]
    at committed
  obtain ⟨_, _, ⟨rfl, rfl⟩, _, _, ⟨_, rfl⟩, _, _, ⟨⟨identity, manifest⟩, rfl⟩, committed⟩ :=
    committed
  refine ⟨identity, manifest, ?_⟩
  cases body : record.acceptBodyDigest with
  | none =>
    cases own : record.accept with
    | none =>
      simp only [body, own, leads_bind, leads_set] at committed
      obtain ⟨_, _, rfl, committed⟩ := committed
      refine ⟨.inl rfl, ?_⟩
      by_cases offering : record.phase = .offering
      · rw [if_pos offering, leads_modify] at committed
        rw [← committed, underAccept, if_pos offering]
      · rw [if_neg offering, leads_pure] at committed
        rw [← committed.2, underAccept, if_neg offering]
    | some other => simp [body, own] at committed
  | some existing =>
    cases own : record.accept with
    | none => simp [body, own] at committed
    | some other =>
      simp only [body, own, leads_bind, leads_raise, reject_eq_ok, not_not] at committed
      obtain ⟨_, _, ⟨⟨rfl, rfl⟩, rfl⟩, committed⟩ := committed
      refine ⟨.inr rfl, ?_⟩
      by_cases offering : record.phase = .offering
      · rw [if_pos offering, leads_modify] at committed
        rw [← committed, underAccept, if_pos offering, ← own, ← body]
      · rw [if_neg offering, leads_pure] at committed
        rw [← committed.2, underAccept, if_neg offering, ← own, ← body]

/-! ## The two functions as trees of calls -/

omit [UnicodeNormalization] in
/-- The record `receiver_send_proof` writes when it draws `nonce`. -/
def ReceiverDeliveryRecordV2.withProof (record : ReceiverDeliveryRecordV2) (nonce : ByteVector 32) :
    ReceiverDeliveryRecordV2 :=
  { record with
    deliveryProof :=
      some (buildDeliveryProof record.identity record.manifestDigest record.resultSetDigest
      nonce record.proofCapability) }

theorem ReceiverDeliveryRecordV2.Valid.withProof {record : ReceiverDeliveryRecordV2}
    (valid : record.Valid) (nonce : ByteVector 32) : (record.withProof nonce).Valid where
  schema := valid.schema
  results := valid.results
  digest := valid.digest
  proof := by
    intro proof isProof
    obtain rfl := Option.some.inj isProof
    exact ⟨rfl, rfl, rfl, rfl⟩

/-- Hands the proof to the connection. -/
def handOver (record : ReceiverDeliveryRecordV2) (proof : DeliveryProofV2) :
    Proc DeliveryOp DeliveryReply (Except DeliveryAuthorityErrorV2 DeliveryProofV2 ×
      ReceiverDeliveryRecordV2) :=
  .call (.sendManifestV2Frame (.deliveryProof proof)) fun sent =>
    .ret (mapErr .transport (sent.map fun _ => proof), record)

theorem receiverSendProof_again {record : ReceiverDeliveryRecordV2} {proof : DeliveryProofV2}
    (stored : record.deliveryProof = some proof) :
    receiverSendProof.runOn record = handOver record proof := by
  simp only [receiverSendProof, handOver, runOn_bind, runOn_get, stored, runOn_pure, runOn_perform,
    Proc.pure_def, Proc.ret_bind, Proc.call_bind, resume_ok]
  congr 1
  funext sent
  cases sent <;> rfl

theorem receiverSendProof_first {record : ReceiverDeliveryRecordV2} (valid : record.Valid)
    (unproven : record.deliveryProof = none) :
    receiverSendProof.runOn record =
      .call .fillEntropy fun entropy =>
        match entropy with
        | none => .ret (.error .entropy, record)
        | some nonce => .call (.saveReceiver (record.withProof nonce)) fun reply =>
          match reply with
          | .failed _ message => .ret (.error (.io message), record.withProof nonce)
          | .written => handOver (record.withProof nonce) (buildDeliveryProof record.identity
              record.manifestDigest record.resultSetDigest nonce record.proofCapability) := by
  simp only [receiverSendProof, runOn_bind, runOn_get, unproven, runOn_perform, Proc.pure_def,
    Proc.ret_bind, Proc.call_bind, resume_ok]
  congr 1
  funext entropy
  cases entropy with
  | none => rfl
  | some nonce =>
    have passes := ReceiverDeliveryRecordV2.validate_eq_ok.mpr (valid.withProof nonce)
    simp only [ReceiverDeliveryRecordV2.withProof] at passes
    simp only [okOr, ReceiverDeliveryStoreV2.save, runOn_bind, runOn_raise, runOn_set, runOn_get,
      runOn_perform, passes, Proc.pure_def, Proc.ret_bind, Proc.call_bind, resume_ok]
    congr 1
    funext reply
    cases reply with
    | failed replaced message => rfl
    | written =>
      simp only [writeResult, handOver, runOn_pure, runOn_bind, runOn_perform, Proc.pure_def,
        Proc.ret_bind, Proc.call_bind, resume_ok]
      congr 1
      funext sent
      cases sent <;> rfl

/-- The proof a frame carries, if it is one that `record` accepts while it waits. -/
def acceptedProof (record : SenderDeliveryRecordV2) (received : Except String ManifestV2Frame) :
    Except DeliveryAuthorityErrorV2 DeliveryProofV2 := do
  match ← mapErr .transport received with
  | .deliveryProof proof =>
    let capability ← okOr record.proofCapability .invalidRecord
    let expectedResultDigest ← resultSetDigest record.entryResults
    reject (proof.identity ≠ record.identity ∨
      proof.manifestDigest ≠ record.manifestDigest ∨
      proof.resultSetDigest ≠ expectedResultDigest ∨
      proof.proofMac ≠ expectedMac capability proof) .invalidProof
    pure proof
  | _ => throw .invalidProof

omit [Blake3] [UnicodeNormalization] in
/-- The answer of a record that is already delivered. -/
def repeatedProof (record : SenderDeliveryRecordV2) (received : Except String ManifestV2Frame) :
    Except DeliveryAuthorityErrorV2 DeliveryProofV2 := do
  match ← mapErr .transport received with
  | .deliveryProof proof =>
    reject (record.deliveryProof ≠ some proof) .invalidProof
    pure proof
  | _ => throw .invalidProof

omit [Blake3] [UnicodeNormalization] in
def SenderDeliveryRecordV2.deliveredBy (record : SenderDeliveryRecordV2) (proof : DeliveryProofV2) :
    SenderDeliveryRecordV2 :=
  { record with deliveryProof := some proof, phase := .delivered }

theorem acceptedProof_eq_ok {record : SenderDeliveryRecordV2}
    {received : Except String ManifestV2Frame} {proof : DeliveryProofV2} :
    acceptedProof record received = .ok proof ↔
      received = .ok (.deliveryProof proof) ∧ proof.identity = record.identity ∧
      proof.manifestDigest = record.manifestDigest ∧
      Transfer.resultSetDigest record.entryResults = .ok proof.resultSetDigest ∧
      ∃ capability, record.proofCapability = some capability ∧
        proof.proofMac = expectedMac capability proof := by
  simp only [acceptedProof, bind_eq_ok, mapErr_eq_ok]
  constructor
  · rintro ⟨frame, rfl, accepts⟩
    cases frame with
    | deliveryProof found =>
      simp only [bind_eq_ok, okOr_eq_ok, reject_eq_ok, exists_unit, pure_eq_ok, not_or,
        not_not] at accepts
      obtain ⟨capability, granted, digest, known, ⟨identity, manifest, same, mac⟩, rfl⟩ := accepts
      exact ⟨rfl, identity, manifest, same ▸ known, capability, granted, mac⟩
    | _ => simp only [throw_eq_ok] at accepts
  · rintro ⟨rfl, identity, manifest, known, capability, granted, mac⟩
    refine ⟨_, rfl, ?_⟩
    simp only [bind_eq_ok, okOr_eq_ok, reject_eq_ok, exists_unit, pure_eq_ok, not_or, not_not]
    exact ⟨capability, granted, _, known, ⟨identity, manifest, rfl, mac⟩, trivial⟩

omit [Blake3] [UnicodeNormalization] in
theorem repeatedProof_eq_ok {record : SenderDeliveryRecordV2}
    {received : Except String ManifestV2Frame} {proof : DeliveryProofV2} :
    repeatedProof record received = .ok proof ↔
      received = .ok (.deliveryProof proof) ∧ record.deliveryProof = some proof := by
  simp only [repeatedProof, bind_eq_ok, mapErr_eq_ok]
  constructor
  · rintro ⟨frame, rfl, accepts⟩
    cases frame with
    | deliveryProof found =>
      simp only [bind_eq_ok, reject_eq_ok, exists_unit, pure_eq_ok, not_not] at accepts
      obtain ⟨stored, rfl⟩ := accepts
      exact ⟨rfl, stored⟩
    | _ => simp only [throw_eq_ok] at accepts
  · rintro ⟨rfl, stored⟩
    refine ⟨_, rfl, ?_⟩
    simp only [bind_eq_ok, reject_eq_ok, exists_unit, pure_eq_ok, not_not]
    exact ⟨stored, trivial⟩

theorem SenderDeliveryRecordV2.Valid.deliveredBy {record : SenderDeliveryRecordV2}
    (valid : record.Valid) (waiting : record.phase = .waitingForReceiverSave)
    {received : Except String ManifestV2Frame} {proof : DeliveryProofV2}
    (accepted : acceptedProof record received = .ok proof) :
    (record.deliveredBy proof).Valid := by
  obtain ⟨-, identity, manifest, known, granted⟩ := acceptedProof_eq_ok.mp accepted
  have shape := valid.phase
  simp only [validPhase, waiting, decide_eq_true_eq] at shape
  refine ⟨valid.encodings, valid.accept, valid.completion, valid.results, ?_, ?_⟩
  · intro other isProof
    obtain rfl := Option.some.inj isProof
    exact ⟨identity, manifest, known, granted⟩
  · exact decide_eq_true ⟨shape.1, shape.2.1, rfl⟩

theorem senderConfirmDelivery_delivered {record : SenderDeliveryRecordV2}
    (done : record.phase = .delivered) :
    senderConfirmDelivery.runOn record =
      .call .recvManifestV2Frame fun received => .ret (repeatedProof record received, record) := by
  simp only [senderConfirmDelivery, runOn_bind, runOn_get, runOn_raise, runOn_perform, done, reject,
    Proc.pure_def, Proc.ret_bind, Proc.call_bind, resume_ok, or_true, not_true, if_false, if_true]
  congr 1
  funext received
  cases received with
  | error message => rfl
  | ok frame =>
    cases frame with
    | deliveryProof proof =>
      by_cases same : record.deliveryProof = some proof
      all_goals simp [mapErr, repeatedProof, reject, same, -bind_pure_comp]
    | _ => rfl

theorem senderConfirmDelivery_waiting {record : SenderDeliveryRecordV2} (valid : record.Valid)
    (waiting : record.phase = .waitingForReceiverSave) :
    senderConfirmDelivery.runOn record =
      .call .recvManifestV2Frame fun received =>
        match acceptedProof record received with
        | .error error => .ret (.error error, record)
        | .ok proof => .call (.saveSender (record.deliveredBy proof)) fun reply =>
            .ret ((writeResult reply).map fun _ => proof, record.deliveredBy proof) := by
  simp only [senderConfirmDelivery, runOn_bind, runOn_get, runOn_raise, runOn_perform,
    waiting, reject, Proc.pure_def, Proc.ret_bind, Proc.call_bind, resume_ok, true_or,
    not_true, if_false]
  congr 1
  funext received
  cases received with
  | error message => rfl
  | ok frame =>
    cases frame with
    | deliveryProof proof =>
      cases granted : record.proofCapability with
      | none => simp [acceptedProof, mapErr, okOr, granted, -bind_pure_comp]
      | some capability =>
        cases known : Transfer.resultSetDigest record.entryResults with
        | error error => simp [acceptedProof, mapErr, okOr, granted, known, -bind_pure_comp]
        | ok expected =>
          by_cases rejected : proof.identity ≠ record.identity ∨
              proof.manifestDigest ≠ record.manifestDigest ∨
              proof.resultSetDigest ≠ expected ∨ proof.proofMac ≠ expectedMac capability proof
          · simp [acceptedProof, mapErr, okOr, granted, known, reject, rejected, -bind_pure_comp]
          · have accepted : acceptedProof record (.ok (.deliveryProof proof)) = .ok proof := by
              simp [acceptedProof, mapErr, okOr, granted, known, reject, rejected]
            have passes :=
              SenderDeliveryRecordV2.validate_eq_ok.mpr (valid.deliveredBy waiting accepted)
            simp only [SenderDeliveryRecordV2.deliveredBy] at passes
            simp [accepted, mapErr, okOr, rejected, SenderDeliveryStoreV2.save, passes,
              SenderDeliveryRecordV2.deliveredBy, -bind_pure_comp]
            funext reply
            cases reply <;> rfl
    | _ => rfl

theorem senderConfirmDelivery_refused {record : SenderDeliveryRecordV2}
    (early : ¬ (record.phase = .waitingForReceiverSave ∨ record.phase = .delivered)) :
    senderConfirmDelivery.runOn record = .ret (.error .invalidRecord, record) := by
  simp only [senderConfirmDelivery, runOn_bind, runOn_get, runOn_raise, reject, early,
    not_false_eq_true, if_true, Proc.pure_def, Proc.ret_bind, resume_ok, resume_error]

/-! ## Runs over the same records -/

/-- The state files of the two stores, by the identity in their names. -/
structure DeliveryDisk where
  receiver : JobGenerationV2 → Option ReceiverDeliveryRecordV2
  sender : JobGenerationV2 → Option SenderDeliveryRecordV2

/-- What a call meets outside: entropy, the fate of its write, its send and the frame it
receives. -/
structure CallEnvironment where
  entropy : Option (ByteVector 32)
  write : WriteReply
  sent : Except String Unit
  received : Except String ManifestV2Frame
deriving DecidableEq

/-- The disk, and every frame handed to the connection with the disk of that moment. -/
structure DeliveryWorld where
  disk : DeliveryDisk
  handed : List (ManifestV2Frame × DeliveryDisk)

def CallEnvironment.answer (environment : CallEnvironment) :
    (op : DeliveryOp) → DeliveryWorld → DeliveryReply op × DeliveryWorld
  | .fillEntropy, world => (environment.entropy, world)
  | .saveReceiver record, world =>
    (environment.write,
      if environment.write.durable then
        { world with
          disk.receiver := Function.update world.disk.receiver record.identity (some record) }
      else world)
  | .saveSender record, world =>
    (environment.write,
      if environment.write.durable then
        { world with
          disk.sender := Function.update world.disk.sender record.identity (some record) }
      else world)
  | .sendManifestV2Frame frame, world =>
    (environment.sent, { world with handed := (frame, world.disk) :: world.handed })
  | .recvManifestV2Frame, world => (environment.received, world)

inductive DeliveryCall where
  | receiverSendProof (environment : CallEnvironment)
  | senderConfirmDelivery (environment : CallEnvironment)
deriving DecidableEq

/-- Both in-memory records, the world, and every confirmed proof with the disk of that moment. -/
structure DeliveryState where
  receiver : ReceiverDeliveryRecordV2
  sender : SenderDeliveryRecordV2
  world : DeliveryWorld
  confirmed : List (DeliveryProofV2 × DeliveryDisk)

def DeliveryState.call (state : DeliveryState) : DeliveryCall → DeliveryState
  | .receiverSendProof environment =>
    let ((_, receiver), world) :=
      (receiverSendProof.runOn state.receiver).exec environment.answer state.world
    { state with receiver, world }
  | .senderConfirmDelivery environment =>
    let ((outcome, sender), world) :=
      (senderConfirmDelivery.runOn state.sender).exec environment.answer state.world
    { state with
      sender, world
      confirmed := match outcome with
        | .ok proof => (proof, world.disk) :: state.confirmed
        | .error _ => state.confirmed }

def DeliveryState.run (state : DeliveryState) (calls : List DeliveryCall) : DeliveryState :=
  calls.foldl DeliveryState.call state

/-- `earlier` left its record changed in memory only, and `later` goes on with that record. -/
def DeliveryCall.Strands : DeliveryCall → DeliveryCall → Prop
  | .receiverSendProof earlier, .receiverSendProof _ => earlier.write.durable = false
  | .senderConfirmDelivery earlier, .senderConfirmDelivery later =>
    earlier.write.durable = false ∧ later.received = earlier.received
  | _, _ => False

/-- The durable receiver record of `identity` carries this proof. -/
def DeliveryDisk.HoldsProof (disk : DeliveryDisk) (identity : JobGenerationV2)
    (proof : DeliveryProofV2) : Prop :=
  ∃ record, disk.receiver identity = some record ∧ record.deliveryProof = some proof

/-- The durable sender record of `identity` is delivered with this proof. -/
def DeliveryDisk.HoldsDelivery (disk : DeliveryDisk) (identity : JobGenerationV2)
    (proof : DeliveryProofV2) : Prop :=
  ∃ record, disk.sender identity = some record ∧ record.phase = .delivered ∧
    record.deliveryProof = some proof

/-- Every proof reported so far was durable when it was reported. -/
structure DeliveryState.Honest (state : DeliveryState) : Prop where
  handed : ∀ frame disk, (frame, disk) ∈ state.world.handed →
    ∃ proof, frame = .deliveryProof proof ∧
    disk.HoldsProof state.receiver.identity proof
  confirmed : ∀ proof disk, (proof, disk) ∈ state.confirmed →
    disk.HoldsDelivery state.sender.identity proof

/-- Both records are as `new` or `load` returns them: they validate, and a record that carries a
proof is the durable one. -/
structure DeliveryState.Loaded (state : DeliveryState) : Prop where
  receiverValid : state.receiver.Valid
  senderValid : state.sender.Valid
  receiver : state.receiver.deliveryProof = none ∨
    state.world.disk.receiver state.receiver.identity = some state.receiver
  sender : state.sender.phase ≠ .delivered ∨
    state.world.disk.sender state.sender.identity = some state.sender
  silent : state.world.handed = [] ∧ state.confirmed = []

/-- The invariant of a run with the calls `remaining` still to come.  A record that carries a
proof which is not durable is not used again (receiver), or not with that proof (sender). -/
structure DeliveryState.Sound (state : DeliveryState) (remaining : List DeliveryCall) : Prop where
  receiverValid : state.receiver.Valid
  senderValid : state.sender.Valid
  receiver : state.receiver.deliveryProof = none ∨
    state.world.disk.receiver state.receiver.identity = some state.receiver ∨
    ∀ environment, .receiverSendProof environment ∉ remaining
  sender : state.sender.phase ≠ .delivered ∨
    state.world.disk.sender state.sender.identity = some state.sender ∨
    ∀ environment, .senderConfirmDelivery environment ∈ remaining →
      ∀ proof ∈ state.sender.deliveryProof, environment.received ≠ .ok (.deliveryProof proof)
  honest : state.Honest

section Steps

variable {state : DeliveryState} {rest : List DeliveryCall} {environment : CallEnvironment}

theorem DeliveryState.Sound.tail {call : DeliveryCall} (sound : state.Sound (call :: rest)) :
    state.Sound rest where
  receiverValid := sound.receiverValid
  senderValid := sound.senderValid
  receiver := sound.receiver.imp_right (Or.imp_right fun unused environment listed =>
    unused environment (List.mem_cons_of_mem _ listed))
  sender := sound.sender.imp_right (Or.imp_right fun unused environment listed =>
    unused environment (List.mem_cons_of_mem _ listed))
  honest := sound.honest

/-- A receiver that already has its proof hands it out again. -/
theorem DeliveryState.Sound.receiver_again {proof : DeliveryProofV2}
    (sound : state.Sound (.receiverSendProof environment :: rest))
    (stored : state.receiver.deliveryProof = some proof) :
    (state.call (.receiverSendProof environment)).Sound rest := by
  have durable : state.world.disk.receiver state.receiver.identity = some state.receiver := by
    rcases sound.receiver with unproven | durable | unused
    · rw [stored] at unproven
      cases unproven
    · exact durable
    · exact absurd List.mem_cons_self (unused environment)
  simp only [call, receiverSendProof_again stored, handOver, Proc.exec_call, Proc.exec_ret,
    CallEnvironment.answer]
  refine { sound.tail with honest := ⟨?_, sound.honest.confirmed⟩ }
  intro frame disk reported
  rcases List.mem_cons.mp reported with now | before
  · obtain ⟨rfl, rfl⟩ := Prod.mk.inj now
    exact ⟨proof, rfl, state.receiver, durable, stored⟩
  · exact sound.honest.handed frame disk before

/-- A receiver without a proof draws a nonce, writes its record and only then hands the proof
out. -/
theorem DeliveryState.Sound.receiver_first
    (sound : state.Sound (.receiverSendProof environment :: rest))
    (careful : ∀ later ∈ rest, ¬ (DeliveryCall.receiverSendProof environment).Strands later)
    (unproven : state.receiver.deliveryProof = none) :
    (state.call (.receiverSendProof environment)).Sound rest := by
  simp only [call, receiverSendProof_first sound.receiverValid unproven, Proc.exec_call,
    CallEnvironment.answer]
  cases environment.entropy with
  | none => exact sound.tail
  | some nonce =>
    have valid := sound.receiverValid.withProof nonce
    simp only [Proc.exec_call, CallEnvironment.answer]
    cases written : environment.write with
    | written =>
      simp only [handOver, Proc.exec_call, Proc.exec_ret, CallEnvironment.answer,
        WriteReply.durable, if_true]
      refine { sound.tail with
        receiverValid := valid
        receiver := .inr (.inl (Function.update_self _ _ _))
        honest := ⟨?_, sound.honest.confirmed⟩ }
      intro frame disk reported
      rcases List.mem_cons.mp reported with now | before
      · obtain ⟨rfl, rfl⟩ := Prod.mk.inj now
        exact ⟨_, rfl, state.receiver.withProof nonce, Function.update_self _ _ _, rfl⟩
      · exact sound.honest.handed frame disk before
    | failed replaced message =>
      cases replaced with
      | true =>
        simp only [Proc.exec_ret, WriteReply.durable, if_true]
        exact { sound.tail with
          receiverValid := valid
          receiver := .inr (.inl (Function.update_self _ _ _))
          honest := ⟨sound.honest.handed, sound.honest.confirmed⟩ }
      | false =>
        -- the proof is in memory only: no later call may use this record
        simp only [Proc.exec_ret, WriteReply.durable, Bool.false_eq_true, if_false]
        refine { sound.tail with
          receiverValid := valid
          receiver := .inr (.inr fun later listed => ?_)
          honest := ⟨sound.honest.handed, sound.honest.confirmed⟩ }
        apply careful _ listed
        simp only [DeliveryCall.Strands, written, WriteReply.durable]

/-- A delivered sender reports only the proof it holds. -/
theorem DeliveryState.Sound.sender_again
    (sound : state.Sound (.senderConfirmDelivery environment :: rest))
    (done : state.sender.phase = .delivered) :
    (state.call (.senderConfirmDelivery environment)).Sound rest := by
  simp only [call, senderConfirmDelivery_delivered done, Proc.exec_call, Proc.exec_ret,
    CallEnvironment.answer]
  refine { sound.tail with honest := ⟨sound.honest.handed, ?_⟩ }
  cases outcome : repeatedProof state.sender environment.received with
  | error error => exact sound.honest.confirmed
  | ok proof =>
    obtain ⟨received, stored⟩ := repeatedProof_eq_ok.mp outcome
    have durable : state.world.disk.sender state.sender.identity = some state.sender := by
      rcases sound.sender with early | durable | unused
      · exact absurd done early
      · exact durable
      · exact absurd received (unused environment List.mem_cons_self proof stored)
    intro other disk reported
    rcases List.mem_cons.mp reported with now | before
    · obtain ⟨rfl, rfl⟩ := Prod.mk.inj now
      exact ⟨state.sender, durable, done, stored⟩
    · exact sound.honest.confirmed other disk before

/-- A waiting sender that accepts a proof writes its record before it reports. -/
theorem DeliveryState.Sound.sender_first
    (sound : state.Sound (.senderConfirmDelivery environment :: rest))
    (careful : ∀ later ∈ rest, ¬ (DeliveryCall.senderConfirmDelivery environment).Strands later)
    (waiting : state.sender.phase = .waitingForReceiverSave) :
    (state.call (.senderConfirmDelivery environment)).Sound rest := by
  simp only [call, senderConfirmDelivery_waiting sound.senderValid waiting, Proc.exec_call,
    CallEnvironment.answer]
  cases outcome : acceptedProof state.sender environment.received with
  | error error => exact { sound.tail with honest := ⟨sound.honest.handed, sound.honest.confirmed⟩ }
  | ok proof =>
    have valid := sound.senderValid.deliveredBy waiting outcome
    simp only [Proc.exec_call, Proc.exec_ret, CallEnvironment.answer]
    cases written : environment.write with
    | written =>
      simp only [writeResult, Except.map, WriteReply.durable, if_true]
      refine { sound.tail with
        senderValid := valid
        sender := .inr (.inl (Function.update_self _ _ _))
        honest := ⟨sound.honest.handed, ?_⟩ }
      intro other disk reported
      rcases List.mem_cons.mp reported with now | before
      · obtain ⟨rfl, rfl⟩ := Prod.mk.inj now
        exact ⟨state.sender.deliveredBy _, Function.update_self _ _ _, rfl, rfl⟩
      · exact sound.honest.confirmed other disk before
    | failed replaced message =>
      cases replaced with
      | true =>
        simp only [writeResult, Except.map, WriteReply.durable, if_true]
        exact { sound.tail with
          senderValid := valid
          sender := .inr (.inl (Function.update_self _ _ _))
          honest := ⟨sound.honest.handed, sound.honest.confirmed⟩ }
      | false =>
        -- the delivery is in memory only: no later call may receive the same proof
        simp only [writeResult, Except.map, WriteReply.durable, Bool.false_eq_true, if_false]
        refine { sound.tail with
          senderValid := valid
          sender := .inr (.inr ?_)
          honest := ⟨sound.honest.handed, sound.honest.confirmed⟩ }
        intro later listed other stored again
        obtain rfl := Option.some.inj stored
        apply careful _ listed
        simp only [DeliveryCall.Strands, written, WriteReply.durable, again,
          (acceptedProof_eq_ok.mp outcome).1, and_self]

theorem DeliveryState.Sound.call {call : DeliveryCall} (sound : state.Sound (call :: rest))
    (careful : ∀ later ∈ rest, ¬ call.Strands later) : (state.call call).Sound rest := by
  cases call with
  | receiverSendProof environment =>
    cases stored : state.receiver.deliveryProof with
    | none => exact sound.receiver_first careful stored
    | some proof => exact sound.receiver_again stored
  | senderConfirmDelivery environment =>
    by_cases waiting : state.sender.phase = .waitingForReceiverSave
    · exact sound.sender_first careful waiting
    · by_cases done : state.sender.phase = .delivered
      · exact sound.sender_again done
      · simp only [DeliveryState.call, senderConfirmDelivery_refused (not_or.mpr ⟨waiting, done⟩),
          Proc.exec_ret]
        exact { sound.tail with honest := ⟨sound.honest.handed, sound.honest.confirmed⟩ }

end Steps

theorem DeliveryState.Sound.run {state : DeliveryState} {calls : List DeliveryCall}
    (sound : state.Sound calls)
    (careful : calls.Pairwise fun earlier later => ¬ earlier.Strands later) :
    (state.run calls).Sound [] := by
  induction calls generalizing state with
  | nil => exact sound
  | cons call calls ih =>
    cases careful with
    | cons first others => exact ih (sound.call first) others

/-- Every proof that a run reports was durable when it was reported, unless a call goes on with a
record whose write was lost. -/
theorem reported_proofs_durable (start : DeliveryState) (calls : List DeliveryCall)
    (loaded : start.Loaded)
    (careful : calls.Pairwise fun earlier later => ¬ earlier.Strands later) :
    (start.run calls).Honest := by
  have sound : start.Sound calls := {
    receiverValid := loaded.receiverValid
    senderValid := loaded.senderValid
    receiver := loaded.receiver.imp_right .inl
    sender := loaded.sender.imp_right .inl
    honest := ⟨by simp [loaded.silent.1], by simp [loaded.silent.2]⟩ }
  exact (sound.run careful).honest

/-- Going on after a lost write reports a proof that is nowhere durable. -/
theorem DeliveryState.not_honest_of_retry {state : DeliveryState} {lost retry : CallEnvironment}
    {nonce : ByteVector 32} {message : String} (valid : state.receiver.Valid)
    (unproven : state.receiver.deliveryProof = none)
    (missing : state.world.disk.receiver state.receiver.identity = none)
    (drawn : lost.entropy = some nonce) (failed : lost.write = .failed false message) :
    ¬ (state.run [.receiverSendProof lost, .receiverSendProof retry]).Honest := by
  have first : state.call (.receiverSendProof lost) =
      { state with receiver := state.receiver.withProof nonce } := by
    simp only [call, receiverSendProof_first valid unproven, Proc.exec_call, Proc.exec_ret,
      CallEnvironment.answer, drawn, failed, WriteReply.durable, Bool.false_eq_true, if_false]
  intro honest
  simp only [run, List.foldl_cons, List.foldl_nil, first] at honest
  have stored : (state.receiver.withProof nonce).deliveryProof = some _ := rfl
  simp only [call, receiverSendProof_again stored, handOver, Proc.exec_call, Proc.exec_ret,
    CallEnvironment.answer] at honest
  obtain ⟨proof, -, record, durable, -⟩ := honest.handed _ _ List.mem_cons_self
  rw [show (state.receiver.withProof nonce).identity = state.receiver.identity from rfl,
    missing] at durable
  cases durable

end Persistence

/-! ## A run of the protocol fixture

The digests are the BLAKE3 values of the inputs that occur: the result set of `sampleResults`, the
key derived from the capability, and the MAC of the proof drawn with `sampleNonce`. -/

def sampleIdentity : JobGenerationV2 where
  jobId := sampleManifest.jobId
  generation := sampleManifest.generation

def sampleResults : List EntryResultV2 := [
  { identity := sampleIdentity, entryId := 0, result := .saved, finalSize := 0, finalDigest := none,
    finalComponentOverride := none },
  { identity := sampleIdentity, entryId := 1, result := .saved, finalSize := 0, finalDigest := none,
    finalComponentOverride := none },
  { identity := sampleIdentity, entryId := 2, result := .saved, finalSize := 3,
    finalDigest := some ⟨.replicate 32 0x11⟩, finalComponentOverride := none },
  { identity := sampleIdentity, entryId := 3, result := .saved, finalSize := 5,
    finalDigest := some ⟨.replicate 32 0x22⟩, finalComponentOverride := none }]

def sampleResultDigest : ByteVector 32 :=
  ⟨[0x78, 0xa1, 0xd9, 0xf1, 0xf4, 0x5e, 0xa6, 0xe9, 0x22, 0xab, 0x66, 0xa6, 0x8e, 0x75, 0xc5, 0xa8,
    0xe8, 0xa4, 0x23, 0x9e, 0x70, 0x15, 0xf8, 0xca, 0xa9, 0x68, 0x11, 0x26, 0x89, 0x1a, 0xd5, 0xe8],
      rfl⟩

def sampleDeliveryKey : ByteVector 32 :=
  ⟨[0x46, 0xa2, 0x9f, 0xbb, 0x91, 0x14, 0xde, 0x95, 0xa2, 0xa9, 0x93, 0xf4, 0xb7, 0x62, 0xa4, 0xb4,
    0x24, 0x0a, 0xe3, 0x4a, 0x0d, 0xbd, 0x61, 0x25, 0x23, 0xda, 0x4a, 0x74, 0xe4, 0xe1, 0x00, 0x43],
      rfl⟩

def sampleMac : ByteVector 32 :=
  ⟨[0x52, 0x16, 0xa5, 0x77, 0xa7, 0x05, 0x53, 0x6c, 0xed, 0x8e, 0xb8, 0xd0, 0xb0, 0x66, 0xfd, 0x70,
    0x20, 0x0c, 0xba, 0x77, 0x6a, 0x4d, 0xae, 0xe9, 0xa3, 0xf1, 0x3b, 0x9f, 0xf0, 0x2b, 0xb4, 0x97],
      rfl⟩

@[reducible] def sampleBlake3 : Blake3 where
  hash _ := goldenDigest
  deriveKey context _ :=
    if context = resultSetContext then sampleResultDigest else sampleDeliveryKey
  keyedHash _ _ := sampleMac

def sampleCapability : ProofCapabilityV2 := ⟨.replicate 32 0x41⟩
def sampleNonce : ByteVector 32 := .replicate 32 0x44

def sampleAccept : ManifestAcceptV2 where
  identity := sampleIdentity
  manifestDigest := ⟨goldenDigest⟩
  acceptNonce := .replicate 32 0x40
  proofCapability := sampleCapability
  planRevision := 1
  rootPlans := [⟨0, "Photos"⟩, ⟨1, "notes.txt"⟩]
  entryPlans :=
    [⟨0, .receivePayload, 0⟩, ⟨1, .receivePayload, 0⟩, ⟨2, .receivePayload, 0⟩,
      ⟨3, .receivePayload, 0⟩]

def sampleProof : DeliveryProofV2 where
  identity := sampleIdentity
  manifestDigest := ⟨goldenDigest⟩
  resultSetDigest := ⟨sampleResultDigest⟩
  proofNonce := sampleNonce
  proofMac := sampleMac

/-- Both sides after the results: the receiver has built its record, the sender waits. -/
def sampleDelivery : DeliveryState where
  receiver := {
    schemaVersion := receiverDeliverySchemaVersion, identity := sampleIdentity,
    manifestDigest := ⟨goldenDigest⟩, resultSetDigest := ⟨sampleResultDigest⟩,
    entryResults := sampleResults, proofCapability := sampleCapability, deliveryProof := none }
  sender := {
    schemaVersion := senderDeliverySchemaVersion, identity := sampleIdentity,
    manifestDigest := ⟨goldenDigest⟩, phase := .waitingForReceiverSave, accept := some sampleAccept,
    acceptBodyDigest := some ⟨.replicate 32 0x51⟩,
    senderCompletionSetDigest := some ⟨.replicate 32 0x61⟩, entryResults := sampleResults,
    deliveryProof := none, entryEncodings := [.identity, .identity, .identity, .zstd] }
  world := { disk := { receiver := fun _ => none, sender := fun _ => none }, handed := [] }
  confirmed := []

theorem sampleDelivery_receiver_valid :
    @ReceiverDeliveryRecordV2.Valid sampleBlake3 asciiNormalization sampleDelivery.receiver :=
  (@ReceiverDeliveryRecordV2.validate_eq_ok sampleBlake3 asciiNormalization _).mp (by decide)

theorem sampleDelivery_sender_valid :
    @SenderDeliveryRecordV2.Valid sampleBlake3 asciiNormalization sampleDelivery.sender :=
  (@SenderDeliveryRecordV2.validate_eq_ok sampleBlake3 asciiNormalization _).mp (by decide)

theorem sampleDelivery_loaded :
    @DeliveryState.Loaded sampleBlake3 asciiNormalization sampleDelivery :=
  @DeliveryState.Loaded.mk sampleBlake3 asciiNormalization _ sampleDelivery_receiver_valid
    sampleDelivery_sender_valid (.inl rfl) (.inl (by decide)) ⟨rfl, rfl⟩

/-- The receiver's write and then the sender's go through; each is asked a second time. -/
def sampleCalls : List DeliveryCall :=
  let receiving : CallEnvironment :=
    { entropy := some sampleNonce, write := .written, sent := .ok (), received := .error "unused" }
  let sending : CallEnvironment :=
    { entropy := none, write := .written, sent := .error "unused",
      received := .ok (.deliveryProof sampleProof) }
  [.receiverSendProof receiving, .senderConfirmDelivery sending, .receiverSendProof receiving,
    .senderConfirmDelivery sending]

instance (earlier later : DeliveryCall) : Decidable (earlier.Strands later) := by
  unfold DeliveryCall.Strands
  cases earlier <;> cases later <;> infer_instance

theorem reported_proofs_durable_sample :
    @DeliveryState.Loaded sampleBlake3 asciiNormalization sampleDelivery ∧
      (sampleCalls.Pairwise fun earlier later => ¬ earlier.Strands later) ∧
      (@DeliveryState.run sampleBlake3 asciiNormalization sampleDelivery sampleCalls).Honest :=
  have careful : sampleCalls.Pairwise fun earlier later => ¬ earlier.Strands later := by decide
  ⟨sampleDelivery_loaded, careful,
    @reported_proofs_durable sampleBlake3 asciiNormalization sampleDelivery sampleCalls
      sampleDelivery_loaded careful⟩

/-- The receiver's write fails before the file is replaced, and the caller asks again. -/
def lostCalls : List DeliveryCall :=
  let lost : CallEnvironment :=
    { entropy := some sampleNonce, write := .failed false "disk full", sent := .ok (),
      received := .error "unused" }
  let again : CallEnvironment :=
    { entropy := none, write := .written, sent := .ok (), received := .error "unused" }
  [.receiverSendProof lost, .receiverSendProof again]

theorem lost_proof_reported :
    ¬ ∀ (start : DeliveryState) (calls : List DeliveryCall),
      @DeliveryState.Loaded sampleBlake3 asciiNormalization start →
        (@DeliveryState.run sampleBlake3 asciiNormalization start calls).Honest := by
  intro always
  have honest := always sampleDelivery lostCalls sampleDelivery_loaded
  exact @DeliveryState.not_honest_of_retry sampleBlake3 asciiNormalization _ _ _ _ _
    sampleDelivery_receiver_valid rfl rfl rfl rfl honest

end Envoix.Transfer
