import Envoix.Foundation.ProgramLogic
import Envoix.Protocol.ManifestCanonical
import Envoix.Transfer.DeliveryPersistence

/-! # The sender record as a state machine

Every run of `commit_accept`, `commit_results` and `sender_confirm_delivery` from a new record:
each step keeps the record valid, moves its phase along one edge at most and only adds to it.
-/

namespace Envoix.Transfer

open ByteCodec Fallible Process Process.Method Envoix.Protocol Relation

/-! ## What a step may change -/

/-- The edges of the phase. -/
inductive PhaseStep : SenderTransferPhaseV2 → SenderTransferPhaseV2 → Prop where
  | accepted : PhaseStep .offering .transferring
  | transferred : PhaseStep .transferring .waitingForReceiverSave
  | delivered : PhaseStep .waitingForReceiverSave .delivered

/-- What was set in the earlier record is unchanged in the later one. -/
structure SenderDeliveryRecordV2.Extends (earlier later : SenderDeliveryRecordV2) : Prop where
  identity : later.identity = earlier.identity
  manifestDigest : later.manifestDigest = earlier.manifestDigest
  phase : ReflTransGen PhaseStep earlier.phase later.phase
  accept : ∀ accept, earlier.accept = some accept → later.accept = some accept
  acceptBodyDigest : ∀ digest, earlier.acceptBodyDigest = some digest →
    later.acceptBodyDigest = some digest
  entryResults : earlier.entryResults ≠ [] → later.entryResults = earlier.entryResults
  completion : ∀ digest, earlier.senderCompletionSetDigest = some digest →
    later.senderCompletionSetDigest = some digest
  proof : ∀ proof, earlier.deliveryProof = some proof → later.deliveryProof = some proof

namespace SenderDeliveryRecordV2

theorem Extends.refl (record : SenderDeliveryRecordV2) : record.Extends record where
  identity := rfl
  manifestDigest := rfl
  phase := .refl
  accept _ := id
  acceptBodyDigest _ := id
  entryResults _ := rfl
  completion _ := id
  proof _ := id

theorem Extends.trans {first second third : SenderDeliveryRecordV2} (before : first.Extends second)
    (after : second.Extends third) : first.Extends third where
  identity := after.identity.trans before.identity
  manifestDigest := after.manifestDigest.trans before.manifestDigest
  phase := before.phase.trans after.phase
  accept accept set := after.accept accept (before.accept accept set)
  acceptBodyDigest digest set := after.acceptBodyDigest digest (before.acceptBodyDigest digest set)
  entryResults set := by
    have same := before.entryResults set
    rw [after.entryResults (by rwa [same]), same]
  completion digest set := after.completion digest (before.completion digest set)
  proof proof set := after.proof proof (before.proof proof set)

/-! ## `commit_accept` and `commit_results` -/

variable {record : SenderDeliveryRecordV2}

theorem commitAccept_cases (accept : ManifestAcceptV2) (digest : ContentDigestV2) :
    (∃ error, (commitAccept accept digest).runOn record = (.error error, record)) ∨
      ((commitAccept accept digest).runOn record = (.ok (), record.underAccept accept digest) ∧
        (record.accept = none ∧ record.acceptBodyDigest = none ∨
          record.accept = some accept ∧ record.acceptBodyDigest = some digest)) := by
  simp only [commitAccept, runOn_bind, runOn_get, runOn_raise, pure_bind, resume_ok]
  by_cases ended : record.phase = .failed ∨ record.phase = .canceled
  · simp only [reject_of ended, resume_error]
    exact .inl ⟨_, rfl⟩
  by_cases foreign : accept.identity ≠ record.identity ∨
    accept.manifestDigest ≠ record.manifestDigest
  · simp only [reject_of_not ended, reject_of foreign, resume_ok, resume_error, runOn_bind,
      runOn_raise, pure_bind]
    exact .inl ⟨_, rfl⟩
  simp only [reject_of_not ended, reject_of_not foreign, resume_ok, runOn_bind,
    runOn_raise, pure_bind]
  cases body : record.acceptBodyDigest with
  | none =>
    cases own : record.accept with
    | none =>
      right
      refine ⟨?_, .inl ⟨rfl, rfl⟩⟩
      by_cases offering : record.phase = .offering
      · simp only [offering, underAccept, runOn_bind, runOn_set, pure_bind, resume_ok, if_true,
          runOn_modify]
        rfl
      · simp only [offering, underAccept, runOn_bind, runOn_set, pure_bind, resume_ok,
          if_false, runOn_pure]
        rfl
    | some other => exact .inl ⟨_, rfl⟩
  | some existing =>
    cases own : record.accept with
    | none => exact .inl ⟨_, rfl⟩
    | some other =>
      by_cases same : existing = digest ∧ other = accept
      · right
        obtain ⟨rfl, rfl⟩ := same
        refine ⟨?_, .inr ⟨rfl, rfl⟩⟩
        simp only [underAccept, ← own, ← body]
        by_cases offering : record.phase = .offering
        · simp only [offering, if_true]
          rfl
        · simp only [offering, if_false]
          rfl
      · left
        simp only [runOn_bind, runOn_raise, reject_of same, pure_bind, resume_error]
        exact ⟨_, rfl⟩

/-- The record with these results committed. -/
def withResults (record : SenderDeliveryRecordV2) (summary : SenderDataPlaneSummaryV2) :
    SenderDeliveryRecordV2 :=
  { record with
    entryResults := summary.entryResults
    senderCompletionSetDigest := some summary.senderCompletionSetDigest
    phase := if record.phase = .transferring then .waitingForReceiverSave else record.phase }

/-- `commit_results` writes before its last check, but a record without results has no completion
digest that the check could refuse. -/
theorem commitResults_cases (paired : record.entryResults = [] →
    record.senderCompletionSetDigest = none)
    (summary : SenderDataPlaneSummaryV2) :
    (∃ error, (commitResults summary).runOn record = (.error error, record)) ∨
      ((commitResults summary).runOn record = (.ok (), record.withResults summary) ∧
        (record.phase = .transferring ∨ record.phase = .waitingForReceiverSave ∨
          record.phase = .delivered) ∧
        (record.entryResults = [] ∨ record.entryResults = summary.entryResults) ∧
        (record.senderCompletionSetDigest = none ∨
          record.senderCompletionSetDigest = some summary.senderCompletionSetDigest)) := by
  simp only [commitResults, runOn_bind, runOn_get, runOn_raise, pure_bind, resume_ok]
  by_cases foreign : summary.identity ≠ record.identity ∨
    record.acceptBodyDigest ≠ some summary.acceptBodyDigest
  · simp only [reject_of foreign, resume_error]
    exact .inl ⟨_, rfl⟩
  by_cases early : ¬ (record.phase = .transferring ∨ record.phase = .waitingForReceiverSave ∨
      record.phase = .delivered)
  · simp only [reject_of_not foreign, reject_of early, resume_ok, resume_error, runOn_bind,
      runOn_raise, pure_bind]
    exact .inl ⟨_, rfl⟩
  simp only [reject_of_not foreign, reject_of_not early, resume_ok, runOn_bind,
    runOn_raise, pure_bind]
  rw [not_not] at early
  by_cases empty : record.entryResults = []
  · right
    have unset := paired empty
    refine ⟨?_, early, .inl empty, .inl unset⟩
    by_cases transferring : record.phase = .transferring
    · simp only [empty, unset, transferring, withResults, if_true, runOn_bind, runOn_modify,
        pure_bind, resume_ok]
      rfl
    · simp only [empty, unset, transferring, withResults, if_true, if_false, runOn_bind,
        runOn_modify, runOn_pure, pure_bind, resume_ok]
      rfl
  by_cases same : record.entryResults ≠ summary.entryResults
  · simp only [empty, if_false, runOn_bind, runOn_raise, reject_of same, pure_bind, resume_error]
    exact .inl ⟨_, rfl⟩
  simp only [empty, if_false, runOn_bind, runOn_raise, reject_of_not same, pure_bind, resume_ok]
  rw [not_not] at same
  cases completed : record.senderCompletionSetDigest with
  | none =>
    right
    refine ⟨?_, early, .inr same, .inl rfl⟩
    by_cases transferring : record.phase = .transferring
    · simp only [transferring, withResults, if_true, runOn_bind, runOn_modify, pure_bind,
        resume_ok, ← same]
      rfl
    · simp only [transferring, withResults, if_false, runOn_bind, runOn_modify, runOn_pure,
        pure_bind, resume_ok, ← same]
      rfl
  | some existing =>
    by_cases differs : existing ≠ summary.senderCompletionSetDigest
    · simp only [runOn_bind, runOn_raise, reject_of differs, pure_bind, resume_error]
      exact .inl ⟨_, rfl⟩
    · simp only [runOn_bind, runOn_raise, reject_of_not differs, pure_bind, resume_ok]
      rw [not_not] at differs
      right
      refine ⟨?_, early, .inr same, .inr (congrArg some differs)⟩
      by_cases transferring : record.phase = .transferring
      · simp only [transferring, withResults, if_true, runOn_modify, ← same, ← differs, ← completed]
        rfl
      · simp only [transferring, withResults, if_false, runOn_pure, ← same, ← differs, ← completed]
        rfl

theorem underAccept_extends {accept : ManifestAcceptV2} {digest : ContentDigestV2}
    (fresh : record.accept = none ∧ record.acceptBodyDigest = none ∨
      record.accept = some accept ∧ record.acceptBodyDigest = some digest) :
    record.Extends (record.underAccept accept digest) where
  identity := rfl
  manifestDigest := rfl
  phase := by
    by_cases offering : record.phase = .offering
    · simp only [underAccept, offering, if_true]
      exact .single .accepted
    · simp only [underAccept, offering, if_false]
      exact .refl
  accept other set := by
    cases fresh with
    | inl unset => rw [unset.1] at set; cases set
    | inr same => exact same.1.symm.trans set
  acceptBodyDigest other set := by
    cases fresh with
    | inl unset => rw [unset.2] at set; cases set
    | inr same => exact same.2.symm.trans set
  entryResults _ := rfl
  completion _ := id
  proof _ := id

theorem withResults_extends {summary : SenderDataPlaneSummaryV2}
    (results : record.entryResults = [] ∨ record.entryResults = summary.entryResults)
    (completion : record.senderCompletionSetDigest = none ∨
      record.senderCompletionSetDigest = some summary.senderCompletionSetDigest) :
    record.Extends (record.withResults summary) where
  identity := rfl
  manifestDigest := rfl
  phase := by
    by_cases transferring : record.phase = .transferring
    · simp only [withResults, transferring, if_true]
      exact .single .transferred
    · simp only [withResults, transferring, if_false]
      exact .refl
  accept _ := id
  acceptBodyDigest _ := id
  entryResults set := by
    cases results with
    | inl empty => exact absurd empty set
    | inr same => exact same.symm
  completion digest set := by
    cases completion with
    | inl unset => rw [unset] at set; cases set
    | inr same => exact same.symm.trans set
  proof _ := id

theorem deliveredBy_extends {proof : DeliveryProofV2}
    (waiting : record.phase = .waitingForReceiverSave) (unproven : record.deliveryProof = none) :
    record.Extends (record.deliveredBy proof) where
  identity := rfl
  manifestDigest := rfl
  phase := by
    rw [waiting]
    exact .single .delivered
  accept _ := id
  acceptBodyDigest _ := id
  entryResults _ := rfl
  completion _ := id
  proof other set := by
    rw [unproven] at set
    cases set

/-! ## Validity -/

section Valid

variable [Blake3] [UnicodeNormalization]

/-- A record whose Accept is committed under the phase it already has. -/
theorem Valid.underAccept (valid : record.Valid) {accept : ManifestAcceptV2}
    {digest : ContentDigestV2} (fresh : record.accept = none ∧ record.acceptBodyDigest = none ∨
      record.accept = some accept ∧ record.acceptBodyDigest = some digest) :
    (record.underAccept accept digest).Valid := by
  have shape := valid.phase
  cases fresh with
  | inl unset =>
    -- without an Accept the record is still in its first phase or has ended
    have unproven : record.deliveryProof = none := by
      cases stored : record.deliveryProof with
      | none => rfl
      | some proof =>
        obtain ⟨_, _, _, capability, granted, _⟩ := valid.proof proof stored
        simp [proofCapability, unset.1] at granted
    refine ⟨valid.encodings, rfl, valid.completion, valid.results, ?_, ?_⟩
    · intro proof stored
      rw [show (record.underAccept accept digest).deliveryProof = none from unproven] at stored
      cases stored
    · cases phase : record.phase <;>
        simp_all [validPhase, SenderDeliveryRecordV2.underAccept, acceptCommitted]
  | inr same =>
    have unchanged : record.phase ≠ .offering := by
      intro offering
      simp [validPhase, offering, acceptCommitted, same] at shape
    have kept : record.underAccept accept digest = record := by
      simp only [SenderDeliveryRecordV2.underAccept, unchanged, if_false, ← same.1, ← same.2]
    rwa [kept]

theorem Valid.withResults (valid : record.Valid) {summary : SenderDataPlaneSummaryV2}
    (dense : hasForeignResult record.identity summary.entryResults = false)
    (some : summary.entryResults ≠ [])
    (phase : record.phase = .transferring ∨ record.phase = .waitingForReceiverSave ∨
      record.phase = .delivered)
        (results : record.entryResults = [] ∨ record.entryResults = summary.entryResults) :
    (record.withResults summary).Valid := by
  have shape := valid.phase
  refine ⟨valid.encodings, valid.accept, by simp [SenderDeliveryRecordV2.withResults, some],
    dense, ?_, ?_⟩
  · intro proof stored
    have same : record.entryResults = summary.entryResults := by
      cases results with
      | inl empty =>
        have stored : record.deliveryProof = Option.some proof := stored
        rcases phase with phase | phase | phase <;> simp_all [validPhase]
      | inr same => exact same
    have bound := valid.proof proof stored
    rw [same] at bound
    exact bound
  · rcases phase with phase | phase | phase
    all_goals simp only [validPhase, phase, decide_eq_true_eq] at shape
    · have after : (record.withResults summary).phase = .waitingForReceiverSave := by
        simp [SenderDeliveryRecordV2.withResults, phase]
      simp only [validPhase, after, decide_eq_true_eq]
      exact ⟨shape.1, some, shape.2.2⟩
    · have after : (record.withResults summary).phase = .waitingForReceiverSave := by
        simp [SenderDeliveryRecordV2.withResults, phase]
      simp only [validPhase, after, decide_eq_true_eq]
      exact ⟨shape.1, some, shape.2.2⟩
    · have after : (record.withResults summary).phase = .delivered := by
        simp [SenderDeliveryRecordV2.withResults, phase]
      simp only [validPhase, after, decide_eq_true_eq]
      exact ⟨shape.1, some, shape.2.2⟩

omit [Blake3] [UnicodeNormalization] in
theorem waiting_unproven (shape : record.validPhase = true)
    (waiting : record.phase = .waitingForReceiverSave) :
    record.deliveryProof = none := by
  simp only [validPhase, waiting, decide_eq_true_eq] at shape
  exact shape.2.2

/-- The checks of `validate` on a record of a manifest with at least one entry. -/
theorem new_valid {offer : ManifestOfferV2} (some : offer.manifest.entries ≠ []) :
    (new offer).Valid where
  encodings := by simp [encodingShapeIsValid, new, some]
  accept := rfl
  completion := rfl
  results := rfl
  proof := by simp [new]
  phase := rfl

end Valid

end SenderDeliveryRecordV2

/-! ## Calls and runs -/

inductive SenderCall where
  | commitAccept (accept : ManifestAcceptV2) (digest : ContentDigestV2)
  | commitResults (summary : SenderDataPlaneSummaryV2)
  | senderConfirmDelivery
deriving DecidableEq

/-- The summaries `send` produces: one result for each entry of the manifest, in order. -/
def SenderCall.AsSent (offer : ManifestOfferV2) : SenderCall → Prop
  | .commitResults summary =>
    summary.entryResults.length = offer.manifest.entries.length ∧
      hasForeignResult (SenderDeliveryRecordV2.new offer).identity summary.entryResults = false
  | _ => True

/-- The error comes from the file operations of the store. -/
def DeliveryAuthorityErrorV2.fromStore : DeliveryAuthorityErrorV2 → Bool
  | .io _ => true
  | .json _ => true
  | _ => false

section Runs

variable [Blake3] [UnicodeNormalization]

/-- A call returns this result and leaves this record; the connection and the store reply as they
like. -/
inductive SenderCall.Returns : SenderCall → SenderDeliveryRecordV2 →
    Except DeliveryAuthorityErrorV2 Unit → SenderDeliveryRecordV2 → Prop where
  | commitAccept {accept : ManifestAcceptV2} {digest : ContentDigestV2}
      {record next : SenderDeliveryRecordV2} {result : Except DeliveryAuthorityErrorV2 Unit}
      (ran : (SenderDeliveryRecordV2.commitAccept accept digest).runOn record = (result, next)) :
      Returns (.commitAccept accept digest) record result next
  | commitResults {summary : SenderDataPlaneSummaryV2} {record next : SenderDeliveryRecordV2}
      {result : Except DeliveryAuthorityErrorV2 Unit}
      (ran : (SenderDeliveryRecordV2.commitResults summary).runOn record = (result, next)) :
      Returns (.commitResults summary) record result next
  | senderConfirmDelivery {record next : SenderDeliveryRecordV2}
      {result : Except DeliveryAuthorityErrorV2 DeliveryProofV2}
      (ran : Proc.Reaches (Contract.free DeliveryOp DeliveryReply)
        (Transfer.senderConfirmDelivery.runOn record) ()
        (.ret (result, next)) ()) :
      Returns .senderConfirmDelivery record (result.map fun _ => ()) next

/-- One call of a run over the record of `offer`. -/
def SenderStep (offer : ManifestOfferV2) (record next : SenderDeliveryRecordV2) : Prop :=
  ∃ call result, SenderCall.AsSent offer call ∧ call.Returns record result next

variable {record next : SenderDeliveryRecordV2}

/-- Whatever arrives, the confirmation keeps the record or delivers it by a proof it accepted. -/
theorem senderConfirmDelivery_always (valid : record.Valid) :
    (senderConfirmDelivery.runOn record).Always (Contract.free DeliveryOp DeliveryReply)
      (fun outcome _ =>
          (outcome.2 = record ∨ ∃ received proof, record.phase = .waitingForReceiverSave ∧
          acceptedProof record received = .ok proof ∧ outcome.2 = record.deliveredBy proof) ∧
        ∀ error, outcome.1 = .error error → error.fromStore = false → outcome.2 = record) () := by
  by_cases waiting : record.phase = .waitingForReceiverSave
  · rw [senderConfirmDelivery_waiting valid waiting]
    intro received _
    refine ⟨trivial, ?_⟩
    cases outcome : acceptedProof record received with
    | error error =>
      simp only [outcome]
      exact ⟨.inl rfl, fun _ _ _ => rfl⟩
    | ok proof =>
      simp only [outcome]
      intro reply _
      refine ⟨trivial, .inr ⟨received, proof, waiting, outcome, rfl⟩, ?_⟩
      intro error failed own
      cases reply with
      | written => cases failed
      | failed replaced message =>
        cases failed
        cases own
  · by_cases done : record.phase = .delivered
    · rw [senderConfirmDelivery_delivered done]
      exact fun received _ => ⟨trivial, .inl rfl, fun _ _ _ => rfl⟩
    · rw [senderConfirmDelivery_refused (not_or.mpr ⟨waiting, done⟩)]
      exact ⟨.inl rfl, fun _ _ _ => rfl⟩

/-- An error of the call's own checks changes nothing. -/
theorem SenderCall.Returns.unchanged (valid : record.Valid) {call : SenderCall}
    {error : DeliveryAuthorityErrorV2} (returned : call.Returns record (.error error) next)
    (own : error.fromStore = false) : next = record := by
  have paired : record.entryResults = [] → record.senderCompletionSetDigest = none := by
    intro empty
    simpa [empty] using valid.completion
  generalize outcome : Except.error error = result at returned
  cases returned with
  | commitAccept ran =>
    subst outcome
    rcases @SenderDeliveryRecordV2.commitAccept_cases record _ _ with ⟨_, failed⟩ | ⟨succeeded, _⟩
    · rw [failed] at ran
      cases ran
      rfl
    · rw [succeeded] at ran
      cases ran
  | commitResults ran =>
    subst outcome
    rcases SenderDeliveryRecordV2.commitResults_cases paired _ with ⟨_, failed⟩ | ⟨succeeded, _⟩
    · rw [failed] at ran
      cases ran
      rfl
    · rw [succeeded] at ran
      cases ran
  | @senderConfirmDelivery _ _ result ran =>
    cases result with
    | ok proof => cases outcome
    | error found =>
      cases outcome
      exact ((senderConfirmDelivery_always valid).reaches trivial ran).2.2 _ rfl own

/-- Every call keeps the record valid and only adds to it. -/
theorem SenderCall.Returns.preserves {offer : ManifestOfferV2} (some : offer.manifest.entries ≠ [])
    (valid : record.Valid) (owned : record.identity = (SenderDeliveryRecordV2.new offer).identity)
    {call : SenderCall} {result : Except DeliveryAuthorityErrorV2 Unit} (asSent : call.AsSent offer)
    (returned : call.Returns record result next) : next.Valid ∧ record.Extends next := by
  have paired : record.entryResults = [] → record.senderCompletionSetDigest = none := by
    intro empty
    simpa [empty] using valid.completion
  cases returned with
  | commitAccept ran =>
    rcases @SenderDeliveryRecordV2.commitAccept_cases record _ _
      with ⟨_, failed⟩ | ⟨succeeded, fresh⟩
    · rw [failed] at ran
      cases ran
      exact ⟨valid, .refl record⟩
    · rw [succeeded] at ran
      cases ran
      exact ⟨valid.underAccept fresh, SenderDeliveryRecordV2.underAccept_extends fresh⟩
  | @commitResults summary _ _ _ ran =>
    rcases SenderDeliveryRecordV2.commitResults_cases paired summary with
      ⟨_, failed⟩ | ⟨succeeded, phase, results, completion⟩
    · rw [failed] at ran
      cases ran
      exact ⟨valid, .refl record⟩
    · rw [succeeded] at ran
      cases ran
      have nonempty : summary.entryResults ≠ [] := by
        rw [← List.length_pos_iff, asSent.1, List.length_pos_iff]
        exact some
      have dense := asSent.2
      rw [← owned] at dense
      exact ⟨valid.withResults dense nonempty phase results,
        SenderDeliveryRecordV2.withResults_extends results completion⟩
  | senderConfirmDelivery ran =>
    rcases ((senderConfirmDelivery_always valid).reaches trivial ran).2.1 with
      same | ⟨received, proof, waiting, accepted, delivered⟩
    · obtain rfl : next = record := same
      exact ⟨valid, .refl next⟩
    · obtain rfl : next = record.deliveredBy proof := delivered
      exact ⟨valid.deliveredBy waiting accepted, SenderDeliveryRecordV2.deliveredBy_extends waiting
        (SenderDeliveryRecordV2.waiting_unproven valid.phase waiting)⟩

/-- What every step preserves, every run preserves. -/
theorem sender_run_preserves {offer : ManifestOfferV2} (some : offer.manifest.entries ≠ [])
    (valid : record.Valid) (owned : record.identity = (SenderDeliveryRecordV2.new offer).identity)
    (run : ReflTransGen (SenderStep offer) record next) : next.Valid ∧ record.Extends next := by
  induction run with
  | refl => exact ⟨valid, .refl record⟩
  | tail _ step ih =>
    obtain ⟨call, result, asSent, returned⟩ := step
    obtain ⟨before, kept⟩ := ih
    obtain ⟨after, added⟩ := returned.preserves some before (kept.identity.trans owned) asSent
    exact ⟨after, kept.trans added⟩

/-- The sender record is a write-once state machine. -/
theorem sender_record_state_machine (offer : ManifestOfferV2)
    (sealed : buildManifestOfferV2 offer.manifest = .ok offer) (record : SenderDeliveryRecordV2)
    (run : ReflTransGen (SenderStep offer) (SenderDeliveryRecordV2.new offer) record) :
    record.validate = .ok () ∧ ReflTransGen PhaseStep .offering record.phase ∧
      (∀ later, ReflTransGen (SenderStep offer) record later → record.Extends later) ∧
      (∀ call error next, SenderCall.Returns call record (.error error) next →
        error.fromStore = false →
        next = record) := by
  simp only [buildManifestOfferV2, bind_eq_ok, mapErr_eq_ok, exists_unit] at sealed
  have some : offer.manifest.entries ≠ [] :=
    List.length_pos_iff.mp (validate_eq_ok.mp sealed.1).entryCount.1
  obtain ⟨valid, extends_⟩ :=
    sender_run_preserves some (SenderDeliveryRecordV2.new_valid some) rfl run
  refine ⟨SenderDeliveryRecordV2.validate_eq_ok.mpr valid, extends_.phase, ?_, ?_⟩
  · intro later rest
    exact (sender_run_preserves some valid extends_.identity rest).2
  · intro call error next returned own
    exact returned.unchanged valid own

end Runs

/-! ## A run of the protocol fixture -/

def sampleOffer : ManifestOfferV2 := ⟨⟨goldenDigest⟩, sampleManifest⟩

def sampleSummary : SenderDataPlaneSummaryV2 where
  identity := sampleIdentity
  acceptBodyDigest := ⟨.replicate 32 0x51⟩
  senderCompletionSetDigest := ⟨.replicate 32 0x61⟩
  entryResults := sampleResults

/-- The fixture's sender commits its Accept and its results, and is delivered. -/
theorem sample_sender_run :
    ReflTransGen (@SenderStep sampleBlake3 asciiNormalization sampleOffer)
      (SenderDeliveryRecordV2.new sampleOffer) (sampleDelivery.sender.deliveredBy sampleProof) := by
  have accepted :
    (SenderDeliveryRecordV2.commitAccept sampleAccept sampleSummary.acceptBodyDigest).runOn
      (SenderDeliveryRecordV2.new sampleOffer) =
      (.ok (),
        (SenderDeliveryRecordV2.new sampleOffer).underAccept sampleAccept
          sampleSummary.acceptBodyDigest) := rfl
  have transferred : (SenderDeliveryRecordV2.commitResults sampleSummary).runOn
      ((SenderDeliveryRecordV2.new sampleOffer).underAccept sampleAccept
        sampleSummary.acceptBodyDigest) =
      (.ok (), sampleDelivery.sender) := rfl
  have proven :
      @acceptedProof sampleBlake3 asciiNormalization sampleDelivery.sender
        (.ok (.deliveryProof sampleProof)) =
      .ok sampleProof := by
    decide
  have confirmed : Proc.Reaches (Contract.free DeliveryOp DeliveryReply)
      ((@senderConfirmDelivery sampleBlake3 asciiNormalization).runOn sampleDelivery.sender) ()
      (.ret (.ok sampleProof, sampleDelivery.sender.deliveredBy sampleProof)) () := by
    rw [@senderConfirmDelivery_waiting sampleBlake3 asciiNormalization _
      sampleDelivery_sender_valid rfl]
    refine @Proc.Reaches.call _ _ _ _ _ _ _ _ _ _ (.ok (.deliveryProof sampleProof)) trivial ?_
    simp only [proven]
    exact @Proc.Reaches.call _ _ _ _ _ _ _ _ _ _ .written trivial .here
  have asSent : (SenderCall.commitResults sampleSummary).AsSent sampleOffer := ⟨rfl, by decide⟩
  have run : ReflTransGen (@SenderStep sampleBlake3 asciiNormalization sampleOffer)
      (SenderDeliveryRecordV2.new sampleOffer) sampleDelivery.sender :=
    .tail (.single ⟨.commitAccept _ _, .ok (), trivial,
      @SenderCall.Returns.commitAccept sampleBlake3
      asciiNormalization _ _ _ _ _ accepted⟩) ⟨.commitResults _, .ok (), asSent,
        @SenderCall.Returns.commitResults sampleBlake3 asciiNormalization _ _ _ _ transferred⟩
  exact run.tail ⟨.senderConfirmDelivery, _, trivial,
    @SenderCall.Returns.senderConfirmDelivery sampleBlake3 asciiNormalization _ _ _ confirmed⟩

theorem sender_record_state_machine_sample :
    @buildManifestOfferV2 sampleBlake3 asciiNormalization sampleOffer.manifest = .ok sampleOffer ∧
      @SenderDeliveryRecordV2.validate sampleBlake3 asciiNormalization
        (sampleDelivery.sender.deliveredBy sampleProof) =
        .ok () :=
  have sealed : @buildManifestOfferV2 sampleBlake3 asciiNormalization sampleOffer.manifest =
      .ok sampleOffer := by
    decide
  ⟨sealed,
    (@sender_record_state_machine sampleBlake3 asciiNormalization sampleOffer sealed _
      sample_sender_run).1⟩

end Envoix.Transfer
