import Envoix.Session.ManifestSession

/-! # What a receiver does in a connection

The rule that every call of `receiveSession` keeps to, whatever arrives: when a ledger may be
written, which Accept and which proof may be sent, and when a delivery record is saved.
-/

namespace Envoix.Session

open ByteCodec Fallible Process Process.Method Envoix.Protocol Envoix.Transfer FileSystem

section Calls

variable {arrives : ManifestV2Frame → Prop} {permitted : Reconciling → Boundary → Prop}
  {rule : EngineWorld → SessionOp → Prop} {State α : Type} {state : State} {world : EngineWorld}

theorem obeys_onEngine {method : EngineProgram State α}
    {post : α × State → Unit → EngineWorld → Prop}
    (holds : method.Obeys (engineContract arrives (fun _ => True) fun _ => True)
      (fun world op => rule world (.engine op))
        (fun value left final => post (value, left) () final) state world) :
    (onEngine method state).Obeys (sessionContract arrives permitted) rule post () world := by
  rw [onEngine, obeys_bind, obeys_call, Proc.follows_embed]
  refine Proc.Follows.mono holds fun outcome final after => ?_
  obtain ⟨result, left⟩ := outcome
  cases result with
  | ok value => exact obeys_pure.mpr after
  | error error => exact obeys_throw.mpr trivial

theorem obeys_onDelivery {method : DeliveryProgram State α}
    {post : α × State → Unit → EngineWorld → Prop}
    (holds : method.Obeys (deliveryContract arrives (fun _ => True) fun _ => True)
      (fun world op => rule world (.engine (.delivery op)))
        (fun value left final => post (value, left) () final)
      state world) :
    (onDelivery method state).Obeys (sessionContract arrives permitted) rule post () world := by
  rw [onDelivery, obeys_bind, obeys_call, Proc.follows_embed]
  refine Proc.Follows.mono holds fun outcome final after => ?_
  obtain ⟨result, left⟩ := outcome
  cases result with
  | ok value => exact obeys_pure.mpr after
  | error error => exact obeys_throw.mpr trivial

variable {post : α → Unit → EngineWorld → Prop} {done : Unit → Unit → EngineWorld → Prop}

theorem obeys_sendFrame {frame : ManifestV2Frame}
    (allowed : rule world (.engine (.delivery (.sendManifestV2Frame frame))))
    (holds : done () () { world with sent := world.sent ++ [frame] }) :
    (sendFrame frame).Obeys (sessionContract arrives permitted) rule done () world := by
  rw [sendFrame, obeys_bind, obeys_perform]
  refine ⟨allowed, fun reply _ => ?_⟩
  rw [obeys_raise]
  exact fun _ _ => holds

theorem obeys_recvFrame {post : ManifestV2Frame → Unit → EngineWorld → Prop}
    (allowed : rule world (.engine (.delivery .recvManifestV2Frame)))
    (holds : ∀ frame, arrives frame →
      post frame () { world with received := world.received ++ [frame] }) :
    recvFrame.Obeys (sessionContract arrives permitted) rule post () world := by
  rw [recvFrame, obeys_bind, obeys_perform]
  refine ⟨allowed, fun reply arrived => ?_⟩
  cases reply with
  | error message => trivial
  | ok frame => exact holds frame (arrived frame rfl)

theorem obeys_abort (allowed : rule world (.engine .abort)) :
    (abort : SessionProgram α).Obeys (sessionContract arrives permitted) rule post () world := by
  rw [abort, obeys_bind, obeys_perform]
  exact ⟨allowed, fun reply => nomatch reply⟩

/-- Calls that touch neither a store nor the connection. -/
def SessionOp.Silent (op : SessionOp) : Prop :=
  ∀ (world : EngineWorld) (reply : SessionReply op), afterSession world op reply = world

theorem obeys_silent {op : SessionOp} {post : SessionReply op → Unit → EngineWorld → Prop}
    (silent : op.Silent) (allowed : rule world op)
    (holds : ∀ reply, sessionReplies arrives permitted world op reply → post reply () world) :
    (perform op : SessionProgram (SessionReply op)).Obeys (sessionContract arrives permitted)
      rule post () world := by
  rw [obeys_perform]
  refine ⟨allowed, fun reply may => ?_⟩
  show post reply () (afterSession world op reply)
  rw [silent world reply]
  exact holds reply may

end Calls

/-! ## The rule -/

section Rule

variable [Blake3] [UnicodeNormalization]

/-- An offer that has come in, plain or with a resume request. -/
def Presented (offer : ManifestOfferV2) (received : List ManifestV2Frame) : Prop :=
  .offer offer ∈ received ∨ ∃ request, .resumeRequest request ∈ received ∧ request.offer = offer

/-- A ledger is saved when it is new and its offer has come in, or as a step of the one stored. -/
inductive LedgerSave (world : EngineWorld) (next : ReceiverDataPlaneLedgerV2) : Prop where
  | created {offer : ManifestOfferV2} {accept : ManifestAcceptV2} (absent : world.ledger = none)
      (arrived : .offer offer ∈ world.received)
      (fresh : ∀ plan ∈ accept.entryPlans, plan.nextPlaintextBlock = 0)
        (new : ReceiverDataPlaneLedgerV2.new offer accept = .ok (some next)) : LedgerSave world next
  | stepped {offer : ManifestOfferV2} {ledger : ReceiverDataPlaneLedgerV2}
      (stored : world.ledger = some ledger) (arrived : Presented offer world.received)
      (step : LedgerStep offer world.received ledger next) :
      LedgerSave world next

/-- A delivery record is saved with its first proof, over one without a proof or over none. -/
inductive RecordSave (world : EngineWorld) (record : ReceiverDeliveryRecordV2) : Prop where
  | created {offer : ManifestOfferV2} {ledger : ReceiverDataPlaneLedgerV2}
      {summary : ReceiverDataPlaneSummaryV2} {fresh : ReceiverDeliveryRecordV2}
      {proof : DeliveryProofV2} (absent : world.receiver = none)
      (stored : world.ledger = some ledger) (complete : ledger.completedSummary = some summary)
      (new : ReceiverDeliveryRecordV2.new offer ledger.accept summary = .ok fresh)
      (proved : record = { fresh with deliveryProof := some proof }) : RecordSave world record
  | proved {old : ReceiverDeliveryRecordV2} {proof : DeliveryProofV2}
      (stored : world.receiver = some old) (unproved : old.deliveryProof = none)
      (proved : record = { old with deliveryProof := some proof }) :
      RecordSave world record

/-- The frames a receiver may send from what its stores hold. -/
def ReceiverSends (world : EngineWorld) : ManifestV2Frame → Prop
  | .accept accept => ∃ ledger, world.ledger = some ledger ∧ ledger.accept = accept ∧
      ledger.requiresAuthenticatedResume = false
  | .deliveryProof proof => ∃ record, world.receiver = some record ∧
    record.deliveryProof = some proof
  | .entryContentDigest _ => True
  | .entryResult _ => True
  | .resumeStatus _ => True
  | _ => False

/-- When `receiveSession` may call an operation. -/
def ReceiverSessionRule (world : EngineWorld) : SessionOp → Prop
  | .engine (.saveLedger next) => LedgerSave world next
  | .engine (.writeBlock entry _) => ∃ ledger checkpoint, world.ledger = some ledger ∧
      ledger.entries[entry.entryId.toNat]? = some checkpoint ∧ checkpoint.arbiter = .payloadOpen
  | .engine (.delivery (.sendManifestV2Frame frame)) => ReceiverSends world frame
  | .engine (.delivery (.saveReceiver record)) => RecordSave world record ∧ record.validate = .ok ()
  | .engine (.delivery (.saveSender _)) => False
  | .engine (.sendEntryBlockOrRecvFrame _) => False
  | .reconcileBoundary _ ledger _ => world.ledger = some ledger
  | _ => True

/-! ## Every call keeps to it -/

variable {arrives : ManifestV2Frame → Prop} {permitted : Reconciling → Boundary → Prop}
  {offer : ManifestOfferV2}
  {accept : ManifestAcceptV2} {existing : Option ReceiverDeliveryRecordV2} {world : EngineWorld}
  {ledger : ReceiverDataPlaneLedgerV2}

/-- What a session of `offer` relies on once its ledger is open. -/
structure Underway (offer : ManifestOfferV2) (accept : ManifestAcceptV2)
    (existing : Option ReceiverDeliveryRecordV2) (world : EngineWorld) : Prop where
  presented : Presented offer world.received
  stored : ∃ ledger, world.ledger = some ledger ∧ ledger.accept = accept
  loaded : world.receiver = existing

omit [Blake3] [UnicodeNormalization] in
theorem Presented.more {received : List ManifestV2Frame} (presented : Presented offer received)
    (frame : ManifestV2Frame) : Presented offer (received ++ [frame]) := by
  obtain plain | ⟨request, arrived, own⟩ := presented
  · exact .inl (List.mem_append_left _ plain)
  · exact .inr ⟨request, List.mem_append_left _ arrived, own⟩

omit [Blake3] [UnicodeNormalization] in
/-- The data plane leaves the session as it was, but for steps of the ledger. -/
theorem Underway.engine {op : EngineOp} {reply : EngineReply op}
    (underway : Underway offer accept existing world) (allowed : ReceiverRule offer world op) :
    Underway offer accept existing (world.after op reply) := by
  obtain ⟨presented, stored, loaded⟩ := underway
  cases op with
  | delivery op =>
    cases op with
    | fillEntropy => exact ⟨presented, stored, loaded⟩
    | saveReceiver | saveSender => exact allowed.elim
    | sendManifestV2Frame frame => exact ⟨presented, stored, loaded⟩
    | recvManifestV2Frame =>
      cases reply with
      | ok frame => exact ⟨presented.more frame, stored, loaded⟩
      | error message => exact ⟨presented, stored, loaded⟩
  | saveLedger next =>
    obtain ⟨ledger, current, step⟩ := allowed
    obtain ⟨ledger', again, same⟩ := stored
    obtain rfl := Option.some.inj (current.symm.trans again)
    show Underway offer accept existing (world.save reply { world with ledger := some next })
    unfold EngineWorld.save
    split
    · exact ⟨presented, ⟨next, rfl, step.accept.trans same⟩, loaded⟩
    · exact ⟨presented, ⟨ledger, current, same⟩, loaded⟩
  | sendEntryBlockOrRecvFrame block => exact allowed.elim
  | _ => exact ⟨presented, stored, loaded⟩

omit [UnicodeNormalization] in
theorem ReceiverRule.session [UnicodeNormalization] {op : EngineOp}
    (presented : Presented offer world.received) (allowed : ReceiverRule offer world op) :
    ReceiverSessionRule world (.engine op) := by
  cases op with
  | delivery op =>
    cases op with
    | fillEntropy | recvManifestV2Frame => trivial
    | saveReceiver | saveSender => exact allowed.elim
    | sendManifestV2Frame frame =>
      obtain ⟨answer, rfl⟩ | ⟨result, rfl⟩ := allowed
      · trivial
      · trivial
  | saveLedger next =>
    obtain ⟨ledger, stored, step⟩ := allowed
    exact .stepped stored presented step
  | writeBlock entry block => exact allowed
  | sendEntryBlockOrRecvFrame block => exact allowed.elim
  | _ => trivial

theorem onEngine_receive_obeys [Zstd] (underway : Underway offer accept existing world)
    (stored : world.ledger = some ledger) (fuel : Nat) :
    (onEngine (receive fuel offer) ledger).Obeys (sessionContract arrives permitted)
      ReceiverSessionRule
      (fun result _ final => Underway offer accept existing final ∧
        ∃ left, final.ledger = some left ∧ left.completedSummary = some result.1)
      () world := by
  apply obeys_onEngine
  refine (Obeys.upgrade ?_ ?_ (receive_obeys stored fuel) underway).mono ?_
  · exact fun _ _ _ underway allowed _ => underway.engine allowed
  · exact fun _ _ underway allowed => ReceiverRule.session underway.presented allowed
  · exact fun _ left _ ⟨underway, durable, complete⟩ => ⟨underway, left, durable, complete⟩

/-- The record a proof is sent from: the one stored, or a new one for a complete ledger. -/
inductive Provable (world : EngineWorld) (record : ReceiverDeliveryRecordV2) : Prop where
  | stored (found : world.receiver = some record)
  | fresh {offer : ManifestOfferV2} {ledger : ReceiverDataPlaneLedgerV2}
      {summary : ReceiverDataPlaneSummaryV2} (absent : world.receiver = none)
      (current : world.ledger = some ledger) (complete : ledger.completedSummary = some summary)
      (new : ReceiverDeliveryRecordV2.new offer ledger.accept summary = .ok record)

theorem new_unproved {summary : ReceiverDataPlaneSummaryV2} {record : ReceiverDeliveryRecordV2}
    (new : ReceiverDeliveryRecordV2.new offer accept summary = .ok record) :
    record.deliveryProof = none := by
  simp only [ReceiverDeliveryRecordV2.new, ReceiverDeliveryRecordV2.validated, bind_eq_ok,
    pure_eq_ok] at new
  obtain ⟨_, _, _, _, _, _, rfl⟩ := new
  rfl

/-- A proof is durable before it is sent. -/
theorem receiverSendProof_obeys {record : ReceiverDeliveryRecordV2}
    (provable : Provable world record) :
    receiverSendProof.Obeys (deliveryContract arrives (fun _ => True) fun _ => True)
      (fun world op => ReceiverSessionRule world (.engine (.delivery op)))
        (fun _ _ _ => True) record world := by
  rw [receiverSendProof, obeys_bind, obeys_get]
  cases proved : record.deliveryProof with
  | some proof =>
    have found : world.receiver = some record := by
      cases provable with
      | stored found => exact found
      | fresh _ _ _ new =>
        rw [new_unproved new] at proved
        cases proved
    simp only [obeys_bind, obeys_pure, obeys_perform, obeys_raise]
    exact ⟨⟨record, found, proved⟩, fun _ _ _ _ => trivial⟩
  | none =>
    simp only [ReceiverDeliveryStoreV2.save, obeys_bind, obeys_pure, obeys_perform, obeys_raise,
      obeys_set, obeys_get]
    refine ⟨trivial, fun _ _ nonce _ _ valid => ?_⟩
    generalize buildDeliveryProof record.identity record.manifestDigest record.resultSetDigest nonce
      record.proofCapability = proof at valid ⊢
    have save : RecordSave world { record with deliveryProof := some proof } := by
      cases provable with
      | stored found => exact .proved found proved rfl
      | fresh absent current complete new => exact .created absent current complete new rfl
    refine ⟨⟨save, valid⟩, fun reply _ _ written => ?_⟩
    cases reply with
    | failed replaced message => cases written
    | written => exact ⟨⟨_, rfl, rfl⟩, fun _ _ _ _ => trivial⟩

theorem proveDelivery_obeys {summary : ReceiverDataPlaneSummaryV2}
    (loaded : world.receiver = existing) (stored : world.ledger = some ledger)
    (same : ledger.accept = accept) (complete : ledger.completedSummary = some summary) :
    (proveDelivery offer accept summary existing).Obeys (sessionContract arrives permitted)
      ReceiverSessionRule
      (fun _ _ _ => True) () world := by
  have prove (record : ReceiverDeliveryRecordV2) (provable : Provable world record) :
      (onDelivery receiverSendProof record >>= fun proven =>
        raise (mapErr (fun error => SessionError.protocol error.text)
          (canonicalManifestV2FrameBodyDigest (.deliveryProof proven.1)))).Obeys
        (sessionContract arrives permitted) ReceiverSessionRule (fun _ _ _ => True) () world := by
    rw [obeys_bind]
    apply obeys_onDelivery
    refine (receiverSendProof_obeys provable).mono fun _ _ _ _ => ?_
    rw [obeys_raise]
    exact fun _ _ => trivial
  subst same
  unfold proveDelivery
  cases existing with
  | some record => exact prove record (.stored loaded)
  | none =>
    rw [obeys_bind, obeys_raise]
    intro record new
    rw [mapErr_eq_ok] at new
    exact prove record (.fresh loaded stored complete new)

theorem transferData_obeys [Zstd] {plan : DestinationWritePlanV2}
    (underway : Underway offer accept existing world) (stored : world.ledger = some ledger)
    (fuel : Nat) (resumed : Bool) :
    (transferData fuel offer plan accept ledger existing resumed).Obeys
      (sessionContract arrives permitted)
      ReceiverSessionRule (fun _ _ _ => True) () world := by
  have transfer : (onEngine (receive fuel offer) ledger >>= fun received =>
      perform (.savePlan plan) >>= fun (saved : Except DestinationPlanErrorV2 Unit) =>
      raise (mapErr SessionError.destination saved) >>= fun _ =>
      proveDelivery offer accept received.1 existing >>= fun deliveryProofDigest =>
      pure { dataPlane := received.1, deliveryProofDigest,
             destinationPlan := plan : ReceiverManifestV2SessionSummary }).Obeys
      (sessionContract arrives permitted) ReceiverSessionRule (fun _ _ _ => True) () world := by
    rw [obeys_bind]
    refine (onEngine_receive_obeys underway stored fuel).mono ?_
    rintro ⟨dataPlane, _⟩ _ final ⟨underway, left, durable, complete⟩
    obtain ⟨_, again, same⟩ := underway.stored
    obtain rfl := Option.some.inj (durable.symm.trans again)
    rw [obeys_bind]
    refine obeys_silent (fun _ _ => rfl) trivial fun _ _ => ?_
    rw [obeys_bind, obeys_raise]
    intro _ _
    rw [obeys_bind]
    exact proveDelivery_obeys underway.loaded durable same complete
  unfold transferData
  split
  case isTrue _ =>
    rw [obeys_bind]
    refine obeys_silent (fun _ _ => rfl) trivial fun _ _ => ?_
    rw [obeys_bind, obeys_raise]
    exact fun _ _ => transfer
  case isFalse _ => exact transfer

theorem awaitDelivery_obeys {plan : DestinationWritePlanV2}
    (underway : Underway offer accept existing world) (stored : world.ledger = some ledger) :
    (awaitDelivery offer plan accept ledger existing).Obeys (sessionContract arrives permitted)
      ReceiverSessionRule
      (fun _ _ _ => True) () world := by
  obtain ⟨_, again, same⟩ := underway.stored
  obtain rfl := Option.some.inj (stored.symm.trans again)
  rw [awaitDelivery, obeys_bind, obeys_raise]
  intro dataPlane complete
  rw [okOr_eq_ok] at complete
  rw [obeys_bind]
  exact proveDelivery_obeys underway.loaded stored same complete

omit [Blake3] [UnicodeNormalization] in
/-- A round leaves the ledger alone or has reset an entry that was lost. -/
theorem RoundReplies.cases {manifest : ManifestV2} {boundary : Boundary} {reconciled : Reconciled}
    (replies : RoundReplies permitted manifest ledger boundary reconciled) :
    reconciled.durable = ledger ∨ ∃ files provider entry checkpoint, provider.manifest = manifest ∧
      permitted ⟨files, provider, ledger⟩ boundary ∧ Claimed boundary.2.1 boundary.2.2.2 ∧
      Lost ⟨files, provider, ledger⟩ boundary.1 boundary.2.2.1 ∧
      Resettable manifest ledger boundary.1 entry checkpoint ∧
      reconciled.durable = ledger.withReset boundary.1 entry checkpoint := by
  obtain ⟨files, provider, left, serves, may, leads, same⟩ | ⟨same, -⟩ := replies
  · obtain ⟨rfl, -⟩ | ⟨claimed, lost, _, entry, checkpoint, resettable, rfl⟩ :=
      reconcileBoundary_cases leads
    · exact .inl same
    · exact .inr ⟨files, provider, entry, checkpoint, serves, may, claimed, lost,
        serves ▸ resettable, same⟩
  · exact .inl same

omit [Blake3] [UnicodeNormalization] in
theorem RoundReplies.same_accept {manifest : ManifestV2} {boundary : Boundary}
    {reconciled : Reconciled}
    (replies : RoundReplies permitted manifest ledger boundary reconciled) :
    reconciled.durable.accept = ledger.accept := by
  obtain same | ⟨_, _, _, _, -, -, -, -, -, same⟩ := replies.cases
  · rw [same]
  · rw [same]
    rfl

/-- The stored ledger is at hand. -/
structure AtHand (offer : ManifestOfferV2) (accept : ManifestAcceptV2)
    (existing : Option ReceiverDeliveryRecordV2) (ledger : ReceiverDataPlaneLedgerV2)
    (world : EngineWorld) : Prop where
  underway : Underway offer accept existing world
  stored : world.ledger = some ledger

omit [Blake3] [UnicodeNormalization] in
theorem AtHand.accepted (hand : AtHand offer accept existing ledger world) :
    ledger.accept = accept := by
  obtain ⟨_, again, same⟩ := hand.underway.stored
  obtain rfl := Option.some.inj (hand.stored.symm.trans again)
  exact same

omit [Blake3] [UnicodeNormalization] in
theorem AtHand.sent (hand : AtHand offer accept existing ledger world)
    (sent : List ManifestV2Frame) :
    AtHand offer accept existing ledger { world with sent } :=
  ⟨⟨hand.underway.presented, hand.underway.stored, hand.underway.loaded⟩, hand.stored⟩

theorem reconcileBoundaries_obeys (manifest : ManifestV2) (boundaries : List Boundary)
    (hand : AtHand offer accept existing ledger world) :
    (reconcileBoundaries manifest boundaries ledger).Obeys (sessionContract arrives permitted)
      ReceiverSessionRule
      (fun left _ final => AtHand offer accept existing left final) () world := by
  induction boundaries generalizing ledger world with
  | nil => exact hand
  | cons boundary boundaries ih =>
    rw [reconcileBoundaries, obeys_bind]
    refine obeys_perform.mpr ⟨hand.stored, fun reconciled replies => ?_⟩
    rw [obeys_bind, obeys_raise]
    intro _ _
    have replies : RoundReplies permitted manifest ledger boundary reconciled := replies
    apply ih
    exact ⟨⟨hand.underway.presented, ⟨_, rfl, replies.same_accept.trans hand.accepted⟩,
      hand.underway.loaded⟩, rfl⟩

theorem reconcileResume_obeys (manifest : ManifestV2)
    (hand : AtHand offer accept existing ledger world) :
    (reconcileResume manifest ledger).Obeys (sessionContract arrives permitted) ReceiverSessionRule
      (fun left _ final => AtHand offer accept existing left final) () world := by
  rw [reconcileResume, obeys_bind]
  refine obeys_silent (fun _ _ => rfl) trivial fun _ _ => ?_
  rw [obeys_bind, obeys_raise]
  exact fun _ _ => reconcileBoundaries_obeys manifest _ hand

theorem answerOffer_obeys (hand : AtHand offer accept existing ledger world) :
    (answerOffer ledger).Obeys (sessionContract arrives permitted) ReceiverSessionRule
      (fun _ _ final => AtHand offer accept existing ledger final) () world := by
  rw [answerOffer, obeys_bind, obeys_raise]
  intro _ undisclosed
  rw [reject_eq_ok, Bool.not_eq_true] at undisclosed
  exact obeys_sendFrame ⟨ledger, hand.stored, rfl, undisclosed⟩ (hand.sent _)

theorem answerResumeRequest_obeys {plan : DestinationWritePlanV2} {request : ResumeRequestV2}
    (hand : AtHand offer accept existing ledger world) :
    (answerResumeRequest offer plan ledger request).Obeys (sessionContract arrives permitted)
      ReceiverSessionRule
      (fun answer _ final => AtHand offer accept existing answer.2 final) () world := by
  rw [answerResumeRequest, obeys_bind, obeys_raise]
  intro _ _
  rw [obeys_bind, obeys_raise]
  intro intent _
  -- the status is sent from the ledger as it is after the rounds
  have report (answered : ReceiverDataPlaneLedgerV2) (final : EngineWorld)
      (hand : AtHand offer accept existing answered final) (status : ResumeStatusV2) :
      (sendFrame (.resumeStatus status) >>= fun _ => pure (intent, answered)).Obeys
        (sessionContract arrives permitted)
        ReceiverSessionRule (fun answer _ final => AtHand offer accept existing answer.2 final)
            () final := by
    rw [obeys_bind]
    exact obeys_sendFrame trivial (hand.sent _)
  cases intent with
  | awaitDelivery => exact report ledger world hand _
  | continueData =>
    rw [obeys_bind]
    refine obeys_silent (fun _ _ => rfl) trivial fun _ _ => ?_
    rw [obeys_bind, obeys_raise]
    intro _ _
    rw [obeys_bind]
    refine (reconcileResume_obeys offer.manifest hand).mono ?_
    exact fun answered _ final hand => report answered final hand _

omit [Blake3] in
theorem createInitialAccept_obeys [Blake3] {plan : DestinationWritePlanV2} :
    (createInitialAccept plan offer).Obeys (sessionContract arrives permitted) ReceiverSessionRule
      (fun accept _ final => final = world ∧
        ∀ plan ∈ accept.entryPlans, plan.nextPlaintextBlock = 0) () world := by
  rw [createInitialAccept, obeys_bind, obeys_raise]
  intro _ _
  rw [obeys_bind]
  refine obeys_silent (fun _ _ => rfl) trivial fun _ _ => ?_
  rw [obeys_bind, obeys_raise]
  intro _ _
  rw [obeys_bind]
  refine obeys_silent (fun _ _ => rfl) trivial fun _ _ => ?_
  simp only [obeys_bind, obeys_raise, obeys_pure]
  intro _ _ _ _
  refine ⟨trivial, fun planned listed => ?_⟩
  obtain ⟨entry, -, rfl⟩ := List.mem_map.mp listed
  rfl

/-- The ledger is stored before it is used. -/
theorem openLedger_obeys {plan : DestinationWritePlanV2} {initialRequest : Bool}
    (presented : Presented offer world.received)
    (initial : initialRequest = true → .offer offer ∈ world.received) :
    (openLedger offer plan initialRequest).Obeys (sessionContract arrives permitted)
      ReceiverSessionRule
      (fun ledger _ final => AtHand offer ledger.accept world.receiver ledger final) () world := by
  rw [openLedger, obeys_bind]
  refine obeys_silent (fun _ _ => rfl) trivial fun reply loaded => ?_
  rw [obeys_bind, obeys_raise]
  intro found succeeded
  obtain rfl : found = world.ledger := loaded found (mapErr_eq_ok.mp succeeded)
  cases stored : world.ledger with
  | some ledger =>
    rw [obeys_bind, obeys_raise]
    exact fun _ _ => ⟨⟨presented, ⟨ledger, stored, rfl⟩, rfl⟩, stored⟩
  | none =>
    cases initialRequest with
    | false => exact obeys_throw.mpr trivial
    | true =>
      show (createInitialAccept plan offer >>= _).Obeys _ _ _ _ _
      rw [obeys_bind]
      refine createInitialAccept_obeys.mono ?_
      intro accept _ _ ⟨same, fresh⟩
      subst same
      rw [obeys_bind, obeys_raise]
      intro created new
      rw [mapErr_eq_ok] at new
      cases created with
      | none => exact obeys_abort trivial
      | some ledger =>
        rw [obeys_bind]
        apply obeys_onEngine
        refine obeys_saveLedger (.created stored (initial rfl) fresh new) ?_
        exact ⟨⟨presented, ⟨ledger, rfl, rfl⟩, rfl⟩, rfl⟩

theorem receiveAfterOffer_obeys [Zstd] {resumeRequest : Option ResumeRequestV2} (fuel : Nat)
    (presented : Presented offer world.received)
    (initial : resumeRequest = none → .offer offer ∈ world.received) :
    (receiveAfterOffer fuel offer resumeRequest).Obeys (sessionContract arrives permitted)
      ReceiverSessionRule
      (fun _ _ _ => True) () world := by
  rw [receiveAfterOffer, obeys_bind, obeys_raise]
  intro _ _
  rw [obeys_bind]
  refine obeys_silent (fun _ _ => rfl) trivial fun reply _ => ?_
  rw [obeys_bind, obeys_raise]
  intro plan _
  rw [obeys_bind]
  refine (openLedger_obeys presented fun isInitial =>
    initial (Option.isNone_iff_eq_none.mp isInitial)).mono ?_
  intro ledger _ opened hand
  -- both answers leave a stored ledger at hand
  have proceed (intent : Option SenderResumeIntentV2) (answered : ReceiverDataPlaneLedgerV2)
    (final : EngineWorld)
      (hand : AtHand offer ledger.accept world.receiver answered final) :
      (perform .loadReceiver >>=
          fun (loaded : Except DeliveryAuthorityErrorV2 (Option ReceiverDeliveryRecordV2)) =>
        raise (mapErr SessionError.delivery loaded) >>= fun existing =>
        if intent = some .awaitDelivery then
          awaitDelivery offer plan ledger.accept answered existing
        else transferData fuel offer plan ledger.accept answered existing intent.isSome).Obeys
        (sessionContract arrives permitted) ReceiverSessionRule (fun _ _ _ => True) () final := by
    rw [obeys_bind]
    refine obeys_silent (fun _ _ => rfl) trivial fun reply loaded => ?_
    rw [obeys_bind, obeys_raise]
    intro found succeeded
    obtain rfl : found = final.receiver := loaded found (mapErr_eq_ok.mp succeeded)
    rw [hand.underway.loaded]
    split
    case isTrue _ => exact awaitDelivery_obeys hand.underway hand.stored
    case isFalse _ => exact transferData_obeys hand.underway hand.stored fuel _
  cases resumeRequest with
  | some request =>
    rw [obeys_bind]
    refine (answerResumeRequest_obeys hand).mono ?_
    exact fun (intent, answered) _ final hand => proceed (some intent) answered final hand
  | none =>
    rw [obeys_bind]
    refine (answerOffer_obeys hand).mono ?_
    exact fun _ _ final hand => proceed none ledger final hand

/-- Every call of a connection keeps to the rule. -/
theorem receiveSession_obeys [Zstd] (fuel : Nat) (world : EngineWorld) :
    (receiveSession fuel).Obeys (sessionContract arrives permitted) ReceiverSessionRule
      (fun _ _ _ => True) () world := by
  have opened :
    receiveAuthenticatedOffer.Obeys (sessionContract arrives permitted) ReceiverSessionRule
      (fun first _ final => Presented first.1 final.received ∧
        (first.2 = none → .offer first.1 ∈ final.received)) ()
      world := by
    rw [receiveAuthenticatedOffer, obeys_bind]
    refine obeys_recvFrame trivial fun frame _ => ?_
    cases frame with
    | offer offer =>
      simp only [obeys_bind, obeys_pure, obeys_raise]
      intro _ _ _ _ _ _
      have arrived : .offer offer ∈ world.received ++ [.offer offer] := by simp
      exact ⟨.inl arrived, fun _ => arrived⟩
    | resumeRequest request =>
      simp only [obeys_bind, obeys_pure, obeys_raise]
      intro _ _ _ _ _ _
      exact ⟨.inr ⟨request, by simp, rfl⟩, (by simp)⟩
    | _ => exact obeys_throw.mpr trivial
  rw [receiveSession, obeys_bind]
  refine opened.mono ?_
  rintro ⟨offer, request⟩ _ final ⟨presented, initial⟩
  exact receiveAfterOffer_obeys fuel presented initial

/-! ## What a call can do -/

/-- What one call of a receiver can do to its stores and its connection. -/
inductive ReceiverMove (arrives : ManifestV2Frame → Prop)
    (permitted : Reconciling → Boundary → Prop) (world : EngineWorld) : EngineWorld → Prop where
  | stays : ReceiverMove arrives permitted world world
  | hears {frame : ManifestV2Frame} (arrived : arrives frame) :
      ReceiverMove arrives permitted world { world with received := world.received ++ [frame] }
  | sends {frame : ManifestV2Frame} (allowed : ReceiverSends world frame) :
      ReceiverMove arrives permitted world { world with sent := world.sent ++ [frame] }
  | proves {record : ReceiverDeliveryRecordV2} (saved : RecordSave world record)
      (valid : record.validate = .ok ()) :
      ReceiverMove arrives permitted world { world with receiver := some record }
  | advances {ledger : ReceiverDataPlaneLedgerV2} (saved : LedgerSave world ledger) :
      ReceiverMove arrives permitted world { world with ledger := some ledger }
  | resets {manifest : ManifestV2} {ledger : ReceiverDataPlaneLedgerV2} {files : Files}
      {provider : LocalDestinationProviderV2} {boundary : Boundary} {entry : ManifestEntryV2}
      {checkpoint : ReceiverEntryCheckpointV2} (stored : world.ledger = some ledger)
      (may : permitted ⟨files, provider, ledger⟩ boundary)
      (claimed : Claimed boundary.2.1 boundary.2.2.2)
      (lost : Lost ⟨files, provider, ledger⟩ boundary.1 boundary.2.2.1)
      (resettable : Resettable manifest ledger boundary.1 entry checkpoint) :
      ReceiverMove arrives permitted world
        { world with ledger := some (ledger.withReset boundary.1 entry checkpoint) }

theorem ReceiverSessionRule.move {op : SessionOp} {reply : SessionReply op}
    (allowed : ReceiverSessionRule world op)
    (may : (sessionContract arrives permitted).may world op reply) :
    ReceiverMove arrives permitted world
      ((sessionContract arrives permitted).after world op reply) := by
  cases op with
  | engine op =>
    cases op with
    | delivery op =>
      cases op with
      | fillEntropy => exact .stays
      | saveReceiver record =>
        show ReceiverMove arrives permitted world
          (world.save reply { world with receiver := some record })
        unfold EngineWorld.save
        split
        · exact .proves allowed.1 allowed.2
        · exact .stays
      | saveSender => exact allowed.elim
      | sendManifestV2Frame frame => exact .sends allowed
      | recvManifestV2Frame =>
        cases reply with
        | ok frame => exact .hears (may frame rfl)
        | error message => exact .stays
    | saveLedger next =>
      show ReceiverMove arrives permitted world
        (world.save reply { world with ledger := some next })
      unfold EngineWorld.save
      split
      · exact .advances allowed
      · exact .stays
    | sendEntryBlockOrRecvFrame => exact allowed.elim
    | _ => exact .stays
  | reconcileBoundary manifest ledger boundary =>
    have stored : world.ledger = some ledger := allowed
    have replies : RoundReplies permitted manifest ledger boundary reply := may
    show ReceiverMove arrives permitted world { world with ledger := some reply.durable }
    obtain same | ⟨files, provider, entry, checkpoint, -, may, claimed, lost, resettable, same⟩ :=
      replies.cases
    · rw [same, ← stored]
      exact .stays
    · rw [same]
      exact .resets stored may claimed lost resettable
  | _ => exact .stays

end Rule

end Envoix.Session
