import Envoix.Foundation.Party
import Envoix.Transfer.LedgerSteps
import Envoix.Transfer.Reconciliation

/-! # One connection of each side

Model of `send_manifest_v2_over_connection_with_authentication`, `receive_authenticated_offer` and
`receive_after_offer` in `envoix-session/src/manifest_v2_session.rs`, after the peers have
authenticated each other.  The functions of the data plane and of the delivery authority run as
they are, over the stores and the connection of the session; the destination is asked for its plan
and for each round of `reconcile_resume`.  Stage and progress events of the session are left out.
-/

namespace Envoix.Session

open ByteCodec Fallible Process Process.Method Envoix.Protocol Envoix.Transfer FileSystem

inductive TransferCause where
  | receiverDestinationUnavailable
deriving DecidableEq

/-- `CoreError`, with the errors of the other crates carried as they are. -/
inductive SessionError where
  | invalidInput (detail : String)
  | protocol (detail : String)
  | crypto (detail : String)
  | transfer (detail : String)
  | cause (cause : TransferCause) (detail : String)
  | data (error : ManifestV2DataError)
  | delivery (error : DeliveryAuthorityErrorV2)
  | destination (error : DestinationPlanErrorV2)
deriving DecidableEq

/-- `destinationPlan` loads the plan and checks it against the request, or makes and saves one for
an initial request.  `reconcileBoundary` is one round of `reconcile_resume`. -/
inductive SessionOp where
  | engine (op : EngineOp)
  | loadSender
  | loadLedger
  | loadReceiver
  | destinationPlan (offer : ManifestOfferV2) (initialRequest : Bool)
  | savePlan (plan : DestinationWritePlanV2)
  | newProvider (plan : DestinationWritePlanV2) (manifest : ManifestV2)
  | reconcileReuses (manifest : ManifestV2) (ledger : ReceiverDataPlaneLedgerV2)
  | reconcileBoundary (manifest : ManifestV2) (ledger : ReceiverDataPlaneLedgerV2)
      (boundary : Boundary)

/-- How a round ended, and the ledger the store holds after it. -/
structure Reconciled where
  durable : ReceiverDataPlaneLedgerV2
  outcome : Except ManifestV2DataError Unit

@[reducible] def SessionReply : SessionOp → Type
  | .engine op => EngineReply op
  | .loadSender => Except DeliveryAuthorityErrorV2 (Option SenderDeliveryRecordV2)
  | .loadLedger => Except ManifestV2DataError (Option ReceiverDataPlaneLedgerV2)
  | .loadReceiver => Except DeliveryAuthorityErrorV2 (Option ReceiverDeliveryRecordV2)
  | .destinationPlan .. => Except SessionError DestinationWritePlanV2
  | .savePlan _ => Except DestinationPlanErrorV2 Unit
  | .newProvider .. => Except DestinationPlanErrorV2 Unit
  | .reconcileReuses .. => Except ManifestV2DataError Unit
  | .reconcileBoundary .. => Reconciled

abbrev SessionProgram := Method (Proc SessionOp SessionReply) Unit SessionError

/-! ## Calls of the other crates -/

/-- Runs a function of the data plane on its state. -/
def onEngine {State α : Type} (method : EngineProgram State α) (state : State) :
    SessionProgram (α × State) := do
  match ← call ((method.runOn state).embed SessionOp.engine) with
  | (.ok value, state) => pure (value, state)
  | (.error error, _) => throw (.data error)

/-- Runs a function of the delivery authority on its record. -/
def onDelivery {State α : Type} (method : DeliveryProgram State α) (state : State) :
    SessionProgram (α × State) := do
  match ← call ((method.runOn state).embed fun op => SessionOp.engine (.delivery op)) with
  | (.ok value, state) => pure (value, state)
  | (.error error, _) => throw (.delivery error)

def sendFrame (frame : ManifestV2Frame) : SessionProgram Unit := do
  raise (mapErr .protocol (← perform (SessionOp.engine (.delivery (.sendManifestV2Frame frame)))))

def recvFrame : SessionProgram ManifestV2Frame := do
  raise (mapErr .protocol (← perform (SessionOp.engine (.delivery .recvManifestV2Frame))))

/-- A panic. -/
def abort {α : Type} : SessionProgram α := do
  nomatch ← perform (SessionOp.engine .abort)

def manifestIdentity (manifest : ManifestV2) : JobGenerationV2 where
  jobId := manifest.jobId
  generation := manifest.generation

section Receiver

variable [Blake3] [UnicodeNormalization] [Zstd]

/-! ## Receiver -/

/-- `receive_authenticated_offer` -/
def receiveAuthenticatedOffer : SessionProgram (ManifestOfferV2 × Option ResumeRequestV2) := do
  let (offer, resumeRequest) ← match ← recvFrame with
    | .offer offer => pure (offer, none)
    | .resumeRequest request => pure (request.offer, some request)
    | _ => throw (.protocol "expected Manifest v2 Offer or ResumeRequest after authentication")
  raise (mapErr (fun error => .protocol error.text) offer.manifest.validate)
  let canonicalOffer ← raise (mapErr (fun error => .protocol error.text)
    (buildManifestOfferV2 offer.manifest))
  raise (reject (canonicalOffer.structuralDigest ≠ offer.structuralDigest)
    (.protocol "Manifest v2 structural digest does not match its canonical manifest"))
  pure (offer, resumeRequest)

/-- An entry the plan wants to reuse and the offer does not have as a known root file.  The roots
are indexed; a manifest that was validated has the root of each of its entries. -/
def reuseIsStale (offer : ManifestOfferV2) (entryId : UInt32) : Bool :=
  match offer.manifest.entries[entryId.toNat]? with
  | none => true
  | some entry =>
    match offer.manifest.roots[entry.rootId.toNat]? with
    | none => true
    | some root => entry.entryId ≠ entryId ∨ entry.entryId ≠ root.rootEntryId ∨
      entry.kind ≠ .regularFile ∨
        committedDigest entry = none

/-- `binary_search` in the ascending list of reused entries is membership. -/
def initialEntryPlan (plan : DestinationWritePlanV2) (entry : ManifestEntryV2) : EntryPlanV2 where
  entryId := entry.entryId
  disposition := if entry.entryId ∈ plan.reuseEntryIds then .reuseExisting else .receivePayload
  nextPlaintextBlock := 0

def entropyUnavailable : SessionError := .destination (.io (.other "receiver entropy unavailable"))

/-- `DestinationWritePlanV2::create_initial_accept` -/
def createInitialAccept (plan : DestinationWritePlanV2) (offer : ManifestOfferV2) :
    SessionProgram ManifestAcceptV2 := do
  raise (reject (plan.jobId ≠ offer.manifest.jobId ∨
    plan.generation ≠ offer.manifest.generation ∨
    plan.rootPlans.length ≠ offer.manifest.roots.length ∨
    plan.reuseEntryIds.any (reuseIsStale offer)) (.destination .invalidEntryState))
  let acceptNonce ← raise
    (okOr (← perform (SessionOp.engine (.delivery .fillEntropy))) entropyUnavailable)
  let proofCapability ← raise
    (okOr (← perform (SessionOp.engine (.delivery .fillEntropy))) entropyUnavailable)
  raise (reject (proofCapability = ByteVector.zero 32) entropyUnavailable)
  pure {
    identity := { jobId := plan.jobId, generation := plan.generation }
    manifestDigest := offer.structuralDigest
    acceptNonce
    proofCapability := ⟨proofCapability⟩
    planRevision := plan.planRevision
    rootPlans := plan.rootPlans
    entryPlans := offer.manifest.entries.map (initialEntryPlan plan) }

/-- The ledger of the job: the stored one, or for an initial request a new one, saved before
anything is answered. -/
def openLedger (offer : ManifestOfferV2) (plan : DestinationWritePlanV2) (initialRequest : Bool) :
    SessionProgram ReceiverDataPlaneLedgerV2 := do
  match ← raise (mapErr .data (← perform .loadLedger)) with
  | some ledger =>
    raise (mapErr .data (ledger.validate offer.manifest))
    pure ledger
  | none =>
    if initialRequest then
      let accept ← createInitialAccept plan offer
      match ← raise (mapErr .data (ReceiverDataPlaneLedgerV2.new offer accept)) with
      | none => abort
      | some ledger =>
        let (_, ledger) ← onEngine saveLedger ledger
        pure ledger
    else
      throw
        (.cause .receiverDestinationUnavailable "receiver data ledger needed for resume is missing")

/-- The second loop of `reconcile_resume`. -/
def reconcileBoundaries (manifest : ManifestV2) :
    List Boundary → ReceiverDataPlaneLedgerV2 → SessionProgram ReceiverDataPlaneLedgerV2
  | [], ledger => pure ledger
  | boundary :: rest, ledger => do
    let reconciled : Reconciled ← perform (SessionOp.reconcileBoundary manifest ledger boundary)
    raise (mapErr .data reconciled.outcome)
    reconcileBoundaries manifest rest reconciled.durable

/-- `LocalDestinationProviderV2::reconcile_resume` -/
def reconcileResume (manifest : ManifestV2) (ledger : ReceiverDataPlaneLedgerV2) :
    SessionProgram ReceiverDataPlaneLedgerV2 := do
  raise (mapErr .data (← perform (.reconcileReuses manifest ledger)))
  reconcileBoundaries manifest ledger.pendingPayloadBoundaries ledger

/-- The answer to a plain Offer. -/
def answerOffer (ledger : ReceiverDataPlaneLedgerV2) : SessionProgram Unit := do
  raise (reject ledger.requiresAuthenticatedResume
    (.crypto "started Manifest v2 job requires an authenticated ResumeRequest"))
  sendFrame (.accept ledger.accept)

/-- The answer to a ResumeRequest: the sender's intent, and the ledger it was answered from. -/
def answerResumeRequest (offer : ManifestOfferV2) (plan : DestinationWritePlanV2)
    (ledger : ReceiverDataPlaneLedgerV2) (request : ResumeRequestV2) :
    SessionProgram (SenderResumeIntentV2 × ReceiverDataPlaneLedgerV2) := do
  let accept := ledger.accept
  raise (mapErr .data (ledger.validateResumeRequest request))
  let intent ← raise
    (mapErr .data (senderResumeIntent offer.structuralDigest ledger.acceptBodyDigest request))
  let ledger ← match intent with
    | .continueData => do
      raise (mapErr .destination (← perform (.newProvider plan offer.manifest)))
      reconcileResume offer.manifest ledger
    | .awaitDelivery => pure ledger
  sendFrame (.resumeStatus { ledger.resumeStatus with
    challengeNonce := request.challengeNonce
    challengeMac := answerResumeChallenge (manifestIdentity offer.manifest) request.challengeNonce
      accept.proofCapability })
  pure (intent, ledger)

structure ReceiverManifestV2SessionSummary where
  dataPlane : ReceiverDataPlaneSummaryV2
  deliveryProofDigest : ContentDigestV2
  destinationPlan : DestinationWritePlanV2

/-- The delivery record, its proof, and the digest of the proof. -/
def proveDelivery (offer : ManifestOfferV2) (accept : ManifestAcceptV2)
    (dataPlane : ReceiverDataPlaneSummaryV2) (existing : Option ReceiverDeliveryRecordV2) :
    SessionProgram ContentDigestV2 := do
  let record ← match existing with
    | some record => pure record
    | none => raise (mapErr .delivery (ReceiverDeliveryRecordV2.new offer accept dataPlane))
  let (proof, _) ← onDelivery receiverSendProof record
  raise (mapErr (fun error => .protocol error.text)
    (canonicalManifestV2FrameBodyDigest (.deliveryProof proof)))

/-- The rest of a session that only awaits its delivery. -/
def awaitDelivery (offer : ManifestOfferV2) (plan : DestinationWritePlanV2)
    (accept : ManifestAcceptV2) (ledger : ReceiverDataPlaneLedgerV2)
    (existing : Option ReceiverDeliveryRecordV2) :
    SessionProgram ReceiverManifestV2SessionSummary := do
  let dataPlane ← raise (okOr ledger.completedSummary
    (.protocol "delivery record exists without a complete data ledger"))
  let deliveryProofDigest ← proveDelivery offer accept dataPlane existing
  pure { dataPlane, deliveryProofDigest, destinationPlan := plan }

/-- The rest of a session that transfers data.  A resumed one has its provider already. -/
def transferData (fuel : Nat) (offer : ManifestOfferV2) (plan : DestinationWritePlanV2)
    (accept : ManifestAcceptV2) (ledger : ReceiverDataPlaneLedgerV2)
    (existing : Option ReceiverDeliveryRecordV2) (resumed : Bool) :
    SessionProgram ReceiverManifestV2SessionSummary := do
  if ¬ resumed then
    raise (mapErr .destination (← perform (.newProvider plan offer.manifest)))
  let (dataPlane, _) ← onEngine (receive fuel offer) ledger
  raise (mapErr .destination (← perform (.savePlan plan)))
  let deliveryProofDigest ← proveDelivery offer accept dataPlane existing
  pure { dataPlane, deliveryProofDigest, destinationPlan := plan }

def receiveAfterOffer (fuel : Nat) (offer : ManifestOfferV2)
    (resumeRequest : Option ResumeRequestV2) :
    SessionProgram ReceiverManifestV2SessionSummary := do
  raise (reject (∃ request ∈ resumeRequest, request.identity ≠ manifestIdentity offer.manifest)
    (.protocol "ResumeRequest identity does not match its Offer"))
  let plan ← raise (← perform (.destinationPlan offer resumeRequest.isNone))
  let ledger ← openLedger offer plan resumeRequest.isNone
  let (intent, answered) ← match resumeRequest with
    | some request => do
      let (intent, ledger) ← answerResumeRequest offer plan ledger request
      pure (some intent, ledger)
    | none => do
      answerOffer ledger
      pure (none, ledger)
  let existing ← raise (mapErr .delivery (← perform .loadReceiver))
  if intent = some .awaitDelivery then
    awaitDelivery offer plan ledger.accept answered existing
  else
    transferData fuel offer plan ledger.accept answered existing intent.isSome

/-- A connection of the receiver from its first frame on. -/
def receiveSession (fuel : Nat) : SessionProgram ReceiverManifestV2SessionSummary := do
  let (offer, resumeRequest) ← receiveAuthenticatedOffer
  receiveAfterOffer fuel offer resumeRequest

end Receiver

/-! ## Sender -/

section Sender

variable [Blake3] [UnicodeNormalization] [Zstd]

structure SenderManifestV2SessionSummary where
  dataPlane : SenderDataPlaneSummaryV2
  deliveryProofDigest : ContentDigestV2

/-- The record of the job, as it is saved before the peer is asked for anything. -/
def openRecord (offer : ManifestOfferV2) : SessionProgram SenderDeliveryRecordV2 := do
  let record ← match ← raise (mapErr .delivery (← perform .loadSender)) with
    | some record => pure record
    | none => pure (SenderDeliveryRecordV2.new offer)
  raise (mapErr .delivery (record.validateOffer offer))
  let (_, record) ← onDelivery (SenderDeliveryStoreV2.save record) record
  pure record

/-- The data plane of a session, as far as the record's phase still needs it. -/
def sendData (fuel : Nat) (manifest? : Option ManifestV2) (record : SenderDeliveryRecordV2) :
    SessionProgram (SenderDataPlaneSummaryV2 × SenderDeliveryRecordV2) := do
  match record.phase with
  | .offering | .transferring => onEngine (send fuel manifest?) record
  | .waitingForReceiverSave | .delivered => do
    let (_, record) ← onEngine (establishSenderReconnect manifest?) record
    let summary ← raise (okOr record.completedDataSummary
      (.protocol "sender delivery phase has no durable result summary"))
    pure (summary, record)
  | .failed | .canceled => throw (.transfer "terminal failed or canceled job cannot reconnect")

/-- A connection of the sender after authentication. -/
def sendSession (fuel : Nat) (manifest? : Option ManifestV2) :
    SessionProgram SenderManifestV2SessionSummary := do
  let manifest ← raise (okOr manifest? (.invalidInput "transfer job must be sealed before dialing"))
  let offer ← raise (mapErr (fun error => .invalidInput error.text) (buildManifestOfferV2 manifest))
  let record ← openRecord offer
  let (dataPlane, record) ← sendData fuel manifest? record
  let (proof, _) ← onDelivery senderConfirmDelivery record
  let deliveryProofDigest ← raise (mapErr (fun error => .protocol error.text)
    (canonicalManifestV2FrameBodyDigest (.deliveryProof proof)))
  pure { dataPlane, deliveryProofDigest }

end Sender

/-! ## Surroundings -/

/-- The world after a call: loads and destinations leave the stores alone, but for the ledger that
a round of `reconcile_resume` has saved. -/
def afterSession (world : EngineWorld) : (op : SessionOp) → SessionReply op → EngineWorld
  | .engine op, reply => world.after op reply
  | .reconcileBoundary .., reconciled => { world with ledger := some reconciled.durable }
  | _, _ => world

theorem received_grows (world : EngineWorld) (op : SessionOp) (reply : SessionReply op) :
    world.received <+: (afterSession world op reply).received := by
  cases op with
  | engine op => exact world.received_grows op reply
  | _ => exact List.prefix_rfl

/-- A round that went through on some disk, as the provider of this manifest found it, or that
failed before it wrote.  A failed write may have replaced the file. -/
def RoundReplies (permitted : Reconciling → Boundary → Prop) (manifest : ManifestV2)
    (ledger : ReceiverDataPlaneLedgerV2) (boundary : Boundary) (reconciled : Reconciled) : Prop :=
  (∃ files provider left, provider.manifest = manifest ∧
    permitted ⟨files, provider, ledger⟩ boundary ∧
    (reconcileBoundary (fun _ => .written)
      boundary.1 boundary.2.1 boundary.2.2.1 boundary.2.2.2).Leads
      ⟨files, provider, ledger⟩ () left ∧ reconciled.durable = left.ledger) ∨
  reconciled.durable = ledger ∧ reconciled.outcome ≠ .ok ()

/-- A store returns what it holds or fails, frames are among those that may arrive, and rounds are
among those permitted. -/
def sessionReplies (arrives : ManifestV2Frame → Prop) (permitted : Reconciling → Boundary → Prop)
    (world : EngineWorld) : (op : SessionOp) → SessionReply op → Prop
  | .engine op => repliesWith arrives (fun _ => True) op
  | .loadSender => fun reply => ∀ found, reply = .ok found → found = world.sender
  | .loadLedger => fun reply => ∀ found, reply = .ok found → found = world.ledger
  | .loadReceiver => fun reply => ∀ found, reply = .ok found → found = world.receiver
  | .reconcileBoundary manifest ledger boundary => RoundReplies permitted manifest ledger boundary
  | _ => fun _ => True

/-- A bounded environment replies nothing that a free one could not. -/
theorem sessionReplies_widen {arrives : ManifestV2Frame → Prop}
    {permitted : Reconciling → Boundary → Prop} (world : EngineWorld) (op : SessionOp)
    (reply : SessionReply op) (may : sessionReplies arrives permitted world op reply) :
    sessionReplies (fun _ => True) (fun _ _ => True) world op reply := by
  cases op with
  | engine op => exact repliesWith_free op reply
  | reconcileBoundary =>
    obtain ⟨files, provider, left, serves, -, leads, same⟩ | unchanged := may
    · exact .inl ⟨files, provider, left, serves, trivial, leads, same⟩
    · exact .inr unchanged
  | _ => exact may

def sessionContract (arrives : ManifestV2Frame → Prop) (permitted : Reconciling → Boundary → Prop) :
    Contract SessionOp SessionReply EngineWorld where
  may := sessionReplies arrives permitted
  after := afterSession
  keeps _ := True

end Envoix.Session
