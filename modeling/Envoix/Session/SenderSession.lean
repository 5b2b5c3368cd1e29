import Envoix.Session.ReceiverSession
import Envoix.Transfer.SendSteps

/-! # What a sender does in a connection

The rule that every call of `sendSession` keeps to, whatever arrives, and how a connection opens
once an Accept is committed: with a resume request that repeats it.
-/

namespace Envoix.Session

open ByteCodec Fallible Process Process.Method Envoix.Protocol Envoix.Transfer FileSystem

variable [Blake3] [UnicodeNormalization]

/-- When `sendSession` may call an operation, in a connection that began after `opened` frames. -/
def SenderSessionRule (offer : ManifestOfferV2) (opened : Nat) (world : EngineWorld) :
    SessionOp → Prop
  | .engine op => SenderRule offer opened world op
  | .reconcileBoundary .. => False
  | _ => True

variable {arrives : ManifestV2Frame → Prop} {permitted : Reconciling → Boundary → Prop}
  {offer : ManifestOfferV2}
  {opened : Nat} {manifest : ManifestV2} {record : SenderDeliveryRecordV2} {world : EngineWorld}

/-- The record is durable before the peer is asked for anything. -/
theorem openRecord_obeys :
    (openRecord offer).Obeys (sessionContract arrives permitted)
    (SenderSessionRule offer world.sent.length)
      (fun record _ final => RecordHeld offer world.sent.length record final) () world := by
  -- whichever record is opened, it is checked and saved
  have kept (record : SenderDeliveryRecordV2)
      (save : SenderSave offer world record) :
      (raise (mapErr SessionError.delivery (record.validateOffer offer)) >>= fun _ =>
        onDelivery (SenderDeliveryStoreV2.save record) record >>= fun saved => pure saved.2).Obeys
        (sessionContract arrives permitted) (SenderSessionRule offer world.sent.length)
        (fun record _ final => RecordHeld offer world.sent.length record final) () world := by
    rw [obeys_bind, obeys_raise]
    intro _ valid
    rw [mapErr_eq_ok] at valid
    rw [obeys_bind]
    apply obeys_onDelivery
    exact obeys_saveSender (fun _ => ⟨save, valid⟩) fun _ => ⟨rfl, valid, Nat.le_refl _⟩
  rw [openRecord, obeys_bind]
  refine obeys_silent (fun _ _ => rfl) trivial fun reply loaded => ?_
  rw [obeys_bind, obeys_raise]
  intro found succeeded
  obtain rfl : found = world.sender := loaded found (mapErr_eq_ok.mp succeeded)
  cases stored : world.sender with
  | some record => exact kept record (.refrozen stored rfl (.inl rfl))
  | none => exact kept _ (.created stored rfl)

theorem sendData_obeys [Zstd] (built : buildManifestOfferV2 manifest = .ok offer)
    (held : RecordHeld offer opened record world) (fuel : Nat) :
    (sendData fuel (some manifest) record).Obeys (sessionContract arrives permitted)
    (SenderSessionRule offer opened)
      (fun sent _ final => RecordHeld offer opened sent.2 final) () world := by
  unfold sendData
  cases phase : record.phase with
  | offering => exact obeys_onEngine (send_obeys built (.inl phase) held fuel)
  | transferring => exact obeys_onEngine (send_obeys built (.inr phase) held fuel)
  | waitingForReceiverSave | delivered =>
    rw [obeys_bind]
    apply obeys_onEngine
    refine (establishSenderReconnect_obeys built held).mono ?_
    intro status left final ⟨same, committed⟩
    subst same
    simp only [obeys_bind, obeys_raise, obeys_pure]
    exact fun _ _ => committed.held
  | failed | canceled => exact obeys_throw.mpr trivial

/-- Every call of a connection keeps to the rule. -/
theorem sendSession_obeys [Zstd] (built : buildManifestOfferV2 manifest = .ok offer) (fuel : Nat)
    (world : EngineWorld) :
    (sendSession fuel (some manifest)).Obeys (sessionContract arrives permitted)
      (SenderSessionRule offer world.sent.length) (fun _ _ _ => True) () world := by
  simp only [sendSession, obeys_bind, obeys_raise, okOr_eq_ok, mapErr_eq_ok]
  intro _ same rebuilt again
  obtain rfl := Option.some.inj same
  obtain rfl := Except.ok.inj (built.symm.trans again)
  refine openRecord_obeys.mono ?_
  intro record _ final held
  refine (sendData_obeys built held fuel).mono ?_
  rintro ⟨summary, left⟩ _ final held
  apply obeys_onDelivery
  refine (senderConfirmDelivery_obeys held).mono fun _ _ _ _ => ?_
  exact fun _ _ => trivial

/-! ## What a call can do -/

/-- What one call of a sender can do to its store and its connection.  A block may be answered in
the same call. -/
inductive SenderMove (arrives : ManifestV2Frame → Prop) (offer : ManifestOfferV2) (opened : Nat)
    (world : EngineWorld) : EngineWorld → Prop where
  | stays : SenderMove arrives offer opened world world
  | hears {frame : ManifestV2Frame} (arrived : arrives frame) :
      SenderMove arrives offer opened world { world with received := world.received ++ [frame] }
  | sends {frame : ManifestV2Frame} (allowed : SenderSends offer opened world frame) :
      SenderMove arrives offer opened world { world with sent := world.sent ++ [frame] }
  | answered {block frame : ManifestV2Frame} (allowed : SenderSends offer opened world block)
      (arrived : arrives frame) :
      SenderMove arrives offer opened world
        { world with sent := world.sent ++ [block], received := world.received ++ [frame] }
  | saves {record : SenderDeliveryRecordV2} (saved : SenderSave offer world record)
      (valid : record.validateOffer offer = .ok ()) :
      SenderMove arrives offer opened world { world with sender := some record }

theorem SenderSessionRule.move {op : SessionOp} {reply : SessionReply op}
    (allowed : SenderSessionRule offer opened world op)
    (may : (sessionContract arrives permitted).may world op reply) :
    SenderMove arrives offer opened world
      ((sessionContract arrives permitted).after world op reply) := by
  cases op with
  | engine op =>
    cases op with
    | delivery op =>
      cases op with
      | fillEntropy => exact .stays
      | saveReceiver => exact allowed.elim
      | saveSender record =>
        show SenderMove arrives offer opened world
          (world.save reply { world with sender := some record })
        unfold EngineWorld.save
        split
        · exact .saves allowed.1 allowed.2
        · exact .stays
      | sendManifestV2Frame frame => exact .sends allowed
      | recvManifestV2Frame =>
        cases reply with
        | ok frame => exact .hears (may frame rfl)
        | error message => exact .stays
    | saveLedger => exact allowed.elim
    | sendEntryBlockOrRecvFrame block =>
      have sends : SenderSends offer opened world (.entryBlock block) := ⟨trivial, allowed⟩
      cases reply with
      | error message => exact .sends sends
      | ok found =>
        cases found with
        | none => exact .sends sends
        | some frame => exact .answered sends (may frame rfl)
    | _ => exact .stays
  | reconcileBoundary => exact allowed.elim
  | _ => exact .stays

/-! ## How a connection opens -/

section Opening

omit [Blake3] [UnicodeNormalization] in
theorem calls_onEngine {State α : Type} {method : EngineProgram State α} {state : State}
    {op : EngineOp} {here : EngineWorld}
    (calls : method.Calls (engineContract arrives (fun _ => True) fun _ => True)
      op here state world) :
    (onEngine method state).Calls (sessionContract arrives permitted)
    (.engine op) here () world := by
  obtain ⟨rest, run⟩ := calls
  apply Calls.bind
  unfold Calls
  rw [runOn_call]
  have embedded : Proc.Reaches (sessionContract arrives permitted)
    ((method.runOn state).embed SessionOp.engine) world
      (Proc.embed SessionOp.engine (.call op rest)) here := Proc.Reaches.embed run
  exact ⟨_, embedded.bind _⟩

omit [Blake3] [UnicodeNormalization] in
theorem calls_sendFrame {State : Type} {state : State} {frame : ManifestV2Frame} :
    (Transfer.sendFrame frame : EngineProgram State Unit).Calls
      (engineContract arrives (fun _ => True) fun _ => True)
      (.delivery (.sendManifestV2Frame frame)) world state world :=
  calls_perform.bind

/-- A save whose write goes through. -/
theorem save_returns {State : Type} (valid : record.validate = .ok ()) (state : State) :
    Proc.Reaches (deliveryContract arrives (fun _ => True) fun _ => True)
      ((SenderDeliveryStoreV2.save record : DeliveryProgram State Unit).runOn state) world
        (.ret (.ok (), state))
      { world with sender := some record } := by
  rw [SenderDeliveryStoreV2.save, valid]
  have written :
    (deliveryContract arrives (fun _ => True) fun _ => True).may world
      (.saveSender record) .written :=
    trivial
  exact .call written .here

/-- The request repeats the committed Accept of the record. -/
structure Requests (offer : ManifestOfferV2) (record : SenderDeliveryRecordV2)
    (request : ResumeRequestV2) : Prop where
  identity : request.identity = record.identity
  offer : request.offer = offer
  accept : record.acceptBodyDigest = some request.acceptBodyDigest

/-- The phases in which a sender asks to resume. -/
def Resumable (phase : SenderTransferPhaseV2) : Prop :=
  phase = .transferring ∨ phase = .waitingForReceiverSave ∨ phase = .delivered

theorem establishSenderReconnect_calls (built : buildManifestOfferV2 manifest = .ok offer)
    (held : record.validateOffer offer = .ok ()) (accepted : record.accept.isSome)
    (resumable : Resumable record.phase) :
    ∃ request, Requests offer record request ∧
      (establishSenderReconnect (some manifest)).Calls
        (engineContract arrives (fun _ => True) fun _ => True)
        (.delivery (.sendManifestV2Frame (.resumeRequest request))) world record world := by
  have own := SenderDeliveryRecordV2.validate_eq_ok.mp (validateOffer_eq_ok.mp held).2.2
  obtain ⟨accept, committed⟩ := Option.isSome_iff_exists.mp accepted
  obtain ⟨digest, digested⟩ := Option.isSome_iff_exists.mp (own.accept.trans accepted)
  have granted : record.proofCapability = some accept.proofCapability := by
    rw [SenderDeliveryRecordV2.proofCapability, committed]
    rfl
  -- any nonce will do
  have drawn : (engineContract arrives (fun _ => True) fun _ => True).may world .newChallengeNonce
      (some (ByteVector.zero 32)) := trivial
  obtain phase | phase | phase := resumable
  all_goals
    refine ⟨?_, ?_, ?_⟩
    case refine_3 =>
      refine Calls.after_raise rfl ?_
      refine Calls.after_raise (mapErr_eq_ok.mpr built) ?_
      apply Calls.after_get
      refine Calls.after_raise (mapErr_eq_ok.mpr held) ?_
      refine Calls.after_raise (okOr_eq_ok.mpr digested) ?_
      refine Calls.after_raise (okOr_eq_ok.mpr granted) ?_
      refine Calls.after_perform drawn ?_
      refine Calls.after_raise rfl ?_
      rw [phase]
      apply Calls.after_pure
      apply Calls.bind
      exact calls_sendFrame
    case refine_2 => exact ⟨rfl, rfl, digested⟩

omit [Blake3] [UnicodeNormalization] in
theorem returns_deliver {State α : Type} {program : DeliveryProgram State α}
    {state left : State} {value : α} {final : EngineWorld}
    (returned : Proc.Reaches (deliveryContract arrives (fun _ => True) fun _ => True)
      (program.runOn state) world
      (.ret (.ok value, left)) final) :
    Proc.Reaches (engineContract arrives (fun _ => True) fun _ => True)
      ((deliver program).runOn state) world
      (.ret (.ok value, left)) final :=
  (Proc.Reaches.embed returned).bind _

omit [Blake3] [UnicodeNormalization] in
theorem returns_onDelivery {State α : Type} {method : DeliveryProgram State α}
    {state left : State} {value : α} {final : EngineWorld}
    (returned : Proc.Reaches (deliveryContract arrives (fun _ => True) fun _ => True)
      (method.runOn state) world
      (.ret (.ok value, left)) final) :
    Proc.Reaches (sessionContract arrives permitted) ((onDelivery method state).runOn ()) world
      (.ret (.ok (value, left), ())) final := by
  have embedded : Proc.Reaches (sessionContract arrives permitted)
      ((method.runOn state).embed fun op => SessionOp.engine (.delivery op)) world
      (Proc.embed (fun op => SessionOp.engine (.delivery op)) (.ret (.ok value, left))) final :=
    Proc.Reaches.embed returned
  rw [onDelivery, runOn_bind, runOn_call]
  exact (embedded.bind _).bind _

/-- A record of the current schema needs no migration. -/
theorem send_calls [Zstd] (built : buildManifestOfferV2 manifest = .ok offer)
    (valid : record.validateOffer offer = .ok ()) (accepted : record.accept.isSome)
    (current : record.schemaVersion = senderDeliverySchemaVersion)
    (phase : record.phase = .transferring) (fuel : Nat) :
    ∃ request, Requests offer record request ∧
      (send fuel (some manifest)).Calls (engineContract arrives (fun _ => True) fun _ => True)
        (.delivery (.sendManifestV2Frame (.resumeRequest request)))
          { world with sender := some record } record
        world := by
  obtain ⟨request, requests, calls⟩ :=
    @establishSenderReconnect_calls _ _ arrives offer manifest record
    { world with sender := some record } built valid accepted (.inl phase)
  refine ⟨request, requests, ?_⟩
  have unmigrated : (prepareSenderEntryEncodings offer).runOn record = .ret (.ok (), record) := by
    have no : ¬ record.requiresEntryEncodingMigration = true := by
      simp [SenderDeliveryRecordV2.requiresEntryEncodingMigration, current,
        senderDeliverySchemaVersion, legacySenderDeliverySchemaVersion]
    rw [prepareSenderEntryEncodings, runOn_bind, runOn_get]
    simp [no]
  have prepared : Proc.Reaches (engineContract arrives (fun _ => True) fun _ => True)
      ((prepareSenderEntryEncodings offer).runOn record) world (.ret (.ok (), record)) world := by
    rw [unmigrated]
    exact .here
  have staged :
    (engineContract arrives (fun _ => True) fun _ => True).may { world with sender := some record }
      (.onStage .manifestOffer) () := trivial
  refine Calls.after_raise rfl ?_
  refine Calls.after_raise (mapErr_eq_ok.mpr built) ?_
  refine Calls.after prepared ?_
  apply Calls.after_get
  refine Calls.after_raise (mapErr_eq_ok.mpr valid) ?_
  apply Calls.after_get
  refine Calls.after (returns_deliver (save_returns (validateOffer_eq_ok.mp valid).2.2 record)) ?_
  apply Calls.bind
  refine Calls.after_perform staged ?_
  apply Calls.after_get
  rw [if_pos phase]
  exact Calls.bind calls

/-- With an Accept committed, the first frame of a connection is a resume request that repeats
it. -/
theorem sendSession_calls [Zstd] (built : buildManifestOfferV2 manifest = .ok offer)
    (stored : world.sender = some record) (valid : record.validateOffer offer = .ok ())
    (accepted : record.accept.isSome) (current : record.schemaVersion = senderDeliverySchemaVersion)
    (resumable : Resumable record.phase) (fuel : Nat) :
    ∃ request, Requests offer record request ∧
      (sendSession fuel (some manifest)).Calls (sessionContract arrives permitted)
        (.engine (.delivery (.sendManifestV2Frame (.resumeRequest request)))) world () world := by
  have loaded : (sessionContract arrives permitted).may world .loadSender (.ok (some record)) := by
    intro found same
    obtain rfl := Except.ok.inj same
    exact stored.symm
  have same : { world with sender := some record } = world := by rw [← stored]
  have written := @save_returns _ _ arrives record world _ (validateOffer_eq_ok.mp valid).2.2 record
  rw [same] at written
  have opened : Proc.Reaches (sessionContract arrives permitted) ((openRecord offer).runOn ()) world
      (.ret (.ok record, ())) world := by
    refine reaches_after (.call loaded .here) ?_
    refine reaches_after (reaches_raise rfl) ?_
    refine reaches_after .here ?_
    refine reaches_after (reaches_raise (mapErr_eq_ok.mpr valid)) ?_
    exact reaches_after (returns_onDelivery written) .here
  have data : ∃ request, Requests offer record request ∧
      (sendData fuel (some manifest) record).Calls (sessionContract arrives permitted)
        (.engine (.delivery (.sendManifestV2Frame (.resumeRequest request)))) world () world := by
    unfold sendData
    obtain phase | phase | phase := resumable
    case inl =>
      obtain ⟨request, requests, calls⟩ :=
        @send_calls _ _ arrives offer manifest record world _ built valid accepted
        current phase fuel
      rw [same] at calls
      rw [phase]
      exact ⟨request, requests, calls_onEngine calls⟩
    all_goals
      obtain ⟨request, requests, calls⟩ :=
        @establishSenderReconnect_calls _ _ arrives offer manifest record world
        built valid accepted (by rw [phase]; simp [Resumable])
      rw [phase]
      exact ⟨request, requests, Calls.bind (calls_onEngine calls)⟩
  obtain ⟨request, requests, calls⟩ := data
  refine ⟨request, requests, ?_⟩
  refine Calls.after_raise rfl ?_
  refine Calls.after_raise (mapErr_eq_ok.mpr built) ?_
  refine Calls.after opened ?_
  exact Calls.bind calls

end Opening

end Envoix.Session
