import Envoix.Foundation.CallLogic
import Envoix.Transfer.Receive
import Envoix.Transfer.Send

/-! # One party of the data plane and its surroundings

The world of a sender or a receiver: what its stores hold for the job and which frames it has
received and sent.  A contract leaves the environment free except for the frames that may arrive;
the rules below step over each effect of the data plane. -/

namespace Envoix.Transfer

open ByteCodec Fallible Process Process.Method Envoix.Protocol

/-- The durable state of one job at one party, and its frames in order. -/
structure EngineWorld where
  ledger : Option ReceiverDataPlaneLedgerV2
  receiver : Option ReceiverDeliveryRecordV2
  sender : Option SenderDeliveryRecordV2
  received : List ManifestV2Frame
  sent : List ManifestV2Frame

namespace EngineWorld

def save (world : EngineWorld) (reply : WriteReply) (replaced : EngineWorld) : EngineWorld :=
  if reply.durable then replaced else world

def afterDelivery (world : EngineWorld) : (op : DeliveryOp) → DeliveryReply op → EngineWorld
  | .fillEntropy, _ => world
  | .saveReceiver record, reply => world.save reply { world with receiver := some record }
  | .saveSender record, reply => world.save reply { world with sender := some record }
  | .sendManifestV2Frame frame, _ => { world with sent := world.sent ++ [frame] }
  | .recvManifestV2Frame, .ok frame => { world with received := world.received ++ [frame] }
  | .recvManifestV2Frame, .error _ => world

/-- A frame counts as sent when it is handed to the connection. -/
def after (world : EngineWorld) : (op : EngineOp) → EngineReply op → EngineWorld
  | .delivery op, reply => world.afterDelivery op reply
  | .saveLedger ledger, reply => world.save reply { world with ledger := some ledger }
  | .sendEntryBlockOrRecvFrame block, reply =>
    let world := { world with sent := world.sent ++ [.entryBlock block] }
    match reply with
    | .ok (some frame) => { world with received := world.received ++ [frame] }
    | _ => world
  | _, _ => world

/-- No call forgets a frame that came in. -/
theorem received_grows (world : EngineWorld) (op : EngineOp) (reply : EngineReply op) :
    world.received <+: (world.after op reply).received := by
  have saved : ∀ (write : WriteReply) (replaced : EngineWorld), replaced.received = world.received →
      world.received <+: (world.save write replaced).received := by
    intro write replaced same
    unfold EngineWorld.save
    split
    · rw [same]
    · exact List.prefix_refl _
  cases op with
  | delivery op =>
    cases op with
    | fillEntropy => exact List.prefix_refl _
    | saveReceiver record => exact saved reply _ rfl
    | saveSender record => exact saved reply _ rfl
    | sendManifestV2Frame frame => exact List.prefix_refl _
    | recvManifestV2Frame =>
      cases reply with
      | ok frame => exact List.prefix_append _ _
      | error message => exact List.prefix_refl _
  | saveLedger ledger => exact saved reply _ rfl
  | sendEntryBlockOrRecvFrame block =>
    cases reply with
    | ok found =>
      cases found with
      | some frame => exact List.prefix_append _ _
      | none => exact List.prefix_refl _
    | error message => exact List.prefix_refl _
  | _ => exact List.prefix_refl _

end EngineWorld

/-- The frames in a reply, if any, are among those that may arrive, and a reuse is chosen only for
an entry that the sink may have an object for. -/
def repliesWith (arrives : ManifestV2Frame → Prop) (reusable : ManifestEntryV2 → Prop) :
    (op : EngineOp) → EngineReply op → Prop
  | .delivery .recvManifestV2Frame => fun reply => ∀ frame, reply = .ok frame → arrives frame
  | .sendEntryBlockOrRecvFrame _ => fun reply => ∀ frame, reply = .ok (some frame) → arrives frame
  | .tryChooseReuse entry _ => fun reply => reply = .ok true → reusable entry
  | _ => fun _ => True

/-- Without bounds every reply is possible. -/
theorem repliesWith_free (op : EngineOp) (reply : EngineReply op) :
    repliesWith (fun _ => True) (fun _ => True) op reply := by
  unfold repliesWith
  split <;> simp

/-- Any environment that replies within these bounds, for worlds that satisfy `keeps`. -/
def engineContract (arrives : ManifestV2Frame → Prop) (reusable : ManifestEntryV2 → Prop)
    (keeps : EngineWorld → Prop) : Contract EngineOp EngineReply EngineWorld where
  may _ op reply := repliesWith arrives reusable op reply
  after := EngineWorld.after
  keeps := keeps

/-- The same environment as the delivery authority sees it. -/
def deliveryContract (arrives : ManifestV2Frame → Prop) (reusable : ManifestEntryV2 → Prop)
    (keeps : EngineWorld → Prop) : Contract DeliveryOp DeliveryReply EngineWorld :=
  (engineContract arrives reusable keeps).restrict EngineOp.delivery

section Rules

variable {arrives : ManifestV2Frame → Prop} {reusable : ManifestEntryV2 → Prop}
  {keeps : EngineWorld → Prop}
  {State α : Type} {state : State} {world : EngineWorld} {post : α → State → EngineWorld → Prop}
    {done : Unit → State → EngineWorld → Prop}

theorem yields_abort :
    (abort : EngineProgram State α).Yields (engineContract arrives reusable keeps)
      post state world := by
  rw [abort, yields_bind, yields_perform]
  exact fun reply => nomatch reply

theorem yields_element {elements : List α} {index : Nat}
    (holds : ∀ found, elements[index]? = some found → post found state world) :
    (element elements index : EngineProgram State α).Yields (engineContract arrives reusable keeps)
      post state world := by
  unfold element
  cases found : elements[index]? with
  | none => exact yields_abort
  | some value => exact yields_pure.mpr (holds value found)

theorem yields_recvFrame {post : ManifestV2Frame → State → EngineWorld → Prop} (kept : keeps world)
    (holds : ∀ frame, arrives frame → keeps { world with received := world.received ++ [frame] } ∧
      post frame state { world with received := world.received ++ [frame] }) :
    (recvFrame : EngineProgram State ManifestV2Frame).Yields (engineContract arrives reusable keeps)
      post state world := by
  rw [recvFrame, yields_bind, yields_perform]
  intro reply allowed
  cases reply with
  | error message => exact ⟨kept, fun value failed => nomatch failed⟩
  | ok frame =>
    obtain ⟨keptAfter, after⟩ := holds frame (allowed frame rfl)
    exact ⟨keptAfter, fun value same => Except.ok.inj same ▸ after⟩

theorem yields_sendFrame {frame : ManifestV2Frame}
    (holds : keeps { world with sent := world.sent ++ [frame] } ∧
      done () state { world with sent := world.sent ++ [frame] }) :
    (sendFrame frame : EngineProgram State Unit).Yields (engineContract arrives reusable keeps)
      done state world := by
  rw [sendFrame, yields_bind, yields_perform]
  exact fun reply allowed => ⟨holds.1, fun value same => holds.2⟩

/-- Calls that touch neither a store nor the connection. -/
def EngineOp.Silent (op : EngineOp) : Prop :=
  ∀ (world : EngineWorld) (reply : EngineReply op), world.after op reply = world

theorem yields_attempt {op : EngineOp} {same : EngineReply op = Except ManifestV2DataError α}
    (silent : op.Silent) (kept : keeps world) (holds : ∀ value, post value state world) :
    (attempt op same : EngineProgram State α).Yields (engineContract arrives reusable keeps)
      post state world := by
  rw [attempt, yields_bind, yields_perform]
  intro reply allowed
  show keeps (world.after op reply) ∧ ∀ value, _ → post value state (world.after op reply)
  rw [silent world reply]
  exact ⟨kept, fun value _ => holds value⟩

theorem yields_tryChooseReuse {entry : ManifestEntryV2} {digest : ContentDigestV2}
    {post : Bool → State → EngineWorld → Prop} (kept : keeps world)
    (holds : ∀ chosen, (chosen = true → reusable entry) → post chosen state world) :
    (attempt (.tryChooseReuse entry digest) rfl : EngineProgram State Bool).Yields
      (engineContract arrives reusable keeps) post state world := by
  rw [attempt, yields_bind, yields_perform]
  intro reply allowed
  refine ⟨kept, fun chosen same => holds chosen fun isTrue => ?_⟩
  rw [isTrue] at same
  exact allowed same

theorem yields_onProgress {completed total : UInt64} (kept : keeps world)
    (holds : done () state world) :
    (onProgress completed total : EngineProgram State Unit).Yields
      (engineContract arrives reusable keeps) done state world :=
  (@yields_perform _ _ _ (engineContract arrives reusable keeps) _ _ state world
      (EngineOp.onProgress completed total) done).mpr fun _ _ =>
    ⟨kept, holds⟩

theorem yields_onPhase {phase : ManifestV2ProgressPhase} (kept : keeps world)
    (holds : done () state world) :
    (onPhase phase : EngineProgram State Unit).Yields (engineContract arrives reusable keeps)
      done state world :=
  (@yields_perform _ _ _ (engineContract arrives reusable keeps) _ _ state world
      (EngineOp.onPhase phase) done).mpr fun _ _ =>
    ⟨kept, holds⟩

theorem yields_onStage {stage : TransferStage} (kept : keeps world) (holds : done () state world) :
    (onStage stage : EngineProgram State Unit).Yields (engineContract arrives reusable keeps)
      done state world :=
  (@yields_perform _ _ _ (engineContract arrives reusable keeps) _ _ state world
      (EngineOp.onStage stage) done).mpr fun _ _ =>
    ⟨kept, holds⟩

theorem yields_advance {completed bytes total : UInt64} {post : UInt64 → State → EngineWorld → Prop}
    (kept : keeps world) (holds : ∀ completed, post completed state world) :
    (advance completed bytes total : EngineProgram State UInt64).Yields
      (engineContract arrives reusable keeps) post state
      world := by
  rw [advance, yields_bind, yields_raise]
  intro completed _
  rw [yields_bind]
  exact yields_onProgress kept (yields_pure.mpr (holds completed))

theorem yields_deliver {program : DeliveryProgram State α} :
    (deliver program).Yields (engineContract arrives reusable keeps) post state world ↔
      program.Yields (deliveryContract arrives reusable keeps) post state world :=
  yields_embed

section Stores

variable [Blake3] [UnicodeNormalization]

/-- A valid record is saved, or the method fails with either record in the store. -/
theorem yields_saveSender {record : SenderDeliveryRecordV2} (kept : keeps world)
    (holds : record.validate = .ok () → keeps { world with sender := some record } ∧
      done () state { world with sender := some record }) :
    (deliver (SenderDeliveryStoreV2.save record) : EngineProgram State Unit).Yields
      (engineContract arrives reusable keeps) done state world := by
  rw [yields_deliver, SenderDeliveryStoreV2.save, yields_bind, yields_raise]
  intro _ valid
  rw [yields_bind, yields_perform]
  intro reply _
  obtain ⟨keptAfter, after⟩ := holds valid
  cases reply with
  | written => exact ⟨keptAfter, fun _ _ => after⟩
  | failed replaced message =>
    refine ⟨?_, fun _ failed => nomatch failed⟩
    cases replaced with
    | true => exact keptAfter
    | false => exact kept

end Stores

end Rules

section Receiver

variable {arrives : ManifestV2Frame → Prop} {reusable : ManifestEntryV2 → Prop}
  {keeps : EngineWorld → Prop}
  {ledger : ReceiverDataPlaneLedgerV2} {world : EngineWorld}
    {done : Unit → ReceiverDataPlaneLedgerV2 → EngineWorld → Prop}

theorem yields_saveLedger (kept : keeps world)
    (holds : keeps { world with ledger := some ledger } ∧
      done () ledger { world with ledger := some ledger }) :
    saveLedger.Yields (engineContract arrives reusable keeps) done ledger world := by
  rw [saveLedger, yields_bind, yields_get, yields_bind, yields_perform]
  intro reply allowed
  cases reply with
  | written => exact ⟨holds.1, fun _ _ => holds.2⟩
  | failed replaced message =>
    refine ⟨?_, fun _ failed => nomatch failed⟩
    cases replaced with
    | true => exact holds.1
    | false => exact kept

theorem yields_checkpointAt {index : Nat}
    {post : ReceiverEntryCheckpointV2 → ReceiverDataPlaneLedgerV2 → EngineWorld → Prop}
    (holds : ∀ checkpoint, ledger.entries[index]? = some checkpoint →
      post checkpoint ledger world) :
    (checkpointAt index).Yields (engineContract arrives reusable keeps) post ledger world := by
  rw [checkpointAt, yields_bind, yields_get]
  exact yields_element holds

theorem yields_updateCheckpoint {index : Nat}
    {change : ReceiverEntryCheckpointV2 → ReceiverEntryCheckpointV2}
    (holds : done () (ledger.update index change) world) :
    (updateCheckpoint index change).Yields (engineContract arrives reusable keeps)
      done ledger world :=
  yields_modify.mpr holds

end Receiver

section Sender

variable {arrives : ManifestV2Frame → Prop} {reusable : ManifestEntryV2 → Prop}
  {keeps : EngineWorld → Prop}
  {State α : Type} {state : State} {record : SenderDeliveryRecordV2} {world : EngineWorld}

theorem yields_onRecord {method : SenderMethod α}
    {post : α → SenderDeliveryRecordV2 → EngineWorld → Prop}
    (holds : ∀ value left, method.Leads record value left → post value left world) :
    (onRecord method).Yields (engineContract arrives reusable keeps) post record world := by
  rw [onRecord, yields_bind, yields_get]
  cases ran : method.runOn record with
  | mk result left =>
    simp only [yields_bind, yields_set, yields_raise, mapErr_eq_ok]
    intro value succeeded
    subst succeeded
    exact holds value left ran

/-- The legacy probe reads from the source and leaves everything else alone. -/
theorem legacyEntryEncoding_yields [Zstd] (kept : keeps world) (entry : ManifestEntryV2)
    (policy : CompressionPolicyV2) :
    (legacyEntryEncoding entry policy : EngineProgram State EntryEncodingV2).Yields
      (engineContract arrives reusable keeps)
        (fun _ left final => left = state ∧ final = world ∧ True) state world := by
  unfold legacyEntryEncoding
  split
  case isTrue _ => exact yields_pure.mpr ⟨rfl, rfl, trivial⟩
  case isFalse _ =>
    cases policy with
    | never => exact yields_pure.mpr ⟨rfl, rfl, trivial⟩
    | always => exact yields_pure.mpr ⟨rfl, rfl, trivial⟩
    | smart =>
      rw [yields_bind]
      refine yields_attempt (fun _ _ => rfl) kept fun _ => ?_
      rw [yields_bind]
      refine yields_attempt (fun _ _ => rfl) kept fun _ => ?_
      rw [yields_bind]
      refine yields_attempt (fun _ _ => rfl) kept fun sample => ?_
      split
      case isTrue _ => exact yields_pure.mpr ⟨rfl, rfl, trivial⟩
      case isFalse _ =>
        simp only [yields_bind, yields_raise, yields_pure]
        exact fun _ _ => ⟨trivial, trivial, trivial⟩

/-- The records differ in their frozen encodings only. -/
def SenderDeliveryRecordV2.Refrozen (record left : SenderDeliveryRecordV2) : Prop :=
  left = { record with schemaVersion := left.schemaVersion, entryEncodings := left.entryEncodings }

variable [Blake3] [UnicodeNormalization]

theorem freezeEntryEncodings_leads {offer : ManifestOfferV2} {encodings : List EntryEncodingV2}
    {done : Unit} {left : SenderDeliveryRecordV2}
    (leads : (SenderDeliveryRecordV2.freezeEntryEncodings offer encodings).Leads record done left) :
    record.Refrozen left := by
  simp only [SenderDeliveryRecordV2.freezeEntryEncodings, leads_bind, leads_get, leads_raise,
    leads_modify] at leads
  obtain ⟨_, _, ⟨rfl, rfl⟩, _, _, ⟨_, rfl⟩, _, _, ⟨rfl, rfl⟩, _, _, ⟨_, rfl⟩, _, _, ⟨_, rfl⟩, _,
    _, rfl, _, _, ⟨rfl, rfl⟩, _, rfl⟩ := leads
  rfl

theorem prepareSenderEntryEncodings_yields [Zstd] (kept : keeps world) (offer : ManifestOfferV2) :
    (prepareSenderEntryEncodings offer).Yields (engineContract arrives reusable keeps)
      (fun _ left final => final = world ∧ record.Refrozen left) record world := by
  rw [prepareSenderEntryEncodings, yields_bind, yields_get]
  split
  case isTrue _ => exact yields_pure.mpr ⟨rfl, rfl⟩
  case isFalse _ =>
    cases record.phase with
    | offering => exact yields_onRecord fun _ left leads => ⟨rfl, freezeEntryEncodings_leads leads⟩
    | transferring =>
      rw [yields_bind]
      refine (yields_mapM fun entry _ => legacyEntryEncoding_yields kept entry _).mono ?_
      intro encodings _ _ ⟨sameRecord, sameWorld, _⟩
      subst sameRecord sameWorld
      exact yields_onRecord fun _ left leads => ⟨rfl, freezeEntryEncodings_leads leads⟩
    | waitingForReceiverSave => exact yields_pure.mpr ⟨rfl, rfl⟩
    | delivered => exact yields_pure.mpr ⟨rfl, rfl⟩
    | failed => exact yields_pure.mpr ⟨rfl, rfl⟩
    | canceled => exact yields_pure.mpr ⟨rfl, rfl⟩

end Sender

/-! ## Calls under a rule -/

section Calls

variable {arrives : ManifestV2Frame → Prop} {reusable : ManifestEntryV2 → Prop}
  {keeps : EngineWorld → Prop}
  {rule : EngineWorld → EngineOp → Prop} {State α : Type} {state : State} {world : EngineWorld}
  {post : α → State → EngineWorld → Prop} {done : Unit → State → EngineWorld → Prop}

theorem obeys_abort (allowed : rule world .abort) :
    (abort : EngineProgram State α).Obeys (engineContract arrives reusable keeps)
      rule post state world := by
  rw [abort, obeys_bind, obeys_perform]
  exact ⟨allowed, fun reply => nomatch reply⟩

theorem obeys_element (allowed : rule world .abort) {elements : List α} {index : Nat}
    (holds : ∀ found, elements[index]? = some found → post found state world) :
    (element elements index : EngineProgram State α).Obeys (engineContract arrives reusable keeps)
      rule post state
      world := by
  unfold element
  cases found : elements[index]? with
  | none => exact obeys_abort allowed
  | some value => exact holds value found

theorem obeys_recvFrame {post : ManifestV2Frame → State → EngineWorld → Prop}
    (allowed : rule world (.delivery .recvManifestV2Frame))
    (holds : ∀ frame, arrives frame →
      post frame state { world with received := world.received ++ [frame] }) :
    (recvFrame : EngineProgram State ManifestV2Frame).Obeys (engineContract arrives reusable keeps)
      rule post state
      world := by
  rw [recvFrame, obeys_bind, obeys_perform]
  refine ⟨allowed, fun reply arrived => ?_⟩
  cases reply with
  | error message => trivial
  | ok frame => exact holds frame (arrived frame rfl)

theorem obeys_sendFrame {frame : ManifestV2Frame}
    (allowed : rule world (.delivery (.sendManifestV2Frame frame)))
    (holds : done () state { world with sent := world.sent ++ [frame] }) :
    (sendFrame frame : EngineProgram State Unit).Obeys (engineContract arrives reusable keeps)
      rule done state
      world := by
  rw [sendFrame, obeys_bind, obeys_perform]
  refine ⟨allowed, fun reply _ => ?_⟩
  rw [obeys_raise]
  exact fun _ _ => holds

theorem obeys_attempt {op : EngineOp} {same : EngineReply op = Except ManifestV2DataError α}
    (silent : op.Silent) (allowed : rule world op) (holds : ∀ value, post value state world) :
    (attempt op same : EngineProgram State α).Obeys (engineContract arrives reusable keeps)
      rule post state world := by
  rw [attempt, obeys_bind, obeys_perform]
  refine ⟨allowed, fun reply _ => ?_⟩
  show (raise _ : EngineProgram State α).Obeys _ rule post state (world.after op reply)
  rw [silent world reply, obeys_raise]
  exact fun value _ => holds value

theorem obeys_silent {op : EngineOp} {post : EngineReply op → State → EngineWorld → Prop}
    (silent : op.Silent) (allowed : rule world op) (holds : ∀ reply, post reply state world) :
    (perform op : EngineProgram State (EngineReply op)).Obeys
      (engineContract arrives reusable keeps) rule post state
      world := by
  rw [obeys_perform]
  refine ⟨allowed, fun reply _ => ?_⟩
  show post reply state (world.after op reply)
  rw [silent world reply]
  exact holds reply

theorem obeys_advance {completed bytes total : UInt64} {post : UInt64 → State → EngineWorld → Prop}
    (allowed : ∀ completed, rule world (.onProgress completed total))
      (holds : ∀ completed, post completed state world) :
    (advance completed bytes total : EngineProgram State UInt64).Obeys
      (engineContract arrives reusable keeps) rule post
      state world := by
  rw [advance, obeys_bind, obeys_raise]
  intro completed _
  rw [obeys_bind]
  exact obeys_silent (fun _ _ => rfl) (allowed completed) fun _ => holds completed

end Calls

section ReceiverCalls

variable {arrives : ManifestV2Frame → Prop} {reusable : ManifestEntryV2 → Prop}
  {keeps : EngineWorld → Prop}
  {rule : EngineWorld → EngineOp → Prop} {ledger : ReceiverDataPlaneLedgerV2} {world : EngineWorld}
  {done : Unit → ReceiverDataPlaneLedgerV2 → EngineWorld → Prop}

theorem obeys_saveLedger (allowed : rule world (.saveLedger ledger))
    (holds : done () ledger { world with ledger := some ledger }) :
    saveLedger.Obeys (engineContract arrives reusable keeps) rule done ledger world := by
  rw [saveLedger, obeys_bind, obeys_get, obeys_bind, obeys_perform]
  refine ⟨allowed, fun reply _ => ?_⟩
  rw [obeys_raise]
  cases reply with
  | written => exact fun _ _ => holds
  | failed replaced message => exact fun _ failed => nomatch failed

theorem obeys_checkpointAt {index : Nat} (allowed : rule world .abort)
    {post : ReceiverEntryCheckpointV2 → ReceiverDataPlaneLedgerV2 → EngineWorld → Prop}
    (holds : ∀ checkpoint, ledger.entries[index]? = some checkpoint →
      post checkpoint ledger world) :
    (checkpointAt index).Obeys (engineContract arrives reusable keeps) rule post ledger world := by
  rw [checkpointAt, obeys_bind, obeys_get]
  exact obeys_element allowed holds

end ReceiverCalls

end Envoix.Transfer
