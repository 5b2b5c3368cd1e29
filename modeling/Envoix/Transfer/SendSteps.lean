import Envoix.Transfer.EngineWorld
import Envoix.Transfer.SenderRecord

/-! # What a sender does with its record and its connection

The rule that every call of `send`, `establish_sender_reconnect` and `sender_confirm_delivery`
keeps to: a save is one step of the durable record, and frames of the data plane are sent under a
committed Accept only.  The functions between the opening and the results touch no store, so they
are passed over once, by the frames they may send.
-/

namespace Envoix.Transfer

open ByteCodec Fallible Process Process.Method Envoix.Protocol

/-- The frames by which a sender transfers data. -/
def CarriesData : ManifestV2Frame → Prop
  | .entryStart _ => True
  | .entryContentDigest _ => True
  | .entryBlock _ => True
  | .entryComplete _ => True
  | .jobComplete _ => True
  | _ => False

/-! ## The data plane of the sender -/

/-- When a function that only transfers data may call an operation. -/
def DataRule : EngineOp → Prop
  | .delivery (.sendManifestV2Frame frame) => CarriesData frame
  | .delivery (.saveReceiver _) => False
  | .delivery (.saveSender _) => False
  | .saveLedger _ => False
  | _ => True

section Transmission

variable {State α β : Type} {arrives : ManifestV2Frame → Prop}

/-- The method transfers data and leaves its record alone. -/
def Transmits (arrives : ManifestV2Frame → Prop) (method : EngineProgram State α) : Prop :=
  ∀ state world, method.Obeys (engineContract arrives (fun _ => True) fun _ => True)
    (fun _ => DataRule)
    (fun _ left _ => left = state) state world

theorem transmits_pure (value : α) : Transmits arrives (pure value : EngineProgram State α) :=
  fun _ _ => obeys_pure.mpr rfl

theorem transmits_throw (error : ManifestV2DataError) :
    Transmits arrives (throw error : EngineProgram State α) :=
  fun _ _ => obeys_throw.mpr trivial

theorem transmits_throw_bind {error : ManifestV2DataError} {next : α → EngineProgram State β} :
    Transmits arrives (throw error >>= next) :=
  fun _ _ => obeys_bind.mpr (obeys_throw.mpr trivial)

theorem transmits_raise (result : Except ManifestV2DataError α) :
    Transmits arrives (raise result : EngineProgram State α) :=
  fun _ _ => obeys_raise.mpr fun _ _ => rfl

theorem transmits_get : Transmits arrives (get : EngineProgram State State) :=
  fun _ _ => obeys_get.mpr rfl

theorem Transmits.bind {first : EngineProgram State α} {next : α → EngineProgram State β}
    (one : Transmits arrives first) (rest : ∀ value, Transmits arrives (next value)) :
    Transmits arrives (first >>= next) := by
  intro state world
  rw [obeys_bind]
  refine (one state world).mono ?_
  intro value left final same
  subst same
  exact rest value left final

theorem transmits_perform {op : EngineOp} (allowed : DataRule op) :
    Transmits arrives (perform op : EngineProgram State (EngineReply op)) :=
  fun _ _ => obeys_perform.mpr ⟨allowed, fun _ _ => rfl⟩

theorem transmits_attempt {op : EngineOp} {same : EngineReply op = Except ManifestV2DataError α}
    (allowed : DataRule op) : Transmits arrives (attempt op same : EngineProgram State α) :=
  (transmits_perform allowed).bind fun _ => transmits_raise _

theorem transmits_sendFrame {frame : ManifestV2Frame} (carries : CarriesData frame) :
    Transmits arrives (sendFrame frame : EngineProgram State Unit) :=
  (@transmits_perform _ _ (.delivery (.sendManifestV2Frame frame)) carries).bind fun _ =>
    transmits_raise _

theorem transmits_recvFrame : Transmits arrives (recvFrame : EngineProgram State ManifestV2Frame) :=
  (@transmits_perform _ _ (.delivery .recvManifestV2Frame) trivial).bind fun _ => transmits_raise _

theorem transmits_abort : Transmits arrives (abort : EngineProgram State α) :=
  (@transmits_perform _ _ .abort trivial).bind fun reply => nomatch reply

theorem transmits_element (elements : List α) (index : Nat) :
    Transmits arrives (element elements index : EngineProgram State α) := by
  unfold element
  cases elements[index]? with
  | none => exact transmits_abort
  | some found => exact transmits_pure found

theorem transmits_advance (completed bytes total : UInt64) :
    Transmits arrives (advance completed bytes total : EngineProgram State UInt64) :=
  (transmits_raise _).bind fun _ => (transmits_perform (by trivial)).bind fun _ => transmits_pure _

variable {identity : JobGenerationV2} {entry : ManifestEntryV2} {plan : EntryPlanV2}
  {encoding : EntryEncodingV2}

theorem transmits_sendLateDigest (entryId : UInt32) (digest : ContentDigestV2) :
    Transmits arrives
      (sendLateDigestAndReceiveStatus identity entryId digest : EngineProgram State Bool) := by
  apply (transmits_sendFrame (by trivial)).bind
  intro _
  apply transmits_recvFrame.bind
  intro frame
  cases frame with
  | entryContentDigest response =>
    exact (transmits_pure _).bind fun _ => (transmits_raise _).bind fun _ => transmits_pure _
  | _ => exact transmits_throw_bind

theorem transmits_recvEntryResult (entryId : UInt32) :
    Transmits arrives (recvEntryResult identity entryId : EngineProgram State EntryResultV2) := by
  apply transmits_recvFrame.bind
  intro frame
  cases frame with
  | entryResult result => exact (transmits_raise _).bind fun _ => transmits_pure _
  | _ => exact transmits_throw _

theorem transmits_sendDirectory [Blake3] :
    Transmits arrives (sendDirectory identity entry : EngineProgram State EntryCompleteV2) := by
  apply (transmits_sendFrame (by trivial)).bind
  intro _
  apply (transmits_sendFrame (by trivial)).bind
  exact fun _ => transmits_pure _

theorem transmits_awaitHashTask (entryId : UInt32) (pending : Bool) :
    Transmits arrives (awaitHashTask entryId pending : EngineProgram State ContentDigestV2) :=
  (transmits_raise _).bind fun _ => transmits_attempt (by trivial)

theorem transmits_transmitBlock [Zstd] (total length : UInt64) (file : SendFileState)
    (bytes : Bytes) :
    Transmits arrives (transmitBlock identity entry encoding total file length bytes :
      EngineProgram State UInt64) := by
  apply (transmits_raise _).bind
  intro encoded
  apply (transmits_perform (by trivial)).bind
  intro reply
  apply (transmits_raise _).bind
  intro response
  cases response with
  | some frame => exact transmits_throw _
  | none => exact (transmits_perform (by trivial)).bind fun _ => transmits_advance _ _ _

theorem transmits_sendBlock [Zstd] (total : UInt64) (file : SendFileState) :
    Transmits arrives
      (sendBlock identity entry plan encoding total file : EngineProgram State SendFileState) := by
  apply (transmits_perform (by trivial)).bind
  intro reply
  apply (transmits_raise _).bind
  intro bytes
  have counted (completed : UInt64) : Transmits arrives
      (raise (okOr (checkedAdd64 file.blockIndex 1) ManifestV2DataError.arithmeticOverflow) >>=
          fun blockIndex =>
        raise (okOr (checkedAdd64 file.plaintextOffset
          (min (entry.plaintextSize - file.plaintextOffset) defaultBlockBytes))
            .arithmeticOverflow) >>=
          fun plaintextOffset =>
        pure { file with
          blockIndex, plaintextOffset, payload := file.payload ++ bytes, completed } :
        EngineProgram State SendFileState) :=
    (transmits_raise _).bind fun _ => (transmits_raise _).bind fun _ => transmits_pure _
  show Transmits arrives (ite _ _ _)
  split
  case isTrue _ => exact (transmits_transmitBlock _ _ _ _).bind counted
  case isFalse _ => exact (transmits_pure _).bind counted

theorem transmits_proposeLateDigest (file : SendFileState) :
    Transmits arrives
      (proposeLateDigest identity entry file : EngineProgram State SendFileState) := by
  apply (transmits_awaitHashTask _ _).bind
  intro digest
  apply (transmits_sendLateDigest _ _).bind
  exact fun _ => transmits_pure _

theorem transmits_lateDigestReady (file : SendFileState) :
    Transmits arrives (lateDigestReady entry file : EngineProgram State Bool) := by
  unfold lateDigestReady
  split
  · exact transmits_perform (by trivial)
  · exact transmits_pure _

theorem transmits_sendFileLoop [Zstd] (total : UInt64) (fuel : Nat) (file : SendFileState) :
    Transmits arrives (sendFileLoop identity entry plan encoding total fuel file :
      EngineProgram State SendFileState) := by
  induction fuel generalizing file with
  | zero => exact transmits_abort
  | succ fuel ih =>
    rw [sendFileLoop]
    split
    case isTrue _ => exact transmits_pure _
    case isFalse _ =>
      apply (transmits_lateDigestReady file).bind
      intro ready
      cases ready with
      | false => exact (transmits_sendBlock total file).bind ih
      | true =>
        apply (transmits_proposeLateDigest file).bind
        intro proposed
        show Transmits arrives (ite _ _ _)
        split
        case isTrue _ => exact transmits_pure _
        case isFalse _ => exact (transmits_sendBlock total proposed).bind ih

theorem transmits_finishPayload [Blake3] (file : SendFileState) :
    Transmits arrives
      (finishPayload identity entry file : EngineProgram State (ContentDigestV2 × Bool)) := by
  apply (transmits_attempt (by trivial)).bind
  intro _
  cases committedDigest entry with
  | some expected => exact (transmits_raise _).bind fun _ => transmits_pure _
  | none =>
    -- a digest that was not proposed before is proposed now
    have proposed (digest : ContentDigestV2) : Transmits arrives
        (raise (reject (digest ≠ ⟨Blake3.hash file.payload⟩) ManifestV2DataError.finalMismatch) >>=
            fun _ =>
          (if file.lateDigest = none then
            sendLateDigestAndReceiveStatus identity entry.entryId digest
            else pure file.reuseChosen) >>= fun reuseChosen =>
          pure (digest, reuseChosen) : EngineProgram State (ContentDigestV2 × Bool)) := by
      apply (transmits_raise _).bind
      intro _
      split
      case isTrue _ => exact (transmits_sendLateDigest _ _).bind fun _ => transmits_pure _
      case isFalse _ => exact (transmits_pure _).bind fun _ => transmits_pure _
    cases late : file.lateDigest with
    | some digest =>
      rw [late] at proposed
      exact (transmits_pure _).bind proposed
    | none =>
      rw [late] at proposed
      exact (transmits_awaitHashTask _ _).bind proposed

theorem transmits_finishFile [Blake3] (total resumedEntryBytes : UInt64) (file : SendFileState) :
    Transmits arrives (finishFile identity entry plan total resumedEntryBytes file :
      EngineProgram State (ContentDigestV2 × Bool × UInt64)) := by
  unfold finishFile
  split
  case isTrue _ =>
    apply (transmits_attempt (by trivial)).bind
    intro _
    apply (transmits_advance _ _ _).bind
    exact fun _ => (transmits_raise _).bind fun _ => transmits_pure _
  case isFalse _ => exact (transmits_finishPayload file).bind fun _ => transmits_pure _

theorem transmits_sendReusedFile (total resumedEntryBytes completed : UInt64) :
    Transmits arrives (sendReusedFile identity entry total resumedEntryBytes completed :
      EngineProgram State (EntryCompleteV2 × UInt64)) := by
  apply (transmits_raise _).bind
  intro digest
  apply (transmits_attempt (by trivial)).bind
  intro _
  apply (transmits_sendFrame (by trivial)).bind
  exact fun _ => (transmits_advance _ _ _).bind fun _ => transmits_pure _

theorem transmits_sendFile [Blake3] [Zstd] (fuel : Nat)
    (total resumedEntryBytes completed : UInt64) :
    Transmits arrives
      (sendFile fuel identity entry plan encoding total resumedEntryBytes completed :
      EngineProgram State (EntryCompleteV2 × UInt64)) := by
  apply (transmits_sendFrame (by trivial)).bind
  intro _
  show Transmits arrives (ite _ _ _)
  split
  case isTrue _ => exact transmits_sendReusedFile _ _ _
  case isFalse _ =>
    apply (transmits_attempt (by trivial)).bind
    intro _
    apply (transmits_sendFileLoop total fuel _).bind
    intro file
    apply (transmits_finishFile total resumedEntryBytes file).bind
    rintro ⟨digest, reuseChosen, completed⟩
    exact (transmits_sendFrame (by trivial)).bind fun _ => transmits_pure _

end Transmission

section Entries

variable {arrives : ManifestV2Frame → Prop} [Blake3] [Zstd] {accept : ManifestAcceptV2}

theorem transmits_transmitEntry (fuel : Nat) (checkpoint : Option ResumeEntryV2) (total : UInt64)
    (entry : ManifestEntryV2) (completed : UInt64) :
    Transmits arrives (transmitEntry fuel accept checkpoint total entry completed) := by
  apply (transmits_element _ _).bind
  intro plan
  show Transmits arrives (ite _ _ _)
  split
  case isTrue _ => exact transmits_sendDirectory.bind fun _ => transmits_pure _
  case isFalse _ =>
    apply transmits_get.bind
    intro record
    apply (transmits_raise _).bind
    intro encoding
    apply (transmits_attempt (by trivial)).bind
    intro _
    apply (transmits_raise _).bind
    exact fun _ => transmits_sendFile fuel _ _ _

theorem transmits_sendEntry (fuel : Nat) (resume : Option ResumeStatusV2) (total : UInt64)
    (entry : ManifestEntryV2) (completed : UInt64) :
    Transmits arrives (sendEntry fuel accept resume total entry completed) := by
  have looked : Transmits arrives (resumeCheckpoint resume entry) := by
    cases resume with
    | none => exact transmits_pure _
    | some status => exact (transmits_element _ _).bind fun _ => transmits_pure _
  apply looked.bind
  intro checkpoint
  cases checkpoint.bind (resumedCompletion accept.identity entry) with
  | some rebuilt => exact (transmits_raise _).bind fun _ => transmits_pure _
  | none => exact transmits_transmitEntry fuel checkpoint total entry completed

theorem transmits_sendEntries [UnicodeNormalization] (fuel : Nat) (resume : Option ResumeStatusV2)
    (total : UInt64) (entries : List ManifestEntryV2) (hasher : Bytes) (completed : UInt64) :
    Transmits arrives (sendEntries fuel accept resume total entries hasher completed) := by
  induction entries generalizing hasher completed with
  | nil => exact transmits_pure _
  | cons entry entries ih =>
    apply (transmits_sendEntry fuel resume total entry completed).bind
    intro (completion, completed)
    apply (transmits_raise _).bind
    intro fed
    exact (ih fed completed).bind fun _ => transmits_pure _

omit [Blake3] [Zstd] in
theorem transmits_recvEntryResults (identity : JobGenerationV2)
    (pairs : List (ManifestEntryV2 × EntryCompleteV2)) :
    Transmits arrives (recvEntryResults identity pairs) := by
  induction pairs with
  | nil => exact transmits_pure _
  | cons pair pairs ih =>
    apply (transmits_recvEntryResult _).bind
    intro result
    apply (transmits_raise _).bind
    exact fun _ => ih.bind fun _ => transmits_pure _

end Entries

/-! ## The rule -/

section Rule

variable [Blake3] [UnicodeNormalization]

/-- What one save of a sender may do to its durable record, after the frames that came in. -/
inductive SenderSave (offer : ManifestOfferV2) (world : EngineWorld)
    (record : SenderDeliveryRecordV2) : Prop where
  | created (absent : world.sender = none) (new : record = .new offer) :
      SenderSave offer world record
  | refrozen {old : SenderDeliveryRecordV2} (stored : world.sender = some old)
      (frozen : old.Refrozen record)
      (current : record = old ∨ record.schemaVersion = senderDeliverySchemaVersion) :
      SenderSave offer world record
  | accepted {old : SenderDeliveryRecordV2} {accept : ManifestAcceptV2} {digest : ContentDigestV2}
      (stored : world.sender = some old) (opening : old.accept = none)
      (arrived : .accept accept ∈ world.received)
      (digested : canonicalManifestV2FrameBodyDigest (.accept accept) = .ok digest)
      (same : record = old.underAccept accept digest) : SenderSave offer world record
  | results {old : SenderDeliveryRecordV2} {summary : SenderDataPlaneSummaryV2}
      (stored : world.sender = some old) (same : record = old.withResults summary) :
      SenderSave offer world record
  | delivered {old : SenderDeliveryRecordV2} {proof : DeliveryProofV2}
      (stored : world.sender = some old) (waiting : old.phase = .waitingForReceiverSave)
      (arrived : .deliveryProof proof ∈ world.received) (same : record = old.deliveredBy proof) :
      SenderSave offer world record

/-- An Accept is durably committed, and the connection has sent a frame beyond the first
`opened`. -/
def Underpinned (opened : Nat) (world : EngineWorld) : Prop :=
  opened < world.sent.length ∧ ∃ record, world.sender = some record ∧ record.accept.isSome

/-- The frames a sender may send from what its store holds. -/
def SenderSends (offer : ManifestOfferV2) (opened : Nat) (world : EngineWorld) :
    ManifestV2Frame → Prop
  | .offer sent => sent = offer ∧ ∃ record, world.sender = some record ∧ record.accept = none
  | .resumeRequest request => request.offer = offer ∧ ∃ record, world.sender = some record ∧
      request.identity = record.identity ∧ record.acceptBodyDigest = some request.acceptBodyDigest
  | frame => CarriesData frame ∧ Underpinned opened world

/-- When a sender of `offer` may call an operation, in a connection that began after `opened`
frames. -/
def SenderRule (offer : ManifestOfferV2) (opened : Nat) (world : EngineWorld) : EngineOp → Prop
  | .delivery (.saveSender record) =>
    SenderSave offer world record ∧ record.validateOffer offer = .ok ()
  | .delivery (.saveReceiver _) => False
  | .saveLedger _ => False
  | .delivery (.sendManifestV2Frame frame) => SenderSends offer opened world frame
  | .sendEntryBlockOrRecvFrame _ => Underpinned opened world
  | _ => True

omit [Blake3] [UnicodeNormalization] in
theorem CarriesData.sends {offer : ManifestOfferV2} {opened : Nat} {world : EngineWorld}
    {frame : ManifestV2Frame} (carries : CarriesData frame)
    (underpinned : Underpinned opened world) : SenderSends offer opened world frame := by
  cases frame with
  | entryStart | entryContentDigest | entryBlock | entryComplete | jobComplete =>
    exact ⟨carries, underpinned⟩
  | _ => exact carries.elim

/-! ## Every call keeps to it -/

variable {arrives : ManifestV2Frame → Prop} {offer : ManifestOfferV2} {opened : Nat}
  {world : EngineWorld}
  {record : SenderDeliveryRecordV2} {manifest : ManifestV2}

/-- The record in memory is the durable one, and it is a record of the offer. -/
structure RecordHeld (offer : ManifestOfferV2) (opened : Nat) (record : SenderDeliveryRecordV2)
    (world : EngineWorld) :
    Prop where
  stored : world.sender = some record
  valid : record.validateOffer offer = .ok ()
  opened : opened ≤ world.sent.length

/-- The same with a committed Accept, once the connection is open. -/
structure Committed (offer : ManifestOfferV2) (opened : Nat) (record : SenderDeliveryRecordV2)
    (world : EngineWorld) :
    Prop where
  stored : world.sender = some record
  valid : record.validateOffer offer = .ok ()
  accepted : record.accept.isSome
  begun : opened < world.sent.length

theorem Committed.held (committed : Committed offer opened record world) :
    RecordHeld offer opened record world :=
  ⟨committed.stored, committed.valid, Nat.le_of_lt committed.begun⟩

theorem Committed.underpinned (committed : Committed offer opened record world) :
    Underpinned opened world :=
  ⟨committed.begun, record, committed.stored, committed.accepted⟩

/-- Transferring data leaves the record where it is. -/
theorem Committed.data {op : EngineOp} {reply : EngineReply op}
    (committed : Committed offer opened record world) (allowed : DataRule op) :
    Committed offer opened record (world.after op reply) := by
  obtain ⟨stored, valid, accepted, begun⟩ := committed
  cases op with
  | delivery op =>
    cases op with
    | fillEntropy => exact ⟨stored, valid, accepted, begun⟩
    | saveReceiver | saveSender => exact allowed.elim
    | sendManifestV2Frame frame =>
      refine ⟨stored, valid, accepted, ?_⟩
      show opened < (world.sent ++ [frame]).length
      rw [List.length_append]
      omega
    | recvManifestV2Frame =>
      cases reply with
      | ok frame => exact ⟨stored, valid, accepted, begun⟩
      | error message => exact ⟨stored, valid, accepted, begun⟩
  | saveLedger => exact allowed.elim
  | sendEntryBlockOrRecvFrame block =>
    have longer : opened < (world.sent ++ [ManifestV2Frame.entryBlock block]).length := by
      rw [List.length_append]
      omega
    cases reply with
    | error message => exact ⟨stored, valid, accepted, longer⟩
    | ok found =>
      cases found with
      | none => exact ⟨stored, valid, accepted, longer⟩
      | some frame => exact ⟨stored, valid, accepted, longer⟩
  | _ => exact ⟨stored, valid, accepted, begun⟩

theorem Committed.allows {op : EngineOp} (committed : Committed offer opened record world)
    (allowed : DataRule op) :
    SenderRule offer opened world op := by
  cases op with
  | delivery op =>
    cases op with
    | fillEntropy | recvManifestV2Frame => trivial
    | saveReceiver | saveSender => exact allowed.elim
    | sendManifestV2Frame frame => exact CarriesData.sends allowed committed.underpinned
  | saveLedger => exact allowed.elim
  | sendEntryBlockOrRecvFrame => exact committed.underpinned
  | _ => trivial

theorem Transmits.committed {α : Type} {method : SendProgram α}
    (transmits : Transmits arrives method) (committed : Committed offer opened record world) :
    method.Obeys (engineContract arrives (fun _ => True) fun _ => True) (SenderRule offer opened)
      (fun _ left final => left = record ∧ Committed offer opened record final) record world := by
  refine (Obeys.upgrade ?_ ?_ (transmits record world) committed).mono ?_
  · exact fun _ _ _ committed allowed _ => committed.data allowed
  · exact fun _ _ committed allowed => committed.allows allowed
  · exact fun _ _ _ ⟨committed, same⟩ => ⟨same, committed⟩

/-- What `validate_offer` checks. -/
theorem validateOffer_eq_ok : record.validateOffer offer = .ok () ↔
    (record.identity = { jobId := offer.manifest.jobId, generation := offer.manifest.generation } ∧
      record.manifestDigest = offer.structuralDigest) ∧
    (if record.schemaVersion = senderDeliverySchemaVersion then
      validateEntryEncodings offer record.entryEncodings
      else
        reject (¬ (record.schemaVersion = legacySenderDeliverySchemaVersion ∧
          record.entryEncodings = []))
        .invalidRecord) = .ok () ∧ record.validate = .ok () := by
  simp only [SenderDeliveryRecordV2.validateOffer]
  split
  · simp only [bind_eq_ok, reject_eq_ok, exists_unit, not_or, not_not]
  · simp only [bind_eq_ok, reject_eq_ok, exists_unit, not_or, not_not]

/-- A record that differs in its progress only is a record of the same offer, if it is valid. -/
theorem validateOffer_of_same {next : SenderDeliveryRecordV2}
    (valid : record.validateOffer offer = .ok ()) (identity : next.identity = record.identity)
    (digest : next.manifestDigest = record.manifestDigest)
    (schema : next.schemaVersion = record.schemaVersion)
    (encodings : next.entryEncodings = record.entryEncodings) (own : next.validate = .ok ()) :
    next.validateOffer offer = .ok () := by
  rw [validateOffer_eq_ok] at valid ⊢
  obtain ⟨⟨sameIdentity, sameDigest⟩, encoded, -⟩ := valid
  rw [schema, encodings]
  exact ⟨⟨identity.trans sameIdentity, digest.trans sameDigest⟩, encoded, own⟩

/-- A save that goes through leaves the record durable. -/
theorem obeys_saveSender {State : Type} {state : State} {rule : EngineWorld → DeliveryOp → Prop}
    {done : Unit → State → EngineWorld → Prop}
    (allowed : record.validate = .ok () → rule world (.saveSender record))
    (holds : record.validate = .ok () → done () state { world with sender := some record }) :
    (SenderDeliveryStoreV2.save record : DeliveryProgram State Unit).Obeys
      (deliveryContract arrives (fun _ => True) fun _ => True) rule done state world := by
  rw [SenderDeliveryStoreV2.save, obeys_bind, obeys_raise]
  intro _ valid
  rw [obeys_bind, obeys_perform]
  refine ⟨allowed valid, fun reply _ => ?_⟩
  rw [obeys_raise]
  cases reply with
  | written => exact fun _ _ => holds valid
  | failed replaced message => exact fun _ failed => (by cases failed)

omit [Blake3] [UnicodeNormalization] in
theorem obeys_deliver {State α : Type} {state : State} {rule : EngineWorld → EngineOp → Prop}
    {program : DeliveryProgram State α} {post : α → State → EngineWorld → Prop} :
    (deliver program).Obeys (engineContract arrives (fun _ => True) fun _ => True)
      rule post state world ↔
      program.Obeys (deliveryContract arrives (fun _ => True) fun _ => True)
        (fun world op => rule world (.delivery op)) post state world :=
  obeys_embed

omit [Blake3] [UnicodeNormalization] in
theorem obeys_onRecord {α : Type} {method : SenderMethod α} {rule : EngineWorld → EngineOp → Prop}
    {post : α → SenderDeliveryRecordV2 → EngineWorld → Prop}
    (holds : ∀ value left, method.Leads record value left → post value left world) :
    (onRecord method).Obeys (engineContract arrives (fun _ => True) fun _ => True)
      rule post record world := by
  rw [onRecord, obeys_bind, obeys_get]
  cases ran : method.runOn record with
  | mk result left =>
    simp only [obeys_bind, obeys_set, obeys_raise, mapErr_eq_ok]
    intro value succeeded
    subst succeeded
    exact holds value left ran

/-- A resume request repeats the committed Accept. -/
theorem establishSenderReconnect_obeys (built : buildManifestOfferV2 manifest = .ok offer)
    (held : RecordHeld offer opened record world) :
    (establishSenderReconnect (some manifest)).Obeys
      (engineContract arrives (fun _ => True) fun _ => True)
      (SenderRule offer opened)
        (fun _ left final => left = record ∧ Committed offer opened record final) record
      world := by
  simp only [establishSenderReconnect, obeys_bind, obeys_raise, obeys_get, okOr_eq_ok, rebuildOffer,
    mapErr_eq_ok]
  intro sealed same rebuilt again _ _ digest digested capability granted
  obtain rfl := Option.some.inj same
  obtain rfl := Except.ok.inj (built.symm.trans again)
  refine obeys_silent (fun _ _ => rfl) trivial fun reply nonce _ => ?_
  have accepted : record.accept.isSome := by
    rw [SenderDeliveryRecordV2.proofCapability, Option.map_eq_some_iff] at granted
    obtain ⟨accept, committed, -⟩ := granted
    rw [committed]
    rfl
  have begun (frame : ManifestV2Frame) : opened < (world.sent ++ [frame]).length := by
    have before := held.opened
    rw [List.length_append, List.length_singleton]
    omega
  cases record.phase with
  | transferring | waitingForReceiverSave | delivered =>
    rw [obeys_bind, obeys_pure, obeys_bind]
    apply obeys_sendFrame ⟨rfl, record, held.stored, rfl, digested⟩
    rw [obeys_bind]
    refine obeys_recvFrame trivial fun frame _ => ?_
    cases frame with
    | resumeStatus status =>
      simp only [obeys_bind, obeys_raise, obeys_pure]
      intro _ _ _ _ _ _
      exact ⟨trivial, held.stored, held.valid, accepted, begun _⟩
    | _ => exact obeys_bind.mpr (obeys_throw.mpr trivial)
  | offering | failed | canceled => exact obeys_bind.mpr (obeys_throw.mpr trivial)

/-- The legacy probe reads from the source and leaves everything else alone. -/
theorem legacyEntryEncoding_obeys [Zstd] {State : Type} {state : State} (entry : ManifestEntryV2)
    (policy : CompressionPolicyV2) :
    (legacyEntryEncoding entry policy : EngineProgram State EntryEncodingV2).Obeys
      (engineContract arrives (fun _ => True) fun _ => True) (SenderRule offer opened)
      (fun _ left final => left = state ∧ final = world ∧ True) state world := by
  unfold legacyEntryEncoding
  split
  case isTrue _ => exact ⟨rfl, rfl, trivial⟩
  case isFalse _ =>
    cases policy with
    | never | always => exact ⟨rfl, rfl, trivial⟩
    | smart =>
      rw [obeys_bind]
      refine obeys_attempt (fun _ _ => rfl) trivial fun _ => ?_
      rw [obeys_bind]
      refine obeys_attempt (fun _ _ => rfl) trivial fun _ => ?_
      rw [obeys_bind]
      refine obeys_attempt (fun _ _ => rfl) trivial fun sample => ?_
      split
      case isTrue _ => exact ⟨rfl, rfl, trivial⟩
      case isFalse _ =>
        simp only [obeys_bind, obeys_raise, obeys_pure]
        exact fun _ _ => ⟨trivial, trivial, trivial⟩

theorem freezeEntryEncodings_schema {encodings : List EntryEncodingV2} {done : Unit}
    {left : SenderDeliveryRecordV2}
    (leads : (SenderDeliveryRecordV2.freezeEntryEncodings offer encodings).Leads record done left) :
    left.schemaVersion = senderDeliverySchemaVersion := by
  simp only [SenderDeliveryRecordV2.freezeEntryEncodings, leads_bind, leads_get, leads_raise,
    leads_modify] at leads
  obtain ⟨_, _, ⟨rfl, rfl⟩, _, _, ⟨_, rfl⟩, _, _, ⟨rfl, rfl⟩, _, _, ⟨_, rfl⟩, _, _, ⟨_, rfl⟩, _,
    _, rfl, _, _, ⟨rfl, rfl⟩, _, rfl⟩ := leads
  rfl

theorem prepareSenderEntryEncodings_obeys [Zstd] :
    (prepareSenderEntryEncodings offer).Obeys (engineContract arrives (fun _ => True) fun _ => True)
      (SenderRule offer opened) (fun _ left final => final = world ∧ record.Refrozen left ∧
        (left = record ∨ left.schemaVersion = senderDeliverySchemaVersion)) record world := by
  have frozen (encodings : List EntryEncodingV2) :
      (onRecord (SenderDeliveryRecordV2.freezeEntryEncodings offer encodings)).Obeys
        (engineContract arrives (fun _ => True) fun _ => True) (SenderRule offer opened)
        (fun _ left final => final = world ∧ record.Refrozen left ∧
          (left = record ∨ left.schemaVersion = senderDeliverySchemaVersion)) record world :=
    obeys_onRecord fun _ left leads =>
      ⟨rfl, freezeEntryEncodings_leads leads, .inr (freezeEntryEncodings_schema leads)⟩
  rw [prepareSenderEntryEncodings, obeys_bind, obeys_get]
  split
  case isTrue _ => exact ⟨rfl, rfl, .inl rfl⟩
  case isFalse _ =>
    cases record.phase with
    | offering => exact frozen _
    | transferring =>
      rw [obeys_bind]
      refine (obeys_mapM fun entry _ => legacyEntryEncoding_obeys entry _).mono ?_
      rintro encodings _ _ ⟨sameRecord, sameWorld, _⟩
      subst sameRecord sameWorld
      exact frozen encodings
    | waitingForReceiverSave | delivered | failed | canceled => exact ⟨rfl, rfl, .inl rfl⟩

/-- A valid record that is still offering has no Accept. -/
theorem unaccepted_of_offering (valid : record.validateOffer offer = .ok ())
    (offering : record.phase = .offering) :
    record.accept = none := by
  have own := SenderDeliveryRecordV2.validate_eq_ok.mp (validateOffer_eq_ok.mp valid).2.2
  cases committed : record.accept with
  | none => rfl
  | some accept =>
    have both : record.acceptCommitted := by
      refine ⟨?_, by rw [committed]; rfl⟩
      rw [own.accept, committed]
      rfl
    have shape := own.phase
    simp [SenderDeliveryRecordV2.validPhase, offering, both] at shape

/-- The Accept is durable before anything is sent under it. -/
theorem agreeAccept_obeys (built : buildManifestOfferV2 manifest = .ok offer)
    (phase : record.phase = .offering ∨ record.phase = .transferring)
    (held : RecordHeld offer opened record world) :
    (agreeAccept (some manifest) offer).Obeys (engineContract arrives (fun _ => True) fun _ => True)
      (SenderRule offer opened)
        (fun _ left final => Committed offer opened left final) record world := by
  rw [agreeAccept, obeys_bind]
  refine obeys_silent (fun _ _ => rfl) trivial fun _ => ?_
  rw [obeys_bind, obeys_get]
  split
  case isTrue _ =>
    rw [obeys_bind]
    refine (establishSenderReconnect_obeys built held).mono ?_
    intro status left final ⟨same, committed⟩
    subst same
    simp only [obeys_bind, obeys_get, obeys_raise, obeys_pure]
    exact fun _ _ _ _ => committed
  case isFalse notYet =>
    obtain offering | transferring := phase
    case inr => exact absurd transferring notYet
    have opening := unaccepted_of_offering held.valid offering
    rw [obeys_bind]
    apply obeys_sendFrame ⟨rfl, record, held.stored, opening⟩
    rw [obeys_bind]
    refine obeys_recvFrame trivial fun frame _ => ?_
    cases frame with
    | accept accept =>
      simp only [obeys_bind, obeys_get, obeys_raise, obeys_pure, mapErr_eq_ok]
      intro _ _ digest digested
      refine obeys_onRecord fun _ left leads => ?_
      obtain ⟨-, -, -, rfl⟩ := SenderDeliveryRecordV2.commitAccept_leads leads
      have stays (own : (record.underAccept accept digest).validate = .ok ()) :
          (record.underAccept accept digest).validateOffer offer = .ok () :=
        validateOffer_of_same held.valid rfl rfl rfl rfl own
      refine obeys_deliver.mpr (obeys_saveSender ?_ ?_)
      · intro own
        exact ⟨.accepted held.stored opening (List.mem_append_right _ List.mem_cons_self)
          digested rfl, stays own⟩
      · intro own
        refine ⟨rfl, stays own, rfl, ?_⟩
        have before := held.opened
        show opened < (world.sent ++ [ManifestV2Frame.offer offer]).length
        rw [List.length_append, List.length_singleton]
        omega
    | _ => exact obeys_bind.mpr (obeys_throw.mpr trivial)

theorem commitResults_leads {summary : SenderDataPlaneSummaryV2} {done : Unit}
    {left : SenderDeliveryRecordV2} (valid : record.validate = .ok ())
    (leads : (SenderDeliveryRecordV2.commitResults summary).Leads record done left) :
    left = record.withResults summary := by
  have completion := (SenderDeliveryRecordV2.validate_eq_ok.mp valid).completion
  have paired : record.entryResults = [] → record.senderCompletionSetDigest = none := by
    intro empty
    rw [empty] at completion
    simpa using completion
  obtain ⟨_, failed⟩ | ⟨ran, -⟩ := SenderDeliveryRecordV2.commitResults_cases paired summary
  · cases leads.symm.trans failed
  · cases leads.symm.trans ran
    rfl

theorem send_obeys [Zstd] (built : buildManifestOfferV2 manifest = .ok offer)
    (phase : record.phase = .offering ∨ record.phase = .transferring)
    (held : RecordHeld offer opened record world) (fuel : Nat) :
    (send fuel (some manifest)).Obeys (engineContract arrives (fun _ => True) fun _ => True)
      (SenderRule offer opened)
      (fun _ left final => RecordHeld offer opened left final) record world := by
  simp only [send, obeys_bind, obeys_raise, okOr_eq_ok, rebuildOffer, mapErr_eq_ok]
  intro _ same rebuilt again
  obtain rfl := Option.some.inj same
  obtain rfl := Except.ok.inj (built.symm.trans again)
  refine prepareSenderEntryEncodings_obeys.mono ?_
  rintro _ left final ⟨sameWorld, frozen, current⟩
  subst sameWorld
  rw [obeys_get]
  intro _ valid
  rw [obeys_get, obeys_deliver]
  have samePhase : left.phase = record.phase := by
    rw [show left.phase = _ from congrArg (·.phase) frozen]
  refine obeys_saveSender (fun _ => ⟨.refrozen held.stored frozen current, valid⟩) fun _ => ?_
  have held : RecordHeld offer opened left { final with sender := some left } :=
    ⟨rfl, valid, held.opened⟩
  refine (agreeAccept_obeys built (by rw [samePhase]; exact phase) held).mono ?_
  rintro ⟨accept, acceptBodyDigest, resume⟩ left final committed
  refine obeys_silent (fun _ _ => rfl) trivial fun _ => ?_
  refine obeys_silent (fun _ _ => rfl) trivial fun _ => ?_
  -- from here to the results nothing is saved
  cases resume
  case' none => simp only [obeys_bind, obeys_pure, obeys_get]
  case' some status =>
    simp only [obeys_bind, obeys_raise, obeys_pure, obeys_get]
    intro completed _
  all_goals
    refine obeys_silent (fun _ _ => rfl) trivial fun _ => ?_
    refine ((transmits_sendEntries fuel _ _ _ _ _).committed committed).mono ?_
    rintro ⟨hasher, completions⟩ _ sent ⟨same, committed⟩
    subst same
    refine obeys_silent (fun _ _ => rfl) trivial fun _ => ?_
    refine ((transmits_sendFrame (by trivial)).committed committed).mono ?_
    rintro _ _ final ⟨same, committed⟩
    subst same
    refine ((transmits_recvEntryResults _ _).committed committed).mono ?_
    rintro results _ received ⟨same, committed⟩
    subst same
    refine obeys_onRecord fun _ left leads => ?_
    have own := (validateOffer_eq_ok.mp committed.valid).2.2
    obtain rfl := commitResults_leads own leads
    rw [obeys_deliver]
    refine obeys_saveSender ?_ ?_
    · intro valid
      exact ⟨.results committed.stored rfl,
        validateOffer_of_same committed.valid rfl rfl rfl rfl valid⟩
    · intro valid
      refine obeys_silent (fun _ _ => rfl) trivial fun _ => ?_
      exact ⟨rfl, validateOffer_of_same committed.valid rfl rfl rfl rfl valid,
        Nat.le_of_lt committed.begun⟩

/-- A proof is accepted from the connection and durable before it is reported. -/
theorem senderConfirmDelivery_obeys (held : RecordHeld offer opened record world) :
    senderConfirmDelivery.Obeys (deliveryContract arrives (fun _ => True) fun _ => True)
      (fun world op => SenderRule offer opened world (.delivery op))
        (fun _ _ _ => True) record world := by
  simp only [senderConfirmDelivery, obeys_bind, obeys_get, obeys_raise, reject_eq_ok, not_not]
  intro _ phase
  refine obeys_perform.mpr ⟨trivial, fun reply _ frame arrived => ?_⟩
  rw [mapErr_eq_ok] at arrived
  subst arrived
  cases frame with
  | deliveryProof proof =>
    rw [obeys_bind, obeys_pure]
    split
    case isTrue _ =>
      simp only [obeys_bind, obeys_raise, obeys_pure]
      exact fun _ _ => trivial
    case isFalse notDelivered =>
      simp only [obeys_bind, obeys_raise, obeys_pure, obeys_set, obeys_get]
      intro _ _ _ _ _ _
      have waiting : record.phase = .waitingForReceiverSave := phase.resolve_right notDelivered
      refine obeys_saveSender ?_ fun _ => trivial
      intro valid
      refine ⟨.delivered held.stored waiting (List.mem_append_right _ List.mem_cons_self) rfl, ?_⟩
      exact validateOffer_of_same held.valid rfl rfl rfl rfl valid
  | _ => exact obeys_bind.mpr (obeys_throw.mpr trivial)

end Rule

end Envoix.Transfer
