import Envoix.Protocol.FrameCodec
import Envoix.Transfer.ResumeAgreement

/-! # Control frames fit

The Accept and the resume status of a job grow with its roots and entries.  What the encoder checks
of their fields bounds the largest of them below the limit of a control frame, so a receiver can
always answer, whatever job it has taken. -/

namespace Envoix.Transfer

open ByteCodec Fallible Envoix.Protocol

/-! ## Lengths -/

theorem length_flatMap_le {α : Type} {encode : α → Bytes} {items : List α} {bound : Nat}
    (each : ∀ item ∈ items, (encode item).length ≤ bound) :
      (items.flatMap encode).length ≤ items.length * bound := by
  induction items with
  | nil => simp
  | cons item items ih =>
    have first := each item List.mem_cons_self
    have others := ih fun other listed => each other (List.mem_cons_of_mem _ listed)
    rw [List.flatMap_cons, List.length_append, List.length_cons, Nat.succ_mul]
    omega

theorem length_optionalBytes_le {α : Type} {encode : α → Bytes} {value : Option α} {bound : Nat}
    (each : ∀ item ∈ value, (encode item).length ≤ bound) :
      (optionalBytes encode value).length ≤ 1 + bound := by
  cases value with
  | none => simp [optionalBytes]
  | some item =>
    have only := each item rfl
    rw [optionalBytes, List.length_cons]
    omega

@[simp] theorem length_identityBytes (identity : JobGenerationV2) :
    (identityBytes identity).length = 20 := by
  simp [identityBytes]

@[simp] theorem length_countBytes (value : Nat) : (countBytes value).length = 4 := length_u32Be _

theorem length_componentBytes_le {value : String} (ok : FrameComponentOk value) :
    (Protocol.componentBytes value).length ≤ 259 := by
  have short : (asBytes value).length ≤ 255 := ok.short
  rw [Protocol.componentBytes, List.length_append, length_countBytes]
  omega

theorem length_optionalDigest_le (value : Option ContentDigestV2) :
    (FrameWriter.optionalDigest value).length ≤ 33 := by
  rw [optionalDigest_eq]
  have each (digest : ContentDigestV2) : digest.bytes.toList.length ≤ 32 :=
    Nat.le_of_eq digest.bytes.length_toList
  exact length_optionalBytes_le fun digest _ => each digest

theorem mem_of_each {α : Type} {valid : Nat → α → Prop} {items : List α}
    (each : Each valid 0 items) {item : α} (listed : item ∈ items) : ∃ index, valid index item := by
  obtain ⟨index, found⟩ := List.getElem?_of_mem listed
  exact ⟨_, each_iff_getElem.mp each index item found⟩

/-! ## Frames -/

theorem length_acceptBytes_le {value : ManifestAcceptV2} (ok : AcceptOk value) :
    (acceptBytes value).length ≤ 399440 := by
  have roots : (value.rootPlans.flatMap rootPlanBytes).length ≤ value.rootPlans.length * 263 := by
    refine length_flatMap_le fun root listed => ?_
    obtain ⟨_, -, name⟩ := mem_of_each ok.rootPlans listed
    have short := length_componentBytes_le name
    rw [rootPlanBytes, List.length_append, length_u32Be]
    omega
  have entries : (value.entryPlans.flatMap entryPlanBytes).length ≤ value.entryPlans.length * 13 :=
    length_flatMap_le fun entry _ => by simp [entryPlanBytes]
  have rootCount : value.rootPlans.length ≤ 1024 := ok.rootCount
  have entryCount : value.entryPlans.length ≤ 10000 := ok.entryCount
  simp only [acceptBytes, List.length_append, length_identityBytes, length_countBytes, length_u32Be,
    ByteVector.length_toList]
  omega

theorem length_entryResultBytes_le {value : EntryResultV2} (ok : EntryResultOk value) :
    (entryResultBytes value).length ≤ 326 := by
  have digest := length_optionalDigest_le value.finalDigest
  have override :
    (optionalBytes Protocol.componentBytes value.finalComponentOverride).length ≤ 1 + 259 :=
    length_optionalBytes_le fun component held =>
      length_componentBytes_le (ok.override component held)
  simp only [entryResultBytes, List.length_append, length_identityBytes, length_u32Be, length_u64Be,
    List.length_singleton]
  omega

theorem length_resumeEntryBytes_le {index : Nat} {entry : ResumeEntryV2}
    (ok : ResumeEntryOk index entry) :
    (resumeEntryBytes entry).length ≤ 373 := by
  have digest := length_optionalDigest_le entry.contentDigest
  have result : (optionalBytes entryResultBytes entry.entryResult).length ≤ 1 + 326 :=
    length_optionalBytes_le fun result held => length_entryResultBytes_le (ok.2 result held)
  simp only [resumeEntryBytes, List.length_append, length_u32Be, length_u64Be,
    List.length_singleton]
  omega

theorem length_resumeStatusBytes_le {value : ResumeStatusV2} (ok : ResumeStatusOk value) :
    (resumeStatusBytes value).length ≤ 3730124 := by
  have entries : (value.entries.flatMap resumeEntryBytes).length ≤ value.entries.length * 373 := by
    refine length_flatMap_le fun entry listed => ?_
    obtain ⟨_, entryOk⟩ := mem_of_each ok.entries listed
    exact length_resumeEntryBytes_le entryOk
  have entryCount : value.entries.length ≤ 10000 := ok.entryCount
  simp only [resumeStatusBytes, List.length_append, length_identityBytes, length_countBytes,
    length_u32Be, ByteVector.length_toList]
  omega

/-- The frames by which a receiver answers. -/
def IsAnswer (frame : ManifestV2Frame) : Prop := frame.type = .accept ∨ frame.type = .resumeStatus

section Answers

variable [Blake3] [UnicodeNormalization]

theorem length_payloadBytes_le {frame : ManifestV2Frame} (answer : IsAnswer frame)
    (ok : PayloadOk frame) :
    (payloadBytes frame).length ≤ maxControlFrameBytes - headerBytes := by
  have limit : maxControlFrameBytes - headerBytes = 4194292 := by decide
  rw [limit]
  cases frame with
  | accept value => exact Nat.le_trans (length_acceptBytes_le ok) (by decide)
  | resumeStatus value => exact Nat.le_trans (length_resumeStatusBytes_le ok) (by decide)
  | _ => obtain other | other := answer <;> cases other

omit [Blake3] [UnicodeNormalization] in
theorem maximumPayloadBytes_answer {frame : ManifestV2Frame} (answer : IsAnswer frame) :
    maximumPayloadBytes frame.type = .ok (maxControlFrameBytes - headerBytes) := by
  obtain kind | kind := answer <;> rw [kind] <;> rfl

theorem encodeManifestV2Frame_answer {frame : ManifestV2Frame} (answer : IsAnswer frame)
    (ok : PayloadOk frame) :
    encodeManifestV2Frame frame = .ok (frameBytes frame) :=
  encodeManifestV2Frame_eq_ok.mpr
    ⟨⟨ok, _, maximumPayloadBytes_answer answer, length_payloadBytes_le answer ok⟩, rfl⟩

/-! ## Refusals -/

/-- The outcome is not that the frame is too large. -/
def NotLarge {α : Type} (outcome : Except ManifestV2FrameCodecError α) : Prop :=
  outcome ≠ .error .frameTooLarge

omit [Blake3] [UnicodeNormalization] in
theorem notLarge_ok {α : Type} (value : α) : NotLarge (.ok value) := by simp [NotLarge]

omit [Blake3] [UnicodeNormalization] in
theorem notLarge_reject {bad : Prop} [Decidable bad] {error : ManifestV2FrameCodecError}
    (other : error ≠ .frameTooLarge) :
    NotLarge (reject bad error) := by
  intro failed
  exact other (reject_eq_error.mp failed).2

omit [Blake3] [UnicodeNormalization] in
theorem notLarge_bind {α β : Type} {first : Except ManifestV2FrameCodecError α}
    {next : α → Except ManifestV2FrameCodecError β} (begins : NotLarge first)
    (continues : ∀ value, NotLarge (next value)) : NotLarge (first >>= next) := by
  intro failed
  obtain here | ⟨value, -, later⟩ := bind_eq_error.mp failed
  · exact begins here
  · exact continues value later

omit [Blake3] [UnicodeNormalization] in
theorem notLarge_writeMany {α : Type} {item : Nat → α → Except ManifestV2FrameCodecError Bytes}
    (each : ∀ index value, NotLarge (item index value)) (index : Nat) (values : List α) :
    NotLarge (writeMany item index values) := by
  induction values generalizing index with
  | nil => exact notLarge_ok _
  | cons value values ih =>
    exact notLarge_bind (each index value) fun _ => notLarge_bind (ih _) fun _ => notLarge_ok _

omit [Blake3] [UnicodeNormalization] in
theorem notLarge_identity (identity : JobGenerationV2) : NotLarge (FrameWriter.identity identity) :=
  notLarge_bind (notLarge_reject (by simp)) fun _ => notLarge_ok _

omit [Blake3] [UnicodeNormalization] in
theorem notLarge_count (value maximum : Nat) : NotLarge (FrameWriter.count value maximum) :=
  notLarge_bind (notLarge_reject (by simp)) fun _ =>
    notLarge_bind (notLarge_reject (by simp)) fun _ => notLarge_ok _

omit [Blake3] [UnicodeNormalization] in
theorem notLarge_component (value : String) : NotLarge (FrameWriter.component value) :=
  notLarge_bind (notLarge_reject (by simp)) fun _ =>
    notLarge_bind (notLarge_reject (by simp)) fun _ => notLarge_ok _

omit [Blake3] [UnicodeNormalization] in
theorem notLarge_optional {α : Type} {item : α → Except ManifestV2FrameCodecError Bytes}
    (each : ∀ value, NotLarge (item value)) (value : Option α) :
      NotLarge (FrameWriter.optional item value) := by
  cases value with
  | none => exact notLarge_ok _
  | some value => exact notLarge_bind (each value) fun _ => notLarge_ok _

omit [Blake3] [UnicodeNormalization] in
theorem notLarge_encodeAccept (value : ManifestAcceptV2) : NotLarge (encodeAccept value) := by
  have roots (index : Nat) (root : RootPlanV2) : NotLarge (encodeRootPlan index root) :=
    notLarge_bind (notLarge_reject (by simp)) fun _ => notLarge_bind (notLarge_component _) fun _ =>
      notLarge_ok _
  have entries (index : Nat) (entry : EntryPlanV2) : NotLarge (encodeEntryPlan index entry) :=
    notLarge_bind (notLarge_reject (by simp)) fun _ => notLarge_ok _
  refine notLarge_bind (notLarge_identity _) fun _ =>
    notLarge_bind (notLarge_reject (by simp)) fun _ => ?_
  refine notLarge_bind (notLarge_count _ _) fun _ =>
    notLarge_bind (notLarge_writeMany roots _ _) fun _ => ?_
  exact notLarge_bind (notLarge_count _ _) fun _ =>
    notLarge_bind (notLarge_writeMany entries _ _) fun _ => notLarge_ok _

omit [Blake3] [UnicodeNormalization] in
theorem notLarge_encodeResumeStatus (value : ResumeStatusV2) :
    NotLarge (encodeResumeStatus value) := by
  have results (result : EntryResultV2) : NotLarge (encodeEntryResultBody result) :=
    notLarge_bind (notLarge_identity _) fun _ => notLarge_bind (notLarge_reject (by simp)) fun _ =>
      notLarge_bind (notLarge_optional notLarge_component _) fun _ => notLarge_ok _
  have entries (index : Nat) (entry : ResumeEntryV2) : NotLarge (encodeResumeEntry index entry) :=
    notLarge_bind (notLarge_reject (by simp)) fun _ =>
      notLarge_bind (notLarge_optional results _) fun _ => notLarge_ok _
  refine notLarge_bind (notLarge_identity _) fun _ =>
    notLarge_bind (notLarge_reject (by simp)) fun _ => ?_
  exact notLarge_bind (notLarge_count _ _) fun _ =>
    notLarge_bind (notLarge_writeMany entries _ _) fun _ => notLarge_ok _

/-- Whatever the fields of an answer are, it is not refused for its length. -/
theorem notLarge_encodeManifestV2Frame {frame : ManifestV2Frame} (answer : IsAnswer frame) :
    NotLarge (encodeManifestV2Frame frame) := by
  have structured : frame.type ≠ .offer := by
    obtain kind | kind := answer <;> rw [kind] <;> simp
  have payload : NotLarge (encodePayload frame) := by
    cases frame with
    | accept value => exact notLarge_encodeAccept value
    | resumeStatus value => exact notLarge_encodeResumeStatus value
    | _ => obtain other | other := answer <;> cases other
  cases encoded : encodePayload frame with
  | error error =>
    have refused : encodeManifestV2Frame frame = .error error := by
      cases frame with
      | offer offer => exact absurd rfl structured
      | _ => exact bind_eq_error.mpr (.inl encoded)
    rw [refused]
    rwa [encoded] at payload
  | ok bytes =>
    have ok := ((encodePayload_eq_ok structured).mp encoded).1
    rw [encodeManifestV2Frame_answer answer ok]
    exact notLarge_ok _

/-! ## The receiver -/

/-- Every result in the ledger ends under a name that frames can carry. -/
def NamesFit (ledger : ReceiverDataPlaneLedgerV2) : Prop :=
  ∀ checkpoint ∈ ledger.entries, ∀ result ∈ checkpoint.result,
    ∀ component ∈ result.finalComponentOverride, FrameComponentOk component

/-- A ledger that validates holds an Accept whose fields pass. -/
theorem acceptOk_of_validate {manifest : ManifestV2} {ledger : ReceiverDataPlaneLedgerV2}
    (valid : ledger.validate manifest = .ok ()) : AcceptOk ledger.accept := by
  simp only [ReceiverDataPlaneLedgerV2.validate, bind_eq_ok, exists_unit, mapErr_eq_ok] at valid
  obtain ⟨-, -, -, -, -, digest, hashed, -⟩ := valid
  simp only [canonicalManifestV2FrameBodyDigest, bind_eq_ok] at hashed
  obtain ⟨encoded, encodes, -⟩ := hashed
  exact (encodeManifestV2Frame_eq_ok.mp encodes).1.1

theorem resumeStatusOk_of_validate {manifest : ManifestV2} {ledger : ReceiverDataPlaneLedgerV2}
    (valid : ledger.validate manifest = .ok ()) (names : NamesFit ledger)
    {challengeNonce challengeMac : ByteVector 32} (nonce : challengeNonce ≠ ByteVector.zero 32)
    (mac : challengeMac ≠ ByteVector.zero 32) :
    ResumeStatusOk { ledger.resumeStatus with challengeNonce, challengeMac } := by
  have acceptOk := acceptOk_of_validate valid
  simp only [ReceiverDataPlaneLedgerV2.validate, bind_eq_ok, exists_unit, reject_eq_ok, not_or,
    not_not, forM_eq_ok] at valid
  obtain ⟨rebuilt, built, ⟨-, -, -, -, length, identity, -⟩, -, own, -⟩ := valid
  simp only [rebuildOffer, mapErr_eq_ok, buildManifestOfferV2, bind_eq_ok, exists_unit,
    pure_eq_ok] at built
  obtain ⟨validated, rfl⟩ := built
  have forest := accepted_iff_canonicalForest.mp (validate_eq_ok.mp validated)
  have identityOk : IdentityOk ledger.identity := identity ▸ acceptOk.identity
  have count : ledger.entries.length ≤ maxManifestV2Entries := length ▸ forest.entryCount.2
  refine ⟨identityOk, by simp [nonce, mac],
    by simpa [ReceiverDataPlaneLedgerV2.resumeStatus] using count, ?_⟩
  rw [each_iff_getElem]
  intro index entry found
  simp only [ReceiverDataPlaneLedgerV2.resumeStatus, List.getElem?_map, Option.map_eq_some_iff]
    at found
  obtain ⟨checkpoint, found, rfl⟩ := found
  have here := own (checkpoint, index) (List.mem_zipIdx_iff_getElem?.mpr found)
  simp only [ReceiverDataPlaneLedgerV2.foreignCheckpoint, not_or, not_exists, not_and,
    not_not] at here
  obtain ⟨position, results, -⟩ := here
  rw [Nat.zero_add]
  refine ⟨position, fun result held => ?_⟩
  obtain ⟨sameIdentity, sameEntry⟩ := results result held
  have bound : index < maxManifestV2Entries :=
    Nat.lt_of_lt_of_le (List.getElem?_eq_some_iff.mp found).1 count
  have small : maxManifestV2Entries < UInt32.size := by decide
  refine ⟨sameIdentity ▸ identityOk, ?_, names checkpoint (List.mem_of_getElem? found) result held⟩
  rw [sameEntry, position, UInt32.toNat_ofNat_of_lt' (by omega)]
  exact bound

/-- An answer whose fields pass has a payload within the limit, no answer is refused for its length,
and of a ledger that validates both answers can be sent. -/
theorem answers_fit :
    (∀ frame, IsAnswer frame →
      (∀ payload, encodePayload frame = .ok payload →
        maximumPayloadBytes frame.type = .ok (maxControlFrameBytes - headerBytes) ∧
          payload.length ≤ maxControlFrameBytes - headerBytes) ∧
      NotLarge (encodeManifestV2Frame frame)) ∧
    ∀ manifest (ledger : ReceiverDataPlaneLedgerV2), ledger.validate manifest = .ok () →
      (∃ encoded, encodeManifestV2Frame (.accept ledger.accept) = .ok encoded) ∧
      (NamesFit ledger → ∀ challengeNonce challengeMac, challengeNonce ≠ ByteVector.zero 32 →
        challengeMac ≠ ByteVector.zero 32 →
        ∃ encoded, encodeManifestV2Frame
          (.resumeStatus { ledger.resumeStatus with challengeNonce, challengeMac }) =
          .ok encoded) := by
  refine ⟨fun frame answer => ⟨?_, notLarge_encodeManifestV2Frame answer⟩,
    fun manifest ledger valid => ⟨?_, ?_⟩⟩
  · intro payload encodes
    have structured : frame.type ≠ .offer := by
      obtain kind | kind := answer <;> rw [kind] <;> simp
    obtain ⟨ok, rfl⟩ := (encodePayload_eq_ok structured).mp encodes
    exact ⟨maximumPayloadBytes_answer answer, length_payloadBytes_le answer ok⟩
  · exact ⟨_, encodeManifestV2Frame_answer (.inl rfl) (acceptOk_of_validate valid)⟩
  · intro names challengeNonce challengeMac nonce mac
    exact ⟨_, encodeManifestV2Frame_answer (.inr rfl)
      (resumeStatusOk_of_validate valid names nonce mac)⟩

end Answers

theorem answers_fit_folder :
    @ReceiverDataPlaneLedgerV2.validate folderBlake3 asciiNormalization cutLedger folderManifest =
      .ok () ∧
      (∃ encoded, @encodeManifestV2Frame folderBlake3 asciiNormalization (.accept folderAccept) =
        .ok encoded) ∧
      ∃ encoded, @encodeManifestV2Frame folderBlake3 asciiNormalization
        (.resumeStatus (cutLedger.answer (.replicate 32 0x42) (.replicate 32 0x43))) =
          .ok encoded := by
  have valid :
      @ReceiverDataPlaneLedgerV2.validate folderBlake3 asciiNormalization cutLedger folderManifest =
          .ok () := by
    set_option maxRecDepth 8000 in decide
  have names : NamesFit cutLedger := by
    intro checkpoint listed result held
    obtain rfl := List.mem_singleton.mp listed
    cases held
  have fits := (@answers_fit folderBlake3 asciiNormalization).2 folderManifest cutLedger valid
  exact ⟨valid, fits.1, fits.2 names _ _ (by decide) (by decide)⟩

end Envoix.Transfer
