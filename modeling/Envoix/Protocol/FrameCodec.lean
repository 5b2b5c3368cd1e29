import Envoix.Protocol.Frames
import Envoix.Protocol.OfferCodec

/-! # Frame round trips

For every frame kind one predicate says what its encoder accepts and one byte string says what
it emits.  The decoder of the same kind accepts exactly the same bytes, with at most one check
more; `Decodable` collects these extra checks.
-/

namespace Envoix.Protocol

open ByteCodec Fallible

/-! ## Field checks -/

structure IdentityOk (identity : JobGenerationV2) : Prop where
  jobId : identity.jobId.bytes ≠ ByteVector.zero 16
  generation : identity.generation ≠ 0

def identityBytes (identity : JobGenerationV2) : Bytes :=
  identity.jobId.bytes.toList ++ u32Be identity.generation

theorem checkIdentity_eq_ok {identity : JobGenerationV2} {done : Unit} :
    checkIdentity identity = .ok done ↔ IdentityOk identity := by
  simp only [checkIdentity, reject_eq_ok, not_or]
  exact ⟨fun checked => ⟨checked.1, checked.2⟩, fun ok => ⟨ok.jobId, ok.generation⟩⟩

theorem checkedEntryId_eq_ok {entryId : UInt32} {done : Unit} :
    checkedEntryId entryId = .ok done ↔ entryId.toNat < maxManifestV2Entries := by
  simp only [checkedEntryId, reject_eq_ok, ge_iff_le, not_le]

/-- The component rule of the frames, as one proposition. -/
def FrameComponentOk (value : String) : Prop :=
  validateFrameComponent value = .ok ()

theorem FrameComponentOk.short {value : String} (ok : FrameComponentOk value) :
    (asBytes value).length ≤ maxManifestV2ComponentBytes := by
  simp only [FrameComponentOk, validateFrameComponent, reject_eq_ok, not_or, gt_iff_lt,
    not_lt] at ok
  exact ok.2.2.2.1

/-- Every table of the `tag_decoder!` family decodes exactly the tags its enum encodes to. -/
theorem tagDecoder_eq_ok {α : Type} {label : String} {table : List (UInt8 × α)} {tag : α → UInt8}
    (complete : ∀ a, (tag a, a) ∈ table) (sound : ∀ item ∈ table, item.1 = tag item.2)
    (injective : ∀ a b, tag a = tag b → a = b) {value : UInt8} {a : α} :
    tagDecoder label table value = .ok a ↔ value = tag a := by
  have memOfLookup : ∀ {value : UInt8} {b : α}, table.lookup value = some b →
      (value, b) ∈ table := by
    intro value b found
    obtain ⟨before, after, split, _⟩ := List.lookup_eq_some_iff.mp found
    rw [split]
    simp
  rw [tagDecoder, okOr_eq_ok]
  constructor
  · intro found
    exact sound _ (memOfLookup found)
  · intro tagged
    subst tagged
    have known : (table.lookup (tag a)).isSome :=
      List.lookup_isSome_iff.mpr ⟨_, complete a, by simp⟩
    obtain ⟨b, found⟩ := Option.isSome_iff_exists.mp known
    rw [found, injective a b (sound _ (memOfLookup found))]

theorem entryDisposition_eq_ok {value : UInt8} {a : EntryDispositionV2} :
    entryDisposition value = .ok a ↔ value = a.tag :=
  tagDecoder_eq_ok (by intro a; cases a <;> decide) (by decide)
    (by intro a b; cases a <;> cases b <;> decide)

theorem entryEncoding_eq_ok {value : UInt8} {a : EntryEncodingV2} :
    entryEncoding value = .ok a ↔ value = a.tag :=
  tagDecoder_eq_ok (by intro a; cases a <;> decide) (by decide)
    (by intro a b; cases a <;> cases b <;> decide)

theorem entryDigestDecision_eq_ok {value : UInt8} {a : EntryDigestDecisionV2} :
    entryDigestDecision value = .ok a ↔ value = a.tag :=
  tagDecoder_eq_ok (by intro a; cases a <;> decide) (by decide)
    (by intro a b; cases a <;> cases b <;> decide)

theorem entryCompletion_eq_ok {value : UInt8} {a : EntryCompletionChoiceV2} :
    entryCompletion value = .ok a ↔ value = a.tag :=
  tagDecoder_eq_ok (by intro a; cases a <;> decide) (by decide)
    (by intro a b; cases a <;> cases b <;> decide)

theorem entryResultKind_eq_ok {value : UInt8} {a : EntryResultKindV2} :
    entryResultKind value = .ok a ↔ value = a.tag :=
  tagDecoder_eq_ok (by intro a; cases a <;> decide) (by decide)
    (by intro a b; cases a <;> cases b <;> decide)

theorem entryArbiter_eq_ok {value : UInt8} {a : EntryArbiterV2} :
    entryArbiter value = .ok a ↔ value = a.tag :=
  tagDecoder_eq_ok (by intro a; cases a <;> decide) (by decide)
    (by intro a b; cases a <;> cases b <;> decide)

theorem cancelScope_eq_ok {value : UInt8} {a : CancelScopeV2} :
    cancelScope value = .ok a ↔ value = a.tag :=
  tagDecoder_eq_ok (by intro a; cases a <;> decide) (by decide)
    (by intro a b; cases a <;> cases b <;> decide)

theorem failurePhase_eq_ok {value : UInt8} {a : ManifestFailurePhaseV2} :
    failurePhase value = .ok a ↔ value = a.tag :=
  tagDecoder_eq_ok (by intro a; cases a <;> decide) (by decide)
    (by intro a b; cases a <;> cases b <;> decide)

theorem frameType_eq_ok {value : UInt16} {type : ManifestV2FrameType} :
    frameType value = .ok type ↔ value = type.code := by
  constructor
  · intro accepted
    unfold frameType at accepted
    split at accepted <;> cases accepted <;> rfl
  · intro coded
    subst coded
    cases type <;> rfl

/-! ## Shared fields -/

theorem writeIdentity_eq_ok {identity : JobGenerationV2} {out : Bytes} :
    FrameWriter.identity identity = .ok out ↔
      IdentityOk identity ∧ out = identityBytes identity := by
  simp only [FrameWriter.identity, bind_eq_ok, checkIdentity_eq_ok, exists_unit, pure_eq_ok,
    identityBytes, @eq_comm _ out]

theorem readIdentity_run_ok {identity : JobGenerationV2} {bytes rest : Bytes} :
    FrameReader.identity.run bytes = .ok (identity, rest) ↔
      IdentityOk identity ∧ bytes = identityBytes identity ++ rest := by
  simp only [FrameReader.identity, Reader.run_bind_ok, run_array_ok, run_u32_ok, run_lift_ok,
    checkIdentity_eq_ok, exists_unit, Reader.run_pure_ok, identityBytes]
  constructor
  · rintro ⟨jobId, _, rfl, generation, _, rfl, _, ⟨ok, rfl⟩, rfl, rfl⟩
    exact ⟨ok, by simp⟩
  · rintro ⟨ok, rfl⟩
    exact ⟨identity.jobId.bytes, _, by rw [List.append_assoc], identity.generation, rest, rfl,
      rest, ⟨ok, rfl⟩,
      rfl, rfl⟩

theorem readDigest_run_ok {digest : ContentDigestV2} {bytes rest : Bytes} :
    FrameReader.digest.run bytes = .ok (digest, rest) ↔ bytes = digest.bytes.toList ++ rest := by
  simp only [FrameReader.digest, Reader.run_bind_ok, run_array_ok, Reader.run_pure_ok]
  constructor
  · rintro ⟨value, _, rfl, rfl, rfl⟩
    rfl
  · rintro rfl
    exact ⟨digest.bytes, rest, rfl, rfl, rfl⟩

theorem readEntryId_run_ok {entryId : UInt32} {bytes rest : Bytes} :
    FrameReader.entryId.run bytes = .ok (entryId, rest) ↔
      entryId.toNat < maxManifestV2Entries ∧ bytes = u32Be entryId ++ rest := by
  simp only [FrameReader.entryId, Reader.run_bind_ok, run_u32_ok, run_lift_ok, checkedEntryId_eq_ok,
    exists_unit, Reader.run_pure_ok]
  constructor
  · rintro ⟨value, _, rfl, _, ⟨known, rfl⟩, rfl, rfl⟩
    exact ⟨known, rfl⟩
  · rintro ⟨known, rfl⟩
    exact ⟨entryId, rest, rfl, rest, ⟨known, rfl⟩, rfl, rfl⟩

def countBytes (value : Nat) : Bytes := u32Be (UInt32.ofNat value)

theorem writeCount_eq_ok {value maximum : Nat} (fits : maximum < 2 ^ 32) {out : Bytes} :
    FrameWriter.count value maximum = .ok out ↔ value ≤ maximum ∧ out = countBytes value := by
  simp only [FrameWriter.count, bind_eq_ok, reject_eq_ok, exists_unit, pure_eq_ok, gt_iff_lt,
    not_lt, ge_iff_le, not_le, countBytes]
  constructor
  · rintro ⟨small, _, rfl⟩
    exact ⟨small, rfl⟩
  · rintro ⟨small, rfl⟩
    exact ⟨small, Nat.lt_of_le_of_lt small fits, rfl⟩

theorem readCount_run_ok {value maximum : Nat} (fits : maximum < 2 ^ 32) {bytes rest : Bytes} :
    (FrameReader.count maximum).run bytes = .ok (value, rest) ↔
      value ≤ maximum ∧ bytes = countBytes value ++ rest := by
  simp only [FrameReader.count, Reader.run_bind_ok, run_u32_ok, run_lift_ok, reject_eq_ok,
    exists_unit, gt_iff_lt, not_lt, Reader.run_pure_ok, countBytes]
  constructor
  · rintro ⟨count, _, rfl, _, ⟨small, rfl⟩, rfl, rfl⟩
    exact ⟨small, by rw [UInt32.ofNat_toNat]⟩
  · rintro ⟨small, rfl⟩
    have exact : (UInt32.ofNat value).toNat = value :=
      UInt32.toNat_ofNat_of_lt' (Nat.lt_of_le_of_lt small fits)
    exact ⟨_, _, rfl, _, ⟨by rwa [exact], rfl⟩, exact.symm, rfl⟩

theorem readBytes_run_ok {maximum : Nat} {value bytes rest : Bytes} (fits : maximum < 2 ^ 32) :
    (FrameReader.bytes maximum).run bytes = .ok (value, rest) ↔
      value.length ≤ maximum ∧ bytes = countBytes value.length ++ value ++ rest := by
  simp only [FrameReader.bytes, Reader.run_bind_ok, run_u32_ok, run_lift_ok, reject_eq_ok,
    exists_unit, gt_iff_lt, not_lt, exact_run_ok, countBytes]
  constructor
  · rintro ⟨length, _, rfl, _, ⟨small, rfl⟩, here, rfl⟩
    rw [here]
    exact ⟨small, by rw [UInt32.ofNat_toNat, List.append_assoc]⟩
  · rintro ⟨small, rfl⟩
    have exact : (UInt32.ofNat value.length).toNat = value.length := toNat_ofNat_length small fits
    exact ⟨_, _, by rw [List.append_assoc], _, ⟨by rwa [exact], rfl⟩, exact.symm, rfl⟩

def componentBytes (value : String) : Bytes := countBytes (asBytes value).length ++ asBytes value

theorem writeComponent_eq_ok {value : String} {out : Bytes} :
    FrameWriter.component value = .ok out ↔
      FrameComponentOk value ∧ out = componentBytes value := by
  simp only [FrameWriter.component, bind_eq_ok, reject_eq_ok, exists_unit, pure_eq_ok,
    ge_iff_le, not_le, componentBytes, countBytes]
  constructor
  · rintro ⟨ok, _, rfl⟩
    exact ⟨ok, rfl⟩
  · rintro ⟨ok, rfl⟩
    exact ⟨ok, Nat.lt_of_le_of_lt ok.short (by decide), rfl⟩

theorem readComponent_run_ok {value : String} {bytes rest : Bytes} :
    FrameReader.component.run bytes = .ok (value, rest) ↔
      FrameComponentOk value ∧ bytes = componentBytes value ++ rest := by
  have fits : maxManifestV2ComponentBytes < 2 ^ 32 := by decide
  simp only [FrameReader.component, Reader.run_bind_ok, readBytes_run_ok fits,
    run_lift_ok, okOr_eq_ok, fromUtf8_eq_some, exists_unit, Reader.run_pure_ok, componentBytes]
  constructor
  · rintro ⟨_, _, ⟨_, rfl⟩, text, _, ⟨rfl, rfl⟩, _, ⟨ok, rfl⟩, rfl, rfl⟩
    exact ⟨ok, rfl⟩
  · rintro ⟨ok, rfl⟩
    exact ⟨_, _, ⟨ok.short, rfl⟩, value, rest, ⟨rfl, rfl⟩, rest, ⟨ok, rfl⟩, rfl, rfl⟩

def optionalBytes {α : Type} (encode : α → Bytes) : Option α → Bytes
  | none => [0]
  | some value => 1 :: encode value

theorem writeOptional_eq_ok {α : Type} {item : α → Except ManifestV2FrameCodecError Bytes}
    {valid : α → Prop} {encode : α → Bytes} (writes : Writes item valid encode) {value : Option α}
    {out : Bytes} :
    FrameWriter.optional item value = .ok out ↔
      (∀ a ∈ value, valid a) ∧ out = optionalBytes encode value := by
  cases value with
  | none =>
    simp only [FrameWriter.optional, pure_eq_ok, optionalBytes, @eq_comm _ out]
    simp
  | some a =>
    simp only [FrameWriter.optional, bind_eq_ok, writes a _, pure_eq_ok, optionalBytes]
    constructor
    · rintro ⟨_, ⟨ok, rfl⟩, rfl⟩
      exact ⟨by simpa using ok, rfl⟩
    · rintro ⟨ok, rfl⟩
      exact ⟨_, ⟨ok a rfl, rfl⟩, rfl⟩

theorem readOptional_run_ok {α : Type} {item : FrameReader α} {valid : α → Prop}
    {encode : α → Bytes}
    (reads : ∀ bytes a rest, item.run bytes = .ok (a, rest) ↔ valid a ∧ bytes = encode a ++ rest)
      {value : Option α} {bytes rest : Bytes} :
    (FrameReader.optional item).run bytes = .ok (value, rest) ↔
      (∀ a ∈ value, valid a) ∧ bytes = optionalBytes encode value ++ rest := by
  simp only [FrameReader.optional, Reader.run_bind_ok, run_u8_ok]
  constructor
  · rintro ⟨tag, _, rfl, accepted⟩
    split at accepted
    · simp only [Reader.run_pure_ok] at accepted
      obtain ⟨rfl, rfl⟩ := accepted
      exact ⟨(by simp), rfl⟩
    · simp only [Reader.run_bind_ok, reads, Reader.run_pure_ok] at accepted
      obtain ⟨a, _, ⟨ok, rfl⟩, rfl, rfl⟩ := accepted
      exact ⟨by simpa using ok, rfl⟩
    · simp at accepted
  · rintro ⟨ok, rfl⟩
    cases value with
    | none => exact ⟨0, rest, rfl, by simp⟩
    | some a =>
      refine ⟨1, encode a ++ rest, rfl, ?_⟩
      exact Reader.run_bind_ok.mpr ⟨a, rest, (reads _ _ _).mpr ⟨ok a rfl, rfl⟩, by simp⟩

theorem optionalDigest_eq (value : Option ContentDigestV2) :
    FrameWriter.optionalDigest value = optionalBytes (fun digest => digest.bytes.toList) value := by
  cases value <;> rfl

theorem optionalU32_eq (value : Option UInt32) :
    FrameWriter.optionalU32 value = optionalBytes u32Be value := by
  cases value <;> rfl

theorem readOptionalDigest_run_ok {value : Option ContentDigestV2} {bytes rest : Bytes} :
    FrameReader.optionalDigest.run bytes = .ok (value, rest) ↔
      bytes = FrameWriter.optionalDigest value ++ rest := by
  have reads : ∀ bytes a rest, FrameReader.digest.run bytes = .ok (a, rest) ↔
      True ∧ bytes = a.bytes.toList ++ rest := by
    intro bytes a rest
    rw [readDigest_run_ok, true_and]
  rw [FrameReader.optionalDigest, readOptional_run_ok reads, optionalDigest_eq]
  simp

theorem readOptionalU32_run_ok {value : Option UInt32} {bytes rest : Bytes} :
    FrameReader.optionalU32.run bytes = .ok (value, rest) ↔
      (∀ entryId ∈ value, entryId.toNat < maxManifestV2Entries) ∧
        bytes = FrameWriter.optionalU32 value ++ rest := by
  rw [FrameReader.optionalU32, readOptional_run_ok (fun _ _ _ => readEntryId_run_ok),
    optionalU32_eq]

/-! ## Accept -/

def RootPlanOk (index : Nat) (root : RootPlanV2) : Prop :=
  root.rootId = UInt32.ofNat index ∧ FrameComponentOk root.plannedName

def rootPlanBytes (root : RootPlanV2) : Bytes :=
  u32Be root.rootId ++ componentBytes root.plannedName

theorem encodeRootPlan_writes (index : Nat) :
    Writes (encodeRootPlan index) (RootPlanOk index) rootPlanBytes := by
  intro root out
  simp only [encodeRootPlan, bind_eq_ok, reject_eq_ok, exists_unit, ne_eq, not_not,
    writeComponent_eq_ok, pure_eq_ok, RootPlanOk, rootPlanBytes]
  constructor
  · rintro ⟨position, _, ⟨safe, rfl⟩, rfl⟩
    exact ⟨⟨position, safe⟩, rfl⟩
  · rintro ⟨⟨position, safe⟩, rfl⟩
    exact ⟨position, _, ⟨safe, rfl⟩, rfl⟩

theorem decodeRootPlan_reads (index : Nat) :
    Reads (decodeRootPlan index) (RootPlanOk index) rootPlanBytes := by
  intro bytes root rest
  simp only [decodeRootPlan, Reader.run_bind_ok, run_u32_ok, run_lift_ok, reject_eq_ok, exists_unit,
    ne_eq, not_not, readComponent_run_ok, Reader.run_pure_ok, RootPlanOk, rootPlanBytes]
  constructor
  · rintro ⟨rootId, _, rfl, _, ⟨position, rfl⟩, name, _, ⟨safe, rfl⟩, rfl, rfl⟩
    exact ⟨⟨position, safe⟩, by simp⟩
  · rintro ⟨⟨position, safe⟩, rfl⟩
    exact ⟨_, _, by rw [List.append_assoc], _, ⟨position, rfl⟩, _, _, ⟨safe, rfl⟩, rfl, rfl⟩

def EntryPlanOk (index : Nat) (entry : EntryPlanV2) : Prop := entry.entryId = UInt32.ofNat index

def entryPlanBytes (entry : EntryPlanV2) : Bytes :=
  u32Be entry.entryId ++ [entry.disposition.tag] ++ u64Be entry.nextPlaintextBlock

theorem encodeEntryPlan_writes (index : Nat) :
    Writes (encodeEntryPlan index) (EntryPlanOk index) entryPlanBytes := by
  intro entry out
  simp only [encodeEntryPlan, bind_eq_ok, reject_eq_ok, exists_unit, ne_eq, not_not, pure_eq_ok,
    EntryPlanOk, entryPlanBytes, @eq_comm _ out]

theorem decodeEntryPlan_reads (index : Nat) :
    Reads (decodeEntryPlan index) (EntryPlanOk index) entryPlanBytes := by
  intro bytes entry rest
  simp only [decodeEntryPlan, Reader.run_bind_ok, run_u32_ok, run_u8_ok, run_u64_ok, run_lift_ok,
    reject_eq_ok, exists_unit, ne_eq, not_not, entryDisposition_eq_ok, Reader.run_pure_ok,
    EntryPlanOk, entryPlanBytes]
  constructor
  · rintro ⟨entryId, _, rfl, _, ⟨position, rfl⟩, _, _, rfl, disposition, _, ⟨rfl, rfl⟩, next, _,
      rfl, rfl, rfl⟩
    exact ⟨position, by simp⟩
  · rintro ⟨position, rfl⟩
    simp only [List.append_assoc, List.singleton_append]
    exact ⟨_, _, rfl, _, ⟨position, rfl⟩, _, _, rfl, _, _, ⟨rfl, rfl⟩, _, _, rfl, rfl, rfl⟩

structure AcceptOk (value : ManifestAcceptV2) : Prop where
  identity : IdentityOk value.identity
  capability : ¬ (value.proofCapability.bytes = ByteVector.zero 32 ∨ value.planRevision = 0)
  rootCount : value.rootPlans.length ≤ maxManifestV2Roots
  rootPlans : Each RootPlanOk 0 value.rootPlans
  entryCount : value.entryPlans.length ≤ maxManifestV2Entries
  entryPlans : Each EntryPlanOk 0 value.entryPlans

def acceptBytes (value : ManifestAcceptV2) : Bytes :=
  identityBytes value.identity ++ value.manifestDigest.bytes.toList ++ value.acceptNonce.toList ++
    value.proofCapability.bytes.toList ++ u32Be value.planRevision ++
    countBytes value.rootPlans.length ++ value.rootPlans.flatMap rootPlanBytes ++
    countBytes value.entryPlans.length ++ value.entryPlans.flatMap entryPlanBytes

theorem encodeAccept_writes : Writes encodeAccept AcceptOk acceptBytes := by
  intro value out
  have rootsFit : maxManifestV2Roots < 2 ^ 32 := by decide
  have entriesFit : maxManifestV2Entries < 2 ^ 32 := by decide
  simp only [encodeAccept, bind_eq_ok, writeIdentity_eq_ok, reject_eq_ok, exists_unit,
    writeCount_eq_ok rootsFit, writeCount_eq_ok entriesFit, writeMany_eq_ok encodeRootPlan_writes,
    writeMany_eq_ok encodeEntryPlan_writes, pure_eq_ok, acceptBytes]
  constructor
  · rintro ⟨_, ⟨identity, rfl⟩, capability, _, ⟨rootCount, rfl⟩, _, ⟨rootPlans, rfl⟩, _,
      ⟨entryCount, rfl⟩, _, ⟨entryPlans, rfl⟩, rfl⟩
    exact ⟨⟨identity, capability, rootCount, rootPlans, entryCount, entryPlans⟩, rfl⟩
  · rintro ⟨⟨identity, capability, rootCount, rootPlans, entryCount, entryPlans⟩, rfl⟩
    exact ⟨_, ⟨identity, rfl⟩, capability, _, ⟨rootCount, rfl⟩, _, ⟨rootPlans, rfl⟩, _,
      ⟨entryCount, rfl⟩, _, ⟨entryPlans, rfl⟩, rfl⟩

theorem decodeAccept_reads : Reads decodeAccept AcceptOk acceptBytes := by
  intro bytes value rest
  have rootsFit : maxManifestV2Roots < 2 ^ 32 := by decide
  have entriesFit : maxManifestV2Entries < 2 ^ 32 := by decide
  simp only [decodeAccept, Reader.run_bind_ok, readIdentity_run_ok, readDigest_run_ok,
    run_array_ok, run_u32_ok, run_lift_ok, reject_eq_ok, exists_unit, readCount_run_ok rootsFit,
    readCount_run_ok entriesFit, readMany_run_ok decodeRootPlan_reads,
    readMany_run_ok decodeEntryPlan_reads, Reader.run_pure_ok, acceptBytes]
  constructor
  · rintro ⟨identity, _, ⟨identityOk, rfl⟩, digest, _, rfl, nonce, _, rfl, capability, _, rfl,
      revision, _, rfl, _, ⟨capabilityOk, rfl⟩, _, _, ⟨rootCount, rfl⟩, roots, _,
      ⟨rfl, rootPlans, rfl⟩, _, _, ⟨entryCount, rfl⟩, entries, _, ⟨rfl, entryPlans, rfl⟩, rfl, rfl⟩
    exact ⟨⟨identityOk, capabilityOk, rootCount, rootPlans, entryCount, entryPlans⟩, by simp⟩
  · rintro ⟨⟨identity, capability, rootCount, rootPlans, entryCount, entryPlans⟩, rfl⟩
    simp only [List.append_assoc]
    exact ⟨_, _, ⟨identity, rfl⟩, _, _, rfl, _, _, rfl, _, _, rfl, _, _, rfl, _,
      ⟨capability, rfl⟩, _, _, ⟨rootCount, rfl⟩, _, _, ⟨rfl, rootPlans, rfl⟩, _, _,
      ⟨entryCount, rfl⟩, _, _, ⟨rfl, entryPlans, rfl⟩, rfl, rfl⟩

/-! ## Entry frames -/

structure EntryStartOk (value : EntryStartV2) : Prop where
  identity : IdentityOk value.identity
  entryId : value.entryId.toNat < maxManifestV2Entries
  block :
    ¬ (value.plaintextBlockBytes = 0 ∨ value.plaintextBlockBytes > maxManifestV2BlockPlaintextBytes)

def entryStartBytes (value : EntryStartV2) : Bytes :=
  identityBytes value.identity ++ u32Be value.entryId ++ [value.encoding.tag] ++
    u32Be value.plaintextBlockBytes

theorem encodeEntryStart_writes : Writes encodeEntryStart EntryStartOk entryStartBytes := by
  intro value out
  simp only [encodeEntryStart, bind_eq_ok, writeIdentity_eq_ok, checkedEntryId_eq_ok, reject_eq_ok,
    exists_unit, pure_eq_ok, entryStartBytes]
  constructor
  · rintro ⟨_, ⟨identity, rfl⟩, entryId, block, rfl⟩
    exact ⟨⟨identity, entryId, block⟩, rfl⟩
  · rintro ⟨⟨identity, entryId, block⟩, rfl⟩
    exact ⟨_, ⟨identity, rfl⟩, entryId, block, rfl⟩

theorem decodeEntryStart_reads : Reads decodeEntryStart EntryStartOk entryStartBytes := by
  intro bytes value rest
  simp only [decodeEntryStart, Reader.run_bind_ok, readIdentity_run_ok, readEntryId_run_ok,
    run_u8_ok, run_u32_ok, run_lift_ok, entryEncoding_eq_ok, reject_eq_ok, exists_unit,
    Reader.run_pure_ok, entryStartBytes]
  constructor
  · rintro ⟨identity, _, ⟨identityOk, rfl⟩, entryId, _, ⟨entryIdOk, rfl⟩, _, _, rfl, encoding, _,
      ⟨rfl, rfl⟩, block, _,
      rfl, _, ⟨blockOk, rfl⟩, rfl, rfl⟩
    exact ⟨⟨identityOk, entryIdOk, blockOk⟩, by simp⟩
  · rintro ⟨⟨identity, entryId, block⟩, rfl⟩
    simp only [List.append_assoc, List.singleton_append]
    exact ⟨_, _, ⟨identity, rfl⟩, _, _, ⟨entryId, rfl⟩, _, _, rfl, _, _, ⟨rfl, rfl⟩, _, _, rfl, _,
      ⟨block, rfl⟩, rfl,
      rfl⟩

structure EntryContentDigestOk (value : EntryContentDigestFrameV2) : Prop where
  identity : IdentityOk value.identity
  entryId : value.entryId.toNat < maxManifestV2Entries

def entryContentDigestBytes (value : EntryContentDigestFrameV2) : Bytes :=
  identityBytes value.identity ++ u32Be value.entryId ++ value.digest.bytes.toList ++
    [value.decision.tag]

theorem encodeEntryContentDigest_writes :
    Writes encodeEntryContentDigest EntryContentDigestOk entryContentDigestBytes := by
  intro value out
  simp only [encodeEntryContentDigest, bind_eq_ok, writeIdentity_eq_ok, checkedEntryId_eq_ok,
    exists_unit, pure_eq_ok, entryContentDigestBytes]
  constructor
  · rintro ⟨_, ⟨identity, rfl⟩, entryId, rfl⟩
    exact ⟨⟨identity, entryId⟩, rfl⟩
  · rintro ⟨⟨identity, entryId⟩, rfl⟩
    exact ⟨_, ⟨identity, rfl⟩, entryId, rfl⟩

theorem decodeEntryContentDigest_reads :
    Reads decodeEntryContentDigest EntryContentDigestOk entryContentDigestBytes := by
  intro bytes value rest
  simp only [decodeEntryContentDigest, Reader.run_bind_ok, readIdentity_run_ok, readEntryId_run_ok,
    readDigest_run_ok, run_u8_ok, run_lift_ok, entryDigestDecision_eq_ok, Reader.run_pure_ok,
    entryContentDigestBytes]
  constructor
  · rintro ⟨identity, _, ⟨identityOk, rfl⟩, entryId, _, ⟨entryIdOk, rfl⟩, digest, _, rfl, _, _, rfl,
      decision, _, ⟨rfl, rfl⟩, rfl, rfl⟩
    exact ⟨⟨identityOk, entryIdOk⟩, by simp⟩
  · rintro ⟨⟨identity, entryId⟩, rfl⟩
    simp only [List.append_assoc, List.singleton_append]
    exact ⟨_, _, ⟨identity, rfl⟩, _, _, ⟨entryId, rfl⟩, _, _, rfl, _, _, rfl, _, _,
      ⟨rfl, rfl⟩, rfl, rfl⟩

structure EntryBlockOk (value : EntryBlockV2) : Prop where
  identity : IdentityOk value.identity
  entryId : value.entryId.toNat < maxManifestV2Entries
  block : ¬ (value.plaintextLength = 0 ∨ value.plaintextLength > maxManifestV2BlockPlaintextBytes ∨
    value.encodedBytes = [])
  encoded : value.encodedBytes.length ≤ maxManifestV2BlockEncodedBytes.toNat

def entryBlockBytes (value : EntryBlockV2) : Bytes :=
  identityBytes value.identity ++ u32Be value.entryId ++ u64Be value.blockIndex ++
    u64Be value.plaintextOffset ++ u32Be value.plaintextLength ++
    countBytes value.encodedBytes.length ++ value.encodedBytes

theorem encodeEntryBlock_writes : Writes encodeEntryBlock EntryBlockOk entryBlockBytes := by
  intro value out
  have fits : maxManifestV2BlockEncodedBytes.toNat < 2 ^ 32 :=
    maxManifestV2BlockEncodedBytes.toNat_lt
  simp only [encodeEntryBlock, bind_eq_ok, writeIdentity_eq_ok, checkedEntryId_eq_ok, reject_eq_ok,
    exists_unit, pure_eq_ok, entryBlockBytes, countBytes, ge_iff_le, not_le]
  constructor
  · rintro ⟨_, ⟨identity, rfl⟩, entryId, block, _, rfl⟩
    simp only [not_or, gt_iff_lt, not_lt] at block
    have shape :
        ¬ (value.plaintextLength = 0 ∨ value.plaintextLength > maxManifestV2BlockPlaintextBytes ∨
        value.encodedBytes = []) := by
      simp only [not_or, gt_iff_lt]
      exact ⟨block.1, block.2.1, block.2.2.1⟩
    exact ⟨⟨identity, entryId, shape, block.2.2.2⟩, rfl⟩
  · rintro ⟨⟨identity, entryId, block, encoded⟩, rfl⟩
    refine ⟨_, ⟨identity, rfl⟩, entryId, ?_, Nat.lt_of_le_of_lt encoded fits, rfl⟩
    simp only [not_or, gt_iff_lt, not_lt] at block ⊢
    exact ⟨block.1, block.2.1, block.2.2, encoded⟩

theorem decodeEntryBlock_reads : Reads decodeEntryBlock EntryBlockOk entryBlockBytes := by
  intro bytes value rest
  have fits : maxManifestV2BlockEncodedBytes.toNat < 2 ^ 32 :=
    maxManifestV2BlockEncodedBytes.toNat_lt
  simp only [decodeEntryBlock, Reader.run_bind_ok, readIdentity_run_ok, readEntryId_run_ok,
    run_u64_ok, run_u32_ok, readBytes_run_ok fits, run_lift_ok, reject_eq_ok, exists_unit,
    Reader.run_pure_ok, entryBlockBytes]
  constructor
  · rintro ⟨identity, _, ⟨identityOk, rfl⟩, entryId, _, ⟨entryIdOk, rfl⟩, index, _, rfl, offset, _,
      rfl, length, _,
      rfl, encoded, _, ⟨encodedOk, rfl⟩, _, ⟨blockOk, rfl⟩, rfl, rfl⟩
    exact ⟨⟨identityOk, entryIdOk, blockOk, encodedOk⟩, by simp⟩
  · rintro ⟨⟨identity, entryId, block, encoded⟩, rfl⟩
    simp only [List.append_assoc]
    exact ⟨_, _, ⟨identity, rfl⟩, _, _, ⟨entryId, rfl⟩, _, _, rfl, _, _, rfl, _, _, rfl, _, _,
      ⟨encoded, rfl⟩, _, ⟨block, rfl⟩, rfl, rfl⟩

structure EntryCompleteOk (value : EntryCompleteV2) : Prop where
  identity : IdentityOk value.identity
  entryId : value.entryId.toNat < maxManifestV2Entries

def entryCompleteBytes (value : EntryCompleteV2) : Bytes :=
  identityBytes value.identity ++ u32Be value.entryId ++ u64Be value.finalSize ++
    value.finalDigest.bytes.toList ++ [value.completionChoice.tag]

theorem encodeEntryComplete_writes :
    Writes encodeEntryComplete EntryCompleteOk entryCompleteBytes := by
  intro value out
  simp only [encodeEntryComplete, bind_eq_ok, writeIdentity_eq_ok, checkedEntryId_eq_ok,
    exists_unit, pure_eq_ok, entryCompleteBytes]
  constructor
  · rintro ⟨_, ⟨identity, rfl⟩, entryId, rfl⟩
    exact ⟨⟨identity, entryId⟩, rfl⟩
  · rintro ⟨⟨identity, entryId⟩, rfl⟩
    exact ⟨_, ⟨identity, rfl⟩, entryId, rfl⟩

theorem decodeEntryComplete_reads :
    Reads decodeEntryComplete EntryCompleteOk entryCompleteBytes := by
  intro bytes value rest
  simp only [decodeEntryComplete, Reader.run_bind_ok, readIdentity_run_ok,
    readEntryId_run_ok, run_u64_ok, readDigest_run_ok, run_u8_ok, run_lift_ok,
    entryCompletion_eq_ok, Reader.run_pure_ok, entryCompleteBytes]
  constructor
  · rintro ⟨identity, _, ⟨identityOk, rfl⟩, entryId, _, ⟨entryIdOk, rfl⟩, size, _, rfl, digest, _,
      rfl, _, _, rfl, choice, _, ⟨rfl, rfl⟩, rfl, rfl⟩
    exact ⟨⟨identityOk, entryIdOk⟩, by simp⟩
  · rintro ⟨⟨identity, entryId⟩, rfl⟩
    simp only [List.append_assoc, List.singleton_append]
    exact ⟨_, _, ⟨identity, rfl⟩, _, _, ⟨entryId, rfl⟩, _, _, rfl, _, _, rfl, _, _, rfl, _, _,
      ⟨rfl, rfl⟩, rfl, rfl⟩

structure EntryResultOk (value : EntryResultV2) : Prop where
  identity : IdentityOk value.identity
  entryId : value.entryId.toNat < maxManifestV2Entries
  override : ∀ component ∈ value.finalComponentOverride, FrameComponentOk component

def entryResultBytes (value : EntryResultV2) : Bytes :=
  identityBytes value.identity ++ u32Be value.entryId ++ [value.result.tag] ++
    u64Be value.finalSize ++ FrameWriter.optionalDigest value.finalDigest ++
    optionalBytes componentBytes value.finalComponentOverride

theorem encodeEntryResultBody_writes :
    Writes encodeEntryResultBody EntryResultOk entryResultBytes := by
  intro value out
  have writeComponent : Writes FrameWriter.component FrameComponentOk componentBytes :=
    fun _ _ => writeComponent_eq_ok
  simp only [encodeEntryResultBody, bind_eq_ok, writeIdentity_eq_ok, checkedEntryId_eq_ok,
    exists_unit, writeOptional_eq_ok writeComponent, pure_eq_ok, entryResultBytes]
  constructor
  · rintro ⟨_, ⟨identity, rfl⟩, entryId, _, ⟨override, rfl⟩, rfl⟩
    exact ⟨⟨identity, entryId, override⟩, rfl⟩
  · rintro ⟨⟨identity, entryId, override⟩, rfl⟩
    exact ⟨_, ⟨identity, rfl⟩, entryId, _, ⟨override, rfl⟩, rfl⟩

theorem readEntryResult_reads : Reads FrameReader.entryResult EntryResultOk entryResultBytes := by
  intro bytes value rest
  have readOverride : ∀ (override : Option String) (bytes rest : Bytes),
      (FrameReader.optional FrameReader.component).run bytes = .ok (override, rest) ↔ _ :=
    fun _ _ _ => readOptional_run_ok (fun _ _ _ => readComponent_run_ok)
  simp only [FrameReader.entryResult, Reader.run_bind_ok, readIdentity_run_ok,
    readEntryId_run_ok, run_u64_ok, readOptionalDigest_run_ok, readOverride, run_u8_ok, run_lift_ok,
    entryResultKind_eq_ok, Reader.run_pure_ok, entryResultBytes]
  constructor
  · rintro ⟨identity, _, ⟨identityOk, rfl⟩, entryId, _, ⟨entryIdOk, rfl⟩, _, _, rfl, kind, _,
      ⟨rfl, rfl⟩, size, _,
      rfl, digest, _, rfl, override, _, ⟨overrideOk, rfl⟩, rfl, rfl⟩
    exact ⟨⟨identityOk, entryIdOk, overrideOk⟩, by simp⟩
  · rintro ⟨⟨identity, entryId, override⟩, rfl⟩
    simp only [List.append_assoc, List.singleton_append]
    exact ⟨_, _, ⟨identity, rfl⟩, _, _, ⟨entryId, rfl⟩, _, _, rfl, _, _, ⟨rfl, rfl⟩, _, _, rfl, _,
      _, rfl, _, _, ⟨override, rfl⟩, rfl, rfl⟩

/-! ## Completion and proof -/

def jobCompleteBytes (value : JobCompleteV2) : Bytes :=
  identityBytes value.identity ++ value.senderCompletionSetDigest.bytes.toList

theorem encodeJobComplete_writes :
    Writes encodeJobComplete (fun value => IdentityOk value.identity) jobCompleteBytes := by
  intro value out
  simp only [encodeJobComplete, bind_eq_ok, writeIdentity_eq_ok, pure_eq_ok, jobCompleteBytes]
  constructor
  · rintro ⟨_, ⟨identity, rfl⟩, rfl⟩
    exact ⟨identity, rfl⟩
  · rintro ⟨identity, rfl⟩
    exact ⟨_, ⟨identity, rfl⟩, rfl⟩

theorem decodeJobComplete_reads :
    Reads decodeJobComplete (fun value => IdentityOk value.identity) jobCompleteBytes := by
  intro bytes value rest
  simp only [decodeJobComplete, Reader.run_bind_ok, readIdentity_run_ok, readDigest_run_ok,
    Reader.run_pure_ok, jobCompleteBytes]
  constructor
  · rintro ⟨identity, _, ⟨identityOk, rfl⟩, digest, _, rfl, rfl, rfl⟩
    exact ⟨identityOk, by simp⟩
  · rintro ⟨identity, rfl⟩
    exact ⟨_, _, ⟨identity, by rw [List.append_assoc]⟩, _, _, rfl, rfl, rfl⟩

def deliveryProofBytes (value : DeliveryProofV2) : Bytes :=
  identityBytes value.identity ++ value.manifestDigest.bytes.toList ++
    value.resultSetDigest.bytes.toList ++ value.proofNonce.toList ++ value.proofMac.toList

theorem encodeDeliveryProof_writes :
    Writes encodeDeliveryProof (fun value => IdentityOk value.identity) deliveryProofBytes := by
  intro value out
  simp only [encodeDeliveryProof, bind_eq_ok, writeIdentity_eq_ok, pure_eq_ok, deliveryProofBytes]
  constructor
  · rintro ⟨_, ⟨identity, rfl⟩, rfl⟩
    exact ⟨identity, rfl⟩
  · rintro ⟨identity, rfl⟩
    exact ⟨_, ⟨identity, rfl⟩, rfl⟩

theorem decodeDeliveryProof_reads :
    Reads decodeDeliveryProof (fun value => IdentityOk value.identity) deliveryProofBytes := by
  intro bytes value rest
  simp only [decodeDeliveryProof, Reader.run_bind_ok, readIdentity_run_ok, readDigest_run_ok,
    run_array_ok, Reader.run_pure_ok, deliveryProofBytes]
  constructor
  · rintro ⟨identity, _, ⟨identityOk, rfl⟩, manifest, _, rfl, results, _, rfl, nonce, _, rfl, mac,
      _, rfl, rfl, rfl⟩
    exact ⟨identityOk, by simp⟩
  · rintro ⟨identity, rfl⟩
    simp only [List.append_assoc]
    exact ⟨_, _, ⟨identity, rfl⟩, _, _, rfl, _, _, rfl, _, _, rfl, _, _, rfl, rfl, rfl⟩

/-! ## Resume -/

def ResumeEntryOk (index : Nat) (entry : ResumeEntryV2) : Prop :=
  entry.entryId = UInt32.ofNat index ∧ ∀ result ∈ entry.entryResult, EntryResultOk result

def resumeEntryBytes (entry : ResumeEntryV2) : Bytes :=
  u32Be entry.entryId ++ [entry.arbiter.tag] ++ u64Be entry.nextPlaintextBlock ++
    FrameWriter.optionalDigest entry.contentDigest ++
    optionalBytes entryResultBytes entry.entryResult

theorem encodeResumeEntry_writes (index : Nat) :
    Writes (encodeResumeEntry index) (ResumeEntryOk index) resumeEntryBytes := by
  intro entry out
  simp only [encodeResumeEntry, bind_eq_ok, reject_eq_ok, exists_unit, ne_eq, not_not,
    writeOptional_eq_ok encodeEntryResultBody_writes, pure_eq_ok, ResumeEntryOk, resumeEntryBytes]
  constructor
  · rintro ⟨position, _, ⟨result, rfl⟩, rfl⟩
    exact ⟨⟨position, result⟩, rfl⟩
  · rintro ⟨⟨position, result⟩, rfl⟩
    exact ⟨position, _, ⟨result, rfl⟩, rfl⟩

/-- A result a resume status repeats must belong to the frame's job and to its own entry. -/
def ResultBelongs (identity : JobGenerationV2) (entry : ResumeEntryV2) : Prop :=
  ∀ result ∈ entry.entryResult, result.identity = identity ∧ result.entryId = entry.entryId

instance (identity : JobGenerationV2) (entry : ResumeEntryV2) :
    Decidable (ResultBelongs identity entry) :=
  inferInstanceAs (Decidable (∀ result ∈ entry.entryResult, _ ∧ _))

theorem decodeResumeEntry_reads (identity : JobGenerationV2) (index : Nat) :
    Reads (decodeResumeEntry identity index)
      (fun entry => (ResumeEntryOk index entry ∧ ResultBelongs identity entry) ∧
        entry.entryId.toNat < maxManifestV2Entries) resumeEntryBytes := by
  intro bytes entry rest
  have readResult : ∀ (result : Option EntryResultV2) (bytes rest : Bytes),
      (FrameReader.optional FrameReader.entryResult).run bytes = .ok (result, rest) ↔ _ :=
    fun _ _ _ => readOptional_run_ok readEntryResult_reads
  have belongs : ∀ (result : Option EntryResultV2) (entryId : UInt32),
      ¬ (∃ found ∈ result, found.identity ≠ identity ∨ found.entryId ≠ entryId) ↔
        ∀ found ∈ result, found.identity = identity ∧ found.entryId = entryId := by
    intro result entryId
    simp only [not_exists, not_and, not_or, ne_eq, not_not]
  simp only [decodeResumeEntry, Reader.run_bind_ok, readEntryId_run_ok, run_u8_ok, run_u64_ok,
    run_lift_ok, reject_eq_ok, exists_unit, entryArbiter_eq_ok, readOptionalDigest_run_ok,
    readResult, belongs, Reader.run_pure_ok, ResumeEntryOk, ResultBelongs, resumeEntryBytes]
  constructor
  · rintro ⟨entryId, _, ⟨known, rfl⟩, _, ⟨position, rfl⟩, _, _, rfl, arbiter, _, ⟨rfl, rfl⟩, next,
      _, rfl, digest, _,
      rfl, result, _, ⟨resultOk, rfl⟩, _, ⟨own, rfl⟩, rfl, rfl⟩
    exact ⟨⟨⟨⟨not_not.mp position, resultOk⟩, own⟩, known⟩, by simp⟩
  · rintro ⟨⟨⟨⟨position, resultOk⟩, own⟩, known⟩, rfl⟩
    simp only [List.append_assoc, List.singleton_append]
    exact ⟨_, _, ⟨known, rfl⟩, _, ⟨not_not.mpr position, rfl⟩, _, _, rfl, _, _, ⟨rfl, rfl⟩, _, _,
      rfl, _, _, rfl, _, _, ⟨resultOk, rfl⟩, _, ⟨own, rfl⟩, rfl, rfl⟩

structure ResumeStatusOk (value : ResumeStatusV2) : Prop where
  identity : IdentityOk value.identity
  challenge :
    ¬ (value.challengeNonce = ByteVector.zero 32 ∨ value.challengeMac = ByteVector.zero 32)
  entryCount : value.entries.length ≤ maxManifestV2Entries
  entries : Each ResumeEntryOk 0 value.entries

def resumeStatusBytes (value : ResumeStatusV2) : Bytes :=
  identityBytes value.identity ++ value.acceptBodyDigest.bytes.toList ++ u32Be value.planRevision ++
    countBytes value.entries.length ++ value.entries.flatMap resumeEntryBytes ++
    value.challengeNonce.toList ++ value.challengeMac.toList

theorem encodeResumeStatus_writes : Writes encodeResumeStatus ResumeStatusOk resumeStatusBytes := by
  intro value out
  have entriesFit : maxManifestV2Entries < 2 ^ 32 := by decide
  simp only [encodeResumeStatus, bind_eq_ok, writeIdentity_eq_ok, reject_eq_ok, exists_unit,
    writeCount_eq_ok entriesFit, writeMany_eq_ok encodeResumeEntry_writes, pure_eq_ok,
    resumeStatusBytes]
  constructor
  · rintro ⟨_, ⟨identity, rfl⟩, challenge, _, ⟨entryCount, rfl⟩, _, ⟨entries, rfl⟩, rfl⟩
    exact ⟨⟨identity, challenge, entryCount, entries⟩, rfl⟩
  · rintro ⟨⟨identity, challenge, entryCount, entries⟩, rfl⟩
    exact ⟨_, ⟨identity, rfl⟩, challenge, _, ⟨entryCount, rfl⟩, _, ⟨entries, rfl⟩, rfl⟩

/-- Entry ids by position stay below the entry limit. -/
theorem resumeEntries_known {entries : List ResumeEntryV2}
    (small : entries.length ≤ maxManifestV2Entries) (each : Each ResumeEntryOk 0 entries) :
    Each (fun _ entry => entry.entryId.toNat < maxManifestV2Entries) 0 entries := by
  rw [each_iff_getElem] at each ⊢
  intro index entry found
  obtain ⟨bound, _⟩ := List.getElem?_eq_some_iff.mp found
  have limit : maxManifestV2Entries < UInt32.size := by decide
  rw [(each index entry found).1, Nat.zero_add, UInt32.toNat_ofNat_of_lt' (by omega)]
  omega

theorem decodeResumeStatus_reads :
    Reads decodeResumeStatus
      (fun value => ResumeStatusOk value ∧
        ∀ entry ∈ value.entries, ResultBelongs value.identity entry)
      resumeStatusBytes := by
  intro bytes value rest
  have entriesFit : maxManifestV2Entries < 2 ^ 32 := by decide
  have readEntries : ∀ (identity : JobGenerationV2) (count : Nat) (bytes rest : Bytes)
      (entries : List ResumeEntryV2),
      (readMany (decodeResumeEntry identity) 0 count).run bytes = .ok (entries, rest) ↔ _ :=
    fun identity _ _ _ _ => readMany_run_ok (decodeResumeEntry_reads identity)
  simp only [decodeResumeStatus, Reader.run_bind_ok, readIdentity_run_ok,
    readDigest_run_ok, run_u32_ok, readCount_run_ok entriesFit, readEntries, each_and, run_array_ok,
    run_lift_ok, reject_eq_ok, exists_unit, Reader.run_pure_ok, resumeStatusBytes]
  constructor
  · rintro ⟨identity, _, ⟨identityOk, rfl⟩, digest, _, rfl, revision, _, rfl, _, _,
      ⟨entryCount, rfl⟩, entries, _, ⟨rfl, ⟨⟨entriesOk, own⟩, _⟩, rfl⟩, nonce, _, rfl, mac, _, rfl,
      _, ⟨challenge, rfl⟩, rfl, rfl⟩
    rw [each_iff_getElem] at own
    refine ⟨⟨⟨identityOk, challenge, entryCount, entriesOk⟩, fun entry member => ?_⟩, by simp⟩
    obtain ⟨index, found⟩ := List.getElem?_of_mem member
    exact own index entry found
  · rintro ⟨⟨⟨identity, challenge, entryCount, entries⟩, own⟩, rfl⟩
    simp only [List.append_assoc]
    exact ⟨_, _, ⟨identity, rfl⟩, _, _, rfl, _, _, rfl, _, _, ⟨entryCount, rfl⟩, _, _,
      ⟨rfl, ⟨⟨entries, each_of_forall (fun _ => own)⟩, resumeEntries_known entryCount entries⟩,
        rfl⟩, _, _, rfl, _, _,
      rfl, _, ⟨challenge, rfl⟩, rfl, rfl⟩

/-! ## Cancel and error -/

structure CancelOk (value : CancelV2) : Prop where
  identity : IdentityOk value.identity
  scope : cancelScopeDisagrees value.scope value.entryId = false

def cancelBytes (value : CancelV2) : Bytes :=
  identityBytes value.identity ++ [value.scope.tag] ++ FrameWriter.optionalU32 value.entryId ++
    u32Be value.failureCode

theorem encodeCancel_writes : Writes encodeCancel CancelOk cancelBytes := by
  intro value out
  simp only [encodeCancel, bind_eq_ok, writeIdentity_eq_ok, reject_eq_ok, exists_unit, pure_eq_ok,
    cancelBytes, Bool.not_eq_true]
  constructor
  · rintro ⟨_, ⟨identity, rfl⟩, scope, rfl⟩
    exact ⟨⟨identity, scope⟩, rfl⟩
  · rintro ⟨⟨identity, scope⟩, rfl⟩
    exact ⟨_, ⟨identity, rfl⟩, scope, rfl⟩

theorem decodeCancel_reads :
    Reads decodeCancel
      (fun value => CancelOk value ∧
        ∀ entryId ∈ value.entryId, entryId.toNat < maxManifestV2Entries)
      cancelBytes := by
  intro bytes value rest
  simp only [decodeCancel, Reader.run_bind_ok, readIdentity_run_ok, run_u8_ok, run_lift_ok,
    cancelScope_eq_ok, readOptionalU32_run_ok, reject_eq_ok, exists_unit, run_u32_ok,
    Reader.run_pure_ok, cancelBytes, Bool.not_eq_true]
  constructor
  · rintro ⟨identity, _, ⟨identityOk, rfl⟩, _, _, rfl, scope, _, ⟨rfl, rfl⟩, entryId, _,
      ⟨known, rfl⟩, _, ⟨scopeOk, rfl⟩, code, _, rfl, rfl, rfl⟩
    exact ⟨⟨⟨identityOk, scopeOk⟩, known⟩, by simp⟩
  · rintro ⟨⟨⟨identity, scope⟩, known⟩, rfl⟩
    simp only [List.append_assoc, List.singleton_append]
    exact ⟨_, _, ⟨identity, rfl⟩, _, _, rfl, _, _, ⟨rfl, rfl⟩, _, _, ⟨known, rfl⟩, _, ⟨scope, rfl⟩,
      _, _, rfl, rfl,
      rfl⟩

def errorBytes (value : ManifestErrorV2) : Bytes :=
  identityBytes value.identity ++ u32Be value.failureCode ++ [value.phase.tag] ++
    FrameWriter.optionalU32 value.entryId

theorem encodeError_writes :
    Writes encodeError (fun value => IdentityOk value.identity) errorBytes := by
  intro value out
  simp only [encodeError, bind_eq_ok, writeIdentity_eq_ok, pure_eq_ok, errorBytes]
  constructor
  · rintro ⟨_, ⟨identity, rfl⟩, rfl⟩
    exact ⟨identity, rfl⟩
  · rintro ⟨identity, rfl⟩
    exact ⟨_, ⟨identity, rfl⟩, rfl⟩

theorem decodeError_reads :
    Reads decodeError
      (fun value => IdentityOk value.identity ∧
        ∀ entryId ∈ value.entryId, entryId.toNat < maxManifestV2Entries)
      errorBytes := by
  intro bytes value rest
  simp only [decodeError, Reader.run_bind_ok, readIdentity_run_ok, run_u32_ok, run_u8_ok,
    run_lift_ok, failurePhase_eq_ok, readOptionalU32_run_ok, Reader.run_pure_ok, errorBytes]
  constructor
  · rintro ⟨identity, _, ⟨identityOk, rfl⟩, code, _, rfl, _, _, rfl, phase, _, ⟨rfl, rfl⟩, entryId,
      _, ⟨known, rfl⟩,
      rfl, rfl⟩
    exact ⟨⟨identityOk, known⟩, by simp⟩
  · rintro ⟨⟨identity, known⟩, rfl⟩
    simp only [List.append_assoc, List.singleton_append]
    exact ⟨_, _, ⟨identity, rfl⟩, _, _, rfl, _, _, rfl, _, _, ⟨rfl, rfl⟩, _, _,
      ⟨known, rfl⟩, rfl, rfl⟩

/-! ## Embedded offers -/

section Offers

variable [Blake3] [UnicodeNormalization]

/-- An offer whose digest seals its own manifest, and that fits its budget. -/
structure OfferOk (offer : ManifestOfferV2) : Prop where
  forest : CanonicalForest offer.manifest
  digest : offer.structuralDigest = ⟨Blake3.hash (encodeManifestBody offer.manifest)⟩
  small : (offerBytes offer.manifest).length ≤ maxManifestV2EncodedBytes

theorem encodeOfferChecked_eq_ok {offer : ManifestOfferV2} {out : Bytes} :
    encodeOfferChecked offer = .ok out ↔ OfferOk offer ∧ out = offerBytes offer.manifest := by
  simp only [encodeOfferChecked, buildManifestOfferV2, bind_eq_ok, mapErr_eq_ok,
    exists_unit, pure_eq_ok, reject_eq_ok, ne_eq, not_not, encodeManifestOfferV2_eq_ok,
    validate_eq_ok, accepted_iff_canonicalForest]
  constructor
  · rintro ⟨_, ⟨_, rfl⟩, digest, forest, small, rfl⟩
    exact ⟨⟨forest, digest.symm, small⟩, rfl⟩
  · rintro ⟨⟨forest, digest, small⟩, rfl⟩
    exact ⟨_, ⟨forest, rfl⟩, digest.symm, forest, small, rfl⟩

theorem decodeOffer_eq_ok {offer : ManifestOfferV2} {encoded : Bytes} :
    decodeManifestOfferV2 encoded = .ok offer ↔
      OfferOk offer ∧ encoded = offerBytes offer.manifest := by
  rw [decodeManifestOfferV2_eq_ok]
  constructor
  · rintro ⟨forest, small, rfl, digest⟩
    exact ⟨⟨forest, digest, small⟩, rfl⟩
  · rintro ⟨⟨forest, digest, small⟩, rfl⟩
    exact ⟨forest, small, rfl, digest⟩

structure ResumeRequestOk (value : ResumeRequestV2) : Prop where
  identity : IdentityOk value.identity
  challenge : value.challengeNonce ≠ ByteVector.zero 32
  job : ¬ (value.identity.jobId ≠ value.offer.manifest.jobId ∨
    value.identity.generation ≠ value.offer.manifest.generation)
  offer : OfferOk value.offer

def resumeRequestBytes (value : ResumeRequestV2) : Bytes :=
  identityBytes value.identity ++ countBytes (offerBytes value.offer.manifest).length ++
    offerBytes value.offer.manifest ++ value.acceptBodyDigest.bytes.toList ++
    value.senderCheckpointDigest.bytes.toList ++ value.challengeNonce.toList

theorem encodeResumeRequest_writes :
    Writes encodeResumeRequest ResumeRequestOk resumeRequestBytes := by
  intro value out
  have fits : maxManifestV2EncodedBytes < 2 ^ 32 := by decide
  simp only [encodeResumeRequest, bind_eq_ok, writeIdentity_eq_ok, reject_eq_ok, exists_unit,
    encodeOfferChecked_eq_ok, pure_eq_ok, resumeRequestBytes, countBytes, ge_iff_le, not_le]
  constructor
  · rintro ⟨_, ⟨identity, rfl⟩, challenge, job, _, ⟨offer, rfl⟩, _, rfl⟩
    exact ⟨⟨identity, challenge, job, offer⟩, rfl⟩
  · rintro ⟨⟨identity, challenge, job, offer⟩, rfl⟩
    exact ⟨_, ⟨identity, rfl⟩, challenge, job, _, ⟨offer, rfl⟩,
      Nat.lt_of_le_of_lt offer.small fits, rfl⟩

theorem decodeResumeRequest_reads :
    Reads decodeResumeRequest ResumeRequestOk resumeRequestBytes := by
  intro bytes value rest
  have fits : maxManifestV2EncodedBytes < 2 ^ 32 := by decide
  simp only [decodeResumeRequest, Reader.run_bind_ok, readIdentity_run_ok, readBytes_run_ok fits,
    run_lift_ok, mapErr_eq_ok, decodeOffer_eq_ok, reject_eq_ok, exists_unit, readDigest_run_ok,
    run_array_ok, Reader.run_pure_ok, resumeRequestBytes]
  constructor
  · rintro ⟨identity, _, ⟨identityOk, rfl⟩, _, _, ⟨_, rfl⟩, offer, _, ⟨⟨offerOk, rfl⟩, rfl⟩, _,
      ⟨job, rfl⟩, accept, _,
      rfl, checkpoint, _, rfl, nonce, _, rfl, _, ⟨challenge, rfl⟩, rfl, rfl⟩
    exact ⟨⟨identityOk, challenge, job, offerOk⟩, by simp⟩
  · rintro ⟨⟨identity, challenge, job, offer⟩, rfl⟩
    simp only [List.append_assoc]
    exact ⟨_, _, ⟨identity, rfl⟩, _, _, ⟨offer.small, rfl⟩, value.offer, _, ⟨⟨offer, rfl⟩, rfl⟩, _,
      ⟨job, rfl⟩, _, _,
      rfl, _, _, rfl, _, _, rfl, _, ⟨challenge, rfl⟩, rfl, rfl⟩

end Offers

/-! ## Whole frames -/

/-- The checks of the decoder that the encoder does not make: an optional entry id stays below
the entry limit, and an embedded result belongs to its frame and entry. -/
def Readable : ManifestV2Frame → Prop
  | .resumeStatus value => ∀ entry ∈ value.entries, ResultBelongs value.identity entry
  | .cancel value => ∀ entryId ∈ value.entryId, entryId.toNat < maxManifestV2Entries
  | .error value => ∀ entryId ∈ value.entryId, entryId.toNat < maxManifestV2Entries
  | _ => True

theorem parseHeader_eq_ok {encoded : Bytes} {header : Header} :
    parseHeader encoded = .ok header ↔
      ∃ (length : UInt32) (payload : Bytes), header.payloadLength = length.toNat ∧
        encoded = offerMagic ++ u16Be manifestV2ProtocolVersion ++ u16Be header.frameType.code ++
          u32Be length ++ payload := by
  simp only [parseHeader, bind_eq_ok, reject_eq_ok, exists_unit, not_lt, Prod.exists,
    Reader.run_bind_ok, exact_run_ok, run_lift_ok, ne_eq, not_not, run_u16_ok, run_u32_ok,
    frameType_eq_ok, Reader.run_pure_ok, pure_eq_ok]
  constructor
  · rintro ⟨long, _, _,
      ⟨_, _, ⟨_, magic⟩, _, ⟨rfl, rfl⟩, _, _, rfl, _, ⟨rfl, rfl⟩, _, _, rfl, type, _, ⟨rfl, rfl⟩,
        length, rest, rfl, rfl, rfl⟩, rfl⟩
    have whole : encoded = encoded.take headerBytes ++ encoded.drop headerBytes :=
      (List.take_append_drop _ _).symm
    rw [magic] at whole
    refine ⟨length, rest ++ encoded.drop headerBytes, rfl, ?_⟩
    simpa using whole
  · rintro ⟨length, payload, declared, rfl⟩
    have head :
        (offerMagic ++ u16Be manifestV2ProtocolVersion ++ u16Be header.frameType.code ++
          u32Be length ++
        payload).take headerBytes =
        offerMagic ++
          (u16Be manifestV2ProtocolVersion ++
            (u16Be header.frameType.code ++ (u32Be length ++ []))) := by
      rw [List.take_left' (by simp [offerMagic, headerBytes])]
      simp
    refine ⟨by simp [offerMagic, headerBytes]; omega, header, [], ?_, rfl⟩
    rw [head]
    refine ⟨offerMagic, _, ⟨rfl, rfl⟩, _, ⟨rfl, rfl⟩, _, _, rfl, _, ⟨rfl, rfl⟩, _, _, rfl,
      header.frameType, _, ⟨rfl, rfl⟩, length, [], rfl, ?_, rfl⟩
    cases header
    simp only at declared
    rw [declared]

section Frames

variable [Blake3] [UnicodeNormalization]

/-- The checks of the encoder. -/
def PayloadOk : ManifestV2Frame → Prop
  | .offer value => OfferOk value
  | .accept value => AcceptOk value
  | .entryStart value => EntryStartOk value
  | .entryContentDigest value => EntryContentDigestOk value
  | .entryBlock value => EntryBlockOk value
  | .entryComplete value => EntryCompleteOk value
  | .entryResult value => EntryResultOk value
  | .jobComplete value => IdentityOk value.identity
  | .deliveryProof value => IdentityOk value.identity
  | .resumeRequest value => ResumeRequestOk value
  | .resumeStatus value => ResumeStatusOk value
  | .cancel value => CancelOk value
  | .error value => IdentityOk value.identity

def payloadBytes : ManifestV2Frame → Bytes
  | .offer value =>
    (Blake3.hash (encodeManifestBody value.manifest)).toList ++ encodeManifestBody value.manifest
  | .accept value => acceptBytes value
  | .entryStart value => entryStartBytes value
  | .entryContentDigest value => entryContentDigestBytes value
  | .entryBlock value => entryBlockBytes value
  | .entryComplete value => entryCompleteBytes value
  | .entryResult value => entryResultBytes value
  | .jobComplete value => jobCompleteBytes value
  | .deliveryProof value => deliveryProofBytes value
  | .resumeRequest value => resumeRequestBytes value
  | .resumeStatus value => resumeStatusBytes value
  | .cancel value => cancelBytes value
  | .error value => errorBytes value

theorem encodePayload_eq_ok {frame : ManifestV2Frame} (structured : frame.type ≠ .offer)
    {out : Bytes} :
    encodePayload frame = .ok out ↔ PayloadOk frame ∧ out = payloadBytes frame := by
  cases frame with
  | offer value => exact absurd rfl structured
  | accept value => exact encodeAccept_writes value out
  | entryStart value => exact encodeEntryStart_writes value out
  | entryContentDigest value => exact encodeEntryContentDigest_writes value out
  | entryBlock value => exact encodeEntryBlock_writes value out
  | entryComplete value => exact encodeEntryComplete_writes value out
  | entryResult value => exact encodeEntryResultBody_writes value out
  | jobComplete value => exact encodeJobComplete_writes value out
  | deliveryProof value => exact encodeDeliveryProof_writes value out
  | resumeRequest value => exact encodeResumeRequest_writes value out
  | resumeStatus value => exact encodeResumeStatus_writes value out
  | cancel value => exact encodeCancel_writes value out
  | error value => exact encodeError_writes value out

theorem type_of_decodePayload {type : ManifestV2FrameType} {frame : ManifestV2Frame}
    {bytes rest : Bytes} (decodes : (decodePayload type).run bytes = .ok (frame, rest)) :
    frame.type = type ∧ type ≠ .offer := by
  cases type <;> simp [decodePayload] at decodes <;> obtain ⟨_, _, rfl⟩ :=
    decodes <;> exact ⟨rfl, nofun⟩

theorem decodePayload_run_ok {frame : ManifestV2Frame} (structured : frame.type ≠ .offer)
    {bytes rest : Bytes} :
    (decodePayload frame.type).run bytes = .ok (frame, rest) ↔
      (PayloadOk frame ∧ Readable frame) ∧ bytes = payloadBytes frame ++ rest := by
  cases frame with
  | offer value => exact absurd rfl structured
  | accept value =>
    simp [decodePayload, ManifestV2Frame.type, PayloadOk, Readable, payloadBytes,
      decodeAccept_reads _ _ _]
  | entryStart value =>
    simp [decodePayload, ManifestV2Frame.type, PayloadOk, Readable, payloadBytes,
      decodeEntryStart_reads _ _ _]
  | entryContentDigest value =>
    simp [decodePayload, ManifestV2Frame.type, PayloadOk, Readable, payloadBytes,
      decodeEntryContentDigest_reads _ _ _]
  | entryBlock value =>
    simp [decodePayload, ManifestV2Frame.type, PayloadOk, Readable, payloadBytes,
      decodeEntryBlock_reads _ _ _]
  | entryComplete value =>
    simp [decodePayload, ManifestV2Frame.type, PayloadOk, Readable, payloadBytes,
      decodeEntryComplete_reads _ _ _]
  | entryResult value =>
    simp [decodePayload, ManifestV2Frame.type, PayloadOk, Readable, payloadBytes,
      readEntryResult_reads _ _ _]
  | jobComplete value =>
    simp [decodePayload, ManifestV2Frame.type, PayloadOk, Readable, payloadBytes,
      decodeJobComplete_reads _ _ _]
  | deliveryProof value =>
    simp [decodePayload, ManifestV2Frame.type, PayloadOk, Readable, payloadBytes,
      decodeDeliveryProof_reads _ _ _]
  | resumeRequest value =>
    simp [decodePayload, ManifestV2Frame.type, PayloadOk, Readable, payloadBytes,
      decodeResumeRequest_reads _ _ _]
  | resumeStatus value =>
    simp [decodePayload, ManifestV2Frame.type, PayloadOk, Readable, payloadBytes,
      decodeResumeStatus_reads _ _ _]
  | cancel value =>
    simp [decodePayload, ManifestV2Frame.type, PayloadOk, Readable, payloadBytes,
      decodeCancel_reads _ _ _]
  | error value =>
    simp [decodePayload, ManifestV2Frame.type, PayloadOk, Readable, payloadBytes,
      decodeError_reads _ _ _]

/-- A frame on the wire. -/
def frameBytes (frame : ManifestV2Frame) : Bytes :=
  offerMagic ++ u16Be manifestV2ProtocolVersion ++ u16Be frame.type.code ++
    u32Be (UInt32.ofNat (payloadBytes frame).length) ++ payloadBytes frame

/-- The payload stays within the bound of its frame type. -/
def Bounded (frame : ManifestV2Frame) : Prop :=
  ∃ maximum, maximumPayloadBytes frame.type = .ok maximum ∧ (payloadBytes frame).length ≤ maximum

omit [Blake3] [UnicodeNormalization] in
theorem maximumPayloadBytes_lt {type : ManifestV2FrameType} {maximum : Nat}
    (found : maximumPayloadBytes type = .ok maximum) : maximum < 2 ^ 32 := by
  have block : maximumPayloadBytes .entryBlock = .ok 16842800 := by decide
  have request : maximumPayloadBytes .resumeRequest = .ok 4194424 := by decide
  have control : maxControlFrameBytes - headerBytes < 2 ^ 32 := by decide
  cases type with
  | entryBlock => rw [block] at found; cases found; decide
  | resumeRequest => rw [request] at found; cases found; decide
  | _ => cases found; exact control

omit [UnicodeNormalization] in
theorem offerBytes_eq (offer : ManifestOfferV2) :
    offerBytes offer.manifest = frameBytes (.offer offer) := by
  simp [offerBytes, frameBytes, payloadBytes, ManifestV2Frame.type]

omit [UnicodeNormalization] in
theorem offer_bounded (offer : ManifestOfferV2) :
    (offerBytes offer.manifest).length ≤ maxManifestV2EncodedBytes ↔ Bounded (.offer offer) := by
  have limit : maxControlFrameBytes - headerBytes + 12 = maxManifestV2EncodedBytes := by decide
  have payload :
      (payloadBytes (.offer offer)).length = 32 + (encodeManifestBody offer.manifest).length := by
    simp [payloadBytes]
  rw [length_offerBytes]
  simp only [Bounded, ManifestV2Frame.type, maximumPayloadBytes, Except.ok.injEq,
    exists_eq_left', payload]
  omega

theorem encodeManifestV2Frame_eq_ok {frame : ManifestV2Frame} {out : Bytes} :
    encodeManifestV2Frame frame = .ok out ↔ (PayloadOk frame ∧ Bounded frame) ∧
      out = frameBytes frame := by
  by_cases structured : frame.type = .offer
  · cases frame with
    | offer offer =>
      rw [encodeManifestV2Frame, encodeOfferChecked_eq_ok, offerBytes_eq]
      have bounded := fun ok : OfferOk offer => (offer_bounded offer).mp ok.small
      exact ⟨fun ⟨ok, bytes⟩ => ⟨⟨ok, bounded ok⟩, bytes⟩, fun ⟨⟨ok, _⟩, bytes⟩ => ⟨ok, bytes⟩⟩
    | _ => cases structured
  · have unfolded : encodeManifestV2Frame frame = (do
        let payload ← encodePayload frame
        let maximum ← maximumPayloadBytes frame.type
        reject (payload.length > maximum) .frameTooLarge
        reject (payload.length ≥ 2 ^ 32) .frameTooLarge
        pure (offerMagic ++ u16Be manifestV2ProtocolVersion ++ u16Be frame.type.code ++
          u32Be (UInt32.ofNat payload.length) ++ payload)) := by
      cases frame with
      | offer offer => exact absurd rfl structured
      | _ => rfl
    rw [unfolded]
    simp only [bind_eq_ok, encodePayload_eq_ok structured, reject_eq_ok, exists_unit, pure_eq_ok,
      gt_iff_lt, not_lt, ge_iff_le, not_le, Bounded, frameBytes]
    constructor
    · rintro ⟨_, ⟨ok, rfl⟩, maximum, found, small, _, rfl⟩
      exact ⟨⟨ok, maximum, found, small⟩, rfl⟩
    · rintro ⟨⟨ok, maximum, found, small⟩, rfl⟩
      exact ⟨_, ⟨ok, rfl⟩, maximum, found, small,
        Nat.lt_of_le_of_lt small (maximumPayloadBytes_lt found), rfl⟩

theorem decodeManifestV2Frame_eq_ok {frame : ManifestV2Frame} {encoded : Bytes} :
    decodeManifestV2Frame encoded = .ok frame ↔
      (PayloadOk frame ∧ Bounded frame) ∧ Readable frame ∧ encoded = frameBytes frame := by
  have dropHeader : ∀ (type : ManifestV2FrameType) (length : UInt32) (payload : Bytes),
      (offerMagic ++ u16Be manifestV2ProtocolVersion ++ u16Be type.code ++ u32Be length ++
        payload).drop headerBytes =
        payload :=
    fun _ _ _ => List.drop_left' (by simp [offerMagic, headerBytes])
  have wholeLength : ∀ (type : ManifestV2FrameType) (length : UInt32) (payload : Bytes),
      (offerMagic ++ u16Be manifestV2ProtocolVersion ++ u16Be type.code ++ u32Be length ++
        payload).length =
        headerBytes + payload.length :=
    fun _ _ _ => by simp [offerMagic, headerBytes]; omega
  simp only [decodeManifestV2Frame, bind_eq_ok, parseHeader_eq_ok, reject_eq_ok, exists_unit,
    ne_eq, not_not, ite_eq_ok, mapErr_eq_ok, decodeOffer_eq_ok, pure_eq_ok, gt_iff_lt, not_lt,
    Prod.exists]
  constructor
  · rintro ⟨header, ⟨length, payload, declared, rfl⟩, actual, route⟩
    rw [wholeLength, Nat.add_left_cancel_iff, declared] at actual
    have payloadLength : UInt32.ofNat payload.length = length := by rw [actual, UInt32.ofNat_toNat]
    rcases route with ⟨isOffer, offer, ⟨ok, bytes⟩, rfl⟩ | ⟨structured, maximum, found, small,
      decoded, rest, read, drained, rfl⟩
    · exact ⟨⟨ok, (offer_bounded offer).mp ok.small⟩, trivial, by rw [bytes, offerBytes_eq]⟩
    · rw [dropHeader] at read
      subst drained
      obtain ⟨sameType, _⟩ := type_of_decodePayload read
      rw [← sameType] at read structured found
      obtain ⟨⟨ok, readable⟩, payloadIs⟩ := (decodePayload_run_ok structured).mp read
      rw [List.append_nil] at payloadIs
      refine ⟨⟨ok, maximum, found, ?_⟩, readable, ?_⟩
      · rwa [← payloadIs, actual, ← declared]
      · rw [frameBytes, ← payloadIs, payloadLength, sameType]
  · rintro ⟨⟨ok, maximum, found, small⟩, readable, rfl⟩
    have length : (UInt32.ofNat (payloadBytes frame).length).toNat = (payloadBytes frame).length :=
      UInt32.toNat_ofNat_of_lt' (Nat.lt_of_le_of_lt small (maximumPayloadBytes_lt found))
    refine ⟨⟨frame.type, (payloadBytes frame).length⟩, ⟨_, payloadBytes frame, length.symm, rfl⟩,
      wholeLength _ _ _, ?_⟩
    by_cases structured : frame.type = .offer
    · cases frame with
      | offer offer => exact .inl ⟨rfl, offer, ⟨ok, (offerBytes_eq offer).symm⟩, rfl⟩
      | _ => cases structured
    · refine .inr ⟨structured, maximum, found, small, frame, [], ?_, rfl, rfl⟩
      rw [frameBytes, dropHeader]
      exact (decodePayload_run_ok structured).mpr ⟨⟨ok, readable⟩, (List.append_nil _).symm⟩

/-- An encoded frame decodes to itself exactly when the decoder's own checks hold. -/
theorem decode_encode_iff_readable (frame : ManifestV2Frame) (encoded : Bytes)
    (encodes : encodeManifestV2Frame frame = .ok encoded) :
    decodeManifestV2Frame encoded = .ok frame ↔ Readable frame := by
  obtain ⟨ok, rfl⟩ := encodeManifestV2Frame_eq_ok.mp encodes
  rw [decodeManifestV2Frame_eq_ok]
  exact ⟨fun ⟨_, readable, _⟩ => readable, fun readable => ⟨ok, readable, rfl⟩⟩

end Frames

/-- A cancellation of one entry of the sample job. -/
def cancelEntry (entryId : UInt32) : ManifestV2Frame :=
  .cancel {
    identity := { jobId := sampleManifest.jobId, generation := 7 }, scope := .entry,
    entryId := some entryId, failureCode := 2 }

/-- The wire form of `cancelEntry`, with its 30-byte payload. -/
def cancelEntryBytes (entryId : UInt32) : Bytes :=
  offerMagic ++ [0, 2, 0, 12, 0, 0, 0, 30] ++ asBytes "job-v2-fixture!!" ++ [0, 0, 0, 7, 1, 1] ++
    u32Be entryId ++ [0, 0, 0, 2]

theorem decode_encode_iff_readable_cancel :
    @encodeManifestV2Frame goldenBlake3 asciiNormalization (cancelEntry 3) =
      .ok (cancelEntryBytes 3) ∧
      (@decodeManifestV2Frame goldenBlake3 asciiNormalization (cancelEntryBytes 3) =
        .ok (cancelEntry 3) ↔
        Readable (cancelEntry 3)) :=
  have encodes : @encodeManifestV2Frame goldenBlake3 asciiNormalization (cancelEntry 3) =
      .ok (cancelEntryBytes 3) := by
    decide
  ⟨encodes, @decode_encode_iff_readable goldenBlake3 asciiNormalization _ _ encodes⟩

/-- The encoder emits a cancellation of entry 10000, which no manifest has and the decoder
refuses. -/
theorem encoded_frame_not_decodable :
    ¬ ∀ (frame : ManifestV2Frame) (encoded : Bytes),
      @encodeManifestV2Frame goldenBlake3 asciiNormalization frame = .ok encoded →
        @decodeManifestV2Frame goldenBlake3 asciiNormalization encoded = .ok frame := by
  intro roundTrip
  have refused : @decodeManifestV2Frame goldenBlake3 asciiNormalization (cancelEntryBytes 10000) =
      .error .invalidEntryId := by
    decide
  have decodes := roundTrip (cancelEntry 10000) (cancelEntryBytes 10000) (by decide)
  rw [refused] at decodes
  cases decodes

section Frames

variable [Blake3] [UnicodeNormalization]

/-- Frame bytes are canonical: a frame has one encoding, and every digest computed by encoding a
decoded frame again is the digest of the bytes that arrived. -/
theorem frame_bytes_canonical :
    (∀ (encoded : Bytes) (frame : ManifestV2Frame), decodeManifestV2Frame encoded = .ok frame →
      encodeManifestV2Frame frame = .ok encoded) ∧
    (∀ (left right : Bytes) (frame : ManifestV2Frame), decodeManifestV2Frame left = .ok frame →
      decodeManifestV2Frame right = .ok frame → left = right) ∧
    (∀ (encoded : Bytes) (frame : ManifestV2Frame), decodeManifestV2Frame encoded = .ok frame →
      canonicalManifestV2FrameBodyDigest frame = .ok ⟨Blake3.hash (encoded.drop headerBytes)⟩) := by
  have reencodes : ∀ (encoded : Bytes) (frame : ManifestV2Frame),
      decodeManifestV2Frame encoded = .ok frame →
      encodeManifestV2Frame frame = .ok encoded := by
    intro encoded frame decodes
    obtain ⟨ok, _, rfl⟩ := decodeManifestV2Frame_eq_ok.mp decodes
    exact encodeManifestV2Frame_eq_ok.mpr ⟨ok, rfl⟩
  refine ⟨reencodes, ?_, ?_⟩
  · intro left right frame leftDecodes rightDecodes
    obtain ⟨_, _, rfl⟩ := decodeManifestV2Frame_eq_ok.mp leftDecodes
    obtain ⟨_, _, rfl⟩ := decodeManifestV2Frame_eq_ok.mp rightDecodes
    rfl
  · intro encoded frame decodes
    have encodes := reencodes encoded frame decodes
    obtain ⟨_, _, rfl⟩ := decodeManifestV2Frame_eq_ok.mp decodes
    have long : ¬ (frameBytes frame).length < headerBytes := by
      simp [frameBytes, offerMagic, headerBytes]
      omega
    simp only [canonicalManifestV2FrameBodyDigest, bind_eq_ok, reject_eq_ok,
      exists_unit, pure_eq_ok]
    exact ⟨_, encodes, long, rfl⟩

end Frames

theorem frame_bytes_canonical_golden :
    @encodeManifestV2Frame goldenBlake3 asciiNormalization
        (.offer ⟨⟨goldenDigest⟩, sampleManifest⟩) =
        .ok goldenOffer ∧
      (∀ encoded, @decodeManifestV2Frame goldenBlake3 asciiNormalization encoded =
        .ok (.offer ⟨⟨goldenDigest⟩, sampleManifest⟩) → encoded = goldenOffer) ∧
      @canonicalManifestV2FrameBodyDigest goldenBlake3 asciiNormalization
        (.offer ⟨⟨goldenDigest⟩, sampleManifest⟩) = .ok ⟨goldenDigest⟩ :=
  have decodes : @decodeManifestV2Frame goldenBlake3 asciiNormalization goldenOffer =
      .ok (.offer ⟨⟨goldenDigest⟩, sampleManifest⟩) := by
    set_option maxRecDepth 8000 in decide
  have canonical := @frame_bytes_canonical goldenBlake3 asciiNormalization
  ⟨canonical.1 _ _ decodes, fun _ other => canonical.2.1 _ _ _ other decodes,
    canonical.2.2 _ _ decodes⟩

/-! ## Streams -/

section Stream

variable [Blake3] [UnicodeNormalization]

omit [Blake3] [UnicodeNormalization] in
/-- The header alone says how a frame goes on. -/
theorem parseHeader_header (type : ManifestV2FrameType) (length : UInt32) :
    parseHeader (offerMagic ++ u16Be manifestV2ProtocolVersion ++ u16Be type.code ++ u32Be length) =
      .ok { frameType := type, payloadLength := length.toNat } :=
  parseHeader_eq_ok.mpr ⟨length, [], rfl, by simp⟩

/-- The stream reader takes the bytes of one frame and nothing after them. -/
theorem readManifestV2Frame_run_ok {bytes rest : Bytes} {frame : ManifestV2Frame} :
    readManifestV2Frame.run bytes = .ok (frame, rest) ↔
      ∃ encoded, bytes = encoded ++ rest ∧ decodeManifestV2Frame encoded = .ok frame := by
  simp only [readManifestV2Frame, Reader.run_bind_ok, exact_run_ok, run_lift_ok, reject_eq_ok,
    gt_iff_lt, not_lt]
  constructor
  · rintro ⟨header, _, ⟨_, whole⟩, _, _, ⟨_, sameParsed⟩, _, _, ⟨_, sameMaximum⟩, _, _,
      ⟨_, sameChecked⟩, payload, _, ⟨_, afterHeader⟩, decodes, sameRest⟩
    subst sameParsed sameMaximum sameChecked sameRest
    exact ⟨header ++ payload, by rw [whole, afterHeader, List.append_assoc], decodes⟩
  · rintro ⟨encoded, whole, decodes⟩
    obtain ⟨⟨_, maximum, found, small⟩, _, bytesOf⟩ := decodeManifestV2Frame_eq_ok.mp decodes
    have length : (UInt32.ofNat (payloadBytes frame).length).toNat = (payloadBytes frame).length :=
      UInt32.toNat_ofNat_of_lt' (Nat.lt_of_le_of_lt small (maximumPayloadBytes_lt found))
    have parsed := parseHeader_header frame.type (UInt32.ofNat (payloadBytes frame).length)
    rw [length] at parsed
    refine ⟨_, payloadBytes frame ++ rest, ⟨?_, ?_⟩, _, _, ⟨parsed, rfl⟩, maximum, _,
      ⟨found, rfl⟩, (), _, ⟨small, rfl⟩, payloadBytes frame, rest, ⟨rfl, rfl⟩, ?_, rfl⟩
    · simp [offerMagic, headerBytes]
    · rw [whole, bytesOf, frameBytes]
      simp
    · rw [← frameBytes, ← bytesOf]
      exact decodes

/-- The stream reader and the slice decoder agree on every input, and no encoded frame is the
beginning of another one. -/
theorem stream_and_slice_agree :
    (∀ (bytes rest : Bytes) (frame : ManifestV2Frame),
      readManifestV2Frame.run bytes = .ok (frame, rest) ↔
      ∃ encoded, bytes = encoded ++ rest ∧ decodeManifestV2Frame encoded = .ok frame) ∧
    (∀ (left right : Bytes) (first second : ManifestV2Frame),
      decodeManifestV2Frame left = .ok first →
      decodeManifestV2Frame right = .ok second → left <+: right → left = right) := by
  refine ⟨fun bytes rest frame => readManifestV2Frame_run_ok, ?_⟩
  intro left right first second leftDecodes rightDecodes ⟨rest, beginning⟩
  -- both readings of `right` as a stream are the same run
  have short := readManifestV2Frame_run_ok.mpr ⟨left, beginning.symm, leftDecodes⟩
  have long := readManifestV2Frame_run_ok.mpr ⟨right, (List.append_nil right).symm, rightDecodes⟩
  rw [short] at long
  have nothing : rest = [] := by
    cases long
    rfl
  rw [← beginning, nothing, List.append_nil]

end Stream

theorem stream_and_slice_agree_cancel :
    @decodeManifestV2Frame goldenBlake3 asciiNormalization (cancelEntryBytes 3) =
      .ok (cancelEntry 3) ∧
      (@readManifestV2Frame goldenBlake3 asciiNormalization).run (cancelEntryBytes 3 ++ [7]) =
        .ok (cancelEntry 3, [7]) :=
  have decodes : @decodeManifestV2Frame goldenBlake3 asciiNormalization (cancelEntryBytes 3) =
      .ok (cancelEntry 3) := by
    decide
  ⟨decodes, ((@stream_and_slice_agree goldenBlake3 asciiNormalization).1 _ _ _).mpr ⟨_,
    rfl, decodes⟩⟩

end Envoix.Protocol
