import Envoix.Transfer.EngineWorld
import Envoix.Protocol.ManifestCanonical

/-! # Consistent ledgers

Every checkpoint of a ledger that `receive` writes ties its arbiter, boundary, digest, completion
and result together, so that the completion of a decided entry can be rebuilt from the resume
status.
-/

namespace Envoix.Transfer

open ByteCodec Fallible Process Process.Method Envoix.Protocol

/-! ## Checkpoints -/

theorem totalBlocks_eq_ok {entry : ManifestEntryV2} {total : UInt64} :
    totalBlocks entry = .ok total ↔
      entry.plaintextSize.toNat + (defaultBlockBytes.toNat - 1) < 2 ^ 64 ∧
        total.toNat = (entry.plaintextSize.toNat + (defaultBlockBytes.toNat - 1)) /
          defaultBlockBytes.toNat := by
  have less : (defaultBlockBytes - 1).toNat = defaultBlockBytes.toNat - 1 := by decide
  simp only [totalBlocks, bind_eq_ok, okOr_eq_ok, pure_eq_ok, checkedAdd64_eq_some, less]
  constructor
  · rintro ⟨padded, ⟨fits, sum⟩, rfl⟩
    exact ⟨fits, by rw [UInt64.toNat_div, sum]⟩
  · rintro ⟨fits, size⟩
    refine ⟨entry.plaintextSize + (defaultBlockBytes - 1), ⟨fits, ?_⟩, ?_⟩
    · rw [UInt64.toNat_add, less, Nat.mod_eq_of_lt fits]
    · rw [← UInt64.toNat_inj, UInt64.toNat_div, UInt64.toNat_add, less, Nat.mod_eq_of_lt fits, size]

/-- The entries for which the payload sink may have an object to reuse. -/
class PayloadSink where
  reusable : ManifestEntryV2 → Prop

section Consistency

variable [Blake3] [PayloadSink]

/-- The checkpoint of `entry`, planned as `plan`, as `receive` leaves it. -/
structure CheckpointOk (identity : JobGenerationV2) (entry : ManifestEntryV2) (plan : EntryPlanV2)
    (checkpoint : ReceiverEntryCheckpointV2) : Prop where
  entryId : checkpoint.entryId = entry.entryId
  boundary : ∃ total, totalBlocks entry = .ok total ∧ checkpoint.nextPlaintextBlock ≤ total
  start : ∀ start ∈ checkpoint.start, start.plaintextBlockBytes =
    defaultManifestV2BlockPlaintextBytes
  planned : plan.disposition = .reuseExisting → checkpoint.nextPlaintextBlock = 0
  opened : checkpoint.arbiter = .payloadOpen → checkpoint.result = none ∧
    checkpoint.completion = none
  reused : checkpoint.arbiter = .reuseChosen →
    entry.kind = .regularFile ∧ checkpoint.nextPlaintextBlock = 0 ∧ checkpoint.contentDigest.isSome
  owned : checkpoint.arbiter = .reuseChosen → PayloadSink.reusable entry
  finished : checkpoint.arbiter = .payloadCompleteChosen → checkpoint.completion.isSome
  completed : checkpoint.arbiter ≠ .payloadOpen → ∀ completion ∈ checkpoint.completion,
    completionFromResumeCheckpoint identity entry checkpoint.resumeEntry = .ok completion
  result : ∀ result ∈ checkpoint.result, result.identity = identity ∧
    result.entryId = entry.entryId ∧
      ∃ completion ∈ checkpoint.completion, completionFromResult entry result = .ok completion ∧
        result.result = expectedResult completion.completionChoice

/-- A retired payload starts over. -/
theorem checkpointOk_retired {identity : JobGenerationV2} {entry : ManifestEntryV2}
    {plan : EntryPlanV2} {checkpoint : ReceiverEntryCheckpointV2} {total : UInt64}
    (entryId : checkpoint.entryId = entry.entryId) (blocks : totalBlocks entry = .ok total)
    (unfinished : checkpoint.result = none)
    (start : ∀ start ∈ checkpoint.start, start.plaintextBlockBytes =
      defaultManifestV2BlockPlaintextBytes) :
    CheckpointOk identity entry plan (checkpoint.retired entry) where
  entryId := entryId
  boundary := ⟨total, blocks, UInt64.le_iff_toNat_le.mpr (Nat.zero_le _)⟩
  start := start
  planned := fun _ => rfl
  opened := fun _ => ⟨unfinished, rfl⟩
  reused := fun other => nomatch other
  owned := fun other => nomatch other
  finished := fun other => nomatch other
  completed := fun other => absurd rfl other
  result := fun result found => by
    have none : (checkpoint.retired entry).result = none := unfinished
    rw [none] at found
    cases found

end Consistency

/-! ## Ledgers -/

namespace ReceiverDataPlaneLedgerV2

/-- The ledger with one checkpoint replaced. -/
def put (ledger : ReceiverDataPlaneLedgerV2) (index : Nat)
    (checkpoint : ReceiverEntryCheckpointV2) :
    ReceiverDataPlaneLedgerV2 :=
  ledger.update index fun _ => checkpoint

variable {ledger : ReceiverDataPlaneLedgerV2} {index : Nat} {checkpoint : ReceiverEntryCheckpointV2}

theorem entries_put_self (bound : index < ledger.entries.length) :
    (ledger.put index checkpoint).entries[index]? = some checkpoint := by
  simp [put, update, bound]

theorem entries_put_of_ne {other : Nat} (elsewhere : other ≠ index) :
    (ledger.put index checkpoint).entries[other]? = ledger.entries[other]? := by
  simp [put, update, elsewhere.symm]

theorem drop_put {offset : Nat} (later : index < offset) :
    (ledger.put index checkpoint).entries.drop offset = ledger.entries.drop offset := by
  apply List.ext_getElem?
  intro other
  rw [List.getElem?_drop, List.getElem?_drop, entries_put_of_ne (by omega)]

theorem take_put (bound : index < ledger.entries.length) :
    (ledger.put index checkpoint).entries.take (index + 1) = ledger.entries.take index ++
      [checkpoint] := by
  rw [List.take_add_one, entries_put_self bound, put, update, List.take_modify,
    List.modify_eq_self (by simp)]
  rfl

theorem length_put : (ledger.put index checkpoint).entries.length = ledger.entries.length := by
  simp [put, update]

/-- Ledgers with equal headers and entries are equal. -/
theorem update_eq_of_entries {change other : ReceiverEntryCheckpointV2 → ReceiverEntryCheckpointV2}
    (same : ledger.entries.modify index change = ledger.entries.modify index other) :
    ledger.update index change = ledger.update index other := by
  simp only [update, same]

theorem put_update (change : ReceiverEntryCheckpointV2 → ReceiverEntryCheckpointV2) :
    (ledger.put index checkpoint).update index change = ledger.put index (change checkpoint) := by
  simp only [put, update, List.modify_modify_eq]
  rfl

theorem put_put {next : ReceiverEntryCheckpointV2} :
    (ledger.put index checkpoint).put index next = ledger.put index next :=
  put_update fun _ => next

theorem update_eq_put (found : ledger.entries[index]? = some checkpoint)
    (change : ReceiverEntryCheckpointV2 → ReceiverEntryCheckpointV2) :
    ledger.update index change = ledger.put index (change checkpoint) := by
  apply update_eq_of_entries
  apply List.ext_getElem?
  intro other
  by_cases here : index = other
  · subst here
    simp [found]
  · simp [here]

theorem put_self (found : ledger.entries[index]? = some checkpoint) :
    ledger.put index checkpoint = ledger := by
  have same := update_eq_put found id
  simpa [update, List.modify_id] using same.symm

end ReceiverDataPlaneLedgerV2

section Ledger

variable [Blake3] [UnicodeNormalization] [PayloadSink]

/-- An Accept that fits a sealed offer. -/
structure Agreed (offer : ManifestOfferV2) (accept : ManifestAcceptV2) : Prop where
  forest : CanonicalForest offer.manifest
  accepted : validateAccept offer accept = .ok ()

/-- A ledger of `offer` under `accept`, as `receive` leaves it. -/
structure LedgerOk (offer : ManifestOfferV2) (accept : ManifestAcceptV2)
    (ledger : ReceiverDataPlaneLedgerV2) :
    Prop where
  identity : ledger.identity = accept.identity
  agreement : ledger.accept = accept
  body : canonicalManifestV2FrameBodyDigest (.accept accept) = .ok ledger.acceptBodyDigest
  length : ledger.entries.length = offer.manifest.entries.length
  entries : ∀ (index : Nat) (entry : ManifestEntryV2) (plan : EntryPlanV2)
    (checkpoint : ReceiverEntryCheckpointV2), offer.manifest.entries[index]? = some entry →
    accept.entryPlans[index]? = some plan → ledger.entries[index]? = some checkpoint →
    CheckpointOk accept.identity entry plan checkpoint

variable {offer : ManifestOfferV2} {accept : ManifestAcceptV2}

/-- What `validate_accept` has checked of one plan. -/
structure PlanOk (entry : ManifestEntryV2) (plan : EntryPlanV2) : Prop where
  entryId : plan.entryId = entry.entryId
  directory : entry.kind = .directory → plan.disposition = .receivePayload ∧
    plan.nextPlaintextBlock = 0
  reuse : plan.disposition = .reuseExisting → (committedDigest entry).isSome ∧
    plan.nextPlaintextBlock = 0
  boundary : ∃ total, totalBlocks entry = .ok total ∧ plan.nextPlaintextBlock ≤ total

omit [Blake3] [UnicodeNormalization] [PayloadSink] in
theorem validateEntryPlan_eq_ok {entry : ManifestEntryV2} {plan : EntryPlanV2} :
    validateEntryPlan entry plan = .ok () ↔ PlanOk entry plan := by
  simp only [validateEntryPlan, bind_eq_ok, reject_eq_ok, exists_unit, not_or, not_and, not_not]
  constructor
  · rintro ⟨⟨entryId, directory, reuse⟩, total, blocks, boundary⟩
    exact ⟨entryId, directory,
      fun chosen => ⟨Option.isSome_iff_ne_none.mpr (reuse chosen).1, (reuse chosen).2⟩, total,
        blocks, UInt64.not_lt.mp boundary⟩
  · rintro ⟨entryId, directory, reuse, total, blocks, boundary⟩
    exact ⟨⟨entryId, directory,
      fun chosen => ⟨Option.isSome_iff_ne_none.mp (reuse chosen).1, (reuse chosen).2⟩⟩, total,
        blocks, UInt64.not_lt.mpr boundary⟩

omit [Blake3] [PayloadSink] in
theorem Agreed.plans_length (agreed : Agreed offer accept) :
    accept.entryPlans.length = offer.manifest.entries.length := by
  have accepted := agreed.accepted
  simp only [validateAccept, bind_eq_ok, reject_eq_ok, exists_unit, not_or, not_not] at accepted
  exact accepted.1.2.2.2.2

omit [Blake3] [PayloadSink] in
theorem Agreed.planOk (agreed : Agreed offer accept) {index : Nat} {entry : ManifestEntryV2}
    {plan : EntryPlanV2} (entryFound : offer.manifest.entries[index]? = some entry)
    (planFound : accept.entryPlans[index]? = some plan) :
    PlanOk entry plan := by
  have accepted := agreed.accepted
  simp only [validateAccept, bind_eq_ok, reject_eq_ok, exists_unit, forM_eq_ok] at accepted
  apply validateEntryPlan_eq_ok.mp
  apply accepted.2.2 (entry, plan)
  apply List.mem_of_getElem? (i := index)
  simp [List.getElem?_zip_eq_some, entryFound, planFound]

theorem LedgerOk.put {ledger : ReceiverDataPlaneLedgerV2} (ok : LedgerOk offer accept ledger)
    {index : Nat} {entry : ManifestEntryV2} {plan : EntryPlanV2}
    {checkpoint : ReceiverEntryCheckpointV2}
    (entryFound : offer.manifest.entries[index]? = some entry)
    (planFound : accept.entryPlans[index]? = some plan)
    (checkpointOk : CheckpointOk accept.identity entry plan checkpoint) :
    LedgerOk offer accept (ledger.put index checkpoint) where
  identity := ok.identity
  agreement := ok.agreement
  body := ok.body
  length := ReceiverDataPlaneLedgerV2.length_put.trans ok.length
  entries := by
    intro other otherEntry otherPlan otherCheckpoint otherFound otherPlanned found
    by_cases here : other = index
    · subst here
      have bound : other < ledger.entries.length := by
        rw [ok.length]
        exact (List.getElem?_eq_some_iff.mp otherFound).1
      rw [ReceiverDataPlaneLedgerV2.entries_put_self bound, Option.some.injEq] at found
      rw [entryFound, Option.some.injEq] at otherFound
      rw [planFound, Option.some.injEq] at otherPlanned
      subst found otherFound otherPlanned
      exact checkpointOk
    · rw [ReceiverDataPlaneLedgerV2.entries_put_of_ne here] at found
      exact ok.entries other otherEntry otherPlan otherCheckpoint otherFound otherPlanned found

end Ledger

end Envoix.Transfer
