import Envoix.Transfer.LedgerConsistency

/-! # What a resume counts as done

Both ends start their progress at `resume_plaintext_bytes`.  The estimates of the entries stay
below their sizes, so the sum is the one over the naturals. -/

namespace Envoix.Transfer

open ByteCodec Fallible Envoix.Protocol

/-- The bytes of an entry that count as done at this checkpoint. -/
def countedBytes (entry : ManifestEntryV2) (checkpoint : ResumeEntryV2) : Nat :=
  if checkpoint.entryResult.isSome ∨ checkpoint.arbiter ≠ .payloadOpen then
    entry.plaintextSize.toNat
  else min (checkpoint.nextPlaintextBlock.toNat * defaultBlockBytes.toNat) entry.plaintextSize.toNat

/-- The boundary lies at some `u64` of bytes. -/
def BoundaryFits (checkpoint : ResumeEntryV2) : Prop :=
  checkpoint.nextPlaintextBlock.toNat * defaultBlockBytes.toNat < 2 ^ 64

variable {entry : ManifestEntryV2} {checkpoint : ResumeEntryV2}

theorem countedBytes_le (entry : ManifestEntryV2) (checkpoint : ResumeEntryV2) :
    countedBytes entry checkpoint ≤ entry.plaintextSize.toNat := by
  unfold countedBytes
  split
  · exact Nat.le_refl _
  · exact Nat.min_le_right _ _

theorem countedBytes_closed (closed : checkpoint.arbiter ≠ .payloadOpen) :
    countedBytes entry checkpoint = entry.plaintextSize.toNat := by
  simp [countedBytes, closed]

/-- A boundary that was validated fits. -/
theorem boundaryFits_of_le {total : UInt64} (blocks : totalBlocks entry = .ok total)
    (within : checkpoint.nextPlaintextBlock ≤ total) : BoundaryFits checkpoint := by
  obtain ⟨fits, count⟩ := totalBlocks_eq_ok.mp blocks
  rw [UInt64.le_iff_toNat_le, count] at within
  have product := Nat.mul_le_of_le_div _ _ _ within
  exact Nat.lt_of_le_of_lt product fits

theorem resumeEntryPlaintextBytes_ok {bytes : UInt64}
    (counted : resumeEntryPlaintextBytes entry checkpoint = .ok bytes) :
    bytes.toNat = countedBytes entry checkpoint := by
  simp only [resumeEntryPlaintextBytes, bind_eq_ok, exists_unit] at counted
  obtain ⟨-, counted⟩ := counted
  split at counted
  case isTrue decided =>
    rw [pure_eq_ok] at counted
    have closed : checkpoint.entryResult.isSome ∨ checkpoint.arbiter ≠ .payloadOpen := by
      obtain finished | chosen | complete := decided
      · exact .inl finished
      · exact .inr (by rw [chosen]; simp)
      · exact .inr (by rw [complete]; simp)
    rw [countedBytes, if_pos closed, ← counted]
  case isFalse undecided =>
    rw [not_or, not_or] at undecided
    have opened : ¬ (checkpoint.entryResult.isSome ∨ checkpoint.arbiter ≠ .payloadOpen) := by
      intro closed
      obtain finished | other := closed
      · exact undecided.1 finished
      · cases arbiter : checkpoint.arbiter with
        | payloadOpen => exact other arbiter
        | reuseChosen => exact undecided.2.1 arbiter
        | payloadCompleteChosen => exact undecided.2.2 arbiter
    rw [okOr_eq_ok, Option.map_eq_some_iff] at counted
    obtain ⟨product, multiplied, rfl⟩ := counted
    rw [countedBytes, if_neg opened, toNat_min64, (checkedMul64_eq_some.mp multiplied).2]

theorem resumeEntryPlaintextBytes_error (fits : BoundaryFits checkpoint)
    {error : ManifestV2DataError}
    (failed : resumeEntryPlaintextBytes entry checkpoint = .error error) : error = .entryOrder := by
  rw [resumeEntryPlaintextBytes, bind_eq_error] at failed
  obtain here | ⟨_, -, failed⟩ := failed
  · exact (reject_eq_error.mp here).2.symm
  · split at failed
    case isTrue _ => cases failed
    case isFalse _ =>
      have product : checkedMul64 checkpoint.nextPlaintextBlock defaultBlockBytes =
          some (checkpoint.nextPlaintextBlock * defaultBlockBytes) :=
        checkedMul64_eq_some.mpr ⟨fits, by rw [UInt64.toNat_mul, Nat.mod_eq_of_lt fits]⟩
      rw [product] at failed
      cases failed

/-! ## Sums -/

/-- The plaintext of some entries. -/
def plaintextSum (entries : List ManifestEntryV2) : Nat := (entries.map (·.plaintextSize.toNat)).sum

/-- What counts as done of some entries. -/
def countedSum (pairs : List (ManifestEntryV2 × ResumeEntryV2)) : Nat :=
  (pairs.map fun (entry, checkpoint) => countedBytes entry checkpoint).sum

theorem countedSum_zip_le (entries : List ManifestEntryV2) (checkpoints : List ResumeEntryV2) :
    countedSum (entries.zip checkpoints) ≤ plaintextSum entries := by
  induction entries generalizing checkpoints with
  | nil => exact Nat.le_refl 0
  | cons entry entries ih =>
    cases checkpoints with
    | nil => exact Nat.zero_le _
    | cons checkpoint checkpoints =>
      exact Nat.add_le_add (countedBytes_le entry checkpoint) (ih checkpoints)

/-- The sum over entries from `start` on: it never overflows below 2^64. -/
theorem foldlM_counts (pairs : List (ManifestEntryV2 × ResumeEntryV2)) (start : UInt64)
    (within : start.toNat + countedSum pairs < 2 ^ 64) (fit : ∀ pair ∈ pairs, BoundaryFits pair.2)
    {result : Except ManifestV2DataError UInt64}
    (folded : pairs.foldlM (fun total (entry, checkpoint) => do
      let bytes ← resumeEntryPlaintextBytes entry checkpoint
      okOr (checkedAdd64 total bytes) .arithmeticOverflow) start = result) :
    (∀ completed, result = .ok completed → completed.toNat = start.toNat + countedSum pairs) ∧
      ∀ error, result = .error error → error = .entryOrder := by
  induction pairs generalizing start with
  | nil =>
    subst folded
    exact ⟨fun _ same => by cases same; rfl, nofun⟩
  | cons pair pairs ih =>
    obtain ⟨entry, checkpoint⟩ := pair
    have split : countedSum ((entry, checkpoint) :: pairs) =
      countedBytes entry checkpoint + countedSum pairs := rfl
    rw [split] at within ⊢
    rw [List.foldlM_cons] at folded
    cases counted : resumeEntryPlaintextBytes entry checkpoint with
    | error error =>
      simp only [counted, error_bind] at folded
      subst folded
      refine ⟨nofun, fun other same => ?_⟩
      exact Except.error.inj same ▸
        resumeEntryPlaintextBytes_error (fit _ List.mem_cons_self) counted
    | ok bytes =>
      have size := resumeEntryPlaintextBytes_ok counted
      have sum : checkedAdd64 start bytes = some (start + bytes) :=
        checkedAdd64_eq_some.mpr ⟨by omega, by rw [UInt64.toNat_add]; omega⟩
      have place : (start + bytes).toNat = start.toNat + countedBytes entry checkpoint := by
        rw [(checkedAdd64_eq_some.mp sum).2, size]
      simp only [counted, sum, ok_bind, okOr] at folded
      obtain ⟨success, failure⟩ :=
        ih (start + bytes) (by omega) (fun other listed => fit other (.tail _ listed)) folded
      exact ⟨fun completed same => by rw [success completed same, place, Nat.add_assoc], failure⟩

/-- The start of a resumed count is the sum of the estimates. -/
theorem resumePlaintextBytes_counts {manifest : ManifestV2} {status : ResumeStatusV2}
    (bounded : plaintextSum manifest.entries < 2 ^ 64)
    (fit : ∀ checkpoint ∈ status.entries, BoundaryFits checkpoint) :
    (∀ completed, resumePlaintextBytes manifest status = .ok completed →
      completed.toNat = countedSum (manifest.entries.zip status.entries)) ∧
    ∀ error, resumePlaintextBytes manifest status = .error error → error = .entryOrder := by
  have within := countedSum_zip_le manifest.entries status.entries
  obtain ⟨success, failure⟩ := foldlM_counts (manifest.entries.zip status.entries) 0
    (by rw [UInt64.toNat_zero]; omega) (fun pair listed => fit pair.2 (List.of_mem_zip listed).2)
    (rfl : _ = resumePlaintextBytes manifest status)
  exact ⟨fun completed same => by rw [success completed same, UInt64.toNat_zero, Nat.zero_add],
    failure⟩

/-- Directories have no plaintext, so the total of a manifest is the sum of all its sizes. -/
theorem byteTotal_eq_plaintextSum {entries : List ManifestEntryV2}
    (directories : ∀ entry ∈ entries, entry.kind = .directory → entry.plaintextSize = 0) :
    byteTotal entries = plaintextSum entries := by
  induction entries with
  | nil => rfl
  | cons entry entries ih =>
    have rest := ih fun other listed => directories other (.tail _ listed)
    have here := directories entry List.mem_cons_self
    cases kind : entry.kind with
    | regularFile => simp [byteTotal, plaintextSum, isFile, kind] at rest ⊢; exact rest
    | directory => simp [byteTotal, plaintextSum, isFile, kind, here kind] at rest ⊢; exact rest

end Envoix.Transfer
