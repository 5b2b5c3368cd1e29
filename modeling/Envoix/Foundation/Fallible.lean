import Mathlib.Tactic

/-! # Fallible computations and checked machine arithmetic

The acceptance condition of a chain of early returns, one `iff` per construct: a proof about
a validator rewrites with these and is left with the conjunction of its checks. -/

namespace Fallible

variable {ε α β : Type}

/-- A sequence of fallible steps succeeds exactly when each step does. -/
theorem bind_eq_ok {first : Except ε α} {next : α → Except ε β} {b : β} :
    (first >>= next) = .ok b ↔ ∃ a, first = .ok a ∧ next a = .ok b := by
  cases first with
  | error error =>
    change Except.error error = Except.ok b ↔ _
    simp
  | ok a =>
    change next a = Except.ok b ↔ _
    constructor
    · intro succeeds
      exact ⟨a, rfl, succeeds⟩
    · rintro ⟨_, found, succeeds⟩
      cases found
      exact succeeds

/-- A sequence fails with the error of its first step, or with that of what follows. -/
theorem bind_eq_error {first : Except ε α} {next : α → Except ε β} {error : ε} :
    (first >>= next) = .error error ↔ first = .error error ∨ ∃ a, first = .ok a ∧
      next a = .error error := by
  cases first with
  | error other =>
    change Except.error other = Except.error error ↔ _
    simp
  | ok a =>
    change next a = Except.error error ↔ _
    simp

@[simp] theorem ok_bind {a : α} {next : α → Except ε β} : (Except.ok a >>= next) = next a := rfl

@[simp] theorem pure_eq {a : α} : (pure a : Except ε α) = .ok a := rfl

@[simp] theorem error_bind {error : ε} {next : α → Except ε β} :
    (Except.error error >>= next) = .error error := rfl

/-- A step that only checks leaves nothing to choose. -/
theorem exists_unit {motive : Unit → Prop} : (∃ done, motive done) ↔ motive () :=
  ⟨fun ⟨_, holds⟩ => holds, fun holds => ⟨(), holds⟩⟩

theorem pure_eq_ok {a b : α} : (pure a : Except ε α) = .ok b ↔ a = b := by
  change Except.ok a = Except.ok b ↔ _
  rw [Except.ok.injEq]

theorem throw_eq_ok {error : ε} {b : α} : (throw error : Except ε α) = .ok b ↔ False := by
  change Except.error error = Except.ok b ↔ _
  simp

theorem ite_eq_ok {condition : Prop} [Decidable condition] {yes no : Except ε α} {b : α} :
    (if condition then yes else no) = .ok b ↔ condition ∧ yes = .ok b ∨ ¬ condition ∧
      no = .ok b := by
  by_cases holds : condition <;> simp [holds]

/-- `if bad { return Err(error) }` -/
def reject (bad : Prop) [Decidable bad] (error : ε) : Except ε Unit :=
  if bad then .error error else .ok ()

theorem reject_of {bad : Prop} [Decidable bad] {error : ε} (holds : bad) :
    reject bad error = .error error :=
  if_pos holds

theorem reject_of_not {bad : Prop} [Decidable bad] {error : ε} (fails : ¬ bad) :
    reject bad error = .ok () :=
  if_neg fails

theorem reject_eq_ok {bad : Prop} [Decidable bad] {error : ε} {done : Unit} :
    reject bad error = .ok done ↔ ¬ bad := by
  unfold reject
  by_cases holds : bad <;> simp [holds]

theorem reject_eq_error {bad : Prop} [Decidable bad] {error other : ε} :
    reject bad error = .error other ↔ bad ∧ error = other := by
  unfold reject
  by_cases holds : bad <;> simp [holds]

/-- `option.ok_or(error)` -/
def okOr (found : Option α) (error : ε) : Except ε α :=
  match found with
  | some a => .ok a
  | none => .error error

theorem okOr_eq_ok {found : Option α} {error : ε} {a : α} : okOr found error = .ok a ↔
    found = some a := by
  cases found <;> simp [okOr]

theorem okOr_eq_error {found : Option α} {error other : ε} :
    okOr found error = .error other ↔ found = none ∧ error = other := by
  cases found <;> simp [okOr]

/-- `result.map_err(convert)` -/
def mapErr {ε' : Type} (convert : ε → ε') : Except ε α → Except ε' α
  | .ok a => .ok a
  | .error error => .error (convert error)

theorem mapErr_eq_ok {ε' : Type} {convert : ε → ε'} {result : Except ε α} {a : α} :
    mapErr convert result = .ok a ↔ result = .ok a := by
  cases result <;> simp [mapErr]

theorem mapErr_eq_error {ε' : Type} {convert : ε → ε'} {result : Except ε α} {error : ε'} :
    mapErr convert result = .error error ↔
      ∃ cause, result = .error cause ∧ convert cause = error := by
  cases result <;> simp [mapErr]

theorem mapM_eq_some {f : α → Option β} {elements : List α} {values : List β} :
    elements.mapM f = some values ↔ elements.map f = values.map some := by
  induction elements generalizing values with
  | nil => cases values <;> simp
  | cons element elements ih =>
    cases values with
    | nil => simp [List.mapM_cons, Option.bind_eq_some_iff]
    | cons value values => simp [List.mapM_cons, Option.bind_eq_some_iff, ih]

/-- A loop that only checks accepts exactly when it accepts every element. -/
theorem forM_eq_ok {check : α → Except ε Unit} {elements : List α} {done : Unit} :
    elements.forM check = .ok done ↔ ∀ element ∈ elements, check element = .ok () := by
  induction elements with
  | nil => simp [List.forM]
  | cons element elements ih =>
    show (check element >>= fun _ => elements.forM check) = .ok done ↔ _
    rw [bind_eq_ok, exists_unit, ih, List.forall_mem_cons]

/-- A loop that only checks fails with the error of some element. -/
theorem forM_eq_error {check : α → Except ε Unit} {elements : List α} {error : ε}
    (fails : elements.forM check = .error error) :
    ∃ element ∈ elements, check element = .error error := by
  induction elements with
  | nil => cases fails
  | cons element elements ih =>
    have fails' : (check element >>= fun _ => elements.forM check) = .error error := fails
    rw [bind_eq_error] at fails'
    cases fails' with
    | inl here => exact ⟨element, List.mem_cons_self, here⟩
    | inr later =>
      obtain ⟨_, _, later⟩ := later
      obtain ⟨other, there, failed⟩ := ih later
      exact ⟨other, List.mem_cons_of_mem _ there, failed⟩

/-! ## Checked arithmetic -/

/-- `u32::checked_add` -/
def checkedAdd32 (left right : UInt32) : Option UInt32 :=
  if left.toNat + right.toNat < 2 ^ 32 then some (left + right) else none

/-- `u64::checked_add` -/
def checkedAdd64 (left right : UInt64) : Option UInt64 :=
  if left.toNat + right.toNat < 2 ^ 64 then some (left + right) else none

theorem checkedAdd32_eq_some {left right sum : UInt32} :
    checkedAdd32 left right = some sum ↔
      left.toNat + right.toNat < 2 ^ 32 ∧ sum.toNat = left.toNat + right.toNat := by
  unfold checkedAdd32
  split
  case isTrue fits =>
    rw [Option.some.injEq, ← UInt32.toNat_inj, UInt32.toNat_add, Nat.mod_eq_of_lt fits]
    exact ⟨fun same => ⟨fits, same.symm⟩, fun same => same.2.symm⟩
  case isFalse overflows => exact ⟨nofun, fun fits => absurd fits.1 overflows⟩

theorem checkedAdd64_eq_some {left right sum : UInt64} :
    checkedAdd64 left right = some sum ↔
      left.toNat + right.toNat < 2 ^ 64 ∧ sum.toNat = left.toNat + right.toNat := by
  unfold checkedAdd64
  split
  case isTrue fits =>
    rw [Option.some.injEq, ← UInt64.toNat_inj, UInt64.toNat_add, Nat.mod_eq_of_lt fits]
    exact ⟨fun same => ⟨fits, same.symm⟩, fun same => same.2.symm⟩
  case isFalse overflows => exact ⟨nofun, fun fits => absurd fits.1 overflows⟩

/-- `u64::checked_mul` -/
def checkedMul64 (left right : UInt64) : Option UInt64 :=
  if left.toNat * right.toNat < 2 ^ 64 then some (left * right) else none

theorem checkedMul64_eq_some {left right product : UInt64} :
    checkedMul64 left right = some product ↔
      left.toNat * right.toNat < 2 ^ 64 ∧ product.toNat = left.toNat * right.toNat := by
  unfold checkedMul64
  split
  case isTrue fits =>
    rw [Option.some.injEq, ← UInt64.toNat_inj, UInt64.toNat_mul, Nat.mod_eq_of_lt fits]
    exact ⟨fun same => ⟨fits, same.symm⟩, fun same => same.2.symm⟩
  case isFalse overflows => exact ⟨nofun, fun fits => absurd fits.1 overflows⟩

theorem toNat_min64 (left right : UInt64) :
    (min left right).toNat = min left.toNat right.toNat := by
  show (if left ≤ right then left else right).toNat = _
  split
  case isTrue below => exact (Nat.min_eq_left (UInt64.le_iff_toNat_le.mp below)).symm
  case isFalse above =>
    rw [UInt64.le_iff_toNat_le] at above
    omega

theorem toNat_max64 (left right : UInt64) :
    (max left right).toNat = max left.toNat right.toNat := by
  show (if left ≤ right then right else left).toNat = _
  split
  case isTrue below => exact (Nat.max_eq_right (UInt64.le_iff_toNat_le.mp below)).symm
  case isFalse above =>
    rw [UInt64.le_iff_toNat_le] at above
    omega

/-- `u64::saturating_mul` -/
def saturatingMul64 (left right : UInt64) : UInt64 :=
  (checkedMul64 left right).getD (UInt64.ofNat (2 ^ 64 - 1))

/-- Below a bound, saturation is not seen. -/
theorem min_saturatingMul64 (left right bound : UInt64) :
    (min (saturatingMul64 left right) bound).toNat =
      min (left.toNat * right.toNat) bound.toNat := by
  have below := bound.toNat_lt
  rw [toNat_min64, saturatingMul64, checkedMul64]
  split
  case isTrue fits => rw [Option.getD_some, UInt64.toNat_mul, Nat.mod_eq_of_lt fits]
  case isFalse overflows =>
    rw [Option.getD_none, UInt64.toNat_ofNat_of_lt' (by decide)]
    omega

/-- `u32::saturating_add` -/
def saturatingAdd32 (left right : UInt32) : UInt32 :=
  (checkedAdd32 left right).getD (UInt32.ofNat (2 ^ 32 - 1))

/-- `u64::saturating_add` -/
def saturatingAdd64 (left right : UInt64) : UInt64 :=
  (checkedAdd64 left right).getD (UInt64.ofNat (2 ^ 64 - 1))

/-- `u64::saturating_sub` -/
def saturatingSub64 (left right : UInt64) : UInt64 :=
  if right ≤ left then left - right else 0

theorem saturatingSub64_toNat (left right : UInt64) :
    (saturatingSub64 left right).toNat = left.toNat - right.toNat := by
  unfold saturatingSub64
  split
  case isTrue fits => exact UInt64.toNat_sub_of_le _ _ fits
  case isFalse short =>
    have less : left.toNat < right.toNat := by rwa [UInt64.le_iff_toNat_le, not_le] at short
    rw [Nat.sub_eq_zero_of_le less.le]
    rfl

/-- The largest `usize` of a 64-bit target. -/
def usizeMax : Nat := 2 ^ 64 - 1

/-- `usize::checked_add` -/
def checkedAddUsize (left right : Nat) : Option Nat :=
  if left + right ≤ usizeMax then some (left + right) else none

theorem checkedAddUsize_eq_some {left right sum : Nat} :
    checkedAddUsize left right = some sum ↔ sum = left + right ∧ sum ≤ usizeMax := by
  unfold checkedAddUsize
  split
  case isTrue fits =>
    rw [Option.some.injEq]
    omega
  case isFalse overflows =>
    refine ⟨nofun, fun fits => ?_⟩
    omega

theorem checkedAddUsize_chain {first second third sum : Nat} :
    (checkedAddUsize first second).bind (fun value => checkedAddUsize value third) = some sum ↔
      sum = first + second + third ∧ sum ≤ usizeMax := by
  simp only [Option.bind_eq_some_iff, checkedAddUsize_eq_some]
  constructor
  · rintro ⟨value, ⟨_, same⟩, fits, total⟩
    omega
  · rintro ⟨total, fits⟩
    exact ⟨first + second, ⟨rfl, by omega⟩, total, fits⟩

end Fallible
