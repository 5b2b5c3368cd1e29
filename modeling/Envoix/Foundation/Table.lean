import Mathlib.Tactic
import Mathlib.Data.List.Nodup

/-! # Finite tables

A hash map as a program uses it: lookups, insertion, removal, updates in place, `retain`, its size
and the number of values with a property.  The order of the entries is that of no result. -/

/-- A finite map; the keys are distinct. -/
structure Table (κ ν : Type) where
  entries : List (κ × ν)
  nodup : (entries.map Prod.fst).Nodup

namespace Table

variable {κ ν : Type} [DecidableEq κ]

def empty : Table κ ν := ⟨[], List.nodup_nil⟩

def get? (table : Table κ ν) (key : κ) : Option ν :=
  (table.entries.find? fun entry => entry.1 = key).map Prod.snd

def size (table : Table κ ν) : Nat := table.entries.length

/-- How many values have the property. -/
def count (table : Table κ ν) (property : ν → Bool) : Nat :=
  table.entries.countP fun entry => property entry.2

/-- The sum of a weight over the values. -/
def sum (table : Table κ ν) (weight : ν → Nat) : Nat :=
  (table.entries.map fun entry => weight entry.2).sum

def retain (table : Table κ ν) (keep : κ → ν → Bool) : Table κ ν where
  entries := table.entries.filter fun entry => keep entry.1 entry.2
  nodup := table.nodup.sublist (List.filter_sublist.map _)

/-- Every value replaced, under its key. -/
def mapValues (table : Table κ ν) (change : κ → ν → ν) : Table κ ν where
  entries := table.entries.map fun entry => (entry.1, change entry.1 entry.2)
  nodup := by
    rw [List.map_map]
    exact table.nodup

def remove (table : Table κ ν) (key : κ) : Table κ ν :=
  table.retain fun other _ => other ≠ key

/-- Changes the value at a key, where there is one. -/
def update (table : Table κ ν) (key : κ) (change : ν → ν) : Table κ ν :=
  table.mapValues fun other value => if other = key then change value else value

def insert (table : Table κ ν) (key : κ) (value : ν) : Table κ ν where
  entries := (key, value) :: (table.remove key).entries
  nodup := by
    rw [List.map_cons, List.nodup_cons]
    refine ⟨?_, (table.remove key).nodup⟩
    simp [remove, retain]

/-! ## Lookups -/

omit [DecidableEq κ] in
theorem value_unique {table : Table κ ν} {key : κ} {left right : ν}
    (leftListed : (key, left) ∈ table.entries) (rightListed : (key, right) ∈ table.entries) :
    left = right := by
  have same := List.inj_on_of_nodup_map table.nodup leftListed rightListed rfl
  exact (Prod.mk.inj same).2

theorem get?_eq_some {table : Table κ ν} {key : κ} {value : ν} :
    table.get? key = some value ↔ (key, value) ∈ table.entries := by
  unfold get?
  constructor
  · intro found
    obtain ⟨⟨other, _⟩, first, rfl⟩ := Option.map_eq_some_iff.mp found
    have same : other = key := by simpa using List.find?_some first
    exact same ▸ List.mem_of_find?_eq_some first
  · intro listed
    cases first : table.entries.find? fun entry => entry.1 = key with
    | none =>
      have absent := List.find?_eq_none.mp first (key, value) listed
      simp at absent
    | some entry =>
      obtain ⟨other, found⟩ := entry
      have same : other = key := by simpa using List.find?_some first
      subst same
      have listed' := List.mem_of_find?_eq_some first
      rw [Option.map_some, value_unique listed' listed]

@[simp] theorem get?_empty (key : κ) : (empty : Table κ ν).get? key = none := rfl

@[simp] theorem get?_retain (table : Table κ ν) (keep : κ → ν → Bool) (key : κ) :
    (table.retain keep).get? key = (table.get? key).filter (keep key) := by
  ext value
  rw [get?_eq_some, Option.filter_eq_some_iff, get?_eq_some]
  simp [retain]

@[simp] theorem get?_mapValues (table : Table κ ν) (change : κ → ν → ν) (key : κ) :
    (table.mapValues change).get? key = (table.get? key).map (change key) := by
  ext value
  rw [get?_eq_some, Option.map_eq_some_iff]
  simp only [mapValues, List.mem_map, Prod.mk.injEq, get?_eq_some]
  constructor
  · intro ⟨⟨other, found⟩, listed, same, changed⟩
    subst same
    exact ⟨found, listed, changed⟩
  · intro ⟨found, listed, changed⟩
    exact ⟨(key, found), listed, rfl, changed⟩

theorem get?_remove (table : Table κ ν) (key other : κ) :
    (table.remove key).get? other = if other = key then none else table.get? other := by
  rw [remove, get?_retain]
  by_cases same : other = key
  · cases table.get? other <;> simp [same, Option.filter]
  · cases table.get? other <;> simp [same, Option.filter]

theorem get?_update (table : Table κ ν) (key other : κ) (change : ν → ν) :
    (table.update key change).get? other =
      if other = key then (table.get? other).map change else table.get? other := by
  rw [update, get?_mapValues]
  by_cases same : other = key
  · simp [same]
  · cases table.get? other <;> simp [same]

theorem get?_insert (table : Table κ ν) (key other : κ) (value : ν) :
    (table.insert key value).get? other = if other = key then some value else table.get? other := by
  by_cases same : other = key
  · rw [if_pos same, get?_eq_some, same]
    exact List.mem_cons_self
  · rw [if_neg same]
    ext found
    rw [get?_eq_some, get?_eq_some]
    simp [insert, remove, retain, same]

/-! ## Sizes and counts -/

omit [DecidableEq κ] in
@[simp] theorem size_mapValues (table : Table κ ν) (change : κ → ν → ν) :
    (table.mapValues change).size = table.size :=
  List.length_map _

@[simp] theorem size_update (table : Table κ ν) (key : κ) (change : ν → ν) :
    (table.update key change).size = table.size :=
  size_mapValues table _

omit [DecidableEq κ] in
theorem size_retain_le (table : Table κ ν) (keep : κ → ν → Bool) :
    (table.retain keep).size ≤ table.size :=
  List.length_filter_le _ _

theorem size_remove_le (table : Table κ ν) (key : κ) : (table.remove key).size ≤ table.size :=
  size_retain_le table _

theorem size_insert_le (table : Table κ ν) (key : κ) (value : ν) :
    (table.insert key value).size ≤ table.size + 1 :=
  Nat.succ_le_succ (table.size_remove_le key)

theorem size_insert_of_absent {table : Table κ ν} {key : κ} (absent : table.get? key = none)
    (value : ν) :
    (table.insert key value).size = table.size + 1 := by
  have untouched : (table.remove key).entries = table.entries := by
    refine List.filter_eq_self.mpr fun entry listed => decide_eq_true fun same => ?_
    rw [get?_eq_some.mpr (show (key, entry.2) ∈ table.entries from same ▸ listed)] at absent
    cases absent
  exact congrArg (fun entries => entries.length + 1) untouched

omit [DecidableEq κ] in
theorem count_retain_le (table : Table κ ν) (keep : κ → ν → Bool) (property : ν → Bool) :
    (table.retain keep).count property ≤ table.count property :=
  List.filter_sublist.countP_le

theorem count_remove_le (table : Table κ ν) (key : κ) (property : ν → Bool) :
    (table.remove key).count property ≤ table.count property :=
  count_retain_le table _ property

omit [DecidableEq κ] in
/-- A change that gives no value the property does not raise the count. -/
theorem count_mapValues_le (table : Table κ ν) {change : κ → ν → ν} {property : ν → Bool}
    (loses : ∀ key value, property (change key value) = true → property value = true) :
    (table.mapValues change).count property ≤ table.count property := by
  unfold count mapValues
  rw [List.countP_map]
  exact List.countP_mono_left fun entry _ holds => loses entry.1 entry.2 holds

theorem count_update_le (table : Table κ ν) {key : κ} {change : ν → ν} {property : ν → Bool}
    (loses : ∀ value, property (change value) = true → property value = true) :
    (table.update key change).count property ≤ table.count property := by
  apply count_mapValues_le
  intro other value holds
  by_cases same : other = key
  · rw [if_pos same] at holds
    exact loses value holds
  · rwa [if_neg same] at holds

/-- Where the key is absent an update changes nothing. -/
theorem update_of_absent {table : Table κ ν} {key : κ} (absent : table.get? key = none)
    (change : ν → ν) :
    (table.update key change).entries = table.entries := by
  show table.entries.map _ = table.entries
  conv_rhs => rw [← List.map_id table.entries]
  apply List.map_congr_left
  intro entry listed
  have elsewhere : entry.1 ≠ key := by
    intro same
    rw [get?_eq_some.mpr (show (key, entry.2) ∈ table.entries from same ▸ listed)] at absent
    cases absent
  simp [elsewhere]

/-- An update touches one value. -/
theorem count_update_of_found {table : Table κ ν} {key : κ} {value : ν}
    (found : table.get? key = some value) (change : ν → ν) (property : ν → Bool) :
    (table.update key change).count property + (property value).toNat =
      table.count property + (property (change value)).toNat := by
  obtain ⟨entries, nodup⟩ := table
  have listed := get?_eq_some.mp found
  show (entries.map _).countP _ + _ = entries.countP _ + _
  rw [List.countP_map]
  simp only at listed
  clear found
  induction entries with
  | nil => cases listed
  | cons entry entries ih =>
    rw [List.map_cons, List.nodup_cons] at nodup
    rw [List.countP_cons, List.countP_cons]
    cases listed with
    | head =>
      -- the rest does not hold this key
      have rest : entries.countP ((fun item : κ × ν => property item.2) ∘
          fun item => (item.1, if item.1 = key then change item.2 else item.2)) =
          entries.countP fun item => property item.2 := by
        apply List.countP_congr
        intro item listed
        have elsewhere : item.1 ≠ key := by
          intro same
          exact nodup.1 (List.mem_map.mpr ⟨item, listed, same⟩)
        simp [elsewhere]
      rw [rest]
      simp only [Function.comp_apply, if_true]
      cases property value <;> cases property (change value) <;> simp
    | tail _ listed =>
      have elsewhere : entry.1 ≠ key := by
        intro same
        exact nodup.1 (List.mem_map.mpr ⟨_, listed, same.symm⟩)
      have rest := ih nodup.2 listed
      simp only [Function.comp_apply, elsewhere, if_false] at rest ⊢
      omega

theorem count_update_le_succ (table : Table κ ν) (key : κ) (change : ν → ν) (property : ν → Bool) :
    (table.update key change).count property ≤ table.count property + 1 := by
  cases found : table.get? key with
  | none =>
    have same : (table.update key change).count property = table.count property :=
      congrArg (List.countP _) (update_of_absent found change)
    omega
  | some value =>
    have counted := count_update_of_found found change property
    have one := Bool.toNat_le (property (change value))
    omega

theorem count_insert_le (table : Table κ ν) {key : κ} {value : ν} {property : ν → Bool}
    (lacks : property value = false) :
    (table.insert key value).count property ≤ table.count property := by
  show List.countP _ ((key, value) :: (table.remove key).entries) ≤ _
  rw [List.countP_cons]
  simp only [lacks, Bool.false_eq_true, if_false, Nat.add_zero]
  exact table.count_remove_le key property

/-! ## Sums -/

omit [DecidableEq κ] in
theorem sum_retain_le (table : Table κ ν) (keep : κ → ν → Bool) (weight : ν → Nat) :
    (table.retain keep).sum weight ≤ table.sum weight :=
  (List.filter_sublist.map _).sum_le_sum fun _ _ => Nat.zero_le _

theorem sum_insert (table : Table κ ν) (key : κ) (value : ν) (weight : ν → Nat) :
    (table.insert key value).sum weight = weight value + (table.remove key).sum weight :=
  List.sum_cons

/-- A removal takes the weight of the value that was there. -/
theorem sum_remove_of_found {table : Table κ ν} {key : κ} {value : ν}
    (found : table.get? key = some value) (weight : ν → Nat) :
    weight value + (table.remove key).sum weight = table.sum weight := by
  obtain ⟨entries, nodup⟩ := table
  have listed := get?_eq_some.mp found
  show weight value + ((entries.filter _).map _).sum = (entries.map _).sum
  simp only at listed
  clear found
  induction entries with
  | nil => cases listed
  | cons entry entries ih =>
    rw [List.map_cons, List.nodup_cons] at nodup
    rw [List.filter_cons, List.map_cons, List.sum_cons]
    cases listed with
    | head =>
      -- the rest does not hold this key
      have rest : entries.filter (fun item => decide (item.1 ≠ key)) = entries :=
        List.filter_eq_self.mpr fun item listed =>
          decide_eq_true fun same => nodup.1 (List.mem_map.mpr ⟨item, listed, same⟩)
      rw [if_neg (by simp), rest]
    | tail _ listed =>
      have elsewhere : entry.1 ≠ key := by
        intro same
        exact nodup.1 (List.mem_map.mpr ⟨_, listed, same.symm⟩)
      have rest := ih nodup.2 listed
      rw [if_pos (decide_eq_true elsewhere), List.map_cons, List.sum_cons]
      omega

end Table
