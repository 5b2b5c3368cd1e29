import Mathlib.Tactic

/-! # Members by their place

A list whose members are named by their place: a new member is appended, a member that changes is
replaced where it is. -/

namespace Roster

variable {α : Type} {members : List α} {place other : Nat} {old new member : α}

theorem getElem?_append_one :
    (members ++ [new])[other]? = some member ↔
      members[other]? = some member ∨ other = members.length ∧ member = new := by
  rw [List.getElem?_append]
  by_cases earlier : other < members.length
  · rw [if_pos earlier]
    exact ⟨.inl, fun either => either.resolve_right fun last => absurd last.1 earlier.ne⟩
  · rw [if_neg earlier, List.getElem?_eq_none (Nat.le_of_not_lt earlier)]
    by_cases last : other = members.length
    · subst last
      rw [Nat.sub_self]
      simp [eq_comm]
    · have after : [new][other - members.length]? = none :=
        List.getElem?_eq_none (by rw [List.length_singleton]; omega)
      rw [after]
      simp [last]

theorem getElem?_set_iff (found : members[place]? = some old) :
    (members.set place new)[other]? = some member ↔
      if other = place then member = new else members[other]? = some member := by
  obtain ⟨inside, -⟩ := List.getElem?_eq_some_iff.mp found
  rw [List.getElem?_set]
  by_cases here : place = other
  · subst here
    rw [if_pos rfl, if_pos inside, if_pos rfl, Option.some.injEq]
    exact eq_comm
  · rw [if_neg here, if_neg (Ne.symm here)]

end Roster
