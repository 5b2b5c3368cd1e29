import Mathlib.Data.List.Perm.Basic
import Mathlib.Data.List.Range

/-! # Things that are settled once

Tokens are numbered as they are issued.  Each is in somebody's hands until it is settled, and
nothing else becomes of it: what was settled and what is held are together what was issued, each
once. -/

namespace Custody

def Conserved (issued : Nat) (settled held : List Nat) : Prop :=
  (settled ++ held).Perm (List.range issued)

variable {issued token : Nat} {settled held held' : List Nat}

theorem conserved_start : Conserved 0 [] [] := List.Perm.refl _

namespace Conserved

/-- A new token is settled at once. -/
theorem settleNew (conserved : Conserved issued settled held) :
    Conserved (issued + 1) (settled ++ [issued]) held := by
  unfold Conserved
  rw [List.range_succ, List.append_assoc]
  have last : (settled ++ ([issued] ++ held)).Perm (settled ++ (held ++ [issued])) :=
    List.Perm.append_left settled List.perm_append_comm
  rw [← List.append_assoc settled held] at last
  exact last.trans (conserved.append_right [issued])

/-- A new token is put into somebody's hands. -/
theorem hold (conserved : Conserved issued settled held) :
    Conserved (issued + 1) settled (issued :: held) := by
  have settles := conserved.settleNew
  unfold Conserved at settles ⊢
  rw [List.append_assoc] at settles
  exact settles

theorem settle (conserved : Conserved issued settled (token :: held)) :
    Conserved issued (settled ++ [token]) held := by
  unfold Conserved at conserved ⊢
  rw [List.append_assoc]
  exact conserved

/-- Who holds what does not matter. -/
theorem rearrange (conserved : Conserved issued settled held) (same : held.Perm held') :
    Conserved issued settled held' :=
  (List.Perm.append_left settled same.symm).trans conserved

theorem lt_of_held (conserved : Conserved issued settled held) (holds : token ∈ held) :
    token < issued :=
  List.mem_range.mp (conserved.subset (List.mem_append_right _ holds))

theorem lt_of_settled (conserved : Conserved issued settled held) (done : token ∈ settled) :
    token < issued :=
  List.mem_range.mp (conserved.subset (List.mem_append_left _ done))

/-- Whatever was issued is settled or still held. -/
theorem settled_or_held (conserved : Conserved issued settled held) (inside : token < issued) :
    token ∈ settled ∨ token ∈ held :=
  List.mem_append.mp (conserved.symm.subset (List.mem_range.mpr inside))

end Conserved

end Custody
