import Envoix.Foundation.CallLogic

/-! # The calls of a run

A contract over worlds that remember every call and its reply.  Remembering changes no run, and a
rule that a program follows held at each remembered call, for what had been called before it. -/

namespace Process

/-- A call and what it was answered. -/
abbrev Event (Op : Type) (Reply : Op → Type) : Type := (op : Op) × Reply op

variable {Op : Type} {Reply : Op → Type} {World α : Type} {contract : Contract Op Reply World}

/-- The same environment, with every call remembered. -/
def Contract.recording (contract : Contract Op Reply World) :
    Contract Op Reply (World × List (Event Op Reply)) where
  may world := contract.may world.1
  after world op reply := (contract.after world.1 op reply, world.2 ++ [⟨op, reply⟩])
  keeps world := contract.keeps world.1

namespace Proc

variable {program rest : Proc Op Reply α}

variable {world final : World × List (Event Op Reply)}

theorem Reaches.grows (run : Reaches contract.recording program world rest final) :
    ∃ events, final.2 = world.2 ++ events := by
  induction run with
  | here => exact ⟨[], (List.append_nil _).symm⟩
  | @call op _ _ _ _ reply _ _ ih =>
    obtain ⟨events, grown⟩ := ih
    exact ⟨⟨op, reply⟩ :: events, grown.trans (List.append_assoc _ _ _)⟩

/-- Each call of a run was allowed when it was made. -/
theorem Follows.obeyed {rule : World × List (Event Op Reply) → Op → Prop}
    {post : α → World × List (Event Op Reply) → Prop}
    (follows : program.Follows contract.recording rule post world)
    (run : Reaches contract.recording program world rest final)
    {before after : List (Event Op Reply)} {op : Op} {reply : Reply op}
    (split : final.2 = before ++ ⟨op, reply⟩ :: after) (later : world.2.length ≤ before.length) :
    ∃ here, rule (here, before) op := by
  induction run with
  | here =>
    rw [split, List.length_append, List.length_cons] at later
    omega
  | @call first next world final rest answer allowed run ih =>
    obtain ⟨events, grown⟩ := run.grows
    by_cases now : before.length = world.2.length
    · -- the first call of the run is the one asked for
      have same : before ++ ⟨op, reply⟩ :: after = world.2 ++ ⟨first, answer⟩ :: events := by
        rw [← split, grown]
        exact List.append_assoc _ _ _
      obtain ⟨rfl, tails⟩ := List.append_inj same now
      obtain ⟨rfl, -⟩ := Sigma.mk.inj (List.cons.inj tails).1
      exact ⟨world.1, follows.1⟩
    · refine ih (follows.2 answer allowed) split ?_
      show (world.2 ++ [_]).length ≤ before.length
      rw [List.length_append, List.length_singleton]
      omega

end Proc

end Process
