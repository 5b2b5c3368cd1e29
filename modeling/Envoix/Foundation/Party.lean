import Envoix.Foundation.CallLogic

/-! # Parties

A party runs one program after another against its own world and may stop anywhere: what it loses
then is the program, never the world.  If every program it may start keeps to a rule, then every
call of every run does, and what the rule preserves holds of every world the party is ever in. -/

namespace Process

variable {Op : Type} {Reply : Op → Type} {World α : Type} {contract : Contract Op Reply World}
  {rule : World → Op → Prop}

structure Party (Op : Type) (Reply : Op → Type) (World α : Type) where
  running : Option (Proc Op Reply α)
  world : World

namespace Party

/-- One step of a party that may start the programs `opens`. -/
inductive Step (contract : Contract Op Reply World) (opens : Proc Op Reply α → Prop) :
    Party Op Reply World α → Party Op Reply World α → Prop where
  | starts {program : Proc Op Reply α} {world : World} (opened : opens program) :
      Step contract opens ⟨none, world⟩ ⟨some program, world⟩
  | calls {op : Op} {next : Reply op → Proc Op Reply α} {world : World} {reply : Reply op}
      (allowed : contract.may world op reply) :
      Step contract opens ⟨some (.call op next), world⟩ ⟨some (next reply),
        contract.after world op reply⟩
  | stops {running : Option (Proc Op Reply α)} {world : World} :
      Step contract opens ⟨running, world⟩ ⟨none, world⟩

/-- What is left of the running program keeps to the rule. -/
def Lawful (contract : Contract Op Reply World) (rule : World → Op → Prop)
    (party : Party Op Reply World α) : Prop :=
  ∀ program ∈ party.running, program.Follows contract rule (fun _ _ => True) party.world

theorem lawful_idle (world : World) :
    Lawful contract rule (⟨none, world⟩ : Party Op Reply World α) :=
  fun _ absent => nomatch absent

/-- The next call of a lawful party is one the rule allows. -/
theorem Lawful.call {op : Op} {next : Reply op → Proc Op Reply α} {world : World}
    (lawful : Lawful contract rule ⟨some (.call op next), world⟩) : rule world op :=
  (lawful _ rfl).1

variable {opens : Proc Op Reply α → Prop} {party later : Party Op Reply World α}

/-- A run of one program is a run of the party. -/
theorem run_of_reaches {program rest : Proc Op Reply α} {world final : World}
    (run : Proc.Reaches contract program world rest final) :
    Relation.ReflTransGen (Step contract opens) ⟨some program, world⟩ ⟨some rest, final⟩ := by
  induction run with
  | here => exact .refl
  | call allowed _ ih => exact .head (.calls allowed) ih

/-- Lets the running program make at most `calls` calls against given answers. -/
def walked (after : World → (op : Op) → Reply op → World)
    (answer : World → (op : Op) → Option (Reply op)) (calls : Nat)
    (party : Party Op Reply World α) : Party Op Reply World α :=
  match party.running with
  | none => party
  | some program =>
    ⟨some (program.walk after answer calls party.world).1,
      (program.walk after answer calls party.world).2⟩

theorem run_walked {answer : World → (op : Op) → Option (Reply op)}
    (allowed : ∀ world op reply, answer world op = some reply → contract.may world op reply)
      (calls : Nat)
    (party : Party Op Reply World α) :
    Relation.ReflTransGen (Step contract opens) party
      (party.walked contract.after answer calls) := by
  obtain ⟨running, world⟩ := party
  cases running with
  | none => exact .refl
  | some program => exact run_of_reaches (Proc.walk_reaches allowed calls program world)

/-- A narrower environment takes no step that a wider one could not. -/
theorem Step.widen {wider : Contract Op Reply World} (step : Step contract opens party later)
    (may : ∀ world op reply, contract.may world op reply → wider.may world op reply)
    (after : wider.after = contract.after) : Step wider opens party later := by
  cases step with
  | starts opened => exact .starts opened
  | calls allowed =>
    rw [← after]
    exact .calls (may _ _ _ allowed)
  | stops => exact .stops

theorem Step.lawful (obedient : ∀ program, opens program →
    ∀ world, program.Follows contract rule (fun _ _ => True) world)
    (step : Step contract opens party later) (lawful : Lawful contract rule party) :
    Lawful contract rule later := by
  cases step with
  | starts opened =>
    intro program running
    obtain rfl := Option.some.inj running
    exact obedient _ opened _
  | calls allowed =>
    intro program running
    obtain rfl := Option.some.inj running
    exact (lawful _ rfl).2 _ allowed
  | stops => exact lawful_idle _

/-- A step leaves the world alone or is a call that the rule allows, under whichever contract the
party keeps to it. -/
theorem Step.world_cases {wider : Contract Op Reply World} (step : Step contract opens party later)
    (lawful : Lawful wider rule party) :
    later.world = party.world ∨ ∃ op reply, rule party.world op ∧
      contract.may party.world op reply ∧ later.world = contract.after party.world op reply := by
  cases step with
  | starts | stops => exact .inl rfl
  | calls allowed => exact .inr ⟨_, _, lawful.call, allowed, rfl⟩

/-- The world of a lawful party changes by allowed calls only. -/
theorem Step.invariant {invariant : World → Prop}
    (preserved : ∀ world op reply, invariant world → rule world op → contract.may world op reply →
      invariant (contract.after world op reply))
    (step : Step contract opens party later) (lawful : Lawful contract rule party)
    (now : invariant party.world) :
    invariant later.world := by
  cases step with
  | starts opened => exact now
  | calls allowed => exact preserved _ _ _ now lawful.call allowed
  | stops => exact now

/-- What allowed calls preserve holds along every run. -/
theorem invariant_of_run (invariant : World → Prop)
    (obedient : ∀ program, opens program →
      ∀ world, program.Follows contract rule (fun _ _ => True) world)
    (preserved : ∀ world op reply, invariant world → rule world op → contract.may world op reply →
      invariant (contract.after world op reply))
    (run : Relation.ReflTransGen (Step contract opens) party later)
    (lawful : Lawful contract rule party) (now : invariant party.world) :
    Lawful contract rule later ∧ invariant later.world := by
  induction run with
  | refl => exact ⟨lawful, now⟩
  | tail _ step ih => exact ⟨step.lawful obedient ih.1, step.invariant preserved ih.1 ih.2⟩

end Party

end Process
