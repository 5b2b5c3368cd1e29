import Mathlib.Data.List.Basic

/-! # A value and its copy behind a queue

One party owns a value and sends each new version down a queue; the other holds a copy and applies
what arrives.  The owner may lose a version on the way into the queue, but then it is no longer
live: until that happens, the copy is the value once the queue has been emptied. -/

namespace Replication

variable {α : Type}

/-- What stands once everything that is coming has arrived. -/
def settled (current : α) (coming : List α) : α := coming.foldl (fun _ next => next) current

section

variable (current next : α) (coming later : List α)

@[simp] theorem settled_nil : settled current [] = current := rfl

@[simp] theorem settled_cons : settled current (next :: coming) = settled next coming := rfl

@[simp] theorem settled_append :
    settled current (coming ++ later) = settled (settled current coming) later :=
  List.foldl_append

end

/-- The copy `behind`, the versions that are `coming` to it and the value `ahead` of them. -/
structure Trails (older : α → α → Prop) (behind : α) (coming : List α) (ahead : α) (live : Prop) :
    Prop where
  rising : (behind :: coming).Pairwise older
  bounded : ∀ version ∈ behind :: coming, older version ahead ∨ version = ahead
  latest : live → settled behind coming = ahead

namespace Trails

variable {older : α → α → Prop} {behind ahead next : α} {coming lost : List α} {live : Prop}

theorem start (current : α) : Trails older current [] current live := by
  refine ⟨List.pairwise_singleton .., ?_, fun _ => rfl⟩
  intro version there
  exact .inr (List.mem_singleton.mp there)

/-- The owner has a new version and sends it. -/
theorem publish [IsTrans α older] (trails : Trails older behind coming ahead live)
    (newer : older ahead next) :
    Trails older behind (coming ++ [next]) next live := by
  have surpassed : ∀ version ∈ behind :: coming, older version next := by
    intro version there
    cases trails.bounded version there with
    | inl earlier => exact IsTrans.trans _ _ _ earlier newer
    | inr same => exact same ▸ newer
  have split : behind :: (coming ++ [next]) = (behind :: coming) ++ [next] := rfl
  refine ⟨?_, ?_, fun _ => by simp⟩
  · rw [split, List.pairwise_append]
    refine ⟨trails.rising, List.pairwise_singleton .., ?_⟩
    intro version there last isLast
    rw [List.mem_singleton.mp isLast]
    exact surpassed version there
  · intro version there
    rw [split, List.mem_append, List.mem_singleton] at there
    exact there.imp_left (surpassed version)

/-- The copy takes the next version, which is newer. -/
theorem take (trails : Trails older behind (next :: coming) ahead live) :
    older behind next ∧ Trails older next coming ahead live := by
  have later := List.pairwise_cons.mp trails.rising
  refine ⟨later.1 next (List.mem_cons_self ..), later.2, ?_, trails.latest⟩
  intro version there
  exact trails.bounded version (List.mem_cons_of_mem _ there)

/-- The newest versions do not make it into the queue. -/
theorem lose (trails : Trails older behind (coming ++ lost) ahead live) (dead : ¬ live) :
    Trails older behind coming ahead live := by
  have split : behind :: (coming ++ lost) = (behind :: coming) ++ lost := rfl
  refine ⟨?_, ?_, fun alive => absurd alive dead⟩
  · have rising := trails.rising
    rw [split, List.pairwise_append] at rising
    exact rising.1
  · intro version there
    apply trails.bounded version
    rw [split]
    exact List.mem_append_left _ there

theorem weaken (trails : Trails older behind coming ahead live) {still : Prop}
    (weaker : still → live) :
    Trails older behind coming ahead still :=
  ⟨trails.rising, trails.bounded, fun alive => trails.latest (weaker alive)⟩

end Trails

end Replication
