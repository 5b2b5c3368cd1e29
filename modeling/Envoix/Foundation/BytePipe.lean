import Mathlib.Data.List.Basic
import Mathlib.Tactic

/-! # Bounded pipes

One direction of an in-memory duplex.  A write may be cut short by the bound and a read by what
waits, so what a pipe promises is the order: beside what waits stands what the reader has taken, and
a pump that moves values from one pipe to the next is judged by what was put into the first and what
left the second. -/

namespace BytePipe

/-- What polling yields. -/
inductive Poll (α : Type) where
  | pending
  | ready (value : α)

structure Pipe (α : Type) (capacity : Nat) where
  taken : List α
  waiting : List α
  closed : Bool
  bounded : waiting.length ≤ capacity

variable {α : Type} {capacity : Nat}

namespace Pipe

def empty : Pipe α capacity := ⟨[], [], false, Nat.zero_le _⟩

/-- All that was ever written. -/
def put (pipe : Pipe α capacity) : List α := pipe.taken ++ pipe.waiting

def close (pipe : Pipe α capacity) : Pipe α capacity := { pipe with closed := true }

theorem length_append_take_le (pipe : Pipe α capacity) (values : List α) :
    (pipe.waiting ++ values.take (min values.length (capacity - pipe.waiting.length))).length ≤
      capacity := by
  have bounded := pipe.bounded
  rw [List.length_append, List.length_take]
  omega

/-- Writes as many values as there is room for and says how many; `none` once the pipe is closed. -/
def pollWrite (pipe : Pipe α capacity) (values : List α) : Poll (Option (Nat × Pipe α capacity)) :=
  if pipe.closed then .ready none
  else if pipe.waiting.length = capacity then .pending
  else
    let count := min values.length (capacity - pipe.waiting.length)
    .ready (some (count, { pipe with waiting := pipe.waiting ++ values.take count
                                     bounded := length_append_take_le pipe values }))

theorem length_drop_le (pipe : Pipe α capacity) (limit : Nat) :
    (pipe.waiting.drop limit).length ≤ capacity := by
  have bounded := pipe.bounded
  rw [List.length_drop]
  omega

/-- Takes at most `limit` values; no values are the end of the stream. -/
def pollRead (pipe : Pipe α capacity) (limit : Nat) : Poll (List α × Pipe α capacity) :=
  if pipe.waiting = [] then
    if pipe.closed then .ready ([], pipe) else .pending
  else
    .ready (pipe.waiting.take limit, { pipe with taken := pipe.taken ++ pipe.waiting.take limit
                                                 waiting := pipe.waiting.drop limit
                                                 bounded := length_drop_le pipe limit })

variable {pipe next : Pipe α capacity} {values chunk : List α} {count limit : Nat}

@[simp] theorem put_empty : (empty : Pipe α capacity).put = [] := rfl
@[simp] theorem taken_empty : (empty : Pipe α capacity).taken = [] := rfl
@[simp] theorem closed_empty : (empty : Pipe α capacity).closed = false := rfl

@[simp] theorem put_close : pipe.close.put = pipe.put := rfl
@[simp] theorem taken_close : pipe.close.taken = pipe.taken := rfl
@[simp] theorem waiting_close : pipe.close.waiting = pipe.waiting := rfl
@[simp] theorem closed_close : pipe.close.closed = true := rfl

theorem taken_prefix_put (pipe : Pipe α capacity) : pipe.taken <+: pipe.put :=
  List.prefix_append _ _

theorem put_eq_taken (drained : pipe.waiting = []) : pipe.put = pipe.taken := by simp [put, drained]

/-- What a write does: some of the values, at least one if there are any, follow what was put
before. -/
theorem pollWrite_some (wrote : pipe.pollWrite values = .ready (some (count, next))) :
    next.put = pipe.put ++ values.take count ∧ next.taken = pipe.taken ∧ pipe.closed = false ∧
      next.closed = false ∧ (values ≠ [] → 0 < count) := by
  unfold pollWrite at wrote
  by_cases closed : pipe.closed = true
  · simp [if_pos closed] at wrote
  · rw [if_neg closed] at wrote
    by_cases full : pipe.waiting.length = capacity
    · simp [if_pos full] at wrote
    · rw [if_neg full] at wrote
      simp only [Poll.ready.injEq, Option.some.injEq, Prod.mk.injEq] at wrote
      obtain ⟨rfl, rfl⟩ := wrote
      refine ⟨by simp [put], rfl, by simpa using closed, by simpa using closed, fun some => ?_⟩
      have bounded := pipe.bounded
      have longer := List.length_pos_iff.mpr some
      omega

/-- What a read does: what it yields follows what was taken before, and nothing is the end. -/
theorem pollRead_ready (read : pipe.pollRead limit = .ready (chunk, next)) :
    next.put = pipe.put ∧ next.taken = pipe.taken ++ chunk ∧ next.closed = pipe.closed ∧
      chunk.length ≤ limit ∧
      (0 < limit → chunk = [] → pipe.waiting = [] ∧ pipe.closed = true ∧ next = pipe) := by
  unfold pollRead at read
  by_cases drained : pipe.waiting = []
  · rw [if_pos drained] at read
    by_cases closed : pipe.closed = true
    · simp only [if_pos closed, Poll.ready.injEq, Prod.mk.injEq] at read
      obtain ⟨rfl, rfl⟩ := read
      exact ⟨rfl, by simp, rfl, Nat.zero_le _, fun _ _ => ⟨drained, closed, rfl⟩⟩
    · simp [if_neg closed] at read
  · rw [if_neg drained] at read
    simp only [Poll.ready.injEq, Prod.mk.injEq] at read
    obtain ⟨rfl, rfl⟩ := read
    refine ⟨by simp [put], rfl, rfl, by simp, fun positive nothing => ?_⟩
    obtain none | none := List.take_eq_nil_iff.mp nothing
    · omega
    · exact absurd none drained

end Pipe

end BytePipe
