/-! # A lock that a panic poisons

A state behind a lock.  A section that holds the lock runs to its end, or panics and leaves the
state as it is then; from there on the lock is poisoned and no section runs any more, but a step may
still have an effect of its own, such as a guard that is given up.  What holds while the lock is
sound and what still holds of the state behind a poisoned lock are two invariants. -/

structure Sections (State Step : Type) where
  enabled : State → Step → Prop
  /-- The section runs to its end. -/
  ends : State → Step → State → Prop
  /-- The section panics and leaves this state behind. -/
  panics : State → Step → State → Prop
  /-- What the step does where the lock is poisoned. -/
  refused : State → Step → State

namespace Sections

variable {State Step : Type} (sections : Sections State Step)

/-- Whether the lock is poisoned, and the state, after steps that are `allowed`. -/
inductive Reached (start : State) (allowed : State → Step → Prop) : Bool → State → Prop where
  | start : Reached start allowed false start
  | ends {state after : State} {step : Step} (before : Reached start allowed false state)
      (enabled : sections.enabled state step) (allows : allowed state step)
      (ends : sections.ends state step after) :
      Reached start allowed false after
  | panics {state left : State} {step : Step} (before : Reached start allowed false state)
      (enabled : sections.enabled state step) (allows : allowed state step)
      (panics : sections.panics state step left) :
      Reached start allowed true left
  | refused {state : State} {step : Step} (before : Reached start allowed true state)
      (enabled : sections.enabled state step) (allows : allowed state step) :
      Reached start allowed true (sections.refused state step)

variable {sections} {start : State} {allowed : State → Step → Prop} {poisoned : Bool}
  {state : State}

/-- Behind a sound lock stands what its sections preserve. -/
theorem Reached.sound {invariant : State → Prop} (initial : invariant start)
    (ends : ∀ {state step after}, invariant state → sections.enabled state step →
      allowed state step → sections.ends state step after → invariant after)
    (reached : sections.Reached start allowed false state) : invariant state := by
  generalize lock : false = poisoned at reached
  induction reached with
  | start => exact initial
  | ends _ enabled allows done ih => exact ends (ih rfl) enabled allows done
  | panics => cases lock
  | refused => cases lock

/-- What a panic leaves of the invariant, and what is refused afterwards preserves, stands behind a
poisoned lock. -/
theorem Reached.broken {invariant broken : State → Prop} (initial : invariant start)
    (ends : ∀ {state step after}, invariant state → sections.enabled state step →
      allowed state step → sections.ends state step after → invariant after)
    (panics : ∀ {state step left}, invariant state → sections.enabled state step →
      allowed state step → sections.panics state step left → broken left)
    (refused : ∀ {state step}, broken state → sections.enabled state step →
      broken (sections.refused state step))
    (reached : sections.Reached start allowed true state) : broken state := by
  generalize lock : true = poisoned at reached
  induction reached with
  | start => cases lock
  | ends => cases lock
  | panics before enabled allows panicked =>
    exact panics (before.sound initial ends) enabled allows panicked
  | refused _ enabled _ ih => exact refused (ih lock) enabled

/-- Steps that do not panic keep the lock sound. -/
theorem Reached.never_poisoned
    (calm : ∀ {state step left}, allowed state step → ¬ sections.panics state step left)
    (reached : sections.Reached start allowed poisoned state) : poisoned = false := by
  induction reached with
  | start => rfl
  | ends => rfl
  | panics _ _ allows panicked => exact absurd panicked (calm allows)
  | refused _ _ _ ih => exact ih

end Sections
