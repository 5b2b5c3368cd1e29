import Mathlib.Tactic

/-! # Cancellation

`TransferCancelToken` of `envoix-transfer/src/lib.rs`: one flag, one notifier, and any number of
calls on the clones of a token, each of them a sequence of atomic steps. -/

namespace Envoix.Transfer.CancelToken

/-! ## The notifier

A future remembers how many calls of `notify_waiters` there were when it was created, and is ready
as soon as there is another one. -/

structure Notify where
  notifyWaitersCalls : Nat
deriving DecidableEq

structure Notified where
  notifyWaitersCalls : Nat
deriving DecidableEq

def Notify.notifyWaiters (self : Notify) : Notify := ⟨self.notifyWaitersCalls + 1⟩

def Notify.notified (self : Notify) : Notified := ⟨self.notifyWaitersCalls⟩

def Notified.Ready (self : Notified) (notify : Notify) : Prop :=
  self.notifyWaitersCalls < notify.notifyWaitersCalls

instance (future : Notified) (notify : Notify) : Decidable (future.Ready notify) :=
  inferInstanceAs (Decidable (_ < _))

structure CancelInner where
  cancelled : Bool
  paused : Bool
  notify : Notify
deriving DecidableEq

def CancelInner.default : CancelInner := ⟨false, false, ⟨0⟩⟩

/-! ## Calls and their steps

A call stands before its next step. -/

inductive Cancel where
  | swap
  | notifyWaiters
  | finished
deriving DecidableEq

inductive Pause where
  | store
  | cancel (next : Cancel)
deriving DecidableEq

inductive Cancelled where
  | load
  | notified
  | await (future : Notified)
  | returned
deriving DecidableEq

inductive Call where
  | cancel (next : Cancel)
  | pause (next : Pause)
  | cancelled (next : Cancelled)
deriving DecidableEq

/-- Only the call that sets the flag notifies. -/
def Cancel.step (inner : CancelInner) : Cancel → Option (Cancel × CancelInner)
  | .swap =>
    some (if inner.cancelled then .finished else .notifyWaiters, { inner with cancelled := true })
  | .notifyWaiters => some (.finished, { inner with notify := inner.notify.notifyWaiters })
  | .finished => none

def Pause.step (inner : CancelInner) : Pause → Option (Pause × CancelInner)
  | .store => some (.cancel .swap, { inner with paused := true })
  | .cancel next => do
    let (next, inner) ← next.step inner
    return (.cancel next, inner)

/-- The polling of a future that is not ready changes nothing. -/
def Cancelled.step (inner : CancelInner) : Cancelled → Option Cancelled
  | .load => some (if inner.cancelled then .returned else .notified)
  | .notified => some (.await inner.notify.notified)
  | .await future => some (if future.Ready inner.notify then .returned else .await future)
  | .returned => none

def Call.step (inner : CancelInner) : Call → Option (Call × CancelInner)
  | .cancel next => do
    let (next, inner) ← next.step inner
    return (.cancel next, inner)
  | .pause next => do
    let (next, inner) ← next.step inner
    return (.pause next, inner)
  | .cancelled next => do
    let next ← next.step inner
    return (.cancelled next, inner)

structure TransferCancelToken where
  inner : CancelInner
  calls : List Call
deriving DecidableEq

/-- A call begins, or one that began makes its next step. -/
inductive Event where
  | cancel
  | pause
  | cancelled
  | step (index : Nat)
deriving DecidableEq

namespace TransferCancelToken

def new : TransferCancelToken := ⟨.default, []⟩

def isPause (self : TransferCancelToken) : Bool := self.inner.paused

def isCancelled (self : TransferCancelToken) : Bool := self.inner.cancelled

def begin_ (self : TransferCancelToken) (call : Call) : TransferCancelToken :=
  { self with calls := self.calls ++ [call] }

def step (self : TransferCancelToken) : Event → Option TransferCancelToken
  | .cancel => some (self.begin_ (.cancel .swap))
  | .pause => some (self.begin_ (.pause .store))
  | .cancelled => some (self.begin_ (.cancelled .load))
  | .step index => do
    let call ← self.calls[index]?
    let (call, inner) ← call.step self.inner
    return { inner, calls := self.calls.set index call }

def run (self : TransferCancelToken) : List Event → Option TransferCancelToken
  | [] => some self
  | event :: events => do
    let next ← self.step event
    next.run events

end TransferCancelToken

/-! ## What may go wrong -/

/-- Every `cancel` and `pause` has returned. -/
def Call.Settled : Call → Prop
  | .cancel next => next = .finished
  | .pause next => next = .cancel .finished
  | .cancelled _ => True

/-- A future that was not notified is waited for. -/
def Call.Waits (inner : CancelInner) : Call → Prop
  | .cancelled (.await future) => ¬ future.Ready inner.notify
  | _ => False

namespace TransferCancelToken

def Settled (self : TransferCancelToken) : Prop := ∀ call ∈ self.calls, call.Settled

structure Lost (self : TransferCancelToken) : Prop where
  cancelled : self.isCancelled = true
  settled : self.Settled
  waits : ∃ call ∈ self.calls, call.Waits self.inner

/-- The event creates a future although the waiters have been notified. -/
def Late (self : TransferCancelToken) : Event → Prop
  | .step index => self.calls[index]? = some (.cancelled .notified) ∧
    0 < self.inner.notify.notifyWaitersCalls
  | _ => False

/-- No step of the run creates a future too late. -/
def Timely (self : TransferCancelToken) : List Event → Prop
  | [] => True
  | event :: events => ¬ self.Late event ∧ ∀ next ∈ self.step event, next.Timely events

instance (self : TransferCancelToken) : (event : Event) → Decidable (self.Late event)
  | .step _ => inferInstanceAs (Decidable (_ ∧ _))
  | .cancel => isFalse id
  | .pause => isFalse id
  | .cancelled => isFalse id

instance decidableTimely : (events : List Event) → (self : TransferCancelToken) →
    Decidable (self.Timely events)
  | [], _ => isTrue trivial
  | event :: events, self =>
    have := decidableTimely events
    inferInstanceAs (Decidable (¬ self.Late event ∧ ∀ next ∈ self.step event, next.Timely events))

end TransferCancelToken

/-! ## One step -/

/-- The steps of a call, with what each of them does to the token. -/
inductive Moves (inner : CancelInner) : Call → Call → CancelInner → Prop
  | stores : Moves inner (.pause .store) (.pause (.cancel .swap)) { inner with paused := true }
  | cancelSets (unset : inner.cancelled = false) :
      Moves inner (.cancel .swap) (.cancel .notifyWaiters) { inner with cancelled := true }
  | pauseSets (unset : inner.cancelled = false) :
      Moves inner (.pause (.cancel .swap)) (.pause (.cancel .notifyWaiters))
        { inner with cancelled := true }
  | cancelFinds (set : inner.cancelled = true) :
      Moves inner (.cancel .swap) (.cancel .finished) inner
  | pauseFinds (set : inner.cancelled = true) :
      Moves inner (.pause (.cancel .swap)) (.pause (.cancel .finished)) inner
  | cancelNotifies :
      Moves inner (.cancel .notifyWaiters) (.cancel .finished)
        { inner with notify := inner.notify.notifyWaiters }
  | pauseNotifies :
      Moves inner (.pause (.cancel .notifyWaiters)) (.pause (.cancel .finished))
        { inner with notify := inner.notify.notifyWaiters }
  | returns (set : inner.cancelled = true) :
      Moves inner (.cancelled .load) (.cancelled .returned) inner
  | looks (unset : inner.cancelled = false) :
      Moves inner (.cancelled .load) (.cancelled .notified) inner
  | creates : Moves inner (.cancelled .notified) (.cancelled (.await inner.notify.notified)) inner
  | wakes (future : Notified) (ready : future.Ready inner.notify) :
      Moves inner (.cancelled (.await future)) (.cancelled .returned) inner
  | waits (future : Notified) (pending : ¬ future.Ready inner.notify) :
      Moves inner (.cancelled (.await future)) (.cancelled (.await future)) inner

theorem moves_of_step {inner inner' : CancelInner} {call next : Call}
    (stepped : call.step inner = some (next, inner')) :
    Moves inner call next inner' := by
  obtain ⟨cancelled, paused, notify⟩ := inner
  cases call with
  | cancel point =>
    cases point with
    | swap =>
      cases cancelled <;> cases stepped
      · exact .cancelSets rfl
      · exact .cancelFinds rfl
    | notifyWaiters =>
      cases stepped
      exact .cancelNotifies
    | finished => cases stepped
  | pause point =>
    cases point with
    | store =>
      cases stepped
      exact .stores
    | cancel point =>
      cases point with
      | swap =>
        cases cancelled <;> cases stepped
        · exact .pauseSets rfl
        · exact .pauseFinds rfl
      | notifyWaiters =>
        cases stepped
        exact .pauseNotifies
      | finished => cases stepped
  | cancelled point =>
    cases point with
    | load =>
      cases cancelled <;> cases stepped
      · exact .looks rfl
      · exact .returns rfl
    | notified =>
      cases stepped
      exact .creates
    | await future =>
      by_cases ready : future.Ready notify
      · simp only [Call.step, Cancelled.step, if_pos ready] at stepped
        cases stepped
        exact .wakes future ready
      · simp only [Call.step, Cancelled.step, if_neg ready] at stepped
        cases stepped
        exact .waits future ready
    | returned => cases stepped

/-- The call has set the flag and is about to notify. -/
def Call.announcing : Call → Bool
  | .cancel .notifyWaiters => true
  | .pause (.cancel .notifyWaiters) => true
  | _ => false

/-- The notification is owed from the step that sets the flag on, and is paid once. -/
theorem Moves.balance {inner inner' : CancelInner} {call next : Call}
    (moves : Moves inner call next inner') :
    next.announcing.toNat + inner'.notify.notifyWaitersCalls + inner.cancelled.toNat =
      call.announcing.toNat + inner.notify.notifyWaitersCalls + inner'.cancelled.toNat := by
  cases moves with
  | cancelSets unset => simp only [unset, Call.announcing, Bool.toNat_false, Bool.toNat_true]; omega
  | pauseSets unset => simp only [unset, Call.announcing, Bool.toNat_false, Bool.toNat_true]; omega
  | cancelNotifies =>
    simp only [Call.announcing, Notify.notifyWaiters, Bool.toNat_false, Bool.toNat_true]; omega
  | pauseNotifies =>
    simp only [Call.announcing, Notify.notifyWaiters, Bool.toNat_false, Bool.toNat_true]; omega
  | _ => rfl

theorem Moves.grows {inner inner' : CancelInner} {call next : Call}
    (moves : Moves inner call next inner') :
    inner.notify.notifyWaitersCalls ≤ inner'.notify.notifyWaitersCalls := by
  cases moves with
  | cancelNotifies => exact Nat.le_succ _
  | pauseNotifies => exact Nat.le_succ _
  | _ => exact Nat.le_refl _

/-- A call that waits after a step was waiting before it, or has created its future now. -/
theorem Moves.await {inner inner' : CancelInner} {call : Call} {future : Notified}
    (moves : Moves inner call (.cancelled (.await future)) inner') :
    call = .cancelled (.await future) ∨ call = .cancelled .notified ∧
      future = inner.notify.notified := by
  cases moves with
  | creates => exact .inr ⟨rfl, rfl⟩
  | waits future pending => exact .inl rfl

/-! ## Every state of a run -/

structure Sound (token : TransferCancelToken) : Prop where
  once : token.calls.countP Call.announcing + token.inner.notify.notifyWaitersCalls =
    token.inner.cancelled.toNat
  created : ∀ future, Call.cancelled (.await future) ∈ token.calls →
    future.notifyWaitersCalls ≤ token.inner.notify.notifyWaitersCalls

theorem Sound.notified {token : TransferCancelToken} (sound : Sound token) :
    token.inner.notify.notifyWaitersCalls ≤ 1 := by
  have once := sound.once
  have bit := Bool.toNat_le token.inner.cancelled
  omega

/-- What a step of a run is. -/
theorem step_cases {token next : TransferCancelToken} {event : Event}
    (stepped : token.step event = some next) :
    (∃ call : Call, call ∈ [.cancel .swap, .pause .store, .cancelled .load] ∧
      (∀ index, event ≠ .step index) ∧
      next = token.begin_ call) ∨
    ∃ index call call' inner', event = .step index ∧ token.calls[index]? = some call ∧
      Moves token.inner call call' inner' ∧ next = ⟨inner', token.calls.set index call'⟩ := by
  cases event with
  | cancel => cases stepped; exact .inl ⟨_, by simp, by simp, rfl⟩
  | pause => cases stepped; exact .inl ⟨_, by simp, by simp, rfl⟩
  | cancelled => cases stepped; exact .inl ⟨_, by simp, by simp, rfl⟩
  | step index =>
    simp only [TransferCancelToken.step, Option.bind_eq_bind, Option.bind_eq_some_iff,
      Prod.exists] at stepped
    obtain ⟨call, at_, call', inner', moved, found⟩ := stepped
    cases found
    exact .inr ⟨index, call, call', inner', rfl, at_, moves_of_step moved, rfl⟩

theorem sound_new : Sound .new := ⟨rfl, by simp [TransferCancelToken.new]⟩

theorem countP_set_add {α : Type} (p : α → Bool) {items : List α} {index : Nat}
    {item : α} (next : α) (found : items[index]? = some item) :
    (items.set index next).countP p + (p item).toNat = items.countP p + (p next).toNat := by
  induction items generalizing index with
  | nil => cases found
  | cons head items ih =>
    cases index with
    | zero =>
      cases found
      simp only [List.set_cons_zero, List.countP_cons]
      cases p item <;> cases p next <;> simp
    | succ index =>
      have rest := ih (by simpa using found)
      simp only [List.set_cons_succ, List.countP_cons]
      omega

theorem Sound.step {token next : TransferCancelToken} {event : Event} (sound : Sound token)
    (stepped : token.step event = some next) : Sound next := by
  obtain ⟨call, started, _, rfl⟩ | ⟨index, call, call', inner', rfl, found, moves, rfl⟩ :=
    step_cases stepped
  · -- a call that begins announces nothing and waits for nothing
    have quiet : call.announcing = false ∧ ∀ future, call ≠ .cancelled (.await future) := by
      simp only [List.mem_cons, List.not_mem_nil, or_false] at started
      rcases started with rfl | rfl | rfl <;> exact ⟨rfl, by simp⟩
    refine ⟨?_, fun future member => ?_⟩
    · have once := sound.once
      simp only [TransferCancelToken.begin_, List.countP_append, List.countP_singleton, quiet.1]
      exact once
    · cases List.mem_append.mp member with
      | inl member => exact sound.created future member
      | inr member => exact absurd (List.mem_singleton.mp member).symm (quiet.2 future)
  · have balance := moves.balance
    have counted := countP_set_add Call.announcing call' found
    have once := sound.once
    refine ⟨by simp only; omega, fun future member => ?_⟩
    have grows : token.inner.notify.notifyWaitersCalls ≤ inner'.notify.notifyWaitersCalls :=
      moves.grows
    cases List.mem_or_eq_of_mem_set member with
    | inl member => exact (sound.created future member).trans grows
    | inr same =>
      subst same
      cases moves.await with
      | inl same =>
        subst same
        exact (sound.created future (List.mem_of_getElem? found)).trans grows
      | inr made => exact made.2 ▸ grows

/-- A call waits for a future that was created after the notification. -/
def Stuck (token : TransferCancelToken) : Prop :=
  ∃ future, Call.cancelled (.await future) ∈ token.calls ∧ 0 < future.notifyWaitersCalls

/-- Such a call waits for ever, and there is one exactly when a future is created too late. -/
theorem stuck_step {token next : TransferCancelToken} {event : Event} (sound : Sound token)
    (stepped : token.step event = some next) : Stuck next ↔ Stuck token ∨ token.Late event := by
  obtain ⟨call, started, begins, rfl⟩ | ⟨index, call, call', inner', rfl, found, moves, rfl⟩ :=
    step_cases stepped
  · have early : ¬ token.Late event := by
      cases event with
      | step index => exact absurd rfl (begins index)
      | _ => exact id
    have waitsNot : ∀ future, call ≠ .cancelled (.await future) := by
      simp only [List.mem_cons, List.not_mem_nil, or_false] at started
      rcases started with rfl | rfl | rfl <;> simp
    constructor
    · rintro ⟨future, member, late⟩
      cases List.mem_append.mp member with
      | inl member => exact .inl ⟨future, member, late⟩
      | inr member => exact absurd (List.mem_singleton.mp member).symm (waitsNot future)
    · rintro (⟨future, member, late⟩ | late)
      · exact ⟨future, List.mem_append_left _ member, late⟩
      · exact absurd late early
  · constructor
    · rintro ⟨future, member, late⟩
      cases List.mem_or_eq_of_mem_set member with
      | inl member => exact .inl ⟨future, member, late⟩
      | inr same =>
        subst same
        cases moves.await with
        | inl same => exact .inl ⟨future, same ▸ List.mem_of_getElem? found, late⟩
        | inr made =>
          obtain ⟨rfl, rfl⟩ := made
          exact .inr ⟨found, late⟩
    · rintro (⟨future, member, late⟩ | ⟨creates, late⟩)
      · obtain ⟨position, bound, at_⟩ := List.mem_iff_getElem.mp member
        by_cases same : position = index
        · -- the call that waits is polled, and there is no second notification
          subst same
          rw [List.getElem?_eq_getElem bound, at_] at found
          cases found
          cases moves with
          | wakes _ ready =>
            have ready : future.notifyWaitersCalls < token.inner.notify.notifyWaitersCalls := ready
            have notified := sound.notified
            omega
          | waits _ pending =>
            exact ⟨future, List.mem_of_getElem? (List.getElem?_set_self bound), late⟩
        · refine ⟨future, List.mem_iff_getElem.mpr ⟨position, by simpa using bound, ?_⟩, late⟩
          rw [List.getElem_set_ne (Ne.symm same), at_]
      · rw [creates] at found
        cases found
        cases moves
        exact ⟨_,
          List.mem_of_getElem? (List.getElem?_set_self (List.getElem?_eq_some_iff.mp creates).1),
          late⟩

theorem run_cons {token final : TransferCancelToken} {event : Event} {events : List Event} :
    token.run (event :: events) = some final ↔ ∃ next, token.step event = some next ∧
      next.run events = some final := by
  simp only [TransferCancelToken.run, Option.bind_eq_bind, Option.bind_eq_some_iff]

theorem Sound.run {token final : TransferCancelToken} {events : List Event} (sound : Sound token)
    (ran : token.run events = some final) : Sound final := by
  induction events generalizing token with
  | nil => cases ran; exact sound
  | cons event events ih =>
    obtain ⟨next, stepped, ran⟩ := run_cons.mp ran
    exact ih (sound.step stepped) ran

theorem stuck_run {token final : TransferCancelToken} {events : List Event} (sound : Sound token)
    (ran : token.run events = some final) : Stuck final ↔ Stuck token ∨ ¬ token.Timely events := by
  induction events generalizing token with
  | nil =>
    cases ran
    simp [TransferCancelToken.Timely]
  | cons event events ih =>
    obtain ⟨next, stepped, ran⟩ := run_cons.mp ran
    rw [ih (sound.step stepped) ran, stuck_step sound stepped, TransferCancelToken.Timely, stepped,
      or_assoc, not_and_or, not_not]
    simp

/-- Once every call that cancels has returned, the waiters have been notified if and only if the
flag is set. -/
theorem lost_iff {token : TransferCancelToken} (sound : Sound token) : token.Lost ↔
    token.Settled ∧ Stuck token := by
  have paid : token.Settled →
      token.inner.notify.notifyWaitersCalls = token.inner.cancelled.toNat := by
    intro settled
    have none : token.calls.countP Call.announcing = 0 := by
      refine List.countP_eq_zero.mpr fun call member announcing => ?_
      have done := settled call member
      cases call with
      | cancel next => rw [show next = _ from done] at announcing; cases announcing
      | pause next => rw [show next = _ from done] at announcing; cases announcing
      | cancelled next => cases announcing
    have once := sound.once
    omega
  constructor
  · rintro ⟨set, settled, call, member, waits⟩
    refine ⟨settled, ?_⟩
    have notified := paid settled
    rw [show token.inner.cancelled = true from set] at notified
    cases call with
    | cancel next => exact waits.elim
    | pause next => exact waits.elim
    | cancelled next =>
      cases next with
      | await future =>
        have pending : ¬ future.notifyWaitersCalls < token.inner.notify.notifyWaitersCalls := waits
        exact ⟨future, member, by rw [notified, Bool.toNat_true] at pending; omega⟩
      | _ => exact waits.elim
  · rintro ⟨settled, future, member, late⟩
    have created := sound.created future member
    have notified := paid settled
    have set : token.inner.cancelled = true := by
      cases flag : token.inner.cancelled with
      | true => rfl
      | false =>
        rw [flag, Bool.toNat_false] at notified
        omega
    have pending : ¬ future.notifyWaitersCalls < token.inner.notify.notifyWaitersCalls := by
      rw [notified, set, Bool.toNat_true]
      omega
    exact ⟨set, settled, _, member, pending⟩

/-! ## Pausing -/

/-- A call that has done nothing yet but look at an unset flag. -/
def Call.Idle : Call → Prop
  | .pause .store => True
  | .cancelled .load => True
  | .cancelled .notified => True
  | .cancelled (.await _) => True
  | _ => False

/-- Nothing has been paused, nor cancelled. -/
structure Untouched (token : TransferCancelToken) : Prop where
  unset : token.inner.cancelled = false
  silent : token.inner.notify.notifyWaitersCalls = 0
  idle : ∀ call ∈ token.calls, call.Idle

theorem Untouched.begins {token : TransferCancelToken} (untouched : Untouched token) {call : Call}
    (idle : call.Idle) :
    Untouched (token.begin_ call) := by
  refine ⟨untouched.unset, untouched.silent, fun other member => ?_⟩
  cases List.mem_append.mp member with
  | inl member => exact untouched.idle other member
  | inr member => exact List.mem_singleton.mp member ▸ idle

theorem Untouched.moves {token : TransferCancelToken} (untouched : Untouched token) (index : Nat)
    (call : Call) (idle : call.Idle) : Untouched ⟨token.inner, token.calls.set index call⟩ := by
  refine ⟨untouched.unset, untouched.silent, fun other member => ?_⟩
  cases List.mem_or_eq_of_mem_set member with
  | inl member => exact untouched.idle other member
  | inr same => exact same ▸ idle

theorem paused_step {token next : TransferCancelToken} {event : Event} (pauseOnly : event ≠ .cancel)
    (before : token.isPause = true ∨ Untouched token) (stepped : token.step event = some next) :
    next.isPause = true ∨ Untouched next := by
  cases before with
  | inl paused =>
    refine .inl ?_
    obtain ⟨call, _, _, rfl⟩ | ⟨index, call, call', inner', rfl, _, moves, rfl⟩ :=
      step_cases stepped
    · exact paused
    · cases moves <;> first | rfl | exact paused
  | inr untouched =>
    cases event with
    | cancel => exact absurd rfl pauseOnly
    | pause =>
      cases stepped
      exact .inr (untouched.begins trivial)
    | cancelled =>
      cases stepped
      exact .inr (untouched.begins trivial)
    | step index =>
      obtain ⟨_, _, begins, _⟩ | ⟨place, call, call', inner', _, found, moves, rfl⟩ :=
        step_cases stepped
      · exact absurd rfl (begins index)
      have idle := untouched.idle call (List.mem_of_getElem? found)
      have unset := untouched.unset
      -- only the store of a pause can do anything to the token
      cases moves with
      | stores => exact .inl rfl
      | cancelSets unset => exact idle.elim
      | pauseSets unset => exact idle.elim
      | cancelFinds set => exact idle.elim
      | pauseFinds set => exact idle.elim
      | cancelNotifies => exact idle.elim
      | pauseNotifies => exact idle.elim
      | returns set => rw [unset] at set; cases set
      | looks unset => exact .inr (untouched.moves place (.cancelled .notified) trivial)
      | creates => exact .inr (untouched.moves place (.cancelled (.await _)) trivial)
      | wakes future ready =>
        have ready : future.notifyWaitersCalls < token.inner.notify.notifyWaitersCalls := ready
        rw [untouched.silent] at ready
        exact absurd ready (Nat.not_lt_zero _)
      | waits future pending =>
        exact .inr (untouched.moves place (.cancelled (.await future)) trivial)

theorem paused_run {token final : TransferCancelToken} {events : List Event}
    (pauseOnly : .cancel ∉ events) (before : token.isPause = true ∨ Untouched token)
    (ran : token.run events = some final) :
    final.isPause = true ∨ Untouched final := by
  induction events generalizing token with
  | nil => cases ran; exact before
  | cons event events ih =>
    obtain ⟨next, stepped, ran⟩ := run_cons.mp ran
    rw [List.mem_cons, not_or] at pauseOnly
    exact ih pauseOnly.2 (paused_step (Ne.symm pauseOnly.1) before stepped) ran

/-- A cancellation is lost in exactly those runs that create a future after the notification, as
soon as the calls that cancel have returned; and a call that returns after nothing but pauses finds
the pause. -/
theorem cancellation_lost_iff {events : List Event} {token : TransferCancelToken}
    (ran : TransferCancelToken.new.run events = some token) :
    (token.Lost ↔ token.Settled ∧ ¬ TransferCancelToken.new.Timely events) ∧
      (.cancel ∉ events → .cancelled .returned ∈ token.calls → token.isPause = true) := by
  refine ⟨?_, fun pauseOnly returned => ?_⟩
  · have fresh : ¬ Stuck .new := by simp [Stuck, TransferCancelToken.new]
    rw [lost_iff (sound_new.run ran), stuck_run sound_new ran, or_iff_right fresh]
  · have untouched : Untouched .new := ⟨rfl, rfl, by simp [TransferCancelToken.new]⟩
    cases paused_run pauseOnly (.inr untouched) ran with
    | inl paused => exact paused
    | inr untouched => exact (untouched.idle _ returned).elim

/-- A transfer that waits before it is paused. -/
def waitThenPause : List Event :=
  [.cancelled, .step 0, .step 0, .pause, .step 1, .step 1, .step 1, .step 0]

theorem cancellation_lost_iff_pause :
    ∃ token, TransferCancelToken.new.run waitThenPause = some token ∧ ¬ token.Lost ∧
      token.isPause = true := by
  have ran : TransferCancelToken.new.run waitThenPause =
      some ⟨⟨true, true, ⟨1⟩⟩, [.cancelled .returned, .pause (.cancel .finished)]⟩ := by decide
  obtain ⟨lost, paused⟩ := cancellation_lost_iff ran
  exact ⟨_, ran, fun isLost => (lost.mp isLost).2 (by decide), paused (by decide) (by decide)⟩

/-- The flag is read, the other call sets it and notifies, and only then the future is created. -/
theorem cancellation_lost :
    ∃ token, TransferCancelToken.new.run [.cancelled, .step 0, .cancel, .step 1, .step 1, .step 0,
      .step 0] = some token ∧
      token.Lost := by
  refine ⟨⟨⟨true, false, ⟨1⟩⟩, [.cancelled (.await ⟨1⟩), .cancel .finished]⟩, by decide,
    rfl, ?_, ?_⟩
  · simp [TransferCancelToken.Settled, Call.Settled]
  · exact ⟨_, List.mem_cons_self, Nat.lt_irrefl 1⟩

end Envoix.Transfer.CancelToken
