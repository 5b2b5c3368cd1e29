import Mathlib.Tactic

/-! # A queue with one dispatcher

Any number of threads submit requests.  What is accepted is queued, and the thread that finds nobody
dispatching delivers what is queued, one event at a time, until it finds the queue empty.  A
delivery may submit in its turn, and other threads submit meanwhile.  Two sections hold the lock:
the one that accepts and the one that takes the next event. -/

namespace Dispatcher

variable {σ ρ ε : Type}

structure Queue (σ ε : Type) where
  state : σ
  pending : List ε
  dispatching : Bool

/-- `none` where nothing is accepted, else whether the caller is to dispatch. -/
def Queue.submit (accept : ρ → σ → Option ε × σ) (request : ρ) (queue : Queue σ ε) :
    Option Bool × Queue σ ε :=
  match accept request queue.state with
  | (none, state) => (none, { queue with state })
  | (some event, state) =>
    (some (!queue.dispatching), {
      state
      pending := queue.pending ++ [event]
      dispatching := true })

/-- The next event; where there is none the dispatcher is done. -/
def Queue.next (queue : Queue σ ε) : Option ε × Queue σ ε :=
  match queue.pending with
  | [] => (none, { queue with dispatching := false })
  | event :: pending => (some event, { queue with pending })

/-! ## Threads -/

/-- Where a call stands: before the section that accepts, before the one that takes an event, with
an event that is not delivered yet, and in the delivery of one. -/
inductive Frame (ρ ε : Type) where
  | called (request : ρ)
  | looping
  | popped (event : ε)
  | delivering

def Frame.isDelivering : Frame ρ ε → Bool
  | .delivering => true
  | _ => false

/-- The queue, the calls of every thread, the innermost first, and the events in the order of their
acceptance and of their delivery. -/
structure World (σ ρ ε : Type) where
  queue : Queue σ ε
  calls : Nat → List (Frame ρ ε)
  accepted : List ε
  delivered : List ε

def World.init (state : σ) : World σ ρ ε := ⟨⟨state, [], false⟩, fun _ => [], [], []⟩

def World.put (world : World σ ρ ε) (thread : Nat) (stack : List (Frame ρ ε)) : World σ ρ ε :=
  { world with calls := Function.update world.calls thread stack }

/-- The section that accepts, in a thread that called from `rest`. -/
def World.submit (accept : ρ → σ → Option ε × σ) (world : World σ ρ ε) (thread : Nat) (request : ρ)
    (rest : List (Frame ρ ε)) : World σ ρ ε :=
  let (dispatch, queue) := world.queue.submit accept request
  let world :=
    { world with queue, accepted := world.accepted ++ (accept request world.queue.state).1.toList }
  world.put thread (if dispatch = some true then .looping :: rest else rest)

def World.next (world : World σ ρ ε) (thread : Nat) (rest : List (Frame ρ ε)) : World σ ρ ε :=
  let (event, queue) := world.queue.next
  let world := { world with queue }
  world.put thread (event.elim rest fun event => .popped event :: rest)

inductive Step (accept : ρ → σ → Option ε × σ) (world : World σ ρ ε) : World σ ρ ε → Prop where
  | call (thread : Nat) (request : ρ)
      (free : world.calls thread = [] ∨ ∃ rest, world.calls thread = .delivering :: rest) :
      Step accept world (world.put thread (.called request :: world.calls thread))
  | submit {thread : Nat} {request : ρ} {rest : List (Frame ρ ε)}
      (top : world.calls thread = .called request :: rest) :
      Step accept world (world.submit accept thread request rest)
  | next {thread : Nat} {rest : List (Frame ρ ε)} (top : world.calls thread = .looping :: rest) :
      Step accept world (world.next thread rest)
  | deliver {thread : Nat} {event : ε} {rest : List (Frame ρ ε)}
      (top : world.calls thread = .popped event :: rest) :
      Step accept world
        ({ world with delivered := world.delivered ++ [event] }.put thread (.delivering :: rest))
  | delivered {thread : Nat} {rest : List (Frame ρ ε)}
      (top : world.calls thread = .delivering :: rest) :
      Step accept world (world.put thread (.looping :: rest))

inductive Reached (accept : ρ → σ → Option ε × σ) (state : σ) : World σ ρ ε → Prop where
  | init : Reached accept state (.init state)
  | step {world next : World σ ρ ε} (before : Reached accept state world)
      (step : Step accept world next) :
      Reached accept state next

/-! ## One dispatcher -/

/-- A thread that does not dispatch. -/
def Idle (stack : List (Frame ρ ε)) : Prop := stack = [] ∨ ∃ request, stack = [.called request]

/-- The calls of the dispatcher, and what it holds. -/
inductive Duty : List ε → List (Frame ρ ε) → Prop where
  | looping : Duty [] [.looping]
  | popped (event : ε) : Duty [event] [.popped event]
  | delivering : Duty [] [.delivering]
  | calling (request : ρ) : Duty [] [.called request, .delivering]

/-- Either nobody dispatches and all is delivered, or one thread does. -/
inductive Held (world : World σ ρ ε) : Prop where
  | free (idle : ∀ thread, Idle (world.calls thread)) (resting : world.queue.dispatching = false)
      (drained : world.queue.pending = []) (accounted : world.accepted = world.delivered)
  | busy {owner : Nat} {held : List ε} (duty : Duty held (world.calls owner))
      (others : ∀ thread ≠ owner, Idle (world.calls thread))
        (dispatching : world.queue.dispatching = true)
      (accounted : world.accepted = world.delivered ++ held ++ world.queue.pending)

section Steps

variable {accept : ρ → σ → Option ε × σ} {world next : World σ ρ ε} {thread : Nat} {state : σ}

theorem calls_put_self (stack : List (Frame ρ ε)) : (world.put thread stack).calls thread = stack :=
  Function.update_self _ _ _

theorem calls_put_of_ne {other : Nat} (elsewhere : other ≠ thread) (stack : List (Frame ρ ε)) :
    (world.put thread stack).calls other = world.calls other :=
  Function.update_of_ne elsewhere _ _

theorem idle_put (idle : ∀ thread, Idle (world.calls thread)) {stack : List (Frame ρ ε)}
    (new : Idle stack) (other : Nat) :
    Idle ((world.put thread stack).calls other) := by
  by_cases here : other = thread
  · rw [here, calls_put_self]
    exact new
  · rw [calls_put_of_ne here]
    exact idle other

theorem others_put {owner : Nat} (others : ∀ thread ≠ owner, Idle (world.calls thread))
    {stack : List (Frame ρ ε)} (new : thread = owner ∨ Idle stack) :
    ∀ other ≠ owner, Idle ((world.put thread stack).calls other) := by
  intro other elsewhere
  by_cases here : other = thread
  · subst here
    rw [calls_put_self]
    exact new.resolve_left elsewhere
  · rw [calls_put_of_ne here]
    exact others other elsewhere

theorem duty_put {owner : Nat} {held : List ε} (duty : Duty held (world.calls owner))
    (elsewhere : thread ≠ owner) (stack : List (Frame ρ ε)) :
    Duty held ((world.put thread stack).calls owner) := by
  rw [calls_put_of_ne (Ne.symm elsewhere)]
  exact duty

theorem duty_put_self {held : List ε} {stack : List (Frame ρ ε)} (duty : Duty held stack) :
    Duty held ((world.put thread stack).calls thread) := by
  rw [calls_put_self]
  exact duty

/-- An idle thread stands before the section that accepts, if anywhere. -/
theorem Idle.top {frame : Frame ρ ε} {rest : List (Frame ρ ε)} {stack : List (Frame ρ ε)}
    (idle : Idle stack) (top : stack = frame :: rest) :
    rest = [] ∧ ∃ request, frame = .called request := by
  obtain empty | ⟨request, one⟩ := idle
  · rw [empty] at top
    cases top
  · rw [one] at top
    injection top with first rest
    exact ⟨rest.symm, request, first.symm⟩

theorem Held.step (held : Held world) (step : Step accept world next) : Held next := by
  cases held with
  | free idle resting drained accounted =>
    cases step with
    | call thread request free =>
      obtain empty | ⟨rest, top⟩ := free
      · rw [empty]
        exact .free (idle_put idle (.inr ⟨request, rfl⟩)) resting drained accounted
      · obtain ⟨-, request, same⟩ := (idle thread).top top
        cases same
    | @submit thread request rest top =>
      obtain ⟨rfl, -⟩ := (idle thread).top top
      unfold World.submit Queue.submit
      cases accepts : accept request world.queue.state with
      | mk event state =>
        cases event with
        | none =>
          refine .free (idle_put idle (.inl rfl)) resting drained ?_
          exact (List.append_nil _).trans accounted
        | some event =>
          -- the thread finds nobody dispatching and begins
          simp only [resting, drained, Bool.not_false, if_true]
          refine .busy (duty_put_self .looping)
            (others_put (fun other _ => idle other) (.inl rfl)) rfl ?_
          show world.accepted ++ [event] = world.delivered ++ [] ++ [event]
          rw [accounted, List.append_nil]
    | @next thread rest top =>
      obtain ⟨-, request, same⟩ := (idle thread).top top
      cases same
    | @deliver thread event rest top =>
      obtain ⟨-, request, same⟩ := (idle thread).top top
      cases same
    | @delivered thread rest top =>
      obtain ⟨-, request, same⟩ := (idle thread).top top
      cases same
  | @busy owner held duty others dispatching accounted =>
    -- a thread that does not own the queue only calls and is answered
    have foreign : ∀ {thread frame rest}, thread ≠ owner → world.calls thread = frame :: rest →
        rest = [] ∧ ∃ request, frame = .called request := fun elsewhere => (others _ elsewhere).top
    cases step with
    | call thread request free =>
      by_cases own : thread = owner
      · subst own
        obtain empty | ⟨rest, top⟩ := free
        · rw [empty] at duty
          cases duty
        · rw [top] at duty ⊢
          cases duty with
          | delivering =>
            exact .busy (duty_put_self (.calling request))
              (others_put others (.inl rfl)) dispatching accounted
      · obtain empty | ⟨rest, top⟩ := free
        · rw [empty]
          exact .busy (duty_put duty own _)
            (others_put others (.inr (.inr ⟨request, rfl⟩))) dispatching accounted
        · obtain ⟨-, request, same⟩ := foreign own top
          cases same
    | @submit thread request rest top =>
      unfold World.submit Queue.submit
      -- the owner goes on with its delivery, another thread returns
      have kept : ∀ {world' : World σ ρ ε}, world'.calls = world.calls →
          Duty held ((world'.put thread rest).calls owner) ∧
            ∀ other ≠ owner, Idle ((world'.put thread rest).calls other) := by
        intro world' same
        by_cases own : thread = owner
        · subst own
          rw [top] at duty
          cases duty with
          | calling _ => exact ⟨duty_put_self .delivering, others_put (same ▸ others) (.inl rfl)⟩
        · obtain ⟨rfl, -⟩ := foreign own top
          exact ⟨duty_put (same ▸ duty) own _, others_put (same ▸ others) (.inr (.inl rfl))⟩
      cases accepts : accept request world.queue.state with
      | mk event state =>
        cases event with
        | none =>
          obtain ⟨duty, others⟩ := @kept { world with
            queue := { world.queue with state }
            accepted := world.accepted ++ [] } rfl
          exact .busy duty others dispatching ((List.append_nil _).trans accounted)
        | some event =>
          simp only [dispatching, Bool.not_true]
          obtain ⟨duty, others⟩ := @kept { world with
            queue := ⟨state, world.queue.pending ++ [event], true⟩
            accepted := world.accepted ++ [event] } rfl
          refine .busy duty others rfl ?_
          show world.accepted ++ [event] = world.delivered ++ held ++
            (world.queue.pending ++ [event])
          rw [accounted, List.append_assoc]
    | @next thread rest top =>
      by_cases own : thread = owner
      · subst own
        rw [top] at duty
        cases duty with
        | looping =>
          rw [List.append_nil] at accounted
          unfold World.next Queue.next
          cases queued : world.queue.pending with
          | nil =>
            rw [queued, List.append_nil] at accounted
            refine .free (fun other => ?_) rfl rfl accounted
            by_cases here : other = thread
            · rw [here, calls_put_self]
              exact .inl rfl
            · rw [calls_put_of_ne here]
              exact others other here
          | cons event pending =>
            refine .busy (duty_put_self (.popped event))
              (others_put others (.inl rfl)) dispatching ?_
            show world.accepted = world.delivered ++ [event] ++ pending
            rw [accounted, queued, List.append_assoc]
            rfl
      · obtain ⟨-, request, same⟩ := foreign own top
        cases same
    | @deliver thread event rest top =>
      by_cases own : thread = owner
      · subst own
        rw [top] at duty
        cases duty with
        | popped _ =>
          refine .busy (duty_put_self .delivering) (others_put others (.inl rfl)) dispatching ?_
          show world.accepted = world.delivered ++ [event] ++ [] ++ world.queue.pending
          rw [List.append_nil]
          exact accounted
      · obtain ⟨-, request, same⟩ := foreign own top
        cases same
    | @delivered thread rest top =>
      by_cases own : thread = owner
      · subst own
        rw [top] at duty
        cases duty with
        | delivering =>
          exact .busy (duty_put_self .looping) (others_put others (.inl rfl)) dispatching accounted
      · obtain ⟨-, request, same⟩ := foreign own top
        cases same

theorem Reached.held (reached : Reached accept state world) : Held world := by
  induction reached with
  | init => exact .free (fun _ => .inl rfl) rfl rfl rfl
  | step _ step ih => exact ih.step step

/-! ## What follows -/

/-- Once no call is running, all that was accepted is delivered, in that order. -/
theorem Reached.quiet (reached : Reached accept state world)
    (quiet : ∀ thread, world.calls thread = []) :
    world.delivered = world.accepted := by
  cases reached.held with
  | free _ _ _ accounted => exact accounted.symm
  | @busy owner _ duty _ _ _ =>
    rw [quiet owner] at duty
    cases duty

/-- There is at most one delivery, and so none within another. -/
theorem Reached.single (reached : Reached accept state world) :
    (∀ thread, (world.calls thread).countP Frame.isDelivering ≤ 1) ∧
      ∀ thread other, .delivering ∈ world.calls thread → .delivering ∈ world.calls other →
        thread = other := by
  have unowned : ∀ {stack : List (Frame ρ ε)}, Idle stack → .delivering ∉ stack ∧
      stack.countP Frame.isDelivering ≤ 1 := by
    rintro _ (rfl | ⟨request, rfl⟩) <;> exact ⟨by simp, by simp [Frame.isDelivering]⟩
  cases reached.held with
  | free idle _ _ _ =>
    exact ⟨fun thread => (unowned (idle thread)).2,
      fun thread _ here => absurd here (unowned (idle thread)).1⟩
  | @busy owner _ duty others _ _ =>
    have owned : ∀ thread, .delivering ∈ world.calls thread → thread = owner :=
      fun thread here => by_contra fun elsewhere => (unowned (others thread elsewhere)).1 here
    refine ⟨fun thread => ?_, fun thread other here there =>
      (owned thread here).trans (owned other there).symm⟩
    by_cases own : thread = owner
    · subst own
      generalize world.calls thread = stack at duty ⊢
      cases duty <;> simp [Frame.isDelivering]
    · exact (unowned (others thread own)).2

/-- What every request keeps of the state and of what was accepted holds of a run. -/
theorem Reached.invariant {holds : σ → List ε → Prop} (reached : Reached accept state world)
    (first : holds state []) (keeps : ∀ state accepted request, holds state accepted →
      holds (accept request state).2 (accepted ++ (accept request state).1.toList)) :
    holds world.queue.state world.accepted := by
  induction reached with
  | init => exact first
  | @step world next before step ih =>
    cases step with
    | call _ _ _ => exact ih
    | @submit thread request rest top =>
      have kept := keeps _ _ request ih
      unfold World.submit Queue.submit
      cases accepts : accept request world.queue.state with
      | mk event state =>
        rw [accepts] at kept
        cases event <;> exact kept
    | @next thread rest top =>
      unfold World.next Queue.next
      cases world.queue.pending <;> exact ih
    | deliver _ => exact ih
    | delivered _ => exact ih

end Steps

end Dispatcher
