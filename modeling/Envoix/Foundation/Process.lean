import Mathlib.Tactic

/-! # Programs that call their environment

A program is a tree: it returns, or it calls an operation of its environment and goes on with
the reply.  The environment is left open, so that one model of a function serves a scripted run
(`Proc.exec`), every possible run, and every prefix of one. -/

namespace Process

/-- A program over the operations `Op`, where `Reply op` is what the environment may answer. -/
inductive Proc (Op : Type) (Reply : Op → Type) (α : Type) : Type where
  | ret (value : α)
  | call (op : Op) (next : Reply op → Proc Op Reply α)

variable {Op : Type} {Reply : Op → Type} {α β : Type}

namespace Proc

def bind : Proc Op Reply α → (α → Proc Op Reply β) → Proc Op Reply β
  | .ret value, next => next value
  | .call op answer, next => .call op fun reply => (answer reply).bind next

instance : Monad (Proc Op Reply) where
  pure := .ret
  bind := bind

/-- Calls one operation and returns its reply. -/
def perform (op : Op) : Proc Op Reply (Reply op) :=
  .call op .ret

theorem bind_ret (program : Proc Op Reply α) : program.bind .ret = program := by
  induction program with
  | ret value => rfl
  | call op answer ih =>
    show Proc.call op _ = Proc.call op answer
    congr 1
    funext reply
    exact ih reply

theorem bind_assoc {γ : Type} (program : Proc Op Reply α) (first : α → Proc Op Reply β)
    (second : β → Proc Op Reply γ) :
    (program.bind first).bind second = program.bind fun value => (first value).bind second := by
  induction program with
  | ret value => rfl
  | call op answer ih =>
    show Proc.call op _ = Proc.call op _
    congr 1
    funext reply
    exact ih reply

instance : LawfulMonad (Proc Op Reply) :=
  LawfulMonad.mk' _ bind_ret (fun _ _ => rfl) bind_assoc

/-! ## Scripted runs -/

section Exec

variable {World : Type} (answer : (op : Op) → World → Reply op × World)

/-- Runs a program to its end in a world that answers every call. -/
def exec : Proc Op Reply α → World → α × World
  | .ret value, world => (value, world)
  | .call op next, world => (next (answer op world).1).exec (answer op world).2

@[simp] theorem exec_ret (value : α) (world : World) :
    exec answer (.ret value : Proc Op Reply α) world = (value, world) := rfl

@[simp] theorem exec_call (op : Op) (next : Reply op → Proc Op Reply α) (world : World) :
    exec answer (.call op next) world = exec answer (next (answer op world).1)
      (answer op world).2 := rfl

end Exec

/-- The result of a program whose calls are answered without a world; `none` where one is not. -/
def interpret (answer : (op : Op) → Option (Reply op)) : Proc Op Reply α → Option α
  | .ret value => some value
  | .call op next =>
    match answer op with
    | none => none
    | some reply => (next reply).interpret answer

@[simp] theorem pure_def (value : α) : (pure value : Proc Op Reply α) = .ret value := rfl

@[simp] theorem ret_bind (value : α) (next : α → Proc Op Reply β) :
    (.ret value >>= next) = next value := rfl

@[simp] theorem call_bind (op : Op) (answer : Reply op → Proc Op Reply α)
    (next : α → Proc Op Reply β) :
    (.call op answer >>= next) = .call op fun reply => answer reply >>= next := rfl

/-- A program over some operations as one over more: `inject` names each operation there. -/
def embed {Op' : Type} {Reply' : Op' → Type} (inject : Op → Op') :
    Proc Op (fun op => Reply' (inject op)) α → Proc Op' Reply' α
  | .ret value => .ret value
  | .call op next => .call (inject op) fun reply => (next reply).embed inject

end Proc

/-! ## Methods

A method borrows a state, may fail, and may call its environment; the state it leaves behind
survives a failure. -/

/-- `&mut self` methods over the effects of `m`. -/
abbrev Method (m : Type → Type) (State Error : Type) := ExceptT Error (StateT State m)

namespace Method

variable {m : Type → Type} [Monad m] {State Error : Type}

/-- `?` on a result. -/
def raise (result : Except Error α) : Method m State Error α :=
  ExceptT.mk (pure result)

/-- Calls an operation of the environment. -/
def perform (op : Op) : Method (Proc Op Reply) State Error (Reply op) :=
  ExceptT.lift (StateT.lift (.perform op))

/-- Runs a program that knows nothing of the state. -/
def call (program : m α) : Method m State Error α :=
  ExceptT.lift (StateT.lift program)

/-- A method over some operations as one over more, with its errors converted. -/
def embed {Op' : Type} {Reply' : Op' → Type} {Error' : Type} (inject : Op → Op')
    (convert : Error → Error')
    (method : Method (Proc Op (fun op => Reply' (inject op))) State Error α) :
    Method (Proc Op' Reply') State Error' α :=
  fun state => do
    let (result, state) ← (method.run.run state).embed inject
    pure (match result with
      | .ok value => .ok value
      | .error error => .error (convert error), state)

/-- The outcome of a method and the state it leaves behind. -/
def runOn (method : Method m State Error α) (state : State) : m (Except Error α × State) :=
  method.run.run state

@[simp] theorem runOn_pure (value : α) (state : State) :
    (pure value : Method m State Error α).runOn state = pure (.ok value, state) := rfl

@[simp] theorem runOn_throw (error : Error) (state : State) :
    (throw error : Method m State Error α).runOn state = pure (.error error, state) := rfl

@[simp] theorem runOn_raise (result : Except Error α) (state : State) :
    (raise result : Method m State Error α).runOn state = pure (result, state) := rfl

@[simp] theorem runOn_get [LawfulMonad m] (state : State) :
    (get : Method m State Error State).runOn state = pure (.ok state, state) := by
  show ((pure (state, state) : m _) >>= fun found => pure (Except.ok found.1, found.2)) = _
  rw [pure_bind]

@[simp] theorem runOn_set [LawfulMonad m] (next state : State) :
    (set next : Method m State Error PUnit).runOn state = pure (.ok ⟨⟩, next) := by
  show ((pure (⟨⟩, next) : m (PUnit × State)) >>= fun found => pure (Except.ok found.1, found.2)) =
    _
  rw [pure_bind]

@[simp] theorem runOn_modify [LawfulMonad m] (change : State → State) (state : State) :
    (modify change : Method m State Error PUnit).runOn state = pure (.ok ⟨⟩, change state) := by
  show ((pure (⟨⟩, change state) : m (PUnit × State)) >>= fun found =>
    pure (Except.ok found.1, found.2)) = _
  rw [pure_bind]

/-- Runs a method and returns its outcome instead of failing with it. -/
def outcome {Error' : Type} (method : Method m State Error α) :
    Method m State Error' (Except Error α) :=
  fun state => do
    let (result, state) ← method.run.run state
    pure (.ok result, state)

@[simp] theorem runOn_outcome {Error' : Type} (method : Method m State Error α) (state : State) :
    (outcome method : Method m State Error' (Except Error α)).runOn state =
      method.runOn state >>= fun (result, state) => pure (.ok result, state) := rfl

@[simp] theorem runOn_perform (op : Op) (state : State) :
    (perform op : Method (Proc Op Reply) State Error (Reply op)).runOn state =
      .call op fun reply => .ret (.ok reply, state) := rfl

@[simp] theorem runOn_call [LawfulMonad m] (program : m α) (state : State) :
    (call program : Method m State Error α).runOn state = program >>= fun value =>
      pure (.ok value, state) := by
  show ((program >>= fun value => pure (value, state)) >>= fun found =>
    pure (Except.ok found.1, found.2)) = _
  simp

/-- How a method goes on from the outcome of its first part. -/
def resume (next : α → Method m State Error β) : Except Error α × State → m (Except Error β × State)
  | (.ok value, state) => (next value).runOn state
  | (.error error, state) => pure (.error error, state)

@[simp] theorem resume_ok (next : α → Method m State Error β) (value : α) (state : State) :
    resume next (.ok value, state) = (next value).runOn state := rfl

@[simp] theorem resume_error (next : α → Method m State Error β) (error : Error) (state : State) :
    resume next (.error error, state) = pure (.error error, state) := rfl

@[simp] theorem runOn_bind (first : Method m State Error α) (next : α → Method m State Error β)
    (state : State) : (first >>= next).runOn state = first.runOn state >>= resume next := by
  show (first.run.run state >>= fun outcome => _) = _
  congr 1
  funext outcome
  obtain ⟨result, state⟩ := outcome
  cases result <;> rfl

section Steps

variable {first : Method Id State Error α} {state between : State}

theorem runOn_bind_of_ok {value : α} (next : α → Method Id State Error β)
    (runs : first.runOn state = (.ok value, between)) :
    (first >>= next).runOn state = (next value).runOn between := by
  rw [runOn_bind, runs]
  rfl

theorem runOn_bind_of_error {error : Error} (next : α → Method Id State Error β)
    (runs : first.runOn state = (.error error, between)) :
    (first >>= next).runOn state = (.error error, between) := by
  rw [runOn_bind, runs]
  rfl

end Steps

/-- A method without effects succeeds with this value and state. -/
def Leads (method : Method Id State Error α) (state : State) (value : α) (next : State) : Prop :=
  method.runOn state = (.ok value, next)

section Leads

variable {state next : State} {value : α}

theorem Leads.unique {method : Method Id State Error α} {other : α} {left : State}
    (first : method.Leads state value next) (second : method.Leads state other left) :
    value = other ∧ next = left := by
  have same : ((Except.ok value, next) : Except Error α × State) = (.ok other, left) :=
    first.symm.trans second
  simpa using same

@[simp] theorem leads_pure {given : α} :
    (pure given : Method Id State Error α).Leads state value next ↔
      given = value ∧ state = next := by
  show ((Except.ok given, state) : Except Error α × State) = _ ↔ _
  simp

@[simp] theorem leads_throw {error : Error} :
    (throw error : Method Id State Error α).Leads state value next ↔ False := by
  show ((Except.error error, state) : Except Error α × State) = _ ↔ _
  simp

@[simp] theorem leads_raise {result : Except Error α} :
    (raise result : Method Id State Error α).Leads state value next ↔
      result = .ok value ∧ state = next := by
  show (result, state) = _ ↔ _
  simp

@[simp] theorem leads_get {found : State} :
    (get : Method Id State Error State).Leads state found next ↔ state = found ∧ state = next := by
  show ((Except.ok state, state) : Except Error State × State) = _ ↔ _
  simp

@[simp] theorem leads_set {given : State} {done : PUnit} :
    (set given : Method Id State Error PUnit).Leads state done next ↔ given = next := by
  show ((Except.ok PUnit.unit, given) : Except Error PUnit × State) = _ ↔ _
  simp

@[simp] theorem leads_modify {change : State → State} {done : PUnit} :
    (modify change : Method Id State Error PUnit).Leads state done next ↔ change state = next := by
  show ((Except.ok PUnit.unit, change state) : Except Error PUnit × State) = _ ↔ _
  simp

@[simp] theorem leads_bind {first : Method Id State Error β} {rest : β → Method Id State Error α} :
    (first >>= rest).Leads state value next ↔
      ∃ found between, first.Leads state found between ∧ (rest found).Leads between value next := by
  unfold Leads
  rw [runOn_bind]
  show resume rest (first.runOn state) = _ ↔ _
  obtain ⟨result, between⟩ := first.runOn state
  cases result with
  | ok found =>
    rw [resume_ok]
    constructor
    · intro leads
      exact ⟨found, between, rfl, leads⟩
    · intro ⟨_, _, same, leads⟩
      cases same
      exact leads
  | error error =>
    rw [resume_error]
    constructor
    · intro failed
      cases failed
    · intro ⟨_, _, same, _⟩
      cases same

end Leads

end Method

end Process
