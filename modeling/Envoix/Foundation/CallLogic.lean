import Envoix.Foundation.ProgramLogic

/-! # What every call satisfies

`Proc.Always` speaks of the worlds between the calls.  Here a rule says when an operation may be
called at all: `Proc.Follows` is the weakest precondition under which a program, whatever it is
answered, calls nothing against the rule and ends with `post`.  What the calls allowed by the rule
preserve then holds along every run. -/

namespace Process

variable {Op : Type} {Reply : Op → Type} {World α β : Type} {contract : Contract Op Reply World}
  {rule : World → Op → Prop}

namespace Proc

def Follows (contract : Contract Op Reply World) (rule : World → Op → Prop)
    (post : α → World → Prop) :
    Proc Op Reply α → World → Prop
  | .ret value, world => post value world
  | .call op next, world => rule world op ∧
      ∀ reply, contract.may world op reply →
        (next reply).Follows contract rule post (contract.after world op reply)

theorem Follows.mono {post weaker : α → World → Prop} {program : Proc Op Reply α} {world : World}
    (follows : program.Follows contract rule post world)
    (implies : ∀ value final, post value final → weaker value final) :
    program.Follows contract rule weaker world := by
  induction program generalizing world with
  | ret value => exact implies value world follows
  | call op next ih => exact ⟨follows.1, fun reply allowed => ih reply (follows.2 reply allowed)⟩

theorem follows_bind {post : β → World → Prop} {program : Proc Op Reply α}
    {next : α → Proc Op Reply β} {world : World} :
    (program >>= next).Follows contract rule post world ↔
      program.Follows contract rule (fun value final =>
        (next value).Follows contract rule post final) world := by
  induction program generalizing world with
  | ret value => exact Iff.rfl
  | call op answer ih =>
    show (_ ∧ ∀ reply, _ → ((answer reply) >>= next).Follows contract rule post _) ↔ _
    exact and_congr_right fun _ => forall_congr' fun reply => imp_congr_right fun _ => ih reply

theorem follows_embed {Op' : Type} {inject : Op' → Op} {post : α → World → Prop}
    {program : Proc Op' (fun op => Reply (inject op)) α} {world : World} :
    (program.embed inject).Follows contract rule post world ↔
      program.Follows (contract.restrict inject)
      (fun world op => rule world (inject op)) post world := by
  induction program generalizing world with
  | ret value => exact Iff.rfl
  | call op next ih =>
    show (_ ∧ ∀ reply, _ → ((next reply).embed inject).Follows contract rule post _) ↔ _
    exact and_congr_right fun _ => forall_congr' fun reply => imp_congr_right fun _ => ih reply

/-- What is left of a program at a cut still follows the rule. -/
theorem Follows.rest {post : α → World → Prop} {program rest : Proc Op Reply α}
    {world final : World} (follows : program.Follows contract rule post world)
    (run : Reaches contract program world rest final) :
    rest.Follows contract rule post final := by
  induction run with
  | here => exact follows
  | call allowed run ih => exact ih (follows.2 _ allowed)

/-- What every allowed call preserves holds at every cut. -/
theorem Follows.invariant {invariant : World → Prop} {post : α → World → Prop}
    {program rest : Proc Op Reply α} {world final : World}
    (preserved : ∀ world op reply, invariant world → rule world op →
      invariant (contract.after world op reply))
    (follows : program.Follows contract rule post world) (now : invariant world)
    (run : Reaches contract program world rest final) : invariant final := by
  induction run with
  | here => exact now
  | call allowed run ih => exact ih (follows.2 _ allowed) (preserved _ _ _ now follows.1)

/-- What every allowed call preserves may be used to allow more. -/
theorem Follows.upgrade {invariant : World → Prop} {wider : World → Op → Prop}
    {post : α → World → Prop} {program : Proc Op Reply α} {world : World}
    (preserved : ∀ world op reply, invariant world → rule world op → contract.may world op reply →
      invariant (contract.after world op reply))
    (implies : ∀ world op, invariant world → rule world op → wider world op)
    (follows : program.Follows contract rule post world) (now : invariant world) :
    program.Follows contract wider (fun value final => invariant final ∧
      post value final) world := by
  induction program generalizing world with
  | ret value => exact ⟨now, follows⟩
  | call op next ih =>
    refine ⟨implies _ _ now follows.1, fun reply allowed => ?_⟩
    exact ih reply (follows.2 reply allowed) (preserved _ _ _ now follows.1 allowed)

theorem Follows.loosen {wider : World → Op → Prop} {post : α → World → Prop}
    {program : Proc Op Reply α} {world : World}
    (implies : ∀ world op, rule world op → wider world op)
      (follows : program.Follows contract rule post world) :
    program.Follows contract wider post world := by
  induction program generalizing world with
  | ret value => exact follows
  | call op next ih =>
    exact ⟨implies _ _ follows.1, fun reply allowed => ih reply (follows.2 reply allowed)⟩

end Proc

namespace Method

variable {State Error : Type}

/-- The method calls nothing against the rule, and its outcome satisfies `post`. -/
def Ensures (contract : Contract Op Reply World) (rule : World → Op → Prop)
    (post : Except Error α → State → World → Prop) (method : Method (Proc Op Reply) State Error α)
    (state : State) (world : World) : Prop :=
  (method.runOn state).Follows contract rule (fun outcome final =>
    post outcome.1 outcome.2 final) world

section Ensures

variable {post : Except Error α → State → World → Prop} {state : State} {world : World}

@[simp] theorem ensures_pure {value : α} :
    (pure value : Method (Proc Op Reply) State Error α).Ensures contract rule post state world ↔
      post (.ok value) state world := Iff.rfl

@[simp] theorem ensures_throw {error : Error} :
    (throw error : Method (Proc Op Reply) State Error α).Ensures contract rule post state world ↔
      post (.error error) state world := Iff.rfl

@[simp] theorem ensures_raise {result : Except Error α} :
    (raise result : Method (Proc Op Reply) State Error α).Ensures contract rule post state world ↔
      post result state world := Iff.rfl

@[simp] theorem ensures_get {post : Except Error State → State → World → Prop} :
    (get : Method (Proc Op Reply) State Error State).Ensures contract rule post state world ↔
      post (.ok state) state world := Iff.rfl

@[simp] theorem ensures_set {next : State} {post : Except Error PUnit → State → World → Prop} :
    (set next : Method (Proc Op Reply) State Error PUnit).Ensures contract rule post state world ↔
      post (.ok ⟨⟩) next world := Iff.rfl

@[simp] theorem ensures_modify {change : State → State}
    {post : Except Error PUnit → State → World → Prop} :
    (modify change : Method (Proc Op Reply) State Error PUnit).Ensures contract rule post
      state world ↔
      post (.ok ⟨⟩) (change state) world := Iff.rfl

@[simp] theorem ensures_perform {op : Op} {post : Except Error (Reply op) → State → World → Prop} :
    (perform op : Method (Proc Op Reply) State Error (Reply op)).Ensures contract rule post
      state world ↔
      rule world op ∧ ∀ reply, contract.may world op reply →
        post (.ok reply) state (contract.after world op reply) :=
  Iff.rfl

/-- A method goes on from a success and stops at a failure. -/
def resumeWith (next : α → State → World → Prop) (failed : Error → State → World → Prop) :
    Except Error α → State → World → Prop
  | .ok value => next value
  | .error error => failed error

@[simp] theorem resumeWith_ok {next : α → State → World → Prop}
    {failed : Error → State → World → Prop} {value : α} :
    resumeWith next failed (.ok value) = next value := rfl

@[simp] theorem resumeWith_error {next : α → State → World → Prop}
    {failed : Error → State → World → Prop} {error : Error} :
    resumeWith next failed (.error error) = failed error := rfl

@[simp] theorem ensures_bind {first : Method (Proc Op Reply) State Error α}
    {next : α → Method (Proc Op Reply) State Error β}
    {post : Except Error β → State → World → Prop} :
    (first >>= next).Ensures contract rule post state world ↔
      first.Ensures contract rule
        (resumeWith (fun value state world => (next value).Ensures contract rule post state world)
          fun error => post (.error error)) state world := by
  unfold Ensures
  rw [runOn_bind, Proc.follows_bind]
  constructor
  · intro follows
    refine follows.mono fun outcome final rest => ?_
    obtain ⟨result, left⟩ := outcome
    cases result <;> exact rest
  · intro follows
    refine follows.mono fun outcome final rest => ?_
    obtain ⟨result, left⟩ := outcome
    cases result <;> exact rest

theorem Ensures.mono {method : Method (Proc Op Reply) State Error α}
    {weaker : Except Error α → State → World → Prop}
    (holds : method.Ensures contract rule post state world)
    (implies : ∀ result state world, post result state world → weaker result state world) :
    method.Ensures contract rule weaker state world :=
  Proc.Follows.mono holds fun outcome final after => implies outcome.1 outcome.2 final after

@[simp] theorem ensures_outcome {Error' : Type} {method : Method (Proc Op Reply) State Error α}
    {post : Except Error' (Except Error α) → State → World → Prop} :
    (outcome method : Method (Proc Op Reply) State Error' (Except Error α)).Ensures contract rule
      post state world ↔
      method.Ensures contract rule (fun result => post (.ok result)) state world := by
  unfold Ensures
  rw [runOn_outcome, Proc.follows_bind]
  exact Iff.rfl

/-- A program that knows nothing of the state. -/
theorem ensures_call {program : Proc Op Reply α} :
    (call program : Method (Proc Op Reply) State Error α).Ensures contract rule post state world ↔
      program.Follows contract rule (fun value final => post (.ok value) state final) world := by
  unfold Ensures
  rw [runOn_call, Proc.follows_bind]
  exact Iff.rfl

theorem ensures_embed {Op' Error' : Type} {inject : Op' → Op} {convert : Error' → Error}
    {method : Method (Proc Op' (fun op => Reply (inject op))) State Error' α} :
    (embed inject convert method : Method (Proc Op Reply) State Error α).Ensures contract rule post
      state world ↔
      method.Ensures (contract.restrict inject) (fun world op => rule world (inject op))
        (fun result => post (result.mapError convert)) state world := by
  show Proc.Follows contract rule _ (Proc.embed inject (method.runOn state) >>= _) world ↔ _
  rw [Proc.follows_bind, Proc.follows_embed]
  constructor
  · intro follows
    refine Proc.Follows.mono follows fun outcome final rest => ?_
    obtain ⟨result, left⟩ := outcome
    cases result <;> exact rest
  · intro follows
    refine Proc.Follows.mono follows fun outcome final rest => ?_
    obtain ⟨result, left⟩ := outcome
    cases result <;> exact rest

end Ensures

/-- Every outcome, failures too, leaves what `view` shows as it was. -/
def Leaves {View : Type} (contract : Contract Op Reply World) (view : State → View)
    (method : Method (Proc Op Reply) State Error α) : Prop :=
  ∀ state world, method.Ensures contract (fun _ _ => True)
    (fun _ left _ => view left = view state) state world

section Leaves

variable {View : Type} {view : State → View} {method : Method (Proc Op Reply) State Error α}

theorem leaves_pure {value : α} :
    (pure value : Method (Proc Op Reply) State Error α).Leaves contract view :=
  fun _ _ => rfl

theorem leaves_throw {error : Error} :
    (throw error : Method (Proc Op Reply) State Error α).Leaves contract view :=
  fun _ _ => rfl

theorem leaves_raise {result : Except Error α} :
    (raise result : Method (Proc Op Reply) State Error α).Leaves contract view :=
  fun _ _ => rfl

theorem leaves_get : (get : Method (Proc Op Reply) State Error State).Leaves contract view :=
  fun _ _ => rfl

theorem leaves_modify {change : State → State} (same : ∀ state, view (change state) = view state) :
    (modify change : Method (Proc Op Reply) State Error PUnit).Leaves contract view :=
  fun state _ => same state

theorem leaves_perform {op : Op} :
    (perform op : Method (Proc Op Reply) State Error (Reply op)).Leaves contract view :=
  fun _ _ => ⟨by trivial, fun _ _ => rfl⟩

theorem leaves_call {program : Proc Op Reply α} :
    (call program : Method (Proc Op Reply) State Error α).Leaves contract view := by
  intro state world
  rw [ensures_call]
  induction program generalizing world with
  | ret value => exact rfl
  | call op next ih => exact ⟨by trivial, fun reply _ => ih reply _⟩

theorem Leaves.bind {next : α → Method (Proc Op Reply) State Error β}
    (first : method.Leaves contract view) (rest : ∀ value, (next value).Leaves contract view) :
      (method >>= next).Leaves contract view := by
  intro state world
  rw [ensures_bind]
  refine (first state world).mono fun result left final same => ?_
  cases result with
  | error error => exact same
  | ok value => exact (rest value left final).mono fun _ _ _ after => after.trans same

/-- A method that leaves the view in front of another. -/
theorem Leaves.ensures_bind {next : α → Method (Proc Op Reply) State Error β}
    {post : Except Error β → State → World → Prop} {state : State} {world : World}
    (leaves : method.Leaves contract view)
    (failed : ∀ error left final, view left = view state → post (.error error) left final)
      (rest : ∀ value left final, view left = view state →
      (next value).Ensures contract (fun _ _ => True) post left final) :
    (method >>= next).Ensures contract (fun _ _ => True) post state world := by
  rw [Method.ensures_bind]
  refine (leaves state world).mono fun result left final same => ?_
  cases result with
  | error error => exact failed error left final same
  | ok value => exact rest value left final same

end Leaves

/-! ## Successes -/

/-- `Ensures` for a success; a failure may leave anything. -/
def Obeys (contract : Contract Op Reply World) (rule : World → Op → Prop)
    (post : α → State → World → Prop) (method : Method (Proc Op Reply) State Error α)
    (state : State) (world : World) : Prop :=
  method.Ensures contract rule (resumeWith post fun _ _ _ => True) state world

variable {post : α → State → World → Prop} {state : State} {world : World}

@[simp] theorem obeys_pure {value : α} :
    (pure value : Method (Proc Op Reply) State Error α).Obeys contract rule post state world ↔
      post value state world := Iff.rfl

@[simp] theorem obeys_throw {error : Error} :
    (throw error : Method (Proc Op Reply) State Error α).Obeys contract rule post state world ↔
      True := Iff.rfl

@[simp] theorem obeys_raise {result : Except Error α} :
    (raise result : Method (Proc Op Reply) State Error α).Obeys contract rule post state world ↔
      ∀ value, result = .ok value → post value state world := by
  show resumeWith post (fun _ _ _ => True) result state world ↔ _
  cases result <;> simp

@[simp] theorem obeys_get {post : State → State → World → Prop} :
    (get : Method (Proc Op Reply) State Error State).Obeys contract rule post state world ↔
      post state state world := Iff.rfl

@[simp] theorem obeys_set {next : State} {post : PUnit → State → World → Prop} :
    (set next : Method (Proc Op Reply) State Error PUnit).Obeys contract rule post state world ↔
      post ⟨⟩ next world := Iff.rfl

@[simp] theorem obeys_modify {change : State → State} {post : PUnit → State → World → Prop} :
    (modify change : Method (Proc Op Reply) State Error PUnit).Obeys contract rule post
      state world ↔
      post ⟨⟩ (change state) world := Iff.rfl

@[simp] theorem obeys_perform {op : Op} {post : Reply op → State → World → Prop} :
    (perform op : Method (Proc Op Reply) State Error (Reply op)).Obeys contract rule post
      state world ↔
      rule world op ∧ ∀ reply, contract.may world op reply →
        post reply state (contract.after world op reply) :=
  Iff.rfl

@[simp] theorem obeys_bind {first : Method (Proc Op Reply) State Error α}
    {next : α → Method (Proc Op Reply) State Error β} {post : β → State → World → Prop} :
    (first >>= next).Obeys contract rule post state world ↔
      first.Obeys contract rule (fun value state world =>
        (next value).Obeys contract rule post state world)
        state world :=
  ensures_bind

theorem Obeys.mono {method : Method (Proc Op Reply) State Error α}
    {weaker : α → State → World → Prop} (holds : method.Obeys contract rule post state world)
    (implies : ∀ value state world, post value state world → weaker value state world) :
    method.Obeys contract rule weaker state world := by
  refine Ensures.mono holds fun result state world after => ?_
  cases result with
  | ok value => exact implies value state world after
  | error error => trivial

theorem Obeys.upgrade {method : Method (Proc Op Reply) State Error α} {invariant : World → Prop}
    {wider : World → Op → Prop}
    (preserved : ∀ world op reply, invariant world → rule world op → contract.may world op reply →
      invariant (contract.after world op reply))
    (implies : ∀ world op, invariant world → rule world op → wider world op)
    (holds : method.Obeys contract rule post state world) (now : invariant world) :
    method.Obeys contract wider (fun value state world => invariant world ∧ post value state world)
      state world := by
  refine (Proc.Follows.upgrade preserved implies holds now).mono fun outcome final after => ?_
  obtain ⟨result, left⟩ := outcome
  cases result with
  | ok value => exact after
  | error error => trivial

theorem obeys_call {program : Proc Op Reply α} :
    (call program : Method (Proc Op Reply) State Error α).Obeys contract rule post state world ↔
      program.Follows contract rule (fun value final => post value state final) world :=
  ensures_call

/-- A method whose failure is looked at: nothing is known of the failure. -/
theorem obeys_outcome {Error' : Type} {method : Method (Proc Op Reply) State Error α}
    {next : Except Error α → State → World → Prop}
    (holds : method.Obeys contract rule post state world)
    (implies : ∀ result state world, (∀ value, result = .ok value → post value state world) →
      next result state world) :
    (outcome method : Method (Proc Op Reply) State Error' (Except Error α)).Obeys contract rule next
      state world := by
  unfold Obeys
  rw [ensures_outcome]
  refine Ensures.mono holds fun result state world after => implies result state world ?_
  intro value succeeded
  subst succeeded
  exact after

theorem obeys_embed {Op' Error' : Type} {inject : Op' → Op} {convert : Error' → Error}
    {method : Method (Proc Op' (fun op => Reply (inject op))) State Error' α} :
    (embed inject convert method : Method (Proc Op Reply) State Error α).Obeys contract rule post
      state world ↔
      method.Obeys (contract.restrict inject)
      (fun world op => rule world (inject op)) post state world := by
  unfold Obeys
  rw [ensures_embed]
  constructor
  · intro holds
    refine Ensures.mono holds fun result state world after => ?_
    cases result <;> exact after
  · intro holds
    refine Ensures.mono holds fun result state world after => ?_
    cases result <;> exact after

/-- A loop keeps what every round of it keeps. -/
theorem obeys_forM {body : β → Method (Proc Op Reply) State Error PUnit}
    {invariant : State → World → Prop} {elements : List β}
    (each : ∀ element ∈ elements, ∀ {state world}, invariant state world →
      (body element).Obeys contract rule (fun _ left final => invariant left final) state world)
    (now : invariant state world) :
    (elements.forM body).Obeys contract rule (fun _ left final => invariant left final)
      state world := by
  induction elements generalizing state world with
  | nil => exact now
  | cons first rest ih =>
    show (body first >>= fun _ => rest.forM body).Obeys contract rule _ state world
    rw [obeys_bind]
    refine (each first List.mem_cons_self now).mono fun _ left final kept => ?_
    exact ih (fun element listed => each element (List.mem_cons_of_mem _ listed)) kept

/-- A traversal whose steps leave state and world alone. -/
theorem obeys_mapM {method : β → Method (Proc Op Reply) State Error α} {related : β → α → Prop}
    {elements : List β} (each : ∀ element ∈ elements, (method element).Obeys contract rule
      (fun value left final => left = state ∧ final = world ∧ related element value) state world) :
    (elements.mapM method).Obeys contract rule
      (fun values left final => left = state ∧ final = world ∧ List.Forall₂ related elements values)
        state world := by
  induction elements with
  | nil =>
    rw [List.mapM_nil, obeys_pure]
    exact ⟨rfl, rfl, .nil⟩
  | cons element elements ih =>
    rw [List.mapM_cons, obeys_bind]
    refine (each element List.mem_cons_self).mono ?_
    intro value left final ⟨sameState, sameWorld, first⟩
    subst sameState sameWorld
    rw [obeys_bind]
    refine (ih fun other listed => each other (.tail _ listed)).mono ?_
    intro values left final ⟨sameState, sameWorld, rest⟩
    exact obeys_pure.mpr ⟨sameState, sameWorld, .cons first rest⟩

/-! ## Getting to a call -/

/-- Some run of the method gets to a call of `op`, in the world `here`. -/
def Calls (contract : Contract Op Reply World) (op : Op) (here : World)
    (method : Method (Proc Op Reply) State Error α) (state : State) (world : World) : Prop :=
  ∃ rest, Proc.Reaches contract (method.runOn state) world (.call op rest) here

section Calls

variable {op : Op} {here between : World} {first : Method (Proc Op Reply) State Error α}
  {next : α → Method (Proc Op Reply) State Error β}

theorem calls_perform :
    (perform op : Method (Proc Op Reply) State Error (Reply op)).Calls contract op world
      state world :=
  ⟨_, .here⟩

theorem Calls.bind (calls : first.Calls contract op here state world) :
    (first >>= next).Calls contract op here state world := by
  obtain ⟨rest, run⟩ := calls
  unfold Calls
  rw [runOn_bind]
  exact ⟨_, run.bind _⟩

/-- A method that has returned goes on. -/
theorem reaches_after {value : α} {left : State} {rest : Proc Op Reply (Except Error β × State)}
    (returned : Proc.Reaches contract (first.runOn state) world (.ret (.ok value, left)) between)
    (run : Proc.Reaches contract ((next value).runOn left) between rest here) :
    Proc.Reaches contract ((first >>= next).runOn state) world rest here := by
  rw [runOn_bind]
  exact (returned.bind _).trans run

theorem reaches_raise {result : Except Error α} {value : α} (succeeded : result = .ok value) :
    Proc.Reaches contract ((raise result : Method (Proc Op Reply) State Error α).runOn state) world
      (.ret (.ok value, state)) world := by
  subst succeeded
  exact .here

theorem Calls.after {value : α} {left : State}
    (returned : Proc.Reaches contract (first.runOn state) world (.ret (.ok value, left)) between)
    (calls : (next value).Calls contract op here left between) :
    (first >>= next).Calls contract op here state world := by
  obtain ⟨rest, run⟩ := calls
  exact ⟨rest, reaches_after returned run⟩

theorem Calls.after_pure {value : α} (calls : (next value).Calls contract op here state world) :
    (pure value >>= next).Calls contract op here state world :=
  Calls.after .here calls

theorem Calls.after_raise {result : Except Error α} {value : α} (succeeded : result = .ok value)
    (calls : (next value).Calls contract op here state world) :
    (raise result >>= next).Calls contract op here state world :=
  Calls.after (reaches_raise succeeded) calls

theorem Calls.after_get {next : State → Method (Proc Op Reply) State Error β}
    (calls : (next state).Calls contract op here state world) :
    (get >>= next).Calls contract op here state world :=
  Calls.after .here calls

theorem Calls.after_perform {asked : Op} {next : Reply asked → Method (Proc Op Reply) State Error β}
    {reply : Reply asked} (allowed : contract.may world asked reply)
    (calls : (next reply).Calls contract op here state (contract.after world asked reply)) :
    (perform asked >>= next).Calls contract op here state world :=
  Calls.after (.call allowed .here) calls

end Calls

/-! ## Step by step -/

open Relation

/-- Every outcome, failures too, is some number of steps away, and no call broke the rule. -/
def Steps (contract : Contract Op Reply World) (rule : World → Op → Prop)
    (step : State → State → Prop) (method : Method (Proc Op Reply) State Error α) (state : State)
    (world : World) : Prop :=
  method.Ensures contract rule (fun _ left _ => ReflTransGen step state left) state world

section Steps

variable {step : State → State → Prop} {method : Method (Proc Op Reply) State Error α}
  {next : α → Method (Proc Op Reply) State Error β}

theorem steps_pure {value : α} :
    (pure value : Method (Proc Op Reply) State Error α).Steps contract rule step state world :=
  ReflTransGen.refl

theorem steps_throw {error : Error} :
    (throw error : Method (Proc Op Reply) State Error α).Steps contract rule step state world :=
  ReflTransGen.refl

theorem steps_raise {result : Except Error α} :
    (raise result : Method (Proc Op Reply) State Error α).Steps contract rule step state world :=
  ReflTransGen.refl

theorem steps_modify {change : State → State} (here : step state (change state)) :
    (modify change : Method (Proc Op Reply) State Error PUnit).Steps contract rule step
      state world :=
  ReflTransGen.single here

/-- What follows a success starts from where that left the state. -/
theorem Steps.bind
      (first : method.Ensures contract rule (fun result left final => ReflTransGen step state left ∧
      ∀ value, result = .ok value → (next value).Steps contract rule step left final) state world) :
    (method >>= next).Steps contract rule step state world := by
  unfold Steps
  rw [ensures_bind]
  refine first.mono fun result left final after => ?_
  cases result with
  | error error => exact after.1
  | ok value => exact (after.2 value rfl).mono fun _ _ _ further => after.1.trans further

theorem Steps.seq (first : method.Steps contract rule step state world)
    (rest : ∀ value left final, ReflTransGen step state left →
      (next value).Steps contract rule step left final) :
    (method >>= next).Steps contract rule step state world :=
  Steps.bind (first.mono fun _ left final went => ⟨went, fun value _ => rest value left final went⟩)

/-- A method that looks only, and what a success of it means. -/
theorem Steps.look {found : α → Prop} (first : method.Ensures contract rule
      (fun result left _ => left = state ∧ ∀ value, result = .ok value → found value) state world)
    (rest : ∀ value final, found value → (next value).Steps contract rule step state final) :
    (method >>= next).Steps contract rule step state world := by
  refine Steps.bind (first.mono fun result left final after => ?_)
  obtain ⟨rfl, success⟩ := after
  exact ⟨.refl, fun value same => rest value final (success value same)⟩

theorem Steps.loosen {wider : World → Op → Prop}
    (implies : ∀ world op, rule world op → wider world op)
      (steps : method.Steps contract rule step state world) :
        method.Steps contract wider step state world :=
  Proc.Follows.loosen implies steps

theorem Steps.reaches {result : Except Error α} {left : State} {final : World}
    (steps : method.Steps contract rule step state world)
    (run : Proc.Reaches contract (method.runOn state) world (.ret (result, left)) final) :
    ReflTransGen step state left :=
  Proc.Follows.rest steps run

theorem Steps.keep (first : method.Ensures contract rule (fun _ left _ => left = state) state world)
    (rest : ∀ value final, (next value).Steps contract rule step state final) :
    (method >>= next).Steps contract rule step state world := by
  refine Steps.bind (first.mono fun result left final same => ?_)
  subst same
  exact ⟨.refl, fun value _ => rest value final⟩

/-- A method that leaves all of the state in front of another. -/
theorem Steps.leave (first : method.Leaves contract id)
    (rest : ∀ value final, (next value).Steps contract (fun _ _ => True) step state final) :
    (method >>= next).Steps contract (fun _ _ => True) step state world :=
  Steps.keep (first state world) rest

theorem steps_get_bind {next : State → Method (Proc Op Reply) State Error β}
    (rest : (next state).Steps contract rule step state world) :
    (get >>= next).Steps contract rule step state world :=
  ensures_bind.mpr rest

theorem steps_raise_bind {result : Except Error α}
    (rest : ∀ value, result = .ok value → (next value).Steps contract rule step state world) :
    (raise result >>= next).Steps contract rule step state world :=
  Steps.bind ⟨.refl, rest⟩

theorem steps_modify_bind {change : State → State}
    {next : PUnit → Method (Proc Op Reply) State Error β} (here : step state (change state))
    (rest : (next ⟨⟩).Steps contract rule step (change state) world) :
    (modify change >>= next).Steps contract rule step state world :=
  Steps.bind ⟨.single here, fun _ _ => rest⟩

theorem steps_perform_bind {op : Op} {next : Reply op → Method (Proc Op Reply) State Error β}
    (allowed : rule world op) (rest : ∀ reply, contract.may world op reply →
      (next reply).Steps contract rule step state (contract.after world op reply)) :
    (perform op >>= next).Steps contract rule step state world :=
  ensures_bind.mpr ⟨allowed, rest⟩

theorem steps_call_bind {program : Proc Op Reply α} {post : α → World → Prop}
    (follows : program.Follows contract rule post world)
    (rest : ∀ value final, post value final → (next value).Steps contract rule step state final) :
    (call program >>= next).Steps contract rule step state world :=
  ensures_bind.mpr (ensures_call.mpr (follows.mono rest))

end Steps

end Method

end Process
