import Envoix.Foundation.CallLogic

/-! # Methods that succeed

`Method.Obeys` says nothing of a failure.  `Method.Achieves` is the weakest precondition under
which a method, whatever it is answered, succeeds with `post`; what is known of its successes may
be added.  Where each call has one reply, the run of the method to its end is such a success. -/

namespace Process

variable {Op : Type} {Reply : Op → Type} {World α β : Type} {contract : Contract Op Reply World}
  {rule : World → Op → Prop}

namespace Proc

/-- Two things that hold of a program hold together. -/
theorem Follows.and {other : World → Op → Prop} {post further : α → World → Prop}
    {program : Proc Op Reply α} {world : World} (first : program.Follows contract rule post world)
    (second : program.Follows contract other further world) :
    program.Follows contract other (fun value final => post value final ∧
      further value final) world := by
  induction program generalizing world with
  | ret value => exact ⟨first, second⟩
  | call op next ih =>
    exact ⟨second.1, fun reply allowed => ih reply (first.2 reply allowed) (second.2 reply allowed)⟩

/-- The one run of a program whose calls have one reply each. -/
theorem Follows.exec {answer : (op : Op) → World → Reply op × World} {post : α → World → Prop}
    {program : Proc Op Reply α} {world : World}
    (replies : ∀ world op, contract.may world op (answer op world).1)
    (leads : ∀ world op, contract.after world op (answer op world).1 = (answer op world).2)
    (follows : program.Follows contract rule post world) :
    post (program.exec answer world).1 (program.exec answer world).2 := by
  induction program generalizing world with
  | ret value => exact follows
  | call op next ih =>
    have rest := follows.2 (answer op world).1 (replies world op)
    rw [leads] at rest
    exact ih _ rest

end Proc

namespace Method

variable {State Error : Type} {post : α → State → World → Prop} {state : State} {world : World}

/-- Every outcome is a success that satisfies `post`. -/
def Achieves (contract : Contract Op Reply World) (post : α → State → World → Prop)
    (method : Method (Proc Op Reply) State Error α) (state : State) (world : World) : Prop :=
  method.Ensures contract (fun _ _ => True) (resumeWith post fun _ _ _ => False) state world

@[simp] theorem achieves_pure {value : α} :
    (pure value : Method (Proc Op Reply) State Error α).Achieves contract post state world ↔
      post value state world := Iff.rfl

@[simp] theorem achieves_throw {error : Error} :
    (throw error : Method (Proc Op Reply) State Error α).Achieves contract post state world ↔
      False := Iff.rfl

@[simp] theorem achieves_raise {result : Except Error α} :
    (raise result : Method (Proc Op Reply) State Error α).Achieves contract post state world ↔
      ∃ value, result = .ok value ∧ post value state world := by
  show resumeWith post (fun _ _ _ => False) result state world ↔ _
  cases result <;> simp

@[simp] theorem achieves_get {post : State → State → World → Prop} :
    (get : Method (Proc Op Reply) State Error State).Achieves contract post state world ↔
      post state state world := Iff.rfl

@[simp] theorem achieves_modify {change : State → State} {post : PUnit → State → World → Prop} :
    (modify change : Method (Proc Op Reply) State Error PUnit).Achieves contract post state world ↔
      post ⟨⟩ (change state) world := Iff.rfl

@[simp] theorem achieves_perform {op : Op} {post : Reply op → State → World → Prop} :
    (perform op : Method (Proc Op Reply) State Error (Reply op)).Achieves contract post
      state world ↔
      ∀ reply, contract.may world op reply → post reply state (contract.after world op reply) := by
  show (True ∧ _) ↔ _
  rw [true_and]
  exact Iff.rfl

@[simp] theorem achieves_bind {first : Method (Proc Op Reply) State Error α}
    {next : α → Method (Proc Op Reply) State Error β} {post : β → State → World → Prop} :
    (first >>= next).Achieves contract post state world ↔
      first.Achieves contract (fun value state world =>
        (next value).Achieves contract post state world) state world :=
  ensures_bind

theorem Achieves.mono {method : Method (Proc Op Reply) State Error α}
    {weaker : α → State → World → Prop} (holds : method.Achieves contract post state world)
    (implies : ∀ value state world, post value state world → weaker value state world) :
    method.Achieves contract weaker state world := by
  refine Ensures.mono holds fun result state world after => ?_
  cases result with
  | ok value => exact implies value state world after
  | error error => exact after

/-- What every success satisfies, of a method that succeeds. -/
theorem Obeys.achieves {method : Method (Proc Op Reply) State Error α}
    {further : α → State → World → Prop} (obeys : method.Obeys contract rule post state world)
    (holds : method.Achieves contract further state world) :
    method.Achieves contract (fun value state world => post value state world ∧
      further value state world) state world := by
  refine (Proc.Follows.and obeys holds).mono fun outcome final after => ?_
  obtain ⟨result, left⟩ := outcome
  cases result with
  | ok value => exact after
  | error error => exact after.2

/-- What every call preserves holds after a success. -/
theorem Achieves.upgrade {method : Method (Proc Op Reply) State Error α} {invariant : World → Prop}
    (preserved : ∀ world op reply, invariant world → contract.may world op reply →
      invariant (contract.after world op reply))
    (holds : method.Achieves contract post state world) (now : invariant world) :
    method.Achieves contract (fun value state world => invariant world ∧ post value state world)
      state world := by
  refine (Proc.Follows.upgrade (fun world op reply holds _ => preserved world op reply holds)
    (fun _ _ _ allowed => allowed) holds now).mono fun outcome final after => ?_
  obtain ⟨result, left⟩ := outcome
  cases result with
  | ok value => exact after
  | error error => exact after.2

/-- A method whose failure is looked at. -/
theorem achieves_outcome {Error' : Type} {method : Method (Proc Op Reply) State Error α}
    {next : Except Error α → State → World → Prop}
    (holds : method.Ensures contract (fun _ _ => True) next state world) :
    (outcome method : Method (Proc Op Reply) State Error' (Except Error α)).Achieves contract next
      state world := by
  unfold Achieves
  rw [ensures_outcome]
  exact holds

/-- A loop succeeds when every round of it does and keeps what the next one needs. -/
theorem achieves_forM {body : β → Method (Proc Op Reply) State Error PUnit}
    {invariant : State → World → Prop} {elements : List β}
    (each : ∀ element ∈ elements, ∀ {state world}, invariant state world →
      (body element).Achieves contract (fun _ left final => invariant left final) state world)
    (now : invariant state world) :
    (elements.forM body).Achieves contract (fun _ left final => invariant left final)
      state world := by
  induction elements generalizing state world with
  | nil => exact now
  | cons first rest ih =>
    show (body first >>= fun _ => rest.forM body).Achieves contract _ state world
    rw [achieves_bind]
    refine (each first List.mem_cons_self now).mono fun _ left final kept => ?_
    exact ih (fun element listed => each element (List.mem_cons_of_mem _ listed)) kept

/-- A traversal whose steps leave state and world alone. -/
theorem achieves_mapM {method : β → Method (Proc Op Reply) State Error α} {related : β → α → Prop}
    {elements : List β} (each : ∀ element ∈ elements, (method element).Achieves contract
      (fun value left final => left = state ∧ final = world ∧ related element value) state world) :
    (elements.mapM method).Achieves contract
      (fun values left final => left = state ∧ final = world ∧ List.Forall₂ related elements values)
        state world := by
  induction elements with
  | nil =>
    rw [List.mapM_nil, achieves_pure]
    exact ⟨rfl, rfl, .nil⟩
  | cons element elements ih =>
    rw [List.mapM_cons, achieves_bind]
    refine (each element List.mem_cons_self).mono ?_
    rintro value _ _ ⟨rfl, rfl, first⟩
    rw [achieves_bind]
    refine (ih fun other listed => each other (.tail _ listed)).mono ?_
    rintro values _ _ ⟨rfl, rfl, rest⟩
    exact achieves_pure.mpr ⟨rfl, rfl, .cons first rest⟩

/-- The run to its end of a method that succeeds, where each call has one reply. -/
theorem Achieves.exec {answer : (op : Op) → World → Reply op × World}
    {method : Method (Proc Op Reply) State Error α}
    (replies : ∀ world op, contract.may world op (answer op world).1)
      (leads : ∀ world op, contract.after world op (answer op world).1 = (answer op world).2)
    (holds : method.Achieves contract post state world) :
    ∃ value after left, (method.runOn state).exec answer world = ((.ok value, after), left) ∧
      post value after left := by
  have ended := Proc.Follows.exec replies leads holds
  generalize (method.runOn state).exec answer world = run at ended
  obtain ⟨⟨result, after⟩, left⟩ := run
  cases result with
  | ok value => exact ⟨value, after, left, rfl, ended⟩
  | error error => exact ended.elim

end Method

end Process
