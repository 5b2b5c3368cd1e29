import Envoix.Foundation.Process

/-! # What holds along every run

A contract says which replies the environment may give, what a call does to the world, and what
every world on the way has to satisfy.  `Proc.Always` is the weakest precondition of a program
under a contract; its rules compute through methods construct by construct, and
`Proc.Always.reaches` carries the result to every prefix of every run. -/

namespace Process

/-- Replies the environment may give, the world after a call, and what each world must satisfy. -/
structure Contract (Op : Type) (Reply : Op → Type) (World : Type) where
  may : World → (op : Op) → Reply op → Prop
  after : World → (op : Op) → Reply op → World
  keeps : World → Prop

/-- Any reply, and nothing to keep. -/
def Contract.free (Op : Type) (Reply : Op → Type) : Contract Op Reply Unit where
  may _ _ _ := True
  after _ _ _ := ()
  keeps _ := True

/-- The contract as a program over some of the operations sees it. -/
def Contract.restrict {Op Op' : Type} {Reply : Op' → Type} {World : Type} (inject : Op → Op')
    (contract : Contract Op' Reply World) : Contract Op (fun op => Reply (inject op)) World where
  may world op := contract.may world (inject op)
  after world op := contract.after world (inject op)
  keeps := contract.keeps

variable {Op : Type} {Reply : Op → Type} {World α β : Type} {contract : Contract Op Reply World}

namespace Proc

/-- A run, cut anywhere: what is left of the program and the world reached. -/
inductive Reaches (contract : Contract Op Reply World) :
    Proc Op Reply α → World → Proc Op Reply α → World → Prop where
  | here {program : Proc Op Reply α} {world : World} : Reaches contract program world program world
  | call {op : Op} {next : Reply op → Proc Op Reply α} {world final : World}
      {rest : Proc Op Reply α} {reply : Reply op} (allowed : contract.may world op reply)
      (run : Reaches contract (next reply) (contract.after world op reply) rest final) :
      Reaches contract (.call op next) world rest final

/-- Which worlds are reached does not depend on what they have to satisfy. -/
theorem Reaches.keeping {program rest : Proc Op Reply α} {world final : World}
    (run : Reaches contract program world rest final) (keeps : World → Prop) :
    Reaches { contract with keeps } program world rest final := by
  induction run with
  | here => exact .here
  | call allowed _ ih => exact .call allowed ih

theorem Reaches.trans {program rest last : Proc Op Reply α} {world between final : World}
    (first : Reaches contract program world rest between)
    (second : Reaches contract rest between last final) :
    Reaches contract program world last final := by
  induction first with
  | here => exact second
  | call allowed _ ih => exact .call allowed (ih second)

theorem Reaches.bind {program rest : Proc Op Reply α} {world final : World}
    (next : α → Proc Op Reply β) (run : Reaches contract program world rest final) :
    Reaches contract (program >>= next) world (rest >>= next) final := by
  induction run with
  | here => exact .here
  | call allowed _ ih => exact .call allowed ih

theorem Reaches.embed {Op' : Type} {inject : Op' → Op}
    {program rest : Proc Op' (fun op => Reply (inject op)) α} {world final : World}
    (run : Reaches (contract.restrict inject) program world rest final) :
    Reaches contract (program.embed inject) world (rest.embed inject) final := by
  induction run with
  | here => exact .here
  | call allowed _ ih => exact .call allowed ih

/-- Runs a program against given answers, at most `fuel` calls; no answer stops it. -/
def walk (after : World → (op : Op) → Reply op → World)
    (answer : World → (op : Op) → Option (Reply op)) :
    Nat → Proc Op Reply α → World → Proc Op Reply α × World
  | 0, program, world => (program, world)
  | _ + 1, .ret value, world => (.ret value, world)
  | fuel + 1, .call op next, world =>
    match answer world op with
    | none => (.call op next, world)
    | some reply => walk after answer fuel (next reply) (after world op reply)

theorem walk_reaches {answer : World → (op : Op) → Option (Reply op)}
    (allowed : ∀ world op reply, answer world op = some reply → contract.may world op reply)
      (fuel : Nat)
    (program : Proc Op Reply α) (world : World) :
    Reaches contract program world (walk contract.after answer fuel program world).1
      (walk contract.after answer fuel program world).2 := by
  induction fuel generalizing program world with
  | zero => exact .here
  | succ fuel ih =>
    cases program with
    | ret value => exact .here
    | call op next =>
      unfold walk
      cases answered : answer world op with
      | none => exact .here
      | some reply => exact .call (allowed world op reply answered) (ih _ _)

/-- The value of a program that has ended. -/
def value? : Proc Op Reply α → Option α
  | .ret value => some value
  | .call _ _ => none

theorem value?_eq_some {program : Proc Op Reply α} {value : α} : program.value? = some value ↔
    program = .ret value := by
  cases program <;> simp [value?]

/-- Every world on the way satisfies the contract, and every returned value satisfies `post`. -/
def Always (contract : Contract Op Reply World) (post : α → World → Prop) : Proc Op Reply α →
    World → Prop
  | .ret value, world => post value world
  | .call op next, world => ∀ reply, contract.may world op reply →
      contract.keeps (contract.after world op reply) ∧
        (next reply).Always contract post (contract.after world op reply)

theorem Always.mono {post weaker : α → World → Prop} {program : Proc Op Reply α} {world : World}
    (holds : program.Always contract post world)
    (implies : ∀ value final, post value final → weaker value final) :
    program.Always contract weaker world := by
  induction program generalizing world with
  | ret value => exact implies value world holds
  | call op next ih =>
    intro reply allowed
    obtain ⟨kept, rest⟩ := holds reply allowed
    exact ⟨kept, ih reply rest⟩

theorem always_bind {post : β → World → Prop} {program : Proc Op Reply α}
    {next : α → Proc Op Reply β} {world : World} :
    (program >>= next).Always contract post world ↔
      program.Always contract (fun value final =>
        (next value).Always contract post final) world := by
  induction program generalizing world with
  | ret value => exact Iff.rfl
  | call op answer ih =>
    show (∀ reply, _ → _ ∧ ((answer reply) >>= next).Always contract post _) ↔ _
    refine forall_congr' fun reply => imp_congr_right fun allowed =>
      and_congr_right fun kept => ih reply

theorem always_embed {Op' : Type} {inject : Op' → Op} {post : α → World → Prop}
    {program : Proc Op' (fun op => Reply (inject op)) α} {world : World} :
    (program.embed inject).Always contract post world ↔
      program.Always (contract.restrict inject) post world := by
  induction program generalizing world with
  | ret value => exact Iff.rfl
  | call op next ih =>
    show (∀ reply, _ → _ ∧ ((next reply).embed inject).Always contract post _) ↔ _
    exact forall_congr' fun reply => imp_congr_right fun allowed =>
      and_congr_right fun kept => ih reply

/-- A world that satisfies the contract at the start still does at the end. -/
theorem Always.kept {post : α → World → Prop} {program : Proc Op Reply α} {world : World}
    (holds : program.Always contract post world) (kept : contract.keeps world) :
    program.Always contract (fun value final => contract.keeps final ∧ post value final) world := by
  induction program generalizing world with
  | ret value => exact ⟨kept, holds⟩
  | call op next ih =>
    intro reply allowed
    obtain ⟨kept, rest⟩ := holds reply allowed
    exact ⟨kept, ih reply rest kept⟩

/-- What no call can break holds at the end as well. -/
theorem Always.stable {invariant : World → Prop} {post : α → World → Prop}
    {program : Proc Op Reply α} {world : World}
    (unbroken : ∀ world op reply, invariant world → invariant (contract.after world op reply))
      (holds : program.Always contract post world) (now : invariant world) :
    program.Always contract (fun value final => invariant final ∧ post value final) world := by
  induction program generalizing world with
  | ret value => exact ⟨now, holds⟩
  | call op next ih =>
    intro reply allowed
    obtain ⟨kept, rest⟩ := holds reply allowed
    exact ⟨kept, ih reply rest (unbroken world op reply now)⟩

/-- A contract that keeps nothing says nothing. -/
theorem always_free (program : Proc Op Reply α) (free : ∀ world, contract.keeps world)
    (world : World) :
    program.Always contract (fun _ _ => True) world := by
  induction program generalizing world with
  | ret value => trivial
  | call op next ih => exact fun reply _ => ⟨free _, ih reply _⟩

theorem Always.reaches {post : α → World → Prop} {program rest : Proc Op Reply α}
    {world final : World} (holds : program.Always contract post world) (kept : contract.keeps world)
    (run : Reaches contract program world rest final) :
    contract.keeps final ∧ rest.Always contract post final := by
  induction run with
  | here => exact ⟨kept, holds⟩
  | call allowed run ih =>
    obtain ⟨kept, rest⟩ := holds _ allowed
    exact ih rest kept

theorem Always.interpret {post : α → World → Prop} {program : Proc Op Reply α}
    {world : World} {value : α} {answer : (op : Op) → Option (Reply op)}
    (allowed : ∀ world op reply, answer op = some reply → contract.may world op reply)
    (holds : program.Always contract post world) (ran : program.interpret answer = some value) :
    ∃ final, post value final := by
  induction program generalizing world with
  | ret found =>
    obtain rfl := Option.some.inj ran
    exact ⟨world, holds⟩
  | call op next ih =>
    unfold Proc.interpret at ran
    cases answered : answer op with
    | none =>
      rw [answered] at ran
      cases ran
    | some reply =>
      rw [answered] at ran
      exact ih reply (holds reply (allowed world op reply answered)).2 ran

end Proc

namespace Method

variable {State Error : Type}

/-- Whatever the environment replies: the contract is kept, and a method that succeeds leaves a
value, a state and a world that satisfy `post`. -/
def Yields (contract : Contract Op Reply World) (post : α → State → World → Prop)
    (method : Method (Proc Op Reply) State Error α) (state : State) (world : World) : Prop :=
  (method.runOn state).Always contract
    (fun outcome final => ∀ value, outcome.1 = .ok value → post value outcome.2 final) world

variable {post : α → State → World → Prop} {state : State} {world : World}

@[simp] theorem yields_pure {value : α} :
    (pure value : Method (Proc Op Reply) State Error α).Yields contract post state world ↔
      post value state world := by
  show (∀ found, Except.ok value = Except.ok found → post found state world) ↔ _
  simp

@[simp] theorem yields_throw {error : Error} :
    (throw error : Method (Proc Op Reply) State Error α).Yields contract post state world ↔
      True := by
  show (∀ found, Except.error error = Except.ok found → post found state world) ↔ _
  simp

@[simp] theorem yields_raise {result : Except Error α} :
    (raise result : Method (Proc Op Reply) State Error α).Yields contract post state world ↔
      ∀ value, result = .ok value → post value state world := Iff.rfl

@[simp] theorem yields_get {post : State → State → World → Prop} :
    (get : Method (Proc Op Reply) State Error State).Yields contract post state world ↔
      post state state world := by
  show (∀ found, Except.ok state = Except.ok found → post found state world) ↔ _
  simp

@[simp] theorem yields_set {next : State} {post : PUnit → State → World → Prop} :
    (set next : Method (Proc Op Reply) State Error PUnit).Yields contract post state world ↔
      post ⟨⟩ next world := by
  show (∀ found, Except.ok PUnit.unit = Except.ok found → post found next world) ↔ _
  exact ⟨fun holds => holds ⟨⟩ rfl, fun holds _ _ => holds⟩

@[simp] theorem yields_modify {change : State → State} {post : PUnit → State → World → Prop} :
    (modify change : Method (Proc Op Reply) State Error PUnit).Yields contract post state world ↔
      post ⟨⟩ (change state) world := by
  show (∀ found, Except.ok PUnit.unit = Except.ok found → post found (change state) world) ↔ _
  exact ⟨fun holds => holds ⟨⟩ rfl, fun holds _ _ => holds⟩

@[simp] theorem yields_perform {op : Op} {post : Reply op → State → World → Prop} :
    (perform op : Method (Proc Op Reply) State Error (Reply op)).Yields contract post state world ↔
      ∀ reply, contract.may world op reply → contract.keeps (contract.after world op reply) ∧
        post reply state (contract.after world op reply) := by
  show (∀ reply, _ → _ ∧ ∀ found, Except.ok reply = Except.ok found → _) ↔ _
  simp

@[simp] theorem yields_bind {first : Method (Proc Op Reply) State Error α}
    {next : α → Method (Proc Op Reply) State Error β} {post : β → State → World → Prop} :
    (first >>= next).Yields contract post state world ↔
      first.Yields contract (fun value state world => (next value).Yields contract post state world)
        state world := by
  unfold Yields
  rw [runOn_bind, Proc.always_bind]
  constructor
  · intro holds
    refine holds.mono fun outcome final rest value succeeded => ?_
    obtain ⟨result, left⟩ := outcome
    obtain rfl : result = .ok value := succeeded
    exact rest
  · intro holds
    refine holds.mono fun outcome final rest => ?_
    obtain ⟨result, left⟩ := outcome
    cases result with
    | ok value => exact rest value rfl
    | error error => exact fun value failed => nomatch failed

theorem yields_embed {Op' Error' : Type} {inject : Op' → Op} {convert : Error' → Error}
    {method : Method (Proc Op' (fun op => Reply (inject op))) State Error' α} :
    (embed inject convert method : Method (Proc Op Reply) State Error α).Yields contract post
      state world ↔
      method.Yields (contract.restrict inject) post state world := by
  show Proc.Always contract _ (Proc.embed inject (method.runOn state) >>= _) world ↔ _
  rw [Proc.always_bind, Proc.always_embed]
  constructor
  · intro holds
    refine holds.mono fun outcome final rest value succeeded => ?_
    obtain ⟨result, left⟩ := outcome
    obtain rfl : result = .ok value := succeeded
    exact rest value rfl
  · intro holds
    refine holds.mono fun outcome final rest => ?_
    obtain ⟨result, left⟩ := outcome
    cases result with
    | ok value => exact fun _ same => Except.ok.inj same ▸ rest value rfl
    | error error => exact fun _ failed => nomatch failed

/-- A method whose failure is looked at still keeps the contract when it fails. -/
theorem yields_outcome {Error' : Type} {method : Method (Proc Op Reply) State Error α}
    {next : Except Error α → State → World → Prop} (kept : contract.keeps world)
    (holds : method.Yields contract post state world)
    (implies : ∀ result state world, contract.keeps world →
      (∀ value, result = .ok value → post value state world) → next result state world) :
    (outcome method : Method (Proc Op Reply) State Error' (Except Error α)).Yields contract next
      state world := by
  unfold Yields
  rw [runOn_outcome, Proc.always_bind]
  refine (Proc.Always.kept holds kept).mono fun outcome final after value succeeded => ?_
  obtain rfl := Except.ok.inj succeeded
  exact implies _ _ _ after.1 after.2

theorem Yields.mono {method : Method (Proc Op Reply) State Error α}
    {weaker : α → State → World → Prop} (holds : method.Yields contract post state world)
    (implies : ∀ value state world, post value state world → weaker value state world) :
    method.Yields contract weaker state world :=
  Proc.Always.mono holds fun _ _ rest value succeeded => implies _ _ _ (rest value succeeded)

theorem Yields.stable {method : Method (Proc Op Reply) State Error α} {invariant : World → Prop}
    (unbroken : ∀ world op reply, invariant world → invariant (contract.after world op reply))
    (holds : method.Yields contract post state world) (now : invariant world) :
    method.Yields contract (fun value state world => invariant world ∧ post value state world)
      state world :=
  (Proc.Always.stable unbroken holds now).mono fun _ _ after value succeeded =>
    ⟨after.1, after.2 value succeeded⟩

theorem yields_free {method : Method (Proc Op Reply) State Error α}
    (free : ∀ world, contract.keeps world) :
    method.Yields contract (fun _ _ _ => True) state world :=
  (Proc.always_free _ free world).mono fun _ _ _ _ _ => trivial

/-- A traversal whose steps leave state and world alone. -/
theorem yields_mapM {method : β → Method (Proc Op Reply) State Error α} {related : β → α → Prop}
    {elements : List β} (each : ∀ element ∈ elements, (method element).Yields contract
      (fun value left final => left = state ∧ final = world ∧ related element value) state world) :
    (elements.mapM method).Yields contract
      (fun values left final => left = state ∧ final = world ∧ List.Forall₂ related elements values)
        state world := by
  induction elements with
  | nil =>
    rw [List.mapM_nil, yields_pure]
    exact ⟨rfl, rfl, .nil⟩
  | cons element elements ih =>
    rw [List.mapM_cons, yields_bind]
    refine (each element List.mem_cons_self).mono ?_
    intro value left final ⟨sameState, sameWorld, first⟩
    subst sameState sameWorld
    rw [yields_bind]
    refine (ih fun other listed => each other (.tail _ listed)).mono ?_
    intro values left final ⟨sameState, sameWorld, rest⟩
    exact yields_pure.mpr ⟨sameState, sameWorld, .cons first rest⟩

/-- The contract is kept wherever a run of the method is cut. -/
theorem Yields.reaches {method : Method (Proc Op Reply) State Error α}
    {rest : Proc Op Reply (Except Error α × State)} {final : World}
    (holds : method.Yields contract post state world) (kept : contract.keeps world)
    (run : Proc.Reaches contract (method.runOn state) world rest final) : contract.keeps final :=
  (Proc.Always.reaches holds kept run).1

/-- What a finished run of the method returns. -/
theorem Yields.returns {method : Method (Proc Op Reply) State Error α} {value : α} {left : State}
    {final : World} (holds : method.Yields contract post state world) (kept : contract.keeps world)
    (run : Proc.Reaches contract (method.runOn state) world (.ret (.ok value, left)) final) :
    post value left final :=
  (Proc.Always.reaches holds kept run).2 value rfl

end Method

end Process
