import Mathlib.Tactic

/-! # Depth-first preorder of a forest and its explicit-stack loop

`Preorder children roots order` says that `order` lists, one root after the other, the
depth-first preorder of the forest that `children` spans below `roots`.  `visit` is the
usual worklist loop: pop a node, emit it, push its children.  `visit_eq_take` identifies
the two, with the fuel of the loop cutting the order off.
-/

namespace Traversal

variable {α : Type}

/-- `order` is the concatenation of the preorders of `roots`. -/
inductive Preorder (children : α → List α → Prop) : List α → List α → Prop where
  | nil : Preorder children [] []
  | cons {node : α} {below roots inner outer : List α}
      (childrenBelow : children node below)
      (innerOrder : Preorder children below inner)
      (outerOrder : Preorder children roots outer) :
      Preorder children (node :: roots) (node :: (inner ++ outer))

variable {children : α → List α → Prop}

theorem Preorder.append {left right leftOrder rightOrder : List α}
    (leftHolds : Preorder children left leftOrder)
    (rightHolds : Preorder children right rightOrder) :
    Preorder children (left ++ right) (leftOrder ++ rightOrder) := by
  induction leftHolds with
  | nil => exact rightHolds
  | cons childrenBelow innerOrder _ _ outerHypothesis =>
    simp only [List.cons_append, List.append_assoc]
    exact .cons childrenBelow innerOrder outerHypothesis

theorem Preorder.append_inv {left right order : List α}
    (holds : Preorder children (left ++ right) order) :
    ∃ leftOrder rightOrder, order = leftOrder ++ rightOrder ∧
      Preorder children left leftOrder ∧ Preorder children right rightOrder := by
  induction left generalizing order with
  | nil => exact ⟨[], order, rfl, .nil, holds⟩
  | cons node left inductionHypothesis =>
    cases holds with
    | cons childrenBelow innerOrder outerOrder =>
      obtain ⟨leftOrder, rightOrder, rfl, leftHolds, rightHolds⟩ := inductionHypothesis outerOrder
      exact ⟨_, rightOrder, by simp, .cons childrenBelow innerOrder leftHolds, rightHolds⟩

/-- A forest has one preorder. -/
theorem Preorder.unique {roots left right : List α}
    (functional : ∀ node below below', children node below → children node below' → below = below')
    (leftHolds : Preorder children roots left) (rightHolds : Preorder children roots right) :
    left = right := by
  induction leftHolds generalizing right with
  | nil =>
    cases rightHolds
    rfl
  | cons childrenBelow _ _ innerHypothesis outerHypothesis =>
    cases rightHolds with
    | cons childrenBelow' innerOrder outerOrder =>
      cases functional _ _ _ childrenBelow childrenBelow'
      rw [innerHypothesis innerOrder, outerHypothesis outerOrder]

theorem Preorder.roots_subset {roots order : List α} (holds : Preorder children roots order) :
    roots ⊆ order := by
  induction holds with
  | nil => exact List.Subset.refl _
  | cons _ _ _ _ outerHypothesis =>
    intro node member
    rcases List.mem_cons.mp member with rfl | later
    · exact List.mem_cons_self
    · exact List.mem_cons_of_mem _ (List.mem_append_right _ (outerHypothesis later))

/-- What is visited is closed under `children`, and every child comes after its parent. -/
theorem Preorder.child_after {roots order : List α} (holds : Preorder children roots order)
    {node : α} (member : node ∈ order) :
    ∃ below before after, children node below ∧ order = before ++ node :: after ∧
      below ⊆ after := by
  induction holds with
  | nil => cases member
  | @cons root below roots inner outer childrenBelow innerOrder _ innerHypothesis outerHypothesis =>
    rcases List.mem_cons.mp member with rfl | later
    · exact ⟨below, [], inner ++ outer, childrenBelow, rfl,
        fun child childBelow => List.mem_append_left _ (innerOrder.roots_subset childBelow)⟩
    · rcases List.mem_append.mp later with inInner | inOuter
      · obtain ⟨below', before, after, childrenOf, rfl, included⟩ := innerHypothesis inInner
        exact ⟨below', root :: before, after ++ outer, childrenOf, by simp,
          fun child childBelow => List.mem_append_left _ (included childBelow)⟩
      · obtain ⟨below', before, after, childrenOf, rfl, included⟩ := outerHypothesis inOuter
        exact ⟨below', root :: (inner ++ before), after, childrenOf, by simp, included⟩

/-- Anything that holds of the roots and passes from a node to its children holds of every
visited node. -/
theorem Preorder.forall_mem {motive : α → Prop} {roots order : List α}
    (holds : Preorder children roots order) (atRoots : ∀ node ∈ roots, motive node)
    (step : ∀ node below, motive node → children node below → ∀ child ∈ below, motive child) :
    ∀ node ∈ order, motive node := by
  induction holds with
  | nil => simp
  | @cons root below roots inner outer childrenBelow _ _ innerHypothesis outerHypothesis =>
    have rootHolds : motive root := atRoots root List.mem_cons_self
    intro node member
    rcases List.mem_cons.mp member with rfl | later
    · exact rootHolds
    · rcases List.mem_append.mp later with inInner | inOuter
      · exact innerHypothesis (step root below rootHolds childrenBelow) node inInner
      · exact outerHypothesis (fun other otherRoot =>
          atRoots other (List.mem_cons_of_mem _ otherRoot))
          node inOuter

/-- A forest whose children lie strictly above their parent in a bounded measure has a preorder. -/
theorem Preorder.exists_of_measure {bound : Nat} {measure : α → Nat} {good : α → Prop}
    (below : ∀ node, good node → ∃ cs, children node cs ∧
      ∀ child ∈ cs, good child ∧ measure node < measure child ∧ measure child < bound) :
    ∀ roots : List α, (∀ node ∈ roots, good node) → ∃ order, Preorder children roots order := by
  have fromMeasure : ∀ gap (roots : List α),
      (∀ node ∈ roots, good node ∧ bound ≤ measure node + gap) →
      ∃ order, Preorder children roots order := by
    intro gap
    induction gap with
    | zero =>
      intro roots roomy
      induction roots with
      | nil => exact ⟨[], .nil⟩
      | cons node roots rootsHypothesis =>
        obtain ⟨nodeGood, noRoom⟩ := roomy node List.mem_cons_self
        obtain ⟨cs, childrenOf, above⟩ := below node nodeGood
        have empty : cs = [] := by
          rcases cs with _ | ⟨child, cs⟩
          · rfl
          · have := above child List.mem_cons_self
            omega
        subst empty
        obtain ⟨outer, outerOrder⟩ := rootsHypothesis
          (fun other member => roomy other (List.mem_cons_of_mem _ member))
        exact ⟨_, .cons childrenOf .nil outerOrder⟩
    | succ gap gapHypothesis =>
      intro roots roomy
      induction roots with
      | nil => exact ⟨[], .nil⟩
      | cons node roots rootsHypothesis =>
        obtain ⟨nodeGood, room⟩ := roomy node List.mem_cons_self
        obtain ⟨cs, childrenOf, above⟩ := below node nodeGood
        obtain ⟨inner, innerOrder⟩ := gapHypothesis cs (fun child member => by
          have childAbove := above child member
          exact ⟨childAbove.1, by omega⟩)
        obtain ⟨outer, outerOrder⟩ := rootsHypothesis
          (fun other member => roomy other (List.mem_cons_of_mem _ member))
        exact ⟨_, .cons childrenOf innerOrder outerOrder⟩
  intro roots rootsGood
  exact fromMeasure bound roots (fun node member => ⟨rootsGood node member, by omega⟩)

/-! ## The worklist loop -/

/-- `while let Some(node) = stack.pop() { order.push(node); stack.extend(childrenOf(node)) }`,
with the top of the stack at the head of the list and at most `fuel` pops. -/
def visit (childrenOf : α → List α) : Nat → List α → List α
  | 0, _ => []
  | _ + 1, [] => []
  | fuel + 1, node :: stack => node :: visit childrenOf fuel (childrenOf node ++ stack)

theorem visit_preorder {childrenOf : α → List α} {roots order : List α}
    (holds : Preorder children roots order)
    (agree : ∀ node ∈ order, ∀ below, children node below → childrenOf node = below)
    (fuel : Nat) (stack : List α) :
    visit childrenOf fuel (roots ++ stack) = order.take fuel ++
      visit childrenOf (fuel - order.length) stack := by
  induction holds generalizing fuel stack with
  | nil => simp
  | @cons node below roots inner outer childrenBelow _ _ innerHypothesis outerHypothesis =>
    cases fuel with
    | zero => simp [visit]
    | succ fuel =>
      have nodeAgrees : childrenOf node = below := agree node List.mem_cons_self below childrenBelow
      have innerVisit := innerHypothesis
        (fun other member => agree other (by simp [member])) fuel (roots ++ stack)
      have outerVisit := outerHypothesis
        (fun other member => agree other (by simp [member])) (fuel - inner.length) stack
      simp only [List.cons_append, visit, nodeAgrees, innerVisit, outerVisit, List.take_succ_cons,
        List.take_append, List.append_assoc, List.length_cons, List.length_append,
        Nat.add_sub_add_right, Nat.sub_sub]

/-- The loop emits the preorder of its stack, cut off at its fuel. -/
theorem visit_eq_take {childrenOf : α → List α} {roots order : List α}
    (holds : Preorder children roots order)
    (agree : ∀ node ∈ order, ∀ below, children node below → childrenOf node = below) (fuel : Nat) :
    visit childrenOf fuel roots = order.take fuel := by
  have visited := visit_preorder holds agree fuel []
  have drained : visit childrenOf (fuel - order.length) [] = [] := by
    cases fuel - order.length <;> rfl
  rwa [List.append_nil, drained, List.append_nil] at visited

end Traversal
