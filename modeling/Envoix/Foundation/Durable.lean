import Envoix.Foundation.Process

/-! # Durable writes

A program that keeps its state in files: every write may take place, be refused, or be cut off by
the death of the process, and a refused write can be caught.  What was written before stays. -/

namespace Durable

open Process Process.Method

/-- What becomes of one atomic write. -/
inductive Fate where
  | completes
  | throws
  | dies
deriving DecidableEq

/-- How an operation may end without a value. -/
inductive Interruption (Error : Type) where
  | threw (error : Error)
  | died
deriving DecidableEq

abbrev Operation (Disk Error : Type) := Method Id Disk (Interruption Error)

variable {Disk Error α : Type}

def write (fate : Fate) (error : Error) (change : Disk → Disk) : Operation Disk Error Unit :=
  match fate with
  | .completes => modify change
  | .throws => throw (.threw error)
  | .dies => throw .died

/-- `try … catch`.  A process that has died catches nothing. -/
def catching (body : Operation Disk Error α) (handler : Error → Operation Disk Error α) :
    Operation Disk Error α := do
  match ← outcome body with
  | .ok value => pure value
  | .error (.threw error) => handler error
  | .error .died => throw .died

/-- Replaces the first element with a property, as an assignment at its index does. -/
def replaceFirst (property : α → Bool) (replacement : α) : List α → List α
  | [] => []
  | element :: rest =>
    if property element then replacement :: rest
    else element :: replaceFirst property replacement rest

theorem find?_replaceFirst {property : α → Bool} {replacement element : α} {elements : List α}
    (present : elements.find? property = some element) (kept : property replacement = true) :
    (replaceFirst property replacement elements).find? property = some replacement := by
  induction elements with
  | nil => cases present
  | cons head rest ih =>
    by_cases here : property head = true
    · simp [replaceFirst, here, kept]
    · have later : rest.find? property = some element := by simpa [here] using present
      simp [replaceFirst, here, ih later]

/-! ## Rewriting a list

What a rewrite does to every element: it keeps it, changed by `moves`, or drops it. -/

inductive Shift (moves : α → α → Prop) (drops : α → Prop) : List α → List α → Prop where
  | nil : Shift moves drops [] []
  | keep {before after : α} {rest left : List α} (moved : moves before after)
      (others : Shift moves drops rest left) :
      Shift moves drops (before :: rest) (after :: left)
  | drop {before : α} {rest left : List α} (dropped : drops before)
      (others : Shift moves drops rest left) :
      Shift moves drops (before :: rest) left

namespace Shift

variable {moves : α → α → Prop} {drops : α → Prop} {elements left : List α}

theorem map {change : α → α} (moved : ∀ element ∈ elements, moves element (change element)) :
    Shift moves drops elements (elements.map change) := by
  induction elements with
  | nil => exact .nil
  | cons element rest ih =>
    exact .keep (moved element List.mem_cons_self)
      (ih fun other listed => moved other (List.mem_cons_of_mem _ listed))

theorem unchanged (moved : ∀ element ∈ elements, moves element element) :
    Shift moves drops elements elements := by
  induction elements with
  | nil => exact .nil
  | cons element rest ih =>
    exact .keep (moved element List.mem_cons_self)
      (ih fun other listed => moved other (List.mem_cons_of_mem _ listed))

/-- An assignment at the first element with a property. -/
theorem replaceFirst {property : α → Bool} {replacement element : α} {change : α → α}
    (present : elements.find? property = some element)
    (replaced : moves element (change replacement))
    (moved : ∀ other ∈ elements, moves other (change other)) :
    Shift moves drops elements
      ((Durable.replaceFirst property replacement elements).map change) := by
  induction elements with
  | nil => cases present
  | cons head rest ih =>
    have others := fun other listed => moved other (List.mem_cons_of_mem head listed)
    by_cases here : property head = true
    · have same : head = element := by simpa [here] using present
      subst same
      simpa [Durable.replaceFirst, here] using keep replaced (map others)
    · have later : rest.find? property = some element := by simpa [here] using present
      simpa [Durable.replaceFirst, here] using keep (moved head List.mem_cons_self)
        (ih later others)

/-- The removal of the first element with a property. -/
theorem eraseP {property : α → Bool} {element : α} {change : α → α}
    (present : elements.find? property = some element) (dropped : drops element)
    (moved : ∀ other ∈ elements, moves other (change other)) :
    Shift moves drops elements ((elements.eraseP property).map change) := by
  induction elements with
  | nil => cases present
  | cons head rest ih =>
    have others := fun other listed => moved other (List.mem_cons_of_mem head listed)
    by_cases here : property head = true
    · have same : head = element := by simpa [here] using present
      subst same
      simpa [here] using drop dropped (map others)
    · have later : rest.find? property = some element := by simpa [here] using present
      simpa [here] using keep (moved head List.mem_cons_self) (ih later others)

theorem filter {property : α → Bool} {change : α → α}
    (dropped : ∀ element ∈ elements, property element = false → drops element)
    (moved : ∀ element ∈ elements, moves element (change element)) :
    Shift moves drops elements ((elements.filter property).map change) := by
  induction elements with
  | nil => exact .nil
  | cons head rest ih =>
    have others := ih (fun other listed => dropped other (List.mem_cons_of_mem head listed))
      fun other listed => moved other (List.mem_cons_of_mem head listed)
    by_cases here : property head = true
    · simpa [here] using keep (moved head List.mem_cons_self) others
    · simpa [here] using drop (dropped head List.mem_cons_self (by simpa using here)) others

theorem origin (shift : Shift moves drops elements left) {after : α} (listed : after ∈ left) :
    ∃ before ∈ elements, moves before after := by
  induction shift with
  | nil => cases listed
  | keep moved _ ih =>
    obtain rfl | later := List.mem_cons.mp listed
    · exact ⟨_, List.mem_cons_self, moved⟩
    · obtain ⟨before, found, moves⟩ := ih later
      exact ⟨before, List.mem_cons_of_mem _ found, moves⟩
  | drop _ _ ih =>
    obtain ⟨before, found, moves⟩ := ih listed
    exact ⟨before, List.mem_cons_of_mem _ found, moves⟩

/-- What every move keeps stays in its order. -/
theorem sublist {β : Type} (kept : α → β)
    (keeps : ∀ before after, moves before after → kept after = kept before)
      (shift : Shift moves drops elements left) : (left.map kept).Sublist (elements.map kept) := by
  induction shift with
  | nil => exact .slnil
  | keep moved _ ih =>
    rw [List.map_cons, List.map_cons, keeps _ _ moved]
    exact ih.cons_cons _
  | drop _ _ ih => exact ih.cons _

end Shift

end Durable
