import Envoix.Android.RoomWorkflow
import Mathlib.Data.List.Infix
import Mathlib.Logic.Relation

/-! # No offer is lost in the room workflow

Whatever the order of calls, events and returning gateway calls: every offer given to the workflow
has its completion called once or is known to wait, and every offer shown is answered or known to be
gone.  A gateway call that returns late may settle a newer offer, but not one that is older. -/

namespace Envoix.Android.RoomWorkflow

open Custody

/-! ## What is conserved -/

/-- The number of the answer that a task owes. -/
def Task.answer : Task → Option Nat
  | .respond number _ _ => some number
  | .lifecycle | .command | .idleClose | .offer _ => none

/-- The settlement of an offer is about that offer, or the call of one that was settled before has
failed. -/
structure Justified (offers : List String) (earlier : List Nat) (number : Nat)
    (settlement : Settlement) : Prop where
  accepted : ∀ id, settlement = .accepted id → offers[number]? = some id
  rejected : ∀ id reason, settlement = .rejected id reason → offers[number]? = some id
  commandFailed : ∀ id message, settlement = .commandFailed id message → offers[number]? = id
  callFailed : ∀ other message, settlement = .callFailed other message →
    other = number ∨ other ∈ earlier

namespace Workflow

structure Sound (workflow : Workflow) : Prop where
  completions : Conserved workflow.offers.length (workflow.completions.map Prod.fst)
    workflow.outgoingOfferCompletion.toList
  fates : Conserved workflow.shown.length (workflow.fates.map Prod.fst)
    (workflow.state.incomingOffer.map ShownOffer.place).toList
  answers : Conserved workflow.responses (workflow.answers.map Prod.fst)
    (workflow.tasks.filterMap Task.answer)
  free : workflow.outgoingOfferCompletion = none → workflow.outgoingOfferId = none
  slot : ∀ number, workflow.outgoingOfferCompletion = some number →
    workflow.offers[number]? = workflow.outgoingOfferId ∧ ∃ id, workflow.outgoingOfferId = some id
  justified :
    ∀ earlier number settlement, earlier ++ [(number, settlement)] <+: workflow.completions →
    Justified workflow.offers (earlier.map Prod.fst) number settlement
  offerCalls : ∀ number, .offer number ∈ workflow.tasks → number < workflow.offers.length
  respondCalls : ∀ number place accept, .respond number place accept ∈ workflow.tasks →
    place < workflow.shown.length
  newest : ∀ offer, workflow.state.incomingOffer = some offer →
    offer.place + 1 = workflow.shown.length ∧ workflow.shown[offer.place]? = some offer.id
  wiped : ∀ place accepted, (place, Fate.wiped accepted) ∈ workflow.fates → accepted < place

/-- What the promise is about. -/
structure Record where
  offers : List String
  completions : List (Nat × Settlement)
  outgoingOfferCompletion : Option Nat
  outgoingOfferId : Option String
  shown : List String
  fates : List (Nat × Fate)
  incomingOffer : Option ShownOffer
  responses : Nat
  answers : List (Nat × Option String)
  tasks : List Task

def record (workflow : Workflow) : Record :=
  ⟨workflow.offers, workflow.completions, workflow.outgoingOfferCompletion,
    workflow.outgoingOfferId, workflow.shown, workflow.fates, workflow.state.incomingOffer,
    workflow.responses, workflow.answers, workflow.tasks⟩

variable {workflow next : Workflow}

/-- Nothing else of the workflow matters. -/
theorem Sound.congr (sound : workflow.Sound) (same : next.record = workflow.record) :
    next.Sound := by
  simp only [record, Record.mk.injEq] at same
  obtain ⟨offers, completions, completion, id, shown, fates, incoming, responses, answers, tasks⟩ :=
    same
  exact {
    completions := by rw [offers, completions, completion]; exact sound.completions
    fates := by rw [shown, fates, incoming]; exact sound.fates
    answers := by rw [responses, answers, tasks]; exact sound.answers
    free := by rw [completion, id]; exact sound.free
    slot := by rw [completion, id, offers]; exact sound.slot
    justified := by rw [offers, completions]; exact sound.justified
    offerCalls := by rw [tasks, offers]; exact sound.offerCalls
    respondCalls := by rw [tasks, shown]; exact sound.respondCalls
    newest := by rw [incoming, shown]; exact sound.newest
    wiped := by rw [fates]; exact sound.wiped }

/-! ## Settling and hiding -/

@[simp] theorem hideOffer_slot (workflow : Workflow) (fate : Fate) :
    (workflow.hideOffer fate).outgoingOfferCompletion = workflow.outgoingOfferCompletion := by
  unfold Workflow.hideOffer
  cases workflow.state.incomingOffer <;> rfl

@[simp] theorem hideOffer_slotId (workflow : Workflow) (fate : Fate) :
    (workflow.hideOffer fate).outgoingOfferId = workflow.outgoingOfferId := by
  unfold Workflow.hideOffer
  cases workflow.state.incomingOffer <;> rfl

@[simp] theorem hideOffer_phase (workflow : Workflow) (fate : Fate) :
    (workflow.hideOffer fate).state.phase = workflow.state.phase := by
  unfold Workflow.hideOffer
  cases workflow.state.incomingOffer <;> rfl

@[simp] theorem hideOffer_gone (workflow : Workflow) (fate : Fate) :
    (workflow.hideOffer fate).state.incomingOffer = none := by
  unfold Workflow.hideOffer
  cases shows : workflow.state.incomingOffer with
  | none => exact shows
  | some offer => rfl

@[simp] theorem settle_state (workflow : Workflow) (settlement : Settlement) :
    (workflow.settle settlement).state = workflow.state := by
  unfold Workflow.settle
  cases workflow.outgoingOfferCompletion <;> rfl

@[simp] theorem settle_slot (workflow : Workflow) (settlement : Settlement) :
    (workflow.settle settlement).outgoingOfferCompletion = none ∧
      (workflow.settle settlement).outgoingOfferId = none := by
  unfold Workflow.settle
  cases waits : workflow.outgoingOfferCompletion with
  | none => exact ⟨rfl, rfl⟩
  | some number => exact ⟨rfl, rfl⟩

theorem record_hideOffer (workflow : Workflow) (fate : Fate) :
    (workflow.hideOffer fate).shown = workflow.shown ∧
      (workflow.hideOffer fate).responses = workflow.responses ∧ (workflow.hideOffer fate).answers =
        workflow.answers ∧ (workflow.hideOffer fate).tasks = workflow.tasks := by
  unfold Workflow.hideOffer
  cases workflow.state.incomingOffer <;> exact ⟨rfl, rfl, rfl, rfl⟩

/-! ## Tasks -/

/-- A task that owes nothing to anybody. -/
def Plain (task : Task) : Prop := task = .lifecycle ∨ task = .command ∨ task = .idleClose

theorem Sound.launch (sound : workflow.Sound) {task : Task} (plain : Plain task) :
    (workflow.launchGateway task).Sound where
  completions := sound.completions
  fates := sound.fates
  answers := by
    have nothing : [task].filterMap Task.answer = [] := by obtain rfl | rfl | rfl := plain <;> rfl
    show Conserved _ _ ((workflow.tasks ++ [task]).filterMap Task.answer)
    rw [List.filterMap_append, nothing, List.append_nil]
    exact sound.answers
  free := sound.free
  slot := sound.slot
  justified := sound.justified
  offerCalls := fun number listed => by
    obtain there | here := List.mem_append.mp listed
    · exact sound.offerCalls number there
    · obtain rfl | rfl | rfl := plain <;> simp at here
  respondCalls := fun number place accept listed => by
    obtain there | here := List.mem_append.mp listed
    · exact sound.respondCalls number place accept there
    · obtain rfl | rfl | rfl := plain <;> simp at here
  newest := sound.newest
  wiped := sound.wiped

/-! ## The slot of the outgoing offer -/

theorem justified_append {offers : List String} {completions : List (Nat × Settlement)}
    {entry : Nat × Settlement}
    (before : ∀ earlier number settlement, earlier ++ [(number, settlement)] <+: completions →
      Justified offers (earlier.map Prod.fst) number settlement)
    (last : Justified offers (completions.map Prod.fst) entry.1 entry.2) :
    ∀ earlier number settlement, earlier ++ [(number, settlement)] <+: completions ++ [entry] →
      Justified offers (earlier.map Prod.fst) number settlement := by
  intro earlier number settlement front
  obtain whole | front := List.prefix_concat_iff.mp front
  · obtain ⟨rfl, same⟩ := List.append_inj' whole rfl
    cases same
    exact last
  · exact before earlier number settlement front

/-- The completion that waits is called, or nothing is. -/
theorem Sound.settle (sound : workflow.Sound) (settlement : Settlement)
    (last : ∀ number, workflow.outgoingOfferCompletion = some number →
      Justified workflow.offers (workflow.completions.map Prod.fst) number settlement) :
    (workflow.settle settlement).Sound := by
  unfold Workflow.settle
  cases waits : workflow.outgoingOfferCompletion with
  | none =>
    have same : workflow.outgoingOfferId = none := sound.free waits
    exact sound.congr (by simp [record, same, waits])
  | some number =>
    have held := sound.completions
    rw [waits] at held
    exact {
      completions := by
        show Conserved _ ((workflow.completions ++ [(number, settlement)]).map Prod.fst) []
        rw [List.map_append]
        exact held.settle
      fates := sound.fates
      answers := sound.answers
      free := fun _ => rfl
      slot := fun other still => by simp at still
      justified := justified_append sound.justified (last number waits)
      offerCalls := sound.offerCalls
      respondCalls := sound.respondCalls
      newest := sound.newest
      wiped := sound.wiped }

/-- Settlements that say nothing of an offer. -/
theorem justified_roomEnded {offers : List String} {earlier : List Nat} {number : Nat}
    {message : String} :
    Justified offers earlier number (.roomEnded message) :=
  ⟨by simp, by simp, by simp, by simp⟩

theorem justified_dropped {offers : List String} {earlier : List Nat} {number : Nat} :
    Justified offers earlier number .dropped :=
  ⟨by simp, by simp, by simp, by simp⟩

/-- A gateway call fails: it is the call of the offer that waits, or of one that was settled. -/
theorem Sound.justified_callFailed (sound : workflow.Sound) {other number : Nat} {message : String}
    (called : other < workflow.offers.length)
    (waits : workflow.outgoingOfferCompletion = some number) :
    Justified workflow.offers (workflow.completions.map Prod.fst) number
      (.callFailed other message) := by
  refine ⟨by simp, by simp, by simp, fun _ _ same => ?_⟩
  cases same
  have held := sound.completions
  rw [waits] at held
  obtain settled | here := held.settled_or_held called
  · exact .inr settled
  · exact .inl (by simpa using here)

/-! ## The offer that is shown -/

theorem Sound.hideOffer (sound : workflow.Sound) (fate : Fate)
    (late : ∀ accepted offer, fate = .wiped accepted → workflow.state.incomingOffer = some offer →
      accepted < offer.place) :
    (workflow.hideOffer fate).Sound := by
  unfold Workflow.hideOffer
  cases shows : workflow.state.incomingOffer with
  | none => exact sound
  | some offer =>
    have held := sound.fates
    rw [shows] at held
    exact {
      completions := sound.completions
      fates := by
        show Conserved _ ((workflow.fates ++ [(offer.place, fate)]).map Prod.fst) []
        rw [List.map_append]
        exact held.settle
      answers := sound.answers
      free := sound.free
      slot := sound.slot
      justified := sound.justified
      offerCalls := sound.offerCalls
      respondCalls := sound.respondCalls
      newest := fun other still => by simp at still
      wiped := fun place accepted listed => by
        obtain there | here := List.mem_append.mp listed
        · exact sound.wiped place accepted there
        · simp only [List.mem_singleton, Prod.mk.injEq] at here
          exact here.1 ▸ late accepted offer here.2.symm shows }

/-- Another state of the screen without an offer. -/
theorem Sound.reset (sound : workflow.Sound) (state : RoomControlUiState)
    (blank : state.incomingOffer = none) :
    (workflow.reset state).Sound := by
  have hidden := sound.hideOffer .roomEnded (by simp)
  exact hidden.congr (by simp [record, Workflow.reset, blank])

/-! ## Calls of the screens -/

theorem Sound.offer (sound : workflow.Sound) (id : String) : (workflow.offer id).Sound := by
  have longer (entries : List String) {number : Nat} (inside : number < workflow.offers.length) :
      (workflow.offers ++ entries)[number]? = workflow.offers[number]? :=
        List.getElem?_append_left inside
  have old {number : Nat} (settled : number ∈ workflow.completions.map Prod.fst) :
    number < workflow.offers.length :=
    sound.completions.lt_of_settled settled
  -- A settlement that was justified stays so: the offer it is about has kept its number.
  have still :
      ∀ earlier number settlement, earlier ++ [(number, settlement)] <+: workflow.completions →
      Justified (workflow.offers ++ [id]) (earlier.map Prod.fst) number settlement := by
    intro earlier number settlement front
    obtain ⟨accepted, rejected, commandFailed, callFailed⟩ :=
      sound.justified earlier number settlement front
    have inside : number < workflow.offers.length := by
      refine old (List.mem_map.mpr ⟨(number, settlement), front.subset ?_, rfl⟩)
      simp
    rw [← longer [id] inside] at accepted rejected commandFailed
    exact ⟨accepted, rejected, commandFailed, callFailed⟩
  have later : ∀ number, .offer number ∈ workflow.tasks →
      number < (workflow.offers ++ [id]).length := by
    intro number listed
    rw [List.length_append]
    exact Nat.lt_add_right _ (sound.offerCalls number listed)
  unfold Workflow.offer
  -- A busy workflow settles the new offer at once; otherwise it takes the free slot.
  by_cases busy : ¬ workflow.state.connected = true ∨ workflow.state.incomingOffer ≠ none ∨
    workflow.outgoingOfferId ≠ none
  · simp only [if_pos busy]
    exact {
      completions := by
        show Conserved (workflow.offers ++ [id]).length
          ((workflow.completions ++ [(workflow.offers.length, Settlement.refused)]).map
            Prod.fst) _
        rw [List.map_append, List.length_append]
        exact sound.completions.settleNew
      fates := sound.fates
      answers := sound.answers
      free := sound.free
      slot := fun number waits => by
        have held : number ∈ workflow.outgoingOfferCompletion.toList := by simpa using waits
        rw [longer _ (sound.completions.lt_of_held held)]
        exact sound.slot number waits
      justified := justified_append still ⟨by simp, by simp, by simp, by simp⟩
      offerCalls := later
      respondCalls := sound.respondCalls
      newest := sound.newest
      wiped := sound.wiped }
  · simp only [if_neg busy]
    have unused : workflow.outgoingOfferId = none := by
      by_contra used
      exact busy (.inr (.inr used))
    have idle : workflow.outgoingOfferCompletion = none := by
      cases waits : workflow.outgoingOfferCompletion with
      | none => rfl
      | some number =>
        obtain ⟨-, other, found⟩ := sound.slot number waits
        simp [unused] at found
    have empty := sound.completions
    rw [idle] at empty
    exact {
      completions := by
        show Conserved (workflow.offers ++ [id]).length _ [workflow.offers.length]
        rw [List.length_append]
        exact empty.hold
      fates := sound.fates
      answers := by
        show Conserved _ _
          ((workflow.tasks ++ [Task.offer workflow.offers.length]).filterMap Task.answer)
        rw [List.filterMap_append]
        exact (List.append_nil _).symm ▸ sound.answers
      free := fun none => by simp [launchGateway] at none
      slot := fun number waits => by
        simp only [launchGateway, Option.some.injEq] at waits
        subst waits
        exact ⟨by simp [launchGateway], id, rfl⟩
      justified := still
      offerCalls := fun number listed => by
        obtain there | here := List.mem_append.mp listed
        · exact later number there
        · simp only [List.mem_singleton, Task.offer.injEq] at here
          simp [launchGateway, here]
      respondCalls := fun number place accept listed => by
        obtain there | here := List.mem_append.mp listed
        · exact sound.respondCalls number place accept there
        · simp at here
      newest := sound.newest
      wiped := sound.wiped }

/-- The answer to a call that is refused is given at once. -/
theorem Sound.answerNew (sound : workflow.Sound) (answer : Option String) :
    Sound { workflow with responses := workflow.responses + 1
                          answers := workflow.answers ++ [(workflow.responses, answer)] } where
  completions := sound.completions
  fates := sound.fates
  answers := by
    show Conserved _ ((workflow.answers ++ [(workflow.responses, answer)]).map Prod.fst) _
    rw [List.map_append]
    exact sound.answers.settleNew
  free := sound.free
  slot := sound.slot
  justified := sound.justified
  offerCalls := sound.offerCalls
  respondCalls := sound.respondCalls
  newest := sound.newest
  wiped := sound.wiped

/-- The answer to a call is left to its task. -/
theorem Sound.launchRespond (sound : workflow.Sound) (place : Nat) (accept : Bool)
    (inside : place < workflow.shown.length) :
    Sound { workflow with responses := workflow.responses + 1
                          tasks :=
                            workflow.tasks ++ [.respond workflow.responses place accept] } where
  completions := sound.completions
  fates := sound.fates
  answers := by
    show Conserved _ _
      ((workflow.tasks ++ [Task.respond workflow.responses place accept]).filterMap Task.answer)
    rw [List.filterMap_append]
    exact sound.answers.hold.rearrange (List.perm_append_singleton _ _).symm
  free := sound.free
  slot := sound.slot
  justified := sound.justified
  offerCalls := fun number listed => by
    obtain there | here := List.mem_append.mp listed
    · exact sound.offerCalls number there
    · simp at here
  respondCalls := fun number other choice listed => by
    obtain there | here := List.mem_append.mp listed
    · exact sound.respondCalls number other choice there
    · simp only [List.mem_singleton, Task.respond.injEq] at here
      exact here.2.1 ▸ inside
  newest := sound.newest
  wiped := sound.wiped

theorem Sound.respondToOffer (sound : workflow.Sound) (offerId : String) (accept : Bool) :
    (workflow.respondToOffer offerId accept).Sound := by
  unfold Workflow.respondToOffer
  cases shows : workflow.state.incomingOffer with
  | none =>
    simp only [shows]
    exact sound.answerNew _
  | some offer =>
    simp only [shows]
    by_cases other : offer.id ≠ offerId
    · rw [if_pos other]
      exact sound.answerNew _
    · rw [if_neg other]
      have inside : offer.place < workflow.shown.length := by
        have newest := (sound.newest offer shows).1
        omega
      cases accept with
      | true => exact (sound.launchRespond offer.place true inside).congr rfl
      | false =>
        have hidden := sound.hideOffer (.answered false) (by simp)
        obtain ⟨sameShown, sameResponses, -, -⟩ := record_hideOffer workflow (.answered false)
        refine (hidden.launchRespond offer.place false (by rwa [sameShown])).congr ?_
        simp [record, Workflow.hideOffer, shows, launchGateway]

/-- What ends a room: the slot is settled and the shown offer is hidden. -/
theorem Sound.endRoom (sound : workflow.Sound) (settlement : Settlement)
    (silent : settlement = .dropped ∨ ∃ message, settlement = .roomEnded message) :
    ((workflow.settle settlement).hideOffer .roomEnded).Sound := by
  have settled := sound.settle settlement fun number _ => by
    obtain rfl | ⟨message, rfl⟩ := silent
    · exact justified_dropped
    · exact justified_roomEnded
  exact settled.hideOffer .roomEnded (by simp)

theorem Sound.markClosed (sound : workflow.Sound) (reason : RoomCloseReason) :
    (workflow.markClosed reason).Sound := by
  have quiet :
    Sound { workflow with
      idleTicker := none, hostingExpiry := none, incomingOfferExpiry := none } :=
    sound.congr rfl
  exact (quiet.endRoom (.roomEnded "The room closed before the offer was accepted")
    (.inr ⟨_, rfl⟩)).congr rfl

theorem Sound.clear (sound : workflow.Sound) : workflow.clear.Sound := by
  have quiet : Sound { workflow with
      idleTicker := none, hostingExpiry := none, incomingOfferExpiry := none,
      activeTransferCount := 0
      idleCloseRequestedRevision := none } := sound.congr rfl
  exact (quiet.endRoom .dropped (.inl rfl)).congr
    (by simp [record, Workflow.clear, Workflow.reset, RoomControlUiState.initial])

theorem Sound.close (sound : workflow.Sound) (reason : RoomCloseReason) :
    (workflow.close reason).Sound := by
  have asked :
    Sound { workflow with idleCloseRequestedRevision := some workflow.state.lifetimeRevision } :=
      sound.congr rfl
  unfold Workflow.close
  split_ifs
  · exact sound.clear
  · exact sound
  · exact asked.launch (.inr (.inr rfl))
  · exact (sound.markClosed reason).launch (.inr (.inl rfl))
  · exact sound

theorem Sound.setLegacy (sound : workflow.Sound) : workflow.setLegacy.Sound := by
  have stopped : Sound { workflow with idleTicker := none } := sound.congr rfl
  exact stopped.reset _ rfl

theorem Sound.failLifecycle (sound : workflow.Sound) (message : String) :
    (workflow.failLifecycle message).Sound :=
  (sound.hideOffer .roomEnded (by simp)).congr rfl

/-! ## Events of the gateway -/

theorem Sound.completeOutgoingOffer (sound : workflow.Sound) {settlement : Settlement}
    (last : ∀ number, workflow.outgoingOfferCompletion = some number →
      Justified workflow.offers (workflow.completions.map Prod.fst) number settlement) :
    (workflow.completeOutgoingOffer settlement).Sound :=
  (sound.settle settlement last).congr rfl

/-- An outcome with the id of the offer that waits is about that offer. -/
theorem Sound.offers_slot (sound : workflow.Sound) {number : Nat}
    (waits : workflow.outgoingOfferCompletion = some number) :
    workflow.offers[number]? = workflow.outgoingOfferId := (sound.slot number waits).1

theorem Sound.incomingOffer (sound : workflow.Sound) (offerId : String) :
    Sound { workflow.hideOffer .replaced with
      state.incomingOffer := some ⟨workflow.shown.length, offerId⟩,
      shown := workflow.shown ++ [offerId]
      incomingOfferExpiry := some offerId } := by
  have hidden := sound.hideOffer .replaced (by simp)
  obtain ⟨sameShown, -, -, -⟩ := record_hideOffer workflow .replaced
  have held := hidden.fates
  rw [hideOffer_gone, sameShown] at held
  exact {
    completions := hidden.completions
    fates := by
      show Conserved (workflow.shown ++ [offerId]).length _ [workflow.shown.length]
      rw [List.length_append]
      exact held.hold
    answers := hidden.answers
    free := hidden.free
    slot := hidden.slot
    justified := hidden.justified
    offerCalls := hidden.offerCalls
    respondCalls := fun number place accept listed => by
      have inside := hidden.respondCalls number place accept listed
      rw [sameShown] at inside
      show place < (workflow.shown ++ [offerId]).length
      rw [List.length_append]
      exact Nat.lt_add_right _ inside
    newest := fun offer shows => by
      cases shows
      exact ⟨by simp, by simp⟩
    wiped := hidden.wiped }

theorem Sound.handle (sound : workflow.Sound) (event : RoomControlEvent) :
    (workflow.handle event).Sound := by
  cases event with
  | hosting invite =>
    simp only [Workflow.handle]
    split_ifs
    · exact sound
    · exact sound.congr rfl
  | joining =>
    simp only [Workflow.handle]
    split_ifs
    · exact sound
    · exact sound.congr rfl
  | connected creator lifetime =>
    simp only [Workflow.handle]
    split_ifs
    · exact sound
    · have begun :
        Sound { workflow with
          activeTransferCount := 0, idleCloseRequestedRevision := none, hostingExpiry := none } :=
        sound.congr rfl
      have connected := begun.reset { RoomControlUiState.initial with
        phase := .connected, creator, lifetimeRevision := lifetime.revision
        idleDeadlineEpochMs := lifetime.idleDeadlineEpochMs } rfl
      exact connected.congr rfl
  | incomingOffer offerId =>
    simp only [Workflow.handle]
    split_ifs
    · refine (sound.incomingOffer offerId).congr ?_
      obtain ⟨sameShown, -, -, -⟩ := record_hideOffer workflow .replaced
      simp [record, sameShown]
    · exact sound
  | offerAccepted offerId =>
    simp only [Workflow.handle]
    split_ifs with same
    · refine sound.completeOutgoingOffer fun number waits =>
        ⟨fun id accepted => ?_, by simp, by simp, by simp⟩
      cases accepted
      exact (sound.offers_slot waits).trans same.symm
    · exact sound
  | offerRejected offerId reason =>
    simp only [Workflow.handle]
    split_ifs with same
    · refine sound.completeOutgoingOffer fun number waits =>
        ⟨by simp, fun id other rejected => ?_, by simp, by simp⟩
      cases rejected
      exact (sound.offers_slot waits).trans same.symm
    · exact sound
  | commandFailed command offerId message =>
    simp only [Workflow.handle]
    split_ifs with same
    · refine sound.completeOutgoingOffer fun number waits =>
        ⟨by simp, by simp, fun id other failed => ?_, by simp⟩
      cases failed
      exact (sound.offers_slot waits).trans same.2.symm
    · exact sound.congr rfl
    · exact sound.congr rfl
  | lifetimeChanged lifetime =>
    simp only [Workflow.handle, Workflow.applyLifetime]
    split_ifs
    · exact sound
    · exact sound.congr rfl
    · exact sound
  | closed reason =>
    simp only [Workflow.handle]
    split_ifs
    · exact sound
    · have quiet : Sound { workflow with hostingExpiry := none } := sound.congr rfl
      exact quiet.markClosed reason
  | failed message =>
    simp only [Workflow.handle]
    split_ifs
    · exact sound
    · exact (sound.endRoom (.roomEnded message) (.inr ⟨message, rfl⟩)).congr rfl

/-! ## Gateway calls that return -/

/-- The task at the place is gone, and with it an answer that it owed. -/
theorem Sound.returns (sound : workflow.Sound) {index : Nat} {task : Task}
    (found : workflow.tasks[index]? = some task) (failure : Option String) :
    (Workflow.resume { workflow with tasks := workflow.tasks.eraseIdx index }
      failure task).Sound := by
  obtain ⟨inside, at'⟩ := List.getElem?_eq_some_iff.mp found
  have listed : task ∈ workflow.tasks := List.mem_of_getElem? found
  have split : (task :: workflow.tasks.eraseIdx index).Perm workflow.tasks :=
    at' ▸ List.getElem_cons_eraseIdx_perm inside
  have fewer {other : Task} (left : other ∈ workflow.tasks.eraseIdx index) :
    other ∈ workflow.tasks :=
    List.mem_of_mem_eraseIdx left
  have owed := sound.answers.rearrange (split.filterMap Task.answer).symm
  -- everything but the answers is as it was
  have rest (answers : List (Nat × Option String))
    (given : Conserved workflow.responses (answers.map Prod.fst)
      ((workflow.tasks.eraseIdx index).filterMap Task.answer)) :
      Sound { workflow with tasks := workflow.tasks.eraseIdx index, answers } :=
    { completions := sound.completions
      fates := sound.fates
      answers := given
      free := sound.free
      slot := sound.slot
      justified := sound.justified
      offerCalls := fun number left => sound.offerCalls number (fewer left)
      respondCalls := fun number place accept left =>
        sound.respondCalls number place accept (fewer left)
      newest := sound.newest
      wiped := sound.wiped }
  cases task with
  | lifecycle =>
    have gone := rest _ owed
    cases failure with
    | none => exact gone
    | some message => exact gone.failLifecycle message
  | command =>
    have gone := rest _ owed
    cases failure with
    | none => exact gone
    | some message => exact gone.congr rfl
  | idleClose =>
    have gone := rest _ owed
    cases failure with
    | none => exact gone
    | some message => exact gone.congr rfl
  | offer number =>
    have gone := rest _ owed
    cases failure with
    | none => exact gone
    | some message =>
      exact gone.completeOutgoingOffer fun waiting waits =>
        gone.justified_callFailed (sound.offerCalls number listed) waits
  | respond number place accept =>
    have gone (answer : Option String) := rest (workflow.answers ++ [(number, answer)]) (by
      rw [List.map_append]
      exact owed.settle)
    have hidden (answer : Option String) (fate : Fate) (named : fate = .answered true ∨
        fate = .wiped place ∧ workflow.state.incomingOffer.map ShownOffer.place ≠ some place) :=
      (gone answer).hideOffer fate (by
        intro accepted offer wiped shows
        have shows : workflow.state.incomingOffer = some offer := shows
        obtain rfl | ⟨rfl, other⟩ := named
        · simp at wiped
        · cases wiped
          -- an offer still shown that is not the answered one arrived after it
          have newest := (sound.newest offer shows).1
          have shown := sound.respondCalls number place accept listed
          have different : offer.place ≠ place := by simpa [shows] using other
          omega)
    have outcome (answer : Option String) : ∃ next : Workflow, next.Sound ∧ next.record =
        { (if accept = true then
            Workflow.hideOffer { workflow with tasks := workflow.tasks.eraseIdx index }
              (if workflow.state.incomingOffer.map ShownOffer.place = some place then .answered true
                else .wiped place)
          else { workflow with tasks := workflow.tasks.eraseIdx index }).record with
          answers := workflow.answers ++ [(number, answer)] } := by
      cases accept with
      | false => exact ⟨_, gone answer, rfl⟩
      | true =>
        by_cases same : workflow.state.incomingOffer.map ShownOffer.place = some place
        · refine ⟨_, hidden answer (.answered true) (.inl rfl), ?_⟩
          simp only [↓reduceIte, if_pos same]
          cases shows : workflow.state.incomingOffer <;> simp [record, Workflow.hideOffer, shows]
        · refine ⟨_, hidden answer (.wiped place) (.inr ⟨rfl, same⟩), ?_⟩
          simp only [↓reduceIte, if_neg same]
          cases shows : workflow.state.incomingOffer <;> simp [record, Workflow.hideOffer, shows]
    obtain ⟨next, soundNext, same⟩ := outcome failure
    have kept (fate : Fate) :
        (Workflow.hideOffer { workflow with tasks := workflow.tasks.eraseIdx index } fate).answers =
        workflow.answers := (record_hideOffer _ fate).2.2.1
    refine soundNext.congr ?_
    rw [same]
    cases failure <;> cases accept <;> simp [Workflow.resume, record, Workflow.showError, kept]

/-! ## Runs -/

theorem Sound.step (sound : workflow.Sound) {event : Event}
    (steps : workflow.step event = some next) : next.Sound := by
  cases event with
  | host verificationCode =>
    cases steps
    unfold Workflow.host
    split_ifs
    · exact (sound.reset _ rfl).launch (.inl rfl)
    · exact sound.congr rfl
  | join =>
    cases steps
    unfold Workflow.join
    split_ifs
    · exact (sound.reset _ rfl).launch (.inl rfl)
    · exact sound.congr rfl
  | refreshInvite =>
    cases steps
    have cleared : Sound { workflow with state.error := none } := sound.congr rfl
    unfold Workflow.refreshInvite
    split_ifs
    · exact sound
    · exact cleared.launch (.inr (.inl rfl))
  | offer id =>
    cases steps
    exact sound.offer id
  | respondToOffer offerId accept =>
    cases steps
    exact sound.respondToOffer offerId accept
  | setKeepOpen =>
    cases steps
    unfold Workflow.setKeepOpen
    split_ifs
    · exact sound
    · exact sound.launch (.inr (.inl rfl))
  | updateActiveTransfers count =>
    cases steps
    have counted : Sound { workflow with activeTransferCount := count.toNat } := sound.congr rfl
    unfold Workflow.updateActiveTransfers
    simp only
    by_cases same : workflow.activeTransferCount = count.toNat
    · rw [if_pos same]
      exact sound
    · rw [if_neg same]
      by_cases connected : ¬ workflow.state.connected = true
      · rw [if_pos connected]
        exact counted
      · rw [if_neg connected]
        by_cases changed : decide (workflow.activeTransferCount > 0) ≠ decide (count.toNat > 0)
        · rw [if_pos changed]
          exact counted.launch (.inr (.inl rfl))
        · rw [if_neg changed]
          exact counted
  | close reason =>
    cases steps
    exact sound.close reason
  | setLegacy =>
    cases steps
    exact sound.setLegacy
  | clear =>
    cases steps
    exact sound.clear
  | stop =>
    cases steps
    exact sound.congr rfl
  | showError message =>
    cases steps
    exact sound.congr rfl
  | handle event =>
    cases steps
    exact sound.handle event
  | returns index failure =>
    cases found : workflow.tasks[index]? with
    | none => simp [Workflow.step, found] at steps
    | some task =>
      simp only [Workflow.step, found, Option.some.injEq] at steps
      subst steps
      exact sound.returns found failure
  | idleTick now =>
    have quiet : Sound { workflow with idleTicker := none } := sound.congr rfl
    cases ticks : workflow.idleTicker with
    | none => simp [Workflow.step, ticks] at steps
    | some countdown =>
      obtain ⟨revision, deadline⟩ := countdown
      simp only [Workflow.step, ticks] at steps
      split_ifs at steps <;> cases steps
      · exact sound
      · exact quiet.close _
      · exact quiet
      · exact quiet
  | hostingExpires =>
    have quiet : Sound { workflow with hostingExpiry := none } := sound.congr rfl
    cases expires : workflow.hostingExpiry with
    | none => simp [Workflow.step, expires] at steps
    | some invite =>
      simp only [Workflow.step, expires, Option.some.injEq] at steps
      subst steps
      split_ifs
      · exact quiet.close _
      · exact quiet
  | incomingOfferExpires =>
    have quiet : Sound { workflow with incomingOfferExpiry := none } := sound.congr rfl
    cases expires : workflow.incomingOfferExpiry with
    | none => simp [Workflow.step, expires] at steps
    | some offerId =>
      simp only [Workflow.step, expires, Option.some.injEq] at steps
      subst steps
      split_ifs
      · exact quiet.respondToOffer _ _
      · exact quiet

theorem sound_start (available : Bool) : (start available).Sound where
  completions := conserved_start
  fates := conserved_start
  answers := conserved_start
  free := fun _ => rfl
  slot := fun number waits => by simp [start] at waits
  justified := fun earlier number settlement front => by
    have nothing : earlier ++ [(number, settlement)] = [] := List.prefix_nil.mp front
    simp at nothing
  offerCalls := fun number listed => by simp [start] at listed
  respondCalls := fun number place accept listed => by simp [start] at listed
  newest := fun offer shows => by simp [start, RoomControlUiState.initial] at shows
  wiped := fun place accepted listed => by simp [start] at listed

/-- Some events take the first workflow to the second. -/
def Reaches : Workflow → Workflow → Prop :=
  Relation.ReflTransGen fun workflow next => ∃ event, workflow.step event = some next

theorem Reaches.sound {available : Bool} (run : Reaches (start available) workflow) :
    workflow.Sound := by
  induction run with
  | refl => exact sound_start available
  | tail _ last ih =>
    obtain ⟨event, steps⟩ := last
    exact ih.step steps

/-- The workflow after some events, if they can happen. -/
def run (workflow : Workflow) (events : List Event) : Option Workflow :=
  events.foldlM Workflow.step workflow

theorem reaches_run (events : List Event) (ran : workflow.run events = some next) :
    Reaches workflow next := by
  induction events generalizing workflow with
  | nil =>
    cases ran
    exact .refl
  | cons event events ih =>
    obtain ⟨between, steps, rest⟩ := Option.bind_eq_some_iff.mp ran
    exact .head ⟨event, steps⟩ (ih rest)

/-! ## How a room ends -/

/-- The events that end a room and empty the slot of the outgoing offer. -/
def EndsRoom (workflow : Workflow) : Event → Prop
  | .clear => True
  | .close reason => workflow.state.phase = .legacy ∨ workflow.state.live = true ∧
    reason ≠ .idleExpired
  | .handle (.closed _) | .handle (.failed _) =>
    workflow.state.phase ≠ .none ∧ workflow.state.phase ≠ .legacy
  | .hostingExpires => workflow.state.phase = .hosting ∧
    workflow.state.invite = workflow.hostingExpiry
  | _ => False

/-- The events that put another room on the screen, or the failure of one, and leave the slot as it
is. -/
def TurnsRoom (workflow : Workflow) : Event → Prop
  | .host _ | .join => workflow.available = true
  | .setLegacy => True
  | .handle (.connected _ _) =>
    workflow.state.phase = .hosting ∨ workflow.state.phase = .joining ∨
      workflow.state.phase = .connected
  | .returns index failure => workflow.tasks[index]? = some .lifecycle ∧ failure ≠ none
  | _ => False

/-- Nobody waits for the outcome of an offer and none is shown. -/
structure Silent (workflow : Workflow) : Prop where
  completion : workflow.outgoingOfferCompletion = none
  id : workflow.outgoingOfferId = none
  incoming : workflow.state.incomingOffer = none

theorem silent_markClosed (workflow : Workflow) (reason : RoomCloseReason) :
    (workflow.markClosed reason).Silent :=
  ⟨by simp [Workflow.markClosed], by simp [Workflow.markClosed], by simp [Workflow.markClosed]⟩

theorem silent_clear (workflow : Workflow) : workflow.clear.Silent :=
  ⟨by simp [Workflow.clear, Workflow.reset], by simp [Workflow.clear, Workflow.reset], rfl⟩

theorem silent_close {reason : RoomCloseReason} (live : workflow.state.live = true)
    (other : reason ≠ .idleExpired) :
    (workflow.close reason).Silent := by
  have notLegacy : workflow.state.phase ≠ .legacy := by
    intro legacy
    simp [RoomControlUiState.live, legacy] at live
  unfold Workflow.close
  rw [if_neg notLegacy, if_neg (not_not.mpr live), if_neg other]
  exact {
    completion := (silent_markClosed workflow reason).completion
    id := (silent_markClosed workflow reason).id
    incoming := (silent_markClosed workflow reason).incoming }

theorem EndsRoom.silent {event : Event} (ends : workflow.EndsRoom event)
    (steps : workflow.step event = some next) :
    next.Silent := by
  cases event with
  | clear =>
    cases steps
    exact silent_clear workflow
  | close reason =>
    cases steps
    obtain legacy | ⟨live, other⟩ := ends
    · unfold Workflow.close
      rw [if_pos legacy]
      exact silent_clear workflow
    · exact silent_close live other
  | handle event =>
    cases event with
    | closed reason =>
      cases steps
      have begun : ¬ (workflow.state.phase = .none ∨ workflow.state.phase = .legacy) :=
        not_or.mpr ends
      simp only [Workflow.handle, if_neg begun]
      exact silent_markClosed _ reason
    | failed message =>
      cases steps
      have begun : ¬ (workflow.state.phase = .none ∨ workflow.state.phase = .legacy) :=
        not_or.mpr ends
      simp only [Workflow.handle, if_neg begun]
      exact ⟨by simp, by simp, by simp⟩
    | hosting | joining | connected | incomingOffer | offerAccepted | offerRejected | commandFailed
    | lifetimeChanged =>
      exact ends.elim
  | hostingExpires =>
    -- the countdown of the invitation that is still being hosted
    obtain ⟨hosting, same⟩ := ends
    cases expires : workflow.hostingExpiry with
    | none => simp [Workflow.step, expires] at steps
    | some invite =>
      rw [expires] at same
      simp only [Workflow.step, expires, Option.some.injEq, hosting, same, and_self,
        ↓reduceIte] at steps
      subst steps
      exact silent_close (by simp [RoomControlUiState.live, hosting]) (by simp)
  | host | join | refreshInvite | offer | respondToOffer | setKeepOpen | updateActiveTransfers
  | setLegacy | stop |
    showError | returns | idleTick | incomingOfferExpires => exact ends.elim

/-- The slot is as it was, and no offer of the old room is shown. -/
structure Turned (workflow next : Workflow) : Prop where
  completion : next.outgoingOfferCompletion = workflow.outgoingOfferCompletion
  id : next.outgoingOfferId = workflow.outgoingOfferId
  incoming : next.state.incomingOffer = none

theorem TurnsRoom.turned {event : Event} (turns : workflow.TurnsRoom event)
    (steps : workflow.step event = some next) :
    workflow.Turned next := by
  cases event with
  | host verificationCode =>
    cases steps
    have available : workflow.available = true := turns
    simp only [Workflow.host, available, not_true_eq_false, ↓reduceIte]
    exact ⟨hideOffer_slot _ _, hideOffer_slotId _ _, rfl⟩
  | join =>
    cases steps
    have available : workflow.available = true := turns
    simp only [Workflow.join, available, not_true_eq_false, ↓reduceIte]
    exact ⟨hideOffer_slot _ _, hideOffer_slotId _ _, rfl⟩
  | setLegacy =>
    cases steps
    exact ⟨hideOffer_slot _ _, hideOffer_slotId _ _, rfl⟩
  | handle event =>
    cases event with
    | connected creator lifetime =>
      cases steps
      have waited : ¬ (workflow.state.phase ≠ .hosting ∧ workflow.state.phase ≠ .joining ∧
          workflow.state.phase ≠ .connected) := by
        intro others
        obtain hosting | joining | connected := turns
        · exact others.1 hosting
        · exact others.2.1 joining
        · exact others.2.2 connected
      simp only [Workflow.handle, if_neg waited]
      exact ⟨hideOffer_slot _ _, hideOffer_slotId _ _, rfl⟩
    | hosting | joining | incomingOffer | offerAccepted | offerRejected | commandFailed
    | lifetimeChanged | closed |
      failed => exact turns.elim
  | returns index failure =>
    -- a lifecycle call that failed: the offer is hidden, the slot is left as it was
    obtain ⟨found, fails⟩ := turns
    cases failure with
    | none => exact absurd rfl fails
    | some message =>
      simp only [Workflow.step, found, Option.some.injEq] at steps
      subst steps
      exact ⟨hideOffer_slot _ _, hideOffer_slotId _ _, hideOffer_gone _ _⟩
  | clear | close | refreshInvite | offer | respondToOffer | setKeepOpen | updateActiveTransfers
  | stop | showError |
    idleTick | hostingExpires | incomingOfferExpires => exact turns.elim

/-! ### Nothing else moves the room on -/

theorem respondToOffer_phase (workflow : Workflow) (offerId : String) (accept : Bool) :
    (workflow.respondToOffer offerId accept).state.phase = workflow.state.phase := by
  unfold Workflow.respondToOffer
  cases shows : workflow.state.incomingOffer with
  | none => simp only [shows]
  | some offer =>
    simp only [shows]
    by_cases other : offer.id ≠ offerId
    · rw [if_pos other]
    · rw [if_neg other]
      cases accept <;> simp [launchGateway]

/-- The countdown asks for a close, and the answer of the gateway is what ends the room. -/
theorem close_idleExpired_phase (notLegacy : workflow.state.phase ≠ .legacy) :
    (workflow.close .idleExpired).state.phase = workflow.state.phase := by
  unfold Workflow.close
  rw [if_neg notLegacy, if_pos rfl]
  split_ifs <;> rfl

theorem handle_phase {event : RoomControlEvent} (stays : ¬ workflow.EndsRoom (.handle event))
    (same : ¬ workflow.TurnsRoom (.handle event)) :
    (workflow.handle event).state.phase = workflow.state.phase := by
  cases event with
  | connected creator lifetime =>
    have elsewhere := not_or.mp same
    have elsewhere' := not_or.mp elsewhere.2
    simp only [Workflow.handle, if_pos (And.intro elsewhere.1 elsewhere')]
  | closed reason =>
    have unbegun : workflow.state.phase = .none ∨ workflow.state.phase = .legacy := by
      by_contra begun
      exact stays (not_or.mp begun)
    simp only [Workflow.handle, if_pos unbegun]
  | failed message =>
    have unbegun : workflow.state.phase = .none ∨ workflow.state.phase = .legacy := by
      by_contra begun
      exact stays (not_or.mp begun)
    simp only [Workflow.handle, if_pos unbegun]
  | hosting | joining | incomingOffer | offerAccepted | offerRejected | commandFailed =>
    simp only [Workflow.handle]
    split_ifs <;> simp [Workflow.completeOutgoingOffer, Workflow.showError]
  | lifetimeChanged =>
    simp only [Workflow.handle, Workflow.applyLifetime]
    split_ifs <;> rfl

theorem resume_phase (workflow : Workflow) (failure : Option String) {task : Task}
    (calm : failure = none ∨ task ≠ .lifecycle) :
    (workflow.resume failure task).state.phase = workflow.state.phase := by
  cases task with
  | lifecycle =>
    obtain rfl | other := calm
    · rfl
    · exact absurd rfl other
  | command | idleClose => cases failure <;> rfl
  | offer number => cases failure <;> simp [Workflow.resume, Workflow.completeOutgoingOffer]
  | respond number place accept =>
    cases failure <;> cases accept <;> simp [Workflow.resume, Workflow.showError]

/-- An event that neither ends a room nor turns to another leaves the phase as it is. -/
theorem phase_step {event : Event} (steps : workflow.step event = some next)
    (stays : ¬ workflow.EndsRoom event) (same : ¬ workflow.TurnsRoom event) :
    next.state.phase = workflow.state.phase := by
  cases event with
  | host verificationCode =>
    cases steps
    have unavailable : ¬ workflow.available = true := same
    simp [Workflow.host, unavailable, Workflow.showError]
  | join =>
    cases steps
    have unavailable : ¬ workflow.available = true := same
    simp [Workflow.join, unavailable, Workflow.showError]
  | refreshInvite =>
    cases steps
    unfold Workflow.refreshInvite
    split_ifs <;> rfl
  | offer id =>
    cases steps
    simp only [Workflow.offer]
    split_ifs <;> rfl
  | respondToOffer offerId accept =>
    cases steps
    exact respondToOffer_phase workflow offerId accept
  | setKeepOpen =>
    cases steps
    unfold Workflow.setKeepOpen
    split_ifs <;> rfl
  | updateActiveTransfers count =>
    cases steps
    simp only [Workflow.updateActiveTransfers]
    split_ifs <;> rfl
  | close reason =>
    cases steps
    obtain ⟨notLegacy, idle⟩ := not_or.mp stays
    by_cases live : workflow.state.live = true
    -- The only close of a live room that leaves the phase is the one the countdown asks for.
    · have expired : reason = .idleExpired := by
        by_contra other
        exact idle ⟨live, other⟩
      subst expired
      exact close_idleExpired_phase notLegacy
    · unfold Workflow.close
      rw [if_neg notLegacy, if_pos live]
  | setLegacy => exact absurd trivial same
  | clear => exact absurd trivial stays
  | stop | showError =>
    cases steps
    rfl
  | handle event =>
    cases steps
    exact handle_phase stays same
  | returns index failure =>
    cases found : workflow.tasks[index]? with
    | none => simp [Workflow.step, found] at steps
    | some task =>
      simp only [Workflow.step, found, Option.some.injEq] at steps
      subst steps
      -- among the calls that return, only a failed lifecycle call turns the room
      refine resume_phase _ failure ?_
      by_contra lifecycle
      obtain ⟨fails, isLifecycle⟩ := not_or.mp lifecycle
      exact same ⟨found.trans (congrArg some (not_not.mp isLifecycle)), fails⟩
  | idleTick now =>
    cases ticks : workflow.idleTicker with
    | none => simp [Workflow.step, ticks] at steps
    | some countdown =>
      obtain ⟨revision, deadline⟩ := countdown
      simp only [Workflow.step, ticks] at steps
      split_ifs at steps with current early idle <;> cases steps
      · rfl
      · have notLegacy : workflow.state.phase ≠ .legacy := by
          intro legacy
          simp [RoomControlUiState.connected, legacy] at current
        exact close_idleExpired_phase notLegacy
      · rfl
      · rfl
  | hostingExpires =>
    cases expires : workflow.hostingExpiry with
    | none => simp [Workflow.step, expires] at steps
    | some invite =>
      have other : ¬ (workflow.state.phase = .hosting ∧ workflow.state.invite = some invite) := by
        rw [← expires]
        exact stays
      simp only [Workflow.step, expires, if_neg other, Option.some.injEq] at steps
      subst steps
      rfl
  | incomingOfferExpires =>
    cases expires : workflow.incomingOfferExpiry with
    | none => simp [Workflow.step, expires] at steps
    | some offerId =>
      simp only [Workflow.step, expires, Option.some.injEq] at steps
      subst steps
      split_ifs
      · exact respondToOffer_phase _ offerId false
      · rfl

end Workflow

open Workflow (Reaches)

/-- Every offer that was shown still is, was answered, made room for a newer one, went with its
room, or was wiped off the screen when the accepting of an older one returned; and whoever asked for
an answer is told once, when the gateway call returns or at once. -/
theorem incoming_offers_accounted {available : Bool} {workflow : Workflow}
    (run : Reaches (.start available) workflow) :
    (workflow.fates.map Prod.fst ++ (workflow.state.incomingOffer.map ShownOffer.place).toList).Perm
        (List.range workflow.shown.length) ∧
      (∀ place accepted, (place, Fate.wiped accepted) ∈ workflow.fates → accepted < place) ∧
      (∀ offer, workflow.state.incomingOffer = some offer →
        offer.place + 1 = workflow.shown.length ∧ workflow.shown[offer.place]? = some offer.id) ∧
      (workflow.answers.map Prod.fst ++ workflow.tasks.filterMap Task.answer).Perm
        (List.range workflow.responses) ∧
      (∀ number place accept, .respond number place accept ∈ workflow.tasks →
        place < workflow.shown.length) ∧
      ∀ event next, workflow.step event = some next →
        (workflow.EndsRoom event ∨ workflow.TurnsRoom event → next.state.incomingOffer = none) ∧
        (¬ workflow.EndsRoom event → ¬ workflow.TurnsRoom event →
          next.state.phase = workflow.state.phase) := by
  have sound := run.sound
  refine ⟨sound.fates, sound.wiped, sound.newest, sound.answers, sound.respondCalls,
    fun event next steps => ⟨fun either => ?_, Workflow.phase_step steps⟩⟩
  obtain ends | turns := either
  · exact (ends.silent steps).incoming
  · exact (turns.turned steps).incoming

/-- An offer is accepted, the peer makes another, and then the accepting returns. -/
def wipedRun : List Workflow.Event :=
  [.join, .handle (.connected false ⟨1, none⟩), .handle (.incomingOffer "first"),
    .respondToOffer "first" true, .handle (.incomingOffer "second"), .returns 1 none]

theorem incoming_offers_accounted_wiped :
    ∃ workflow, (Workflow.start true).run wipedRun = some workflow ∧
    workflow.fates = [(0, .replaced), (1, .wiped 0)] ∧
    (workflow.fates.map Prod.fst ++ (workflow.state.incomingOffer.map ShownOffer.place).toList).Perm
      (List.range workflow.shown.length) := by
  have run : ∃ workflow, (Workflow.start true).run wipedRun = some workflow ∧
      workflow.fates = [(0, .replaced), (1, .wiped 0)] := ⟨_, rfl, rfl⟩
  obtain ⟨workflow, ran, wiped⟩ := run
  exact ⟨workflow, ran, wiped, (incoming_offers_accounted (Workflow.reaches_run _ ran)).1⟩

end Envoix.Android.RoomWorkflow
