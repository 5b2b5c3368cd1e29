import Envoix.Remembered.Outbox

/-! # Runs of the outbox

Any calls in any order, with any arguments, any writes refused and the process restarted anywhere.
What one call can do to an entry is said once, by `Moves` and `Drops`; the invariants of a run and
the histories of single entries are read off from that. -/

namespace Envoix.Outbox

open Process Process.Method Durable

/-! ## Calls -/

/-- The calls of the store.  A restart is the death of the process and the reconciliation that the
next one begins with. -/
inductive Call (τ σ : Type) where
  | enqueue (prepared : Prepared σ)
  | reserveForSeal (prepared : Prepared σ)
  | confirmSealed (id : String)
  | claimNext (relationshipId : String)
  | markTransferring (id offerId : String) (transferId : τ)
  | requeue (id offerId : String) (message : Option String)
  | markNeedsAttention (id message : String) (expectedOfferId : Option String)
      (expectedTransferId : Option τ)
  | retry (id : String)
  | remove (id : String) (expectedOfferId : Option String) (expectedTransferId : Option τ)
  | removeAllInactive (relationshipId : String)
  | restart

structure Event (τ σ : Type) where
  call : Call τ σ
  tick : Tick

section Runs

variable {τ σ : Type} [DecidableEq τ] [platform : OutboxPlatform τ σ]

/-- The entries after a call. -/
def Event.apply (event : Event τ σ) (entries : List (OutboxEntry τ σ)) : List (OutboxEntry τ σ) :=
  match event.call with
  | .enqueue prepared => ((Outbox.enqueue event.tick prepared).runOn entries).2
  | .reserveForSeal prepared => ((Outbox.reserveForSeal event.tick prepared).runOn entries).2
  | .confirmSealed id => ((Outbox.confirmSealed event.tick id).runOn entries).2
  | .claimNext relationshipId => ((Outbox.claimNext event.tick relationshipId).runOn entries).2
  | .markTransferring id offerId transferId =>
    ((Outbox.markTransferring event.tick id offerId transferId).runOn entries).2
  | .requeue id offerId message => ((Outbox.requeue event.tick id offerId message).runOn entries).2
  | .markNeedsAttention id message expectedOfferId expectedTransferId =>
    ((Outbox.markNeedsAttention event.tick id message expectedOfferId expectedTransferId).runOn
      entries).2
  | .retry id => ((Outbox.retry event.tick id).runOn entries).2
  | .remove id expectedOfferId expectedTransferId =>
    ((Outbox.remove event.tick id expectedOfferId expectedTransferId).runOn entries).2
  | .removeAllInactive relationshipId =>
    ((Outbox.removeAllInactive event.tick relationshipId).runOn entries).2
  | .restart => ((reconcileInterruptedAttempts event.tick).runOn entries).2

/-- The entries after a sequence of calls on an empty outbox. -/
def entriesAfter (events : List (Event τ σ)) : List (OutboxEntry τ σ) :=
  events.foldl (fun entries event => event.apply entries) []

/-! ## What one call does to an entry -/

theorem ite_none_eq_some {α : Type} {condition : Prop} [Decidable condition] {value found : α} :
    (if condition then none else some value) = some found ↔ ¬ condition ∧ value = found := by
  by_cases holds : condition <;> simp [holds]

/-- The changes a call may make to an entry that it keeps. -/
inductive Moves (tick : Tick) : Call τ σ → OutboxEntry τ σ → OutboxEntry τ σ → Prop where
  | same {call : Call τ σ} {entry : OutboxEntry τ σ} : Moves tick call entry entry
  | rewritten {call : Call τ σ} {entry : OutboxEntry τ σ} : Moves tick call entry entry.stored
  | confirmed {entry : OutboxEntry τ σ} (now : entry.state = .preparing) :
      Moves tick (.confirmSealed entry.id) entry
        (OutboxEntry.stored { entry with state := .queued, updatedAt := tick.now })
  | claimed {entry : OutboxEntry τ σ} (now : entry.state = .queued) :
      Moves tick (.claimNext entry.relationshipId) entry (entry.claimed tick).stored
  | accepted {entry : OutboxEntry τ σ} {offerId : String} {transferId : τ}
      (now : entry.state = .offering) (current : entry.offerId = some offerId) :
      Moves tick (.markTransferring entry.id offerId transferId) entry
        (OutboxEntry.stored { entry with
          state := .transferring, transferId := some transferId, lastError := none,
          updatedAt := tick.now })
  | requeued {entry : OutboxEntry τ σ} {offerId : String} {message : Option String}
      (now : entry.state = .offering) (current : entry.offerId = some offerId) :
      Moves tick (.requeue entry.id offerId message) entry (OutboxEntry.stored { entry with
        state := .queued, offerId := none, transferId := none,
        lastError := message.map (platform.take maxErrorChars), updatedAt := tick.now })
  | failed {entry : OutboxEntry τ σ} {message : String} {offerId : Option String}
      {transferId : Option τ} (expected : entry.expects offerId transferId = true) :
      Moves tick (.markNeedsAttention entry.id message offerId transferId) entry
        (OutboxEntry.stored { entry with
          state := .needsAttention, lastError := some (platform.take maxErrorChars message),
          updatedAt := tick.now })
  | retried {entry : OutboxEntry τ σ} (now : entry.state = .needsAttention) :
      Moves tick (.retry entry.id) entry (OutboxEntry.stored { entry with
        state := .queued, offerId := none, transferId := none, lastError := none,
        updatedAt := tick.now })
  | reconciled {entry : OutboxEntry τ σ} : Moves tick .restart entry (entry.reconciled tick).stored

/-- The entries a call may take out. -/
inductive Drops : Call τ σ → OutboxEntry τ σ → Prop where
  | removed {entry : OutboxEntry τ σ} {offerId : Option String} {transferId : Option τ}
      (expected : entry.expects offerId transferId = true) :
      Drops (.remove entry.id offerId transferId) entry
  | inactive {entry : OutboxEntry τ σ} (now : isActive entry.state = false) :
      Drops (.removeAllInactive entry.relationshipId) entry

/-- The entry a call may add. -/
inductive Adds (tick : Tick) (entries : List (OutboxEntry τ σ)) :
    Call τ σ → List (OutboxEntry τ σ) → Prop where
  | nothing {call : Call τ σ} : Adds tick entries call []
  | entry {call : Call τ σ} {prepared : Prepared σ} {initialState : OutboxState}
      (initial : initialState = .queued ∨ initialState = .preparing)
      (new : ∀ entry ∈ entries, entry.jobId ≠ prepared.jobId)
        (room : entries.length < maxGlobalEntries)
      (place : entries.countP (fun entry => entry.relationshipId = prepared.relationshipId) <
        maxRelationshipEntries) :
      Adds tick entries call [(newEntry tick prepared initialState).stored]

/-- Everything a call does to the entries. -/
def Effect (event : Event τ σ) (entries after : List (OutboxEntry τ σ)) : Prop :=
  ∃ kept added, Shift (Moves event.tick event.call) (Drops event.call) entries kept ∧
    Adds event.tick entries event.call added ∧ after = kept ++ added

theorem Effect.unchanged (event : Event τ σ) (entries : List (OutboxEntry τ σ)) :
    Effect event entries entries :=
  ⟨entries, [], .unchanged fun _ _ => .same, .nothing, (List.append_nil _).symm⟩

/-- A write that is refused changes nothing. -/
theorem Effect.of_persist {event : Event τ σ} {entries written : List (OutboxEntry τ σ)} {α : Type}
    {result : α} (stored : Effect event entries (written.map OutboxEntry.stored)) :
    Effect event entries
      ((do persist event.tick written; return result : OutboxMethod τ σ α).runOn entries).2 := by
  unfold persist write
  cases event.tick.fate with
  | completes => exact stored
  | throws | dies => exact .unchanged event entries

theorem Effect.of_update {event : Event τ σ} {entries : List (OutboxEntry τ σ)} {id : String}
    {transform : OutboxEntry τ σ → Option (OutboxEntry τ σ)}
    (moved : ∀ entry replacement, entry.id = id → transform entry = some replacement →
      Moves event.tick event.call entry replacement.stored) :
    Effect event entries ((update event.tick id transform).runOn entries).2 := by
  unfold update
  rw [runOn_bind_of_ok _ (runOn_get entries)]
  cases present : entries.find? (named id) with
  | none => exact .unchanged event entries
  | some entry =>
    have owned : entry.id = id := by simpa [named] using List.find?_some present
    cases transformed : transform entry with
    | none =>
      simp only [transformed]
      exact .unchanged event entries
    | some replacement =>
      simp only [transformed]
      apply Effect.of_persist
      exact ⟨_, [], .replaceFirst present (moved entry replacement owned transformed) fun _ _ =>
        .rewritten, .nothing,
        (List.append_nil _).symm⟩

theorem Effect.of_create {event : Event τ σ} (entries : List (OutboxEntry τ σ))
    (prepared : Prepared σ) {initialState : OutboxState}
    (initial : initialState = .queued ∨ initialState = .preparing) :
    Effect event entries ((create event.tick prepared initialState).runOn entries).2 := by
  unfold create
  by_cases acceptable : Prepared.acceptable (τ := τ) prepared = true
  · simp only [acceptable, not_true_eq_false, if_false]
    rw [runOn_bind_of_ok _ (runOn_get entries)]
    cases known : entries.find? (fun entry => entry.jobId = prepared.jobId) with
    | some existing =>
      simp only
      split <;> exact .unchanged event entries
    | none =>
      simp only
      by_cases room : entries.length < maxGlobalEntries
      · simp only [room, not_true_eq_false, if_false]
        by_cases place :
          entries.countP (fun entry => entry.relationshipId = prepared.relationshipId) <
            maxRelationshipEntries
        · simp only [place, not_true_eq_false, if_false]
          apply Effect.of_persist
          refine ⟨entries.map OutboxEntry.stored, _, .map fun _ _ => .rewritten,
            .entry initial ?_ room place, by simp⟩
          simpa using List.find?_eq_none.mp known
        · simp only [place, not_false_eq_true, if_true]
          exact .unchanged event entries
      · simp only [room, not_false_eq_true, if_true]
        exact .unchanged event entries
  · simp only [acceptable]
    exact .unchanged event entries

/-- What a call leaves is explained by what it may do to each entry. -/
theorem Event.effect (event : Event τ σ) (entries : List (OutboxEntry τ σ)) :
    Effect event entries (event.apply entries) := by
  obtain ⟨call, tick⟩ := event
  cases call with
  | enqueue prepared => exact Effect.of_create entries prepared (.inl rfl)
  | reserveForSeal prepared => exact Effect.of_create entries prepared (.inr rfl)
  | confirmSealed id =>
    apply Effect.of_update
    rintro entry replacement rfl changed
    obtain ⟨now, rfl⟩ := ite_none_eq_some.mp changed
    exact .confirmed (not_not.mp now)
  | claimNext relationshipId =>
    simp only [Event.apply, Outbox.claimNext]
    rw [runOn_bind_of_ok _ (runOn_get entries)]
    cases present : entries.find? (claimable relationshipId) with
    | none => exact .unchanged _ entries
    | some entry =>
      have owned : entry.relationshipId = relationshipId ∧ entry.state = .queued := by
        simpa [claimable] using List.find?_some present
      obtain ⟨rfl, now⟩ := owned
      apply Effect.of_persist
      exact ⟨_, [], .replaceFirst present (.claimed now) fun _ _ => .rewritten, .nothing,
        (List.append_nil _).symm⟩
  | markTransferring id offerId transferId =>
    apply Effect.of_update
    rintro entry replacement rfl changed
    obtain ⟨allowed, rfl⟩ := ite_none_eq_some.mp changed
    rw [not_or, not_or, not_not, not_not] at allowed
    exact .accepted allowed.1 allowed.2.1
  | requeue id offerId message =>
    apply Effect.of_update
    rintro entry replacement rfl changed
    obtain ⟨allowed, rfl⟩ := ite_none_eq_some.mp changed
    rw [not_or, not_not, not_not] at allowed
    exact .requeued allowed.1 allowed.2
  | markNeedsAttention id message expectedOfferId expectedTransferId =>
    apply Effect.of_update
    rintro entry replacement rfl changed
    obtain ⟨expected, rfl⟩ := ite_none_eq_some.mp changed
    exact .failed (not_not.mp expected)
  | retry id =>
    apply Effect.of_update
    rintro entry replacement rfl changed
    obtain ⟨now, rfl⟩ := ite_none_eq_some.mp changed
    exact .retried (not_not.mp now)
  | remove id expectedOfferId expectedTransferId =>
    simp only [Event.apply, Outbox.remove]
    rw [runOn_bind_of_ok _ (runOn_get entries)]
    cases present : entries.find? (named id) with
    | none => exact .unchanged _ entries
    | some entry =>
      obtain rfl : entry.id = id := by simpa [named] using List.find?_some present
      by_cases expected : entry.expects expectedOfferId expectedTransferId = true
      · simp only [expected, not_true_eq_false, if_false]
        apply Effect.of_persist
        exact ⟨_, [], .eraseP present (.removed expected) fun _ _ => .rewritten, .nothing,
          (List.append_nil _).symm⟩
      · simp only [expected]
        exact .unchanged _ entries
  | removeAllInactive relationshipId =>
    simp only [Event.apply, Outbox.removeAllInactive]
    rw [runOn_bind_of_ok _ (runOn_get entries)]
    by_cases active :
        ((entries.filter fun entry => entry.relationshipId = relationshipId).any fun entry =>
        isActive entry.state) = true
    · simp only [active, if_true]
      exact .unchanged _ entries
    · by_cases empty :
        (entries.filter fun entry => entry.relationshipId = relationshipId).isEmpty = true
      · simp only [active, empty, if_true]
        exact .unchanged _ entries
      · simp only [active, empty]
        apply Effect.of_persist
        refine ⟨_, [], .filter ?_ fun _ _ => .rewritten, .nothing, (List.append_nil _).symm⟩
        intro entry listed owned
        obtain rfl : entry.relationshipId = relationshipId := by simpa using owned
        refine .inactive ?_
        simp only [List.any_filter, Bool.not_eq_true, List.any_eq_false] at active
        simpa using active entry listed
  | restart =>
    simp only [Event.apply, reconcileInterruptedAttempts]
    rw [runOn_bind_of_ok _ (runOn_get entries)]
    split
    · apply Effect.of_persist
      refine ⟨_, [], ?_, .nothing, (List.append_nil _).symm⟩
      rw [List.map_map]
      exact .map fun _ _ => .reconciled
    · exact .unchanged _ entries

/-! ## What every call keeps -/

section Moves

variable {tick : Tick} {call : Call τ σ} {entry after : OutboxEntry τ σ}

theorem Moves.id_eq (moves : Moves tick call entry after) : after.id = entry.id := by
  cases moves with
  | reconciled =>
    unfold OutboxEntry.reconciled
    split <;> rfl
  | _ => rfl

theorem Moves.relationshipId_eq (moves : Moves tick call entry after) :
    after.relationshipId = entry.relationshipId := by
  cases moves with
  | reconciled =>
    unfold OutboxEntry.reconciled
    split <;> rfl
  | _ => rfl

theorem Moves.jobId_eq (moves : Moves tick call entry after) : after.jobId = entry.jobId := by
  cases moves with
  | reconciled =>
    unfold OutboxEntry.reconciled
    split <;> rfl
  | _ => rfl

/-- A text that the file gives back as it was. -/
def Legible (text : String) : Prop :=
  platform.isBlank text = false ∧ platform.readsAbsent ≠ some text

omit [DecidableEq τ] in
theorem storedText_legible {text : String} (legible : platform.isBlank text = false) :
    storedText (τ := τ) (σ := σ) (some text) = some text := by
  simp [storedText, legible]

omit [DecidableEq τ] in
theorem storedText_readable {text : Option String} {read : String}
    (found : storedText (τ := τ) (σ := σ) text = some read) : platform.isBlank read = false := by
  cases text with
  | none => exact platform.absent_reads read found
  | some text =>
    by_cases blank : platform.isBlank text = true
    · simp [storedText, blank] at found
    · obtain rfl : text = read := by simpa [storedText, blank] using found
      simpa using blank

omit [DecidableEq τ] in
theorem reconciled_state (entry : OutboxEntry τ σ) (tick : Tick) :
    (entry.reconciled tick).state = entry.state ∧
      interruption (τ := τ) (σ := σ) entry.state = none ∨
      (entry.reconciled tick).state = .needsAttention := by
  unfold OutboxEntry.reconciled
  cases found : interruption (τ := τ) (σ := σ) entry.state with
  | none => exact .inl ⟨rfl, rfl⟩
  | some message => exact .inr rfl

omit [DecidableEq τ] in
theorem reconciled_offerId (entry : OutboxEntry τ σ) (tick : Tick) :
    (entry.reconciled tick).offerId = entry.offerId := by
  unfold OutboxEntry.reconciled
  split <;> rfl

omit [DecidableEq τ] in
theorem reconciled_transferId (entry : OutboxEntry τ σ) (tick : Tick) :
    (entry.reconciled tick).transferId = entry.transferId := by
  unfold OutboxEntry.reconciled
  split <;> rfl

/-- What is known of the attempt of an entry: an offer has its identifier, a transfer has both,
every offer identifier was issued by a call, and none is blank. -/
structure Tracked (issued : List String) (entry : OutboxEntry τ σ) : Prop where
  offered : entry.state = .offering ∨ entry.state = .transferring →
    ∃ offerId ∈ issued, entry.offerId = some offerId ∧ platform.isBlank offerId = false
  transferred : entry.state = .transferring → entry.transferId.isSome = true
  readable : ∀ offerId, entry.offerId = some offerId → platform.isBlank offerId = false
  known : ∀ offerId, entry.offerId = some offerId → platform.readsAbsent = some offerId ∨
    offerId ∈ issued

omit [DecidableEq τ] in
theorem Tracked.stored {issued : List String} (tracked : Tracked issued entry) :
    Tracked issued entry.stored where
  offered active := by
    obtain ⟨offerId, drawn, found, legible⟩ := tracked.offered active
    refine ⟨offerId, drawn, ?_, legible⟩
    show storedText (τ := τ) (σ := σ) entry.offerId = some offerId
    rw [found, storedText_legible legible]
  transferred := tracked.transferred
  readable offerId found := storedText_readable found
  known offerId found := by
    have read : storedText (τ := τ) (σ := σ) entry.offerId = some offerId := found
    cases held : entry.offerId with
    | none =>
      rw [held] at read
      exact .inl read
    | some text =>
      rw [held, storedText] at read
      split at read
      · cases read
      · cases read
        exact tracked.known _ held

omit [DecidableEq τ] in
theorem Tracked.mono {issued : List String} (tracked : Tracked issued entry) (more : List String) :
    Tracked (issued ++ more) entry where
  offered active := by
    obtain ⟨offerId, drawn, found⟩ := tracked.offered active
    exact ⟨offerId, List.mem_append_left more drawn, found⟩
  transferred := tracked.transferred
  readable := tracked.readable
  known offerId found := (tracked.known offerId found).imp_right (List.mem_append_left more)

/-- A call leaves an entry as it is or writes a tracked one in its place. -/
theorem Moves.written {issued : List String} (moves : Moves tick call entry after)
    (tracked : Tracked issued entry) (legible : platform.isBlank tick.uuid = false) :
    after = entry ∨ ∃ next, Tracked (issued ++ [tick.uuid]) next ∧ after = next.stored := by
  have grown := tracked.mono [tick.uuid]
  cases moves with
  | same => exact .inl rfl
  | rewritten => exact .inr ⟨entry, grown, rfl⟩
  | confirmed now =>
    refine .inr ⟨_, ?_, rfl⟩
    exact ⟨by simp, by simp, grown.readable, grown.known⟩
  -- a claim draws the identifier of its offer from this call's tick
  | claimed now =>
    refine .inr ⟨_, ?_, rfl⟩
    constructor
    · exact fun _ => ⟨tick.uuid, by simp, rfl, legible⟩
    · simp [OutboxEntry.claimed]
    · rintro offerId ⟨⟩
      exact legible
    · rintro offerId ⟨⟩
      exact .inr (by simp)
  | accepted now current =>
    refine .inr ⟨_, ?_, rfl⟩
    exact ⟨fun _ => grown.offered (.inl now), fun _ => rfl, grown.readable, grown.known⟩
  | requeued now current =>
    refine .inr ⟨_, ?_, rfl⟩
    exact ⟨by simp, by simp, by simp, by simp⟩
  | failed expected =>
    refine .inr ⟨_, ?_, rfl⟩
    exact ⟨by simp, by simp, grown.readable, grown.known⟩
  | retried now =>
    refine .inr ⟨_, ?_, rfl⟩
    exact ⟨by simp, by simp, by simp, by simp⟩
  | reconciled =>
    refine .inr ⟨_, ?_, rfl⟩
    have offerId := reconciled_offerId entry tick
    have transferId := reconciled_transferId entry tick
    constructor
    · intro active
      obtain ⟨state, -⟩ | attention := reconciled_state entry tick
      · rw [offerId]
        exact grown.offered (state ▸ active)
      · simp [attention] at active
    · intro transferring
      obtain ⟨state, -⟩ | attention := reconciled_state entry tick
      · rw [transferId]
        exact grown.transferred (state ▸ transferring)
      · simp [attention] at transferring
    · rw [offerId]
      exact grown.readable
    · rw [offerId]
      exact grown.known

theorem Moves.tracked {issued : List String} (moves : Moves tick call entry after)
    (tracked : Tracked issued entry) (legible : platform.isBlank tick.uuid = false) :
    Tracked (issued ++ [tick.uuid]) after := by
  obtain rfl | ⟨next, fresh, rfl⟩ := moves.written tracked legible
  · exact tracked.mono [tick.uuid]
  · exact fresh.stored

omit [DecidableEq τ] in
theorem newEntry_tracked (issued : List String) (tick : Tick) (prepared : Prepared σ)
    {initialState : OutboxState} (initial : initialState = .queued ∨ initialState = .preparing) :
    Tracked issued (newEntry (τ := τ) tick prepared initialState) where
  offered := by obtain rfl | rfl := initial <;> simp [newEntry]
  transferred := by obtain rfl | rfl := initial <;> simp [newEntry]
  readable := by simp [newEntry]
  known := by simp [newEntry]

/-- An entry whose offer identifier the next write does not change. -/
def Settled (entry : OutboxEntry τ σ) : Prop :=
  storedText (τ := τ) (σ := σ) entry.offerId = entry.offerId

omit [DecidableEq τ] in
theorem Tracked.stored_settled {issued : List String} (tracked : Tracked issued entry) :
    Settled entry.stored := by
  show storedText (τ := τ) (σ := σ) (storedText (τ := τ) (σ := σ) entry.offerId) =
    storedText (τ := τ) (σ := σ) entry.offerId
  cases held : entry.offerId with
  | none =>
    -- an absent text is read as absent or as a text that stays
    cases read : platform.readsAbsent with
    | none => simp [storedText, read]
    | some text => simp [storedText, read, platform.absent_reads text read]
  | some offerId =>
    rw [storedText_legible (tracked.readable offerId held),
      storedText_legible (tracked.readable offerId held)]

theorem Moves.settled {issued : List String} (moves : Moves tick call entry after)
    (tracked : Tracked issued entry) (settled : Settled entry)
    (legible : platform.isBlank tick.uuid = false) : Settled after := by
  obtain rfl | ⟨next, fresh, rfl⟩ := moves.written tracked legible
  · exact settled
  · exact fresh.stored_settled

end Moves

/-! ## Invariants of a run -/

/-- Random UUIDs: no two calls draw the same, and none is blank or reads like an absent text. -/
structure Fresh (events : List (Event τ σ)) : Prop where
  distinct : (events.map fun event => event.tick.uuid).Nodup
  legible : ∀ event ∈ events, Legible (τ := τ) (σ := σ) event.tick.uuid

def issued (events : List (Event τ σ)) : List String := events.map fun event => event.tick.uuid

structure Sound (events : List (Event τ σ)) (entries : List (OutboxEntry τ σ)) : Prop where
  jobs : (entries.map OutboxEntry.jobId).Nodup
  global : entries.length ≤ maxGlobalEntries
  rooms : ∀ relationshipId,
    entries.countP (fun entry => entry.relationshipId = relationshipId) ≤ maxRelationshipEntries
  tracked : ∀ entry ∈ entries, Tracked (issued events) entry
  settled : ∀ entry ∈ entries, Settled entry
  /-- Entries are in the order of the calls that created them. -/
  ordered : (entries.map OutboxEntry.id).Sublist (issued events)

variable {events : List (Event τ σ)} {entries : List (OutboxEntry τ σ)}

omit [DecidableEq τ] platform in
theorem countP_relationship (entries : List (OutboxEntry τ σ)) (relationshipId : String) :
    entries.countP (fun entry => entry.relationshipId = relationshipId) =
      (entries.map OutboxEntry.relationshipId).countP (· = relationshipId) := by
  rw [List.countP_map]
  rfl

theorem Sound.step (sound : Sound events entries) (event : Event τ σ)
    (fresh : Legible (τ := τ) (σ := σ) event.tick.uuid) :
    Sound (events ++ [event]) (event.apply entries) := by
  obtain ⟨kept, added, shift, adds, after⟩ := event.effect entries
  rw [after]
  have names : issued (events ++ [event]) = issued events ++ [event.tick.uuid] := by simp [issued]
  -- What is kept is a sublist of what was there, by each of the three names.
  have jobs := shift.sublist OutboxEntry.jobId fun _ _ moves => moves.jobId_eq
  have ids := shift.sublist OutboxEntry.id fun _ _ moves => moves.id_eq
  have owners := shift.sublist OutboxEntry.relationshipId fun _ _ moves => moves.relationshipId_eq
  have size : kept.length ≤ entries.length := by simpa using jobs.length_le
  have share (relationshipId : String) :
      kept.countP (fun entry => entry.relationshipId = relationshipId) ≤
      entries.countP (fun entry => entry.relationshipId = relationshipId) := by
    rw [countP_relationship, countP_relationship]
    exact owners.countP_le
  have moved : ∀ entry ∈ kept, Tracked (issued events ++ [event.tick.uuid]) entry := by
    intro entry listed
    obtain ⟨before, found, moves⟩ := shift.origin listed
    exact moves.tracked (sound.tracked before found) fresh.1
  have calm : ∀ entry ∈ kept, Settled entry := by
    intro entry listed
    obtain ⟨before, found, moves⟩ := shift.origin listed
    exact moves.settled (sound.tracked before found) (sound.settled before found) fresh.1
  cases adds with
  | nothing =>
    rw [List.append_nil]
    constructor
    · exact sound.jobs.sublist jobs
    · exact size.trans sound.global
    · exact fun relationshipId => (share relationshipId).trans (sound.rooms relationshipId)
    · rwa [names]
    · exact calm
    · rw [names]
      exact (ids.trans sound.ordered).trans (List.sublist_append_left _ _)
  | @entry prepared initialState initial new room place =>
    constructor
    · rw [List.map_append, List.nodup_append]
      refine ⟨sound.jobs.sublist jobs, by simp, ?_⟩
      intro job listed other added
      obtain ⟨entry, found, rfl⟩ := List.mem_map.mp (jobs.subset listed)
      obtain rfl : other = prepared.jobId := by simpa [OutboxEntry.stored, newEntry] using added
      exact new entry found
    · rw [List.length_append]
      exact Nat.succ_le_of_lt (size.trans_lt room)
    · intro relationshipId
      rw [List.countP_append]
      have before := share relationshipId
      have most := sound.rooms relationshipId
      by_cases mine : prepared.relationshipId = relationshipId
      · subst mine
        have one : [(newEntry (τ := τ) event.tick prepared initialState).stored].countP
          (fun entry => entry.relationshipId = prepared.relationshipId) ≤ 1 := List.countP_le_length
        omega
      · have none : [(newEntry (τ := τ) event.tick prepared initialState).stored].countP
            (fun entry => entry.relationshipId = relationshipId) = 0 := by
          simp [OutboxEntry.stored, newEntry, mine]
        omega
    · intro entry listed
      rw [names]
      obtain old | created := List.mem_append.mp listed
      · exact moved entry old
      · obtain rfl := List.mem_singleton.mp created
        exact (newEntry_tracked _ event.tick prepared initial).stored
    · intro entry listed
      obtain old | created := List.mem_append.mp listed
      · exact calm entry old
      · obtain rfl := List.mem_singleton.mp created
        exact (newEntry_tracked (τ := τ) [] event.tick prepared initial).stored_settled
    · rw [names, List.map_append]
      exact (ids.trans sound.ordered).append (List.Sublist.refl _)

omit [DecidableEq τ] in
theorem Fresh.take {event : Event τ σ} (fresh : Fresh (events ++ [event])) :
    Fresh events ∧ Legible (τ := τ) (σ := σ) event.tick.uuid ∧ event.tick.uuid ∉ issued events := by
  have distinct := fresh.distinct
  rw [List.map_append, List.nodup_append] at distinct
  refine ⟨⟨distinct.1, fun other listed => fresh.legible other (List.mem_append_left _ listed)⟩,
    fresh.legible event (by simp), ?_⟩
  intro again
  exact distinct.2.2 _ again _ (by simp) rfl

/-- Whether the attempt that a call carries is the one under way for an entry.  An offer is known by
its offer identifier and a transfer by its transfer identifier. -/
def Call.isCurrent (entry : OutboxEntry τ σ) : Call τ σ → Prop
  | .markTransferring id offerId _ | .requeue id offerId _ =>
    entry.id = id ∧ entry.state = .offering ∧ entry.offerId = some offerId
  | .markNeedsAttention id _ expectedOfferId expectedTransferId
  | .remove id expectedOfferId expectedTransferId =>
    entry.id = id ∧
      (entry.state = .offering ∧ expectedOfferId ≠ none ∧ entry.offerId = expectedOfferId ∨
        entry.state = .transferring ∧ expectedTransferId ≠ none ∧
          entry.transferId = expectedTransferId)
  | _ => False

/-- The same entry; a write may change how its error reads. -/
def OutboxEntry.Kept (entry after : OutboxEntry τ σ) : Prop :=
  after = entry ∨ after = { entry with lastError := storedText (τ := τ) (σ := σ) entry.lastError }

omit [DecidableEq τ] in
theorem Settled.kept {entry : OutboxEntry τ σ} (settled : Settled entry) :
    entry.Kept entry.stored := by
  refine .inr ?_
  show ({ entry with offerId := _, lastError := _ } : OutboxEntry τ σ) = _
  rw [settled]

/-- The entry that a call claims, as its caller receives it. -/
def Event.claims (event : Event τ σ) (entries : List (OutboxEntry τ σ)) :
    Option (OutboxEntry τ σ) :=
  match event.call with
  | .claimNext relationshipId =>
    match ((Outbox.claimNext event.tick relationshipId).runOn entries).1 with
    | .ok claimed => claimed
    | .error _ => none
  | _ => none

/-- An entry that cannot be claimed since its attempt was cut off.  Where `pending` holds, the
reconciliation could not be written and the attempt may still look alive. -/
def Interrupted (pending : Prop) (was entry : OutboxEntry τ σ) : Prop :=
  entry.state = .needsAttention ∨
    pending ∧ (entry.state = .transferring ∨
      entry.state = .offering ∧ was.state = .offering ∧ entry.offerId = was.offerId)

/-- The calls that let an interrupted entry be claimed again. -/
def Call.revives (pending : Prop) (was : OutboxEntry τ σ) (call : Call τ σ) : Prop :=
  call = .retry was.id ∨
    pending ∧ was.state = .offering ∧ ∃ offerId message, was.offerId = some offerId ∧
      call = .requeue was.id offerId message

omit [DecidableEq τ] platform in
theorem Interrupted.not_queued {pending : Prop} {was entry : OutboxEntry τ σ}
    (interrupted : Interrupted pending was entry) :
    entry.state ≠ .queued := by
  intro queued
  obtain attention | ⟨-, transferring | ⟨offering, -⟩⟩ := interrupted
  · simp [queued] at attention
  · simp [queued] at transferring
  · simp [queued] at offering

theorem Moves.interrupted {tick : Tick} {call : Call τ σ} {pending : Prop}
    {was entry after : OutboxEntry τ σ} (moves : Moves tick call entry after)
    (settled : Settled was) (same : entry.id = was.id) (lasting : ¬ call.revives pending was)
    (interrupted : Interrupted pending was entry) :
    Interrupted pending was after := by
  have rewritten : Interrupted pending was entry.stored := by
    refine interrupted.imp_right fun ⟨refused, attempt⟩ => ⟨refused, attempt.imp_right ?_⟩
    rintro ⟨offering, before, offerId⟩
    refine ⟨offering, before, ?_⟩
    show storedText (τ := τ) (σ := σ) entry.offerId = was.offerId
    rw [offerId]
    exact settled
  cases moves with
  | same => exact interrupted
  | rewritten => exact rewritten
  | confirmed now =>
    obtain attention | ⟨-, transferring | ⟨offering, -⟩⟩ := interrupted
    · simp [now] at attention
    · simp [now] at transferring
    · simp [now] at offering
  | claimed now => exact absurd now interrupted.not_queued
  | accepted now current =>
    obtain attention | ⟨refused, -⟩ := interrupted
    · simp [now] at attention
    · exact .inr ⟨refused, .inl rfl⟩
  | @requeued _ offerId message now current =>
    obtain attention | ⟨refused, transferring | ⟨-, before, held⟩⟩ := interrupted
    · simp [now] at attention
    · simp [now] at transferring
    -- such a requeue names the attempt that was interrupted, and revives it
    · exact absurd (.inr ⟨refused, before, offerId, message, held ▸ current, by rw [same]⟩) lasting
  | failed expected => exact .inl rfl
  | retried now => exact absurd (.inl (by rw [same])) lasting
  | reconciled =>
    obtain ⟨state, -⟩ | attention := reconciled_state entry tick
    · have offerId := reconciled_offerId entry tick
      obtain attention | ⟨refused, attempt⟩ := rewritten
      · exact .inl (state.trans attention)
      · refine .inr ⟨refused, attempt.imp state.trans ?_⟩
        rintro ⟨offering, before, held⟩
        refine ⟨state.trans offering, before, ?_⟩
        show storedText (τ := τ) (σ := σ) (entry.reconciled tick).offerId = was.offerId
        rw [offerId]
        exact held
    · exact .inl attention

/-- An entry with an identifier that was drawn before is none that the call creates. -/
theorem Event.origin {event : Event τ σ} (fresh : event.tick.uuid ∉ issued events)
    {after : OutboxEntry τ σ} (listed : after ∈ event.apply entries)
    (old : after.id ∈ issued events) :
    ∃ before ∈ entries, Moves event.tick event.call before after := by
  obtain ⟨kept, added, shift, adds, result⟩ := event.effect entries
  rw [result] at listed
  obtain remains | created := List.mem_append.mp listed
  · exact shift.origin remains
  · cases adds with
    | nothing => cases created
    | entry =>
      obtain rfl := List.mem_singleton.mp created
      exact absurd old fresh

omit [DecidableEq τ] in
theorem Fresh.initial {later : List (Event τ σ)} (fresh : Fresh (events ++ later)) :
    Fresh events where
  distinct := fresh.distinct.sublist ((List.sublist_append_left events later).map _)
  legible event listed := fresh.legible event (List.mem_append_left later listed)

/-- What holds of the entries at any time. -/
structure Accounted (events : List (Event τ σ)) : Prop where
  jobs : ((entriesAfter events).map OutboxEntry.jobId).Nodup
  global : (entriesAfter events).length ≤ maxGlobalEntries
  rooms : ∀ relationshipId,
    (entriesAfter events).countP (fun entry => entry.relationshipId = relationshipId) ≤
      maxRelationshipEntries
  offering : ∀ entry ∈ entriesAfter events, entry.state = .offering →
    ∃ offerId ∈ issued events, entry.offerId = some offerId
  transferring : ∀ entry ∈ entriesAfter events, entry.state = .transferring →
    (∃ offerId ∈ issued events, entry.offerId = some offerId) ∧
      ∃ transferId, entry.transferId = some transferId

end Runs

/-! ## Runs of a phone -/

section Phone

attribute [local instance] androidOutbox

instance (events : List (Event Int Unit)) : Decidable (Fresh events) :=
  decidable_of_iff ((events.map fun event => event.tick.uuid).Nodup ∧
      ∀ event ∈ events, androidOutbox.isBlank event.tick.uuid = false ∧
        androidOutbox.readsAbsent ≠ some event.tick.uuid)
    ⟨fun fresh => ⟨fresh.1, fresh.2⟩, fun fresh => ⟨fresh.distinct, fresh.legible⟩⟩

end Phone

end Envoix.Outbox
