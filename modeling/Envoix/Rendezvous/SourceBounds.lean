import Envoix.Rendezvous.SourceTracker

/-! # The bound of the source tracker

The counters of the endpoints against the guards that connections hold, and the runs of the tracker
behind its lock. -/

namespace Envoix.Rendezvous

variable {config : BrokerConfig} {now : Instant} {answers : Answers}

/-! ## Guards and counters -/

structure Balanced (config : BrokerConfig) (tracker : SourceTracker) : Prop where
  accounted : ∀ endpointId, active tracker.entries (.endpoint endpointId) =
    tracker.guards.count endpointId
  capped : ∀ endpointId, active tracker.entries (.endpoint endpointId) ≤
    config.maxConnectionsPerEndpoint

theorem balanced_new : Balanced config .new := ⟨fun _ => rfl, fun _ => Nat.zero_le _⟩

theorem active_update (entries : SourceEntries) (key : SourceKey)
    (change : SourceState → SourceState) (count : Nat → Nat)
    (changes : ∀ state, (change state).activeConnections = count state.activeConnections)
      (present : (entries.get? key).isSome ∨ count 0 = 0) (other : SourceKey) :
    active (entries.update key change) other = if other = key then count (active entries key)
      else active entries other := by
  unfold active
  rw [Table.get?_update]
  by_cases same : other = key
  · rw [if_pos same, if_pos same, same]
    cases found : entries.get? key with
    | some state => exact changes state
    | none =>
      rw [found] at present
      exact (present.resolve_left Bool.false_ne_true).symm
  · rw [if_neg same, if_neg same]

theorem Balanced.requested {tracker : SourceTracker} (balanced : Balanced config tracker)
    (keys : SourceKeys) (blocked : SourceEntries → Bool) :
    Balanced config { tracker with
      entries := Rendezvous.requested config keys now answers blocked tracker.entries } where
  accounted := by
    intro endpointId
    rw [active_requested]
    exact balanced.accounted endpointId
  capped := by
    intro endpointId
    rw [active_requested]
    exact balanced.capped endpointId

theorem Balanced.step (positive : 0 < config.maxConnectionsPerEndpoint) {tracker : SourceTracker}
    (balanced : Balanced config tracker) {step : SourceStep} (enabled : step.Enabled tracker) :
    Balanced config (tracker.step config step) := by
  cases step with
  | admitSource source now answers =>
    obtain refused | ⟨⟨before, kept, below⟩, present, accepted⟩ :=
      admitSource_cases config source now answers tracker
    · rw [SourceTracker.step, refused]
      exact balanced.requested _ _
    · rw [SourceTracker.step, accepted]
      have room : active tracker.entries (.endpoint source.endpointId) <
          config.maxConnectionsPerEndpoint := by
        rw [← kept]
        refine Nat.lt_of_not_le fun limited => ?_
        rw [(atLimit_iff positive _ _).mpr limited] at below
        cases below
      have counts := active_update _ (.endpoint source.endpointId)
        (fun state => { state with activeConnections := state.activeConnections + 1 }) (· + 1)
          (fun _ => rfl) (.inl present)
      refine ⟨fun endpointId => ?_, fun endpointId => ?_⟩
      · simp only [counts, active_requested, SourceKey.endpoint.injEq, List.count_cons, beq_iff_eq,
          balanced.accounted]
        by_cases same : endpointId = source.endpointId
        · simp [same]
        · simp [same, Ne.symm same]
      · have capped := balanced.capped endpointId
        simp only [counts, active_requested, SourceKey.endpoint.injEq]
        split <;> omega
  | observeDirect ip now answers =>
    rw [SourceTracker.step, observeDirect_entries]
    exact balanced.requested _ _
  | dropGuard endpointId =>
    have counts := active_update tracker.entries (.endpoint endpointId)
      (fun state => { state with activeConnections := state.activeConnections - 1 }) (· - 1)
        (fun _ => rfl) (.inr rfl)
    refine ⟨fun other => ?_, fun other => ?_⟩
    · simp only [SourceTracker.step, SourceTracker.dropGuard, counts, SourceKey.endpoint.injEq,
        balanced.accounted]
      by_cases same : other = endpointId
      · rw [if_pos same, same, List.count_erase_self]
      · rw [if_neg same, List.count_erase_of_ne same]
    · have capped := balanced.capped other
      have dropped := balanced.capped endpointId
      simp only [SourceTracker.step, SourceTracker.dropGuard, counts, SourceKey.endpoint.injEq]
      split <;> omega

theorem isSome_update {entries : SourceEntries} {key other : SourceKey}
    (change : SourceState → SourceState) (present : (entries.get? other).isSome) :
    ((entries.update key change).get? other).isSome := by
  rw [Table.get?_update]
  split
  · rwa [Option.isSome_map]
  · exact present

/-- No step takes the entry of an endpoint that has connections. -/
theorem entry_kept {tracker : SourceTracker} {endpointId : EndpointId}
    (busy : 0 < active tracker.entries (.endpoint endpointId)) (step : SourceStep) :
    ((tracker.step config step).entries.get? (.endpoint endpointId)).isSome := by
  have kept (keys : SourceKeys) (now : Instant) (answers : Answers)
    (blocked : SourceEntries → Bool) :
      ((requested config keys now answers blocked tracker.entries).get?
        (.endpoint endpointId)).isSome :=
    isSome_of_active (by rw [active_requested]; exact busy)
  cases step with
  | admitSource source now answers =>
    obtain refused | ⟨_, _, accepted⟩ := admitSource_cases config source now answers tracker
    · rw [SourceTracker.step, refused]
      exact kept _ _ _ _
    · rw [SourceTracker.step, accepted]
      exact isSome_update _ (kept _ _ _ _)
  | observeDirect ip now answers =>
    rw [SourceTracker.step, observeDirect_entries]
    exact kept _ _ _ _
  | dropGuard other => exact isSome_update _ (isSome_of_active busy)

/-! ## Runs -/

/-- What a panic cannot undo: a counter may be too high, never too low. -/
structure Overbalanced (config : BrokerConfig) (tracker : SourceTracker) : Prop where
  held : ∀ endpointId, tracker.guards.count endpointId ≤
    active tracker.entries (.endpoint endpointId)
  capped : ∀ endpointId, active tracker.entries (.endpoint endpointId) ≤
    config.maxConnectionsPerEndpoint

theorem Balanced.overbalanced {tracker : SourceTracker} (balanced : Balanced config tracker) :
    Overbalanced config tracker :=
  ⟨fun endpointId => (balanced.accounted endpointId).ge, balanced.capped⟩

theorem Overbalanced.refused {tracker : SourceTracker} (exceeds : Overbalanced config tracker)
    (step : SourceStep) :
    Overbalanced config (tracker.refused step) := by
  cases step with
  | dropGuard endpointId =>
    exact ⟨fun other => (List.erase_sublist.count_le other).trans (exceeds.held other),
      exceeds.capped⟩
  | admitSource | observeDirect => exact exceeds

namespace SourceTracker.LockReached

variable {allowed : SourceTracker → SourceStep → Prop} {poisoned : Bool} {tracker : SourceTracker}

theorem balanced (positive : 0 < config.maxConnectionsPerEndpoint)
    (reached : LockReached config allowed false tracker) : Balanced config tracker := by
  apply reached.sound balanced_new
  intro before step after ok enabled _ done
  rw [done.2]
  exact ok.step positive enabled

theorem overbalanced (positive : 0 < config.maxConnectionsPerEndpoint)
    (reached : LockReached config allowed poisoned tracker) : Overbalanced config tracker := by
  cases poisoned with
  | false => exact (reached.balanced positive).overbalanced
  | true =>
    apply reached.broken balanced_new
    case ends =>
      intro before step after ok enabled _ done
      rw [done.2]
      exact ok.step positive enabled
    case panics =>
      intro before step left ok enabled _ panicked
      rw [panicked.2]
      exact (ok.step positive enabled).overbalanced
    case refused => exact fun exceeds _ => exceeds.refused _

theorem bounded (positive : 0 < config.maxConnectionsPerEndpoint)
    (reached : LockReached config (fun tracker step => step.SparesOwn config tracker)
      poisoned tracker) :
    tracker.entries.size ≤ config.maxSourceStates := by
  induction reached with
  | start => exact Nat.zero_le _
  | ends _ _ spares done ih =>
    rw [done.2]
    exact size_step_le positive ih spares
  | panics _ _ spares panicked ih =>
    rw [panicked.2]
    exact size_step_le positive ih spares
  | @refused state step _ _ _ ih =>
    cases step with
    | admitSource | observeDirect | dropGuard => exact ih

end SourceTracker.LockReached

open SourceTracker (LockReached)

theorem maxConnectionsPerEndpoint_pos (valid : config.validate = .ok ()) :
    0 < config.maxConnectionsPerEndpoint := by
  simp only [BrokerConfig.validate, Fallible.bind_eq_ok, Fallible.reject_eq_ok,
    Fallible.exists_unit, not_or] at valid
  exact Nat.pos_of_ne_zero valid.2.2.2.2.2.1.2.2.1

/-- Where no sweep takes an entry of the request it makes room for, the tracker stays within its
bound; where no bucket panics, the counters are those of the guards; and in no run is an entry taken
that a guard counts on.  Where there is no room to spare, a sweep that does take such an entry leads
past the bound, and after a panic the first guard dropped leaves its counter too high. -/
theorem source_tracker_bounds (valid : config.validate = .ok ()) :
    (∀ poisoned tracker,
      LockReached config (fun tracker step => step.SparesOwn config tracker) poisoned tracker →
      tracker.entries.size ≤ config.maxSourceStates) ∧
    (∀ poisoned tracker,
      LockReached config (fun tracker step => ¬ step.Overlong config tracker) poisoned tracker →
      poisoned = false ∧ ∀ endpointId state, tracker.entries.get? (.endpoint endpointId) =
        some state →
        state.activeConnections = tracker.guards.count endpointId ∧
          state.activeConnections ≤ config.maxConnectionsPerEndpoint) ∧
    (∀ poisoned tracker, LockReached config (fun _ _ => True) poisoned tracker →
      (∀ endpointId state, tracker.entries.get? (.endpoint endpointId) = some state →
        tracker.guards.count endpointId ≤ state.activeConnections ∧
          state.activeConnections ≤ config.maxConnectionsPerEndpoint) ∧
      ∀ endpointId ∈ tracker.guards, (tracker.entries.get? (.endpoint endpointId)).isSome ∧
        ∀ step, ((tracker.step config step).entries.get? (.endpoint endpointId)).isSome) ∧
    (∀ tracker step, SourceStep.Tight config tracker step → ¬ step.SparesOwn config tracker →
      config.maxSourceStates < (tracker.step config step).entries.size) ∧
    (∀ tracker, LockReached config (fun _ _ => True) true tracker → ∀ endpointId ∈ tracker.guards,
      ∃ state, (tracker.refused (.dropGuard endpointId)).entries.get? (.endpoint endpointId) =
        some state ∧
        (tracker.refused (.dropGuard endpointId)).guards.count endpointId <
          state.activeConnections) := by
  have positive := maxConnectionsPerEndpoint_pos valid
  have counted {tracker : SourceTracker} {endpointId : EndpointId} {state : SourceState}
      (found : tracker.entries.get? (.endpoint endpointId) = some state) :
      active tracker.entries (.endpoint endpointId) = state.activeConnections := by
    rw [active, found]
    rfl
  refine ⟨fun _ _ reached => reached.bounded positive, fun poisoned tracker reached => ?_,
    fun poisoned tracker reached => ⟨fun endpointId state found => ?_, fun endpointId held => ?_⟩,
    fun _ _ tight takes => size_step_gt positive tight takes,
      fun tracker reached endpointId held => ?_⟩
  · have sound : poisoned = false := reached.never_poisoned fun calm panicked => calm panicked.1
    subst sound
    have balanced := reached.balanced positive
    refine ⟨rfl, fun endpointId state found => ?_⟩
    rw [← counted found]
    exact ⟨balanced.accounted endpointId, balanced.capped endpointId⟩
  · have exceeds := reached.overbalanced positive
    rw [← counted found]
    exact ⟨exceeds.held endpointId, exceeds.capped endpointId⟩
  · have busy : 0 < active tracker.entries (.endpoint endpointId) :=
      Nat.lt_of_lt_of_le (List.count_pos_iff.mpr held)
        ((reached.overbalanced positive).held endpointId)
    exact ⟨isSome_of_active busy, entry_kept busy⟩
  · have enough := (reached.overbalanced positive).held endpointId
    have busy : 0 < tracker.guards.count endpointId := List.count_pos_iff.mpr held
    obtain ⟨state, found⟩ :=
      Option.isSome_iff_exists.mp (isSome_of_active (Nat.lt_of_lt_of_le busy enough))
    rw [counted found] at enough
    refine ⟨state, found, ?_⟩
    show (tracker.guards.erase endpointId).count endpointId < state.activeConnections
    rw [List.count_erase_self]
    exact Nat.lt_of_lt_of_le (Nat.sub_one_lt_of_lt busy) enough

/-! ## A sweep of the request's own keys -/

def smallTracker : BrokerConfig := { BrokerConfig.default with maxSourceStates := 3 }

def granted : Answers := fun _ => .ok ()

def homeAddress : IpAddr := .v4 ⟨[198, 51, 100, 1], rfl⟩

def firstPeer : PeerSource := ⟨⟨List.replicate 32 1, by decide⟩, none⟩

def secondPeer : PeerSource := ⟨⟨List.replicate 32 2, by decide⟩, some homeAddress⟩

/-- One endpoint is connected, an address was seen long ago, and another endpoint comes from
there. -/
def crowdedTracker : SourceTracker :=
  ((SourceTracker.new.step smallTracker (.admitSource firstPeer 0 granted)).step smallTracker
    (.observeDirect homeAddress 0 granted)).step smallTracker
      (.admitSource secondPeer (secs 600) granted)

theorem refusedWait_granted (keys : SourceKeys) : refusedWait granted keys = none := by
  induction keys with
  | nil => rfl
  | cons head keys ih => exact ih

theorem not_overlong_granted (entries : SourceEntries) (keys : SourceKeys) (now : Instant)
    (blocked : SourceEntries → Bool) : ¬ Overlong config entries keys now granted blocked := by
  intro ⟨_, _, _, retryAfter, refused, _⟩
  rw [refusedWait_granted] at refused
  cases refused

/-- A step without a panic runs to its end. -/
theorem SourceTracker.LockReached.next {allowed : SourceTracker → SourceStep → Prop}
    {tracker : SourceTracker} (before : LockReached config allowed false tracker)
    (step : SourceStep) (enabled : step.Enabled tracker) (allows : allowed tracker step)
    (calm : ¬ step.Overlong config tracker) :
    LockReached config allowed false (tracker.step config step) :=
  Sections.Reached.ends before enabled allows ⟨calm, rfl⟩

theorem source_tracker_overflows :
    smallTracker.validate = .ok () ∧
      LockReached smallTracker (fun _ _ => True) false crowdedTracker ∧
      smallTracker.maxSourceStates < crowdedTracker.entries.size := by
  have fresh : LockReached smallTracker (fun _ _ => True) false .new := .start
  have opened :=
    fresh.next (.admitSource firstPeer 0 granted) trivial trivial (not_overlong_granted _ _ _ _)
  have observed :=
    opened.next (.observeDirect homeAddress 0 granted) trivial trivial
      (not_overlong_granted _ _ _ _)
  have crowded := observed.next (.admitSource secondPeer (secs 600) granted) trivial trivial
    (not_overlong_granted _ _ _ _)
  exact ⟨rfl, crowded, by decide⟩

/-- The same first two steps, and the connection ends. -/
def quietTracker : SourceTracker :=
  ((SourceTracker.new.step smallTracker (.admitSource firstPeer 0 granted)).step smallTracker
    (.observeDirect homeAddress 0 granted)).step smallTracker (.dropGuard firstPeer.endpointId)

theorem source_tracker_bounds_small :
    quietTracker.entries.size ≤ 3 ∧
    ∀ state, quietTracker.entries.get? (.endpoint firstPeer.endpointId) = some state →
      state.activeConnections = 0 := by
  have bounds := @source_tracker_bounds smallTracker rfl
  constructor
  · have fresh :
      LockReached smallTracker (fun tracker step => step.SparesOwn smallTracker tracker)
        false .new := .start
    have opened :=
      fresh.next (.admitSource firstPeer 0 granted) trivial (fun full => absurd full (by decide))
      (not_overlong_granted _ _ _ _)
    have observed :=
      opened.next (.observeDirect homeAddress 0 granted) trivial
        (fun full => absurd full (by decide))
      (not_overlong_granted _ _ _ _)
    exact bounds.1 _ _
      (observed.next (.dropGuard firstPeer.endpointId) List.mem_cons_self trivial id)
  · have fresh :
      LockReached smallTracker (fun tracker step => ¬ step.Overlong smallTracker tracker)
        false .new := .start
    have opened :=
      fresh.next (.admitSource firstPeer 0 granted) trivial (not_overlong_granted _ _ _ _)
      (not_overlong_granted _ _ _ _)
    have observed :=
      opened.next (.observeDirect homeAddress 0 granted) trivial (not_overlong_granted _ _ _ _)
      (not_overlong_granted _ _ _ _)
    intro state found
    have dropped := observed.next (.dropGuard firstPeer.endpointId) List.mem_cons_self id id
    exact ((bounds.2.1 _ _ dropped).2 _ _ found).1

end Envoix.Rendezvous
