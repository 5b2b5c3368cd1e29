import Envoix.Foundation.PoisonedLock
import Envoix.Rendezvous.Broker

/-! # The source tracker

`SourceTracker` of `envoix-rendezvous/src/broker.rs`: what the broker remembers of the endpoints and
addresses that join, and how many connections each endpoint holds.  The token bucket of a source
computes in floating point; what it answers is an input of the step.  A bucket that would have a
source wait for longer than a `Duration` holds panics under the tracker's lock and poisons it. -/

namespace Envoix.Rendezvous

open ByteCodec

/-! ## Sources -/

abbrev EndpointId := ByteVector 32

inductive IpAddr where
  | v4 (octets : ByteVector 4)
  | v6 (octets : ByteVector 16)
deriving DecidableEq

inductive IpPrefix where
  | v4 (octets : ByteVector 3)
  | v6 (octets : ByteVector 8)
deriving DecidableEq

def IpPrefix.of : IpAddr → IpPrefix
  | .v4 octets => .v4 ⟨octets.toList.take 3, by simp⟩
  | .v6 octets => .v6 ⟨octets.toList.take 8, by simp⟩

/-- The authenticated identity, and the address where the connection is direct. -/
structure PeerSource where
  endpointId : EndpointId
  directIp : Option IpAddr
deriving DecidableEq

inductive SourceKey where
  | endpoint (endpointId : EndpointId)
  | ip (ip : IpAddr)
  | ipPrefix (network : IpPrefix)
deriving DecidableEq

inductive SourceKind where
  | endpoint
  | ip
  | ipPrefix
deriving DecidableEq

structure SourceState where
  activeConnections : Nat
  lastSeen : Instant
deriving DecidableEq

abbrev SourceEntries := Table SourceKey SourceState

/-- The entries, and the endpoints of the guards that connections hold. -/
structure SourceTracker where
  entries : SourceEntries
  guards : List EndpointId

def SourceTracker.new : SourceTracker := ⟨.empty, []⟩

abbrev SourceKeys := List (SourceKey × SourceKind)

def ipKeys (ip : IpAddr) : SourceKeys := [(.ip ip, .ip), (.ipPrefix (.of ip), .ipPrefix)]

def PeerSource.keys (self : PeerSource) : SourceKeys :=
  (.endpoint self.endpointId, .endpoint) :: (self.directIp.map ipKeys).getD []

/-- The answers of the buckets to one request, a wait as it is before `Duration::from_secs_f64`
takes it. -/
abbrev Answers := SourceKind → Except Duration Unit

/-! ## Sections that hold the lock -/

def SourceState.kept (config : BrokerConfig) (now : Instant) (state : SourceState) : Bool :=
  state.activeConnections > 0 ∨ now - state.lastSeen < config.sourceStateTtl

def missing (entries : SourceEntries) (keys : SourceKeys) : Nat :=
  (keys.filter fun key => (entries.get? key.1).isNone).length

def ensureCapacity (config : BrokerConfig) (keys : SourceKeys) (now : Instant)
    (entries : SourceEntries) :
    Option BrokerRejection × SourceEntries :=
  let missing := missing entries keys
  if entries.size + missing ≤ config.maxSourceStates then (none, entries)
  else
    let entries := entries.retain fun _ state => state.kept config now
    if entries.size + missing > config.maxSourceStates then
      (some (config.rejection .serverBusy (some config.unavailableRetryAfter)), entries)
    else (none, entries)

/-- `entry(key).or_insert_with(..)`, seen now. -/
def touch (now : Instant) (key : SourceKey) (entries : SourceEntries) : SourceEntries :=
  match entries.get? key with
  | some _ => entries.update key fun state => { state with lastSeen := now }
  | none => entries.insert key { activeConnections := 0, lastSeen := now }

def limitedOutcome : SourceKind → BrokerOutcome
  | .endpoint => .endpointRateLimited
  | .ip | .ipPrefix => .ipRateLimited

/-- The loop over the keys of a request, up to the first that its bucket refuses. -/
def takeAll (config : BrokerConfig) (now : Instant) (answers : Answers) :
    SourceKeys → SourceEntries → Option BrokerRejection × SourceEntries
  | [], entries => (none, entries)
  | (key, kind) :: keys, entries =>
    let entries := touch now key entries
    match answers kind with
    | .ok _ => takeAll config now answers keys entries
    | .error retryAfter =>
      (some (config.rejection (limitedOutcome kind) (some retryAfter)), entries)

namespace SourceTracker

/-- The endpoint holds as many connections as it may. -/
def atLimit (config : BrokerConfig) (entries : SourceEntries) (endpointId : EndpointId) : Bool :=
  (entries.get? (.endpoint endpointId)).any fun state =>
    state.activeConnections ≥ config.maxConnectionsPerEndpoint

/-- `SourceTracker::admit`; the result is the endpoint of the guard. -/
def admitSource (config : BrokerConfig) (source : PeerSource) (now : Instant) (answers : Answers)
    (self : SourceTracker) :
    Except BrokerRejection EndpointId × SourceTracker :=
  match ensureCapacity config source.keys now self.entries with
  | (some rejection, entries) => (.error rejection, { self with entries })
  | (none, entries) =>
    if atLimit config entries source.endpointId then
      (.error (config.rejection .endpointRateLimited (some config.unavailableRetryAfter)),
        { self with entries })
    else
      match takeAll config now answers source.keys entries with
      | (some rejection, entries) => (.error rejection, { self with entries })
      | (none, entries) =>
        (.ok source.endpointId, {
          entries := entries.update (.endpoint source.endpointId) fun state =>
            { state with activeConnections := state.activeConnections + 1 }
          guards := source.endpointId :: self.guards })

def observeDirect (config : BrokerConfig) (ip : IpAddr) (now : Instant) (answers : Answers)
    (self : SourceTracker) :
    Option BrokerRejection × SourceTracker :=
  match ensureCapacity config (ipKeys ip) now self.entries with
  | (some rejection, entries) => (some rejection, { self with entries })
  | (none, entries) =>
    let (rejection, entries) := takeAll config now answers (ipKeys ip) entries
    (rejection, { self with entries })

/-- `SourceGuard::drop`, with the lock sound. -/
def dropGuard (endpointId : EndpointId) (self : SourceTracker) : SourceTracker where
  entries := self.entries.update (.endpoint endpointId) fun state =>
    { state with activeConnections := state.activeConnections - 1 }
  guards := self.guards.erase endpointId

end SourceTracker

/-! ## Interleavings -/

inductive SourceStep where
  | admitSource (source : PeerSource) (now : Instant) (answers : Answers)
  | observeDirect (ip : IpAddr) (now : Instant) (answers : Answers)
  | dropGuard (endpointId : EndpointId)

/-- Only a guard that some connection holds can be dropped. -/
def SourceStep.Enabled (tracker : SourceTracker) : SourceStep → Prop
  | .dropGuard endpointId => endpointId ∈ tracker.guards
  | _ => True

def SourceTracker.step (config : BrokerConfig) (self : SourceTracker) : SourceStep → SourceTracker
  | .admitSource source now answers => (self.admitSource config source now answers).2
  | .observeDirect ip now answers => (self.observeDirect config ip now answers).2
  | .dropGuard endpointId => self.dropGuard endpointId

/-- The wait that the first bucket to refuse computes. -/
def refusedWait (answers : Answers) : SourceKeys → Option Duration
  | [] => none
  | (_, kind) :: keys =>
    match answers kind with
    | .ok _ => refusedWait answers keys
    | .error retryAfter => some retryAfter

/-- The request comes to its buckets, and one of them computes a wait that no `Duration` holds. -/
def Overlong (config : BrokerConfig) (entries : SourceEntries) (keys : SourceKeys) (now : Instant)
    (answers : Answers) (blocked : SourceEntries → Bool) : Prop :=
  ∃ ready, ensureCapacity config keys now entries = (none, ready) ∧ blocked ready = false ∧
    ∃ retryAfter, refusedWait answers keys = some retryAfter ∧ Duration.limit ≤ retryAfter

def SourceStep.Overlong (config : BrokerConfig) (tracker : SourceTracker) : SourceStep → Prop
  | .admitSource source now answers =>
    Rendezvous.Overlong config tracker.entries source.keys now answers
      (SourceTracker.atLimit config · source.endpointId)
  | .observeDirect ip now answers =>
    Rendezvous.Overlong config tracker.entries (ipKeys ip) now answers fun _ => false
  | .dropGuard _ => False

namespace SourceTracker

/-- With the lock poisoned every section panics, but a connection that ends still gives up its
guard. -/
def refused (self : SourceTracker) : SourceStep → SourceTracker
  | .dropGuard endpointId => { self with guards := self.guards.erase endpointId }
  | _ => self

/-- A bucket panics where it would refuse: the entries up to its own are touched, and no guard is
given. -/
def sections (config : BrokerConfig) : Sections SourceTracker SourceStep where
  enabled tracker step := step.Enabled tracker
  ends tracker step after := ¬ step.Overlong config tracker ∧ after = tracker.step config step
  panics tracker step left := step.Overlong config tracker ∧ left = tracker.step config step
  refused := refused

/-- The trackers that steps with a property lead to, at any times, with the lock sound or
poisoned. -/
abbrev LockReached (config : BrokerConfig) (allowed : SourceTracker → SourceStep → Prop) :
    Bool → SourceTracker → Prop :=
  (sections config).Reached .new allowed

end SourceTracker

/-! ## When a sweep spares the request's keys -/

/-- The keys that a request comes to. -/
def asked (answers : Answers) : SourceKeys → SourceKeys
  | [] => []
  | (key, kind) :: keys =>
    match answers kind with
    | .ok _ => (key, kind) :: asked answers keys
    | .error _ => [(key, kind)]

def swept (config : BrokerConfig) (now : Instant) (entries : SourceEntries) : SourceEntries :=
  entries.retain fun _ state => state.kept config now

/-- A sweep that makes room for the request removes none of the entries that the request comes
to. -/
def SparesOwn (config : BrokerConfig) (entries : SourceEntries) (keys : SourceKeys) (now : Instant)
    (answers : Answers) (blocked : Bool) : Prop :=
  config.maxSourceStates < entries.size + missing entries keys →
    (swept config now entries).size + missing entries keys ≤ config.maxSourceStates →
      blocked = false → ∀ key ∈ asked answers keys, ∀ state, entries.get? key.1 = some state →
        state.kept config now

def SourceStep.SparesOwn (config : BrokerConfig) (tracker : SourceTracker) : SourceStep → Prop
  | .admitSource source now answers =>
    Rendezvous.SparesOwn config tracker.entries source.keys now answers
      (SourceTracker.atLimit config tracker.entries source.endpointId)
  | .observeDirect ip now answers =>
    Rendezvous.SparesOwn config tracker.entries (ipKeys ip) now answers false
  | .dropGuard _ => True

/-- Every bucket grants, and the sweep leaves room for no more than what was missing before it. -/
def Tight (config : BrokerConfig) (entries : SourceEntries) (keys : SourceKeys) (now : Instant)
    (answers : Answers) : Prop :=
  refusedWait answers keys = none ∧
    (swept config now entries).size + missing entries keys = config.maxSourceStates

def SourceStep.Tight (config : BrokerConfig) (tracker : SourceTracker) : SourceStep → Prop
  | .admitSource source now answers =>
    Rendezvous.Tight config tracker.entries source.keys now answers
  | .observeDirect ip now answers => Rendezvous.Tight config tracker.entries (ipKeys ip) now answers
  | .dropGuard _ => False

/-! ## Connections of an entry -/

/-- The connections counted for a key; an entry that is not there counts none. -/
def active (entries : SourceEntries) (key : SourceKey) : Nat :=
  ((entries.get? key).map SourceState.activeConnections).getD 0

variable {config : BrokerConfig} {now : Instant} {answers : Answers}

/-- A sweep takes only entries without connections. -/
@[simp] theorem active_swept (entries : SourceEntries) (key : SourceKey) :
    active (swept config now entries) key = active entries key := by
  unfold active swept
  rw [Table.get?_retain]
  cases found : entries.get? key with
  | none => rfl
  | some state =>
    rw [Option.filter_some]
    by_cases kept : state.kept config now = true
    · rw [if_pos kept]
    · rw [if_neg kept]
      have idle : ¬ 0 < state.activeConnections := fun busy => kept (decide_eq_true (.inl busy))
      simp only [Option.map_none, Option.getD_none, Option.map_some, Option.getD_some]
      omega

theorem get?_touch (key other : SourceKey) (entries : SourceEntries) :
    (touch now key entries).get? other = if other = key then some ⟨active entries key, now⟩
      else entries.get? other := by
  unfold touch active
  cases found : entries.get? key with
  | none =>
    rw [Table.get?_insert]
    rfl
  | some state =>
    rw [Table.get?_update]
    by_cases same : other = key
    · rw [if_pos same, if_pos same, same, found]
      rfl
    · rw [if_neg same, if_neg same]

@[simp] theorem active_touch (key other : SourceKey) (entries : SourceEntries) :
    active (touch now key entries) other = active entries other := by
  rw [active, get?_touch]
  by_cases same : other = key
  · rw [if_pos same, same]
    rfl
  · rw [if_neg same]
    rfl

theorem size_touch (key : SourceKey) (entries : SourceEntries) :
    (touch now key entries).size = entries.size + if (entries.get? key).isNone then 1 else 0 := by
  unfold touch
  cases found : entries.get? key with
  | none => rw [Table.size_insert_of_absent found]; rfl
  | some state => rw [Table.size_update]; rfl

/-! ## The loop over the keys -/

theorem get?_takeAll (config : BrokerConfig) (now : Instant) (answers : Answers) (keys : SourceKeys)
    (entries : SourceEntries) (other : SourceKey) :
    (takeAll config now answers keys entries).2.get? other =
      if other ∈ (asked answers keys).map Prod.fst then some ⟨active entries other, now⟩
      else entries.get? other := by
  induction keys generalizing entries with
  | nil => rfl
  | cons head keys ih =>
    obtain ⟨key, kind⟩ := head
    unfold takeAll asked
    cases answer : answers kind with
    | ok _ =>
      simp only [ih, active_touch, get?_touch, List.map_cons, List.mem_cons]
      by_cases same : other = key <;> by_cases later : other ∈ (asked answers keys).map Prod.fst <;>
        simp [same, later]
    | error retryAfter =>
      simp only [get?_touch, List.map_cons, List.map_nil, List.mem_singleton]
      by_cases same : other = key <;> simp [same]

theorem missing_touch {key : SourceKey} {keys : SourceKeys} (elsewhere : key ∉ keys.map Prod.fst)
    (entries : SourceEntries) :
    missing (touch now key entries) keys = missing entries keys := by
  refine congrArg List.length (List.filter_congr fun other listed => ?_)
  have different : other.1 ≠ key := fun same => elsewhere (same ▸ List.mem_map_of_mem listed)
  rw [get?_touch, if_neg different]

theorem asked_sublist (keys : SourceKeys) : (asked answers keys).Sublist keys := by
  induction keys with
  | nil => exact List.Sublist.refl _
  | cons head keys ih =>
    unfold asked
    cases answers head.2 with
    | ok _ => exact ih.cons_cons head
    | error retryAfter => exact (List.nil_sublist keys).cons_cons head

theorem size_takeAll {keys : SourceKeys} (distinct : (keys.map Prod.fst).Nodup)
    (entries : SourceEntries) :
    (takeAll config now answers keys entries).2.size =
      entries.size + missing entries (asked answers keys) := by
  induction keys generalizing entries with
  | nil => rfl
  | cons head keys ih =>
    obtain ⟨key, kind⟩ := head
    rw [List.map_cons, List.nodup_cons] at distinct
    have elsewhere : key ∉ (asked answers keys).map Prod.fst := fun member =>
      distinct.1 (((asked_sublist keys).map Prod.fst).mem member)
    unfold takeAll asked
    cases answer : answers kind with
    | ok _ =>
      simp only
      rw [ih distinct.2, size_touch, missing_touch elsewhere]
      simp only [missing, List.filter_cons]
      by_cases absent : (entries.get? key).isNone
      · simp [absent]
        omega
      · simp [absent]
    | error retryAfter =>
      simp only
      rw [size_touch]
      simp only [missing, List.filter_cons, List.filter_nil]
      by_cases absent : (entries.get? key).isNone <;> simp [absent]

theorem asked_of_accepted {keys : SourceKeys} {entries : SourceEntries}
    (accepted : (takeAll config now answers keys entries).1 = none) :
    asked answers keys = keys := by
  induction keys generalizing entries with
  | nil => rfl
  | cons head keys ih =>
    obtain ⟨key, kind⟩ := head
    unfold takeAll at accepted
    unfold asked
    cases answer : answers kind with
    | ok _ =>
      simp only [answer] at accepted ⊢
      rw [ih accepted]
    | error retryAfter =>
      simp only [answer] at accepted
      cases accepted

theorem asked_of_granted {keys : SourceKeys} (granted : refusedWait answers keys = none) :
    asked answers keys = keys := by
  induction keys with
  | nil => rfl
  | cons head keys ih =>
    obtain ⟨key, kind⟩ := head
    unfold refusedWait at granted
    unfold asked
    cases answer : answers kind with
    | ok _ =>
      simp only [answer] at granted ⊢
      rw [ih granted]
    | error retryAfter =>
      simp only [answer] at granted
      cases granted

@[simp] theorem active_takeAll (keys : SourceKeys) (entries : SourceEntries) (other : SourceKey) :
    active (takeAll config now answers keys entries).2 other = active entries other := by
  rw [active, get?_takeAll]
  by_cases touched : other ∈ (asked answers keys).map Prod.fst
  · rw [if_pos touched]
    rfl
  · rw [if_neg touched]
    rfl

/-! ## One request -/

/-- There is room, there is none after a sweep, or a sweep makes it. -/
theorem ensureCapacity_cases (config : BrokerConfig) (keys : SourceKeys) (now : Instant)
    (entries : SourceEntries) :
    (entries.size + missing entries keys ≤ config.maxSourceStates ∧
      ensureCapacity config keys now entries = (none, entries)) ∨
    (config.maxSourceStates < entries.size + missing entries keys ∧
      config.maxSourceStates < (swept config now entries).size + missing entries keys ∧
      ∃ rejection, ensureCapacity config keys now entries =
        (some rejection, swept config now entries)) ∨
    (config.maxSourceStates < entries.size + missing entries keys ∧
      (swept config now entries).size + missing entries keys ≤ config.maxSourceStates ∧
      ensureCapacity config keys now entries = (none, swept config now entries)) := by
  unfold ensureCapacity
  by_cases room : entries.size + missing entries keys ≤ config.maxSourceStates
  · exact .inl ⟨room, if_pos room⟩
  · have full : config.maxSourceStates < entries.size + missing entries keys :=
      Nat.lt_of_not_le room
    simp only [if_neg room]
    by_cases busy : (swept config now entries).size + missing entries keys > config.maxSourceStates
    · exact .inr (.inl ⟨full, busy, _, if_pos busy⟩)
    · exact .inr (.inr ⟨full, Nat.le_of_not_lt busy, if_neg busy⟩)

theorem size_swept_le (entries : SourceEntries) : (swept config now entries).size ≤ entries.size :=
  entries.size_retain_le _

theorem missing_asked_le (entries : SourceEntries) (keys : SourceKeys) :
    missing entries (asked answers keys) ≤ missing entries keys :=
  ((asked_sublist keys).filter _).length_le

/-- What a request leaves in the table, but for the connection that it may add. -/
def requested (config : BrokerConfig) (keys : SourceKeys) (now : Instant) (answers : Answers)
    (blocked : SourceEntries → Bool) (entries : SourceEntries) : SourceEntries :=
  match ensureCapacity config keys now entries with
  | (some _, entries) => entries
  | (none, entries) =>
    if blocked entries then entries else (takeAll config now answers keys entries).2

/-- A sweep takes an entry that is not to be kept. -/
theorem get?_swept (entries : SourceEntries) (key : SourceKey) :
    (swept config now entries).get? key = (entries.get? key).filter (·.kept config now) :=
  Table.get?_retain _ _ _

theorem isNone_swept {entries : SourceEntries} {key : SourceKey}
    (absent : (entries.get? key).isNone) :
    ((swept config now entries).get? key).isNone := by
  rw [get?_swept, Option.isNone_iff_eq_none.mp absent]
  rfl

theorem missing_swept_of_kept {entries : SourceEntries} {keys : SourceKeys}
    (kept : ∀ key ∈ keys, ∀ state, entries.get? key.1 = some state → state.kept config now) :
    missing (swept config now entries) keys = missing entries keys := by
  refine congrArg List.length (List.filter_congr fun key listed => ?_)
  rw [get?_swept]
  cases found : entries.get? key.1 with
  | none => rfl
  | some state => rw [Option.filter_some, if_pos (kept key listed state found)]

theorem missing_lt_swept {entries : SourceEntries} {keys : SourceKeys}
    {key : SourceKey × SourceKind} {state : SourceState} (listed : key ∈ keys)
    (found : entries.get? key.1 = some state) (stale : ¬ state.kept config now) :
    missing entries keys < missing (swept config now entries) keys := by
  have sublist : (keys.filter fun key => (entries.get? key.1).isNone).Sublist
      (keys.filter fun key => ((swept config now entries).get? key.1).isNone) :=
    List.monotone_filter_right keys fun _ absent => isNone_swept absent
  refine Nat.lt_of_le_of_ne sublist.length_le fun same => ?_
  -- the key is missing after the sweep only
  have after : key ∈ keys.filter fun key => ((swept config now entries).get? key.1).isNone := by
    rw [List.mem_filter, get?_swept, found, Option.filter_some, if_neg stale]
    exact ⟨listed, rfl⟩
  rw [← sublist.eq_of_length same, List.mem_filter, found] at after
  cases after.2

/-- What a request leaves that a sweep has made room for. -/
theorem size_requested_of_swept {keys : SourceKeys} (distinct : (keys.map Prod.fst).Nodup)
    {blocked : SourceEntries → Bool} {entries : SourceEntries}
    (same : blocked (swept config now entries) = blocked entries)
    (full : config.maxSourceStates < entries.size + missing entries keys)
    (made : (swept config now entries).size + missing entries keys ≤ config.maxSourceStates)
    (free : blocked entries = false) :
    (requested config keys now answers blocked entries).size =
      (swept config now entries).size + missing (swept config now entries)
      (asked answers keys) := by
  obtain ⟨room, _⟩ | ⟨_, busy, _⟩ | ⟨_, _, ensured⟩ := ensureCapacity_cases config keys now entries
  · exact absurd room (Nat.not_le_of_lt full)
  · exact absurd made (Nat.not_le_of_lt busy)
  · unfold requested
    rw [ensured]
    simp only [same, free, Bool.false_eq_true, if_false]
    exact size_takeAll distinct _

/-- The table stays within its bound where the sweep spares what the request comes to. -/
theorem size_requested_le {keys : SourceKeys} (distinct : (keys.map Prod.fst).Nodup)
    {blocked : SourceEntries → Bool} {entries : SourceEntries}
    (same : blocked (swept config now entries) = blocked entries)
    (bounded : entries.size ≤ config.maxSourceStates)
    (spares : SparesOwn config entries keys now answers (blocked entries)) :
    (requested config keys now answers blocked entries).size ≤ config.maxSourceStates := by
  have sweeping : (swept config now entries).size ≤ entries.size := size_swept_le entries
  have fewer : missing entries (asked answers keys) ≤ missing entries keys :=
    missing_asked_le entries keys
  obtain ⟨room, ensured⟩ | ⟨full, busy, rejection, ensured⟩ | ⟨full, made, ensured⟩ :=
    ensureCapacity_cases config keys now entries
  · unfold requested
    rw [ensured]
    cases held : blocked entries with
    | true => simpa [held] using bounded
    | false =>
      simp only [held, Bool.false_eq_true, if_false]
      rw [size_takeAll distinct]
      omega
  · unfold requested
    rw [ensured]
    exact sweeping.trans bounded
  · cases held : blocked entries with
    | true =>
      unfold requested
      rw [ensured]
      simp only [same, held, if_true]
      exact sweeping.trans bounded
    | false =>
      have kept := spares full made held
      rw [size_requested_of_swept distinct same full made held, missing_swept_of_kept kept]
      omega

/-- Where the sweep leaves no more room than was missing, an own key that it takes is one too
many. -/
theorem size_requested_gt {keys : SourceKeys} (distinct : (keys.map Prod.fst).Nodup)
    {blocked : SourceEntries → Bool} {entries : SourceEntries}
    (same : blocked (swept config now entries) = blocked entries)
    (tight : Tight config entries keys now answers)
    (takes : ¬ SparesOwn config entries keys now answers (blocked entries)) :
    config.maxSourceStates < (requested config keys now answers blocked entries).size := by
  simp only [SparesOwn, not_forall] at takes
  obtain ⟨full, made, free, key, listed, state, found, stale⟩ := takes
  rw [size_requested_of_swept distinct same full made free, ← tight.2]
  rw [asked_of_granted tight.1] at listed ⊢
  exact Nat.add_lt_add_left (missing_lt_swept listed found stale) _

@[simp] theorem active_requested (keys : SourceKeys) (blocked : SourceEntries → Bool)
    (entries : SourceEntries) (key : SourceKey) :
    active (requested config keys now answers blocked entries) key = active entries key := by
  unfold requested
  obtain ⟨_, ensured⟩ | ⟨_, _, rejection, ensured⟩ | ⟨_, _, ensured⟩ :=
    ensureCapacity_cases config keys now entries
  · rw [ensured]
    by_cases held : blocked entries = true <;> simp [held]
  · rw [ensured]
    exact active_swept entries key
  · rw [ensured]
    by_cases held : blocked (swept config now entries) = true <;> simp [held]

/-- An endpoint with connections has an entry. -/
theorem isSome_of_active {entries : SourceEntries} {key : SourceKey}
    (busy : 0 < active entries key) :
    (entries.get? key).isSome := by
  unfold active at busy
  cases found : entries.get? key with
  | none =>
    rw [found] at busy
    exact absurd busy (Nat.lt_irrefl 0)
  | some state => rfl

theorem nodup_ipKeys (ip : IpAddr) : ((ipKeys ip).map Prod.fst).Nodup := by simp [ipKeys]

theorem nodup_keys (source : PeerSource) : (source.keys.map Prod.fst).Nodup := by
  obtain ⟨endpointId, directIp⟩ := source
  cases directIp <;> simp [PeerSource.keys, ipKeys]

theorem atLimit_iff (positive : 0 < config.maxConnectionsPerEndpoint) (entries : SourceEntries)
    (endpointId : EndpointId) :
    SourceTracker.atLimit config entries endpointId = true ↔
      config.maxConnectionsPerEndpoint ≤ active entries (.endpoint endpointId) := by
  unfold SourceTracker.atLimit active
  cases entries.get? (.endpoint endpointId) with
  | none => simpa using Nat.ne_of_gt positive
  | some state => simp

/-! ## One step -/

/-- A request is refused, or takes a connection for an endpoint that is below its limit. -/
theorem admitSource_cases (config : BrokerConfig) (source : PeerSource) (now : Instant)
    (answers : Answers) (self : SourceTracker) :
    let entries :=
      requested config source.keys now answers (SourceTracker.atLimit config · source.endpointId)
        self.entries
    (self.admitSource config source now answers).2 = { self with entries } ∨
    (∃ before, active before (.endpoint source.endpointId) =
      active self.entries (.endpoint source.endpointId) ∧
      SourceTracker.atLimit config before source.endpointId = false) ∧
    (entries.get? (.endpoint source.endpointId)).isSome ∧
    (self.admitSource config source now answers).2 =
      ⟨entries.update (.endpoint source.endpointId) fun state =>
        { state with activeConnections := state.activeConnections + 1 },
          source.endpointId :: self.guards⟩ := by
  intro entries
  obtain ⟨rejection, before, ensured⟩ | ⟨before, ensured, kept⟩ :
      (∃ rejection before, ensureCapacity config source.keys now self.entries =
        (some rejection, before)) ∨
        ∃ before, ensureCapacity config source.keys now self.entries = (none, before) ∧
          active before (.endpoint source.endpointId) =
            active self.entries (.endpoint source.endpointId) := by
    obtain ⟨_, ensured⟩ | ⟨_, _, rejection, ensured⟩ | ⟨_, _, ensured⟩ :=
      ensureCapacity_cases config source.keys now self.entries
    · exact .inr ⟨_, ensured, rfl⟩
    · exact .inl ⟨rejection, _, ensured⟩
    · exact .inr ⟨_, ensured, active_swept _ _⟩
  · left
    simp only [entries, requested, SourceTracker.admitSource, ensured]
  by_cases limited : SourceTracker.atLimit config before source.endpointId = true
  · left
    simp only [entries, requested, SourceTracker.admitSource, ensured, if_pos limited]
  rcases taken : takeAll config now answers source.keys before with ⟨refusal, after⟩
  have result : entries = after := by
    simp only [entries, requested, ensured, if_neg limited, taken]
  cases refusal with
  | some rejection =>
    left
    rw [result]
    simp only [SourceTracker.admitSource, ensured, if_neg limited, taken]
  | none =>
    right
    refine ⟨⟨before, kept, Bool.eq_false_of_not_eq_true limited⟩, ?_, ?_⟩
    · have all : asked answers source.keys = source.keys :=
        asked_of_accepted (congrArg Prod.fst taken)
      have found := get?_takeAll config now answers source.keys before (.endpoint source.endpointId)
      rw [taken, all, if_pos (by simp [PeerSource.keys])] at found
      rw [result, found]
      rfl
    · rw [result]
      simp only [SourceTracker.admitSource, ensured, if_neg limited, taken]

theorem observeDirect_entries (ip : IpAddr) (self : SourceTracker) :
    (self.observeDirect config ip now answers).2 =
      { self with
        entries := requested config (ipKeys ip) now answers (fun _ => false) self.entries } := by
  unfold SourceTracker.observeDirect requested
  rcases ensureCapacity config (ipKeys ip) now self.entries with ⟨refusal, entries⟩
  cases refusal <;> rfl

theorem atLimit_swept (positive : 0 < config.maxConnectionsPerEndpoint) (now : Instant)
    (entries : SourceEntries) (endpointId : EndpointId) :
    SourceTracker.atLimit config (swept config now entries) endpointId =
      SourceTracker.atLimit config entries endpointId := by
  rw [Bool.eq_iff_iff, atLimit_iff positive, atLimit_iff positive, active_swept]

/-- The guard that an accepted request takes is counted in an entry that is there. -/
theorem size_admitSource (config : BrokerConfig) (source : PeerSource) (now : Instant)
    (answers : Answers) (self : SourceTracker) :
    (self.admitSource config source now answers).2.entries.size =
      (requested config source.keys now answers (SourceTracker.atLimit config · source.endpointId)
        self.entries).size := by
  obtain refused | ⟨_, _, accepted⟩ := admitSource_cases config source now answers self
  · rw [refused]
  · rw [accepted, Table.size_update]

theorem size_step_le (positive : 0 < config.maxConnectionsPerEndpoint) {tracker : SourceTracker}
    (bounded : tracker.entries.size ≤ config.maxSourceStates) {step : SourceStep}
    (spares : step.SparesOwn config tracker) :
    (tracker.step config step).entries.size ≤ config.maxSourceStates := by
  cases step with
  | admitSource source now answers =>
    rw [SourceTracker.step, size_admitSource]
    exact size_requested_le (nodup_keys source) (atLimit_swept positive _ _ _) bounded spares
  | observeDirect ip now answers =>
    rw [SourceTracker.step, observeDirect_entries]
    exact size_requested_le (nodup_ipKeys ip) rfl bounded spares
  | dropGuard endpointId =>
    rw [SourceTracker.step, SourceTracker.dropGuard, Table.size_update]
    exact bounded

theorem size_step_gt (positive : 0 < config.maxConnectionsPerEndpoint) {tracker : SourceTracker}
    {step : SourceStep} (tight : step.Tight config tracker)
    (takes : ¬ step.SparesOwn config tracker) :
    config.maxSourceStates < (tracker.step config step).entries.size := by
  cases step with
  | admitSource source now answers =>
    rw [SourceTracker.step, size_admitSource]
    exact size_requested_gt (nodup_keys source) (atLimit_swept positive _ _ _) tight takes
  | observeDirect ip now answers =>
    rw [SourceTracker.step, observeDirect_entries]
    exact size_requested_gt (nodup_ipKeys ip) rfl tight takes
  | dropGuard endpointId => exact absurd trivial takes

end Envoix.Rendezvous
