import Envoix.Foundation.Roster
import Envoix.Foundation.Table

/-! # The registry of sessions

`manifest_cancels` of `envoix-android-jni/src/manifest_v2.rs`: the tokens of the sessions that run,
by the ids that the app gave them.  Two entry points start sessions, one cancels them, and a session
takes its id out of the registry when it ends. -/

namespace Envoix.Android.SessionRegistry

/-! ## Sections that hold the lock -/

/-- A token is named by the start that made it. -/
abbrev Token := Nat

abbrev Cancels := Table Int64 Token

def registerManifestCancel (cancels : Cancels) (id : Int64) (token : Token) : Bool × Cancels :=
  match cancels.get? id with
  | none => (true, cancels.insert id token)
  | some _ => (false, cancels)

/-- `cancels.insert(id, token)` of a native start, which is refused where there was a token. -/
def insertNative (cancels : Cancels) (id : Int64) (token : Token) : Bool × Cancels :=
  ((cancels.get? id).isNone, cancels.insert id token)

/-! ## Interleavings -/

inductive Progress where
  | refused
  | running
  | ended
deriving DecidableEq

/-- A start, and whether its token is cancelled. -/
structure Session where
  id : Int64
  progress : Progress
  cancelled : Bool
deriving DecidableEq

/-- `claimed` are the tokens that calls of `cancelManifestV2Session` have found and not cancelled
yet. -/
structure World where
  cancels : Cancels
  sessions : List Session
  claimed : List Token

def World.init : World := ⟨.empty, [], []⟩

/-- `start` is `startManifestV2NativeSession` where `native`, else `startManifestV2Session`;
`wellFormed` parameters come to the registry.  `lookup` and `cancel` are the two steps of
`cancelManifestV2Session`. -/
inductive Action where
  | start (native : Bool) (id : Int64) (wellFormed : Bool)
  | lookup (id : Int64)
  | cancel (index : Nat)
  | finish (token : Token)

namespace World

def start (world : World) (native : Bool) (id : Int64) (wellFormed : Bool) : World :=
  if wellFormed then
    let token := world.sessions.length
    let (registered, cancels) :=
      if native then insertNative world.cancels id token
      else registerManifestCancel world.cancels id token
    { world with
      cancels
      sessions := world.sessions ++ [⟨id, if registered then .running else .refused, false⟩] }
  else { world with sessions := world.sessions ++ [⟨id, .refused, false⟩] }

def lookup (world : World) (id : Int64) : World :=
  { world with claimed := world.claimed ++ (world.cancels.get? id).toList }

def cancel (world : World) (index : Nat) : Option World := do
  let token ← world.claimed[index]?
  let session ← world.sessions[token]?
  return { world with
    sessions := world.sessions.set token { session with cancelled := true }
    claimed := world.claimed.eraseIdx index }

/-- The session ends and its id leaves the registry. -/
def finish (world : World) (token : Token) : Option World := do
  let session ← world.sessions[token]?
  if session.progress = .running then
    return { world with
      cancels := world.cancels.remove session.id
      sessions := world.sessions.set token { session with progress := .ended } }
  else none

def step (world : World) : Action → Option World
  | .start native id wellFormed => some (world.start native id wellFormed)
  | .lookup id => some (world.lookup id)
  | .cancel index => world.cancel index
  | .finish token => world.finish token

end World

/-- The worlds that steps with a property lead to. -/
inductive Reached (allowed : World → Action → Prop) : World → Prop where
  | init : Reached allowed .init
  | step {world next : World} {action : Action} (before : Reached allowed world)
      (allows : allowed world action) (steps : world.step action = some next) : Reached allowed next

/-! ## What the registry is for -/

namespace World

def Running (world : World) (token : Token) (session : Session) : Prop :=
  world.sessions[token]? = some session ∧ session.progress = .running

/-- At most one session of an id runs. -/
def Single (world : World) : Prop :=
  ∀ left right leftSession rightSession, world.Running left leftSession →
    world.Running right rightSession → leftSession.id = rightSession.id → left = right

/-- The id of a session that runs is mapped to its own token. -/
def Owned (world : World) : Prop :=
  ∀ token session, world.Running token session → world.cancels.get? session.id = some token

/-- To cancel the id of a session that runs cancels the session. -/
def Cancellable (world : World) : Prop :=
  ∀ token session, world.Running token session →
    ∃ next, (world.lookup session.id).cancel world.claimed.length = some next ∧
    next.sessions[token]? = some { session with cancelled := true }

/-- The start is refused. -/
def Refuses (world : World) (native : Bool) (id : Int64) (wellFormed : Bool) : Prop :=
  (world.start native id wellFormed).sessions.getLast? = some ⟨id, .refused, false⟩

/-- A start that is refused changes nothing in the registry. -/
def Refusal (world : World) (native : Bool) (id : Int64) (wellFormed : Bool) : Prop :=
  world.Refuses native id wellFormed → (world.start native id wellFormed).cancels = world.cancels

end World

/-- A native start is made under an id that is not registered. -/
def Action.Unregistered (world : World) : Action → Prop
  | .start native id wellFormed => native = true → wellFormed = true → world.cancels.get? id = none
  | _ => True

/-! ## Steps -/

/-- An id that runs is registered, by its own token where native starts are under new ids; tokens
are those of starts. -/
structure Sound (strict : Prop) (world : World) : Prop where
  single : world.Single
  registered : ∀ token session, world.Running token session → (world.cancels.get? session.id).isSome
  owned : strict → world.Owned
  made : ∀ id token, world.cancels.get? id = some token → token < world.sessions.length

section Steps

variable {strict : Prop} {world next : World} {token other : Nat} {session new : Session}
  {id : Int64}

/-- The sessions that run after a start. -/
theorem running_append {cancels : Cancels} :
    (World.mk cancels (world.sessions ++ [new]) world.claimed).Running other session ↔
      world.Running other session ∨ other = world.sessions.length ∧ session = new ∧
        new.progress = .running := by
  unfold World.Running
  rw [Roster.getElem?_append_one]
  constructor
  · rintro ⟨old | ⟨last, rfl⟩, running⟩
    · exact .inl ⟨old, running⟩
    · exact .inr ⟨last, rfl, running⟩
  · rintro (⟨old, running⟩ | ⟨last, rfl, running⟩)
    · exact ⟨.inl old, running⟩
    · exact ⟨.inr ⟨last, rfl⟩, running⟩

/-- The sessions that run after one of them is replaced. -/
theorem running_set {cancels : Cancels} {claimed : List Token} {old : Session}
    (found : world.sessions[token]? = some old) :
    (World.mk cancels (world.sessions.set token new) claimed).Running other session ↔
      if other = token then session = new ∧ new.progress = .running
      else world.Running other session := by
  unfold World.Running
  rw [Roster.getElem?_set_iff found]
  split
  case isTrue _ =>
    constructor
    · rintro ⟨rfl, running⟩
      exact ⟨rfl, running⟩
    · rintro ⟨rfl, running⟩
      exact ⟨rfl, running⟩
  case isFalse _ => exact Iff.rfl

/-- A start that comes to nothing. -/
theorem Sound.refused (sound : Sound strict world) {cancels : Cancels}
    (registered : ∀ other, (world.cancels.get? other).isSome → (cancels.get? other).isSome)
    (owned : strict → ∀ other, cancels.get? other = world.cancels.get? other)
    (made : ∀ other token, cancels.get? other = some token → token < world.sessions.length + 1) :
    Sound strict ⟨cancels, world.sessions ++ [⟨id, .refused, false⟩], world.claimed⟩ := by
  have running : ∀ {other session},
      (World.mk cancels (world.sessions ++ [⟨id, .refused, false⟩]) world.claimed).Running
        other session →
        world.Running other session :=
    fun runs => (running_append.mp runs).resolve_right fun last => nomatch last.2.2
  refine ⟨fun left right leftSession rightSession leftRuns rightRuns same => ?_,
    fun other session runs => ?_, fun holds other session runs => ?_, fun other token found => ?_⟩
  · exact sound.single left right leftSession rightSession (running leftRuns)
      (running rightRuns) same
  · exact registered _ (sound.registered other session (running runs))
  · exact (owned holds _).trans (sound.owned holds other session (running runs))
  · rw [List.length_append]
    exact made other token found

/-- A start under an id that is not registered. -/
theorem Sound.started (sound : Sound strict world) (absent : world.cancels.get? id = none) :
    Sound strict ⟨world.cancels.insert id world.sessions.length,
      world.sessions ++ [⟨id, .running, false⟩], world.claimed⟩ := by
  have apart : ∀ {other session}, world.Running other session → session.id ≠ id := by
    intro other session runs same
    have registered := sound.registered other session runs
    rw [same, absent] at registered
    cases registered
  refine ⟨fun left right leftSession rightSession leftRuns rightRuns same => ?_,
    fun other session runs => ?_, fun holds other session runs => ?_, fun other token found => ?_⟩
  · obtain leftRuns | ⟨rfl, rfl, -⟩ := running_append.mp leftRuns
    · obtain rightRuns | ⟨rfl, rfl, -⟩ := running_append.mp rightRuns
      · exact sound.single left right leftSession rightSession leftRuns rightRuns same
      · exact absurd same (apart leftRuns)
    · obtain rightRuns | ⟨rfl, rfl, -⟩ := running_append.mp rightRuns
      · exact absurd same.symm (apart rightRuns)
      · rfl
  · show ((world.cancels.insert id world.sessions.length).get? session.id).isSome
    rw [Table.get?_insert]
    obtain runs | ⟨rfl, rfl, -⟩ := running_append.mp runs
    · rw [if_neg (apart runs)]
      exact sound.registered other session runs
    · rw [if_pos rfl]
      rfl
  · show (world.cancels.insert id world.sessions.length).get? session.id = some other
    rw [Table.get?_insert]
    obtain runs | ⟨rfl, rfl, -⟩ := running_append.mp runs
    · rw [if_neg (apart runs)]
      exact sound.owned holds other session runs
    · rw [if_pos rfl]
  · change (world.cancels.insert id world.sessions.length).get? other = some token at found
    rw [Table.get?_insert] at found
    rw [List.length_append]
    split at found
    case isTrue _ => exact Option.some.inj found ▸ Nat.lt_succ_self _
    case isFalse _ => exact (sound.made other token found).trans (Nat.lt_succ_self _)

theorem Sound.start (sound : Sound strict world) {native wellFormed : Bool}
    (unregistered : strict → (Action.start native id wellFormed).Unregistered world) :
    Sound strict (world.start native id wellFormed) := by
  have later : ∀ other token, world.cancels.get? other = some token →
    token < world.sessions.length + 1 :=
    fun other token found => Nat.lt_succ_of_lt (sound.made other token found)
  unfold World.start
  cases wellFormed with
  | false => exact sound.refused (fun _ registered => registered) (fun _ _ => rfl) later
  | true =>
    cases native with
    | false =>
      cases entry : world.cancels.get? id with
      | none =>
        simp only [registerManifestCancel, entry, if_true, Bool.false_eq_true, if_false]
        exact sound.started entry
      | some token =>
        simp only [registerManifestCancel, entry, if_true, Bool.false_eq_true, if_false]
        exact sound.refused (fun _ registered => registered) (fun _ _ => rfl) later
    | true =>
      cases entry : world.cancels.get? id with
      | none =>
        simp only [insertNative, entry, if_true, Option.isNone_none]
        exact sound.started entry
      | some token =>
        -- the token of the refused start takes the place of the one that was there
        simp only [insertNative, entry, if_true, Option.isNone_some, Bool.false_eq_true, if_false]
        refine sound.refused (fun other registered => ?_)
          (fun holds => ?_) fun other token found => ?_
        · rw [Table.get?_insert]
          split
          case isTrue _ => rfl
          case isFalse _ => exact registered
        · cases entry.symm.trans (unregistered holds rfl rfl)
        · rw [Table.get?_insert] at found
          split at found
          case isTrue _ => exact Option.some.inj found ▸ Nat.lt_succ_self _
          case isFalse _ => exact later other token found

/-- A step that keeps who runs keeps all. -/
theorem Sound.same (sound : Sound strict world) (cancels : next.cancels = world.cancels)
    (length : next.sessions.length = world.sessions.length)
    (running : ∀ other session, next.Running other session → ∃ old, world.Running other old ∧
      old.id = session.id) :
    Sound strict next := by
  refine ⟨fun left right leftSession rightSession leftRuns rightRuns same => ?_,
    fun other session runs => ?_, fun holds other session runs => ?_, fun other token found => ?_⟩
  · obtain ⟨leftOld, leftRan, leftSame⟩ := running left leftSession leftRuns
    obtain ⟨rightOld, rightRan, rightSame⟩ := running right rightSession rightRuns
    exact sound.single left right leftOld rightOld leftRan rightRan
      (leftSame.trans (same.trans rightSame.symm))
  · obtain ⟨old, ran, same⟩ := running other session runs
    rw [cancels, ← same]
    exact sound.registered other old ran
  · obtain ⟨old, ran, same⟩ := running other session runs
    rw [cancels, ← same]
    exact sound.owned holds other old ran
  · rw [length]
    exact sound.made other token (cancels ▸ found)

theorem Sound.finish (sound : Sound strict world) (found : world.sessions[token]? = some session)
    (running : session.progress = .running) :
    Sound strict { world with
      cancels := world.cancels.remove session.id
      sessions := world.sessions.set token { session with progress := .ended } } := by
  have others : ∀ {other otherSession}, (World.mk (world.cancels.remove session.id)
      (world.sessions.set token { session with progress := .ended }) world.claimed).Running other
        otherSession →
      world.Running other otherSession ∧ otherSession.id ≠ session.id := by
    intro other otherSession runs
    rw [running_set found] at runs
    split at runs
    case isTrue _ => cases runs.2
    case isFalse elsewhere =>
      exact ⟨runs, fun same =>
        elsewhere (sound.single other token otherSession session runs ⟨found, running⟩ same)⟩
  refine ⟨fun left right leftSession rightSession leftRuns rightRuns same => ?_,
    fun other otherSession runs => ?_, fun holds other otherSession runs => ?_,
      fun other token found => ?_⟩
  · exact sound.single left right leftSession rightSession (others leftRuns).1
      (others rightRuns).1 same
  · obtain ⟨runs, apart⟩ := others runs
    show ((world.cancels.remove session.id).get? otherSession.id).isSome
    rw [Table.get?_remove, if_neg apart]
    exact sound.registered other otherSession runs
  · obtain ⟨runs, apart⟩ := others runs
    show (world.cancels.remove session.id).get? otherSession.id = some other
    rw [Table.get?_remove, if_neg apart]
    exact sound.owned holds other otherSession runs
  · change (world.cancels.remove session.id).get? other = some token at found
    rw [Table.get?_remove] at found
    rw [List.length_set]
    split at found
    case isTrue _ => cases found
    case isFalse _ => exact sound.made other token found

theorem Sound.step {action : Action} (sound : Sound strict world)
    (unregistered : strict → action.Unregistered world) (steps : world.step action = some next) :
    Sound strict next := by
  cases action with
  | start native id wellFormed => exact Option.some.inj steps ▸ sound.start unregistered
  | lookup id =>
    exact Option.some.inj steps ▸ sound.same rfl rfl fun other session runs => ⟨session, runs, rfl⟩
  | cancel index =>
    obtain ⟨token, -, steps⟩ := Option.bind_eq_some_iff.mp steps
    obtain ⟨session, found, steps⟩ := Option.bind_eq_some_iff.mp steps
    obtain rfl := Option.some.inj steps
    refine sound.same rfl List.length_set fun other otherSession runs => ?_
    rw [running_set found] at runs
    split at runs
    case isTrue here => exact ⟨session, ⟨here ▸ found, runs.2⟩, (congrArg Session.id runs.1).symm⟩
    case isFalse _ => exact ⟨otherSession, runs, rfl⟩
  | finish token =>
    obtain ⟨session, found, steps⟩ := Option.bind_eq_some_iff.mp steps
    by_cases running : session.progress = .running
    · obtain rfl := Option.some.inj ((if_pos running).symm.trans steps)
      exact sound.finish found running
    · cases (if_neg running).symm.trans steps

theorem Reached.sound {allowed : World → Action → Prop} (reached : Reached allowed world)
    (unregistered : ∀ world action, strict → allowed world action → action.Unregistered world) :
      Sound strict world := by
  induction reached with
  | init =>
    exact ⟨fun _ _ _ _ runs => (nomatch runs.1), fun _ _ runs => (nomatch runs.1),
      fun _ _ _ runs => (nomatch runs.1), nofun⟩
  | step before allows steps ih => exact ih.step (fun holds => unregistered _ _ holds allows) steps

theorem World.Owned.cancellable (owned : world.Owned) : world.Cancellable := by
  intro token session runs
  have found : (world.lookup session.id).claimed[world.claimed.length]? = some token := by
    rw [World.lookup, owned token session runs]
    exact List.getElem?_concat_length
  have cancel : (world.lookup session.id).cancel world.claimed.length =
      some { world.lookup session.id with
        sessions := world.sessions.set token { session with cancelled := true }
        claimed := (world.lookup session.id).claimed.eraseIdx world.claimed.length } := by
    rw [World.cancel, found, Option.bind_eq_bind, Option.bind_some]
    show Option.bind world.sessions[token]? _ = _
    rw [runs.1]
    rfl
  refine ⟨_, cancel, ?_⟩
  exact (Roster.getElem?_set_iff runs.1).mpr (by rw [if_pos rfl])

/-- A start that is refused changes the registry just where it is native, under an id that is
there. -/
theorem Sound.refusal (sound : Sound strict world) (native wellFormed : Bool) :
    world.Refusal native id wellFormed ↔
      (Action.start native id wellFormed).Unregistered world := by
  have last : ∀ {session : Session},
      (world.sessions ++ [session]).getLast? = some ⟨id, .refused, false⟩ →
      session.progress = .refused := by
    intro session same
    rw [List.getLast?_concat] at same
    rw [Option.some.inj same]
  unfold World.Refusal World.Refuses World.start
  constructor
  · rintro keeps rfl rfl
    cases entry : world.cancels.get? id with
    | none => rfl
    | some token =>
      simp only [insertNative, entry, if_true, Option.isNone_some, Bool.false_eq_true,
        if_false] at keeps
      have same := congrArg (Table.get? · id) (keeps List.getLast?_concat)
      simp only [Table.get?_insert, if_true, entry, Option.some.injEq] at same
      exact absurd (sound.made id token entry) (same ▸ Nat.lt_irrefl _)
  · intro unregistered
    cases wellFormed with
    | false => exact fun _ => rfl
    | true =>
      cases native with
      | false =>
        cases entry : world.cancels.get? id with
        | none =>
          simp only [registerManifestCancel, entry, if_true, Bool.false_eq_true, if_false]
          exact fun refused => absurd (last refused) (by simp)
        | some token =>
          simp only [registerManifestCancel, entry, if_true, Bool.false_eq_true, if_false]
          exact fun _ => trivial
      | true =>
        have absent := unregistered rfl rfl
        simp only [insertNative, absent, if_true, Option.isNone_none]
        exact fun refused => absurd (last refused) (by simp)

end Steps

/-! ## The registry -/

/-- In every run at most one session of an id runs, and a refused start changes nothing just where
it is no native start under an id that is registered; in a run without such starts the registry has
the token of every session that runs, so that its id cancels it. -/
theorem session_registry (world : World) :
    (Reached (fun _ _ => True) world → world.Single ∧ ∀ native id wellFormed,
      world.Refusal native id wellFormed ↔ (Action.start native id wellFormed).Unregistered world) ∧
    (Reached (fun world action => action.Unregistered world) world →
      world.Single ∧ world.Owned ∧ world.Cancellable) := by
  constructor
  · intro reached
    have sound : Sound False world := reached.sound fun _ _ impossible => impossible.elim
    exact ⟨sound.single, fun native id wellFormed => sound.refusal native wellFormed⟩
  · intro reached
    have sound : Sound True world := reached.sound fun _ _ _ unregistered => unregistered
    have owned := sound.owned trivial
    exact ⟨sound.single, owned, owned.cancellable⟩

/-- A native start under the id of a session that runs is refused and takes the place of its
token. -/
theorem session_registry_replaced :
    ¬ ∀ world, Reached (fun _ _ => True) world →
      world.Owned ∧ ∀ native id wellFormed, world.Refusal native id wellFormed := by
  intro holds
  have start : Reached (fun _ _ => True) .init := .init
  have first := @Reached.step _ _ _ (.start false 7 true) start trivial rfl
  have second := @Reached.step _ _ _ (.start true 7 true) first trivial rfl
  cases (holds _ second).1 0 ⟨7, .running, false⟩ ⟨rfl, rfl⟩

/-- Two sessions under two ids, by either entry point: another start under the first is refused, the
first is cancelled and ends, and its id is free for a native start, whose own token cancels it. -/
theorem session_registry_two :
    ∃ world, Reached (fun world action => action.Unregistered world) world ∧
      world.sessions = [⟨7, .ended, true⟩, ⟨8, .running, false⟩, ⟨7, .refused, false⟩,
        ⟨7, .running, false⟩] ∧
      world.Owned ∧ world.cancels.get? 7 = some 3 ∧
      ∃ next, (world.lookup 7).cancel world.claimed.length = some next ∧
        next.sessions[3]? = some ⟨7, .running, true⟩ := by
  have start : Reached (fun world action => action.Unregistered world) .init := .init
  have first := @Reached.step _ _ _ (.start false 7 true) start (fun native => by cases native) rfl
  have second := @Reached.step _ _ _ (.start true 8 true) first (fun _ _ => rfl) rfl
  have refused :=
    @Reached.step _ _ _ (.start false 7 true) second (fun native => by cases native) rfl
  have found := @Reached.step _ _ _ (.lookup 7) refused trivial rfl
  have cancelled := @Reached.step _ _ _ (.cancel 0) found trivial rfl
  have ended := @Reached.step _ _ _ (.finish 0) cancelled trivial rfl
  have again := @Reached.step _ _ _ (.start true 7 true) ended (fun _ _ => rfl) rfl
  obtain ⟨-, owned, cancellable⟩ := (session_registry _).2 again
  exact ⟨_, again, rfl, owned, owned 3 ⟨7, .running, false⟩ ⟨rfl, rfl⟩,
    cancellable 3 ⟨7, .running, false⟩ ⟨rfl, rfl⟩⟩

end Envoix.Android.SessionRegistry
