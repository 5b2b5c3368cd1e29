import Envoix.Foundation.Roster
import Envoix.Foundation.Table
import Envoix.Invite.Bootstrap

/-! # Invitations are for one use

`InviteSecretStore`, `InvitationLease` and `InvitationConsumption` of
`envoix-client/src/api/source.rs`. A lease takes an invitation out of the store and its destructor
puts it back or burns it, by a flag that the lease shares with the markers it gave away.  The
destructor reads the flag first and takes the lock of the store after. -/

namespace Envoix.Invite.OneUse

/-! ## The store -/

abbrev InviteSecretRef := String

inductive StoredState where
  | available (bootstrap : InvitationBootstrap)
  | inProgress (bootstrap : InvitationBootstrap)
  | consumed

abbrev Entries := Table InviteSecretRef StoredState

/-- Where a lease is on its way out: `dropping` has read the flag. -/
inductive Phase where
  | held
  | dropping (consumed : Bool)
  | gone
deriving DecidableEq

/-- `consumed` is the flag that the markers of the lease share, also after it is gone. -/
structure InvitationLease where
  secretRef : InviteSecretRef
  bootstrap : InvitationBootstrap
  consumed : Bool
  phase : Phase

/-- `InviteSecretStore::acquire` -/
def acquire (secretRef : InviteSecretRef) (entries : Entries) :
    Except String InvitationLease × Entries :=
  match entries.get? secretRef with
  | none => (.error "invitation private state is unavailable", entries)
  | some (.available bootstrap) =>
    (.ok ⟨secretRef, bootstrap, false, .held⟩, entries.insert secretRef (.inProgress bootstrap))
  | some (.inProgress _) | some .consumed =>
    (.error "invitation replay: private state is already in use or consumed", entries)

/-- `InviteSecretStore::release` -/
def release (secretRef : InviteSecretRef) (consumed : Bool) (entries : Entries) : Entries :=
  match entries.get? secretRef with
  | some (.inProgress bootstrap) =>
    entries.insert secretRef (if consumed then .consumed else .available bootstrap)
  | _ => entries

/-! ## Interleavings -/

structure World where
  entries : Entries
  leases : List InvitationLease

def World.init : World := ⟨.empty, []⟩

/-- A step of some task; leases and their markers are named by their place in the order of
acquisition.  `insert` draws a reference at random, which was not drawn before; `consume` may be on
any clone of a marker. -/
inductive Action where
  | insert (secretRef : InviteSecretRef) (bootstrap : InvitationBootstrap)
  | acquire (secretRef : InviteSecretRef)
  | consume (lease : Nat)
  | loadConsumed (lease : Nat)
  | release (lease : Nat)

def World.step (world : World) : Action → Option World
  | .insert secretRef bootstrap =>
    if (world.entries.get? secretRef).isNone then
      some { world with entries := world.entries.insert secretRef (.available bootstrap) }
    else none
  | .acquire secretRef =>
    match OneUse.acquire secretRef world.entries with
    | (.ok lease, entries) => some ⟨entries, world.leases ++ [lease]⟩
    | (.error _, entries) => some { world with entries }
  | .consume index => do
    let lease ← world.leases[index]?
    return { world with leases := world.leases.set index { lease with consumed := true } }
  | .loadConsumed index => do
    let lease ← world.leases[index]?
    match lease.phase with
    | .held =>
      return { world with
        leases := world.leases.set index { lease with phase := .dropping lease.consumed } }
    | _ => none
  | .release index => do
    let lease ← world.leases[index]?
    match lease.phase with
    | .dropping consumed =>
      return ⟨OneUse.release lease.secretRef consumed world.entries,
        world.leases.set index { lease with phase := .gone }⟩
    | _ => none

/-- A marker is consumed before the destructor of its lease has read the flag. -/
def Action.InTime (world : World) : Action → Prop
  | .consume index => ∀ lease ∈ world.leases[index]?, lease.phase = .held
  | _ => True

/-- The worlds that steps with a property lead to. -/
inductive Reached (allowed : World → Action → Prop) : World → Prop where
  | init : Reached allowed .init
  | step {world next : World} {action : Action} (before : Reached allowed world)
      (allows : allowed world action) (steps : world.step action = some next) : Reached allowed next

/-! ## What one use means -/

def World.leaseOf (world : World) (secretRef : InviteSecretRef) (index : Nat)
    (lease : InvitationLease) : Prop :=
  world.leases[index]? = some lease ∧ lease.secretRef = secretRef

/-- At most one lease of a reference is live. -/
def World.Single (world : World) : Prop :=
  ∀ secretRef left right leftLease rightLease, world.leaseOf secretRef left leftLease →
    world.leaseOf secretRef right rightLease → leftLease.phase ≠ .gone → rightLease.phase ≠ .gone →
    left = right

/-- A reference cannot be acquired once a marker of a lease that is gone was consumed. -/
def World.Burned (world : World) : Prop :=
  ∀ secretRef index lease, world.leaseOf secretRef index lease → lease.consumed = true →
    lease.phase = .gone → ∃ error, (acquire secretRef world.entries).1 = .error error

/-- A reference can be acquired while none of its markers was consumed and none of its leases is
live. -/
def World.Reusable (world : World) : Prop :=
  ∀ secretRef, (world.entries.get? secretRef).isSome →
    (∀ index lease, world.leaseOf secretRef index lease → lease.consumed = false ∧
      lease.phase = .gone) →
    ∃ lease, (acquire secretRef world.entries).1 = .ok lease

/-! ## What the store says of the leases -/

/-- A lease that left the invitation as it was; where markers are consumed in time, unconsumed. -/
def Returned (strict : Prop) (lease : InvitationLease) : Prop :=
  lease.phase = .gone ∧ (strict → lease.consumed = false)

/-- The leases of a reference as its entry has them. -/
def Fits (strict : Prop) (leaseOf : Nat → InvitationLease → Prop) : Option StoredState → Prop
  | none => ∀ index lease, ¬ leaseOf index lease
  | some (.available _) => ∀ index lease, leaseOf index lease → Returned strict lease
  | some (.inProgress _) => ∃ owner own, leaseOf owner own ∧ own.phase ≠ .gone ∧
      ∀ index lease, leaseOf index lease → index ≠ owner → Returned strict lease
  | some .consumed => (∀ index lease, leaseOf index lease → lease.phase = .gone) ∧
      ∃ index lease, leaseOf index lease ∧ lease.consumed = true

structure Sound (strict : Prop) (world : World) : Prop where
  fits : ∀ secretRef, Fits strict (world.leaseOf secretRef) (world.entries.get? secretRef)
  loaded : ∀ secretRef index lease consumed, world.leaseOf secretRef index lease →
    lease.phase = .dropping consumed → (consumed = true → lease.consumed = true) ∧
      (strict → lease.consumed = true → consumed = true)

section Steps

variable {strict : Prop} {world next : World} {secretRef : InviteSecretRef} {index : Nat}
  {lease : InvitationLease}

/-- The leases of a reference after one of them is replaced. -/
theorem leaseOf_set {new : InvitationLease} (found : world.leases[index]? = some lease)
    (same : new.secretRef = lease.secretRef) {entries : Entries} {other : Nat}
    {otherLease : InvitationLease} :
    (World.mk entries (world.leases.set index new)).leaseOf secretRef other otherLease ↔
      if other = index then otherLease = new ∧ lease.secretRef = secretRef
      else world.leaseOf secretRef other otherLease := by
  unfold World.leaseOf
  rw [Roster.getElem?_set_iff found]
  split
  case isTrue _ =>
    constructor
    · rintro ⟨rfl, of⟩
      exact ⟨rfl, same ▸ of⟩
    · rintro ⟨rfl, of⟩
      exact ⟨rfl, same.trans of⟩
  case isFalse _ => exact Iff.rfl

/-- A replacement leaves the other references alone. -/
theorem leaseOf_set_of_ne {new : InvitationLease} (found : world.leases[index]? = some lease)
    (same : new.secretRef = lease.secretRef) {entries : Entries}
    (elsewhere : lease.secretRef ≠ secretRef) :
    (World.mk entries (world.leases.set index new)).leaseOf secretRef =
      world.leaseOf secretRef := by
  funext other otherLease
  rw [leaseOf_set found same]
  refine propext ?_
  split
  case isTrue here =>
    subst here
    refine ⟨fun own => absurd own.2 elsewhere, fun own => absurd ?_ elsewhere⟩
    obtain rfl := Option.some.inj (found.symm.trans own.1)
    exact own.2
  case isFalse _ => exact Iff.rfl

/-- A step that replaces one lease is sound where it is so for its reference. -/
theorem Sound.set (sound : Sound strict world) (found : world.leases[index]? = some lease)
    (new : InvitationLease) (same : new.secretRef = lease.secretRef) {entries : Entries}
    (others : ∀ other ≠ lease.secretRef, entries.get? other = world.entries.get? other)
    (fits : Fits strict ((World.mk entries (world.leases.set index new)).leaseOf lease.secretRef)
      (entries.get? lease.secretRef))
    (loaded : ∀ consumed, new.phase = .dropping consumed →
      (consumed = true → new.consumed = true) ∧ (strict → new.consumed = true → consumed = true)) :
    Sound strict ⟨entries, world.leases.set index new⟩ where
  fits := by
    intro secretRef
    by_cases here : lease.secretRef = secretRef
    · exact here ▸ fits
    · rw [leaseOf_set_of_ne found same here, others secretRef (Ne.symm here)]
      exact sound.fits secretRef
  loaded := by
    intro secretRef other otherLease consumed own dropping
    rw [leaseOf_set found same] at own
    split at own
    case isTrue _ =>
      obtain ⟨rfl, -⟩ := own
      exact loaded consumed dropping
    case isFalse _ => exact sound.loaded secretRef other otherLease consumed own dropping

/-- A lease that is not gone is the one that its reference is in progress for. -/
theorem Sound.owner (sound : Sound strict world) (found : world.leases[index]? = some lease)
    (live : lease.phase ≠ .gone) :
    ∃ bootstrap, world.entries.get? lease.secretRef = some (.inProgress bootstrap) ∧
      ∀ other otherLease, world.leaseOf lease.secretRef other otherLease → other ≠ index →
        Returned strict otherLease := by
  have fits := sound.fits lease.secretRef
  have own : world.leaseOf lease.secretRef index lease := ⟨found, rfl⟩
  cases entry : world.entries.get? lease.secretRef with
  | none =>
    rw [entry] at fits
    exact absurd own (fits index lease)
  | some state =>
    rw [entry] at fits
    cases state with
    | available _ => exact absurd (fits index lease own).1 live
    | consumed => exact absurd (fits.1 index lease own) live
    | inProgress bootstrap =>
      obtain ⟨owner, _, _, _, others⟩ := fits
      by_cases here : index = owner
      · exact ⟨bootstrap, rfl, here ▸ others⟩
      · exact absurd (others index lease own here).1 live

/-- What changes a lease that stays live keeps the entry of its reference. -/
theorem Sound.live (sound : Sound strict world) (found : world.leases[index]? = some lease)
    (live : lease.phase ≠ .gone) (new : InvitationLease) (same : new.secretRef = lease.secretRef)
    (lives : new.phase ≠ .gone) :
    Fits strict ((World.mk world.entries (world.leases.set index new)).leaseOf lease.secretRef)
      (world.entries.get? lease.secretRef) := by
  obtain ⟨bootstrap, entry, others⟩ := sound.owner found live
  rw [entry]
  refine ⟨index, new, (leaseOf_set found same).mpr ?_, lives,
    fun other otherLease own elsewhere => ?_⟩
  · rw [if_pos rfl]
    exact ⟨rfl, rfl⟩
  · rw [leaseOf_set found same, if_neg elsewhere] at own
    exact others other otherLease own elsewhere

/-- A marker of a lease that is gone is consumed. -/
theorem Sound.late (sound : Sound strict world) (found : world.leases[index]? = some lease)
    (gone : lease.phase = .gone) (late : ¬ strict) :
    Fits strict
      ((World.mk world.entries (world.leases.set index { lease with consumed := true })).leaseOf
        lease.secretRef)
      (world.entries.get? lease.secretRef) := by
  have mine := fun other otherLease =>
    @leaseOf_set world lease.secretRef index lease { lease with consumed := true }
    found rfl world.entries other otherLease
  have fits := sound.fits lease.secretRef
  have own : world.leaseOf lease.secretRef index lease := ⟨found, rfl⟩
  cases entry : world.entries.get? lease.secretRef with
  | none =>
    rw [entry] at fits
    exact absurd own (fits index lease)
  | some state =>
    rw [entry] at fits
    cases state with
    | available _ =>
      intro other otherLease of
      rw [mine] at of
      split at of
      case isTrue _ => exact of.1 ▸ ⟨gone, fun holds => absurd holds late⟩
      case isFalse _ => exact fits other otherLease of
    | inProgress _ =>
      obtain ⟨owner, ownLease, ofOwner, live, others⟩ := fits
      have elsewhere : owner ≠ index := by
        rintro rfl
        obtain rfl := Option.some.inj (found.symm.trans ofOwner.1)
        exact live gone
      refine ⟨owner, ownLease, (mine owner ownLease).mpr ?_, live,
        fun other otherLease of apart => ?_⟩
      · rw [if_neg elsewhere]
        exact ofOwner
      · rw [mine] at of
        split at of
        case isTrue _ => exact of.1 ▸ ⟨gone, fun holds => absurd holds late⟩
        case isFalse _ => exact others other otherLease of apart
    | consumed =>
      refine ⟨fun other otherLease of => ?_, index, { lease with consumed := true },
        (mine index _).mpr ?_, rfl⟩
      · rw [mine] at of
        split at of
        case isTrue _ => exact of.1 ▸ gone
        case isFalse _ => exact fits.1 other otherLease of
      · rw [if_pos rfl]
        exact ⟨rfl, rfl⟩

theorem Sound.insert {bootstrap : InvitationBootstrap} (sound : Sound strict world)
    (absent : world.entries.get? secretRef = none) :
    Sound strict { world with
      entries := world.entries.insert secretRef (.available bootstrap) } where
  fits := by
    intro other
    show Fits strict (world.leaseOf other) (Table.get? (Table.insert _ _ _) other)
    have fits := sound.fits other
    rw [Table.get?_insert]
    split
    case isTrue here =>
      rw [here, absent] at fits
      exact fun index lease own => absurd (here ▸ own) (fits index lease)
    case isFalse _ => exact fits
  loaded := sound.loaded

theorem Sound.acquire {bootstrap : InvitationBootstrap} (sound : Sound strict world)
    (available : world.entries.get? secretRef = some (.available bootstrap)) :
    Sound strict ⟨world.entries.insert secretRef (.inProgress bootstrap),
      world.leases ++ [⟨secretRef, bootstrap, false, .held⟩]⟩ := by
  have leaseOf : ∀ other index lease,
      (World.mk (world.entries.insert secretRef (.inProgress bootstrap))
        (world.leases ++ [⟨secretRef, bootstrap, false, .held⟩])).leaseOf other index lease ↔
        world.leaseOf other index lease ∨
          index = world.leases.length ∧ lease = ⟨secretRef, bootstrap, false, .held⟩ ∧
            secretRef = other := by
    intro other index lease
    unfold World.leaseOf
    rw [Roster.getElem?_append_one]
    constructor
    · rintro ⟨old | ⟨last, rfl⟩, of⟩
      · exact .inl ⟨old, of⟩
      · exact .inr ⟨last, rfl, of⟩
    · rintro (⟨old, of⟩ | ⟨last, rfl, of⟩)
      · exact ⟨.inl old, of⟩
      · exact ⟨.inr ⟨last, rfl⟩, of⟩
  constructor
  · intro other
    show Fits strict _ (Table.get? (Table.insert _ _ _) other)
    rw [Table.get?_insert]
    by_cases here : other = secretRef
    · subst here
      rw [if_pos rfl]
      have fits := sound.fits other
      rw [available] at fits
      refine ⟨world.leases.length, _, (leaseOf other _ _).mpr (.inr ⟨rfl, rfl, rfl⟩), nofun,
        fun index lease own elsewhere => ?_⟩
      exact fits index lease (((leaseOf other _ _).mp own).resolve_right fun new => elsewhere new.1)
    · rw [if_neg here]
      have same : (World.mk (world.entries.insert secretRef (.inProgress bootstrap))
          (world.leases ++ [⟨secretRef, bootstrap, false, .held⟩])).leaseOf other =
              world.leaseOf other := by
        funext index lease
        refine propext
          ((leaseOf other index lease).trans ⟨fun either => either.resolve_right fun new => ?_,
            .inl⟩)
        exact here new.2.2.symm
      rw [same]
      exact sound.fits other
  · intro other index lease consumed own dropping
    obtain old | ⟨-, rfl, -⟩ := (leaseOf other index lease).mp own
    · exact sound.loaded other index lease consumed old dropping
    · cases dropping

theorem Sound.step {action : Action} (sound : Sound strict world)
    (inTime : strict → action.InTime world) (steps : world.step action = some next) :
    Sound strict next := by
  cases action with
  | insert secretRef bootstrap =>
    by_cases absent : (world.entries.get? secretRef).isNone
    · obtain rfl := Option.some.inj ((if_pos absent).symm.trans steps)
      exact sound.insert (Option.isNone_iff_eq_none.mp absent)
    · cases (if_neg absent).symm.trans steps
  | acquire secretRef =>
    unfold World.step OneUse.acquire at steps
    cases entry : world.entries.get? secretRef with
    | none =>
      simp only [entry, Option.some.injEq] at steps
      exact steps ▸ sound
    | some state =>
      cases state with
      | available bootstrap =>
        simp only [entry, Option.some.injEq] at steps
        exact steps ▸ sound.acquire entry
      | inProgress _ =>
        simp only [entry, Option.some.injEq] at steps
        exact steps ▸ sound
      | consumed =>
        simp only [entry, Option.some.injEq] at steps
        exact steps ▸ sound
  | consume index =>
    obtain ⟨lease, found, steps⟩ := Option.bind_eq_some_iff.mp steps
    obtain rfl := Option.some.inj steps
    have held : strict → lease.phase = .held := fun holds => inTime holds lease found
    refine sound.set found { lease with consumed := true } rfl (fun _ _ => rfl)
        ?_ fun consumed dropping =>
      ⟨fun _ => rfl, fun holds => ?_⟩
    · by_cases gone : lease.phase = .gone
      · exact sound.late found gone fun holds => absurd ((held holds).symm.trans gone) (by simp)
      · exact sound.live found gone { lease with consumed := true } rfl gone
    · cases (held holds).symm.trans dropping
  | loadConsumed index =>
    obtain ⟨lease, found, steps⟩ := Option.bind_eq_some_iff.mp steps
    split at steps
    case h_1 held =>
      obtain rfl := Option.some.inj steps
      have live : lease.phase ≠ .gone := by
        rw [held]
        simp
      refine sound.set found { lease with phase := .dropping lease.consumed } rfl
        (fun _ _ => rfl) ?_ ?_
      · exact sound.live found live { lease with phase := .dropping lease.consumed } rfl (by simp)
      · rintro _ ⟨⟩
        exact ⟨id, fun _ => id⟩
    case h_2 _ => cases steps
  | release index =>
    obtain ⟨lease, found, steps⟩ := Option.bind_eq_some_iff.mp steps
    split at steps
    case h_1 consumed dropping =>
      obtain rfl := Option.some.inj steps
      have live : lease.phase ≠ .gone := by
        rw [dropping]
        simp
      -- A lease that lives owns its entry, so the entry is in progress until this release.
      obtain ⟨bootstrap, entry, others⟩ := sound.owner found live
      obtain ⟨sets, keeps⟩ :=
        sound.loaded lease.secretRef index lease consumed ⟨found, rfl⟩ dropping
      have released : OneUse.release lease.secretRef consumed world.entries =
          world.entries.insert lease.secretRef (if consumed then .consumed
            else .available bootstrap) := by
        rw [OneUse.release, entry]
      rw [released]
      refine sound.set found { lease with phase := .gone } rfl (fun other elsewhere => ?_)
        ?_ (by simp)
      · rw [Table.get?_insert, if_neg elsewhere]
      · rw [Table.get?_insert, if_pos rfl]
        have mine := fun other otherLease =>
          @leaseOf_set world lease.secretRef index lease { lease with phase := .gone }
          found rfl
            (world.entries.insert lease.secretRef (if consumed then .consumed
              else .available bootstrap))
          other otherLease
        -- the flag was read before the drop, and a consumption in time is in it
        cases consumed with
        | true =>
          refine ⟨fun other otherLease own => ?_, index, { lease with phase := .gone },
            (mine index _).mpr ?_, sets rfl⟩
          · rw [mine] at own
            split at own
            case isTrue _ => rw [own.1]
            case isFalse elsewhere => exact (others other otherLease own elsewhere).1
          · rw [if_pos rfl]
            exact ⟨rfl, rfl⟩
        | false =>
          intro other otherLease own
          rw [mine] at own
          split at own
          case isTrue _ =>
            rw [own.1]
            refine ⟨rfl, fun holds => Bool.eq_false_iff.mpr fun consumed => ?_⟩
            cases keeps holds consumed
          case isFalse elsewhere => exact others other otherLease own elsewhere
    case h_2 _ => cases steps

theorem Sound.init (strict : Prop) : Sound strict .init := by
  constructor
  · rintro secretRef index lease ⟨found, -⟩
    cases found
  · rintro secretRef index lease consumed ⟨found, -⟩
    cases found

theorem Reached.sound {allowed : World → Action → Prop} (reached : Reached allowed world)
    (inTime : ∀ world action, strict → allowed world action → action.InTime world) :
      Sound strict world := by
  induction reached with
  | init => exact .init strict
  | step before allows steps ih => exact ih.step (fun holds => inTime _ _ holds allows) steps

theorem Sound.single (sound : Sound strict world) : world.Single := by
  intro secretRef left right leftLease rightLease ofLeft ofRight leftLive rightLive
  by_contra apart
  obtain ⟨leftFound, rfl⟩ := ofLeft
  obtain ⟨_, _, others⟩ := sound.owner leftFound leftLive
  exact rightLive (others right rightLease ofRight (Ne.symm apart)).1

theorem Sound.reusable (sound : Sound strict world) : world.Reusable := by
  intro secretRef registered unused
  have fits := sound.fits secretRef
  obtain ⟨state, entry⟩ := Option.isSome_iff_exists.mp registered
  rw [entry] at fits
  unfold OneUse.acquire
  rw [entry]
  cases state with
  | available bootstrap => exact ⟨_, rfl⟩
  | inProgress _ =>
    obtain ⟨owner, own, of, live, -⟩ := fits
    exact absurd (unused owner own of).2 live
  | consumed =>
    obtain ⟨-, index, lease, of, consumed⟩ := fits
    rw [(unused index lease of).1] at consumed
    cases consumed

theorem Sound.burned (sound : Sound strict world) (holds : strict) : world.Burned := by
  intro secretRef index lease of consumed gone
  have fits := sound.fits secretRef
  unfold OneUse.acquire
  cases entry : world.entries.get? secretRef with
  | none => exact ⟨_, rfl⟩
  | some state =>
    rw [entry] at fits
    cases state with
    | available _ =>
      rw [(fits index lease of).2 holds] at consumed
      cases consumed
    | inProgress _ => exact ⟨_, rfl⟩
    | consumed => exact ⟨_, rfl⟩

end Steps

/-! ## One use -/

/-- In every run at most one lease is live, and what was not consumed can be acquired again; in a
run whose markers are consumed in time, what was consumed cannot. -/
theorem invitation_one_use (world : World) :
    (Reached (fun _ _ => True) world → world.Single ∧ world.Reusable) ∧
    (Reached (fun world action => action.InTime world) world → world.Single ∧ world.Burned ∧
      world.Reusable) := by
  constructor
  · intro reached
    have sound : Sound False world := reached.sound fun _ _ impossible => impossible.elim
    exact ⟨sound.single, sound.reusable⟩
  · intro reached
    have sound : Sound True world := reached.sound fun _ _ _ inTime => inTime
    exact ⟨sound.single, sound.burned trivial, sound.reusable⟩

section Runs

variable {allowed : World → Action → Prop}

def World.run (world : World) : List Action → Option World
  | [] => some world
  | action :: actions => do
    let next ← world.step action
    next.run actions

theorem Reached.run {world last : World} {actions : List Action} (reached : Reached allowed world)
    (allows : ∀ world action, allowed world action) (runs : world.run actions = some last) :
      Reached allowed last := by
  induction actions generalizing world with
  | nil => exact Option.some.inj runs ▸ reached
  | cons action actions ih =>
    obtain ⟨next, steps, rest⟩ := Option.bind_eq_some_iff.mp runs
    exact ih (reached.step (allows _ _) steps) rest

end Runs

def roomInvitation : InvitationBootstrap := .roomCodeJoiner ⟨"123456-abcd-efgh"⟩ .sender

/-- The callback of a lease that is gone consumes its marker: the lease is dropped, the marker is
consumed, and the invitation is there for another. -/
theorem invitation_replayed : ¬ ∀ world, Reached (fun _ _ => True) world → world.Burned := by
  intro burned
  have reached : Reached (fun _ _ => True) _ := Reached.run .init (fun _ _ => trivial)
    (show World.run .init [.insert "invitation" roomInvitation, .acquire "invitation",
      .loadConsumed 0, .release 0, .consume 0] = some _ from rfl)
  obtain ⟨_, refused⟩ := burned _ reached "invitation" 0 _ ⟨rfl, rfl⟩ rfl rfl
  cases refused

/-- A lease whose marker is consumed before it is dropped: the invitation is burned. -/
theorem invitation_one_use_consumed :
    ∃ world : World, World.run .init [.insert "invitation" roomInvitation,
        .acquire "invitation", .consume 0, .loadConsumed 0, .release 0] = some world ∧
          world.Single ∧ world.Burned ∧ world.Reusable := by
  have start : Reached (fun world action => action.InTime world) .init := .init
  have inserted := @Reached.step _ _ _ (.insert "invitation" roomInvitation) start trivial rfl
  have acquired := @Reached.step _ _ _ (.acquire "invitation") inserted trivial rfl
  have consumed :=
    @Reached.step _ _ _ (.consume 0) acquired (fun _ found => Option.some.inj found ▸ rfl) rfl
  have loaded := @Reached.step _ _ _ (.loadConsumed 0) consumed trivial rfl
  have released := @Reached.step _ _ _ (.release 0) loaded trivial rfl
  exact ⟨_, rfl, (invitation_one_use _).2 released⟩

end Envoix.Invite.OneUse
