import Envoix.Remembered.Peers

/-! # Generation windows of a remembered pair

Two devices advance one generation counter each, on what each of them knows of their common
attempts.  An attempt can succeed only in a generation both sides offer, so the pair stays able to
meet as long as their windows, the current and the previous generation, have one in common. -/

namespace Envoix.Remembered

open Process Process.Method Durable ByteCodec

/-- What a store says of one relationship. -/
structure View where
  generation : Nat
  previous : Option Nat
  credential : Bytes

/-- A previous generation is the one before. -/
def View.Linked (view : View) : Prop := ∀ previous ∈ view.previous, previous + 1 = view.generation

def View.window (view : View) : List Nat := view.generation :: view.previous.toList

def View.advanced (view : View) : View :=
  ⟨view.generation + 1, some view.generation, view.credential⟩

/-- Nothing in a window is ahead of the current generation. -/
theorem View.Linked.le_of_mem {view : View} {generation : Nat} (linked : view.Linked)
    (offered : generation ∈ view.window) : generation ≤ view.generation := by
  simp only [View.window, List.mem_cons, Option.mem_toList] at offered
  obtain rfl | retained := offered
  · exact Nat.le_refl _
  · have before := linked generation retained
    omega

theorem View.advanced_linked (view : View) : view.advanced.Linked := by
  intro previous found
  cases found
  rfl

/-! ## Android -/

namespace AndroidStore

variable [cipher : KeystoreCipher] {store left : AndroidStore} {relationshipId : String}
  {view : View}

/-- The store has the relationship as described, with a readable file for the current generation. -/
def Holds (store : AndroidStore) (relationshipId : String) (view : View) : Prop :=
  ∃ record, store.records.find? (ownedBy relationshipId) = some record ∧
    record.generation = view.generation ∧ record.previousGeneration = view.previous ∧
    view.generation ≤ longMax ∧
    (store.credentialFiles record.credentialReference record.generation).bind
      (cipher.decrypt · (aad record record.generation)) = some view.credential

theorem Holds.load (holds : store.Holds relationshipId view) :
    ∃ loaded, store.load relationshipId = some loaded ∧ loaded.opaqueCredential = view.credential ∧
      loaded.record.generation = view.generation ∧
      loaded.record.previousGeneration = view.previous := by
  obtain ⟨record, found, generation, previous, -, readable⟩ := holds
  have credential : store.loadCredential record = some view.credential := by
    unfold loadCredential
    rw [List.findSome?_cons, Option.bind_eq_bind, readable]
  refine ⟨⟨record, view.credential⟩, ?_, rfl, generation, previous⟩
  simp [AndroidStore.load, found, credential]

omit cipher in
theorem putFile_same (store : AndroidStore) (reference : String) (generation : Nat)
    (content : Option Bytes) :
    (store.putFile reference generation content).credentialFiles reference generation =
      content := by
  simp [putFile]

omit cipher in
theorem putFile_other {reference name : String} {generation number : Nat} {content : Option Bytes}
    (differs : number ≠ generation) :
    (store.putFile reference generation content).credentialFiles name number =
      store.credentialFiles name number := by
  simp [putFile, differs]

/-- A file of another generation does not matter. -/
theorem Holds.putFile (reference : String) {generation : Nat} (content : Option Bytes)
    (holds : store.Holds relationshipId view) (differs : view.generation ≠ generation) :
    (store.putFile reference generation content).Holds relationshipId view := by
  obtain ⟨record, found, current, previous, fits, readable⟩ := holds
  refine ⟨record, found, current, previous, fits, ?_⟩
  rw [putFile_other (by rwa [current])]
  exact readable

/-- Once its credential and its record are written, the next generation is held. -/
theorem holds_rotated {record : RememberedPeerRecord} (credential : Bytes)
    (found : store.records.find? (ownedBy relationshipId) = some record)
    (fits : record.generation + 1 ≤ longMax) :
    AndroidStore.Holds ⟨replaceFirst (ownedBy relationshipId)
        (record.rotated (record.generation + 1)) store.records,
        (store.putFile record.credentialReference (record.generation + 1)
          (some (cipher.encrypt credential (aad (record.rotated (record.generation + 1))
            (record.generation + 1))))
          ).credentialFiles⟩
      relationshipId ⟨record.generation + 1, some record.generation, credential⟩ := by
  have owned := List.find?_some found
  refine ⟨record.rotated (record.generation + 1), find?_replaceFirst found owned, rfl,
    rfl, fits, ?_⟩
  show ((store.putFile record.credentialReference (record.generation + 1) _).credentialFiles
    record.credentialReference (record.generation + 1)).bind _ = _
  rw [putFile_same, Option.bind_some]
  exact cipher.decrypt_encrypt _ _

/-- A rotation to the next generation takes place or leaves the relationship as it was; it is
refused only where a write is, and takes place where none is. -/
theorem rotate_next (fates : Fates) (linked : view.Linked) (holds : store.Holds relationshipId view)
    (fits : view.generation + 1 ≤ longMax) :
    ∃ outcome left, (rotate fates relationshipId view.credential (view.generation + 1)).runOn
      store = (outcome, left) ∧
      (left.Holds relationshipId view ∨ left.Holds relationshipId view.advanced) ∧
      (outcome = .ok false → fates.credential = .throws ∨ fates.metadata = .throws) ∧
      (fates.credential = .completes → fates.metadata = .completes →
        left.Holds relationshipId view.advanced) := by
  have kept := holds
  obtain ⟨record, found, current, previous, -, readable⟩ := holds
  have next := holds_rotated view.credential found (by omega)
  obtain ⟨generation, previousGeneration, credential⟩ := view
  obtain ⟨writes, records, cleanup, undo⟩ := fates
  cases current
  cases previous
  unfold rotate
  rw [runOn_bind_of_ok _ (runOn_get store)]
  simp only [found, Nat.not_succ_le_self, if_false]
  -- What a refused write leaves: the relationship as it was, with or without a stray file.
  have undone (between : AndroidStore)
    (before : between.Holds relationshipId ⟨record.generation, record.previousGeneration,
      credential⟩) :
      ∃ outcome left, (do
          deleteCredentialFile undo (record.rotated (record.generation + 1)).credentialReference
            (record.rotated (record.generation + 1)).generation
          return false : AndroidMethod Bool).runOn between = (outcome, left) ∧
        left.Holds relationshipId ⟨record.generation, record.previousGeneration, credential⟩ := by
    cases undo with
    | completes => exact ⟨.ok false, _, rfl, before.putFile _ _ (Nat.ne_of_lt (Nat.lt_succ_self _))⟩
    | throws => exact ⟨.ok false, _, rfl, before⟩
    | dies => exact ⟨.error .died, _, rfl, before⟩
  cases writes with
  | dies => exact ⟨.error .died, store, rfl, .inl kept, by simp, by simp⟩
  | throws =>
    obtain ⟨outcome, left, runs, before⟩ := undone store kept
    exact ⟨outcome, left, runs, .inl before, fun _ => .inl rfl, by simp⟩
  | completes =>
    have stray := kept.putFile record.credentialReference
      (some (cipher.encrypt credential (aad (record.rotated (record.generation + 1))
        (record.generation + 1))))
      (Nat.ne_of_lt (Nat.lt_succ_self record.generation))
    cases records with
    | dies => exact ⟨.error .died, _, rfl, .inl stray, by simp, by simp⟩
    | throws =>
      obtain ⟨outcome, left, runs, before⟩ := undone _ stray
      exact ⟨outcome, left, runs, .inl before, fun _ => .inr rfl, by simp⟩
    | completes =>
      cases old : record.previousGeneration with
      | none => exact ⟨.ok true, _, rfl, .inr next, by simp, fun _ _ => next⟩
      | some number =>
        have apart : record.generation + 1 ≠ number := by
          have before : number + 1 = record.generation := linked number old
          omega
        cases cleanup with
        | completes =>
          have cleaned := next.putFile record.credentialReference none apart
          exact ⟨.ok true, _, rfl, .inr cleaned, by simp, fun _ _ => cleaned⟩
        | throws => exact ⟨.ok true, _, rfl, .inr next, by simp, fun _ _ => next⟩
        | dies => exact ⟨.error .died, _, rfl, .inr next, by simp, fun _ _ => next⟩

/-- The outcome of an authenticated attempt is recorded, or was already, or could not be written;
only the last representable generation is refused. -/
theorem advance_spec (fates : Fates) {generation : Nat} (linked : view.Linked)
    (holds : store.Holds relationshipId view) (offered : generation ∈ view.window) :
    ∃ outcome left,
        (advanceAfterPeerAuthentication fates relationshipId view.credential generation).runOn
          store =
        (outcome, left) ∧
      (left.Holds relationshipId view ∨ generation = view.generation ∧
        left.Holds relationshipId view.advanced) ∧
      (outcome = .ok false → fates.credential = .throws ∨ fates.metadata = .throws ∨
        generation = longMax) ∧
      (generation = view.generation → generation < longMax → fates.credential = .completes →
        fates.metadata = .completes → left.Holds relationshipId view.advanced) := by
  have kept := holds
  obtain ⟨record, found, current, previous, bound, -⟩ := holds
  unfold advanceAfterPeerAuthentication
  rw [runOn_bind_of_ok _ (runOn_get store)]
  simp only [found, addExact]
  by_cases fits : generation + 1 ≤ longMax
  · simp only [fits, if_true]
    by_cases now : generation = view.generation
    · obtain ⟨outcome, left, runs, after, refused, advances⟩ :=
        rotate_next fates linked kept (by omega)
      refine ⟨outcome, left, ?_, after.imp_right fun advanced => ⟨now, advanced⟩,
        fun no => (refused no).imp_right .inl, fun _ _ => advances⟩
      simp only [current, now, if_true]
      exact runs
    · have retained : view.previous = some generation := by simpa [View.window, now] using offered
      have before : generation + 1 = view.generation := linked generation retained
      refine ⟨.ok true, store, ?_, .inl kept, by simp, fun same => absurd same now⟩
      simp only [current, now, if_false, previous, retained, before, decide_true, and_self]
      rfl
  · refine ⟨.ok false, store, ?_, .inl kept, ?_, fun _ below => absurd below fits⟩
    · simp only [fits, if_false]
      rfl
    · intro
      have atMost := linked.le_of_mem offered
      exact .inr (.inr (by omega))

theorem create_holds {fates : Fates} {pending : PendingRememberedPeer} {credential : Bytes}
    {generation : Nat}
    (created : (create fates pending credential generation).runOn store = (.ok true, left))
    (fits : generation ≤ longMax) :
    left.Holds pending.relationshipId ⟨generation, none, credential⟩ := by
  unfold create at created
  rw [runOn_bind_of_ok _ (runOn_get store)] at created
  by_cases known : store.records.any (ownedBy pending.relationshipId) = true
  · simp only [known, if_true] at created
    cases created
  · simp only [known] at created
    obtain ⟨writes, records, cleanup, undo⟩ := fates
    cases writes with
    | dies | throws => cases created
    | completes =>
      cases records with
      | dies => cases created
      | throws => cases undo <;> cases created
      | completes =>
        cases created
        refine ⟨pending.record generation, ?_, rfl, rfl, fits, ?_⟩
        · have fresh : store.records.find? (ownedBy pending.relationshipId) = none := by
            simpa [List.find?_eq_none] using known
          simp [fresh, ownedBy, PendingRememberedPeer.record]
        · have written := putFile_same store pending.credentialReference generation
            (some (cipher.encrypt credential (aad (pending.record generation) generation)))
          exact (congrArg (Option.bind · _) written).trans (cipher.decrypt_encrypt _ _)

end AndroidStore

/-! ## Apple devices -/

namespace AppleStore

variable {store left : AppleStore} {relationshipId : String} {view : View}

def Holds (store : AppleStore) (relationshipId : String) (view : View) : Prop :=
  ∃ record, store.peers.find? (ownedBy relationshipId) = some record ∧
    record.generation = view.generation ∧ record.previousGeneration = view.previous ∧
    store.keychain record.credentialReference = some view.credential

theorem Holds.sessionMaterial (holds : store.Holds relationshipId view) :
    ∃ loaded, store.sessionMaterial relationshipId = some loaded ∧
      loaded.opaqueCredential = view.credential ∧ loaded.record.generation = view.generation ∧
      loaded.record.previousGeneration = view.previous := by
  obtain ⟨record, found, generation, previous, readable⟩ := holds
  refine ⟨⟨record, view.credential⟩, ?_, rfl, generation, previous⟩
  simp [AppleStore.sessionMaterial, found, readable]

/-- The keychain holds one item for all generations, and a rotation stores the same credential. -/
theorem Holds.putItem {reference : String} (holds : store.Holds relationshipId view)
    (owner : ∀ record, store.peers.find? (ownedBy relationshipId) = some record →
      record.credentialReference = reference) :
    (store.putItem reference (some view.credential)).Holds relationshipId view := by
  obtain ⟨record, found, current, previous, -⟩ := holds
  exact ⟨record, found, current, previous, by simp [AppleStore.putItem, owner record found]⟩

theorem holds_rotated (store : AppleStore) {record : RememberedPeerRecord} {credential : Bytes}
    (found : store.peers.find? (ownedBy relationshipId) = some record)
    (readable : store.keychain record.credentialReference = some credential) :
    AppleStore.Holds { store with
        peers :=
          replaceFirst (ownedBy relationshipId)
            (record.rotated (record.generation + 1)) store.peers }
      relationshipId ⟨record.generation + 1, some record.generation, credential⟩ := by
  have owned := List.find?_some found
  exact ⟨record.rotated (record.generation + 1), find?_replaceFirst found owned, rfl, rfl, readable⟩

theorem rotate_next (fates : Fates) (holds : store.Holds relationshipId view) :
    ∃ outcome left, (rotate fates relationshipId view.credential (view.generation + 1)).runOn
      store = (outcome, left) ∧
      (left.Holds relationshipId view ∨ left.Holds relationshipId view.advanced) := by
  have kept := holds
  obtain ⟨record, found, current, previous, readable⟩ := holds
  unfold rotate
  rw [runOn_bind_of_ok _ (runOn_get store)]
  by_cases leased : relationshipId ∈ store.activeRelationships
  · simp only [leased, not_true_eq_false, if_false]
    have notBefore : ¬ view.generation + 1 < record.generation := by omega
    have notSame : view.generation + 1 ≠ record.generation := by omega
    simp only [found, notBefore, notSame, if_false]
    have stored := kept.putItem fun other same => by
      cases same.symm.trans found
      rfl
    obtain ⟨writes, peers, cleanup, undo⟩ := fates
    obtain ⟨generation, previousGeneration, credential⟩ := view
    cases current
    cases writes with
    | throws => exact ⟨.error (.threw .storage), store, rfl, .inl kept⟩
    | dies => exact ⟨.error .died, store, rfl, .inl kept⟩
    | completes =>
      cases peers with
      | throws => exact ⟨.error (.threw .storage), _, rfl, .inl stored⟩
      | dies => exact ⟨.error .died, _, rfl, .inl stored⟩
      | completes =>
        have item :
            (store.putItem record.credentialReference (some credential)).keychain
              record.credentialReference =
            some credential := by
          simp [AppleStore.putItem]
        have rotated :=
          holds_rotated (store.putItem record.credentialReference (some credential)) found item
        exact ⟨.ok (), _, rfl, .inr rotated⟩
  · simp only [leased, not_false_eq_true, if_true]
    exact ⟨.error (.threw .inactiveSession), store, rfl, .inl kept⟩

theorem rotate_current (fates : Fates) (credential : Bytes)
    (holds : store.Holds relationshipId view) :
    ∃ outcome, (rotate fates relationshipId credential view.generation).runOn store =
      (outcome, store) := by
  obtain ⟨record, found, current, -, -⟩ := holds
  unfold rotate
  rw [runOn_bind_of_ok _ (runOn_get store)]
  by_cases leased : relationshipId ∈ store.activeRelationships
  · simp only [leased, not_true_eq_false, if_false]
    simp only [found, current, Nat.lt_irrefl, if_false, if_true]
    exact ⟨.ok (), rfl⟩
  · simp only [leased, not_false_eq_true, if_true]
    exact ⟨.error (.threw .inactiveSession), rfl⟩

theorem beforeConnected_spec (fates : Fates) {generation : Nat} (linked : view.Linked)
    (holds : store.Holds relationshipId view) (offered : generation ∈ view.window) :
    ∃ outcome left, (beforeConnected fates relationshipId view.credential generation).runOn store =
      (outcome, left) ∧
      (left.Holds relationshipId view ∨ generation = view.generation ∧
        left.Holds relationshipId view.advanced) := by
  unfold beforeConnected
  by_cases fits : generation < uint64Max
  · simp only [fits, not_true_eq_false, if_false]
    by_cases now : generation = view.generation
    · obtain ⟨outcome, left, runs, after⟩ := rotate_next fates holds
      rw [now]
      exact ⟨outcome, left, runs, after.imp id fun advanced => ⟨rfl, advanced⟩⟩
    · have retained : view.previous = some generation := by simpa [View.window, now] using offered
      have before : generation + 1 = view.generation := linked generation retained
      obtain ⟨outcome, runs⟩ := rotate_current fates view.credential holds
      rw [before]
      exact ⟨outcome, store, runs, .inl holds⟩
  · simp only [fits, not_false_eq_true, if_true]
    exact ⟨.error (.threw .exhausted), store, rfl, .inl holds⟩

theorem create_holds {fates : Fates} {pending : PendingRememberedPeer} {credential : Bytes}
    {generation : Nat}
    (created : (create fates pending credential generation).runOn store = (.ok (), left)) :
    left.Holds pending.relationshipId ⟨generation, none, credential⟩ := by
  unfold create at created
  rw [runOn_bind_of_ok _ (runOn_get store)] at created
  by_cases leased : pending.relationshipId ∈ store.activeRelationships
  · simp only [leased, not_true_eq_false, if_false] at created
    obtain ⟨writes, peers, cleanup, undo⟩ := fates
    cases writes with
    | dies | throws => cases created
    | completes =>
      cases peers with
      | dies => cases created
      | throws => cases undo <;> cases created
      | completes =>
        cases created
        refine ⟨pending.record generation, ?_, rfl, rfl, ?_⟩
        · show (store.peers.filter _ ++ [_]).find? _ = _
          have gone : (store.peers.filter fun peer => !ownedBy pending.relationshipId peer).find?
              (ownedBy pending.relationshipId) = none := by
            simp
          rw [List.find?_append, gone]
          simp [ownedBy, PendingRememberedPeer.record]
        · simp [AppleStore.putItem, PendingRememberedPeer.record]
  · simp only [leased, not_false_eq_true, if_true] at created
    cases created

theorem mem_of_scheduled {current generation : Nat} {previous : Option Nat}
    (scheduled : generation ∈ rememberedGenerationSchedule current previous) :
    generation ∈ current :: previous.toList := by
  cases previous with
  | none => exact scheduled
  | some before =>
    simp only [rememberedGenerationSchedule] at scheduled
    split at scheduled
    · exact scheduled
    · exact List.mem_cons.mpr (.inl (List.mem_singleton.mp scheduled))

end AppleStore

/-! ## A pair of devices -/

/-- The store of a device. -/
inductive Store where
  | android (store : AndroidStore)
  | apple (store : AppleStore)

/-- What became of the outcome of an attempt: recorded, refused, or lost with the process. -/
inductive Recording where
  | accepted
  | refused
  | lost
deriving DecidableEq

/-- One attempt of a device, from the moment it has loaded its credential. -/
inductive Phase where
  | idle
  | attempting (generation : Nat) (credential : Bytes)
  | authenticated (generation : Nat) (credential : Bytes)

structure Device where
  relationshipId : String
  store : Store
  phase : Phase

inductive Party where
  | first
  | second
deriving DecidableEq

def Party.other : Party → Party
  | .first => .second
  | .second => .first

abbrev Pair := Party → Device

/-- The pair with one device changed. -/
def Pair.with (pair : Pair) (party : Party) (device : Device) : Pair :=
  fun other => if other = party then device else pair other

theorem Party.other_ne (party : Party) : party.other ≠ party := by
  cases party <;> nofun

theorem Party.eq_or_eq_other (party one : Party) : party = one ∨ party = one.other := by
  cases party <;> cases one <;> simp [Party.other]

@[simp] theorem Pair.with_same (pair : Pair) (party : Party) (device : Device) :
    pair.with party device party = device := by
  simp [Pair.with]

@[simp] theorem Pair.with_other (pair : Pair) (party : Party) (device : Device) :
    pair.with party device party.other = pair party.other := by
  simp [Pair.with, party.other_ne]

section Pair

variable [cipher : KeystoreCipher]

namespace Store

def load : Store → String → Option LoadedRememberedPeer
  | .android store, relationshipId => store.load relationshipId
  | .apple store, relationshipId => store.sessionMaterial relationshipId

/-- The generations in which a device may open its next attempt. -/
def Offers (store : Store) (loaded : LoadedRememberedPeer) (generation : Nat) : Prop :=
  match store with
  | .android _ => ∃ usePreviousGeneration,
    AndroidStore.selectedGeneration loaded usePreviousGeneration = generation
  | .apple _ =>
    generation ∈ AppleStore.rememberedGenerationSchedule loaded.record.generation
      loaded.record.previousGeneration

/-- Records that an attempt has authenticated the peer.  On Apple devices the lease of the
relationship may have been given up meanwhile. -/
def persist (fates : Fates) (activeRelationships : List String) (relationshipId : String)
    (credential : Bytes) (generation : Nat) : Store → Recording × Store
  | .android store =>
    match (AndroidStore.advanceAfterPeerAuthentication fates relationshipId credential
      generation).runOn store with
    | (.ok true, left) => (.accepted, .android left)
    | (.ok false, left) => (.refused, .android left)
    | (.error _, left) => (.lost, .android left)
  | .apple store =>
    match (AppleStore.beforeConnected fates relationshipId credential generation).runOn
        { store with activeRelationships } with
    | (.ok (), left) => (.accepted, .apple left)
    | (.error (.threw _), left) => (.refused, .apple left)
    | (.error .died, left) => (.lost, .apple left)

/-- A store in which the relationship has just been created. -/
inductive Creates (relationshipId : String) (generation : Nat) (credential : Bytes) :
    Store → Prop where
  | android {fates : Fates} {before after : AndroidStore} {pending : PendingRememberedPeer}
      (named : pending.relationshipId = relationshipId) (fits : generation ≤ longMax)
      (created : (AndroidStore.create fates pending credential generation).runOn before =
        (.ok true, after)) :
      Creates relationshipId generation credential (.android after)
  | apple {fates : Fates} {before after : AppleStore} {pending : PendingRememberedPeer}
      (named : pending.relationshipId = relationshipId) (fits : generation ≤ uint64Max)
      (created : (AppleStore.create fates pending credential generation).runOn before =
        (.ok (), after)) :
      Creates relationshipId generation credential (.apple after)

def Holds (store : Store) (relationshipId : String) (view : View) : Prop :=
  match store with
  | .android store => store.Holds relationshipId view
  | .apple store => store.Holds relationshipId view

end Store

/-- Both devices have created the relationship in the same generation; each has its own name for
it and no attempt is under way. -/
structure Created (generation : Nat) (pair : Pair) : Prop where
  creates : ∀ party, ∃ credential,
    (pair party).store.Creates (pair party).relationshipId generation credential
  idle : ∀ party, (pair party).phase = .idle

/-- One step of the pair. -/
inductive Step : Pair → Pair → Prop where
  /-- A device opens an attempt; Rust refuses the last generation of a `u64`. -/
  | begins {pair : Pair} (party : Party) {loaded : LoadedRememberedPeer} {generation : Nat}
      (idle : (pair party).phase = .idle)
      (loads : (pair party).store.load (pair party).relationshipId = some loaded)
      (offers : (pair party).store.Offers loaded generation) (fits : generation < uint64Max) :
      Step pair
        (pair.with party { pair party with
          phase := .attempting generation loaded.opaqueCredential })
  /-- An attempt ends without an outcome for this device: it fails, is given up, or its outcome is
  lost. -/
  | ends {pair : Pair} (party : Party) :
      Step pair (pair.with party { pair party with phase := .idle })
  /-- The devices authenticate each other in a common generation; each of them may learn of it or
  not. -/
  | authenticates {pair : Pair} (learns : Party → Bool) {generation : Nat}
      {credential : Party → Bytes}
      (both : ∀ party, (pair party).phase = .attempting generation (credential party)) :
      Step pair fun party => if learns party then
        { pair party with phase := .authenticated generation (credential party) } else pair party
  /-- A device records an outcome it has learned. -/
  | records {pair : Pair} (party : Party) {generation : Nat} {credential : Bytes} (fates : Fates)
      (activeRelationships : List String)
      (authenticated : (pair party).phase = .authenticated generation credential) :
      Step pair (pair.with party { pair party with
        store :=
          ((pair party).store.persist fates activeRelationships
            (pair party).relationshipId credential generation).2
        phase := .idle })

abbrev Reaches : Pair → Pair → Prop := Relation.ReflTransGen Step

/-! ### The stores of a pair -/

namespace Store

variable {store : Store} {relationshipId : String} {view : View}

theorem Holds.load (holds : store.Holds relationshipId view) :
    ∃ loaded, store.load relationshipId = some loaded ∧ loaded.opaqueCredential = view.credential ∧
      loaded.record.generation = view.generation ∧
      loaded.record.previousGeneration = view.previous := by
  cases store with
  | android store => exact AndroidStore.Holds.load holds
  | apple store => exact AppleStore.Holds.sessionMaterial holds

omit cipher in
theorem Offers.mem_window {loaded : LoadedRememberedPeer} {generation : Nat}
    (offers : store.Offers loaded generation) (current : loaded.record.generation = view.generation)
    (previous : loaded.record.previousGeneration = view.previous) :
    generation ∈ view.window := by
  unfold View.window
  rw [← current, ← previous]
  cases store with
  | android store =>
    obtain ⟨usePrevious, rfl⟩ := offers
    cases usePrevious <;> cases retained : loaded.record.previousGeneration <;>
      simp [AndroidStore.selectedGeneration, retained]
  | apple store =>
    exact AppleStore.mem_of_scheduled offers

/-- Whatever becomes of the writes, the store holds the same view or the next one. -/
theorem Holds.persist {fates : Fates} {activeRelationships : List String} {generation : Nat}
    (holds : store.Holds relationshipId view) (linked : view.Linked)
    (offered : generation ∈ view.window) :
    (store.persist fates activeRelationships relationshipId view.credential generation).2.Holds
      relationshipId view ∨
      generation = view.generation ∧
      (store.persist fates activeRelationships relationshipId view.credential generation).2.Holds
        relationshipId
        view.advanced := by
  cases store with
  | android store =>
    obtain ⟨outcome, left, runs, after, -, -⟩ :=
      AndroidStore.advance_spec fates linked holds offered
    simp only [Store.persist, runs]
    cases outcome with
    | ok accepted => cases accepted <;> exact after
    | error failure => exact after
  | apple store =>
    have leased : AppleStore.Holds { store with activeRelationships } relationshipId view := holds
    obtain ⟨outcome, left, runs, after⟩ :=
      AppleStore.beforeConnected_spec fates linked leased offered
    simp only [Store.persist, runs]
    cases outcome with
    | ok accepted => exact after
    | error failure => cases failure <;> exact after

theorem Creates.holds {generation : Nat} {credential : Bytes}
    (created : store.Creates relationshipId generation credential) :
    store.Holds relationshipId ⟨generation, none, credential⟩ := by
  cases created with
  | android named fits created =>
    cases named
    exact AndroidStore.create_holds created fits
  | apple named fits created =>
    cases named
    exact AppleStore.create_holds created

end Store

/-! ### The invariant of a pair -/

/-- What holds in every reachable pair that was created in this generation. -/
structure Sound (created : Nat) (views : Party → View) (pair : Pair) : Prop where
  holds : ∀ party, (pair party).store.Holds (pair party).relationshipId (views party)
  linked : ∀ party, (views party).Linked
  initial : ∀ party, (views party).previous = none → (views party).generation = created
  atLeast : ∀ party, created ≤ (views party).generation
  close : ∀ party, (views party).generation ≤ (views party.other).generation + 1
  attempting : ∀ party generation credential, (pair party).phase =
    .attempting generation credential →
    generation ∈ (views party).window ∧ credential = (views party).credential
  /-- A device that knows of an authentication is not ahead of the other. -/
  authenticated : ∀ party generation credential, (pair party).phase =
    .authenticated generation credential →
    generation ∈ (views party).window ∧ credential = (views party).credential ∧
      generation ≤ (views party.other).generation

variable {created : Nat} {views : Party → View} {pair next : Pair}

/-- A step that changes one device and leaves what it holds. -/
theorem Sound.settle {party : Party} {device : Device} (sound : Sound created views pair)
    (holds : device.store.Holds device.relationshipId (views party))
    (attempting : ∀ generation credential, device.phase = .attempting generation credential →
      generation ∈ (views party).window ∧ credential = (views party).credential)
    (learned : ∀ generation credential, device.phase ≠ .authenticated generation credential) :
    Sound created views (pair.with party device) where
  holds one := by
    obtain rfl | rfl := one.eq_or_eq_other party
    · rw [Pair.with_same]
      exact holds
    · rw [Pair.with_other]
      exact sound.holds party.other
  linked := sound.linked
  initial := sound.initial
  atLeast := sound.atLeast
  close := sound.close
  attempting one generation credential now := by
    obtain rfl | rfl := one.eq_or_eq_other party
    · rw [Pair.with_same] at now
      exact attempting generation credential now
    · rw [Pair.with_other] at now
      exact sound.attempting _ _ _ now
  authenticated one generation credential now := by
    obtain rfl | rfl := one.eq_or_eq_other party
    · rw [Pair.with_same] at now
      exact absurd now (learned generation credential)
    · rw [Pair.with_other] at now
      exact sound.authenticated _ _ _ now

/-- A device that knows of an authentication records it: it catches up or takes one step ahead. -/
theorem Sound.advance {party : Party} {generation : Nat} {credential : Bytes} {store : Store}
    {later : Party → View} (sound : Sound created views pair)
    (known : (pair party).phase = .authenticated generation credential)
    (now : generation = (views party).generation)
    (holds : store.Holds (pair party).relationshipId (views party).advanced)
    (mine : later party = (views party).advanced) (theirs : later party.other = views party.other) :
    Sound created later (pair.with party { pair party with store, phase := .idle }) := by
  obtain ⟨_, _, notAhead⟩ := sound.authenticated _ _ _ known
  have grown : (later party).generation = (views party).generation + 1 := by rw [mine]; rfl
  have back : party.other.other = party := by cases party <;> rfl
  constructor
  · intro one
    obtain rfl | rfl := one.eq_or_eq_other party
    · rw [Pair.with_same, mine]
      exact holds
    · rw [Pair.with_other, theirs]
      exact sound.holds party.other
  · intro one
    obtain rfl | rfl := one.eq_or_eq_other party
    · rw [mine]
      exact View.advanced_linked _
    · rw [theirs]
      exact sound.linked _
  · intro one
    obtain rfl | rfl := one.eq_or_eq_other party
    · rw [mine]
      nofun
    · rw [theirs]
      exact sound.initial _
  · intro one
    obtain rfl | rfl := one.eq_or_eq_other party
    · rw [grown]
      exact Nat.le_succ_of_le (sound.atLeast one)
    · rw [theirs]
      exact sound.atLeast _
  · intro one
    obtain rfl | rfl := one.eq_or_eq_other party
    · rw [grown, theirs]
      omega
    · have behind := sound.close party.other
      rw [back] at behind ⊢
      rw [grown, theirs]
      omega
  · intro one generation credential attempting
    obtain rfl | rfl := one.eq_or_eq_other party
    · rw [Pair.with_same] at attempting
      cases attempting
    · rw [Pair.with_other] at attempting
      rw [theirs]
      exact sound.attempting _ _ _ attempting
  · intro one generation credential learned
    obtain rfl | rfl := one.eq_or_eq_other party
    · rw [Pair.with_same] at learned
      cases learned
    · rw [Pair.with_other] at learned
      obtain ⟨offered, same, atMost⟩ := sound.authenticated _ _ _ learned
      rw [back] at atMost ⊢
      rw [theirs, grown]
      exact ⟨offered, same, Nat.le_succ_of_le atMost⟩

/-- What was held before a step is held after it, in the same generation or the next. -/
theorem Sound.step (sound : Sound created views pair) (step : Step pair next) :
    ∃ later, Sound created later next ∧
      ∀ party, (views party).generation ≤ (later party).generation ∧
        (later party).credential = (views party).credential := by
  cases step with
  | begins party idle loads offers fits =>
    refine ⟨views, sound.settle (sound.holds party) ?_ (by simp), fun _ => ⟨Nat.le_refl _, rfl⟩⟩
    intro generation credential attempting
    cases attempting
    obtain ⟨loaded, found, same, current, previous⟩ := (sound.holds party).load
    cases loads.symm.trans found
    exact ⟨offers.mem_window current previous, same⟩
  | ends party =>
    exact ⟨views, sound.settle (sound.holds party) (by simp) (by simp),
      fun _ => ⟨Nat.le_refl _, rfl⟩⟩
  | @authenticates learns generation credential both =>
    refine ⟨views, ?_, fun _ => ⟨Nat.le_refl _, rfl⟩⟩
    have offered := fun party => sound.attempting party _ _ (both party)
    refine { sound with holds := ?_, attempting := ?_, authenticated := ?_ }
    · intro party
      cases learned : learns party
      · simpa [learned] using sound.holds party
      · simpa [learned] using sound.holds party
    · intro party number secret attempting
      cases learned : learns party
      · simp only [learned] at attempting
        exact sound.attempting _ _ _ attempting
      · simp [learned] at attempting
    · intro party number secret knows
      cases learned : learns party
      · simp only [learned] at knows
        exact sound.authenticated _ _ _ knows
      · simp only [learned, if_true] at knows
        cases knows
        exact ⟨(offered party).1, (offered party).2,
          (sound.linked party.other).le_of_mem (offered party.other).1⟩
  | @records party generation credential fates active known =>
    obtain ⟨offered, same, -⟩ := sound.authenticated _ _ _ known
    cases same
    obtain stays | ⟨now, advances⟩ := (sound.holds party).persist (sound.linked party) offered
    · exact ⟨views, sound.settle stays (by simp) (by simp), fun _ => ⟨Nat.le_refl _, rfl⟩⟩
    · refine ⟨fun one => if one = party then (views party).advanced else views one,
        sound.advance known now advances (by simp) (by simp [party.other_ne]), ?_⟩
      intro one
      by_cases mine : one = party
      · subst mine
        simp only [if_true]
        exact ⟨Nat.le_succ _, rfl⟩
      · simp [mine]

theorem Sound.reaches (sound : Sound created views pair) (run : Reaches pair next) :
    ∃ later, Sound created later next ∧
      ∀ party, (views party).generation ≤ (later party).generation ∧
        (later party).credential = (views party).credential := by
  induction run with
  | refl => exact ⟨views, sound, fun _ => ⟨Nat.le_refl _, rfl⟩⟩
  | tail _ step ih =>
    obtain ⟨between, sound, grown⟩ := ih
    obtain ⟨later, sound, grows⟩ := sound.step step
    exact ⟨later, sound, fun party =>
      ⟨(grown party).1.trans (grows party).1, (grows party).2.trans (grown party).2⟩⟩

theorem Created.sound {generation : Nat} (start : Created generation pair) :
    ∃ views : Party → View, Sound generation views pair ∧
      ∀ party, (views party).generation = generation := by
  choose credential creates using start.creates
  refine ⟨fun party => ⟨generation, none, credential party⟩, ?_, fun _ => rfl⟩
  constructor
  · exact fun party => (creates party).holds
  · exact fun _ _ => nofun
  · exact fun _ _ => rfl
  · exact fun _ => Nat.le_refl _
  · exact fun _ => Nat.le_succ _
  · intro party number secret attempting
    rw [start.idle party] at attempting
    cases attempting
  · intro party number secret learned
    rw [start.idle party] at learned
    cases learned

/-- The windows have a generation in common: the smaller of the two current ones. -/
theorem Sound.common (sound : Sound created views pair) :
    ∃ generation, ∀ party, generation ∈ (views party).window := by
  have behind {party : Party} (ahead : (views party.other).generation < (views party).generation) :
      (views party.other).generation ∈ (views party).window := by
    have close := sound.close party
    cases retained : (views party).previous with
    | none =>
      have first := sound.initial party retained
      have atLeast := sound.atLeast party.other
      omega
    | some previous =>
      have before := sound.linked party previous retained
      have same : (views party.other).generation = previous := by omega
      simp [View.window, retained, same]
  have current (party : Party) : (views party).generation ∈ (views party).window :=
    List.mem_cons_self
  obtain ahead | same | ahead :=
    Nat.lt_trichotomy (views .first).generation (views .second).generation
  · refine ⟨(views .first).generation, fun party => ?_⟩
    cases party with
    | first => exact current _
    | second => exact behind ahead
  · refine ⟨(views .first).generation, fun party => ?_⟩
    cases party with
    | first => exact current _
    | second =>
      rw [same]
      exact current _
  · refine ⟨(views .second).generation, fun party => ?_⟩
    cases party with
    | first => exact behind ahead
    | second => exact current _

/-- In every pair reached from one that was created in a single generation, both credentials can
be loaded, the generations differ by at most one, the windows meet, no generation decreases from
here on, and an authenticated generation is refused only where a write fails or it is the last. -/
theorem remembered_windows_intersect {generation : Nat} {start : Pair}
    (created : Created generation start) (run : Reaches start pair) :
    ∃ loaded : Party → LoadedRememberedPeer,
      (∀ party, (pair party).store.load (pair party).relationshipId = some (loaded party)) ∧
      (∀ party, (loaded party).record.generation ≤ (loaded party.other).record.generation + 1) ∧
      (∃ common, ∀ party, common = (loaded party).record.generation ∨
        (loaded party).record.previousGeneration = some common) ∧
      (∀ later, Reaches pair later → ∀ party, ∃ after,
        (later party).store.load (later party).relationshipId = some after ∧
        (loaded party).record.generation ≤ after.record.generation ∧
        after.opaqueCredential = (loaded party).opaqueCredential) ∧
      (∀ party store authenticated credential fates, (pair party).store = .android store →
        (pair party).phase = .authenticated authenticated credential →
        ((AndroidStore.advanceAfterPeerAuthentication fates
          (pair party).relationshipId credential authenticated).runOn
          store).1 = .ok false →
        fates.credential = .throws ∨ fates.metadata = .throws ∨ authenticated = longMax) := by
  obtain ⟨initial, sound, -⟩ := created.sound
  obtain ⟨views, sound, -⟩ := sound.reaches run
  choose loaded loads credential current previous using fun party => (sound.holds party).load
  refine ⟨loaded, loads, ?_, ?_, ?_, ?_⟩
  · intro party
    rw [current, current]
    exact sound.close party
  · obtain ⟨common, offered⟩ := sound.common
    refine ⟨common, fun party => ?_⟩
    have member := offered party
    simp only [View.window, List.mem_cons, Option.mem_toList] at member
    rw [current, previous]
    exact member
  · intro later run party
    obtain ⟨after, sound, grown⟩ := sound.reaches run
    obtain ⟨found, loads, credential', current', -⟩ := (sound.holds party).load
    refine ⟨found, loads, ?_, ?_⟩
    · rw [current, current']
      exact (grown party).1
    · rw [credential, credential']
      exact (grown party).2
  · intro party store authenticated secret fates android known refused
    obtain ⟨offered, same, -⟩ := sound.authenticated _ _ _ known
    have holds := sound.holds party
    rw [android] at holds
    obtain ⟨outcome, left, runs, -, reason, -⟩ :=
      AndroidStore.advance_spec fates (sound.linked party) holds offered
    rw [same, runs] at refused
    exact reason refused

/-! ### Runs without losses -/

omit cipher in
/-- Every device may try its current generation. -/
theorem Store.offers_current (store : Store) (loaded : LoadedRememberedPeer) :
    store.Offers loaded loaded.record.generation := by
  cases store with
  | android store => exact ⟨false, rfl⟩
  | apple store =>
    show _ ∈ AppleStore.rememberedGenerationSchedule _ _
    unfold AppleStore.rememberedGenerationSchedule
    split
    · simp
    · split <;> simp

/-- Both devices in the middle of an attempt they know to have succeeded. -/
def Pair.met (pair : Pair) (generation : Nat) (views : Party → View) : Pair :=
  fun party => { pair party with phase := .authenticated generation (views party).credential }

/-- A device that has opened an attempt in its current generation. -/
def Device.trying (device : Device) (view : View) : Device :=
  { device with phase := .attempting view.generation view.credential }

theorem Sound.begins (sound : Sound created views pair) (party : Party)
    (idle : (pair party).phase = .idle) (fits : (views party).generation < uint64Max) :
    Step pair (pair.with party ((pair party).trying (views party))) := by
  obtain ⟨loaded, loads, credential, current, -⟩ := (sound.holds party).load
  have offers := (pair party).store.offers_current loaded
  rw [current] at offers
  unfold Device.trying
  rw [← credential]
  exact .begins party idle loads offers fits

theorem Sound.trying (sound : Sound created views pair) (party : Party) :
    Sound created views (pair.with party ((pair party).trying (views party))) := by
  refine sound.settle (sound.holds party) ?_ (by simp [Device.trying])
  intro generation credential attempting
  cases attempting
  exact ⟨List.mem_cons_self, rfl⟩

theorem Sound.meet {generation : Nat} (sound : Sound created views pair)
    (idle : ∀ party, (pair party).phase = .idle)
      (level : ∀ party, (views party).generation = generation) (fits : generation < uint64Max) :
    Reaches pair (pair.met generation views) := by
  have first := sound.begins .first (idle .first) (by rwa [level])
  have second := (sound.trying .first).begins .second (idle .second) (by rwa [level])
  have both : ∀ party, (((pair.with .first ((pair .first).trying (views .first))).with .second
      ((pair .second).trying (views .second))) party).phase =
          .attempting generation (views party).credential := by
    intro party
    cases party with
    | first => exact congrArg (Phase.attempting · _) (level .first)
    | second => exact congrArg (Phase.attempting · _) (level .second)
  have third := Step.authenticates (fun _ => true) both
  have arrived :
    (fun party => { (pair.with .first ((pair .first).trying (views .first))).with .second
      ((pair .second).trying (views .second)) party with
        phase := .authenticated generation (views party).credential }) =
            pair.met generation views := by
    funext party
    cases party <;> rfl
  simp only [if_true, arrived] at third
  exact ((Relation.ReflTransGen.single first).tail second).tail third

theorem Sound.met {generation : Nat} (sound : Sound created views pair)
    (level : ∀ party, (views party).generation = generation) :
      Sound created views (pair.met generation views) := by
  refine { sound with holds := sound.holds, attempting := nofun, authenticated := ?_ }
  intro party number secret known
  cases known
  have current : generation ∈ (views party).window := List.mem_cons.mpr (.inl (level party).symm)
  exact ⟨current, rfl, (level party.other).ge⟩

/-- An outcome is recorded on an Android device and every write takes place. -/
theorem Sound.completes {party : Party} {generation : Nat} {credential : Bytes}
    {store : AndroidStore} (sound : Sound created views pair)
    (known : (pair party).phase = .authenticated generation credential)
    (now : generation = (views party).generation) (below : generation < longMax)
    (android : (pair party).store = .android store) :
    ∃ next later, Step pair next ∧ Sound created later next ∧ later party = (views party).advanced ∧
      later party.other = views party.other ∧ (next party).phase = .idle ∧
      (∃ store, (next party).store = .android store) ∧ next party.other = pair party.other := by
  obtain ⟨offered, same, -⟩ := sound.authenticated _ _ _ known
  have holds := sound.holds party
  rw [android] at holds
  obtain ⟨outcome, left, runs, -, -, advances⟩ := AndroidStore.advance_spec
    ⟨.completes, .completes, .completes, .completes⟩ (sound.linked party) holds offered
  have step := Step.records party ⟨.completes, .completes, .completes, .completes⟩ [] known
  have written : ((pair party).store.persist ⟨.completes, .completes, .completes, .completes⟩ []
      (pair party).relationshipId credential generation).2 = .android left := by
    rw [android, same]
    simp only [Store.persist, runs]
    cases outcome with
    | ok accepted => cases accepted <;> rfl
    | error failure => rfl
  rw [written] at step
  refine ⟨_, fun one => if one = party then (views party).advanced else views one, step,
    sound.advance known now (advances now below rfl rfl) (by simp)
    (by simp [party.other_ne]), by simp,
    by simp [party.other_ne], ?_, ?_, ?_⟩
  · rw [Pair.with_same]
  · rw [Pair.with_same]
    exact ⟨left, rfl⟩
  · rw [Pair.with_other]

/-- Two Android devices at rest in the same generation. -/
structure Level (created generation : Nat) (pair : Pair) : Prop where
  idle : ∀ party, (pair party).phase = .idle
  android : ∀ party, ∃ store, (pair party).store = .android store
  sound : ∃ views, Sound created views pair ∧ ∀ party, (views party).generation = generation

theorem Level.climb {generation : Nat} (rest : Level created generation pair)
    (below : generation < longMax) :
    ∃ next, Reaches pair next ∧ Level created (generation + 1) next := by
  obtain ⟨views, sound, level⟩ := rest.sound
  have meets := sound.meet rest.idle level (below.trans (by decide))
  obtain ⟨store, android⟩ := rest.android .first
  obtain ⟨store', android'⟩ := rest.android .second
  obtain ⟨between, viewsBetween, first, soundBetween, mine, theirs, idle, kept, other⟩ :=
    (sound.met level).completes (rfl : (pair.met generation views .first).phase = _)
      (level .first).symm below android
  have known : (between .second).phase = .authenticated generation (views .second).credential :=
    congrArg Device.phase other
  have android' : (between .second).store = .android store' :=
    (congrArg Device.store other).trans android'
  have now : generation = (viewsBetween .second).generation := by
    rw [show viewsBetween .second = views .second from theirs, level]
  obtain ⟨next, later, second, sound, mine', theirs', idle', kept', other'⟩ :=
    soundBetween.completes known now below android'
  refine ⟨next, (meets.tail first).tail second, ?_, ?_, later, sound, ?_⟩
  · intro party
    cases party with
    | first => exact (congrArg Device.phase other').trans idle
    | second => exact idle'
  · intro party
    cases party with
    | first =>
      obtain ⟨store, android⟩ := kept
      exact ⟨store, (congrArg Device.store other').trans android⟩
    | second => exact kept'
  · intro party
    cases party with
    | first =>
      rw [show later .first = viewsBetween .first from theirs', mine]
      exact congrArg (· + 1) (level .first)
    | second =>
      rw [mine']
      exact congrArg (· + 1) now.symm

theorem Level.reaches {generation : Nat} (rest : Level created created pair)
    (above : created ≤ generation) (fits : generation ≤ longMax) :
    ∃ next, Reaches pair next ∧ Level created generation next := by
  induction generation, above using Nat.le_induction with
  | base => exact ⟨pair, .refl, rest⟩
  | succ number _ ih =>
    obtain ⟨between, run, level⟩ := ih (by omega)
    obtain ⟨next, climbs, level⟩ := level.climb (by omega)
    exact ⟨next, run.trans climbs, level⟩

end Pair

/-! ### Two phones -/

/-- A sealed text carries the data it is bound to. -/
@[reducible] def bindingCipher : KeystoreCipher where
  encrypt plaintext aad := aad ++ plaintext
  decrypt envelope aad := if aad.isPrefixOf envelope then some (envelope.drop aad.length) else none
  decrypt_encrypt plaintext aad := by simp

attribute [local instance] bindingCipher

def phonePending : Party → PendingRememberedPeer
  | .first => ⟨"5a6c1f0e-0d0b-4b6e-8f53-0f1f6f0c9a01", "0c7f3f5e-9d52-4a55-9f4e-2a1f1b7b9b02",
    "Phone", "broker", ""⟩
  | .second =>
    ⟨"77de6c1a-5c1d-4d0e-a3f1-9d2f6e1c4b03", "2f9b8a44-1f6b-4c1b-8d53-6f0e5a7d2c04", "Tablet",
      "broker", ""⟩

/-- Two phones that have just created the relationship, as the room control does, in generation
0. -/
def phones : Pair := fun party => {
  relationshipId := (phonePending party).relationshipId
  store :=
    .android
      ((AndroidStore.create ⟨.completes, .completes, .completes, .completes⟩ (phonePending party)
    (asBytes "shared secret") 0).runOn ⟨[], fun _ _ => none⟩).2
  phase := .idle }

theorem phones_created : Created 0 phones where
  creates party := by
    have made :
      (AndroidStore.create ⟨.completes, .completes, .completes, .completes⟩ (phonePending party)
      (asBytes "shared secret") 0).runOn ⟨[], fun _ _ => none⟩ = (.ok true, _) := rfl
    exact ⟨asBytes "shared secret", .android rfl (by decide) made⟩
  idle _ := rfl

/-- A pair one side of which has recorded an outcome that the other has lost. -/
theorem remembered_windows_intersect_phones :
    ∃ pair : Pair, Reaches phones pair ∧ ∃ loaded : Party → LoadedRememberedPeer,
      (∀ party, (pair party).store.load (pair party).relationshipId = some (loaded party)) ∧
      (loaded .first).record.generation = (loaded .second).record.generation + 1 ∧
      ∃ common, ∀ party, common = (loaded party).record.generation ∨
        (loaded party).record.previousGeneration = some common := by
  obtain ⟨views, sound, level⟩ := phones_created.sound
  have meets := sound.meet phones_created.idle level (by decide)
  obtain ⟨pair, later, step, soundLater, mine, theirs, -⟩ :=
    (sound.met level).completes (rfl : (phones.met 0 views .first).phase = _)
      (level .first).symm (by decide) rfl
  have run := meets.tail step
  obtain ⟨loaded, loads, close, common, -⟩ := remembered_windows_intersect phones_created run
  refine ⟨pair, run, loaded, loads, ?_, common⟩
  obtain ⟨first, loadsFirst, -, current, -⟩ := (soundLater.holds .first).load
  obtain ⟨second, loadsSecond, -, current', -⟩ := (soundLater.holds .second).load
  cases (loads .first).symm.trans loadsFirst
  cases (loads .second).symm.trans loadsSecond
  rw [current, current', mine, show later .second = views .second from theirs, level]
  exact congrArg (· + 1) (level .first)

/-- At the last `Long` an authenticated generation is refused although no write fails. -/
theorem advance_refuses_last_generation :
    ∃ pair : Pair, Reaches phones pair ∧ ∃ store credential,
      (pair .first).store = .android store ∧
      (pair .first).phase = .authenticated longMax credential ∧
      ((AndroidStore.advanceAfterPeerAuthentication ⟨.completes, .completes, .completes, .completes⟩
        (pair .first).relationshipId credential longMax).runOn store).1 = .ok false := by
  obtain ⟨views, sound, level⟩ := phones_created.sound
  have rest : Level 0 0 phones := ⟨phones_created.idle, fun _ => ⟨_, rfl⟩, views, sound, level⟩
  obtain ⟨last, run, level⟩ := rest.reaches (Nat.zero_le longMax) (Nat.le_refl _)
  obtain ⟨views, sound, equal⟩ := level.sound
  obtain ⟨store, android⟩ := level.android .first
  have meets := sound.meet level.idle equal (by decide)
  refine ⟨last.met longMax views, run.trans meets, store, (views .first).credential,
    android, rfl, ?_⟩
  have holds := sound.holds .first
  rw [android] at holds
  obtain ⟨record, found, -⟩ := holds
  unfold AndroidStore.advanceAfterPeerAuthentication
  rw [runOn_bind_of_ok _ (runOn_get store)]
  have full : AndroidStore.addExact longMax = none := by decide
  have same : (last.met longMax views .first).relationshipId = (last .first).relationshipId := rfl
  simp only [same, found, full]
  rfl

end Envoix.Remembered
