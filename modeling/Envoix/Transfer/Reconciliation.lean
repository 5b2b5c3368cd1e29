import Envoix.Transfer.Destination
import Envoix.Transfer.ResumeAgreement

/-! # Reconciling an intact staging directory

`reconcile_resume` judges every boundary by one test: is there a file of `plaintext_bytes` bytes at
the staging path.  It leaves a ledger alone exactly when that test holds for every pending entry
with a boundary or a completion.
-/

namespace Envoix.Transfer

open ByteCodec Fallible Process Process.Method Envoix.Protocol FileSystem

section Reset

variable {saves : ReceiverDataPlaneLedgerV2 → WriteReply} {state left : Reconciling}
  {entryId : UInt32}

/-- The ledger with the payload of one entry started over. -/
def ReceiverDataPlaneLedgerV2.withReset (ledger : ReceiverDataPlaneLedgerV2) (entryId : UInt32)
    (entry : ManifestEntryV2) (checkpoint : ReceiverEntryCheckpointV2) :
    ReceiverDataPlaneLedgerV2 :=
  { ledger.put entryId.toNat { checkpoint.retired entry with start := none } with
    senderCompletionSetDigest := none }

/-- What `reset_payload_checkpoint` checks before it writes. -/
structure Resettable (manifest : ManifestV2) (ledger : ReceiverDataPlaneLedgerV2) (entryId : UInt32)
    (entry : ManifestEntryV2) (checkpoint : ReceiverEntryCheckpointV2) : Prop where
  entryFound : manifest.entries[entryId.toNat]? = some entry
  found : ledger.entries[entryId.toNat]? = some checkpoint
  unfinished : checkpoint.result = none

theorem resetPayloadCheckpoint_rewrites {manifest : ManifestV2} {ledger : ReceiverDataPlaneLedgerV2}
    (world : EngineWorld) :
    (resetPayloadCheckpoint manifest entryId).Yields senderContract
      (fun _ left _ => ∃ entry checkpoint, Resettable manifest ledger entryId entry checkpoint ∧
        left = ledger.withReset entryId entry checkpoint) ledger world := by
  simp only [resetPayloadCheckpoint, yields_bind, yields_get, yields_raise, okOr_eq_ok,
    Option.filter_eq_some_iff, reject_eq_ok, not_or]
  rintro entry ⟨entryFound, _⟩ plan _ checkpoint ⟨present, _⟩ _ ⟨unfinished, _⟩
  have unfinished : checkpoint.result = none := by simpa using unfinished
  apply yields_updateCheckpoint
  rw [yields_modify, ReceiverDataPlaneLedgerV2.update_eq_put present]
  exact yields_saveLedger trivial ⟨trivial, entry, checkpoint,
    ⟨entryFound, present, unfinished⟩, rfl⟩

/-- A reset that goes through has rewritten one checkpoint. -/
theorem onLedger_reset_leads {manifest : ManifestV2} {done : Unit}
    (leads : (onLedger saves (resetPayloadCheckpoint manifest entryId)).Leads state done left) :
    ∃ entry checkpoint, Resettable manifest state.ledger entryId entry checkpoint ∧
      left = { state with ledger := state.ledger.withReset entryId entry checkpoint } := by
  simp only [onLedger, leads_bind, leads_get] at leads
  obtain ⟨_, _, ⟨rfl, rfl⟩, leads⟩ := leads
  split at leads
  case h_1 _ => exact absurd leads (by simp)
  case h_2 result ledger ran =>
    simp only [leads_bind, leads_set, leads_raise, mapErr_eq_ok] at leads
    obtain ⟨_, _, rfl, rfl, rfl⟩ := leads
    have anyWorld : EngineWorld := ⟨none, none, none, [], []⟩
    obtain ⟨_, rewritten⟩ := Proc.Always.interpret (by
      intro world op reply answered
      cases op with
      | saveLedger ledger => trivial
      | _ => cases answered) (resetPayloadCheckpoint_rewrites anyWorld) ran
    obtain ⟨entry, checkpoint, resettable, rfl⟩ := rewritten done rfl
    exact ⟨entry, checkpoint, resettable, rfl⟩

end Reset

section Boundaries

variable {saves : ReceiverDataPlaneLedgerV2 → WriteReply} {state left : Reconciling}
  {entryId : UInt32}
  {nextPlaintextBlock plaintextBytes : UInt64} {payloadComplete : Bool} {done : Unit}

/-- An index expression that does not panic. -/
theorem indexed_leads {α : Type} {elements : List α} {index : Nat} {found : α} :
    (indexed elements index).Leads state found left ↔
      elements[index]? = some found ∧ state = left := by
  unfold indexed
  cases elements[index]? <;> simp

theorem boundaryIsOwned_leads {path : Path} {owned : Bool} :
    (boundaryIsOwned path plaintextBytes).Leads state owned left →
      state = left ∧ (owned = true ↔ state.files.HasFile path plaintextBytes.toNat) := by
  intro leads
  simp only [boundaryIsOwned, leads_bind, leads_get] at leads
  obtain ⟨_, _, ⟨rfl, rfl⟩, leads⟩ := leads
  rw [← Files.metadata_eq_file_iff]
  cases found : state.files.metadata path with
  | ok metadata =>
    simp only [found, leads_pure] at leads
    obtain ⟨rfl, rfl⟩ := leads
    simp
  | error error =>
    cases error with
    | notFound =>
      simp only [found, leads_pure] at leads
      obtain ⟨rfl, rfl⟩ := leads
      simp
    | other message =>
      rw [found] at leads
      exact absurd leads (by simp)

theorem removeStaged_leads {path : Path} (leads : (removeStaged path).Leads state done left) :
    ∃ files, left = { state with files } := by
  simp only [removeStaged, leads_bind, leads_get, leads_modify] at leads
  obtain ⟨_, _, ⟨rfl, rfl⟩, _, _, rfl, leads⟩ := leads
  split at leads
  case h_3 _ => exact absurd leads (by simp)
  all_goals
    obtain ⟨-, rfl⟩ := leads_pure.mp leads
    exact ⟨_, rfl⟩

/-- Looking at a root changes nothing. -/
theorem rootFinalized_unchanged {entry : ManifestEntryV2} {finalized : Bool}
    (leads : (rootFinalized entry).Leads state finalized left) : state = left := by
  simp only [rootFinalized, leads_bind, leads_get, indexed_leads] at leads
  obtain ⟨_, _, ⟨rfl, rfl⟩, root, _, ⟨found, rfl⟩, leads⟩ := leads
  cases root with
  | pending => exact (leads_pure.mp leads).2
  | finalizeIntent | saved =>
    simp only [leads_bind, leads_raise, leads_get] at leads
    obtain ⟨_, _, ⟨_, rfl⟩, _, _, ⟨rfl, rfl⟩, _, rfl⟩ := leads
    rfl

theorem rootFinalized_leads {entry : ManifestEntryV2} {finalized : Bool}
    (pending : ∀ root ∈ state.provider.saveRoots, root = .pending)
    (leads : (rootFinalized entry).Leads state finalized left) : finalized = false := by
  simp only [rootFinalized, leads_bind, leads_get, indexed_leads] at leads
  obtain ⟨_, _, ⟨rfl, rfl⟩, root, _, ⟨found, rfl⟩, leads⟩ := leads
  obtain rfl := pending root (List.mem_of_getElem? found)
  exact (leads_pure.mp leads).1.symm

/-- The entry has a boundary or a completion that the staging directory has to bear out. -/
def Claimed (nextPlaintextBlock : UInt64) (payloadComplete : Bool) : Prop :=
  ¬ (nextPlaintextBlock = 0 ∧ ¬ payloadComplete)

/-- The entry's root is not finalized, and its staging file is not there with the length of the
boundary. -/
def Lost (state : Reconciling) (entryId : UInt32) (plaintextBytes : UInt64) : Prop :=
  ∃ entry path, state.provider.manifest.entries[entryId.toNat]? = some entry ∧
    (rootFinalized entry).Leads state false state ∧
    state.provider.entryPaths[entryId.toNat]? = some path ∧
    ¬ state.files.HasFile path plaintextBytes.toNat

/-- A round that goes through either leaves everything alone or has reset the entry. -/
theorem reconcileBoundary_cases
    (leads :
      (reconcileBoundary saves entryId nextPlaintextBlock plaintextBytes payloadComplete).Leads
        state done left) :
    (left = state ∧ (Claimed nextPlaintextBlock payloadComplete → ∃ entry finalized path,
      (rootFinalized entry).Leads state finalized state ∧ (finalized = false →
        state.provider.entryPaths[entryId.toNat]? = some path ∧
          state.files.HasFile path plaintextBytes.toNat))) ∨
    Claimed nextPlaintextBlock payloadComplete ∧ Lost state entryId plaintextBytes ∧
      ∃ files entry checkpoint,
        Resettable state.provider.manifest state.ledger entryId entry checkpoint ∧
        left = { state with files, ledger := state.ledger.withReset entryId entry checkpoint } := by
  unfold reconcileBoundary at leads
  split at leads
  case isTrue unclaimed =>
    obtain ⟨-, rfl⟩ := leads_pure.mp leads
    exact .inl ⟨rfl, fun claimed => absurd unclaimed claimed⟩
  case isFalse claimed =>
    simp only [leads_bind, leads_get, indexed_leads] at leads
    obtain ⟨_, _, ⟨rfl, rfl⟩, entry, _, ⟨entryFound, rfl⟩, finalized, _, root, leads⟩ := leads
    obtain rfl := rootFinalized_unchanged root
    cases finalized with
    | true =>
      obtain ⟨-, rfl⟩ := leads_pure.mp leads
      exact .inl ⟨rfl, fun _ => ⟨entry, true, [], root, (by simp)⟩⟩
    | false =>
      simp only [Bool.false_eq_true, if_false, leads_bind, leads_get, indexed_leads] at leads
      obtain ⟨_, _, ⟨rfl, rfl⟩, path, _, ⟨found, rfl⟩, owned, _, tested, leads⟩ := leads
      obtain ⟨rfl, there⟩ := boundaryIsOwned_leads tested
      cases owned with
      | true =>
        obtain ⟨-, rfl⟩ := leads_pure.mp leads
        exact .inl ⟨rfl, fun _ => ⟨entry, false, path, root, fun _ => ⟨found, there.mp rfl⟩⟩⟩
      | false =>
        simp only [Bool.false_eq_true, if_false, leads_bind, leads_get] at leads
        obtain ⟨_, _, removed, _, _, ⟨rfl, rfl⟩, leads⟩ := leads
        obtain ⟨files, rfl⟩ := removeStaged_leads removed
        obtain ⟨reset, checkpoint, resettable, rfl⟩ := onLedger_reset_leads leads
        have missing : ¬ state.files.HasFile path plaintextBytes.toNat := fun present =>
          absurd (there.mpr present) (by simp)
        exact .inr ⟨claimed, ⟨entry, path, entryFound, root, found, missing⟩, files, reset,
          checkpoint, resettable, rfl⟩

/-- A round that goes through on a pending root either has found the file of the boundary, or has
reset the entry. -/
theorem reconcileBoundary_leads
    (pending : ∀ root ∈ state.provider.saveRoots, root = .pending)
    (leads :
      (reconcileBoundary saves entryId nextPlaintextBlock plaintextBytes payloadComplete).Leads
        state done left) :
    (left = state ∧ (Claimed nextPlaintextBlock payloadComplete →
      ∃ path, state.provider.entryPaths[entryId.toNat]? = some path ∧
        state.files.HasFile path plaintextBytes.toNat)) ∨
    Claimed nextPlaintextBlock payloadComplete ∧
      ∃ files entry checkpoint, state.ledger.entries[entryId.toNat]? = some checkpoint ∧
        left = { state with files, ledger := state.ledger.withReset entryId entry checkpoint } := by
  obtain ⟨same, found⟩ | ⟨claimed, -, files, entry, checkpoint, resettable, same⟩ :=
    reconcileBoundary_cases leads
  · refine .inl ⟨same, fun claimed => ?_⟩
    obtain ⟨entry, finalized, path, root, owned⟩ := found claimed
    exact ⟨path, owned (rootFinalized_leads pending root)⟩
  · exact .inr ⟨claimed, files, entry, checkpoint, resettable.found, same⟩

/-- Boundaries as `pending_payload_boundaries` lists them. -/
abbrev Boundary := UInt32 × UInt64 × UInt64 × Bool

/-- Only the listed entries are touched. -/
theorem reconcileBoundaries_frame {boundaries : List Boundary}
    (pending : ∀ root ∈ state.provider.saveRoots, root = .pending)
    (leads : (reconcileBoundaries saves boundaries).Leads state done left) {index : Nat}
    (elsewhere : ∀ boundary ∈ boundaries, boundary.1.toNat ≠ index) :
    left.ledger.entries[index]? = state.ledger.entries[index]? := by
  induction boundaries generalizing state with
  | nil =>
    obtain ⟨-, rfl⟩ := leads_pure.mp leads
    rfl
  | cons boundary boundaries ih =>
    obtain ⟨entryId, next, bytes, complete⟩ := boundary
    obtain ⟨_, between, first, rest⟩ := leads_bind.mp leads
    have later := fun boundary listed => elsewhere boundary (List.mem_cons_of_mem _ listed)
    obtain ⟨rfl, -⟩ | ⟨-, files, entry, checkpoint, present, rfl⟩ :=
      reconcileBoundary_leads pending first
    · exact ih pending rest later
    · have kept :
        ∀ root ∈ (Reconciling.mk files state.provider (state.ledger.withReset entryId entry
          checkpoint)).provider.saveRoots, root = .pending := pending
      rw [ih kept rest later]
      exact ReceiverDataPlaneLedgerV2.entries_put_of_ne (elsewhere _ List.mem_cons_self).symm

/-- Rounds that leave every checkpoint as it was have found the file of every boundary. -/
theorem reconcileBoundaries_owned {boundaries : List Boundary}
    (pending : ∀ root ∈ state.provider.saveRoots, root = .pending)
    (distinct : boundaries.Pairwise fun first second => second.1.toNat ≠ first.1.toNat)
    (stored : ∀ entryId next bytes complete, (entryId, next, bytes, complete) ∈ boundaries →
      ∃ checkpoint, state.ledger.entries[entryId.toNat]? = some checkpoint ∧
        checkpoint.nextPlaintextBlock = next ∧ checkpoint.completion.isSome = complete)
    (leads : (reconcileBoundaries saves boundaries).Leads state done left)
    (unchanged : left.ledger.entries = state.ledger.entries) :
    ∀ entryId next bytes complete, (entryId, next, bytes, complete) ∈ boundaries →
      Claimed next complete → ∃ path, state.provider.entryPaths[entryId.toNat]? = some path ∧
        state.files.HasFile path bytes.toNat := by
  induction boundaries generalizing state with
  | nil => exact fun _ _ _ _ listed => nomatch listed
  | cons boundary boundaries ih =>
    obtain ⟨entryId, next, bytes, complete⟩ := boundary
    obtain ⟨_, between, first, rest⟩ := leads_bind.mp leads
    obtain ⟨apart, distinct⟩ := List.pairwise_cons.mp distinct
    obtain ⟨rfl, owned⟩ | ⟨claimed, files, entry, checkpoint, present, rfl⟩ :=
      reconcileBoundary_leads pending first
    · intro otherId otherNext otherBytes otherComplete listed claimed
      cases listed with
      | head => exact owned claimed
      | tail _ listed =>
        exact ih pending distinct (fun entryId next bytes complete listed =>
          stored entryId next bytes complete (.tail _ listed))
          rest unchanged otherId otherNext otherBytes otherComplete listed claimed
    · -- a reset entry stays reset, and it had something to lose
      have kept :
        ∀ root ∈ (Reconciling.mk files state.provider (state.ledger.withReset entryId entry
          checkpoint)).provider.saveRoots, root = .pending := pending
      have reset := reconcileBoundaries_frame kept rest apart
      rw [unchanged, present,
        show (state.ledger.withReset entryId entry checkpoint).entries[entryId.toNat]? = _ from
        ReceiverDataPlaneLedgerV2.entries_put_self (List.getElem?_eq_some_iff.mp present).1,
          Option.some.injEq] at reset
      obtain ⟨found, again, nextSame, completeSame⟩ :=
        stored entryId next bytes complete List.mem_cons_self
      obtain rfl := Option.some.inj (present.symm.trans again)
      refine absurd ⟨?_, ?_⟩ claimed
      · rw [← nextSame, reset]
        rfl
      · rw [← completeSame, reset]
        simp [ReceiverEntryCheckpointV2.retired]

/-- Rounds over boundaries that are all borne out change nothing. -/
theorem reconcileBoundaries_passes {boundaries : List Boundary}
    (pending : ∀ root ∈ state.provider.saveRoots, root = .pending)
    (placed : ∀ entryId next bytes complete, (entryId, next, bytes, complete) ∈ boundaries →
      Claimed next complete →
        ∃ entry root path, state.provider.manifest.entries[entryId.toNat]? = some entry ∧
        state.provider.saveRoots[entry.rootId.toNat]? = some root ∧
        state.provider.entryPaths[entryId.toNat]? = some path ∧
        state.files.HasFile path bytes.toNat) :
    (reconcileBoundaries saves boundaries).Leads state () state := by
  induction boundaries with
  | nil => exact leads_pure.mpr ⟨rfl, rfl⟩
  | cons boundary boundaries ih =>
    obtain ⟨entryId, next, bytes, complete⟩ := boundary
    refine leads_bind.mpr ⟨(), state, ?_, ih fun entryId next bytes complete listed =>
      placed entryId next bytes complete (.tail _ listed)⟩
    unfold reconcileBoundary
    split
    case isTrue _ => exact leads_pure.mpr ⟨rfl, rfl⟩
    case isFalse claimed =>
      obtain ⟨entry, root, path, entryFound, rootFound, pathFound, there⟩ :=
        placed entryId next bytes complete List.mem_cons_self claimed
      obtain rfl := pending root (List.mem_of_getElem? rootFound)
      have unfinalized : (rootFinalized entry).Leads state false state := by
        simp only [rootFinalized, leads_bind, leads_get, indexed_leads]
        exact ⟨state, state, ⟨rfl, rfl⟩, _, state, ⟨rootFound, rfl⟩, leads_pure.mpr ⟨rfl, rfl⟩⟩
      have owned : (boundaryIsOwned path bytes).Leads state true state := by
        obtain ⟨metadata, found, isFile, length⟩ := Files.metadata_eq_file_iff.mpr there
        simp only [boundaryIsOwned, leads_bind, leads_get]
        refine ⟨state, state, ⟨rfl, rfl⟩, ?_⟩
        simp [found, isFile, length]
      simp only [leads_bind, leads_get, indexed_leads]
      refine ⟨state, state, ⟨rfl, rfl⟩, entry, state, ⟨entryFound, rfl⟩, false, state,
        unfinalized, ?_⟩
      simp only [Bool.false_eq_true, if_false, leads_bind, leads_get, indexed_leads]
      refine ⟨state, state, ⟨rfl, rfl⟩, path, state, ⟨pathFound, rfl⟩, true, state, owned, ?_⟩
      exact leads_pure.mpr ⟨rfl, rfl⟩

end Boundaries

section Reuse

variable [Blake3] {state : Reconciling}

/-- The entries for which `try_open_reuse` looks for an object at all. -/
@[reducible] def LocalDestinationProviderV2.sink (provider : LocalDestinationProviderV2) :
    PayloadSink where
  reusable entry := provider.plan.storageDomain.stableObjectIdentity = true ∧
    entry.kind = .regularFile ∧ ∃ root, provider.manifest.roots[entry.rootId.toNat]? = some root ∧
      entry.entryId = root.rootEntryId

/-- The object that stands in for an entry is at its place with this digest. -/
def ObjectIntact (provider : LocalDestinationProviderV2) (files : Files) (entry : ManifestEntryV2)
    (digest : ContentDigestV2) : Prop :=
  ∀ root, provider.manifest.roots[entry.rootId.toNat]? = some root →
    ∃ content,
      files
        (provider.plan.targetDirectory.join (linuxNames.providerSafeComponent root.requestedName)) =
          .file content ∧
      content.length = entry.plaintextSize.toNat ∧
      (⟨Blake3.hash content⟩ : ContentDigestV2) = digest

theorem tryOpenReuse_leads {entry : ManifestEntryV2} {digest : ContentDigestV2}
    (reusable : state.provider.sink.reusable entry)
    (intact : ObjectIntact state.provider state.files entry digest) :
    ∃ reuse, (tryOpenReuse entry digest).Leads state (some reuse) state := by
  obtain ⟨stable, file, root, found, own⟩ := reusable
  obtain ⟨content, there, length, hashed⟩ := intact root found
  refine ⟨⟨content, content.length, digest, linuxNames.providerSafeComponent root.requestedName⟩,
    ?_⟩
  simp only [tryOpenReuse, leads_bind, leads_get]
  refine ⟨state, state, ⟨rfl, rfl⟩, ?_⟩
  rw [if_neg (by simpa using stable)]
  simp only [leads_bind, indexed_leads]
  refine ⟨root, state, ⟨found, rfl⟩, ?_⟩
  rw [if_neg (by simp [own, file])]
  simp only [leads_bind, leads_get]
  refine ⟨state, state, ⟨rfl, rfl⟩, ?_⟩
  simp [Files.metadata, Files.read, there, length, hashed, mapErr]

/-- The first loop opens every object and changes nothing else. -/
theorem reconcileReuses_leads {reuses : List (UInt32 × ContentDigestV2)}
    (intact : ∀ entryId digest, (entryId, digest) ∈ reuses → ∃ entry,
      state.provider.manifest.entries[entryId.toNat]? = some entry ∧
      state.provider.sink.reusable entry ∧ ObjectIntact state.provider state.files entry digest) :
    ∃ objects, (reconcileReuses reuses).Leads state ()
      { state with provider := { state.provider with reuseObjects := objects } } := by
  induction reuses generalizing state with
  | nil => exact ⟨state.provider.reuseObjects, leads_pure.mpr ⟨rfl, rfl⟩⟩
  | cons first reuses ih =>
    obtain ⟨entryId, digest⟩ := first
    obtain ⟨entry, found, reusable, object⟩ := intact entryId digest List.mem_cons_self
    obtain ⟨reuse, opened⟩ := tryOpenReuse_leads reusable object
    have later := fun entryId digest listed => intact entryId digest (List.mem_cons_of_mem _ listed)
    obtain ⟨objects, rest⟩ := @ih { state with provider := { state.provider with
      reuseObjects := (entryId, reuse) :: state.provider.reuseObjects.filter (·.1 ≠ entryId) } }
        later
    refine ⟨objects, ?_⟩
    simp only [reconcileReuses, leads_bind, leads_get, indexed_leads, leads_raise, okOr_eq_ok,
      insertReuse, leads_modify]
    exact ⟨state, state, ⟨rfl, rfl⟩, entry, state, ⟨found, rfl⟩, some reuse, state, opened, reuse,
      state, ⟨rfl, rfl⟩, (), _, rfl, rest⟩

end Reuse

section Intact

variable [Blake3] [UnicodeNormalization] [Zstd] {provider : LocalDestinationProviderV2}
  {files : Files}
  {offer : ManifestOfferV2} {accept : ManifestAcceptV2} {ledger : ReceiverDataPlaneLedgerV2}

/-- Entry, checkpoint and staging path at one index. -/
structure StagedAt (provider : LocalDestinationProviderV2) (ledger : ReceiverDataPlaneLedgerV2)
    (index : Nat) (entry : ManifestEntryV2) (checkpoint : ReceiverEntryCheckpointV2) (path : Path) :
    Prop where
  entry : provider.manifest.entries[index]? = some entry
  checkpoint : ledger.entries[index]? = some checkpoint
  path : provider.entryPaths[index]? = some path

/-- No entry has a result, no root is being saved, and the staging directory holds what the ledger
says: partial and complete files, made directories, and the objects that were chosen for reuse. -/
structure IntactStaging (provider : LocalDestinationProviderV2) (files : Files)
    (ledger : ReceiverDataPlaneLedgerV2) :
    Prop where
  unfinished : ∀ checkpoint ∈ ledger.entries, checkpoint.result = none
  pending : ∀ root ∈ provider.saveRoots, root = .pending
  payloads : ∀ index entry checkpoint path, StagedAt provider ledger index entry checkpoint path →
    entry.kind = .regularFile → checkpoint.nextPlaintextBlock ≠ 0 ∨ checkpoint.completion.isSome →
    checkpoint.arbiter ≠ .reuseChosen → files.HasFile path checkpoint.plaintextBytes.toNat
  directories :
    ∀ index entry checkpoint path, StagedAt provider ledger index entry checkpoint path →
    entry.kind = .directory → checkpoint.completion.isSome → files path = .directory
  objects : ∀ index entry checkpoint path, StagedAt provider ledger index entry checkpoint path →
    checkpoint.arbiter = .reuseChosen →
    ∀ digest ∈ checkpoint.contentDigest, ObjectIntact provider files entry digest

/-- Every entry that was to receive a payload and is complete is a file, and a reused one still has
a staging file of the recorded length. -/
def CompleteFilesOnly (provider : LocalDestinationProviderV2) (files : Files)
    (ledger : ReceiverDataPlaneLedgerV2) : Prop :=
  ∀ index entry checkpoint path plan, StagedAt provider ledger index entry checkpoint path →
    ledger.accept.entryPlans[index]? = some plan → plan.disposition = .receivePayload →
    checkpoint.completion.isSome → entry.kind = .regularFile ∧
      (checkpoint.arbiter = .reuseChosen → files.HasFile path checkpoint.plaintextBytes.toNat)

omit [Zstd] in
/-- What a consistent ledger has at one index. -/
theorem LedgerOk.checkpoint_at [PayloadSink] (agreed : Agreed offer accept)
    (ok : LedgerOk offer accept ledger) {index : Nat} {checkpoint : ReceiverEntryCheckpointV2}
    (present : ledger.entries[index]? = some checkpoint) :
    ∃ entry plan, offer.manifest.entries[index]? = some entry ∧
      accept.entryPlans[index]? = some plan ∧ checkpoint.entryId.toNat = index ∧
      CheckpointOk accept.identity entry plan checkpoint := by
  have bound := (List.getElem?_eq_some_iff.mp present).1
  rw [ok.length] at bound
  have found := List.getElem?_eq_getElem bound
  obtain ⟨plan, planFound⟩ := agreed.plan_at found
  have checkpointOk := ok.entries index _ plan checkpoint found planFound present
  refine ⟨_, plan, found, planFound, ?_, checkpointOk⟩
  rw [checkpointOk.entryId]
  exact agreed.forest.entryIds index _ found

omit [UnicodeNormalization] [Zstd] in
/-- A directory has no block to be at. -/
theorem CheckpointOk.directory_boundary [PayloadSink] {identity : JobGenerationV2}
    {entry : ManifestEntryV2} {plan : EntryPlanV2} {checkpoint : ReceiverEntryCheckpointV2}
    (ok : CheckpointOk identity entry plan checkpoint) (empty : entry.plaintextSize = 0) :
    checkpoint.nextPlaintextBlock = 0 := by
  obtain ⟨total, blocks, boundary⟩ := ok.boundary
  have count := (totalBlocks_eq_ok.mp blocks).2
  rw [empty] at count
  have none_ : total.toNat = 0 := count.trans (by decide)
  have within := UInt64.le_iff_toNat_le.mp boundary
  apply UInt64.toNat_inj.mp
  rw [show (0 : UInt64).toNat = 0 from rfl]
  omega

omit [Zstd] in
/-- The boundaries of a ledger without results: one for every entry that receives its payload. -/
theorem mem_pendingPayloadBoundaries [PayloadSink] (agreed : Agreed offer accept)
    (ok : LedgerOk offer accept ledger)
    (unfinished : ∀ checkpoint ∈ ledger.entries, checkpoint.result = none) {entryId : UInt32}
      {next bytes : UInt64} {complete : Bool} :
    (entryId, next, bytes, complete) ∈ ledger.pendingPayloadBoundaries ↔
      ∃ checkpoint plan, ledger.entries[entryId.toNat]? = some checkpoint ∧
        accept.entryPlans[entryId.toNat]? = some plan ∧ plan.disposition = .receivePayload ∧
        checkpoint.entryId = entryId ∧ checkpoint.nextPlaintextBlock = next ∧
        checkpoint.plaintextBytes = bytes ∧ checkpoint.completion.isSome = complete := by
  simp only [ReceiverDataPlaneLedgerV2.pendingPayloadBoundaries, List.mem_map, List.mem_filter,
    decide_eq_true_eq, Option.map_eq_some_iff, Prod.mk.injEq, ok.agreement]
  constructor
  · intro ⟨checkpoint, ⟨listed, _, plan, planFound, receives⟩, own, fields⟩
    obtain ⟨index, present⟩ := List.getElem?_of_mem listed
    obtain ⟨-, -, -, -, here, -⟩ := ok.checkpoint_at agreed present
    rw [own] at here planFound
    rw [here] at planFound ⊢
    exact ⟨checkpoint, plan, present, planFound, receives, own, fields⟩
  · intro ⟨checkpoint, plan, present, planFound, receives, own, next, bytes, complete⟩
    have listed := List.mem_of_getElem? present
    exact ⟨checkpoint,
      ⟨listed, unfinished checkpoint listed, plan, by rw [own, planFound], receives⟩, own, next,
      bytes, complete⟩

omit [Zstd] in
theorem pendingPayloadBoundaries_distinct [PayloadSink] (agreed : Agreed offer accept)
    (ok : LedgerOk offer accept ledger) :
    ledger.pendingPayloadBoundaries.Pairwise fun first second =>
      second.1.toNat ≠ first.1.toNat := by
  rw [ReceiverDataPlaneLedgerV2.pendingPayloadBoundaries, List.pairwise_map]
  apply List.Pairwise.filter
  rw [List.pairwise_iff_getElem]
  intro earlier later earlierBound laterBound order
  obtain ⟨-, -, -, -, earlierId, -⟩ :=
    ok.checkpoint_at agreed (List.getElem?_eq_getElem earlierBound)
  obtain ⟨-, -, -, -, laterId, -⟩ := ok.checkpoint_at agreed (List.getElem?_eq_getElem laterBound)
  show (ledger.entries[later]).entryId.toNat ≠ (ledger.entries[earlier]).entryId.toNat
  omega

omit [Zstd] in
/-- Every checkpoint has its entry and its staging path. -/
theorem StagedAt.of_checkpoint [PayloadSink] (agreed : Agreed offer accept)
    (ok : LedgerOk offer accept ledger) (serves : provider.manifest = offer.manifest) {index : Nat}
    {checkpoint : ReceiverEntryCheckpointV2} (present : ledger.entries[index]? = some checkpoint) :
    ∃ entry plan path, StagedAt provider ledger index entry checkpoint path ∧
      accept.entryPlans[index]? = some plan ∧
      CheckpointOk accept.identity entry plan checkpoint := by
  obtain ⟨entry, plan, found, planFound, -, checkpointOk⟩ := ok.checkpoint_at agreed present
  have bound := (List.getElem?_eq_some_iff.mp found).1
  rw [← serves, ← provider.paths_complete] at bound
  rw [← serves] at found
  exact ⟨entry, plan, _, ⟨found, present, List.getElem?_eq_getElem bound⟩, planFound, checkpointOk⟩

omit [Zstd] in
/-- The first loop goes through on an intact staging directory. -/
theorem IntactStaging.reuses_lead [sink : PayloadSink] (same : sink = provider.sink)
    (agreed : Agreed offer accept) (ok : LedgerOk offer accept ledger)
    (serves : provider.manifest = offer.manifest) (intact : IntactStaging provider files ledger) :
    ∃ objects, (reconcileReuses ledger.pendingReuseEntries).Leads ⟨files, provider, ledger⟩ ()
      ⟨files, { provider with reuseObjects := objects }, ledger⟩ := by
  apply reconcileReuses_leads
  intro entryId digest listed
  simp only [ReceiverDataPlaneLedgerV2.pendingReuseEntries, List.mem_filterMap, List.mem_filter,
    decide_eq_true_eq, Option.map_eq_some_iff, Prod.mk.injEq] at listed
  obtain ⟨checkpoint, ⟨listed, -, chosen⟩, _, known, own, rfl⟩ := listed
  obtain ⟨index, present⟩ := List.getElem?_of_mem listed
  obtain ⟨-, -, -, -, here, -⟩ := ok.checkpoint_at agreed present
  obtain ⟨entry, plan, path, staged, -, checkpointOk⟩ :=
    StagedAt.of_checkpoint agreed ok serves present
  rw [own] at here
  refine ⟨entry, by rw [here]; exact staged.entry, ?_,
    intact.objects index entry checkpoint path staged chosen _ known⟩
  rw [← same]
  exact checkpointOk.owned chosen

omit [Zstd] in
/-- Under that condition every claimed boundary has its file. -/
theorem IntactStaging.owned_of_completeFilesOnly [PayloadSink] (agreed : Agreed offer accept)
    (ok : LedgerOk offer accept ledger) (serves : provider.manifest = offer.manifest)
    (intact : IntactStaging provider files ledger) (only : CompleteFilesOnly provider files ledger)
    {entryId : UInt32} {next bytes : UInt64} {complete : Bool}
    (listed : (entryId, next, bytes, complete) ∈ ledger.pendingPayloadBoundaries)
    (claimed : Claimed next complete) :
    ∃ entry root path, provider.manifest.entries[entryId.toNat]? = some entry ∧
      provider.saveRoots[entry.rootId.toNat]? = some root ∧
      provider.entryPaths[entryId.toNat]? = some path ∧ files.HasFile path bytes.toNat := by
  obtain ⟨checkpoint, plan, present, planFound, receives, -, rfl, rfl, rfl⟩ :=
    (mem_pendingPayloadBoundaries agreed ok intact.unfinished).mp listed
  obtain ⟨entry, _, path, staged, planAgain, checkpointOk⟩ :=
    StagedAt.of_checkpoint agreed ok serves present
  obtain rfl := Option.some.inj (planFound.symm.trans planAgain)
  have found : offer.manifest.entries[entryId.toNat]? = some entry := serves ▸ staged.entry
  obtain ⟨root, -, rootFound, -⟩ := agreed.forest.owner found
  have bound := (List.getElem?_eq_some_iff.mp rootFound).1
  rw [← serves, ← provider.roots_complete] at bound
  refine ⟨entry, _, path, staged.entry, List.getElem?_eq_getElem bound, staged.path, ?_⟩
  have completed : checkpoint.nextPlaintextBlock = 0 → checkpoint.completion.isSome = true := by
    simpa [Claimed, Option.isSome_iff_ne_none] using claimed
  have applies :=
    only entryId.toNat entry checkpoint path plan staged (ok.agreement ▸ planFound) receives
  cases kind : entry.kind with
  | directory =>
    have empty := (agreed.forest.directories entry (List.mem_of_getElem? found) kind).1
    have file := (applies (completed (checkpointOk.directory_boundary empty))).1
    rw [kind] at file
    cases file
  | regularFile =>
    by_cases chosen : checkpoint.arbiter = .reuseChosen
    · exact (applies (completed (checkpointOk.reused chosen).2.1)).2 chosen
    · apply intact.payloads entryId.toNat entry checkpoint path staged kind _ chosen
      by_cases start : checkpoint.nextPlaintextBlock = 0
      · exact .inr (completed start)
      · exact .inl start

/-- Reconciliation leaves the checkpoints of an intact staging directory alone exactly when no
completed entry is a directory, or a late reuse whose staging file is gone. -/
theorem reconcile_intact_iff (built : buildManifestOfferV2 offer.manifest = .ok offer)
    (serves : provider.manifest = offer.manifest)
    (reachable : @ReachableLedger _ _ provider.sink _ offer accept ledger)
    (intact : IntactStaging provider files ledger)
    (saves : ReceiverDataPlaneLedgerV2 → WriteReply) :
    (∃ left, (reconcileResume saves).Leads ⟨files, provider, ledger⟩ () left ∧
      left.ledger.entries = ledger.entries) ↔
      CompleteFilesOnly provider files ledger := by
  let _ := provider.sink
  obtain ⟨agreed, ok⟩ := reachable.ok (canonicalForest_of_build built)
  obtain ⟨objects, reuses⟩ := intact.reuses_lead rfl agreed ok serves
  constructor
  · intro ⟨left, leads, unchanged⟩
      index entry checkpoint path plan staged planFound receives complete
    simp only [reconcileResume, leads_bind, leads_get] at leads
    obtain ⟨_, _, ⟨rfl, rfl⟩, _, _, first, _, _, ⟨rfl, rfl⟩, rounds⟩ := leads
    obtain ⟨-, rfl⟩ := reuses.unique first
    have listed : (checkpoint.entryId, checkpoint.nextPlaintextBlock, checkpoint.plaintextBytes,
        checkpoint.completion.isSome) ∈ ledger.pendingPayloadBoundaries := by
      obtain ⟨-, -, -, -, here, -⟩ := ok.checkpoint_at agreed staged.checkpoint
      rw [mem_pendingPayloadBoundaries agreed ok intact.unfinished, here]
      exact ⟨checkpoint, plan, staged.checkpoint, ok.agreement ▸ planFound, receives, rfl,
        rfl, rfl, rfl⟩
    obtain ⟨-, -, -, -, here, -⟩ := ok.checkpoint_at agreed staged.checkpoint
    have owned :=
      reconcileBoundaries_owned intact.pending (pendingPayloadBoundaries_distinct agreed ok)
      (fun entryId next bytes complete listed => by
        obtain ⟨checkpoint, plan, present, -, -, -, next, -, complete⟩ :=
          (mem_pendingPayloadBoundaries agreed ok intact.unfinished).mp listed
        exact ⟨checkpoint, present, next, complete⟩) rounds unchanged
    obtain ⟨_, pathFound, there⟩ := owned _ _ _ _ listed (by simp [Claimed, complete])
    rw [here] at pathFound
    obtain rfl := Option.some.inj (staged.path.symm.trans pathFound)
    refine ⟨?_, fun _ => there⟩
    -- a directory in its place is no file
    cases kind : entry.kind with
    | regularFile => rfl
    | directory =>
      obtain ⟨content, file, -⟩ := there
      cases (intact.directories index entry checkpoint _ staged kind complete).symm.trans file
  · intro only
    refine ⟨⟨files, { provider with reuseObjects := objects }, ledger⟩, ?_, rfl⟩
    simp only [reconcileResume, leads_bind, leads_get]
    refine ⟨_, _, ⟨rfl, rfl⟩, (), _, reuses, _, _, ⟨rfl, rfl⟩, ?_⟩
    apply reconcileBoundaries_passes intact.pending
    intro entryId next bytes complete listed claimed
    exact intact.owned_of_completeFilesOnly agreed ok serves only listed claimed

end Intact

/-! ## Two jobs that were cut off

The job of one empty folder, and one of an empty file; both are complete but for the end of the
job. -/

def stagingPath : Path :=
  ["downloads", ".envoix-staging-v2", "6a6f622d76322d666978747572652121", "root-0"]

/-- A provider for a job of one entry. -/
def oneEntryProvider (manifest : ManifestV2)
    (oneEntry : [stagingPath].length = manifest.entries.length)
    (oneRoot : [RootSaveStateV2.pending].length = manifest.roots.length) :
    LocalDestinationProviderV2 where
  plan := {
    jobId := manifest.jobId
    generation := manifest.generation
    mode := .directSave
    storageDomain := { provider := "unix", opaqueVolumeId := "1", stableObjectIdentity := true }
    planRevision := 1
    rootPlans := [⟨0, "Photos"⟩]
    exceptionalTransferApproved := false
    targetDirectory := ["downloads"]
    stagingDirectory := ["downloads", ".envoix-staging-v2", "6a6f622d76322d666978747572652121"]
    reservations := [["downloads", ".envoix-reservations-v2", "0.reservation"]]
    reuseEntryIds := [] }
  manifest
  entryPaths := [stagingPath]
  reuseObjects := []
  saveRoots := [.pending]
  paths_complete := oneEntry
  roots_complete := oneRoot

def stagingOf (node : Node) : Files := fun path => if path = stagingPath then node else .missing

/-- Only one entry is staged. -/
theorem StagedAt.only {manifest : ManifestV2}
    {oneEntry : [stagingPath].length = manifest.entries.length}
    {oneRoot : [RootSaveStateV2.pending].length = manifest.roots.length}
    {ledger : ReceiverDataPlaneLedgerV2} {index : Nat} {entry : ManifestEntryV2}
    {checkpoint : ReceiverEntryCheckpointV2} {path : Path}
    (staged : StagedAt (oneEntryProvider manifest oneEntry oneRoot)
      ledger index entry checkpoint path) :
    path = stagingPath ∧ manifest.entries[0]? = some entry ∧
      ledger.entries[0]? = some checkpoint := by
  have pathFound : [stagingPath][index]? = some path := staged.path
  obtain rfl : index = 0 := by
    have bound := (List.getElem?_eq_some_iff.mp pathFound).1
    simpa using bound
  exact ⟨(Option.some.inj pathFound).symm, staged.entry, staged.checkpoint⟩

theorem folder_intact [Blake3] :
    IntactStaging (oneEntryProvider folderManifest rfl rfl) (stagingOf .directory) cutLedger where
  unfinished := by decide
  pending := by simp [oneEntryProvider]
  payloads := by
    intro index entry checkpoint path staged file
    obtain ⟨-, found, -⟩ := staged.only
    obtain rfl := Option.some.inj found
    cases file
  directories := by
    intro index entry checkpoint path staged _ _
    rw [staged.only.1]
    rfl
  objects := by
    intro index entry checkpoint path staged chosen
    obtain ⟨-, -, found⟩ := staged.only
    obtain rfl := Option.some.inj found
    cases chosen

/-- The folder is where it belongs, and the resume is refused because it is no file. -/
theorem completed_directory_aborts_resume :
    ¬ ∀ (provider : LocalDestinationProviderV2) (files : Files) (offer : ManifestOfferV2)
      (accept : ManifestAcceptV2) (ledger : ReceiverDataPlaneLedgerV2)
      (saves : ReceiverDataPlaneLedgerV2 → WriteReply),
      @buildManifestOfferV2 folderBlake3 asciiNormalization offer.manifest = .ok offer →
      provider.manifest = offer.manifest →
      @ReachableLedger folderBlake3 asciiNormalization provider.sink storedZstd offer
        accept ledger →
      @IntactStaging folderBlake3 provider files ledger →
      ∃ left, (@reconcileResume folderBlake3 saves).Leads ⟨files, provider, ledger⟩ () left ∧
        left.ledger.entries = ledger.entries := by
  intro always
  obtain ⟨left, leads, -⟩ :=
    always (oneEntryProvider folderManifest rfl rfl) (stagingOf .directory) folderOffer
    folderAccept cutLedger (fun _ => .written) (by decide) rfl (cutLedger_reachable _)
      (@folder_intact folderBlake3)
  have refused : ((@reconcileResume folderBlake3 fun _ => .written).runOn
      ⟨stagingOf .directory, oneEntryProvider folderManifest rfl rfl, cutLedger⟩).1 =
      .error (.failed (.io "Is a directory")) := by decide
  rw [show (@reconcileResume folderBlake3 fun _ => .written).runOn _ = (.ok (), left) from leads]
    at refused
  cases refused

def noteManifest : ManifestV2 where
  jobId := folderManifest.jobId
  generation := 7
  selectionRevision := 11
  compressionPolicy := .smart
  roots :=
    [{ rootId := 0, rootEntryId := 0, requestedName := "notes.txt", completeness := .complete }]
  entries := [{
    entryId := 0, rootId := 0, parentEntryId := none, component := "notes.txt",
    kind := .regularFile, plaintextSize := 0, contentDigest := .deferred }]
  totals := { fileCount := 1, directoryCount := 0, totalPlaintextBytes := 0 }

def noteDigest : ContentDigestV2 :=
  ⟨⟨[0xf5, 0xbc, 0x4e, 0x16, 0x64, 0x13, 0x22, 0x62, 0xc1, 0x7c, 0x7a, 0x73, 0xc1, 0x50, 0xa8, 0xa2,
    0x25, 0x72, 0xfb, 0x12, 0xea, 0x00, 0x15, 0x41, 0x8e, 0xfc, 0xb2, 0x5f, 0x5b, 0xf7, 0xf7, 0x25],
      rfl⟩⟩

def noteAcceptDigest : ContentDigestV2 :=
  ⟨⟨[0x81, 0x1d, 0x1b, 0xba, 0xf0, 0x57, 0x48, 0xc9, 0x35, 0x13, 0xa8, 0x65, 0x95, 0xda, 0x81, 0x41,
    0x61, 0x13, 0x4b, 0x55, 0x89, 0x10, 0xc6, 0xac, 0x76, 0xaf, 0x92, 0x9f, 0x55, 0x1e, 0x8c, 0xc2],
      rfl⟩⟩

@[reducible] def noteBlake3 : Blake3 where
  hash input :=
    if input = [] then nothingDigest.bytes
    else if input = encodeManifestBody noteManifest then noteDigest.bytes
    else noteAcceptDigest.bytes
  deriveKey _ _ := nothingDigest.bytes
  keyedHash _ _ := nothingDigest.bytes

def noteAccept : ManifestAcceptV2 :=
  { folderAccept with manifestDigest := noteDigest, rootPlans := [⟨0, "notes.txt"⟩] }

def noteLedger (arbiter : EntryArbiterV2) (start : Option EntryStartV2)
    (digest : Option ContentDigestV2) (completion : Option EntryCompleteV2) :
    ReceiverDataPlaneLedgerV2 where
  schemaVersion := receiverDataPlaneSchemaVersion
  identity := folderIdentity
  manifestDigest := noteDigest
  accept := noteAccept
  acceptBodyDigest := noteAcceptDigest
  entries := [⟨0, start, arbiter, 0, 0, digest, completion, none, false⟩]
  senderCompletionSetDigest := none

/-- The ledger after the file. -/
def noteCut : ReceiverDataPlaneLedgerV2 :=
  noteLedger .payloadCompleteChosen (some folderStart) (some nothingDigest) (some folderComplete)

def noteRun :=
  Proc.walk EngineWorld.after (smoothly [.entryStart folderStart, .entryComplete folderComplete]) 20
    ((@receive noteBlake3 asciiNormalization storedZstd 5 ⟨noteDigest, noteManifest⟩).runOn
      (noteLedger .payloadOpen none none none))
    (folderWorld (noteLedger .payloadOpen none none none))

theorem noteCut_reachable (sink : PayloadSink) :
    @ReachableLedger noteBlake3 asciiNormalization sink storedZstd ⟨noteDigest,
      noteManifest⟩ noteAccept noteCut := by
  have created :
      @ReceiverDataPlaneLedgerV2.new noteBlake3 asciiNormalization ⟨noteDigest,
        noteManifest⟩ noteAccept =
      .ok (some (noteLedger .payloadOpen none none none)) := by
        set_option maxRecDepth 8000 in decide
  have frames : ∀ frame ∈ [.entryStart folderStart, .entryComplete folderComplete],
      defaultStart frame := by
    simp [defaultStart, folderStart]
  have run :
    Proc.Reaches (engineContract defaultStart PayloadSink.reusable fun _ => True)
      _ _ noteRun.1 noteRun.2 :=
    Proc.walk_reaches (smoothly_allowed frames) 20 _ _
  have cut : noteRun.2.ledger = some noteCut := by set_option maxRecDepth 8000 in decide
  exact @ReachableLedger.received noteBlake3 asciiNormalization sink storedZstd _ _ _ _ _ _ _ _
    (@ReachableLedger.created noteBlake3 asciiNormalization sink storedZstd _ _ _ created)
      rfl run cut

theorem note_intact [Blake3] :
    IntactStaging (oneEntryProvider noteManifest rfl rfl) (stagingOf (.file [])) noteCut where
  unfinished := by decide
  pending := by simp [oneEntryProvider]
  payloads := by
    intro index entry checkpoint path staged _ _ _
    obtain ⟨rfl, -, found⟩ := staged.only
    obtain rfl := Option.some.inj found
    exact ⟨[], rfl, rfl⟩
  directories := by
    intro index entry checkpoint path staged directory
    obtain ⟨-, found, -⟩ := staged.only
    obtain rfl := Option.some.inj found
    cases directory
  objects := by
    intro index entry checkpoint path staged chosen
    obtain ⟨-, -, found⟩ := staged.only
    obtain rfl := Option.some.inj found
    cases chosen

/-- A complete file is left alone. -/
theorem reconcile_intact_iff_note :
    @buildManifestOfferV2 noteBlake3 asciiNormalization noteManifest =
      .ok ⟨noteDigest, noteManifest⟩ ∧
    @ReachableLedger noteBlake3 asciiNormalization
      (oneEntryProvider noteManifest rfl rfl).sink storedZstd
      ⟨noteDigest, noteManifest⟩ noteAccept noteCut ∧
    @IntactStaging noteBlake3 (oneEntryProvider noteManifest rfl rfl)
    (stagingOf (.file [])) noteCut ∧
    ∃ left, (@reconcileResume noteBlake3 fun _ => .written).Leads
      ⟨stagingOf (.file []), oneEntryProvider noteManifest rfl rfl, noteCut⟩ () left ∧
      left.ledger.entries = noteCut.entries := by
  have built : @buildManifestOfferV2 noteBlake3 asciiNormalization noteManifest =
      .ok ⟨noteDigest, noteManifest⟩ := by
    decide
  refine ⟨built, noteCut_reachable _, @note_intact noteBlake3, ?_⟩
  refine (@reconcile_intact_iff noteBlake3 asciiNormalization storedZstd _ _ ⟨noteDigest,
    noteManifest⟩ noteAccept
    noteCut built rfl (noteCut_reachable _) (@note_intact noteBlake3) fun _ => .written).mpr ?_
  intro index entry checkpoint path plan staged _ _ _
  obtain ⟨-, entryFound, found⟩ := staged.only
  obtain rfl := Option.some.inj entryFound
  obtain rfl := Option.some.inj found
  exact ⟨rfl, fun chosen => nomatch chosen⟩

end Envoix.Transfer
