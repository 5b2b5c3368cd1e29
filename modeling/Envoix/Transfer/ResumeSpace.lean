import Envoix.Protocol.OfferCodec
import Envoix.Transfer.PlanReservations

/-! # Room for the rest of a transfer

`DestinationWritePlanV2::validate_resume_request`, and when a transfer that was admitted passes its
space check again after a part of it was staged. -/

namespace Envoix.Transfer

open ByteCodec Fallible Envoix.Protocol FileSystem

/-! ## Paths -/

/-- `Path::parent` -/
def parent (path : Path) : Option Path := if path = [] then none else some path.dropLast

/-- `Path::extension`, which has no dot. -/
def extension (path : Path) : Option String := do
  let name ← path.getLast?
  if name = ".." then none
  else do
    let (_, extension) ← splitExtension name.toList
    return String.ofList extension.tail

/-! ## The checks of a resume -/

section Resume

variable [names : ProviderNames]

def DestinationWritePlanV2.validateShape (self : DestinationWritePlanV2) :
    Except DestinationPlanErrorV2 Unit := do
  reject (self.jobId.bytes = ByteVector.zero 16 ∨ self.generation = 0 ∨ self.planRevision = 0 ∨
    self.rootPlans = [] ∨ self.rootPlans.length ≠ self.reservations.length ∨
    ¬ (self.rootPlans.map fun root => names.nameEquivalenceKey root.plannedName).Nodup ∨
      ¬ self.reservations.Nodup ∨
    ((self.reuseEntryIds.zip self.reuseEntryIds.tail).any fun (left, right) => left ≥ right) ∨
    (self.rootPlans.zipIdx.any fun (root, index) => root.rootId ≠ UInt32.ofNat index ||
      root.plannedName.isEmpty || names.providerSafeComponent root.plannedName ≠ root.plannedName))
        .invalidEntryState
  let reservationDirectory := self.targetDirectory.join ".envoix-reservations-v2"
  reject (self.reservations.any fun reservation =>
    parent reservation ≠ some reservationDirectory || extension reservation ≠ some "reservation")
      .invalidEntryState
  reject (self.mode = .directSave ∧
    ¬ self.targetDirectory.join ".envoix-staging-v2" <+: self.stagingDirectory)
    .invalidEntryState

/-- The `mode_matches` of a request. -/
def modeMatches (mode : DestinationModeV2) (decision : DestinationDecisionV2) : Bool :=
  match mode, decision with
  | .directSave, .useDirectSave => true
  | .copyAfterVerify, .continueWithCopyAfterVerify => true
  | _, _ => false

variable (system : PlanSystem)

/-- `validate_resume_request` up to its space check: whether the copies are staged in the domain of
the target. -/
def DestinationWritePlanV2.resumeChecks (self : DestinationWritePlanV2) (offer : ManifestOfferV2)
    (request : DestinationRequestV2) : Except DestinationPlanErrorV2 Bool := do
  self.validateShape
  let target ← mapErr planIo (system.canonicalize .target request.targetDirectory)
  reject (self.jobId ≠ offer.manifest.jobId ∨ self.generation ≠ offer.manifest.generation ∨
    self.rootPlans.length ≠ offer.manifest.roots.length ∨ self.targetDirectory ≠ target ∨
    self.storageDomain.stableObjectIdentity ≠ request.stableObjectIdentity ∨
    ¬ modeMatches self.mode request.decision ∨
    (self.exceptionalTransferApproved ∧ ¬ request.exceptionalTransferApproved) ∨
    (request.preplannedRootNames.any fun roots => roots ≠ self.rootPlans)) .invalidEntryState
  if self.mode = .copyAfterVerify then
    let staging ← okOr request.copyStagingDirectory .missingCopyStaging
    let staging ← mapErr planIo (system.canonicalize .copyStaging staging)
    reject (¬ staging.join "envoix-staging-v2" <+: self.stagingDirectory) .invalidEntryState
  let currentDomain ← mapErr planIo
    (localStorageDomain system .domain self.targetDirectory self.storageDomain.stableObjectIdentity)
  reject (currentDomain ≠ self.storageDomain) .invalidEntryState
  if self.mode = .copyAfterVerify then
    let staging ← okOr request.copyStagingDirectory .missingCopyStaging
    mapErr planIo (sameStorageDomain system self.targetDirectory staging)
  else pure false

def DestinationWritePlanV2.validateResumeRequest (self : DestinationWritePlanV2)
    (offer : ManifestOfferV2) (request : DestinationRequestV2) :
    Except DestinationPlanErrorV2 Unit := do
  let copyStagingSameDomain ← self.resumeChecks system offer request
  validateSpace offer.manifest request self.mode copyStagingSameDomain

end Resume

/-! ## What is required and what is left -/

/-- The copies take room in another domain than their target. -/
def StagesElsewhere (mode : DestinationModeV2) (copyStagingSameDomain : Bool) : Prop :=
  mode = .copyAfterVerify ∧ copyStagingSameDomain = false

instance (mode : DestinationModeV2) (copyStagingSameDomain : Bool) :
    Decidable (StagesElsewhere mode copyStagingSameDomain) :=
  inferInstanceAs (Decidable (_ ∧ _))

/-- What the target has to allocate: a copy beside it counts too, and there is always a reserve. -/
def targetRequirement (manifest : ManifestV2) (mode : DestinationModeV2)
    (copyStagingSameDomain : Bool) : Nat :=
  (if mode = .copyAfterVerify ∧ copyStagingSameDomain then 2 else 1) *
    manifest.totals.totalPlaintextBytes.toNat +
    postSaveReserveBytes.toNat

def copyRequirement (manifest : ManifestV2) : Nat :=
  manifest.totals.totalPlaintextBytes.toNat + postSaveReserveBytes.toNat

/-- The bytes that the domain of the staging directory can allocate. -/
def DestinationRequestV2.stagingDomainBytes (request : DestinationRequestV2)
    (mode : DestinationModeV2) (copyStagingSameDomain : Bool) : Option UInt64 :=
  if StagesElsewhere mode copyStagingSameDomain then request.stagingAllocatableBytes
  else request.targetAllocatableBytes

/-- The request once the job has staged so many bytes, which the domain of the staging directory has
less. -/
def DestinationRequestV2.afterStaging (request : DestinationRequestV2) (mode : DestinationModeV2)
    (copyStagingSameDomain : Bool) (staged : UInt64) : DestinationRequestV2 :=
  { request with
    targetAllocatableBytes :=
      if StagesElsewhere mode copyStagingSameDomain then request.targetAllocatableBytes
      else request.targetAllocatableBytes.map (saturatingSub64 · staged)
    stagingAllocatableBytes :=
      if mode = .copyAfterVerify then request.stagingAllocatableBytes.map (saturatingSub64 · staged)
      else request.stagingAllocatableBytes }

/-- What the domain of the staging directory has to allocate for the whole transfer. -/
def stagingRequirement (manifest : ManifestV2) (mode : DestinationModeV2)
    (copyStagingSameDomain : Bool) : Nat :=
  if StagesElsewhere mode copyStagingSameDomain then copyRequirement manifest
  else targetRequirement manifest mode copyStagingSameDomain

theorem payload_eq_ok {mode : DestinationModeV2} {same : Bool} {plaintext payload : UInt64} :
    (if mode = .copyAfterVerify ∧
      same then okOr (checkedMul64 plaintext 2) DestinationPlanErrorV2.spaceOverflow
      else pure plaintext) = .ok payload ↔
        payload.toNat = (if mode = .copyAfterVerify ∧ same then 2 else 1) * plaintext.toNat := by
  split
  case isTrue =>
    have small := payload.toNat_lt
    rw [okOr_eq_ok, checkedMul64_eq_some, show (2 : UInt64).toNat = 2 from rfl]
    omega
  case isFalse =>
    rw [pure_eq_ok, ← UInt64.toNat_inj]
    omega

/-- `validate_space` behind its first computation. -/
def spaceFor (request : DestinationRequestV2) (mode : DestinationModeV2)
    (copyStagingSameDomain : Bool) (targetPayload : UInt64) :
    Except DestinationPlanErrorV2 Unit := do
  let targetRequired ← okOr (checkedAdd64 targetPayload postSaveReserveBytes) .spaceOverflow
  let targetAvailable ← okOr request.targetAllocatableBytes .unknownCapacity
  if targetAvailable < targetRequired then
    throw (.insufficientSpace targetRequired targetAvailable)
  if mode = .copyAfterVerify ∧ ¬ copyStagingSameDomain then
    let stagingAvailable ← okOr request.stagingAllocatableBytes .unknownCapacity
    if stagingAvailable < targetRequired then
      throw (.insufficientSpace targetRequired stagingAvailable)

theorem validateSpace_eq (manifest : ManifestV2) (request : DestinationRequestV2)
    (mode : DestinationModeV2) (same : Bool) :
    validateSpace manifest request mode same =
      (if mode = .copyAfterVerify ∧ same then
          okOr (checkedMul64 manifest.totals.totalPlaintextBytes 2)
            DestinationPlanErrorV2.spaceOverflow
        else pure manifest.totals.totalPlaintextBytes) >>= spaceFor request mode same := by
  rw [validateSpace]
  split <;> rfl

theorem spaceFor_eq_ok {request : DestinationRequestV2} {mode : DestinationModeV2} {same : Bool}
    {payload : UInt64} :
    spaceFor request mode same payload = .ok () ↔
      (∃ target, request.targetAllocatableBytes = some target ∧
        payload.toNat + postSaveReserveBytes.toNat ≤ target.toNat) ∧
      (StagesElsewhere mode same → ∃ staging, request.stagingAllocatableBytes = some staging ∧
        payload.toNat + postSaveReserveBytes.toNat ≤ staging.toNat) := by
  have elsewhere_iff : (mode = .copyAfterVerify ∧ ¬ same = true) ↔ StagesElsewhere mode same := by
    rw [StagesElsewhere, Bool.not_eq_true]
  simp only [spaceFor, elsewhere_iff, bind_eq_ok, okOr_eq_ok, checkedAdd64_eq_some, ite_eq_ok,
    throw_eq_ok, pure_eq_ok, exists_false, and_false, false_and, false_or, and_true,
    UInt64.lt_iff_toNat_lt, not_lt]
  constructor
  · intro ⟨required, ⟨_, requiredSize⟩, target, capacity, enough, copies⟩
    refine ⟨⟨target, capacity, requiredSize ▸ enough⟩, fun elsewhere => ?_⟩
    obtain ⟨_, staging, stagingCapacity, stagingEnough⟩ | here := copies
    · exact ⟨staging, stagingCapacity, requiredSize ▸ stagingEnough⟩
    · exact absurd elsewhere here
  · intro ⟨⟨target, capacity, enough⟩, copies⟩
    have available := target.toNat_lt
    have sumSize :
        (payload + postSaveReserveBytes).toNat = payload.toNat + postSaveReserveBytes.toNat := by
      rw [UInt64.toNat_add, Nat.mod_eq_of_lt (by omega)]
    refine ⟨_, ⟨by omega, sumSize⟩, target, capacity, sumSize.trans_le enough, ?_⟩
    by_cases elsewhere : StagesElsewhere mode same
    · obtain ⟨staging, stagingCapacity, stagingEnough⟩ := copies elsewhere
      exact .inl ⟨elsewhere, staging, stagingCapacity, sumSize.trans_le stagingEnough⟩
    · exact .inr elsewhere

/-- The space check on the numbers: no sum overflows that fits in what is available. -/
theorem validateSpace_eq_ok {manifest : ManifestV2} {request : DestinationRequestV2}
    {mode : DestinationModeV2} {same : Bool} :
    validateSpace manifest request mode same = .ok () ↔
      (∃ target, request.targetAllocatableBytes = some target ∧
        targetRequirement manifest mode same ≤ target.toNat) ∧ (StagesElsewhere mode same →
          ∃ staging, request.stagingAllocatableBytes = some staging ∧
            copyRequirement manifest ≤ staging.toNat) := by
  -- Elsewhere the target is required to hold no copy.
  have copyPayload : StagesElsewhere mode same →
      targetRequirement manifest mode same = copyRequirement manifest := by
    rintro ⟨rfl, rfl⟩
    simp [targetRequirement, copyRequirement]
  simp only [validateSpace_eq, bind_eq_ok, payload_eq_ok, spaceFor_eq_ok]
  constructor
  · intro ⟨payload, payloadSize, ⟨target, capacity, enough⟩, copies⟩
    rw [payloadSize] at enough copies
    refine ⟨⟨target, capacity, enough⟩, fun elsewhere => ?_⟩
    obtain ⟨staging, stagingCapacity, stagingEnough⟩ := copies elsewhere
    exact ⟨staging, stagingCapacity, copyPayload elsewhere ▸ stagingEnough⟩
  · intro ⟨⟨target, capacity, enough⟩, copies⟩
    have available := target.toNat_lt
    have payloadSize : (UInt64.ofNat ((if mode = .copyAfterVerify ∧ same then 2 else 1) *
        manifest.totals.totalPlaintextBytes.toNat)).toNat =
          (if mode = .copyAfterVerify ∧ same then 2 else 1) *
            manifest.totals.totalPlaintextBytes.toNat := by
      rw [targetRequirement] at enough
      exact UInt64.toNat_ofNat_of_lt' (by simp only [UInt64.size]; omega)
    refine ⟨_, payloadSize, ?_⟩
    rw [payloadSize]
    refine ⟨⟨target, capacity, enough⟩, fun elsewhere => ?_⟩
    obtain ⟨staging, stagingCapacity, stagingEnough⟩ := copies elsewhere
    exact ⟨staging, stagingCapacity, (copyPayload elsewhere).trans_le stagingEnough⟩

/-- Staging takes nothing from a target elsewhere, so the second check is the one of the staging
domain. -/
theorem validateSpace_afterStaging {manifest : ManifestV2} {request : DestinationRequestV2}
    {mode : DestinationModeV2} {same : Bool} {staged : UInt64}
    (admitted : validateSpace manifest request mode same = .ok ()) :
    validateSpace manifest (request.afterStaging mode same staged) mode same = .ok () ↔
      ∃ available, request.stagingDomainBytes mode same = some available ∧
        stagingRequirement manifest mode same + staged.toNat ≤ available.toNat := by
  obtain ⟨⟨target, capacity, enough⟩, copies⟩ := validateSpace_eq_ok.mp admitted
  rw [validateSpace_eq_ok]
  by_cases elsewhere : StagesElsewhere mode same
  · obtain ⟨staging, stagingCapacity, stagingEnough⟩ := copies elsewhere
    have copy : mode = .copyAfterVerify := elsewhere.1
    simp only [DestinationRequestV2.afterStaging, DestinationRequestV2.stagingDomainBytes,
      stagingRequirement, if_pos elsewhere, if_pos copy, capacity, stagingCapacity, Option.map_some,
      Option.some.injEq, exists_eq_left', saturatingSub64_toNat]
    have reserve : 0 < copyRequirement manifest := Nat.add_pos_right _ (by decide)
    constructor
    · intro ⟨_, left⟩
      have := left elsewhere
      omega
    · intro room
      exact ⟨enough, fun _ => by omega⟩
  · simp only [DestinationRequestV2.afterStaging, DestinationRequestV2.stagingDomainBytes,
      stagingRequirement, if_neg elsewhere, capacity, Option.map_some, Option.some.injEq,
      exists_eq_left', saturatingSub64_toNat]
    have reserve : 0 < targetRequirement manifest mode same := Nat.add_pos_right _ (by decide)
    constructor
    · intro ⟨left, _⟩
      omega
    · intro room
      exact ⟨by omega, fun copy => absurd copy elsewhere⟩

section Resume

variable [names : ProviderNames] (system : PlanSystem)

/-- The other checks do not look at what is available. -/
theorem resumeChecks_afterStaging (plan : DestinationWritePlanV2) (offer : ManifestOfferV2)
    (request : DestinationRequestV2) (mode : DestinationModeV2) (same : Bool) (staged : UInt64) :
    plan.resumeChecks system offer (request.afterStaging mode same staged) =
      plan.resumeChecks system offer request := rfl

/-- With nothing changed but the staged bytes, a resume needs room for the whole transfer beside
them. -/
theorem resumable_iff {plan : DestinationWritePlanV2} {offer : ManifestOfferV2}
    {request : DestinationRequestV2} {same : Bool} {staged : UInt64}
    (unchanged : plan.resumeChecks system offer request = .ok same)
    (admitted : validateSpace offer.manifest request plan.mode same = .ok ()) :
    plan.validateResumeRequest system offer (request.afterStaging plan.mode same staged) = .ok () ↔
      ∃ available, request.stagingDomainBytes plan.mode same = some available ∧
        stagingRequirement offer.manifest plan.mode same + staged.toNat ≤ available.toNat := by
  rw [DestinationWritePlanV2.validateResumeRequest, resumeChecks_afterStaging, unchanged, ok_bind]
  exact validateSpace_afterStaging admitted

end Resume

/-! ## A postcard on a full volume -/

def postcardManifest : ManifestV2 where
  jobId := sampleJobId
  generation := 1
  selectionRevision := 1
  compressionPolicy := .smart
  roots :=
    [{ rootId := 0, rootEntryId := 0, requestedName := "postcard.txt", completeness := .complete }]
  entries := [
    { entryId := 0, rootId := 0, parentEntryId := none, component := "postcard.txt",
      kind := .regularFile, plaintextSize := 4096, contentDigest := .deferred }]
  totals := { fileCount := 1, directoryCount := 0, totalPlaintextBytes := 4096 }

def postcardOffer : ManifestOfferV2 := ⟨⟨deskDigest⟩, postcardManifest⟩

/-- The target has room for the postcard and the reserve, and for nothing else. -/
def postcardRequest : DestinationRequestV2 where
  targetDirectory := ["received"]
  copyStagingDirectory := none
  decision := .useDirectSave
  targetAllocatableBytes := some (postSaveReserveBytes + 4096)
  stagingAllocatableBytes := none
  stableObjectIdentity := true
  exceptionalTransferApproved := false
  preplannedRootNames := none

def postcardPlan : DestinationWritePlanV2 where
  jobId := postcardManifest.jobId
  generation := 1
  mode := .directSave
  storageDomain :=
    { provider := "local_path", opaqueVolumeId := "64769", stableObjectIdentity := true }
  planRevision := 1
  rootPlans := [⟨0, "postcard.txt"⟩]
  exceptionalTransferApproved := false
  targetDirectory := ["received"]
  stagingDirectory := ["received", ".envoix-staging-v2", "6a6f622d76322d666978747572652121"]
  reservations := [["received", ".envoix-reservations-v2", "0.reservation"]]
  reuseEntryIds := []

attribute [local instance] linuxNames

/-- With half of the postcard staged it fits only if the volume had as much more to give. -/
theorem resumable_iff_postcard :
    postcardPlan.validateResumeRequest (deskSystem []) postcardOffer
        (postcardRequest.afterStaging .directSave false 2048) =
        .ok () ↔
      ∃ available, postcardRequest.stagingDomainBytes .directSave false = some available ∧
        stagingRequirement postcardManifest .directSave false + 2048 ≤ available.toNat :=
  resumable_iff (deskSystem []) (by decide) (by decide)

/-- The postcard was admitted and lies in the staging directory; what is left covers the reserve and
is refused. -/
theorem admitted_postcard_is_not_resumable :
    ¬ ∀ [ProviderNames] (system : PlanSystem) (plan : DestinationWritePlanV2)
      (offer : ManifestOfferV2) (request : DestinationRequestV2) (same : Bool) (staged : UInt64),
      plan.resumeChecks system offer request = .ok same →
      validateSpace offer.manifest request plan.mode same = .ok () →
      staged ≤ offer.manifest.totals.totalPlaintextBytes →
      plan.validateResumeRequest system offer (request.afterStaging plan.mode same staged) =
        .ok () := by
  intro resumes
  have resumed :=
    resumes (deskSystem []) postcardPlan postcardOffer postcardRequest false 4096 (by decide)
    (by decide) (by decide)
  have refused : postcardPlan.validateResumeRequest (deskSystem []) postcardOffer
      (postcardRequest.afterStaging postcardPlan.mode false 4096) =
        .error (.insufficientSpace (postSaveReserveBytes + 4096) postSaveReserveBytes) := by decide
  cases refused.symm.trans resumed

end Envoix.Transfer
