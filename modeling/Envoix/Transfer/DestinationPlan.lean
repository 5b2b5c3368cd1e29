import Envoix.Transfer.Destination
import Envoix.Job.Store

/-! # Planning a destination

Model of `DestinationWritePlanV2::create` in `envoix-transfer/src/destination_v2.rs` and of the
functions it calls.  The disk of the model holds the reservation files; what the operating system
answers to the other calls is a `PlanSystem`. -/

namespace Envoix.Transfer

open ByteCodec Fallible Process Process.Method Envoix.Protocol FileSystem

def postSaveReserveBytes : UInt64 := 64 * 1024 * 1024
def autoReceivePlaintextLimitBytes : UInt64 := 64 * 1024 * 1024 * 1024

inductive DestinationDecisionV2 where
  | useDirectSave
  | continueWithCopyAfterVerify
deriving DecidableEq

structure DestinationRequestV2 where
  targetDirectory : Path
  copyStagingDirectory : Option Path
  decision : DestinationDecisionV2
  targetAllocatableBytes : Option UInt64
  stagingAllocatableBytes : Option UInt64
  stableObjectIdentity : Bool
  exceptionalTransferApproved : Bool
  preplannedRootNames : Option (List RootPlanV2)

/-! ## The operating system -/

/-- The places of `create` that make or resolve a directory. -/
inductive PlanCall where
  | target
  | copyStaging
  | mode
  | staging
  | reservations
  | domain
deriving DecidableEq

structure LinkMetadata where
  isFile : Bool
  isSymlink : Bool
  len : UInt64

/-- An open file: what its metadata and its bytes read as. -/
structure OpenedFile where
  len : Except IoError UInt64
  content : Except IoError Bytes

/-- The answers of the operating system during one call of `create`.  A write that fails has
stored some number of bytes. -/
structure PlanSystem where
  createDirAll : PlanCall → Path → Except IoError Unit
  canonicalize : PlanCall → Path → Except IoError Path
  volumeId : PlanCall → Path → Except IoError String
  restrictPrivateDirectory : Path → Except IoError Unit
  exclusiveRenameSupported : Bool
  exclusiveRenameProbe : Path → Except IoError Bool
  /-- The entries of a directory; `none` is a name that is not UTF-8. -/
  readDir : Path → Except IoError (List (Option String))
  openNew : Path → Option IoError
  writeAll : Path → Option (IoError × Nat)
  syncAll : Path → Option IoError
  symlinkMetadata : Path → Except IoError LinkMetadata
  openFile : Path → Except IoError OpenedFile

/-- How `create` may end without a plan. -/
inductive PlanFailure where
  | panic
  | failed (error : DestinationPlanErrorV2)
deriving DecidableEq

def planIo (error : IoError) : DestinationPlanErrorV2 := .io error

/-! ## Names -/

/-- The longest run of leading characters that fits in so many bytes. -/
def takeBytes : Nat → List Char → List Char
  | _, [] => []
  | room, character :: rest =>
    if character.utf8Size ≤ room then
      character :: takeBytes (room - character.utf8Size) rest
    else []

def componentBytes (characters : List Char) : Nat := (characters.map Char.utf8Size).sum

/-- The stem and the extension, split before the last dot, unless that is the first character. -/
def splitExtension (base : List Char) : Option (List Char × List Char) :=
  let stemLength := base.length - (base.reverse.takeWhile (· ≠ '.')).length - 1
  if '.' ∈ base ∧ 0 < stemLength then some (base.splitAt stemLength) else none

def componentWithSuffix (base : String) (suffix : Nat) (preserveExtension : Bool) : String :=
  let suffix := (" (" ++ toString suffix ++ ")").toList
  let split := if preserveExtension then splitExtension base.toList else none
  -- An extension that leaves no room for the suffix counts as part of the stem.
  let (stem, extension) := (split.filter fun (_, extension) =>
    componentBytes extension + componentBytes suffix ≤ 255).getD (base.toList, [])
  let maximumStemBytes := 255 - (componentBytes suffix + componentBytes extension)
  String.ofList (takeBytes maximumStemBytes stem ++ suffix ++ extension)

def candidateName (base : String) (preserveExtension : Bool) (suffix : Nat) : String :=
  if suffix = 0 then base else componentWithSuffix base suffix preserveExtension

/-! ## Space -/

def validateSpace (manifest : ManifestV2) (request : DestinationRequestV2)
    (mode : DestinationModeV2) (copyStagingSameDomain : Bool) :
    Except DestinationPlanErrorV2 Unit := do
  let plaintext := manifest.totals.totalPlaintextBytes
  let targetPayload ←
    if mode = .copyAfterVerify ∧ copyStagingSameDomain then
      okOr (checkedMul64 plaintext 2) .spaceOverflow
    else pure plaintext
  let targetRequired ← okOr (checkedAdd64 targetPayload postSaveReserveBytes) .spaceOverflow
  let targetAvailable ← okOr request.targetAllocatableBytes .unknownCapacity
  if targetAvailable < targetRequired then
    throw (.insufficientSpace targetRequired targetAvailable)
  if mode = .copyAfterVerify ∧ ¬ copyStagingSameDomain then
    let stagingAvailable ← okOr request.stagingAllocatableBytes .unknownCapacity
    if stagingAvailable < targetRequired then
      throw (.insufficientSpace targetRequired stagingAvailable)

section Plan

variable (system : PlanSystem)

def localStorageDomain (place : PlanCall) (targetDirectory : Path) (stableObjectIdentity : Bool) :
    Except IoError StorageDomainIdentityV2 := do
  let canonical ← system.canonicalize place targetDirectory
  let opaqueVolumeId ← system.volumeId place canonical
  return { provider := "local_path", opaqueVolumeId, stableObjectIdentity }

def sameStorageDomain (left right : Path) : Except IoError Bool := do
  let left ← localStorageDomain system .mode left false
  let right ← localStorageDomain system .mode right false
  return left.opaqueVolumeId == right.opaqueVolumeId

def destinationNames [names : ProviderNames] (directory : Path) : Except IoError (List String) := do
  let entries ← system.readDir directory
  return entries.filterMap fun entry => entry.map names.nameEquivalenceKey

/-! ## What comes before the reservations -/

/-- The values `create` has computed when it turns to the names of the roots. -/
structure Prepared where
  targetDirectory : Path
  mode : DestinationModeV2
  exceptionalTransfer : Bool
  stagingDirectory : Path
  occupiedNames : List String

def Prepared.reservationDirectory (prepared : Prepared) : Path :=
  prepared.targetDirectory.join ".envoix-reservations-v2"

def canonicalCopyStaging (request : DestinationRequestV2) : Except IoError (Option Path) :=
  match request.copyStagingDirectory with
  | none => pure none
  | some staging => do
    system.createDirAll .copyStaging staging
    return some (← system.canonicalize .copyStaging staging)

def isExceptional (manifest : ManifestV2) (targetAvailable : UInt64) : Bool :=
  manifest.totals.totalPlaintextBytes > autoReceivePlaintextLimitBytes ||
    manifest.totals.totalPlaintextBytes > targetAvailable / 2

def chooseMode (decision : DestinationDecisionV2) (directSupported : Bool) :
    Except DestinationPlanErrorV2 DestinationModeV2 :=
  match decision with
  | .useDirectSave => if directSupported then pure .directSave else throw .copyDecisionRequired
  -- Copy still ends in a destination-local no-overwrite rename.
  | .continueWithCopyAfterVerify =>
    if directSupported then pure .copyAfterVerify else throw .unsupportedProvider

def copyStagingDomain (targetDirectory : Path) (mode : DestinationModeV2)
    (copyStaging : Option Path) :
    Except DestinationPlanErrorV2 Bool :=
  match mode with
  | .directSave => pure false
  | .copyAfterVerify => do
    let staging ← okOr copyStaging .missingCopyStaging
    mapErr planIo (system.createDirAll .mode staging)
    mapErr planIo (sameStorageDomain system targetDirectory staging)

def encodeJobIdText (jobId : JobIdV2) : String :=
  String.ofList ((Envoix.Job.encodeJobId jobId).map fun digit => Char.ofNat digit.toNat)

def stagingDirectoryOf (jobId : JobIdV2) (targetDirectory : Path) (mode : DestinationModeV2)
    (copyStaging : Option Path) :
    Except DestinationPlanErrorV2 Path :=
  match mode with
  | .directSave => pure ((targetDirectory.join ".envoix-staging-v2").join (encodeJobIdText jobId))
  | .copyAfterVerify => do
    let staging ← okOr copyStaging .missingCopyStaging
    return (staging.join "envoix-staging-v2").join (encodeJobIdText jobId)

/-- `create` up to the listing of the target directory. -/
def prepare [ProviderNames] (offer : ManifestOfferV2) (request : DestinationRequestV2) :
    Except DestinationPlanErrorV2 Prepared := do
  mapErr planIo (system.createDirAll .target request.targetDirectory)
  let targetDirectory ← mapErr planIo (system.canonicalize .target request.targetDirectory)
  let copyStaging ← mapErr planIo (canonicalCopyStaging system request)
  let targetAvailable ← okOr request.targetAllocatableBytes .unknownCapacity
  let exceptionalTransfer := isExceptional offer.manifest targetAvailable
  if exceptionalTransfer ∧ ¬ request.exceptionalTransferApproved then
    throw .exceptionalTransferApprovalRequired
  let directSupported ←
    if system.exclusiveRenameSupported then
      mapErr planIo (system.exclusiveRenameProbe targetDirectory)
    else pure false
  let mode ← chooseMode request.decision directSupported
  let copyStagingSameDomain ← copyStagingDomain system targetDirectory mode copyStaging
  validateSpace offer.manifest request mode copyStagingSameDomain
  let stagingDirectory ← stagingDirectoryOf offer.manifest.jobId targetDirectory mode copyStaging
  mapErr planIo (system.createDirAll .staging stagingDirectory)
  mapErr planIo (system.restrictPrivateDirectory stagingDirectory)
  let reservationDirectory := targetDirectory.join ".envoix-reservations-v2"
  mapErr planIo (system.createDirAll .reservations reservationDirectory)
  mapErr planIo (system.restrictPrivateDirectory reservationDirectory)
  let occupiedNames ← mapErr planIo (destinationNames system targetDirectory)
  return { targetDirectory, mode, exceptionalTransfer, stagingDirectory, occupiedNames }

/-! ## Reservations -/

abbrev PlanMethod := Method Id Files PlanFailure

inductive CreateNew where
  | created
  | alreadyExists
  | refused (error : IoError)

/-- `OpenOptions::new().create_new(true).write(true).open(path)` -/
def createNew (path : Path) : PlanMethod CreateNew := do
  let files ← get
  if files path ≠ .missing then
    return .alreadyExists
  match system.openNew path with
  | some error => return .refused error
  | none =>
    set (files.put path (.file []))
    return .created

/-- `write_all` and `sync_all` on the new reservation. -/
def writeReservation (path : Path) (jobId : JobIdV2) (rootId : UInt32) : PlanMethod Unit := do
  let text := asBytes (encodeJobIdText jobId ++ ":" ++ toString rootId.toNat)
  match system.writeAll path with
  | some (error, written) =>
    modify fun files => files.put path (.file (text.take written))
    throw (.failed (.io error))
  | none => modify fun files => files.put path (.file text)
  match system.syncAll path with
  | some error => throw (.failed (.io error))
  | none => pure ()

def reservationPath [Blake3] (reservationDirectory : Path) (key : String) : Path :=
  let digits := Envoix.Job.encodeHex (Blake3.hash (asBytes key)).toList
  reservationDirectory.join (String.ofList (digits.map fun digit => Char.ofNat digit.toNat) ++
    ".reservation")

variable [names : ProviderNames] [Blake3]

/-- The suffixes left to try, of `0..10_000`. -/
def reserveSuffixes (reservationDirectory : Path) (base : String) (preserveExtension : Bool)
    (occupied : List String) (jobId : JobIdV2) (rootId : UInt32) :
    List Nat → PlanMethod (String × Path × List String)
  | [] => throw (.failed .nameExhausted)
  | suffix :: rest => do
    let candidate := candidateName base preserveExtension suffix
    let key := names.nameEquivalenceKey candidate
    if key ∈ occupied then
      reserveSuffixes reservationDirectory base preserveExtension occupied jobId rootId rest
    else
      let reservation := reservationPath reservationDirectory key
      match ← createNew system reservation with
      | .created =>
        writeReservation system reservation jobId rootId
        return (candidate, reservation, key :: occupied)
      | .alreadyExists =>
        reserveSuffixes reservationDirectory base preserveExtension occupied jobId rootId rest
      | .refused error => throw (.failed (.io error))

def reserveKeepBothName (reservationDirectory : Path) (base : String) (preserveExtension : Bool)
    (occupied : List String) (jobId : JobIdV2) (rootId : UInt32) :
    PlanMethod (String × Path × List String) :=
  reserveSuffixes system reservationDirectory base preserveExtension occupied jobId rootId
    (List.range 10000)

def reserveExactName (reservationDirectory : Path) (plannedName : String) (occupied : List String)
    (jobId : JobIdV2) (rootId : UInt32) : PlanMethod (Path × List String) := do
  let key := names.nameEquivalenceKey plannedName
  if key ∈ occupied then
    throw (.failed .destinationContended)
  let reservation := reservationPath reservationDirectory key
  match ← createNew system reservation with
  | .alreadyExists => throw (.failed .destinationContended)
  | .refused error => throw (.failed (.io error))
  | .created =>
    writeReservation system reservation jobId rootId
    return (reservation, key :: occupied)

/-- The condition of `validate_preplanned_roots` on the roots from `index` on. -/
def preplannedRootsBad (seen : List String) : Nat → List RootPlanV2 → Bool
  | _, [] => false
  | index, root :: rest =>
    root.rootId ≠ UInt32.ofNat index || root.plannedName.isEmpty ||
      names.providerSafeComponent root.plannedName ≠ root.plannedName ||
      names.nameEquivalenceKey root.plannedName ∈ seen ||
      preplannedRootsBad (names.nameEquivalenceKey root.plannedName :: seen) (index + 1) rest

def validatePreplannedRoots (manifest : ManifestV2) (roots : List RootPlanV2) :
    Except DestinationPlanErrorV2 Unit :=
  if roots.length ≠ manifest.roots.length || preplannedRootsBad [] 0 roots then
    throw .invalidEntryState
  else pure ()

/-- The loop of `create` over preplanned roots; the plans and reservations of the roots so far come
first. -/
def reservePreplanned (reservationDirectory : Path) (jobId : JobIdV2) :
    List String → List RootPlanV2 → PlanMethod (List RootPlanV2 × List Path)
  | _, [] => pure ([], [])
  | occupied, root :: rest => do
    let (reservation, occupied) ←
      reserveExactName system reservationDirectory root.plannedName occupied jobId root.rootId
    let (rootPlans, reservations) ← reservePreplanned reservationDirectory jobId occupied rest
    return (root :: rootPlans, reservation :: reservations)

/-- The loop of `create` over the roots of the manifest. -/
def reserveRequested (reservationDirectory : Path) (manifest : ManifestV2) :
    List String → List ManifestRootV2 → PlanMethod (List RootPlanV2 × List Path)
  | _, [] => pure ([], [])
  | occupied, root :: rest => do
    let base := names.providerSafeComponent root.requestedName
    let entry ← raise (okOr manifest.entries[root.rootEntryId.toNat]? .panic)
    let (plannedName, reservation, occupied) ← reserveKeepBothName system reservationDirectory base
      (entry.kind = .regularFile) occupied manifest.jobId root.rootId
    let (rootPlans, reservations) ← reserveRequested reservationDirectory manifest occupied rest
    return ({ rootId := root.rootId, plannedName } :: rootPlans, reservation :: reservations)

/-! ## After the reservations -/

/-- One round of `discover_known_reuse_entries`: whether the target holds the content of the
root. -/
def holdsContent (targetDirectory : Path) (root : ManifestRootV2) (entry : ManifestEntryV2)
    (expectedDigest : ContentDigestV2) : Except DestinationPlanErrorV2 Bool := do
  let path := targetDirectory.join (names.providerSafeComponent root.requestedName)
  match system.symlinkMetadata path with
  | .error .notFound => return false
  | .error error => throw (.io error)
  | .ok metadata =>
    if ¬ (metadata.isFile ∧ ¬ metadata.isSymlink ∧ metadata.len = entry.plaintextSize) then
      return false
    let file ← mapErr planIo (system.openFile path)
    let length ← mapErr planIo file.len
    if length ≠ metadata.len then
      return false
    let content ← mapErr planIo file.content
    return (⟨Blake3.hash content⟩ : ContentDigestV2) = expectedDigest

def discoverReuse (manifest : ManifestV2) (targetDirectory : Path) :
    List ManifestRootV2 → Except PlanFailure (List UInt32)
  | [] => pure []
  | root :: rest => do
    let entry ← okOr manifest.entries[root.rootEntryId.toNat]? .panic
    let reusable ← match entry.contentDigest with
      | .known expectedDigest =>
        if entry.kind ≠ .regularFile then pure false
        else mapErr .failed (holdsContent system targetDirectory root entry expectedDigest)
      | _ => pure false
    let others ← discoverReuse manifest targetDirectory rest
    return if reusable then entry.entryId :: others else others

def discoverKnownReuseEntries (offer : ManifestOfferV2) (targetDirectory : Path)
    (stableObjectIdentity : Bool) :
    Except PlanFailure (List UInt32) :=
  if ¬ stableObjectIdentity then pure []
  else discoverReuse system offer.manifest targetDirectory offer.manifest.roots

/-- The part of `create` that reserves a name for every root. -/
def reserveRoots (offer : ManifestOfferV2) (request : DestinationRequestV2) (prepared : Prepared) :
    PlanMethod (List RootPlanV2 × List Path) :=
  match request.preplannedRootNames with
  | some preplanned => do
    raise (mapErr .failed (validatePreplannedRoots offer.manifest preplanned))
    reservePreplanned system prepared.reservationDirectory offer.manifest.jobId
      prepared.occupiedNames preplanned
  | none =>
    reserveRequested system prepared.reservationDirectory offer.manifest prepared.occupiedNames
      offer.manifest.roots

/-- The part of `create` that follows the reservations. -/
def finishPlan (offer : ManifestOfferV2) (request : DestinationRequestV2) (prepared : Prepared)
    (rootPlans : List RootPlanV2) (reservations : List Path) :
    Except PlanFailure DestinationWritePlanV2 := do
  let reuseEntryIds ← discoverKnownReuseEntries system offer prepared.targetDirectory
    request.stableObjectIdentity
  let storageDomain ← mapErr (fun error => .failed (.io error))
    (localStorageDomain system .domain prepared.targetDirectory request.stableObjectIdentity)
  return {
    jobId := offer.manifest.jobId
    generation := offer.manifest.generation
    mode := prepared.mode
    storageDomain
    planRevision := 1
    rootPlans
    exceptionalTransferApproved := prepared.exceptionalTransfer
    targetDirectory := prepared.targetDirectory
    stagingDirectory := prepared.stagingDirectory
    reservations
    reuseEntryIds
  }

/-- `DestinationWritePlanV2::create` -/
def DestinationWritePlanV2.create (offer : ManifestOfferV2) (request : DestinationRequestV2) :
    PlanMethod DestinationWritePlanV2 := do
  let prepared ← raise (mapErr .failed (prepare system offer request))
  let (rootPlans, reservations) ← reserveRoots system offer request prepared
  raise (finishPlan system offer request prepared rootPlans reservations)

end Plan

end Envoix.Transfer
