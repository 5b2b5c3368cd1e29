import Envoix.Foundation.CallLogic
import Envoix.Job.Operations

/-! # The store of transfer jobs

Model of `TransferJobStore` of `envoix-transfer/src/job.rs`: saving and loading a job, copying a
platform file into staging the store owns, and releasing such staging only after the decision that
gives it up is durable.  `JobCall` collects the operations a caller has on a job.
-/

namespace Envoix.Job

open ByteCodec Fallible Process Process.Method Envoix.Protocol

/-- `serde_json` on a job.  A path that is not UTF-8 has no JSON form. -/
class JobJson where
  toVec : CanonicalTransferJob → Except String Bytes
  fromSlice : Bytes → Except String CanonicalTransferJob

structure TransferJobStore where
  directory : PathBuf

def hexDigit (digit : Nat) : UInt8 :=
  UInt8.ofNat (if digit < 10 then 0x30 + digit else 0x57 + digit)

def encodeHex (bytes : Bytes) : OsString :=
  bytes.flatMap fun byte => [hexDigit (byte.toNat / 16), hexDigit (byte.toNat % 16)]

def encodeJobId (jobId : JobIdV2) : OsString := encodeHex jobId.bytes.toList

namespace TransferJobStore

variable (store : TransferJobStore)

def jobPath (jobId : JobIdV2) : PathBuf :=
  store.directory.join (asBytes "job-" ++ encodeJobId jobId ++ asBytes ".json")

def temporaryJobPath (jobId : JobIdV2) : PathBuf :=
  store.directory.join (asBytes ".job-" ++ encodeJobId jobId ++ asBytes ".tmp")

def stagingDirectory (jobId : JobIdV2) : PathBuf :=
  (store.directory.join (asBytes ".envoix-staging")).join (encodeJobId jobId)

/-! ## Saving and loading -/

section Durable

variable [UnicodeNormalization] [Blake3] [JobJson]

def save : JobMethod Unit := do
  let job ← get
  raise job.validateDurable
  raise (mapErr .io (← perform (JobOp.createDirAll store.directory)))
  let bytes ← raise (mapErr .json (JobJson.toVec job))
  let temporaryPath := store.temporaryJobPath job.jobId
  raise (mapErr (fun failed => .io failed.1) (← perform (JobOp.write temporaryPath bytes)))
  raise (mapErr .io (← perform (JobOp.syncAll temporaryPath)))
  raise (mapErr .io (← perform (JobOp.rename temporaryPath (store.jobPath job.jobId))))

/-- What `load` makes of the bytes it read. -/
def parse (bytes : Bytes) : Except TransferJobError CanonicalTransferJob := do
  let job ← mapErr .json (JobJson.fromSlice bytes)
  job.validateDurable
  pure job

def load (jobId : JobIdV2) : JobProc (Except TransferJobError (Option CanonicalTransferJob)) := do
  match ← Proc.perform (JobOp.read (store.jobPath jobId)) with
  | .error .notFound => pure (.ok none)
  | .error error => pure (.error (.io error))
  | .ok bytes => pure ((parse bytes).map some)

end Durable

/-! ## Staging -/

/-- One round of the loop that looks for a free name; `none` asks for another round. -/
def stageUnder (directory sourcePath : PathBuf) : JobMethod (Option PathBuf) := do
  let randomName ← raise (okOr (← perform JobOp.fill) .entropy)
  let candidate := directory.join (encodeHex randomName.toList)
  match ← perform (JobOp.createNew candidate) with
  | .error .alreadyExists => pure none
  | .error error => throw (.io error)
  | .ok () =>
    match ← perform (JobOp.copySource sourcePath candidate) with
    | .error error =>
      let _ ← perform (JobOp.removeFile candidate)
      throw (.io error)
    | .ok () =>
      match ← perform (JobOp.syncAll candidate) with
      | .error error =>
        let _ ← perform (JobOp.removeFile candidate)
        throw (.io error)
      | .ok () => pure (some candidate)

/-- The loop itself; a run that ends does so within some number of rounds. -/
def stageWithin (directory sourcePath : PathBuf) : Nat → JobMethod PathBuf
  | 0 => call abort
  | rounds + 1 => do
    match ← stageUnder directory sourcePath with
    | some stagedPath => pure stagedPath
    | none => stageWithin directory sourcePath rounds

variable [UnicodeNormalization]

def stageFile (sourcePath : PathBuf) (requestedName : String) (origin : LocalSourceOrigin)
    (rounds : Nat) :
    JobMethod PathBuf := do
  raise (reject (origin = .filesystem)
    (.invalidRecord "staged import must retain its platform origin"))
  raise (validateComponent (canonicalComponent requestedName))
  let sourceMetadata ← raise (mapErr .io (← perform (JobOp.symlinkMetadata sourcePath)))
  raise (reject (sourceMetadata.fileType ≠ .regularFile) .notRegularFile)
  let stagingDirectory := store.stagingDirectory (← get).jobId
  raise (mapErr .io (← perform (JobOp.createDirAll stagingDirectory)))
  raise (mapErr .io (← perform (JobOp.openSource sourcePath)))
  stageWithin stagingDirectory sourcePath rounds

def attachStaged (stagedPath : PathBuf) (requestedName : String) (origin : LocalSourceOrigin) :
    JobMethod AddSourceResult := do
  match ← outcome
      (CanonicalTransferJob.addStagedSource stagedPath (canonicalComponent requestedName)
          origin) with
  | .ok result => pure result
  | .error error =>
    let _ ← perform (JobOp.removeFile stagedPath)
    throw error

/-- `import_staged_file`, with the path it chose. -/
def importStaged (sourcePath : PathBuf) (requestedName : String) (origin : LocalSourceOrigin)
    (rounds : Nat) :
    JobMethod (PathBuf × AddSourceResult) := do
  let stagedPath ← store.stageFile sourcePath requestedName origin rounds
  let result ← attachStaged stagedPath requestedName origin
  pure (stagedPath, result)

def importStagedFile (sourcePath : PathBuf) (requestedName : String) (origin : LocalSourceOrigin)
    (rounds : Nat) :
    JobMethod AddSourceResult := do
  let imported ← store.importStaged sourcePath requestedName origin rounds
  pure imported.2

/-- `path.strip_prefix(base)`, by the components it leaves. -/
def stripPrefix (path base : PathBuf) : Option (List PathComponent) :=
  if path.startsWith base then some (path.components.drop base.components.length) else none

def removeStagedArtifact (path : PathBuf) : JobMethod Unit := do
  let relative ← raise (okOr (stripPrefix path (store.stagingDirectory (← get).jobId))
    (.invalidRecord "owned staging escaped its job directory"))
  raise (reject (relative.length ≠ 1) (.invalidRecord "owned staging path has an invalid shape"))
  match ← perform (JobOp.removeFile path) with
  | .ok () => pure ()
  | .error .notFound => pure ()
  | .error error => throw (.io error)

variable [Blake3] [JobJson]

def releaseStaged (path : PathBuf) : JobMethod Unit := do
  store.removeStagedArtifact path
  modify fun job =>
    { job with cleanupPending := job.cleanupPending.filter fun pending => pending ≠ path }
  store.save

def applySourceDecision (rootItemId : SourceItemId) (decision : SourceDecision) :
    JobMethod Unit := do
  let ownedArtifact ← CanonicalTransferJob.resolveSourceDecision rootItemId decision
  store.save
  match ownedArtifact with
  | none => pure ()
  | some path => store.releaseStaged path

def releaseAll : List PathBuf → JobMethod Unit
  | [] => pure ()
  | path :: rest => do
    store.releaseStaged path
    releaseAll rest

def reconcilePendingCleanup : JobMethod Unit := do
  store.releaseAll (← get).cleanupPending

end TransferJobStore

/-! ## Every operation -/

/-- The path a decision brings in. -/
def SourceDecision.path : SourceDecision → Option PathBuf
  | .reauthorize localPath => some localPath
  | _ => none

/-- What a caller may do with a job. -/
inductive JobCall where
  | addLocalPath (path : PathBuf)
  | addProviderPath (path : PathBuf) (requestedName : String) (origin : LocalSourceOrigin)
      (providerIssues : List ProviderSourceIssue)
  | importStagedFile (sourcePath : PathBuf) (requestedName : String) (origin : LocalSourceOrigin)
      (rounds : Nat)
  | prepareSelection (rootItemId : SourceItemId)
  | prepareAll
  | applySourceDecision (rootItemId : SourceItemId) (decision : SourceDecision)
  | reauthorizeProviderSource (rootItemId : SourceItemId) (localPath : PathBuf)
      (providerIssues : List ProviderSourceIssue)
  | hashEntry (itemId : SourceItemId)
  | setCompressionPolicy (compressionPolicy : CompressionPolicyV2)
  | sealForSend
  | cancel
  | save
  | reconcilePendingCleanup

variable [UnicodeNormalization] [Blake3] [JobJson]

open CanonicalTransferJob

/-- The operation, and the path under which it put a source into the job. -/
def runCall (store : TransferJobStore) : JobCall → JobMethod (Option PathBuf)
  | .addLocalPath path => do
    let _ ← addLocalPath path
    pure (some path)
  | .addProviderPath path requestedName origin providerIssues => do
    let _ ← addProviderPath path requestedName origin providerIssues
    pure (some path)
  | .importStagedFile sourcePath requestedName origin rounds => do
    let imported ← store.importStaged sourcePath requestedName origin rounds
    pure (some imported.1)
  | .prepareSelection rootItemId => do
    prepareSelection rootItemId
    pure none
  | .prepareAll => do
    prepareAll
    pure none
  | .applySourceDecision rootItemId decision => do
    store.applySourceDecision rootItemId decision
    pure decision.path
  | .reauthorizeProviderSource rootItemId localPath providerIssues => do
    reauthorizeProviderSource rootItemId localPath providerIssues
    pure (some localPath)
  | .hashEntry itemId => do
    let _ ← hashEntry itemId
    pure none
  | .setCompressionPolicy compressionPolicy => do
    setCompressionPolicy compressionPolicy
    pure none
  | .sealForSend => do
    let _ ← sealForSend
    pure none
  | .cancel => do
    cancel
    pure none
  | .save => do
    store.save
    pure none
  | .reconcilePendingCleanup => do
    store.reconcilePendingCleanup
    pure none

/-- One call of a run. -/
structure JobEvent where
  before : CanonicalTransferJob
  call : JobCall
  result : Except TransferJobError (Option PathBuf)
  after : CanonicalTransferJob

/-- A job with the world around it, from `new` over any calls, each run to its end; the latest
event comes first. -/
inductive JobRun {World : Type} (contract : Contract JobOp JobReply World)
    (store : TransferJobStore) (start : World) : List JobEvent → CanonicalTransferJob →
      World → Prop where
  | new {policy : CompressionPolicyV2} {job : CanonicalTransferJob} {world : World}
      (created : Proc.Reaches contract (CanonicalTransferJob.new policy) start
        (.ret (.ok job)) world) :
      JobRun contract store start [] job world
  | call {events : List JobEvent} {job left : CanonicalTransferJob} {world final : World}
      {result : Except TransferJobError (Option PathBuf)} (call : JobCall)
      (earlier : JobRun contract store start events job world)
      (ran : Proc.Reaches contract ((runCall store call).runOn job) world
        (.ret (result, left)) final) :
      JobRun contract store start (⟨job, call, result, left⟩ :: events) left final

section Play

variable {World : Type} {contract : Contract JobOp JobReply World} {store : TransferJobStore}
  {start world : World}
  {answer : World → (op : JobOp) → Option (JobReply op)}

/-- The calls one after another, each answered to its end. -/
def playCalls (after : World → (op : JobOp) → JobReply op → World)
    (answer : World → (op : JobOp) → Option (JobReply op)) (store : TransferJobStore) :
    List JobCall → List JobEvent → CanonicalTransferJob → World →
      Option (List JobEvent × CanonicalTransferJob × World)
  | [], events, job, world => some (events, job, world)
  | call :: calls, events, job, world =>
    match Proc.walk after answer 1000 ((runCall store call).runOn job) world with
    | (.ret (result, left), final) =>
      playCalls after answer store calls (⟨job, call, result, left⟩ :: events) left final
    | _ => none

def playJob (after : World → (op : JobOp) → JobReply op → World)
    (answer : World → (op : JobOp) → Option (JobReply op)) (store : TransferJobStore)
    (policy : CompressionPolicyV2) (calls : List JobCall) (start : World) :
    Option (List JobEvent × CanonicalTransferJob × World) :=
  match Proc.walk after answer 1000 (CanonicalTransferJob.new policy) start with
  | (.ret (.ok job), world) => playCalls after answer store calls [] job world
  | _ => none

theorem JobRun.play (allowed : ∀ world op reply, answer world op = some reply →
    contract.may world op reply)
    {calls : List JobCall} {events : List JobEvent} {job : CanonicalTransferJob}
    {reached : List JobEvent × CanonicalTransferJob × World}
    (run : JobRun contract store start events job world)
    (played : playCalls contract.after answer store calls events job world = some reached) :
    JobRun contract store start reached.1 reached.2.1 reached.2.2 := by
  induction calls generalizing events job world with
  | nil =>
    obtain rfl := Option.some.inj played
    exact run
  | cons call calls ih =>
    unfold playCalls at played
    split at played
    · next result left final walked =>
      refine ih (run.call call ?_) played
      have reaches := Proc.walk_reaches allowed 1000 ((runCall store call).runOn job) world
      rwa [walked] at reaches
    · cases played

theorem jobRun_of_playJob (allowed : ∀ world op reply, answer world op = some reply →
    contract.may world op reply)
    {policy : CompressionPolicyV2} {calls : List JobCall}
    {reached : List JobEvent × CanonicalTransferJob × World}
    (played : playJob contract.after answer store policy calls start = some reached) :
    JobRun contract store start reached.1 reached.2.1 reached.2.2 := by
  unfold playJob at played
  split at played
  · next job world walked =>
    have reaches := Proc.walk_reaches allowed 1000 (CanonicalTransferJob.new policy) start
    rw [walked] at reaches
    exact JobRun.play allowed (.new reaches) played
  · cases played

end Play

end Envoix.Job
