import Envoix.Transfer.Certification
import Envoix.Transfer.Progress
import Envoix.Transfer.ResumeEstimate

/-! # The progress of a sender

Each entry adds what the resume had not counted of it: blocks from the boundary on, or in one step
the rest of a file that the receiver turns out to have. -/

namespace Envoix.Transfer

open ByteCodec Fallible Process Process.Method Envoix.Protocol

section Entry

variable {accounting : Accounting} {standing : Standing} {State : Type} {state : State}
  {identity : JobGenerationV2}
  {entry : ManifestEntryV2} {plan : EntryPlanV2} {encoding : EntryEncodingV2}

theorem handleSenderControl_ne (frame : ManifestV2Frame) (identity : JobGenerationV2) :
    handleSenderControl frame identity ≠ .arithmeticOverflow := by
  unfold handleSenderControl
  split
  · split <;> nofun
  · split <;> nofun
  · nofun

theorem encodeBlock_error [Zstd] {plaintext : Bytes} {error : ManifestV2DataError}
    (failed : encodeBlock encoding plaintext = .error error) : error = .invalidCompressedBlock := by
  have checked : ∀ {encoded : Bytes}, (do
      reject (encoded = [] ∨ encoded.length > maxManifestV2BlockEncodedBytes.toNat)
        .invalidCompressedBlock
      pure encoded : Except ManifestV2DataError Bytes) = .error error →
          error = .invalidCompressedBlock := by
    intro encoded failed
    obtain refused | ⟨_, _, other⟩ := bind_eq_error.mp failed
    · exact (reject_eq_error.mp refused).2.symm
    · cases other
  cases encoding with
  | identity => exact checked failed
  | zstd =>
    obtain missing | ⟨_, _, failed⟩ := bind_eq_error.mp failed
    · exact (okOr_eq_error.mp missing).2.symm
    · exact checked failed

theorem calm_awaitHashTask {entryId : UInt32} {pending : Bool}
    {post : ContentDigestV2 → State → Prop} (holds : ∀ digest, post digest state) :
    Calm accounting standing state (awaitHashTask entryId pending) post := by
  apply Calm.bind
  refine calm_reject nofun fun _ => ?_
  exact calm_attempt ⟨nofun, nofun, nofun, nofun⟩ (fun _ _ failed => congrArg errorOf failed) holds

theorem counts_sendLateDigest {entryId : UInt32} {digest : ContentDigestV2}
    {post : Bool → State → Standing → Prop}
    (holds : ∀ (chosen : Bool) (later : Standing), later.last = standing.last →
      post chosen state later) :
    Counts accounting standing state
      (sendLateDigestAndReceiveStatus identity entryId digest) post := by
  apply Calm.counts_bind
  refine calm_sendFrame nofun ?_
  refine counts_recvFrame (fun complete _ =>
    ⟨_, handleSenderControl_ne (.jobComplete complete) identity, rfl⟩) ?_
  intro frame _ _
  cases frame with
  | entryContentDigest response =>
    apply Calm.counts_bind
    apply calm_pure
    apply Calm.counts_bind
    refine calm_reject nofun fun _ => ?_
    exact counts_pure (holds _ _ rfl)
  | _ =>
    apply Calm.counts_bind
    exact calm_throw (excuses_of_ne (handleSenderControl_ne _ identity))

theorem counts_transmitBlock [Zstd] {file : SendFileState} {length : UInt64} {bytes : Bytes}
    {post : UInt64 → State → Standing → Prop} (here : standing.last = some file.completed)
    (fits : file.completed.toNat + length.toNat ≤ accounting.total.toNat)
    (holds : ∀ next : UInt64, next.toNat = file.completed.toNat + length.toNat →
      post next state { standing with last := some next }) :
    Counts accounting standing state
      (transmitBlock identity entry encoding accounting.total file length bytes) post := by
  apply Calm.counts_bind
  refine calm_raise (fun error failed => excuses_of_ne ?_) fun encoded _ => ?_
  · rw [encodeBlock_error failed]
    nofun
  apply Calm.counts_bind
  refine calm_perform ⟨nofun, nofun, nofun, nofun⟩ fun reply => ?_
  apply Calm.counts_bind
  refine calm_raise (fun error failed => excuses_of_ne ?_) fun response _ => ?_
  · obtain ⟨_, _, rfl⟩ := mapErr_eq_error.mp failed
    nofun
  cases response with
  | some frame => exact counts_throw (excuses_of_ne (handleSenderControl_ne frame identity))
  | none =>
    apply Calm.counts_bind
    apply calm_onStage
    exact counts_advance here fits holds

/-- The block loop of a file: `base` bytes are counted of other entries, `resumed` were of this
one at the start. -/
structure Sending (entry : ManifestEntryV2) (base resumed : Nat) (file : SendFileState)
    (standing : Standing) : Prop where
  last : standing.last = some file.completed
  offset : file.plaintextOffset.toNat =
    min (file.blockIndex.toNat * defaultBlockBytes.toNat) entry.plaintextSize.toNat
  completed : file.completed.toNat = base + max resumed file.plaintextOffset.toNat

variable {base resumed : Nat} {file : SendFileState}

/-- A file goes on behind the block or ends in it. -/
theorem block_end {offset index width size : Nat} (placed : offset = min (index * width) size)
    (inside : offset < size) :
    offset + min (size - offset) width = min ((index + 1) * width) size := by
  rw [Nat.add_mul, Nat.one_mul]
  omega

/-- The length of the block at `offset`. -/
theorem blockLength_toNat {size offset : UInt64} (inside : offset.toNat ≤ size.toNat) :
    (min (size - offset) defaultBlockBytes).toNat =
      min (size.toNat - offset.toNat) defaultBlockBytes.toNat := by
  rw [toNat_min64, UInt64.toNat_sub_of_le _ _ (UInt64.le_iff_toNat_le.mpr inside)]

/-- What `send_file` does after a block: the boundary moves to its end. -/
theorem calm_blockDone (offset : file.plaintextOffset.toNat =
      min (file.blockIndex.toNat * defaultBlockBytes.toNat) entry.plaintextSize.toNat)
    (inside : file.plaintextOffset.toNat < entry.plaintextSize.toNat) {completed : UInt64}
    {payload : Bytes} {post : SendFileState → State → Prop}
    (holds : ∀ blockIndex plaintextOffset : UInt64,
      plaintextOffset.toNat =
        min (blockIndex.toNat * defaultBlockBytes.toNat) entry.plaintextSize.toNat →
      plaintextOffset.toNat = file.plaintextOffset.toNat +
        min (entry.plaintextSize.toNat - file.plaintextOffset.toNat) defaultBlockBytes.toNat →
      post { file with blockIndex, plaintextOffset, payload, completed } state) :
    Calm accounting standing state (do
      let blockIndex ← raise (okOr (checkedAdd64 file.blockIndex 1) .arithmeticOverflow)
      let plaintextOffset ← raise (okOr (checkedAdd64 file.plaintextOffset
        (min (entry.plaintextSize - file.plaintextOffset) defaultBlockBytes)) .arithmeticOverflow)
      pure { file with blockIndex, plaintextOffset, payload, completed }) post := by
  have size := entry.plaintextSize.toNat_lt
  have positive : 0 < defaultBlockBytes.toNat := by decide
  have index := Nat.le_mul_of_pos_right file.blockIndex.toNat positive
  have length := blockLength_toNat inside.le
  have one : (1 : UInt64).toNat = 1 := rfl
  have indexFits : file.blockIndex.toNat + (1 : UInt64).toNat < 2 ^ 64 := by omega
  have offsetFits : file.plaintextOffset.toNat +
      (min (entry.plaintextSize - file.plaintextOffset) defaultBlockBytes).toNat <
        2 ^ 64 := by omega
  rw [checkedAdd64, if_pos indexFits, checkedAdd64, if_pos offsetFits]
  have nextIndex : (file.blockIndex + 1).toNat = file.blockIndex.toNat + 1 := by
    rw [UInt64.toNat_add, Nat.mod_eq_of_lt indexFits, one]
  have nextOffset :
      (file.plaintextOffset +
        min (entry.plaintextSize - file.plaintextOffset) defaultBlockBytes).toNat =
      file.plaintextOffset.toNat +
        min (entry.plaintextSize.toNat - file.plaintextOffset.toNat) defaultBlockBytes.toNat := by
    rw [UInt64.toNat_add, Nat.mod_eq_of_lt offsetFits, length]
  apply Calm.bind
  refine calm_pure ?_
  apply Calm.bind
  refine calm_pure ?_
  refine calm_pure (holds _ _ ?_ nextOffset)
  rw [nextOffset, nextIndex]
  exact block_end offset inside

/-- A block that was counted at the start is only read, the others count when they are sent. -/
theorem counts_sendBlock [Zstd] (sending : Sending entry base resumed file standing)
    (boundary : resumed =
      min (plan.nextPlaintextBlock.toNat * defaultBlockBytes.toNat) entry.plaintextSize.toNat)
    (fits : base + entry.plaintextSize.toNat ≤ accounting.total.toNat)
    (inside : file.plaintextOffset.toNat < entry.plaintextSize.toNat)
    {post : SendFileState → State → Standing → Prop}
    (holds : ∀ next later, Sending entry base resumed next later →
      next.reuseChosen = file.reuseChosen → post next state later) :
    Counts accounting standing state
      (sendBlock identity entry plan encoding accounting.total file) post := by
  have offset := sending.offset
  have counted := sending.completed
  apply Calm.counts_bind
  refine calm_perform ⟨nofun, nofun, nofun, nofun⟩ fun reply => ?_
  apply Calm.counts_bind
  refine calm_raise (fun error failed => excuses_of_ne ?_) fun bytes _ => ?_
  · obtain ⟨_, _, rfl⟩ := mapErr_eq_error.mp failed
    nofun
  split
  case isTrue beyond =>
    -- the start of this block is no less than what was resumed
    have reached := Nat.mul_le_mul_right defaultBlockBytes.toNat (UInt64.le_iff_toNat_le.mp beyond)
    have below : resumed ≤ file.plaintextOffset.toNat := by omega
    rw [Nat.max_eq_right below] at counted
    apply Counts.bind
    refine counts_transmitBlock sending.last ?_ fun completed sum => ?_
    · rw [blockLength_toNat inside.le, counted]
      omega
    rw [blockLength_toNat inside.le] at sum
    apply Calm.counts
    refine calm_blockDone offset inside fun blockIndex plaintextOffset placed moved => ?_
    refine holds _ _ ⟨rfl, placed, ?_⟩ rfl
    show completed.toNat = base + max resumed plaintextOffset.toNat
    have further : resumed ≤ plaintextOffset.toNat := by
      rw [moved]
      exact below.trans (Nat.le_add_right _ _)
    rw [Nat.max_eq_right further, sum, counted, moved, Nat.add_assoc]
  case isFalse before =>
    -- the end of this block is within what was resumed
    have before := UInt64.lt_iff_toNat_lt.mp (UInt64.not_le.mp before)
    have reached : (file.blockIndex.toNat + 1) * defaultBlockBytes.toNat ≤
        plan.nextPlaintextBlock.toNat * defaultBlockBytes.toNat := Nat.mul_le_mul_right _ before
    apply Calm.counts_bind
    apply calm_pure
    apply Calm.counts
    refine calm_blockDone offset inside fun blockIndex plaintextOffset placed moved => ?_
    refine holds _ _ ⟨sending.last, placed, ?_⟩ rfl
    show file.completed.toNat = base + max resumed plaintextOffset.toNat
    have ends := block_end offset inside
    have within : plaintextOffset.toNat ≤ resumed := by
      rw [moved, ends, boundary]
      exact min_le_min_right _ reached
    have earlier : file.plaintextOffset.toNat ≤ resumed := by
      rw [moved] at within
      exact (Nat.le_add_right _ _).trans within
    rw [Nat.max_eq_left within, counted, Nat.max_eq_left earlier]

theorem counts_proposeLateDigest {post : SendFileState → State → Standing → Prop}
    (sending : Sending entry base resumed file standing)
    (holds : ∀ next later, Sending entry base resumed next later →
      next.plaintextOffset = file.plaintextOffset → post next state later) :
    Counts accounting standing state (proposeLateDigest identity entry file) post := by
  apply Calm.counts_bind
  refine calm_awaitHashTask fun digest => ?_
  apply Counts.bind
  refine counts_sendLateDigest fun chosen later same => ?_
  exact counts_pure (holds _ later ⟨same.trans sending.last, sending.offset, sending.completed⟩ rfl)

theorem calm_lateDigestReady {post : Bool → State → Prop} (holds : ∀ ready, post ready state) :
    Calm accounting standing state (lateDigestReady entry file) post := by
  unfold lateDigestReady
  split
  · exact calm_perform ⟨nofun, nofun, nofun, nofun⟩ holds
  · exact calm_pure (holds false)

/-- The loop ends at the end of the file, unless the receiver chose reuse. -/
theorem counts_sendFileLoop [Zstd] (fuel : Nat) {post : SendFileState → State → Standing → Prop}
    (boundary : resumed =
      min (plan.nextPlaintextBlock.toNat * defaultBlockBytes.toNat) entry.plaintextSize.toNat)
    (fits : base + entry.plaintextSize.toNat ≤ accounting.total.toNat)
    (sending : Sending entry base resumed file standing)
    (holds : ∀ next later, Sending entry base resumed next later →
      (next.reuseChosen = false → next.plaintextOffset.toNat = entry.plaintextSize.toNat) →
      post next state later) :
    Counts accounting standing state
      (sendFileLoop identity entry plan encoding accounting.total fuel file) post := by
  induction fuel generalizing file standing with
  | zero =>
    apply Calm.counts
    exact calm_abort
  | succ fuel ih =>
    rw [sendFileLoop]
    split
    case isTrue ended =>
      refine counts_pure (holds _ _ sending fun _ => ?_)
      have offset := sending.offset
      rw [UInt64.lt_iff_toNat_lt] at ended
      omega
    case isFalse more =>
      rw [not_not, UInt64.lt_iff_toNat_lt] at more
      apply Calm.counts_bind
      refine calm_lateDigestReady fun ready => ?_
      split
      case isTrue _ =>
        apply Counts.bind
        refine counts_proposeLateDigest sending fun next later sending same => ?_
        split
        case isTrue chosen =>
          exact counts_pure (holds _ _ sending fun open_ => absurd chosen (by rw [open_]; simp))
        case isFalse _ =>
          rw [← same] at more
          apply Counts.bind
          exact counts_sendBlock sending boundary fits more fun _ _ sending _ => ih sending
      case isFalse _ =>
        apply Counts.bind
        exact counts_sendBlock sending boundary fits more fun _ _ sending _ => ih sending

section Blake3

variable [Blake3]

theorem counts_finishPayload {post : ContentDigestV2 × Bool → State → Standing → Prop}
    (holds : ∀ result later, later.last = standing.last → post result state later) :
    Counts accounting standing state (finishPayload identity entry file) post := by
  apply Calm.counts_bind
  refine calm_attempt ⟨nofun, nofun, nofun,
    nofun⟩ (fun _ _ failed => congrArg errorOf failed) fun _ => ?_
  cases committedDigest entry with
  | some expected =>
    apply Calm.counts_bind
    refine calm_reject nofun fun _ => ?_
    exact counts_pure (holds _ _ rfl)
  | none =>
    have rest (digest : ContentDigestV2) : Counts accounting standing state (do
        raise (reject (digest ≠ ⟨Blake3.hash file.payload⟩) .finalMismatch)
        let reuseChosen ← if file.lateDigest = none then
            sendLateDigestAndReceiveStatus identity entry.entryId digest
          else pure file.reuseChosen
        pure (digest, reuseChosen)) post := by
      apply Calm.counts_bind
      refine calm_reject nofun fun _ => ?_
      split
      case isTrue _ =>
        apply Counts.bind
        exact counts_sendLateDigest fun chosen later same => counts_pure (holds _ later same)
      case isFalse _ => exact counts_pure (holds _ _ rfl)
    cases late : file.lateDigest with
    | some digest =>
      have rest := rest digest
      rw [late] at rest
      exact rest
    | none =>
      apply Calm.counts_bind
      refine calm_awaitHashTask fun digest => ?_
      have rest := rest digest
      rw [late] at rest
      exact rest

/-- At its end a file counts with all of its bytes. -/
theorem counts_finishFile {post : ContentDigestV2 × Bool × UInt64 → State → Standing → Prop}
    {resumedBytes : UInt64} (estimate : resumedBytes.toNat = resumed)
    (boundary : resumed =
      min (plan.nextPlaintextBlock.toNat * defaultBlockBytes.toNat) entry.plaintextSize.toNat)
    (fits : base + entry.plaintextSize.toNat ≤ accounting.total.toNat)
    (sending : Sending entry base resumed file standing)
    (ended : file.reuseChosen = false → file.plaintextOffset.toNat = entry.plaintextSize.toNat)
    (holds : ∀ digest chosen (completed : UInt64) later, later.last = some completed →
      completed.toNat = base + entry.plaintextSize.toNat →
      post (digest, chosen, completed) state later) :
    Counts accounting standing state
      (finishFile identity entry plan accounting.total resumedBytes file) post := by
  have offset := sending.offset
  have counted := sending.completed
  unfold finishFile
  split
  case isTrue _ =>
    apply Calm.counts_bind
    refine calm_attempt ⟨(by simp), (by simp), (by simp),
      (by simp)⟩ (fun _ _ failed => congrArg errorOf failed) fun _ => ?_
    have rest : (saturatingSub64 entry.plaintextSize (max (max resumedBytes file.plaintextOffset)
        (min (saturatingMul64 plan.nextPlaintextBlock defaultBlockBytes)
          entry.plaintextSize))).toNat =
        entry.plaintextSize.toNat - max resumed file.plaintextOffset.toNat := by
      rw [saturatingSub64_toNat, toNat_max64, toNat_max64, min_saturatingMul64,
        estimate, ← boundary]
      omega
    apply Counts.bind
    refine counts_advance sending.last (by omega) fun completed sum => ?_
    apply Calm.counts_bind
    refine calm_okOr (by simp) fun digest _ => ?_
    exact counts_pure (holds _ _ _ _ rfl (by omega))
  case isFalse open_ =>
    have ended := ended (by simpa using open_)
    apply Counts.bind
    refine counts_finishPayload fun finished later same => ?_
    exact counts_pure (holds _ _ _ later (same.trans sending.last) (by omega))

omit [Blake3] in
theorem counts_sendReusedFile {post : EntryCompleteV2 × UInt64 → State → Standing → Prop}
    {resumedBytes completed : UInt64} (here : standing.last = some completed)
    (counted : completed.toNat = base + resumedBytes.toNat)
    (below : resumedBytes.toNat ≤ entry.plaintextSize.toNat)
    (fits : base + entry.plaintextSize.toNat ≤ accounting.total.toNat)
    (holds : ∀ completion (completed : UInt64) later, later.last = some completed →
      completed.toNat = base + entry.plaintextSize.toNat →
      post (completion, completed) state later) :
    Counts accounting standing state
      (sendReusedFile identity entry accounting.total resumedBytes completed) post := by
  have rest := saturatingSub64_toNat entry.plaintextSize resumedBytes
  apply Calm.counts_bind
  refine calm_okOr nofun fun digest _ => ?_
  apply Calm.counts_bind
  refine calm_attempt ⟨nofun, nofun, nofun,
    nofun⟩ (fun _ _ failed => congrArg errorOf failed) fun _ => ?_
  apply Calm.counts_bind
  refine calm_sendFrame nofun ?_
  apply Counts.bind
  refine counts_advance here (by omega) fun next sum => ?_
  exact counts_pure (holds _ _ _ rfl (by omega))

/-- A file that was resumed at its boundary counts whole in the end, whichever way it ends. -/
theorem counts_sendFile [Zstd] (fuel : Nat)
    {post : EntryCompleteV2 × UInt64 → State → Standing → Prop} {resumedBytes completed : UInt64}
    (boundary : resumedBytes.toNat =
      min (plan.nextPlaintextBlock.toNat * defaultBlockBytes.toNat) entry.plaintextSize.toNat)
    (here : standing.last = some completed) (counted : completed.toNat = base + resumedBytes.toNat)
    (fits : base + entry.plaintextSize.toNat ≤ accounting.total.toNat)
    (holds : ∀ completion (completed : UInt64) later, later.last = some completed →
      completed.toNat = base + entry.plaintextSize.toNat →
      post (completion, completed) state later) :
    Counts accounting standing state
      (sendFile fuel identity entry plan encoding accounting.total resumedBytes completed)
        post := by
  apply Calm.counts_bind
  refine calm_sendFrame (by simp) ?_
  split
  case isTrue _ => exact counts_sendReusedFile here counted (by omega) fits holds
  case isFalse _ =>
    apply Calm.counts_bind
    refine calm_attempt ⟨(by simp), (by simp), (by simp),
      (by simp)⟩ (fun _ _ failed => congrArg errorOf failed) fun _ => ?_
    apply Counts.bind
    refine counts_sendFileLoop fuel boundary fits ⟨here, ?_, ?_⟩ fun file later sending ended => ?_
    · show (0 : UInt64).toNat = min ((0 : UInt64).toNat * _) _
      rw [UInt64.toNat_zero, Nat.zero_mul, Nat.zero_min]
    · show completed.toNat = base + max resumedBytes.toNat (0 : UInt64).toNat
      rw [counted, UInt64.toNat_zero, Nat.max_zero]
    · apply Counts.bind
      refine counts_finishFile rfl boundary fits sending
        ended fun digest chosen completed later last whole => ?_
      apply Calm.counts_bind
      refine calm_sendFrame (by simp) ?_
      exact counts_pure (holds _ _ later last whole)

end Blake3

end Entry

/-! ## The entries -/

section Entries

theorem completionFromResult_error [Blake3] {entry : ManifestEntryV2} {result : EntryResultV2}
    {error : ManifestV2DataError} (failed : completionFromResult entry result = .error error) :
    error = .finalMismatch := by
  obtain refused | ⟨_, _, failed⟩ := bind_eq_error.mp failed
  · exact (reject_eq_error.mp refused).2.symm
  · cases kind : entry.kind <;> cases digest : result.finalDigest <;>
      simp only [kind, digest] at failed
    case directory.none => cases failed
    case directory.some => exact (Except.error.inj failed).symm
    case regularFile.none => exact (Except.error.inj failed).symm
    case regularFile.some => cases failed

theorem completionFromResumeCheckpoint_error [Blake3] {identity : JobGenerationV2}
    {entry : ManifestEntryV2} {checkpoint : ResumeEntryV2} {error : ManifestV2DataError}
    (failed : completionFromResumeCheckpoint identity entry checkpoint = .error error) :
    ∃ detail, error = .invalidLedger detail := by
  have missing : ∀ {found : Option ContentDigestV2} {detail : String}
      {next : ContentDigestV2 → EntryCompleteV2},
      (okOr found (.invalidLedger detail) >>= fun digest => pure (next digest) :
        Except ManifestV2DataError EntryCompleteV2) = .error error →
            ∃ detail, error = .invalidLedger detail := by
    intro found detail next failed
    obtain missing | ⟨_, _, other⟩ := bind_eq_error.mp failed
    · exact ⟨detail, (okOr_eq_error.mp missing).2.symm⟩
    · cases other
  unfold completionFromResumeCheckpoint at failed
  cases arbiter : checkpoint.arbiter with
  | payloadOpen =>
    rw [arbiter] at failed
    exact ⟨_, (Except.error.inj failed).symm⟩
  | reuseChosen =>
    rw [arbiter] at failed
    exact missing failed
  | payloadCompleteChosen =>
    rw [arbiter] at failed
    by_cases directory : entry.kind = .directory
    · simp only [if_pos directory] at failed
      cases failed
    · simp only [if_neg directory] at failed
      exact missing failed

theorem updateCompletionSet_error {hasher : Bytes} {completion : EntryCompleteV2}
    {error : ManifestV2DataError} [Blake3] [UnicodeNormalization]
    (failed : updateCompletionSet hasher completion = .error error) :
    error ≠ .arithmeticOverflow := by
  simp only [updateCompletionSet, completionSetBytes, bind_eq_error, mapErr_eq_error] at failed
  obtain (⟨_, _, rfl⟩ | ⟨_, _, other⟩) | ⟨_, _, other⟩ := failed
  · nofun
  · cases other
  · cases other

/-- A completion that the sender rebuilds was counted whole. -/
theorem countedBytes_rebuilt [Blake3] {identity : JobGenerationV2} {entry : ManifestEntryV2}
    {checkpoint : ResumeEntryV2} {rebuilt : Except ManifestV2DataError EntryCompleteV2}
    (decided : resumedCompletion identity entry checkpoint = some rebuilt) :
    countedBytes entry checkpoint = entry.plaintextSize.toNat := by
  unfold resumedCompletion at decided
  split at decided
  case h_1 result finished => simp [countedBytes, finished]
  case h_2 unfinished =>
    split at decided
    case isTrue closed => exact countedBytes_closed closed
    case isFalse _ => cases decided

theorem resumedCompletion_error [Blake3] {identity : JobGenerationV2} {entry : ManifestEntryV2}
    {checkpoint : ResumeEntryV2} {error : ManifestV2DataError}
    (failed : resumedCompletion identity entry checkpoint = some (.error error)) :
    error ≠ .arithmeticOverflow := by
  unfold resumedCompletion at failed
  split at failed
  case h_1 =>
    rw [completionFromResult_error (Option.some.inj failed)]
    nofun
  case h_2 =>
    split at failed
    case isTrue _ =>
      obtain ⟨_, rfl⟩ := completionFromResumeCheckpoint_error (Option.some.inj failed)
      nofun
    case isFalse _ => cases failed

variable {accounting : Accounting} {standing : Standing} {record : SenderDeliveryRecordV2}
  {accept : ManifestAcceptV2}
  {resume : Option ResumeStatusV2} {entry : ManifestEntryV2} {base : Nat}

/-- What the resume has counted of an entry. -/
def resumedOf (resume : Option ResumeStatusV2) (entry : ManifestEntryV2) : Nat :=
  match resume.bind (·.entries[entry.entryId.toNat]?) with
  | some checkpoint => countedBytes entry checkpoint
  | none => 0

/-- The plans go on where the resume has counted to. -/
structure Continues (accept : ManifestAcceptV2) (resume : Option ResumeStatusV2) : Prop where
  fresh : resume = none → ∀ plan ∈ accept.entryPlans, plan.nextPlaintextBlock = 0
  resumed : ∀ status ∈ resume, ∀ (index : Nat) (plan : EntryPlanV2) (checkpoint : ResumeEntryV2),
    accept.entryPlans[index]? = some plan → status.entries[index]? = some checkpoint →
    plan.nextPlaintextBlock = checkpoint.nextPlaintextBlock
  fits : ∀ status ∈ resume, ∀ checkpoint ∈ status.entries, BoundaryFits checkpoint

theorem calm_resumeCheckpoint {post : Option ResumeEntryV2 → SenderDeliveryRecordV2 → Prop}
    (holds : ∀ checkpoint, checkpoint = resume.bind (·.entries[entry.entryId.toNat]?) →
      (checkpoint = none → resume = none) → post checkpoint record) :
    Calm accounting standing record (resumeCheckpoint resume entry) post := by
  unfold resumeCheckpoint
  cases resume with
  | none => exact calm_pure (holds none rfl fun _ => rfl)
  | some status =>
    apply Calm.bind
    exact calm_element fun checkpoint found => calm_pure (holds _ found.symm nofun)

theorem countedBytes_undecided (entry : ManifestEntryV2) {checkpoint : ResumeEntryV2}
    (undecided : ¬ ReportedDecided checkpoint) : countedBytes entry checkpoint =
      min (checkpoint.nextPlaintextBlock.toNat * defaultBlockBytes.toNat)
        entry.plaintextSize.toNat :=
  if_neg undecided

theorem resumedOf_le (resume : Option ResumeStatusV2) (entry : ManifestEntryV2) :
    resumedOf resume entry ≤ entry.plaintextSize.toNat := by
  unfold resumedOf
  split
  · exact countedBytes_le _ _
  · exact Nat.zero_le _

variable [Blake3] [UnicodeNormalization]

omit [UnicodeNormalization] in
/-- An entry that is transferred counts whole when it is done. -/
theorem counts_transmitEntry [Zstd] (fuel : Nat) {checkpoint : Option ResumeEntryV2}
    {completed : UInt64}
    {post : EntryCompleteV2 × UInt64 → SenderDeliveryRecordV2 → Standing → Prop}
    (continues : Continues accept resume)
    (directory : entry.kind = .directory → entry.plaintextSize = 0)
    (looked : checkpoint = resume.bind (·.entries[entry.entryId.toNat]?))
    (unresumed : checkpoint = none → resume = none)
    (undecided : ∀ known ∈ checkpoint, ¬ ReportedDecided known)
      (here : standing.last = some completed)
      (counted : completed.toNat = base + resumedOf resume entry)
      (fits : base + entry.plaintextSize.toNat ≤ accounting.total.toNat)
      (holds : ∀ completion (completed : UInt64) later, later.last = some completed →
      completed.toNat = base + entry.plaintextSize.toNat →
      post (completion, completed) record later) :
    Counts accounting standing record
      (transmitEntry fuel accept checkpoint accounting.total entry completed) post := by
  have below := resumedOf_le resume entry
  apply Calm.counts_bind
  refine calm_element fun plan planFound => ?_
  split
  case isTrue isDirectory =>
    have empty : entry.plaintextSize.toNat = 0 := by rw [directory isDirectory, UInt64.toNat_zero]
    apply Calm.counts_bind
    apply Calm.bind
    refine calm_sendFrame (by simp) ?_
    apply Calm.bind
    refine calm_sendFrame (by simp) ?_
    exact calm_pure (counts_pure (holds _ _ _ here (by omega)))
  case isFalse _ =>
    apply Calm.counts_bind
    apply calm_get
    apply Calm.counts_bind
    refine calm_raise (fun error failed => excuses_of_ne ?_) fun encoding _ => ?_
    · obtain ⟨_, _, rfl⟩ := mapErr_eq_error.mp failed
      simp
    apply Calm.counts_bind
    refine calm_attempt ⟨(by simp), (by simp), (by simp),
      (by simp)⟩ (fun _ _ failed => congrArg errorOf failed) fun _ => ?_
    cases checkpoint with
    | none =>
      have nothing : resumedOf resume entry = 0 := by rw [resumedOf, ← looked]
      have start := continues.fresh (unresumed rfl) plan (List.mem_of_getElem? planFound)
      apply Calm.counts_bind
      refine calm_pure ?_
      refine counts_sendFile fuel ?_ here ?_ fits holds
      · rw [start, UInt64.toNat_zero, Nat.zero_mul, Nat.zero_min]
      · rw [counted, nothing, UInt64.toNat_zero]
    | some known =>
      obtain ⟨status, rfl, found⟩ := Option.bind_eq_some_iff.mp looked.symm
      have estimate := countedBytes_undecided entry (undecided known rfl)
      have resumed : resumedOf (some status) entry = countedBytes entry known := by
        rw [resumedOf, ← looked]
      apply Calm.counts_bind
      refine calm_raise (fun error failed => ?_) fun resumedBytes sized => ?_
      · rw [resumeEntryPlaintextBytes_error
          (continues.fits status rfl known (List.mem_of_getElem? found)) failed]
        exact excuses_of_ne (by simp)
      have size := resumeEntryPlaintextBytes_ok sized
      refine counts_sendFile fuel ?_ here ?_ fits holds
      · rw [size, estimate, continues.resumed status rfl _ plan known planFound found]
      · rw [counted, resumed, size]

omit [UnicodeNormalization] in
/-- Every entry counts whole when it is done. -/
theorem counts_sendEntry [Zstd] (fuel : Nat) {completed : UInt64}
    {post : EntryCompleteV2 × UInt64 → SenderDeliveryRecordV2 → Standing → Prop}
    (continues : Continues accept resume)
    (directory : entry.kind = .directory → entry.plaintextSize = 0)
    (here : standing.last = some completed)
    (counted : completed.toNat = base + resumedOf resume entry)
    (fits : base + entry.plaintextSize.toNat ≤ accounting.total.toNat)
    (holds : ∀ completion (completed : UInt64) later, later.last = some completed →
      completed.toNat = base + entry.plaintextSize.toNat →
      post (completion, completed) record later) :
    Counts accounting standing record
      (sendEntry fuel accept resume accounting.total entry completed) post := by
  apply Calm.counts_bind
  refine calm_resumeCheckpoint fun checkpoint looked unresumed => ?_
  cases decided : checkpoint.bind (resumedCompletion accept.identity entry) with
  | some rebuilt =>
    obtain ⟨known, rfl, rebuilds⟩ := Option.bind_eq_some_iff.mp decided
    have whole : resumedOf resume entry = entry.plaintextSize.toNat := by
      rw [resumedOf, ← looked]
      exact countedBytes_rebuilt rebuilds
    apply Calm.counts_bind
    refine calm_raise (fun error failed => excuses_of_ne ?_) fun completion _ => ?_
    · exact resumedCompletion_error (failed ▸ rebuilds)
    · exact counts_pure (holds _ _ _ here (by rw [counted, whole]))
  | none =>
    refine counts_transmitEntry fuel continues directory looked unresumed ?_ here counted fits holds
    intro known found reported
    rw [Option.mem_def.mp found, Option.bind_some] at decided
    exact resumedCompletion_eq_none.mp decided reported

/-- The estimates of some entries. -/
def resumedSum (resume : Option ResumeStatusV2) (entries : List ManifestEntryV2) : Nat :=
  (entries.map (resumedOf resume)).sum

theorem counts_sendEntries [Zstd] (fuel : Nat) {entries : List ManifestEntryV2} {hasher : Bytes}
    {completed : UInt64}
    {post : Bytes × List EntryCompleteV2 → SenderDeliveryRecordV2 → Standing → Prop}
    (continues : Continues accept resume)
    (directories : ∀ entry ∈ entries, entry.kind = .directory → entry.plaintextSize = 0)
      (here : standing.last = some completed)
        (counted : completed.toNat = base + resumedSum resume entries)
    (fits : base + plaintextSum entries ≤ accounting.total.toNat)
    (holds : ∀ result (completed : UInt64) later, later.last = some completed →
      completed.toNat = base + plaintextSum entries → post result record later) :
    Counts accounting standing record
      (sendEntries fuel accept resume accounting.total entries hasher completed) post := by
  induction entries generalizing standing base completed hasher post with
  | nil => exact counts_pure (holds _ completed _ here counted)
  | cons entry entries ih =>
    have below := resumedOf_le resume entry
    have resumed : resumedSum resume (entry :: entries) =
      resumedOf resume entry + resumedSum resume entries := rfl
    have whole :
      plaintextSum (entry :: entries) = entry.plaintextSize.toNat + plaintextSum entries := rfl
    have rest : resumedSum resume entries ≤ plaintextSum entries :=
      List.sum_le_sum fun entry _ => resumedOf_le resume entry
    rw [resumed, ← Nat.add_assoc] at counted
    rw [whole, ← Nat.add_assoc] at fits
    -- the entries further on count as they did at the start
    have before :
      completed.toNat = (base + resumedSum resume entries) + resumedOf resume entry := by omega
    have room : (base + resumedSum resume entries) + entry.plaintextSize.toNat ≤
      accounting.total.toNat := by omega
    apply Counts.bind
    refine counts_sendEntry fuel continues (directories entry List.mem_cons_self) here before room
      fun completion completed later last sum => ?_
    apply Calm.counts_bind
    refine calm_raise (fun error failed =>
      excuses_of_ne (updateCompletionSet_error failed)) fun hasher _ => ?_
    have after :
      completed.toNat = (base + entry.plaintextSize.toNat) + resumedSum resume entries := by omega
    apply Counts.bind
    refine ih (fun other listed => directories other (.tail _ listed)) last after fits
      fun (hasher, completions) final later last done => ?_
    refine counts_pure (holds _ final later last ?_)
    rw [whole, ← Nat.add_assoc]
    exact done

end Entries

/-! ## The whole run -/

section Send

/-- Some entry is too large for the block arithmetic of the data plane. -/
def Vast (manifest : ManifestV2) : Prop :=
  ∃ entry ∈ manifest.entries, 2 ^ 64 ≤ entry.plaintextSize.toNat + (defaultBlockBytes.toNat - 1)

/-- A fresh Accept starts every entry at its first block. -/
def ZeroBoundaries : ManifestV2Frame → Prop
  | .accept accept => ∀ plan ∈ accept.entryPlans, plan.nextPlaintextBlock = 0
  | _ => True

def sendAccounting (manifest : ManifestV2) : Accounting where
  total := manifest.totals.totalPlaintextBytes
  arrives := ZeroBoundaries
  reusable _ := True
  saves _ := True
  vast := Vast manifest

theorem totalBlocks_error {entry : ManifestEntryV2} {error : ManifestV2DataError}
    (failed : totalBlocks entry = .error error) :
    2 ^ 64 ≤ entry.plaintextSize.toNat + (defaultBlockBytes.toNat - 1) := by
  by_contra fits
  have less : (defaultBlockBytes - 1).toNat = defaultBlockBytes.toNat - 1 := by decide
  rw [Nat.not_le, ← less] at fits
  rw [totalBlocks, checkedAdd64, if_pos fits] at failed
  cases failed

theorem validateAccept_vast {offer : ManifestOfferV2} {accept : ManifestAcceptV2}
    (failed : validateAccept offer accept = .error .arithmeticOverflow) : Vast offer.manifest := by
  obtain refused | ⟨_, _, failed⟩ := bind_eq_error.mp failed
  · cases (reject_eq_error.mp refused).2
  obtain roots | ⟨_, _, failed⟩ := bind_eq_error.mp failed
  · obtain ⟨_, _, refused⟩ := forM_eq_error roots
    cases (reject_eq_error.mp refused).2
  obtain ⟨⟨entry, plan⟩, listed, failed⟩ := forM_eq_error failed
  obtain refused | ⟨_, _, failed⟩ := bind_eq_error.mp failed
  · cases (reject_eq_error.mp refused).2
  obtain blocks | ⟨_, _, refused⟩ := bind_eq_error.mp failed
  · exact ⟨entry, (List.of_mem_zip listed).1, totalBlocks_error blocks⟩
  · cases (reject_eq_error.mp refused).2

variable [Blake3]

theorem validateResumeStatus_vast {manifest : ManifestV2} {record : SenderDeliveryRecordV2}
    {status : ResumeStatusV2}
    (failed : validateResumeStatus manifest record status = .error .arithmeticOverflow) :
    Vast manifest := by
  obtain missing | ⟨accept, _, failed⟩ := bind_eq_error.mp failed
  · cases (okOr_eq_error.mp missing).2
  obtain refused | ⟨_, _, failed⟩ := bind_eq_error.mp failed
  · cases (reject_eq_error.mp refused).2
  obtain entries | ⟨_, _, failed⟩ := bind_eq_error.mp failed
  · obtain ⟨⟨entry, checkpoint⟩, listed, failed⟩ := forM_eq_error entries
    obtain blocks | ⟨_, _, refused⟩ := bind_eq_error.mp failed
    · exact ⟨entry, (List.of_mem_zip listed).1, totalBlocks_error blocks⟩
    · cases (reject_eq_error.mp refused).2
  · split at failed
    case isTrue _ =>
      obtain missing | ⟨_, _, refused⟩ := bind_eq_error.mp failed
      · cases (okOr_eq_error.mp missing).2
      · cases (reject_eq_error.mp refused).2
    case isFalse _ => cases failed

theorem validateResumeStatus_fits {manifest : ManifestV2} {record : SenderDeliveryRecordV2}
    {status : ResumeStatusV2} (valid : validateResumeStatus manifest record status = .ok ()) :
    ∀ checkpoint ∈ status.entries, BoundaryFits checkpoint := by
  have covers := validateResumeStatus_length valid
  simp only [validateResumeStatus, bind_eq_ok, exists_unit, forM_eq_ok] at valid
  obtain ⟨_, _, _, each, _⟩ := valid
  intro checkpoint listed
  obtain ⟨index, found⟩ := List.mem_iff_getElem?.mp listed
  have bound : index < manifest.entries.length := by
    rw [← covers]
    exact (List.getElem?_eq_some_iff.mp found).1
  have paired : (manifest.entries[index], checkpoint) ∈ manifest.entries.zip status.entries :=
    List.mem_of_getElem? (List.getElem?_zip_eq_some.mpr ⟨List.getElem?_eq_getElem bound, found⟩)
  have entry := each _ paired
  simp only [validateResumeEntry, bind_eq_ok, reject_eq_ok, not_or] at entry
  obtain ⟨total, blocks, _, within, _⟩ := entry
  exact boundaryFits_of_le blocks (UInt64.not_lt.mp within)

omit [Blake3] in
theorem getElem?_resumePlans {plans : List EntryPlanV2} {checkpoints : List ResumeEntryV2}
    {index : Nat} {plan : EntryPlanV2} {checkpoint : ResumeEntryV2}
    (planFound : (resumePlans plans checkpoints)[index]? = some plan)
    (found : checkpoints[index]? = some checkpoint) :
    plan.nextPlaintextBlock = checkpoint.nextPlaintextBlock := by
  induction plans, checkpoints using resumePlans.induct generalizing index with
  | case1 first plans head rest ih =>
    cases index with
    | zero =>
      rw [resumePlans, List.getElem?_cons_zero, Option.some.injEq] at planFound
      rw [List.getElem?_cons_zero, Option.some.injEq] at found
      rw [← planFound, ← found]
    | succ index =>
      rw [resumePlans, List.getElem?_cons_succ] at planFound
      exact ih planFound found
  | case2 plans checkpoints different =>
    cases plans with
    | nil =>
      rw [resumePlans] at planFound
      · cases planFound
      · exact different
    | cons first plans =>
      cases checkpoints with
      | nil => cases found
      | cons head rest => exact absurd rfl (different first plans head rest rfl)

variable [UnicodeNormalization] {accounting : Accounting} {standing : Standing}
  {record : SenderDeliveryRecordV2}

omit [Blake3] [UnicodeNormalization] in
theorem calm_onRecord {α : Type} {method : SenderMethod α}
    {post : α → SenderDeliveryRecordV2 → Prop} (holds : ∀ value left, post value left) :
      Calm accounting standing record (onRecord method) post := by
  apply Calm.bind
  apply calm_get
  cases method.runOn record with
  | mk result left =>
    apply Calm.bind
    apply calm_set
    refine calm_raise (fun error failed => excuses_of_ne ?_) fun value _ => holds value left
    obtain ⟨_, _, rfl⟩ := mapErr_eq_error.mp failed
    nofun

theorem calm_saveSender {State : Type} {state : State} {done : Unit → State → Prop}
    (holds : done () state) :
    Calm accounting standing state (deliver (SenderDeliveryStoreV2.save record)) done := by
  intro world stands
  rw [deliver, ensures_embed, SenderDeliveryStoreV2.save, ensures_bind, ensures_raise]
  have elsewhere : ∀ (error : DeliveryAuthorityErrorV2) (history : List EngineEvent),
      accounting.Excused (.delivery error) history := fun _ _ => (by rintro ⟨⟩)
  cases record.validate with
  | error error =>
    exact ⟨stands, (by intros; contradiction),
      fun other same => Except.error.inj same ▸ elsewhere error _⟩
  | ok _ =>
    have plain : (EngineOp.delivery (.saveSender record)).Plain :=
      ⟨(by simp), (by simp), (by simp), (by simp)⟩
    rw [resumeWith_ok, ensures_bind]
    refine (@ensures_perform _ _ _ (accounting.contract.restrict EngineOp.delivery)
      _ _ _ state world
      (.saveSender record) _).mpr ⟨stands.allows plain, fun reply _ => ?_⟩
    rw [resumeWith_ok, ensures_raise]
    refine ⟨(stands.plain plain reply _).weaken .inl, fun _ _ => holds, fun error failed => ?_⟩
    cases written : writeResult reply with
    | ok _ =>
      rw [written] at failed
      cases failed
    | error cause =>
      rw [written] at failed
      exact Except.error.inj failed ▸ elsewhere cause _

omit [Blake3] [UnicodeNormalization] in
theorem calm_legacyEntryEncoding [Zstd] (entry : ManifestEntryV2) (policy : CompressionPolicyV2)
    {State : Type} {state : State} :
    Calm accounting standing state (legacyEntryEncoding entry policy) fun _ left =>
      left = state := by
  unfold legacyEntryEncoding
  split
  case isTrue _ => exact calm_pure rfl
  case isFalse _ =>
    cases policy with
    | never => exact calm_pure rfl
    | always => exact calm_pure rfl
    | smart =>
      apply Calm.bind
      refine calm_attempt ⟨(by simp), (by simp), (by simp),
        (by simp)⟩ (fun _ _ failed => congrArg errorOf failed) fun _ => ?_
      apply Calm.bind
      refine calm_attempt ⟨(by simp), (by simp), (by simp),
        (by simp)⟩ (fun _ _ failed => congrArg errorOf failed) fun _ => ?_
      apply Calm.bind
      refine calm_attempt ⟨(by simp), (by simp), (by simp),
        (by simp)⟩ (fun _ _ failed => congrArg errorOf failed) fun sample => ?_
      split
      case isTrue _ => exact calm_pure rfl
      case isFalse _ =>
        apply Calm.bind
        exact calm_okOr (by simp) fun _ _ => calm_pure rfl

omit [Blake3] [UnicodeNormalization] in
theorem calm_legacyEntryEncodings [Zstd] (entries : List ManifestEntryV2)
    (policy : CompressionPolicyV2) {State : Type} {state : State} :
    Calm accounting standing state (entries.mapM (legacyEntryEncoding · policy)) fun _ left =>
      left = state := by
  induction entries with
  | nil =>
    rw [List.mapM_nil]
    exact calm_pure rfl
  | cons entry entries ih =>
    rw [List.mapM_cons]
    apply Calm.bind
    refine (calm_legacyEntryEncoding entry policy).mono fun encoding left same => ?_
    subst same
    apply Calm.bind
    refine ih.mono fun encodings left same => ?_
    subst same
    exact calm_pure rfl

theorem calm_prepareSenderEntryEncodings [Zstd] {offer : ManifestOfferV2}
    {done : Unit → SenderDeliveryRecordV2 → Prop} (holds : ∀ left, done () left) :
    Calm accounting standing record (prepareSenderEntryEncodings offer) done := by
  apply Calm.bind
  apply calm_get
  split
  case isTrue _ => exact calm_pure (holds record)
  case isFalse _ =>
    cases record.phase with
    | offering => exact calm_onRecord fun _ left => holds left
    | transferring =>
      apply Calm.bind
      exact (calm_legacyEntryEncodings _ _).mono fun encodings left _ =>
        calm_onRecord fun _ left => holds left
    | waitingForReceiverSave | delivered | failed | canceled => exact calm_pure (holds record)

variable {manifest : ManifestV2} {offer : ManifestOfferV2}

theorem rebuildOffer_error {error : ManifestV2DataError}
    (failed : rebuildOffer manifest = .error error) :
    error ≠ .arithmeticOverflow := by
  obtain ⟨_, _, rfl⟩ := mapErr_eq_error.mp failed
  nofun

/-- A reconnect ends with a status that was validated; nothing is counted before. -/
theorem counts_establishSenderReconnect {post : ResumeStatusV2 → SenderDeliveryRecordV2 →
    Standing → Prop}
    (fresh : standing.last = none)
    (holds : ∀ status later, later.last = none →
      validateResumeStatus manifest record status = .ok () → post status record later) :
    Counts (sendAccounting manifest) standing record
      (establishSenderReconnect (some manifest)) post := by
  apply Calm.counts_bind
  refine calm_okOr (by simp) fun sealed same => ?_
  obtain rfl := Option.some.inj same
  apply Calm.counts_bind
  refine calm_raise (fun error failed => excuses_of_ne (rebuildOffer_error failed)) fun offer _ =>
    ?_
  apply Calm.counts_bind
  apply calm_get
  apply Calm.counts_bind
  refine calm_raise (fun error failed => excuses_of_ne ?_) fun _ _ => ?_
  · obtain ⟨_, _, rfl⟩ := mapErr_eq_error.mp failed
    simp
  apply Calm.counts_bind
  refine calm_okOr (by rintro ⟨⟩) fun acceptDigest _ => ?_
  apply Calm.counts_bind
  refine calm_okOr (by simp) fun capability _ => ?_
  apply Calm.counts_bind
  refine calm_perform ⟨(by simp), (by simp), (by simp), (by simp)⟩ fun reply => ?_
  apply Calm.counts_bind
  refine calm_okOr (by simp) fun challengeNonce _ => ?_
  extract_lets checked rest
  have agreed (intent : SenderResumeIntentV2) :
      Counts (sendAccounting manifest) standing record (rest intent) post := by
    unfold rest checked
    apply Calm.counts_bind
    refine calm_sendFrame (by simp) ?_
    refine counts_recvFrame (fun complete _ =>
      ⟨.unexpectedFrame _, (by simp), rfl⟩) fun frame _ _ => ?_
    cases frame with
    | resumeStatus status =>
      apply Calm.counts_bind
      apply calm_pure
      apply Calm.counts_bind
      refine calm_reject (by simp) fun _ => ?_
      apply Calm.counts_bind
      refine calm_raise (fun error failed => excuses_of_ne ?_) fun _ _ => ?_
      · obtain ⟨_, _, rfl⟩ := mapErr_eq_error.mp failed
        simp
      apply Calm.counts_bind
      refine calm_raise (fun error failed overflow => ?_) fun _ valid => ?_
      · subst overflow
        exact .inr ⟨validateResumeStatus_vast failed, fresh⟩
      · exact counts_pure (holds status _ fresh valid)
    | _ =>
      apply Calm.counts_bind
      exact calm_throw (excuses_of_ne (by simp))
  cases record.phase with
  | transferring | waitingForReceiverSave | delivered =>
    apply Calm.counts_bind
    apply calm_pure
    exact agreed _
  | offering | failed | canceled =>
    apply Calm.counts_bind
    exact calm_throw (excuses_of_ne (by simp))

/-- Whichever way the Accept is agreed, the plans go on where the count starts. -/
theorem counts_agreeAccept (same : offer.manifest = manifest) (fresh : standing.last = none)
    {post : ManifestAcceptV2 × ContentDigestV2 × Option ResumeStatusV2 → SenderDeliveryRecordV2 →
      Standing → Prop}
    (holds : ∀ accept digest resume left later, later.last = none → Continues accept resume →
      (∀ status ∈ resume, status.entries.length = manifest.entries.length) →
        post (accept, digest, resume) left later) :
    Counts (sendAccounting manifest) standing record (agreeAccept (some manifest) offer) post := by
  apply Calm.counts_bind
  apply calm_onStage
  apply Calm.counts_bind
  apply calm_get
  split
  case isTrue _ =>
    apply Counts.bind
    refine counts_establishSenderReconnect fresh fun status later unreported valid => ?_
    apply Calm.counts_bind
    apply calm_get
    apply Calm.counts_bind
    refine calm_okOr nofun fun accept _ => ?_
    apply Calm.counts_bind
    apply calm_get
    apply Calm.counts_bind
    refine calm_okOr nofun fun digest _ => ?_
    refine counts_pure (holds _ digest (some status) record later unreported ⟨nofun, ?_, ?_⟩ ?_)
    · intro known found index plan checkpoint planFound checkpointFound
      obtain rfl := Option.some.inj found
      exact getElem?_resumePlans planFound checkpointFound
    · intro known found
      obtain rfl := Option.some.inj found
      exact validateResumeStatus_fits valid
    · intro known found
      obtain rfl := Option.some.inj found
      exact validateResumeStatus_length valid
  case isFalse _ =>
    apply Calm.counts_bind
    refine calm_sendFrame nofun ?_
    refine counts_recvFrame (fun complete _ =>
      ⟨.unexpectedFrame _, nofun, rfl⟩) fun frame arrives _ => ?_
    cases frame with
    | accept accept =>
      apply Calm.counts_bind
      apply calm_pure
      apply Calm.counts_bind
      refine calm_raise (fun error failed overflow => ?_) fun _ _ => ?_
      · subst overflow
        exact .inr ⟨same ▸ validateAccept_vast failed, fresh⟩
      apply Calm.counts_bind
      refine calm_raise (fun error failed => excuses_of_ne ?_) fun digest _ => ?_
      · obtain ⟨_, _, rfl⟩ := mapErr_eq_error.mp failed
        nofun
      apply Calm.counts_bind
      refine calm_onRecord fun _ left => ?_
      apply Calm.counts_bind
      apply calm_get
      apply Calm.counts_bind
      apply calm_saveSender
      exact counts_pure
        (holds accept digest none left _ fresh ⟨fun _ => arrives, nofun, nofun⟩ nofun)
    | _ =>
      apply Calm.counts_bind
      exact calm_throw (excuses_of_ne nofun)

omit [Blake3] [UnicodeNormalization] in
theorem counts_recvEntryResults {identity : JobGenerationV2}
    {pairs : List (ManifestEntryV2 × EntryCompleteV2)}
    {post : List EntryResultV2 → SenderDeliveryRecordV2 → Standing → Prop}
    (whole : standing.last = some accounting.total)
    (holds : ∀ results later, later.last = standing.last → post results record later) :
    Counts accounting standing record (recvEntryResults identity pairs) post := by
  induction pairs generalizing standing post with
  | nil => exact counts_pure (holds [] _ rfl)
  | cons pair pairs ih =>
    obtain ⟨entry, completion⟩ := pair
    apply Counts.bind
    refine counts_recvFrame (fun complete early => absurd whole early) fun frame _ _ => ?_
    cases frame with
    | entryResult result =>
      apply Calm.counts_bind
      refine calm_reject nofun fun _ => ?_
      refine counts_pure ?_
      apply Calm.counts_bind
      refine calm_reject nofun fun _ => ?_
      apply Counts.bind
      exact ih whole fun results later same => counts_pure (holds _ later same)
    | _ => exact counts_throw (excuses_of_ne nofun)

theorem canonicalForest_of_rebuild (rebuilt : rebuildOffer manifest = .ok offer) :
    CanonicalForest manifest ∧ offer.manifest = manifest := by
  simp only [rebuildOffer, mapErr_eq_ok, buildManifestOfferV2, bind_eq_ok, exists_unit] at rebuilt
  obtain ⟨valid, _, _, rfl⟩ := rebuilt
  exact ⟨accepted_iff_canonicalForest.mp (validate_eq_ok.mp valid), rfl⟩

omit [Blake3] [UnicodeNormalization] in
/-- The start of a count is what the resume has counted of every entry. -/
theorem countedSum_eq_resumedSum {status : ResumeStatusV2} {entries : List ManifestEntryV2}
    (start : Nat) (ids : ∀ (index : Nat) (entry : ManifestEntryV2), entries[index]? = some entry →
      entry.entryId.toNat = start + index)
    (covers : status.entries.length = start + entries.length) :
    countedSum (entries.zip (status.entries.drop start)) = resumedSum (some status) entries := by
  induction entries generalizing start with
  | nil => rfl
  | cons entry entries ih =>
    have bound : start < status.entries.length := by
      rw [covers, List.length_cons]
      omega
    have here : entry.entryId.toNat = start := ids 0 entry rfl
    have counted : resumedOf (some status) entry = countedBytes entry status.entries[start] := by
      rw [resumedOf, here, Option.bind_some, List.getElem?_eq_getElem bound]
    have rest := ih (start + 1)
      (fun index other found => by rw [ids (index + 1) other found, Nat.add_assoc, Nat.add_comm 1])
      (by rw [covers, List.length_cons]; omega)
    rw [List.drop_eq_getElem_cons bound, List.zip_cons_cons]
    show countedBytes entry status.entries[start] +
      countedSum (entries.zip (status.entries.drop (start + 1))) =
      resumedOf (some status) entry + resumedSum (some status) entries
    rw [rest, counted]

/-- Every run of `send` counts exactly. -/
theorem counts_send [Zstd] (fuel : Nat) (fresh : standing.last = none) :
    Counts (sendAccounting manifest) standing record (send fuel (some manifest)) fun _ _ _ =>
      True := by
  apply Calm.counts_bind
  refine calm_okOr (by simp) fun sealed same => ?_
  obtain rfl := Option.some.inj same
  apply Calm.counts_bind
  refine calm_raise (fun error failed =>
    excuses_of_ne (rebuildOffer_error failed)) fun offer rebuilt => ?_
  obtain ⟨forest, same⟩ := canonicalForest_of_rebuild rebuilt
  have total : plaintextSum manifest.entries = manifest.totals.totalPlaintextBytes.toNat := by
    rw [forest.bytes, byteTotal_eq_plaintextSum fun entry listed directory =>
      (forest.directories entry listed directory).1]
  have bounded := manifest.totals.totalPlaintextBytes.toNat_lt
  apply Calm.counts_bind
  refine calm_prepareSenderEntryEncodings fun record => ?_
  apply Calm.counts_bind
  apply calm_get
  apply Calm.counts_bind
  refine calm_raise (fun error failed => excuses_of_ne ?_) fun _ _ => ?_
  · obtain ⟨_, _, rfl⟩ := mapErr_eq_error.mp failed
    simp
  apply Calm.counts_bind
  apply calm_get
  apply Calm.counts_bind
  apply calm_saveSender
  apply Counts.bind
  refine counts_agreeAccept same
    fresh fun accept digest resume record later unreported continues covers => ?_
  apply Calm.counts_bind
  apply calm_onStage
  apply Calm.counts_bind
  apply calm_onPhase
  have rest (completed : UInt64) (counted : completed.toNat = resumedSum resume manifest.entries) :
      Counts (sendAccounting manifest) later record (do
        onProgress completed manifest.totals.totalPlaintextBytes
        let entries ← sendEntries fuel accept resume manifest.totals.totalPlaintextBytes
          manifest.entries [] completed
        let senderCompletionSetDigest : ContentDigestV2 := ⟨Blake3.hash entries.1⟩
        onStage .payloadComplete
        sendFrame (.jobComplete { identity := accept.identity, senderCompletionSetDigest })
        let entryResults ← recvEntryResults accept.identity (manifest.entries.zip entries.2)
        let summary : SenderDataPlaneSummaryV2 :=
          { identity := accept.identity, acceptBodyDigest := digest, senderCompletionSetDigest,
            entryResults }
        onRecord (SenderDeliveryRecordV2.commitResults summary)
        deliver (SenderDeliveryStoreV2.save (← get))
        onPhase .waitingForReceiverSave
        pure summary) fun _ _ _ => True := by
    have below : resumedSum resume manifest.entries ≤ plaintextSum manifest.entries :=
      List.sum_le_sum fun entry _ => resumedOf_le resume entry
    apply Counts.bind
    refine counts_onProgress ?_ (fun last found => ?_) ?_
    · rw [UInt64.le_iff_toNat_le, counted]
      exact below.trans total.le
    · rw [unreported] at found
      cases found
    apply Counts.bind
    refine counts_sendEntries fuel continues
      (fun entry listed directory => (forest.directories entry listed directory).1) rfl
      (counted.trans (Nat.zero_add _).symm) ?_ fun entries final later last done => ?_
    · rw [Nat.zero_add, total]
      exact Nat.le_refl _
    have whole : later.last = some (sendAccounting manifest).total := by
      rw [last, Option.some.injEq, ← UInt64.toNat_inj, done, Nat.zero_add, total]
      rfl
    apply Calm.counts_bind
    apply calm_onStage
    apply Counts.bind
    refine counts_sendJobComplete whole ?_
    apply Counts.bind
    refine counts_recvEntryResults whole fun results later _ => ?_
    apply Calm.counts_bind
    refine calm_onRecord fun _ left => ?_
    apply Calm.counts_bind
    apply calm_get
    apply Calm.counts_bind
    apply calm_saveSender
    apply Calm.counts_bind
    apply calm_onPhase
    exact counts_pure trivial
  cases resume with
  | none =>
    apply Calm.counts_bind
    refine calm_pure (rest 0 ?_)
    rw [UInt64.toNat_zero]
    exact (List.sum_eq_zero fun bytes listed => by
      obtain ⟨entry, _, rfl⟩ := List.mem_map.mp listed
      rfl).symm
  | some status =>
    have counts :=
      resumePlaintextBytes_counts (total ▸ bounded : plaintextSum manifest.entries < 2 ^ 64)
      (continues.fits status rfl)
    have covers := covers status rfl
    apply Calm.counts_bind
    refine calm_raise (fun error failed => excuses_of_ne ?_) fun completed started =>
      rest completed ?_
    · rw [counts.2 error failed]
      simp
    · rw [counts.1 completed started]
      have start := countedSum_eq_resumedSum 0 (fun index entry found => by
        rw [forest.entryIds index entry found, Nat.zero_add]) (covers.trans (Nat.zero_add _).symm)
      rwa [List.drop_zero] at start

/-- The sender's progress in any run of `send`, cut anywhere, whatever the receiver answers and
whichever resume it asks for: the reports never go back and never pass the total, `JobComplete` goes
out at the total only, and the counting overflows only where the environment does or where the
manifest is refused before anything is reported. -/
theorem send_progress_exact [Zstd] {fuel : Nat} {start : EngineWorld}
    {final : EngineWorld × List EngineEvent}
    {rest : Proc EngineOp EngineReply (Except ManifestV2DataError SenderDataPlaneSummaryV2 ×
      SenderDeliveryRecordV2)}
        (run : Proc.Reaches (sendAccounting manifest).contract
          ((send fuel (some manifest)).runOn record) (start, []) rest final) :
    (reports final.2).Pairwise (· ≤ ·) ∧
      (∀ completed ∈ reports final.2, completed ≤ manifest.totals.totalPlaintextBytes) ∧
      (∀ before complete reply after,
        final.2 = before ++ ⟨.delivery (.sendManifestV2Frame (.jobComplete complete)),
          reply⟩ :: after →
        lastReport before = some manifest.totals.totalPlaintextBytes) ∧
      ∀ left, rest = .ret (.error .arithmeticOverflow, left) →
        OverflowArrived final.2 ∨ Vast manifest ∧ reports final.2 = [] := by
  have stands : (sendAccounting manifest).Stands ⟨none, False⟩ (start, []) := by
    refine ⟨rfl, ?_, False.elim⟩
    rintro ⟨complete, listed⟩
    cases listed
  have counts :
    Counts (sendAccounting manifest) ⟨none, False⟩ record (send fuel (some manifest)) fun _ _ _ =>
      True :=
    counts_send fuel rfl
  have follows := counts (start, []) stands
  have obeyed : (sendAccounting manifest).Obeyed final.2 := fun before op reply after split =>
    Proc.Follows.obeyed follows run split (Nat.zero_le _)
  obtain ⟨ascending, bounded, -⟩ := obeyed.ascends
  refine ⟨ascending, bounded, fun before complete reply after split => ?_, fun left same => ?_⟩
  · obtain ⟨world, allows⟩ := obeyed before _ reply after split
    exact allows.completes complete rfl
  · have ended := Proc.Follows.rest follows run
    subst same
    exact ended rfl

end Send

/-! ## A film in two blocks

The receiver has the first block of the film, and the sender resumes with the second.  The digests
are the BLAKE3 values of the inputs that occur. -/

def filmContentDigest : ContentDigestV2 :=
  ⟨⟨[0x66, 0x57, 0x9e, 0x9a, 0x3e, 0xb6, 0x9e, 0x28, 0x73, 0x47, 0xf5, 0x8b, 0x8e, 0x7d, 0xe4, 0xa2,
    0xea, 0x77, 0x1a, 0x9a, 0x54, 0xfa, 0xf4, 0xa6, 0x1f, 0xce, 0x09, 0x47, 0xa7, 0xc0, 0xf4, 0xc9],
      rfl⟩⟩

def filmManifest : ManifestV2 := { folderManifest with
  roots :=
    [{ rootId := 0, rootEntryId := 0, requestedName := "film.bin", completeness := .complete }]
  entries := [{
    entryId := 0, rootId := 0, parentEntryId := none, component := "film.bin", kind := .regularFile
    plaintextSize := 4194307, contentDigest := .known filmContentDigest }]
  totals := { fileCount := 1, directoryCount := 0, totalPlaintextBytes := 4194307 } }

def filmDigest : ContentDigestV2 :=
  ⟨⟨[0x52, 0xb5, 0x8b, 0x50, 0x5e, 0x74, 0x75, 0x2d, 0x51, 0xfd, 0xad, 0x27, 0x0a, 0x1a, 0x3e, 0x34,
    0xe0, 0x1d, 0xf6, 0x8a, 0x96, 0x24, 0x5f, 0x70, 0xb7, 0xb6, 0x68, 0xc4, 0x28, 0x1b, 0xeb, 0x96],
      rfl⟩⟩

def filmAcceptDigest : ContentDigestV2 :=
  ⟨⟨[0x19, 0xdc, 0x89, 0xe5, 0xcd, 0x68, 0xa4, 0x43, 0xfb, 0x52, 0xc5, 0xec, 0xee, 0x81, 0x08, 0xcb,
    0x7e, 0x36, 0xac, 0xed, 0x68, 0x0c, 0x0b, 0xc7, 0x98, 0x8a, 0x9d, 0xfe, 0x79, 0xb8, 0xf7, 0xa8],
      rfl⟩⟩

def filmSetDigest : ContentDigestV2 :=
  ⟨⟨[0xe2, 0xd0, 0x5a, 0xa5, 0x73, 0x87, 0x98, 0xbe, 0xcb, 0xf7, 0xb4, 0xb2, 0x00, 0x17, 0x06, 0xdc,
    0x55, 0x7e, 0x9f, 0x93, 0x0a, 0xc6, 0x69, 0xaa, 0x77, 0xac, 0x03, 0x20, 0xdb, 0xa5, 0xa8, 0x54],
      rfl⟩⟩

def filmCheckpoint : ByteVector 32 :=
  ⟨[0x2f, 0xbe, 0xb1, 0xbe, 0x25, 0x7c, 0x5c, 0x7c, 0xe2, 0xa7, 0x76, 0x9e, 0xea, 0x33, 0xc2, 0xaa,
    0xef, 0x5a, 0xc8, 0x35, 0xd8, 0x93, 0x78, 0x9f, 0xc7, 0x68, 0x90, 0x6f, 0xaa, 0x3a, 0xf9, 0xce],
      rfl⟩

/-- Only the film itself begins with four zeros. -/
@[reducible] def filmBlake3 : Blake3 where
  hash input :=
    if input = encodeManifestBody filmManifest then filmDigest.bytes
    else if input.take 4 = [0, 0, 0, 0] then filmContentDigest.bytes
    else filmSetDigest.bytes
  deriveKey context _ := if context = challengeKeyContext then knownChallengeKey else filmCheckpoint
  keyedHash _ _ := knownChallengeMac

def filmAccept : ManifestAcceptV2 :=
  { folderAccept with manifestDigest := filmDigest, rootPlans := [⟨0, "film.bin"⟩] }

def filmRecord : SenderDeliveryRecordV2 :=
  { folderRecord with
    manifestDigest := filmDigest, accept := some filmAccept,
    acceptBodyDigest := some filmAcceptDigest }

def filmStatus : ResumeStatusV2 where
  identity := folderIdentity
  acceptBodyDigest := filmAcceptDigest
  planRevision := 1
  entries := [⟨0, .payloadOpen, 1, some filmContentDigest, none⟩]
  challengeNonce := knownNonce
  challengeMac := knownChallengeMac

def filmFrames : List ManifestV2Frame :=
  [.resumeStatus filmStatus,
    .entryResult ⟨folderIdentity, 0, .saved, 4194307, some filmContentDigest, none⟩]

/-- The film is zeros but for its last three bytes, and the sender's own calls go through. -/
def filmReplies (world : EngineWorld × List EngineEvent) : (op : EngineOp) → Option (EngineReply op)
  | .sourceForSealedEntry _ => some (.ok ())
  | .openSource _ => some (.ok ())
  | .readExact _ length => some (.ok (if length = 3 then [1, 2, 3] else List.replicate length 0))
  | .sendEntryBlockOrRecvFrame _ => some (.ok none)
  | .verifyUnchanged _ => some (.ok ())
  | op => senderSmoothly filmFrames world.1 op

theorem filmReplies_allowed (world : EngineWorld × List EngineEvent) (op : EngineOp)
    (reply : EngineReply op) (answered : filmReplies world op = some reply) :
    (sendAccounting filmManifest).contract.may world op reply := by
  have zero : ∀ frame ∈ filmFrames, ZeroBoundaries frame := by simp [filmFrames, ZeroBoundaries]
  unfold filmReplies at answered
  split at answered
  · trivial
  · trivial
  · trivial
  · intro frame same
    cases answered
    cases same
  · trivial
  · unfold senderSmoothly at answered
    split at answered
    · trivial
    · trivial
    · trivial
    · exact smoothly_allowed zero world.1 _ reply answered

/-- The run of `send` from the reconnect to the results. -/
def filmRun :=
  Proc.walk (sendAccounting filmManifest).contract.after filmReplies 60
    ((@send filmBlake3 asciiNormalization storedZstd 5 (some filmManifest)).runOn filmRecord)
      (emptyWorld, [])

theorem filmRun_reached : Proc.Reaches (sendAccounting filmManifest).contract
    ((@send filmBlake3 asciiNormalization storedZstd 5 (some filmManifest)).runOn filmRecord)
    (emptyWorld, [])
    filmRun.1 filmRun.2 :=
  Proc.walk_reaches filmReplies_allowed 60 _ _

theorem filmRun_reports : reports filmRun.2.2 = [4194304, 4194307] := by
    set_option maxRecDepth 8000 in decide

theorem filmRun_ends :
    (filmRun.1.value?.map fun left => left.2.phase) = some .waitingForReceiverSave := by
  set_option maxRecDepth 8000 in decide

/-- The first report is the block that the receiver has, and the second the whole film. -/
theorem send_progress_exact_film :
    (filmRun.1.value?.map fun left => left.2.phase) = some .waitingForReceiverSave ∧
      reports filmRun.2.2 = [4194304, 4194307] ∧
      ∀ completed ∈ reports filmRun.2.2, completed ≤ 4194307 :=
  have counted :=
    @send_progress_exact filmBlake3 asciiNormalization filmRecord filmManifest storedZstd _ _ _ _
    filmRun_reached
  ⟨filmRun_ends, filmRun_reports, counted.2.1⟩

end Envoix.Transfer
