import Envoix.Transfer.ReceiveRun

/-! # The completions a sender hashes

Whatever a receiver answers, the loop of `send` over the entries feeds its hasher one completion
per entry: the one rebuilt from the resume status, or else the one it has just sent.
-/

namespace Envoix.Transfer

open ByteCodec Fallible Process Process.Method Envoix.Protocol

/-- Any environment of a sender. -/
def senderContract : Contract EngineOp EngineReply EngineWorld :=
  engineContract (fun _ => True) (fun _ => True) fun _ => True

section Entry

variable {State α : Type} {state : State} {world : EngineWorld} {identity : JobGenerationV2}
  {entry : ManifestEntryV2}
  {plan : EntryPlanV2} {encoding : EntryEncodingV2}

/-- A method that sends no completion. -/
def Quiet (method : EngineProgram State α) (state : State) (world : EngineWorld) : Prop :=
  method.Yields senderContract (fun _ _ final =>
    completes final.sent = completes world.sent) state world

theorem quiet_attempt {op : EngineOp} {same : EngineReply op = Except ManifestV2DataError α}
    (silent : op.Silent) :
    Quiet (attempt op same : EngineProgram State α) state world :=
  yields_attempt silent trivial fun _ => rfl

/-- A quiet method in front of another. -/
theorem Quiet.bind {β : Type} {method : EngineProgram State α} {next : α → EngineProgram State β}
    (quiet : Quiet method state world)
    {post : β → State → EngineWorld → Prop}
    (rest : ∀ value state final, completes final.sent = completes world.sent →
      (next value).Yields senderContract post state final) :
    (method >>= next).Yields senderContract post state world := by
  rw [yields_bind]
  exact quiet.mono rest

theorem sendFrame_sent (frame : ManifestV2Frame) :
    (sendFrame frame : EngineProgram State Unit).Yields senderContract
      (fun _ _ final => completes final.sent = completes world.sent ++ completes [frame])
        state world := by
  apply yields_sendFrame
  exact ⟨trivial, completes_append _ _⟩

/-- Only a completion is not quiet. -/
theorem quiet_sendFrame {frame : ManifestV2Frame} (other : completes [frame] = []) :
    Quiet (sendFrame frame : EngineProgram State Unit) state world := by
  refine (sendFrame_sent frame).mono ?_
  intro _ _ final sent
  rw [sent, other, List.append_nil]

theorem quiet_advance {completed bytes total : UInt64} :
    Quiet (advance completed bytes total : EngineProgram State UInt64) state world :=
  yields_advance trivial fun _ => rfl

theorem quiet_awaitHashTask {entryId : UInt32} {pending : Bool} :
    Quiet (awaitHashTask entryId pending : EngineProgram State ContentDigestV2) state world := by
  simp only [Quiet, awaitHashTask, yields_bind, yields_raise]
  intro _ _
  exact quiet_attempt fun _ _ => rfl

theorem quiet_sendLateDigest {entryId : UInt32} {digest : ContentDigestV2} :
    Quiet (sendLateDigestAndReceiveStatus identity entryId digest : EngineProgram State Bool)
      state world := by
  unfold sendLateDigestAndReceiveStatus
  refine (quiet_sendFrame rfl).bind ?_
  intro _ _ sent quiet
  rw [yields_bind]
  refine yields_recvFrame trivial fun frame _ => ⟨trivial, ?_⟩
  cases frame with
  | entryContentDigest response =>
    simp only [yields_bind, yields_raise, yields_pure]
    exact fun _ _ => quiet
  | _ => exact yields_throw.mpr trivial

/-- A call that touches neither a store nor the connection. -/
theorem quiet_perform {op : EngineOp} (silent : op.Silent) :
    Quiet (perform op : EngineProgram State (EngineReply op)) state world := by
  rw [Quiet, yields_perform]
  intro reply _
  show True ∧ completes (world.after op reply).sent = _
  rw [silent world reply]
  exact ⟨trivial, rfl⟩

theorem quiet_transmitBlock [Zstd] {total length : UInt64} {file : SendFileState} {bytes : Bytes} :
    Quiet (transmitBlock identity entry encoding total file length bytes :
      EngineProgram State UInt64) state
      world := by
  unfold Quiet transmitBlock
  rw [yields_bind, yields_raise]
  intro encoded _
  rw [yields_bind, yields_perform]
  intro reply _
  refine ⟨trivial, ?_⟩
  rw [yields_bind, yields_raise]
  intro response answered
  cases response with
  | some frame => exact yields_throw.mpr trivial
  | none =>
    rw [mapErr_eq_ok] at answered
    subst answered
    rw [yields_bind]
    apply yields_onStage trivial
    refine yields_advance trivial fun _ => ?_
    exact (completes_append _ _).trans (List.append_nil _)

theorem quiet_sendBlock [Zstd] {total : UInt64} {file : SendFileState} :
    Quiet (sendBlock identity entry plan encoding total file : EngineProgram State SendFileState)
      state world := by
  unfold sendBlock
  refine (quiet_perform fun _ _ => rfl).bind ?_
  intro reply left read quiet
  rw [yields_bind, yields_raise]
  intro bytes _
  split
  case isTrue _ =>
    refine quiet_transmitBlock.bind ?_
    intro completed left final sent
    simp only [yields_bind, yields_raise, yields_pure]
    exact fun _ _ _ _ => sent.trans quiet
  case isFalse _ =>
    simp only [yields_bind, yields_raise, yields_pure]
    exact fun _ _ _ _ => quiet

theorem quiet_lateDigestReady {file : SendFileState} :
    Quiet (lateDigestReady entry file : EngineProgram State Bool) state world := by
  unfold lateDigestReady
  split
  case isTrue _ => exact quiet_perform fun _ _ => rfl
  case isFalse _ => exact yields_pure.mpr rfl

theorem quiet_proposeLateDigest {file : SendFileState} :
    Quiet (proposeLateDigest identity entry file : EngineProgram State SendFileState)
      state world := by
  unfold proposeLateDigest
  refine quiet_awaitHashTask.bind ?_
  intro digest left awaited quiet
  refine quiet_sendLateDigest.bind ?_
  intro reuseChosen left final sent
  exact yields_pure.mpr (sent.trans quiet)

theorem quiet_sendFileLoop [Zstd] {total : UInt64} (fuel : Nat) {file : SendFileState} :
    Quiet (sendFileLoop identity entry plan encoding total fuel file :
      EngineProgram State SendFileState) state
      world := by
  induction fuel generalizing file state world with
  | zero => exact yields_abort
  | succ fuel ih =>
    -- after a block the loop goes on from a world with the same completions
    have next : ∀ (file : SendFileState) (left : State) (reached : EngineWorld),
        completes reached.sent = completes world.sent →
        (sendBlock identity entry plan encoding total file >>=
          sendFileLoop identity entry plan encoding total fuel).Yields senderContract
          (fun _ _ final => completes final.sent = completes world.sent) left reached := by
      intro file left reached quiet
      refine quiet_sendBlock.bind ?_
      intro file left blocked sent
      exact ih.mono fun _ _ final rest => (rest.trans sent).trans quiet
    rw [sendFileLoop]
    split
    case isTrue _ => exact yields_pure.mpr rfl
    case isFalse _ =>
      refine quiet_lateDigestReady.bind ?_
      intro ready left asked quiet
      cases ready with
      | false => exact next file left asked quiet
      | true =>
        refine quiet_proposeLateDigest.bind ?_
        intro file left proposed sent
        split
        case isTrue _ => exact yields_pure.mpr (sent.trans quiet)
        case isFalse _ => exact next file left proposed (sent.trans quiet)

theorem quiet_finishPayload [Blake3] {file : SendFileState} :
    Quiet (finishPayload identity entry file : EngineProgram State (ContentDigestV2 × Bool))
      state world := by
  unfold finishPayload
  refine (quiet_attempt fun _ _ => rfl).bind ?_
  intro _ left checked quiet
  cases committedDigest entry with
  | some expected =>
    simp only [yields_bind, yields_raise, yields_pure]
    exact fun _ _ => quiet
  | none =>
    -- a digest that was not proposed before is proposed now
    cases late : file.lateDigest with
    | some digest =>
      simp only [yields_bind, yields_raise, yields_pure]
      simp
      exact fun _ _ => quiet
    | none =>
      simp only [if_true]
      refine quiet_awaitHashTask.bind ?_
      intro digest left awaited same
      rw [yields_bind, yields_raise]
      intro _ _
      refine quiet_sendLateDigest.bind ?_
      intro reuseChosen left final sent
      exact yields_pure.mpr ((sent.trans same).trans quiet)

theorem quiet_finishFile [Blake3] {total resumedEntryBytes : UInt64} {file : SendFileState} :
    Quiet (finishFile identity entry plan total resumedEntryBytes file :
      EngineProgram State (ContentDigestV2 × Bool × UInt64)) state world := by
  unfold finishFile
  split
  case isTrue _ =>
    refine (quiet_attempt fun _ _ => rfl).bind ?_
    intro _ left checked quiet
    refine quiet_advance.bind ?_
    intro completed left final sent
    simp only [yields_bind, yields_raise, yields_pure]
    exact fun _ _ => sent.trans quiet
  case isFalse _ =>
    refine quiet_finishPayload.bind ?_
    rintro ⟨digest, reuseChosen⟩ left final quiet
    exact yields_pure.mpr quiet

/-- A method that sends one completion and returns it. -/
def Completes (method : EngineProgram State (EntryCompleteV2 × UInt64)) (state : State)
    (world : EngineWorld) : Prop :=
  method.Yields senderContract
    (fun next _ final => completes final.sent = completes world.sent ++ [next.1]) state world

theorem completes_sendReusedFile {total resumedEntryBytes completed : UInt64} :
    Completes (sendReusedFile identity entry total resumedEntryBytes completed :
      EngineProgram State (EntryCompleteV2 × UInt64)) state world := by
  simp only [Completes, sendReusedFile]
  rw [yields_bind, yields_raise]
  intro digest _
  refine (quiet_attempt fun _ _ => rfl).bind ?_
  intro _ left checked quiet
  rw [yields_bind]
  refine (sendFrame_sent _).mono ?_
  intro _ left last sent
  refine quiet_advance.bind ?_
  intro completed left final same
  rw [yields_pure, same, sent, quiet]
  rfl

theorem completes_sendFile [Blake3] [Zstd] (fuel : Nat)
    {total resumedEntryBytes completed : UInt64} :
    Completes (sendFile fuel identity entry plan encoding total resumedEntryBytes completed :
      EngineProgram State (EntryCompleteV2 × UInt64)) state world := by
  unfold sendFile
  refine (quiet_sendFrame rfl).bind ?_
  intro _ left started quiet
  split
  case isTrue _ =>
    refine completes_sendReusedFile.mono ?_
    intro next _ final sent
    rw [sent, quiet]
  case isFalse _ =>
    refine (quiet_attempt fun _ _ => rfl).bind ?_
    intro _ left opened same
    refine (quiet_sendFileLoop fuel).bind ?_
    intro file left read unchanged
    refine quiet_finishFile.bind ?_
    rintro ⟨digest, reuseChosen, completed⟩ left finished settled
    rw [yields_bind]
    refine (sendFrame_sent _).mono ?_
    intro _ _ final sent
    rw [yields_pure, sent, settled, unchanged, same, quiet]
    rfl

theorem sendDirectory_sent [Blake3] :
    (sendDirectory identity entry : EngineProgram State EntryCompleteV2).Yields senderContract
      (fun completion _ final => completes final.sent = completes world.sent ++ [completion])
        state world := by
  unfold sendDirectory
  refine (quiet_sendFrame rfl).bind ?_
  intro _ left started quiet
  rw [yields_bind]
  refine (sendFrame_sent _).mono ?_
  intro _ _ final sent
  rw [yields_pure, sent, quiet]
  rfl

end Entry

section Run

variable [Blake3] [UnicodeNormalization] [Zstd] {accept : ManifestAcceptV2}
  {record : SenderDeliveryRecordV2}
  {world : EngineWorld}

/-- What a resume status has decided for an entry. -/
def resumedIn (identity : JobGenerationV2) (resume : Option ResumeStatusV2)
    (entry : ManifestEntryV2) :
    Option EntryCompleteV2 :=
  (resume.bind (·.entries[entry.entryId.toNat]?)).bind fun checkpoint =>
    (resumedCompletion identity entry checkpoint).bind (·.toOption)

omit [UnicodeNormalization] in
theorem transmitEntry_yields (fuel : Nat) (checkpoint : Option ResumeEntryV2)
    (total completed : UInt64) (entry : ManifestEntryV2) :
    Completes (transmitEntry fuel accept checkpoint total entry completed) record world := by
  unfold Completes transmitEntry
  rw [yields_bind]
  apply yields_element
  intro plan _
  split
  case isTrue _ =>
    rw [yields_bind]
    exact sendDirectory_sent.mono fun _ _ final sent => yields_pure.mpr sent
  case isFalse _ =>
    rw [yields_bind, yields_get, yields_bind, yields_raise]
    intro encoding _
    refine (quiet_attempt fun _ _ => rfl).bind ?_
    intro _ left opened quiet
    rw [yields_bind, yields_raise]
    intro resumedEntryBytes _
    refine (completes_sendFile fuel).mono ?_
    intro next _ final sent
    rw [sent, quiet]

omit [Blake3] [UnicodeNormalization] [Zstd] in
theorem resumeCheckpoint_yields (resume : Option ResumeStatusV2) (entry : ManifestEntryV2) :
    (resumeCheckpoint resume entry).Yields senderContract
      (fun checkpoint left final => left = record ∧ final = world ∧
        checkpoint = resume.bind (·.entries[entry.entryId.toNat]?)) record world := by
  cases resume with
  | none => exact yields_pure.mpr ⟨rfl, rfl, rfl⟩
  | some status =>
    rw [resumeCheckpoint, yields_bind]
    apply yields_element
    intro checkpoint found
    exact yields_pure.mpr ⟨rfl, rfl, found.symm⟩

omit [UnicodeNormalization] in
/-- The entry's completion: rebuilt without a frame, or sent. -/
theorem sendEntry_yields (fuel : Nat) (resume : Option ResumeStatusV2) (total completed : UInt64)
    (entry : ManifestEntryV2) :
    (sendEntry fuel accept resume total entry completed).Yields senderContract
      (fun next _ final =>
        resumedIn accept.identity resume entry = some next.1 ∧
          completes final.sent = completes world.sent ∨
          resumedIn accept.identity resume entry = none ∧
            completes final.sent = completes world.sent ++ [next.1]) record world := by
  rw [sendEntry, yields_bind]
  refine (resumeCheckpoint_yields resume entry).mono ?_
  intro checkpoint _ _ ⟨sameRecord, sameWorld, found⟩
  subst sameRecord sameWorld
  have known : resumedIn accept.identity resume entry =
      (checkpoint.bind (resumedCompletion accept.identity entry)).bind (·.toOption) := by
    rw [resumedIn, ← found, Option.bind_assoc]
  cases rebuilt : checkpoint.bind (resumedCompletion accept.identity entry) with
  | some result =>
    rw [rebuilt] at known
    simp only [yields_bind, yields_raise, yields_pure]
    intro completion ok
    rw [ok] at known
    exact .inl ⟨known, trivial⟩
  | none =>
    rw [rebuilt] at known
    refine (transmitEntry_yields fuel checkpoint total completed entry).mono ?_
    intro next _ final sent
    exact .inr ⟨known, sent⟩

theorem sendEntries_yields (fuel : Nat) (resume : Option ResumeStatusV2) (total : UInt64)
    (entries : List ManifestEntryV2) (hasher : Bytes) (completed : UInt64) :
    (sendEntries fuel accept resume total entries hasher completed).Yields senderContract
      (fun next _ final => ∃ transferred, next.2.foldlM updateCompletionSet hasher = .ok next.1 ∧
        completes final.sent = completes world.sent ++ transferred ∧
        Merged (resumedIn accept.identity resume) entries transferred next.2) record world := by
  induction entries generalizing hasher completed record world with
  | nil => exact yields_pure.mpr ⟨[], rfl, (List.append_nil _).symm, .nil⟩
  | cons entry entries ih =>
    rw [sendEntries, yields_bind]
    refine (sendEntry_yields fuel resume total completed entry).mono ?_
    intro (completion, completed) left sentEntry origin
    rw [yields_bind, yields_raise]
    intro fed update
    rw [yields_bind]
    refine (ih fed completed).mono ?_
    intro (last, completions) _ final ⟨transferred, folded, sent, merged⟩
    rw [yields_pure]
    have folded : (completion :: completions).foldlM updateCompletionSet hasher = .ok last := by
      rw [List.foldlM_cons, update]
      exact folded
    obtain ⟨known, quiet⟩ | ⟨unknown, one⟩ := origin
    · exact ⟨transferred, folded, by rw [sent, quiet], .known known merged⟩
    · refine ⟨completion :: transferred, folded, ?_, .transferred unknown merged⟩
      rw [sent, one, List.append_assoc]
      rfl

end Run

end Envoix.Transfer
