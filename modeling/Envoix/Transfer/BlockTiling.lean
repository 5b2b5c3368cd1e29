import Envoix.Transfer.ResumeAgreement

/-! # Accepted blocks tile the file

One file entry over all of its attempts: the blocks that the sink holds, and the checkpoint in the
store.  Whatever frames arrive, whichever calls fail and wherever an attempt is cut, the blocks
stand one after the other from offset 0, the checkpoint says how many bytes its blocks have, and a
payload is closed only when they are all there.  The block size is that of the start that the
checkpoint remembers, and no attempt with another start gets past it. -/

namespace Envoix.Transfer

open ByteCodec Fallible Process Process.Method Envoix.Protocol

/-! ## Tiles -/

def writtenBytes (blocks : List EntryBlockV2) : Nat :=
  (blocks.map fun block => block.encodedBytes.length).sum

/-- The block with this index of a file cut into blocks of one size, the last one shorter. -/
structure Tile (width size index : Nat) (block : EntryBlockV2) : Prop where
  position : block.blockIndex.toNat = index
  offset : block.plaintextOffset.toNat = index * width
  nonempty : 0 < block.encodedBytes.length
  ending : block.plaintextOffset.toNat + block.encodedBytes.length = min ((index + 1) * width) size

def Tiling (width size : Nat) (blocks : List EntryBlockV2) : Prop :=
  ∀ index block, blocks[index]? = some block → Tile width size index block

namespace Tiling

variable {width size : Nat} {blocks : List EntryBlockV2}

theorem nil : Tiling width size [] := by
  intro index block found
  simp at found

theorem take (tiling : Tiling width size blocks) (count : Nat) :
    Tiling width size (blocks.take count) := by
  intro index block found
  rw [List.getElem?_take] at found
  split at found
  · exact tiling index block found
  · cases found

theorem append {block : EntryBlockV2} (tiling : Tiling width size blocks)
    (tile : Tile width size blocks.length block) :
    Tiling width size (blocks ++ [block]) := by
  intro index found there
  by_cases before : index < blocks.length
  · rw [List.getElem?_append_left before] at there
    exact tiling index found there
  · rw [List.getElem?_append_right (by omega)] at there
    -- only the last position is left
    have last : index - blocks.length = 0 := by
      by_contra other
      rw [List.getElem?_eq_none (by simp; omega)] at there
      cases there
    rw [last] at there
    cases there
    have here : index = blocks.length := by omega
    exact here ▸ tile

theorem written (tiling : Tiling width size blocks) :
    writtenBytes blocks = min (blocks.length * width) size := by
  induction blocks using List.reverseRecOn with
  | nil => simp [writtenBytes]
  | append_singleton before block ih =>
    have tile := tiling before.length block (by simp)
    have shorter : Tiling width size before := by
      have taken := tiling.take before.length
      rwa [List.take_left] at taken
    have ending := tile.ending
    have nonempty := tile.nonempty
    rw [tile.offset] at ending
    have sum : writtenBytes (before ++ [block]) =
        writtenBytes before + block.encodedBytes.length := by
      simp [writtenBytes]
    rw [sum, ih shorter, List.length_append, List.length_singleton, ← ending]
    omega

/-- Every block starts where those before it end. -/
theorem consecutive (tiling : Tiling width size blocks) {before after : List EntryBlockV2}
    {block : EntryBlockV2} (split : blocks = before ++ block :: after) :
    block.blockIndex.toNat = before.length ∧ block.plaintextOffset.toNat = writtenBytes before := by
  subst split
  have tile := tiling before.length block (by simp)
  have shorter : Tiling width size before := by
    have taken := tiling.take before.length
    rwa [List.take_left] at taken
  have ending := tile.ending
  have nonempty := tile.nonempty
  rw [tile.offset] at ending
  refine ⟨tile.position, ?_⟩
  rw [tile.offset, shorter.written]
  omega

end Tiling

/-! ## One block -/

theorem decodeBlock_ok [Zstd] {encoding : EntryEncodingV2} {block decoded : EntryBlockV2}
    (decodes : decodeBlock encoding block = .ok decoded) :
    ∃ plaintext, plaintext.length = block.plaintextLength.toNat ∧
      decoded = { block with encodedBytes := plaintext } := by
  cases encoding with
  | identity =>
    simp only [decodeBlock, pure_eq, ok_bind, bind_eq_ok, exists_unit, reject_eq_ok, not_not,
      Except.ok.injEq] at decodes
    exact ⟨_, decodes.1, decodes.2.symm⟩
  | zstd =>
    simp only [decodeBlock, pure_eq, bind_eq_ok, exists_unit, reject_eq_ok, not_not,
      Except.ok.injEq] at decodes
    obtain ⟨plaintext, -, length, same⟩ := decodes
    exact ⟨plaintext, length, same.symm⟩

theorem validateBlock_tile [Zstd] {entry : ManifestEntryV2} {checkpoint : ReceiverEntryCheckpointV2}
    {start : EntryStartV2} {block decoded : EntryBlockV2} (started : checkpoint.start = some start)
    (valid : validateBlock entry checkpoint block = .ok ())
    (decodes : decodeBlock start.encoding block = .ok decoded) :
    Tile start.plaintextBlockBytes.toNat entry.plaintextSize.toNat
      checkpoint.nextPlaintextBlock.toNat decoded ∧
      decoded.plaintextOffset = block.plaintextOffset ∧
      decoded.encodedBytes.length = block.plaintextLength.toNat := by
  simp only [validateBlock, started, bind_eq_ok, okOr_eq_ok, Option.some.injEq, reject_eq_ok,
    checkedMul64_eq_some, checkedAdd64_eq_some, not_or, not_not, not_and] at valid
  obtain ⟨found, same, offset, ⟨-, product⟩, ending, ⟨-, sum⟩, -, -, boundary, placed, within,
    nonempty, narrow, -, -, -, full⟩ := valid
  subst same
  obtain ⟨plaintext, length, rfl⟩ := decodeBlock_ok decodes
  have wide : block.plaintextLength.toUInt64.toNat = block.plaintextLength.toNat :=
    UInt32.toNat_toUInt64 _
  have width : start.plaintextBlockBytes.toUInt64.toNat = start.plaintextBlockBytes.toNat :=
    UInt32.toNat_toUInt64 _
  have positive : 0 < block.plaintextLength.toNat :=
    Nat.pos_of_ne_zero fun zero => nonempty (UInt32.toNat_inj.mp zero)
  have within := UInt64.le_iff_toNat_le.mp (UInt64.not_lt.mp within)
  have narrow := UInt32.le_iff_toNat_le.mp (UInt32.not_lt.mp narrow)
  have full : ending.toNat < entry.plaintextSize.toNat →
      block.plaintextLength.toNat = start.plaintextBlockBytes.toNat := by
    intro before
    exact congrArg UInt32.toNat (full (UInt64.lt_iff_toNat_lt.mpr before))
  rw [wide, placed, product, boundary, width] at sum
  have offsetIs : block.plaintextOffset.toNat =
      checkpoint.nextPlaintextBlock.toNat * start.plaintextBlockBytes.toNat := by
    rw [placed, product, boundary, width]
  refine ⟨⟨by rw [boundary], offsetIs, by rw [length]; exact positive, ?_⟩, rfl, length⟩
  -- a short block is the last one
  rw [offsetIs, length, Nat.add_mul, Nat.one_mul]
  by_cases before : ending.toNat < entry.plaintextSize.toNat
  · have whole := full before
    omega
  · omega

/-! ## The sink and the store -/

/-- The blocks that the sink holds for the entry, and the ledger in the store. -/
structure StagingWorld where
  staged : List EntryBlockV2
  ledger : Option ReceiverDataPlaneLedgerV2

/-- A block may be there although its write failed.  The incomplete object is cut to the blocks of
the checkpoint when it is opened again, and goes away when it is retired or another object is
reused. -/
def StagingWorld.after (world : StagingWorld) : (op : EngineOp) → EngineReply op → StagingWorld
  | .saveLedger ledger, reply =>
    if reply.durable then { world with ledger := some ledger } else world
  | .beginEntry _ _ next, .ok () => { world with staged := world.staged.take next.toNat }
  | .writeBlock _ block, _ => { world with staged := world.staged ++ [block] }
  | .tryChooseReuse _ _, .ok true => { world with staged := [] }
  | .retirePayload _, .ok () => { world with staged := [] }
  | _, _ => world

/-- An object opens only at a boundary that it has reached. -/
def StagingWorld.mayReply (world : StagingWorld) : (op : EngineOp) → EngineReply op → Prop
  | .beginEntry _ _ next, .ok () => next.toNat ≤ world.staged.length
  | _, _ => True

/-- What the checkpoint of a file says about the blocks in the sink. -/
structure Tiled (entry : ManifestEntryV2) (staged : List EntryBlockV2)
    (checkpoint : ReceiverEntryCheckpointV2) : Prop where
  fresh : checkpoint.start = none → staged = [] ∧ checkpoint.nextPlaintextBlock = 0 ∧
    checkpoint.plaintextBytes = 0
  tiling : ∀ start, checkpoint.start = some start →
    Tiling start.plaintextBlockBytes.toNat entry.plaintextSize.toNat staged
  bytes : ∀ start, checkpoint.start = some start → checkpoint.plaintextBytes.toNat =
    min (checkpoint.nextPlaintextBlock.toNat * start.plaintextBlockBytes.toNat)
      entry.plaintextSize.toNat
  complete : checkpoint.arbiter = .payloadCompleteChosen →
    writtenBytes staged = entry.plaintextSize.toNat

/-- Any connection, store and sink; the checkpoint in the store is about the blocks in the sink. -/
def stagingContract (entry : ManifestEntryV2) (index : Nat) :
    Contract EngineOp EngineReply StagingWorld where
  may := StagingWorld.mayReply
  after := StagingWorld.after
  keeps world := ∀ ledger checkpoint, world.ledger = some ledger →
    ledger.entries[index]? = some checkpoint → Tiled entry world.staged checkpoint

section Tiled

variable {entry : ManifestEntryV2} {staged : List EntryBlockV2}
  {checkpoint other : ReceiverEntryCheckpointV2}

/-- The other fields of a checkpoint do not matter. -/
theorem Tiled.congr (tiled : Tiled entry staged checkpoint) (start : other.start = checkpoint.start)
    (next : other.nextPlaintextBlock = checkpoint.nextPlaintextBlock)
    (bytes : other.plaintextBytes = checkpoint.plaintextBytes)
    (arbiter : other.arbiter = .payloadCompleteChosen →
      checkpoint.arbiter = .payloadCompleteChosen) :
    Tiled entry staged other where
  fresh none := by
    rw [next, bytes]
    exact tiled.fresh (start ▸ none)
  tiling found same := tiled.tiling found (start ▸ same)
  bytes found same := by
    rw [next, bytes]
    exact tiled.bytes found (start ▸ same)
  complete chosen := tiled.complete (arbiter chosen)

/-- Blocks that leave the sink. -/
theorem Tiled.take (tiled : Tiled entry staged checkpoint)
    (opened : checkpoint.arbiter ≠ .payloadCompleteChosen) (count : Nat) :
    Tiled entry (staged.take count) checkpoint where
  fresh none := by
    obtain ⟨empty, rest⟩ := tiled.fresh none
    exact ⟨by rw [empty, List.take_nil], rest⟩
  tiling start same := (tiled.tiling start same).take count
  bytes := tiled.bytes
  complete chosen := absurd chosen opened

theorem Tiled.clear (tiled : Tiled entry staged checkpoint)
    (opened : checkpoint.arbiter ≠ .payloadCompleteChosen) :
    Tiled entry [] checkpoint :=
  tiled.take opened 0

theorem Tiled.push {start : EntryStartV2} {block : EntryBlockV2}
    (tiled : Tiled entry staged checkpoint) (opened : checkpoint.arbiter ≠ .payloadCompleteChosen)
    (started : checkpoint.start = some start)
    (tile : Tile start.plaintextBlockBytes.toNat entry.plaintextSize.toNat staged.length block) :
    Tiled entry (staged ++ [block]) checkpoint where
  fresh none := by
    rw [started] at none
    cases none
  tiling found same := by
    rw [started] at same
    cases same
    exact (tiled.tiling start started).append tile
  bytes := tiled.bytes
  complete chosen := absurd chosen opened

/-- A payload that starts over. -/
theorem Tiled.zero (tiled : Tiled entry staged checkpoint) (start : other.start = checkpoint.start)
    (next : other.nextPlaintextBlock = 0) (bytes : other.plaintextBytes = 0)
    (arbiter : other.arbiter ≠ .payloadCompleteChosen) : Tiled entry staged other where
  fresh none := ⟨(tiled.fresh (start ▸ none)).1, next, bytes⟩
  tiling found same := tiled.tiling found (start ▸ same)
  bytes _ _ := by simp [next, bytes]
  complete chosen := absurd chosen arbiter

/-- The checkpoint counts the bytes of its blocks. -/
theorem Tiled.written (tiled : Tiled entry staged checkpoint)
    (level : staged.length = checkpoint.nextPlaintextBlock.toNat) :
    writtenBytes staged = checkpoint.plaintextBytes.toNat := by
  cases started : checkpoint.start with
  | none =>
    obtain ⟨empty, -, bytes⟩ := tiled.fresh started
    rw [empty, bytes]
    rfl
  | some start => rw [(tiled.tiling start started).written, tiled.bytes start started, level]

end Tiled

/-! ## Rules -/

section Rules

variable {entry : ManifestEntryV2} {index : Nat} {base : ReceiverDataPlaneLedgerV2}
  {checkpoint : ReceiverEntryCheckpointV2} {world : StagingWorld} {α : Type}
  {post : α → ReceiverDataPlaneLedgerV2 → StagingWorld → Prop}
    {done : Unit → ReceiverDataPlaneLedgerV2 → StagingWorld → Prop}
  {ledger : ReceiverDataPlaneLedgerV2}

namespace Staging

theorem abort :
    (Transfer.abort : ReceiveProgram α).Yields (stagingContract entry index) post ledger world := by
  rw [Transfer.abort, yields_bind, yields_perform]
  exact fun reply => (by cases reply)

/-- A call that touches neither the sink nor the store. -/
theorem quiet {op : EngineOp}
    {post : EngineReply op → ReceiverDataPlaneLedgerV2 → StagingWorld → Prop}
    (silent : ∀ reply, world.after op reply = world)
      (kept : (stagingContract entry index).keeps world)
        (holds : ∀ reply, post reply ledger world) :
    (perform op : ReceiveProgram (EngineReply op)).Yields (stagingContract entry index)
      post ledger world := by
  rw [yields_perform]
  intro reply _
  show (stagingContract entry index).keeps (world.after op reply) ∧
    post reply ledger (world.after op reply)
  rw [silent reply]
  exact ⟨kept, holds reply⟩

theorem recvFrame {post : ManifestV2Frame → ReceiverDataPlaneLedgerV2 → StagingWorld → Prop}
    (kept : (stagingContract entry index).keeps world) (holds : ∀ frame, post frame ledger world) :
    (Transfer.recvFrame : ReceiveProgram ManifestV2Frame).Yields (stagingContract entry index)
      post ledger world := by
  rw [Transfer.recvFrame, yields_bind]
  apply quiet (fun _ => rfl) kept
  intro reply
  rw [yields_raise]
  exact fun frame _ => holds frame

theorem sendFrame {frame : ManifestV2Frame} (kept : (stagingContract entry index).keeps world)
    (holds : done () ledger world) :
    (Transfer.sendFrame frame : ReceiveProgram Unit).Yields (stagingContract entry index)
      done ledger world := by
  rw [Transfer.sendFrame, yields_bind]
  apply quiet (fun _ => rfl) kept
  intro reply
  rw [yields_raise]
  exact fun _ _ => holds

/-- A call of the sink: `next` is the world after it, whatever it replies. -/
theorem attempt {op : EngineOp} {same : EngineReply op = Except ManifestV2DataError α}
    (holds : ∀ reply, world.mayReply op reply →
      (stagingContract entry index).keeps (world.after op reply) ∧
      ∀ value, cast same reply = .ok value → post value ledger (world.after op reply)) :
    (Transfer.attempt op same : ReceiveProgram α).Yields (stagingContract entry index)
      post ledger world := by
  rw [Transfer.attempt, yields_bind, yields_perform]
  intro reply allowed
  obtain ⟨kept, after⟩ := holds reply allowed
  exact ⟨kept, yields_raise.mpr after⟩

theorem advance {completed bytes total : UInt64}
    {post : UInt64 → ReceiverDataPlaneLedgerV2 → StagingWorld → Prop}
    (kept : (stagingContract entry index).keeps world)
    (holds : ∀ completed, post completed ledger world) :
    (Transfer.advance completed bytes total : ReceiveProgram UInt64).Yields
      (stagingContract entry index) post ledger
      world := by
  rw [Transfer.advance, yields_bind, yields_raise]
  intro completed _
  rw [yields_bind]
  apply quiet (fun _ => rfl) kept
  exact fun _ => yields_pure.mpr (holds completed)

theorem checkpointAt (bound : index < base.entries.length)
    {post : ReceiverEntryCheckpointV2 → ReceiverDataPlaneLedgerV2 → StagingWorld → Prop}
    (holds : post checkpoint (base.put index checkpoint) world) :
    (Transfer.checkpointAt index).Yields (stagingContract entry index) post
      (base.put index checkpoint) world := by
  rw [Transfer.checkpointAt, yields_bind, yields_get, element,
    ReceiverDataPlaneLedgerV2.entries_put_self bound]
  exact yields_pure.mpr holds

theorem update {change : ReceiverEntryCheckpointV2 → ReceiverEntryCheckpointV2}
    (holds : done () (base.put index (change checkpoint)) world) :
    (updateCheckpoint index change).Yields (stagingContract entry index) done
      (base.put index checkpoint) world := by
  rw [updateCheckpoint, yields_modify, ReceiverDataPlaneLedgerV2.put_update]
  exact holds

theorem kept_of_durable (bound : index < base.entries.length)
    (durable : world.ledger = some (base.put index checkpoint))
    (tiled : Tiled entry world.staged checkpoint) : (stagingContract entry index).keeps world := by
  intro ledger found same there
  rw [durable] at same
  cases same
  rw [ReceiverDataPlaneLedgerV2.entries_put_self bound] at there
  exact Option.some.inj there ▸ tiled

theorem save (bound : index < base.entries.length)
    (kept : (stagingContract entry index).keeps world) (tiled : Tiled entry world.staged checkpoint)
    (holds : done () (base.put index checkpoint)
      { world with ledger := some (base.put index checkpoint) }) :
    saveLedger.Yields (stagingContract entry index) done (base.put index checkpoint) world := by
  have saved :
    (stagingContract entry index).keeps { world with ledger := some (base.put index checkpoint) } :=
    kept_of_durable bound rfl tiled
  rw [saveLedger, yields_bind, yields_get, yields_bind, yields_perform]
  intro reply _
  cases reply with
  | written => exact ⟨saved, fun _ _ => holds⟩
  | failed replaced message =>
    refine ⟨?_, fun _ failed => (by cases failed)⟩
    cases replaced with
    | true => exact saved
    | false => exact kept

end Staging

end Rules

/-! ## One attempt -/

section Attempt

variable {entry : ManifestEntryV2} {index : Nat} {base : ReceiverDataPlaneLedgerV2}
  {checkpoint : ReceiverEntryCheckpointV2} {world : StagingWorld}
    {done : Unit → ReceiverDataPlaneLedgerV2 → StagingWorld → Prop}

/-- Between two frames: the ledger in memory is the one in the store, and while the payload is open
the sink holds just the blocks of the checkpoint. -/
structure AtBoundary (entry : ManifestEntryV2) (index : Nat)
    (base ledger : ReceiverDataPlaneLedgerV2) (world : StagingWorld)
    (checkpoint : ReceiverEntryCheckpointV2) : Prop where
  here : ledger = base.put index checkpoint
  durable : world.ledger = some (base.put index checkpoint)
  tiled : Tiled entry world.staged checkpoint
  level : checkpoint.arbiter = .payloadOpen →
    world.staged.length = checkpoint.nextPlaintextBlock.toNat
  undecided : checkpoint.arbiter ≠ .payloadCompleteChosen

theorem retireMismatch_tiles (bound : index < base.entries.length)
    (kept : (stagingContract entry index).keeps world) (tiled : Tiled entry world.staged checkpoint)
    (holds : ∀ ledger world, done () ledger world) :
    (retireMismatch entry index).Yields (stagingContract entry index) done
      (base.put index checkpoint) world := by
  have retired : Tiled entry world.staged (checkpoint.retired entry) :=
    tiled.zero rfl rfl rfl (by simp [ReceiverEntryCheckpointV2.retired])
  rw [retireMismatch, yields_bind]
  apply Staging.update
  rw [yields_bind]
  apply Staging.save bound kept retired
  apply Staging.attempt
  intro reply _
  refine ⟨?_, fun _ _ => holds _ _⟩
  cases reply with
  | error error => exact Staging.kept_of_durable bound rfl retired
  | ok value =>
    exact Staging.kept_of_durable bound rfl
      (retired.clear (by simp [ReceiverEntryCheckpointV2.retired]))

theorem closePayload_tiles (bound : index < base.entries.length) (finalDigest : ContentDigestV2)
    (kept : (stagingContract entry index).keeps world) (tiled : Tiled entry world.staged checkpoint)
    (level : checkpoint.arbiter = .payloadOpen →
      world.staged.length = checkpoint.nextPlaintextBlock.toNat) :
    (closePayload entry index finalDigest checkpoint).Yields (stagingContract entry index)
      (fun _ ledger final => ∃ closed, ledger = base.put index closed ∧
        (stagingContract entry index).keeps final ∧ Tiled entry final.staged closed)
          (base.put index checkpoint) world := by
  rw [closePayload]
  by_cases refused : checkpoint.arbiter ≠ .payloadOpen ∨
    checkpoint.plaintextBytes ≠ entry.plaintextSize
  · rw [if_pos refused, yields_bind]
    apply retireMismatch_tiles bound kept tiled
    intro ledger final
    simp only [yields_bind, yields_throw]
  · rw [if_neg refused]
    simp only [not_or, not_not] at refused
    obtain ⟨opened, full⟩ := refused
    simp only [yields_bind]
    apply Staging.quiet (fun _ => rfl) kept
    intro reply
    cases reply with
    | error error =>
      simp only [yields_bind]
      apply retireMismatch_tiles bound kept tiled
      intro ledger final
      simp only [yields_throw]
    | ok value =>
      -- all the bytes of the file are in the sink
      have complete : writtenBytes world.staged = entry.plaintextSize.toNat := by
        rw [tiled.written (level opened), full]
      have closed :
        Tiled entry world.staged { checkpoint with arbiter := .payloadCompleteChosen } :=
        { fresh := tiled.fresh, tiling := tiled.tiling, bytes := tiled.bytes,
          complete := fun _ => complete }
      simp only [yields_bind]
      apply Staging.update
      apply Staging.save bound kept closed
      exact ⟨_, rfl, Staging.kept_of_durable bound rfl closed, closed⟩

theorem receiveFileCompletion_tiles (bound : index < base.entries.length)
    (finalDigest : ContentDigestV2) (kept : (stagingContract entry index).keeps world)
    (tiled : Tiled entry world.staged checkpoint)
    (level : checkpoint.arbiter = .payloadOpen →
      world.staged.length = checkpoint.nextPlaintextBlock.toNat) :
    (receiveFileCompletion entry index finalDigest).Yields (stagingContract entry index)
    (fun _ _ _ => True)
      (base.put index checkpoint) world := by
  have finish (closed : ReceiverEntryCheckpointV2) (final : StagingWorld)
    (completion : EntryCompleteV2)
      (kept : (stagingContract entry index).keeps final) (tiled : Tiled entry final.staged closed) :
      (updateCheckpoint index ({ · with completion := some completion })).Yields
        (stagingContract entry index)
        (fun _ ledger final => saveLedger.Yields (stagingContract entry index)
          (fun _ _ _ => True) ledger final)
        (base.put index closed) final := by
    apply Staging.update
    refine Staging.save bound kept ?_ trivial
    exact tiled.congr rfl rfl rfl id
  rw [receiveFileCompletion, yields_bind]
  apply Staging.checkpointAt bound
  rw [yields_bind, yields_raise]
  intro completion _
  cases completion.completionChoice with
  | reuseChosen =>
    simp only [yields_bind, yields_raise]
    intro _ _
    exact finish checkpoint world completion kept tiled
  | payloadComplete =>
    simp only [yields_bind]
    refine (closePayload_tiles bound finalDigest kept tiled level).mono ?_
    intro _ ledger final ⟨closed, same, kept, tiled⟩
    subst same
    exact finish closed final completion kept tiled

theorem setOrEqualDigest_ok {digest : ContentDigestV2} {digested : ReceiverEntryCheckpointV2}
    (set : setOrEqualDigest checkpoint digest = .ok digested) :
    digested = checkpoint ∨ digested = { checkpoint with contentDigest := some digest } := by
  unfold setOrEqualDigest at set
  split at set
  · split at set
    · cases set
    · exact .inl (Except.ok.inj set).symm
  · exact .inr (Except.ok.inj set).symm

theorem AtBoundary.kept {ledger : ReceiverDataPlaneLedgerV2} (bound : index < base.entries.length)
    (boundary : AtBoundary entry index base ledger world checkpoint) :
    (stagingContract entry index).keeps world :=
  Staging.kept_of_durable bound boundary.durable boundary.tiled

/-- The next boundary. -/
def StillTiled (entry : ManifestEntryV2) (index : Nat) (base ledger : ReceiverDataPlaneLedgerV2)
    (world : StagingWorld) :
    Prop :=
  ∃ checkpoint, AtBoundary entry index base ledger world checkpoint

section Frames

variable (bound : index < base.entries.length)
  (boundary : AtBoundary entry index base (base.put index checkpoint) world checkpoint)

include bound boundary

/-- The digest is remembered in memory only when the sink is asked; the store is behind. -/
theorem chooseReuse_tiles (total completed : UInt64) (digest : ContentDigestV2)
    {digested : ReceiverEntryCheckpointV2} (start : digested.start = checkpoint.start)
    (next : digested.nextPlaintextBlock = checkpoint.nextPlaintextBlock)
    (bytes : digested.plaintextBytes = checkpoint.plaintextBytes)
    (arbiter : digested.arbiter = checkpoint.arbiter) :
    (chooseReuse entry index total completed digest).Yields (stagingContract entry index)
      (fun _ ledger final => ∃ chosen, ledger = base.put index chosen ∧
        (stagingContract entry index).keeps final ∧ Tiled entry final.staged chosen ∧
        chosen.arbiter ≠ .payloadCompleteChosen ∧
        (chosen.arbiter = .payloadOpen → final.staged.length = chosen.nextPlaintextBlock.toNat))
      (base.put index digested) world := by
  have kept := boundary.kept bound
  have tiled : Tiled entry world.staged digested :=
    boundary.tiled.congr start next bytes (arbiter ▸ id)
  have unchanged : ∃ chosen, base.put index digested = base.put index chosen ∧
      (stagingContract entry index).keeps world ∧ Tiled entry world.staged chosen ∧
      chosen.arbiter ≠ .payloadCompleteChosen ∧
      (chosen.arbiter = .payloadOpen → world.staged.length = chosen.nextPlaintextBlock.toNat) := by
    refine ⟨digested, rfl, kept, tiled, ?_, ?_⟩
    · rw [arbiter]
      exact boundary.undecided
    · rw [arbiter, next]
      exact boundary.level
  rw [chooseReuse, yields_bind]
  apply Staging.checkpointAt bound
  by_cases closed : digested.arbiter ≠ .payloadOpen
  · rw [if_pos closed, yields_pure]
    exact unchanged
  · rw [if_neg closed]
    simp only [yields_bind]
    apply Staging.attempt
    intro reply _
    cases reply with
    | error error => exact ⟨kept, fun _ failed => absurd failed (by simp)⟩
    | ok found =>
      cases found with
      | false =>
        refine ⟨kept, ?_⟩
        intro value same
        cases same
        rw [if_pos (by decide), yields_pure]
        exact unchanged
      | true =>
        -- the incomplete object is gone, while the store still has the old checkpoint
        have cleared : Tiled entry [] checkpoint := boundary.tiled.clear boundary.undecided
        have keptAfter : (stagingContract entry index).keeps { world with staged := [] } :=
          Staging.kept_of_durable bound boundary.durable cleared
        refine ⟨keptAfter, ?_⟩
        intro value same
        cases same
        rw [if_neg (by decide), yields_bind]
        apply Staging.update
        apply Staging.advance keptAfter
        intro completed
        exact ⟨_, rfl, keptAfter, cleared.zero start rfl rfl (by simp), (by simp), (by simp)⟩

theorem receiveContentDigest_tiles (total completed : UInt64) (frame : EntryContentDigestFrameV2) :
    (receiveContentDigest entry index total completed frame).Yields (stagingContract entry index)
      (fun _ => StillTiled entry index base) (base.put index checkpoint) world := by
  have kept := boundary.kept bound
  rw [receiveContentDigest, yields_bind, yields_get]
  simp only [yields_bind, yields_raise]
  intro _ _ _ _
  apply Staging.checkpointAt bound
  cases set : setOrEqualDigest checkpoint frame.digest with
  | error error =>
    simp only [yields_bind]
    apply retireMismatch_tiles bound kept boundary.tiled
    intro ledger final
    simp only [yields_throw]
  | ok digested =>
    have same : digested.start = checkpoint.start ∧
        digested.nextPlaintextBlock = checkpoint.nextPlaintextBlock ∧
        digested.plaintextBytes = checkpoint.plaintextBytes ∧
        digested.arbiter = checkpoint.arbiter := by
      cases setOrEqualDigest_ok set with
      | inl same => simp [same]
      | inr same => simp [same]
    obtain ⟨start, next, bytes, arbiter⟩ := same
    simp only [yields_bind]
    apply Staging.update
    refine (chooseReuse_tiles bound boundary total completed frame.digest start next bytes
      arbiter).mono ?_
    rintro _ ledger final ⟨chosen, same, kept, tiled, undecided, level⟩
    subst same
    apply Staging.save bound kept tiled
    have here :
      AtBoundary entry index base (base.put index chosen) ⟨final.staged,
        some (base.put index chosen)⟩ chosen :=
      { here := rfl, durable := rfl, tiled, level, undecided }
    apply Staging.checkpointAt bound
    apply Staging.sendFrame (here.kept bound)
    exact yields_pure.mpr ⟨chosen, here⟩

theorem receiveBlock_tiles [Zstd] (total completed : UInt64) (block : EntryBlockV2) :
    (receiveBlock entry index total completed block).Yields (stagingContract entry index)
      (fun _ => StillTiled entry index base) (base.put index checkpoint) world := by
  rw [receiveBlock, yields_bind]
  apply Staging.checkpointAt bound
  simp only [yields_bind, yields_raise, reject_eq_ok, okOr_eq_ok, not_not]
  intro _ valid _ opened start started decoded decodes
  obtain ⟨tile, offset, length⟩ := validateBlock_tile started valid decodes
  have level := boundary.level opened
  have pushed : Tiled entry (world.staged ++ [decoded]) checkpoint :=
    boundary.tiled.push boundary.undecided started (level.symm ▸ tile)
  have keptAfter :
    (stagingContract entry index).keeps { world with staged := world.staged ++ [decoded] } :=
    Staging.kept_of_durable bound boundary.durable pushed
  apply Staging.attempt
  intro reply _
  refine ⟨keptAfter, ?_⟩
  intro _ _ next advanced
  apply Staging.update
  intro bytes added
  apply Staging.update
  obtain ⟨-, nextIs⟩ := checkedAdd64_eq_some.mp advanced
  obtain ⟨-, bytesAre⟩ := checkedAdd64_eq_some.mp added
  have nextIs : next.toNat = checkpoint.nextPlaintextBlock.toNat + 1 := nextIs
  have moved : Tiled entry (world.staged ++ [decoded])
      { checkpoint with nextPlaintextBlock := next, plaintextBytes := bytes } :=
    { fresh := fun absent => by cases started.symm.trans absent
      tiling := pushed.tiling
      bytes := by
        intro found same
        cases started.symm.trans same
        have ending := tile.ending
        rw [offset, length] at ending
        rw [UInt32.toNat_toUInt64] at bytesAre
        show bytes.toNat = min (next.toNat * _) _
        rw [nextIs, bytesAre, ending]
      complete := pushed.complete }
  apply Staging.save bound keptAfter moved
  have here : AtBoundary entry index base _ ⟨world.staged ++ [decoded], some (base.put index
      { checkpoint with nextPlaintextBlock := next, plaintextBytes := bytes })⟩ _ :=
    { here := rfl
      durable := rfl
      tiled := moved
      level := fun _ => by rw [List.length_append, List.length_singleton, level, nextIs]
      undecided := boundary.undecided }
  apply Staging.quiet (fun _ => rfl) (here.kept bound)
  intro _
  apply Staging.advance (here.kept bound)
  exact fun _ => ⟨_, here⟩

theorem receiveEntryComplete_tiles (completion : EntryCompleteV2) :
    (receiveEntryComplete entry index completion).Yields (stagingContract entry index)
    (fun _ _ _ => True)
      (base.put index checkpoint) world := by
  have kept := boundary.kept bound
  rw [receiveEntryComplete, yields_bind, yields_get]
  simp only [yields_bind, yields_raise]
  intro _ _
  apply Staging.checkpointAt bound
  cases set : setOrEqualDigest checkpoint completion.finalDigest with
  | error error =>
    simp only [yields_bind]
    apply retireMismatch_tiles bound kept boundary.tiled
    intro ledger final
    simp only [yields_throw]
  | ok digested =>
    have tiled : Tiled entry world.staged digested := by
      cases setOrEqualDigest_ok set with
      | inl same => exact same ▸ boundary.tiled
      | inr same => exact same ▸ boundary.tiled.congr rfl rfl rfl id
    have level : digested.arbiter = .payloadOpen →
        world.staged.length = digested.nextPlaintextBlock.toNat := by
      cases setOrEqualDigest_ok set with
      | inl same => exact same ▸ boundary.level
      | inr same => exact same ▸ boundary.level
    simp only [yields_bind]
    apply Staging.update
    by_cases short : completion.finalSize ≠ entry.plaintextSize
    · rw [if_pos short, yields_bind]
      apply retireMismatch_tiles bound kept tiled
      intro ledger final
      simp only [yields_throw]
    · rw [if_neg short, decideCompletion, yields_bind]
      apply Staging.update
      rw [yields_bind]
      apply Staging.quiet (fun _ => rfl) kept
      intro _
      rw [yields_bind]
      refine yields_outcome kept (receiveFileCompletion_tiles bound completion.finalDigest kept
        (tiled.congr rfl rfl rfl id) level) ?_
      intro result ledger final keptAfter _
      rw [yields_bind]
      apply Staging.quiet (fun _ => rfl) keptAfter
      intro _
      rw [yields_raise]
      exact fun _ _ => trivial

theorem receiveFileFrame_tiles [Zstd] (total completed : UInt64) :
    (receiveFileFrame entry index total completed).Yields (stagingContract entry index)
      (fun outcome ledger final => outcome.1 = false → StillTiled entry index base ledger final)
      (base.put index checkpoint) world := by
  rw [receiveFileFrame, yields_bind, yields_get, yields_bind]
  apply Staging.recvFrame (boundary.kept bound)
  intro frame
  cases frame with
  | entryContentDigest frame =>
    rw [yields_bind]
    refine (receiveContentDigest_tiles bound boundary total completed frame).mono ?_
    intro _ ledger final still
    exact yields_pure.mpr fun _ => still
  | entryBlock block =>
    rw [yields_bind]
    refine (receiveBlock_tiles bound boundary total completed block).mono ?_
    intro _ ledger final still
    exact yields_pure.mpr fun _ => still
  | entryComplete completion =>
    rw [yields_bind]
    refine (receiveEntryComplete_tiles bound boundary completion).mono ?_
    intro _ ledger final _
    exact yields_pure.mpr (by simp)
  | _ => exact yields_throw.mpr trivial

theorem receiveFileLoop_tiles [Zstd] (total : UInt64) (fuel : Nat) (completed : UInt64) :
    (receiveFileLoop entry index total fuel completed).Yields (stagingContract entry index)
    (fun _ _ _ => True)
      (base.put index checkpoint) world := by
  -- the boundary is the invariant of the loop
  induction fuel generalizing completed checkpoint world with
  | zero => exact Staging.abort
  | succ fuel ih =>
    rw [receiveFileLoop, yields_bind]
    refine (receiveFileFrame_tiles bound boundary total completed).mono ?_
    rintro ⟨finished, completed⟩ ledger final still
    cases finished with
    | true => exact yields_pure.mpr trivial
    | false =>
      obtain ⟨next, after⟩ := still rfl
      obtain rfl := after.here
      exact ih after completed

end Frames

/-- Before a plan to reuse an object is carried out the sink may hold anything that tiles. -/
theorem applyReusePlan_tiles (bound : index < base.entries.length) (plan : EntryPlanV2)
    (total completed : UInt64) (durable : world.ledger = some (base.put index checkpoint))
    (tiled : Tiled entry world.staged checkpoint) (opened : checkpoint.arbiter = .payloadOpen)
    (level : plan.disposition = .receivePayload →
      world.staged.length = checkpoint.nextPlaintextBlock.toNat) :
    (applyReusePlan entry plan index total completed).Yields (stagingContract entry index)
      (fun _ => StillTiled entry index base) (base.put index checkpoint) world := by
  have undecided : checkpoint.arbiter ≠ .payloadCompleteChosen := by simp [opened]
  have kept := Staging.kept_of_durable bound durable tiled
  rw [applyReusePlan, yields_bind]
  apply Staging.checkpointAt bound
  by_cases payload : plan.disposition ≠ .reuseExisting
  · rw [if_pos payload, yields_pure]
    have receives : plan.disposition = .receivePayload := by
      cases disposition : plan.disposition with
      | receivePayload => rfl
      | reuseExisting => exact absurd disposition payload
    exact ⟨checkpoint, rfl, durable, tiled, fun _ => level receives, undecided⟩
  · rw [if_neg payload]
    simp only [yields_bind, yields_raise, okOr_eq_ok, reject_eq_ok, not_not]
    intro digest _
    apply Staging.attempt
    intro reply _
    cases reply with
    | error error => exact ⟨kept, fun _ failed => absurd failed (by simp)⟩
    | ok found =>
      cases found with
      | false =>
        refine ⟨kept, ?_⟩
        intro value same
        cases same
        exact fun _ refused => absurd refused (by decide)
      | true =>
        have cleared : Tiled entry [] checkpoint := tiled.clear undecided
        have keptAfter : (stagingContract entry index).keeps { world with staged := [] } :=
          Staging.kept_of_durable bound durable cleared
        refine ⟨keptAfter, ?_⟩
        intro value same
        cases same
        intro _ _
        apply Staging.update
        have chosen : Tiled entry [] { checkpoint with arbiter := .reuseChosen } :=
          cleared.congr rfl rfl rfl (by simp)
        apply Staging.save bound keptAfter chosen
        have here :
          AtBoundary entry index base _ ⟨[],
            some (base.put index { checkpoint with arbiter := .reuseChosen })⟩ _ :=
          { here := rfl, durable := rfl, tiled := chosen, level := (by simp),
            undecided := (by simp) }
        rw [if_neg (by simp [opened])]
        apply Staging.advance (here.kept bound)
        exact fun _ => ⟨_, here⟩

/-- An attempt repeats the start that the checkpoint remembers, or brings the first one. -/
theorem commitStart_tiles (bound : index < base.entries.length) (start : EntryStartV2)
    (durable : world.ledger = some (base.put index checkpoint))
    (tiled : Tiled entry world.staged checkpoint) (opened : checkpoint.arbiter = .payloadOpen) :
    (commitStart index checkpoint start).Yields (stagingContract entry index)
      (fun _ ledger final => ∃ started, ledger = base.put index started ∧
        final.ledger = some (base.put index started) ∧ Tiled entry final.staged started ∧
        started.arbiter = .payloadOpen)
      (base.put index checkpoint) world := by
  have kept := Staging.kept_of_durable bound durable tiled
  have commit (next : Tiled entry world.staged { checkpoint with
    start := some start, payloadRetired := false }) :
      (updateCheckpoint index ({ · with start := some start, payloadRetired := false })).Yields
        (stagingContract entry index)
        (fun _ ledger final => saveLedger.Yields (stagingContract entry index)
          (fun _ ledger final => ∃ started,
          ledger = base.put index started ∧ final.ledger = some (base.put index started) ∧
          Tiled entry final.staged started ∧ started.arbiter = .payloadOpen) ledger final)
        (base.put index checkpoint) world := by
    apply Staging.update
    apply Staging.save bound kept next
    exact ⟨_, rfl, rfl, next, opened⟩
  rw [commitStart]
  cases remembered : checkpoint.start with
  | none =>
    obtain ⟨empty, next, bytes⟩ := tiled.fresh remembered
    simp only [yields_bind]
    apply commit
    exact
      { fresh := nofun
        tiling := fun _ _ => empty ▸ Tiling.nil
        bytes := fun _ _ => by simp [next, bytes]
        complete := fun chosen => by
          rw [show checkpoint.arbiter = _ from chosen] at opened
          cases opened }
  | some existing =>
    simp only [yields_bind, yields_raise, reject_eq_ok, not_not]
    intro _ repeated
    apply commit
    exact tiled.congr (by rw [remembered, repeated]) rfl rfl id

/-- An attempt to receive a file, from its start on. -/
theorem receiveOpenEntry_tiles [Blake3] [Zstd] (fuel : Nat) (total completed : UInt64)
    (file : entry.kind = .regularFile) (here : entry.entryId.toNat = index)
    (found : base.entries[index]? = some checkpoint) (durable : world.ledger = some base)
    (tiled : Tiled entry world.staged checkpoint) (opened : checkpoint.arbiter = .payloadOpen) :
    (receiveOpenEntry fuel total entry checkpoint completed).Yields (stagingContract entry index)
    (fun _ _ _ => True)
      base world := by
  have bound : index < base.entries.length := (List.getElem?_eq_some_iff.mp found).1
  have undecided : checkpoint.arbiter ≠ .payloadCompleteChosen := by simp [opened]
  have same : base.put index checkpoint = base := ReceiverDataPlaneLedgerV2.put_self found
  have durable : world.ledger = some (base.put index checkpoint) := by rw [same, durable]
  have kept := Staging.kept_of_durable bound durable tiled
  rw [← same, receiveOpenEntry, yields_bind, yields_get, here, yields_bind, element]
  cases planned : (base.put index checkpoint).accept.entryPlans[index]? with
  | none => exact Staging.abort
  | some plan =>
    rw [yields_pure, yields_bind, recvEntryStart, yields_bind]
    apply Staging.recvFrame kept
    intro frame
    cases frame with
    | entryStart start =>
      simp only [yields_bind, yields_raise, yields_pure]
      intro _ _
      refine (commitStart_tiles bound start durable tiled opened).mono ?_
      rintro _ ledger final ⟨started, sameLedger, durable, tiled, opened⟩
      subst sameLedger
      have kept := Staging.kept_of_durable bound durable tiled
      rw [if_neg (by simp [file])]
      by_cases payload : plan.disposition = .receivePayload
      · rw [if_pos payload]
        simp only [yields_bind]
        apply Staging.checkpointAt bound
        apply Staging.attempt
        intro reply reached
        cases reply with
        | error error => exact ⟨kept, fun _ failed => absurd failed (by simp)⟩
        | ok value =>
          -- the object is cut to the blocks of the checkpoint
          have cut : Tiled entry (final.staged.take started.nextPlaintextBlock.toNat) started :=
            tiled.take (by simp [opened]) _
          have level : (final.staged.take started.nextPlaintextBlock.toNat).length =
              started.nextPlaintextBlock.toNat := by
            rw [List.length_take]
            exact Nat.min_eq_left reached
          have durable :
              StagingWorld.ledger ⟨final.staged.take started.nextPlaintextBlock.toNat,
                final.ledger⟩ =
              some (base.put index started) := durable
          refine ⟨Staging.kept_of_durable bound durable cut, ?_⟩
          intro _ _
          rw [receiveFile, yields_bind]
          refine (applyReusePlan_tiles bound plan total completed durable cut opened fun _ =>
            level).mono ?_
          rintro completed ledger final ⟨next, boundary⟩
          obtain rfl := boundary.here
          exact receiveFileLoop_tiles bound boundary total fuel completed
      · rw [if_neg payload, receiveFile]
        simp only [yields_bind]
        refine (applyReusePlan_tiles bound plan total completed durable tiled opened
          fun receives => absurd receives payload).mono ?_
        rintro completed ledger final ⟨next, boundary⟩
        obtain rfl := boundary.here
        exact receiveFileLoop_tiles bound boundary total fuel completed
    | _ => exact yields_throw.mpr trivial

end Attempt

/-! ## All attempts -/

/-- A file entry from its Accept on: attempts on the ledger in the store, cut anywhere, other
entries of the job in between, and payloads that are reset because the object is not at the
boundary. -/
inductive Reception [Blake3] [UnicodeNormalization] [Zstd] (entry : ManifestEntryV2) :
    StagingWorld → Prop where
  | accepted {offer : ManifestOfferV2} {accept : ManifestAcceptV2}
      {ledger : ReceiverDataPlaneLedgerV2} {plan : EntryPlanV2}
      (new : ReceiverDataPlaneLedgerV2.new offer accept = .ok (some ledger))
      (offered : offer.manifest.entries[entry.entryId.toNat]? = some entry)
      (planned : accept.entryPlans[entry.entryId.toNat]? = some plan)
      (start : plan.nextPlaintextBlock = 0) :
      Reception entry { staged := [], ledger := some ledger }
  | attempted {world final : StagingWorld} {ledger : ReceiverDataPlaneLedgerV2}
      {checkpoint : ReceiverEntryCheckpointV2} {fuel : Nat} {total completed : UInt64}
      {rest : Proc EngineOp EngineReply (Except ManifestV2DataError UInt64 ×
        ReceiverDataPlaneLedgerV2)}
      (before : Reception entry world) (loaded : world.ledger = some ledger)
      (found : ledger.entries[entry.entryId.toNat]? = some checkpoint)
      (opened : checkpoint.arbiter = .payloadOpen)
      (run : Proc.Reaches (stagingContract entry entry.entryId.toNat)
        ((receiveOpenEntry fuel total entry checkpoint completed).runOn ledger) world rest final) :
          Reception entry final
  | elsewhere {world : StagingWorld} {ledger other : ReceiverDataPlaneLedgerV2}
      (before : Reception entry world) (loaded : world.ledger = some ledger)
      (kept : other.entries[entry.entryId.toNat]? = ledger.entries[entry.entryId.toNat]?) :
      Reception entry { world with ledger := some other }
  | reset {world final : StagingWorld} {ledger : ReceiverDataPlaneLedgerV2}
      {checkpoint : ReceiverEntryCheckpointV2} {manifest : ManifestV2}
      {rest : Proc EngineOp EngineReply (Except ManifestV2DataError Unit ×
        ReceiverDataPlaneLedgerV2)} (before : Reception entry world)
          (loaded : world.ledger = some ledger)
      (found : ledger.entries[entry.entryId.toNat]? = some checkpoint)
      (opened : checkpoint.arbiter = .payloadOpen)
      (run : Proc.Reaches (stagingContract entry entry.entryId.toNat)
        ((resetPayloadCheckpoint manifest entry.entryId).runOn ledger)
        { world with staged := [] } rest final) :
      Reception entry final

section Receptions

variable {entry : ManifestEntryV2} {index : Nat} {base : ReceiverDataPlaneLedgerV2}
  {checkpoint : ReceiverEntryCheckpointV2} {world : StagingWorld}

theorem resetPayloadCheckpoint_tiles (manifest : ManifestV2)
    (found : base.entries[entry.entryId.toNat]? = some checkpoint)
    (durable : world.ledger = some base) (empty : world.staged = [])
    (tiled : Tiled entry world.staged checkpoint) :
    (resetPayloadCheckpoint manifest entry.entryId).Yields
      (stagingContract entry entry.entryId.toNat) (fun _ _ _ => True)
      base world := by
  have bound : entry.entryId.toNat < base.entries.length := (List.getElem?_eq_some_iff.mp found).1
  have same : base.put entry.entryId.toNat checkpoint = base :=
    ReceiverDataPlaneLedgerV2.put_self found
  have durable : world.ledger = some (base.put entry.entryId.toNat checkpoint) := by
    rw [same, durable]
  have kept := Staging.kept_of_durable bound durable tiled
  rw [← same, resetPayloadCheckpoint, yields_bind, yields_get]
  simp only [yields_bind, yields_raise]
  intro named _ plan _ current _ _ _
  apply Staging.update
  rw [yields_modify]
  have restarted : Tiled entry world.staged { checkpoint.retired named with start := none } :=
    { fresh := fun _ => ⟨empty, rfl, rfl⟩, tiling := nofun, bytes := nofun, complete := nofun }
  exact @Staging.save entry _ { base with senderCompletionSetDigest := none }
    _ _ _ bound kept restarted trivial

theorem newCheckpoint_tiles {plan : EntryPlanV2} (start : plan.nextPlaintextBlock = 0) :
    Tiled entry [] (newCheckpoint entry plan) where
  fresh _ := by
    refine ⟨rfl, start, ?_⟩
    have zero : saturatingMul64 0 defaultBlockBytes = 0 := by decide
    simp only [newCheckpoint, start, zero]
    exact if_pos (UInt64.le_iff_toNat_le.mpr (Nat.zero_le _))
  tiling := nofun
  bytes := nofun
  complete := nofun

variable [Blake3] [UnicodeNormalization] [Zstd]

theorem Reception.kept (file : entry.kind = .regularFile) (reception : Reception entry world) :
    (stagingContract entry entry.entryId.toNat).keeps world := by
  induction reception with
  | accepted new offered planned start =>
    intro ledger checkpoint same there
    cases same
    simp only [ReceiverDataPlaneLedgerV2.new, bind_eq_ok, exists_unit, pure_eq_ok,
      Option.map_eq_some_iff, mapM_eq_some] at new
    obtain ⟨-, _, -, checkpoints, mapped, rfl⟩ := new
    have here := congrArg (·[entry.entryId.toNat]?) mapped
    simp only [List.getElem?_map, offered, Option.map_some, planned,
      show checkpoints[entry.entryId.toNat]? = some checkpoint from there, Option.some.injEq]
        at here
    rw [← here]
    exact newCheckpoint_tiles start
  | attempted before loaded found opened run ih =>
    have tiled := ih _ _ loaded found
    exact (receiveOpenEntry_tiles _ _ _ file rfl found loaded tiled opened).reaches ih run
  | elsewhere before loaded kept ih =>
    intro ledger checkpoint same there
    cases same
    exact ih _ checkpoint loaded (kept ▸ there)
  | @reset world _ _ checkpoint _ _ before loaded found opened run ih =>
    have tiled : Tiled entry [] checkpoint := (ih _ _ loaded found).clear (by simp [opened])
    have kept : (stagingContract entry entry.entryId.toNat).keeps { world with staged := [] } := by
      intro ledger checkpoint same there
      rw [show world.ledger = some ledger from same] at loaded
      cases loaded
      rw [found] at there
      cases there
      exact tiled
    have loaded : StagingWorld.ledger ⟨[], world.ledger⟩ = _ := loaded
    exact (resetPayloadCheckpoint_tiles _ found loaded rfl tiled).reaches kept run

/-- Whatever blocks a receiver is sent and however often it reconnects: the blocks in its sink stand
one after the other from offset 0, the checkpoint counts the bytes up to its boundary, and a payload
that was closed has all the bytes of the file. -/
theorem accepted_blocks_tile (file : entry.kind = .regularFile) (reception : Reception entry world)
    {ledger : ReceiverDataPlaneLedgerV2} {checkpoint : ReceiverEntryCheckpointV2}
    (durable : world.ledger = some ledger)
    (found : ledger.entries[entry.entryId.toNat]? = some checkpoint) :
    (checkpoint.start = none → checkpoint.nextPlaintextBlock = 0 ∧ checkpoint.plaintextBytes = 0 ∧
      world.staged = []) ∧
    (∀ start, checkpoint.start = some start → checkpoint.plaintextBytes.toNat =
      min (checkpoint.nextPlaintextBlock.toNat * start.plaintextBlockBytes.toNat)
        entry.plaintextSize.toNat) ∧
    (∀ before block after, world.staged = before ++ block :: after →
      block.blockIndex.toNat = before.length ∧ block.plaintextOffset.toNat = writtenBytes before) ∧
    (checkpoint.arbiter = .payloadCompleteChosen →
      writtenBytes world.staged = entry.plaintextSize.toNat) := by
  have tiled := reception.kept file ledger checkpoint durable found
  refine ⟨?_, tiled.bytes, ?_, tiled.complete⟩
  · intro none
    obtain ⟨empty, next, bytes⟩ := tiled.fresh none
    exact ⟨next, bytes, empty⟩
  · intro before block after split
    cases started : checkpoint.start with
    | none =>
      rw [(tiled.fresh started).1] at split
      simp at split
    | some start => exact (tiled.tiling start started).consecutive split

end Receptions

/-! ### A letter in two blocks -/

def letterManifest : ManifestV2 := { folderManifest with
  roots :=
    [{ rootId := 0, rootEntryId := 0, requestedName := "letter.txt", completeness := .complete }]
  entries := [{
    entryId := 0, rootId := 0, parentEntryId := none, component := "letter.txt",
    kind := .regularFile, plaintextSize := 3, contentDigest := .deferred }]
  totals := { fileCount := 1, directoryCount := 0, totalPlaintextBytes := 3 } }

def letterDigest : ContentDigestV2 :=
  ⟨⟨[0x4c, 0xa0, 0x4b, 0xe2, 0xba, 0x60, 0xdb, 0xd3, 0x06, 0x56, 0x6a, 0x30, 0xf2, 0xe2, 0xe4, 0x9f,
    0x05, 0x64, 0x8d, 0xa6, 0x61, 0xe2, 0xc7, 0x7f, 0xce, 0x72, 0x27, 0xb2, 0xe4, 0x03, 0x6b, 0x75],
      rfl⟩⟩

def letterAcceptDigest : ContentDigestV2 :=
  ⟨⟨[0x7c, 0xa2, 0xa2, 0xe9, 0xb9, 0xb5, 0x2e, 0x0d, 0xe4, 0xa6, 0x4b, 0x49, 0x7c, 0x9b, 0xe2, 0xec,
    0xb3, 0xed, 0xbf, 0x99, 0xcc, 0x41, 0x31, 0x1a, 0x74, 0x20, 0xcd, 0xa6, 0x4b, 0xc8, 0xbc, 0x61],
      rfl⟩⟩

def letterContentDigest : ContentDigestV2 :=
  ⟨⟨[0x2a, 0x66, 0xe9, 0xfa, 0xaa, 0x54, 0x3b, 0xa8, 0x8d, 0xf1, 0xca, 0x12, 0x54, 0x9f, 0x1a, 0xcd,
    0x7d, 0x8b, 0x93, 0x25, 0xae, 0x04, 0xee, 0x24, 0x39, 0x2d, 0x85, 0x78, 0x2e, 0x9c, 0x4b, 0xc8],
      rfl⟩⟩

@[reducible] def letterBlake3 : Blake3 where
  hash input :=
    if input = encodeManifestBody letterManifest then letterDigest.bytes
    else if input = asBytes "hi!" then letterContentDigest.bytes
    else letterAcceptDigest.bytes
  deriveKey _ _ := nothingDigest.bytes
  keyedHash _ _ := nothingDigest.bytes

def letterAccept : ManifestAcceptV2 :=
  { folderAccept with manifestDigest := letterDigest, rootPlans := [⟨0, "letter.txt"⟩] }

def letterEntry : ManifestEntryV2 where
  entryId := 0
  rootId := 0
  parentEntryId := none
  component := "letter.txt"
  kind := .regularFile
  plaintextSize := 3
  contentDigest := .deferred

def letterLedger (checkpoint : ReceiverEntryCheckpointV2) : ReceiverDataPlaneLedgerV2 where
  schemaVersion := receiverDataPlaneSchemaVersion
  identity := folderIdentity
  manifestDigest := letterDigest
  accept := letterAccept
  acceptBodyDigest := letterAcceptDigest
  entries := [checkpoint]
  senderCompletionSetDigest := none

/-- Blocks of two bytes. -/
def letterStart : EntryStartV2 := ⟨folderIdentity, 0, .identity, 2⟩

def letterBlocks : List EntryBlockV2 :=
  [⟨folderIdentity, 0, 0, 0, 2, asBytes "hi"⟩, ⟨folderIdentity, 0, 1, 2, 1, asBytes "!"⟩]

def letterComplete : EntryCompleteV2 :=
  ⟨folderIdentity, 0, 3, letterContentDigest, .payloadComplete⟩

def letterNew : ReceiverEntryCheckpointV2 := ⟨0, none, .payloadOpen, 0, 0, none, none, none, false⟩

def letterClosed : ReceiverEntryCheckpointV2 :=
  ⟨0, some letterStart, .payloadCompleteChosen, 2, 3, some letterContentDigest, some letterComplete,
    none, false⟩

/-- The frame that is due, and success. -/
def letterReplies (world : StagingWorld) : (op : EngineOp) → Option (EngineReply op)
  | .delivery .recvManifestV2Frame =>
    if world.ledger = some (letterLedger letterNew) then some (.ok (.entryStart letterStart))
    else match letterBlocks[world.staged.length]? with
      | some block => some (.ok (.entryBlock block))
      | none => some (.ok (.entryComplete letterComplete))
  | .saveLedger _ => some .written
  | .beginEntry _ _ next => if next.toNat ≤ world.staged.length then some (.ok ()) else none
  | .writeBlock _ _ => some (.ok ())
  | .verifyPayload _ _ => some (.ok ())
  | .onProgress _ _ => some ()
  | .onPhase _ => some ()
  | .onStage _ => some ()
  | _ => none

theorem letterReplies_allowed (world : StagingWorld) (op : EngineOp) (reply : EngineReply op)
    (answered : letterReplies world op = some reply) : world.mayReply op reply := by
  cases op with
  | beginEntry entry start next =>
    simp only [letterReplies] at answered
    split at answered
    · cases answered
      assumption
    · cases answered
  | _ => trivial

def letterRun :=
  Proc.walk StagingWorld.after letterReplies 40
    ((@receiveOpenEntry letterBlake3 storedZstd 5 3 letterEntry letterNew 0).runOn
      (letterLedger letterNew))
    ⟨[], some (letterLedger letterNew)⟩

theorem letter_received :
    @Reception letterBlake3 asciiNormalization storedZstd letterEntry ⟨letterBlocks,
      some (letterLedger letterClosed)⟩ := by
  have created :
      @ReceiverDataPlaneLedgerV2.new letterBlake3 asciiNormalization ⟨letterDigest,
        letterManifest⟩ letterAccept =
      .ok (some (letterLedger letterNew)) := by set_option maxRecDepth 8000 in decide
  have run :
    Proc.Reaches (stagingContract letterEntry letterEntry.entryId.toNat)
      _ _ letterRun.1 letterRun.2 :=
    Proc.walk_reaches letterReplies_allowed 40 _ _
  have staged : letterRun.2.staged = letterBlocks := by decide
  have closed : letterRun.2.ledger = some (letterLedger letterClosed) := by decide
  have received := @Reception.attempted letterBlake3 asciiNormalization storedZstd _ _ _ _ _ _ _ _ _
    (@Reception.accepted letterBlake3 asciiNormalization storedZstd _ _ _ _ _ created rfl rfl rfl)
      rfl rfl rfl run
  rw [← staged, ← closed]
  exact received

theorem accepted_blocks_tile_letter :
    @Reception letterBlake3 asciiNormalization storedZstd letterEntry ⟨letterBlocks,
      some (letterLedger letterClosed)⟩ ∧
    letterClosed.plaintextBytes.toNat = min (letterClosed.nextPlaintextBlock.toNat * 2) 3 ∧
    writtenBytes letterBlocks = 3 :=
  have tiles :=
    @accepted_blocks_tile letterEntry _ letterBlake3 asciiNormalization storedZstd rfl
      letter_received _
    letterClosed rfl rfl
  ⟨letter_received, tiles.2.1 letterStart rfl, tiles.2.2.2 rfl⟩

end Envoix.Transfer
