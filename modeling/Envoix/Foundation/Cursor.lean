import Envoix.Foundation.ByteCodec

/-! # Cursors

A parser that keeps its input whole and moves an offset over it.  `Passes` says which bytes lie
between two positions, so that what a sequence of reads accepts is the concatenation of what each of
them accepts. -/

namespace ByteCodec

open Fallible

/-! ## Words and their bytes -/

theorem u16Be_ofBe {bytes : Bytes} (length : bytes.length = 2) :
    u16Be (UInt16.ofNat (ofBe bytes)) = bytes := by
  have small : ofBe bytes < 2 ^ 16 := by
    have bound := ofBe_lt bytes
    rw [length] at bound
    exact bound
  rw [u16Be, UInt16.toNat_ofNat_of_lt' small, ← length, toBe_ofBe]

theorem ofBe_u32Be (value : UInt32) : ofBe (u32Be value) = value.toNat := by
  have bound : value.toNat < 256 ^ 4 := UInt32.toNat_lt value
  rw [u32Be, ofBe_toBe, Nat.mod_eq_of_lt bound]

theorem u32Be_ofBe {bytes : Bytes} (length : bytes.length = 4) :
    u32Be (UInt32.ofNat (ofBe bytes)) = bytes := by
  have small : ofBe bytes < 2 ^ 32 := by
    have bound := ofBe_lt bytes
    rw [length] at bound
    exact bound
  rw [u32Be, UInt32.toNat_ofNat_of_lt' small, ← length, toBe_ofBe]

/-! ## Positions -/

/-- A position in a byte string; offsets are 64-bit. -/
structure Cursor where
  payload : Bytes
  offset : Nat
  within : offset ≤ payload.length
  counts : offset < 2 ^ 64

namespace Cursor

def start (payload : Bytes) : Cursor := ⟨payload, 0, Nat.zero_le _, by decide⟩

def rest (self : Cursor) : Bytes := self.payload.drop self.offset

abbrev Read (ε α : Type) := StateT Cursor (Except ε) α

variable {ε α β : Type}

/-! ## Between two positions -/

/-- `bytes` lie between `before` and `after`. -/
structure Passes (before : Cursor) (bytes : Bytes) (after : Cursor) : Prop where
  payload : after.payload = before.payload
  offset : after.offset = before.offset + bytes.length
  rest : before.rest = bytes ++ after.rest

theorem eq_of_offset {left right : Cursor} (payload : left.payload = right.payload)
    (offset : left.offset = right.offset) : left = right := by
  cases left
  cases right
  cases payload
  cases offset
  rfl

@[simp] theorem passes_nil {before after : Cursor} : before.Passes [] after ↔ after = before := by
  constructor
  · intro passes
    exact eq_of_offset passes.payload passes.offset
  · rintro rfl
    exact ⟨rfl, rfl, rfl⟩

theorem Passes.append {before middle after : Cursor} {first second : Bytes}
    (left : before.Passes first middle) (right : middle.Passes second after) :
    before.Passes (first ++ second) after where
  payload := right.payload.trans left.payload
  offset := by rw [right.offset, left.offset, List.length_append, Nat.add_assoc]
  rest := by rw [left.rest, right.rest, List.append_assoc]

/-- The position inside that is reached after the first of two strings. -/
theorem Passes.split {before after : Cursor} {first second : Bytes}
    (passes : before.Passes (first ++ second) after) :
    ∃ middle, before.Passes first middle ∧ middle.Passes second after := by
  have offset := passes.offset
  have end_ := after.within
  rw [passes.payload] at end_
  have counts := after.counts
  rw [List.length_append] at offset
  let middle : Cursor := ⟨before.payload, before.offset + first.length, by omega, by omega⟩
  have rest : middle.rest = second ++ after.rest := by
    have whole := passes.rest
    rw [List.append_assoc] at whole
    change before.payload.drop (before.offset + first.length) = _
    rw [← List.drop_drop]
    change before.rest.drop first.length = _
    rw [whole, List.drop_left]
  refine ⟨middle, ⟨rfl, rfl, ?_⟩, passes.payload, ?_, rest⟩
  · rw [passes.rest, rest, List.append_assoc]
  · change after.offset = before.offset + first.length + second.length
    omega

theorem passes_append {before after : Cursor} {first second : Bytes} :
    before.Passes (first ++ second) after ↔ ∃ middle, before.Passes first middle ∧
      middle.Passes second after :=
  ⟨Passes.split, fun ⟨_, left, right⟩ => left.append right⟩

/-- From the first byte to the last one. -/
theorem passes_whole {payload bytes : Bytes} :
    (∃ after, (start payload).Passes bytes after ∧ after.offset = after.payload.length) ↔
      payload = bytes ∧ payload.length < 2 ^ 64 := by
  constructor
  · rintro ⟨after, passes, finished⟩
    have nothing : after.rest = [] := by rw [rest, finished, List.drop_length]
    have whole : payload = bytes := by
      have split := passes.rest
      rw [nothing, List.append_nil] at split
      exact split
    refine ⟨whole, ?_⟩
    have counts := after.counts
    rw [finished, passes.payload] at counts
    exact counts
  · rintro ⟨rfl, counts⟩
    refine ⟨⟨payload, payload.length, Nat.le_refl _, counts⟩, ⟨rfl, (Nat.zero_add _).symm, ?_⟩, rfl⟩
    change payload = payload ++ payload.drop payload.length
    rw [List.drop_length, List.append_nil]

/-! ## Reading -/

@[simp] theorem run_bind_ok {first : Read ε α} {next : α → Read ε β} {b : β}
    {before after : Cursor} :
    (first >>= next).run before = .ok (b, after) ↔
      ∃ a middle, first.run before = .ok (a, middle) ∧ (next a).run middle = .ok (b, after) := by
  rw [StateT.run_bind, bind_eq_ok, Prod.exists]

@[simp] theorem run_pure_ok {a b : α} {before after : Cursor} :
    (pure a : Read ε α).run before = .ok (b, after) ↔ a = b ∧ before = after := by
  rw [StateT.run_pure, pure_eq_ok, Prod.mk.injEq]

theorem run'_ok {read : Read ε α} {a : α} {before : Cursor} :
    read.run' before = .ok a ↔ ∃ after, read.run before = .ok (a, after) := by
  rw [StateT.run'_eq]
  cases result : read.run before with
  | error error => simp
  | ok pair =>
    obtain ⟨value, after⟩ := pair
    simp

/-- A step that moves nothing, `…?`. -/
def attempt (result : Except ε α) : Read ε α := fun cursor => do
  let a ← result
  pure (a, cursor)

@[simp] theorem run_attempt_ok {result : Except ε α} {a : α} {before after : Cursor} :
    (attempt result).run before = .ok (a, after) ↔ result = .ok a ∧ before = after := by
  change (result >>= fun a => pure (a, before)) = _ ↔ _
  cases result with
  | error error => simp
  | ok value => rw [ok_bind, pure_eq_ok, Prod.mk.injEq, Except.ok.injEq]

/-- The next `length` bytes; the end of them must be an offset, and inside. -/
def take (overflow short : ε) (length : Nat) : Read ε Bytes := fun cursor =>
  if counts : cursor.offset + length < 2 ^ 64 then
    if within : cursor.offset + length ≤ cursor.payload.length then
      .ok (cursor.rest.take length, ⟨cursor.payload, cursor.offset + length, within, counts⟩)
    else .error short
  else .error overflow

theorem run_take_ok {overflow short : ε} {length : Nat} {taken : Bytes} {before after : Cursor} :
    (take overflow short length).run before = .ok (taken, after) ↔
      taken.length = length ∧ before.Passes taken after := by
  change take overflow short length before = _ ↔ _
  unfold take
  constructor
  · intro took
    split at took
    case isFalse => cases took
    case isTrue counts =>
      split at took
      case isFalse => cases took
      case isTrue within =>
        cases took
        have enough : length ≤ before.rest.length := by rw [rest, List.length_drop]; omega
        have taken : (before.rest.take length).length = length := List.length_take_of_le enough
        refine ⟨taken, rfl, by rw [taken], ?_⟩
        rw [rest, rest, ← List.drop_drop, List.take_append_drop]
  · rintro ⟨rfl, passes⟩
    have offset := passes.offset
    have within := after.within
    rw [passes.payload] at within
    have counts := after.counts
    rw [dif_pos (by omega), dif_pos (by omega), passes.rest, List.take_left]
    congr 2
    exact eq_of_offset passes.payload.symm offset.symm

/-- What a read of a fixed number of bytes gives is a function of these. -/
theorem run_take_map_ok {overflow short : ε} {length : Nat} {decode : Bytes → α}
    {encode : α → Bytes} (width : ∀ a, (encode a).length = length)
      (left : ∀ a, decode (encode a) = a)
    (right : ∀ bytes : Bytes, bytes.length = length → encode (decode bytes) = bytes) {a : α}
      {before after : Cursor} :
    (do let taken ← take overflow short length; pure (decode taken) : Read ε α).run before =
      .ok (a, after) ↔
      before.Passes (encode a) after := by
  simp only [run_bind_ok, run_take_ok, run_pure_ok]
  constructor
  · rintro ⟨taken, _, ⟨full, passes⟩, rfl, rfl⟩
    rw [right taken full]
    exact passes
  · intro passes
    exact ⟨encode a, after, ⟨width a, passes⟩, left a, rfl⟩

def u8 (overflow short : ε) : Read ε UInt8 := do
  let taken ← take overflow short 1
  pure (taken.headD 0)

/-- `u32::from_be_bytes` of the next four bytes. -/
def u32 (overflow short : ε) : Read ε UInt32 := do
  let taken ← take overflow short 4
  pure (UInt32.ofNat (ofBe taken))

@[simp] theorem run_u8_ok {overflow short : ε} {value : UInt8} {before after : Cursor} :
    (u8 overflow short).run before = .ok (value, after) ↔ before.Passes [value] after := by
  refine @run_take_map_ok ε UInt8 overflow short 1 (fun taken => taken.headD 0)
    (fun value => [value]) (fun _ => rfl)
    (fun _ => rfl) ?_ value before after
  intro bytes length
  obtain ⟨byte, rfl⟩ := List.length_eq_one_iff.mp length
  rfl

@[simp] theorem run_u32_ok {overflow short : ε} {value : UInt32} {before after : Cursor} :
    (u32 overflow short).run before = .ok (value, after) ↔ before.Passes (u32Be value) after := by
  refine run_take_map_ok length_u32Be ?_ (fun _ => u32Be_ofBe)
  intro value
  rw [ofBe_u32Be, UInt32.ofNat_toNat]

end Cursor

/-! ## Strings after their lengths -/

/-- The length as a big-endian `u32`, and the bytes. -/
def prefixed (value : Bytes) : Bytes := u32Be (UInt32.ofNat value.length) ++ value

theorem length_prefixed (value : Bytes) : (prefixed value).length = 4 + value.length := by
  rw [prefixed, List.length_append, length_u32Be]

namespace Cursor

def prefixed {ε : Type} (overflow short : ε) : Read ε Bytes := do
  let length ← u32 overflow short
  take overflow short length.toNat

@[simp] theorem run_prefixed_ok {ε : Type} {overflow short : ε} {value : Bytes}
    {before after : Cursor} :
    (prefixed overflow short).run before = .ok (value, after) ↔
      value.length < 2 ^ 32 ∧ before.Passes (ByteCodec.prefixed value) after := by
  simp only [prefixed, run_bind_ok, run_u32_ok, run_take_ok, ByteCodec.prefixed, passes_append]
  constructor
  · rintro ⟨length, middle, header, full, passes⟩
    rw [full, UInt32.ofNat_toNat]
    exact ⟨UInt32.toNat_lt length, middle, header, passes⟩
  · rintro ⟨small, middle, header, passes⟩
    exact ⟨_, middle, header, (UInt32.toNat_ofNat_of_lt' small).symm, passes⟩

end Cursor

end ByteCodec
