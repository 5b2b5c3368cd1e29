import Envoix.Foundation.ByteCodec

/-! # Framed byte strings

Strings that are written one after the other, each after its length, can be told apart again: the
parts of a transcript are determined by its bytes. -/

namespace ByteCodec

/-- What fits in the memory of a machine with 64-bit lengths. -/
@[ext]
structure Buffer where
  bytes : Bytes
  fits : bytes.length < 2 ^ 64
deriving DecidableEq

namespace Buffer

def empty : Buffer := ⟨[], by decide⟩

/-- `str::as_bytes` of a literal. -/
def ofText (text : String) (fits : (asBytes text).length < 2 ^ 64) : Buffer := ⟨asBytes text, fits⟩

def ofVector {length : Nat} (vector : ByteVector length) (fits : length < 2 ^ 64) : Buffer :=
  ⟨vector.toList, by rw [vector.length_toList]; exact fits⟩

theorem fits_32 : 32 < 2 ^ 64 := by decide

theorem ofText_inj {left right : String} {fitsLeft : (asBytes left).length < 2 ^ 64}
    {fitsRight : (asBytes right).length < 2 ^ 64}
    (same : ofText left fitsLeft = ofText right fitsRight) : left = right :=
  asBytes_injective (congrArg Buffer.bytes same)

theorem ofVector_inj {length : Nat} {left right : ByteVector length} {fits : length < 2 ^ 64}
    (same : ofVector left fits = ofVector right fits) : left = right :=
  ByteVector.ext (congrArg Buffer.bytes same)

end Buffer

/-- The length as a big-endian `u64`, and the bytes. -/
def lenPrefixed (buffer : Buffer) : Bytes :=
  u64Be (UInt64.ofNat buffer.bytes.length) ++ buffer.bytes

theorem lenPrefixed_append_inj {left right : Buffer} {afterLeft afterRight : Bytes}
    (same : lenPrefixed left ++ afterLeft = lenPrefixed right ++ afterRight) :
    left = right ∧ afterLeft = afterRight := by
  rw [lenPrefixed, lenPrefixed, List.append_assoc, List.append_assoc] at same
  obtain ⟨lengths, rest⟩ := List.append_inj same (by rw [length_u64Be, length_u64Be])
  have back (buffer : Buffer) :
      ofBe (u64Be (UInt64.ofNat buffer.bytes.length)) = buffer.bytes.length := by
    have small : buffer.bytes.length < 2 ^ 64 := buffer.fits
    rw [u64Be, ofBe_toBe, UInt64.toNat_ofNat', Nat.mod_eq_of_lt small, Nat.mod_eq_of_lt (by omega)]
  have sameLength : left.bytes.length = right.bytes.length := by
    rw [← back left, lengths, back right]
  obtain ⟨bytes, after⟩ := List.append_inj rest sameLength
  exact ⟨Buffer.ext bytes, after⟩

theorem u64Be_injective {left right : UInt64} (same : u64Be left = u64Be right) : left = right := by
  have back (value : UInt64) : ofBe (u64Be value) = value.toNat := by
    have small : value.toNat < 2 ^ 64 := value.toNat_lt
    rw [u64Be, ofBe_toBe, Nat.mod_eq_of_lt (by omega)]
  exact UInt64.toNat_inj.mp (by rw [← back left, same, back])

/-- Several strings, each after its length. -/
def framed (parts : List Buffer) : Bytes := parts.flatMap lenPrefixed

theorem length_framed (parts : List Buffer) :
    (framed parts).length = (parts.map fun part => 8 + part.bytes.length).sum := by
  induction parts with
  | nil => rfl
  | cons part parts ih =>
    rw [framed, List.flatMap_cons, List.length_append, List.map_cons, List.sum_cons, ← ih,
      lenPrefixed, List.length_append, length_u64Be]
    rfl

theorem framed_append_inj {left right : List Buffer} {afterLeft afterRight : Bytes}
    (count : left.length = right.length)
    (same : framed left ++ afterLeft = framed right ++ afterRight) :
    left = right ∧ afterLeft = afterRight := by
  induction left generalizing right with
  | nil =>
    have none : right = [] := List.length_eq_zero_iff.mp count.symm
    subst none
    exact ⟨rfl, same⟩
  | cons part parts ih =>
    cases right with
    | nil => cases count
    | cons other others =>
      simp only [framed, List.flatMap_cons, List.append_assoc] at same
      obtain ⟨first, rest⟩ := lenPrefixed_append_inj same
      obtain ⟨others, after⟩ := ih (Nat.succ.inj count) rest
      exact ⟨by rw [first, others], after⟩

end ByteCodec
