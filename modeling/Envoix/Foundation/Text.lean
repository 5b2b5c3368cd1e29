import Envoix.Foundation.ByteCodec
import Mathlib.Data.List.DropRight

/-! # Text

Strings as the lists of their characters, their bytes, and what programs cut off them. -/

namespace Text

open ByteCodec

/-- To decide it is to go through the characters of the text, not through all that there are. -/
instance decidableForallCharacters (text : List Char) (holds : Char → Prop) [DecidablePred holds] :
    Decidable (∀ character ∈ text, holds character) := List.decidableBAll holds text

/-! ## ASCII -/

def isAscii (character : Char) : Bool := character.toNat < 128

def asciiByte (character : Char) : UInt8 := UInt8.ofNat character.toNat

def asciiChar (byte : UInt8) : Char := Char.ofNat byte.toNat

theorem toNat_asciiChar (byte : UInt8) : (asciiChar byte).toNat = byte.toNat := by
  have bound := byte.toNat_lt
  have valid : byte.toNat.isValidChar := .inl (by omega)
  rw [asciiChar, Char.ofNat, dif_pos valid]
  rfl

theorem asciiByte_asciiChar (byte : UInt8) : asciiByte (asciiChar byte) = byte := by
  rw [asciiByte, toNat_asciiChar, UInt8.ofNat_toNat]

theorem asciiChar_asciiByte {character : Char} (ascii : isAscii character = true) :
    asciiChar (asciiByte character) = character := by
  have small : character.toNat < 128 := by simpa [isAscii] using ascii
  apply Char.toNat_inj.mp
  rw [toNat_asciiChar, asciiByte, UInt8.toNat_ofNat']
  omega

theorem utf8EncodeChar_ascii {character : Char} (ascii : isAscii character = true) :
    String.utf8EncodeChar character = [asciiByte character] := by
  have small : character.toNat < 128 := by simpa [isAscii] using ascii
  have first : character.toNat ≤ 127 := by omega
  simp [String.utf8EncodeChar, first, asciiByte]

/-- `toByteArray`, `utf8` and `as_bytes` of a text. -/
def utf8 (text : List Char) : Bytes := text.flatMap String.utf8EncodeChar

theorem utf8_ascii {text : List Char} (ascii : ∀ character ∈ text, isAscii character = true) :
    utf8 text = text.map asciiByte := by
  induction text with
  | nil => rfl
  | cons character rest ih =>
    rw [utf8, List.flatMap_cons, utf8EncodeChar_ascii (ascii character List.mem_cons_self)]
    exact congrArg (asciiByte character :: ·)
      (ih fun other listed => ascii other (List.mem_cons_of_mem _ listed))

/-! ## Kinds of characters -/

def inRanges (ranges : List (Nat × Nat)) (value : Nat) : Bool :=
  ranges.any fun (low, high) => low ≤ value ∧ value ≤ high

/-- The Unicode property `White_Space`, which is also the set `whitespacesAndNewlines` of
Foundation. -/
def isWhiteSpace (character : Char) : Bool :=
  inRanges [(0x9, 0xd), (0x20, 0x20), (0x85, 0x85), (0xa0, 0xa0), (0x1680, 0x1680),
    (0x2000, 0x200a), (0x2028, 0x2029), (0x202f, 0x202f), (0x205f, 0x205f), (0x3000, 0x3000)]
      character.toNat

/-- `isWhitespace` of a Kotlin `Char`. -/
def isJvmWhitespace (value : Nat) : Bool :=
  inRanges [(0x9, 0xd), (0x1c, 0x20), (0xa0, 0xa0), (0x1680, 0x1680), (0x2000, 0x200a),
    (0x2028, 0x2029), (0x202f, 0x202f), (0x205f, 0x205f), (0x3000, 0x3000)] value

/-- General category Cc; `isISOControl` of a Kotlin `Char`. -/
def isControl (character : Char) : Bool := inRanges [(0x0, 0x1f), (0x7f, 0x9f)] character.toNat

/-- General category Cf. -/
def isFormat (character : Char) : Bool :=
  inRanges [(0xad, 0xad), (0x600, 0x605), (0x61c, 0x61c), (0x6dd, 0x6dd), (0x70f, 0x70f),
    (0x890, 0x891), (0x8e2, 0x8e2), (0x180e, 0x180e), (0x200b, 0x200f), (0x202a, 0x202e),
    (0x2060, 0x2064), (0x2066, 0x206f), (0xfeff, 0xfeff), (0xfff9, 0xfffb), (0x110bd, 0x110bd),
    (0x110cd, 0x110cd), (0x13430, 0x1343f), (0x1bca0, 0x1bca3), (0x1d173, 0x1d17a),
    (0xe0001, 0xe0001), (0xe0020, 0xe007f)] character.toNat

/-- Letters, digits and signs of ASCII. -/
def isGraphic (character : Char) : Bool := 0x21 ≤ character.toNat ∧ character.toNat ≤ 0x7e

theorem isGraphic_kinds {character : Char} (graphic : isGraphic character = true) :
    isAscii character = true ∧ isWhiteSpace character = false ∧
      isJvmWhitespace character.toNat = false ∧ isControl character = false ∧
      isFormat character = false := by
  have checked : ∀ value : Fin 127, 0x21 ≤ value.val → isWhiteSpace (Char.ofNat value) = false ∧
      isJvmWhitespace (Char.ofNat value).toNat = false ∧ isControl (Char.ofNat value) = false ∧
      isFormat (Char.ofNat value) = false := by decide
  simp only [isGraphic, decide_eq_true_eq] at graphic
  have found := checked ⟨character.toNat, by omega⟩ graphic.1
  rw [Char.ofNat_toNat] at found
  refine ⟨?_, found⟩
  simp only [isAscii, decide_eq_true_eq]
  omega

/-! ## Trimming -/

/-- The text without the spaces around it. -/
def strip (isSpace : Char → Bool) (text : List Char) : List Char :=
  (text.dropWhile isSpace).rdropWhile isSpace

theorem strip_eq_self {isSpace : Char → Bool} {text : List Char}
    (spaceless : ∀ character ∈ text, isSpace character = false) : strip isSpace text = text := by
  have front : text.dropWhile isSpace = text := by
    cases text with
    | nil => rfl
    | cons character rest =>
      rw [List.dropWhile_cons_of_neg (by simp [spaceless character List.mem_cons_self])]
  rw [strip, front, List.rdropWhile_eq_self_iff]
  intro filled
  simp [spaceless _ (List.getLast_mem filled)]

end Text
