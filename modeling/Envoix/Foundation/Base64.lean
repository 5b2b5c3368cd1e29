import Envoix.Foundation.ByteCodec

/-! # Base64url without padding

What a program may rely on in an engine that is strict about trailing bits, and the alphabet and the
groups of RFC 4648 as an engine that keeps it. -/

open ByteCodec

/-- A strict engine: it decodes what it encoded, and nothing else. -/
structure Base64Url where
  encode : Bytes → String
  decode : String → Option Bytes
  decode_encode : ∀ bytes, decode (encode bytes) = some bytes
  encode_decode : ∀ {text bytes}, decode text = some bytes → encode bytes = text
  unpadded : ∀ bytes, '=' ∉ (encode bytes).toList
  encode_ne_empty : ∀ {bytes}, bytes ≠ [] → encode bytes ≠ ""

namespace Base64

/-! ## The alphabet -/

def alphabet : List Char :=
  "ABCDEFGHIJKLMNOPQRSTUVWXYZabcdefghijklmnopqrstuvwxyz0123456789-_".toList

def digit (value : Nat) : Char := alphabet.getD value 'A'

def digitValue (character : Char) : Option Nat :=
  (List.range 64).find? fun value => digit value = character

theorem digitValue_digit : ∀ value < 64, digitValue (digit value) = some value := by
  set_option maxRecDepth 8000 in decide

theorem digitValue_eq_some {character : Char} {value : Nat}
    (found : digitValue character = some value) :
    value < 64 ∧ digit value = character := by
  have listed := List.mem_range.mp (List.mem_of_find?_eq_some found)
  have same := List.find?_some found
  exact ⟨listed, by simpa using same⟩

theorem digit_ne_pad : ∀ value < 64, digit value ≠ '=' := by set_option maxRecDepth 8000 in decide

/-! ## Groups -/

/-- Three bytes in four digits; a group at the end has two digits for one byte, three for two. -/
def encodeChars : Bytes → List Char
  | first :: second :: third :: rest =>
    digit (first.toNat / 4) :: digit (first.toNat % 4 * 16 + second.toNat / 16) ::
      digit (second.toNat % 16 * 4 + third.toNat / 64) :: digit (third.toNat % 64) ::
      encodeChars rest
  | [first, second] =>
    [digit (first.toNat / 4), digit (first.toNat % 4 * 16 + second.toNat / 16),
      digit (second.toNat % 16 * 4)]
  | [first] => [digit (first.toNat / 4), digit (first.toNat % 4 * 16)]
  | [] => []

/-- Bits that no byte takes must be zero. -/
def decodeChars : List Char → Option Bytes
  | first :: second :: third :: fourth :: rest => do
    let first ← digitValue first
    let second ← digitValue second
    let third ← digitValue third
    let fourth ← digitValue fourth
    let rest ← decodeChars rest
    return UInt8.ofNat (first * 4 + second / 16) :: UInt8.ofNat (second % 16 * 16 + third / 4) ::
      UInt8.ofNat (third % 4 * 64 + fourth) :: rest
  | [first, second, third] => do
    let first ← digitValue first
    let second ← digitValue second
    let third ← digitValue third
    if third % 4 = 0 then
      return [UInt8.ofNat (first * 4 + second / 16), UInt8.ofNat (second % 16 * 16 + third / 4)]
    else none
  | [first, second] => do
    let first ← digitValue first
    let second ← digitValue second
    if second % 16 = 0 then return [UInt8.ofNat (first * 4 + second / 16)] else none
  | [_] => none
  | [] => some []

theorem ofNat_of_eq {byte : UInt8} {value : Nat} (same : value = byte.toNat) :
    UInt8.ofNat value = byte := by
  rw [same]
  exact UInt8.ofNat_toNat

theorem decodeChars_encodeChars (bytes : Bytes) : decodeChars (encodeChars bytes) = some bytes := by
  fun_induction encodeChars bytes with
  | case1 first second third rest ih =>
    have bounds := And.intro first.toNat_lt (And.intro second.toNat_lt third.toNat_lt)
    simp only [decodeChars, ih, digitValue_digit _ (show first.toNat / 4 < 64 by omega),
      digitValue_digit _ (show first.toNat % 4 * 16 + second.toNat / 16 < 64 by omega),
      digitValue_digit _ (show second.toNat % 16 * 4 + third.toNat / 64 < 64 by omega),
      digitValue_digit _ (show third.toNat % 64 < 64 by omega), Option.bind_eq_bind,
      Option.bind_some]
    rw [@ofNat_of_eq first _ (by omega), @ofNat_of_eq second _ (by omega),
      @ofNat_of_eq third _ (by omega)]
    rfl
  | case2 first second =>
    have bounds := And.intro first.toNat_lt second.toNat_lt
    simp only [decodeChars, digitValue_digit _ (show first.toNat / 4 < 64 by omega),
      digitValue_digit _ (show first.toNat % 4 * 16 + second.toNat / 16 < 64 by omega),
      digitValue_digit _ (show second.toNat % 16 * 4 < 64 by omega), Option.bind_eq_bind,
      Option.bind_some]
    rw [if_pos (by omega), @ofNat_of_eq first _ (by omega), @ofNat_of_eq second _ (by omega)]
    rfl
  | case3 first =>
    have bounds := first.toNat_lt
    simp only [decodeChars, digitValue_digit _ (show first.toNat / 4 < 64 by omega),
      digitValue_digit _ (show first.toNat % 4 * 16 < 64 by omega), Option.bind_eq_bind,
      Option.bind_some]
    rw [if_pos (by omega), @ofNat_of_eq first _ (by omega)]
    rfl
  | case4 => rfl

theorem encodeChars_decodeChars {text : List Char} {bytes : Bytes}
    (decoded : decodeChars text = some bytes) :
    encodeChars bytes = text := by
  fun_induction decodeChars text generalizing bytes with
  | case1 first second third fourth rest ih =>
    simp only [Option.bind_eq_bind, Option.bind_eq_some_iff] at decoded
    obtain ⟨a, foundA, b, foundB, c, foundC, d, foundD, more, decodedRest, same⟩ := decoded
    cases same
    obtain ⟨boundA, rfl⟩ := digitValue_eq_some foundA
    obtain ⟨boundB, rfl⟩ := digitValue_eq_some foundB
    obtain ⟨boundC, rfl⟩ := digitValue_eq_some foundC
    obtain ⟨boundD, rfl⟩ := digitValue_eq_some foundD
    simp only [encodeChars, UInt8.toNat_ofNat', ih decodedRest]
    congr 1
    · congr 1
      omega
    congr 1
    · congr 1
      omega
    congr 1
    · congr 1
      omega
    congr 1
    congr 1
    omega
  | case2 first second third =>
    simp only [Option.bind_eq_bind, Option.bind_eq_some_iff] at decoded
    obtain ⟨a, foundA, b, foundB, c, foundC, rest⟩ := decoded
    split at rest
    next aligned =>
      cases rest
      obtain ⟨boundA, rfl⟩ := digitValue_eq_some foundA
      obtain ⟨boundB, rfl⟩ := digitValue_eq_some foundB
      obtain ⟨boundC, rfl⟩ := digitValue_eq_some foundC
      simp only [encodeChars, UInt8.toNat_ofNat']
      congr 1
      · congr 1
        omega
      congr 1
      · congr 1
        omega
      congr 2
      omega
    next => cases rest
  | case3 first second =>
    simp only [Option.bind_eq_bind, Option.bind_eq_some_iff] at decoded
    obtain ⟨a, foundA, b, foundB, rest⟩ := decoded
    split at rest
    next aligned =>
      cases rest
      obtain ⟨boundA, rfl⟩ := digitValue_eq_some foundA
      obtain ⟨boundB, rfl⟩ := digitValue_eq_some foundB
      simp only [encodeChars, UInt8.toNat_ofNat']
      congr 1
      · congr 1
        omega
      congr 2
      omega
    next => cases rest
  | case4 => cases decoded
  | case5 =>
    cases decoded
    rfl

theorem mem_encodeChars {bytes : Bytes} {character : Char}
    (listed : character ∈ encodeChars bytes) :
    ∃ value < 64, character = digit value := by
  fun_induction encodeChars bytes with
  | case1 first second third rest ih =>
    have bounds := And.intro first.toNat_lt (And.intro second.toNat_lt third.toNat_lt)
    simp only [List.mem_cons] at listed
    rcases listed with rfl | rfl | rfl | rfl | listed
    · exact ⟨_, by omega, rfl⟩
    · exact ⟨_, by omega, rfl⟩
    · exact ⟨_, by omega, rfl⟩
    · exact ⟨_, by omega, rfl⟩
    · exact ih listed
  | case2 first second =>
    have bounds := And.intro first.toNat_lt second.toNat_lt
    simp only [List.mem_cons, List.not_mem_nil, or_false] at listed
    rcases listed with rfl | rfl | rfl
    · exact ⟨_, by omega, rfl⟩
    · exact ⟨_, by omega, rfl⟩
    · exact ⟨_, by omega, rfl⟩
  | case3 first =>
    have bounds := first.toNat_lt
    simp only [List.mem_cons, List.not_mem_nil, or_false] at listed
    rcases listed with rfl | rfl
    · exact ⟨_, by omega, rfl⟩
    · exact ⟨_, by omega, rfl⟩
  | case4 => cases listed

theorem length_encodeChars (bytes : Bytes) : (encodeChars bytes).length ≤ 2 * bytes.length := by
  fun_induction encodeChars bytes with
  | case1 first second third rest ih =>
    simp only [List.length_cons]
    omega
  | case2 first second => simp
  | case3 first => simp
  | case4 => simp

/-- The engine of RFC 4648. -/
def rfc4648 : Base64Url where
  encode bytes := String.ofList (encodeChars bytes)
  decode text := decodeChars text.toList
  decode_encode bytes := by
    rw [String.toList_ofList]
    exact decodeChars_encodeChars bytes
  encode_decode := by
    intro text bytes decoded
    rw [encodeChars_decodeChars decoded, String.ofList_toList]
  unpadded bytes := by
    rw [String.toList_ofList]
    intro padded
    obtain ⟨value, bound, same⟩ := mem_encodeChars padded
    exact digit_ne_pad value bound same.symm
  encode_ne_empty := by
    intro bytes filled same
    have read := decodeChars_encodeChars bytes
    rw [← @String.toList_ofList (encodeChars bytes), same] at read
    exact filled (Option.some.inj read).symm

/-! ## The standard alphabet -/

def standardDigit (character : Char) : Char :=
  if character = '-' then '+' else if character = '_' then '/' else character

/-- Base64 with the standard alphabet and padding. -/
def standardChars (bytes : Bytes) : List Char :=
  let digits := (encodeChars bytes).map standardDigit
  digits ++ List.replicate ((4 - digits.length % 4) % 4) '='

def urlDigit (character : Char) : Char :=
  if character = '+' then '-' else if character = '/' then '_' else character

theorem urlDigit_standardDigit : ∀ value < 64,
    urlDigit (standardDigit (digit value)) = digit value ∧ standardDigit (digit value) ≠ '=' := by
  set_option maxRecDepth 8000 in decide

/-- Without the padding and in the other alphabet, the text is base64url. -/
theorem map_filter_standardChars (bytes : Bytes) :
    ((standardChars bytes).filter (· ≠ '=')).map urlDigit = encodeChars bytes := by
  have kept : ∀ character ∈ encodeChars bytes,
      urlDigit (standardDigit character) = character ∧ standardDigit character ≠ '=' := by
    intro character listed
    obtain ⟨value, bound, rfl⟩ := mem_encodeChars listed
    exact urlDigit_standardDigit value bound
  have digits : ((encodeChars bytes).map standardDigit).filter (· ≠ '=') =
      (encodeChars bytes).map standardDigit := by
    rw [List.filter_eq_self]
    intro character listed
    obtain ⟨digit, found, rfl⟩ := List.mem_map.mp listed
    simpa using (kept digit found).2
  have padding : ∀ count, (List.replicate count '=').filter (· ≠ '=') = [] := by simp
  rw [standardChars, List.filter_append, digits, padding, List.append_nil, List.map_map]
  exact (List.map_congr_left fun character listed => (kept character listed).1).trans
    (List.map_id _)

/-- Three bytes take four characters; one or two bytes at the end take one more each. -/
theorem length_encodeChars_eq (bytes : Bytes) :
    (encodeChars bytes).length = (bytes.length * 4 + 2) / 3 := by
  fun_induction encodeChars bytes with
  | case1 first second third rest ih =>
    simp only [List.length_cons, ih]
    omega
  | case2 first second => simp
  | case3 first => simp
  | case4 => simp

theorem length_encode (bytes : Bytes) :
    (asBytes (rfc4648.encode bytes)).length ≤ 8 * bytes.length := by
  have text := length_asBytes_ofList (encodeChars bytes)
  have digits := length_encodeChars bytes
  show (asBytes (String.ofList (encodeChars bytes))).length ≤ _
  omega

end Base64
