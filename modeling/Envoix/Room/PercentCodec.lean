import Envoix.Foundation.Text
import Envoix.Room.Route

/-! # The grammar of percent escapes

`percent_encode` writes the escapes that its grammar knows, and `percent_decode` reads more: the
digits of an escape go to a parser of numbers, which also takes a sign in place of the first one. -/

namespace Envoix.Room

open ByteCodec Fallible Text

namespace PercentCodec

/-! ## The grammar -/

/-- What `character` counts for as a hexadecimal digit. -/
def hexDigitValue (character : Char) : Nat :=
  if '0' ≤ character ∧ character ≤ '9' then character.toNat - '0'.toNat
  else if 'A' ≤ character ∧ character ≤ 'F' then character.toNat - 'A'.toNat + 10
  else if 'a' ≤ character ∧ character ≤ 'f' then character.toNat - 'a'.toNat + 10
  else 0

def IsHexDigit (character : Char) : Prop :=
  ('0' ≤ character ∧ character ≤ '9') ∨ ('A' ≤ character ∧ character ≤ 'F') ∨
    ('a' ≤ character ∧ character ≤ 'f')

instance : DecidablePred IsHexDigit := fun _ => inferInstanceAs (Decidable (_ ∨ _ ∨ _))

def IsUpperHexDigit (character : Char) : Prop :=
  ('0' ≤ character ∧ character ≤ '9') ∨ ('A' ≤ character ∧ character ≤ 'F')

instance : DecidablePred IsUpperHexDigit := fun _ => inferInstanceAs (Decidable (_ ∨ _))

/-- The characters that stand for themselves in every part of a link. -/
def IsUnreserved (character : Char) : Prop :=
  ('0' ≤ character ∧ character ≤ '9') ∨ ('A' ≤ character ∧ character ≤ 'Z') ∨
    ('a' ≤ character ∧ character ≤ 'z') ∨ character ∈ ['-', '.', '_', '~']

instance : DecidablePred IsUnreserved := fun _ => inferInstanceAs (Decidable (_ ∨ _ ∨ _ ∨ _))

/-- Text of unreserved characters and of escapes with two upper-case digits. -/
inductive Emitted : List Char → Prop where
  | nil : Emitted []
  | unreserved {character : Char} {rest : List Char} (plain : IsUnreserved character)
      (more : Emitted rest) :
      Emitted (character :: rest)
  | escape {high low : Char} {rest : List Char} (upper : IsUpperHexDigit high ∧ IsUpperHexDigit low)
      (more : Emitted rest) : Emitted ('%' :: high :: low :: rest)

/-- Every percent sign of the text is followed by a `leading` character and a hexadecimal digit. -/
def Escapes (leading : Char → Prop) (text : List Char) : Prop :=
  ∀ before after, text = before ++ '%' :: after →
    ∃ high low rest, after = high :: low :: rest ∧ leading high ∧ IsHexDigit low

/-- The bytes that a text spells, each escape for one byte. -/
def spelled : List Char → Bytes
  | '%' :: high :: low :: rest =>
    UInt8.ofNat (16 * hexDigitValue high + hexDigitValue low) :: spelled rest
  | character :: rest => String.utf8EncodeChar character ++ spelled rest
  | [] => []

/-- The first place of an escape, as the parser of numbers reads it. -/
def IsDigitOrPlus (character : Char) : Prop := IsHexDigit character ∨ character = '+'

instance : DecidablePred IsDigitOrPlus := fun _ => inferInstanceAs (Decidable (_ ∨ _))

/-! ## Escapes of a text -/

section
variable {leading : Char → Prop}

theorem escapes_nil : Escapes leading [] := by
  intro before after same
  cases before with
  | nil => cases same
  | cons head tail => cases same

theorem escapes_cons_of_ne {character : Char} {rest : List Char} (plain : character ≠ '%') :
    Escapes leading (character :: rest) ↔ Escapes leading rest := by
  constructor
  · intro escapes before after same
    exact escapes (character :: before) after (by rw [same, List.cons_append])
  · intro escapes before after same
    cases before with
    | nil =>
      rw [List.nil_append, List.cons.injEq] at same
      exact absurd same.1 plain
    | cons head tail =>
      rw [List.cons_append, List.cons.injEq] at same
      exact escapes tail after same.2

theorem ne_percent_of_isHexDigit {character : Char} (digit : IsHexDigit character) :
    character ≠ '%' := by
  rintro rfl
  exact absurd digit (by decide)

theorem ne_percent_of_isDigitOrPlus {character : Char} (digit : IsDigitOrPlus character) :
    character ≠ '%' := by
  obtain digit | rfl := digit
  · exact ne_percent_of_isHexDigit digit
  · decide

theorem escapes_escape (apart : ∀ {character}, leading character → character ≠ '%')
    {high low : Char} {rest : List Char} :
    Escapes leading ('%' :: high :: low :: rest) ↔
      leading high ∧ IsHexDigit low ∧ Escapes leading rest := by
  constructor
  · intro escapes
    obtain ⟨_, _, _, same, leads, digit⟩ := escapes [] _ rfl
    simp only [List.cons.injEq] at same
    obtain ⟨rfl, rfl, rfl⟩ := same
    refine ⟨leads, digit, ?_⟩
    intro before after same
    exact escapes ('%' :: high :: low :: before) after (by rw [same]; rfl)
  · rintro ⟨leads, digit, escapes⟩ before after same
    have further := (escapes_cons_of_ne (apart leads)).mpr
      ((escapes_cons_of_ne (ne_percent_of_isHexDigit digit)).mpr escapes)
    cases before with
    | nil =>
      rw [List.nil_append, List.cons.injEq] at same
      exact ⟨high, low, rest, same.2.symm, leads, digit⟩
    | cons head tail =>
      rw [List.cons_append, List.cons.injEq] at same
      exact further tail after same.2

/-- No escape is cut short by the end of the text. -/
theorem not_escapes_short {text : List Char} (short : text.length < 2) :
    ¬ Escapes leading ('%' :: text) := by
  intro escapes
  obtain ⟨_, _, _, rfl, -, -⟩ := escapes [] text rfl
  simp at short

end

/-! ## Bytes of characters -/

/-- The character that a single byte stands for. -/
def byteChar (byte : UInt8) : Char := Char.ofNat byte.toNat

theorem toDigit_byteChar (byte : UInt8) :
    Invite.SocketAddr.toDigit 16 (byteChar byte) =
      if IsHexDigit (byteChar byte) then some (hexDigitValue (byteChar byte)) else none := by
  revert byte
  exact forall_byte (by set_option maxRecDepth 8000 in decide)

theorem isAscii_of_isDigitOrPlus {character : Char} (digit : IsDigitOrPlus character) :
    isAscii character = true := by
  have bounded {high : Char} (low : character ≤ high) (small : high.toNat < 128) :
      isAscii character = true := by
    have below : character.toNat ≤ high.toNat := low
    simp only [isAscii, decide_eq_true_eq]
    omega
  obtain (⟨-, below⟩ | ⟨-, below⟩ | ⟨-, below⟩) | rfl := digit
  · exact bounded below (by decide)
  · exact bounded below (by decide)
  · exact bounded below (by decide)
  · rfl

theorem not_isDigitOrPlus_byteChar {byte : UInt8} (large : 128 ≤ byte.toNat) :
    ¬ IsDigitOrPlus (byteChar byte) := by
  intro digit
  have ascii := isAscii_of_isDigitOrPlus digit
  simp only [isAscii, decide_eq_true_eq] at ascii
  have same : (byteChar byte).toNat = byte.toNat := toNat_asciiChar byte
  omega

/-- An escape is read when its places hold digits, or a sign and a digit. -/
theorem escapeValue_eq (high low : UInt8) :
    escapeValue high low =
      if IsDigitOrPlus (byteChar high) ∧ IsHexDigit (byteChar low) then
        some (UInt8.ofNat (16 * hexDigitValue (byteChar high) + hexDigitValue (byteChar low)))
      else none := by
  have first : high = 0x2b ↔ byteChar high = '+' := by
    revert high
    exact forall_byte (by set_option maxRecDepth 8000 in decide)
  have sign : hexDigitValue '+' = 0 ∧ ¬ IsHexDigit '+' := by decide
  simp only [escapeValue]
  rw [show Char.ofNat low.toNat = byteChar low from rfl,
    show Char.ofNat high.toNat = byteChar high from rfl, toDigit_byteChar, toDigit_byteChar]
  by_cases plus : high = 0x2b
  · rw [if_pos plus, first.mp plus, sign.1]
    by_cases digit : IsHexDigit (byteChar low)
    · rw [if_pos digit, if_pos ⟨.inr rfl, digit⟩]
      simp
    · rw [if_neg digit, if_neg fun both => digit both.2]
      rfl
  · rw [if_neg plus]
    have plain : byteChar high ≠ '+' := fun same => plus (first.mpr same)
    by_cases leads : IsHexDigit (byteChar high)
    · by_cases digit : IsHexDigit (byteChar low)
      · rw [if_pos leads, if_pos digit, if_pos ⟨.inl leads, digit⟩]
        rfl
      · rw [if_pos leads, if_neg digit, if_neg fun both => digit both.2]
        rfl
    · have none : ¬ (IsDigitOrPlus (byteChar high) ∧ IsHexDigit (byteChar low)) := fun both =>
        both.1.elim leads plain
      rw [if_neg leads, if_neg none]
      rfl

/-- A character beyond ASCII is written in bytes beyond ASCII. -/
theorem utf8EncodeChar_foreign {character : Char} (foreign : 128 ≤ character.toNat) :
    ∃ first more, String.utf8EncodeChar character = first :: more ∧
      ∀ byte ∈ first :: more, 128 ≤ byte.toNat := by
  have wide : ¬ character.val.toNat ≤ 0x7f := by
    show ¬ character.toNat ≤ 0x7f
    omega
  simp only [String.utf8EncodeChar, if_neg wide]
  split
  · refine ⟨_, _, rfl, ?_⟩
    simp only [List.mem_cons, List.not_mem_nil, or_false, forall_eq_or_imp, forall_eq,
      UInt8.toNat_ofNat']
    omega
  · split
    · refine ⟨_, _, rfl, ?_⟩
      simp only [List.mem_cons, List.not_mem_nil, or_false, forall_eq_or_imp, forall_eq,
        UInt8.toNat_ofNat']
      omega
    · refine ⟨_, _, rfl, ?_⟩
      simp only [List.mem_cons, List.not_mem_nil, or_false, forall_eq_or_imp, forall_eq,
        UInt8.toNat_ofNat']
      omega

/-- The first byte of a character tells the character, or that it is beyond ASCII. -/
theorem utf8EncodeChar_cases (character : Char) :
    (∃ byte, String.utf8EncodeChar character = [byte] ∧ byteChar byte = character) ∨
      ∃ first more, String.utf8EncodeChar character = first :: more ∧
        (∀ byte ∈ first :: more, 128 ≤ byte.toNat) ∧ ¬ IsDigitOrPlus character := by
  by_cases ascii : isAscii character = true
  · exact .inl ⟨_, utf8EncodeChar_ascii ascii, asciiChar_asciiByte ascii⟩
  · have foreign : 128 ≤ character.toNat := by
      simp only [isAscii, decide_eq_true_eq] at ascii
      omega
    obtain ⟨first, more, same, large⟩ := utf8EncodeChar_foreign foreign
    exact .inr ⟨first, more, same, large, fun digit => ascii (isAscii_of_isDigitOrPlus digit)⟩

theorem utf8EncodeChar_ne_percent {character : Char} (plain : character ≠ '%') :
    ∀ byte ∈ String.utf8EncodeChar character, byte ≠ 0x25 := by
  intro byte listed
  obtain ⟨single, same, back⟩ | ⟨first, more, same, large, -⟩ := utf8EncodeChar_cases character
  · rw [same, List.mem_singleton] at listed
    rintro rfl
    exact plain (back.symm.trans (congrArg byteChar listed.symm))
  · rw [same] at listed
    have beyond := large byte listed
    rintro rfl
    exact absurd beyond (by decide)

/-! ## What the decoder reads -/

theorem percentDecodeBytes_plain {bytes rest decoded : Bytes}
    (plain : ∀ byte ∈ bytes, byte ≠ 0x25) :
    percentDecodeBytes (bytes ++ rest) = .ok decoded ↔
      ∃ more, percentDecodeBytes rest = .ok more ∧ decoded = bytes ++ more := by
  induction bytes generalizing decoded with
  | nil => simp
  | cons byte bytes ih =>
    have apart := plain byte List.mem_cons_self
    have unfolded : percentDecodeBytes (byte :: (bytes ++ rest)) =
        (percentDecodeBytes (bytes ++ rest) >>= fun decoded => .ok (byte :: decoded)) := by
      rw [percentDecodeBytes, reject_of_not apart]
      · rfl
      · intro _ _ _ escape
        exact absurd escape apart
    rw [List.cons_append, unfolded, bind_eq_ok]
    constructor
    · rintro ⟨tail, read, written⟩
      obtain ⟨more, found, rfl⟩ :=
        (ih fun other listed => plain other (List.mem_cons_of_mem _ listed)).mp read
      cases written
      exact ⟨more, found, rfl⟩
    · rintro ⟨more, found, rfl⟩
      exact ⟨bytes ++ more,
        (ih fun other listed => plain other (List.mem_cons_of_mem _ listed)).mpr ⟨more, found, rfl⟩,
        rfl⟩

theorem percentDecodeBytes_escape {high low : UInt8} {rest decoded : Bytes} :
    percentDecodeBytes (0x25 :: high :: low :: rest) = .ok decoded ↔
      ∃ byte more, escapeValue high low = some byte ∧ percentDecodeBytes rest = .ok more ∧
        decoded = byte :: more := by
  rw [percentDecodeBytes]
  simp only [bind_eq_ok, okOr_eq_ok, pure_eq_ok]
  constructor
  · rintro ⟨byte, value, more, read, written⟩
    exact ⟨byte, more, value, read, written.symm⟩
  · rintro ⟨byte, more, value, read, written⟩
    exact ⟨byte, value, more, read, written.symm⟩

theorem not_percentDecodeBytes_short {bytes decoded : Bytes} (short : bytes.length < 2) :
    percentDecodeBytes (0x25 :: bytes) ≠ .ok decoded := by
  intro read
  have cut : percentDecodeBytes (0x25 :: bytes) =
      .error (.invalidInput "truncated percent escape") := by
    rw [percentDecodeBytes, reject_of rfl]
    · rfl
    · rintro high low rest - rfl
      simp at short
  rw [cut] at read
  cases read

/-- An escape whose first place is no digit and no sign is refused. -/
theorem not_percentDecodeBytes_foreign {first : UInt8} {rest decoded : Bytes}
    (bad : ¬ IsDigitOrPlus (byteChar first)) :
    percentDecodeBytes (0x25 :: first :: rest) ≠ .ok decoded := by
  cases rest with
  | nil => exact not_percentDecodeBytes_short (by simp)
  | cons second rest =>
    intro read
    obtain ⟨_, _, value, -, -⟩ := percentDecodeBytes_escape.mp read
    rw [escapeValue_eq, if_neg fun both => bad both.1] at value
    cases value

/-- What follows a percent sign, character by character. -/
theorem percentDecodeBytes_escaped {high low : Char} {rest decoded : Bytes} :
    percentDecodeBytes
      (0x25 :: (String.utf8EncodeChar high ++ (String.utf8EncodeChar low ++ rest))) = .ok decoded ↔
      IsDigitOrPlus high ∧ IsHexDigit low ∧ ∃ more, percentDecodeBytes rest = .ok more ∧
        decoded = UInt8.ofNat (16 * hexDigitValue high + hexDigitValue low) :: more := by
  obtain ⟨first, sameHigh, backHigh⟩ | ⟨first, more, sameHigh, large, foreign⟩ :=
    utf8EncodeChar_cases high
  · obtain ⟨second, sameLow, backLow⟩ | ⟨second, more, sameLow, large, foreign⟩ :=
      utf8EncodeChar_cases low
    · rw [sameHigh, sameLow]
      show percentDecodeBytes (0x25 :: first :: second :: rest) = .ok decoded ↔ _
      rw [percentDecodeBytes_escape, escapeValue_eq, backHigh, backLow]
      constructor
      · rintro ⟨byte, more, value, read, rfl⟩
        split at value
        case isTrue digits =>
          cases value
          exact ⟨digits.1, digits.2, more, read, rfl⟩
        case isFalse => cases value
      · rintro ⟨leads, digit, more, read, rfl⟩
        exact ⟨_, more, if_pos ⟨leads, digit⟩, read, rfl⟩
    · -- the second place starts a character beyond ASCII
      rw [sameHigh, sameLow]
      show percentDecodeBytes (0x25 :: first :: second :: (more ++ rest)) = .ok decoded ↔ _
      have bad : ¬ IsHexDigit (byteChar second) :=
        fun digit => not_isDigitOrPlus_byteChar (large second List.mem_cons_self) (.inl digit)
      rw [percentDecodeBytes_escape, escapeValue_eq, if_neg fun both => bad both.2]
      constructor
      · rintro ⟨_, _, value, -, -⟩
        cases value
      · rintro ⟨-, digit, -⟩
        exact absurd (.inl digit) foreign
  · rw [sameHigh]
    constructor
    · intro read
      exact absurd read
        (not_percentDecodeBytes_foreign
          (not_isDigitOrPlus_byteChar (large first List.mem_cons_self)))
    · rintro ⟨leads, -⟩
      exact absurd leads foreign

theorem percentDecodeBytes_utf8 (text : List Char) (decoded : Bytes) :
    percentDecodeBytes (utf8 text) = .ok decoded ↔
      Escapes IsDigitOrPlus text ∧ decoded = spelled text := by
  induction text using spelled.induct generalizing decoded with
  | case1 high low rest ih =>
    have bytes : utf8 ('%' :: high :: low :: rest) =
        0x25 :: (String.utf8EncodeChar high ++ (String.utf8EncodeChar low ++ utf8 rest)) := rfl
    rw [bytes, percentDecodeBytes_escaped, escapes_escape ne_percent_of_isDigitOrPlus, spelled]
    constructor
    · rintro ⟨leads, digit, more, read, rfl⟩
      obtain ⟨escapes, rfl⟩ := (ih more).mp read
      exact ⟨⟨leads, digit, escapes⟩, rfl⟩
    · rintro ⟨⟨leads, digit, escapes⟩, rfl⟩
      exact ⟨leads, digit, _, (ih _).mpr ⟨escapes, rfl⟩, rfl⟩
  | case2 character rest other ih =>
    have bytes : utf8 (character :: rest) = String.utf8EncodeChar character ++ utf8 rest := rfl
    by_cases percent : character = '%'
    · subst percent
      -- the text ends within the escape
      have short : rest.length < 2 := by
        cases rest with
        | nil => exact Nat.zero_lt_two
        | cons high tail =>
          cases tail with
          | nil => exact Nat.one_lt_two
          | cons low tail => exact absurd rfl (other high low tail rfl)
      constructor
      · intro read
        cases rest with
        | nil => exact absurd read (not_percentDecodeBytes_short (by decide))
        | cons high tail =>
          obtain rfl : tail = [] := by simpa using short
          obtain ⟨byte, same, -⟩ | ⟨first, more, same, large, -⟩ := utf8EncodeChar_cases high
          · have cut : utf8 ['%', high] = 0x25 :: [byte] := by
              show 0x25 :: (String.utf8EncodeChar high ++ []) = _
              rw [same]
              rfl
            rw [cut] at read
            exact absurd read (not_percentDecodeBytes_short (by simp))
          · have wide : utf8 ['%', high] = 0x25 :: first :: (more ++ []) := by
              show 0x25 :: (String.utf8EncodeChar high ++ []) = _
              rw [same]
              rfl
            rw [wide] at read
            exact absurd read
              (not_percentDecodeBytes_foreign
                (not_isDigitOrPlus_byteChar (large first List.mem_cons_self)))
      · rintro ⟨escapes, -⟩
        exact absurd escapes (not_escapes_short short)
    · rw [bytes, percentDecodeBytes_plain (utf8EncodeChar_ne_percent percent),
        escapes_cons_of_ne percent, spelled]
      · constructor
        · rintro ⟨more, read, rfl⟩
          obtain ⟨escapes, rfl⟩ := (ih more).mp read
          exact ⟨escapes, rfl⟩
        · rintro ⟨escapes, rfl⟩
          exact ⟨_, (ih _).mpr ⟨escapes, rfl⟩, rfl⟩
      · exact other
  | case3 =>
    constructor
    · intro read
      cases read
      exact ⟨escapes_nil, rfl⟩
    · rintro ⟨-, rfl⟩
      rfl

/-! ## The codec -/

theorem emitted_percentEncodeByte (byte : UInt8) {rest : List Char} (more : Emitted rest) :
    Emitted (percentEncodeByte byte ++ rest) := by
  have written : (percentEncodeByte byte = [byteChar byte] ∧ IsUnreserved (byteChar byte)) ∨
      percentEncodeByte byte =
        ['%', upperHexDigit (byte.toNat / 16), upperHexDigit (byte.toNat % 16)] ∧
        IsUpperHexDigit (upperHexDigit (byte.toNat / 16)) ∧
        IsUpperHexDigit (upperHexDigit (byte.toNat % 16)) := by
    revert byte
    exact forall_byte (by set_option maxRecDepth 8000 in decide)
  obtain ⟨same, plain⟩ | ⟨same, upper⟩ := written
  · rw [same]
    exact .unreserved plain more
  · rw [same]
    exact .escape upper more

theorem emitted_percentEncode (value : String) : Emitted (percentEncode value).toList := by
  rw [percentEncode, String.toList_ofList]
  induction asBytes value with
  | nil => exact .nil
  | cons byte bytes ih => exact emitted_percentEncodeByte byte ih

/-- The encoder keeps to the grammar and is undone by the decoder; the decoder reads exactly the
texts whose percent signs start an escape of two digits, or of a plus sign and a digit, and which
spell UTF-8. -/
theorem percent_codec_grammar (value text decoded : String) :
    percentDecode (percentEncode value) = .ok value ∧ Emitted (percentEncode value).toList ∧
      (percentDecode text = .ok decoded ↔
        Escapes IsDigitOrPlus text.toList ∧ fromUtf8 (spelled text.toList) = some decoded) := by
  refine ⟨percentDecode_percentEncode value, emitted_percentEncode value, ?_⟩
  have bytes : asBytes text = utf8 text.toList := by
    conv_lhs => rw [← String.ofList_toList (s := text)]
    exact asBytes_ofList text.toList
  rw [percentDecode, bytes]
  simp only [bind_eq_ok, percentDecodeBytes_utf8, okOr_eq_ok]
  constructor
  · rintro ⟨_, ⟨escapes, rfl⟩, found⟩
    exact ⟨escapes, found⟩
  · rintro ⟨escapes, found⟩
    exact ⟨_, ⟨escapes, rfl⟩, found⟩

/-- The sign that the parser of numbers takes. -/
example : percentDecode "%+5" = .ok "\x05" ∧ ¬ Escapes IsHexDigit "%+5".toList := by
  refine ⟨by decide, fun escapes => ?_⟩
  obtain ⟨_, _, _, same, digit, -⟩ := escapes [] _ rfl
  cases same
  exact absurd digit (by decide)

end PercentCodec

end Envoix.Room
