import Envoix.Foundation.ByteCodec

/-! # Canonical JSON text

The minimal text of a JSON value whose objects list their fields in key order: no white space, the
short escapes, decimal numbers.  A reader of this text inverts the writer, so that the text
determines the value. -/

namespace Json

open ByteCodec

inductive Value where
  | null
  | bool (value : Bool)
  | number (value : Nat)
  | string (value : String)
  | array (elements : List Value)
  | object (fields : List (String × Value))

/-! ## Writing -/

def hexDigit (value : Nat) : UInt8 :=
  if value < 10 then UInt8.ofNat (0x30 + value) else UInt8.ofNat (0x61 + value - 10)

/-- The letter of the short escape of a byte. -/
def shortEscape (byte : UInt8) : Option UInt8 :=
  if byte = 0x22 then some 0x22
  else if byte = 0x5c then some 0x5c
  else if byte = 0x08 then some 0x62
  else if byte = 0x0c then some 0x66
  else if byte = 0x0a then some 0x6e
  else if byte = 0x0d then some 0x72
  else if byte = 0x09 then some 0x74
  else none

/-- Bytes of characters beyond ASCII are written as they are. -/
def escape (byte : UInt8) : Bytes :=
  match shortEscape byte with
  | some letter => [0x5c, letter]
  | none =>
    if byte < 0x20 then
      [0x5c, 0x75, 0x30, 0x30, hexDigit (byte.toNat / 16), hexDigit (byte.toNat % 16)]
    else [byte]

def renderString (text : String) : Bytes := 0x22 :: ((asBytes text).flatMap escape ++ [0x22])

def digitByte (digit : Char) : UInt8 := UInt8.ofNat digit.toNat

def renderNumber (value : Nat) : Bytes := (Nat.toDigits 10 value).map digitByte

mutual

def render : Value → Bytes
  | .null => [0x6e, 0x75, 0x6c, 0x6c]
  | .bool true => [0x74, 0x72, 0x75, 0x65]
  | .bool false => [0x66, 0x61, 0x6c, 0x73, 0x65]
  | .number value => renderNumber value
  | .string value => renderString value
  | .array elements => 0x5b :: (renderElements elements ++ [0x5d])
  | .object fields => 0x7b :: (renderFields fields ++ [0x7d])

def renderElements : List Value → Bytes
  | [] => []
  | element :: rest => render element ++ renderMoreElements rest

def renderMoreElements : List Value → Bytes
  | [] => []
  | element :: rest => 0x2c :: (render element ++ renderMoreElements rest)

def renderFields : List (String × Value) → Bytes
  | [] => []
  | (key, value) :: rest => renderString key ++ 0x3a :: (render value ++ renderMoreFields rest)

def renderMoreFields : List (String × Value) → Bytes
  | [] => []
  | (key, value) :: rest =>
    0x2c :: (renderString key ++ 0x3a :: (render value ++ renderMoreFields rest))

end

/-! ## Reading -/

def hexValue (digit : UInt8) : Option Nat :=
  (List.range 16).find? fun value => hexDigit value = digit

/-- The byte behind a short escape. -/
def unescape (letter : UInt8) : Option UInt8 :=
  if letter = 0x22 then some 0x22
  else if letter = 0x5c then some 0x5c
  else if letter = 0x62 then some 0x08
  else if letter = 0x66 then some 0x0c
  else if letter = 0x6e then some 0x0a
  else if letter = 0x72 then some 0x0d
  else if letter = 0x74 then some 0x09
  else none

/-- One byte of a string and what follows it; none at the closing quote. -/
def readByte : Bytes → Option (UInt8 × Bytes)
  | [] => none
  | first :: rest =>
    if first = 0x22 then none
    else if first = 0x5c then
      match rest with
      | [] => none
      | letter :: rest =>
        if letter = 0x75 then
          match rest with
          | 0x30 :: 0x30 :: high :: low :: rest => do
            let high ← hexValue high
            let low ← hexValue low
            return (UInt8.ofNat (16 * high + low), rest)
          | _ => none
        else (unescape letter).map fun byte => (byte, rest)
    else some (first, rest)

/-- The rest of a string after its opening quote.  The length of the text is enough fuel. -/
def readString : Nat → Bytes → Option (Bytes × Bytes)
  | 0, _ => none
  | fuel + 1, bytes =>
    if bytes.head? = some 0x22 then some ([], bytes.tail)
    else do
      let (byte, rest) ← readByte bytes
      let (text, rest) ← readString fuel rest
      return (byte :: text, rest)

/-- A string after its opening quote. -/
def readText (bytes : Bytes) : Option (String × Bytes) := do
  let (text, rest) ← readString (bytes.length + 1) bytes
  let text ← fromUtf8 text
  return (text, rest)

def isDigit (byte : UInt8) : Bool := 0x30 ≤ byte && byte ≤ 0x39

def readNumber (bytes : Bytes) : Value × Bytes :=
  let (digits, rest) := bytes.span isDigit
  (.number (Nat.ofDigitChars 10 (digits.map fun digit => Char.ofNat digit.toNat) 0), rest)

def readLiteral : Bytes → Option (Value × Bytes)
  | 0x6e :: 0x75 :: 0x6c :: 0x6c :: rest => some (.null, rest)
  | 0x74 :: 0x72 :: 0x75 :: 0x65 :: rest => some (.bool true, rest)
  | 0x66 :: 0x61 :: 0x6c :: 0x73 :: 0x65 :: rest => some (.bool false, rest)
  | _ => none

mutual

/-- The value at the head of a text.  The length of the text is enough fuel. -/
def readValue : Nat → Bytes → Option (Value × Bytes)
  | 0, _ => none
  | _ + 1, [] => none
  | fuel + 1, head :: rest =>
    if head = 0x22 then do
      let (text, rest) ← readText rest
      return (.string text, rest)
    else if head = 0x5b then do
      let (elements, rest) ← readElements fuel rest
      return (.array elements, rest)
    else if head = 0x7b then do
      let (fields, rest) ← readFields fuel rest
      return (.object fields, rest)
    else if isDigit head then some (readNumber (head :: rest))
    else readLiteral (head :: rest)

def readElements : Nat → Bytes → Option (List Value × Bytes)
  | 0, _ => none
  | fuel + 1, bytes =>
    if bytes.head? = some 0x5d then some ([], bytes.tail)
    else do
      let (element, rest) ← readValue fuel bytes
      let (elements, rest) ← readMoreElements fuel rest
      return (element :: elements, rest)

def readMoreElements : Nat → Bytes → Option (List Value × Bytes)
  | 0, _ => none
  | fuel + 1, bytes =>
    if bytes.head? = some 0x5d then some ([], bytes.tail)
    else if bytes.head? = some 0x2c then do
      let (element, rest) ← readValue fuel bytes.tail
      let (elements, rest) ← readMoreElements fuel rest
      return (element :: elements, rest)
    else none

def readField : Nat → Bytes → Option ((String × Value) × Bytes)
  | 0, _ => none
  | fuel + 1, bytes =>
    if bytes.head? = some 0x22 then do
      let (key, rest) ← readText bytes.tail
      if rest.head? = some 0x3a then do
        let (value, rest) ← readValue fuel rest.tail
        return ((key, value), rest)
      else none
    else none

def readFields : Nat → Bytes → Option (List (String × Value) × Bytes)
  | 0, _ => none
  | fuel + 1, bytes =>
    if bytes.head? = some 0x7d then some ([], bytes.tail)
    else do
      let (field, rest) ← readField fuel bytes
      let (fields, rest) ← readMoreFields fuel rest
      return (field :: fields, rest)

def readMoreFields : Nat → Bytes → Option (List (String × Value) × Bytes)
  | 0, _ => none
  | fuel + 1, bytes =>
    if bytes.head? = some 0x7d then some ([], bytes.tail)
    else if bytes.head? = some 0x2c then do
      let (field, rest) ← readField fuel bytes.tail
      let (fields, rest) ← readMoreFields fuel rest
      return (field :: fields, rest)
    else none

end

/-- A text that is one value and nothing more. -/
def fromSlice (bytes : Bytes) : Option Value := do
  let (value, rest) ← readValue bytes.length bytes
  if rest = [] then some value else none

/-! ## Strings and numbers -/

theorem hexValue_hexDigit : ∀ value < 16, hexValue (hexDigit value) = some value := by decide

theorem unescape_of_shortEscape {byte letter : UInt8} (short : shortEscape byte = some letter) :
    unescape letter = some byte ∧ letter ≠ 0x75 := by
  unfold shortEscape at short
  split_ifs at short with quote slash back feed line ret tab
  all_goals
    cases short
    refine ⟨?_, by decide⟩
  · rw [quote]
    rfl
  · rw [slash]
    rfl
  · rw [back]
    rfl
  · rw [feed]
    rfl
  · rw [line]
    rfl
  · rw [ret]
    rfl
  · rw [tab]
    rfl

theorem readByte_escape (byte : UInt8) (rest : Bytes) :
    (escape byte ++ rest).head? ≠ some 0x22 ∧
      readByte (escape byte ++ rest) = some (byte, rest) := by
  unfold escape
  cases short : shortEscape byte with
  | some letter =>
    obtain ⟨back, notUnicode⟩ := unescape_of_shortEscape short
    simp [readByte, back, notUnicode]
  | none =>
    simp only
    split
    next control =>
      have bound : byte.toNat < 32 := control
      have high := hexValue_hexDigit (byte.toNat / 16) (by omega)
      have low := hexValue_hexDigit (byte.toNat % 16) (by omega)
      have back : UInt8.ofNat (16 * (byte.toNat / 16) + byte.toNat % 16) = byte := by
        rw [Nat.div_add_mod]
        exact UInt8.ofNat_toNat
      refine ⟨by simp, ?_⟩
      simp only [List.cons_append, List.nil_append, readByte, high, low, Option.bind_eq_bind,
        Option.bind_some, back]
      rfl
    next =>
      -- neither a quote nor a backslash: both have a short escape
      have notQuote : byte ≠ 0x22 := by
        intro same
        rw [same] at short
        cases short
      have notSlash : byte ≠ 0x5c := by
        intro same
        rw [same] at short
        cases short
      simp [readByte, notQuote, notSlash]

theorem readString_render (text rest : Bytes) {fuel : Nat} (enough : text.length < fuel) :
    readString fuel (text.flatMap escape ++ 0x22 :: rest) = some (text, rest) := by
  induction text generalizing fuel with
  | nil =>
    cases fuel with
    | zero => cases enough
    | succ fuel => rfl
  | cons byte text ih =>
    cases fuel with
    | zero => cases enough
    | succ fuel =>
      obtain ⟨goesOn, read⟩ := readByte_escape byte (text.flatMap escape ++ 0x22 :: rest)
      rw [List.flatMap_cons, List.append_assoc, readString, if_neg goesOn, read]
      simp [ih (Nat.lt_of_succ_lt_succ enough)]

theorem length_le_flatMap_escape (text : Bytes) : text.length ≤ (text.flatMap escape).length := by
  induction text with
  | nil => exact Nat.le_refl _
  | cons byte text ih =>
    have some : 0 < (escape byte).length := by
      unfold escape
      split
      · exact Nat.succ_pos _
      · split <;> exact Nat.succ_pos _
    rw [List.flatMap_cons, List.length_append, List.length_cons]
    omega

theorem readText_render (text : String) (rest : Bytes) :
    readText ((asBytes text).flatMap escape ++ 0x22 :: rest) = some (text, rest) := by
  have long := length_le_flatMap_escape (asBytes text)
  have read := readString_render (asBytes text) rest
    (show (asBytes text).length < ((asBytes text).flatMap escape ++ 0x22 :: rest).length + 1 by
      rw [List.length_append]
      omega)
  have valid : fromUtf8 (asBytes text) = some text := fromUtf8_eq_some.mpr rfl
  rw [readText, read]
  simp [valid]

/-- What follows a number in a text does not go on with it. -/
def Ends (rest : Bytes) : Prop := ∀ head ∈ rest.head?, isDigit head = false

theorem digitByte_ok {digit : Char} (decimal : digit.isDigit = true) :
    isDigit (digitByte digit) = true ∧ Char.ofNat (digitByte digit).toNat = digit := by
  have each : ∀ value < 58, 48 ≤ value → isDigit (digitByte (Char.ofNat value)) = true ∧
      Char.ofNat (digitByte (Char.ofNat value)).toNat = Char.ofNat value := by decide
  have bounds : 48 ≤ digit.toNat ∧ digit.toNat ≤ 57 := Char.isDigit_iff_toNat.mp decimal
  have same : Char.ofNat digit.toNat = digit := Char.ofNat_toNat digit
  rw [← same]
  exact each digit.toNat (by omega) (by omega)

theorem toDigits_ok {value : Nat} {digit : Char} (listed : digit ∈ Nat.toDigits 10 value) :
    digit.isDigit = true :=
  Nat.isDigit_of_mem_toDigits (by decide) (by decide) listed

theorem readNumber_render (value : Nat) {rest : Bytes} (ends : Ends rest) :
    readNumber (renderNumber value ++ rest) = (.number value, rest) := by
  have digits : ∀ byte ∈ renderNumber value, isDigit byte = true := by
    intro byte listed
    obtain ⟨digit, found, rfl⟩ := List.mem_map.mp listed
    exact (digitByte_ok (toDigits_ok found)).1
  have split : (renderNumber value ++ rest).span isDigit = (renderNumber value, rest) := by
    rw [List.span_eq_takeWhile_dropWhile, List.takeWhile_append_of_pos digits,
      List.dropWhile_append_of_pos digits]
    cases rest with
    | nil => simp
    | cons head rest =>
      have stops : isDigit head = false := ends head rfl
      simp [stops]
  have back : (renderNumber value).map (fun digit => Char.ofNat digit.toNat) =
      Nat.toDigits 10 value := by
    rw [renderNumber, List.map_map]
    conv_rhs => rw [← List.map_id (Nat.toDigits 10 value)]
    apply List.map_congr_left
    intro digit found
    exact (digitByte_ok (toDigits_ok found)).2
  rw [readNumber, split]
  simp only [back, Nat.ofDigitChars_ten_toDigits]

/-! ## Reading what was written -/

theorem digit_head (value : Nat) : ∃ head more, renderNumber value = head :: more ∧
    isDigit head = true := by
  cases digits : Nat.toDigits 10 value with
  | nil => exact absurd digits Nat.toDigits_ne_nil
  | cons head more =>
    have listed : head ∈ Nat.toDigits 10 value := by
      rw [digits]
      exact List.mem_cons_self
    refine ⟨digitByte head, more.map digitByte, ?_, (digitByte_ok (toDigits_ok listed)).1⟩
    rw [renderNumber, digits]
    rfl

theorem length_render_pos (value : Value) : 0 < (render value).length := by
  cases value with
  | bool value => cases value <;> simp [render]
  | number value =>
    obtain ⟨head, more, digits, _⟩ := digit_head value
    rw [render, digits]
    exact Nat.succ_pos _
  | _ => simp [render, renderString]

/-- A value starts with no closing bracket. -/
theorem head?_render (value : Value) (rest : Bytes) : (render value ++ rest).head? ≠ some 0x5d := by
  cases value with
  | bool value => cases value <;> simp [render]
  | number value =>
    obtain ⟨head, more, digits, decimal⟩ := digit_head value
    intro same
    rw [render, digits] at same
    cases same
    cases decimal
  | _ => simp [render, renderString]

theorem ends_moreElements (elements : List Value) (rest : Bytes) :
    Ends (renderMoreElements elements ++ 0x5d :: rest) := by
  intro head first
  cases elements with
  | nil =>
    cases first
    rfl
  | cons element elements =>
    cases first
    rfl

theorem ends_moreFields (fields : List (String × Value)) (rest : Bytes) :
    Ends (renderMoreFields fields ++ 0x7d :: rest) := by
  intro head first
  cases fields with
  | nil =>
    cases first
    rfl
  | cons field fields =>
    cases first
    rfl

mutual

theorem readValue_render : ∀ (value : Value) {fuel : Nat} {rest : Bytes},
    (render value).length ≤ fuel →
    Ends rest → readValue fuel (render value ++ rest) = some (value, rest)
  | value, 0, _, enough, _ => by
    have long := length_render_pos value
    omega
  | .null, _ + 1, _, _, _ => rfl
  | .bool true, _ + 1, _, _, _ => rfl
  | .bool false, _ + 1, _, _, _ => rfl
  | .number value, fuel + 1, rest, _, ends => by
    obtain ⟨head, more, digits, decimal⟩ := digit_head value
    have first : render (.number value) ++ rest = head :: (more ++ rest) := by
      rw [render, digits]
      rfl
    have read : readNumber (head :: (more ++ rest)) = (.number value, rest) := by
      rw [← readNumber_render value ends, digits]
      rfl
    -- a digit is none of the other heads
    have other : ∀ {byte : UInt8}, isDigit byte = false → head ≠ byte := by
      intro byte notDigit same
      rw [same, notDigit] at decimal
      cases decimal
    rw [first]
    unfold readValue
    rw [if_neg (other (by decide)), if_neg (other (by decide)), if_neg (other (by decide)),
      if_pos decimal, read]
  | .string value, fuel + 1, rest, _, _ => by
    simp [render, renderString, readValue, readText_render]
  | .array elements, fuel + 1, rest, enough, _ => by
    have inner : (renderElements elements).length + 1 ≤ fuel := by
      simp only [render, List.length_cons, List.length_append, List.length_nil] at enough
      omega
    simp [render, readValue, readElements_render elements inner]
  | .object fields, fuel + 1, rest, enough, _ => by
    have inner : (renderFields fields).length + 1 ≤ fuel := by
      simp only [render, List.length_cons, List.length_append, List.length_nil] at enough
      omega
    simp [render, readValue, readFields_render fields inner]

theorem readElements_render : ∀ (elements : List Value) {fuel : Nat} {rest : Bytes},
    (renderElements elements).length + 1 ≤ fuel →
    readElements fuel (renderElements elements ++ 0x5d :: rest) = some (elements, rest)
  | [], fuel + 1, rest, _ => rfl
  | element :: elements, fuel + 1, rest, enough => by
    simp only [renderElements, List.length_append] at enough
    have long := length_render_pos element
    have first :=
      @readValue_render element fuel (renderMoreElements elements ++ 0x5d :: rest) (by omega)
      (ends_moreElements elements rest)
    have more := @readMoreElements_render elements fuel rest (by omega)
    simp only [renderElements, List.append_assoc, readElements, if_neg (head?_render element _),
      first, more, Option.bind_eq_bind, Option.bind_some]
    rfl

theorem readMoreElements_render : ∀ (elements : List Value) {fuel : Nat} {rest : Bytes},
    (renderMoreElements elements).length + 1 ≤ fuel →
    readMoreElements fuel (renderMoreElements elements ++ 0x5d :: rest) = some (elements, rest)
  | [], fuel + 1, rest, _ => rfl
  | element :: elements, fuel + 1, rest, enough => by
    simp only [renderMoreElements, List.length_cons, List.length_append] at enough
    have first :=
      @readValue_render element fuel (renderMoreElements elements ++ 0x5d :: rest) (by omega)
      (ends_moreElements elements rest)
    have more := @readMoreElements_render elements fuel rest (by omega)
    simp [renderMoreElements, readMoreElements, first, more]

theorem readField_render : ∀ (value : Value) (key : String) {fuel : Nat} {rest : Bytes},
    (render value).length + 1 ≤ fuel → Ends rest →
    readField fuel (renderString key ++ 0x3a :: (render value ++ rest)) = some ((key, value), rest)
  | value, key, fuel + 1, rest, enough, ends => by
    have read := @readValue_render value fuel rest (by omega) ends
    simp [renderString, readField, readText_render, read]

theorem readFields_render : ∀ (fields : List (String × Value)) {fuel : Nat} {rest : Bytes},
    (renderFields fields).length + 1 ≤ fuel →
    readFields fuel (renderFields fields ++ 0x7d :: rest) = some (fields, rest)
  | [], fuel + 1, rest, _ => rfl
  | (key, value) :: fields, fuel + 1, rest, enough => by
    simp only [renderFields, List.length_append, List.length_cons] at enough
    have first :=
      @readField_render value key fuel (renderMoreFields fields ++ 0x7d :: rest) (by omega)
      (ends_moreFields fields rest)
    have more := @readMoreFields_render fields fuel rest (by omega)
    have notEmpty :
        (renderString key ++
          0x3a :: (render value ++ (renderMoreFields fields ++ 0x7d :: rest))).head? ≠
        some 0x7d := by
      simp [renderString]
    simp only [renderFields, List.append_assoc, List.cons_append, readFields, if_neg notEmpty,
      first, more, Option.bind_eq_bind, Option.bind_some]
    rfl

theorem readMoreFields_render : ∀ (fields : List (String × Value)) {fuel : Nat} {rest : Bytes},
    (renderMoreFields fields).length + 1 ≤ fuel →
    readMoreFields fuel (renderMoreFields fields ++ 0x7d :: rest) = some (fields, rest)
  | [], fuel + 1, rest, _ => rfl
  | (key, value) :: fields, fuel + 1, rest, enough => by
    simp only [renderMoreFields, List.length_cons, List.length_append] at enough
    have first :=
      @readField_render value key fuel (renderMoreFields fields ++ 0x7d :: rest) (by omega)
      (ends_moreFields fields rest)
    have more := @readMoreFields_render fields fuel rest (by omega)
    simp [renderMoreFields, readMoreFields, first, more]

end

theorem fromSlice_render (value : Value) : fromSlice (render value) = some value := by
  have read := @readValue_render value (render value).length [] (Nat.le_refl _)
    (by intro head first; cases first)
  rw [List.append_nil] at read
  simp [fromSlice, read]

/-- The text determines the value. -/
theorem render_injective {left right : Value} (same : render left = render right) :
    left = right := by
  have read := congrArg fromSlice same
  rwa [fromSlice_render, fromSlice_render, Option.some.injEq] at read

end Json
