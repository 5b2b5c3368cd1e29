import Envoix.Foundation.Fallible

/-! # Byte codecs with exact acceptance

A decoder is a state transformer over the bytes still to be read, an encoder is a
fallible function to bytes.  `Reads` and `Writes` describe both by one *iff*:

* `Reads r P enc` — `r` accepts exactly the inputs that start with `enc a` for an `a`
  with `P a`, and then returns `a` and the rest;
* `Writes w P enc` — `w` accepts exactly the values with `P`, and emits `enc a`.

A reader and a writer with the same `enc` are therefore inverse to each other wherever
their acceptance predicates agree, which is how round trips and canonicity are proved.
-/

namespace ByteCodec

open Fallible

abbrev Bytes := List UInt8

/-! ## Big-endian naturals -/

/-- The `width` big-endian bytes of `n`, reduced modulo `256 ^ width`. -/
def toBe : Nat → Nat → Bytes
  | 0, _ => []
  | width + 1, n => UInt8.ofNat (n / 256 ^ width) :: toBe width n

/-- The natural number a big-endian byte string denotes. -/
def ofBe : Bytes → Nat
  | [] => 0
  | byte :: bytes => byte.toNat * 256 ^ bytes.length + ofBe bytes

@[simp] theorem length_toBe (width n : Nat) : (toBe width n).length = width := by
  induction width with
  | zero => rfl
  | succ width inductionHypothesis => simp [toBe, inductionHypothesis]

theorem ofBe_lt (bytes : Bytes) : ofBe bytes < 256 ^ bytes.length := by
  induction bytes with
  | nil => simp [ofBe]
  | cons byte bytes inductionHypothesis =>
    have byteBound : byte.toNat + 1 ≤ 256 := UInt8.toNat_lt byte
    have scaled : (byte.toNat + 1) * 256 ^ bytes.length ≤ 256 * 256 ^ bytes.length :=
      Nat.mul_le_mul_right _ byteBound
    rw [Nat.add_mul, Nat.one_mul] at scaled
    simp only [ofBe, List.length_cons, Nat.pow_succ']
    omega

theorem ofBe_toBe (width n : Nat) : ofBe (toBe width n) = n % 256 ^ width := by
  induction width with
  | zero => simp [toBe, ofBe, Nat.mod_one]
  | succ width inductionHypothesis =>
    have byte : (UInt8.ofNat (n / 256 ^ width)).toNat = n / 256 ^ width % 256 := UInt8.toNat_ofNat'
    simp only [toBe, ofBe, length_toBe, inductionHypothesis, byte]
    rw [Nat.pow_succ, Nat.mod_mul, Nat.mul_comm, Nat.add_comm]

/-- Only the low `width` bytes of a number reach the wire. -/
theorem toBe_add_mul (width high n : Nat) : toBe width (high * 256 ^ width + n) = toBe width n := by
  induction width generalizing high with
  | zero => rfl
  | succ width inductionHypothesis =>
    have split : high * 256 ^ (width + 1) + n = 256 ^ width * (high * 256) + n := by
      rw [Nat.pow_succ]; ring
    have quotient : (256 ^ width * (high * 256) + n) / 256 ^ width = high * 256 + n / 256 ^ width :=
      Nat.mul_add_div (Nat.pow_pos (by decide)) _ _
    have tail : toBe width (256 ^ width * (high * 256) + n) = toBe width n := by
      rw [Nat.mul_comm]; exact inductionHypothesis (high * 256)
    simp only [toBe, split, quotient, tail]
    congr 1
    apply UInt8.toNat_inj.mp
    simp only [UInt8.toNat_ofNat']
    omega

theorem toBe_ofBe (bytes : Bytes) : toBe bytes.length (ofBe bytes) = bytes := by
  induction bytes with
  | nil => rfl
  | cons byte bytes inductionHypothesis =>
    have quotient : (byte.toNat * 256 ^ bytes.length + ofBe bytes) / 256 ^ bytes.length =
        byte.toNat := by
      rw [Nat.mul_comm, Nat.mul_add_div (Nat.pow_pos (by decide)), Nat.div_eq_of_lt (ofBe_lt bytes),
        Nat.add_zero]
    simp only [List.length_cons, toBe, ofBe, toBe_add_mul, inductionHypothesis, quotient,
      UInt8.ofNat_toNat]

/-! ## Fixed-width words and arrays -/

/-- A byte array of a length fixed by its type, `[u8; N]`. -/
@[ext]
structure ByteVector (length : Nat) where
  toList : Bytes
  length_toList : toList.length = length
deriving DecidableEq

attribute [simp] ByteVector.length_toList

/-- `[0; N]`. -/
def ByteVector.zero (length : Nat) : ByteVector length :=
  ⟨List.replicate length 0, List.length_replicate⟩

/-- `[byte; N]`. -/
def ByteVector.replicate (length : Nat) (byte : UInt8) : ByteVector length :=
  ⟨List.replicate length byte, List.length_replicate⟩

def u16Be (value : UInt16) : Bytes := toBe 2 value.toNat

def u32Be (value : UInt32) : Bytes := toBe 4 value.toNat

def u64Be (value : UInt64) : Bytes := toBe 8 value.toNat

@[simp] theorem length_u16Be (value : UInt16) : (u16Be value).length = 2 := length_toBe 2 _
@[simp] theorem length_u32Be (value : UInt32) : (u32Be value).length = 4 := length_toBe 4 _
@[simp] theorem length_u64Be (value : UInt64) : (u64Be value).length = 8 := length_toBe 8 _

/-! ## Readers -/

/-- A decoder: consumes a prefix of the remaining bytes, or fails. -/
def Reader (ε α : Type) := Bytes → Except ε (α × Bytes)

variable {ε α β : Type}

def Reader.run (reader : Reader ε α) (bytes : Bytes) : Except ε (α × Bytes) := reader bytes

instance : Monad (Reader ε) where
  pure a := fun bytes => .ok (a, bytes)
  bind first next := fun bytes =>
    match first bytes with
    | .ok (a, rest) => next a rest
    | .error error => .error error

instance : MonadExceptOf ε (Reader ε) where
  throw error := fun _ => .error error
  tryCatch reader handler := fun bytes =>
    match reader bytes with
    | .ok result => .ok result
    | .error error => handler error bytes

@[simp] theorem Reader.run_pure_ok {a b : α} {bytes rest : Bytes} :
    (pure a : Reader ε α).run bytes = .ok (b, rest) ↔ b = a ∧ bytes = rest := by
  change Except.ok (a, bytes) = Except.ok (b, rest) ↔ _
  simp [eq_comm]

@[simp] theorem Reader.run_throw_ok {error : ε} {b : α} {bytes rest : Bytes} :
    (throw error : Reader ε α).run bytes = .ok (b, rest) ↔ False := by
  change Except.error error = Except.ok (b, rest) ↔ _
  simp

/-- A sequence succeeds exactly when its first step does and the rest does on what is left. -/
@[simp] theorem Reader.run_bind_ok {first : Reader ε α} {next : α → Reader ε β} {b : β}
    {bytes rest : Bytes} :
    (first >>= next).run bytes = .ok (b, rest) ↔
      ∃ a middle, first.run bytes = .ok (a, middle) ∧ (next a).run middle = .ok (b, rest) := by
  change (match first bytes with
    | .ok (a, middle) => next a middle
    | .error error => .error error) = _ ↔ ∃ a middle, first bytes = _ ∧ _
  cases first bytes with
  | error error => simp
  | ok pair =>
    obtain ⟨a, middle⟩ := pair
    simp only [Except.ok.injEq, Prod.mk.injEq]
    constructor
    · intro succeeds
      exact ⟨a, middle, ⟨rfl, rfl⟩, succeeds⟩
    · rintro ⟨_, _, ⟨rfl, rfl⟩, succeeds⟩
      exact succeeds

@[simp] theorem Reader.run_ite_ok {condition : Prop} [Decidable condition]
    {yes no : Reader ε α} {b : α} {bytes rest : Bytes} :
    (if condition then yes else no).run bytes = .ok (b, rest) ↔
      condition ∧ yes.run bytes = .ok (b, rest) ∨ ¬ condition ∧ no.run bytes = .ok (b, rest) := by
  by_cases holds : condition <;> simp [holds]

/-- A fallible step that reads nothing, `…?`. -/
def lift (result : Except ε α) : Reader ε α := fun bytes =>
  match result with
  | .ok a => .ok (a, bytes)
  | .error error => .error error

@[simp] theorem run_lift_ok {result : Except ε α} {a : α} {bytes rest : Bytes} :
    (lift result).run bytes = .ok (a, rest) ↔ result = .ok a ∧ bytes = rest := by
  change lift result bytes = _ ↔ _
  unfold lift
  cases result <;> simp

/-- The bytes still to be read. -/
def remainingSlice : Reader ε Bytes := fun bytes => .ok (bytes, bytes)

@[simp] theorem run_remainingSlice_ok {slice bytes rest : Bytes} :
    (remainingSlice : Reader ε Bytes).run bytes = .ok (slice, rest) ↔
      slice = bytes ∧ bytes = rest := by
  change Except.ok (bytes, bytes) = Except.ok (slice, rest) ↔ _
  simp [eq_comm]

/-- `reader` accepts exactly the inputs that start with `encode a` for some `a` with `valid a`. -/
def Reads (reader : Reader ε α) (valid : α → Prop) (encode : α → Bytes) : Prop :=
  ∀ bytes a rest, reader.run bytes = .ok (a, rest) ↔ valid a ∧ bytes = encode a ++ rest

/-- `writer` accepts exactly the values with `valid` and emits `encode a` for them. -/
def Writes (writer : α → Except ε Bytes) (valid : α → Prop) (encode : α → Bytes) : Prop :=
  ∀ a out, writer a = .ok out ↔ valid a ∧ out = encode a

/-- Take `length` bytes off the input; `short` is the error when fewer are left. -/
def exact (short : ε) (length : Nat) : Reader ε Bytes := fun bytes =>
  if length ≤ bytes.length then .ok (bytes.take length, bytes.drop length) else .error short

theorem exact_run_ok {short : ε} {length : Nat} {bytes taken rest : Bytes} :
    (exact short length).run bytes = .ok (taken, rest) ↔
      taken.length = length ∧ bytes = taken ++ rest := by
  change exact short length bytes = _ ↔ _
  unfold exact
  split
  case isTrue enough =>
    simp only [Except.ok.injEq, Prod.mk.injEq]
    constructor
    · rintro ⟨rfl, rfl⟩
      exact ⟨by simp [enough], by simp⟩
    · rintro ⟨rfl, rfl⟩
      simp
  case isFalse short =>
    simp only [reduceCtorEq, false_iff, not_and]
    rintro rfl rfl
    simp at short

/-- Read `[u8; length]`: the bytes taken, converted to an array. -/
def array (short : ε) (length : Nat) : Reader ε (ByteVector length) := do
  let taken ← exact short length
  if fits : taken.length = length then pure ⟨taken, fits⟩ else throw short

theorem array_reads (short : ε) (length : Nat) :
    Reads (array short length) (fun _ => True) ByteVector.toList := by
  rintro bytes ⟨taken, fits⟩ rest
  simp only [array, Reader.run_bind_ok, exact_run_ok, true_and]
  constructor
  · rintro ⟨found, middle, ⟨foundFits, rfl⟩, succeeds⟩
    simp only [foundFits, ↓reduceDIte, Reader.run_pure_ok, ByteVector.mk.injEq] at succeeds
    rw [succeeds.1, succeeds.2]
  · rintro rfl
    exact ⟨taken, rest, ⟨fits, rfl⟩, by simp [fits]⟩

/-- Read a big-endian word of `width` bytes as a natural number. -/
def word (short : ε) (width : Nat) : Reader ε Nat := do
  let taken ← exact short width
  pure (ofBe taken)

theorem word_run_ok {short : ε} {width n : Nat} {bytes rest : Bytes} :
    (word short width).run bytes = .ok (n, rest) ↔
      n < 256 ^ width ∧ bytes = toBe width n ++ rest := by
  simp only [word, Reader.run_bind_ok, exact_run_ok, Reader.run_pure_ok]
  constructor
  · rintro ⟨taken, middle, ⟨rfl, rfl⟩, rfl, rfl⟩
    exact ⟨ofBe_lt taken, by rw [toBe_ofBe]⟩
  · rintro ⟨bound, rfl⟩
    exact ⟨toBe width n, rest, ⟨length_toBe width n, rfl⟩,
      by rw [ofBe_toBe, Nat.mod_eq_of_lt bound], rfl⟩

def u8 (short : ε) : Reader ε UInt8 := do
  let value ← word short 1
  pure (UInt8.ofNat value)

def u16 (short : ε) : Reader ε UInt16 := do
  let value ← word short 2
  pure (UInt16.ofNat value)

def u32 (short : ε) : Reader ε UInt32 := do
  let value ← word short 4
  pure (UInt32.ofNat value)

def u64 (short : ε) : Reader ε UInt64 := do
  let value ← word short 8
  pure (UInt64.ofNat value)

/-- A word read through an inverse pair of conversions reads the machine integer. -/
theorem word_map_reads {short : ε} {width : Nat} {ofNat : Nat → α} {toNat : α → Nat}
    (bound : ∀ a, toNat a < 256 ^ width) (left : ∀ n, n < 256 ^ width → toNat (ofNat n) = n)
    (right : ∀ a, ofNat (toNat a) = a) :
    Reads (do let value ← word short width; pure (ofNat value)) (fun _ => True)
      (fun a => toBe width (toNat a)) := by
  intro bytes a rest
  simp only [Reader.run_bind_ok, word_run_ok, Reader.run_pure_ok, true_and]
  constructor
  · rintro ⟨n, middle, ⟨small, rfl⟩, rfl, rfl⟩
    rw [left n small]
  · rintro rfl
    exact ⟨toNat a, rest, ⟨bound a, rfl⟩, (right a).symm, rfl⟩

theorem u16_reads (short : ε) : Reads (u16 short) (fun _ => True) u16Be :=
  word_map_reads UInt16.toNat_lt (fun _ small => UInt16.toNat_ofNat_of_lt' small)
    (fun _ => UInt16.ofNat_toNat)

theorem u32_reads (short : ε) : Reads (u32 short) (fun _ => True) u32Be :=
  word_map_reads UInt32.toNat_lt (fun _ small => UInt32.toNat_ofNat_of_lt' small)
    (fun _ => UInt32.ofNat_toNat)

theorem u64_reads (short : ε) : Reads (u64 short) (fun _ => True) u64Be :=
  word_map_reads UInt64.toNat_lt (fun _ small => UInt64.toNat_ofNat_of_lt' small)
    (fun _ => UInt64.ofNat_toNat)

theorem u8_reads (short : ε) : Reads (u8 short) (fun _ => True) (fun value => [value]) := by
  intro bytes a rest
  have words := @word_map_reads ε UInt8 short 1 UInt8.ofNat UInt8.toNat UInt8.toNat_lt
    (fun _ small => UInt8.toNat_ofNat_of_lt' small) (fun _ => UInt8.ofNat_toNat) bytes a rest
  simpa [u8, toBe] using words

@[simp] theorem run_u8_ok {short : ε} {value : UInt8} {bytes rest : Bytes} :
    (u8 short).run bytes = .ok (value, rest) ↔ bytes = value :: rest := by
  simpa using u8_reads short bytes value rest

@[simp] theorem run_u16_ok {short : ε} {value : UInt16} {bytes rest : Bytes} :
    (u16 short).run bytes = .ok (value, rest) ↔ bytes = u16Be value ++ rest := by
  simpa using u16_reads short bytes value rest

@[simp] theorem run_u32_ok {short : ε} {value : UInt32} {bytes rest : Bytes} :
    (u32 short).run bytes = .ok (value, rest) ↔ bytes = u32Be value ++ rest := by
  simpa using u32_reads short bytes value rest

@[simp] theorem run_u64_ok {short : ε} {value : UInt64} {bytes rest : Bytes} :
    (u64 short).run bytes = .ok (value, rest) ↔ bytes = u64Be value ++ rest := by
  simpa using u64_reads short bytes value rest

@[simp] theorem run_array_ok {short : ε} {length : Nat} {value : ByteVector length}
    {bytes rest : Bytes} :
    (array short length).run bytes = .ok (value, rest) ↔ bytes = value.toList ++ rest := by
  simpa using array_reads short length bytes value rest

/-! ## Repetition

A counted sequence is read by one item reader per position.  `Each valid start items` says
that every item satisfies `valid` at its own position, counted from `start`. -/

def Each (valid : Nat → α → Prop) : Nat → List α → Prop
  | _, [] => True
  | index, item :: items => valid index item ∧ Each valid (index + 1) items

theorem each_and {valid valid' : Nat → α → Prop} {start : Nat} {items : List α} :
    Each (fun index item => valid index item ∧ valid' index item) start items ↔
      Each valid start items ∧ Each valid' start items := by
  induction items generalizing start with
  | nil => simp [Each]
  | cons item items inductionHypothesis =>
    simp only [Each, inductionHypothesis]
    tauto

theorem each_iff_getElem {valid : Nat → α → Prop} {start : Nat} {items : List α} :
    Each valid start items ↔ ∀ index item, items[index]? = some item →
      valid (start + index) item := by
  induction items generalizing start with
  | nil => simp [Each]
  | cons head items inductionHypothesis =>
    simp only [Each, inductionHypothesis]
    constructor
    · rintro ⟨headValid, tailValid⟩ index item found
      cases index with
      | zero => simp_all
      | succ index =>
        have valid := tailValid index item (by simpa using found)
        rwa [Nat.add_assoc, Nat.add_comm 1 index] at valid
    · intro all
      refine ⟨all 0 head rfl, fun index item found => ?_⟩
      have valid := all (index + 1) item (by simpa using found)
      rwa [Nat.add_comm index 1, ← Nat.add_assoc] at valid

/-- `for index in start..start + count { items.push(item(index)?) }` -/
def readMany (item : Nat → Reader ε α) : Nat → Nat → Reader ε (List α)
  | _, 0 => pure []
  | index, count + 1 => do
    let first ← item index
    let rest ← readMany item (index + 1) count
    pure (first :: rest)

theorem readMany_run_ok {item : Nat → Reader ε α} {valid : Nat → α → Prop} {encode : α → Bytes}
    (reads : ∀ index, Reads (item index) (valid index) encode) {start count : Nat}
      {bytes rest : Bytes}
    {items : List α} :
    (readMany item start count).run bytes = .ok (items, rest) ↔
      items.length = count ∧ Each valid start items ∧ bytes = items.flatMap encode ++ rest := by
  induction count generalizing start bytes rest items with
  | zero =>
    simp only [readMany, Reader.run_pure_ok, List.length_eq_zero_iff]
    constructor
    · rintro ⟨rfl, rfl⟩
      exact ⟨rfl, trivial, rfl⟩
    · rintro ⟨rfl, _, rfl⟩
      exact ⟨rfl, rfl⟩
  | succ count inductionHypothesis =>
    simp only [readMany, Reader.run_bind_ok, Reader.run_pure_ok, reads start _ _ _,
      inductionHypothesis]
    constructor
    · rintro ⟨first, _, ⟨firstValid, rfl⟩, others, _, ⟨rfl, othersValid, rfl⟩, rfl, rfl⟩
      exact ⟨rfl, ⟨firstValid, othersValid⟩, by simp⟩
    · rintro ⟨length, each, rfl⟩
      match items, length, each with
      | first :: others, length, ⟨firstValid, othersValid⟩ =>
        exact ⟨first, others.flatMap encode ++ rest, ⟨firstValid, by simp⟩, others, rest,
          ⟨by simpa using length, othersValid, rfl⟩, rfl, rfl⟩

/-- `for (index, item) in items.iter().enumerate() { output.extend(item) }` -/
def writeMany (item : Nat → α → Except ε Bytes) : Nat → List α → Except ε Bytes
  | _, [] => .ok []
  | index, first :: others => do
    let head ← item index first
    let tail ← writeMany item (index + 1) others
    pure (head ++ tail)

theorem writeMany_eq_ok {item : Nat → α → Except ε Bytes} {valid : Nat → α → Prop}
    {encode : α → Bytes} (writes : ∀ index, Writes (item index) (valid index) encode) {start : Nat}
      {items : List α} {out : Bytes} :
    writeMany item start items = .ok out ↔ Each valid start items ∧ out = items.flatMap encode := by
  induction items generalizing start out with
  | nil => simp [writeMany, Each, eq_comm]
  | cons first others inductionHypothesis =>
    simp only [writeMany, bind_eq_ok, pure_eq_ok, writes start _ _, inductionHypothesis, Each,
      List.flatMap_cons]
    constructor
    · rintro ⟨_, ⟨firstValid, rfl⟩, _, ⟨othersValid, rfl⟩, rfl⟩
      exact ⟨⟨firstValid, othersValid⟩, rfl⟩
    · rintro ⟨⟨firstValid, othersValid⟩, rfl⟩
      exact ⟨_, ⟨firstValid, rfl⟩, _, ⟨othersValid, rfl⟩, rfl⟩

/-! ## UTF-8 text -/

/-- `str::as_bytes` -/
def asBytes (text : String) : Bytes := text.toByteArray.data.toList

/-- `std::str::from_utf8` -/
def fromUtf8 (bytes : Bytes) : Option String := String.fromUTF8? bytes.toByteArray

theorem asBytes_injective {left right : String} (same : asBytes left = asBytes right) :
    left = right := by
  apply String.toByteArray_inj.mp
  apply ByteArray.ext
  exact Array.toList_inj.mp same

theorem fromUtf8_eq_some {bytes : Bytes} {text : String} :
    fromUtf8 bytes = some text ↔ bytes = asBytes text := by
  have toByteArray_asBytes : (asBytes text).toByteArray = text.toByteArray := by
    apply ByteArray.ext
    simp [asBytes]
  unfold fromUtf8 String.fromUTF8?
  constructor
  · intro found
    split at found
    next valid =>
      rw [Option.some.injEq] at found
      subst found
      simp [asBytes, String.fromUTF8]
    next => cases found
  · rintro rfl
    have valid : (asBytes text).toByteArray.IsValidUTF8 := toByteArray_asBytes ▸ text.isValidUTF8
    rw [dif_pos valid, Option.some.injEq]
    exact String.toByteArray_inj.mp toByteArray_asBytes

theorem asBytes_append (left right : String) :
    asBytes (left ++ right) = asBytes left ++ asBytes right := by
  rw [asBytes, String.toByteArray_append, ByteArray.data_append, Array.toList_append]
  rfl

theorem asBytes_ofList (characters : List Char) :
    asBytes (String.ofList characters) = characters.flatMap String.utf8EncodeChar := by
  simp [asBytes, List.utf8Encode]

/-- A character takes four bytes at most. -/
theorem length_asBytes_ofList (characters : List Char) :
    (asBytes (String.ofList characters)).length ≤ 4 * characters.length := by
  rw [asBytes_ofList]
  induction characters with
  | nil => exact Nat.le_refl _
  | cons character characters ih =>
    have bound := Char.utf8Size_le_four character
    rw [List.flatMap_cons, List.length_append, String.length_utf8EncodeChar, List.length_cons]
    omega

end ByteCodec
