import Envoix.Foundation.Text
import Envoix.Room.Invite
import Envoix.Invite.Codec

/-! # The route that a room's link carries

Whether scanning a link gives the invitation it was made from.  Code, broker and expiry always come
back; a relay that the link does not name is filled in from the scanning device's own settings, and
the two peers then refuse each other's offers. -/

namespace Envoix.Room

open ByteCodec Fallible
open Envoix.Invite (RoomCode InvitationError InviteV2 Libraries startsWith stripPrefix splitOnce)

/-! ## Trimming -/

/-- Neither end is white space. -/
def Trimmed (characters : List Char) : Prop :=
  characters.dropWhile isWhitespace = characters ∧ characters.rdropWhile isWhitespace = characters

theorem trim_eq_self {text : String} (trimmed : Trimmed text.toList) : trim text = text := by
  rw [trim, trimmed.1, trimmed.2, String.ofList_toList]

theorem trimmed_of_ends {characters : List Char}
    (left : ∀ first ∈ characters.head?, isWhitespace first = false)
      (right : ∀ last ∈ characters.getLast?, isWhitespace last = false) : Trimmed characters := by
  constructor
  · cases characters with
    | nil => rfl
    | cons first rest => exact List.dropWhile_cons_of_neg (by simp [left first rfl])
  · apply List.rdropWhile_eq_self_iff.mpr
    intro nonempty
    simp [right _ (List.getLast_mem_getLast? nonempty)]

theorem trimmed_of_all {characters : List Char}
    (none : ∀ character ∈ characters, isWhitespace character = false) :
    Trimmed characters :=
  trimmed_of_ends (fun first there => none first (List.mem_of_mem_head? there))
    (fun last there => none last (List.mem_of_mem_getLast? there))

theorem trim_trim (text : String) : trim (trim text) = trim text := by
  apply trim_eq_self
  rw [trim, String.toList_ofList]
  refine ⟨?_, List.rdropWhile_idempotent ..⟩
  cases stripped : (text.toList.dropWhile isWhitespace).rdropWhile isWhitespace with
  | nil => rfl
  | cons first rest =>
    -- what is left starts where the untrimmed end starts
    have starts := List.rdropWhile_prefix isWhitespace (text.toList.dropWhile isWhitespace)
    rw [stripped] at starts
    obtain ⟨more, whole⟩ := starts
    have visible := @List.head_dropWhile_not _ isWhitespace text.toList (by simp [← whole])
    apply List.dropWhile_cons_of_neg
    simpa [← whole] using visible

theorem cleanRelay_cleanRelay (relay : Option String) :
    cleanRelay (cleanRelay relay) = cleanRelay relay := by
  cases relay with
  | none => rfl
  | some relay =>
    by_cases empty : trim relay = ""
    · simp [cleanRelay, Option.filter_some, empty]
    · simp [cleanRelay, Option.filter_some, empty, trim_trim]

/-! ## Percent escapes -/

theorem forall_byte {motive : UInt8 → Prop}
    (checked : ∀ value : Fin 256, motive (UInt8.ofNat value)) (byte : UInt8) :
    motive byte := by
  have found := checked ⟨byte.toNat, byte.toNat_lt⟩
  rwa [UInt8.ofNat_toNat] at found

def encodedBytes (byte : UInt8) : Bytes := (percentEncodeByte byte).flatMap String.utf8EncodeChar

theorem encodedBytes_spec (byte : UInt8) :
    (encodedBytes byte = [byte] ∧ byte ≠ 0x25) ∨
      ∃ high low, encodedBytes byte = [0x25, high, low] ∧ escapeValue high low = some byte := by
  have found : (encodedBytes byte = [byte] ∧ byte ≠ 0x25) ∨
      encodedBytes byte = [0x25, (encodedBytes byte).getD 1 0, (encodedBytes byte).getD 2 0] ∧
        escapeValue ((encodedBytes byte).getD 1 0) ((encodedBytes byte).getD 2 0) = some byte := by
    revert byte
    exact forall_byte (by set_option maxRecDepth 8000 in decide)
  cases found with
  | inl plain => exact .inl plain
  | inr escaped => exact .inr ⟨_, _, escaped⟩

theorem percentDecodeBytes_encoded (byte : UInt8) {rest decoded : Bytes}
    (decodes : percentDecodeBytes rest = .ok decoded) :
    percentDecodeBytes (encodedBytes byte ++ rest) = .ok (byte :: decoded) := by
  cases encodedBytes_spec byte with
  | inl plain =>
    obtain ⟨same, notEscape⟩ := plain
    rw [same, List.singleton_append, percentDecodeBytes, decodes, reject_of_not notEscape]
    · rfl
    · intro _ _ _ escape
      exact absurd escape notEscape
  | inr escaped =>
    obtain ⟨high, low, same, value⟩ := escaped
    rw [same]
    show percentDecodeBytes (0x25 :: high :: low :: rest) = _
    rw [percentDecodeBytes, value, decodes]
    rfl

theorem percentDecode_percentEncode (text : String) :
    percentDecode (percentEncode text) = .ok text := by
  have decoded (bytes : Bytes) : percentDecodeBytes (bytes.flatMap encodedBytes) = .ok bytes := by
    induction bytes with
    | nil => rfl
    | cons byte bytes ih => exact percentDecodeBytes_encoded byte ih
  rw [percentDecode, percentEncode, asBytes_ofList, List.flatMap_assoc]
  show (percentDecodeBytes ((asBytes text).flatMap encodedBytes) >>= _) = _
  rw [decoded, ok_bind, fromUtf8_eq_some.mpr rfl]
  rfl

/-- Escaped text is free of the characters that structure a link. -/
def IsPlain (character : Char) : Prop :=
  character ≠ '?' ∧ character ≠ '&' ∧ character ≠ '='

instance : DecidablePred IsPlain := fun _ => inferInstanceAs (Decidable (_ ∧ _))

theorem percentEncode_plain {text : String} {character : Char}
    (there : character ∈ (percentEncode text).toList) :
    IsPlain character := by
  rw [percentEncode, String.toList_ofList, List.mem_flatMap] at there
  obtain ⟨byte, _, inByte⟩ := there
  have checked : ∀ byte : UInt8, ∀ character ∈ percentEncodeByte byte, IsPlain character :=
    forall_byte (by set_option maxRecDepth 8000 in decide)
  exact checked byte character inByte

/-! ## Fields of the query -/

theorem splitOnce_append {separator : Char} {before : List Char} (free : separator ∉ before)
    (after : List Char) :
    splitOnce separator (String.ofList (before ++ separator :: after)) =
      some (String.ofList before, String.ofList after) := by
  have differs : ∀ character ∈ before, decide (character ≠ separator) = true := by
    intro character there
    exact decide_eq_true fun same => free (same ▸ there)
  rw [splitOnce, if_pos (by simp), String.toList_ofList, List.takeWhile_append_of_pos differs,
    List.dropWhile_append_of_pos differs]
  simp

/-- A field as links write it. -/
def fieldText (key value : String) : String :=
  String.ofList (key.toList ++ '=' :: (percentEncode value).toList)

theorem readField_fieldText {fields : RoomControlInvite.QueryFields} {key value : String}
    (free : '=' ∉ key.toList) :
    RoomControlInvite.readField fields (fieldText key value) =
      if key = "broker" then .ok { fields with broker := some value }
      else if key = "relay" then .ok { fields with relay := some value }
      else if key = "expires" then do
        let expires ← okOr (parseU64 value) (.invalidInput "invalid room invitation expiry")
        return { fields with expires := some expires }
      else .ok fields := by
  rw [RoomControlInvite.readField, fieldText, splitOnce_append free, String.ofList_toList,
    String.ofList_toList]
  simp only [Option.getD_some, percentDecode_percentEncode]
  rfl

theorem fieldText_spec {key value : String} (free : '&' ∉ key.toList) :
    '&' ∉ (fieldText key value).toList ∧ fieldText key value ≠ "" := by
  constructor
  · intro there
    rw [fieldText, String.toList_ofList, List.mem_append, List.mem_cons] at there
    obtain inKey | separator | inValue := there
    · exact free inKey
    · exact absurd separator (by decide)
    · exact (percentEncode_plain inValue).2.1 rfl
  · intro empty
    have same := congrArg String.toList empty
    simp [fieldText] at same

/-! ## Numbers -/

theorem toString_toList (value : Nat) : (toString value).toList = Nat.toDigits 10 value := by
  show (Nat.repr value).toList = _
  rw [Nat.repr, String.toList_ofList]

theorem isDigit_of_mem_toString {value : Nat} {character : Char}
    (there : character ∈ (toString value).toList) :
    character.isDigit = true := by
  rw [toString_toList] at there
  exact Nat.isDigit_of_mem_toDigits (by omega) (by omega) there

theorem parseU64_toString (value : UInt64) : parseU64 (toString value.toNat) = some value := by
  have unsigned : withoutPlus (toString value.toNat).toList = (toString value.toNat).toList := by
    unfold withoutPlus
    split
    next rest signed =>
      have digit := isDigit_of_mem_toString (by rw [signed]; exact List.mem_cons_self)
      exact absurd digit (by decide)
    next => rfl
  have allDigits : (toString value.toNat).toList.all Char.isDigit = true :=
    List.all_eq_true.mpr fun _ there => isDigit_of_mem_toString there
  have small : value.toNat < 2 ^ 64 := value.toNat_lt
  simp only [parseU64]
  rw [unsigned, toString_toList, Nat.ofDigitChars_ten_toDigits, if_pos, UInt64.ofNat_toNat]
  exact ⟨Nat.toDigits_ne_nil, toString_toList _ ▸ allDigits, small⟩

/-! ## Room codes -/

theorem isLower_eq (character : Char) :
    character.isLower = (decide (character.val ≥ 'a'.val) && decide (character.val ≤ 'z'.val)) :=
      rfl

theorem isSecretCharacter_spec {character : Char}
    (secret : RoomCode.isSecretCharacter character = true) :
    character.toNat < 128 ∧ character.toLower = character ∧ isWhitespace character = false ∧
      (String.utf8EncodeChar character).flatMap percentEncodeByte = [character] := by
  have small : character.toNat < 128 := by
    simp only [RoomCode.isSecretCharacter, Bool.or_eq_true, Char.isDigit_iff_toNat, isLower_eq,
      Bool.and_eq_true, decide_eq_true_eq, UInt32.le_iff_toNat_le] at secret
    cases secret with
    | inl digit =>
      have upper : character.toNat ≤ 57 := digit.2
      omega
    | inr lower =>
      have upper : character.toNat ≤ 122 := lower.2
      omega
  have checked : ∀ value : Fin 128, RoomCode.isSecretCharacter (Char.ofNat value) = true →
      (Char.ofNat value).toLower = Char.ofNat value ∧ isWhitespace (Char.ofNat value) = false ∧
        (String.utf8EncodeChar (Char.ofNat value)).flatMap percentEncodeByte =
          [Char.ofNat value] := by
    decide
  have found := checked ⟨character.toNat, small⟩
  rw [Char.ofNat_toNat] at found
  exact ⟨small, found secret⟩

theorem isSecretCharacter_of_isDigit {character : Char} (digit : character.isDigit = true) :
    RoomCode.isSecretCharacter character = true := by
  simp [RoomCode.isSecretCharacter, digit]

/-- Fourteen characters that make a code. -/
def Compact (compact : List Char) : Prop :=
  compact.length = 14 ∧ (compact.take 6).all Char.isDigit = true ∧
    (compact.drop 6).all RoomCode.isSecretCharacter = true

theorem Compact.secret {compact : List Char} (valid : Compact compact) {character : Char}
    (there : character ∈ compact) :
    RoomCode.isSecretCharacter character = true := by
  rw [← List.take_append_drop 6 compact, List.mem_append] at there
  cases there with
  | inl inRoom =>
    exact isSecretCharacter_of_isDigit (List.all_eq_true.mp valid.2.1 character inRoom)
  | inr inSecret => exact List.all_eq_true.mp valid.2.2 character inSecret

theorem Compact.toLower {compact : List Char} (valid : Compact compact) :
    compact.map Char.toLower = compact := by
  rw [List.map_congr_left fun character there => (isSecretCharacter_spec (valid.secret there)).2.1,
    List.map_id']

/-- A separator or a character of the code. -/
theorem mem_ofCompact {compact : List Char} {character : Char}
    (there : character ∈ (RoomCode.ofCompact compact).canonical.toList) :
    character = '-' ∨ character ∈ compact := by
  simp only [RoomCode.ofCompact, RoomCode.canonical, String.toList_ofList, List.mem_append,
    List.mem_cons] at there
  obtain inRoom | dash | inLeft | dash | inRight := there
  · exact .inr (List.mem_of_mem_take inRoom)
  · exact .inl dash
  · exact .inr (List.mem_of_mem_drop (List.mem_of_mem_take inLeft))
  · exact .inl dash
  · exact .inr (List.mem_of_mem_drop (List.mem_of_mem_take inRight))

/-- How the separators may stand. -/
def Regroups (characters compact : List Char) : Prop :=
  characters.length = 14 ∧ '-' ∉ characters ∧ characters.map Char.toLower = compact ∨
    characters.length = 16 ∧ characters[6]? = some '-' ∧ characters[11]? = some '-' ∧
      (characters.take 6 ++ (characters.drop 7).take 4 ++ (characters.drop 12).take 4).map
        Char.toLower = compact

theorem roomCode_parse_eq_ok {input : String} {code : RoomCode} :
    RoomCode.parse input = .ok code ↔ (∀ character ∈ input.toList, character.toNat < 128) ∧
      ∃ compact, Regroups input.toList compact ∧ Compact compact ∧
        RoomCode.ofCompact compact = code := by
  have accepted (compact : List Char) :
      (¬ (compact.length ≠ Rendezvous.roomIdLen + Invite.roomSecretLen ∨
      ¬ (compact.take Rendezvous.roomIdLen).all Char.isDigit ∨
      ¬ (compact.drop Rendezvous.roomIdLen).all RoomCode.isSecretCharacter)) ↔ Compact compact := by
    simp only [not_or, not_not]
    rfl
  simp only [RoomCode.parse, bind_eq_ok, reject_eq_ok, exists_unit, ite_eq_ok, ok_bind,
    error_bind, pure_eq, Except.ok.injEq, accepted, not_not, reduceCtorEq, and_false, or_false]
  simp only [List.all_eq_true, decide_eq_true_eq]
  apply and_congr_right
  intro _
  constructor
  · intro found
    cases found with
    | inl plain => exact ⟨_, .inl ⟨plain.1.1, plain.1.2, rfl⟩, plain.2⟩
    | inr grouped =>
      exact ⟨_, .inr ⟨grouped.2.1.1, grouped.2.1.2.1, grouped.2.1.2.2, rfl⟩, grouped.2.2⟩
  · rintro ⟨compact, regroups, valid⟩
    cases regroups with
    | inl plain =>
      obtain ⟨sized, free, same⟩ := plain
      subst same
      exact .inl ⟨⟨sized, free⟩, valid⟩
    | inr grouped =>
      obtain ⟨sized, left, right, same⟩ := grouped
      subst same
      exact .inr ⟨fun plain => by omega, ⟨sized, left, right⟩, valid⟩

theorem regroups_ofCompact {compact : List Char} (valid : Compact compact) :
    Regroups (RoomCode.ofCompact compact).canonical.toList compact := by
  have lower := valid.toLower
  obtain ⟨sized, _, _⟩ := valid
  match compact, sized with
  | [_, _, _, _, _, _, _, _, _, _, _, _, _, _], _ =>
    refine .inr ⟨?_, ?_, ?_, ?_⟩
    · simp [RoomCode.ofCompact, RoomCode.canonical]
    · simp [RoomCode.ofCompact, RoomCode.canonical]
    · simp [RoomCode.ofCompact, RoomCode.canonical]
    · rw [RoomCode.canonical, RoomCode.ofCompact, String.toList_ofList]
      exact lower

/-- The canonical form of a code is its own canonical form. -/
theorem normalizeRoomCode_ofCompact {compact : List Char} (valid : Compact compact) :
    normalizeRoomCode (RoomCode.ofCompact compact).canonical =
      .ok (RoomCode.ofCompact compact).canonical := by
  have clean : ∀ character ∈ (RoomCode.ofCompact compact).canonical.toList,
      character.toNat < 128 ∧ isWhitespace character = false := by
    intro character there
    cases mem_ofCompact there with
    | inl dash =>
      subst dash
      decide
    | inr inCode =>
      have secret := isSecretCharacter_spec (valid.secret inCode)
      exact ⟨secret.1, secret.2.2.1⟩
  have parses : RoomCode.parse (RoomCode.ofCompact compact).canonical =
    .ok (RoomCode.ofCompact compact) :=
    roomCode_parse_eq_ok.mpr ⟨fun character there => (clean character there).1, compact,
      regroups_ofCompact valid, valid,
      rfl⟩
  have unprefixed : ¬ (startsWith "R" (RoomCode.ofCompact compact).canonical = true ∨
      startsWith "r" (RoomCode.ofCompact compact).canonical = true) := by
    obtain ⟨sized, digits, _⟩ := valid
    cases compact with
    | nil => cases sized
    | cons first rest =>
      have digit := List.all_eq_true.mp digits first List.mem_cons_self
      have notUpper : 'R' ≠ first := fun same => absurd (same ▸ digit) (by decide)
      have notLower : 'r' ≠ first := fun same => absurd (same ▸ digit) (by decide)
      simp [startsWith, RoomCode.ofCompact, RoomCode.canonical, notUpper, notLower]
  rw [normalizeRoomCode,
    trim_eq_self (trimmed_of_all fun character there => (clean character there).2),
      reject_of_not unprefixed, parses]
  rfl

theorem normalizeRoomCode_eq_ok {code canonical : String}
    (normal : normalizeRoomCode code = .ok canonical) :
    normalizeRoomCode canonical = .ok canonical := by
  simp only [normalizeRoomCode, bind_eq_ok, reject_eq_ok, exists_unit, mapErr_eq_ok, pure_eq,
    Except.ok.injEq] at normal
  obtain ⟨_, parsed, found, same⟩ := normal
  obtain ⟨_, compact, _, valid, made⟩ := roomCode_parse_eq_ok.mp found
  subst made same
  exact normalizeRoomCode_ofCompact valid

/-! ## Issued invitations -/

/-- The invitation can come from making a room or from reading a link. -/
inductive Issued (invite : RoomControlInvite) : Prop where
  | generated (broker : String) (relay : Option String) (clock : Clock) (entropy : Bytes)
      (made : RoomControlInvite.generate broker relay clock entropy = .ok invite)
  | parsed (input fallbackBroker : String) (fallbackRelay : Option String) (clock : Clock)
      (made : RoomControlInvite.parse input fallbackBroker fallbackRelay clock = .ok invite)

/-- What every invitation has been put through. -/
structure Settled (invite : RoomControlInvite) : Prop where
  code : normalizeRoomCode invite.code = .ok invite.code
  broker : trim invite.broker = invite.broker
  named : invite.broker ≠ ""
  relay : cleanRelay invite.relay = invite.relay

theorem settled_of_fromParts {code broker : String} {relay : Option String} {expires : UInt64}
    {invite : RoomControlInvite}
    (made : RoomControlInvite.fromParts code broker relay expires = .ok invite) :
    Settled invite := by
  simp only [RoomControlInvite.fromParts, bind_eq_ok, reject_eq_ok, exists_unit, pure_eq,
    Except.ok.injEq] at made
  obtain ⟨canonical, normal, named, same⟩ := made
  subst same
  exact ⟨normalizeRoomCode_eq_ok normal, trim_trim broker, named, cleanRelay_cleanRelay relay⟩

theorem Issued.settled {invite : RoomControlInvite} (issued : Issued invite) : Settled invite := by
  cases issued with
  | generated broker relay clock entropy made =>
    simp only [RoomControlInvite.generate, bind_eq_ok] at made
    obtain ⟨_, _, _, _, made⟩ := made
    exact settled_of_fromParts made
  | parsed input fallbackBroker fallbackRelay clock made =>
    simp only [RoomControlInvite.parse] at made
    split at made
    · simp only [bind_eq_ok] at made
      obtain ⟨_, _, _, _, made⟩ := made
      exact settled_of_fromParts made
    · simp only [bind_eq_ok] at made
      obtain ⟨_, _, made⟩ := made
      exact settled_of_fromParts made

theorem Settled.fromParts {invite : RoomControlInvite} (settled : Settled invite)
    (relay : Option String) :
    RoomControlInvite.fromParts invite.code invite.broker relay invite.expiresAtUnixSecs =
      .ok { invite with relay := cleanRelay relay } := by
  rw [RoomControlInvite.fromParts, settled.code, ok_bind, settled.broker,
    reject_of_not settled.named]
  rfl

/-! ## Links -/

theorem percentEncode_toString (value : Nat) : percentEncode (toString value) = toString value := by
  have same : ∀ digits : List Char, (∀ digit ∈ digits, digit.isDigit = true) →
      (digits.flatMap String.utf8EncodeChar).flatMap percentEncodeByte = digits := by
    intro digits allDigits
    induction digits with
    | nil => rfl
    | cons digit digits ih =>
      have digit' := allDigits digit List.mem_cons_self
      have encoded := (isSecretCharacter_spec (isSecretCharacter_of_isDigit digit')).2.2.2
      rw [List.flatMap_cons, List.flatMap_append, encoded,
        ih fun other there => allDigits other (List.mem_cons_of_mem _ there)]
      rfl
  have written : toString value = String.ofList (toString value).toList := String.ofList_toList.symm
  rw [percentEncode, written, asBytes_ofList, same _ fun _ there => isDigit_of_mem_toString there]

/-- The fields of a link, in the order it writes them. -/
def RoomControlInvite.fields (invite : RoomControlInvite) : List String :=
  fieldText "broker" invite.broker :: (invite.relay.map (fieldText "relay")).toList ++
    [fieldText "expires" (toString invite.expiresAtUnixSecs.toNat)]

theorem payload_toList (invite : RoomControlInvite) :
    invite.payload.toList = roomUriPrefix.toList ++ ((percentEncode invite.code).toList ++
      '?' :: ['&'].intercalate (invite.fields.map String.toList)) := by
  have digits : (percentEncode invite.expiresAtUnixSecs.toNat.repr).toList =
      Nat.toDigits 10 invite.expiresAtUnixSecs.toNat := by
    rw [← toString_toList]
    exact congrArg String.toList (percentEncode_toString _)
  cases named : invite.relay with
  | none =>
    simp [RoomControlInvite.payload, RoomControlInvite.fields, digits, fieldText, named,
      List.intercalate]
  | some relay =>
    simp [RoomControlInvite.payload, RoomControlInvite.fields, digits, fieldText, named,
      List.intercalate]

/-- A link starts with its scheme and ends with a digit. -/
theorem trim_payload (invite : RoomControlInvite) : trim invite.payload = invite.payload := by
  apply trim_eq_self
  apply trimmed_of_ends
  · intro first there
    rw [payload_toList] at there
    simp [roomUriPrefix] at there
    subst there
    rfl
  · intro last there
    have digit : last ∈ (toString invite.expiresAtUnixSecs.toNat).toList := by
      rw [RoomControlInvite.payload, String.toList_append, List.getLast?_append] at there
      cases ends : (toString invite.expiresAtUnixSecs.toNat).toList.getLast? with
      | none =>
        rw [List.getLast?_eq_none_iff, toString_toList] at ends
        exact absurd ends Nat.toDigits_ne_nil
      | some digit =>
        rw [ends] at there
        cases there
        exact List.mem_of_mem_getLast? ends
    exact (isSecretCharacter_spec
      (isSecretCharacter_of_isDigit (isDigit_of_mem_toString digit))).2.2.1

theorem fields_spec {invite : RoomControlInvite} {field : String} (there : field ∈ invite.fields) :
    '&' ∉ field.toList ∧ field ≠ "" := by
  simp only [RoomControlInvite.fields, List.mem_cons, List.mem_append, Option.mem_toList,
    Option.map_eq_some_iff, List.cons_append, List.not_mem_nil, or_false] at there
  obtain rfl | ⟨relay, _, rfl⟩ | rfl := there
  · exact fieldText_spec (by decide)
  · exact fieldText_spec (by decide)
  · exact fieldText_spec (by decide)

theorem readQuery_fields (invite : RoomControlInvite) :
    RoomControlInvite.readQuery
      (String.ofList (['&'].intercalate (invite.fields.map String.toList))) =
      .ok ⟨some invite.broker, invite.relay, some invite.expiresAtUnixSecs⟩ := by
  have free : ∀ field ∈ invite.fields.map String.toList, '&' ∉ field := by
    intro field there
    obtain ⟨text, listed, same⟩ := List.mem_map.mp there
    subst same
    exact (fields_spec listed).1
  have written : (invite.fields.map String.toList).map String.ofList = invite.fields := by
    simp [Function.comp_def]
  have nonempty : invite.fields.filter (· ≠ "") = invite.fields := by
    apply List.filter_eq_self.mpr
    intro field there
    exact decide_eq_true (fields_spec there).2
  rw [RoomControlInvite.readQuery, String.toList_ofList,
    List.splitOn_intercalate _ free (by simp [RoomControlInvite.fields]), written, nonempty]
  have broker (fields : RoomControlInvite.QueryFields) :
      RoomControlInvite.readField fields (fieldText "broker" invite.broker) =
        .ok { fields with broker := some invite.broker } := by
    rw [readField_fieldText (by decide), if_pos rfl]
  have relay (fields : RoomControlInvite.QueryFields) (value : String) :
      RoomControlInvite.readField fields (fieldText "relay" value) =
          .ok { fields with relay := some value } := by
    rw [readField_fieldText (by decide), if_neg (by decide), if_pos rfl]
  have expires (fields : RoomControlInvite.QueryFields) :
      RoomControlInvite.readField fields
        (fieldText "expires" (toString invite.expiresAtUnixSecs.toNat)) =
        .ok { fields with expires := some invite.expiresAtUnixSecs } := by
    rw [readField_fieldText (by decide), if_neg (by decide), if_neg (by decide), if_pos rfl,
      parseU64_toString]
    rfl
  cases named : invite.relay with
  | none =>
    simp only [RoomControlInvite.fields, named, Option.map_none, Option.toList_none,
      List.cons_append, List.nil_append, List.foldlM_cons, List.foldlM_nil, broker, expires,
      ok_bind, pure_eq]
  | some value =>
    simp only [RoomControlInvite.fields, named, Option.map_some, Option.toList_some,
      List.cons_append, List.nil_append, List.foldlM_cons, List.foldlM_nil, broker, relay, expires,
      ok_bind, pure_eq]

/-- What scanning a link gives: all of the invitation, except that a relay may come from the
settings. -/
theorem Settled.parse_payload {invite : RoomControlInvite} (settled : Settled invite)
    (fallbackBroker : String) (fallbackRelay : Option String) (clock : Clock) :
    RoomControlInvite.parse invite.payload fallbackBroker fallbackRelay clock =
      .ok { invite with relay := invite.relay.or (cleanRelay fallbackRelay) } := by
  have stripped : stripPrefix roomUriPrefix (trim invite.payload) =
      some (String.ofList ((percentEncode invite.code).toList ++
        '?' :: ['&'].intercalate (invite.fields.map String.toList))) := by
    rw [trim_payload, stripPrefix, startsWith, payload_toList, if_pos, List.drop_left]
    exact List.isPrefixOf_iff_prefix.mpr (List.prefix_append ..)
  have free : '?' ∉ (percentEncode invite.code).toList := fun there =>
    (percentEncode_plain there).1 rfl
  simp only [RoomControlInvite.parse]
  rw [stripped]
  simp only [splitOnce_append free, Option.getD_some, String.ofList_toList,
    percentDecode_percentEncode, ok_bind, readQuery_fields]
  rw [settled.fromParts]
  cases named : invite.relay with
  | none => rfl
  | some relay =>
    have kept := settled.relay
    rw [named] at kept
    simp [kept]

/-! ## Routes -/

section

variable [Libraries]

def routeRefused : CoreError :=
  .invalidInput "room offer transfer route differs from room control route"

/-- The checks of an offer in their order. -/
theorem validate_eq_ok {offer : RoomTransferOffer} {broker : String} {relay : Option String}
    {clock : Clock} (valid : offer.validate broker relay clock = .ok ()) :
    ∃ now invitation, InviteV2.parse offer.transferInvite now = .ok invitation ∧
      routeDiffers invitation.publicContext broker relay = false := by
  simp only [RoomTransferOffer.validate, InviteV2.parseForRole, bind_eq_ok, reject_eq_ok,
    exists_unit, mapErr_eq_ok, pure_eq, Except.ok.injEq, Bool.not_eq_true] at valid
  obtain ⟨_, _, now, _, invitation, ⟨_, parsed, _, rfl⟩, route, _⟩ := valid
  exact ⟨now, _, parsed, route⟩

/-- An offer is refused for its route when its invitation is one to receive by and takes another
route. -/
theorem validate_eq_routeRefused {offer : RoomTransferOffer} {broker : String}
    {relay : Option String} {clock : Clock}
    (refused : offer.validate broker relay clock = .error routeRefused) :
    ∃ now invitation, InviteV2.parse offer.transferInvite now = .ok invitation ∧
      routeDiffers invitation.publicContext broker relay = true := by
  have notDescribed (error : InvitationError) :
      "room offer needs a valid directional InviteV2: " ++ describe error ≠
        "room offer transfer route differs from room control route" := by
    intro same
    have letters := congrArg (fun text => text.toList[11]?) same
    simp [String.toList_append] at letters
  simp only [RoomTransferOffer.validate, bind_eq_error, reject_eq_error, reject_eq_ok,
    okOr_eq_error, okOr_eq_ok, mapErr_eq_error, mapErr_eq_ok, nowUnixSecs, routeRefused,
    CoreError.invalidInput.injEq, notDescribed, exists_unit]
    at refused
  simp only [String.reduceEq, and_false, and_true, exists_false, false_or] at refused
  obtain ⟨_, _, now, _, invitation, parsed, differs | ⟨_, _, _, names⟩⟩ := refused
  · simp only [InviteV2.parseForRole, bind_eq_ok, reject_eq_ok, exists_unit, pure_eq,
      Except.ok.injEq] at parsed
    obtain ⟨_, parsed, _, rfl⟩ := parsed
    exact ⟨now, _, parsed, differs⟩
  · obtain ⟨_, _, failed⟩ := forM_eq_error names
    have text := CoreError.invalidInput.inj (reject_eq_error.mp failed).2
    exact absurd text (by decide)

/-- An offer that was made over a route is not refused by a peer that holds the same route. -/
theorem not_routeRefused {offer : RoomTransferOffer} {broker : String} {relay : Option String}
    {made received : Clock} (valid : offer.validate broker relay made = .ok ()) :
    offer.validate broker relay received ≠ .error routeRefused := by
  intro refused
  obtain ⟨_, invitation, parsed, same⟩ := validate_eq_ok valid
  obtain ⟨_, other, again, differs⟩ := validate_eq_routeRefused refused
  rw [Invite.parse_unique parsed again, differs] at same
  cases same

omit [Libraries] in
theorem routeDiffers_of_relay_ne {context : Invite.InvitationPublicContext} {broker : String}
    {relay other : Option String} (takes : routeDiffers context broker relay = false)
    (differ : other ≠ relay) :
    routeDiffers context broker other = true := by
  simp only [routeDiffers, Bool.or_eq_false_iff, Bool.not_eq_false', bne_eq_false_iff_eq] at takes
  obtain ⟨broker, urls⟩ := takes
  cases relay with
  | none =>
    cases other with
    | none => exact absurd rfl differ
    | some other =>
      have urls' : context.relayUrls = [] := List.isEmpty_iff.mp urls
      simp [routeDiffers, urls']
  | some relay =>
    have urls' : context.relayUrls = [relay] := eq_of_beq urls
    cases other with
    | none => simp [routeDiffers, urls']
    | some other =>
      have differ' : relay ≠ other := fun same => differ (congrArg some same.symm)
      simp [routeDiffers, urls', differ']

/-- Peers that hold different relays refuse each other's offers. -/
theorem routeRefused_of_relay_ne {offer : RoomTransferOffer} {broker : String}
    {relay other : Option String} {clock : Clock}
    (valid : offer.validate broker relay clock = .ok ()) (differ : other ≠ relay) :
    offer.validate broker other clock = .error routeRefused := by
  simp only [RoomTransferOffer.validate, bind_eq_ok, reject_eq_ok, exists_unit] at valid
  obtain ⟨named, bounded, now, clock, invitation, parsed, route, _⟩ := valid
  rw [Bool.not_eq_true] at route
  simp only [RoomTransferOffer.validate]
  rw [reject_of_not named, ok_bind, reject_of_not bounded, ok_bind, clock, ok_bind, parsed, ok_bind,
    reject_of (routeDiffers_of_relay_ne route differ)]
  rfl

/-- The device that scans the link of a room holds the room's invitation, and neither of the two
refuses an offer of the other for its route. -/
structure RouteAgrees (invite : RoomControlInvite) (fallbackBroker : String)
    (fallbackRelay : Option String) (clock : Clock) : Prop where
  scanned : RoomControlInvite.parse invite.payload fallbackBroker fallbackRelay clock = .ok invite
  broker : ∀ scanned, RoomControlInvite.parse invite.payload fallbackBroker fallbackRelay clock =
    .ok scanned →
    scanned.broker = invite.broker ∧ scanned.relay = invite.relay
  offers : ∀ scanned, RoomControlInvite.parse invite.payload fallbackBroker fallbackRelay clock =
    .ok scanned →
    ∀ (offer : RoomTransferOffer) (made received : Clock),
      (offer.validate invite.broker invite.relay made = .ok () →
        offer.validate scanned.broker scanned.relay received ≠ .error routeRefused) ∧
      (offer.validate scanned.broker scanned.relay made = .ok () →
        offer.validate invite.broker invite.relay received ≠ .error routeRefused)

theorem link_route (invite : RoomControlInvite) (issued : Issued invite) (fallbackBroker : String)
    (fallbackRelay : Option String) (clock : Clock) :
    RouteAgrees invite fallbackBroker fallbackRelay clock ↔
      invite.relay.isSome ∨ cleanRelay fallbackRelay = none := by
  have scan := issued.settled.parse_payload fallbackBroker fallbackRelay clock
  constructor
  · intro agrees
    have same := Except.ok.inj (scan.symm.trans agrees.scanned)
    cases named : invite.relay with
    | some relay => exact .inl rfl
    | none =>
      rw [named, Option.none_or] at same
      rw [← same] at named
      exact .inr named
  · intro known
    have same : invite.relay.or (cleanRelay fallbackRelay) = invite.relay := by
      cases known with
      | inl named =>
        obtain ⟨relay, named⟩ := Option.isSome_iff_exists.mp named
        rw [named, Option.some_or]
      | inr unset => rw [unset, Option.or_none]
    rw [same] at scan
    refine ⟨scan, ?_, ?_⟩
    · intro scanned again
      cases scan.symm.trans again
      exact ⟨rfl, rfl⟩
    · intro scanned again offer made received
      cases scan.symm.trans again
      exact ⟨not_routeRefused, not_routeRefused⟩

end

/-! ## A room without a relay -/

def plainInvite : RoomControlInvite :=
  { code := "123456-a1b2-c3d4", broker := "id@broker:8445", relay := none,
    expiresAtUnixSecs := 300 }

theorem plainInvite_issued : Issued plainInvite :=
  .parsed "123456-a1b2-c3d4" "id@broker:8445" none (some 0) (by decide)

theorem link_route_without_relay :
    Issued plainInvite ∧
      @RouteAgrees Invite.goldenLibraries plainInvite "fallback" none (some 0) := by
  refine ⟨plainInvite_issued, ?_⟩
  apply (@link_route Invite.goldenLibraries plainInvite plainInvite_issued "fallback" none
    (some 0)).mpr
  exact .inr rfl

/-- A device that has a relay of its own reads it into a room that has none, and every offer that
the one peer can make the other refuses. -/
theorem link_route_foreign_relay :
    Issued plainInvite ∧
    RoomControlInvite.parse plainInvite.payload "fallback" (some "https://relay.example") (some 0) =
      .ok { plainInvite with relay := some "https://relay.example" } ∧
    RoomControlInvite.parse plainInvite.payload "fallback" (some "https://relay.example")
    (some 0) ≠ .ok plainInvite ∧
    ∀ (_ : Libraries) (offer : RoomTransferOffer) (clock : Clock),
      offer.validate plainInvite.broker none clock = .ok () →
      offer.validate plainInvite.broker (some "https://relay.example") clock =
        .error routeRefused := by
  have scan :=
    plainInvite_issued.settled.parse_payload "fallback" (some "https://relay.example") (some 0)
  have relay : plainInvite.relay.or (cleanRelay (some "https://relay.example")) =
      some "https://relay.example" := by
    decide
  rw [relay] at scan
  refine ⟨plainInvite_issued, scan, ?_, ?_⟩
  · rw [scan]
    intro same
    exact absurd (congrArg RoomControlInvite.relay (Except.ok.inj same)) (by decide)
  · intro _ offer clock valid
    exact routeRefused_of_relay_ne valid (by decide)

end Envoix.Room
