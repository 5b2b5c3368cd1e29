import Envoix.Foundation.Base64
import Envoix.Foundation.Text

/-! # Invitations on NFC tags

`NfcInvitationContract.kt` and the codec of `NFCInvitationExchange.swift`: an invitation travels as
the base64url fragment of a fixed link, or as itself. -/

namespace Envoix.Nfc

open ByteCodec Fallible Text

def maxInvitationBytes : Nat := 8211

def carrierPrefix : List Char := "https://ece4410j-nuub.github.io/nfc/v1/#".toList

def invitationPrefixes : List (List Char) := ["envoix://invite/v2/".toList, "envoix://room/".toList]

def isPrintableAscii (byte : UInt8) : Bool := 0x21 ≤ byte ∧ byte ≤ 0x7e

def isPrintable (character : Char) : Bool := 0x21 ≤ character.toNat ∧ character.toNat ≤ 0x7e

def isBase64UrlCharacter (character : Char) : Bool :=
  ('A' ≤ character ∧ character ≤ 'Z') ∨ ('a' ≤ character ∧ character ≤ 'z') ∨
    ('0' ≤ character ∧ character ≤ '9') ∨ character = '-' ∨ character = '_'

/-- The decoders of the two platforms read what the encoders of RFC 4648 write.  What they do with
other texts is their own affair: they may refuse them or ignore bits. -/
structure Base64Decoders where
  urlDecode : List Char → Option Bytes
  standardDecode : List Char → Option Bytes
  urlDecode_encode : ∀ bytes, urlDecode (Base64.encodeChars bytes) = some bytes
  standardDecode_encode : ∀ bytes, standardDecode (Base64.standardChars bytes) = some bytes

/-! ## Android -/

namespace Android

def maxEncodedInvitationBytes : Nat := (maxInvitationBytes * 4 + 2) / 3

def maxCarrierBytes : Nat := carrierPrefix.length + maxEncodedInvitationBytes

def hasSupportedPrefix (invitation : List Char) : Bool :=
  invitationPrefixes.any fun start => invitation.length > start.length ∧ start.isPrefixOf invitation

def isCanonicalInvitation (invitation : List Char) : Bool :=
  (1 ≤ invitation.length ∧ invitation.length ≤ maxInvitationBytes) ∧ invitation.all isPrintable ∧
    hasSupportedPrefix invitation

def canonicalBytes (invitation : List Char) : Option Bytes :=
  if isCanonicalInvitation invitation then some (invitation.map asciiByte) else none

def encode (invitation : List Char) : Option Bytes := do
  let invitationBytes ← canonicalBytes invitation
  return (carrierPrefix ++ Base64.encodeChars invitationBytes).map asciiByte

def canonicalInvitation (bytes : Bytes) : Option (List Char) :=
  if bytes = [] ∨ bytes.length > maxInvitationBytes ∨ ¬ bytes.all isPrintableAscii then none
  else (some (bytes.map asciiChar)).filter hasSupportedPrefix

def decodeToken (engines : Base64Decoders) (token : List Char) : Option (List Char) :=
  if token = [] ∨ token.length > maxEncodedInvitationBytes ∨
    ¬ token.all isBase64UrlCharacter then none
  else do
    let decoded ← engines.urlDecode token
    if decoded.length > maxInvitationBytes ∨ Base64.encodeChars decoded ≠ token then none
    else canonicalInvitation decoded

def decode (engines : Base64Decoders) (bytes : Bytes) : Option (List Char) :=
  if bytes = [] ∨ bytes.length > maxCarrierBytes ∨ ¬ bytes.all isPrintableAscii then none
  else
    let value := bytes.map asciiChar
    if ¬ carrierPrefix.isPrefixOf value then (some value).filter fun value =>
      (canonicalBytes value).isSome
    else decodeToken engines (value.drop carrierPrefix.length)

end Android

/-! ## Apple devices -/

namespace Apple

inductive NFCInvitationContractError where
  | messageCount
  | recordCount
  | recordType
  | malformedURI
  | malformedCarrier
  | unsupportedInvitation
  | oversizedInvitation
deriving DecidableEq

inductive TypeNameFormat where
  | empty
  | nfcWellKnown
  | media
  | absoluteURI
  | nfcExternal
  | unknown
  | unchanged
deriving DecidableEq

structure NFCNDEFPayload where
  typeNameFormat : TypeNameFormat
  type : Bytes
  identifier : Bytes
  payload : Bytes

abbrev NFCNDEFMessage := List NFCNDEFPayload

def uriType : Bytes := [0x55]
def uncompressedURIPrefix : UInt8 := 0x00

def maximumEncodedInvitationCharacters : Nat := (maxInvitationBytes + 2) / 3 * 4

def maximumCarrierBytes : Nat := carrierPrefix.length + maximumEncodedInvitationCharacters

/-- `data(using: .ascii)` -/
def asciiData (text : List Char) : Option Bytes :=
  if text.all isAscii then some (text.map asciiByte) else none

/-- `String(data:encoding:)` for `.ascii` -/
def asciiString (data : Bytes) : Option (List Char) :=
  if data.all (fun byte => byte.toNat < 128) then some (data.map asciiChar) else none

def validatedInvitationASCII (invitation : List Char) :
    Except NFCInvitationContractError Bytes := do
  let bytes ← okOr (asciiData invitation) .malformedURI
  reject (¬ bytes.length ≤ maxInvitationBytes) .oversizedInvitation
  reject (¬ (bytes.all isPrintableAscii ∧
      invitationPrefixes.any fun start => start.isPrefixOf invitation ∧
        bytes.length > start.length))
    .unsupportedInvitation
  return bytes

def base64URLString (data : Bytes) : List Char :=
  ((Base64.standardChars data).filter (· ≠ '=')).map Base64.urlDigit

def carrierURI (invitation : List Char) : Except NFCInvitationContractError (List Char) := do
  let invitationBytes ← validatedInvitationASCII invitation
  return carrierPrefix ++ base64URLString invitationBytes

def message (invitation : List Char) : Except NFCInvitationContractError NFCNDEFMessage := do
  let uri ← carrierURI invitation
  return [{
    typeNameFormat := .nfcWellKnown, type := uriType, identifier := [],
    payload := uncompressedURIPrefix :: uri.map asciiByte }]

def padded (encoded : List Char) : List Char :=
  let base64 := encoded.map Base64.standardDigit
  base64 ++ List.replicate ((4 - base64.length % 4) % 4) '='

def invitationFromCarrierURI (engines : Base64Decoders) (uri : List Char) :
    Except NFCInvitationContractError (List Char) := do
  reject (¬ carrierPrefix.isPrefixOf uri) .unsupportedInvitation
  reject (¬ uri.length ≤ maximumCarrierBytes) .oversizedInvitation
  let encoded := uri.drop carrierPrefix.length
  reject (¬ (encoded ≠ [] ∧ encoded.length ≤ maximumEncodedInvitationCharacters ∧
      encoded.all isBase64UrlCharacter ∧ encoded.length % 4 ≠ 1)) .malformedCarrier
  let decoded ← okOr (engines.standardDecode (padded encoded)) .malformedCarrier
  reject (¬ (decoded.length ≤ maxInvitationBytes ∧ base64URLString decoded = encoded))
    .malformedCarrier
  let invitation ← okOr (asciiString decoded) .malformedCarrier
  let _ ← validatedInvitationASCII invitation
  return invitation

def invitationFromMessage (engines : Base64Decoders) (message : NFCNDEFMessage) :
    Except NFCInvitationContractError (List Char) :=
  match message with
  | [record] => do
    reject (¬ (record.typeNameFormat = .nfcWellKnown ∧ record.type = uriType ∧
      record.identifier = [] ∧ record.payload.head? = some uncompressedURIPrefix)) .recordType
    let uriBytes := record.payload.drop 1
    reject (¬ uriBytes.length ≤ maximumCarrierBytes) .oversizedInvitation
    let uri ← okOr (asciiString uriBytes) .malformedURI
    reject (¬ uriBytes.all isPrintableAscii) .malformedURI
    if invitationPrefixes.any fun start => start.isPrefixOf uri then do
      let _ ← validatedInvitationASCII uri
      return uri
    else invitationFromCarrierURI engines uri
  | _ => throw .recordCount

def invitationFromMessages (engines : Base64Decoders) (messages : List NFCNDEFMessage) :
    Except NFCInvitationContractError (List Char) :=
  match messages with
  | [message] => invitationFromMessage engines message
  | _ => throw .messageCount

/-- The message of one URI record with these bytes. -/
def uriMessage (bytes : Bytes) : NFCNDEFMessage :=
  [{ typeNameFormat := .nfcWellKnown, type := uriType, identifier := [],
     payload := uncompressedURIPrefix :: bytes }]

end Apple

/-! ## Canonical invitations -/

/-- What both platforms send: printable ASCII with something after a known start. -/
def Canonical (invitation : List Char) : Prop :=
  (1 ≤ invitation.length ∧ invitation.length ≤ maxInvitationBytes) ∧
    (∀ character ∈ invitation, isPrintable character = true) ∧
      ∃ start ∈ invitationPrefixes, ∃ rest, rest ≠ [] ∧ invitation = start ++ rest

def carrier (invitation : List Char) : Bytes :=
  (carrierPrefix ++ Base64.encodeChars (invitation.map asciiByte)).map asciiByte

/-- The bytes by which an invitation may travel. -/
def Carries (bytes : Bytes) (invitation : List Char) : Prop :=
  Canonical invitation ∧ (bytes = invitation.map asciiByte ∨ bytes = carrier invitation)

theorem isAscii_of_isPrintable {character : Char} (printable : isPrintable character = true) :
    isAscii character = true := by
  simp only [isPrintable, decide_eq_true_eq] at printable
  simp only [isAscii, decide_eq_true_eq]
  omega

theorem isPrintable_asciiChar (byte : UInt8) :
    isPrintable (asciiChar byte) = isPrintableAscii byte := by
  simp only [isPrintable, isPrintableAscii, toNat_asciiChar, UInt8.le_iff_toNat_le]
  rfl

theorem isPrintableAscii_asciiByte {character : Char} (printable : isPrintable character = true) :
    isPrintableAscii (asciiByte character) = true := by
  rw [← isPrintable_asciiChar, asciiChar_asciiByte (isAscii_of_isPrintable printable)]
  exact printable

theorem map_asciiChar_asciiByte {text : List Char}
    (printable : ∀ character ∈ text, isPrintable character = true) :
    (text.map asciiByte).map asciiChar = text := by
  rw [List.map_map]
  exact (List.map_congr_left fun character listed =>
    asciiChar_asciiByte (isAscii_of_isPrintable (printable character listed))).trans (List.map_id _)

theorem map_asciiByte_asciiChar (bytes : Bytes) : (bytes.map asciiChar).map asciiByte = bytes := by
  rw [List.map_map]
  exact (List.map_congr_left fun byte _ => asciiByte_asciiChar byte).trans (List.map_id _)

theorem digit_printable : ∀ value < 64,
    isBase64UrlCharacter (Base64.digit value) = true ∧ isPrintable (Base64.digit value) = true := by
  set_option maxRecDepth 8000 in decide

theorem carrierPrefix_printable :
    ∀ character ∈ carrierPrefix, isPrintable character = true := by decide

/-- An invitation is no carrier link. -/
theorem Canonical.not_carrier {invitation : List Char} (canonical : Canonical invitation) :
    carrierPrefix.isPrefixOf invitation = false := by
  obtain ⟨-, -, start, known, rest, -, rfl⟩ := canonical
  simp only [invitationPrefixes, List.mem_cons, List.not_mem_nil, or_false] at known
  obtain rfl | rfl := known <;> rfl

theorem printable_carrier {invitation : List Char} :
    ∀ character ∈ carrierPrefix ++ Base64.encodeChars (invitation.map asciiByte),
      isPrintable character = true := by
  intro character listed
  obtain fixed | digit := List.mem_append.mp listed
  · exact carrierPrefix_printable character fixed
  · obtain ⟨value, bound, rfl⟩ := Base64.mem_encodeChars digit
    exact (digit_printable value bound).2

theorem any_isPrefixOf_iff {invitation : List Char} :
    (∃ start ∈ invitationPrefixes, start.length < invitation.length ∧
      start.isPrefixOf invitation = true) ↔
      ∃ start ∈ invitationPrefixes, ∃ rest, rest ≠ [] ∧ invitation = start ++ rest := by
  constructor
  · rintro ⟨start, known, longer, begins⟩
    obtain ⟨rest, rfl⟩ := List.isPrefixOf_iff_prefix.mp begins
    refine ⟨start, known, rest, ?_, rfl⟩
    rintro rfl
    simp at longer
  · rintro ⟨start, known, rest, filled, rfl⟩
    refine ⟨start, known, ?_, List.isPrefixOf_iff_prefix.mpr ⟨rest, rfl⟩⟩
    have := List.length_pos_iff.mpr filled
    rw [List.length_append]
    omega

namespace Android

theorem hasSupportedPrefix_iff {invitation : List Char} :
    hasSupportedPrefix invitation = true ↔ ∃ start ∈ invitationPrefixes, ∃ rest, rest ≠ [] ∧
      invitation = start ++ rest := by
  rw [← any_isPrefixOf_iff]
  simp [hasSupportedPrefix]

theorem isCanonicalInvitation_iff {invitation : List Char} :
    isCanonicalInvitation invitation = true ↔ Canonical invitation := by
  simp only [isCanonicalInvitation, decide_eq_true_eq, hasSupportedPrefix_iff, Canonical,
    List.all_eq_true]

theorem canonicalBytes_eq_some {invitation : List Char} {bytes : Bytes} :
    canonicalBytes invitation = some bytes ↔
      Canonical invitation ∧ bytes = invitation.map asciiByte := by
  rw [canonicalBytes, ← isCanonicalInvitation_iff]
  by_cases canonical : isCanonicalInvitation invitation = true
  · rw [if_pos canonical, Option.some.injEq]
    exact ⟨fun same => ⟨canonical, same.symm⟩, fun found => found.2.symm⟩
  · rw [if_neg canonical]
    exact ⟨nofun, fun found => absurd found.1 canonical⟩

theorem encode_eq_some {invitation : List Char} {bytes : Bytes} :
    encode invitation = some bytes ↔ Canonical invitation ∧ bytes = carrier invitation := by
  simp only [encode, Option.bind_eq_bind, Option.bind_eq_some_iff, canonicalBytes_eq_some, carrier]
  constructor
  · rintro ⟨_, ⟨canonical, rfl⟩, same⟩
    exact ⟨canonical, (Option.some.inj same).symm⟩
  · rintro ⟨canonical, rfl⟩
    exact ⟨_, ⟨canonical, rfl⟩, rfl⟩

theorem canonicalInvitation_eq_some {bytes : Bytes} {invitation : List Char} :
    canonicalInvitation bytes = some invitation ↔
      Canonical invitation ∧ bytes = invitation.map asciiByte := by
  constructor
  · intro found
    unfold canonicalInvitation at found
    split at found
    · cases found
    next accepted =>
      simp only [not_or, gt_iff_lt, not_lt, not_not, List.all_eq_true] at accepted
      obtain ⟨filled, bound, printable⟩ := accepted
      obtain ⟨same, supported⟩ := Option.filter_eq_some_iff.mp found
      obtain rfl : bytes.map asciiChar = invitation := Option.some.inj same
      refine ⟨⟨⟨?_, by simpa using bound⟩, ?_, hasSupportedPrefix_iff.mp supported⟩,
        (map_asciiByte_asciiChar bytes).symm⟩
      · rw [List.length_map]
        exact List.length_pos_iff.mpr filled
      · intro character listed
        obtain ⟨byte, known, rfl⟩ := List.mem_map.mp listed
        rw [isPrintable_asciiChar]
        exact printable byte known
  · rintro ⟨canonical, rfl⟩
    obtain ⟨size, printable, supported⟩ := canonical
    unfold canonicalInvitation
    rw [if_neg, map_asciiChar_asciiByte printable, Option.filter_some,
      if_pos (hasSupportedPrefix_iff.mpr supported)]
    simp only [not_or, gt_iff_lt, not_lt, not_not, List.all_eq_true, List.length_map]
    refine ⟨?_, size.2, ?_⟩
    · rw [List.map_eq_nil_iff]
      exact List.length_pos_iff.mp size.1
    · intro byte listed
      obtain ⟨character, known, rfl⟩ := List.mem_map.mp listed
      exact isPrintableAscii_asciiByte (printable character known)

theorem decodeToken_eq_some {engines : Base64Decoders} {token invitation : List Char} :
    decodeToken engines token = some invitation ↔
      Canonical invitation ∧ token = Base64.encodeChars (invitation.map asciiByte) := by
  constructor
  · intro found
    unfold decodeToken at found
    split at found
    · cases found
    · obtain ⟨decoded, -, rest⟩ := Option.bind_eq_some_iff.mp found
      split at rest
      · cases rest
      next kept =>
        simp only [not_or, not_not] at kept
        obtain ⟨canonical, rfl⟩ := canonicalInvitation_eq_some.mp rest
        exact ⟨canonical, kept.2.symm⟩
  · rintro ⟨canonical, rfl⟩
    have size : (invitation.map asciiByte).length ≤ maxInvitationBytes := by
      simpa using canonical.1.2
    have filled : 1 ≤ (invitation.map asciiByte).length := by simpa using canonical.1.1
    unfold decodeToken
    rw [if_neg, engines.urlDecode_encode, Option.bind_eq_bind, Option.bind_some, if_neg]
    · exact canonicalInvitation_eq_some.mpr ⟨canonical, rfl⟩
    · simpa using size
    · simp only [not_or, gt_iff_lt, not_lt, not_not, List.all_eq_true]
      have length := Base64.length_encodeChars_eq (invitation.map asciiByte)
      refine ⟨?_, ?_, ?_⟩
      · apply List.length_pos_iff.mp
        omega
      · rw [length]
        exact Nat.div_le_div_right (by omega)
      · intro character listed
        obtain ⟨value, bound, rfl⟩ := Base64.mem_encodeChars listed
        exact (digit_printable value bound).1

theorem maxInvitationBytes_le : maxInvitationBytes ≤ maxCarrierBytes := by decide

theorem one_le_length_carrier {invitation : List Char} :
    1 ≤ (carrierPrefix ++ Base64.encodeChars (invitation.map asciiByte)).length := by
  have filled : 1 ≤ carrierPrefix.length := by decide
  rw [List.length_append]
  omega

/-- Printable text of a moderate length passes the checks on the bytes. -/
theorem sendable {text : List Char} (filled : 1 ≤ text.length)
    (size : text.length ≤ maxCarrierBytes)
    (printable : ∀ character ∈ text, isPrintable character = true) :
    ¬ (text.map asciiByte = [] ∨ (text.map asciiByte).length > maxCarrierBytes ∨
      ¬ (text.map asciiByte).all isPrintableAscii = true) := by
  simp only [not_or, gt_iff_lt, not_lt, not_not, List.all_eq_true, List.length_map,
    List.map_eq_nil_iff]
  refine ⟨List.length_pos_iff.mp filled, size, ?_⟩
  intro byte listed
  obtain ⟨character, known, rfl⟩ := List.mem_map.mp listed
  exact isPrintableAscii_asciiByte (printable character known)

theorem length_carrier {invitation : List Char} (size : invitation.length ≤ maxInvitationBytes) :
    (carrierPrefix ++ Base64.encodeChars (invitation.map asciiByte)).length ≤ maxCarrierBytes := by
  rw [List.length_append, Base64.length_encodeChars_eq, List.length_map]
  exact Nat.add_le_add_left (Nat.div_le_div_right (by omega)) _

theorem decode_eq_some {engines : Base64Decoders} {bytes : Bytes} {invitation : List Char} :
    decode engines bytes = some invitation ↔ Carries bytes invitation := by
  constructor
  · intro found
    unfold decode at found
    split at found
    · cases found
    · simp only at found
      split at found
      · -- not a link, so the invitation itself
        obtain ⟨same, canonical⟩ := Option.filter_eq_some_iff.mp found
        obtain rfl : bytes.map asciiChar = invitation := Option.some.inj same
        obtain ⟨written, known⟩ := Option.isSome_iff_exists.mp canonical
        exact ⟨(canonicalBytes_eq_some.mp known).1, .inl (map_asciiByte_asciiChar bytes).symm⟩
      next link =>
        obtain ⟨canonical, token⟩ := decodeToken_eq_some.mp found
        refine ⟨canonical, .inr ?_⟩
        obtain ⟨rest, split⟩ : carrierPrefix <+: bytes.map asciiChar := by simpa using link
        rw [← split, List.drop_left] at token
        rw [carrier, ← token, split, map_asciiByte_asciiChar]
  · rintro ⟨canonical, rfl | rfl⟩
    · unfold decode
      rw [if_neg]
      · simp only [map_asciiChar_asciiByte canonical.2.1, canonical.not_carrier]
        rw [if_pos (by simp), Option.filter_some, if_pos]
        rw [canonicalBytes_eq_some.mpr ⟨canonical, rfl⟩]
        rfl
      · exact sendable canonical.1.1 (canonical.1.2.trans maxInvitationBytes_le) canonical.2.1
    · unfold decode carrier
      rw [if_neg]
      · simp only [map_asciiChar_asciiByte printable_carrier]
        rw [if_neg (by simp), List.drop_left]
        exact decodeToken_eq_some.mpr ⟨canonical, rfl⟩
      · exact sendable one_le_length_carrier (length_carrier canonical.1.2) printable_carrier

end Android

namespace Apple

theorem asciiData_eq_some {text : List Char} {bytes : Bytes} :
    asciiData text = some bytes ↔ (∀ character ∈ text, isAscii character = true) ∧
      bytes = text.map asciiByte := by
  rw [asciiData, ← List.all_eq_true]
  by_cases ascii : text.all isAscii = true
  · rw [if_pos ascii, Option.some.injEq]
    exact ⟨fun same => ⟨ascii, same.symm⟩, fun found => found.2.symm⟩
  · rw [if_neg ascii]
    exact ⟨nofun, fun found => absurd found.1 ascii⟩

theorem validatedInvitationASCII_eq_ok {invitation : List Char} {bytes : Bytes} :
    validatedInvitationASCII invitation = .ok bytes ↔
      Canonical invitation ∧ bytes = invitation.map asciiByte := by
  simp only [validatedInvitationASCII, bind_eq_ok, okOr_eq_ok, asciiData_eq_some, reject_eq_ok,
    pure_eq_ok, not_not, exists_unit, List.all_eq_true, List.any_eq_true, decide_eq_true_eq]
  constructor
  · rintro ⟨_, ⟨ascii, rfl⟩, size, ⟨printable, start, known, begins, longer⟩, rfl⟩
    rw [List.length_map] at size longer
    refine ⟨⟨⟨by omega, size⟩, ?_, any_isPrefixOf_iff.mp ⟨start, known, longer, begins⟩⟩, rfl⟩
    intro character listed
    rw [← asciiChar_asciiByte (ascii character listed), isPrintable_asciiChar]
    exact printable _ (List.mem_map_of_mem listed)
  · rintro ⟨⟨size, printable, supported⟩, rfl⟩
    obtain ⟨start, known, longer, begins⟩ := any_isPrefixOf_iff.mpr supported
    refine ⟨_, ⟨fun character listed => isAscii_of_isPrintable (printable character listed), rfl⟩,
      by simpa using size.2, ⟨?_, start, known, begins, by simpa using longer⟩, rfl⟩
    intro byte listed
    obtain ⟨character, found, rfl⟩ := List.mem_map.mp listed
    exact isPrintableAscii_asciiByte (printable character found)

theorem base64URLString_eq (data : Bytes) : base64URLString data = Base64.encodeChars data :=
  Base64.map_filter_standardChars data

theorem carrierURI_eq_ok {invitation uri : List Char} :
    carrierURI invitation = .ok uri ↔
      Canonical invitation ∧
        uri = carrierPrefix ++ Base64.encodeChars (invitation.map asciiByte) := by
  simp only [carrierURI, bind_eq_ok, validatedInvitationASCII_eq_ok, pure_eq_ok, base64URLString_eq]
  constructor
  · rintro ⟨_, ⟨canonical, rfl⟩, rfl⟩
    exact ⟨canonical, rfl⟩
  · rintro ⟨canonical, rfl⟩
    exact ⟨_, ⟨canonical, rfl⟩, rfl⟩

theorem message_eq_ok {invitation : List Char} {message : NFCNDEFMessage} :
    Apple.message invitation = .ok message ↔
      Canonical invitation ∧ message = uriMessage (carrier invitation) := by
  simp only [Apple.message, bind_eq_ok, carrierURI_eq_ok, pure_eq_ok]
  constructor
  · rintro ⟨_, ⟨canonical, rfl⟩, rfl⟩
    exact ⟨canonical, rfl⟩
  · rintro ⟨canonical, rfl⟩
    exact ⟨_, ⟨canonical, rfl⟩, rfl⟩

theorem asciiString_eq_some {data : Bytes} {text : List Char} :
    asciiString data = some text ↔ (∀ byte ∈ data, byte.toNat < 128) ∧
      text = data.map asciiChar := by
  have checked : (data.all fun byte => byte.toNat < 128) = true ↔
    ∀ byte ∈ data, byte.toNat < 128 := by simp
  rw [asciiString, ← checked]
  by_cases ascii : (data.all fun byte => byte.toNat < 128) = true
  · rw [if_pos ascii, Option.some.injEq]
    exact ⟨fun same => ⟨ascii, same.symm⟩, fun found => found.2.symm⟩
  · rw [if_neg ascii]
    exact ⟨nofun, fun found => absurd found.1 ascii⟩

/-- The two ways to write the longest token agree. -/
theorem maximumEncodedInvitationCharacters_eq :
    maximumEncodedInvitationCharacters = Android.maxEncodedInvitationBytes := by
  decide

theorem ascii_of_printable {byte : UInt8} (printable : isPrintableAscii byte = true) :
    byte.toNat < 128 := by
  simp only [isPrintableAscii, decide_eq_true_eq, UInt8.le_iff_toNat_le] at printable
  have bound : byte.toNat ≤ 126 := printable.2
  omega

theorem invitationFromCarrierURI_eq_ok {engines : Base64Decoders} {uri invitation : List Char} :
    invitationFromCarrierURI engines uri = .ok invitation ↔
      Canonical invitation ∧
        uri = carrierPrefix ++ Base64.encodeChars (invitation.map asciiByte) := by
  simp only [invitationFromCarrierURI, bind_eq_ok, okOr_eq_ok, asciiString_eq_some, reject_eq_ok,
    pure_eq_ok, not_not, exists_unit, validatedInvitationASCII_eq_ok, base64URLString_eq]
  constructor
  · rintro ⟨begins, -, -, decoded, -, kept, _, ⟨-, rfl⟩, _, ⟨canonical, -⟩, rfl⟩
    obtain ⟨rest, rfl⟩ := List.isPrefixOf_iff_prefix.mp begins
    refine ⟨canonical, ?_⟩
    rw [map_asciiByte_asciiChar, kept.2, List.drop_left]
  · rintro ⟨canonical, rfl⟩
    obtain ⟨size, printable, -⟩ := id canonical
    have token := Base64.length_encodeChars_eq (invitation.map asciiByte)
    rw [List.length_map] at token
    rw [List.drop_left]
    refine ⟨by simp, ?_, ⟨?_, ?_, ?_, ?_⟩, invitation.map asciiByte,
      engines.standardDecode_encode _, ⟨by simpa using size.2, rfl⟩, invitation,
      ⟨?_, (map_asciiChar_asciiByte printable).symm⟩, _, ⟨canonical, rfl⟩, rfl⟩
    · rw [maximumCarrierBytes, maximumEncodedInvitationCharacters_eq]
      exact Android.length_carrier size.2
    · apply List.length_pos_iff.mp
      omega
    · rw [maximumEncodedInvitationCharacters_eq, token]
      exact Nat.div_le_div_right (by omega)
    · rw [List.all_eq_true]
      intro character listed
      obtain ⟨value, bound, rfl⟩ := Base64.mem_encodeChars listed
      exact (digit_printable value bound).1
    · omega
    · intro byte listed
      obtain ⟨character, found, rfl⟩ := List.mem_map.mp listed
      exact ascii_of_printable (isPrintableAscii_asciiByte (printable character found))

/-- A link starts with no invitation. -/
theorem carrier_not_invitation (token : List Char) :
    (invitationPrefixes.any fun start => start.isPrefixOf (carrierPrefix ++ token)) = false := rfl

theorem Canonical.begins {invitation : List Char} (canonical : Canonical invitation) :
    (invitationPrefixes.any fun start => start.isPrefixOf invitation) = true := by
  obtain ⟨-, -, supported⟩ := canonical
  obtain ⟨start, known, -, begins⟩ := any_isPrefixOf_iff.mpr supported
  exact List.any_eq_true.mpr ⟨start, known, begins⟩

/-- The bytes of printable text of a moderate length pass the checks. -/
theorem read_sendable {text : List Char} (size : text.length ≤ Android.maxCarrierBytes)
    (printable : ∀ character ∈ text, isPrintable character = true) :
    (text.map asciiByte).length ≤ maximumCarrierBytes ∧
      asciiString (text.map asciiByte) = some text ∧
      (text.map asciiByte).all isPrintableAscii = true := by
  have bytes : ∀ byte ∈ text.map asciiByte, isPrintableAscii byte = true := by
    intro byte listed
    obtain ⟨character, known, rfl⟩ := List.mem_map.mp listed
    exact isPrintableAscii_asciiByte (printable character known)
  refine ⟨?_, ?_, List.all_eq_true.mpr bytes⟩
  · rw [List.length_map, maximumCarrierBytes, maximumEncodedInvitationCharacters_eq]
    exact size
  · exact asciiString_eq_some.mpr
      ⟨fun byte listed => ascii_of_printable (bytes byte listed),
        (map_asciiChar_asciiByte printable).symm⟩

theorem invitationFromMessage_eq_ok {engines : Base64Decoders} {bytes : Bytes}
    {invitation : List Char} :
    invitationFromMessage engines (uriMessage bytes) = .ok invitation ↔
      Carries bytes invitation := by
  simp only [invitationFromMessage, uriMessage, bind_eq_ok, reject_eq_ok, okOr_eq_ok, exists_unit,
    List.head?_cons, not_not, true_and, List.drop_succ_cons, List.drop_zero]
  constructor
  · rintro ⟨-, uri, read, -, found⟩
    obtain ⟨-, rfl⟩ := asciiString_eq_some.mp read
    split at found
    · simp only [bind_eq_ok, validatedInvitationASCII_eq_ok, pure_eq_ok] at found
      obtain ⟨_, ⟨canonical, -⟩, rfl⟩ := found
      exact ⟨canonical, .inl (map_asciiByte_asciiChar bytes).symm⟩
    · obtain ⟨canonical, link⟩ := invitationFromCarrierURI_eq_ok.mp found
      refine ⟨canonical, .inr ?_⟩
      rw [carrier, ← link, map_asciiByte_asciiChar]
  · rintro ⟨canonical, rfl | rfl⟩
    · obtain ⟨size, read, printable⟩ :=
        read_sendable (canonical.1.2.trans Android.maxInvitationBytes_le) canonical.2.1
      refine ⟨size, invitation, read, printable, ?_⟩
      rw [if_pos (Canonical.begins canonical)]
      simp only [bind_eq_ok, validatedInvitationASCII_eq_ok, pure_eq_ok]
      exact ⟨_, ⟨canonical, rfl⟩, trivial⟩
    · obtain ⟨size, read, printable⟩ :=
        read_sendable (Android.length_carrier canonical.1.2) printable_carrier
      refine ⟨size, _, read, printable, ?_⟩
      rw [carrier_not_invitation, if_neg (by simp)]
      exact invitationFromCarrierURI_eq_ok.mpr ⟨canonical, rfl⟩

end Apple

/-! ## The two platforms -/

/-- A message is read by both platforms alike. -/
theorem decoders_agree (engines : Base64Decoders) (bytes : Bytes) :
    (Apple.invitationFromMessage engines (Apple.uriMessage bytes)).toOption =
      Android.decode engines bytes := by
  apply Option.ext
  intro invitation
  rw [Android.decode_eq_some, ← @Apple.invitationFromMessage_eq_ok engines]
  cases Apple.invitationFromMessage engines (Apple.uriMessage bytes) <;> simp [Except.toOption]

/-- A link is the only one that carries its invitation. -/
theorem Carries.link_eq {bytes : Bytes} {invitation : List Char}
    (carries : Carries bytes invitation) (link : carrierPrefix.map asciiByte <+: bytes) :
    bytes = carrier invitation := by
  obtain ⟨canonical, rfl | same⟩ := carries
  · obtain ⟨rest, split⟩ := link
    have text := congrArg (List.map asciiChar) split
    rw [List.map_append, map_asciiChar_asciiByte carrierPrefix_printable,
      map_asciiChar_asciiByte canonical.2.1] at text
    have begins : carrierPrefix.isPrefixOf invitation = true :=
      List.isPrefixOf_iff_prefix.mpr ⟨_, text⟩
    rw [canonical.not_carrier] at begins
    cases begins
  · exact same

end Envoix.Nfc
