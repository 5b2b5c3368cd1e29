import Envoix.Invite.Invitation
import Mathlib.Data.List.DropRight

/-! # Room invitations

The link by which a foreground room is joined, `RoomControlInvite` of
`envoix-session/src/room_control.rs`, and the route that every offer in the room must take. -/

namespace Envoix.Room

open ByteCodec Fallible
open Envoix.Invite (RoomCode InvitationError InviteV2 Libraries startsWith stripPrefix splitOnce)
open Envoix.Rendezvous (TransferRole)

inductive CoreError where
  | invalidInput (message : String)
  | protocol (message : String)
  | crypto (message : String)
  | transport (message : String)
deriving DecidableEq

/-! ## Text -/

/-- `char::is_whitespace` -/
def isWhitespace (character : Char) : Bool :=
  let value := character.toNat
  9 ≤ value && value ≤ 13 || value == 0x20 || value == 0x85 || value == 0xa0 || value == 0x1680 ||
    0x2000 ≤ value && value ≤ 0x200a || value == 0x2028 || value == 0x2029 || value == 0x202f ||
    value == 0x205f || value == 0x3000

/-- `str::trim` -/
def trim (text : String) : String :=
  String.ofList ((text.toList.dropWhile isWhitespace).rdropWhile isWhitespace)

/-- A number may be written with a plus sign. -/
def withoutPlus : List Char → List Char
  | '+' :: rest => rest
  | characters => characters

/-- `str::parse::<u64>` -/
def parseU64 (text : String) : Option UInt64 :=
  let digits := withoutPlus text.toList
  if digits ≠ [] ∧ digits.all Char.isDigit ∧ Nat.ofDigitChars 10 digits 0 < 2 ^ 64 then
    some (UInt64.ofNat (Nat.ofDigitChars 10 digits 0))
  else none

def isUnreserved (byte : UInt8) : Bool :=
  Rendezvous.isAsciiAlphanumeric byte || byte == 0x2d || byte == 0x2e || byte == 0x5f ||
    byte == 0x7e

def upperHexDigit (value : Nat) : Char :=
  if value < 10 then Nat.digitChar value else Char.ofNat (0x41 + value - 10)

def percentEncodeByte (byte : UInt8) : List Char :=
  if isUnreserved byte then [Char.ofNat byte.toNat]
  else ['%', upperHexDigit (byte.toNat / 16), upperHexDigit (byte.toNat % 16)]

def percentEncode (value : String) : String :=
  String.ofList ((asBytes value).flatMap percentEncodeByte)

/-- `u8::from_str_radix` on the two bytes of an escape, where the first may also be a sign. -/
def escapeValue (high low : UInt8) : Option UInt8 :=
  let digit (byte : UInt8) := Invite.SocketAddr.toDigit 16 (Char.ofNat byte.toNat)
  if high = 0x2b then (digit low).map UInt8.ofNat
  else do
    let high ← digit high
    let low ← digit low
    return UInt8.ofNat (16 * high + low)

def percentDecodeBytes : Bytes → Except CoreError Bytes
  | [] => .ok []
  | 0x25 :: high :: low :: rest => do
    let byte ← okOr (escapeValue high low) (.invalidInput "invalid percent escape")
    let decoded ← percentDecodeBytes rest
    return byte :: decoded
  | byte :: rest => do
    reject (byte = 0x25) (.invalidInput "truncated percent escape")
    let decoded ← percentDecodeBytes rest
    return byte :: decoded

def percentDecode (value : String) : Except CoreError String := do
  let output ← percentDecodeBytes (asBytes value)
  okOr (fromUtf8 output) (.invalidInput "room invitation is not UTF-8")

/-! ## The invitation -/

structure RoomControlInvite where
  code : String
  broker : String
  relay : Option String
  expiresAtUnixSecs : UInt64
deriving DecidableEq

def roomUriPrefix : String := "envoix://room/"
def roomInviteTtlSecs : UInt64 := 300

/-- `error.to_string()` of the errors of a Room code. -/
def describe : InvitationError → String
  | .malformed message => "malformed invitation: " ++ message
  | .oversized => "invitation exceeds the supported size"
  | .expired => "invitation has expired"
  | .unsupportedVersion => "unsupported invitation or protocol version"
  | .unsupportedCapability capability =>
    "unsupported required invitation capability: " ++ capability
  | .roleConflict => "invitation transfer role conflicts with the selected flow"
  | .authenticationFailed => "invitation authentication failed"

/-- The wall clock in seconds; none before the epoch. -/
abbrev Clock := Option UInt64

def nowUnixSecs (clock : Clock) : Except CoreError UInt64 :=
  okOr clock (.invalidInput "system clock precedes Unix epoch")

def normalizeRoomCode (code : String) : Except CoreError String := do
  let code := trim code
  reject (startsWith "R" code ∨ startsWith "r" code)
    (.invalidInput "legacy R-prefixed room codes are not supported")
  let canonical ← mapErr (fun error => .invalidInput (describe error)) (RoomCode.parse code)
  return canonical.canonical

/-- A relay as invitations hold it: trimmed, and none when nothing is left. -/
def cleanRelay (relay : Option String) : Option String := (relay.map trim).filter (· ≠ "")

namespace RoomControlInvite

def fromParts (code broker : String) (relay : Option String) (expiresAtUnixSecs : UInt64) :
    Except CoreError RoomControlInvite := do
  let code ← normalizeRoomCode code
  reject (trim broker = "") (.invalidInput "room control invitation needs a broker")
  return { code, broker := trim broker, relay := cleanRelay relay, expiresAtUnixSecs }

/-- The code is drawn from the entropy at hand. -/
def generate (broker : String) (relay : Option String) (clock : Clock) (entropy : Bytes) :
    Except CoreError RoomControlInvite := do
  let (roomCode, _) ← mapErr (fun error => .invalidInput (describe error))
    (RoomCode.generate.run entropy)
  let now ← nowUnixSecs clock
  fromParts roomCode.canonical broker relay (saturatingAdd64 now roomInviteTtlSecs)

/-- The fields of the query that were given. -/
structure QueryFields where
  broker : Option String
  relay : Option String
  expires : Option UInt64

def readField (fields : QueryFields) (field : String) : Except CoreError QueryFields :=
  let (key, value) := (splitOnce '=' field).getD (field, "")
  if key = "broker" then do
    let broker ← percentDecode value
    return { fields with broker := some broker }
  else if key = "relay" then do
    let relay ← percentDecode value
    return { fields with relay := some relay }
  else if key = "expires" then do
    let expires ← percentDecode value
    let expires ← okOr (parseU64 expires) (.invalidInput "invalid room invitation expiry")
    return { fields with expires := some expires }
  else .ok fields

def readQuery (query : String) : Except CoreError QueryFields :=
  (((query.toList.splitOn '&').map String.ofList).filter (· ≠ "")).foldlM readField
    ⟨none, none, none⟩

def parse (input fallbackBroker : String) (fallbackRelay : Option String) (clock : Clock) :
    Except CoreError RoomControlInvite :=
  let input := trim input
  match stripPrefix roomUriPrefix input with
  | some rest => do
    let (encodedCode, query) := (splitOnce '?' rest).getD (rest, "")
    let code ← percentDecode encodedCode
    let fields ← readQuery query
    fromParts code (fields.broker.getD fallbackBroker) (fields.relay.or fallbackRelay)
      (fields.expires.getD (saturatingAdd64 (clock.getD 0) roomInviteTtlSecs))
  | none => do
    let now ← nowUnixSecs clock
    fromParts input fallbackBroker fallbackRelay (saturatingAdd64 now roomInviteTtlSecs)

def payload (self : RoomControlInvite) : String :=
  roomUriPrefix ++ percentEncode self.code ++ "?broker=" ++ percentEncode self.broker ++
    (match self.relay with
    | some relay => "&relay=" ++ percentEncode relay
    | none => "") ++
    "&expires=" ++ toString self.expiresAtUnixSecs.toNat

end RoomControlInvite

/-! ## Offers -/

structure RoomTransferOffer where
  offerId : String
  transferInvite : String
  rootNames : List String
  itemCount : UInt32
  directoryCount : UInt32
  totalBytes : UInt64
deriving DecidableEq

def maxTransferInviteBytes : Nat := 8 * 1024
def maxOfferIdBytes : Nat := 128
def maxRootNameBytes : Nat := 255
def maxRootPreviews : Nat := 3

/-- `char::is_control`: the general category Cc. -/
def isControl (character : Char) : Bool :=
  character.toNat < 0x20 || 0x7f ≤ character.toNat && character.toNat ≤ 0x9f

/-- The route of the transfer is not the route of the room. -/
def routeDiffers (context : Invite.InvitationPublicContext) (expectedBroker : String)
    (expectedRelay : Option String) :
    Bool :=
  let relayMatches := match expectedRelay with
    | some expected => context.relayUrls == [expected]
    | none => context.relayUrls.isEmpty
  context.broker != expectedBroker || !relayMatches

def RoomTransferOffer.validate [Libraries] (self : RoomTransferOffer) (expectedBroker : String)
    (expectedRelay : Option String) (clock : Clock) : Except CoreError Unit := do
  reject (self.offerId = "" ∨ (asBytes self.offerId).length > maxOfferIdBytes ∨
      ¬ (asBytes self.offerId).all fun byte => Rendezvous.isAsciiAlphanumeric byte ||
        byte == 0x2d || byte == 0x5f)
    (.invalidInput "room offer id must be 1-128 ASCII letters, digits, '-' or '_'")
  reject ((asBytes self.transferInvite).length > maxTransferInviteBytes)
    (.invalidInput "room offer needs a bounded directional sender invitation")
  let now ← nowUnixSecs clock
  let transferInvite ← mapErr
    (fun error =>
      .invalidInput ("room offer needs a valid directional InviteV2: " ++ describe error))
    (InviteV2.parseForRole self.transferInvite .receiver now)
  reject (routeDiffers transferInvite.publicContext expectedBroker expectedRelay)
    (.invalidInput "room offer transfer route differs from room control route")
  reject (self.directoryCount > self.itemCount)
    (.invalidInput "room offer directory count exceeds item count")
  reject (self.rootNames.length > maxRootPreviews)
    (.invalidInput "room offer has more than three root previews")
  self.rootNames.forM fun name =>
    reject (name = "" ∨ (asBytes name).length > maxRootNameBytes ∨ name = "." ∨ name = ".." ∨
        name.toList.any fun character => isControl character || character == '/' ||
          character == '\\')
      (.invalidInput "room offer contains an invalid root preview")

end Envoix.Room
