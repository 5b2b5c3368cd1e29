import Envoix.Foundation.Base64
import Envoix.Foundation.Json
import Envoix.Rendezvous.Broker

/-! # Directional invitations

Model of `envoix-invite/src/lib.rs`: Room codes, the public context of an invitation, its documents
and their canonical JSON, and `InviteV2::create`, `encode` and `parse`.  The libraries behind it are
parameters; what the crate relies on in them is a field of theirs. -/

namespace Envoix.Invite

open ByteCodec Fallible
open Envoix.Rendezvous (TransferRole InvitationSide BootstrapKind roomIdLen isAsciiDigit)

inductive InvitationError where
  | malformed (message : String)
  | oversized
  | expired
  | unsupportedVersion
  | unsupportedCapability (capability : String)
  | roleConflict
  | authenticationFailed
deriving DecidableEq

def inviteV2Prefix : String := "envoix://invite/v2/"
def inviteVersion : UInt32 := 2
def transferProtocolVersion : UInt32 := 1
def inviteTtlSecs : UInt64 := 5 * 60
def maxEncodedPayloadLen : Nat := 8 * 1024
def maxDecodedPayloadLen : Nat := 4 * 1024
def pakeSuite : String := "spake2-ed25519-sha256-hkdf-hmac"
def fullTicketMethod : String := "full-ticket-v1"
def roomCodeMethod : String := "room-code-v1"
def manifestV1Capability : String := "manifest-v1"
def inviteIdLen : Nat := 16
def ticketLen : Nat := 32
def roomSecretLen : Nat := 8

abbrev InviteId := ByteVector inviteIdLen
abbrev Commitment := ByteVector 32
abbrev TicketSecret := ByteVector ticketLen

/-- A derived password. -/
abbrev SecretString := String

/-! ## Text -/

/-- `str::split_once` -/
def splitOnce (separator : Char) (text : String) : Option (String × String) :=
  if separator ∈ text.toList then
    some (String.ofList (text.toList.takeWhile (· ≠ separator)),
      String.ofList ((text.toList.dropWhile (· ≠ separator)).tail))
  else none

/-- `str::starts_with` -/
def startsWith (start text : String) : Bool := start.toList.isPrefixOf text.toList

/-- `str::strip_prefix` -/
def stripPrefix (start text : String) : Option String :=
  if startsWith start text then
    some (String.ofList (text.toList.drop start.toList.length))
  else none

/-! ## Room codes -/

structure RoomCode where
  text : String
deriving DecidableEq

namespace RoomCode

def canonical (self : RoomCode) : String := self.text

def roomId (self : RoomCode) : String := String.ofList (self.text.toList.take roomIdLen)

def isSecretCharacter (character : Char) : Bool := character.isDigit || character.isLower

/-- The code of fourteen characters without separators. -/
def ofCompact (compact : List Char) : RoomCode :=
  ⟨String.ofList (compact.take 6 ++
    '-' :: ((compact.drop 6).take 4 ++ '-' :: (compact.drop 10).take 4))⟩

def parse (input : String) : Except InvitationError RoomCode := do
  let characters := input.toList
  reject (¬ characters.all fun character => character.toNat < 128)
    (.malformed "Room Code must contain only ASCII")
  let compact ←
    if characters.length = 14 ∧ '-' ∉ characters then .ok (characters.map Char.toLower)
    else if characters.length = 16 ∧ characters[6]? = some '-' ∧ characters[11]? = some '-' then
      .ok ((characters.take 6 ++ (characters.drop 7).take 4 ++ (characters.drop 12).take 4).map
        Char.toLower)
    else .error (.malformed "Room Code must be dddddd-xxxx-xxxx")
  reject (compact.length ≠ roomIdLen + roomSecretLen ∨ ¬ (compact.take roomIdLen).all Char.isDigit ∨
      ¬ (compact.drop roomIdLen).all isSecretCharacter)
    (.malformed "Room Code contains invalid characters")
  return ofCompact compact

end RoomCode

/-! ## Entropy -/

/-- What the entropy source delivers; it fails when it runs dry. -/
abbrev Entropy (α : Type) := Reader InvitationError α

def fillRandom (length : Nat) : Entropy (ByteVector length) :=
  array (.malformed "entropy source unavailable") length

/-- Draws until a byte is below the largest multiple of `upper`. -/
def sampleBelow (upper : UInt8) : Bytes → Except InvitationError (UInt8 × Bytes)
  | [] => .error (.malformed "entropy source unavailable")
  | byte :: rest =>
    if byte < 255 - 255 % upper then .ok (byte % upper, rest) else sampleBelow upper rest

def sampleMany (upper : UInt8) : Nat → Entropy (List UInt8)
  | 0 => pure []
  | count + 1 => do
    let sample ← sampleBelow upper
    let rest ← sampleMany upper count
    return sample :: rest

def decimalCharacter (value : UInt8) : Char := Nat.digitChar value.toNat

def base36Character (value : UInt8) : Char :=
  if value ≤ 9 then Char.ofNat ('0'.toNat + value.toNat)
  else Char.ofNat ('a'.toNat + value.toNat - 10)

def RoomCode.generate : Entropy RoomCode := do
  let pairs ← sampleMany 100 (roomIdLen / 2)
  let secret ← sampleMany 36 roomSecretLen
  return RoomCode.ofCompact
    ((pairs.flatMap fun value => [decimalCharacter (value / 10), decimalCharacter (value % 10)]) ++
    secret.map base36Character)

/-! ## Public context -/

structure Capabilities where
  required : List String
  optional : List String
deriving DecidableEq

def Capabilities.current : Capabilities := { required := [], optional := [manifestV1Capability] }

def isCapabilityCharacter (character : Char) : Bool :=
  character.isLower || character.isDigit || character == '-'

def validateCapabilityList (capabilities : List String) : Except InvitationError Unit := do
  reject (¬ (capabilities.zip capabilities.tail).all fun (left, right) => left < right)
    (.malformed "capabilities must be unique and sorted by ASCII byte order")
  capabilities.forM fun name =>
    reject (name.toList = [] ∨ (asBytes name).length > 64 ∨
        ¬ name.toList.head?.any (fun first => first.isLower || first.isDigit) ∨
        ¬ name.toList.all isCapabilityCharacter)
      (.malformed "invalid capability name")

def Capabilities.validate (self : Capabilities) : Except InvitationError Unit := do
  validateCapabilityList self.required
  validateCapabilityList self.optional
  reject (∃ name ∈ self.optional, name ∈ self.required)
    (.malformed "capability is both required and optional")
  self.required.forM fun capability =>
    reject (capability ≠ manifestV1Capability) (.unsupportedCapability capability)

inductive BootstrapMethod where
  | fullTicket (ticketCommitment : Commitment)
  | roomCode (roomId : String)
deriving DecidableEq

def BootstrapMethod.id : BootstrapMethod → String
  | .fullTicket _ => fullTicketMethod
  | .roomCode _ => roomCodeMethod

structure InvitationPublicContext where
  version : UInt32
  inviteId : InviteId
  protocolVersion : UInt32
  creatorTransferRole : TransferRole
  joinerTransferRole : TransferRole
  broker : String
  relayUrls : List String
  capabilities : Capabilities
  expiresAt : UInt64
  bootstrapMethods : List BootstrapMethod
deriving DecidableEq

structure InviteV2 where
  publicContext : InvitationPublicContext
  contextCommitment : Commitment
  ticket : TicketSecret
deriving DecidableEq

/-! ## Socket addresses

`SocketAddr::from_str` of the standard library, as far as to what it accepts. -/

namespace SocketAddr

def toDigit (radix : Nat) (character : Char) : Option Nat :=
  let value :=
    if character.isDigit then some (character.toNat - '0'.toNat)
    else if character.isLower then some (character.toNat - 'a'.toNat + 10)
    else if character.isUpper then some (character.toNat - 'A'.toNat + 10)
    else none
  value.filter (· < radix)

def readGivenChar (target : Char) : List Char → Option (List Char)
  | [] => none
  | head :: rest => if head = target then some rest else none

/-- A number below `limit` and what follows it. -/
def readNumber (radix limit : Nat) (maxDigits : Option Nat) (allowZeroPrefix : Bool)
    (input : List Char) :
    Option (List Char) :=
  let digits := input.takeWhile fun character => (toDigit radix character).isSome
  let value :=
    (digits.filterMap (toDigit radix)).foldl (fun result digit => result * radix + digit) 0
  if digits = [] ∨ maxDigits.any (fun most => digits.length > most) then none
  else if !allowZeroPrefix ∧ digits.head? = some '0' ∧ digits.length > 1 then none
  else if value < limit then some (input.drop digits.length)
  else none

def readSeparator (separator : Char) (index : Nat) (input : List Char) : Option (List Char) :=
  if index > 0 then readGivenChar separator input else some input

def readOctet (index : Nat) (input : List Char) : Option (List Char) :=
  (readSeparator '.' index input).bind (readNumber 10 256 (some 3) false)

def readIpv4Addr (input : List Char) : Option (List Char) := do
  let input ← readOctet 0 input
  let input ← readOctet 1 input
  let input ← readOctet 2 input
  readOctet 3 input

/-- How many groups of an IPv6 address are read, and whether an IPv4 address closed them. -/
def readGroups : Nat → Nat → List Char → Nat × Bool × List Char
  | 0, index, input => (index, false, input)
  | left + 1, index, input =>
    -- an embedded IPv4 address takes two groups
    match if left > 0 then (readSeparator ':' index input).bind readIpv4Addr else none with
    | some rest => (index + 2, true, rest)
    | none =>
      match (readSeparator ':' index input).bind (readNumber 16 65536 (some 4) true) with
      | some rest => readGroups left (index + 1) rest
      | none => (index, false, input)

def readIpv6Addr (input : List Char) : Option (List Char) :=
  let (headSize, headIpv4, rest) := readGroups 8 0 input
  if headSize = 8 then some rest
  else if headIpv4 then none
  else do
    let rest ← readGivenChar ':' rest
    let rest ← readGivenChar ':' rest
    return (readGroups (8 - (headSize + 1)) 0 rest).2.2

def readPort (input : List Char) : Option (List Char) :=
  (readGivenChar ':' input).bind (readNumber 10 65536 none true)

def readScopeId (input : List Char) : Option (List Char) :=
  (readGivenChar '%' input).bind (readNumber 10 (2 ^ 32) none true)

def readSocketAddrV4 (input : List Char) : Option (List Char) := (readIpv4Addr input).bind readPort

def readSocketAddrV6 (input : List Char) : Option (List Char) := do
  let input ← readGivenChar '[' input
  let input ← readIpv6Addr input
  let input := (readScopeId input).getD input
  let input ← readGivenChar ']' input
  readPort input

def accepts (text : String) : Bool :=
  (readSocketAddrV4 text.toList <|> readSocketAddrV6 text.toList) == some []

end SocketAddr

/-! ## Documents

The fields of a document are written in the order of their keys, as `serde_json`'s map keeps
them. -/

structure BootstrapDocument where
  id : String
  pake : String
  ticketCommitment : Option String
  roomId : Option String
deriving DecidableEq

structure PresentedCredential where
  method : String
  ticket : String
deriving DecidableEq

structure PublicContextDocument where
  version : UInt32
  inviteId : String
  protocolVersion : UInt32
  creatorTransferRole : TransferRole
  joinerTransferRole : TransferRole
  broker : String
  relayUrls : List String
  capabilities : Capabilities
  expiresAt : UInt64
  bootstrapMethods : List BootstrapDocument
deriving DecidableEq

structure InviteDocument where
  version : UInt32
  inviteId : String
  protocolVersion : UInt32
  creatorTransferRole : TransferRole
  joinerTransferRole : TransferRole
  broker : String
  relayUrls : List String
  capabilities : Capabilities
  expiresAt : UInt64
  bootstrapMethods : List BootstrapDocument
  contextCommitment : String
  presentedCredential : PresentedCredential
deriving DecidableEq

def roleValue : TransferRole → Json.Value
  | .sender => .string "sender"
  | .receiver => .string "receiver"

def textsValue (texts : List String) : Json.Value := .array (texts.map .string)

def Capabilities.toValue (self : Capabilities) : Json.Value :=
  .object [("optional", textsValue self.optional), ("required", textsValue self.required)]

/-- A field that is left out when it is `None`. -/
def optionalField (key : String) : Option String → List (String × Json.Value)
  | none => []
  | some text => [(key, .string text)]

def BootstrapDocument.toValue (self : BootstrapDocument) : Json.Value :=
  .object ([("id", .string self.id), ("pake", .string self.pake)] ++
    optionalField "room_id" self.roomId ++ optionalField "ticket_commitment" self.ticketCommitment)

def PresentedCredential.toValue (self : PresentedCredential) : Json.Value :=
  .object [("method", .string self.method), ("ticket", .string self.ticket)]

def PublicContextDocument.toValue (self : PublicContextDocument) : Json.Value :=
  .object [
    ("bootstrap_methods", .array (self.bootstrapMethods.map BootstrapDocument.toValue)),
    ("broker", .string self.broker),
    ("capabilities", self.capabilities.toValue),
    ("creator_transfer_role", roleValue self.creatorTransferRole),
    ("expires_at", .number self.expiresAt.toNat),
    ("invite_id", .string self.inviteId),
    ("joiner_transfer_role", roleValue self.joinerTransferRole),
    ("protocol_version", .number self.protocolVersion.toNat),
    ("relay_urls", textsValue self.relayUrls),
    ("version", .number self.version.toNat)]

def InviteDocument.toValue (self : InviteDocument) : Json.Value :=
  .object [
    ("bootstrap_methods", .array (self.bootstrapMethods.map BootstrapDocument.toValue)),
    ("broker", .string self.broker),
    ("capabilities", self.capabilities.toValue),
    ("context_commitment", .string self.contextCommitment),
    ("creator_transfer_role", roleValue self.creatorTransferRole),
    ("expires_at", .number self.expiresAt.toNat),
    ("invite_id", .string self.inviteId),
    ("joiner_transfer_role", roleValue self.joinerTransferRole),
    ("presented_credential", self.presentedCredential.toValue),
    ("protocol_version", .number self.protocolVersion.toNat),
    ("relay_urls", textsValue self.relayUrls),
    ("version", .number self.version.toNat)]

def jcsPublicDocument (document : PublicContextDocument) : Bytes := Json.render document.toValue

def jcsDocument (document : InviteDocument) : Bytes := Json.render document.toValue

/-- The libraries the crate is built on.  `serde_json` reads a document back from the text it wrote;
of the parsers of `iroh` only what they accept matters, and when two relay URLs are the same. -/
class Libraries where
  sha256 : Bytes → ByteVector 32
  hkdfSha256 : Bytes → Bytes → Bytes → ByteVector 32
  base64 : Base64Url
  isEndpointId : String → Bool
  RelayUrl : Type
  decideRelayUrl : DecidableEq RelayUrl
  parseRelayUrl : String → Option RelayUrl
  readInvite : Bytes → Except String InviteDocument
  readContext : Bytes → Except String PublicContextDocument
  readInvite_jcs : ∀ document, readInvite (jcsDocument document) = .ok document
  readContext_jcs : ∀ document, readContext (jcsPublicDocument document) = .ok document

variable [Libraries]

open Libraries

instance : DecidableEq (RelayUrl) := decideRelayUrl

def malformed (message : String) : InvitationError := .malformed message

def validateRoomId (value : String) : Except InvitationError Unit :=
  reject (¬ (value.toList.length = roomIdLen ∧ value.toList.all Char.isDigit))
    (malformed "room_id must contain exactly six digits")

/-- `field` names the text in the errors. -/
def decodeFixed (length : Nat) (value field : String) :
    Except InvitationError (ByteVector length) := do
  reject ('=' ∈ value.toList) (malformed (field ++ " must use unpadded base64url"))
  let decoded ← okOr (base64.decode value) (malformed ("invalid " ++ field))
  if fits : decoded.length = length then return ⟨decoded, fits⟩
  else throw (malformed (field ++ " has the wrong length"))

def BootstrapDocument.fromMethod : BootstrapMethod → BootstrapDocument
  | .fullTicket ticketCommitment =>
    { id := fullTicketMethod, pake := pakeSuite,
      ticketCommitment := some (base64.encode ticketCommitment.toList)
      roomId := none }
  | .roomCode roomId =>
    { id := roomCodeMethod, pake := pakeSuite, ticketCommitment := none, roomId := some roomId }

def BootstrapDocument.intoMethod (self : BootstrapDocument) :
    Except InvitationError BootstrapMethod := do
  reject (self.pake ≠ pakeSuite) (.unsupportedCapability self.pake)
  if self.id = fullTicketMethod then do
    reject self.roomId.isSome (malformed "full-ticket bootstrap contains room_id")
    let commitment ← okOr self.ticketCommitment (malformed "full-ticket commitment is missing")
    return .fullTicket (← decodeFixed 32 commitment "ticket_commitment")
  else if self.id = roomCodeMethod then do
    reject self.ticketCommitment.isSome (malformed "room-code bootstrap contains ticket commitment")
    let roomId ← okOr self.roomId (malformed "room-code room_id is missing")
    validateRoomId roomId
    return .roomCode roomId
  else throw (.unsupportedCapability self.id)

def PublicContextDocument.fromContext (context : InvitationPublicContext) :
    PublicContextDocument where
  version := context.version
  inviteId := base64.encode context.inviteId.toList
  protocolVersion := context.protocolVersion
  creatorTransferRole := context.creatorTransferRole
  joinerTransferRole := context.joinerTransferRole
  broker := context.broker
  relayUrls := context.relayUrls
  capabilities := context.capabilities
  expiresAt := context.expiresAt
  bootstrapMethods := context.bootstrapMethods.map BootstrapDocument.fromMethod

def PublicContextDocument.intoContext (self : PublicContextDocument) :
    Except InvitationError InvitationPublicContext := do
  let inviteId ← decodeFixed inviteIdLen self.inviteId "invite_id"
  let bootstrapMethods ← self.bootstrapMethods.mapM BootstrapDocument.intoMethod
  return {
    version := self.version
    inviteId
    protocolVersion := self.protocolVersion
    creatorTransferRole := self.creatorTransferRole
    joinerTransferRole := self.joinerTransferRole
    broker := self.broker
    relayUrls := self.relayUrls
    capabilities := self.capabilities
    expiresAt := self.expiresAt
    bootstrapMethods }

def InviteDocument.fromInvitation (invitation : InviteV2) : InviteDocument where
  version := invitation.publicContext.version
  inviteId := base64.encode invitation.publicContext.inviteId.toList
  protocolVersion := invitation.publicContext.protocolVersion
  creatorTransferRole := invitation.publicContext.creatorTransferRole
  joinerTransferRole := invitation.publicContext.joinerTransferRole
  broker := invitation.publicContext.broker
  relayUrls := invitation.publicContext.relayUrls
  capabilities := invitation.publicContext.capabilities
  expiresAt := invitation.publicContext.expiresAt
  bootstrapMethods := invitation.publicContext.bootstrapMethods.map BootstrapDocument.fromMethod
  contextCommitment := base64.encode invitation.contextCommitment.toList
  presentedCredential :=
    { method := fullTicketMethod, ticket := base64.encode invitation.ticket.toList }

def InviteDocument.intoInvitation (self : InviteDocument) : Except InvitationError InviteV2 := do
  reject (self.presentedCredential.method ≠ fullTicketMethod)
    (malformed "full invitation selected an invalid credential")
  let inviteId ← decodeFixed inviteIdLen self.inviteId "invite_id"
  let contextCommitment ← decodeFixed 32 self.contextCommitment "context_commitment"
  let ticket ← decodeFixed ticketLen self.presentedCredential.ticket "ticket"
  let bootstrapMethods ← self.bootstrapMethods.mapM BootstrapDocument.intoMethod
  return {
    publicContext := {
      version := self.version
      inviteId
      protocolVersion := self.protocolVersion
      creatorTransferRole := self.creatorTransferRole
      joinerTransferRole := self.joinerTransferRole
      broker := self.broker
      relayUrls := self.relayUrls
      capabilities := self.capabilities
      expiresAt := self.expiresAt
      bootstrapMethods }
    contextCommitment
    ticket }

/-! ## Validation -/

def validateBroker (value : String) : Except InvitationError Unit := do
  let (endpointId, address) ← okOr (splitOnce '@' value)
    (malformed "broker must be <endpoint-id>@<ip:port>")
  reject (¬ isEndpointId endpointId) (malformed "invalid broker endpoint id")
  reject (¬ SocketAddr.accepts address) (malformed "invalid broker socket address")

/-- `seen` are the URLs accepted so far. -/
def validateRelaysAfter (seen : List RelayUrl) : List String → Except InvitationError Unit
  | [] => .ok ()
  | relay :: relays => do
    let parsed ← okOr (parseRelayUrl relay) (malformed "invalid relay URL")
    reject (parsed ∈ seen) (malformed "duplicate relay URL")
    validateRelaysAfter (parsed :: seen) relays

def validateRelays (relays : List String) : Except InvitationError Unit :=
  validateRelaysAfter [] relays

/-- `seen` are the ids of the methods before. -/
def validateMethodsAfter (seen : List String) : List BootstrapMethod → Except InvitationError Unit
  | [] => .ok ()
  | method :: methods => do
    reject (method.id ∈ seen) (malformed "duplicate bootstrap method")
    match method with
    | .roomCode roomId => validateRoomId roomId
    | .fullTicket _ => .ok ()
    validateMethodsAfter (method.id :: seen) methods

def validatePublicContext (context : InvitationPublicContext) (now : UInt64) :
    Except InvitationError Unit := do
  reject (context.version ≠ inviteVersion ∨ context.protocolVersion ≠ transferProtocolVersion)
    .unsupportedVersion
  reject (context.creatorTransferRole.complement ≠ context.joinerTransferRole) .roleConflict
  reject (context.expiresAt ≤ now) .expired
  validateBroker context.broker
  validateRelays context.relayUrls
  context.capabilities.validate
  reject (context.bootstrapMethods.map BootstrapMethod.id ≠ [fullTicketMethod, roomCodeMethod])
    (malformed "bootstrap methods must be full-ticket-v1 then room-code-v1")
  validateMethodsAfter [] context.bootstrapMethods

/-! ## Invitations -/

def jcsContext (context : InvitationPublicContext) : Bytes :=
  jcsPublicDocument (PublicContextDocument.fromContext context)

def commitmentForContext (context : InvitationPublicContext) : Commitment :=
  sha256 (jcsContext context)

def TicketSecret.commitment (ticket : TicketSecret) : Commitment := sha256 ticket.toList

structure CreatedInvitation where
  payload : String
  roomCode : RoomCode
  creatorRole : TransferRole
  joinerRole : TransferRole
  expiresAt : UInt64
  invitation : InviteV2

namespace InviteV2

def encode (self : InviteV2) : Except InvitationError String := do
  let bytes := jcsDocument (InviteDocument.fromInvitation self)
  reject (bytes.length > maxDecodedPayloadLen) .oversized
  let encoded := base64.encode bytes
  reject ((asBytes encoded).length > maxEncodedPayloadLen) .oversized
  return inviteV2Prefix ++ encoded

/-- The commitment of the full-ticket method. -/
def advertisedTicket (methods : List BootstrapMethod) : Option Commitment :=
  methods.findSome? fun method =>
    match method with
    | .fullTicket ticketCommitment => some ticketCommitment
    | .roomCode _ => none

def parse (input : String) (now : UInt64) : Except InvitationError InviteV2 := do
  reject (startsWith "envoix:" input ∧ ¬ startsWith inviteV2Prefix input ∨
    startsWith "envoix://pair/" input)
    .unsupportedVersion
  let encoded ← okOr (stripPrefix inviteV2Prefix input) (malformed "missing InviteV2 prefix")
  reject ((asBytes encoded).length > maxEncodedPayloadLen) .oversized
  reject (encoded = "" ∨ '=' ∈ encoded.toList) (malformed "payload must be unpadded base64url")
  let decoded ← okOr (base64.decode encoded) (malformed "invalid base64url payload")
  reject (decoded.length > maxDecodedPayloadLen) .oversized
  let document ← mapErr (fun error => malformed ("invalid invitation JSON: " ++ error))
    (readInvite decoded)
  reject (jcsDocument document ≠ decoded) (malformed "invitation JSON is not canonical JCS")
  let invitation ← document.intoInvitation
  validatePublicContext invitation.publicContext now
  reject (commitmentForContext invitation.publicContext ≠ invitation.contextCommitment)
    .authenticationFailed
  let advertised ← okOr (advertisedTicket invitation.publicContext.bootstrapMethods)
    (malformed "full-ticket bootstrap is missing")
  reject (TicketSecret.commitment invitation.ticket ≠ advertised) .authenticationFailed
  return invitation

def parseForRole (input : String) (localRole : TransferRole) (now : UInt64) :
    Except InvitationError InviteV2 := do
  let invitation ← parse input now
  reject (invitation.publicContext.joinerTransferRole ≠ localRole) .roleConflict
  return invitation

/-- The random parts come from the entropy source in the order they are drawn. -/
def create (broker : String) (relayUrls : List String) (creatorRole : TransferRole)
    (capabilities : Capabilities) (now : UInt64) : Entropy CreatedInvitation := do
  let expiresAt ← lift (okOr (checkedAdd64 now inviteTtlSecs)
    (malformed "invitation expiry overflow"))
  let inviteId ← fillRandom inviteIdLen
  let ticket ← fillRandom ticketLen
  let roomCode ← RoomCode.generate
  let publicContext : InvitationPublicContext := {
    version := inviteVersion
    inviteId
    protocolVersion := transferProtocolVersion
    creatorTransferRole := creatorRole
    joinerTransferRole := creatorRole.complement
    broker
    relayUrls
    capabilities
    expiresAt
    bootstrapMethods := [.fullTicket (TicketSecret.commitment ticket), .roomCode roomCode.roomId] }
  lift (validatePublicContext publicContext now)
  let invitation : InviteV2 :=
    { publicContext, contextCommitment := commitmentForContext publicContext, ticket }
  let payload ← lift invitation.encode
  return { payload, roomCode, creatorRole, joinerRole := creatorRole.complement, expiresAt,
           invitation }

end InviteV2

end Envoix.Invite
