import Envoix.Foundation.SocketAddress
import Envoix.Room.Invite

/-! # The route to a nearby inbox

What `nearby_invite.rs` says of an inbox, what the two mobile platforms advertise of it over DNS-SD,
and what they make of each other's advertisements: `NearbyInviteRoute` and its neighbours in
`DiscoveryModels.kt`, `MdnsDiscoveryProvider.kt` and `NearbyDiscoveryModels.swift`. -/

namespace Envoix.Discovery

open ByteCodec Fallible Text SocketAddress
open Envoix.Room (CoreError)

/-! ## The inbox -/

/-- Endpoint identifiers and relay addresses of iroh. -/
class IrohText where
  EndpointId : Type
  RelayUrl : Type
  showId : EndpointId → List Char
  /-- An error is given by its text. -/
  parseId : List Char → Except String EndpointId
  showRelay : RelayUrl → List Char
  parseRelay : List Char → Except String RelayUrl

export IrohText (EndpointId RelayUrl showId parseId showRelay parseRelay)

inductive TransportAddr [IrohText] where
  | relay (url : RelayUrl)
  | ip (address : SocketAddr)

structure EndpointAddr [IrohText] where
  id : EndpointId
  addrs : List TransportAddr

structure NearbyInviteEndpoint where
  endpointId : List Char
  relayUrl : Option (List Char)
  directAddresses : List (List Char)
deriving DecidableEq

def maxNearbyEndpointIdBytes : Nat := 128
def maxNearbyRelayUrlBytes : Nat := 512
def maxNearbyDirectAddresses : Nat := 8
def maxNearbyDirectAddressBytes : Nat := 128

/-- What all three parts of a route must be: not empty, not too long, and without spaces around. -/
def unsuitable (text : List Char) (maxBytes : Nat) : Bool :=
  text = [] ∨ (utf8 text).length > maxBytes ∨ strip isWhiteSpace text ≠ text

/-- `Debug` of a character in a text.  Marks that join the character before them and characters
without a meaning go by their number too, which only an error text tells apart. -/
def escapeDebug (character : Char) : List Char :=
  match character with
  | '\x00' => ['\\', '0']
  | '\t' => ['\\', 't']
  | '\r' => ['\\', 'r']
  | '\n' => ['\\', 'n']
  | '"' => ['\\', '"']
  | '\\' => ['\\', '\\']
  | other =>
    if isControl other ∨ isFormat other ∨ isWhiteSpace other ∧ other ≠ ' ' then
      "\\u\x7b".toList ++ Nat.toDigits 16 other.toNat ++ "\x7d".toList
    else [other]

/-- `Debug` of a text. -/
def quoted (text : List Char) : String := "\"" ++ String.ofList (text.flatMap escapeDebug) ++ "\""

def readDirect (seen : List SocketAddr) (encoded : List Char) :
    Except CoreError (List SocketAddr) := do
  reject (unsuitable encoded maxNearbyDirectAddressBytes)
    (.invalidInput "invalid nearby invitation direct route")
  let address ← okOr (parseAddr encoded)
    (.invalidInput ("invalid nearby invitation direct route " ++ quoted encoded))
  reject (address.port = 0 ∨ address.isUnspecified ∨ address.isMulticast)
    (.invalidInput ("nearby invitation direct route is not connectable: " ++ String.ofList encoded))
  reject (showAddr address ≠ encoded)
    (.invalidInput ("nearby invitation direct route is not canonical: " ++ String.ofList encoded))
  reject (address ∈ seen) (.invalidInput "nearby invitation endpoint repeats a direct route")
  return seen ++ [address]

section Inbox

variable [IrohText]

def EndpointAddr.relayUrls (address : EndpointAddr) : List RelayUrl :=
  address.addrs.filterMap fun
    | .relay url => some url
    | .ip _ => none

def EndpointAddr.ipAddrs (address : EndpointAddr) : List SocketAddr :=
  address.addrs.filterMap fun
    | .relay _ => none
    | .ip address => some address

def readRelay (relayUrl : Option (List Char)) : Except CoreError (Option RelayUrl) :=
  match relayUrl with
  | none => .ok none
  | some encoded => do
    reject (unsuitable encoded maxNearbyRelayUrlBytes)
      (.invalidInput "invalid nearby invitation relay route")
    let relay ← mapErr (fun error =>
      .invalidInput ("invalid nearby invitation relay route: " ++ error)) (parseRelay encoded)
    return some relay

def NearbyInviteEndpoint.toEndpointAddr (endpoint : NearbyInviteEndpoint) :
    Except CoreError EndpointAddr := do
  reject (unsuitable endpoint.endpointId maxNearbyEndpointIdBytes)
    (.invalidInput "invalid nearby invitation endpoint id")
  let endpointId ← mapErr (fun error =>
    .invalidInput ("invalid nearby invitation endpoint id: " ++ error))
    (parseId endpoint.endpointId)
  reject (endpoint.directAddresses.length > maxNearbyDirectAddresses)
    (.invalidInput "nearby invitation endpoint has more than 8 direct routes")
  let directAddresses ← endpoint.directAddresses.foldlM readDirect []
  let relay ← readRelay endpoint.relayUrl
  reject (directAddresses.isEmpty ∧ relay.isNone)
    (.invalidInput "nearby invitation endpoint has no connectable route")
  return ⟨endpointId, directAddresses.map .ip ++ relay.toList.map .relay⟩

def NearbyInviteEndpoint.fromEndpointAddr (address : EndpointAddr) :
    Except CoreError NearbyInviteEndpoint := do
  let relayUrls := address.relayUrls.map showRelay
  reject (relayUrls.length > 1)
    (.invalidInput "nearby invitation endpoint has more than one relay route")
  let endpoint : NearbyInviteEndpoint :=
    { endpointId := showId address.id, relayUrl := relayUrls.head?,
      directAddresses := address.ipAddrs.map showAddr }
  let _ ← endpoint.toEndpointAddr
  return endpoint

end Inbox

/-! ## What is advertised -/

structure NearbyInviteRoute where
  endpointId : List Char
  relayUrl : Option (List Char)
  directAddresses : List (List Char)
deriving DecidableEq

/-- The inbox that a route leads to. -/
def NearbyInviteRoute.endpoint (route : NearbyInviteRoute) : NearbyInviteEndpoint where
  endpointId := route.endpointId
  relayUrl := route.relayUrl
  directAddresses := route.directAddresses

/-- The record of an advertised service. -/
abbrev TxtRecord := List (List Char × List Char)

def txtVersion : List Char := ['v']
def txtPeerKey : List Char := ['i', 'd']
def txtDisplayName : List Char := ['n', 'a', 'm', 'e']
def txtInboxEndpoint : List Char := ['i', 'b', 'o', 'x']
def txtInboxRelay : List Char := ['i', 'r', 'e', 'l', 'a', 'y']
def txtInboxAddress (index : Nat) : List Char := ['i', 'a', 'd', 'd', 'r'] ++ Nat.toDigits 10 index
def protocolVersion : List Char := ['1']

/-- The attributes of a route.  Both platforms write the same. -/
def nearbyInviteTxtAttributes (route : NearbyInviteRoute) : TxtRecord :=
  (txtInboxEndpoint, route.endpointId) ::
    (route.relayUrl.toList.map fun url => (txtInboxRelay, url)) ++
    route.directAddresses.zipIdx.map fun (address, index) => (txtInboxAddress index, address)

/-- What a device says of itself; Apple devices leave out a name of spaces. -/
structure Presence where
  peerKey : List Char
  displayName : Option (List Char)

def Presence.txtRecord (presence : Presence) (route : NearbyInviteRoute) : TxtRecord :=
  (txtVersion, protocolVersion) :: (txtPeerKey, presence.peerKey) ::
    (presence.displayName.toList.map fun name => (txtDisplayName, name)) ++
      nearbyInviteTxtAttributes route

def maxRouteAddresses : Nat := 4
def maxRouteAddressBytes : Nat := 128
def maxRouteRelayBytes : Nat := 248

def isHexKey (key : List Char) : Bool :=
  key.length = 16 ∧ key.all fun character => ('0' ≤ character ∧ character ≤ '9') ∨
    ('a' ≤ character ∧ character ≤ 'f')

/-! ### Android -/

namespace Android

def trim (text : List Char) : List Char :=
  strip (fun character => isJvmWhitespace character.toNat) text

/-- `^[a-z2-7]{52}$` -/
def isBase32Id (text : List Char) : Bool :=
  text.length = 52 ∧ text.all fun character => ('a' ≤ character ∧ character ≤ 'z') ∨
    ('2' ≤ character ∧ character ≤ '7')

/-- Only ASCII letters have lower cases that matter here. -/
def lowercase (text : List Char) : List Char := text.map Char.toLower

def normalizeNearbyInboxEndpointId (value : Option (List Char)) : Option (List Char) :=
  (value.map fun value => lowercase (trim value)).filter isBase32Id

def normalizeRouteComponent (value : Option (List Char)) (maxUtf8Bytes : Nat) :
    Option (List Char) :=
  ((value.map trim).filter (· ≠ [])).filter fun candidate =>
    (utf8 candidate).length ≤ maxUtf8Bytes ∧
      candidate.all fun character => ¬ (isControl character ∨ isJvmWhitespace character.toNat)

def normalized (endpointId relayUrl : Option (List Char)) (directAddresses : List (List Char)) :
    Option NearbyInviteRoute := do
  let normalizedEndpoint ← normalizeNearbyInboxEndpointId endpointId
  let normalizedRelay := normalizeRouteComponent relayUrl maxRouteRelayBytes
  let normalizedAddresses := ((directAddresses.filterMap fun value =>
    normalizeRouteComponent (some value) maxRouteAddressBytes).eraseDups).take maxRouteAddresses
  if normalizedRelay = none ∧ normalizedAddresses = [] then none
  else some ⟨normalizedEndpoint, normalizedRelay, normalizedAddresses⟩

def isBlank (text : List Char) : Bool := text.all fun character => isJvmWhitespace character.toNat

/-- The route of the inbox that has started. -/
def nearbyInviteRoute (endpoint : NearbyInviteEndpoint) : Option NearbyInviteRoute :=
  normalized (some endpoint.endpointId) endpoint.relayUrl
    ((endpoint.directAddresses.take maxRouteAddresses).filter fun address => ¬ isBlank address)

def attributeString (record : TxtRecord) (key : List Char) : Option (List Char) :=
  ((record.lookup key).map trim).filter fun value => ¬ isBlank value

def parseNearbyInviteTxtAttributes (value : List Char → Option (List Char)) :
    Option NearbyInviteRoute :=
  normalized (value txtInboxEndpoint) (value txtInboxRelay)
    ((List.range maxRouteAddresses).filterMap fun index => value (txtInboxAddress index))

end Android

/-! ### Apple devices -/

namespace Apple

def trimmed (text : List Char) : List Char := strip isWhiteSpace text

def maximumInboxEndpointIDLength : Nat := 80

def normalizeInboxEndpointID (value : List Char) : Option (List Char) :=
  let normalized := trimmed value
  if normalized ≠ [] ∧ normalized.length ≤ maximumInboxEndpointIDLength ∧
    normalized.all Char.isAlphanum then
    some normalized
  else none

def normalizeWireValue (value : List Char) (maximumUTF8Bytes : Nat) : Option (List Char) :=
  let normalized := trimmed value
  if normalized ≠ [] ∧ (utf8 normalized).length ≤ maximumUTF8Bytes ∧
      normalized.all fun character => ¬ isWhiteSpace character ∧
        ¬ (isControl character ∨ isFormat character) then
    some normalized
  else none

/-- An absent relay is no refusal, a bad one is. -/
def normalizeRelayURL (relayURL : Option (List Char)) : Option (Option (List Char)) :=
  match relayURL with
  | none => some none
  | some relayURL => (normalizeWireValue relayURL maxRouteRelayBytes).map some

def route (endpointID : List Char) (relayURL : Option (List Char))
    (directAddresses : List (List Char)) :
    Option NearbyInviteRoute := do
  let endpointID ← normalizeInboxEndpointID endpointID
  let normalizedRelayURL ← normalizeRelayURL relayURL
  if ¬ directAddresses.length ≤ maxRouteAddresses then none
  else do
    let values ← directAddresses.mapM fun address => normalizeWireValue address maxRouteAddressBytes
    let normalizedDirectAddresses := values.eraseDups
    if normalizedRelayURL = none ∧ normalizedDirectAddresses = [] then none
    else some ⟨endpointID, normalizedRelayURL, normalizedDirectAddresses⟩

/-- The route of the inbox that has started. -/
def inboxRoute (endpoint : NearbyInviteEndpoint) : Option NearbyInviteRoute :=
  route endpoint.endpointId endpoint.relayUrl (endpoint.directAddresses.take maxRouteAddresses)

def normalizePeerKey (value : List Char) : Option (List Char) :=
  let normalized := (trimmed value).map Char.toLower
  if isHexKey normalized then some normalized else none

/-- `NearbyDiscoveryBonjourRecord`, as far as its route. -/
def inviteRoute (record : TxtRecord) : Option NearbyInviteRoute :=
  if record.lookup txtVersion = some protocolVersion ∧
    ((record.lookup txtPeerKey).bind normalizePeerKey).isSome then
    (record.lookup txtInboxEndpoint).bind fun endpointID =>
      route endpointID (record.lookup txtInboxRelay)
        ((List.range maxRouteAddresses).filterMap fun index =>
          record.lookup (txtInboxAddress index))
  else none

end Apple

inductive Platform where
  | android
  | apple
deriving DecidableEq

def advertise (platform : Platform) (endpoint : NearbyInviteEndpoint) : Option NearbyInviteRoute :=
  match platform with
  | .android => Android.nearbyInviteRoute endpoint
  | .apple => Apple.inboxRoute endpoint

def browse (platform : Platform) (record : TxtRecord) : Option NearbyInviteRoute :=
  match platform with
  | .android => Android.parseNearbyInviteTxtAttributes (Android.attributeString record)
  | .apple => Apple.inviteRoute record

/-! ## Values that pass both platforms -/

theorem length_utf8_of_graphic {text : List Char} (graphic : Graphic text) :
    (utf8 text).length = text.length := by
  rw [utf8_ascii fun character listed => (isGraphic_kinds (graphic character listed)).1,
    List.length_map]

/-- Digits of either form of an identifier. -/
def isIdDigit (character : Char) : Bool :=
  ('0' ≤ character ∧ character ≤ '9') ∨ ('a' ≤ character ∧ character ≤ 'z')

theorem isIdDigit_kinds {character : Char} (digit : isIdDigit character = true) :
    isGraphic character = true ∧ character.isAlphanum = true ∧ character.toLower = character := by
  have checked : ∀ value : Fin 123, isIdDigit (Char.ofNat value) = true →
      isGraphic (Char.ofNat value) = true ∧
      (Char.ofNat value).isAlphanum = true ∧
      (Char.ofNat value).toLower = Char.ofNat value := by decide
  have small : character.toNat < 123 := by
    simp only [isIdDigit, decide_eq_true_eq, Char.le_def, UInt32.le_iff_toNat_le] at digit
    have last : ('z' : Char).val.toNat = 122 ∧ ('9' : Char).val.toNat = 57 := by decide
    have same : character.val.toNat = character.toNat := rfl
    omega
  have found := checked ⟨character.toNat, small⟩
  rw [Char.ofNat_toNat] at found
  exact found digit

/-- 64 hexadecimal digits. -/
def isHexId (text : List Char) : Bool :=
  text.length = 64 ∧ text.all fun character => ('0' ≤ character ∧ character ≤ '9') ∨
    ('a' ≤ character ∧ character ≤ 'f')

theorem idDigits_of_hex {text : List Char} (hex : isHexId text = true) :
    ∀ character ∈ text, isIdDigit character = true := by
  simp only [isHexId, decide_eq_true_eq, List.all_eq_true] at hex
  intro character listed
  simp only [isIdDigit, decide_eq_true_eq]
  exact (hex.2 character listed).imp_right fun letter =>
    ⟨letter.1, Char.le_trans letter.2 (show 'f' ≤ 'z' by decide)⟩

theorem idDigits_of_base32 {text : List Char} (base32 : Android.isBase32Id text = true) :
    ∀ character ∈ text, isIdDigit character = true := by
  simp only [Android.isBase32Id, decide_eq_true_eq, List.all_eq_true] at base32
  intro character listed
  simp only [isIdDigit, decide_eq_true_eq]
  obtain letter | digit := base32.2 character listed
  · exact .inr letter
  · exact .inl ⟨Char.le_trans (show '0' ≤ '2' by decide) digit.1,
      Char.le_trans digit.2 (show '7' ≤ '9' by decide)⟩

namespace Android

theorem trim_of_graphic {text : List Char} (graphic : Graphic text) : trim text = text :=
  strip_eq_self fun character listed => (isGraphic_kinds (graphic character listed)).2.2.1

theorem isBlank_of_graphic {text : List Char} (filled : text ≠ []) (graphic : Graphic text) :
    isBlank text = false := by
  cases text with
  | nil => exact absurd rfl filled
  | cons character rest =>
    simp [isBlank, (isGraphic_kinds (graphic character List.mem_cons_self)).2.2.1]

theorem normalizeRouteComponent_of_graphic {text : List Char} (filled : text ≠ [])
    (graphic : Graphic text) (maxUtf8Bytes : Nat) :
    normalizeRouteComponent (some text) maxUtf8Bytes = (some text).filter fun text =>
      text.length ≤ maxUtf8Bytes := by
  have plain :
      (text.all fun character => ¬ (isControl character ∨ isJvmWhitespace character.toNat)) =
          true := by
    rw [List.all_eq_true]
    intro character listed
    obtain ⟨-, -, space, control, -⟩ := isGraphic_kinds (graphic character listed)
    simp [space, control]
  unfold normalizeRouteComponent
  rw [Option.map_some, trim_of_graphic graphic, Option.filter_some, if_pos (by simpa using filled),
    Option.filter_some, Option.filter_some, plain, length_utf8_of_graphic graphic]
  simp

theorem normalizeNearbyInboxEndpointId_of_base32 {text : List Char}
    (base32 : isBase32Id text = true) :
    normalizeNearbyInboxEndpointId (some text) = some text := by
  have digits := idDigits_of_base32 base32
  have graphic : Graphic text := fun character listed =>
    (isIdDigit_kinds (digits character listed)).1
  have lower : lowercase text = text := by
    refine (List.map_congr_left fun character listed => ?_).trans (List.map_id _)
    exact (isIdDigit_kinds (digits character listed)).2.2
  rw [normalizeNearbyInboxEndpointId, Option.map_some, trim_of_graphic graphic, lower,
    Option.filter_some, if_pos base32]

/-- A hexadecimal identifier is too long. -/
theorem normalizeNearbyInboxEndpointId_of_hex {text : List Char} (hex : isHexId text = true) :
    normalizeNearbyInboxEndpointId (some text) = none := by
  have digits := idDigits_of_hex hex
  have graphic : Graphic text := fun character listed =>
    (isIdDigit_kinds (digits character listed)).1
  have length : text.length = 64 := by
    simp only [isHexId, decide_eq_true_eq] at hex
    exact hex.1
  rw [normalizeNearbyInboxEndpointId, Option.map_some, trim_of_graphic graphic,
    Option.filter_some, if_neg]
  simp [isBase32Id, lowercase, length]

end Android

namespace Apple

theorem trimmed_of_graphic {text : List Char} (graphic : Graphic text) : trimmed text = text :=
  strip_eq_self fun character listed => (isGraphic_kinds (graphic character listed)).2.1

theorem normalizeWireValue_of_graphic {text : List Char} (filled : text ≠ [])
    (graphic : Graphic text) (maximumUTF8Bytes : Nat) :
    normalizeWireValue text maximumUTF8Bytes = (some text).filter fun text =>
      text.length ≤ maximumUTF8Bytes := by
  have plain :
      (text.all fun character => ¬ isWhiteSpace character ∧
          ¬ (isControl character ∨ isFormat character)) = true := by
    rw [List.all_eq_true]
    intro character listed
    obtain ⟨-, space, -, control, format⟩ := isGraphic_kinds (graphic character listed)
    simp [space, control, format]
  simp only [normalizeWireValue, trimmed_of_graphic graphic, length_utf8_of_graphic graphic, plain,
    Option.filter_some]
  simp [filled]

theorem normalizeInboxEndpointID_of_digits {text : List Char} (filled : text ≠ [])
    (digits : ∀ character ∈ text, isIdDigit character = true)
      (length : text.length ≤ maximumInboxEndpointIDLength) :
    normalizeInboxEndpointID text = some text := by
  have graphic : Graphic text := fun character listed =>
    (isIdDigit_kinds (digits character listed)).1
  have letters : text.all Char.isAlphanum = true :=
    List.all_eq_true.mpr fun character listed => (isIdDigit_kinds (digits character listed)).2.1
  simp only [normalizeInboxEndpointID, trimmed_of_graphic graphic]
  rw [if_pos ⟨filled, length, letters⟩]

end Apple

/-! ## The record -/

theorem txtInboxAddress_injective {left right : Nat}
    (same : txtInboxAddress left = txtInboxAddress right) :
    left = right := by
  have digits : Nat.toDigits 10 left = Nat.toDigits 10 right := List.append_cancel_left same
  rw [← @Nat.ofDigitChars_ten_toDigits left, digits, Nat.ofDigitChars_ten_toDigits]

theorem lookup_addresses (addresses : List (List Char)) (start index : Nat) :
    ((addresses.zipIdx start).map fun (address, index) => (txtInboxAddress index, address)).lookup
      (txtInboxAddress (start + index)) = addresses[index]? := by
  induction addresses generalizing start index with
  | nil => rfl
  | cons address rest ih =>
    rw [List.zipIdx_cons, List.map_cons, List.lookup_cons]
    cases index with
    | zero => simp
    | succ index =>
      have other : (txtInboxAddress (start + (index + 1)) == txtInboxAddress start) = false := by
        rw [beq_eq_false_iff_ne]
        intro same
        have := txtInboxAddress_injective same
        omega
      have shifted : start + (index + 1) = (start + 1) + index := by omega
      rw [other]
      simpa [shifted] using ih (start + 1) index

/-- An attribute of another name does not stand among the addresses. -/
theorem lookup_addresses_none {key : List Char} (other : ∀ index, key ≠ txtInboxAddress index)
    (addresses : List (List Char)) (start : Nat) :
    ((addresses.zipIdx start).map fun (address, index) => (txtInboxAddress index, address)).lookup
      key = none := by
  rw [List.lookup_eq_none_iff]
  intro entry listed
  obtain ⟨pair, -, rfl⟩ := List.mem_map.mp listed
  simpa using other pair.2

section Record

variable (presence : Presence) (route : NearbyInviteRoute)

theorem lookup_version : (presence.txtRecord route).lookup txtVersion = some protocolVersion := rfl

theorem lookup_peerKey : (presence.txtRecord route).lookup txtPeerKey = some presence.peerKey := rfl

/-- What is said of the device hides nothing of its route. -/
theorem lookup_route {key : List Char} (version : key ≠ txtVersion) (peerKey : key ≠ txtPeerKey)
    (displayName : key ≠ txtDisplayName) :
    (presence.txtRecord route).lookup key = (nearbyInviteTxtAttributes route).lookup key := by
  have front : ((txtVersion, protocolVersion) :: (txtPeerKey, presence.peerKey) ::
      presence.displayName.toList.map fun name => (txtDisplayName, name)).lookup key = none := by
    rw [List.lookup_eq_none_iff]
    simp only [List.mem_cons, List.mem_map]
    rintro entry (rfl | rfl | ⟨name, -, rfl⟩)
    · simpa using version
    · simpa using peerKey
    · simpa using displayName
  have whole :
    presence.txtRecord route = ((txtVersion, protocolVersion) :: (txtPeerKey, presence.peerKey) ::
    presence.displayName.toList.map fun name => (txtDisplayName, name)) ++
      nearbyInviteTxtAttributes route := rfl
  rw [whole, List.lookup_append, front, Option.none_or]

theorem lookup_endpoint :
    (presence.txtRecord route).lookup txtInboxEndpoint = some route.endpointId := by
  rw [lookup_route presence route (by decide) (by decide) (by decide)]
  rfl

theorem txtInboxRelay_ne (index : Nat) : txtInboxRelay ≠ txtInboxAddress index := nofun

theorem lookup_relay : (presence.txtRecord route).lookup txtInboxRelay = route.relayUrl := by
  rw [lookup_route presence route (by decide) (by decide) (by decide), nearbyInviteTxtAttributes,
    List.lookup_append, lookup_addresses_none txtInboxRelay_ne]
  cases route.relayUrl with
  | none => rfl
  | some url => rfl

theorem lookup_address (index : Nat) :
    (presence.txtRecord route).lookup (txtInboxAddress index) = route.directAddresses[index]? := by
  have found := lookup_addresses route.directAddresses 0 index
  rw [Nat.zero_add] at found
  have version : txtInboxAddress index ≠ txtVersion := nofun
  have peerKey : txtInboxAddress index ≠ txtPeerKey := nofun
  have displayName : txtInboxAddress index ≠ txtDisplayName := nofun
  rw [lookup_route presence route version peerKey displayName, nearbyInviteTxtAttributes,
    List.lookup_append, found]
  cases route.relayUrl with
  | none => rfl
  | some url => rfl

end Record

theorem filterMap_range {α : Type} (elements : List α) (count : Nat) :
    ((List.range count).filterMap fun index => elements[index]?) = elements.take count := by
  induction count with
  | zero => simp
  | succ count ih =>
    rw [List.range_succ, List.filterMap_append, ih, List.take_add_one]
    cases found : elements[count]? <;> simp [found]

/-! ## Routes that every platform reads -/

/-- A route as an advertiser may emit it. -/
structure NearbyInviteRoute.Emitted (route : NearbyInviteRoute) : Prop where
  digits : ∀ character ∈ route.endpointId, isIdDigit character = true
  length : route.endpointId ≠ [] ∧ route.endpointId.length ≤ Apple.maximumInboxEndpointIDLength
  relay : ∀ relay, route.relayUrl = some relay → relay ≠ [] ∧ Graphic relay ∧
    relay.length ≤ maxRouteRelayBytes
  addresses : ∀ address ∈ route.directAddresses,
    address ≠ [] ∧ Graphic address ∧ address.length ≤ maxRouteAddressBytes
  distinct : route.directAddresses.Nodup
  few : route.directAddresses.length ≤ maxRouteAddresses
  connectable : ¬ (route.relayUrl = none ∧ route.directAddresses = [])

theorem eraseDups_eq_self {α : Type} [BEq α] [LawfulBEq α] {elements : List α}
    (distinct : elements.Nodup) :
    elements.eraseDups = elements := by
  induction elements with
  | nil => rfl
  | cons element rest ih =>
    obtain ⟨absent, others⟩ := List.nodup_cons.mp distinct
    have kept : rest.filter (fun other => !other == element) = rest := by
      rw [List.filter_eq_self]
      intro other listed
      have apart : other ≠ element := fun same => absent (same ▸ listed)
      simpa using apart
    rw [List.eraseDups_cons, kept, ih others]

theorem Android.filterMap_normalizeRouteComponent {addresses : List (List Char)}
    (fit : ∀ address ∈ addresses, address ≠ [] ∧ Graphic address ∧
      address.length ≤ maxRouteAddressBytes) :
    (addresses.filterMap fun value =>
      Android.normalizeRouteComponent (some value) maxRouteAddressBytes) = addresses := by
  induction addresses with
  | nil => rfl
  | cons address rest ih =>
    obtain ⟨filled, graphic, length⟩ := fit address List.mem_cons_self
    have kept : Android.normalizeRouteComponent (some address) maxRouteAddressBytes =
        some address := by
      rw [Android.normalizeRouteComponent_of_graphic filled graphic, Option.filter_some,
        if_pos (by simpa using length)]
    rw [List.filterMap_cons, kept, ih fun other listed => fit other (List.mem_cons_of_mem _ listed)]

theorem Apple.mapM_normalizeWireValue {addresses : List (List Char)}
    (fit : ∀ address ∈ addresses, address ≠ [] ∧ Graphic address ∧
      address.length ≤ maxRouteAddressBytes) :
    (addresses.mapM fun address => Apple.normalizeWireValue address maxRouteAddressBytes) =
      some addresses := by
  induction addresses with
  | nil => rfl
  | cons address rest ih =>
    obtain ⟨filled, graphic, length⟩ := fit address List.mem_cons_self
    have kept : Apple.normalizeWireValue address maxRouteAddressBytes = some address := by
      rw [Apple.normalizeWireValue_of_graphic filled graphic, Option.filter_some,
        if_pos (by simpa using length)]
    rw [List.mapM_cons, kept, ih fun other listed => fit other (List.mem_cons_of_mem _ listed)]
    rfl

section Emitted

variable {route : NearbyInviteRoute} (emitted : route.Emitted)

include emitted

theorem Android.normalizeRouteComponent_relay :
    Android.normalizeRouteComponent route.relayUrl maxRouteRelayBytes = route.relayUrl := by
  cases given : route.relayUrl with
  | none => rfl
  | some relay =>
    obtain ⟨filled, graphic, length⟩ := emitted.relay relay given
    rw [Android.normalizeRouteComponent_of_graphic filled graphic, Option.filter_some,
      if_pos (by simpa using length)]

/-- The relay that is given may still be too long. -/
theorem Android.normalized_of_emitted (base32 : Android.isBase32Id route.endpointId = true)
    {relayUrl : Option (List Char)}
    (relay : Android.normalizeRouteComponent relayUrl maxRouteRelayBytes = route.relayUrl) :
    Android.normalized (some route.endpointId) relayUrl route.directAddresses = some route := by
  simp only [Android.normalized, Android.normalizeNearbyInboxEndpointId_of_base32 base32, relay,
    Android.filterMap_normalizeRouteComponent emitted.addresses, eraseDups_eq_self emitted.distinct,
    List.take_of_length_le emitted.few, Option.bind_eq_bind, Option.bind_some]
  rw [if_neg emitted.connectable]

theorem Apple.normalizeRelayURL_relay :
    Apple.normalizeRelayURL route.relayUrl = some route.relayUrl := by
  cases given : route.relayUrl with
  | none => rfl
  | some relay =>
    obtain ⟨filled, graphic, length⟩ := emitted.relay relay given
    rw [Apple.normalizeRelayURL, Apple.normalizeWireValue_of_graphic filled graphic,
      Option.filter_some, if_pos (by simpa using length), Option.map_some]

theorem Apple.route_of_emitted :
    Apple.route route.endpointId route.relayUrl route.directAddresses = some route := by
  have accepted :=
    Apple.normalizeInboxEndpointID_of_digits emitted.length.1 emitted.digits emitted.length.2
  simp only [Apple.route, accepted, Apple.normalizeRelayURL_relay emitted, emitted.few,
    not_true_eq_false, if_false, Apple.mapM_normalizeWireValue emitted.addresses,
    eraseDups_eq_self emitted.distinct, Option.bind_eq_bind, Option.bind_some]
  rw [if_neg emitted.connectable]

end Emitted

theorem Android.normalized_of_hex {endpointId : List Char} (hex : isHexId endpointId = true)
    (relayUrl : Option (List Char)) (directAddresses : List (List Char)) :
    Android.normalized (some endpointId) relayUrl directAddresses = none := by
  rw [Android.normalized, Android.normalizeNearbyInboxEndpointId_of_hex hex]
  rfl

theorem Android.attributeString_of_graphic {record : TxtRecord} {key value : List Char}
    (found : record.lookup key = some value) (filled : value ≠ []) (graphic : Graphic value) :
    Android.attributeString record key = some value := by
  rw [Android.attributeString, found, Option.map_some, Android.trim_of_graphic graphic,
    Option.filter_some, Android.isBlank_of_graphic filled graphic]
  rfl

theorem Android.attributeString_of_none {record : TxtRecord} {key : List Char}
    (absent : record.lookup key = none) :
    Android.attributeString record key = none := by
  rw [Android.attributeString, absent]
  rfl

section Browse

variable {route : NearbyInviteRoute} (emitted : route.Emitted) (presence : Presence)

include emitted

/-- What Android reads from a record are the parts of its route. -/
theorem browse_android :
    browse .android (presence.txtRecord route) =
      Android.normalized (some route.endpointId) route.relayUrl route.directAddresses := by
  have endpoint : Android.attributeString (presence.txtRecord route) txtInboxEndpoint =
    some route.endpointId :=
    Android.attributeString_of_graphic (lookup_endpoint presence route)
        emitted.length.1 fun character listed =>
      (isIdDigit_kinds (emitted.digits character listed)).1
  have relay : Android.attributeString (presence.txtRecord route) txtInboxRelay =
      route.relayUrl := by
    have found := lookup_relay presence route
    cases given : route.relayUrl with
    | none => exact Android.attributeString_of_none (found.trans given)
    | some url =>
      obtain ⟨filled, graphic, -⟩ := emitted.relay url given
      exact Android.attributeString_of_graphic (found.trans given) filled graphic
  have address (index : Nat) :
      Android.attributeString (presence.txtRecord route) (txtInboxAddress index) =
      route.directAddresses[index]? := by
    have found := lookup_address presence route index
    cases given : route.directAddresses[index]? with
    | none => exact Android.attributeString_of_none (found.trans given)
    | some text =>
      obtain ⟨filled, graphic, -⟩ := emitted.addresses text (List.mem_of_getElem? given)
      exact Android.attributeString_of_graphic (found.trans given) filled graphic
  simp only [browse, Android.parseNearbyInviteTxtAttributes, endpoint, relay, address,
    filterMap_range, List.take_of_length_le emitted.few]

theorem browse_apple {peerKey : List Char}
    (identified : Apple.normalizePeerKey presence.peerKey = some peerKey) :
    browse .apple (presence.txtRecord route) = some route := by
  simp only [browse, Apple.inviteRoute, lookup_version, lookup_peerKey, lookup_endpoint,
    lookup_relay, lookup_address, filterMap_range, List.take_of_length_le emitted.few,
    Option.bind_some, identified, Option.isSome_some, and_self, if_true]
  exact Apple.route_of_emitted emitted

end Browse

end Envoix.Discovery
