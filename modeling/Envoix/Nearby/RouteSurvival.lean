import Envoix.Nearby.InviteRoute

/-! # Which routes survive discovery

An inbox vouches for its route by reading it back.  So the parts of the route are known to be well
formed, and what is left of it after the limits of the record still is a route. -/

namespace Envoix.Discovery

open ByteCodec Fallible Text SocketAddress
open Envoix.Room (CoreError)

/-! ## What an inbox vouches for -/

theorem unsuitable_eq_false {text : List Char} {maxBytes : Nat}
    (suitable : ¬ unsuitable text maxBytes = true) :
    text ≠ [] ∧ (utf8 text).length ≤ maxBytes := by
  simp only [unsuitable, decide_eq_true_eq, not_or, not_lt, gt_iff_lt] at suitable
  exact ⟨suitable.1, suitable.2.1⟩

theorem readDirect_eq_ok {seen result : List SocketAddr} {encoded : List Char}
    (read : readDirect seen encoded = .ok result) :
    ∃ address, parseAddr encoded = some address ∧
      ¬ unsuitable encoded maxNearbyDirectAddressBytes = true ∧ showAddr address = encoded ∧
      address ∉ seen ∧ result = seen ++ [address] := by
  simp only [readDirect, bind_eq_ok, reject_eq_ok, okOr_eq_ok, exists_unit, pure_eq_ok,
    not_not] at read
  obtain ⟨suitable, address, parsed, -, canonical, new, rfl⟩ := read
  exact ⟨address, parsed, suitable, canonical, new, rfl⟩

/-- The addresses read are those of the texts, in order, and none is repeated. -/
theorem foldlM_readDirect {texts : List (List Char)} {seen result : List SocketAddr}
    (read : texts.foldlM readDirect seen = .ok result) (fresh : seen.Nodup) :
    ∃ more, result = seen ++ more ∧ texts.map parseAddr = more.map some ∧ result.Nodup ∧
      ∀ text ∈ texts, text ≠ [] ∧ Graphic text ∧ text.length ≤ maxRouteAddressBytes := by
  induction texts generalizing seen with
  | nil =>
    obtain rfl : seen = result := by simpa using read
    exact ⟨[], (List.append_nil _).symm, rfl, fresh, nofun⟩
  | cons text rest ih =>
    rw [List.foldlM_cons] at read
    obtain ⟨between, first, others⟩ := bind_eq_ok.mp read
    obtain ⟨address, parsed, suitable, rfl, new, rfl⟩ := readDirect_eq_ok first
    have apart : (seen ++ [address]).Nodup := by
      rw [List.nodup_append]
      refine ⟨fresh, by simp, ?_⟩
      intro known listed other added same
      obtain rfl := List.mem_singleton.mp added
      exact new (same ▸ listed)
    obtain ⟨more, rfl, same, distinct, fit⟩ := ih others apart
    have graphic := graphic_showAddr address
    obtain ⟨filled, bytes⟩ := unsuitable_eq_false suitable
    rw [length_utf8_of_graphic graphic] at bytes
    refine ⟨address :: more, by simp, by simp [parsed, same], distinct, ?_⟩
    intro other listed
    obtain rfl | later := List.mem_cons.mp listed
    · exact ⟨filled, graphic, bytes⟩
    · exact fit other later

/-- What an inbox may say of itself. -/
structure Vouched [IrohText] (endpoint : NearbyInviteEndpoint) : Prop where
  relay : ∀ relay, endpoint.relayUrl = some relay → relay ≠ [] ∧ Graphic relay
  addresses : ∀ address ∈ endpoint.directAddresses,
    address ≠ [] ∧ Graphic address ∧ address.length ≤ maxRouteAddressBytes
  distinct : endpoint.directAddresses.Nodup
  connectable : ¬ (endpoint.relayUrl = none ∧ endpoint.directAddresses = [])
  accepted : ∃ address, endpoint.toEndpointAddr = .ok address

section Inbox

variable [IrohText]

theorem toEndpointAddr_eq_ok {endpoint : NearbyInviteEndpoint} {address : EndpointAddr} :
    endpoint.toEndpointAddr = .ok address ↔
      ∃ endpointId directAddresses relay,
        ¬ unsuitable endpoint.endpointId maxNearbyEndpointIdBytes = true ∧
        parseId endpoint.endpointId = .ok endpointId ∧
        endpoint.directAddresses.length ≤ maxNearbyDirectAddresses ∧
        endpoint.directAddresses.foldlM readDirect [] = .ok directAddresses ∧
        readRelay endpoint.relayUrl = .ok relay ∧
        ¬ (directAddresses.isEmpty = true ∧ relay.isNone = true) ∧
        address = ⟨endpointId, directAddresses.map .ip ++ relay.toList.map .relay⟩ := by
  simp only [NearbyInviteEndpoint.toEndpointAddr, bind_eq_ok, reject_eq_ok, mapErr_eq_ok,
    exists_unit, pure_eq_ok, gt_iff_lt, not_lt]
  constructor
  · rintro ⟨suitable, endpointId, parsed, few, directAddresses, read, relay, found, route, rfl⟩
    exact ⟨endpointId, directAddresses, relay, suitable, parsed, few, read, found, route, rfl⟩
  · rintro ⟨endpointId, directAddresses, relay, suitable, parsed, few, read, found, route, rfl⟩
    exact ⟨suitable, endpointId, parsed, few, directAddresses, read, relay, found, route, rfl⟩

theorem readRelay_isNone {relayUrl : Option (List Char)} {relay : Option RelayUrl}
    (read : readRelay relayUrl = .ok relay) :
    relay.isNone = true ↔ relayUrl = none := by
  cases relayUrl with
  | none =>
    cases read
    simp
  | some encoded =>
    simp only [readRelay, bind_eq_ok, pure_eq_ok] at read
    obtain ⟨-, -, url, -, rfl⟩ := read
    simp

theorem readRelay_filled {encoded : List Char} {relay : Option RelayUrl}
    (read : readRelay (some encoded) = .ok relay) :
    encoded ≠ [] := by
  simp only [readRelay, bind_eq_ok, reject_eq_ok] at read
  obtain ⟨-, suitable, -⟩ := read
  exact (unsuitable_eq_false suitable).1

/-- The inbox of a route is accepted when some of its addresses or its relay are left out. -/
theorem toEndpointAddr_reduced {endpoint : NearbyInviteEndpoint} {address : EndpointAddr}
    (accepted : endpoint.toEndpointAddr = .ok address) (count : Nat) {relayUrl : Option (List Char)}
    (kept : relayUrl = endpoint.relayUrl ∨ relayUrl = none)
    (connectable : ¬ (relayUrl = none ∧ endpoint.directAddresses.take count = [])) :
    ∃ reduced, NearbyInviteEndpoint.toEndpointAddr ⟨endpoint.endpointId, relayUrl,
      endpoint.directAddresses.take count⟩ =
      .ok reduced := by
  obtain ⟨endpointId, directAddresses, relay, suitable, parsed, few, read, found, -, -⟩ :=
    toEndpointAddr_eq_ok.mp accepted
  -- the reader goes from front to back, so it reads every beginning of the list
  have split := List.take_append_drop count endpoint.directAddresses
  rw [← split, List.foldlM_append] at read
  obtain ⟨front, readFront, -⟩ := bind_eq_ok.mp read
  obtain ⟨_, rfl, same, -, -⟩ := foldlM_readDirect readFront List.nodup_nil
  have size : (endpoint.directAddresses.take count).length = front.length := by
    simpa using congrArg List.length same
  have someRelay : ∃ relay, readRelay relayUrl = .ok relay := by
    obtain rfl | rfl := kept
    · exact ⟨relay, found⟩
    · exact ⟨none, rfl⟩
  obtain ⟨relay, found⟩ := someRelay
  refine ⟨_, toEndpointAddr_eq_ok.mpr ⟨endpointId, _, relay, suitable, parsed, ?_, readFront,
    found, ?_, rfl⟩⟩
  · exact (List.length_take_le' count _).trans few
  · rintro ⟨empty, absent⟩
    refine connectable ⟨(readRelay_isNone found).mp absent, ?_⟩
    apply List.eq_nil_of_length_eq_zero
    rw [size]
    simpa using empty

theorem vouched_of_fromEndpointAddr (graphic : ∀ url, Graphic (showRelay url))
    {address : EndpointAddr} {endpoint : NearbyInviteEndpoint}
    (made : NearbyInviteEndpoint.fromEndpointAddr address = .ok endpoint) :
    Vouched endpoint ∧ endpoint.endpointId = showId address.id := by
  simp only [NearbyInviteEndpoint.fromEndpointAddr, bind_eq_ok, reject_eq_ok, exists_unit,
    pure_eq_ok] at made
  obtain ⟨-, back, accepted, rfl⟩ := made
  obtain ⟨endpointId, directAddresses, relay, -, -, -, read, found, route, -⟩ :=
    toEndpointAddr_eq_ok.mp accepted
  obtain ⟨_, rfl, same, distinct, fit⟩ := foldlM_readDirect read List.nodup_nil
  refine ⟨⟨?_, fit, ?_, ?_, ⟨back, accepted⟩⟩, rfl⟩
  · intro text given
    replace given : (address.relayUrls.map showRelay).head? = some text := given
    rw [given] at found
    obtain ⟨url, -, rfl⟩ := List.mem_map.mp (List.mem_of_head? given)
    exact ⟨readRelay_filled found, graphic url⟩
  · have images : (directAddresses.map some).Nodup := distinct.map (Option.some_injective _)
    rw [← same] at images
    exact images.of_map
  · rintro ⟨absent, none⟩
    refine route ⟨?_, (readRelay_isNone found).mpr absent⟩
    have size := congrArg List.length same
    rw [none] at size
    simpa using size.symm

end Inbox

/-! ## Routes that survive -/

def RelayFits (endpoint : NearbyInviteEndpoint) : Prop :=
  ∀ relay, endpoint.relayUrl = some relay → (utf8 relay).length ≤ maxRouteRelayBytes

/-- What a browser should find: the inbox with its relay, if that fits the record, and its first
addresses. -/
def NearbyInviteEndpoint.recorded (endpoint : NearbyInviteEndpoint) : NearbyInviteRoute where
  endpointId := endpoint.endpointId
  relayUrl := endpoint.relayUrl.filter fun relay => (utf8 relay).length ≤ maxRouteRelayBytes
  directAddresses := endpoint.directAddresses.take maxRouteAddresses

/-- The advertiser emits the route of the inbox, both platforms find just that, and the inbox can be
called by it. -/
def Survives [IrohText] (advertiser : Platform) (presence : Presence)
    (endpoint : NearbyInviteEndpoint) : Prop :=
  advertise advertiser endpoint = some endpoint.recorded ∧
    (∀ browser, browse browser (presence.txtRecord endpoint.recorded) = some endpoint.recorded) ∧
    ∃ address, endpoint.recorded.endpoint.toEndpointAddr = .ok address

/-- A short identifier, and a relay that fits; Android does without one that does not if there is an
address. -/
def Portable (advertiser : Platform) (endpoint : NearbyInviteEndpoint) : Prop :=
  endpoint.endpointId.length = 52 ∧
    (RelayFits endpoint ∨ advertiser = .android ∧ endpoint.directAddresses ≠ [])

section Survival

variable [IrohText] {endpoint : NearbyInviteEndpoint} (vouched : Vouched endpoint)

omit [IrohText] in
theorem recorded_relayUrl_of_fits (fits : RelayFits endpoint) :
    endpoint.recorded.relayUrl = endpoint.relayUrl := by
  unfold NearbyInviteEndpoint.recorded
  cases given : endpoint.relayUrl with
  | none => rfl
  | some relay => rw [Option.filter_some, if_pos (by simpa using fits relay given)]

omit [IrohText] in
theorem recorded_relayUrl_of_unfit (unfit : ¬ RelayFits endpoint) :
    endpoint.recorded.relayUrl = none := by
  simp only [RelayFits, not_forall] at unfit
  obtain ⟨relay, given, long⟩ := unfit
  unfold NearbyInviteEndpoint.recorded
  rw [given, Option.filter_some, if_neg (by simpa using long)]

include vouched

theorem Vouched.recorded_emitted
    (digits : ∀ character ∈ endpoint.endpointId, isIdDigit character = true)
    (length : endpoint.endpointId ≠ [] ∧
      endpoint.endpointId.length ≤ Apple.maximumInboxEndpointIDLength)
    (route : RelayFits endpoint ∨ endpoint.directAddresses ≠ []) : endpoint.recorded.Emitted where
  digits := digits
  length := length
  relay relay kept := by
    obtain ⟨given, fits⟩ := Option.filter_eq_some_iff.mp kept
    obtain ⟨filled, graphic⟩ := vouched.relay relay given
    refine ⟨filled, graphic, ?_⟩
    rw [← length_utf8_of_graphic graphic]
    simpa using fits
  addresses address listed := vouched.addresses address (List.mem_of_mem_take listed)
  distinct := vouched.distinct.sublist (List.take_sublist _ _)
  few := List.length_take_le _ _
  connectable := by
    rintro ⟨absent, none⟩
    have addressless : endpoint.directAddresses = [] := by
      simpa [NearbyInviteEndpoint.recorded, maxRouteAddresses] using none
    obtain fits | addressed := route
    · rw [recorded_relayUrl_of_fits fits] at absent
      exact vouched.connectable ⟨absent, addressless⟩
    · exact addressed addressless

/-- The platforms take the addresses as they are. -/
theorem Vouched.take_addresses :
    (endpoint.directAddresses.take maxRouteAddresses).filter
      (fun address => ¬ Android.isBlank address) =
      endpoint.directAddresses.take maxRouteAddresses := by
  rw [List.filter_eq_self]
  intro address listed
  obtain ⟨filled, graphic, -⟩ := vouched.addresses address (List.mem_of_mem_take listed)
  simp [Android.isBlank_of_graphic filled graphic]

theorem Vouched.normalizeRouteComponent_relay :
    Android.normalizeRouteComponent endpoint.relayUrl maxRouteRelayBytes =
      endpoint.recorded.relayUrl := by
  unfold NearbyInviteEndpoint.recorded
  cases given : endpoint.relayUrl with
  | none => rfl
  | some relay =>
    obtain ⟨filled, graphic⟩ := vouched.relay relay given
    rw [Android.normalizeRouteComponent_of_graphic filled graphic, Option.filter_some,
      Option.filter_some, length_utf8_of_graphic graphic]

theorem Vouched.advertise_android (base32 : Android.isBase32Id endpoint.endpointId = true)
    (emitted : endpoint.recorded.Emitted) :
    advertise .android endpoint = some endpoint.recorded := by
  simp only [advertise, Android.nearbyInviteRoute, vouched.take_addresses]
  exact Android.normalized_of_emitted emitted base32 vouched.normalizeRouteComponent_relay

/-- With neither a relay that fits nor an address, Android has no route. -/
theorem Vouched.advertise_android_none (unfit : ¬ RelayFits endpoint)
    (addressless : endpoint.directAddresses = []) :
    advertise .android endpoint = none := by
  have relay := vouched.normalizeRouteComponent_relay
  rw [recorded_relayUrl_of_unfit unfit] at relay
  simp only [advertise, Android.nearbyInviteRoute, Android.normalized, relay, addressless,
    List.take_nil, List.filter_nil, List.filterMap_nil, List.eraseDups_nil, and_self, if_true]
  cases Android.normalizeNearbyInboxEndpointId (some endpoint.endpointId) <;> rfl

omit [IrohText] vouched in
theorem advertise_apple (fits : RelayFits endpoint) (emitted : endpoint.recorded.Emitted) :
    advertise .apple endpoint = some endpoint.recorded := by
  have found := Apple.route_of_emitted emitted
  rwa [recorded_relayUrl_of_fits fits] at found

/-- Apple devices refuse a relay that does not fit. -/
theorem Vouched.advertise_apple_none (unfit : ¬ RelayFits endpoint) :
    advertise .apple endpoint = none := by
  simp only [RelayFits, not_forall] at unfit
  obtain ⟨relay, given, long⟩ := unfit
  obtain ⟨filled, graphic⟩ := vouched.relay relay given
  rw [length_utf8_of_graphic graphic] at long
  have refused : Apple.normalizeRelayURL endpoint.relayUrl = none := by
    rw [given, Apple.normalizeRelayURL, Apple.normalizeWireValue_of_graphic filled graphic,
      Option.filter_some, if_neg (by simpa using long), Option.map_none]
  simp only [advertise, Apple.inboxRoute, Apple.route, refused]
  cases Apple.normalizeInboxEndpointID endpoint.endpointId <;> rfl

omit [IrohText] vouched in
/-- Android does not find an inbox with a hexadecimal identifier. -/
theorem browse_android_hex (presence : Presence) {route : NearbyInviteRoute}
    (hex : isHexId route.endpointId = true) :
    browse .android (presence.txtRecord route) = none := by
  have graphic : Graphic route.endpointId := fun character listed =>
    (isIdDigit_kinds (idDigits_of_hex hex character listed)).1
  have filled : route.endpointId ≠ [] := by
    intro empty
    rw [empty] at hex
    cases hex
  have found := Android.attributeString_of_graphic (lookup_endpoint presence route) filled graphic
  rw [browse, Android.parseNearbyInviteTxtAttributes, found]
  exact Android.normalized_of_hex hex _ _

end Survival

/-- **Which routes survive discovery.**  iroh prints identifiers in one of two forms and relays in
ASCII.  The route of an inbox reaches every browser if and only if its identifier is the short one
and its relay fits the record, or can be done without. -/
theorem route_survives_iff [IrohText]
    (forms : (∀ id : EndpointId, Android.isBase32Id (showId id) = true) ∨
      ∀ id : EndpointId, isHexId (showId id) = true)
    (ascii : ∀ url : RelayUrl, Graphic (showRelay url)) {address : EndpointAddr}
      {endpoint : NearbyInviteEndpoint}
    (made : NearbyInviteEndpoint.fromEndpointAddr address = .ok endpoint) (advertiser : Platform)
    {presence : Presence}
    (identified : Apple.normalizePeerKey presence.peerKey = some presence.peerKey) :
    Survives advertiser presence endpoint ↔ Portable advertiser endpoint := by
  obtain ⟨vouched, shown⟩ := vouched_of_fromEndpointAddr ascii made
  have form : Android.isBase32Id endpoint.endpointId = true ∨
      isHexId endpoint.endpointId = true := by
    rw [shown]
    exact forms.imp (fun all => all _) fun all => all _
  constructor
  · rintro ⟨advertised, found, -⟩
    have base32 : Android.isBase32Id endpoint.endpointId = true := by
      refine form.resolve_right fun hex => ?_
      have missed := @browse_android_hex presence endpoint.recorded hex
      rw [found .android] at missed
      cases missed
    refine ⟨?_, ?_⟩
    · simp only [Android.isBase32Id, decide_eq_true_eq] at base32
      exact base32.1
    · by_cases fits : RelayFits endpoint
      · exact .inl fits
      · refine .inr ?_
        cases advertiser with
        | android =>
          refine ⟨rfl, fun addressless => ?_⟩
          rw [vouched.advertise_android_none fits addressless] at advertised
          cases advertised
        | apple =>
          rw [vouched.advertise_apple_none fits] at advertised
          cases advertised
  · rintro ⟨short, relay⟩
    have base32 : Android.isBase32Id endpoint.endpointId = true := by
      refine form.resolve_right fun hex => ?_
      simp only [isHexId, decide_eq_true_eq] at hex
      omega
    have length : endpoint.endpointId ≠ [] ∧
        endpoint.endpointId.length ≤ Apple.maximumInboxEndpointIDLength := by
      refine ⟨List.length_pos_iff.mp (by omega), ?_⟩
      rw [short]
      decide
    have emitted :=
      vouched.recorded_emitted (idDigits_of_base32 base32) length (relay.imp_right And.right)
    refine ⟨?_, ?_, ?_⟩
    · cases advertiser with
      | android => exact vouched.advertise_android base32 emitted
      | apple => exact advertise_apple (relay.resolve_right (by simp)) emitted
    · intro browser
      cases browser with
      | android =>
        rw [browse_android emitted]
        exact Android.normalized_of_emitted emitted base32
          (Android.normalizeRouteComponent_relay emitted)
      | apple => exact browse_apple emitted presence identified
    · obtain ⟨back, accepted⟩ := vouched.accepted
      refine toEndpointAddr_reduced accepted maxRouteAddresses ?_ emitted.connectable
      by_cases fits : RelayFits endpoint
      · exact .inl (recorded_relayUrl_of_fits fits)
      · exact .inr (recorded_relayUrl_of_unfit fits)

/-! ## One inbox, printed in both forms -/

section Sample

/-- iroh, with one key and one relay. -/
@[reducible] def irohOf (key : List Char) : IrohText where
  EndpointId := Unit
  RelayUrl := Unit
  showId _ := key
  parseId text := if text = key then .ok () else .error "invalid key"
  showRelay _ := "https://relay.example./".toList
  parseRelay text :=
    if text = "https://relay.example./".toList then .ok () else .error "invalid relay"

def base32Key : List Char := List.replicate 52 'a'

def hexKey : List Char := List.replicate 64 'a'

/-- An inbox in a home network. -/
def homeInbox (key : List Char) : @EndpointAddr (irohOf key) :=
  @EndpointAddr.mk (irohOf key) () [@TransportAddr.ip (irohOf key) (.v4 ⟨192, 168, 1, 2⟩ 4433)]

def homeEndpoint (key : List Char) : NearbyInviteEndpoint where
  endpointId := key
  relayUrl := none
  directAddresses := ["192.168.1.2:4433".toList]

def phonePresence : Presence where
  peerKey := "0123456789abcdef".toList
  displayName := some "Phone".toList

theorem graphic_relay : Graphic "https://relay.example./".toList := by
  unfold Graphic
  decide

theorem made_hexKey :
    @NearbyInviteEndpoint.fromEndpointAddr (irohOf hexKey)
      (homeInbox hexKey) = .ok (homeEndpoint hexKey) := by
  decide

theorem route_survives_iff_phone :
    @Survives (irohOf base32Key) .android phonePresence (homeEndpoint base32Key) ∧
      Portable .android (homeEndpoint base32Key) := by
  have portable : Portable .android (homeEndpoint base32Key) := ⟨by decide, .inl nofun⟩
  have made : @NearbyInviteEndpoint.fromEndpointAddr (irohOf base32Key) (homeInbox base32Key) =
    .ok (homeEndpoint base32Key) := by decide
  have short : Android.isBase32Id base32Key = true := by decide
  refine ⟨?_, portable⟩
  exact (@route_survives_iff (irohOf base32Key) (.inl fun _ => short)
    (fun _ => graphic_relay) _ _ made .android phonePresence
    (by decide)).mpr portable

/-- An inbox whose identifier is printed in hexadecimal digits is found by no Android device, and no
Android device advertises it. -/
theorem hexadecimal_route_is_lost :
    isHexId hexKey = true ∧
      @NearbyInviteEndpoint.fromEndpointAddr (irohOf hexKey)
      (homeInbox hexKey) = .ok (homeEndpoint hexKey) ∧
      advertise .android (homeEndpoint hexKey) = none ∧
      ∃ route, advertise .apple (homeEndpoint hexKey) = some route ∧
        browse .apple (phonePresence.txtRecord route) = some route ∧
        browse .android (phonePresence.txtRecord route) = none := by
  refine ⟨by decide, made_hexKey, by decide, ⟨hexKey, none, ["192.168.1.2:4433".toList]⟩, ?_⟩
  decide

end Sample

end Envoix.Discovery
