import Envoix.Nearby.Datagram

/-! # The ends of a datagram channel agree

A frame that arrives was sent by the other end, and an end only ever names itself and one of two
sizes.  The second of them, which the bridge of a hybrid server answers late hellos with, is below
what both would have settled on but not below what both then use. -/

namespace Envoix.Nearby

open ByteCodec Fallible EndpointIds
open Envoix.Room (CoreError)

/-! ## Frames -/

theorem slice_append {before middle after : Bytes} {start stop : Nat}
    (starts : before.length = start) (stops : start + middle.length = stop) :
    slice (before ++ middle ++ after) start stop = middle := by
  have width : stop - start = middle.length := by omega
  rw [slice, width, List.append_assoc, ← starts, List.drop_left, List.take_left]

section

variable [EndpointIds]

/-- A key of zeros cannot be told from no key. -/
def visible (peerId : Option EndpointId) : Option EndpointId :=
  peerId.filter fun id => ¬ (EndpointIds.asBytes id).all (· = 0)

theorem parsePeerId_encoded (peerId : Option EndpointId) :
    parsePeerId ((peerId.map EndpointIds.asBytes).getD (List.replicate 32 0)) =
      .ok (visible peerId) := by
  cases peerId with
  | none => rfl
  | some id =>
    simp only [Option.map_some, Option.getD_some, parsePeerId, visible, Option.filter_some]
    by_cases zeros : (EndpointIds.asBytes id).all (· = 0) = true
    · simp only [zeros, if_true, not_true, decide_false, Bool.false_eq_true, if_false]
    · simp only [zeros, fromBytes_asBytes]
      rfl

theorem parse_encode {kind : UInt8} {senderId : EndpointId} {peerId : Option EndpointId}
    {size : UInt16} (large : minQuicDatagramBytes ≤ size) :
    parseBootstrap (encodeBootstrap kind senderId peerId size) =
      .ok (some { kind, senderId, peerId := visible peerId, maximumDatagramSize := size }) := by
  obtain ⟨peer, filled⟩ :
    ∃ peer, (peerId.map EndpointIds.asBytes).getD (List.replicate 32 0) = peer := ⟨_, rfl⟩
  have peerLength : peer.length = 32 := by
    subst filled
    cases peerId with
    | none => exact List.length_replicate
    | some id => exact length_asBytes id
  let bytes := encodeBootstrap kind senderId peerId size
  have found : bytes = bootstrapMagic ++ [kind] ++ EndpointIds.asBytes senderId ++ peer ++
      u16Be size := by
    subst filled
    rfl
  have starts : isBootstrap bytes = true := by
    rw [found]
    simp [isBootstrap, bootstrapMagic]
  have length : bytes.length = bootstrapFrameBytes := by
    rw [found]
    simp [length_asBytes, peerLength, bootstrapMagic, bootstrapFrameBytes]
  have senderBytes : slice bytes 9 41 = EndpointIds.asBytes senderId := by
    rw [found, List.append_assoc _ peer]
    exact slice_append (by simp [bootstrapMagic]) (by rw [length_asBytes])
  have peerBytes : slice bytes 41 73 = peer := by
    rw [found]
    exact slice_append (by simp [bootstrapMagic, length_asBytes]) (by rw [peerLength])
  have sizeBytes : slice bytes 73 75 = u16Be size := by
    rw [found, ← List.append_nil (u16Be size), ← List.append_assoc]
    exact slice_append (by simp [bootstrapMagic, length_asBytes, peerLength]) (by rw [length_u16Be])
  have kindByte : bytes.getD 8 0 = kind := by
    rw [found]
    simp [bootstrapMagic]
  have sizeBack : UInt16.ofNat (ofBe (u16Be size)) = size := by
    rw [u16Be, ofBe_toBe, Nat.mod_eq_of_lt (by exact size.toNat_lt), UInt16.ofNat_toNat]
  have fits : ¬ size < minQuicDatagramBytes := UInt16.not_lt.mpr large
  have peerBack : parsePeerId peer = .ok (visible peerId) := by
    rw [← filled]
    exact parsePeerId_encoded peerId
  show parseBootstrap bytes = _
  simp only [parseBootstrap, starts, length, senderBytes, peerBytes, sizeBytes, sizeBack, kindByte,
    fromBytes_asBytes, peerBack]
  simp [reject, fits, okOr]

/-! ## Channels -/

namespace Channel

variable {channel next : Channel} {platform : DatagramTransportRole → UInt32}

/-- What both ends would settle on. -/
def common (channel : Channel) : UInt16 :=
  min (channel.ends .server).maximumDatagramSize (channel.ends .client).maximumDatagramSize

/-- The sizes that an end names: its own, or from the bridge of a server the one that it was
given. -/
def Offers (channel : Channel) (role : DatagramTransportRole) (size : UInt16) : Prop :=
  size = (channel.ends role).maximumDatagramSize ∨
    role = .server ∧ size = (channel.ends .server).bridgeSize channel.common

/-- Everything that is a frame comes from the end that it names. -/
def Heard (channel : Channel) (role : DatagramTransportRole) (bytes : Bytes) : Prop :=
  ∀ frame, parseBootstrap bytes = .ok (some frame) →
    frame.senderId = (channel.ends role).localId ∧ channel.Offers role frame.maximumDatagramSize

/-- What an end that has read a frame knows of the other. -/
def Meets (channel : Channel) (role : DatagramTransportRole) : Phase → Prop
  | .exchanging | .failed _ => True
  | .replying frame _ =>
    frame.senderId = (channel.ends role.peer).localId ∧
      channel.Offers role.peer frame.maximumDatagramSize
  | .bound remoteId negotiated => remoteId = (channel.ends role.peer).localId ∧
    ∃ size, channel.Offers role.peer size ∧
      negotiated = min (channel.ends role).maximumDatagramSize size

structure Sound (platform : DatagramTransportRole → UInt32) (channel : Channel) : Prop where
  valid : ∀ role, validateMaximumDatagramSize (platform role) =
    .ok (channel.ends role).maximumDatagramSize
  heard : ∀ role, ∀ bytes ∈ channel.sent role, channel.Heard role bytes
  meets : ∀ role, channel.Meets role (channel.phase role)

omit [EndpointIds] in
theorem validate_ok {requested : UInt32} {size : UInt16}
    (valid : validateMaximumDatagramSize requested = .ok size) :
    size.toNat = requested.toNat ∧ minQuicDatagramBytes ≤ size := by
  simp only [validateMaximumDatagramSize, bind_eq_ok, reject_eq_ok, exists_unit, pure_eq,
    Except.ok.injEq] at valid
  obtain ⟨fits, large, same⟩ := valid
  subst same
  refine ⟨?_, UInt16.not_lt.mp large⟩
  rw [UInt16.toNat_ofNat', Nat.mod_eq_of_lt (by omega)]

theorem Sound.large (sound : channel.Sound platform) (role : DatagramTransportRole) :
    minQuicDatagramBytes ≤ (channel.ends role).maximumDatagramSize :=
      (validate_ok (sound.valid role)).2

/-- No end names a size below what QUIC needs. -/
theorem Sound.offers_large (sound : channel.Sound platform) {role : DatagramTransportRole}
    {size : UInt16} (offers : channel.Offers role size) : minQuicDatagramBytes ≤ size := by
  have server := UInt16.le_iff_toNat_le.mp (sound.large .server)
  have client := UInt16.le_iff_toNat_le.mp (sound.large .client)
  have hybrid : minQuicDatagramBytes.toNat ≤ hybridDataMtu.toNat := by decide
  cases offers with
  | inl own => exact own ▸ sound.large role
  | inr bridged =>
    rw [bridged.2, End.bridgeSize]
    cases (channel.ends .server).binding with
    | datagram => exact sound.large .server
    | hybrid =>
      apply UInt16.le_iff_toNat_le.mpr
      simp only [common, UInt16.toNat_min]
      omega

theorem Sound.heard_encoded (sound : channel.Sound platform) {role : DatagramTransportRole}
    {kind : UInt8} {peerId : Option EndpointId} {size : UInt16}
    (offers : channel.Offers role size) :
    channel.Heard role (encodeBootstrap kind (channel.ends role).localId peerId size) := by
  intro frame parsed
  rw [parse_encode (sound.offers_large offers)] at parsed
  cases parsed
  exact ⟨rfl, offers⟩

theorem meets_exchanged {role : DatagramTransportRole} {frame : BootstrapFrame}
    (sender : frame.senderId = (channel.ends role.peer).localId)
    (offers : channel.Offers role.peer frame.maximumDatagramSize) :
    channel.Meets role ((channel.ends role).exchanged frame) :=
  ⟨sender, _, offers, rfl⟩

theorem meets_receive {role : DatagramTransportRole} {bytes : Bytes}
    (heard : channel.Heard role.peer bytes) :
    channel.Meets role ((channel.ends role).receive role bytes) := by
  rw [End.receive]
  cases parsed : parseBootstrap bytes with
  | error error => trivial
  | ok found =>
    cases found with
    | none => trivial
    | some frame =>
      obtain ⟨sender, offers⟩ := heard frame parsed
      cases role with
      | client =>
        show channel.Meets .client (if _ then _ else _)
        split
        · exact meets_exchanged sender offers
        · trivial
      | server =>
        show channel.Meets .server (if _ then _ else _)
        split
        · trivial
        · exact ⟨sender, offers⟩

theorem meets_replied {role : DatagramTransportRole} {frame : BootstrapFrame} {index : Nat}
    (meets : channel.Meets role (.replying frame index)) (result : Except CoreError Unit) :
    channel.Meets role ((channel.ends role).replied frame index result) := by
  cases result with
  | error error =>
    rw [End.replied]
    split
    · trivial
    · exact meets_exchanged meets.1 meets.2
  | ok sent =>
    rw [End.replied]
    split
    · exact meets
    · exact meets_exchanged meets.1 meets.2

/-! ### Sizes -/

theorem common_le (channel : Channel) (role : DatagramTransportRole) :
    channel.common.toNat ≤ (channel.ends role).maximumDatagramSize.toNat := by
  cases role with
  | client => simp only [common, UInt16.toNat_min]; omega
  | server => simp only [common, UInt16.toNat_min]; omega

/-- What an exchange settles on is the common size, unless a late reply of a hybrid server ended
it. -/
theorem settles {role : DatagramTransportRole} {remoteId : EndpointId} {negotiated : UInt16}
    (meets : channel.Meets role (.bound remoteId negotiated)) : negotiated = channel.common ∨
      role = .client ∧ (channel.ends .server).binding = .hybrid ∧
        negotiated = min channel.common hybridDataMtu := by
  obtain ⟨-, size, offers, same⟩ := meets
  cases role with
  | server =>
    cases offers with
    | inl own => exact .inl (by rw [same, own]; rfl)
    | inr bridged => cases bridged.1
  | client =>
    have swapped :
        min (channel.ends .client).maximumDatagramSize (channel.ends .server).maximumDatagramSize =
        channel.common := by
      apply UInt16.toNat_inj.mp
      simp only [common, UInt16.toNat_min]
      omega
    have own (named : size = (channel.ends .server).maximumDatagramSize) :
        negotiated = channel.common := by
      rw [same, named, swapped]
    cases offers with
    | inl named => exact .inl (own named)
    | inr bridged =>
      cases binding : (channel.ends .server).binding with
      | datagram => exact .inl (own (by rw [bridged.2, End.bridgeSize, binding]))
      | hybrid =>
        refine .inr ⟨rfl, rfl, ?_⟩
        apply UInt16.toNat_inj.mp
        rw [same, bridged.2, End.bridgeSize, binding]
        simp only [common, UInt16.toNat_min]
        omega

theorem settles_server {remoteId : EndpointId} {negotiated : UInt16}
    (meets : channel.Meets .server (.bound remoteId negotiated)) : negotiated = channel.common := by
  cases settles meets with
  | inl common => exact common
  | inr late => cases late.1

theorem settles_le {role : DatagramTransportRole} {remoteId : EndpointId} {negotiated : UInt16}
    (meets : channel.Meets role (.bound remoteId negotiated)) :
    negotiated.toNat ≤ channel.common.toNat := by
  cases settles meets with
  | inl common => rw [common]
  | inr late =>
    rw [late.2.2, UInt16.toNat_min]
    omega

/-! ### Steps -/

theorem Sound.goes (sound : channel.Sound platform) {role : DatagramTransportRole} {phase : Phase}
    (meets : channel.Meets role phase) : (channel.goes role phase).Sound platform := by
  refine ⟨sound.valid, sound.heard, ?_⟩
  intro other
  -- what an end knows depends on the ends alone
  show channel.Meets other (Function.update channel.phase role phase other)
  by_cases same : other = role
  · subst same
    rw [Function.update_self]
    exact meets
  · rw [Function.update_of_ne same]
    exact sound.meets other

theorem Sound.sends (sound : channel.Sound platform) {role : DatagramTransportRole} {bytes : Bytes}
    (heard : channel.Heard role bytes) : (channel.sends role bytes).Sound platform := by
  refine ⟨sound.valid, ?_, sound.meets⟩
  intro other found there
  by_cases same : other = role
  · subst same
    simp only [Channel.sends, Function.update_self, List.mem_cons] at there
    cases there with
    | inl last => exact last ▸ heard
    | inr earlier => exact sound.heard other found earlier
  · simp only [Channel.sends, Function.update_of_ne same] at there
    exact sound.heard other found there

/-- The bridge answers only as its exchange ended. -/
theorem Sound.heard_bridged (sound : channel.Sound platform) {role : DatagramTransportRole}
    {remoteId : EndpointId} {negotiated : UInt16} {bytes answer : Bytes}
    (bound : channel.phase role = .bound remoteId negotiated)
    (answers : (channel.ends role).bridgeReply role remoteId negotiated bytes = some answer) :
    channel.Heard role answer := by
  have meets := sound.meets role
  rw [bound] at meets
  cases role with
  | client => simp [End.bridgeReply] at answers
  | server =>
    have settled : negotiated = channel.common := settles_server meets
    simp only [End.bridgeReply] at answers
    split at answers
    · split at answers
      · split at answers
        · cases answers
          exact sound.heard_encoded (.inr ⟨rfl, by rw [settled]⟩)
        · cases answers
      · cases answers
    · cases answers

theorem Sound.step (sound : channel.Sound platform) (step : Step channel next) :
    next.Sound platform := by
  cases step with
  | ticks exchanging => exact sound.sends (sound.heard_encoded (.inl rfl))
  | receives role exchanging arrives =>
    exact sound.goes (meets_receive (sound.heard role.peer _ arrives))
  | givesUp role error unfinished => exact sound.goes trivial
  | @replies frame index replying =>
    have meets := sound.meets .server
    rw [replying] at meets
    have heard : channel.Heard .server ((channel.ends .server).reply frame) :=
      sound.heard_encoded (.inl rfl)
    exact (sound.sends heard).goes (meets_replied meets (.ok ()))
  | failsToReply error replying =>
    have meets := sound.meets .server
    rw [replying] at meets
    exact sound.goes (meets_replied meets (.error error))
  | bridges role bound arrives answers => exact sound.sends (sound.heard_bridged bound answers)
  | mixes role quic => exact sound.sends fun frame parsed => absurd parsed (quic frame)

theorem Sound.started (started : Started platform channel) : channel.Sound platform := by
  obtain ⟨ends, valid⟩ := started
  exact ⟨valid, fun _ _ there => absurd there List.not_mem_nil, fun _ => trivial⟩

end Channel

/-! ## What is agreed on -/

structure Bootstrapped (platform : DatagramTransportRole → UInt32) (channel : Channel) : Prop where
  /-- the id that an exchange returns is that of the other end -/
  remote : ∀ role remoteId negotiated, channel.phase role = .bound remoteId negotiated →
    remoteId = (channel.ends role.peer).localId
  /-- what an end uses both platforms can carry -/
  carried : ∀ role other remoteId negotiated, channel.phase role = .bound remoteId negotiated →
    ((channel.ends role).datagramSize negotiated).toNat ≤ (platform other).toNat
  /-- ends that called the same function use the same size -/
  agreed : ∀ serverId clientId atClient atServer, channel.phase .client = .bound serverId atClient →
    channel.phase .server = .bound clientId atServer →
    (channel.ends .client).binding = (channel.ends .server).binding →
    (channel.ends .client).datagramSize atClient = (channel.ends .server).datagramSize atServer

theorem End.datagramSize_le (self : End) (negotiated : UInt16) :
    (self.datagramSize negotiated).toNat ≤ negotiated.toNat := by
  rw [datagramSize]
  cases self.binding with
  | datagram => exact Nat.le_refl _
  | hybrid => rw [UInt16.toNat_min]; omega

theorem bootstrap_agreement (platform : DatagramTransportRole → UInt32) (channel : Channel)
    (reached : channel.Reachable platform) : Bootstrapped platform channel := by
  have sound : channel.Sound platform :=
    Channel.Reachable.invariant (fun _ => .started) (fun _ _ sound step => sound.step step) reached
  have meets {role : DatagramTransportRole} {remoteId : EndpointId} {negotiated : UInt16}
      (bound : channel.phase role = .bound remoteId negotiated) :
          channel.Meets role (.bound remoteId negotiated) := by
    rw [← bound]
    exact sound.meets role
  refine ⟨?_, ?_, ?_⟩
  · intro role remoteId negotiated bound
    exact (meets bound).1
  · intro role other remoteId negotiated bound
    calc ((channel.ends role).datagramSize negotiated).toNat
        ≤ negotiated.toNat := End.datagramSize_le _ _
      _ ≤ channel.common.toNat := Channel.settles_le (meets bound)
      _ ≤ (channel.ends other).maximumDatagramSize.toNat := channel.common_le other
      _ = (platform other).toNat := (Channel.validate_ok (sound.valid other)).1
  · intro serverId clientId atClient atServer clientBound serverBound sameBinding
    rw [End.datagramSize, End.datagramSize, sameBinding, Channel.settles_server (meets serverBound)]
    cases Channel.settles (meets clientBound) with
    | inl common => rw [common]
    | inr late =>
      obtain ⟨-, hybrid, capped⟩ := late
      -- the cap that the late reply carried is the cap that both apply
      rw [hybrid, capped]
      apply UInt16.toNat_inj.mp
      simp only [UInt16.toNat_min]
      omega

end

section Late

/-- Keys as their bytes. -/
@[reducible]
def byteKeys : EndpointIds where
  EndpointId := ByteVector 32
  decidable := inferInstance
  asBytes := ByteVector.toList
  fromBytes bytes := if fits : bytes.length = 32 then some ⟨bytes, fits⟩ else none
  length_asBytes := ByteVector.length_toList
  fromBytes_asBytes id := dif_pos id.length_toList

local instance : EndpointIds := byteKeys

def clientKey : ByteVector 32 where
  toList :=
    [0xd7, 0x5a, 0x98, 0x01, 0x82, 0xb1, 0x0a, 0xb7, 0xd5, 0x4b, 0xfe, 0xd3, 0xc9, 0x64, 0x07, 0x3a,
    0x0e, 0xe1, 0x72, 0xf3, 0xda, 0xa6, 0x23, 0x25, 0xaf, 0x02, 0x1a, 0x68, 0xf7, 0x07, 0x51, 0x1a]
  length_toList := rfl

def serverKey : ByteVector 32 where
  toList :=
    [0x3d, 0x40, 0x17, 0xc3, 0xe8, 0x43, 0x89, 0x5a, 0x92, 0xb7, 0x0a, 0xa7, 0x4d, 0x1b, 0x7e, 0xbc,
    0x9c, 0x98, 0x2c, 0xcf, 0x2e, 0xc4, 0x96, 0x8c, 0xc0, 0xcd, 0x55, 0xf1, 0x2a, 0xf4, 0x66, 0x0c]
  length_toList := rfl

def hybridEnds : DatagramTransportRole → End
  | .client => { localId := clientKey, maximumDatagramSize := 1402, binding := .hybrid }
  | .server => { localId := serverKey, maximumDatagramSize := 1452, binding := .hybrid }

def hybridPlatform : DatagramTransportRole → UInt32
  | .client => 1402
  | .server => 1452

def clientFrame : BootstrapFrame :=
  { kind := bootstrapClientHello, senderId := clientKey, peerId := none,
    maximumDatagramSize := 1402 }

/-- What the bridge of the server answers. -/
def lateReply : Bytes := encodeBootstrap bootstrapServerHello serverKey (some clientKey) 1200

def quietChannel : Channel :=
  { ends := hybridEnds, phase := fun _ => .exchanging, sent := fun _ => [] }

/-- The server replies once, fails to reply again and returns. -/
def repliedChannel : Channel :=
  ((((quietChannel.sends .client (hybridEnds .client).hello).goes .server
    (.replying clientFrame 0)).sends .server
    ((hybridEnds .server).reply clientFrame)).goes .server (.replying clientFrame 1)).goes .server
      (.bound clientKey 1402)

/-- Only the answer of the bridge reaches the client. -/
def lateChannel : Channel :=
  (repliedChannel.sends .server lateReply).goes .client (.bound serverKey 1200)

theorem lateChannel_reachable : lateChannel.Reachable hybridPlatform := by
  have started : Channel.Started hybridPlatform quietChannel :=
    .intro hybridEnds (by intro role; cases role <;> decide)
  have parsed : parseBootstrap (hybridEnds .client).hello = .ok (some clientFrame) := by
    rw [End.hello, parse_encode (by decide)]
    rfl
  have ticks := @Channel.Step.ticks _ quietChannel rfl
  let greeted := quietChannel.sends .client (hybridEnds .client).hello
  have hears : Channel.Step greeted (greeted.goes .server (.replying clientFrame 0)) := by
    have received : (hybridEnds .server).receive .server (hybridEnds .client).hello =
        .replying clientFrame 0 := by
      rw [End.receive, parsed]
      rfl
    rw [← received]
    exact .receives .server rfl (List.mem_singleton_self _)
  let replying := greeted.goes .server (.replying clientFrame 0)
  have replies := @Channel.Step.replies _ replying clientFrame 0 rfl
  let replied :=
    (replying.sends .server ((hybridEnds .server).reply clientFrame)).goes .server
      (.replying clientFrame 1)
  have returns : Channel.Step replied repliedChannel :=
    @Channel.Step.failsToReply _ replied clientFrame 1 (.transport "lost") rfl
  have bridges : Channel.Step repliedChannel (repliedChannel.sends .server lateReply) := by
    refine .bridges .server rfl (List.mem_singleton_self (hybridEnds .client).hello) ?_
    show End.bridgeReply _ _ _ _ (hybridEnds .client).hello = _
    rw [End.bridgeReply, parsed]
    rfl
  have concludes : Channel.Step (repliedChannel.sends .server lateReply) lateChannel := by
    have received : (hybridEnds .client).receive .client lateReply = .bound serverKey 1200 := by
      rw [End.receive, lateReply, parse_encode (by decide)]
      rfl
    rw [lateChannel, ← received]
    exact .receives .client rfl (List.mem_cons_self ..)
  exact ⟨quietChannel, started,
    .tail (.tail (.tail (.tail (.tail (.single ticks) hears) replies) returns) bridges) concludes⟩

theorem bootstrap_agreement_late :
    lateChannel.phase .client = .bound serverKey 1200 ∧
      lateChannel.phase .server = .bound clientKey 1402 ∧ Bootstrapped hybridPlatform lateChannel :=
  ⟨rfl, rfl, bootstrap_agreement hybridPlatform lateChannel lateChannel_reachable⟩

end Late

end Envoix.Nearby
