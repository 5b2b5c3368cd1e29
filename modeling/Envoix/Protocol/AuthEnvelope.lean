import Envoix.Foundation.ByteStream
import Envoix.Foundation.Cursor

/-! # The authentication envelope

`envoix-protocol/src/lib.rs`: the frames by which two peers authenticate each other, the envelope
around them, and the parser that reads them from a peer nothing is known of yet. -/

namespace Envoix.Protocol.Envelope

open ByteCodec ByteCodec.ByteStream Fallible

def authMagic : Bytes := asBytes "ENVA"
def authWireVersion : UInt16 := 2
def authHeaderBytes : Nat := 12
def maxAuthFrameBytes : Nat := 64 * 1024

/-- The errors of `CoreError` that the envelope gives. -/
inductive CoreError where
  | protocol (message : String)
  | io (message : String)
deriving DecidableEq

/-! ## Frames -/

inductive PeerRole where
  | sender
  | receiver
deriving DecidableEq

structure Spake2Start where
  protocolVersion : UInt32
  role : PeerRole
  nonce : Bytes
  message : Bytes
  rememberConsent : Bool
deriving DecidableEq

structure Spake2Message where
  nonce : Bytes
  message : Bytes
  rememberConsent : Bool
deriving DecidableEq

structure Spake2Confirm where
  proof : Bytes
  rememberContribution : Option Bytes
deriving DecidableEq

inductive AuthFrame where
  | spake2Start (start : Spake2Start)
  | spake2Message (message : Spake2Message)
  | spake2Confirm (confirm : Spake2Confirm)
deriving DecidableEq

inductive Frame where
  | auth (frame : AuthFrame)
deriving DecidableEq

/-! ## Tags -/

inductive AuthEnvelopeType where
  | auth
deriving DecidableEq

inductive AuthFrameType where
  | start
  | message
  | confirm
deriving DecidableEq

/-- `TryFromPrimitiveError` as text. -/
def noDiscriminant (name : String) (number : UInt8) : CoreError :=
  .protocol ("No discriminant in enum `" ++ name ++ "` matches the value `" ++
    toString number ++ "`")

def AuthEnvelopeType.tag : AuthEnvelopeType → UInt8
  | .auth => 1

def AuthEnvelopeType.tryFrom (number : UInt8) : Except CoreError AuthEnvelopeType :=
  if number = 1 then .ok .auth else .error (noDiscriminant "AuthEnvelopeType" number)

def AuthFrameType.tag : AuthFrameType → UInt8
  | .start => 1
  | .message => 2
  | .confirm => 3

def AuthFrameType.tryFrom (number : UInt8) : Except CoreError AuthFrameType :=
  if number = 1 then .ok .start
  else if number = 2 then .ok .message
  else if number = 3 then .ok .confirm
  else .error (noDiscriminant "AuthFrameType" number)

def PeerRole.tag : PeerRole → UInt8
  | .sender => 1
  | .receiver => 2

def boolTag (value : Bool) : UInt8 := if value then 1 else 0

/-! ## Writing -/

def writeBytes (value : Bytes) : Except CoreError Bytes := do
  reject (¬ value.length < 2 ^ 32) (.protocol "authentication field exceeds u32")
  pure (u32Be (UInt32.ofNat value.length) ++ value)

def encodeAuthFrame : Frame → Except CoreError Bytes
  | .auth (.spake2Start start) => do
    let nonce ← writeBytes start.nonce
    let message ← writeBytes start.message
    pure ([AuthFrameType.start.tag] ++ u32Be start.protocolVersion ++ [start.role.tag] ++
      nonce ++ message ++ [boolTag start.rememberConsent])
  | .auth (.spake2Message message) => do
    let nonce ← writeBytes message.nonce
    let text ← writeBytes message.message
    pure ([AuthFrameType.message.tag] ++ nonce ++ text ++ [boolTag message.rememberConsent])
  | .auth (.spake2Confirm confirm) => do
    let proof ← writeBytes confirm.proof
    let contribution ← match confirm.rememberContribution with
      | some contribution => writeBytes contribution
      | none => pure []
    pure ([AuthFrameType.confirm.tag] ++ proof ++ [boolTag confirm.rememberContribution.isSome] ++
      contribution)

/-- The writes of `write_frame`, one after the other. -/
def writeFrame (frame : Frame) : Except CoreError Bytes := do
  let payload ← encodeAuthFrame frame
  reject (payload.length > maxAuthFrameBytes)
    (.protocol "authentication frame exceeds its allocation bound")
  pure (authMagic ++ u16Be authWireVersion ++ [AuthEnvelopeType.auth.tag, 0] ++
    u32Be (UInt32.ofNat payload.length) ++ payload)

/-! ## Reading -/

abbrev PayloadReader (α : Type) := Cursor.Read CoreError α

namespace PayloadReader

def overflow : CoreError := .protocol "authentication field length overflow"
def truncated : CoreError := .protocol "truncated authentication frame"

def readU8 : PayloadReader UInt8 := Cursor.u8 overflow truncated

def readU32 : PayloadReader UInt32 := Cursor.u32 overflow truncated

def readBytes : PayloadReader Bytes := Cursor.prefixed overflow truncated

def readPeerRole : PayloadReader PeerRole := do
  let role ← readU8
  if role = 1 then pure .sender
  else if role = 2 then pure .receiver
  else throw (.protocol ("unknown peer role " ++ toString role))

def readBool : PayloadReader Bool := do
  let value ← readU8
  if value = 0 then pure false
  else if value = 1 then pure true
  else throw (.protocol ("invalid authentication boolean " ++ toString value))

def finish : PayloadReader Unit := fun cursor =>
  if cursor.offset = cursor.payload.length then .ok ((), cursor)
  else .error (.protocol "authentication frame has trailing bytes")

end PayloadReader

open PayloadReader

def readContribution : Bool → PayloadReader (Option Bytes)
  | true => do
    let contribution ← readBytes
    pure (some contribution)
  | false => pure none

def readAuth : AuthFrameType → PayloadReader AuthFrame
  | .start => do
    let protocolVersion ← readU32
    let role ← readPeerRole
    let nonce ← readBytes
    let message ← readBytes
    let rememberConsent ← readBool
    pure (.spake2Start { protocolVersion, role, nonce, message, rememberConsent })
  | .message => do
    let nonce ← readBytes
    let message ← readBytes
    let rememberConsent ← readBool
    pure (.spake2Message { nonce, message, rememberConsent })
  | .confirm => do
    let proof ← readBytes
    let contributed ← readBool
    let rememberContribution ← readContribution contributed
    pure (.spake2Confirm { proof, rememberContribution })

def decodeAuthFrame (payload : Bytes) : Except CoreError Frame :=
  let reader : PayloadReader Frame := do
    let number ← readU8
    let frameType ← Cursor.attempt (AuthFrameType.tryFrom number)
    let auth ← readAuth frameType
    finish
    pure (.auth auth)
  reader.run' (Cursor.start payload)

/-- The checks of the header; the length of the payload after it. -/
def headerLength (header : Bytes) : Except CoreError Nat := do
  reject (header.take 4 ≠ authMagic) (.protocol "bad authentication frame magic")
  let version := UInt16.ofNat (ofBe ((header.drop 4).take 2))
  reject (version ≠ authWireVersion)
    (.protocol ("unsupported authentication frame version " ++ toString version))
  let envelope ← AuthEnvelopeType.tryFrom (header.getD 6 0)
  reject (envelope ≠ .auth ∨ header.getD 7 0 ≠ 0) (.protocol "invalid authentication frame header")
  let length := ofBe ((header.drop 8).take 4)
  reject (length > maxAuthFrameBytes)
    (.protocol "authentication frame exceeds its allocation bound")
  pure length

def readFrame : Reading CoreError Frame := do
  let header ← readExact .io authHeaderBytes
  let length ← attempt (headerLength header)
  let payload ← readExact .io length
  attempt (decodeAuthFrame payload)

/-! ## The payload -/

structure Spake2Start.Fits (self : Spake2Start) : Prop where
  nonce : self.nonce.length < 2 ^ 32
  message : self.message.length < 2 ^ 32

structure Spake2Message.Fits (self : Spake2Message) : Prop where
  nonce : self.nonce.length < 2 ^ 32
  message : self.message.length < 2 ^ 32

structure Spake2Confirm.Fits (self : Spake2Confirm) : Prop where
  proof : self.proof.length < 2 ^ 32
  rememberContribution : ∀ contribution ∈ self.rememberContribution, contribution.length < 2 ^ 32

/-- Every string of the frame is short enough for the field of its length. -/
def AuthFrame.Fits : AuthFrame → Prop
  | .spake2Start start => start.Fits
  | .spake2Message message => message.Fits
  | .spake2Confirm confirm => confirm.Fits

def AuthFrame.type : AuthFrame → AuthFrameType
  | .spake2Start _ => .start
  | .spake2Message _ => .message
  | .spake2Confirm _ => .confirm

/-- What stands after the type. -/
def AuthFrame.fields : AuthFrame → Bytes
  | .spake2Start start =>
    u32Be start.protocolVersion ++
      ([start.role.tag] ++
        (prefixed start.nonce ++ (prefixed start.message ++ [boolTag start.rememberConsent])))
  | .spake2Message message =>
    prefixed message.nonce ++ (prefixed message.message ++ [boolTag message.rememberConsent])
  | .spake2Confirm confirm =>
    prefixed confirm.proof ++ ([boolTag confirm.rememberContribution.isSome] ++
      (confirm.rememberContribution.map prefixed).getD [])

theorem writeBytes_eq_ok {value out : Bytes} : writeBytes value = .ok out ↔
    value.length < 2 ^ 32 ∧ out = prefixed value := by
  simp only [writeBytes, bind_eq_ok, reject_eq_ok, exists_unit, not_not, pure_eq_ok, prefixed,
    @eq_comm _ out]

theorem encodeAuthFrame_eq_ok {frame : AuthFrame} {out : Bytes} :
    encodeAuthFrame (.auth frame) = .ok out ↔
      frame.Fits ∧ out = frame.type.tag :: frame.fields := by
  cases frame with
  | spake2Start start =>
    simp only [encodeAuthFrame, bind_eq_ok, writeBytes_eq_ok, pure_eq_ok]
    constructor
    · rintro ⟨_, ⟨nonce, rfl⟩, _, ⟨message, rfl⟩, rfl⟩
      exact ⟨⟨nonce, message⟩, by simp [AuthFrame.type, AuthFrame.fields]⟩
    · rintro ⟨⟨nonce, message⟩, rfl⟩
      exact ⟨_, ⟨nonce, rfl⟩, _, ⟨message, rfl⟩, by simp [AuthFrame.type, AuthFrame.fields]⟩
  | spake2Message message =>
    simp only [encodeAuthFrame, bind_eq_ok, writeBytes_eq_ok, pure_eq_ok]
    constructor
    · rintro ⟨_, ⟨nonce, rfl⟩, _, ⟨text, rfl⟩, rfl⟩
      exact ⟨⟨nonce, text⟩, by simp [AuthFrame.type, AuthFrame.fields]⟩
    · rintro ⟨⟨nonce, text⟩, rfl⟩
      exact ⟨_, ⟨nonce, rfl⟩, _, ⟨text, rfl⟩, by simp [AuthFrame.type, AuthFrame.fields]⟩
  | spake2Confirm confirm =>
    obtain ⟨proof, contribution⟩ := confirm
    cases contribution with
    | none =>
      simp only [encodeAuthFrame, bind_eq_ok, writeBytes_eq_ok, pure_eq_ok]
      constructor
      · rintro ⟨_, ⟨small, rfl⟩, _, rfl, rfl⟩
        exact ⟨⟨small, by simp⟩, by simp [AuthFrame.type, AuthFrame.fields]⟩
      · rintro ⟨⟨small, _⟩, rfl⟩
        exact ⟨_, ⟨small, rfl⟩, _, rfl, by simp [AuthFrame.type, AuthFrame.fields]⟩
    | some contribution =>
      simp only [encodeAuthFrame, bind_eq_ok, writeBytes_eq_ok, pure_eq_ok]
      constructor
      · rintro ⟨_, ⟨small, rfl⟩, _, ⟨short, rfl⟩, rfl⟩
        exact ⟨⟨small, by simpa using short⟩, by simp [AuthFrame.type, AuthFrame.fields]⟩
      · rintro ⟨⟨small, short⟩, rfl⟩
        exact ⟨_, ⟨small, rfl⟩, _, ⟨short contribution rfl, rfl⟩,
          by simp [AuthFrame.type, AuthFrame.fields]⟩

@[simp] theorem readPeerRole_run_ok {role : PeerRole} {before after : Cursor} :
    readPeerRole.run before = .ok (role, after) ↔ before.Passes [role.tag] after := by
  simp only [readPeerRole, readU8, Cursor.run_bind_ok, Cursor.run_u8_ok]
  constructor
  · rintro ⟨tag, middle, passes, read⟩
    split at read
    case isTrue sender =>
      obtain ⟨rfl, rfl⟩ := Cursor.run_pure_ok.mp read
      rw [sender] at passes
      exact passes
    case isFalse =>
      split at read
      case isTrue receiver =>
        obtain ⟨rfl, rfl⟩ := Cursor.run_pure_ok.mp read
        rw [receiver] at passes
        exact passes
      case isFalse => cases read
  · intro passes
    exact ⟨role.tag, after, passes, by cases role <;> rfl⟩

@[simp] theorem readBool_run_ok {value : Bool} {before after : Cursor} :
    readBool.run before = .ok (value, after) ↔ before.Passes [boolTag value] after := by
  simp only [readBool, readU8, Cursor.run_bind_ok, Cursor.run_u8_ok]
  constructor
  · rintro ⟨tag, middle, passes, read⟩
    split at read
    case isTrue no =>
      obtain ⟨rfl, rfl⟩ := Cursor.run_pure_ok.mp read
      rw [no] at passes
      exact passes
    case isFalse =>
      split at read
      case isTrue yes =>
        obtain ⟨rfl, rfl⟩ := Cursor.run_pure_ok.mp read
        rw [yes] at passes
        exact passes
      case isFalse => cases read
  · intro passes
    exact ⟨boolTag value, after, passes, by cases value <;> rfl⟩

@[simp] theorem finish_run_ok {done : Unit} {before after : Cursor} :
    finish.run before = .ok (done, after) ↔
      before = after ∧ before.offset = before.payload.length := by
  change (if before.offset = before.payload.length then Except.ok ((), before) else .error _) = _ ↔
    _
  by_cases finished : before.offset = before.payload.length <;> simp [finished]

theorem tryFrom_eq_ok {number : UInt8} {type : AuthFrameType} :
    AuthFrameType.tryFrom number = .ok type ↔ number = type.tag := by
  constructor
  · intro known
    unfold AuthFrameType.tryFrom at known
    split at known
    case isTrue start => cases known; exact start
    case isFalse =>
      split at known
      case isTrue message => cases known; exact message
      case isFalse =>
        split at known
        case isTrue confirm => cases known; exact confirm
        case isFalse => cases known
  · rintro rfl
    cases type <;> rfl

theorem readContribution_run_ok {contributed : Bool} {contribution : Option Bytes}
    {before after : Cursor} :
    (readContribution contributed).run before = .ok (contribution, after) ↔
      contributed = contribution.isSome ∧ (∀ value ∈ contribution, value.length < 2 ^ 32) ∧
        before.Passes ((contribution.map prefixed).getD []) after := by
  cases contributed with
  | false =>
    simp only [readContribution, Cursor.run_pure_ok]
    constructor
    · rintro ⟨rfl, rfl⟩
      exact ⟨rfl, by simp, by simp⟩
    · rintro ⟨none, _, passes⟩
      have absent : contribution = .none :=
        Option.isNone_iff_eq_none.mp (Option.isSome_eq_false_iff.mp none.symm)
      subst absent
      exact ⟨rfl, (Cursor.passes_nil.mp passes).symm⟩
  | true =>
    simp only [readContribution, readBytes, Cursor.run_bind_ok, Cursor.run_prefixed_ok,
      Cursor.run_pure_ok]
    constructor
    · rintro ⟨value, _, ⟨short, passes⟩, rfl, rfl⟩
      exact ⟨rfl, by simpa using short, passes⟩
    · rintro ⟨some, short, passes⟩
      obtain ⟨value, rfl⟩ := Option.isSome_iff_exists.mp some.symm
      exact ⟨value, after, ⟨short value rfl, passes⟩, rfl, rfl⟩

/-- Each layout reads the fields that its frames are written with. -/
theorem readAuth_run_ok {type : AuthFrameType} {frame : AuthFrame} {before after : Cursor} :
    (readAuth type).run before = .ok (frame, after) ↔
      frame.type = type ∧ frame.Fits ∧ before.Passes frame.fields after := by
  cases type with
  | start =>
    simp only [readAuth, readU32, readBytes, Cursor.run_bind_ok, Cursor.run_u32_ok,
      readPeerRole_run_ok, Cursor.run_prefixed_ok, readBool_run_ok, Cursor.run_pure_ok]
    constructor
    · rintro ⟨version, _, atVersion, role, _, atRole, nonce, _, ⟨small, atNonce⟩, message, _,
        ⟨short, atMessage⟩, consent, _, atConsent, rfl, rfl⟩
      exact ⟨rfl, ⟨small, short⟩,
        atVersion.append (atRole.append (atNonce.append (atMessage.append atConsent)))⟩
    · rintro ⟨type, fits, passes⟩
      cases frame with
      | spake2Start start =>
        obtain ⟨small, short⟩ := fits
        simp only [AuthFrame.fields, Cursor.passes_append] at passes
        obtain ⟨_, atVersion, _, atRole, _, atNonce, _, atMessage, atConsent⟩ := passes
        exact ⟨_, _, atVersion, _, _, atRole, _, _, ⟨small, atNonce⟩, _, _, ⟨short, atMessage⟩, _,
          _, atConsent, rfl, rfl⟩
      | spake2Message message => cases type
      | spake2Confirm confirm => cases type
  | message =>
    simp only [readAuth, readBytes, Cursor.run_bind_ok, Cursor.run_prefixed_ok, readBool_run_ok,
      Cursor.run_pure_ok]
    constructor
    · rintro ⟨nonce, _, ⟨small, atNonce⟩, message, _, ⟨short, atMessage⟩, consent, _,
        atConsent, rfl, rfl⟩
      exact ⟨rfl, ⟨small, short⟩, atNonce.append (atMessage.append atConsent)⟩
    · rintro ⟨type, fits, passes⟩
      cases frame with
      | spake2Start start => cases type
      | spake2Message message =>
        obtain ⟨small, short⟩ := fits
        simp only [AuthFrame.fields, Cursor.passes_append] at passes
        obtain ⟨_, atNonce, _, atMessage, atConsent⟩ := passes
        exact ⟨_, _, ⟨small, atNonce⟩, _, _, ⟨short, atMessage⟩, _, _, atConsent, rfl, rfl⟩
      | spake2Confirm confirm => cases type
  | confirm =>
    simp only [readAuth, readBytes, Cursor.run_bind_ok, Cursor.run_prefixed_ok, readBool_run_ok,
      readContribution_run_ok, Cursor.run_pure_ok]
    constructor
    · rintro ⟨proof, _, ⟨small, atProof⟩, contributed, _, atContributed, contribution, _,
        ⟨rfl, short, atContribution⟩, rfl, rfl⟩
      exact ⟨rfl, ⟨small, short⟩, atProof.append (atContributed.append atContribution)⟩
    · rintro ⟨type, fits, passes⟩
      cases frame with
      | spake2Start start => cases type
      | spake2Message message => cases type
      | spake2Confirm confirm =>
        obtain ⟨small, short⟩ := fits
        simp only [AuthFrame.fields, Cursor.passes_append] at passes
        obtain ⟨_, atProof, _, atContributed, atContribution⟩ := passes
        exact ⟨_, _, ⟨small, atProof⟩, _, _, atContributed, _, _,
          ⟨rfl, short, atContribution⟩, rfl, rfl⟩

theorem AuthFrame.Fits.length {frame : AuthFrame} (fits : frame.Fits) :
    (frame.type.tag :: frame.fields).length < 2 ^ 64 := by
  cases frame with
  | spake2Start start =>
    obtain ⟨nonce, message⟩ := fits
    simp only [AuthFrame.fields, List.length_cons, List.length_append, length_u32Be,
      length_prefixed, List.length_nil]
    omega
  | spake2Message message =>
    obtain ⟨nonce, text⟩ := fits
    simp only [AuthFrame.fields, List.length_cons, List.length_append, length_prefixed,
      List.length_nil]
    omega
  | spake2Confirm confirm =>
    obtain ⟨proof, contribution⟩ := fits
    have short : ((confirm.rememberContribution.map prefixed).getD []).length < 2 ^ 33 := by
      cases given : confirm.rememberContribution with
      | none => decide
      | some value =>
        have bound := contribution value given
        simp only [Option.map_some, Option.getD_some, length_prefixed]
        omega
    simp only [AuthFrame.fields, List.length_cons, List.length_append, length_prefixed,
      List.length_nil]
    omega

/-- The parser accepts exactly what the frames are written as. -/
theorem decodeAuthFrame_eq_ok {frame : AuthFrame} {payload : Bytes} :
    decodeAuthFrame payload = .ok (.auth frame) ↔
      frame.Fits ∧ payload = frame.type.tag :: frame.fields := by
  have whole : decodeAuthFrame payload = .ok (.auth frame) ↔ frame.Fits ∧
      ∃ after, (Cursor.start payload).Passes ([frame.type.tag] ++ frame.fields) after ∧
        after.offset = after.payload.length := by
    simp only [decodeAuthFrame, Cursor.run'_ok, readU8, Cursor.run_bind_ok, Cursor.run_u8_ok,
      Cursor.run_attempt_ok, tryFrom_eq_ok, readAuth_run_ok, finish_run_ok, Cursor.run_pure_ok]
    constructor
    · rintro ⟨after, _, _, atTag, type, _, ⟨rfl, rfl⟩, read, _, ⟨rfl, fits, atFields⟩, _, _,
        ⟨rfl, finished⟩, same, rfl⟩
      cases same
      exact ⟨fits, _, atTag.append atFields, finished⟩
    · rintro ⟨fits, after, passes, finished⟩
      obtain ⟨middle, atTag, atFields⟩ := passes.split
      exact ⟨after, _, middle, atTag, _, middle, ⟨rfl, rfl⟩, frame, after,
        ⟨rfl, fits, atFields⟩, (), after, ⟨rfl, finished⟩, rfl, rfl⟩
  rw [whole, Cursor.passes_whole]
  constructor
  · rintro ⟨fits, rfl, _⟩
    exact ⟨fits, rfl⟩
  · rintro ⟨fits, rfl⟩
    exact ⟨fits, rfl, fits.length⟩

/-! ## The envelope -/

/-- The header of a payload of `length` bytes. -/
def header (length : Nat) : Bytes :=
  authMagic ++ u16Be authWireVersion ++ [AuthEnvelopeType.auth.tag, 0] ++
    u32Be (UInt32.ofNat length)

theorem length_header (length : Nat) : (header length).length = authHeaderBytes := by
  simp only [header, List.length_append, length_u16Be, length_u32Be]
  rfl

theorem header_eq (length : Nat) :
    header length = [69, 78, 86, 65, 0, 2, 1, 0] ++ u32Be (UInt32.ofNat length) := rfl

theorem envelope_eq_ok {number : UInt8} {type : AuthEnvelopeType} :
    AuthEnvelopeType.tryFrom number = .ok type ↔ number = 1 := by
  unfold AuthEnvelopeType.tryFrom
  by_cases auth : number = 1 <;> simp [auth]

theorem headerLength_eq_ok {bytes : Bytes} {length : Nat} (full : bytes.length = authHeaderBytes) :
    headerLength bytes = .ok length ↔ bytes = header length ∧ length ≤ maxAuthFrameBytes := by
  simp only [headerLength, bind_eq_ok, reject_eq_ok, exists_unit, not_not, envelope_eq_ok,
    pure_eq_ok, gt_iff_lt, not_lt, not_or]
  constructor
  · rintro ⟨magic, version, envelope, auth, ⟨_, zero⟩, bounded, rfl⟩
    refine ⟨?_, bounded⟩
    match bytes, full with
    | [a, b, c, d, e, f, g, h, i, j, k, l], _ =>
      have version : [e, f] = u16Be authWireVersion := by
        rw [← version]
        exact (u16Be_ofBe rfl).symm
      have length : u32Be (UInt32.ofNat (ofBe [i, j, k, l])) = [i, j, k, l] := u32Be_ofBe rfl
      have magic : [a, b, c, d] = authMagic := magic
      have auth : g = 1 := auth
      have zero : h = 0 := zero
      change [a, b, c, d] ++ [e, f] ++ [g, h] ++ [i, j, k, l] =
        authMagic ++ u16Be authWireVersion ++ [1, 0] ++ u32Be (UInt32.ofNat (ofBe [i, j, k, l]))
      rw [magic, version, auth, zero, length]
  · rintro ⟨rfl, bounded⟩
    have back : ofBe (((header length).drop 8).take 4) = length := by
      have small : length < 2 ^ 32 := Nat.lt_of_le_of_lt bounded (by decide)
      have last : ((header length).drop 8).take 4 = u32Be (UInt32.ofNat length) := by
        rw [header_eq]
        change (u32Be (UInt32.ofNat length)).take 4 = _
        exact List.take_of_length_le (Nat.le_of_eq (length_u32Be _))
      rw [last, ofBe_u32Be, UInt32.toNat_ofNat_of_lt' small]
    have version : UInt16.ofNat (ofBe (((header length).drop 4).take 2)) = authWireVersion := by
      rw [header_eq]
      change UInt16.ofNat (ofBe [0, 2]) = authWireVersion
      decide
    exact ⟨by rw [header_eq]; rfl, version, .auth, by rw [header_eq]; rfl,
      ⟨by simp, by rw [header_eq]; rfl⟩, by rw [back]; exact bounded, back⟩

theorem writeFrame_eq_ok {frame : Frame} {out : Bytes} :
    writeFrame frame = .ok out ↔
      ∃ payload, encodeAuthFrame frame = .ok payload ∧ payload.length ≤ maxAuthFrameBytes ∧
        out = header payload.length ++ payload := by
  simp only [writeFrame, bind_eq_ok, reject_eq_ok, exists_unit, pure_eq_ok, gt_iff_lt, not_lt,
    header, @eq_comm _ out]

/-- Whatever comes, the reader asks for no more than a frame may have at a time, and what it reads
of the stream for a frame is what that frame is written as. -/
theorem readFrame_takes (stream : ByteStream) {result : Except CoreError Frame} {after : ByteStream}
    (read : readFrame.run.run stream = (result, after)) :
    ∃ taken, stream.Takes maxAuthFrameBytes (authHeaderBytes + maxAuthFrameBytes) taken after ∧
      ∀ frame, result = .ok frame → writeFrame frame = .ok taken := by
  obtain ⟨first, headerTaken, headerRead⟩ := readExact_takes CoreError.io authHeaderBytes stream
  rw [readFrame, run_bind] at read
  rcases opened : (readExact CoreError.io authHeaderBytes).run.run stream with ⟨outcome, middle⟩
  rw [opened] at headerTaken headerRead read
  cases outcome with
  | error error =>
    cases read
    exact ⟨first, headerTaken.weaken (by decide) (by decide), fun frame found => by cases found⟩
  | ok bytes =>
    obtain ⟨rfl, full⟩ := headerRead bytes rfl
    simp only [run_bind, run_attempt] at read
    have opening :=
      headerTaken.weaken (show authHeaderBytes ≤ maxAuthFrameBytes by decide) (Nat.le_refl _)
    cases checked : headerLength bytes with
    | error error =>
      rw [checked] at read
      cases read
      exact ⟨bytes, opening.weaken (Nat.le_refl _) (Nat.le_add_right _ _), fun frame found => by
        cases found⟩
    | ok length =>
      obtain ⟨rfl, bounded⟩ := (headerLength_eq_ok full).mp checked
      obtain ⟨payload, payloadTaken, payloadRead⟩ := readExact_takes CoreError.io length middle
      have together := opening.append (payloadTaken.weaken bounded bounded)
      simp only [checked] at read
      rcases filled : (readExact CoreError.io length).run.run middle with ⟨outcome, last⟩
      rw [filled] at payloadRead together
      simp only [filled] at read
      cases outcome with
      | error error =>
        cases read
        exact ⟨header length ++ payload, together, fun frame found => by cases found⟩
      | ok bytes =>
        obtain ⟨rfl, rfl⟩ := payloadRead bytes rfl
        cases read
        refine ⟨header bytes.length ++ bytes, together, fun frame found => ?_⟩
        obtain ⟨frame⟩ := frame
        have encoded := encodeAuthFrame_eq_ok.mpr (decodeAuthFrame_eq_ok.mp found)
        exact writeFrame_eq_ok.mpr ⟨bytes, encoded, bounded, rfl⟩

/-- What was written is read again, in whatever chunks it comes. -/
theorem readFrame_written {frame : Frame} {written others : Bytes}
    (wrote : writeFrame frame = .ok written) {stream : ByteStream}
    (flowing : ∀ chunk ∈ stream.chunks, chunk ≠ []) (coming : stream.bytes = written ++ others) :
    ∃ after, readFrame.run.run stream = (.ok frame, after) ∧ after.bytes = others := by
  obtain ⟨payload, encoded, bounded, rfl⟩ := writeFrame_eq_ok.mp wrote
  rw [List.append_assoc] at coming
  obtain ⟨middle, opened, payloadComing, still⟩ := readExact_complete CoreError.io flowing coming
  obtain ⟨after, filled, rest, _⟩ := readExact_complete CoreError.io still payloadComing
  obtain ⟨frame⟩ := frame
  have checked := (headerLength_eq_ok (length_header payload.length)).mpr ⟨rfl, bounded⟩
  have decoded := decodeAuthFrame_eq_ok.mpr (encodeAuthFrame_eq_ok.mp encoded)
  rw [length_header] at opened
  refine ⟨after, ?_, rest⟩
  rw [readFrame]
  simp only [run_bind, run_attempt, opened, checked, filled, decoded]

/-- The chunks may end anywhere in the frame. -/
example :
    let stream : ByteStream :=
      ⟨[[69, 78, 86], [65, 0, 2, 1, 0, 0, 0, 0, 10, 2, 0, 0, 0], [0, 0, 0, 0, 0, 1, 7]], none, []⟩
    (readFrame.run.run stream).1.toOption = some (.auth (.spake2Message ⟨[], [], true⟩)) ∧
      (readFrame.run.run stream).2 = ⟨[[7]], none, [12, 9, 10, 6]⟩ := by
  decide

/-- The codec of the authentication frames: two directions, and a reader that is bounded and
exact. -/
theorem auth_frame_codec :
    (∀ frame bytes, encodeAuthFrame frame = .ok bytes → decodeAuthFrame bytes = .ok frame) ∧
      (∀ bytes frame, decodeAuthFrame bytes = .ok frame → encodeAuthFrame frame = .ok bytes) ∧
      ∀ stream : ByteStream,
        (∃ made, (readFrame.run.run stream).2.requested = stream.requested ++ made ∧
          ∀ size ∈ made, size ≤ maxAuthFrameBytes) ∧
        ∀ frame, (readFrame.run.run stream).1 = .ok frame →
          ∃ written, writeFrame frame = .ok written ∧
            stream.bytes = written ++ (readFrame.run.run stream).2.bytes := by
  refine ⟨?_, ?_, fun stream => ?_⟩
  · intro ⟨frame⟩ bytes encoded
    exact decodeAuthFrame_eq_ok.mpr (encodeAuthFrame_eq_ok.mp encoded)
  · intro bytes ⟨frame⟩ decoded
    exact encodeAuthFrame_eq_ok.mpr (decodeAuthFrame_eq_ok.mp decoded)
  · obtain ⟨taken, takes, wrote⟩ := readFrame_takes stream rfl
    exact ⟨takes.requested, fun frame read => ⟨taken, wrote frame read, takes.bytes⟩⟩

end Envoix.Protocol.Envelope
