import Envoix.Foundation.Process
import Envoix.Nearby.NfcInvitation

/-! # Reading an invitation off a phone

`NfcType4TagProtocol.kt`, which hosts one NDEF message as a tag, and `NfcPrivateInvitationReader` of
`NfcInvitationReader.kt`, which reads it in pieces. -/

namespace Envoix.Nfc

open ByteCodec Process Process.Method

structure HostedNdefSnapshot where
  generation : Int
  message : Bytes

inductive SelectedFile where
  | none
  | capabilityContainer
  | ndef
deriving DecidableEq

/-- `messagesRead` are the calls of `onMessageRead` so far. -/
structure Tag where
  selectedFile : SelectedFile
  generation : Option Int
  ndefFile : Option Bytes
  readCompletionReported : Bool
  contiguousNdefReadEnd : Nat
  messagesRead : List Int

/-- What the tag asks of the app that hosts it. -/
structure Host where
  snapshot : Option HostedNdefSnapshot
  isCurrent : Int → Bool

/-! ## The tag -/

def maxNdefFileBytes : Nat := 0x7fff
def maxNdefMessageBytes : Nat := maxNdefFileBytes - 2

def ndefApplicationAid : Bytes := [0xd2, 0x76, 0x00, 0x00, 0x85, 0x01, 0x01]
def envoixApplicationAid : Bytes := [0xf0, 0x45, 0x4e, 0x56, 0x4f, 0x49, 0x58, 0x01]
def capabilityContainerFileId : Bytes := [0xe1, 0x03]
def ndefFileId : Bytes := [0xe1, 0x04]
def capabilityContainer : Bytes :=
  [0x00, 0x0f, 0x20, 0x00, 0xff, 0x00, 0xff, 0x04, 0x06, 0xe1, 0x04, 0x7f, 0xff, 0x00, 0xff]

def success : Bytes := [0x90, 0x00]
def wrongLength : Bytes := [0x67, 0x00]
def conditionsNotSatisfied : Bytes := [0x69, 0x85]
def incorrectParameters : Bytes := [0x6a, 0x86]
def fileNotFound : Bytes := [0x6a, 0x82]
def wrongParameters : Bytes := [0x6b, 0x00]
def instructionNotSupported : Bytes := [0x6d, 0x00]
def classNotSupported : Bytes := [0x6e, 0x00]

namespace Tag

def deactivate (tag : Tag) : Tag :=
  { tag with
    generation := none
    selectedFile := .none
    readCompletionReported := false
    contiguousNdefReadEnd := 0
    ndefFile := none }

/-- A file is the length of the message in two bytes and the message. -/
def fileOf (message : Bytes) : Bytes :=
  UInt8.ofNat (message.length / 256) :: UInt8.ofNat message.length :: message

def selectApplication (host : Host) (tag : Tag) : Bytes × Tag :=
  let tag := tag.deactivate
  match host.snapshot with
  | none => (fileNotFound, tag)
  | some hosted =>
    if hosted.message = [] ∨ hosted.message.length > maxNdefMessageBytes ∨
      ¬ host.isCurrent hosted.generation then
      (conditionsNotSatisfied, tag)
    else
      (success, { tag with
        generation := some hosted.generation
        ndefFile := some (fileOf hosted.message)
        selectedFile := .none })

def sessionIsCurrent (host : Host) (tag : Tag) : Bool × Tag :=
  match tag.generation with
  | none => (false, tag)
  | some activeGeneration =>
    if host.isCurrent activeGeneration then (true, tag) else (false, tag.deactivate)

def selectFile (host : Host) (fileId : Bytes) (tag : Tag) : Bytes × Tag :=
  match sessionIsCurrent host tag with
  | (false, tag) => (conditionsNotSatisfied, tag)
  | (true, tag) =>
    if fileId = capabilityContainerFileId then
      (success, { tag with selectedFile := .capabilityContainer })
    else if fileId = ndefFileId then
      (success, { tag with selectedFile := .ndef, contiguousNdefReadEnd := 0 })
    else (fileNotFound, { tag with selectedFile := .none })

/-- What is noted of a read of the NDEF file up to `readEnd`. -/
def noteRead (file : Bytes) (offset readEnd : Nat) (tag : Tag) : Tag :=
  let contiguous :=
    if offset ≤ tag.contiguousNdefReadEnd then max tag.contiguousNdefReadEnd readEnd
    else tag.contiguousNdefReadEnd
  let tag := { tag with contiguousNdefReadEnd := contiguous }
  match tag.generation with
  | some activeGeneration =>
    if contiguous = file.length ∧ ¬ tag.readCompletionReported then
      { tag with readCompletionReported := true, messagesRead := tag.messagesRead ++
        [activeGeneration] }
    else tag
  | none => tag

def readFile (file : Bytes) (offset requested : Nat) (tag : Tag) : Bytes × Tag :=
  if offset ≥ file.length then (wrongParameters, tag)
  else
    let requested := if requested = 0 then 256 else requested
    let readEnd := min (offset + requested) file.length
    let response := (file.take readEnd).drop offset ++ success
    (response, if tag.selectedFile = .ndef then noteRead file offset readEnd tag else tag)

def readBinary (host : Host) (command : Bytes) (tag : Tag) : Bytes × Tag :=
  match command with
  | [_, _, high, low, length] =>
    match sessionIsCurrent host tag with
    | (false, tag) => (conditionsNotSatisfied, tag)
    | (true, tag) =>
      let offset := high.toNat * 256 + low.toNat
      match tag.selectedFile, tag.ndefFile with
      | .capabilityContainer, _ => readFile capabilityContainer offset length.toNat tag
      | .ndef, some file => readFile file offset length.toNat tag
      | .ndef, none | .none, _ => (conditionsNotSatisfied, tag)
  | _ => (wrongLength, tag)

/-- The data of a short command, with or without an expected length after it. -/
def shortCommandData (command : Bytes) : Option Bytes :=
  match command[4]? with
  | none => none
  | some length =>
    let withoutLe := 5 + length.toNat
    if command.length ≠ withoutLe ∧ command.length ≠ withoutLe + 1 then none
    else some ((command.take withoutLe).drop 5)

def isSupportedApplicationAid (aid : Bytes) : Bool :=
  aid = ndefApplicationAid ∨ aid = envoixApplicationAid

def select (host : Host) (command : Bytes) (p1 p2 : UInt8) (tag : Tag) : Bytes × Tag :=
  match shortCommandData command with
  | none => (wrongLength, tag)
  | some data =>
    if p1 = 0x04 ∧ p2 = 0x00 then
      if isSupportedApplicationAid data then selectApplication host tag
      else (fileNotFound, tag.deactivate)
    else if p1 = 0x00 ∧ p2 = 0x0c ∧ data.length = 2 then selectFile host data tag
    else (incorrectParameters, if p1 = 0x04 then tag.deactivate else tag)

def process (host : Host) (command : Bytes) (tag : Tag) : Bytes × Tag :=
  match command with
  | isoClass :: instruction :: p1 :: p2 :: _ =>
    if isoClass ≠ 0x00 then (classNotSupported, tag)
    else if instruction = 0xa4 then select host command p1 p2 tag
    else if instruction = 0xb0 then readBinary host command tag
    else (instructionNotSupported, tag)
  | _ => (wrongLength, tag)

end Tag

/-! ## The reader -/

namespace Reader

def ndefLengthBytes : Nat := 2
def maxReadBytes : Nat := 0xff

def selectApplication : Bytes := [0x00, 0xa4, 0x04, 0x00, 0x08] ++ envoixApplicationAid

def selectNdefFile : Bytes := [0x00, 0xa4, 0x00, 0x0c, 0x02] ++ ndefFileId

def readBinary (offset length : Nat) : Bytes :=
  [0x00, 0xb0, UInt8.ofNat (offset / 256), UInt8.ofNat offset, UInt8.ofNat length]

def successBody (response : Bytes) (expectedBytes : Nat) : Option Bytes :=
  if response.length = expectedBytes + 2 ∧ response.drop expectedBytes = success then
    some (response.take expectedBytes)
  else none

/-- `copyInto` at an offset. -/
def copyInto (body message : Bytes) (offset : Nat) : Bytes :=
  message.take offset ++ body ++ message.drop (offset + body.length)

section Channel

variable {State : Type} (channel : Bytes → State → Bytes × State)

/-- The reader gives up without a reason. -/
abbrev Reading (State α : Type) := Method Id State Unit α

def transceive (command : Bytes) : Reading State Bytes := do
  let state ← get
  let (response, state) := channel command state
  set state
  return response

def expect (found : Option Bytes) : Reading State Bytes :=
  match found with
  | some body => pure body
  | none => throw ()

def readChunks (size offset : Nat) (message : Bytes) : Reading State Bytes :=
  if offset < size then do
    let count := min maxReadBytes (size - offset)
    let response ← transceive channel (readBinary (offset + ndefLengthBytes) count)
    let body ← expect (successBody response count)
    readChunks size (offset + count) (copyInto body message offset)
  else return message
termination_by size - offset
decreasing_by
  simp only [maxReadBytes]
  omega

def readNdefMessage : Reading State Bytes := do
  let response ← transceive channel selectApplication
  if response ≠ success then throw ()
  let response ← transceive channel selectNdefFile
  if response ≠ success then throw ()
  let lengthResponse ← transceive channel (readBinary 0 ndefLengthBytes)
  let lengthBytes ← expect (successBody lengthResponse ndefLengthBytes)
  let messageLength := (lengthBytes.getD 0 0).toNat * 256 + (lengthBytes.getD 1 0).toNat
  if messageLength = 0 ∨ messageLength > maxNdefMessageBytes then throw ()
  readChunks channel messageLength 0 (List.replicate messageLength 0)

end Channel

end Reader

/-! ## A read of the whole message -/

section Read

variable {host : Host} {generation : Int} {message : Bytes}

/-- A tag whose NDEF file has been read from its start up to `readEnd`. -/
def serving (generation : Int) (file : Bytes) (readEnd : Nat) (reported : Bool)
    (messagesRead : List Int) : Tag where
  selectedFile := .ndef
  generation := some generation
  ndefFile := some file
  readCompletionReported := reported
  contiguousNdefReadEnd := readEnd
  messagesRead := messagesRead

/-- A tag on which the application is selected. -/
def activated (generation : Int) (file : Bytes) (messagesRead : List Int) : Tag where
  selectedFile := .none
  generation := some generation
  ndefFile := some file
  readCompletionReported := false
  contiguousNdefReadEnd := 0
  messagesRead := messagesRead

theorem process_selectApplication (tag : Tag) (hosted : host.snapshot = some ⟨generation, message⟩)
    (current : host.isCurrent generation = true) (filled : 1 ≤ message.length)
    (size : message.length ≤ maxNdefMessageBytes) :
    Tag.process host Reader.selectApplication tag =
      (success, activated generation (Tag.fileOf message) tag.messagesRead) := by
  have selected : Tag.process host Reader.selectApplication tag = tag.selectApplication host := rfl
  have kept :
      ¬ (message = [] ∨ message.length > maxNdefMessageBytes ∨
          ¬ host.isCurrent generation = true) := by
    simp only [not_or, not_lt, gt_iff_lt, not_not]
    exact ⟨List.length_pos_iff.mp filled, size, current⟩
  rw [selected, Tag.selectApplication]
  simp only [hosted, if_neg kept]
  rfl

theorem process_selectNdefFile {file : Bytes} {messagesRead : List Int}
    (current : host.isCurrent generation = true) :
    Tag.process host Reader.selectNdefFile (activated generation file messagesRead) =
      (success, serving generation file 0 false messagesRead) := by
  have selected : Tag.process host Reader.selectNdefFile (activated generation file messagesRead) =
    Tag.selectFile host ndefFileId (activated generation file messagesRead) := rfl
  have session : Tag.sessionIsCurrent host (activated generation file messagesRead) =
      (true, activated generation file messagesRead) := by
    simp [Tag.sessionIsCurrent, activated, current]
  rw [selected, Tag.selectFile, session]
  rfl

/-- A read that goes on where the last one ended. -/
theorem process_readBinary {file : Bytes} {messagesRead : List Int} {offset count : Nat}
    (current : host.isCurrent generation = true) (some : 1 ≤ count) (few : count ≤ 255)
    (inside : offset + count ≤ file.length) (short : file.length ≤ 65536) :
    Tag.process host (Reader.readBinary offset count)
      (serving generation file offset false messagesRead) =
      ((file.take (offset + count)).drop offset ++ success,
        if offset + count = file.length then
          serving generation file (offset + count) true (messagesRead ++ [generation])
        else serving generation file (offset + count) false messagesRead) := by
  have session : Tag.sessionIsCurrent host (serving generation file offset false messagesRead) =
      (true, serving generation file offset false messagesRead) := by
    simp [Tag.sessionIsCurrent, serving, current]
  have position : (UInt8.ofNat (offset / 256)).toNat * 256 + (UInt8.ofNat offset).toNat =
      offset := by
    rw [UInt8.toNat_ofNat', UInt8.toNat_ofNat']
    omega
  have length : (UInt8.ofNat count).toNat = count := by
    rw [UInt8.toNat_ofNat']
    omega
  have read : Tag.process host (Reader.readBinary offset count)
      (serving generation file offset false messagesRead) =
      Tag.readFile file offset count (serving generation file offset false messagesRead) := by
    show Tag.readBinary host (Reader.readBinary offset count) _ = _
    simp only [Tag.readBinary, Reader.readBinary, session, position, length]
    rfl
  have nonzero : count ≠ 0 := by omega
  have upTo : min (offset + count) file.length = offset + count := Nat.min_eq_left inside
  rw [read, Tag.readFile, if_neg (by omega)]
  simp only [if_neg nonzero, upTo, Prod.mk.injEq, true_and]
  have selected : (serving generation file offset false messagesRead).selectedFile = .ndef := rfl
  rw [if_pos selected]
  have grown : max offset (offset + count) = offset + count := by omega
  simp only [Tag.noteRead, serving, le_refl, if_true, grown]
  by_cases last : offset + count = file.length
  · simp only [last, Bool.false_eq_true, not_false_eq_true, and_self, if_true]
  · simp only [last, false_and, if_false]

theorem leads_transceive {State : Type} {channel : Bytes → State → Bytes × State}
    {command response : Bytes} {state next : State} :
    (Reader.transceive channel command).Leads state response next ↔
      channel command state = (response, next) := by
  simp only [Reader.transceive, leads_bind, leads_get, leads_set, leads_pure]
  constructor
  · rintro ⟨_, _, ⟨rfl, rfl⟩, _, _, rfl, rfl, rfl⟩
    rfl
  · intro same
    exact ⟨state, state, ⟨rfl, rfl⟩, ⟨⟩, _, rfl, congrArg Prod.fst same, congrArg Prod.snd same⟩

theorem leads_expect {State : Type} {found : Option Bytes} {body : Bytes} {state next : State} :
    (Reader.expect found).Leads state body next ↔ found = some body ∧ state = next := by
  cases found with
  | none => simp [Reader.expect]
  | some given => simp [Reader.expect]

theorem successBody_append {body : Bytes} {count : Nat} (length : body.length = count) :
    Reader.successBody (body ++ success) count = some body := by
  subst length
  simp [Reader.successBody, success]

/-- A piece of the file is a piece of the message. -/
theorem fileOf_piece (message : Bytes) (offset count : Nat) :
    ((Tag.fileOf message).take (offset + 2 + count)).drop (offset + 2) =
      (message.take (offset + count)).drop offset := by
  have shifted : offset + 2 + count = (offset + count) + 2 := by omega
  rw [shifted]
  rfl

theorem take_copyInto {buffer : Bytes} {offset count : Nat}
    (same : buffer.take offset = message.take offset) (length : buffer.length = message.length)
    (inside : offset + count ≤ message.length) :
    (Reader.copyInto ((message.take (offset + count)).drop offset) buffer offset).take
        (offset + count) =
        message.take (offset + count) ∧
      (Reader.copyInto ((message.take (offset + count)).drop offset) buffer offset).length =
        message.length := by
  have piece : ((message.take (offset + count)).drop offset).length = count := by
    rw [List.length_drop, List.length_take]
    omega
  have joined : message.take offset ++ (message.take (offset + count)).drop offset =
      message.take (offset + count) := by
    have parts := List.take_append_drop offset (message.take (offset + count))
    rwa [List.take_take, Nat.min_eq_left (by omega)] at parts
  have whole : Reader.copyInto ((message.take (offset + count)).drop offset) buffer offset =
      message.take (offset + count) ++ buffer.drop (offset + count) := by
    rw [Reader.copyInto, same, joined, piece]
  have front : (message.take (offset + count)).length = offset + count := by
    rw [List.length_take]
    omega
  rw [whole]
  constructor
  · rw [List.take_append_of_le_length (by omega), List.take_of_length_le (by omega)]
  · rw [List.length_append, front, List.length_drop]
    omega

/-- The loop of the reader against the tag: what is in the buffer so far is the start of the
message, and the tag has been read as far. -/
theorem readChunks_leads {messagesRead : List Int} (current : host.isCurrent generation = true)
    (size : message.length ≤ maxNdefMessageBytes) {offset : Nat} {buffer : Bytes}
    (more : offset < message.length) (length : buffer.length = message.length)
    (same : buffer.take offset = message.take offset) :
    (Reader.readChunks (Tag.process host) message.length offset buffer).Leads
      (serving generation (Tag.fileOf message) (offset + 2) false messagesRead) message
      (serving generation (Tag.fileOf message)
        (message.length + 2) true (messagesRead ++ [generation])) := by
  induction distance :
      message.length - offset using Nat.strong_induction_on generalizing offset buffer with
  | _ distance ih =>
    have fileLength : (Tag.fileOf message).length = message.length + 2 := rfl
    have bound : message.length ≤ 32765 := size
    rw [Reader.readChunks, if_pos more]
    generalize chosen : min Reader.maxReadBytes (message.length - offset) = count
    have range : 1 ≤ count ∧ count ≤ 255 ∧ offset + count ≤ message.length := by
      simp only [Reader.maxReadBytes] at chosen
      omega
    obtain ⟨positive, few, inside⟩ := range
    have reply :=
      @process_readBinary host generation (Tag.fileOf message) messagesRead (offset + 2)
        count current positive
      few (by omega) (by omega)
    rw [fileOf_piece] at reply
    have piece : ((message.take (offset + count)).drop offset).length = count := by
      rw [List.length_drop, List.length_take]
      omega
    obtain ⟨copied, filled⟩ := take_copyInto same length inside
    simp only [leads_bind, leads_transceive, leads_expect]
    refine ⟨_, _, reply, _, _, ⟨successBody_append piece, rfl⟩, ?_⟩
    by_cases last : offset + count = message.length
    · -- the last piece: the loop ends with the whole message
      have whole : Reader.copyInto ((message.take (offset + count)).drop offset) buffer offset =
          message := by
        calc
          _ = (Reader.copyInto ((message.take (offset + count)).drop offset) buffer offset).take
            (offset + count) :=
            (List.take_of_length_le (by omega)).symm
          _ = message.take (offset + count) := copied
          _ = message := List.take_of_length_le (by omega)
      have position : offset + 2 + count = message.length + 2 := by omega
      rw [if_pos (by omega), position, whole, last, Reader.readChunks, if_neg (by omega)]
      exact leads_pure.mpr ⟨rfl, rfl⟩
    · rw [if_neg (by omega)]
      have position : offset + 2 + count = (offset + count) + 2 := by omega
      rw [position]
      exact ih _ (by omega) (by omega) filled copied rfl

theorem readNdefMessage_leads (tag : Tag) (hosted : host.snapshot = some ⟨generation, message⟩)
    (current : host.isCurrent generation = true) (filled : 1 ≤ message.length)
    (size : message.length ≤ maxNdefMessageBytes) :
    (Reader.readNdefMessage (Tag.process host)).Leads tag message
      (serving generation (Tag.fileOf message)
        (message.length + 2) true (tag.messagesRead ++ [generation])) := by
  have bound : message.length ≤ 32765 := size
  have fileLength : (Tag.fileOf message).length = message.length + 2 := rfl
  have header :=
    @process_readBinary host generation (Tag.fileOf message) tag.messagesRead 0 2 current (by omega)
      (by omega)
    (by omega) (by omega)
  rw [if_neg (by omega)] at header
  have announced :
      (UInt8.ofNat (message.length / 256)).toNat * 256 + (UInt8.ofNat message.length).toNat =
      message.length := by
    rw [UInt8.toNat_ofNat', UInt8.toNat_ofNat']
    omega
  have body :
      Reader.successBody (((Tag.fileOf message).take (0 + 2)).drop 0 ++ success)
        Reader.ndefLengthBytes =
      some [UInt8.ofNat (message.length / 256), UInt8.ofNat message.length] :=
        successBody_append rfl
  have accepted : ¬ (message.length = 0 ∨ message.length > maxNdefMessageBytes) := by omega
  simp only [Reader.readNdefMessage, leads_bind, leads_transceive]
  refine ⟨_, _, process_selectApplication tag hosted current filled size, ?_⟩
  rw [if_neg (by simp)]
  simp only [leads_bind, leads_transceive]
  refine ⟨_, _, process_selectNdefFile current, ?_⟩
  rw [if_neg (by simp)]
  simp only [leads_bind, leads_transceive, leads_expect]
  refine ⟨_, _, header, _, _, ⟨body, rfl⟩, ?_⟩
  simp only [List.getD_cons_zero, List.getD_cons_succ, announced, if_neg accepted]
  exact readChunks_leads current size (by omega) (by simp) rfl

end Read

/-! ## Delivery -/

/-- **Delivery of an invitation by NFC.**  Both platforms write the same bytes and read them back;
they read every message alike; a link is the only one for its invitation; and a reader gets the
message that a tag hosts, which the tag reports once. -/
theorem nfc_delivery (engines : Base64Decoders) :
    (∀ invitation, Canonical invitation → ∃ bytes,
      Android.encode invitation = some bytes ∧
      Apple.message invitation = .ok (Apple.uriMessage bytes) ∧
      Android.decode engines bytes = some invitation ∧
      Apple.invitationFromMessages engines [Apple.uriMessage bytes] = .ok invitation) ∧
    (∀ bytes, (Apple.invitationFromMessages engines [Apple.uriMessage bytes]).toOption =
      Android.decode engines bytes) ∧
    (∀ left right invitation, carrierPrefix.map Text.asciiByte <+: left →
      carrierPrefix.map Text.asciiByte <+: right → Android.decode engines left = some invitation →
      Android.decode engines right = some invitation → left = right) ∧
    ∀ message generation host tag, 1 ≤ message.length → message.length ≤ 32765 →
      host.snapshot = some ⟨generation, message⟩ → host.isCurrent generation = true →
      ∃ after, (Reader.readNdefMessage (Tag.process host)).runOn tag = (.ok message, after) ∧
        after.messagesRead = tag.messagesRead ++ [generation] := by
  refine ⟨?_, decoders_agree engines, ?_, ?_⟩
  · intro invitation canonical
    have carries : Carries (carrier invitation) invitation := ⟨canonical, .inr rfl⟩
    exact ⟨carrier invitation, Android.encode_eq_some.mpr ⟨canonical, rfl⟩,
      Apple.message_eq_ok.mpr ⟨canonical, rfl⟩, Android.decode_eq_some.mpr carries,
      Apple.invitationFromMessage_eq_ok.mpr carries⟩
  · intro left right invitation leftLink rightLink leftRead rightRead
    rw [(Android.decode_eq_some.mp leftRead).link_eq leftLink,
      (Android.decode_eq_some.mp rightRead).link_eq rightLink]
  · intro message generation host tag filled size hosted current
    exact ⟨_, readNdefMessage_leads tag hosted current filled size, rfl⟩

/-- The engines of RFC 4648. -/
def strictDecoders : Base64Decoders where
  urlDecode := Base64.decodeChars
  standardDecode text := Base64.decodeChars ((text.filter (· ≠ '=')).map Base64.urlDigit)
  urlDecode_encode := Base64.decodeChars_encodeChars
  standardDecode_encode bytes := by
    rw [Base64.map_filter_standardChars, Base64.decodeChars_encodeChars]

def roomInvitation : List Char := "envoix://room/012345-ab12-cd34".toList

/-- An app that hosts a message of three bytes. -/
def roomHost : Host where
  snapshot := some ⟨7, [0xd1, 0x01, 0x00]⟩
  isCurrent generation := generation = 7

/-- A tag that another reader left in the middle of a file. -/
def leftTag : Tag := serving 6 (Tag.fileOf [0x01, 0x02]) 3 false [5]

theorem nfc_delivery_room :
    (Android.encode roomInvitation).isSome = true ∧
      (∃ bytes, Apple.message roomInvitation = .ok (Apple.uriMessage bytes) ∧
        Android.decode strictDecoders bytes = some roomInvitation ∧
        ∀ other, carrierPrefix.map Text.asciiByte <+: other →
          carrierPrefix.map Text.asciiByte <+: bytes →
          Android.decode strictDecoders other = some roomInvitation → other = bytes) ∧
      ∃ after, (Reader.readNdefMessage (Tag.process roomHost)).runOn leftTag =
        (.ok [0xd1, 0x01, 0x00], after) ∧
        after.messagesRead = [5, 7] := by
  obtain ⟨codec, -, unique, read⟩ := nfc_delivery strictDecoders
  have canonical : Canonical roomInvitation :=
    ⟨by decide, by decide, "envoix://room/".toList, by decide, "012345-ab12-cd34".toList,
      by decide, by decide⟩
  obtain ⟨bytes, encoded, written, decoded, -⟩ := codec roomInvitation canonical
  refine ⟨by rw [encoded]; rfl, ⟨bytes, written, decoded, ?_⟩, ?_⟩
  · exact fun other otherLink link found =>
      unique other bytes roomInvitation otherLink link found decoded
  · exact read [0xd1, 0x01, 0x00] 7 roomHost leftTag (by decide) (by decide) rfl rfl

end Envoix.Nfc
