import Envoix.Nearby.NfcTag

/-! # The tag over whole runs

What a reader can get out of `NfcType4TagProtocol.kt` by any commands in any order, while the app
hides or replaces the invitation.  A callback that the tag makes is its last act in a command, so
what the app does in it is a later event of the run. -/

namespace Envoix.Nfc

open ByteCodec

/-! ## Every index checked

The functions of the tag as the source has them, where an access outside of an array fails. -/

def copyOfRange (bytes : Bytes) (first last : Nat) : Option Bytes :=
  if first ≤ last ∧ last ≤ bytes.length then some ((bytes.take last).drop first) else none

/-- The element at the index is replaced. -/
def store (bytes : Bytes) (index : Nat) (byte : UInt8) : Option Bytes :=
  if index < bytes.length then some (bytes.set index byte) else none

def copyInto (body bytes : Bytes) (offset : Nat) : Option Bytes :=
  if offset + body.length ≤ bytes.length then some (Reader.copyInto body bytes offset) else none

namespace Tag.Indexed

/-- The outer failure is that of an index. -/
def shortCommandData (command : Bytes) : Option (Option Bytes) :=
  if command.length < 5 then some none
  else do
    let length ← command[4]?
    let withoutLe := 5 + length.toNat
    if command.length ≠ withoutLe ∧ command.length ≠ withoutLe + 1 then some none
    else
      let data ← copyOfRange command 5 withoutLe
      return some data

def fileOf (message : Bytes) : Option Bytes := do
  let file := List.replicate (2 + message.length) 0
  let file ← store file 0 (UInt8.ofNat (message.length / 256))
  let file ← store file 1 (UInt8.ofNat message.length)
  copyInto message file 2

def selectApplication (host : Host) (tag : Tag) : Option (Bytes × Tag) :=
  let tag := tag.deactivate
  match host.snapshot with
  | none => some (fileNotFound, tag)
  | some hosted =>
    if hosted.message = [] ∨ hosted.message.length > maxNdefMessageBytes ∨
      ¬ host.isCurrent hosted.generation then
      some (conditionsNotSatisfied, tag)
    else do
      let file ← fileOf hosted.message
      return (success, { tag with
        generation := some hosted.generation
        ndefFile := some file
        selectedFile := .none })

def readFile (file : Bytes) (command : Bytes) (tag : Tag) : Option (Bytes × Tag) := do
  let high ← command[2]?
  let low ← command[3]?
  let offset := high.toNat * 256 + low.toNat
  if offset ≥ file.length then some (wrongParameters, tag)
  else
    let length ← command[4]?
    let requested := if length.toNat = 0 then 256 else length.toNat
    let readEnd := min (offset + requested) file.length
    let body ← copyOfRange file offset readEnd
    return (body ++ success, if tag.selectedFile = .ndef then
      noteRead file offset readEnd tag else tag)

def readBinary (host : Host) (command : Bytes) (tag : Tag) : Option (Bytes × Tag) :=
  if command.length ≠ 5 then some (wrongLength, tag)
  else
    match sessionIsCurrent host tag with
    | (false, tag) => some (conditionsNotSatisfied, tag)
    | (true, tag) =>
      match tag.selectedFile, tag.ndefFile with
      | .capabilityContainer, _ => readFile capabilityContainer command tag
      | .ndef, some file => readFile file command tag
      | .ndef, none | .none, _ => some (conditionsNotSatisfied, tag)

def select (host : Host) (command : Bytes) (tag : Tag) : Option (Bytes × Tag) := do
  match ← shortCommandData command with
  | none => return (wrongLength, tag)
  | some data =>
    let p1 ← command[2]?
    let p2 ← command[3]?
    if p1 = 0x04 ∧ p2 = 0x00 then
      if isSupportedApplicationAid data then selectApplication host tag
      else return (fileNotFound, tag.deactivate)
    else if p1 = 0x00 ∧ p2 = 0x0c ∧ data.length = 2 then return selectFile host data tag
    else return (incorrectParameters, if p1 = 0x04 then tag.deactivate else tag)

def process (host : Host) (command : Bytes) (tag : Tag) : Option (Bytes × Tag) :=
  if command.length < 4 then some (wrongLength, tag)
  else do
    let isoClass ← command[0]?
    if isoClass ≠ 0x00 then some (classNotSupported, tag)
    else
      let instruction ← command[1]?
      if instruction = 0xa4 then select host command tag
      else if instruction = 0xb0 then readBinary host command tag
      else return (instructionNotSupported, tag)

end Tag.Indexed

section Indexed

variable {host : Host} {command message file : Bytes} {tag : Tag}

theorem indexed_fileOf : Tag.Indexed.fileOf message = some (Tag.fileOf message) := by
  have zeros : List.replicate (2 + message.length)
      (0 : UInt8) = 0 :: 0 :: List.replicate message.length 0 := by
    rw [Nat.add_comm]
    rfl
  have room : 2 + message.length ≤ message.length + 1 + 1 := by omega
  have last : message.length + 1 < 2 + message.length := by omega
  simp [Tag.Indexed.fileOf, zeros, store, copyInto, Reader.copyInto, Tag.fileOf, room, last]

theorem indexed_shortCommandData :
    Tag.Indexed.shortCommandData command = some (Tag.shortCommandData command) := by
  unfold Tag.Indexed.shortCommandData Tag.shortCommandData
  split
  case isTrue short =>
    have absent : command[4]? = none := List.getElem?_eq_none (by omega)
    rw [absent]
  case isFalse long =>
    have present : command[4]? = some (command.get ⟨4, by omega⟩) :=
      List.getElem?_eq_getElem (by omega)
    rw [present]
    simp only [Option.bind_eq_bind, Option.bind_some]
    split
    case isTrue _ => rfl
    case isFalse same =>
      rw [copyOfRange, if_pos (by omega)]
      rfl

theorem indexed_selectApplication :
    Tag.Indexed.selectApplication host tag = some (tag.selectApplication host) := by
  unfold Tag.Indexed.selectApplication Tag.selectApplication
  cases host.snapshot with
  | none => rfl
  | some hosted =>
    simp only [indexed_fileOf, Option.bind_eq_bind, Option.bind_some]
    split <;> rfl

theorem indexed_readFile {isoClass instruction high low length : UInt8} :
    Tag.Indexed.readFile file [isoClass, instruction, high, low, length] tag =
      some (Tag.readFile file (high.toNat * 256 + low.toNat) length.toNat tag) := by
  unfold Tag.Indexed.readFile Tag.readFile
  simp only [List.getElem?_cons_succ, List.getElem?_cons_zero, Option.bind_eq_bind,
    Option.bind_some]
  split
  case isTrue _ => rfl
  case isFalse inside =>
    rw [copyOfRange, if_pos (by omega)]
    rfl

theorem indexed_readBinary :
    Tag.Indexed.readBinary host command tag = some (tag.readBinary host command) := by
  unfold Tag.Indexed.readBinary Tag.readBinary
  split
  case isTrue different =>
    match command with
    | [] | [_] | [_, _] | [_, _, _] | [_, _, _, _] | _ :: _ :: _ :: _ :: _ :: _ :: _ => rfl
    | [_, _, _, _, _] => exact absurd rfl different
  case isFalse same =>
    match command with
    | [] | [_] | [_, _] | [_, _, _] | [_, _, _, _] => cases (not_not.mp same)
    | _ :: _ :: _ :: _ :: _ :: _ :: _ =>
      simp at same
    | [_, _, _, _, _] =>
      simp only
      cases Tag.sessionIsCurrent host tag with
      | mk current tag =>
        cases current with
        | false => rfl
        | true =>
          simp only [indexed_readFile]
          cases tag.selectedFile <;> cases tag.ndefFile <;> rfl

/-- No command makes the tag fail. -/
theorem process_indexed :
    Tag.Indexed.process host command tag = some (tag.process host command) := by
  unfold Tag.Indexed.process Tag.process
  match command with
  | [] | [_] | [_, _] | [_, _, _] => rfl
  | isoClass :: instruction :: p1 :: p2 :: rest =>
    rw [if_neg (by simp)]
    simp only [List.getElem?_cons_succ, List.getElem?_cons_zero, Option.bind_eq_bind,
      Option.bind_some, indexed_readBinary]
    split
    case isTrue _ => rfl
    case isFalse _ =>
      split
      case isFalse _ => split <;> rfl
      case isTrue _ =>
        unfold Tag.Indexed.select Tag.select
        rw [indexed_shortCommandData]
        cases Tag.shortCommandData (isoClass :: instruction :: p1 :: p2 :: rest) with
        | none => rfl
        | some data =>
          simp only [List.getElem?_cons_succ, List.getElem?_cons_zero, Option.bind_eq_bind,
            Option.bind_some, indexed_selectApplication]
          split
          case isTrue _ => split <;> rfl
          case isFalse _ => split <;> rfl

end Indexed

/-! ## What a command does -/

/-- The application is selected. -/
def isApplicationSelect (command : Bytes) : Bool :=
  command.take 4 = [0x00, 0xa4, 0x04, 0x00] ∧
    (Tag.shortCommandData command).any Tag.isSupportedApplicationAid

/-- The file that a command asks to select. -/
def selectedFileId (command : Bytes) : Option Bytes :=
  if command.take 4 = [0x00, 0xa4, 0x00, 0x0c] then Tag.shortCommandData command else none

/-- The offset and the expected length of a read. -/
def readRange (command : Bytes) : Option (Nat × Nat) :=
  match command with
  | [0x00, 0xb0, high, low, length] =>
    some (high.toNat * 256 + low.toNat, if length.toNat = 0 then 256 else length.toNat)
  | _ => none

def slice (file : Bytes) (offset requested : Nat) : Bytes :=
  (file.take (min (offset + requested) file.length)).drop offset

/-- The response of a command and the tag after it. -/
inductive Outcome (host : Host) (command : Bytes) (tag : Tag) : Bytes → Tag → Prop where
  | refused {response : Bytes} {left : Tag} (status : response.length = 2)
      (failed : response ≠ success)
      (kept : left = tag ∨ left = tag.deactivate ∨ left = { tag with selectedFile := .none }) :
      Outcome host command tag response left
  | application {generation : Int} {message : Bytes} (asked : isApplicationSelect command = true)
      (hosted : host.snapshot = some ⟨generation, message⟩) (filled : message ≠ [])
      (size : message.length ≤ maxNdefMessageBytes) (current : host.isCurrent generation = true) :
      Outcome host command tag success (activated generation (Tag.fileOf message) tag.messagesRead)
  | container {generation : Int} (asked : selectedFileId command = some capabilityContainerFileId)
      (active : tag.generation = some generation) :
      Outcome host command tag success { tag with selectedFile := .capabilityContainer }
  | ndef {generation : Int} (asked : selectedFileId command = some ndefFileId)
      (active : tag.generation = some generation) :
      Outcome host command tag success { tag with
        selectedFile := .ndef, contiguousNdefReadEnd := 0 }
  | readContainer {offset requested : Nat} (asked : readRange command = some (offset, requested))
      (selected : tag.selectedFile = .capabilityContainer)
      (inside : offset < capabilityContainer.length) :
      Outcome host command tag (slice capabilityContainer offset requested ++ success) tag
  | readNdef {generation : Int} {file : Bytes} {offset requested : Nat}
      (asked : readRange command = some (offset, requested))
      (active : tag.generation = some generation) (current : host.isCurrent generation = true)
      (selected : tag.selectedFile = .ndef) (hosted : tag.ndefFile = some file)
      (inside : offset < file.length) :
      Outcome host command tag (slice file offset requested ++ success)
        (tag.noteRead file offset (min (offset + requested) file.length))

section Outcomes

variable {host : Host} {command : Bytes} {tag : Tag}

theorem sessionIsCurrent_cases (host : Host) (tag : Tag) :
    (∃ generation, tag.generation = some generation ∧ host.isCurrent generation = true ∧
        tag.sessionIsCurrent host = (true, tag)) ∨
      ∃ left, tag.sessionIsCurrent host = (false, left) ∧ (left = tag ∨ left = tag.deactivate) := by
  unfold Tag.sessionIsCurrent
  cases active : tag.generation with
  | none => exact .inr ⟨tag, rfl, .inl rfl⟩
  | some generation =>
    by_cases current : host.isCurrent generation = true
    · exact .inl ⟨generation, rfl, current, if_pos current⟩
    · exact .inr ⟨tag.deactivate, if_neg current, .inr rfl⟩

theorem Outcome.kept (response : Bytes) (status : response.length = 2)
    (failed : response ≠ success) :
    Outcome host command tag response tag := .refused status failed (.inl rfl)

theorem Outcome.deactivated (response : Bytes) (status : response.length = 2)
    (failed : response ≠ success) :
    Outcome host command tag response tag.deactivate := .refused status failed (.inr (.inl rfl))

theorem select_outcome {p1 p2 : UInt8} (header : command.take 4 = [0x00, 0xa4, p1, p2]) :
    Outcome host command tag (tag.select host command p1 p2).1
      (tag.select host command p1 p2).2 := by
  unfold Tag.select
  cases shape : Tag.shortCommandData command with
  | none => exact .kept wrongLength rfl (by decide)
  | some data =>
    simp only
    split
    case isTrue byName =>
      obtain ⟨rfl, rfl⟩ := byName
      split
      case isTrue supported =>
        have asked : isApplicationSelect command = true := by
          rw [isApplicationSelect, shape]
          exact decide_eq_true ⟨header, supported⟩
        unfold Tag.selectApplication
        cases hosted : host.snapshot with
        | none => exact .deactivated fileNotFound rfl (by decide)
        | some snapshot =>
          simp only
          split
          case isTrue _ => exact .deactivated conditionsNotSatisfied rfl (by decide)
          case isFalse usable =>
            simp only [not_or, not_lt, gt_iff_lt, not_not] at usable
            exact .application asked hosted usable.1 usable.2.1 usable.2.2
      case isFalse _ => exact .deactivated fileNotFound rfl (by decide)
    case isFalse _ =>
      split
      case isTrue byId =>
        obtain ⟨rfl, rfl, -⟩ := byId
        have asked : selectedFileId command = some data := by
          rw [selectedFileId, if_pos header, shape]
        unfold Tag.selectFile
        obtain ⟨generation, active, -, session⟩ | ⟨left, session, kept⟩ :=
          sessionIsCurrent_cases host tag
        · rw [session]
          simp only
          split
          case isTrue same => exact .container (same ▸ asked) active
          case isFalse _ =>
            split
            case isTrue same => exact .ndef (same ▸ asked) active
            case isFalse _ =>
              exact .refused rfl (show fileNotFound ≠ success by decide) (.inr (.inr rfl))
        · rw [session]
          exact .refused rfl (show conditionsNotSatisfied ≠ success by decide) (kept.imp_right .inl)
      case isFalse _ =>
        refine .refused rfl (show incorrectParameters ≠ success by decide) ?_
        show (if _ then _ else _) = _ ∨ (if _ then _ else _) = _ ∨ _
        split
        case isTrue _ => exact .inr (.inl rfl)
        case isFalse _ => exact .inl rfl

theorem readFile_inside {file : Bytes} {offset requested : Nat} (inside : offset < file.length) :
    Tag.readFile file offset requested tag =
      (slice file offset (if requested = 0 then 256 else requested) ++ success,
      if tag.selectedFile = .ndef then
        tag.noteRead file offset
          (min (offset + if requested = 0 then 256 else requested) file.length)
      else tag) := by
  rw [Tag.readFile, if_neg (Nat.not_le_of_lt inside)]
  rfl

theorem readFile_outside {file : Bytes} {offset requested : Nat} (outside : file.length ≤ offset) :
    Tag.readFile file offset requested tag = (wrongParameters, tag) := if_pos outside

theorem readBinary_outcome {high low length : UInt8} :
    Outcome host [0x00, 0xb0, high, low,
      length] tag (tag.readBinary host [0x00, 0xb0, high, low, length]).1
      (tag.readBinary host [0x00, 0xb0, high, low, length]).2 := by
  unfold Tag.readBinary
  obtain ⟨generation, active, current, session⟩ | ⟨left, session, kept⟩ :=
    sessionIsCurrent_cases host tag
  · simp only [session]
    cases selected : tag.selectedFile with
    | none => exact .kept conditionsNotSatisfied rfl (by decide)
    | capabilityContainer =>
      simp only
      obtain inside | outside :=
        Nat.lt_or_ge (high.toNat * 256 + low.toNat) capabilityContainer.length
      · have other : tag.selectedFile ≠ .ndef := by rw [selected]; nofun
        rw [readFile_inside inside, if_neg other]
        exact .readContainer rfl selected inside
      · rw [readFile_outside outside]
        exact .kept wrongParameters rfl (by decide)
    | ndef =>
      cases hosted : tag.ndefFile with
      | none => exact .kept conditionsNotSatisfied rfl (by decide)
      | some file =>
        simp only
        obtain inside | outside := Nat.lt_or_ge (high.toNat * 256 + low.toNat) file.length
        · rw [readFile_inside inside, if_pos selected]
          exact .readNdef rfl active current selected hosted inside
        · rw [readFile_outside outside]
          exact .kept wrongParameters rfl (by decide)
  · simp only [session]
    exact .refused rfl (show conditionsNotSatisfied ≠ success by decide) (kept.imp_right .inl)

theorem process_outcome (host : Host) (command : Bytes) (tag : Tag) :
    Outcome host command tag (tag.process host command).1 (tag.process host command).2 := by
  unfold Tag.process
  split
  case h_1 isoClass instruction p1 p2 rest =>
    split
    case isTrue _ => exact .kept classNotSupported rfl (by decide)
    case isFalse iso =>
      obtain rfl := not_not.mp iso
      split
      case isTrue same =>
        subst same
        exact select_outcome rfl
      case isFalse _ =>
        split
        case isTrue same =>
          subst same
          match rest with
          | [length] => exact readBinary_outcome
          | [] | _ :: _ :: _ => exact .kept wrongLength rfl (by decide)
        case isFalse _ => exact .kept instructionNotSupported rfl (by decide)
  case h_2 => exact .kept wrongLength rfl (by decide)

end Outcomes

/-! ## Runs -/

/-- What happens to a tag; `calls` are those of `onMessageRead` during the command. -/
inductive Event where
  | processed (command : Bytes) (snapshot : Option HostedNdefSnapshot) (response : Bytes)
      (calls : List Int)
  | deactivated
  | ended (generation : Int)

def Tag.new : Tag := ⟨.none, none, none, false, 0, []⟩

/-- A generation that ended is not current again. -/
def isCurrent (atFirst : Int → Bool) : List Event → Int → Bool
  | [], generation => atFirst generation
  | .ended other :: history, generation => generation ≠ other ∧ isCurrent atFirst history generation
  | _ :: history, generation => isCurrent atFirst history generation

/-- The tags after a history of events, newest first. -/
inductive Reached (atFirst : Int → Bool) : List Event → Tag → Prop where
  | new : Reached atFirst [] .new
  | processed {history : List Event} {tag left : Tag} {command response : Bytes}
      {snapshot : Option HostedNdefSnapshot} (before : Reached atFirst history tag)
      (run : tag.process ⟨snapshot, isCurrent atFirst history⟩ command = (response, left)) :
      Reached atFirst
        (.processed command snapshot response (left.messagesRead.drop tag.messagesRead.length) ::
          history) left
  | deactivated {history : List Event} {tag : Tag} (before : Reached atFirst history tag) :
      Reached atFirst (.deactivated :: history) tag.deactivate
  | ended {history : List Event} {tag : Tag} (generation : Int)
      (before : Reached atFirst history tag) :
      Reached atFirst (.ended generation :: history) tag

namespace Event

/-- The snapshot of a successful selection of the application. -/
def selectsApplication : Event → Option HostedNdefSnapshot
  | .processed command snapshot response _ =>
    if isApplicationSelect command ∧ response = success then snapshot else none
  | _ => none

/-- The file of a successful selection. -/
def selectsFile : Event → Option Bytes
  | .processed command _ response _ => if response = success then selectedFileId command else none
  | _ => none

/-- The offset, the expected length and the bytes of a successful read. -/
def reads : Event → Option (Nat × Nat × Bytes)
  | .processed command _ response _ =>
    if response.drop (response.length - 2) = success then
      (readRange command).map fun (offset, requested) =>
        (offset, requested, response.take (response.length - 2))
    else none
  | _ => none

def calls : Event → List Int
  | .processed _ _ _ calls => calls
  | _ => []

end Event

def lastSelected : List Event → Option HostedNdefSnapshot
  | [] => none
  | event :: history => event.selectsApplication.or (lastSelected history)

def lastFile : List Event → Option Bytes
  | [] => none
  | event :: history => event.selectsFile.or (lastFile history)

/-- The calls of `onMessageRead` since the application was last selected. -/
def callsSince : List Event → List Int
  | [] => []
  | event :: history =>
    if event.selectsApplication.isSome then [] else callsSince history ++ event.calls

/-- The byte at the index was returned since the NDEF file, and the application, were last
selected. -/
def Returned (index : Nat) : List Event → Prop
  | [] => False
  | event :: history =>
    event.selectsFile ≠ some ndefFileId ∧ event.selectsApplication = none ∧
      ((∃ offset requested body, event.reads = some (offset, requested, body) ∧
          lastFile history = some ndefFileId ∧ offset ≤ index ∧ index < offset + body.length) ∨
        Returned index history)

/-! ## What holds of a tag and its history -/

structure Sound (history : List Event) (tag : Tag) : Prop where
  idle : tag.generation = none → tag.selectedFile = .none
  session : ∀ generation, tag.generation = some generation → ∃ message,
    lastSelected history = some ⟨generation, message⟩ ∧ message.length ≤ maxNdefMessageBytes ∧
      tag.ndefFile = some (Tag.fileOf message) ∧
      callsSince history = if tag.readCompletionReported then [generation] else []
  container : tag.selectedFile = .capabilityContainer →
    lastFile history = some capabilityContainerFileId
  ndef : tag.selectedFile = .ndef → lastFile history = some ndefFileId
  contiguous : tag.selectedFile = .ndef →
    ∀ index < tag.contiguousNdefReadEnd, Returned index history

/-- What is promised of an event after a history. -/
structure Event.Sound (atFirst : Int → Bool) (event : Event) (history : List Event) : Prop where
  /-- A read of the NDEF file returns what was asked of the message, while it is current. -/
  ndef : ∀ offset requested body, event.reads = some (offset, requested, body) →
    lastFile history = some ndefFileId → ∃ selected, lastSelected history = some selected ∧
      isCurrent atFirst history selected.generation = true ∧
      body = slice (Tag.fileOf selected.message) offset requested
  /-- No other command returns more than a status or the capability container. -/
  other : ∀ command snapshot response calls, event = .processed command snapshot response calls →
    (event.reads = none → response.length = 2) ∧
    (∀ offset requested body, event.reads = some (offset, requested, body) →
      lastFile history ≠ some ndefFileId → body = slice capabilityContainer offset requested)
  /-- A message is reported once for a selection, when all of the file was returned. -/
  calls : event.calls ≠ [] → ∃ selected, lastSelected history = some selected ∧
    event.calls = [selected.generation] ∧ callsSince history = [] ∧
    ∀ index < (Tag.fileOf selected.message).length, Returned index (event :: history)

section Runs

variable {atFirst : Int → Bool} {event : Event} {history : List Event} {tag : Tag}
  {command body : Bytes}
  {snapshot : Option HostedNdefSnapshot} {calls : List Int} {range : Nat × Nat} {index : Nat}

/-! ### Commands of one kind -/

theorem take_of_readRange (asked : readRange command = some range) :
    command.take 2 = [0x00, 0xb0] := by
  unfold readRange at asked
  split at asked
  case h_1 => rfl
  case h_2 => cases asked

theorem take_of_header {header : Bytes} (asked : command.take 4 = header) :
    command.take 2 = header.take 2 := by
  rw [← asked, List.take_take]
  rfl

theorem isApplicationSelect_of_readRange (asked : readRange command = some range) :
    isApplicationSelect command = false := by
  refine decide_eq_false fun select => ?_
  have instruction := take_of_header select.1
  rw [take_of_readRange asked] at instruction
  cases instruction

theorem selectedFileId_of_readRange (asked : readRange command = some range) :
    selectedFileId command = none := by
  refine if_neg fun select => ?_
  have instruction := take_of_header select
  rw [take_of_readRange asked] at instruction
  cases instruction

theorem isApplicationSelect_of_selectedFileId {fileId : Bytes}
    (asked : selectedFileId command = some fileId) :
    isApplicationSelect command = false := by
  refine decide_eq_false fun select => ?_
  unfold selectedFileId at asked
  rw [if_neg (by rw [select.1]; decide)] at asked
  cases asked

/-! ### Events of one kind -/

/-- Selects nothing. -/
def Event.Plain (event : Event) : Prop := event.selectsApplication = none ∧ event.selectsFile = none

theorem reads_append (asked : readRange command = some range) :
    (Event.processed command snapshot (body ++ success) calls).reads =
      some (range.1, range.2, body) := by
  have status : (body ++ success).length - 2 = body.length := by
    rw [List.length_append]
    rfl
  show (if (body ++ success).drop ((body ++ success).length - 2) = success then _ else none) = _
  rw [status, List.drop_left, if_pos rfl, asked, List.take_left]
  rfl

theorem reads_of_none {response : Bytes} (other : readRange command = none) :
    (Event.processed command snapshot response calls).reads = none := by
  show (if _ then _ else none) = _
  rw [other]
  exact ite_self none

theorem plain_read (asked : readRange command = some range) {response : Bytes} :
    (Event.processed command snapshot response calls).Plain := by
  constructor
  · show (if _ then _ else none) = none
    rw [isApplicationSelect_of_readRange asked]
    rfl
  · show (if _ then _ else none) = none
    rw [selectedFileId_of_readRange asked]
    exact ite_self none

theorem plain_refused {response : Bytes} (failed : response ≠ success) :
    (Event.processed command snapshot response calls).Plain :=
  ⟨if_neg fun select => failed select.2, if_neg failed⟩

theorem reads_refused {response : Bytes} (status : response.length = 2)
    (failed : response ≠ success) :
    (Event.processed command snapshot response calls).reads = none := by
  refine if_neg ?_
  rw [status, Nat.sub_self]
  exact failed

section Plain

theorem lastSelected_plain (plain : event.Plain) :
    lastSelected (event :: history) = lastSelected history := by
  rw [lastSelected, plain.1]
  rfl

theorem lastFile_plain (plain : event.Plain) : lastFile (event :: history) = lastFile history := by
  rw [lastFile, plain.2]
  rfl

theorem callsSince_plain (plain : event.Plain) :
    callsSince (event :: history) = callsSince history ++ event.calls := by
  rw [callsSince, plain.1]
  rfl

theorem Returned.plain (plain : event.Plain) (returned : Returned index history) :
    Returned index (event :: history) := by
  refine ⟨?_, plain.1, .inr returned⟩
  rw [plain.2]
  nofun

theorem Returned.read {offset requested : Nat} (plain : event.Plain)
    (reads : event.reads = some (offset, requested, body))
    (selected : lastFile history = some ndefFileId) (above : offset ≤ index)
    (below : index < offset + body.length) : Returned index (event :: history) := by
  refine ⟨?_, plain.1, .inl ⟨offset, requested, body, reads, selected, above, below⟩⟩
  rw [plain.2]
  nofun

end Plain

/-! ### Steps -/

theorem Sound.plain (sound : Sound history tag) (plain : event.Plain) (silent : event.calls = []) :
    Sound (event :: history) tag where
  idle := sound.idle
  session := by
    intro generation active
    rw [lastSelected_plain plain, callsSince_plain plain, silent, List.append_nil]
    exact sound.session generation active
  container := by
    rw [lastFile_plain plain]
    exact sound.container
  ndef := by
    rw [lastFile_plain plain]
    exact sound.ndef
  contiguous := fun selected index below => (sound.contiguous selected index below).plain plain

theorem Sound.deactivate : Sound history tag.deactivate :=
  ⟨fun _ => rfl, nofun, nofun, nofun, nofun⟩

theorem Sound.unselected (sound : Sound history tag) :
    Sound history { tag with selectedFile := .none } :=
  ⟨fun _ => rfl, sound.session, nofun, nofun, nofun⟩

theorem Event.Sound.silent {response : Bytes}
    (reads : (Event.processed command snapshot response calls).reads = none)
    (status : response.length = 2) (silent : calls = []) :
    (Event.processed command snapshot response calls).Sound atFirst history where
  ndef := by
    rw [reads]
    nofun
  other := by
    intro _ _ _ _ same
    injection same with _ _ same
    refine ⟨fun _ => same ▸ status, ?_⟩
    rw [reads]
    nofun
  calls := fun called => absurd silent called

theorem length_slice {file : Bytes} {offset requested : Nat} (inside : offset < file.length) :
    offset + (slice file offset requested).length = min (offset + requested) file.length := by
  rw [slice, List.length_drop, List.length_take]
  omega

/-- Where the part that was read from the start ends after a read. -/
def grown (tag : Tag) (offset readEnd : Nat) : Nat :=
  if offset ≤ tag.contiguousNdefReadEnd then max tag.contiguousNdefReadEnd readEnd
  else tag.contiguousNdefReadEnd

theorem noteRead_eq {generation : Int} {file : Bytes} {offset readEnd : Nat}
    (active : tag.generation = some generation) :
    tag.noteRead file offset readEnd =
      if grown tag offset readEnd = file.length ∧ ¬ tag.readCompletionReported = true then
        { tag with
          contiguousNdefReadEnd := grown tag offset readEnd
          readCompletionReported := true
          messagesRead := tag.messagesRead ++ [generation] }
      else { tag with contiguousNdefReadEnd := grown tag offset readEnd } := by
  obtain ⟨selectedFile, generation, ndefFile, reported, contiguous, messagesRead⟩ := tag
  subst active
  rfl

/-- The bytes of a read that is the next or overlaps what was read join it. -/
theorem returned_grown {offset requested : Nat} {file : Bytes} (sound : Sound history tag)
    (plain : event.Plain)
    (reads : event.reads = some (offset, requested, slice file offset requested))
    (selected : tag.selectedFile = .ndef) (inside : offset < file.length)
    (below : index < grown tag offset (min (offset + requested) file.length)) :
    Returned index (event :: history) := by
  have slice_end := @length_slice file offset requested inside
  unfold grown at below
  by_cases old : index < tag.contiguousNdefReadEnd
  · exact (sound.contiguous selected index old).plain plain
  · split at below
    case isTrue joined => exact .read plain reads (sound.ndef selected) (by omega) (by omega)
    case isFalse _ => exact absurd below old

/-- What is promised of a read of the NDEF file, whatever it calls. -/
theorem event_readNdef {generation : Int} {message : Bytes} {offset requested : Nat}
    (asked : readRange command = some (offset, requested))
    (current : isCurrent atFirst history generation = true)
    (here : lastFile history = some ndefFileId)
    (last : lastSelected history = some ⟨generation, message⟩)
    (called : calls ≠ [] → calls = [generation] ∧ callsSince history = [] ∧
      ∀ index < (Tag.fileOf message).length, Returned index
        (.processed command snapshot (slice (Tag.fileOf message) offset requested ++ success)
          calls :: history)) :
    (Event.processed command snapshot (slice (Tag.fileOf message) offset requested ++ success)
      calls).Sound
      atFirst history where
  ndef := by
    rw [reads_append asked]
    rintro _ _ _ ⟨⟩ _
    exact ⟨_, last, current, rfl⟩
  other := by
    intro _ _ _ _ _
    rw [reads_append asked]
    exact ⟨nofun, fun _ _ _ _ elsewhere => absurd here elsewhere⟩
  calls := fun some => ⟨_, last, called some⟩

theorem sound_readNdef {generation : Int} {file : Bytes} {offset requested : Nat}
    (sound : Sound history tag) (asked : readRange command = some (offset, requested))
    (active : tag.generation = some generation)
    (current : isCurrent atFirst history generation = true) (selected : tag.selectedFile = .ndef)
    (hosted : tag.ndefFile = some file) (inside : offset < file.length) {left : Tag}
    (left_eq : left = tag.noteRead file offset (min (offset + requested) file.length))
    (event_eq : event = .processed command snapshot (slice file offset requested ++ success)
      (left.messagesRead.drop tag.messagesRead.length)) :
    event.Sound atFirst history ∧ Sound (event :: history) left := by
  obtain ⟨message, last, size, stored, counted⟩ := sound.session generation active
  obtain rfl : file = Tag.fileOf message := Option.some.inj (hosted.symm.trans stored)
  have plain : event.Plain := by
    rw [event_eq]
    exact plain_read asked
  have reads :
      event.reads = some (offset, requested, slice (Tag.fileOf message) offset requested) := by
    rw [event_eq]
    exact reads_append asked
  have here := sound.ndef selected
  have returned := fun index =>
    @returned_grown event history tag index offset requested _ sound plain reads selected inside
  rw [noteRead_eq active] at left_eq
  generalize grown tag offset (min (offset + requested) (Tag.fileOf message).length) =
    contiguous at left_eq returned
  -- the file of the session and what is known of the earlier reads stay
  have kept : ∀ reported, callsSince (event :: history) =
      (if reported = true then [generation] else []) →
      ∀ calls, left = { tag with
        contiguousNdefReadEnd := contiguous
        readCompletionReported := reported
        messagesRead := calls } → Sound (event :: history) left := by
    rintro reported counted calls rfl
    refine ⟨fun idle => ?_, fun other active' => ?_, fun container => ?_, fun _ => ?_,
      fun _ => returned⟩
    · rw [active] at idle
      cases idle
    · obtain rfl : generation = other := Option.some.inj (active.symm.trans active')
      exact ⟨message, (lastSelected_plain plain).trans last, size, stored, counted⟩
    · rw [selected] at container
      cases container
    · exact (lastFile_plain plain).trans here
  by_cases complete : contiguous = (Tag.fileOf message).length ∧ ¬ tag.readCompletionReported = true
  · rw [if_pos complete] at left_eq
    rw [if_neg complete.2] at counted
    have called : left.messagesRead.drop tag.messagesRead.length = [generation] := by
      rw [left_eq]
      exact List.drop_left
    rw [called] at event_eq
    constructor
    · rw [event_eq] at returned ⊢
      refine event_readNdef asked current here last fun _ => ⟨rfl, counted, fun index below => ?_⟩
      exact returned index (complete.1 ▸ below)
    · refine kept true ?_ _ left_eq
      rw [callsSince_plain plain, counted, event_eq]
      rfl
  · rw [if_neg complete] at left_eq
    have silent : left.messagesRead.drop tag.messagesRead.length = [] := by
      rw [left_eq]
      exact List.drop_length
    rw [silent] at event_eq
    constructor
    · rw [event_eq]
      exact event_readNdef asked current here last fun called => absurd rfl called
    · refine kept tag.readCompletionReported ?_ _ left_eq
      rw [callsSince_plain plain, counted, event_eq]
      exact List.append_nil _

/-- A selection of a file leaves the session as it is. -/
theorem sound_selectFile {fileId : Bytes} {left : Tag} (sound : Sound history tag)
    (asked : selectedFileId command = some fileId)
    (event_eq : event = .processed command snapshot success [])
    (same : left.generation = tag.generation ∧ left.ndefFile = tag.ndefFile ∧
      left.readCompletionReported = tag.readCompletionReported)
    (active : tag.generation ≠ none)
    (selected : left.selectedFile = .capabilityContainer ∧ fileId = capabilityContainerFileId ∨
      left.selectedFile = .ndef ∧ fileId = ndefFileId ∧ left.contiguousNdefReadEnd = 0) :
    event.Sound atFirst history ∧ Sound (event :: history) left := by
  have foreign : isApplicationSelect command = false := isApplicationSelect_of_selectedFileId asked
  have application : event.selectsApplication = none := by
    rw [event_eq]
    exact if_neg fun select => by simp [foreign] at select
  have file : lastFile (event :: history) = some fileId := by
    have selects : event.selectsFile = some fileId := by
      rw [event_eq, Event.selectsFile, if_pos rfl]
      exact asked
    rw [lastFile, selects]
    rfl
  have noRead : readRange command = none := by
    cases read : readRange command with
    | none => rfl
    | some range =>
      rw [selectedFileId_of_readRange read] at asked
      cases asked
  have silent : event.calls = [] := by rw [event_eq]; rfl
  refine ⟨event_eq ▸ .silent (reads_of_none noRead) rfl rfl, ?_⟩
  refine ⟨fun idle => absurd (same.1.symm.trans idle) active, fun generation active => ?_,
    fun here => ?_, fun here => ?_, fun here => ?_⟩
  · rw [lastSelected, application, callsSince, application, silent, List.append_nil,
      same.2.1, same.2.2]
    exact sound.session generation (same.1 ▸ active)
  · obtain ⟨-, rfl⟩ | ⟨ndef, -⟩ := selected
    · exact file
    · rw [ndef] at here
      cases here
  · obtain ⟨container, -⟩ | ⟨-, rfl, -⟩ := selected
    · rw [container] at here
      cases here
    · exact file
  · obtain ⟨container, -⟩ | ⟨-, -, start⟩ := selected
    · rw [container] at here
      cases here
    · rw [start]
      nofun

/-- One command. -/
theorem Outcome.sound {response : Bytes} {left : Tag}
    (outcome : Outcome ⟨snapshot, isCurrent atFirst history⟩ command tag response left)
    (sound : Sound history tag)
    (event_eq : event =
      .processed command snapshot response (left.messagesRead.drop tag.messagesRead.length)) :
    event.Sound atFirst history ∧ Sound (event :: history) left := by
  cases outcome with
  | refused status failed kept =>
    have silent : left.messagesRead.drop tag.messagesRead.length = [] := by
      obtain rfl | rfl | rfl := kept <;> exact List.drop_length
    rw [silent] at event_eq
    subst event_eq
    refine ⟨.silent (reads_refused status failed) status rfl, ?_⟩
    have plain : (Event.processed command snapshot response []).Plain := plain_refused failed
    obtain rfl | rfl | rfl := kept
    · exact sound.plain plain rfl
    · exact .deactivate
    · exact (sound.plain plain rfl).unselected
  | @application generation message asked hosted filled size current =>
    have silent : (activated generation (Tag.fileOf message) tag.messagesRead).messagesRead.drop
      tag.messagesRead.length = [] := List.drop_length
    rw [silent] at event_eq
    have selects : event.selectsApplication = some ⟨generation, message⟩ := by
      rw [event_eq]
      exact (if_pos ⟨asked, rfl⟩).trans hosted
    have none : readRange command = none := by
      cases read : readRange command with
      | none => rfl
      | some range =>
        rw [isApplicationSelect_of_readRange read] at asked
        cases asked
    constructor
    · rw [event_eq]
      exact .silent (reads_of_none none) rfl rfl
    · refine ⟨nofun, ?_, nofun, nofun, nofun⟩
      rintro _ ⟨⟩
      refine ⟨message, ?_, size, rfl, ?_⟩
      · rw [lastSelected, selects]
        rfl
      · rw [callsSince, selects]
        rfl
  | container asked active =>
    have silent :=
      event_eq.trans (congrArg (Event.processed command snapshot success) List.drop_length)
    exact sound_selectFile sound asked silent ⟨rfl, rfl, rfl⟩ (by rw [active]; nofun)
      (.inl ⟨rfl, rfl⟩)
  | ndef asked active =>
    have silent :=
      event_eq.trans (congrArg (Event.processed command snapshot success) List.drop_length)
    exact sound_selectFile sound asked silent ⟨rfl, rfl, rfl⟩ (by rw [active]; nofun)
      (.inr ⟨rfl, rfl, rfl⟩)
  | readContainer asked selected inside =>
    have silent : tag.messagesRead.drop tag.messagesRead.length = [] := List.drop_length
    rw [silent] at event_eq
    subst event_eq
    refine ⟨⟨?_, ?_, fun called => absurd rfl called⟩, sound.plain (plain_read asked) rfl⟩
    · intro _ _ _ _ here
      rw [sound.container selected] at here
      cases here
    · intro _ _ _ _ _
      rw [reads_append asked]
      refine ⟨nofun, ?_⟩
      rintro _ _ _ ⟨⟩ _
      rfl
  | readNdef asked active current selected hosted inside =>
    exact sound_readNdef sound asked active current selected hosted inside rfl event_eq

theorem Reached.sound (reached : Reached atFirst history tag) : Sound history tag := by
  induction reached with
  | new => exact ⟨fun _ => rfl, nofun, nofun, nofun, nofun⟩
  | @processed history tag _ command _ snapshot _ run ih =>
    have outcome := process_outcome ⟨snapshot, isCurrent atFirst history⟩ command tag
    rw [run] at outcome
    exact (outcome.sound ih rfl).2
  | deactivated _ _ => exact .deactivate
  | ended generation _ ih => exact ih.plain ⟨rfl, rfl⟩ rfl

/-- Every event of a run, after the events before it. -/
theorem Reached.last (reached : Reached atFirst (event :: history) tag) :
    event.Sound atFirst history := by
  cases reached with
  | @processed _ tag _ command _ snapshot before run =>
    have outcome := process_outcome ⟨snapshot, isCurrent atFirst history⟩ command tag
    rw [run] at outcome
    exact (outcome.sound before.sound rfl).1
  | deactivated _ => exact ⟨nofun, nofun, fun called => absurd rfl called⟩
  | ended _ _ => exact ⟨nofun, nofun, fun called => absurd rfl called⟩

theorem Reached.of_append {newer older : List Event}
    (reached : Reached atFirst (newer ++ older) tag) :
    ∃ tag, Reached atFirst older tag := by
  induction newer generalizing tag with
  | nil => exact ⟨tag, reached⟩
  | cons event newer ih =>
    rw [List.cons_append] at reached
    cases reached with
    | processed before _ => exact ih before
    | deactivated before => exact ih before
    | ended _ before => exact ih before

end Runs

/-- The tag never fails, and in a run every read of the NDEF file, every other response and every
call of `onMessageRead` is as promised. -/
theorem tag_sound :
    (∀ host command tag, Tag.Indexed.process host command tag =
      some (Tag.process host command tag)) ∧
    ∀ (atFirst : Int → Bool) (newer : List Event) (event : Event) (older : List Event) (tag : Tag),
      Reached atFirst (newer ++ event :: older) tag → event.Sound atFirst older := by
  refine ⟨fun _ _ _ => process_indexed, fun _ _ _ _ _ reached => ?_⟩
  obtain ⟨_, before⟩ := reached.of_append
  exact before.last

/-- A reader selects the message and reads its length. -/
def lengthRead : List Event :=
  [.processed (Reader.readBinary 0 2) none ([0, 4] ++ success) [],
    .processed Reader.selectNdefFile none success [],
    .processed Reader.selectApplication (some ⟨7, [5, 6, 7, 8]⟩) success []]

/-- Four bytes of a message, of which three are read before the reader is gone and all when it is
back: the last event is the read that completes them, and the only one that is reported. -/
theorem tag_sound_read :
    (Event.processed (Reader.readBinary 2 4) none ([5, 6, 7, 8] ++ success) [7]).Sound
        (fun _ => true)
        (lengthRead ++ .deactivated ::
          .processed (Reader.readBinary 2 3) none ([5, 6, 7] ++ success) [] :: lengthRead) ∧
      (Event.processed (Reader.readBinary 2 3) none ([5, 6, 7] ++ success) []).Sound (fun _ => true)
        lengthRead := by
  have lengthIsRead {history : List Event} {tag : Tag}
    (before : Reached (fun _ => true) history tag)
      (current : isCurrent (fun _ => true) history 7 = true) (quiet : tag.messagesRead = []) :
      Reached (fun _ => true) (lengthRead ++ history)
          (serving 7 [0, 4, 5, 6, 7, 8] 2 false []) := by
    have selected := @Reached.processed _ _ _ _ _ _ (some ⟨7, [5, 6, 7, 8]⟩) before
      (process_selectApplication tag rfl current (by decide) (by decide))
    rw [quiet] at selected
    have ndef := @Reached.processed _ _ _ _ _ _ none selected (process_selectNdefFile current)
    exact @Reached.processed _ _ _ _ _ _ none ndef
      (@process_readBinary ⟨none, _⟩ 7 [0, 4, 5, 6, 7, 8] _ 0 2 current (by decide) (by decide)
        (by decide) (by decide))
  have first := lengthIsRead .new rfl rfl
  have some := @Reached.processed _ _ _ _ _ _ none first
    (@process_readBinary ⟨none, _⟩ 7 [0, 4, 5, 6, 7, 8] [] 2 3 rfl (by decide) (by decide)
      (by decide) (by decide))
  have again := lengthIsRead (.deactivated some) rfl rfl
  have whole := @Reached.processed _ _ _ _ _ _ none again
    (@process_readBinary ⟨none, _⟩ 7 [0, 4, 5, 6, 7, 8] [] 2 4 rfl (by decide) (by decide)
      (by decide) (by decide))
  exact ⟨tag_sound.2 (fun _ => true) [] _ _ _ whole, tag_sound.2 (fun _ => true) [] _ _ _ some⟩

end Envoix.Nfc
