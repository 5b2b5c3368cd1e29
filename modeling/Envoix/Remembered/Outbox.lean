import Envoix.Foundation.Durable
import Envoix.Foundation.Text

/-! # The outbox of a remembered room

Model of `RoomOutboxStore.kt` on Android and of `RememberedRoomOutboxStore` in
`RememberedRoomOutbox.swift` on Apple devices: the prepared transfers that wait to be offered in a
room, and what is known of the attempt to send each.  The two stores are one definition over the
type of their transfer identifiers and what else they keep of an entry.

The state of the model is what a reader of the file sees.  Every mutation rewrites the whole
file. -/

namespace Envoix.Outbox

open Process Process.Method Durable ByteCodec

inductive OutboxState where
  | preparing
  | queued
  | offering
  | transferring
  | needsAttention
deriving DecidableEq

/-- `transferId` is the activity identifier on Apple devices; `source` is what they keep of the
selection. -/
structure OutboxEntry (τ σ : Type) where
  id : String
  relationshipId : String
  jobId : String
  source : σ
  rootNames : List String
  itemCount : Int
  directoryCount : Int
  totalBytes : Int
  state : OutboxState
  offerId : Option String
  transferId : Option τ
  lastError : Option String
  createdAt : Int
  updatedAt : Int

/-- Apple devices report a transfer of another room as an invalid record too. -/
inductive OutboxError where
  | invalidRecord
  | anotherRoom
  | full
  | roomFull
  | active
  | storage
deriving DecidableEq

/-- What the two platforms do differently. -/
class OutboxPlatform (τ σ : Type) where
  acceptsRelationship : String → Bool
  acceptsSource : σ → Bool
  acceptsTransfer : τ → Bool
  trim : String → String
  /-- The first characters of a text. -/
  take : Nat → String → String
  /-- How an absent text is read back from the file. -/
  readsAbsent : Option String
  /-- A text that is read back as absent. -/
  isBlank : String → Bool
  absent_reads : ∀ text, readsAbsent = some text → isBlank text = false
  /-- What is said of an entry whose preparation was interrupted, where there are such entries. -/
  interruptedPreparation : Option String

def maxGlobalEntries : Nat := 20
def maxRelationshipEntries : Nat := 10
def maxRelationshipIdBytes : Nat := 128
def maxRootNames : Nat := 3
def maxRootNameChars : Nat := 255
def maxErrorChars : Nat := 512

def interruptedSend : String := "The previous send was interrupted. Check the peer before retrying."

def isHexDigit (character : Char) : Bool :=
  ('0' ≤ character ∧ character ≤ '9') ∨ ('a' ≤ character ∧ character ≤ 'f')

def validJobId (jobId : String) : Bool := jobId.length = 32 ∧ jobId.toList.all isHexDigit

/-- What one call takes from its surroundings: a random UUID, the clock, and the fate of its
write. -/
structure Tick where
  uuid : String
  now : Int
  fate : Fate

abbrev OutboxMethod (τ σ : Type) := Operation (List (OutboxEntry τ σ)) OutboxError

section Store

variable {τ σ : Type} [DecidableEq τ] [platform : OutboxPlatform τ σ]

/-! ## The file -/

def storedText (text : Option String) : Option String :=
  match text with
  | none => platform.readsAbsent
  | some text => if platform.isBlank text then none else some text

/-- An entry as it is read back once it has been written. -/
def OutboxEntry.stored (entry : OutboxEntry τ σ) : OutboxEntry τ σ :=
  { entry with
    offerId := storedText (τ := τ) (σ := σ) entry.offerId
    lastError := storedText (τ := τ) (σ := σ) entry.lastError }

def persist (tick : Tick) (entries : List (OutboxEntry τ σ)) : OutboxMethod τ σ Unit :=
  write tick.fate .storage fun _ => entries.map OutboxEntry.stored

def named (id : String) (entry : OutboxEntry τ σ) : Bool := entry.id = id

/-- Changes the entry with this identifier, unless `transform` refuses it. -/
def update (tick : Tick) (id : String) (transform : OutboxEntry τ σ → Option (OutboxEntry τ σ)) :
    OutboxMethod τ σ Bool := do
  let current ← get
  match current.find? (named id) with
  | none => return false
  | some entry =>
    match transform entry with
    | none => return false
    | some replacement =>
      persist tick (replaceFirst (named id) replacement current)
      return true

/-! ## Operations -/

/-- What a caller says of a prepared transfer. -/
structure Prepared (σ : Type) where
  relationshipId : String
  jobId : String
  source : σ
  rootNames : List String
  itemCount : Int
  directoryCount : Int
  totalBytes : Int

def Prepared.acceptable (prepared : Prepared σ) : Bool :=
  platform.acceptsRelationship prepared.relationshipId ∧ validJobId prepared.jobId ∧
    platform.acceptsSource prepared.source ∧ 0 ≤ prepared.itemCount ∧
    (0 ≤ prepared.directoryCount ∧ prepared.directoryCount ≤ prepared.itemCount) ∧
    0 ≤ prepared.totalBytes

def newEntry (tick : Tick) (prepared : Prepared σ) (initialState : OutboxState) :
    OutboxEntry τ σ where
  id := tick.uuid
  relationshipId := prepared.relationshipId
  jobId := prepared.jobId
  source := prepared.source
  rootNames := (((prepared.rootNames.map platform.trim).filter (fun name => ¬ name.isEmpty)).map
    (platform.take maxRootNameChars)).take maxRootNames
  itemCount := prepared.itemCount
  directoryCount := prepared.directoryCount
  totalBytes := prepared.totalBytes
  state := initialState
  offerId := none
  transferId := none
  lastError := none
  createdAt := tick.now
  updatedAt := tick.now

def create (tick : Tick) (prepared : Prepared σ) (initialState : OutboxState) :
    OutboxMethod τ σ (OutboxEntry τ σ) := do
  if ¬ Prepared.acceptable (τ := τ) prepared then
    throw (.threw .invalidRecord)
  let current ← get
  match current.find? (fun entry => entry.jobId = prepared.jobId) with
  | some existing =>
    if existing.relationshipId ≠ prepared.relationshipId then
      throw (.threw .anotherRoom)
    return existing
  | none =>
    if ¬ current.length < maxGlobalEntries then
      throw (.threw .full)
    if ¬ current.countP (fun entry => entry.relationshipId = prepared.relationshipId) <
      maxRelationshipEntries then
      throw (.threw .roomFull)
    let entry := newEntry tick prepared initialState
    persist tick (current ++ [entry])
    return entry

def enqueue (tick : Tick) (prepared : Prepared σ) : OutboxMethod τ σ (OutboxEntry τ σ) :=
  create tick prepared .queued

def reserveForSeal (tick : Tick) (prepared : Prepared σ) : OutboxMethod τ σ (OutboxEntry τ σ) :=
  create tick prepared .preparing

def confirmSealed (tick : Tick) (id : String) : OutboxMethod τ σ Bool :=
  update tick id fun current =>
    if current.state ≠ .preparing then none
    else some { current with state := .queued, updatedAt := tick.now }

/-- The entries a dispatcher of the room may claim. -/
def claimable (relationshipId : String) (entry : OutboxEntry τ σ) : Bool :=
  entry.relationshipId = relationshipId ∧ entry.state = .queued

def OutboxEntry.claimed (entry : OutboxEntry τ σ) (tick : Tick) : OutboxEntry τ σ :=
  { entry with
    state := .offering
    offerId := some tick.uuid
    transferId := none
    lastError := none
    updatedAt := tick.now }

def claimNext (tick : Tick) (relationshipId : String) :
    OutboxMethod τ σ (Option (OutboxEntry τ σ)) := do
  let current ← get
  match current.find? (claimable relationshipId) with
  | none => return none
  | some entry =>
    persist tick (replaceFirst (claimable relationshipId) (entry.claimed tick) current)
    return some (entry.claimed tick)

def markTransferring (tick : Tick) (id offerId : String) (transferId : τ) : OutboxMethod τ σ Bool :=
  update tick id fun current =>
    if current.state ≠ .offering ∨ current.offerId ≠ some offerId ∨
      ¬ platform.acceptsTransfer transferId then none
    else some { current with
      state := .transferring
      transferId := some transferId
      lastError := none
      updatedAt := tick.now }

def requeue (tick : Tick) (id offerId : String) (message : Option String) : OutboxMethod τ σ Bool :=
  update tick id fun current =>
    if current.state ≠ .offering ∨ current.offerId ≠ some offerId then none
    else some { current with
      state := .queued
      offerId := none
      transferId := none
      lastError := message.map (platform.take maxErrorChars)
      updatedAt := tick.now }

/-- Whether a call that expects these identifiers is about the attempt under way, if any. -/
def OutboxEntry.expects (entry : OutboxEntry τ σ) (expectedOfferId : Option String)
    (expectedTransferId : Option τ) :
    Bool :=
  match entry.state with
  | .offering => expectedOfferId ≠ none ∧ entry.offerId = expectedOfferId ∧
    expectedTransferId = none
  | .transferring => expectedTransferId ≠ none ∧ entry.transferId = expectedTransferId
  | .preparing | .queued | .needsAttention => expectedOfferId = none ∧ expectedTransferId = none

def markNeedsAttention (tick : Tick) (id message : String) (expectedOfferId : Option String)
    (expectedTransferId : Option τ) : OutboxMethod τ σ Bool :=
  update tick id fun current =>
    if ¬ current.expects expectedOfferId expectedTransferId then none
    else some { current with
      state := .needsAttention
      lastError := some (platform.take maxErrorChars message)
      updatedAt := tick.now }

def retry (tick : Tick) (id : String) : OutboxMethod τ σ Bool :=
  update tick id fun current =>
    if current.state ≠ .needsAttention then none
    else some { current with
      state := .queued
      offerId := none
      transferId := none
      lastError := none
      updatedAt := tick.now }

def remove (tick : Tick) (id : String) (expectedOfferId : Option String)
    (expectedTransferId : Option τ) :
    OutboxMethod τ σ (Option (OutboxEntry τ σ)) := do
  let current ← get
  match current.find? (named id) with
  | none => return none
  | some entry =>
    if ¬ entry.expects expectedOfferId expectedTransferId then
      return none
    persist tick (current.eraseP (named id))
    return some entry

def isActive (state : OutboxState) : Bool :=
  state = .preparing ∨ state = .offering ∨ state = .transferring

def removeAllInactive (tick : Tick) (relationshipId : String) :
    OutboxMethod τ σ (List (OutboxEntry τ σ)) := do
  let current ← get
  let owned := current.filter fun entry => entry.relationshipId = relationshipId
  if owned.any fun entry => isActive entry.state then
    throw (.threw .active)
  if owned.isEmpty then
    return []
  persist tick (current.filter fun entry => entry.relationshipId ≠ relationshipId)
  return owned

/-- What is said of an interrupted attempt; `none` where nothing was under way. -/
def interruption (state : OutboxState) : Option String :=
  match state with
  | .preparing => platform.interruptedPreparation
  | .offering | .transferring => some interruptedSend
  | .queued | .needsAttention => none

def OutboxEntry.reconciled (entry : OutboxEntry τ σ) (tick : Tick) : OutboxEntry τ σ :=
  match interruption (τ := τ) (σ := σ) entry.state with
  | none => entry
  | some message =>
    { entry with state := .needsAttention, lastError := some message, updatedAt := tick.now }

def reconcileInterruptedAttempts (tick : Tick) : OutboxMethod τ σ Nat := do
  let current ← get
  let changed := current.countP fun entry => (interruption (τ := τ) (σ := σ) entry.state).isSome
  if changed > 0 then
    persist tick (current.map fun entry => entry.reconciled tick)
  return changed

end Store

/-! ## The platforms -/

def isJvmSpace (character : Char) : Bool := Text.isJvmWhitespace character.toNat

/-- `String.isBlank` -/
def isBlankText (text : String) : Bool := text.toList.all isJvmSpace

/-- The code units of a character on the JVM. -/
def codeUnits (character : Char) : Nat := if character.toNat < 0x10000 then 1 else 2

/-- `String.take`, but that it leaves out a character of which only half would stay. -/
def takeUnits : Nat → List Char → List Char
  | _, [] => []
  | count, character :: rest =>
    if codeUnits character ≤ count then
      character :: takeUnits (count - codeUnits character) rest
    else []

/-- `RoomOutboxStore`.  `optString` reads JSON's null as the text `null`. -/
@[reducible] def androidOutbox : OutboxPlatform Int Unit where
  acceptsRelationship id :=
    ¬ isBlankText id ∧ (id.toList.map codeUnits).sum ≤ maxRelationshipIdBytes
  acceptsSource _ := true
  acceptsTransfer transferId := 0 ≤ transferId
  trim text := String.ofList (Text.strip isJvmSpace text.toList)
  take count text := String.ofList (takeUnits count text.toList)
  readsAbsent := some "null"
  isBlank := isBlankText
  absent_reads := by
    rintro text ⟨⟩
    decide
  interruptedPreparation :=
    some "File queueing was interrupted. Review this transfer before retrying."

/-- What Apple devices keep of a selection. -/
structure AppleSource where
  sourcePaths : List String
  sourceBookmarks : List Bytes
  shareDraftId : Option String

/-- `RememberedRoomOutboxStore`, which has no entries in preparation. -/
@[reducible] def appleOutbox : OutboxPlatform String AppleSource where
  acceptsRelationship id := ¬ id.isEmpty ∧ id.utf8ByteSize ≤ maxRelationshipIdBytes
  acceptsSource source :=
    source.sourceBookmarks.isEmpty ∨ source.sourceBookmarks.length = source.sourcePaths.length
  acceptsTransfer activityId := ¬ activityId.isEmpty
  trim text := text.trimAscii.toString
  take count text := String.ofList (text.toList.take count)
  readsAbsent := none
  isBlank _ := false
  absent_reads _ _ := rfl
  interruptedPreparation := none

end Envoix.Outbox
