import Envoix.Foundation.ByteCodec
import Envoix.Foundation.Durable

/-! # Remembered peers

Model of the stores that keep the credential of a remembered relationship and the generation it
has reached: `RememberedPeers.kt` on Android and `RememberedPeers.swift` on Apple devices.  A
generation is a number the platform can hold: a non-negative `Long`, a `UInt64`. -/

namespace Envoix.Remembered

open Process Process.Method Durable ByteCodec

structure RememberedPeerRecord where
  relationshipId : String
  credentialReference : String
  label : String
  generation : Nat
  previousGeneration : Option Nat
  broker : String
  relay : String
deriving DecidableEq

structure PendingRememberedPeer where
  relationshipId : String
  credentialReference : String
  label : String
  broker : String
  relay : String

structure LoadedRememberedPeer where
  record : RememberedPeerRecord
  opaqueCredential : Bytes

/-- The record of a relationship that has just been negotiated. -/
def PendingRememberedPeer.record (pending : PendingRememberedPeer) (generation : Nat) :
    RememberedPeerRecord where
  relationshipId := pending.relationshipId
  credentialReference := pending.credentialReference
  label := pending.label
  generation
  previousGeneration := none
  broker := pending.broker
  relay := pending.relay

def RememberedPeerRecord.rotated (previous : RememberedPeerRecord) (generation : Nat) :
    RememberedPeerRecord :=
  { previous with generation, previousGeneration := some previous.generation }

def ownedBy (relationshipId : String) (record : RememberedPeerRecord) : Bool :=
  record.relationshipId = relationshipId

/-- What becomes of the writes of one operation.  `cleanup` and `undo` remove a file that is no
longer wanted; a removal that is refused goes unnoticed. -/
structure Fates where
  credential : Fate
  metadata : Fate
  cleanup : Fate
  undo : Fate

/-! ## Android -/

/-- The largest `Long`. -/
def longMax : Nat := 2 ^ 63 - 1

/-- AES-GCM under the key of the Android Keystore: what was encrypted is read back. -/
class KeystoreCipher where
  encrypt : Bytes → Bytes → Bytes
  decrypt : Bytes → Bytes → Option Bytes
  decrypt_encrypt : ∀ plaintext aad, decrypt (encrypt plaintext aad) aad = some plaintext

structure AndroidStore where
  records : List RememberedPeerRecord
  credentialFiles : String → Nat → Option Bytes

abbrev AndroidMethod := Operation AndroidStore Unit

namespace AndroidStore

variable [cipher : KeystoreCipher]

def aad (record : RememberedPeerRecord) (generation : Nat) : Bytes :=
  asBytes (String.intercalate "\u0000"
    ["dev.envoix.app/remembered-credential/v1", record.credentialReference, record.relationshipId,
      toString generation])

def putFile (store : AndroidStore) (reference : String) (generation : Nat)
    (content : Option Bytes) : AndroidStore :=
  { store with credentialFiles := fun name number =>
      if name = reference ∧ number = generation then content
      else store.credentialFiles name number }

def writeCredential (fate : Fate) (record : RememberedPeerRecord) (opaqueCredential : Bytes) :
    AndroidMethod Unit :=
  write fate () fun store => store.putFile record.credentialReference record.generation
    (some (cipher.encrypt opaqueCredential (aad record record.generation)))

def writeRecords (fate : Fate) (records : List RememberedPeerRecord) : AndroidMethod Unit :=
  write fate () fun store => { store with records }

/-- `File.delete`, which throws nothing. -/
def deleteCredentialFile (fate : Fate) (reference : String) (generation : Nat) :
    AndroidMethod Unit :=
  match fate with
  | .completes => modify fun store => store.putFile reference generation none
  | .throws => pure ()
  | .dies => throw .died

/-- The files of a reference, whatever their generation. -/
def deleteCredentialFiles (fate : Fate) (reference : String) : AndroidMethod Unit :=
  match fate with
  | .completes => modify fun store => { store with credentialFiles := fun name number =>
      if name = reference then none else store.credentialFiles name number }
  | .throws => pure ()
  | .dies => throw .died

/-- The first of the current and the previous credential that can be read. -/
def loadCredential (store : AndroidStore) (record : RememberedPeerRecord) : Option Bytes :=
  (record.generation :: record.previousGeneration.toList).findSome? fun generation => do
    cipher.decrypt (← store.credentialFiles record.credentialReference generation)
      (aad record generation)

def load (store : AndroidStore) (relationshipId : String) : Option LoadedRememberedPeer := do
  let record ← store.records.find? (ownedBy relationshipId)
  return { record, opaqueCredential := ← store.loadCredential record }

def create (fates : Fates) (pending : PendingRememberedPeer) (opaqueCredential : Bytes)
    (generation : Nat) :
    AndroidMethod Bool := do
  let records := (← get).records
  if records.any (ownedBy pending.relationshipId) then
    return false
  let record := pending.record generation
  catching (do
    writeCredential fates.credential record opaqueCredential
    catching (writeRecords fates.metadata (records ++ [record])) fun error => do
      deleteCredentialFiles fates.undo record.credentialReference
      throw (.threw error)
    return true) fun _ => pure false

def rotate (fates : Fates) (relationshipId : String) (opaqueCredential : Bytes) (generation : Nat) :
    AndroidMethod Bool := do
  let records := (← get).records
  match records.find? (ownedBy relationshipId) with
  | none => return false
  | some previous =>
    if generation ≤ previous.generation then
      return generation = previous.generation
    let rotated := previous.rotated generation
    catching (do
      writeCredential fates.credential rotated opaqueCredential
      writeRecords fates.metadata (replaceFirst (ownedBy relationshipId) rotated records)
      match previous.previousGeneration with
      | some old => deleteCredentialFile fates.cleanup previous.credentialReference old
      | none => pure ()
      return true) fun _ => do
        deleteCredentialFile fates.undo rotated.credentialReference rotated.generation
        return false

/-- `Math.addExact(value, 1L)`, which throws on overflow. -/
def addExact (value : Nat) : Option Nat := if value + 1 ≤ longMax then some (value + 1) else none

/-- A retry on the retained previous generation is a catch-up, never a reason to regress. -/
def advanceAfterPeerAuthentication (fates : Fates) (relationshipId : String)
    (opaqueCredential : Bytes) (authenticatedGeneration : Nat) : AndroidMethod Bool := do
  match (← get).records.find? (ownedBy relationshipId) with
  | none => return false
  | some record =>
    match addExact authenticatedGeneration with
    | none => return false
    | some nextGeneration =>
      if authenticatedGeneration = record.generation then
        rotate fates relationshipId opaqueCredential nextGeneration
      else
        return some authenticatedGeneration = record.previousGeneration ∧
          nextGeneration = record.generation

/-- The generation of the next attempt of `RememberedRoomConnectionManager`. -/
def selectedGeneration (loaded : LoadedRememberedPeer) (usePreviousGeneration : Bool) : Nat :=
  if usePreviousGeneration then loaded.record.previousGeneration.getD loaded.record.generation
  else loaded.record.generation

end AndroidStore

/-! ## Apple devices -/

/-- The largest `UInt64`. -/
def uint64Max : Nat := 2 ^ 64 - 1

inductive RememberedPeerStoreError where
  | missingCredential
  | inactiveSession
  | corruptMetadata
  | storage
  | exhausted
deriving DecidableEq

structure AppleStore where
  peers : List RememberedPeerRecord
  keychain : String → Option Bytes
  activeRelationships : List String

abbrev AppleMethod := Operation AppleStore RememberedPeerStoreError

namespace AppleStore

def putItem (store : AppleStore) (reference : String) (content : Option Bytes) : AppleStore :=
  { store with keychain := fun name => if name = reference then content else store.keychain name }

def putCredential (fate : Fate) (reference : String) (opaqueCredential : Bytes) :
    AppleMethod Unit :=
  write fate .storage fun store => store.putItem reference (some opaqueCredential)

def writeMetadata (fate : Fate) (peers : List RememberedPeerRecord) : AppleMethod Unit :=
  write fate .storage fun store => { store with peers }

/-- `try? credentialStore.delete(reference)` -/
def deleteCredential (fate : Fate) (reference : String) : AppleMethod Unit :=
  match fate with
  | .completes => modify fun store => store.putItem reference none
  | .throws => pure ()
  | .dies => throw .died

def sessionMaterial (store : AppleStore) (relationshipId : String) :
    Option LoadedRememberedPeer := do
  let record ← store.peers.find? (ownedBy relationshipId)
  return { record, opaqueCredential := ← store.keychain record.credentialReference }

def create (fates : Fates) (pending : PendingRememberedPeer) (opaqueCredential : Bytes)
    (generation : Nat) :
    AppleMethod Unit := do
  if pending.relationshipId ∉ (← get).activeRelationships then
    throw (.threw .inactiveSession)
  putCredential fates.credential pending.credentialReference opaqueCredential
  catching (do
    let peers := (← get).peers.filter fun peer => !ownedBy pending.relationshipId peer
    writeMetadata fates.metadata (peers ++ [pending.record generation])) fun error => do
      deleteCredential fates.undo pending.credentialReference
      throw (.threw error)

def rotate (fates : Fates) (relationshipId : String) (opaqueCredential : Bytes) (generation : Nat) :
    AppleMethod Unit := do
  let store ← get
  if relationshipId ∉ store.activeRelationships then
    throw (.threw .inactiveSession)
  match store.peers.find? (ownedBy relationshipId) with
  | none => throw (.threw .missingCredential)
  | some previous =>
    if generation < previous.generation then
      throw (.threw .corruptMetadata)
    if generation = previous.generation then
      return ()
    putCredential fates.credential previous.credentialReference opaqueCredential
    writeMetadata fates.metadata (replaceFirst (ownedBy relationshipId)
      (previous.rotated generation) store.peers)

/-- What `connectRememberedPeer` does before it reports a room as connected. -/
def beforeConnected (fates : Fates) (relationshipId : String) (opaqueCredential : Bytes)
    (authenticatedGeneration : Nat) : AppleMethod Unit := do
  if ¬ authenticatedGeneration < uint64Max then
    throw (.threw .exhausted)
  rotate fates relationshipId opaqueCredential (authenticatedGeneration + 1)

/-- The generations one sweep tries, in order. -/
def rememberedGenerationSchedule (current : Nat) (previous : Option Nat) : List Nat :=
  match previous with
  | none => [current]
  | some previous => if previous ≠ current then [current, previous] else [current]

end AppleStore

end Envoix.Remembered
