import Envoix.Foundation.Framing

/-! # Ideal cryptography

A password-authenticated key exchange whose key names the password and both messages, codes and
boxes that name the key under which they were made, and an attacker who can make none under a key
that it does not know: whatever it presents under such a key somebody else has made. -/

namespace IdealCrypto

open ByteCodec

/-- Who speaks first in a key exchange. -/
inductive PakeSide where
  | a
  | b
deriving DecidableEq

/-- What both sides must bring. -/
structure PakeInput where
  password : Bytes
  idA : Bytes
  idB : Bytes
deriving DecidableEq

/-- Both messages of an exchange, as one side has seen them. -/
def exchange : PakeSide → Buffer → Buffer → Buffer × Buffer
  | .a, own, peer => (own, peer)
  | .b, own, peer => (peer, own)

/-- An ideal exchange: its key names what both sides brought and what they said. -/
class Pake where
  Scalar : Type
  Key : Type
  message : PakeSide → PakeInput → Scalar → Buffer
  finish : PakeSide → PakeInput → Scalar → Buffer → Except String Key
  binds : ∀ {side other input same scalar drawn peer heard key},
    finish side input scalar peer = .ok key →
    finish other same drawn heard = .ok key →
    input = same ∧ exchange side (message side input scalar) peer =
      exchange other (message other same drawn) heard

open Pake

/-- An ideal authentication code: no two keys or texts have the same. -/
class Hmac [Pake] where
  Tag : Type
  decidable : DecidableEq Tag
  hmac : Key → Bytes → Tag
  injective : ∀ {key other text same}, hmac key text = hmac other same → key = other ∧ text = same

open Hmac

instance [Pake] [Hmac] : DecidableEq Tag := Hmac.decidable

class Sha256 where
  sha256 : Bytes → ByteVector 32

/-- Ideal authenticated encryption under keys that are derived from exchanged ones: a box opens only
under its own key, nonce and associated data. -/
class Aead [Pake] where
  AeadKey : Type
  deriveKey : String → Key → AeadKey
  deriveKey_injective : ∀ {purpose key other},
    deriveKey purpose key = deriveKey purpose other → key = other
  encrypt : AeadKey → ByteVector 12 → Bytes → Bytes → Option Bytes
  decrypt : AeadKey → ByteVector 12 → Bytes → Bytes → Option Bytes
  fits : ∀ {key nonce aad text box}, encrypt key nonce aad text = some box → box.length < 2 ^ 63
  authentic : ∀ {key other nonce aad same text found box}, encrypt key nonce aad text = some box →
    decrypt other nonce same box = some found → key = other ∧ aad = same ∧ text = found

section

variable [Pake]

/-- A key that comes from a password that the attacker does not know. -/
def Protected (knows : Bytes → Prop) (key : Key) : Prop :=
  ∃ side input scalar peer, finish side input scalar peer = .ok key ∧ ¬ knows input.password

/-- What the attacker may present: under a protected key, only what has been made before. -/
def Unforged {Token Text : Type} (knows : Bytes → Prop) (accepts : Key → Text → Token → Prop)
    (made : Token → Prop) (token : Token) : Prop :=
  ∀ key text, Protected knows key → accepts key text token → made token

end

/-! ## Primitives that are what they name

They show that the assumptions can be met: a key is what both sides brought and said, a code and a
box carry what they were made from. -/

def otherSide : PakeSide → PakeSide
  | .a => .b
  | .b => .a

def sideByte : PakeSide → UInt8
  | .a => 0x41
  | .b => 0x42

def sided (side : PakeSide) (scalar : ByteVector 32) : Buffer :=
  ⟨sideByte side :: scalar.toList, by simp⟩

abbrev NamingKey := PakeInput × Buffer × Buffer

@[reducible]
def namingPake : Pake where
  Scalar := ByteVector 32
  Key := NamingKey
  message side _ scalar := sided side scalar
  finish side input scalar peer :=
    if peer.bytes.length ≠ 33 then .error "WrongLength"
    else if peer.bytes.head? ≠ some (sideByte (otherSide side)) then .error "BadSide"
    else .ok (input, exchange side (sided side scalar) peer)
  binds := by
    intro side other input same scalar drawn peer heard key left right
    split at left
    · cases left
    · split at left
      · cases left
      · split at right
        · cases right
        · split at right
          · cases right
          · exact Prod.mk.inj ((Except.ok.inj left).trans (Except.ok.inj right).symm)

@[reducible]
def namingHmac : @Hmac namingPake :=
  letI := namingPake
  { Tag := NamingKey × Bytes
    decidable := inferInstance
    hmac := fun key text => (key, text)
    injective := Prod.mk.inj }

def toBuffer (bytes : Bytes) : Option Buffer :=
  if fits : bytes.length < 2 ^ 64 then some ⟨bytes, fits⟩ else none

/-- What a box carries besides its text. -/
def boxHeader (key : NamingKey) (aad : Bytes) : Option Bytes := do
  let password ← toBuffer key.1.password
  let idA ← toBuffer key.1.idA
  let idB ← toBuffer key.1.idB
  let aad ← toBuffer aad
  return framed [password, idA, idB, key.2.1, key.2.2, aad]

theorem toBuffer_eq_some {bytes : Bytes} {buffer : Buffer} (found : toBuffer bytes = some buffer) :
    buffer.bytes = bytes := by
  unfold toBuffer at found
  split at found
  · cases found
    rfl
  · cases found

theorem boxHeader_inj {key other : NamingKey} {aad same header headerSame text rest : Bytes}
    (first : boxHeader key aad = some header) (second : boxHeader other same = some headerSame)
    (boxes : header ++ text = headerSame ++ rest) : key = other ∧ aad = same ∧ text = rest := by
  simp only [boxHeader, Option.bind_eq_bind, Option.bind_eq_some_iff] at first second
  obtain ⟨password, passwordIs, idA, idAIs, idB, idBIs, aadBuffer, aadIs, made⟩ := first
  obtain ⟨password', passwordIs', idA', idAIs', idB', idBIs', aadBuffer', aadIs', made'⟩ := second
  cases made
  cases made'
  obtain ⟨parts, texts⟩ := framed_append_inj (by rfl) boxes
  simp only [List.cons.injEq, and_true] at parts
  obtain ⟨passwords, idAs, idBs, firsts, seconds, aads⟩ := parts
  subst passwords idAs idBs aads
  obtain ⟨⟨_, _, _⟩, _, _⟩ := key
  obtain ⟨⟨_, _, _⟩, _, _⟩ := other
  simp only [Prod.mk.injEq, PakeInput.mk.injEq]
  exact ⟨⟨⟨(toBuffer_eq_some passwordIs).symm.trans (toBuffer_eq_some passwordIs'),
    (toBuffer_eq_some idAIs).symm.trans (toBuffer_eq_some idAIs'),
    (toBuffer_eq_some idBIs).symm.trans (toBuffer_eq_some idBIs')⟩, firsts, seconds⟩,
    (toBuffer_eq_some aadIs).symm.trans (toBuffer_eq_some aadIs'), texts⟩

@[reducible]
def namingAead : @Aead namingPake :=
  letI := namingPake
  { AeadKey := NamingKey
    deriveKey := fun _ key => key
    deriveKey_injective := id
    encrypt := fun key _ aad text => do
      let header ← boxHeader key aad
      if (header ++ text).length < 2 ^ 63 then some (header ++ text) else none
    decrypt := fun key _ aad box => do
      let header ← boxHeader key aad
      if header.isPrefixOf box then some (box.drop header.length) else none
    fits := by
      intro key nonce aad text box encrypted
      simp only [Option.bind_eq_bind, Option.bind_eq_some_iff] at encrypted
      obtain ⟨header, -, encrypted⟩ := encrypted
      split at encrypted
      · cases encrypted
        assumption
      · cases encrypted
    authentic := by
      intro key other nonce aad same text found box encrypted decrypted
      simp only [Option.bind_eq_bind, Option.bind_eq_some_iff] at encrypted decrypted
      obtain ⟨header, first, encrypted⟩ := encrypted
      obtain ⟨headerSame, second, decrypted⟩ := decrypted
      split at encrypted
      · cases encrypted
        split at decrypted
        · rename_i starts
          obtain ⟨rest, boxes⟩ := List.isPrefixOf_iff_prefix.mp starts
          cases decrypted
          rw [← boxes, List.drop_left]
          exact boxHeader_inj first second boxes.symm
        · cases decrypted
      · cases encrypted }

@[reducible]
def shorteningSha256 : Sha256 where
  sha256 text := ⟨(text ++ List.replicate 32 0).take 32, by simp⟩

end IdealCrypto
