import Envoix.Foundation.Text

/-! # Socket addresses

`SocketAddr` of Rust's standard library: how it is printed and read. -/

namespace SocketAddress

open Text

structure Ipv4Addr where
  octets : UInt8 × UInt8 × UInt8 × UInt8
deriving DecidableEq

/-- The eight groups of the address. -/
structure Ipv6Addr where
  segments : List.Vector UInt16 8
deriving DecidableEq

inductive SocketAddr where
  | v4 (ip : Ipv4Addr) (port : UInt16)
  | v6 (ip : Ipv6Addr) (port : UInt16) (scopeId : UInt32)
deriving DecidableEq

namespace SocketAddr

def port : SocketAddr → UInt16
  | v4 _ port => port
  | v6 _ port _ => port

def isUnspecified : SocketAddr → Bool
  | v4 ip _ => ip.octets = (0, 0, 0, 0)
  | v6 ip _ _ => ip.segments.toList.all (· = 0)

def isMulticast : SocketAddr → Bool
  | v4 ip _ => 224 ≤ ip.octets.1 ∧ ip.octets.1 ≤ 239
  | v6 ip _ _ => (ip.segments.toList.getD 0 0).toNat / 256 = 0xff

end SocketAddr

/-! ## Printing -/

def showDecimal (value : Nat) : List Char := Nat.toDigits 10 value

def showHex (value : Nat) : List Char := Nat.toDigits 16 value

def showIpv4 (ip : Ipv4Addr) : List Char :=
  let (a, b, c, d) := ip.octets
  showDecimal a.toNat ++ '.' :: showDecimal b.toNat ++ '.' :: showDecimal c.toNat ++
    '.' :: showDecimal d.toNat

/-- Groups with colons between them. -/
def showGroups : List UInt16 → List Char
  | [] => []
  | [group] => showHex group.toNat
  | group :: rest => showHex group.toNat ++ ':' :: showGroups rest

/-- Where zero groups stand, and how many. -/
structure Span where
  start : Nat
  len : Nat

/-- The first of the longest runs of zero groups; `index` is where the groups at hand start. -/
def longestZeros (longest current : Span) (index : Nat) : List UInt16 → Span
  | [] => longest
  | group :: rest =>
    if group = 0 then
      let current := if current.len = 0 then ⟨index, 1⟩ else ⟨current.start, current.len + 1⟩
      longestZeros (if current.len > longest.len then current else longest) current (index + 1) rest
    else longestZeros longest ⟨0, 0⟩ (index + 1) rest

def showIpv6 (ip : Ipv6Addr) : List Char :=
  match ip.segments.toList with
  | [0, 0, 0, 0, 0, 0xffff, high, low] =>
    -- an IPv4-mapped address
    "::ffff:".toList ++ showIpv4 ⟨UInt8.ofNat (high.toNat / 256), UInt8.ofNat high.toNat,
      UInt8.ofNat (low.toNat / 256), UInt8.ofNat low.toNat⟩
  | groups =>
    let zeros := longestZeros ⟨0, 0⟩ ⟨0, 0⟩ 0 groups
    if zeros.len > 1 then
      showGroups (groups.take zeros.start) ++ "::".toList ++
        showGroups (groups.drop (zeros.start + zeros.len))
    else showGroups groups

def showAddr : SocketAddr → List Char
  | .v4 ip port => showIpv4 ip ++ ':' :: showDecimal port.toNat
  | .v6 ip port scopeId =>
    '[' :: showIpv6 ip ++ (if scopeId = 0 then [] else '%' :: showDecimal scopeId.toNat) ++
      "]:".toList ++ showDecimal port.toNat

/-! ## Reading -/

/-- A reader of the characters to come; it consumes none of them where it fails. -/
abbrev Parser := StateT (List Char) Option

def orElse {α : Type} (first second : Parser α) :
    Parser α := fun input => first input <|> second input

def readGivenChar (target : Char) : Parser Unit
  | head :: rest => if head = target then some ((), rest) else none
  | [] => none

def toDigit (radix : Nat) (character : Char) : Option Nat :=
  let value :=
    if character.isDigit then some (character.toNat - '0'.toNat)
    else if character.isLower then some (character.toNat - 'a'.toNat + 10)
    else if character.isUpper then some (character.toNat - 'A'.toNat + 10)
    else none
  value.filter (· < radix)

/-- A number below `limit`. -/
def readNumber (radix limit : Nat) (maxDigits : Option Nat) (allowZeroPrefix : Bool) :
    Parser Nat := fun input =>
  let digits := input.takeWhile fun character => (toDigit radix character).isSome
  let value :=
    (digits.filterMap (toDigit radix)).foldl (fun result digit => result * radix + digit) 0
  if digits = [] ∨ maxDigits.any (fun most => digits.length > most) then none
  else if !allowZeroPrefix ∧ digits.head? = some '0' ∧ digits.length > 1 then none
  else if value < limit then some (value, input.drop digits.length)
  else none

def readSeparator (separator : Char) (index : Nat) : Parser Unit :=
  if index > 0 then readGivenChar separator else pure ()

def readOctet (index : Nat) : Parser UInt8 := do
  readSeparator '.' index
  let value ← readNumber 10 256 (some 3) false
  return UInt8.ofNat value

def readIpv4Addr : Parser Ipv4Addr := do
  let a ← readOctet 0
  let b ← readOctet 1
  let c ← readOctet 2
  let d ← readOctet 3
  return ⟨a, b, c, d⟩

/-- At most so many groups of an IPv6 address, and whether an IPv4 address closed them. -/
def readGroups : Nat → Nat → List Char → List UInt16 × Bool × List Char
  | 0, _, input => ([], false, input)
  | left + 1, index, input =>
    -- an embedded IPv4 address takes two groups
    let embedded := do
      readSeparator ':' index
      readIpv4Addr
    match if left > 0 then embedded input else none with
    | some (ip, rest) =>
      let (a, b, c, d) := ip.octets
      ([UInt16.ofNat (a.toNat * 256 + b.toNat), UInt16.ofNat (c.toNat * 256 + d.toNat)], true, rest)
    | none =>
      let group := do
        readSeparator ':' index
        readNumber 16 65536 (some 4) true
      match group input with
      | some (value, rest) =>
        let (groups, ipv4, rest) := readGroups left (index + 1) rest
        (UInt16.ofNat value :: groups, ipv4, rest)
      | none => ([], false, input)

/-- Eight groups, of which a double colon leaves out some. -/
def ipv6Of (head tail : List UInt16) : Ipv6Addr :=
  let groups := head ++ List.replicate (8 - head.length - tail.length) 0 ++ tail
  ⟨⟨(groups ++ List.replicate 8 0).take 8, by simp⟩⟩

def readIpv6Addr : Parser Ipv6Addr := fun input =>
  let (head, headIpv4, rest) := readGroups 8 0 input
  if head.length = 8 then some (ipv6Of head [], rest)
  else if headIpv4 then none
  else do
    let (_, rest) ← readGivenChar ':' rest
    let (_, rest) ← readGivenChar ':' rest
    let (tail, _, rest) := readGroups (8 - (head.length + 1)) 0 rest
    return (ipv6Of head tail, rest)

def readPort : Parser UInt16 := do
  readGivenChar ':'
  let value ← readNumber 10 65536 none true
  return UInt16.ofNat value

def readScopeId : Parser UInt32 := do
  readGivenChar '%'
  let value ← readNumber 10 (2 ^ 32) none true
  return UInt32.ofNat value

def readSocketAddrV4 : Parser SocketAddr := do
  let ip ← readIpv4Addr
  let port ← readPort
  return .v4 ip port

def readSocketAddrV6 : Parser SocketAddr := do
  readGivenChar '['
  let ip ← readIpv6Addr
  let scopeId ← orElse readScopeId (pure 0)
  readGivenChar ']'
  let port ← readPort
  return .v6 ip port scopeId

/-- `SocketAddr::from_str` -/
def parseAddr (text : List Char) : Option SocketAddr :=
  match orElse readSocketAddrV4 readSocketAddrV6 text with
  | some (address, []) => some address
  | _ => none

example : parseAddr "[fe80::1%3]:8445".toList = some (.v6 (ipv6Of [0xfe80] [1]) 8445 3) := by decide

example : showAddr (.v6 (ipv6Of [0xfe80] [1]) 8445 3) = "[fe80::1%3]:8445".toList := by decide

/-! ## Printed addresses -/

theorem isGraphic_digitChar : ∀ digit < 16, isGraphic (Nat.digitChar digit) = true := by decide

def Graphic (text : List Char) : Prop := ∀ character ∈ text, isGraphic character = true

theorem Graphic.append {left right : List Char} (first : Graphic left) (second : Graphic right) :
    Graphic (left ++ right) := List.forall_mem_append.mpr ⟨first, second⟩

theorem Graphic.cons {character : Char} {text : List Char} (first : isGraphic character = true)
    (rest : Graphic text) :
    Graphic (character :: text) := List.forall_mem_cons.mpr ⟨first, rest⟩

theorem graphic_toDigits {radix : Nat} (large : 1 < radix) (small : radix ≤ 16) (value : Nat) :
    Graphic (Nat.toDigits radix value) := by
  induction value using Nat.strong_induction_on with
  | _ value ih =>
    rw [Nat.toDigits_eq_if large]
    split
    next last => exact .cons (isGraphic_digitChar value (by omega)) nofun
    next =>
      have rest := ih (value / radix) (Nat.div_lt_self (by omega) large)
      exact rest.append
        (.cons (isGraphic_digitChar _ ((Nat.mod_lt _ (by omega)).trans_le small)) nofun)

theorem graphic_showDecimal (value : Nat) : Graphic (showDecimal value) :=
  graphic_toDigits (by decide) (by decide) value

theorem graphic_showIpv4 (ip : Ipv4Addr) : Graphic (showIpv4 ip) := by
  have point : isGraphic '.' = true := by decide
  exact ((((graphic_showDecimal _).append (.cons point (graphic_showDecimal _))).append
    (.cons point (graphic_showDecimal _))).append (.cons point (graphic_showDecimal _)))

theorem graphic_showGroups (groups : List UInt16) : Graphic (showGroups groups) := by
  induction groups with
  | nil => exact nofun
  | cons group rest ih =>
    have first : Graphic (showHex group.toNat) := graphic_toDigits (by decide) (by decide) _
    cases rest with
    | nil => exact first
    | cons next rest => exact first.append (.cons (by decide) ih)

theorem graphic_showIpv6 (ip : Ipv6Addr) : Graphic (showIpv6 ip) := by
  unfold showIpv6
  split
  · have mapped : Graphic "::ffff:".toList := by
      unfold Graphic
      decide
    exact mapped.append (graphic_showIpv4 _)
  · simp only
    split
    · have gap : Graphic "::".toList := by
        unfold Graphic
        decide
      exact ((graphic_showGroups _).append gap).append (graphic_showGroups _)
    · exact graphic_showGroups _

theorem graphic_showAddr (address : SocketAddr) : Graphic (showAddr address) := by
  cases address with
  | v4 ip port => exact (graphic_showIpv4 ip).append (.cons (by decide) (graphic_showDecimal _))
  | v6 ip port scopeId =>
    have close : Graphic "]:".toList := by
      unfold Graphic
      decide
    have scope : Graphic (if scopeId = 0 then [] else '%' :: showDecimal scopeId.toNat) := by
      split
      · exact nofun
      · exact .cons (by decide) (graphic_showDecimal _)
    exact ((((graphic_showIpv6 ip).cons (by decide)).append scope).append close).append
      (graphic_showDecimal _)

end SocketAddress
