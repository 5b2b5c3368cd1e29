import Envoix.Foundation.Text
import Envoix.Transfer.DestinationPlan
import Envoix.Protocol.FrameCodec
import Mathlib.Data.List.DropRight

/-! # Names a destination can hold

`provider_safe_component` and `component_with_suffix` of `envoix-transfer/src/destination_v2.rs` on
the platforms they are built for, and whether the names they make fit into a frame. -/

namespace Envoix.Transfer

open ByteCodec Fallible Envoix.Protocol

/-! ## The rules of the platforms -/

/-- `str::to_lowercase`, as far as names depend on it.  It goes character by character but for a
capital sigma that ends a word, which is taken here as any other. -/
class Lowercase where
  lower : Char → List Char
  lower_ne_nil : ∀ character, lower character ≠ []
  lower_digit : ∀ character : Char, character.isDigit = true → lower character = [character]
  lower_sign : ∀ character ∈ [' ', '(', ')'], lower character = [character]

def lowered [Lowercase] (name : List Char) : List Char := name.flatMap Lowercase.lower

/-- The characters that Windows replaces. -/
def forbiddenCharacters : List Char := ['<', '>', ':', '"', '/', '\\', '|', '?', '*']

def substituted (component : List Char) : List Char :=
  component.map fun character => if character ∈ forbiddenCharacters then '_' else character

/-- Windows drops spaces and dots at the end of a name. -/
def isTail (character : Char) : Bool := character = ' ' ∨ character = '.'

def deviceNames : List (List Char) :=
  ["CON".toList, "PRN".toList, "AUX".toList, "NUL".toList] ++
    "123456789".toList.flatMap fun digit => ["COM".toList ++ [digit], "LPT".toList ++ [digit]]

/-- The part before the first dot, which names a device whatever follows. -/
def stemOf (component : List Char) : List Char := component.takeWhile (· ≠ '.')

def isDevice (component : List Char) : Bool := (stemOf component).map Char.toUpper ∈ deviceNames

def windowsSafe (component : List Char) : List Char :=
  let value := (substituted component).rdropWhile isTail
  let value := if isDevice value then '_' :: value else value
  if value = [] then ['_'] else value

@[reducible] def windowsNames [Lowercase] : ProviderNames where
  providerSafeComponent component := String.ofList (windowsSafe component.toList)
  nameEquivalenceKey component := String.ofList (lowered component.toList)

/-- Two of the builds' rules: those of Linux and Android, and those of Windows.  The build for macOS
spells names as the first and compares them as the second, and is not covered. -/
inductive NameRules where
  | identity
  | windows
deriving DecidableEq

@[reducible] def NameRules.names [Lowercase] : NameRules → ProviderNames
  | .identity => linuxNames
  | .windows => windowsNames

/-! ## Components that a frame carries -/

def allowed (character : Char) : Bool :=
  ¬ (isControl character || character == '/' || character == '\\')

theorem length_asBytes (text : String) : (asBytes text).length = componentBytes text.toList := by
  rw [← String.ofList_toList (s := text), asBytes_ofList, List.length_flatMap, String.toList_ofList,
    componentBytes]
  simp only [String.length_utf8EncodeChar]

@[simp] theorem componentBytes_nil : componentBytes [] = 0 := rfl

@[simp] theorem componentBytes_cons (character : Char) (rest : List Char) :
    componentBytes (character :: rest) = character.utf8Size + componentBytes rest := by
  simp [componentBytes]

@[simp] theorem componentBytes_append (left right : List Char) :
    componentBytes (left ++ right) = componentBytes left + componentBytes right := by
  simp [componentBytes]

theorem length_le_componentBytes (name : List Char) : name.length ≤ componentBytes name := by
  induction name with
  | nil => exact Nat.le_refl 0
  | cons character rest ih =>
    have size := character.utf8Size_pos
    rw [List.length_cons, componentBytes_cons]
    omega

theorem frameComponentOk_iff {value : String} :
    FrameComponentOk value ↔ value.toList ≠ [] ∧ value.toList ≠ ['.'] ∧ value.toList ≠ ['.', '.'] ∧
      componentBytes value.toList ≤ 255 ∧ ∀ character ∈ value.toList, allowed character = true := by
  have text (literal : String) : value = literal ↔ value.toList = literal.toList :=
    String.toList_inj.symm
  have characters : (¬ hasControlOrSeparator value = true) ↔
      ∀ character ∈ value.toList, allowed character = true := by
    simp only [hasControlOrSeparator, allowed, Bool.not_eq_true, List.any_eq_false,
      decide_eq_true_eq]
  rw [FrameComponentOk, validateFrameComponent, reject_eq_ok, ← characters, ← length_asBytes]
  simp only [not_or, not_lt, gt_iff_lt, text, maxManifestV2ComponentBytes]
  exact Iff.rfl

theorem frameComponentOk_of_valid [UnicodeNormalization] {component : String}
    (valid : validateComponent component = .ok ()) : FrameComponentOk component := by
  simp only [validateComponent, bind_eq_ok, reject_eq_ok, exists_unit] at valid
  obtain ⟨nonempty, current, parent, short, characters, _⟩ := valid
  simp only [FrameComponentOk, validateFrameComponent, reject_eq_ok, not_or]
  exact ⟨nonempty, current, parent, short, characters⟩

theorem valid_of_frameComponentOk [UnicodeNormalization] {component : String}
    (ok : FrameComponentOk component) (canonical : UnicodeNormalization.isNfc component = true) :
    validateComponent component = .ok () := by
  simp only [FrameComponentOk, validateFrameComponent, reject_eq_ok, not_or] at ok
  simp only [validateComponent, bind_eq_ok, reject_eq_ok, exists_unit]
  exact ⟨ok.1, ok.2.1, ok.2.2.1, ok.2.2.2.1, ok.2.2.2.2, fun refused => refused canonical⟩

/-! ## Windows -/

theorem componentBytes_substituted (component : List Char) :
    componentBytes (substituted component) = componentBytes component := by
  have single : ∀ character ∈ forbiddenCharacters, character.utf8Size = 1 := by decide
  induction component with
  | nil => rfl
  | cons character rest ih =>
    rw [substituted, List.map_cons, componentBytes_cons, componentBytes_cons, ← substituted, ih]
    split
    case isTrue forbidden => rw [single _ forbidden]; rfl
    case isFalse => rfl

theorem substituted_clean (component : List Char) :
    ∀ character ∈ substituted component, character ∉ forbiddenCharacters := by
  intro character listed
  obtain ⟨original, _, rfl⟩ := List.mem_map.mp listed
  split
  case isTrue => decide
  case isFalse clean => exact clean

theorem substituted_of_clean {component : List Char}
    (clean : ∀ character ∈ component, character ∉ forbiddenCharacters) :
      substituted component = component := by
  rw [substituted, List.map_congr_left (g := id)]
  · exact List.map_id component
  · intro character listed
    exact if_neg (clean character listed)

theorem substituted_allowed {component : List Char}
    (clean : ∀ character ∈ component, allowed character = true) :
    ∀ character ∈ substituted component, allowed character = true := by
  intro character listed
  obtain ⟨original, originalListed, rfl⟩ := List.mem_map.mp listed
  split
  case isTrue => decide
  case isFalse => exact clean original originalListed

theorem isDevice_underscore (component : List Char) : isDevice ('_' :: component) = false := by
  have heads : ∀ name ∈ deviceNames, name.head? ≠ some '_' := by decide
  rw [isDevice, decide_eq_false_iff_not]
  intro listed
  exact heads _ listed rfl

/-- What Windows leaves as it is. -/
theorem windowsSafe_eq_self {component : List Char} (nonempty : component ≠ [])
    (clean : ∀ character ∈ component, character ∉ forbiddenCharacters)
    (ended : component.rdropWhile isTail = component) (plain : isDevice component = false) :
    windowsSafe component = component := by
  rw [windowsSafe]
  simp only [substituted_of_clean clean, ended, plain, Bool.false_eq_true, if_false,
    if_neg nonempty]

theorem rdropWhile_cons_of_ended {character : Char} {rest : List Char} (nonempty : rest ≠ [])
    (ended : rest.rdropWhile isTail = rest) :
    (character :: rest).rdropWhile isTail = character :: rest := by
  rw [List.rdropWhile_eq_self_iff] at ended ⊢
  intro _
  rw [List.getLast_cons nonempty]
  exact ended nonempty

/-- The three ways in which a safe name comes about. -/
theorem windowsSafe_cases (component : List Char) :
    let value := (substituted component).rdropWhile isTail
    (isDevice value = true ∧ value ≠ [] ∧ windowsSafe component = '_' :: value) ∨
      (value = [] ∧ windowsSafe component = ['_']) ∨
      (isDevice value = false ∧ value ≠ [] ∧ windowsSafe component = value) := by
  intro value
  cases device : isDevice value with
  | true =>
    have nonempty : value ≠ [] := by
      intro empty
      rw [empty] at device
      cases device
    exact .inl ⟨rfl, nonempty, by simp [windowsSafe, value, device]⟩
  | false =>
    by_cases empty : value = []
    · exact .inr (.inl ⟨empty, by simp [windowsSafe, value, empty]⟩)
    · exact .inr (.inr ⟨rfl, empty, by simp [windowsSafe, value, device, empty]⟩)

theorem value_clean (component : List Char) :
    ∀ character ∈ (substituted component).rdropWhile isTail, character ∉ forbiddenCharacters :=
  fun character listed =>
    substituted_clean component character (List.rdropWhile_prefix isTail _ |>.subset listed)

theorem windowsSafe_idempotent (component : List Char) :
    windowsSafe (windowsSafe component) = windowsSafe component := by
  have clean := value_clean component
  have ended : ((substituted component).rdropWhile isTail).rdropWhile isTail =
      (substituted component).rdropWhile isTail := List.rdropWhile_idempotent isTail _
  obtain ⟨_, nonempty, result⟩ | ⟨_, result⟩ | ⟨plain, nonempty, result⟩ :=
    windowsSafe_cases component
  · rw [result]
    apply windowsSafe_eq_self (List.cons_ne_nil _ _) _ (rdropWhile_cons_of_ended nonempty ended)
      (isDevice_underscore _)
    intro character listed
    cases listed with
    | head => decide
    | tail _ listed => exact clean character listed
  · rw [result]
    decide
  · rw [result]
    exact windowsSafe_eq_self nonempty clean ended plain

theorem windowsSafe_allowed {component : List Char}
    (clean : ∀ character ∈ component, allowed character = true) :
    ∀ character ∈ windowsSafe component, allowed character = true := by
  have valueClean : ∀ character ∈ (substituted component).rdropWhile isTail,
    allowed character = true :=
    fun character listed =>
      substituted_allowed clean character (List.rdropWhile_prefix isTail _ |>.subset listed)
  obtain ⟨_, _, result⟩ | ⟨_, result⟩ | ⟨_, _, result⟩ := windowsSafe_cases component
  · rw [result]
    intro character listed
    cases listed with
    | head => decide
    | tail _ listed => exact valueClean character listed
  · rw [result]
    decide
  · rw [result]
    exact valueClean

theorem getLast_windowsSafe (component : List Char) :
    windowsSafe component ≠ [] ∧ ∀ last ∈ (windowsSafe component).getLast?,
      isTail last = false := by
  have ended := List.rdropWhile_idempotent isTail (substituted component)
  rw [List.rdropWhile_eq_self_iff] at ended
  obtain ⟨_, nonempty, result⟩ | ⟨_, result⟩ | ⟨_, nonempty, result⟩ := windowsSafe_cases component
  · rw [result]
    refine ⟨List.cons_ne_nil _ _, fun last final => ?_⟩
    rw [List.getLast?_eq_getLast_of_ne_nil (List.cons_ne_nil _ _), Option.mem_some_iff,
      List.getLast_cons nonempty]
      at final
    subst final
    exact Bool.eq_false_iff.mpr (ended nonempty)
  · rw [result]
    refine ⟨List.cons_ne_nil _ _, fun last final => ?_⟩
    obtain rfl := Option.some.inj final
    decide
  · rw [result]
    refine ⟨nonempty, fun last final => ?_⟩
    rw [List.getLast?_eq_getLast_of_ne_nil nonempty, Option.mem_some_iff] at final
    subst final
    exact Bool.eq_false_iff.mpr (ended nonempty)

/-- A device name that takes the whole length of a component: the underscore before it makes it too
long. -/
def Outgrows (component : List Char) : Prop :=
  componentBytes component = 255 ∧ (∀ last ∈ component.getLast?, isTail last = false) ∧
    isDevice component = true

theorem isDevice_substituted (component : List Char) :
    isDevice (substituted component) = isDevice component := by
  have clean : ∀ name ∈ deviceNames, ∀ character ∈ '_' :: forbiddenCharacters,
      character.toUpper ∉ name := by
    decide
  have stem : stemOf (substituted component) = substituted (stemOf component) := by
    rw [stemOf, stemOf, substituted, substituted, List.takeWhile_map]
    congr 1
    refine congrArg (component.takeWhile ·) (funext fun character => ?_)
    have dot : '.' ∉ forbiddenCharacters := by decide
    by_cases forbidden : character ∈ forbiddenCharacters
    · have other : character ≠ '.' := fun same => dot (same ▸ forbidden)
      simp [forbidden, other]
    · simp [forbidden]
  by_cases dirty : ∃ character ∈ stemOf component, character ∈ forbiddenCharacters
  · -- Neither the character nor what replaces it occurs in the name of a device.
    obtain ⟨character, listed, forbidden⟩ := dirty
    have left : isDevice component = false := by
      rw [isDevice, decide_eq_false_iff_not]
      intro device
      exact clean _ device character (List.mem_cons_of_mem _ forbidden) (List.mem_map_of_mem listed)
    have replaced : '_' ∈ substituted (stemOf component) :=
      List.mem_map.mpr ⟨character, listed, if_pos forbidden⟩
    have right : isDevice (substituted component) = false := by
      rw [isDevice, stem, decide_eq_false_iff_not]
      intro device
      exact clean _ device '_' List.mem_cons_self (List.mem_map_of_mem replaced)
    rw [left, right]
  · have same : substituted (stemOf component) = stemOf component :=
      substituted_of_clean fun character listed forbidden => dirty ⟨character, listed, forbidden⟩
    rw [isDevice, stem, same, isDevice]

theorem isTail_substituted {component : List Char} :
    (substituted component).rdropWhile isTail = substituted component ↔
      ∀ last ∈ component.getLast?, isTail last = false := by
  rw [List.rdropWhile_eq_self_iff]
  cases final : component.getLast? with
  | none =>
    have empty : component = [] := List.getLast?_eq_none_iff.mp final
    subst empty
    simp [substituted]
  | some last =>
    have nonempty : component ≠ [] := by
      rintro rfl
      cases final
    have lastEq : component.getLast nonempty = last := by
      rw [List.getLast?_eq_getLast_of_ne_nil nonempty] at final
      exact Option.some.inj final
    have kept : isTail (if last ∈ forbiddenCharacters then '_' else last) = isTail last := by
      have none : ∀ character ∈ forbiddenCharacters, isTail character = isTail '_' := by decide
      split
      case isTrue forbidden => exact (none _ forbidden).symm
      case isFalse => rfl
    simp only [Option.mem_some_iff, forall_eq']
    rw [← kept, ← lastEq]
    simp only [substituted, List.getLast_map, Bool.not_eq_true, List.map_eq_nil_iff, ne_eq,
      nonempty, not_false_eq_true, forall_true_left]

theorem windowsSafe_short {component : List Char} (short : componentBytes component ≤ 255) :
    componentBytes (windowsSafe component) ≤ 255 ↔ ¬ Outgrows component := by
  obtain ⟨tail, split⟩ := List.rdropWhile_prefix isTail (substituted component)
  have size := congrArg componentBytes split
  rw [componentBytes_append, componentBytes_substituted] at size
  have whole : tail = [] ↔ ∀ last ∈ component.getLast?, isTail last = false := by
    rw [← isTail_substituted]
    constructor
    · rintro rfl
      rw [List.append_nil] at split
      exact split
    · intro same
      rw [same] at split
      exact List.append_right_eq_self.mp split
  have tailSize := length_le_componentBytes tail
  obtain ⟨device, _, result⟩ | ⟨empty, result⟩ | ⟨plain, _, result⟩ := windowsSafe_cases component
  · rw [result, componentBytes_cons, show ('_' : Char).utf8Size = 1 from rfl]
    by_cases none : tail = []
    · have same : (substituted component).rdropWhile isTail = substituted component := by
        rw [none, List.append_nil] at split
        exact split
      rw [same, isDevice_substituted] at device
      rw [Outgrows, ← whole, same, componentBytes_substituted]
      simp only [none, device, and_self, and_true]
      omega
    · have some : 0 < tail.length := List.length_pos_iff.mpr none
      rw [Outgrows, ← whole]
      simp only [none, false_and, and_false, not_false_eq_true, iff_true]
      omega
  · rw [result]
    refine iff_of_true (by decide) fun outgrows => ?_
    have same := isTail_substituted.mpr outgrows.2.1
    rw [same] at empty
    have full := outgrows.1
    rw [← componentBytes_substituted, empty] at full
    cases full
  · rw [result]
    refine iff_of_true (by omega) fun outgrows => ?_
    have same := isTail_substituted.mpr outgrows.2.1
    rw [same, isDevice_substituted, outgrows.2.2] at plain
    cases plain

/-! ## Suffixes -/

def suffixText (suffix : Nat) : List Char := [' ', '('] ++ Nat.toDigits 10 suffix ++ [')']

/-- The stem and the extension between which a suffix is put. -/
def suffixParts (base : List Char) (suffix : Nat) (preserveExtension : Bool) :
    List Char × List Char :=
  ((if preserveExtension then splitExtension base else none).filter fun (_, extension) =>
    componentBytes extension + componentBytes (suffixText suffix) ≤ 255).getD (base, [])

def suffixed (base : List Char) (suffix : Nat) (preserveExtension : Bool) : List Char :=
  let parts := suffixParts base suffix preserveExtension
  takeBytes (255 - (componentBytes (suffixText suffix) + componentBytes parts.2)) parts.1 ++
    suffixText suffix ++ parts.2

theorem toList_componentWithSuffix (base : String) (suffix : Nat) (preserveExtension : Bool) :
    (componentWithSuffix base suffix preserveExtension).toList =
      suffixed base.toList suffix preserveExtension := by
  have text : (" (" ++ toString suffix ++ ")").toList = suffixText suffix := by
    have digits : (toString suffix).toList = Nat.toDigits 10 suffix := by
      rw [Nat.toString_eq_repr, Nat.repr_eq_ofList_toDigits]
      exact String.toList_ofList
    rw [String.toList_append, String.toList_append, digits]
    rfl
  rw [componentWithSuffix, String.toList_ofList, text]
  rfl

theorem takeBytes_starts (room : Nat) (name : List Char) : takeBytes room name <+: name := by
  induction name generalizing room with
  | nil => exact List.prefix_rfl
  | cons character rest ih =>
    rw [takeBytes]
    split
    case isTrue => exact (List.prefix_cons_inj character).mpr (ih _)
    case isFalse => exact List.nil_prefix

theorem componentBytes_takeBytes (room : Nat) (name : List Char) :
    componentBytes (takeBytes room name) ≤ room := by
  induction name generalizing room with
  | nil => exact Nat.zero_le room
  | cons character rest ih =>
    rw [takeBytes]
    split
    case isTrue fits =>
      rw [componentBytes_cons]
      have := ih (room - character.utf8Size)
      omega
    case isFalse => exact Nat.zero_le room

theorem splitExtension_eq_some {base stem extension : List Char}
    (found : splitExtension base = some (stem, extension)) :
    base = stem ++ extension ∧ stem ≠ [] ∧ ∃ rest, extension = '.' :: rest ∧ '.' ∉ rest := by
  rw [splitExtension] at found
  split at found
  case isFalse => cases found
  case isTrue condition =>
    obtain ⟨dotted, positive⟩ := condition
    rw [Option.some.injEq, List.splitAt_eq, Prod.mk.injEq] at found
    obtain ⟨rfl, rfl⟩ := found
    -- The last dot, seen from the end.
    obtain ⟨rest, before, split⟩ : ∃ rest before, base.reverse = rest ++ '.' :: before ∧
        rest = base.reverse.takeWhile (· ≠ '.') := by
      have onward := List.takeWhile_append_dropWhile (p := (· ≠ '.')) (l := base.reverse)
      cases dropped : base.reverse.dropWhile (· ≠ '.') with
      | nil =>
        have all := List.dropWhile_eq_nil_iff.mp dropped '.' (List.mem_reverse.mpr dotted)
        simp at all
      | cons first before =>
        have isDot : first = '.' := by
          have head :=
            List.head_dropWhile_not (p := (· ≠ '.')) (l := base.reverse) (by rw [dropped]; simp)
          simp only [dropped, List.head_cons] at head
          simpa using head
        subst isDot
        exact ⟨_, before, by rw [← dropped, onward], rfl⟩
    obtain ⟨split, restDef⟩ := split
    have baseSplit : base = before.reverse ++ '.' :: rest.reverse := by
      have := congrArg List.reverse split
      simpa using this
    have clean : '.' ∉ rest := by
      rw [restDef]
      intro listed
      have := List.mem_takeWhile_imp listed
      simp at this
    rw [← restDef]
    have position : base.length - rest.length - 1 = before.reverse.length := by
      rw [baseSplit]
      simp only [List.length_append, List.length_reverse, List.length_cons]
      omega
    rw [position, baseSplit, List.take_left' rfl, List.drop_left' rfl]
    refine ⟨rfl, ?_, rest.reverse, rfl, by simpa using clean⟩
    rw [← restDef, position] at positive
    exact List.ne_nil_of_length_pos positive

/-- The parts make up the base, and an extension leaves room for the suffix. -/
theorem suffixParts_spec (base : List Char) (suffix : Nat) (preserveExtension : Bool) :
    let parts := suffixParts base suffix preserveExtension
    base = parts.1 ++ parts.2 ∧ (parts.2 = [] ∨ splitExtension base = some parts ∧
      componentBytes parts.2 + componentBytes (suffixText suffix) ≤ 255) := by
  rw [suffixParts]
  cases preserveExtension with
  | false => exact ⟨(List.append_nil base).symm, .inl rfl⟩
  | true =>
    rw [if_pos rfl]
    cases found : splitExtension base with
    | none => exact ⟨(List.append_nil base).symm, .inl rfl⟩
    | some parts =>
      obtain ⟨stem, extension⟩ := parts
      by_cases fits : componentBytes extension + componentBytes (suffixText suffix) ≤ 255
      · rw [Option.filter_some, if_pos (decide_eq_true fits), Option.getD_some]
        exact ⟨(splitExtension_eq_some found).1, .inr ⟨rfl, fits⟩⟩
      · rw [Option.filter_some, if_neg (by simpa using fits), Option.getD_none]
        exact ⟨(List.append_nil base).symm, .inl rfl⟩

theorem digit_ascii {digit : Char} (found : digit.isDigit = true) :
    digit.utf8Size = 1 ∧ allowed digit = true := by
  have range : 48 ≤ digit.toNat ∧ digit.toNat ≤ 57 := by
    simp only [Char.isDigit, Bool.and_eq_true, decide_eq_true_eq, ge_iff_le, UInt32.le_iff_toNat_le]
      at found
    exact found
  have checked : ∀ value : Fin 58, 48 ≤ value.val →
      (Char.ofNat value).utf8Size = 1 ∧ allowed (Char.ofNat value) = true := by decide
  have result := checked ⟨digit.toNat, by omega⟩ range.1
  rwa [Char.ofNat_toNat] at result

theorem suffixText_allowed (suffix : Nat) :
    ∀ character ∈ suffixText suffix, allowed character = true := by
  intro character listed
  simp only [suffixText, List.mem_append, List.mem_cons, List.not_mem_nil, or_false] at listed
  obtain ((rfl | rfl) | digit) | rfl := listed
  · decide
  · decide
  · exact (digit_ascii (Nat.isDigit_of_mem_toDigits (by decide) (by decide) digit)).2
  · decide

theorem componentBytes_suffixText (suffix : Nat) :
    componentBytes (suffixText suffix) = 3 + (Nat.toDigits 10 suffix).length := by
  have digits : ∀ text : List Char, (∀ character ∈ text, character.isDigit = true) →
      componentBytes text = text.length := by
    intro text
    induction text with
    | nil => intro _; rfl
    | cons character rest ih =>
      intro all
      rw [componentBytes_cons, (digit_ascii (all character List.mem_cons_self)).1, List.length_cons,
        ih fun other listed => all other (List.mem_cons_of_mem _ listed), Nat.add_comm]
  rw [suffixText, componentBytes_append, componentBytes_append,
    digits _ fun character listed => Nat.isDigit_of_mem_toDigits (by decide) (by decide) listed]
  have open' : componentBytes [' ', '('] = 2 := by decide
  have close : componentBytes [')'] = 1 := by decide
  omega

theorem componentBytes_suffixed {base : List Char} {suffix : Nat} {preserveExtension : Bool}
    (bound : suffix ≤ 9999) :
    componentBytes (suffixed base suffix preserveExtension) ≤ 255 := by
  have digits : (Nat.toDigits 10 suffix).length ≤ 4 :=
    (Nat.length_toDigits_le_iff (by decide) (by decide)).mpr (by omega)
  have size := componentBytes_suffixText suffix
  have parts := suffixParts_spec base suffix preserveExtension
  rw [suffixed]
  generalize suffixParts base suffix preserveExtension = split at parts
  have kept :=
    componentBytes_takeBytes (255 - (componentBytes (suffixText suffix) + componentBytes split.2))
      split.1
  simp only [componentBytes_append]
  obtain ⟨_, none | ⟨_, fits⟩⟩ := parts
  · rw [none, componentBytes_nil] at kept ⊢
    omega
  · omega

/-- A suffixed name fits into a frame whatever its base is as long as that has no character
amiss. -/
theorem suffixed_ok {base : String} {suffix : Nat} (preserveExtension : Bool)
    (bound : suffix ≤ 9999) (clean : ∀ character ∈ base.toList, allowed character = true) :
    FrameComponentOk (componentWithSuffix base suffix preserveExtension) := by
  rw [frameComponentOk_iff, toList_componentWithSuffix]
  have short : componentBytes (suffixed base.toList suffix preserveExtension) ≤ 255 :=
    componentBytes_suffixed bound
  have parts := suffixParts_spec base.toList suffix preserveExtension
  rw [suffixed] at short ⊢
  generalize suffixParts base.toList suffix preserveExtension = split at parts short
  obtain ⟨whole, _⟩ := parts
  have parenthesis :
      '(' ∈ takeBytes (255 - (componentBytes (suffixText suffix) + componentBytes split.2))
        split.1 ++
      suffixText suffix ++ split.2 := by simp [suffixText]
  refine ⟨List.ne_nil_of_mem parenthesis, ?_, ?_, short, ?_⟩
  · intro same
    rw [same] at parenthesis
    exact absurd parenthesis (by decide)
  · intro same
    rw [same] at parenthesis
    exact absurd parenthesis (by decide)
  · intro character listed
    rw [List.mem_append, List.mem_append] at listed
    obtain (kept | added) | extended := listed
    · exact clean character (whole ▸ List.mem_append_left _ ((takeBytes_starts _ _).subset kept))
    · exact suffixText_allowed suffix character added
    · exact clean character (whole ▸ List.mem_append_right _ extended)

/-! ## Every name can be sent -/

/-- The safe spelling of a component is final, and it and its suffixed forms fit into a frame. -/
def Sendable [names : ProviderNames] (component : String) : Prop :=
  let safe := names.providerSafeComponent component
  names.providerSafeComponent safe = safe ∧ FrameComponentOk safe ∧
    ∀ suffix, 1 ≤ suffix → suffix ≤ 9999 → ∀ preserveExtension,
      FrameComponentOk (componentWithSuffix safe suffix preserveExtension)

/-- Every component of a manifest can be sent, but for a device name that takes the whole length. -/
theorem sendable_iff [Lowercase] [UnicodeNormalization] (rules : NameRules) {component : String}
    (valid : validateComponent component = .ok ()) :
    @Sendable rules.names component ↔ ¬ (rules = .windows ∧ Outgrows component.toList) := by
  have ok := frameComponentOk_of_valid valid
  obtain ⟨_, _, _, short, clean⟩ := frameComponentOk_iff.mp ok
  cases rules with
  | identity =>
    refine iff_of_true ⟨rfl, ok, fun suffix _ bound preserveExtension =>
      suffixed_ok preserveExtension bound clean⟩ ?_
    intro ⟨different, _⟩
    cases different
  | windows =>
    have safeClean := windowsSafe_allowed clean
    obtain ⟨nonempty, ended⟩ := getLast_windowsSafe component.toList
    have spelled : (NameRules.windows.names.providerSafeComponent component).toList =
      windowsSafe component.toList :=
      String.toList_ofList
    simp only [true_and]
    rw [← windowsSafe_short short]
    constructor
    · intro ⟨_, safe, _⟩
      have fits := (frameComponentOk_iff.mp safe).2.2.2.1
      rwa [spelled] at fits
    · intro fits
      have final : windowsSafe (NameRules.windows.names.providerSafeComponent component).toList =
          windowsSafe component.toList := by rw [spelled, windowsSafe_idempotent]
      refine ⟨congrArg String.ofList final, ?_, fun suffix _ bound preserveExtension => ?_⟩
      · rw [frameComponentOk_iff, spelled]
        refine ⟨nonempty, ?_, ?_, fits, safeClean⟩
        · intro same
          rw [same] at ended
          exact absurd (ended '.' rfl) (by decide)
        · intro same
          rw [same] at ended
          exact absurd (ended '.' rfl) (by decide)
      · exact suffixed_ok preserveExtension bound (by rwa [spelled])

/-! ## A device name of full length -/

/-- ASCII has no other rules. -/
@[reducible] def asciiLowercase : Lowercase where
  lower character := [character.toLower]
  lower_ne_nil _ := List.cons_ne_nil _ _
  lower_digit character digit := by
    have range : 48 ≤ character.toNat ∧ character.toNat ≤ 57 := by
      simp only [Char.isDigit, Bool.and_eq_true, decide_eq_true_eq, ge_iff_le,
        UInt32.le_iff_toNat_le] at digit
      exact digit
    have checked : ∀ value : Fin 58, 48 ≤ value.val →
      (Char.ofNat value).toLower = Char.ofNat value := by decide
    have result := checked ⟨character.toNat, by omega⟩ range.1
    rw [Char.ofNat_toNat] at result
    rw [result]
  lower_sign := by decide

@[reducible] def identityNormalization : UnicodeNormalization where
  isNfc _ := true
  nfc text := text

/-- A console of 255 bytes. -/
def longDevice : List Char := ['c', 'o', 'n', '.'] ++ List.replicate 251 'x'

attribute [local instance] asciiLowercase identityNormalization

theorem longDevice_valid : validateComponent (String.ofList longDevice) = .ok () := by
  refine valid_of_frameComponentOk ?_ rfl
  rw [frameComponentOk_iff, String.toList_ofList]
  set_option maxRecDepth 8000 in decide

theorem sendable_iff_longDevice : @Sendable windowsNames (String.ofList longDevice) ↔
    ¬ (NameRules.windows = .windows ∧ Outgrows (String.ofList longDevice).toList) :=
  sendable_iff .windows longDevice_valid

/-- The underscore before it is one byte too many. -/
theorem longDevice_is_not_sendable :
    ¬ ∀ [Lowercase] [UnicodeNormalization] (rules : NameRules) (component : String),
      validateComponent component = .ok () → @Sendable rules.names component := by
  intro sendable
  obtain ⟨_, safe, _⟩ := sendable .windows (String.ofList longDevice) longDevice_valid
  have spelled : (NameRules.windows.names.providerSafeComponent (String.ofList longDevice)).toList =
      windowsSafe longDevice :=
    String.toList_ofList.trans (congrArg windowsSafe String.toList_ofList)
  have fits := (frameComponentOk_iff.mp safe).2.2.2.1
  rw [spelled] at fits
  exact absurd fits (by set_option maxRecDepth 8000 in decide)

end Envoix.Transfer
