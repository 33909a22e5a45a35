import Mathlib

/-!
# Identifiers and phone numbers

The trust boundary of provider-chosen strings: which identifiers the gateway
admits, and which phone numbers are canonical. A Go string here is a Lean
string, so it is valid UTF-8, and `len` is its size in bytes.
-/

namespace MessagingGateway.Domain

/-- The conversation row of the parent backfill checkpoint. -/
def providerPageCursorID : String := "_provider_page"

def maxProviderConversationIDBytes : Nat := 512

def maxProviderResponseIDBytes : Nat := 256

theorem utf8ByteSize_ofChars (value : List Char) :
    (String.ofList value).utf8ByteSize = (value.map Char.utf8Size).sum := by
  induction value with
  | nil => simp
  | cons c value ih =>
    have hcons : String.ofList (c :: value) = String.singleton c ++ String.ofList value := by simp
    rw [hcons, String.utf8ByteSize_append, ih]
    simp

/-! ### Character classes -/

def inRange (c : Char) (low high : Nat) : Bool := low ≤ c.toNat && c.toNat ≤ high

def isSpace (c : Char) : Bool :=
  inRange c 0x09 0x0d || c == ' ' || inRange c 0x85 0x85 || inRange c 0xa0 0xa0 ||
    inRange c 0x1680 0x1680 || inRange c 0x2000 0x200a || inRange c 0x2028 0x2029 ||
    inRange c 0x202f 0x202f || inRange c 0x205f 0x205f || inRange c 0x3000 0x3000

def isControl (c : Char) : Bool := inRange c 0x00 0x1f || inRange c 0x7f 0x9f

def isFormat (c : Char) : Bool :=
  inRange c 0xad 0xad || inRange c 0x600 0x605 || inRange c 0x61c 0x61c ||
    inRange c 0x6dd 0x6dd || inRange c 0x70f 0x70f || inRange c 0x890 0x891 ||
    inRange c 0x8e2 0x8e2 || inRange c 0x180e 0x180e || inRange c 0x200b 0x200f ||
    inRange c 0x202a 0x202e || inRange c 0x2060 0x2064 || inRange c 0x2066 0x206f ||
    inRange c 0xfeff 0xfeff || inRange c 0xfff9 0xfffb || inRange c 0x110bd 0x110bd ||
    inRange c 0x110cd 0x110cd || inRange c 0x13430 0x1343f || inRange c 0x1bca0 0x1bca3 ||
    inRange c 0x1d173 0x1d17a || inRange c 0xe0001 0xe0001 || inRange c 0xe0020 0xe007f

def isPrivateUse (c : Char) : Bool :=
  inRange c 0xe000 0xf8ff || inRange c 0xf0000 0xffffd || inRange c 0x100000 0x10fffd

def unsafeProviderIdentifierRune (c : Char) : Bool :=
  isControl c || isSpace c || isFormat c || isPrivateUse c || inRange c 0xfdd0 0xfdef ||
    c.toNat &&& 0xfffe == 0xfffe

/-! ### Strings -/

/-- `strings.TrimSpace`, on characters. -/
def trimSpace (value : List Char) : List Char :=
  ((value.dropWhile isSpace).reverse.dropWhile isSpace).reverse

def trimmed (value : String) : Bool := trimSpace value.toList == value.toList

def validProviderIdentifier (value : String) : Bool :=
  value != "" && value != providerPageCursorID &&
    value.utf8ByteSize ≤ maxProviderConversationIDBytes && trimmed value &&
    value.toList.all fun c => !unsafeProviderIdentifierRune c

def validProviderConversationID (value : String) : Bool := validProviderIdentifier value

def validProviderResponseID (value : String) : Bool :=
  value != "" && value.utf8ByteSize ≤ maxProviderResponseIDBytes && trimmed value &&
    value.toList.all fun c => !unsafeProviderIdentifierRune c

def phonePunctuation : List Char := [' ', '\t', '(', ')', '-', '.']

/-- The canonical form of an international number, `none` for
`ErrInvalidPhoneNumber`. -/
def parseE164 (input : String) : Option String :=
  match trimSpace input.toList with
  | '+' :: rest =>
    let digits := rest.filter Char.isDigit
    if rest ≠ [] ∧ rest.all (fun c => c.isDigit || phonePunctuation.contains c) ∧
        2 ≤ digits.length ∧ digits.length ≤ 15 ∧ digits.head? ≠ some '0' then
      some (String.ofList ('+' :: digits))
    else none
  | _ => none

theorem trimSpace_eq_self {value : List Char} (h : ∀ c ∈ value, isSpace c = false) :
    trimSpace value = value := by
  have hkept : ∀ l : List Char, (∀ c ∈ l, isSpace c = false) → l.dropWhile isSpace = l :=
    fun l hl => List.dropWhile_eq_self_iff.2 fun hpos => by simp [hl]
  rw [trimSpace, hkept value h, hkept _ (by simpa using h), List.reverse_reverse]

theorem isSpace_of_isDigit {c : Char} (h : c.isDigit = true) : isSpace c = false := by
  have hrange : 48 ≤ c.toNat ∧ c.toNat ≤ 57 := by
    simpa [Char.isDigit, UInt32.le_iff_toNat_le] using h
  have hblank : c ≠ ' ' := by
    rintro rfl
    simp at hrange
  simp only [isSpace, inRange, beq_eq_false_iff_ne.2 hblank]
  simp
  omega

/-- A plus and 2 to 15 digits, the first of them not a zero. -/
def Canonical (phone : String) : Prop :=
  ∃ digits : List Char, phone = String.ofList ('+' :: digits) ∧
    (∀ d ∈ digits, d.isDigit = true) ∧ 2 ≤ digits.length ∧ digits.length ≤ 15 ∧
    digits.head? ≠ some '0'

theorem canonical_of_parseE164 {input phone : String} (h : parseE164 input = some phone) :
    Canonical phone := by
  unfold parseE164 at h
  split at h
  · next rest _ =>
    dsimp only at h
    split at h
    · next hvalid =>
      cases h
      exact ⟨_, rfl, fun d hd => (List.mem_filter.1 hd).2, hvalid.2.2⟩
    · cases h
  · cases h

/-- The canonical numbers are those that `ParseE164` returns, and those that it leaves
as they are. -/
theorem parseE164_canonical_iff (phone : String) :
    ((∃ input, parseE164 input = some phone) ↔ Canonical phone) ∧
      (parseE164 phone = some phone ↔ Canonical phone) := by
  have hself : Canonical phone → parseE164 phone = some phone := by
    rintro ⟨digits, rfl, hall, hlow, hhigh, hzero⟩
    have htrim : trimSpace ('+' :: digits) = '+' :: digits :=
      trimSpace_eq_self (by simpa using ⟨by decide, fun d hd => isSpace_of_isDigit (hall d hd)⟩)
    have hne : digits ≠ [] := List.ne_nil_of_length_pos (by omega)
    simp only [parseE164, String.toList_ofList, htrim, List.filter_eq_self.2 hall]
    rw [if_pos ⟨hne, by simpa using fun d hd => Or.inl (hall d hd), hlow, hhigh, hzero⟩]
  exact ⟨⟨fun ⟨_, h⟩ => canonical_of_parseE164 h, fun h => ⟨phone, hself h⟩⟩,
    canonical_of_parseE164, hself⟩

end MessagingGateway.Domain
