import ScriptStack.Json.Number
import ScriptStack.Proofs.Hex.Reading
/-!
The grammar of JSON texts.  A text spells a value (`Spells`), said without the
readers: blanks may stand around every value, key and mark, a character of a
string has several spellings, and surrogates come in pairs.  The tree of a
value keeps what is written, so numbers stay literals and members stay in order
with their repetitions.
-/

namespace ScriptStack.Json

/-- A value as it is written, less blanks and the spellings of characters. -/
inductive Value where
  | null
  | boolean (b : Bool)
  | number (literal : NumberLiteral)
  | text (chars : List Char)
  | list (elements : List Value)
  | object (members : List (List Char × Value))

/-- The characters that may stand between tokens. -/
def blanks : List Char := [' ', '\n', '\t', '\r']

def Blank (chars : List Char) : Prop := ∀ c ∈ chars, c ∈ blanks

instance (chars : List Char) : Decidable (Blank chars) :=
  List.decidableBAll (· ∈ blanks) chars

theorem blank_nil : Blank [] := by decide

/-- Digits, at least one. -/
def Digits (chars : List Char) : Prop :=
  chars ≠ [] ∧ ∀ c ∈ chars, c.isDigit = true

instance (chars : List Char) : Decidable (Digits chars) :=
  have := List.decidableBAll (fun c => c.isDigit = true) chars
  instDecidableAnd

/-- Digits that do not begin with a zero, or zero alone. -/
def WholeDigits (chars : List Char) : Prop :=
  Digits chars ∧ (chars.head? = some '0' → chars = ['0'])

instance (chars : List Char) : Decidable (WholeDigits chars) :=
  inferInstanceAs
    (Decidable (Digits chars ∧ (chars.head? = some '0' → chars = ['0'])))

inductive SpellsFraction : Option (List Char) → List Char → Prop where
  | none : SpellsFraction none []
  | some {digits : List Char} (hdigits : Digits digits) :
      SpellsFraction (some digits) ('.' :: digits)

/-- The signs of an exponent: whether it is negative, and its spelling. -/
def exponentSigns : List (Bool × List Char) :=
  [(true, ['-']), (false, ['+']), (false, [])]

inductive SpellsExponent : Option (Bool × List Char) → List Char → Prop where
  | none : SpellsExponent none []
  | some {letter : Char} {negative : Bool} {sign digits : List Char}
      (hletter : letter = 'e' ∨ letter = 'E')
      (hsign : (negative, sign) ∈ exponentSigns) (hdigits : Digits digits) :
      SpellsExponent (some (negative, digits)) (letter :: (sign ++ digits))

inductive SpellsNumber : NumberLiteral → List Char → Prop where
  | mk {negative : Bool} {whole fractionChars exponentChars : List Char}
      {fraction : Option (List Char)} {exponent : Option (Bool × List Char)}
      (hwhole : WholeDigits whole)
      (hfraction : SpellsFraction fraction fractionChars)
      (hexponent : SpellsExponent exponent exponentChars) :
      SpellsNumber ⟨negative, whole, fraction, exponent⟩
        ((if negative then ['-'] else []) ++
          (whole ++ (fractionChars ++ exponentChars)))

/-- The letters behind a backslash, with the characters they stand for. -/
def shortEscapes : List (Char × Char) :=
  [('"', '"'), ('\\', '\\'), ('/', '/'), ('b', '\x08'), ('f', '\x0c'),
    ('n', '\n'), ('r', '\r'), ('t', '\t')]

/-- A number as an escape of four hexadecimal digits. -/
inductive SpellsUnit : Nat → List Char → Prop where
  | mk {a b c d : Char} (hdigits : ∀ x ∈ [a, b, c, d], Hex.isDigit x = true) :
      SpellsUnit
        (((Hex.digitValue a * 16 + Hex.digitValue b) * 16 +
          Hex.digitValue c) * 16 + Hex.digitValue d)
        ['\\', 'u', a, b, c, d]

/-- One character of a string: itself, a short escape, its code point, or the
two halves of it if it lies above the basic plane. -/
inductive SpellsChar : Char → List Char → Prop where
  | plain {c : Char} (hquote : c ≠ '"') (hslash : c ≠ '\\')
      (hcontrol : 0x20 ≤ c.toNat) : SpellsChar c [c]
  | short {e c : Char} (hescape : (e, c) ∈ shortEscapes) :
      SpellsChar c ['\\', e]
  | unit {n : Nat} {chars : List Char} (hunit : SpellsUnit n chars)
      (hwhole : n < 0xd800 ∨ 0xdfff < n) : SpellsChar (Char.ofNat n) chars
  | pair {high low : Nat} {first second : List Char}
      (hfirst : SpellsUnit high first) (hsecond : SpellsUnit low second)
      (hhigh : 0xd800 ≤ high ∧ high ≤ 0xdbff)
      (hlow : 0xdc00 ≤ low ∧ low ≤ 0xdfff) :
      SpellsChar
        (Char.ofNat (0x10000 + (high - 0xd800) * 0x400 + (low - 0xdc00)))
        (first ++ second)

/-- The characters of a string between its quotes. -/
inductive SpellsText : List Char → List Char → Prop where
  | nil : SpellsText [] []
  | cons {c : Char} {rest chars more : List Char} (hc : SpellsChar c chars)
      (hrest : SpellsText rest more) : SpellsText (c :: rest) (chars ++ more)

/-- Characters that need no escape. -/
def Plain (chars : List Char) : Prop :=
  ∀ c ∈ chars, c ≠ '"' ∧ c ≠ '\\' ∧ 0x20 ≤ c.toNat

instance (chars : List Char) : Decidable (Plain chars) :=
  List.decidableBAll
    (fun c => c ≠ '"' ∧ c ≠ '\\' ∧ 0x20 ≤ c.toNat) chars

/-- Plain characters spell themselves. -/
theorem spellsText_plain {chars : List Char} (hplain : Plain chars) :
    SpellsText chars chars := by
  induction chars with
  | nil => exact .nil
  | cons c chars ih =>
      rw [Plain, List.forall_mem_cons] at hplain
      obtain ⟨⟨hquote, hslash, hcontrol⟩, hchars⟩ := hplain
      exact .cons (.plain hquote hslash hcontrol) (ih hchars)

/-- What a part of a text can be.  An element is a value with blanks around it,
and an object is made of members as a list is made of elements. -/
inductive Phrase where
  | value (v : Value)
  | element (v : Value)
  | elements (vs : List Value)
  | member (key : List Char) (v : Value)
  | members (ms : List (List Char × Value))

inductive Spells : Phrase → List Char → Prop where
  | null : Spells (.value .null) ['n', 'u', 'l', 'l']
  | true : Spells (.value (.boolean true)) ['t', 'r', 'u', 'e']
  | false : Spells (.value (.boolean false)) ['f', 'a', 'l', 's', 'e']
  | number {literal : NumberLiteral} {chars : List Char}
      (hnumber : SpellsNumber literal chars) :
      Spells (.value (.number literal)) chars
  | text {chars spelled : List Char} (htext : SpellsText chars spelled) :
      Spells (.value (.text chars)) ('"' :: (spelled ++ ['"']))
  | emptyList {gap : List Char} (hgap : Blank gap) :
      Spells (.value (.list [])) ('[' :: (gap ++ [']']))
  | list {vs : List Value} {chars : List Char}
      (helements : Spells (.elements vs) chars) :
      Spells (.value (.list vs)) ('[' :: (chars ++ [']']))
  | emptyObject {gap : List Char} (hgap : Blank gap) :
      Spells (.value (.object [])) ('\x7b' :: (gap ++ ['\x7d']))
  | object {ms : List (List Char × Value)} {chars : List Char}
      (hmembers : Spells (.members ms) chars) :
      Spells (.value (.object ms)) ('\x7b' :: (chars ++ ['\x7d']))
  | element {v : Value} {before chars after : List Char}
      (hbefore : Blank before) (hvalue : Spells (.value v) chars)
      (hafter : Blank after) :
      Spells (.element v) (before ++ (chars ++ after))
  | lastElement {v : Value} {chars : List Char}
      (helement : Spells (.element v) chars) : Spells (.elements [v]) chars
  | moreElements {v : Value} {vs : List Value} {chars more : List Char}
      (helement : Spells (.element v) chars)
      (helements : Spells (.elements vs) more) :
      Spells (.elements (v :: vs)) (chars ++ ',' :: more)
  | member {key spelled before after chars : List Char} {v : Value}
      (hbefore : Blank before) (hkey : SpellsText key spelled)
      (hafter : Blank after) (helement : Spells (.element v) chars) :
      Spells (.member key v)
        (before ++ '"' :: (spelled ++ '"' :: (after ++ ':' :: chars)))
  | lastMember {key : List Char} {v : Value} {chars : List Char}
      (hmember : Spells (.member key v) chars) :
      Spells (.members [(key, v)]) chars
  | moreMembers {key : List Char} {v : Value}
      {ms : List (List Char × Value)} {chars more : List Char}
      (hmember : Spells (.member key v) chars)
      (hmembers : Spells (.members ms) more) :
      Spells (.members ((key, v) :: ms)) (chars ++ ',' :: more)

end ScriptStack.Json
