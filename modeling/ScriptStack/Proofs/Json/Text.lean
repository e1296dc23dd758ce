import Mathlib.Tactic.SplitIfs
import ScriptStack.Json.Text
import ScriptStack.Proofs.Json.Grammar
/-!
Strings of JSON.  Whatever the spelling of its characters, a string is read as
them (`readText_of_spells`) and passed over alike (`skipText_of_spells`), and
what is written for a string is one spelling (`spellsText_flatMap_escape`).
-/

namespace ScriptStack.Json

theorem skipSpace_of_not_isSpace {c : Char} (hc : isSpace c = false)
    (rest : List Char) : skipSpace (c :: rest) = c :: rest :=
  List.dropWhile_cons_of_neg (by rw [hc]; nofun)

theorem readText_literal {c : Char} (hquote : c ≠ '"') (hslash : c ≠ '\\')
    (hprintable : ¬ c.toNat < 0x20) (rest : List Char) :
    readText (c :: rest) = consText c (readText rest) := by
  rw [readText]
  · exact if_neg hprintable
  all_goals simp [hquote, hslash]

theorem readText_short {e c : Char} (hunit : e ≠ 'u')
    (hshort : shortEscape? e = some c) (rest : List Char) :
    readText ('\\' :: e :: rest) = consText c (readText rest) := by
  rw [readText]
  · rw [hshort]
  all_goals simp [hunit]

theorem readText_unit {a b c d : Char} {n : Nat}
    (hunit : unit? a b c d = some n) (hlow : isLowSurrogate n = false)
    (hhigh : isHighSurrogate n = false) (rest : List Char) :
    readText ('\\' :: 'u' :: a :: b :: c :: d :: rest) =
      consText (Char.ofNat n) (readText rest) := by
  rw [readText, hunit]
  simp only [hlow, hhigh, Bool.false_eq_true, if_false]

theorem unit?_of_spells {n : Nat} {chars : List Char}
    (hunit : SpellsUnit n chars) :
    ∃ a b c d, chars = ['\\', 'u', a, b, c, d] ∧ unit? a b c d = some n := by
  obtain @⟨a, b, c, d, hdigits⟩ := hunit
  refine ⟨a, b, c, d, rfl, ?_⟩
  have hdigit {x : Char} (hx : x ∈ [a, b, c, d]) :
      ∃ digit, Hex.digit? x = some digit ∧
        digit.toNat = Hex.digitValue x := by
    have hlt := Hex.digitValue_lt (hdigits x hx)
    refine ⟨(Hex.digitValue x).toUInt8, ?_, ?_⟩
    · rw [Hex.digit?_eq, if_pos (hdigits x hx)]
    · exact UInt8.toNat_ofNat_of_lt' (Nat.lt_trans hlt (by decide))
  obtain ⟨p, hp, hpval⟩ := hdigit (x := a) (by simp)
  obtain ⟨q, hq, hqval⟩ := hdigit (x := b) (by simp)
  obtain ⟨r, hr, hrval⟩ := hdigit (x := c) (by simp)
  obtain ⟨s, hs, hsval⟩ := hdigit (x := d) (by simp)
  simp only [unit?, hp, hq, hr, hs, ← hpval, ← hqval, ← hrval, ← hsval]
  rfl

theorem shortEscape?_of_mem {e c : Char} (hescape : (e, c) ∈ shortEscapes) :
    e ≠ 'u' ∧ shortEscape? e = some c := by
  have hall : (shortEscapes.all fun escape =>
      escape.1 ≠ 'u' && shortEscape? escape.1 == some escape.2) = true := by
    decide
  simpa using List.all_eq_true.mp hall (e, c) hescape

theorem isHighSurrogate_iff (n : Nat) :
    isHighSurrogate n = true ↔ 0xd800 ≤ n ∧ n ≤ 0xdbff := by
  simp [isHighSurrogate]

theorem isLowSurrogate_iff (n : Nat) :
    isLowSurrogate n = true ↔ 0xdc00 ≤ n ∧ n ≤ 0xdfff := by
  simp [isLowSurrogate]

/-- Two units that belong together are one character. -/
theorem readText_pair {a b c d p q r s : Char} {high low : Nat}
    (hfirst : unit? a b c d = some high) (hsecond : unit? p q r s = some low)
    (hhigh : isHighSurrogate high = true) (hlow : isLowSurrogate low = true)
    (rest : List Char) :
    readText ('\\' :: 'u' :: a :: b :: c :: d ::
        '\\' :: 'u' :: p :: q :: r :: s :: rest) =
      consText (pair high low) (readText rest) := by
  have hnot : isLowSurrogate high = false := by
    rw [isHighSurrogate_iff] at hhigh
    rw [← Bool.not_eq_true, isLowSurrogate_iff]
    omega
  rw [readText, hfirst]
  simp only [hnot, hhigh, hsecond, hlow, Bool.false_eq_true, if_false, if_true]

/-- A character is read back in any of its spellings: as itself, by a letter, or
by one unit or two. -/
theorem readText_of_spellsChar {c : Char} {chars : List Char}
    (hc : SpellsChar c chars) (rest : List Char) :
    readText (chars ++ rest) = consText c (readText rest) := by
  cases hc with
  | plain hquote hslash hcontrol =>
      exact readText_literal hquote hslash (by omega) rest
  | short hescape =>
      obtain ⟨hunit, hshort⟩ := shortEscape?_of_mem hescape
      exact readText_short hunit hshort rest
  | unit hunit hwhole =>
      obtain ⟨a, b, c, d, rfl, hn⟩ := unit?_of_spells hunit
      apply readText_unit hn
      · rw [← Bool.not_eq_true, isLowSurrogate_iff]
        omega
      · rw [← Bool.not_eq_true, isHighSurrogate_iff]
        omega
  | pair hfirst hsecond hhigh hlow =>
      obtain ⟨a, b, c, d, rfl, hm⟩ := unit?_of_spells hfirst
      obtain ⟨p, q, r, s, rfl, hn⟩ := unit?_of_spells hsecond
      exact readText_pair hm hn ((isHighSurrogate_iff _).mpr hhigh)
        ((isLowSurrogate_iff _).mpr hlow) rest

theorem skipText_unit {n : Nat} {chars : List Char}
    (hunit : SpellsUnit n chars) (rest : List Char) :
    skipText (chars ++ rest) = skipText rest := by
  obtain ⟨a, b, c, d, rfl, hn⟩ := unit?_of_spells hunit
  simp only [List.cons_append, List.nil_append]
  rw [skipText, hn]

/-- A string is passed over without a look at its surrogates, two halves of a
character as two escapes. -/
theorem skipText_of_spellsChar {c : Char} {chars : List Char}
    (hc : SpellsChar c chars) (rest : List Char) :
    skipText (chars ++ rest) = skipText rest := by
  cases hc with
  | plain hquote hslash hcontrol =>
      rw [List.singleton_append, skipText]
      · exact if_neg (by omega)
      all_goals simp [hquote, hslash]
  | short hescape =>
      obtain ⟨hunit, hshort⟩ := shortEscape?_of_mem hescape
      rw [List.cons_append, List.singleton_append, skipText]
      · rw [hshort]
      all_goals simp [hunit]
  | unit hunit hwhole => exact skipText_unit hunit rest
  | pair hfirst hsecond hhigh hlow =>
      rw [List.append_assoc, skipText_unit hfirst, skipText_unit hsecond]

/-- A text is read back in any of its spellings, up to its closing quote. -/
theorem readText_of_spells {chars spelled : List Char}
    (htext : SpellsText chars spelled) (rest : List Char) :
    readText (spelled ++ '"' :: rest) = .ok (chars, rest) := by
  induction htext with
  | nil => rw [List.nil_append, readText]
  | cons hc _ ih =>
      rw [List.append_assoc, readText_of_spellsChar hc, ih]
      rfl

theorem skipText_of_spells {chars spelled : List Char}
    (htext : SpellsText chars spelled) (rest : List Char) :
    skipText (spelled ++ '"' :: rest) = .ok rest := by
  induction htext with
  | nil => rw [List.nil_append, skipText]
  | cons hc _ ih => rw [List.append_assoc, skipText_of_spellsChar hc, ih]

/-! What is written -/

/-- Control characters have code points of two digits. -/
theorem spellsUnit_byteDigits {n : Nat} (hn : n < 0x20) :
    SpellsUnit n (['\\', 'u', '0', '0'] ++ Hex.byteDigits n.toUInt8) := by
  have hdigits : ∀ n < 0x20,
      (['0', '0', (n.toUInt8.toNat / 16).digitChar,
        (n.toUInt8.toNat % 16).digitChar].all Hex.isDigit = true) ∧
      ((Hex.digitValue '0' * 16 + Hex.digitValue '0') * 16 +
        Hex.digitValue (n.toUInt8.toNat / 16).digitChar) * 16 +
          Hex.digitValue (n.toUInt8.toNat % 16).digitChar = n := by decide
  obtain ⟨hall, hvalue⟩ := hdigits n hn
  have hspells := SpellsUnit.mk (List.all_eq_true.mp hall)
  rw [hvalue] at hspells
  exact hspells

/-- A character is written in one of its spellings. -/
theorem spellsChar_escape (c : Char) : SpellsChar c (escape c) := by
  unfold escape
  split_ifs with hself hbackspace hfeed hline hreturn htab hcontrol
  · rcases hself with rfl | rfl
    · exact .short (by decide)
    · exact .short (by decide)
  · exact hbackspace ▸ .short (by decide)
  · exact hfeed ▸ .short (by decide)
  · exact hline ▸ .short (by decide)
  · exact hreturn ▸ .short (by decide)
  · exact htab ▸ .short (by decide)
  · have hunit := spellsUnit_byteDigits hcontrol
    have hspells := SpellsChar.unit hunit (by omega)
    rwa [Char.ofNat_toNat] at hspells
  · rw [not_or] at hself
    exact .plain hself.1 hself.2 (Nat.le_of_not_lt hcontrol)

/-- A text as it is written is one of its spellings. -/
theorem spellsText_flatMap_escape (chars : List Char) :
    SpellsText chars (chars.flatMap escape) := by
  induction chars with
  | nil => exact .nil
  | cons c chars ih =>
      rw [List.flatMap_cons]
      exact .cons (spellsChar_escape c) ih

end ScriptStack.Json
