import Mathlib.Tactic.SplitIfs
import ScriptStack.Toml.Quote
/-!
Basic strings as they are written.  Each character is read as it was escaped
(`readQuoted_escape`), and none is written as a control character
(`space_le_toNat_of_mem_escape`), so any text comes back from one line.
-/

namespace ScriptStack.Toml

/-- The quote of a basic string on one line. -/
def Quote.basic : Quote := ⟨'"', true, false⟩

theorem readQuoted_plain {c : Char} (hquote : c ≠ '"') (hslash : c ≠ '\\')
    (hplain : isPlain c = true) (rest : List Char) :
    readQuoted .basic .nothing (c :: rest) =
      consChar c (readQuoted .basic .nothing rest) := by
  have hline : c ≠ '\n' := by
    rintro rfl
    exact absurd hplain (by decide)
  rw [readQuoted.eq_def]
  simp [Quote.basic, hquote, hslash, hplain, hline]

theorem readQuoted_short {e c : Char} (hshort : shortEscape? e = some c)
    (rest : List Char) :
    readQuoted .basic .nothing ('\\' :: e :: rest) =
      consChar c (readQuoted .basic .nothing rest) := by
  rw [readQuoted.eq_def]
  simp [Quote.basic, hshort]

theorem readQuoted_codePoint {a b c d point : Char}
    (hpoint : codePoint? [a, b, c, d] = some point) (rest : List Char) :
    readQuoted .basic .nothing ('\\' :: 'u' :: a :: b :: c :: d :: rest) =
      consChar point (readQuoted .basic .nothing rest) := by
  have hunit : shortEscape? 'u' = none := by decide
  rw [readQuoted.eq_def]
  simp [Quote.basic, hunit, hpoint]

/-- The two capital digits of a code point below 256. -/
def capitalDigits (n : Nat) : List Char :=
  (Hex.byteDigits n.toUInt8).map Char.toUpper

/-- The two digits of a control come back from behind two zeros. -/
theorem hexValue?_capitalDigits :
    ∀ n < 0x80, hexValue? 0 (['0', '0'] ++ capitalDigits n) = some n := by
  decide

theorem codePoint?_capitalDigits {c : Char} (hc : c.toNat < 0x80) :
    codePoint? (['0', '0'] ++ capitalDigits c.toNat) = some c := by
  have hvalid : c.toNat.isValidChar := c.valid
  rw [codePoint?, hexValue?_capitalDigits c.toNat hc, Option.bind_some,
    if_pos hvalid, Char.ofNat_toNat]

/-- Reading undoes the writing of one character. -/
theorem readQuoted_escape (c : Char) (rest : List Char) :
    readQuoted .basic .nothing (escape c ++ rest) =
      consChar c (readQuoted .basic .nothing rest) := by
  unfold escape
  split_ifs with hself hbackspace hfeed hline hreturn htab hcontrol
  · rcases hself with rfl | rfl
    · exact readQuoted_short (by decide) rest
    · exact readQuoted_short (by decide) rest
  · subst hbackspace
    exact readQuoted_short (by decide) rest
  · subst hfeed
    exact readQuoted_short (by decide) rest
  · subst hline
    exact readQuoted_short (by decide) rest
  · subst hreturn
    exact readQuoted_short (by decide) rest
  · subst htab
    exact readQuoted_short (by decide) rest
  · exact readQuoted_codePoint (codePoint?_capitalDigits (by omega)) rest
  · rw [not_or] at hself hcontrol
    have hplain : isPlain c = true := by
      simp [isPlain, hcontrol.2]
      omega
    exact readQuoted_plain hself.1 hself.2 hplain rest

/-- A text comes back from its quotes, character by character. -/
theorem readQuoted_flatMap_escape (chars rest : List Char) :
    readQuoted .basic .nothing (chars.flatMap escape ++ '"' :: rest) =
      some (chars, rest) := by
  induction chars with
  | nil =>
    rw [List.flatMap_nil, List.nil_append, readQuoted.eq_def]
    rfl
  | cons c chars ih =>
      rw [List.flatMap_cons, List.append_assoc, readQuoted_escape, ih]
      rfl

theorem space_le_toNat_of_mem_capitalDigits :
    ∀ n < 0x80, (capitalDigits n).all (0x20 ≤ ·.toNat) = true := by
  decide

/-- A control is never written as itself. -/
theorem space_le_toNat_of_mem_escape {c d : Char} (hd : d ∈ escape c) :
    0x20 ≤ d.toNat := by
  have hshort : ∀ e : Char, 0x20 ≤ e.toNat → d ∈ ['\\', e] →
      0x20 ≤ d.toNat := by
    intro e he hmem
    simp only [List.mem_cons, List.not_mem_nil, or_false] at hmem
    rcases hmem with rfl | rfl
    · decide
    · exact he
  unfold escape at hd
  split_ifs at hd with hself hbackspace hfeed hline hreturn htab hcontrol
  · exact hshort c (by rcases hself with rfl | rfl <;> decide) hd
  · exact hshort 'b' (by decide) hd
  · exact hshort 'f' (by decide) hd
  · exact hshort 'n' (by decide) hd
  · exact hshort 'r' (by decide) hd
  · exact hshort 't' (by decide) hd
  · have hmark : ['\\', 'u', '0', '0'].all (0x20 ≤ ·.toNat) = true := by decide
    have hdigits :=
      space_le_toNat_of_mem_capitalDigits c.toNat (by omega)
    rw [List.all_eq_true] at hmark hdigits
    rcases List.mem_append.mp hd with hmem | hmem
    · exact of_decide_eq_true (hmark d hmem)
    · exact of_decide_eq_true (hdigits d hmem)
  · obtain rfl := List.mem_singleton.mp hd
    omega

end ScriptStack.Toml
