import Mathlib.Tactic.SplitIfs
import ScriptStack.Proofs.Hex.Writing
import ScriptStack.Text.Quoted
/-!
Quoted text, for any choice of the characters that are hidden behind their code
points.  The first character of what is written is read back alone, whatever
follows it (`readChar?_escapeHiding`), so different texts are quoted differently
(`quotedHiding_injective`).  Where controls and separators are hidden, quoted
text stays on its line (`isOneLine_quotedHiding`).
-/

namespace ScriptStack.Text

/-- Whether a character is a control: of the general category Cc. -/
def isControl (c : Char) : Bool :=
  c.toNat < 0x20 || (0x7f ≤ c.toNat && c.toNat < 0xa0)

/-- The characters that end a line.  The last two are the separators of lines
and of paragraphs, the others are controls. -/
def lineBreaks : List Char :=
  ['\n', '\x0b', '\x0c', '\r', '\x85', '\u2028', '\u2029']

def keepsLine (c : Char) : Bool := !isControl c && !lineBreaks.contains c

/-- Whether a text has no control characters and no line breaks. -/
def IsOneLine (text : String) : Prop := text.toList.all keepsLine = true

instance (text : String) : Decidable (IsOneLine text) :=
  instDecidableEqBool (text.toList.all keepsLine) true

/-- Whether controls and the separators of lines and paragraphs are hidden. -/
def HidesControls (hidden : Char → Bool) : Prop :=
  ∀ c, isControl c = true ∨ c = '\u2028' ∨ c = '\u2029' → hidden c = true

/-- What could not be seen on its own has the controls in it. -/
theorem hidesControls_isHidden : HidesControls isHidden := by
  have hunprintable {c : Char} (hc : isUnprintable c = true) :
      isHidden c = true := by
    rw [isHidden, hc, Bool.or_true]
  rintro c (hcontrol | rfl | rfl)
  · apply hunprintable
    have hdelete : (0x7f, 0xa0) ∈ unprintableRanges := List.mem_cons_self
    simp only [isControl, Bool.or_eq_true, Bool.and_eq_true,
      decide_eq_true_eq] at hcontrol
    simp only [isUnprintable, Bool.or_eq_true, Bool.and_eq_true,
      decide_eq_true_eq, List.any_eq_true]
    rcases hcontrol with hlow | ⟨hfirst, hlast⟩
    · exact Or.inl hlow
    · exact Or.inr ⟨hfirst, _, hdelete, hfirst, by dsimp only; omega⟩
  · exact hunprintable (by decide +kernel)
  · exact hunprintable (by decide +kernel)

/-! Reading back -/

/-- The number that hexadecimal digits spell. -/
def hexNumber (digits : List Char) : Nat :=
  digits.foldl (fun n c => 16 * n + Hex.digitValue c) 0

/-- The digits of a number spell it.  Digits are written from the last one on,
so the induction is on the number without it. -/
theorem hexNumber_toDigits (n : Nat) : hexNumber (Nat.toDigits 16 n) = n := by
  induction n using Nat.strongRecOn with
  | ind n ih =>
      by_cases hlast : n < 16
      · rw [Nat.toDigits_of_lt_base hlast, hexNumber, List.foldl_cons,
          List.foldl_nil, Hex.digitValue_digitChar hlast]
        omega
      · have hdigit := Hex.digitValue_digitChar (n := n % 16) (by omega)
        have hbefore := ih (n / 16) (by omega)
        rw [hexNumber] at hbefore
        rw [Nat.toDigits_of_base_le (by decide) (by omega), hexNumber,
          List.foldl_append, hbefore, List.foldl_cons, List.foldl_nil, hdigit]
        omega

theorem mem_alphabet_of_mem_toDigits {n : Nat} {c : Char}
    (hc : c ∈ Nat.toDigits 16 n) : c ∈ Hex.alphabet := by
  induction n using Nat.strongRecOn with
  | ind n ih =>
      by_cases hlast : n < 16
      · rw [Nat.toDigits_of_lt_base hlast, List.mem_singleton] at hc
        rw [hc]
        exact Hex.digitChar_mem_alphabet hlast
      · rw [Nat.toDigits_of_base_le (by decide) (by omega), List.mem_append,
          List.mem_singleton] at hc
        rcases hc with hbefore | rfl
        · exact ih (n / 16) (by omega) hbefore
        · exact Hex.digitChar_mem_alphabet (by omega)

/-- The character that a letter or a mark behind a backslash stands for. -/
def lettered (letter : Char) : Char :=
  if letter = '0' then '\x00'
  else if letter = 't' then '\t'
  else if letter = 'r' then '\r'
  else if letter = 'n' then '\n'
  else letter

/-- Reads one character between quotes and leaves what follows it. -/
def readChar? : List Char → Option (Char × List Char)
  | [] => none
  | '\\' :: 'u' :: '{' :: rest =>
      some (Char.ofNat (hexNumber (rest.takeWhile (· != '}'))),
        (rest.dropWhile (· != '}')).drop 1)
  | '\\' :: letter :: rest => some (lettered letter, rest)
  | c :: rest => some (c, rest)

/-- The closing brace ends the digits, for it is none itself. -/
theorem readChar?_codePoint (c : Char) (rest : List Char) :
    readChar? (codePoint c ++ rest) = some (c, rest) := by
  have hdigits : ∀ d ∈ Nat.toDigits 16 c.toNat, (d != '}') = true := by
    intro d hd
    have halphabet : Hex.alphabet.all (· != '}') = true := by decide
    exact List.all_eq_true.mp halphabet d (mem_alphabet_of_mem_toDigits hd)
  have htext : codePoint c ++ rest =
      '\\' :: 'u' :: '{' :: (Nat.toDigits 16 c.toNat ++ '}' :: rest) := by
    simp [codePoint]
  have htake : ('}' :: rest).takeWhile (· != '}') = [] := rfl
  have hdrop : ('}' :: rest).dropWhile (· != '}') = '}' :: rest := rfl
  rw [htext, readChar?, List.takeWhile_append_of_pos hdigits, htake,
    List.append_nil, List.dropWhile_append_of_pos hdigits, hdrop,
    hexNumber_toDigits, Char.ofNat_toNat]
  rfl

theorem readChar?_plain {c : Char} (hslash : c ≠ '\\') (rest : List Char) :
    readChar? (c :: rest) = some (c, rest) := by
  rw [readChar?]
  all_goals simp [hslash]

/-- The kinds of quotes. -/
def quotes : List Char := ['"', '\'']

section

variable {hidden : Char → Bool} {quote : Char}

/-- The characters that get a backslash and stay themselves. -/
theorem eq_mark (hquote : quote ∈ quotes) {c : Char}
    (hself : c = quote ∨ c = '\\') : c = '"' ∨ c = '\'' ∨ c = '\\' := by
  rcases hself with rfl | hslash
  · simp only [quotes, List.mem_cons, List.not_mem_nil, or_false] at hquote
    exact hquote.imp_right Or.inl
  · exact Or.inr (Or.inr hslash)

/-- Reading undoes the writing of one character, for what is hidden is seen from
the text itself. -/
theorem readChar?_escapeHiding (hquote : quote ∈ quotes) (c : Char)
    (rest : List Char) :
    readChar? (escapeHiding hidden quote c ++ rest) = some (c, rest) := by
  unfold escapeHiding
  split_ifs with hnul htab hreturn hline hself hhidden
  · subst hnul
    rfl
  · subst htab
    rfl
  · subst hreturn
    rfl
  · subst hline
    rfl
  · rcases eq_mark hquote hself with rfl | rfl | rfl <;> rfl
  · exact readChar?_codePoint c rest
  · rw [not_or] at hself
    exact readChar?_plain hself.2 rest

/-- What is written for one character is no beginning of what is written for
another one. -/
theorem escapeHiding_append_inj (hquote : quote ∈ quotes) {c d : Char}
    {rest rest' : List Char}
    (htext : escapeHiding hidden quote c ++ rest =
      escapeHiding hidden quote d ++ rest') :
    c = d ∧ rest = rest' := by
  have hread := congrArg readChar? htext
  rw [readChar?_escapeHiding hquote, readChar?_escapeHiding hquote] at hread
  exact Prod.mk.inj (Option.some.inj hread)

theorem flatMap_escapeHiding_eq_nil_iff (hquote : quote ∈ quotes)
    (chars : List Char) :
    chars.flatMap (escapeHiding hidden quote) = [] ↔ chars = [] := by
  cases chars with
  | nil => simp
  | cons c rest =>
      constructor
      · intro hnil
        have hread : readChar? ((c :: rest).flatMap
            (escapeHiding hidden quote)) = some (c, _) :=
          readChar?_escapeHiding hquote c _
        rw [hnil] at hread
        contradiction
      · intro hnil
        contradiction

/-- Texts that are written alike are read back alike, character by character. -/
theorem flatMap_escapeHiding_injective (hquote : quote ∈ quotes) :
    Function.Injective (List.flatMap (escapeHiding hidden quote)) := by
  intro chars
  induction chars with
  | nil =>
      intro chars' htext
      exact ((flatMap_escapeHiding_eq_nil_iff hquote chars').mp htext.symm).symm
  | cons c rest ih =>
      intro chars' htext
      cases chars' with
      | nil => exact (flatMap_escapeHiding_eq_nil_iff hquote _).mp htext
      | cons d rest' =>
          rw [List.flatMap_cons, List.flatMap_cons] at htext
          obtain ⟨rfl, hrest⟩ := escapeHiding_append_inj hquote htext
          rw [ih hrest]

/-- A quoted text tells which text it is. -/
theorem quotedHiding_injective : Function.Injective (quotedHiding hidden) := by
  intro text text' hquoted
  have hchars := List.append_cancel_right (String.ofList_injective hquoted)
  apply String.toList_inj.mp
  exact flatMap_escapeHiding_injective (by decide)
    (List.append_cancel_left hchars)

theorem quotedCharHiding_injective :
    Function.Injective (quotedCharHiding hidden) := by
  intro c d hquoted
  have hchars := String.ofList_injective hquoted
  rw [List.append_assoc, List.append_assoc] at hchars
  exact (escapeHiding_append_inj (by decide)
    (List.append_cancel_left hchars)).1

/-! Staying on one line -/

/-- The breaks that are no controls are the two separators, so a character that
is shown keeps the line. -/
theorem keepsLine_of_not_hidden (hcontrols : HidesControls hidden) {c : Char}
    (hc : hidden c = false) : keepsLine c = true := by
  have hshown : ¬ (isControl c = true ∨ c = '\u2028' ∨ c = '\u2029') := by
    intro hunsafe
    rw [hcontrols c hunsafe] at hc
    contradiction
  have hbreaks : lineBreaks.all (fun d =>
      isControl d || d == '\u2028' || d == '\u2029') = true := by decide
  rw [keepsLine, Bool.and_eq_true, Bool.not_eq_true', Bool.not_eq_true']
  constructor
  · exact Bool.eq_false_iff.mpr fun hcontrol => hshown (Or.inl hcontrol)
  · apply Bool.eq_false_iff.mpr
    intro hbreak
    have hunsafe :=
      List.all_eq_true.mp hbreaks c (List.contains_iff_mem.mp hbreak)
    simp only [Bool.or_eq_true, beq_iff_eq, or_assoc] at hunsafe
    exact hshown hunsafe

theorem all_keepsLine_codePoint (c : Char) :
    (codePoint c).all keepsLine = true := by
  have halphabet : Hex.alphabet.all keepsLine = true := by decide
  have hdigits : (Nat.toDigits 16 c.toNat).all keepsLine = true := by
    rw [List.all_eq_true] at halphabet ⊢
    exact fun d hd => halphabet d (mem_alphabet_of_mem_toDigits hd)
  rw [codePoint, List.all_append, List.all_append, hdigits]
  decide

theorem all_keepsLine_escapeHiding (hcontrols : HidesControls hidden)
    (hquote : quote ∈ quotes) (c : Char) :
    (escapeHiding hidden quote c).all keepsLine = true := by
  unfold escapeHiding
  split_ifs with hnul htab hreturn hline hself hhidden
  · decide
  · decide
  · decide
  · decide
  · rcases eq_mark hquote hself with rfl | rfl | rfl <;> decide
  · exact all_keepsLine_codePoint c
  · have hkeeps := keepsLine_of_not_hidden hcontrols
      (Bool.eq_false_iff.mpr hhidden)
    rw [List.all_cons, hkeeps]
    rfl

/-- A quoted text stays on its line, whatever text it is. -/
theorem isOneLine_quotedHiding (hcontrols : HidesControls hidden)
    (text : String) : IsOneLine (quotedHiding hidden text) := by
  have htext : (text.toList.flatMap (escapeHiding hidden '"')).all keepsLine =
      true := by
    rw [List.all_flatMap, List.all_eq_true]
    intro c _
    exact all_keepsLine_escapeHiding hcontrols (by decide) c
  rw [IsOneLine, quotedHiding, String.toList_ofList, List.all_append,
    List.all_append, htext]
  decide

theorem isOneLine_quotedCharHiding (hcontrols : HidesControls hidden)
    (c : Char) : IsOneLine (quotedCharHiding hidden c) := by
  rw [IsOneLine, quotedCharHiding, String.toList_ofList, List.all_append,
    List.all_append, all_keepsLine_escapeHiding hcontrols (by decide)]
  decide

end

theorem isOneLine_append {front back : String} (hfront : IsOneLine front)
    (hback : IsOneLine back) : IsOneLine (front ++ back) := by
  rw [IsOneLine, String.toList_append, List.all_append, hfront, hback]
  rfl

end ScriptStack.Text
