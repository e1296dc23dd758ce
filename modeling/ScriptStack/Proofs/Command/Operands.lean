import Mathlib.Data.List.TakeWhile
import ScriptStack.Command.Invocation
import ScriptStack.Proofs.Integer.Decimal
/-!
Operands among the words of a command line.  Behind `--` every word is one
(`readOperands_dashes`); elsewhere a word is one unless it reads as an option,
which a word without a hyphen in front never does (`IsOperand.of_head`), and
the text of a number not where numbers are taken (`IsOperand.render`).
-/

namespace ScriptStack.Command

/-- The name of a subcommand ends the options. -/
theorem readWords_name (options : Options) (subcommand : Subcommand)
    (rest : List String) :
    readWords options false (subcommand.name :: rest) =
      (readOperands subcommand [] rest >>= options.call) := by
  have hname : Subcommand.ofName? subcommand.name = some subcommand := by
    cases subcommand <;> decide +kernel
  have hhelp : subcommand.name ≠ "help" := by
    cases subcommand <;> decide
  rw [readWords, Bool.false_and, if_neg Bool.false_ne_true, if_neg hhelp]
  simp only [hname]

theorem ofWords_name (subcommand : Subcommand) (rest : List String) :
    Invocation.ofWords (subcommand.name :: rest) =
      (readOperands subcommand [] rest).map fun request =>
        ⟨request, 0, none⟩ := by
  rw [Invocation.ofWords, readWords_name]
  cases readOperands subcommand [] rest <;> rfl

private theorem ok_bind {α β : Type} (a : α) (f : α → Except Usage β) :
    (Except.ok a >>= f) = f a := rfl

theorem foldlM_addOperand {subcommand : Subcommand} (taken words : List String)
    (hroom : taken.length + words.length ≤ subcommand.operandNames.length) :
    words.foldlM (addOperand subcommand) taken = .ok (taken ++ words) := by
  induction words generalizing taken with
  | nil => simp [pure, Except.pure]
  | cons word rest ih =>
      rw [List.length_cons] at hroom
      have hstep : addOperand subcommand taken word = .ok (taken ++ [word]) :=
        if_pos (by omega)
      have hrest := ih (taken ++ [word]) (by simp; omega)
      rw [List.foldlM_cons, hstep, ok_bind, hrest, List.append_assoc]
      rfl

/-- Behind two dashes all words are operands. -/
theorem readOperands_dashes {subcommand : Subcommand} {words : List String}
    (hroom : words.length ≤ subcommand.operandNames.length) :
    readOperands subcommand [] ("--" :: words) = finish subcommand words := by
  rw [readOperands, if_pos rfl,
    foldlM_addOperand [] words (by simpa using hroom)]
  rfl

/-- A word that is taken for an operand where it stands. -/
structure IsOperand (subcommand : Subcommand) (word : String) : Prop where
  ne_dashes : word ≠ "--"
  not_long : isLong word = false
  cluster : isCluster word = true →
    subcommand.takesNumbers = true ∧ isNumberWord word = true

theorem readOperands_of_isOperand {subcommand : Subcommand}
    (taken : List String) {words : List String}
    (hwords : ∀ word ∈ words, IsOperand subcommand word)
    (hroom : taken.length + words.length ≤ subcommand.operandNames.length) :
    readOperands subcommand taken words =
      finish subcommand (taken ++ words) := by
  induction words generalizing taken with
  | nil => simp [readOperands]
  | cons word rest ih =>
      rw [List.forall_mem_cons] at hwords
      rw [List.length_cons] at hroom
      have hstep : addOperand subcommand taken word = .ok (taken ++ [word]) :=
        if_pos (by omega)
      have hrest := ih (taken ++ [word]) hwords.2 (by simp; omega)
      have hcluster : (isCluster word &&
          !(subcommand.takesNumbers && isNumberWord word)) = false := by
        cases hword : isCluster word with
        | false => rfl
        | true => simp [hwords.1.cluster hword]
      rw [readOperands, if_neg hwords.1.ne_dashes, hwords.1.not_long,
        hcluster, hstep, ok_bind, hrest, List.append_assoc]
      rfl

/-- A word with no hyphen in front is an operand. -/
theorem IsOperand.of_head {subcommand : Subcommand} {word : String}
    (hhead : word.toList.head? ≠ some '-') : IsOperand subcommand word := by
  have hlong : isLong word = false := by
    unfold isLong
    split
    · next hword => simp [hword] at hhead
    · rfl
  have hcluster : isCluster word = false := by
    unfold isCluster
    split
    · next hword => simp [hword] at hhead
    · rfl
  refine ⟨?_, hlong, ?_⟩
  · rintro rfl
    exact hhead (by decide)
  · rw [hcluster]
    intro hfalse
    contradiction

theorem isDecimal_of_digits {chars : List Char} (hne : chars ≠ [])
    (hchars : ∀ c ∈ chars, c.isDigit = true) : isDecimal chars = true := by
  have htake : chars.takeWhile Char.isDigit = chars :=
    List.takeWhile_eq_self_iff.mpr hchars
  have hdrop : chars.dropWhile Char.isDigit = [] :=
    List.dropWhile_eq_nil_iff.mpr hchars
  simp [isDecimal, htake, hdrop, isExponent, hne]

theorem isNumberWord_of_minus {word : String} {chars : List Char}
    (hword : word.toList = '-' :: chars) (hne : chars ≠ [])
    (hchars : ∀ c ∈ chars, c.isDigit = true) : isNumberWord word = true := by
  rw [isNumberWord, hword]
  simp [dropSign, isDecimal_of_digits hne hchars]

/-- The text of a number is an operand where numbers are taken, also with a
minus sign. -/
theorem IsOperand.render {subcommand : Subcommand}
    (htakes : subcommand.takesNumbers = true) (n : Int) :
    IsOperand subcommand (Decimal.render n) := by
  have htext := Decimal.toList_render n
  have hne : Nat.toDigits 10 n.natAbs ≠ [] := Nat.toDigits_ne_nil
  have hdigits : ∀ c ∈ Nat.toDigits 10 n.natAbs, c.isDigit = true :=
    fun _ => Decimal.isDigit_of_mem_toDigits
  by_cases hn : n < 0
  · rw [Decimal.sign, if_pos hn, List.singleton_append] at htext
    have hsecond : '-' ∉ Nat.toDigits 10 n.natAbs := fun hmem =>
      absurd (hdigits '-' hmem) (by decide)
    refine ⟨?_, ?_, fun _ =>
      ⟨htakes, isNumberWord_of_minus htext hne hdigits⟩⟩
    · intro hword
      have hdashes : "--".toList = ['-', '-'] := by decide
      rw [hword, hdashes] at htext
      exact hsecond (by simp [← (List.cons.inj htext).2])
    · unfold isLong
      split
      · next hword =>
          rw [htext] at hword
          exact absurd (by simp [(List.cons.inj hword).2]) hsecond
      · rfl
  · rw [Decimal.sign, if_neg hn, List.nil_append] at htext
    apply IsOperand.of_head
    rw [htext]
    intro hhead
    exact absurd (hdigits '-' (List.mem_of_mem_head? hhead)) (by decide)

end ScriptStack.Command
