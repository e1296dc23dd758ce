import ScriptStack.Integer.Decimal
/-!
Decimal text.  Digits alone are read as the number that they spell
(`digitsFrom_of_digits`), so reading undoes writing (`parse_render`).
-/

namespace ScriptStack.Decimal

/-- The sign of a number as it is written. -/
def sign (n : Int) : List Char := if n < 0 then ['-'] else []

theorem toList_render (n : Int) :
    (render n).toList = sign n ++ Nat.toDigits 10 n.natAbs := by
  rw [render, Int.repr_eq_if, sign]
  by_cases hn : n < 0
  · have hmagnitude : (-n).toNat = n.natAbs := by omega
    rw [if_neg (by omega), if_pos hn, hmagnitude, String.toList_append,
      Nat.toList_repr]
    rfl
  · have hmagnitude : n.toNat = n.natAbs := by omega
    rw [if_pos (by omega), if_neg hn, hmagnitude, Nat.toList_repr]
    rfl

theorem isDigit_of_mem_toDigits {n : Nat} {c : Char}
    (hc : c ∈ Nat.toDigits 10 n) : c.isDigit = true :=
  Nat.isDigit_of_mem_toDigits (by decide) (by decide) hc

/-- Nothing but digits and the minus sign is written. -/
theorem not_mem_render {c : Char} (hdigit : c.isDigit = false)
    (hsign : c ≠ '-') (n : Int) : c ∉ (render n).toList := by
  rw [toList_render, List.mem_append]
  rintro (hc | hc)
  · unfold sign at hc
    split at hc
    · exact hsign (List.mem_singleton.mp hc)
    · contradiction
  · rw [isDigit_of_mem_toDigits hc] at hdigit
    contradiction

/-- No zero stands in front of a number that is written. -/
theorem head?_toDigits_ne_zero {n : Nat} (hn : 0 < n) :
    (Nat.toDigits 10 n).head? ≠ some '0' := by
  induction n using Nat.strongRecOn with
  | ind n ih =>
      by_cases hlast : n < 10
      · have hall : ∀ n < 10, 0 < n → n.digitChar ≠ '0' := by decide
        rw [Nat.toDigits_of_lt_base hlast, List.head?_cons]
        intro hhead
        exact hall n hlast hn (Option.some.inj hhead)
      · have hbefore := ih (n / 10) (by omega) (by omega)
        rw [Nat.toDigits_of_base_le (by decide) (by omega)]
        cases hdigits : Nat.toDigits 10 (n / 10) with
        | nil => exact absurd hdigits Nat.toDigits_ne_nil
        | cons c rest =>
            rw [hdigits] at hbefore
            exact hbefore

theorem digit?_of_isDigit {c : Char} (hc : c.isDigit = true) :
    digit? c = some (c.toNat - '0'.toNat) := by
  have hrange : '0' ≤ c ∧ c ≤ '9' := by
    rwa [Char.isDigit, Bool.and_eq_true, decide_eq_true_eq,
      decide_eq_true_eq] at hc
  rw [digit?, if_pos hrange]

theorem ne_of_isDigit {c d : Char} (hc : c.isDigit = true)
    (hd : d.isDigit = false) : c ≠ d := by
  rintro rfl
  rw [hc] at hd
  contradiction

/-- Digits are read as the number that they spell. -/
theorem digitsFrom_of_digits {chars : List Char}
    (hchars : ∀ c ∈ chars, c.isDigit = true) (acc : Nat) :
    digitsFrom acc chars = .ok (Nat.ofDigitChars 10 chars acc) := by
  induction chars generalizing acc with
  | nil => rw [digitsFrom, Nat.ofDigitChars_nil]
  | cons c rest ih =>
      rw [List.forall_mem_cons] at hchars
      rw [digitsFrom, if_neg (ne_of_isDigit hchars.1 (by decide)),
        digit?_of_isDigit hchars.1, Nat.ofDigitChars_cons]
      exact ih hchars.2 _

theorem magnitude_toDigits (n : Nat) :
    magnitude (Nat.toDigits 10 n) = .ok n := by
  have hread := digitsFrom_of_digits
    (fun _ => isDigit_of_mem_toDigits (n := n)) 0
  rw [Nat.ofDigitChars_ten_toDigits] at hread
  cases hdigits : Nat.toDigits 10 n with
  | nil => exact absurd hdigits Nat.toDigits_ne_nil
  | cons c rest =>
      have hc : c.isDigit = true := by
        apply isDigit_of_mem_toDigits (n := n)
        rw [hdigits]
        exact List.mem_cons_self
      rw [magnitude, if_neg (ne_of_isDigit hc (by decide)), ← hdigits, hread]

theorem parse_of_minus {text : String} {rest : List Char} {n : Nat}
    (htext : text.toList = '-' :: rest) (hrest : magnitude rest = .ok n) :
    parse text = .ok (-n) := by
  rw [parse, htext]
  simp only [hrest]
  rfl

theorem parse_of_digits {text : String} {n : Nat}
    (htext : ∀ c ∈ text.toList, c.isDigit = true)
    (hread : magnitude text.toList = .ok n) : parse text = .ok n := by
  unfold parse
  split
  · next rest hminus =>
      have hdigit := htext '-' (by simp [hminus])
      contradiction
  · next rest hplus =>
      have hdigit := htext '+' (by simp [hplus])
      contradiction
  · rw [hread]
    rfl

/-- Reading undoes writing. -/
theorem parse_render (n : Int) : parse (render n) = .ok n := by
  have htext := toList_render n
  have hmagnitude := magnitude_toDigits n.natAbs
  by_cases hn : n < 0
  · rw [sign, if_pos hn] at htext
    rw [parse_of_minus htext hmagnitude,
      Int.ofNat_natAbs_of_nonpos (Int.le_of_lt hn), Int.neg_neg]
  · rw [sign, if_neg hn, List.nil_append] at htext
    rw [← htext] at hmagnitude
    have hdigits : ∀ c ∈ (render n).toList, c.isDigit = true := by
      rw [htext]
      exact fun _ => isDigit_of_mem_toDigits
    rw [parse_of_digits hdigits hmagnitude,
      Int.natAbs_of_nonneg (Int.not_lt.mp hn)]

theorem render_injective : Function.Injective render := by
  intro m n hrender
  have hparse := parse_render m
  rw [hrender, parse_render] at hparse
  exact (Except.ok.inj hparse).symm

end ScriptStack.Decimal
