import ScriptStack.Proofs.Integer.Decimal
import ScriptStack.Proofs.Json.Grammar
/-!
Numbers of JSON.  A number is read as the literal that its text spells where no
number goes on behind it (`read_of_spells`).  The text of an integer spells one
(`spellsNumber_written`), and it stands for the integer if a 64-bit word holds
it (`integer?_eq_some_iff`).
-/

namespace ScriptStack.Json.NumberLiteral

/-- Whether a run of digits ends before these characters. -/
def EndsDigits (rest : List Char) : Prop :=
  ∀ c, rest.head? = some c → c.isDigit = false

/-- Whether a number ends before these characters. -/
def EndsNumber (rest : List Char) : Prop :=
  ∀ c, rest.head? = some c →
    c.isDigit = false ∧ c ≠ '.' ∧ c ≠ 'e' ∧ c ≠ 'E'

/-- The literal in which an integer is written. -/
def written (n : Int) : NumberLiteral :=
  ⟨decide (n < 0), Nat.toDigits 10 n.natAbs, none, none⟩

theorem EndsNumber.cons {c : Char}
    (hc : c.isDigit = false ∧ c ≠ '.' ∧ c ≠ 'e' ∧ c ≠ 'E')
    (rest : List Char) : EndsNumber (c :: rest) := by
  intro d hd
  rwa [← Option.some.inj hd]

theorem EndsNumber.endsDigits {rest : List Char} (hrest : EndsNumber rest) :
    EndsDigits rest :=
  fun c hc => (hrest c hc).1

theorem EndsDigits.cons {c : Char} (hc : c.isDigit = false)
    (rest : List Char) : EndsDigits (c :: rest) := by
  intro d hd
  rwa [← Option.some.inj hd]

theorem EndsDigits.dropWhile_isDigit {rest : List Char}
    (hrest : EndsDigits rest) : rest.dropWhile Char.isDigit = rest := by
  cases rest with
  | nil => rfl
  | cons c rest =>
      exact List.dropWhile_cons_of_neg (by rw [hrest c rfl]; nofun)

theorem EndsDigits.takeWhile_isDigit {rest : List Char}
    (hrest : EndsDigits rest) : rest.takeWhile Char.isDigit = [] := by
  cases rest with
  | nil => rfl
  | cons c rest =>
      exact List.takeWhile_cons_of_neg (by rw [hrest c rfl]; nofun)

/-- Digits are read up to what ends them. -/
theorem readDigits_append (atEnd : Error) {digits rest : List Char}
    (hne : digits ≠ []) (hdigits : ∀ c ∈ digits, c.isDigit = true)
    (hrest : EndsDigits rest) :
    readDigits atEnd (digits ++ rest) = .ok (digits, rest) := by
  have htake : (digits ++ rest).takeWhile Char.isDigit = digits := by
    rw [List.takeWhile_append_of_pos hdigits, hrest.takeWhile_isDigit,
      List.append_nil]
  have hdrop : (digits ++ rest).dropWhile Char.isDigit = rest := by
    rw [List.dropWhile_append_of_pos hdigits, hrest.dropWhile_isDigit]
  cases digits with
  | nil => contradiction
  | cons c digits =>
      rw [List.forall_mem_cons] at hdigits
      unfold readDigits
      rw [List.cons_append] at htake hdrop ⊢
      dsimp only
      rw [if_pos hdigits.1, htake, hdrop]

theorem readExponent_of_ends (atEnd : Error) {rest : List Char}
    (hrest : EndsNumber rest) : readExponent atEnd rest = .ok (none, rest) := by
  cases rest with
  | nil => rfl
  | cons c rest =>
      obtain ⟨-, -, hsmall, hcapital⟩ := hrest c rfl
      exact if_neg (not_or.mpr ⟨hsmall, hcapital⟩)

/-- A fraction is read back, and no fraction where no point follows. -/
theorem readFraction_of_spells (atEnd : Error) {fraction : Option (List Char)}
    {chars rest : List Char} (hfraction : SpellsFraction fraction chars)
    (hdigits : EndsDigits rest) (hpoint : rest.head? ≠ some '.') :
    readFraction atEnd (chars ++ rest) = .ok (fraction, rest) := by
  cases hfraction with
  | none =>
      rw [List.nil_append]
      unfold readFraction
      split
      · exact absurd rfl hpoint
      · rfl
  | some hplaces =>
      rw [List.cons_append, readFraction,
        readDigits_append atEnd hplaces.1 hplaces.2 hdigits]
      rfl

/-- The sign of an exponent, or none, is told from its digits. -/
theorem readExponentSign_of_mem {negative : Bool} {sign : List Char}
    (hsign : (negative, sign) ∈ exponentSigns) {digits : List Char}
    (hdigits : Digits digits) (rest : List Char) :
    readExponentSign (sign ++ (digits ++ rest)) =
      (negative, digits ++ rest) := by
  obtain ⟨hne, hall⟩ := hdigits
  simp only [exponentSigns, List.mem_cons, Prod.mk.injEq, List.not_mem_nil,
    or_false] at hsign
  rcases hsign with ⟨rfl, rfl⟩ | ⟨rfl, rfl⟩ | ⟨rfl, rfl⟩
  · rfl
  · rfl
  · cases digits with
    | nil => contradiction
    | cons c digits =>
        have hc : c.isDigit = true := hall c List.mem_cons_self
        rw [List.nil_append, List.cons_append, readExponentSign]
        · rintro _ hminus
          rw [(List.cons.inj hminus).1] at hc
          contradiction
        · rintro _ hplus
          rw [(List.cons.inj hplus).1] at hc
          contradiction

/-- An exponent is read back in any of its spellings. -/
theorem readExponent_of_spells (atEnd : Error)
    {exponent : Option (Bool × List Char)} {chars rest : List Char}
    (hexponent : SpellsExponent exponent chars) (hrest : EndsNumber rest) :
    readExponent atEnd (chars ++ rest) = .ok (exponent, rest) := by
  cases hexponent with
  | none => exact readExponent_of_ends atEnd hrest
  | some hletter hsign hdigits =>
      rw [List.cons_append, List.append_assoc, readExponent]
      dsimp only
      rw [if_pos hletter, readExponentSign_of_mem hsign hdigits]
      dsimp only
      rw [readDigits_append atEnd hdigits.1 hdigits.2 hrest.endsDigits]
      rfl

theorem readWhole_of_digits (atEnd : Error) {whole rest : List Char}
    (hwhole : WholeDigits whole) (hrest : EndsDigits rest) :
    readWhole atEnd (whole ++ rest) = .ok (whole, rest) := by
  obtain ⟨⟨hne, hall⟩, hzero⟩ := hwhole
  rw [readWhole, readDigits_append atEnd hne hall hrest]
  apply if_neg
  rintro ⟨hhead, hlength⟩
  rw [hzero hhead] at hlength
  contradiction

theorem ends_of_spellsExponent {exponent : Option (Bool × List Char)}
    {chars rest : List Char} (hexponent : SpellsExponent exponent chars)
    (hrest : EndsNumber rest) :
    EndsDigits (chars ++ rest) ∧ (chars ++ rest).head? ≠ some '.' := by
  cases hexponent with
  | none => exact ⟨hrest.endsDigits, fun hpoint => (hrest '.' hpoint).2.1 rfl⟩
  | some hletter =>
      rcases hletter with rfl | rfl
      · exact ⟨.cons (by decide) _, by simp⟩
      · exact ⟨.cons (by decide) _, by simp⟩

theorem endsDigits_of_spellsFraction {fraction : Option (List Char)}
    {chars rest : List Char} (hfraction : SpellsFraction fraction chars)
    (hrest : EndsDigits rest) : EndsDigits (chars ++ rest) := by
  cases hfraction with
  | none => exact hrest
  | some => exact .cons (by decide) _

/-- The parts of a number are read back one after the other; each ends where the
next begins. -/
theorem readUnsigned_of_spells (atEnd : Error) (negative : Bool)
    {whole fractionChars exponentChars rest : List Char}
    {fraction : Option (List Char)} {exponent : Option (Bool × List Char)}
    (hwhole : WholeDigits whole)
    (hfraction : SpellsFraction fraction fractionChars)
    (hexponent : SpellsExponent exponent exponentChars)
    (hrest : EndsNumber rest) :
    readUnsigned atEnd negative
        (whole ++ (fractionChars ++ (exponentChars ++ rest))) =
      .ok (⟨negative, whole, fraction, exponent⟩, rest) := by
  obtain ⟨hends, hpoint⟩ := ends_of_spellsExponent hexponent hrest
  have hfractionEnds := endsDigits_of_spellsFraction hfraction hends
  simp only [readUnsigned, readWhole_of_digits atEnd hwhole hfractionEnds,
    readFraction_of_spells atEnd hfraction hends hpoint,
    readExponent_of_spells atEnd hexponent hrest, bind, Except.bind, pure,
    Except.pure]

/-- A number is read back in any of its spellings, as far as it goes. -/
theorem read_of_spells (atEnd : Error) {literal : NumberLiteral}
    {chars rest : List Char} (hnumber : SpellsNumber literal chars)
    (hrest : EndsNumber rest) :
    read atEnd (chars ++ rest) = .ok (literal, rest) := by
  obtain @⟨negative, whole, _, _, _, _, hwhole, hfraction, hexponent⟩ := hnumber
  have hread := readUnsigned_of_spells atEnd negative hwhole hfraction
    hexponent hrest
  simp only [List.append_assoc]
  cases negative with
  | true => exact hread
  | false =>
      cases whole with
      | nil => exact absurd rfl hwhole.1.1
      | cons c whole =>
          have hc : c.isDigit = true := hwhole.1.2 c List.mem_cons_self
          simp only [Bool.false_eq_true, if_false, List.nil_append,
            List.cons_append] at hread ⊢
          rw [read]
          · exact hread
          · rintro _ hminus
            rw [(List.cons.inj hminus).1] at hc
            contradiction

/-- A number begins with its sign or its first digit. -/
theorem spellsNumber_eq_cons {literal : NumberLiteral} {chars : List Char}
    (hnumber : SpellsNumber literal chars) :
    ∃ c tail, chars = c :: tail ∧ (c = '-' ∨ c.isDigit = true) := by
  obtain @⟨negative, whole, _, _, _, _, hwhole, -, -⟩ := hnumber
  cases negative with
  | true => exact ⟨'-', _, rfl, Or.inl rfl⟩
  | false =>
      cases whole with
      | nil => exact absurd rfl hwhole.1.1
      | cons c whole =>
          exact ⟨c, _, rfl, Or.inr (hwhole.1.2 c List.mem_cons_self)⟩

theorem isSpace_of_number {c : Char} (hc : c = '-' ∨ c.isDigit = true) :
    isSpace c = false := by
  rcases hc with rfl | hdigit
  · decide
  · have hne (d : Char) (hd : d.isDigit = false) : (c == d) = false :=
      beq_eq_false_iff_ne.mpr (Decimal.ne_of_isDigit hdigit hd)
    rw [isSpace, hne ' ' (by decide), hne '\n' (by decide),
      hne '\t' (by decide), hne '\r' (by decide)]
    rfl

/-- Leading zeros are not written. -/
theorem wholeDigits_toDigits (n : Nat) : WholeDigits (Nat.toDigits 10 n) := by
  refine ⟨⟨Nat.toDigits_ne_nil, fun _ => Decimal.isDigit_of_mem_toDigits⟩, ?_⟩
  intro hhead
  by_cases hn : 0 < n
  · exact absurd hhead (Decimal.head?_toDigits_ne_zero hn)
  · rw [Nat.eq_zero_of_not_pos hn]
    rfl

/-- The decimal text of a number is one of its spellings. -/
theorem spellsNumber_written (n : Int) :
    SpellsNumber (written n) (Decimal.render n).toList := by
  have hspells : SpellsNumber (written n) _ :=
    .mk (wholeDigits_toDigits n.natAbs) .none .none
  rw [Decimal.toList_render, Decimal.sign]
  simpa only [decide_eq_true_eq, List.append_nil] using hspells

/-- Whether an integer is written in a literal.  Minus zero is none. -/
structure Writes (literal : NumberLiteral) (n : Int) : Prop where
  fraction_eq : literal.fraction = none
  exponent_eq : literal.exponent = none
  not_minus_zero : literal.negative = true → literal.wholeValue ≠ 0
  eq_value : n =
    if literal.negative then -(literal.wholeValue : Int)
    else literal.wholeValue

theorem isWhole_iff (literal : NumberLiteral) :
    literal.isWhole = true ↔
      literal.fraction = none ∧ literal.exponent = none := by
  simp [isWhole]

/-- An integer is read as itself if a 64-bit word holds it. -/
theorem integer?_eq_some_iff (literal : NumberLiteral) (n : Int) :
    literal.integer? = some n ↔
      literal.Writes n ∧ Int64.minValue.toInt ≤ n ∧ n < UInt64.size := by
  have hlow : Int64.minValue.toInt < 0 := by decide
  have hsize : 0 < UInt64.size := by decide
  rw [integer?]
  constructor
  · intro h
    dsimp only at h
    split at h
    next => contradiction
    next hwhole =>
    simp only [Bool.not_eq_true', Bool.not_eq_false] at hwhole
    obtain ⟨hfraction, hexponent⟩ := literal.isWhole_iff.mp hwhole
    split at h
    next hnegative =>
      split at h
      next hn =>
        obtain rfl := Option.some.inj h
        exact ⟨⟨hfraction, hexponent, fun _ => by omega,
          (if_pos hnegative).symm⟩, hn.2, by omega⟩
      next => contradiction
    next hnegative =>
      split at h
      next hn =>
        obtain rfl := Option.some.inj h
        exact ⟨⟨hfraction, hexponent, fun h => absurd h hnegative,
          (if_neg hnegative).symm⟩, by omega, by omega⟩
      next => contradiction
  · rintro ⟨⟨hfraction, hexponent, hzero, rfl⟩, hmin, hmax⟩
    have hwhole := literal.isWhole_iff.mpr ⟨hfraction, hexponent⟩
    rw [hwhole, Bool.not_true, if_neg Bool.false_ne_true]
    dsimp only
    by_cases hnegative : literal.negative = true
    · have hpos := Nat.pos_of_ne_zero (hzero hnegative)
      simp only [if_pos hnegative] at hmin ⊢
      rw [if_pos ⟨hpos, hmin⟩]
    · simp only [if_neg hnegative] at hmax ⊢
      rw [if_pos (by omega)]

theorem writes_written (n : Int) : (written n).Writes n := by
  have hvalue : (written n).wholeValue = n.natAbs :=
    Nat.ofDigitChars_ten_toDigits
  refine ⟨rfl, rfl, fun hnegative => ?_, ?_⟩
  · have hn : n < 0 := of_decide_eq_true hnegative
    rw [hvalue]
    omega
  · rw [hvalue]
    simp only [written, decide_eq_true_eq]
    split
    all_goals omega

theorem found_written {n : Int} (hlow : Int64.minValue.toInt ≤ n)
    (hhigh : n ≤ Int64.maxValue.toInt) :
    (written n).found = .ok (.integer n) := by
  have hmax : Int64.maxValue.toInt < UInt64.size := by decide
  have hinteger : (written n).integer? = some n :=
    (integer?_eq_some_iff _ n).mpr ⟨writes_written n, hlow, by omega⟩
  rw [found, hinteger]

end ScriptStack.Json.NumberLiteral
