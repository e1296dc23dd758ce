import Mathlib.Data.List.DropRight
import Mathlib.Data.Nat.Bitwise
import ScriptStack.Hex
/-!
Reading hexadecimal text.  The shift register keeps one live digit, the last
one that was read, and only between the two digits of a byte; gaps move it up
and down again and lose nothing of it (`toNat_gap`).  So one pass over the text
comes to leaving out the gaps, looking for the first bad character, and taking
the digits in pairs (`scan_eq_readDigits`).
-/

namespace ScriptStack.Hex

/-- The digits in the order of their values. -/
def alphabet : List Char :=
  ['0', '1', '2', '3', '4', '5', '6', '7', '8', '9', 'a', 'b', 'c', 'd', 'e',
    'f']

/-- The characters that may stand anywhere among the digits. -/
def gaps : List Char := [' ', '\t', '\r', '\n']

def isDigit (c : Char) : Bool := decide (c.toLower ∈ alphabet)

def digitValue (c : Char) : Nat := alphabet.idxOf c.toLower

/-- A text without the blanks at its ends and the mark in front. -/
def body (text : String) : List Char :=
  let core := (text.toList.dropWhile Text.isBlank).rdropWhile Text.isBlank
  if ['0', 'x'] <+: core ∨ ['0', 'X'] <+: core then core.drop 2 else core

/-- The characters that are not gaps. -/
def withoutGaps (chars : List Char) : List Char := chars.filter (· ∉ gaps)

/-- The values of two digits each; a digit that is left over has none. -/
def pairs : List Nat → List Nat
  | high :: low :: rest => (16 * high + low) :: pairs rest
  | _ => []

/-- Reads digits behind the values that are pending: a bad character comes
before everything else, and an odd digit before the bytes. -/
def readDigits (pending : List Nat) (digits : List Char) :
    Except Error (List UInt8) :=
  match digits.find? (!isDigit ·) with
  | some c => .error (.invalidChar c)
  | none =>
      let values := pending ++ digits.map digitValue
      if values.length % 2 = 1 then .error .oddLength
      else .ok ((pairs values).map Nat.toUInt8)

theorem isGap_eq (c : Char) : isGap c = decide (c ∈ gaps) := by
  rw [Bool.eq_iff_iff]
  simp [isGap, gaps, or_assoc]

theorem dropMark_trim (text : String) :
    dropMark (Text.trim text.toList) = body text := by
  have htrim : Text.trim text.toList =
    (text.toList.dropWhile Text.isBlank).rdropWhile Text.isBlank := rfl
  simp only [body, ← htrim]
  generalize Text.trim text.toList = core
  unfold dropMark
  split
  · simp
  · simp
  · next hsmall hcapital =>
      rw [if_neg]
      rintro (⟨rest, rfl⟩ | ⟨rest, rfl⟩)
      · exact hsmall rest rfl
      · exact hcapital rest rfl

private theorem digit?_ofNat : ∀ n < 128, digit? (Char.ofNat n) =
    if isDigit (Char.ofNat n) then
      some (digitValue (Char.ofNat n)).toUInt8
    else none := by
  decide

private theorem toNat_le_of_le {c d : Char} (hle : c ≤ d) :
    c.toNat ≤ d.toNat :=
  UInt32.le_iff_toNat_le.mp (Char.le_def.mp hle)

/-- The digits of either case are the characters with a place in the
alphabet, and their values are these places. -/
theorem digit?_eq (c : Char) :
    digit? c = if isDigit c then some (digitValue c).toUInt8 else none := by
  by_cases hascii : c.toNat < 128
  · simpa using digit?_ofNat c.toNat hascii
  · have hdigit : digit? c = none := by
      unfold digit?
      split_ifs with hten hsmall hcapital
      · exact absurd (toNat_le_of_le hten.2) (by simp; omega)
      · exact absurd (toNat_le_of_le hsmall.2) (by simp; omega)
      · exact absurd (toNat_le_of_le hcapital.2) (by simp; omega)
      · rfl
    have hlower : c.toLower = c := by
      apply dif_neg
      rintro ⟨-, hle⟩
      exact absurd (toNat_le_of_le hle) (by simp; omega)
    have hplace : isDigit c = false := by
      rw [isDigit, hlower, decide_eq_false_iff_not]
      intro hmem
      have hsmall : (alphabet.all fun d => d.toNat < 128) = true := by decide
      exact hascii (of_decide_eq_true (List.all_eq_true.mp hsmall c hmem))
    rw [hdigit, hplace, if_neg (by decide)]

theorem digitValue_lt {c : Char} (hdigit : isDigit c = true) :
    digitValue c < 16 := by
  rw [isDigit, decide_eq_true_eq] at hdigit
  exact List.idxOf_lt_length_of_mem hdigit

theorem map_digitValue_lt {digits : List Char}
    (hdigits : ∀ c ∈ digits, isDigit c = true) :
    ∀ v ∈ digits.map digitValue, v < 16 := by
  intro v hv
  obtain ⟨c, hc, rfl⟩ := List.mem_map.mp hv
  exact digitValue_lt (hdigits c hc)

theorem not_mem_gaps_of_isDigit {c : Char} (hdigit : isDigit c = true) :
    c ∉ gaps := by
  have hgaps : gaps.any isDigit = false := by decide
  intro hgap
  exact absurd hdigit (List.any_eq_false.mp hgaps c hgap)

/-- A gap takes from the register what is above its lower digit. -/
theorem toNat_gap (register : UInt8) :
    ((register <<< 4) >>> 4).toNat = register.toNat % 16 := by
  have hregister := register.toNat_lt
  rw [UInt8.toNat_shiftRight, UInt8.toNat_shiftLeft, Nat.shiftLeft_eq,
    Nat.shiftRight_eq_div_pow]
  change register.toNat * 16 % 256 / 16 = register.toNat % 16
  omega

/-- The register after one more digit. -/
def fill (register : UInt8) (d : Nat) : UInt8 :=
  register <<< 4 ||| d.toUInt8

theorem toNat_fill (register : UInt8) {d : Nat} (hd : d < 16) :
    (fill register d).toNat = 16 * (register.toNat % 16) + d := by
  have hshift : (register <<< 4).toNat = 2 ^ 4 * (register.toNat % 16) := by
    rw [UInt8.toNat_shiftLeft, Nat.shiftLeft_eq]
    change register.toNat * 16 % 256 = 16 * (register.toNat % 16)
    omega
  have hdigit : d.toUInt8.toNat = d :=
    Nat.mod_eq_of_lt (Nat.lt_trans hd (by decide))
  rw [fill, UInt8.toNat_or, hshift, hdigit,
    ← Nat.two_pow_add_eq_or_of_lt (i := 4) hd]

theorem fill_eq (register : UInt8) {d : Nat} (hd : d < 16) :
    fill register d = (16 * (register.toNat % 16) + d).toUInt8 := by
  rw [← toNat_fill register hd, Nat.toUInt8_eq, UInt8.ofNat_toNat]

/-- A gap moves the register there and back. -/
theorem scan_of_gap (register : UInt8) (half : Bool) {c : Char}
    (hgap : c ∈ gaps) (rest : List Char) :
    scan register half (c :: rest) =
      scan ((register <<< 4) >>> 4) half rest := by
  rw [scan, isGap_eq, decide_eq_true hgap, if_pos rfl]

theorem scan_of_bad (register : UInt8) (half : Bool) {c : Char}
    (hgap : c ∉ gaps) (hbad : isDigit c = false) (rest : List Char) :
    scan register half (c :: rest) = .error (.invalidChar c) := by
  rw [scan, isGap_eq, decide_eq_false hgap, if_neg (by decide), digit?_eq,
    hbad]
  rfl

theorem scan_of_digit (register : UInt8) (half : Bool) {c : Char}
    (hdigit : isDigit c = true) (rest : List Char) :
    scan register half (c :: rest) =
      if half then
        (scan (fill register (digitValue c)) false rest).map
          (fill register (digitValue c) :: ·)
      else scan (fill register (digitValue c)) true rest := by
  rw [scan, isGap_eq, decide_eq_false (not_mem_gaps_of_isDigit hdigit),
    if_neg (by decide), digit?_eq, hdigit]
  rfl

/-- The value of the digit that waits for its second one. -/
def pending (register : UInt8) (half : Bool) : List Nat :=
  if half then [register.toNat % 16] else []

/-- A gap leaves the digit that is pending, if there is one. -/
theorem pending_gap (register : UInt8) (half : Bool) :
    pending ((register <<< 4) >>> 4) half = pending register half := by
  rw [pending, toNat_gap, Nat.mod_mod, pending]

theorem pending_fill (register : UInt8) {d : Nat} (hd : d < 16) :
    pending (fill register d) true = [d] := by
  rw [pending, if_pos rfl, toNat_fill register hd, Nat.mul_add_mod,
    Nat.mod_eq_of_lt hd]

theorem readDigits_bad (before : List Nat) {c : Char}
    (hbad : isDigit c = false) (rest : List Char) :
    readDigits before (c :: rest) = .error (.invalidChar c) := by
  simp [readDigits, hbad]

theorem readDigits_digit (before : List Nat) {c : Char}
    (hdigit : isDigit c = true) (rest : List Char) :
    readDigits before (c :: rest) =
      readDigits (before ++ [digitValue c]) rest := by
  simp [readDigits, hdigit]

/-- Two digits are a byte, and the rest is read as if it stood alone. -/
theorem readDigits_pair (high low : Nat) (digits : List Char) :
    readDigits [high, low] digits =
      (readDigits [] digits).map ((16 * high + low).toUInt8 :: ·) := by
  unfold readDigits
  split
  · rfl
  · simp only [List.cons_append, List.nil_append, List.length_cons, pairs]
    split <;> split <;> first | rfl | omega

/-- One pass with the register reads the digits that are not gaps, after the
one that is pending. -/
theorem scan_eq_readDigits (register : UInt8) (half : Bool)
    (chars : List Char) :
    scan register half chars =
      readDigits (pending register half) (withoutGaps chars) := by
  induction chars generalizing register half with
  | nil => cases half <;> rfl
  | cons c rest ih =>
      by_cases hgap : c ∈ gaps
      · have hkept : withoutGaps (c :: rest) = withoutGaps rest := by
          simp [withoutGaps, hgap]
        rw [scan_of_gap register half hgap, ih, pending_gap, hkept]
      · have hkept : withoutGaps (c :: rest) = c :: withoutGaps rest := by
          simp [withoutGaps, hgap]
        rw [hkept]
        cases hdigit : isDigit c with
        | false =>
            rw [scan_of_bad register half hgap hdigit,
              readDigits_bad _ hdigit]
        | true =>
            have hvalue := digitValue_lt hdigit
            rw [scan_of_digit register half hdigit,
              readDigits_digit _ hdigit]
            cases half with
            | false =>
                rw [if_neg (by decide), ih, pending_fill register hvalue]
                rfl
            | true =>
                -- the live digit of the register is the high one of the byte
                rw [if_pos rfl, ih, fill_eq register hvalue]
                exact (readDigits_pair _ _ _).symm

/-- The characters of a text that are read as digits. -/
def significant (text : String) : List Char := withoutGaps (body text)

/-- A text is read by its digits alone, once what is passed over is gone. -/
theorem parse_eq_readDigits (text : String) :
    parse text = readDigits [] (significant text) := by
  rw [parse, scan_eq_readDigits, dropMark_trim]
  rfl

theorem readDigits_of_bad {digits : List Char} {c : Char}
    (hbad : digits.find? (!isDigit ·) = some c) :
    readDigits [] digits = .error (.invalidChar c) := by
  rw [readDigits, hbad]

theorem readDigits_of_good {digits : List Char}
    (hgood : digits.find? (!isDigit ·) = none) :
    readDigits [] digits =
      if digits.length % 2 = 1 then .error .oddLength
      else .ok ((pairs (digits.map digitValue)).map Nat.toUInt8) := by
  simp [readDigits, hgood]

theorem readDigits_eq_invalidChar_iff (digits : List Char) (c : Char) :
    readDigits [] digits = .error (.invalidChar c) ↔
      digits.find? (!isDigit ·) = some c := by
  cases hfound : digits.find? (!isDigit ·) with
  | some bad => simp [readDigits_of_bad hfound]
  | none =>
      rw [readDigits_of_good hfound]
      split <;> simp

theorem find?_not_isDigit_eq_none_iff (digits : List Char) :
    digits.find? (!isDigit ·) = none ↔ ∀ c ∈ digits, isDigit c = true := by
  simp

theorem readDigits_eq_oddLength_iff (digits : List Char) :
    readDigits [] digits = .error .oddLength ↔
      (∀ c ∈ digits, isDigit c = true) ∧ digits.length % 2 = 1 := by
  rw [← find?_not_isDigit_eq_none_iff]
  cases hfound : digits.find? (!isDigit ·) with
  | some bad => simp [readDigits_of_bad hfound]
  | none =>
      rw [readDigits_of_good hfound]
      split <;> simp_all

/-- A pair of digits fits in a byte. -/
theorem map_toNat_pairs (values : List Nat) (hvalues : ∀ v ∈ values, v < 16) :
    ((pairs values).map Nat.toUInt8).map UInt8.toNat = pairs values := by
  induction values using pairs.induct with
  | case1 high low rest ih =>
      have hhigh := hvalues high (by simp)
      have hlow := hvalues low (by simp)
      have hrest : ∀ v ∈ rest, v < 16 := fun v hv => hvalues v (by simp [hv])
      have hbyte : (16 * high + low).toUInt8.toNat = 16 * high + low :=
        Nat.mod_eq_of_lt (by omega)
      rw [pairs, List.map_cons, List.map_cons, ih hrest, hbyte]
  | case2 values hshort =>
      rw [pairs]
      · rfl
      · exact hshort

theorem readDigits_eq_ok_iff (digits : List Char) (bytes : List UInt8) :
    readDigits [] digits = .ok bytes ↔
      (∀ c ∈ digits, isDigit c = true) ∧ digits.length % 2 = 0 ∧
        bytes.map UInt8.toNat = pairs (digits.map digitValue) := by
  have hinj : Function.Injective (List.map UInt8.toNat) :=
    List.map_injective_iff.mpr fun _ _ => UInt8.toNat_inj.mp
  cases hfound : digits.find? (!isDigit ·) with
  | some bad =>
      rw [readDigits_of_bad hfound, ← find?_not_isDigit_eq_none_iff, hfound]
      simp
  | none =>
      have hdigits := (find?_not_isDigit_eq_none_iff digits).mp hfound
      have hvalues := map_digitValue_lt hdigits
      have hbytes : (pairs (digits.map digitValue)).map Nat.toUInt8 = bytes ↔
          bytes.map UInt8.toNat = pairs (digits.map digitValue) := by
        rw [← hinj.eq_iff, map_toNat_pairs _ hvalues, eq_comm]
      rw [readDigits_of_good hfound, ← hbytes]
      split
      · next hodd => simp [hodd]
      · next heven =>
          have hlength := Nat.mod_two_ne_one.mp heven
          rw [Except.ok.injEq, and_iff_right hlength, and_iff_right hdigits]

/-- How a text is read.  The first of its significant characters that is no
digit makes it invalid, whatever their number; else an odd number of them does;
else the bytes are the pairs of digits in order.  Where the gaps stand makes no
difference, nor does what earlier bytes left in the register. -/
theorem parse_reads_pairs :
    (∀ text,
      (∀ c, parse text = .error (.invalidChar c) ↔
        (significant text).find? (!isDigit ·) = some c) ∧
      (parse text = .error .oddLength ↔
        (∀ c ∈ significant text, isDigit c = true) ∧
          (significant text).length % 2 = 1) ∧
      ∀ bytes, parse text = .ok bytes ↔
        (∀ c ∈ significant text, isDigit c = true) ∧
          (significant text).length % 2 = 0 ∧
            bytes.map UInt8.toNat =
              pairs ((significant text).map digitValue)) ∧
    (∀ text text', significant text = significant text' →
      parse text = parse text') ∧
    ∀ register chars, scan register false chars = scan 0 false chars := by
  refine ⟨?_, ?_, ?_⟩
  · intro text
    rw [parse_eq_readDigits]
    exact ⟨readDigits_eq_invalidChar_iff _, readDigits_eq_oddLength_iff _,
      readDigits_eq_ok_iff _⟩
  · intro text text' hsame
    rw [parse_eq_readDigits, parse_eq_readDigits, hsame]
  · intro register chars
    rw [scan_eq_readDigits, scan_eq_readDigits]
    rfl

/-- Gaps behind the mark, inside of a byte and between bytes. -/
theorem parse_reads_pairs_gaps :
    significant " 0x\n0 38 \t1" = significant "0X0381" ∧
      parse " 0x\n0 38 \t1" = parse "0X0381" := by
  have hsame : significant " 0x\n0 38 \t1" = significant "0X0381" := by
    decide +kernel
  exact ⟨hsame, parse_reads_pairs.2.1 _ _ hsame⟩

end ScriptStack.Hex
