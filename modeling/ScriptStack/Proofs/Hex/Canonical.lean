import ScriptStack.Proofs.Hex.Writing
/-!
The written form of hexadecimal text.  A text is read as some bytes exactly
when its digits in lowercase are the ones that are written for them
(`parse_eq_ok_iff_render`), so of all the texts for the same bytes the written
one is in lowercase and without gaps, blanks or a mark.
-/

namespace ScriptStack.Hex

theorem digitChar_digitValue {c : Char} (hdigit : isDigit c = true) :
    (digitValue c).digitChar = c.toLower := by
  have hall : alphabet.all (fun d => (alphabet.idxOf d).digitChar == d) =
      true := by decide
  have hlower : c.toLower ∈ alphabet := of_decide_eq_true hdigit
  exact eq_of_beq (List.all_eq_true.mp hall _ hlower)

theorem digitValue_toLower {c : Char} (hdigit : isDigit c = true) :
    digitValue c.toLower = digitValue c := by
  rw [← digitChar_digitValue hdigit,
    digitValue_digitChar (digitValue_lt hdigit)]

theorem byteDigits_eq {byte : UInt8} {high low : Nat} (hlow : low < 16)
    (hbyte : byte.toNat = 16 * high + low) :
    byteDigits byte = [high.digitChar, low.digitChar] := by
  have hhigh : byte.toNat / 16 = high := by omega
  have hrest : byte.toNat % 16 = low := by omega
  rw [byteDigits, hhigh, hrest]

/-- Bytes are written with the digits that they were paired from. -/
theorem flatMap_byteDigits_of_pairs {bytes : List UInt8} {values : List Nat}
    (hvalues : ∀ v ∈ values, v < 16) (heven : values.length % 2 = 0)
    (hbytes : bytes.map UInt8.toNat = pairs values) :
    bytes.flatMap byteDigits = values.map Nat.digitChar := by
  induction values using pairs.induct generalizing bytes with
  | case1 high low rest ih =>
      rw [pairs] at hbytes
      obtain ⟨byte, bytes, rfl, hbyte, hrest⟩ :=
        List.map_eq_cons_iff.mp hbytes
      have hlow : low < 16 := hvalues low (by simp)
      have hvaluesRest : ∀ v ∈ rest, v < 16 := fun v hv =>
        hvalues v (by simp [hv])
      have hevenRest : rest.length % 2 = 0 := by
        simp only [List.length_cons] at heven
        omega
      rw [List.flatMap_cons, byteDigits_eq hlow hbyte,
        ih hvaluesRest hevenRest hrest]
      rfl
  | case2 values hshort =>
      -- fewer than two values are left, and an even number of them is none
      cases values with
      | nil =>
          rw [List.map_eq_nil_iff.mp hbytes]
          rfl
      | cons high rest =>
          cases rest with
          | nil => simp at heven
          | cons low rest => exact absurd rfl (hshort high low rest)

theorem map_digitChar_digitValue {digits : List Char}
    (hdigits : ∀ c ∈ digits, isDigit c = true) :
    (digits.map digitValue).map Nat.digitChar = digits.map Char.toLower := by
  rw [List.map_map]
  exact List.map_congr_left fun c hc => digitChar_digitValue (hdigits c hc)

theorem map_digitValue_toLower {digits : List Char}
    (hdigits : ∀ c ∈ digits, isDigit c = true) :
    (digits.map Char.toLower).map digitValue = digits.map digitValue := by
  rw [List.map_map]
  exact List.map_congr_left fun c hc => digitValue_toLower (hdigits c hc)

/-- A text is read as the bytes that are written with its digits. -/
theorem parse_eq_ok_iff_render (text : String) (bytes : List UInt8) :
    parse text = .ok bytes ↔
      (∀ c ∈ significant text, isDigit c = true) ∧
        (render bytes).toList = (significant text).map Char.toLower := by
  rw [parse_eq_readDigits, readDigits_eq_ok_iff, toList_render]
  apply and_congr_right
  intro hdigits
  constructor
  · rintro ⟨heven, hbytes⟩
    have hlength : ((significant text).map digitValue).length % 2 = 0 := by
      rwa [List.length_map]
    rw [flatMap_byteDigits_of_pairs (map_digitValue_lt hdigits) hlength hbytes,
      map_digitChar_digitValue hdigits]
  · intro hwritten
    have hlength := congrArg List.length hwritten
    rw [length_flatMap_byteDigits, List.length_map] at hlength
    refine ⟨by omega, ?_⟩
    rw [← map_digitValue_toLower hdigits, ← hwritten, pairs_byteDigits]

/-- Writing and reading.  What is written is read back, also as the text of an
item, so different bytes are written differently.  And whatever is read, with
digits of either case, gaps, blanks around it and a mark in front, its digits in
lowercase are what is written for the bytes. -/
theorem render_canonical :
    (∀ bytes : List UInt8, parse (render bytes) = .ok bytes) ∧
      Item.empty.toHex = "" ∧
      (∀ item : Item, Item.ofHex item.toHex = .ok item) ∧
      Function.Injective render ∧
      ∀ (text : String) (bytes : List UInt8), parse text = .ok bytes ↔
        (∀ c ∈ significant text, isDigit c = true) ∧
          (render bytes).toList = (significant text).map Char.toLower :=
  ⟨parse_render, rfl, Item.ofHex_toHex, render_injective,
    parse_eq_ok_iff_render⟩

/-- Digits of both cases with blanks around them and gaps between them. -/
theorem render_canonical_mixed :
    parse "\n0X0a Bc\t" = .ok [0x0a, 0xbc] ∧
      (∀ c ∈ significant "\n0X0a Bc\t", isDigit c = true) ∧
      (render [0x0a, 0xbc]).toList =
        (significant "\n0X0a Bc\t").map Char.toLower := by
  have hparse : parse "\n0X0a Bc\t" = .ok [0x0a, 0xbc] := by decide +kernel
  obtain ⟨-, -, -, -, hread⟩ := render_canonical
  exact ⟨hparse, (hread _ _).mp hparse⟩

end ScriptStack.Hex
