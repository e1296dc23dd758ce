import Mathlib.Data.List.Infix
import ScriptStack.Proofs.Json.Number
import ScriptStack.Proofs.Json.Text
/-!
Texts of JSON that are cut off.  A string without its closing quote is too
short wherever it is cut, inside an escape too (`readText_of_cut`), while the
digits in front of a cut are a number of their own (`exists_render_of_cut`).
-/

namespace ScriptStack.Json

/-- A cut falls into the first part or behind it. -/
theorem cut_append {α : Type} {part first second : List α}
    (hpart : part <+: first ++ second) :
    part <+: first ∧ part ≠ first ∨
      ∃ more, part = first ++ more ∧ more <+: second := by
  obtain ⟨gone, hgone⟩ := hpart
  rcases List.append_eq_append_iff.mp hgone with
    ⟨missing, hfirst, -⟩ | ⟨more, hmore, hsecond⟩
  · by_cases hwhole : part = first
    · exact Or.inr ⟨[], by rw [hwhole, List.append_nil], List.nil_prefix⟩
    · exact Or.inl ⟨⟨missing, hfirst.symm⟩, hwhole⟩
  · exact Or.inr ⟨more, hmore, ⟨gone, hsecond.symm⟩⟩

/-- A cut falls before a mark or behind it. -/
theorem cut_append_cons {α : Type} {part first second : List α} {mark : α}
    (hpart : part <+: first ++ mark :: second) :
    part <+: first ∨
      ∃ more, part = first ++ mark :: more ∧ more <+: second := by
  rw [List.append_cons] at hpart
  rcases cut_append hpart with ⟨hbefore, hne⟩ | ⟨more, hmore, hsecond⟩
  · rw [List.prefix_concat_iff] at hbefore
    exact Or.inl (hbefore.resolve_left hne)
  · exact Or.inr ⟨more, hmore.trans (List.append_cons ..).symm, hsecond⟩

theorem readText_of_cut_short {e : Char} {part : List Char}
    (hpart : part <+: ['\\', e]) (hne : part ≠ ['\\', e]) :
    readText part = .error .truncated := by
  rw [← List.mem_inits] at hpart
  simp only [List.inits, List.map_cons, List.map_nil, List.mem_cons,
    List.not_mem_nil, or_false] at hpart
  rcases hpart with rfl | rfl | rfl
  · rw [readText]
  · rw [readText]
  · exact absurd rfl hne

theorem readText_of_few_digits {digits : List Char}
    (hfew : digits.length < 4) :
    readText ('\\' :: 'u' :: digits) = .error (shortUnit digits) := by
  rw [readText]
  rintro a b c d rest rfl
  simp only [List.length_cons] at hfew
  omega

/-- The digits of a control character that can stand before a cut are one byte
each, so that fewer than four of them are fewer than four bytes. -/
theorem shortUnit_byteDigits {n : Nat} (hn : n < 0x20) :
    ∃ high low, Hex.byteDigits n.toUInt8 = [high, low] ∧
      ∀ part ∈ [[], ['0'], ['0', '0'], ['0', '0', high]],
        shortUnit part = .truncated := by
  have hdigits : ∀ n < 0x20, ∀ part ∈ [[], ['0'], ['0', '0'],
      ['0', '0', (n.toUInt8.toNat / 16).digitChar]],
        shortUnit part = .truncated := by decide +kernel
  exact ⟨_, _, rfl, hdigits n hn⟩

/-- Less than an escape is too short for one, four digits included. -/
theorem readText_of_cut_escape {c : Char} {part : List Char}
    (hpart : part <+: escape c) (hne : part ≠ escape c) :
    readText part = .error .truncated := by
  unfold escape at hpart hne
  split_ifs at hpart hne with hself hbackspace hfeed hline hreturn htab hcontrol
  · exact readText_of_cut_short hpart hne
  · exact readText_of_cut_short hpart hne
  · exact readText_of_cut_short hpart hne
  · exact readText_of_cut_short hpart hne
  · exact readText_of_cut_short hpart hne
  · exact readText_of_cut_short hpart hne
  · obtain ⟨high, low, hdigits, hshort⟩ := shortUnit_byteDigits hcontrol
    have hfew {digits : List Char}
        (hmem : digits ∈ [[], ['0'], ['0', '0'], ['0', '0', high]])
        (hlength : digits.length < 4) :
        readText ('\\' :: 'u' :: digits) = .error .truncated := by
      rw [readText_of_few_digits hlength, hshort digits hmem]
    rw [hdigits] at hpart hne
    rw [← List.mem_inits] at hpart
    simp only [List.cons_append, List.nil_append, List.inits, List.map_cons,
      List.map_nil, List.mem_cons, List.not_mem_nil, or_false] at hpart
    rcases hpart with rfl | rfl | rfl | rfl | rfl | rfl | rfl
    · rw [readText]
    · rw [readText]
    · exact hfew (by simp) (by simp)
    · exact hfew (by simp) (by simp)
    · exact hfew (by simp) (by simp)
    · exact hfew (by simp) (by simp)
    · exact absurd rfl hne
  · have hnil : part = [] := by
      have hlength := hpart.length_le.lt_of_ne fun hlength =>
        hne (hpart.eq_of_length hlength)
      exact List.eq_nil_of_length_eq_zero (Nat.lt_one_iff.mp hlength)
    rw [hnil, readText]

theorem readText_of_cut {chars part : List Char}
    (hpart : part <+: chars.flatMap escape) :
    readText part = .error .truncated := by
  induction chars generalizing part with
  | nil =>
      rw [List.flatMap_nil, List.prefix_nil] at hpart
      rw [hpart, readText]
  | cons c chars ih =>
      rw [List.flatMap_cons] at hpart
      rcases cut_append hpart with ⟨hescape, hne⟩ | ⟨more, rfl, hmore⟩
      · exact readText_of_cut_escape hescape hne
      · rw [readText_of_spellsChar (spellsChar_escape c), ih hmore]
        rfl

end ScriptStack.Json

namespace ScriptStack.Decimal

theorem exists_toDigits_of_cut {n : Nat} {part : List Char}
    (hpart : part <+: Nat.toDigits 10 n) (hne : part ≠ []) :
    ∃ m ≤ n, (0 < n → 0 < m) ∧ part = Nat.toDigits 10 m := by
  induction n using Nat.strongRecOn with
  | ind n ih =>
      by_cases hlast : n < 10
      · rw [Nat.toDigits_of_lt_base hlast, List.prefix_cons_iff] at hpart
        rcases hpart with hnil | ⟨tail, rfl, htail⟩
        · exact absurd hnil hne
        · rw [List.prefix_nil] at htail
          refine ⟨n, Nat.le_refl n, id, ?_⟩
          rw [htail, Nat.toDigits_of_lt_base hlast]
      · have hn : 10 ≤ n := by omega
        have hdigits := Nat.toDigits_of_base_le (by decide) hn
        rw [hdigits, List.prefix_concat_iff] at hpart
        rcases hpart with hwhole | hbefore
        · exact ⟨n, Nat.le_refl n, id, hwhole.trans hdigits.symm⟩
        · obtain ⟨m, hle, hpos, hm⟩ := ih (n / 10) (by omega) hbefore
          exact ⟨m, by omega, fun _ => hpos (by omega), hm⟩

/-- What is left of a written number is nothing, its sign, or a number that lies
between zero and it. -/
theorem exists_render_of_cut {n : Int} {part : List Char}
    (hpart : part <+: (render n).toList) :
    part = [] ∨ part = ['-'] ∨
      ∃ m, part = (render m).toList ∧ min n 0 ≤ m ∧ m ≤ max n 0 := by
  rw [toList_render] at hpart
  by_cases hempty : part = []
  · exact Or.inl hempty
  by_cases hn : n < 0
  · rw [sign, if_pos hn, List.singleton_append, List.prefix_cons_iff] at hpart
    obtain ⟨digits, rfl, hdigits⟩ := hpart.resolve_left hempty
    by_cases hsign : digits = []
    · rw [hsign]
      exact Or.inr (Or.inl rfl)
    · obtain ⟨m, hle, hpos, rfl⟩ := exists_toDigits_of_cut hdigits hsign
      have hm : 0 < m := hpos (by omega)
      refine Or.inr (Or.inr ⟨-m, ?_, by omega, by omega⟩)
      rw [toList_render, sign, if_pos (by omega), Int.natAbs_neg,
        Int.natAbs_natCast]
      rfl
  · rw [sign, if_neg hn, List.nil_append] at hpart
    obtain ⟨m, hle, -, rfl⟩ := exists_toDigits_of_cut hpart hempty
    refine Or.inr (Or.inr ⟨m, ?_, by omega, by omega⟩)
    rw [toList_render, sign, if_neg (by omega), Int.natAbs_natCast]
    rfl

end ScriptStack.Decimal
