import ScriptStack.Item.Basic
import ScriptStack.Proofs.Hex.Reading
/-!
Writing hexadecimal text.  What is written holds digits alone, so reading skips
nothing of it (`significant_render`) and gives the bytes back (`parse_render`),
of an item too (`Item.ofHex_toHex`).
-/

namespace ScriptStack.Hex

theorem digitChar_mem_alphabet {n : Nat} (hn : n < 16) :
    n.digitChar ∈ alphabet := by
  have hall : ∀ n < 16, n.digitChar ∈ alphabet := by decide
  exact hall n hn

/-- A digit that is written has the value that it is written for. -/
theorem digitValue_digitChar {n : Nat} (hn : n < 16) :
    digitValue n.digitChar = n := by
  have hall : ∀ n < 16, digitValue n.digitChar = n := by decide
  exact hall n hn

theorem isDigit_of_mem_alphabet {c : Char} (hc : c ∈ alphabet) :
    isDigit c = true := by
  have hall : alphabet.all isDigit = true := by decide
  exact List.all_eq_true.mp hall c hc

theorem not_isBlank_of_mem_alphabet {c : Char} (hc : c ∈ alphabet) :
    ¬ Text.isBlank c = true := by
  have hnone : alphabet.any Text.isBlank = false := by decide
  exact List.any_eq_false.mp hnone c hc

theorem toList_render (bytes : List UInt8) :
    (render bytes).toList = bytes.flatMap byteDigits :=
  String.toList_ofList

theorem mem_alphabet_of_mem_render {bytes : List UInt8} {c : Char}
    (hc : c ∈ (render bytes).toList) : c ∈ alphabet := by
  rw [toList_render, List.mem_flatMap] at hc
  obtain ⟨byte, -, hc⟩ := hc
  have hbyte := byte.toNat_lt
  simp only [byteDigits, List.mem_cons, List.not_mem_nil, or_false] at hc
  rcases hc with rfl | rfl
  · exact digitChar_mem_alphabet (by omega)
  · exact digitChar_mem_alphabet (by omega)

/-- Of lowercase digits alone every one is read. -/
theorem significant_of_alphabet {text : String}
    (htext : ∀ c ∈ text.toList, c ∈ alphabet) :
    significant text = text.toList := by
  have hblank : ∀ c ∈ text.toList, ¬ Text.isBlank c = true := fun c hc =>
    not_isBlank_of_mem_alphabet (htext c hc)
  have hfront : text.toList.dropWhile Text.isBlank = text.toList :=
    List.dropWhile_eq_self_iff.mpr fun _ => hblank _ (List.getElem_mem _)
  have hback : text.toList.rdropWhile Text.isBlank = text.toList :=
    List.rdropWhile_eq_self_iff.mpr fun hne => hblank _ (List.getLast_mem hne)
  have hmark : ¬ (['0', 'x'] <+: text.toList ∨ ['0', 'X'] <+: text.toList) := by
    rintro (hmark | hmark)
    · exact absurd (htext 'x' (hmark.subset (by simp))) (by decide)
    · exact absurd (htext 'X' (hmark.subset (by simp))) (by decide)
  rw [significant, body, hfront, hback, if_neg hmark, withoutGaps,
    List.filter_eq_self]
  intro c hc
  simpa using not_mem_gaps_of_isDigit (isDigit_of_mem_alphabet (htext c hc))

theorem significant_render (bytes : List UInt8) :
    significant (render bytes) = bytes.flatMap byteDigits := by
  rw [significant_of_alphabet fun _ => mem_alphabet_of_mem_render,
    toList_render]

/-- The digits of bytes pair up to the bytes. -/
theorem pairs_byteDigits (bytes : List UInt8) :
    pairs ((bytes.flatMap byteDigits).map digitValue) =
      bytes.map UInt8.toNat := by
  induction bytes with
  | nil => rfl
  | cons byte rest ih =>
      have hbyte := byte.toNat_lt
      have hhigh := digitValue_digitChar (n := byte.toNat / 16) (by omega)
      have hlow := digitValue_digitChar (n := byte.toNat % 16) (by omega)
      simp only [List.flatMap_cons, byteDigits, List.cons_append,
        List.nil_append, List.map_cons, pairs, hhigh, hlow, ih]
      rw [Nat.div_add_mod]

theorem length_flatMap_byteDigits (bytes : List UInt8) :
    (bytes.flatMap byteDigits).length = 2 * bytes.length := by
  induction bytes with
  | nil => rfl
  | cons byte rest ih =>
      rw [List.flatMap_cons, List.length_append, ih, List.length_cons]
      change 2 + 2 * rest.length = 2 * (rest.length + 1)
      omega

/-- Reading undoes writing. -/
theorem parse_render (bytes : List UInt8) :
    parse (render bytes) = .ok bytes := by
  rw [parse_eq_readDigits, readDigits_eq_ok_iff, significant_render,
    pairs_byteDigits, length_flatMap_byteDigits]
  refine ⟨fun c hc => ?_, by omega, rfl⟩
  rw [← toList_render] at hc
  exact isDigit_of_mem_alphabet (mem_alphabet_of_mem_render hc)

/-- Different bytes are written differently, for they are read back. -/
theorem render_injective : Function.Injective render := by
  intro bytes bytes' hrender
  have hparse := parse_render bytes
  rw [hrender, parse_render] at hparse
  exact (Except.ok.inj hparse).symm

end ScriptStack.Hex

namespace ScriptStack.Item

theorem ofHex_of_parse {text : String} {bytes : List UInt8}
    (hparse : Hex.parse text = .ok bytes) : ofHex text = .ok ⟨bytes⟩ := by
  rw [ofHex, hparse]
  rfl

theorem ofHex_toHex (item : Item) : ofHex item.toHex = .ok item :=
  ofHex_of_parse (Hex.parse_render item.bytes)

end ScriptStack.Item
