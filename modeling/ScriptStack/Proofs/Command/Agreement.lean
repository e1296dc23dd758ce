import ScriptStack.Proofs.Command.RoundTrip
import ScriptStack.Proofs.Item.Order
/-!
Runs of different subcommands on the same operands.  Under the default settings
each of them shows its answer and nothing else but a warning
(`run_truth_dashes`, `run_cmp_dashes`), and the answers tell the same of the
numbers and the bytes.
-/

namespace ScriptStack.Command

theorem run_truth_dashes (source : Settings.Source) {text : String}
    {bytes : List UInt8} (hparse : Hex.parse text = .ok bytes) :
    run source ["truth", "--", text] =
      .ok ⟨0, [if Item.isTrue ⟨bytes⟩ then "true" else "false"], [], ""⟩ := by
  have hrun := run_dashes source .truth [text] rfl
  rw [Request.perform, truth, withItem, Item.ofHex_of_parse hparse] at hrun
  exact hrun

theorem run_cmp_dashes (source : Settings.Source) {left right : String}
    {a b : List UInt8} (hleft : Hex.parse left = .ok a)
    (hright : Hex.parse right = .ok b) :
    run source ["cmp", "--", left, right] =
      .ok ⟨0,
        [orderWord (Item.compareNumbers ⟨a⟩ ⟨b⟩),
          "bytes " ++ if Item.mk a = ⟨b⟩ then "equal" else "differ"],
        [], ""⟩ := by
  have hrun := run_dashes source .cmp [left, right] rfl
  rw [Request.perform, cmp, withItem, Item.ofHex_of_parse hleft] at hrun
  dsimp only at hrun
  rw [withItem, Item.ofHex_of_parse hright] at hrun
  exact hrun

theorem orderWord_injective : Function.Injective orderWord := by
  intro first second hword
  cases first <;> cases second <;> first | rfl | exact absurd hword (by decide)

/-- The word for the order of two numbers says how they compare. -/
theorem orderWord_compare (m n : Int) :
    (orderWord (compare m n) = "less" ↔ m < n) ∧
      (orderWord (compare m n) = "equal" ↔ m = n) ∧
      (orderWord (compare m n) = "greater" ↔ n < m) := by
  refine ⟨?_, ?_, ?_⟩
  · exact (orderWord_injective.eq_iff (b := .lt)).trans compare_lt_iff_lt
  · exact (orderWord_injective.eq_iff (b := .eq)).trans compare_eq_iff_eq
  · exact (orderWord_injective.eq_iff (b := .gt)).trans compare_gt_iff_gt

/-- Swapped operands change the word for their order as a swap does. -/
theorem orderWord_swap (m n : Int) :
    (orderWord (compare n m) = "less" ↔ orderWord (compare m n) = "greater") ∧
      (orderWord (compare n m) = "equal" ↔
        orderWord (compare m n) = "equal") ∧
      (orderWord (compare n m) = "greater" ↔
        orderWord (compare m n) = "less") := by
  obtain ⟨hless, hequal, hgreater⟩ := orderWord_compare m n
  obtain ⟨hless', hequal', hgreater'⟩ := orderWord_compare n m
  exact ⟨hless'.trans hgreater.symm,
    hequal'.trans (eq_comm.trans hequal.symm),
    hgreater'.trans hless.symm⟩

theorem truthWord_eq_false_iff (item : Item) :
    (if item.isTrue then "true" else "false") = "false" ↔
      Decimal.render item.toInt = "0" := by
  have hzero : Decimal.render 0 = "0" := by decide
  rw [← hzero, Decimal.render_injective.eq_iff, ← item.isTrue_eq_false_iff]
  cases item.isTrue <;> simp

theorem bytesWord_eq_equal_iff (a b : Item) :
    "bytes " ++ (if a = b then "equal" else "differ") = "bytes equal" ↔
      a = b := by
  by_cases hbytes : a = b
  · rw [if_pos hbytes]
    exact iff_of_true rfl hbytes
  · rw [if_neg hbytes]
    exact iff_of_false (by decide) hbytes

/-- The subcommands agree with one another on the same two operands.  An item is
false just if its number is printed as zero.  Items compare as the numbers that
are printed for them, the other way round when swapped.  Items with equal bytes
have equal numbers, and the other way round where no warning is shown. -/
theorem subcommands_agree (source : Settings.Source) {x y : String}
    {a b : List UInt8} (hx : Hex.parse x = .ok a) (hy : Hex.parse y = .ok b) :
    ∃ m n truthLine orderLine swappedLine bytesLine logX logY,
      run source ["decode", "--", x] =
        .ok ⟨0, [Decimal.render m], logX, ""⟩ ∧
      run source ["decode", "--", y] =
        .ok ⟨0, [Decimal.render n], logY, ""⟩ ∧
      run source ["truth", "--", x] = .ok ⟨0, [truthLine], [], ""⟩ ∧
      run source ["cmp", "--", x, y] =
        .ok ⟨0, [orderLine, bytesLine], [], ""⟩ ∧
      run source ["cmp", "--", y, x] =
        .ok ⟨0, [swappedLine, bytesLine], [], ""⟩ ∧
      (truthLine = "false" ↔ Decimal.render m = "0") ∧
      ((orderLine = "less" ↔ m < n) ∧ (orderLine = "equal" ↔ m = n) ∧
        (orderLine = "greater" ↔ n < m)) ∧
      ((swappedLine = "less" ↔ orderLine = "greater") ∧
        (swappedLine = "equal" ↔ orderLine = "equal") ∧
        (swappedLine = "greater" ↔ orderLine = "less")) ∧
      (bytesLine = "bytes equal" ↔ a = b) ∧
      (bytesLine = "bytes equal" → orderLine = "equal") ∧
      ((∀ entry ∈ logX ++ logY, entry.level ≠ .warn) →
        (orderLine = "equal" ↔ bytesLine = "bytes equal")) := by
  have hcmp := run_cmp_dashes source hx hy
  have hswapped := run_cmp_dashes source hy hx
  rw [Item.compareNumbers_eq] at hcmp hswapped
  simp only [eq_comm (a := Item.mk b)] at hswapped
  have horder := orderWord_compare (Item.toInt ⟨a⟩) (Item.toInt ⟨b⟩)
  have hbytes := (bytesWord_eq_equal_iff ⟨a⟩ ⟨b⟩).trans
    (Iff.of_eq (Item.mk.injEq a b))
  refine ⟨_, _, _, _, _, _, _, _, run_decode_dashes source hx,
    run_decode_dashes source hy, run_truth_dashes source hx, hcmp, hswapped,
    truthWord_eq_false_iff ⟨a⟩, horder, orderWord_swap _ _, hbytes, ?_, ?_⟩
  · intro hequal
    exact horder.2.1.mpr (congrArg SignMagnitude.decode (hbytes.mp hequal))
  · intro hquiet
    rw [List.forall_mem_append, ← isMinimal_iff_remarks,
      ← isMinimal_iff_remarks] at hquiet
    have hsame := Item.eq_iff_sameNumber hquiet.1 hquiet.2
    rw [Item.sameNumber_iff, Item.mk.injEq] at hsame
    rw [horder.2.1, hbytes, hsame]

/-- Two spellings of one: the longer one is not the same bytes, and as its run
is not quiet the lines may differ. -/
theorem subcommands_agree_padded :
    Hex.parse "0x0100" = .ok [0x01, 0x00] ∧ Hex.parse "01" = .ok [0x01] ∧
      ∃ truthLine orderLine bytesLine,
        run ⟨fun _ => .error .notFound, id⟩ ["truth", "--", "0x0100"] =
          .ok ⟨0, [truthLine], [], ""⟩ ∧
        run ⟨fun _ => .error .notFound, id⟩ ["cmp", "--", "0x0100", "01"] =
          .ok ⟨0, [orderLine, bytesLine], [], ""⟩ ∧
        bytesLine ≠ "bytes equal" := by
  have hx : Hex.parse "0x0100" = .ok [0x01, 0x00] := by rfl
  have hy : Hex.parse "01" = .ok [0x01] := by rfl
  obtain ⟨m, n, truthLine, orderLine, swappedLine, bytesLine, logX, logY,
    -, -, htruth, hcmp, -, -, -, -, hbytes, -, -⟩ :=
      subcommands_agree ⟨fun _ => .error .notFound, id⟩ hx hy
  refine ⟨hx, hy, truthLine, orderLine, bytesLine, htruth, hcmp, ?_⟩
  rw [ne_eq, hbytes]
  decide

end ScriptStack.Command
