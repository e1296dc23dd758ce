import ScriptStack.Command.Run
import ScriptStack.Proofs.Command.Operands
import ScriptStack.Proofs.Hex.Writing
import ScriptStack.Proofs.SignMagnitude.Codec
/-!
Numbers and items across runs of the tool.  Without options a run answers its
request under the default settings (`run_dashes`, `run_operands`), where only
a warning is shown (`report_decode`); so what one run prints, another one reads.
-/

namespace ScriptStack.Command

theorem length_of_ofOperands? {subcommand : Subcommand}
    {operands : List String} {request : Request}
    (hrequest : Request.ofOperands? subcommand operands = some request) :
    operands.length = subcommand.operandNames.length := by
  unfold Request.ofOperands? at hrequest
  split at hrequest
  all_goals first | rfl | contradiction

theorem run_of_request (source : Settings.Source) {subcommand : Subcommand}
    {rest operands : List String} {request : Request}
    (hwords : readOperands subcommand [] rest = finish subcommand operands)
    (hrequest : Request.ofOperands? subcommand operands = some request) :
    run source (subcommand.name :: rest) =
      .ok ((request.perform Settings.default).report Settings.default) := by
  rw [run, ofWords_name, hwords, finish, hrequest]
  rfl

/-- Behind `--` the operands may be any words. -/
theorem run_dashes (source : Settings.Source) (subcommand : Subcommand)
    (operands : List String) {request : Request}
    (hrequest : Request.ofOperands? subcommand operands = some request) :
    run source (subcommand.name :: "--" :: operands) =
      .ok ((request.perform Settings.default).report Settings.default) :=
  run_of_request source
    (readOperands_dashes (length_of_ofOperands? hrequest).le) hrequest

/-- Operands that are read as such need no dashes in front. -/
theorem run_operands (source : Settings.Source) (subcommand : Subcommand)
    (operands : List String) {request : Request}
    (hoperands : ∀ word ∈ operands, IsOperand subcommand word)
    (hrequest : Request.ofOperands? subcommand operands = some request) :
    run source (subcommand.name :: operands) =
      .ok ((request.perform Settings.default).report Settings.default) := by
  apply run_of_request source _ hrequest
  apply readOperands_of_isOperand [] hoperands
  rw [length_of_ofOperands? hrequest]
  simp

theorem report_encode {text : String} {n : Int}
    (hparse : Decimal.parse text = .ok n) (settings : Settings) :
    (encode text).report settings = ⟨0, [(Item.ofInt n).toHex], [], ""⟩ := by
  rw [encode, hparse]
  rfl

/-- What a default run says about an item: a warning if it is not minimal. -/
def remarks (item : Item) : List Log.Entry :=
  if item.isMinimal then [] else [nonMinimalEntry item]

theorem remarks_of_isMinimal {item : Item} (hminimal : item.isMinimal = true) :
    remarks item = [] :=
  if_pos hminimal

/-- A run remarks on an item just if its bytes could be fewer. -/
theorem isMinimal_iff_remarks (item : Item) :
    item.isMinimal = true ↔ ∀ entry ∈ remarks item, entry.level ≠ .warn := by
  cases hminimal : item.isMinimal with
  | true => simp [remarks, hminimal]
  | false => simp [remarks, hminimal, nonMinimalEntry]

theorem report_decode {text : String} {item : Item}
    (hparse : Item.ofHex text = .ok item) :
    (decode Settings.default text).report Settings.default =
      ⟨0, [Decimal.render item.toInt], remarks item, ""⟩ := by
  have hdecode : decode Settings.default text =
      ⟨operandEntry "hex" item :: remarks item,
        .ok [Decimal.render item.toInt]⟩ := by
    rw [decode, withItem, hparse]
    cases hminimal : item.isMinimal with
    | true => simp [remarks, hminimal, saying, answering]
    | false => simp [remarks, hminimal, saying, answering, Settings.default]
  have hshown : Log.shown Settings.default.logLevel
      (operandEntry "hex" item :: remarks item) = remarks item := by
    cases hminimal : item.isMinimal with
    | true => simp only [remarks, hminimal]; rfl
    | false => simp only [remarks, hminimal]; rfl
  rw [hdecode, Outcome.report, hshown]

theorem run_decode_dashes (source : Settings.Source) {text : String}
    {bytes : List UInt8} (hparse : Hex.parse text = .ok bytes) :
    run source ["decode", "--", text] =
      .ok ⟨0, [Decimal.render (SignMagnitude.decode bytes)],
        remarks ⟨bytes⟩, ""⟩ := by
  have hrun := run_dashes source .decode [text] rfl
  rw [Request.perform, report_decode (Item.ofHex_of_parse hparse)] at hrun
  exact hrun

/-- The bytes of an item are an operand, for none of them is a hyphen. -/
theorem run_decode_toHex (source : Settings.Source) (item : Item) :
    run source ["decode", item.toHex] =
      .ok ⟨0, [Decimal.render item.toInt], remarks item, ""⟩ := by
  have hoperand : IsOperand .decode item.toHex := by
    apply IsOperand.of_head
    intro hhead
    exact absurd (Hex.mem_alphabet_of_mem_render
      (List.mem_of_mem_head? hhead)) (by decide)
  have hrun := run_operands source .decode [item.toHex]
    (List.forall_mem_singleton.mpr hoperand) rfl
  rw [Request.perform, report_decode item.ofHex_toHex] at hrun
  exact hrun

theorem run_encode_dashes (source : Settings.Source) {text : String} {n : Int}
    (hparse : Decimal.parse text = .ok n) :
    run source ["encode", "--", text] =
      .ok ⟨0, [(Item.ofInt n).toHex], [], ""⟩ := by
  have hrun := run_dashes source .encode [text] rfl
  rw [Request.perform, report_encode hparse] at hrun
  exact hrun

theorem run_encode_render (source : Settings.Source) (n : Int) :
    run source ["encode", Decimal.render n] =
      .ok ⟨0, [(Item.ofInt n).toHex], [], ""⟩ := by
  have hrun := run_operands source .encode [Decimal.render n]
    (List.forall_mem_singleton.mpr (IsOperand.render rfl n)) rfl
  rw [Request.perform, report_encode (Decimal.parse_render n)] at hrun
  exact hrun

/-- What one run prints, another one reads.  A number is encoded, however it is
written, and its item decodes to it without a warning; an item is decoded, and
its number encodes to the same bytes just if no warning was shown. -/
theorem runs_round_trip (source : Settings.Source) :
    (∀ n : Int,
      (∀ text, Decimal.parse text = .ok n →
        run source ["encode", "--", text] =
          .ok ⟨0, [(Item.ofInt n).toHex], [], ""⟩) ∧
      run source ["encode", Decimal.render n] =
        .ok ⟨0, [(Item.ofInt n).toHex], [], ""⟩ ∧
      run source ["decode", (Item.ofInt n).toHex] =
        .ok ⟨0, [Decimal.render n], [], ""⟩) ∧
    (Item.ofInt 0).toHex = "" ∧
    ∀ text bytes, Hex.parse text = .ok bytes →
      ∃ decimal log,
        run source ["decode", "--", text] = .ok ⟨0, [decimal], log, ""⟩ ∧
        run source ["encode", "--", decimal] =
          .ok ⟨0, [Hex.render (SignMagnitude.encode
            (SignMagnitude.decode bytes))], [], ""⟩ ∧
        (Hex.render (SignMagnitude.encode (SignMagnitude.decode bytes)) =
            Hex.render bytes ↔
          ∀ entry ∈ log, entry.level ≠ .warn) := by
  refine ⟨fun n => ⟨fun _ => run_encode_dashes source,
    run_encode_render source n, ?_⟩, ?_, fun text bytes hparse => ?_⟩
  · have hminimal : (Item.ofInt n).isMinimal = true :=
      SignMagnitude.isMinimal_encode n
    have hnumber : (Item.ofInt n).toInt = n := SignMagnitude.decode_encode n
    rw [run_decode_toHex, hnumber, remarks_of_isMinimal hminimal]
  · rw [Item.ofInt, Item.toHex, SignMagnitude.encode_zero]
    rfl
  · refine ⟨_, _, run_decode_dashes source hparse,
      run_encode_dashes source (Decimal.parse_render _), ?_⟩
    rw [Hex.render_injective.eq_iff, ← SignMagnitude.isMinimal_iff,
      ← isMinimal_iff_remarks]
    rfl

/-- Minus 259 as it is seldom written, and the longer one of two items. -/
theorem runs_round_trip_padded :
    Decimal.parse "-02_59" = .ok (-259) ∧
      run ⟨fun _ => .error .notFound, id⟩ ["encode", "--", "-02_59"] =
        .ok ⟨0, ["0381"], [], ""⟩ ∧
      Hex.parse "0x0100" = .ok [0x01, 0x00] ∧
      ∃ decimal log,
        run ⟨fun _ => .error .notFound, id⟩ ["decode", "--", "0x0100"] =
          .ok ⟨0, [decimal], log, ""⟩ ∧
        ¬ ∀ entry ∈ log, entry.level ≠ .warn := by
  obtain ⟨hencode, -, hdecode⟩ :=
    runs_round_trip ⟨fun _ => .error .notFound, id⟩
  have hnumber : Decimal.parse "-02_59" = .ok (-259) := by rfl
  have hitem : Hex.parse "0x0100" = .ok [0x01, 0x00] := by rfl
  obtain ⟨decimal, log, hrun, -, hwarned⟩ := hdecode "0x0100" _ hitem
  have hhex : (Item.ofInt (-259)).toHex = "0381" := by decide +kernel
  have hchanged : Hex.render (SignMagnitude.encode
      (SignMagnitude.decode [0x01, 0x00])) ≠ Hex.render [0x01, 0x00] := by
    decide +kernel
  rw [← hhex]
  exact ⟨hnumber, (hencode (-259)).1 "-02_59" hnumber, hitem, decimal, log,
    hrun, fun hquiet => hchanged (hwarned.mpr hquiet)⟩

end ScriptStack.Command
