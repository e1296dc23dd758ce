import ScriptStack.Proofs.Command.Failures
import ScriptStack.Proofs.Hex.Writing
import ScriptStack.Proofs.SignMagnitude.Padding
/-!
The warning of a number in longer bytes than it needs.  Whether it is made is
decided from the last two bytes, but what it says comes from reading and
writing the number; the padding laws make the two agree (`shortens_encode`).
-/

namespace ScriptStack.SignMagnitude

/-- Whether some bytes can stand for others: they are minimal, shorter, and of
the same number. -/
structure Shortens (shortest bytes : List UInt8) : Prop where
  isMinimal : isMinimal shortest = true
  decode_eq : decode shortest = decode bytes
  length_lt : shortest.length < bytes.length

theorem shortens_encode {bytes : List UInt8}
    (hlong : encode (decode bytes) ≠ bytes) :
    Shortens (encode (decode bytes)) bytes where
  isMinimal := isMinimal_encode (decode bytes)
  decode_eq := decode_encode (decode bytes)
  length_lt := by
    rcases eq_encode_or_longer bytes with hshort | ⟨zeros, hlength⟩
    · exact absurd hshort.symm hlong
    · omega

end ScriptStack.SignMagnitude

namespace ScriptStack.Command

/-- The warnings in a log. -/
def warnings (log : List Log.Entry) : List Log.Entry :=
  log.filter fun entry => entry.level = .warn

/-- Whether settings have a warning of some bytes made and shown. -/
def WarnsOf (settings : Settings) (bytes : List UInt8) : Prop :=
  settings.warnNonMinimal = true ∧ settings.logLevel ≠ .error ∧
    SignMagnitude.encode (SignMagnitude.decode bytes) ≠ bytes

instance (settings : Settings) (bytes : List UInt8) :
    Decidable (WarnsOf settings bytes) :=
  inferInstanceAs (Decidable (_ ∧ _ ∧ _))

/-- There is one level that hides a warning. -/
theorem shownAt_nonMinimalEntry (level : Log.Level) (item : Item) :
    (nonMinimalEntry item).shownAt level = decide (level ≠ .error) := by
  cases level <;> rfl

theorem warnings_operandEntry (level : Log.Level) (name : String)
    (item : Item) :
    warnings (Log.shown level [operandEntry name item]) = [] := by
  cases level <;> rfl

theorem notes_decode {hex : String} {item : Item}
    (hhex : Item.ofHex hex = .ok item) :
    (Request.decode hex).notes =
      Subcommand.decode.notesOn "hex" item := by
  change Subcommand.decode.notes [("hex", hex)] = _
  rw [Subcommand.notes, hhex]
  exact List.append_nil _

theorem entries_notesOn_decode (settings : Settings) (item : Item) :
    Note.entries settings (Subcommand.decode.notesOn "hex" item) =
      operandEntry "hex" item ::
        if settings.warnNonMinimal = true ∧ item.isMinimal = false then
          [nonMinimalEntry item]
        else [] := by
  obtain ⟨level, warn⟩ := settings
  cases hminimal : item.isMinimal with
  | true =>
      simp only [Subcommand.notesOn, hminimal]
      cases warn <;> rfl
  | false =>
      simp only [Subcommand.notesOn, hminimal]
      cases warn <;> rfl

/-- What a log shows of the notes on a number: its operand, if the level lets
it, and the warning just if there is one to give. -/
theorem shown_notesOn_decode (settings : Settings) (bytes : List UInt8) :
    Log.shown settings.logLevel
        (Note.entries settings (Subcommand.decode.notesOn "hex" ⟨bytes⟩)) =
      Log.shown settings.logLevel [operandEntry "hex" ⟨bytes⟩] ++
        if WarnsOf settings bytes then [nonMinimalEntry ⟨bytes⟩] else [] := by
  have hlong : Item.isMinimal ⟨bytes⟩ = false ↔
      SignMagnitude.encode (SignMagnitude.decode bytes) ≠ bytes := by
    rw [Ne, ← SignMagnitude.isMinimal_iff, Bool.not_eq_true]
    rfl
  rw [entries_notesOn_decode, ← List.singleton_append, Log.shown,
    List.filter_append]
  congr 1
  simp only [hlong]
  by_cases hmade : settings.warnNonMinimal = true ∧
      SignMagnitude.encode (SignMagnitude.decode bytes) ≠ bytes
  · rw [if_pos hmade]
    by_cases hlevel : settings.logLevel ≠ .error
    · rw [if_pos ⟨hmade.1, hlevel, hmade.2⟩]
      exact List.filter_cons_of_pos
        ((shownAt_nonMinimalEntry _ _).trans (decide_eq_true hlevel))
    · rw [if_neg fun hwarns => hlevel hwarns.2.1]
      simp [shownAt_nonMinimalEntry, hlevel]
  · rw [if_neg hmade, if_neg fun hwarns => hmade ⟨hwarns.1, hwarns.2.2⟩]
    rfl

theorem report_decode_under {hex : String} {bytes : List UInt8}
    (hhex : Hex.parse hex = .ok bytes) (settings : Settings) :
    ((Request.decode hex).perform settings).report settings =
      ⟨0, [Decimal.render (SignMagnitude.decode bytes)],
        Log.shown settings.logLevel [operandEntry "hex" ⟨bytes⟩] ++
          if WarnsOf settings bytes then [nonMinimalEntry ⟨bytes⟩] else [],
        ""⟩ := by
  rw [report_perform, notes_decode (Item.ofHex_of_parse hhex),
    shown_notesOn_decode, Request.reportWith, answer_decode, hhex]

/-- Decoding warns of bytes just if warnings are wanted, the level does not hide
them and the bytes are not what is written for their number.  There is one
warning then; it shows the bytes and others that can stand for them, and
whatever else is in the log shows the operand.  The answer is the number either
way. -/
theorem decode_warns_of_longer_bytes {hex : String} {bytes : List UInt8}
    (hhex : Hex.parse hex = .ok bytes) (settings : Settings) :
    ∃ report,
      ((Request.decode hex).perform settings).report settings = report ∧
      (∀ source words invocation,
        Invocation.ofWords words = .ok invocation →
        invocation.request = .decode hex →
        Settings.resolve source invocation.settingsPath
          invocation.verbosity = .ok settings →
        run source words = .ok report) ∧
      report.exitCode = 0 ∧
      report.output = [Decimal.render (SignMagnitude.decode bytes)] ∧
      (WarnsOf settings bytes →
        ∃ suggested shortest, warnings report.log =
            [⟨.warn, Hex.render bytes ++
              " is not minimally encoded; minimal is " ++ suggested⟩] ∧
          Hex.parse suggested = .ok shortest ∧
          SignMagnitude.Shortens shortest bytes) ∧
      (¬ WarnsOf settings bytes → warnings report.log = []) ∧
      ∀ entry ∈ report.log, entry.level ≠ .warn →
        entry = operandEntry "hex" ⟨bytes⟩ := by
  refine ⟨_, rfl, ?_, ?_⟩
  · intro source words invocation hwords hrequest hsettings
    rw [run_of_resolve hwords hsettings, report_perform, hrequest]
  rw [report_decode_under hhex]
  refine ⟨rfl, rfl, ?_, ?_, ?_⟩
  · intro hwarns
    refine ⟨(Item.ofInt (SignMagnitude.decode bytes)).toHex, _, ?_,
      Hex.parse_render _, SignMagnitude.shortens_encode hwarns.2.2⟩
    rw [if_pos hwarns, warnings, List.filter_append]
    exact congrArg (· ++ _) (warnings_operandEntry _ _ _)
  · intro hquiet
    rw [if_neg hquiet, List.append_nil]
    exact warnings_operandEntry _ _ _
  · intro entry hentry hlevel
    rw [List.mem_append] at hentry
    rcases hentry with hshown | hwarning
    · exact List.mem_singleton.mp (List.mem_of_mem_filter hshown)
    · split at hwarning
      · rw [List.mem_singleton.mp hwarning] at hlevel
        exact absurd rfl hlevel
      · contradiction

/-- A negative number in four bytes where two would do. -/
theorem decode_warns_of_longer_bytes_padded :
    Hex.parse "0x 85 00 00 80" = .ok [0x85, 0x00, 0x00, 0x80] ∧
      WarnsOf ⟨.warn, true⟩ [0x85, 0x00, 0x00, 0x80] ∧
      ∃ report suggested shortest,
        run ⟨fun _ => .error .notFound, id⟩ ["decode", "0x 85 00 00 80"] =
          .ok report ∧
        report.output = [Decimal.render (-133)] ∧
        warnings report.log = [⟨.warn, Hex.render [0x85, 0x00, 0x00, 0x80] ++
          " is not minimally encoded; minimal is " ++ suggested⟩] ∧
        Hex.parse suggested = .ok shortest ∧
        SignMagnitude.Shortens shortest [0x85, 0x00, 0x00, 0x80] := by
  have hhex : Hex.parse "0x 85 00 00 80" = .ok [0x85, 0x00, 0x00, 0x80] := by
    decide +kernel
  have hwarns : WarnsOf ⟨.warn, true⟩ [0x85, 0x00, 0x00, 0x80] := by
    decide +kernel
  have hwords : Invocation.ofWords ["decode", "0x 85 00 00 80"] =
      .ok ⟨.decode "0x 85 00 00 80", 0, none⟩ := by decide +kernel
  obtain ⟨report, -, hruns, -, houtput, hwarning, -⟩ :=
    decode_warns_of_longer_bytes hhex ⟨.warn, true⟩
  obtain ⟨suggested, shortest, hlog, hparse, hshortens⟩ := hwarning hwarns
  have hrun := hruns ⟨fun _ => .error .notFound, id⟩ _ _ hwords rfl rfl
  exact ⟨hhex, hwarns, report, suggested, shortest, hrun, houtput, hlog,
    hparse, hshortens⟩

end ScriptStack.Command
