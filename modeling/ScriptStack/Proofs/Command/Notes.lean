import ScriptStack.Command.Run
import ScriptStack.Proofs.Command.Verbosity
import ScriptStack.Proofs.Log.Threshold
import ScriptStack.Proofs.Settings.Fault
/-!
What a run says beside its answer.  The notes of a request are fixed by its
operands; settings choose among them (`messages_perform`) and have no part in
the answer (`answer_perform`).  So two runs of one request differ in their logs
alone, and asking for more messages only adds to the log.
-/

namespace ScriptStack.Command

/-- What can be said of an item in a run. -/
inductive Note where
  | operand (name : String) (item : Item)
  | nonMinimal (item : Item)
  deriving DecidableEq, Repr

namespace Note

/-- The message of a note, with its level. -/
def entry : Note → Log.Entry
  | operand name item => operandEntry name item
  | nonMinimal item => nonMinimalEntry item

/-- Whether settings let a note be made.  Its level is not looked at. -/
def madeUnder (settings : Settings) : Note → Bool
  | operand _ _ => true
  | nonMinimal _ => settings.warnNonMinimal

end Note

/-- The notes on an operand that is read as an item. -/
def Subcommand.notesOn (subcommand : Subcommand) (name : String) (item : Item) :
    List Note :=
  .operand name item ::
    if subcommand = .decode ∧ item.isMinimal = false then [.nonMinimal item]
    else []

/-- The notes on operands with their names, up to the first that is no item. -/
def Subcommand.notes (subcommand : Subcommand) :
    List (String × String) → List Note
  | [] => []
  | (name, text) :: rest =>
      match Item.ofHex text with
      | .error _ => []
      | .ok item => subcommand.notesOn name item ++ subcommand.notes rest

/-- All that a request can have said of its operands. -/
def Request.notes (request : Request) : List Note :=
  if request.subcommand.takesNumbers then []
  else request.subcommand.notes request.parameters

/-- The messages of the notes that settings let be made. -/
def Note.entries (settings : Settings) (notes : List Note) : List Log.Entry :=
  (notes.filter (Note.madeUnder settings)).map Note.entry

/-- The answer of a request, which needs no settings. -/
def Request.answer (request : Request) : Except Failure (List String) :=
  (request.perform Settings.default).answer

theorem withItem_of_error {name text : String} {reason : Hex.Error}
    (htext : Item.ofHex text = .error reason) (next : Item → Outcome) :
    withItem name text next = ⟨[], .error (.hex reason)⟩ := by
  rw [withItem, htext]

theorem withItem_of_ok {name text : String} {item : Item}
    (htext : Item.ofHex text = .ok item) (next : Item → Outcome) :
    withItem name text next = saying [operandEntry name item] (next item) := by
  rw [withItem, htext]

/-- Reading an operand says what the notes on it hold, if what comes next says
what the rest of them holds. -/
theorem messages_withItem {settings : Settings} {subcommand : Subcommand}
    {name text : String} {rest : List (String × String)} {next : Item → Outcome}
    (hnext : ∀ item, operandEntry name item :: (next item).messages =
      Note.entries settings
        (subcommand.notesOn name item ++ subcommand.notes rest)) :
    (withItem name text next).messages =
      Note.entries settings (subcommand.notes ((name, text) :: rest)) := by
  rw [Subcommand.notes]
  cases htext : Item.ofHex text with
  | error reason =>
      rw [withItem_of_error htext]
      rfl
  | ok item =>
      rw [withItem_of_ok htext]
      exact hnext item

theorem messages_decode (settings : Settings) (hex : String) :
    (decode settings hex).messages =
      Note.entries settings (Subcommand.decode.notes [("hex", hex)]) := by
  apply messages_withItem
  intro item
  obtain ⟨level, warn⟩ := settings
  cases hminimal : item.isMinimal with
  | true => cases warn <;> simp [Subcommand.notesOn, hminimal] <;> rfl
  | false => cases warn <;> simp [Subcommand.notesOn, hminimal] <;> rfl

theorem messages_truth (settings : Settings) (hex : String) :
    (truth hex).messages =
      Note.entries settings (Subcommand.truth.notes [("hex", hex)]) := by
  apply messages_withItem
  intro item
  rfl

theorem messages_cmp (settings : Settings) (left right : String) :
    (cmp left right).messages =
      Note.entries settings
        (Subcommand.cmp.notes [("left", left), ("right", right)]) := by
  apply messages_withItem
  intro a
  congr 1
  apply messages_withItem
  intro b
  rfl

/-- Settings have a part in what a request says, and only as a filter. -/
theorem messages_perform (settings : Settings) (request : Request) :
    (request.perform settings).messages =
      Note.entries settings request.notes := by
  cases request with
  | decode hex => exact messages_decode settings hex
  | encode number =>
      rw [Request.perform, encode]
      cases Decimal.parse number <;> rfl
  | truth hex => exact messages_truth settings hex
  | cmp left right => exact messages_cmp settings left right

theorem answer_perform (settings : Settings) (request : Request) :
    (request.perform settings).answer = request.answer := by
  cases request with
  | encode | truth | cmp => rfl
  | decode hex =>
      rw [Request.answer, Request.perform, Request.perform, decode, decode,
        withItem, withItem]
      cases Item.ofHex hex <;> rfl

/-- The report of a request that is answered beside a log. -/
def Request.reportWith (request : Request) (log : List Log.Entry) : Report :=
  match request.answer with
  | .error failure => failure.report log
  | .ok lines => ⟨0, lines, log, ""⟩

theorem reportWith_eq (request : Request) :
    ∃ code output errorText, ∀ log,
      request.reportWith log = ⟨code, output, log, errorText⟩ := by
  unfold Request.reportWith
  cases request.answer with
  | error failure => exact ⟨_, _, _, fun _ => rfl⟩
  | ok lines => exact ⟨_, _, _, fun _ => rfl⟩

theorem report_perform (settings : Settings) (request : Request) :
    (request.perform settings).report settings =
      request.reportWith (Log.shown settings.logLevel
        (Note.entries settings request.notes)) := by
  rw [Outcome.report, answer_perform, messages_perform]
  rfl

theorem run_of_resolve {source : Settings.Source} {words : List String}
    {invocation : Invocation} {settings : Settings}
    (hwords : Invocation.ofWords words = .ok invocation)
    (hsettings : Settings.resolve source invocation.settingsPath
      invocation.verbosity = .ok settings) :
    run source words = .ok (invocation.request.reportWith
      (Log.shown settings.logLevel
        (Note.entries settings invocation.request.notes))) := by
  rw [run, hwords, ← report_perform]
  change Except.ok (invocation.run source) = _
  rw [Invocation.run, hsettings]

theorem run_of_resolve_error {source : Settings.Source} {words : List String}
    {invocation : Invocation} {reason : Settings.Error}
    (hwords : Invocation.ofWords words = .ok invocation)
    (hsettings : Settings.resolve source invocation.settingsPath
      invocation.verbosity = .error reason) :
    run source words = .ok ((Failure.settings reason).report []) := by
  rw [run, hwords]
  change Except.ok (invocation.run source) = _
  rw [Invocation.run, hsettings]

/-- Asking for more messages adds to the log, if there are settings at all. -/
theorem run_louder (source : Settings.Source) {words louder : List String}
    {invocation : Invocation} {more : Nat}
    (hwords : Invocation.ofWords words = .ok invocation)
    (hlouder : Invocation.ofWords louder = .ok (invocation.louder more)) :
    ∃ report log, run source words = .ok report ∧
      run source louder = .ok { report with log := log } ∧
      report.log.Sublist log := by
  have hquiet := Settings.resolve_eq_map source invocation.settingsPath
    invocation.verbosity
  have hloud := Settings.resolve_eq_map source invocation.settingsPath
    (invocation.verbosity + more)
  cases hbase : Settings.base source invocation.settingsPath with
  | error reason =>
      rw [hbase] at hquiet hloud
      exact ⟨_, [], run_of_resolve_error hwords hquiet,
        run_of_resolve_error hlouder hloud, List.Sublist.refl _⟩
  | ok base =>
      rw [hbase] at hquiet hloud
      obtain ⟨code, output, errorText, hreport⟩ :=
        reportWith_eq invocation.request
      have hquietRun := run_of_resolve hwords hquiet
      have hloudRun := run_of_resolve hlouder hloud
      rw [Invocation.louder_request, hreport] at hloudRun
      rw [hreport] at hquietRun
      refine ⟨_, _, hquietRun, hloudRun, ?_⟩
      apply Log.shown_sublist_shown
      exact Log.Level.rank_raise_le_rank_raise base.logLevel
        (Nat.le_add_right invocation.verbosity more)

/-- Settings change the log alone.  What else a run shows is fixed by its
request, whatever the options and files, and its log is the notes that are
fixed by the request too, less the warning if that is not wanted and less what
the level hides.  Flags for more messages only add to the log. -/
theorem settings_change_log_alone :
    (∀ request : Request, ∃ code output errorText,
      ∀ source words invocation settings,
        Invocation.ofWords words = .ok invocation →
        invocation.request = request →
        Settings.resolve source invocation.settingsPath invocation.verbosity =
          .ok settings →
        run source words = .ok ⟨code, output, Log.shown settings.logLevel
          (Note.entries settings request.notes), errorText⟩) ∧
    (∀ source words louder invocation more,
      Invocation.ofWords words = .ok invocation →
      Invocation.ofWords louder = .ok (invocation.louder more) →
      ∃ report log, run source words = .ok report ∧
        run source louder = .ok { report with log := log } ∧
        report.log.Sublist log) ∧
    ∀ words invocation count, Invocation.ofWords words = .ok invocation →
      Invocation.ofWords (List.replicate count "-d" ++ words) =
        .ok (invocation.louder count) := by
  refine ⟨?_, ?_, ?_⟩
  · intro request
    obtain ⟨code, output, errorText, hreport⟩ := reportWith_eq request
    refine ⟨code, output, errorText, ?_⟩
    intro source words invocation settings hwords hrequest hsettings
    rw [run_of_resolve hwords hsettings, hrequest, hreport]
  · intro source words louder invocation more hwords hlouder
    exact run_louder source hwords hlouder
  · intro words invocation count hwords
    exact ofWords_flags count hwords

/-- A padded number three times: with the warning alone, with its bytes and no
warning, and with both. -/
theorem settings_change_log_alone_padded :
    ∃ code output errorText,
      run ⟨fun _ => .error .notFound, id⟩ ["decode", "0100"] =
        .ok ⟨code, output, [nonMinimalEntry ⟨[0x01, 0x00]⟩], errorText⟩ ∧
      run ⟨fun _ => .ok "warn_non_minimal = false".toUTF8, id⟩
          ["-c", "f", "-dd", "decode", "--", "0100"] =
        .ok ⟨code, output, [operandEntry "hex" ⟨[0x01, 0x00]⟩], errorText⟩ ∧
      ∃ report log,
        run ⟨fun _ => .error .notFound, id⟩ ["decode", "0100"] = .ok report ∧
        run ⟨fun _ => .error .notFound, id⟩ ["-d", "-d", "decode", "0100"] =
          .ok { report with log := log } ∧
        report.log.Sublist log := by
  obtain ⟨hanswer, hlouder, hflags⟩ := settings_change_log_alone
  obtain ⟨code, output, errorText, hruns⟩ := hanswer (.decode "0100")
  have hplain : Invocation.ofWords ["decode", "0100"] =
      .ok ⟨.decode "0100", 0, none⟩ := by decide +kernel
  have hfile : Invocation.ofWords ["-c", "f", "-dd", "decode", "--", "0100"] =
      .ok ⟨.decode "0100", 2, some "f"⟩ := by decide +kernel
  have hquiet := hruns ⟨fun _ => .error .notFound, id⟩ _ _ Settings.default
    hplain rfl (by decide +kernel)
  have hsilent := hruns ⟨fun _ => .ok "warn_non_minimal = false".toUTF8, id⟩ _ _
    ⟨.debug, false⟩ hfile rfl (by decide +kernel)
  have hwarning : Log.shown Settings.default.logLevel
      (Note.entries Settings.default (Request.decode "0100").notes) =
        [nonMinimalEntry ⟨[0x01, 0x00]⟩] := by decide +kernel
  have hbytes : Log.shown .debug
      (Note.entries ⟨.debug, false⟩ (Request.decode "0100").notes) =
        [operandEntry "hex" ⟨[0x01, 0x00]⟩] := by decide +kernel
  rw [hwarning] at hquiet
  rw [hbytes] at hsilent
  exact ⟨code, output, errorText, hquiet, hsilent,
    hlouder _ _ _ _ 2 hplain (hflags _ _ 2 hplain)⟩

end ScriptStack.Command
