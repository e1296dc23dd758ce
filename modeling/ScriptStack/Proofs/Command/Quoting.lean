import ScriptStack.Proofs.Text.Quoted
import ScriptStack.Settings.Overrides
/-!
Messages that quote what was refused: a character of a hexadecimal text, or the
name of a level.  They stay on one line whatever the input holds, and the input
can be told from them (`quotesInput_of_hidesControls`), for any choice of hidden
characters that has the controls and the separators in it.
-/

namespace ScriptStack.Hex

open ScriptStack.Text

theorem isOneLine_messageHiding {hidden : Char → Bool}
    (hcontrols : HidesControls hidden) (reason : Error) :
    IsOneLine (reason.messageHiding hidden) := by
  cases reason with
  | invalidChar c =>
      have hfront : IsOneLine "Invalid hex char " := by decide +kernel
      exact isOneLine_append hfront (isOneLine_quotedCharHiding hcontrols c)
  | oddLength =>
      have hwords : IsOneLine "Odd number of hex digits" := by decide +kernel
      exact hwords

theorem messageHiding_invalidChar_inj {hidden : Char → Bool} {c d : Char}
    (hmessage : (Error.invalidChar c).messageHiding hidden =
      (Error.invalidChar d).messageHiding hidden) :
    c = d :=
  quotedCharHiding_injective (String.append_right_inj _ |>.mp hmessage)

/-- The two kinds of errors begin with different letters. -/
theorem messageHiding_oddLength_ne (hidden : Char → Bool) (c : Char) :
    Error.oddLength.messageHiding hidden ≠
      (Error.invalidChar c).messageHiding hidden := by
  intro hmessage
  have hodd : "Odd number of hex digits".toList.head? = some 'O' := by
    decide +kernel
  have hinvalid : "Invalid hex char ".toList.head? = some 'I' := by
    decide +kernel
  have hhead := congrArg (fun text => text.toList.head?) hmessage
  change "Odd number of hex digits".toList.head? =
    ("Invalid hex char " ++ quotedCharHiding hidden c).toList.head? at hhead
  rw [String.toList_append, List.head?_append, hodd, hinvalid,
    Option.some_or] at hhead
  exact absurd (Option.some.inj hhead) (by decide)

end ScriptStack.Hex

namespace ScriptStack.Settings

open ScriptStack.Text

theorem isOneLine_unknownLevelHiding {hidden : Char → Bool}
    (hcontrols : HidesControls hidden) (name : String) :
    IsOneLine (unknownLevelHiding hidden name) := by
  have hfront : IsOneLine "Invalid log level " := by decide +kernel
  exact isOneLine_append hfront (isOneLine_quotedHiding hcontrols name)

theorem unknownLevelHiding_injective (hidden : Char → Bool) :
    Function.Injective (unknownLevelHiding hidden) := by
  intro name name' hmessage
  exact quotedHiding_injective (String.append_right_inj _ |>.mp hmessage)

theorem settings_of_unknownLevel {overrides : Overrides} {name : String}
    (hname : overrides.logLevel = some name)
    (hlevel : Log.Level.ofName? name = none) :
    overrides.settings = .error (.unknownLevel name) := by
  simp only [Overrides.settings, hname, hlevel, bind, Except.bind]

end ScriptStack.Settings

namespace ScriptStack.Command

open ScriptStack.Text

/-- What messages do that quote their input, given the wording of errors in
hexadecimal text and of refused names. -/
structure QuotesInput (hexMessage : Hex.Error → String)
    (levelMessage : String → String) : Prop where
  hex_isOneLine : ∀ text reason, Hex.parse text = .error reason →
    IsOneLine (hexMessage reason)
  eq_of_invalidChar : ∀ c d,
    hexMessage (.invalidChar c) = hexMessage (.invalidChar d) → c = d
  oddLength_ne : ∀ c, hexMessage .oddLength ≠ hexMessage (.invalidChar c)
  level_isOneLine : ∀ (overrides : Settings.Overrides) name,
    overrides.logLevel = some name → Log.Level.ofName? name = none →
      overrides.settings = .error (.unknownLevel name) ∧
        IsOneLine (levelMessage name)
  eq_of_unknownLevel : ∀ name name',
    levelMessage name = levelMessage name' → name = name'

/-- Hidden controls and separators are all that messages need to quote their
input safely. -/
theorem quotesInput_of_hidesControls {hidden : Char → Bool}
    (hcontrols : HidesControls hidden) :
    QuotesInput (Hex.Error.messageHiding hidden)
      (Settings.unknownLevelHiding hidden) where
  hex_isOneLine _ reason _ := Hex.isOneLine_messageHiding hcontrols reason
  eq_of_invalidChar _ _ := Hex.messageHiding_invalidChar_inj
  oddLength_ne := Hex.messageHiding_oddLength_ne hidden
  level_isOneLine _ name hname hlevel :=
    ⟨Settings.settings_of_unknownLevel hname hlevel,
      Settings.isOneLine_unknownLevelHiding hcontrols name⟩
  eq_of_unknownLevel _ _ hmessage :=
    Settings.unknownLevelHiding_injective hidden hmessage

/-- The messages of the tool quote their input.  Whatever character or name is
refused, the message that tells of it has no control character and no line break
in it, and no other character or name has the same message; nor is a message
about a character ever the one about an odd number of digits.  This does not
hang on which characters the tool hides, only on the controls and the separators
being hidden, as they are. -/
theorem messages_quote_input :
    QuotesInput Hex.Error.message
      (fun name => (Settings.Error.unknownLevel name).message) ∧
    (HidesControls isHidden ∧
      Hex.Error.message = Hex.Error.messageHiding isHidden ∧
      ∀ name, (Settings.Error.unknownLevel name).message =
        Settings.unknownLevelHiding isHidden name) ∧
    ∀ hidden, HidesControls hidden →
      QuotesInput (Hex.Error.messageHiding hidden)
        (Settings.unknownLevelHiding hidden) := by
  refine ⟨quotesInput_of_hidesControls hidesControls_isHidden,
    ⟨hidesControls_isHidden, rfl, ?_⟩, fun _ => quotesInput_of_hidesControls⟩
  intro name
  rfl

/-- A separator of lines in the middle of a byte, and a name with a line break
and the text of an escape in it. -/
theorem messages_quote_input_separator :
    HidesControls isHidden ∧
      Hex.parse "0\u20281" = .error (.invalidChar '\u2028') ∧
      IsOneLine (Hex.Error.message (.invalidChar '\u2028')) ∧
      Log.Level.ofName? "in\nfo\\n" = none ∧
      Settings.Overrides.settings ⟨some "in\nfo\\n", none⟩ =
        .error (.unknownLevel "in\nfo\\n") ∧
      IsOneLine (Settings.unknownLevelHiding isHidden "in\nfo\\n") := by
  have hparse : Hex.parse "0\u20281" = .error (.invalidChar '\u2028') := by
    decide +kernel
  have hlevel : Log.Level.ofName? "in\nfo\\n" = none := by decide +kernel
  obtain ⟨hquotes, ⟨hcontrols, -, -⟩, hhiding⟩ := messages_quote_input
  obtain ⟨hrefused, hline⟩ :=
    (hhiding isHidden hcontrols).level_isOneLine ⟨_, none⟩ _ rfl hlevel
  exact ⟨hcontrols, hparse, hquotes.hex_isOneLine _ _ hparse, hlevel, hrefused,
    hline⟩

end ScriptStack.Command
