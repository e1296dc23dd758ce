import ScriptStack.Settings.Overrides
/-!
What can be wrong with a settings file.  There are settings just if the file
has no fault (`resolve_eq_error_iff`), and steps towards more messages change
nothing but the level (`resolve_eq_map`).
-/

namespace ScriptStack.Settings

theorem readText_of_toUTF8 {reader : Files.Reader} {path text : String}
    (hread : reader path = .ok text.toUTF8) :
    Files.readText reader path = .ok text := by
  have hdecode : String.fromUTF8? text.toUTF8 = some text :=
    dif_pos text.isValidUTF8
  simp only [Files.readText, hread, bind, Except.bind, hdecode]

/-- A fault of the settings file at a path.  Each one is looked for in a file
that does not have those before it, and is told with its cause: the words of the
system, those of the reader of the format, or the name. -/
inductive Fault (source : Source) (path : String) : Error → Prop where
  | unreadable {cause : Files.Error}
      (hread : Files.readText source.reader path = .error cause) :
      Fault source path (.unreadable cause)
  | invalidFile {text : String}
      (hread : Files.readText source.reader path = .ok text)
      (htext : Overrides.ofToml? text = none) :
      Fault source path (.invalidFile (source.explain text))
  | unknownLevel {text name : String} {overrides : Overrides}
      (hread : Files.readText source.reader path = .ok text)
      (htext : Overrides.ofToml? text = some overrides)
      (hname : overrides.logLevel = some name)
      (hlevel : Log.Level.ofName? name = none) :
      Fault source path (.unknownLevel name)

/-- The settings in a file, before any step towards more messages. -/
def ofFile (source : Source) (path : String) : Except Error Settings := do
  (← Overrides.load source path).settings

theorem Fault.ofFile_eq {source : Source} {path : String}
    {reason : Error} (hfault : Fault source path reason) :
    ofFile source path = .error reason := by
  cases hfault with
  | unreadable hread => rw [ofFile, Overrides.load, hread]; rfl
  | invalidFile hread htext =>
      simp only [ofFile, Overrides.load, hread, htext]
      rfl
  | unknownLevel hread htext hname hlevel =>
      simp only [ofFile, Overrides.load, hread, htext, bind, Except.bind,
        Overrides.settings, hname, hlevel]

/-- A file has settings in it, or it has a fault. -/
theorem exists_ofFile_eq_or_fault (source : Source) (path : String) :
    (∃ settings, ofFile source path = .ok settings) ∨
      ∃ reason, Fault source path reason := by
  cases hread : Files.readText source.reader path with
  | error cause => exact Or.inr ⟨_, .unreadable hread⟩
  | ok text =>
      cases htext : Overrides.ofToml? text with
      | none => exact Or.inr ⟨_, .invalidFile hread htext⟩
      | some overrides =>
          have hfile : ofFile source path = overrides.settings := by
            simp only [ofFile, Overrides.load, hread, htext]
            rfl
          rw [hfile, Overrides.settings]
          cases hname : overrides.logLevel with
          | none => exact Or.inl ⟨_, rfl⟩
          | some name =>
              cases hlevel : Log.Level.ofName? name with
              | none =>
                  exact Or.inr ⟨_, .unknownLevel hread htext hname hlevel⟩
              | some level =>
                  left
                  simp only [hlevel]
                  exact ⟨_, rfl⟩

/-- A file gives no settings just for the fault that it has. -/
theorem ofFile_eq_error_iff (source : Source) (path : String)
    (reason : Error) :
    ofFile source path = .error reason ↔ Fault source path reason := by
  constructor
  · intro hfile
    rcases exists_ofFile_eq_or_fault source path with
      ⟨settings, hsettings⟩ | ⟨found, hfault⟩
    · exact absurd (hfile.symm.trans hsettings) nofun
    · obtain rfl := Except.error.inj (hfile.symm.trans hfault.ofFile_eq)
      exact hfault
  · exact Fault.ofFile_eq

/-- The settings before any step towards more messages. -/
def base (source : Source) : Option String → Except Error Settings
  | none => .ok Settings.default
  | some path => ofFile source path

/-- Steps are taken from the settings that there are without any. -/
theorem resolve_eq_map (source : Source) (path : Option String)
    (steps : Nat) :
    resolve source path steps =
      (base source path).map fun settings => settings.moreVerbose steps := by
  cases path with
  | none => rfl
  | some path =>
      rw [resolve, base, ofFile]
      cases Overrides.load source path with
      | error reason => rfl
      | ok overrides =>
          change (overrides.settings >>= _) = overrides.settings.map _
          cases overrides.settings <;> rfl

theorem base_eq_error_iff (source : Source) (path : Option String)
    (reason : Error) :
    base source path = .error reason ↔
      ∃ file, path = some file ∧ Fault source file reason := by
  cases path with
  | none => simp [base]
  | some file => simp [base, ofFile_eq_error_iff]

/-- There are no settings just if a file is given and has a fault, however many
steps are taken. -/
theorem resolve_eq_error_iff (source : Source) (path : Option String)
    (steps : Nat) (reason : Error) :
    resolve source path steps = .error reason ↔
      ∃ file, path = some file ∧ Fault source file reason := by
  rw [← base_eq_error_iff, resolve_eq_map]
  cases base source path with
  | error found => exact Iff.rfl
  | ok settings => exact ⟨nofun, nofun⟩

theorem Fault.resolve_ne_ok {source : Source} {path : String} {reason : Error}
    (hfault : Fault source path reason) (steps : Nat) (settings : Settings) :
    resolve source (some path) steps ≠ .ok settings := by
  rw [(resolve_eq_error_iff ..).mpr ⟨path, rfl, hfault⟩]
  simp only [ne_eq, reduceCtorEq, not_false_eq_true]

end ScriptStack.Settings
