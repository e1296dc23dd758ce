import ScriptStack.Proofs.Command.Verbosity
import ScriptStack.Proofs.Log.Name
import ScriptStack.Proofs.Log.Threshold
import ScriptStack.Proofs.Settings.Fault
/-!
The layers that settings are made of: defaults, what a file sets over them
(`settings_eq_ok_iff`), and steps towards more messages on top
(`resolve_eq_ok_iff`).
-/

namespace ScriptStack.Settings

/-- What is set where a file may be given: what the file holds, and nothing
without one. -/
inductive Holds (source : Source) : Option String → Overrides → Prop where
  | noFile : Holds source none Overrides.none
  | file {path text : String} {overrides : Overrides}
      (hread : Files.readText source.reader path = .ok text)
      (htext : Overrides.ofToml? text = some overrides) :
      Holds source (some path) overrides

/-- The level that overrides name, in capitals or small letters, or the default
level if they name none. -/
inductive HasLevel (overrides : Overrides) : Log.Level → Prop where
  | unset (hname : overrides.logLevel = none) : HasLevel overrides .warn
  | named {name : String} {level : Log.Level}
      (hname : overrides.logLevel = some name)
      (hlevel : name.toLower = level.smallName) :
      HasLevel overrides level

theorem hasLevel_iff_of_unset {overrides : Overrides}
    (hname : overrides.logLevel = none) (level : Log.Level) :
    HasLevel overrides level ↔ Log.Level.warn = level := by
  constructor
  · intro hlevel
    cases hlevel with
    | unset => rfl
    | named hother => exact absurd (hname.symm.trans hother) nofun
  · rintro rfl
    exact .unset hname

theorem hasLevel_iff_of_named {overrides : Overrides} {name : String}
    (hname : overrides.logLevel = some name) (level : Log.Level) :
    HasLevel overrides level ↔ Log.Level.ofName? name = some level := by
  rw [Log.Level.ofName?_eq_some_iff]
  constructor
  · intro hlevel
    cases hlevel with
    | unset hother => exact absurd (hname.symm.trans hother) nofun
    | named hother hsame =>
        obtain rfl := Option.some.inj (hname.symm.trans hother)
        exact hsame
  · exact .named hname

theorem settings_eq_ok_iff (overrides : Overrides) (settings : Settings) :
    overrides.settings = .ok settings ↔
      HasLevel overrides settings.logLevel ∧
        settings.warnNonMinimal = overrides.warnNonMinimal.getD true := by
  have hlayers (level : Log.Level) :
      (.ok ⟨level, overrides.warnNonMinimal.getD true⟩ :
          Except Error Settings) = .ok settings ↔
        level = settings.logLevel ∧
          settings.warnNonMinimal = overrides.warnNonMinimal.getD true := by
    rw [Except.ok.injEq, Settings.mk.injEq, eq_comm (b := warnNonMinimal _)]
  rw [Overrides.settings]
  cases hname : overrides.logLevel with
  | none =>
      rw [hasLevel_iff_of_unset hname]
      exact hlayers .warn
  | some name =>
      rw [hasLevel_iff_of_named hname]
      cases hlevel : Log.Level.ofName? name with
      | none =>
          simp only [hlevel, bind, Except.bind, reduceCtorEq, false_and]
      | some found =>
          simp only [hlevel, Option.some.injEq]
          exact hlayers found

theorem load_eq_ok_iff (source : Source) (path : String)
    (overrides : Overrides) :
    Overrides.load source path = .ok overrides ↔
      Holds source (some path) overrides := by
  constructor
  · intro hload
    rw [Overrides.load] at hload
    split at hload
    next => contradiction
    next text hread =>
      split at hload
      next => contradiction
      next found htext =>
        rw [← Except.ok.inj hload]
        exact .file hread htext
  · rintro (_ | ⟨hread, htext⟩)
    simp only [Overrides.load, hread, htext]

theorem base_eq_ok_iff (source : Source) (path : Option String)
    (settings : Settings) :
    base source path = .ok settings ↔
      ∃ overrides, Holds source path overrides ∧
        overrides.settings = .ok settings := by
  cases path with
  | none =>
      have hdefault : Overrides.none.settings = .ok Settings.default := rfl
      rw [base, ← hdefault]
      constructor
      · intro hsettings
        exact ⟨_, .noFile, hsettings⟩
      · rintro ⟨_, hnone, hsettings⟩
        cases hnone
        exact hsettings
  | some path =>
      rw [base, ofFile]
      constructor
      · intro hfile
        cases hload : Overrides.load source path with
        | error reason =>
            rw [hload] at hfile
            contradiction
        | ok overrides =>
            rw [hload] at hfile
            exact ⟨overrides, (load_eq_ok_iff ..).mp hload, hfile⟩
      · rintro ⟨overrides, hholds, hsettings⟩
        rw [(load_eq_ok_iff ..).mpr hholds]
        exact hsettings

theorem resolve_eq_ok_iff (source : Source) (path : Option String)
    (steps : Nat) (settings : Settings) :
    resolve source path steps = .ok settings ↔
      ∃ overrides level, Holds source path overrides ∧
        HasLevel overrides level ∧
        settings.logLevel.rank = min 5 (level.rank + steps) ∧
        settings.warnNonMinimal = overrides.warnNonMinimal.getD true := by
  have hresolve : resolve source path steps = .ok settings ↔
      ∃ below, base source path = .ok below ∧
        below.moreVerbose steps = settings := by
    rw [resolve_eq_map]
    cases base source path <;> simp [Except.map]
  simp only [hresolve, base_eq_ok_iff, settings_eq_ok_iff]
  constructor
  · rintro ⟨below, ⟨overrides, hholds, hlevel, hwarn⟩, rfl⟩
    exact ⟨overrides, below.logLevel, hholds, hlevel,
      below.logLevel.rank_raise steps, hwarn⟩
  · rintro ⟨overrides, level, hholds, hlevel, hrank, hwarn⟩
    refine ⟨⟨level, settings.warnNonMinimal⟩,
      ⟨overrides, hholds, hlevel, hwarn⟩, ?_⟩
    rw [← level.rank_raise steps] at hrank
    rw [moreVerbose, ← Log.Level.rank_injective hrank]

theorem moreVerbose_moreVerbose (settings : Settings) (steps more : Nat) :
    (settings.moreVerbose steps).moreVerbose more =
      settings.moreVerbose (steps + more) := by
  rw [moreVerbose, moreVerbose, moreVerbose, Log.Level.raise_raise]

/-- Further steps go on from where the first ones led. -/
theorem resolve_add (source : Source) (path : Option String)
    (steps more : Nat) :
    resolve source path (steps + more) =
      (resolve source path steps).map fun settings =>
        settings.moreVerbose more := by
  rw [resolve_eq_map, resolve_eq_map]
  cases base source path with
  | error reason => rfl
  | ok settings =>
      exact congrArg Except.ok
        (moreVerbose_moreVerbose settings steps more).symm

/-- A name that is refused is the one in the file, letter for letter. -/
theorem resolve_eq_unknownLevel_iff (source : Source)
    (path : Option String) (steps : Nat) (name : String) :
    resolve source path steps = .error (.unknownLevel name) ↔
      ∃ overrides, Holds source path overrides ∧
        overrides.logLevel = some name ∧
        name.toLower ∉ ["error", "warn", "info", "debug", "trace"] := by
  rw [resolve_eq_error_iff, ← Log.Level.isSome_ofName?_iff,
    Bool.not_eq_true, Option.isSome_eq_false_iff, Option.isNone_iff_eq_none]
  constructor
  · rintro ⟨file, rfl, hfault⟩
    cases hfault with
    | unknownLevel hread htext hname hlevel =>
        exact ⟨_, .file hread htext, hname, hlevel⟩
  · rintro ⟨overrides, hholds, hname, hlevel⟩
    cases hholds with
    | noFile => contradiction
    | file hread htext =>
        exact ⟨_, rfl, .unknownLevel hread htext hname hlevel⟩

/-- Settings are made of layers.  There are none just if a file is given and has
a fault, which is the same one however many steps are taken.  Otherwise the file
is laid over the defaults, the steps raise the level from there, as far as it
goes, and leave the rest alone.  The name of a level is taken in capitals or
small letters, and a refused one is reported as it is.  Steps add up, and each
flag of a call is one step. -/
theorem resolve_layers_settings (source : Source)
    (path : Option String) :
    (∀ steps reason, resolve source path steps = .error reason ↔
      ∃ file, path = some file ∧ Fault source file reason) ∧
    (∀ steps settings, resolve source path steps = .ok settings ↔
      ∃ overrides level, Holds source path overrides ∧
        HasLevel overrides level ∧
        settings.logLevel.rank = min 5 (level.rank + steps) ∧
        settings.warnNonMinimal = overrides.warnNonMinimal.getD true) ∧
    (∀ name, (Log.Level.ofName? name).isSome = true ↔
      name.toLower ∈ ["error", "warn", "info", "debug", "trace"]) ∧
    (∀ steps name, resolve source path steps = .error (.unknownLevel name) ↔
      ∃ overrides, Holds source path overrides ∧
        overrides.logLevel = some name ∧
        name.toLower ∉ ["error", "warn", "info", "debug", "trace"]) ∧
    (∀ steps more,
      resolve source path (steps + more) =
        (resolve source path steps).map fun settings =>
          settings.moreVerbose more) ∧
    (∀ (settings : Settings) more,
      settings.logLevel.rank ≤ (settings.moreVerbose more).logLevel.rank ∧
      (settings.moreVerbose more).warnNonMinimal = settings.warnNonMinimal) ∧
    ∀ words invocation count,
      Command.Invocation.ofWords words = .ok invocation →
      Command.Invocation.ofWords (List.replicate count "-d" ++ words) =
        .ok { invocation with verbosity := invocation.verbosity + count } := by
  refine ⟨resolve_eq_error_iff source path, resolve_eq_ok_iff source path,
    Log.Level.isSome_ofName?_iff, resolve_eq_unknownLevel_iff source path,
    resolve_add source path, ?_, ?_⟩
  · intro settings more
    refine ⟨?_, rfl⟩
    have hlevel := settings.logLevel.rank_le_five
    rw [moreVerbose, Log.Level.rank_raise]
    omega
  · intro words invocation count hwords
    exact Command.ofWords_flags count hwords

/-- A file that names its level in mixed letters, and more flags than levels. -/
theorem resolve_layers_settings_capped :
    (∃ settings, resolve ⟨fun _ => .ok "log_level = 'InFo'".toUTF8, id⟩
        (some "f") 9 = .ok settings ∧
      settings.logLevel.rank = 5 ∧ settings.warnNonMinimal = true) ∧
    Command.Invocation.ofWords ["-c", "f", "truth", "00"] =
      .ok ⟨.truth "00", 0, some "f"⟩ ∧
    Command.Invocation.ofWords
        (List.replicate 9 "-d" ++ ["-c", "f", "truth", "00"]) =
      .ok ⟨.truth "00", 9, some "f"⟩ := by
  obtain ⟨-, hlayers, -, -, -, -, hflags⟩ := resolve_layers_settings
    ⟨fun _ => .ok "log_level = 'InFo'".toUTF8, id⟩ (some "f")
  have hread : Files.readText (fun _ => .ok "log_level = 'InFo'".toUTF8) "f" =
      .ok "log_level = 'InFo'" := by decide +kernel
  have htext : Overrides.ofToml? "log_level = 'InFo'" =
      some ⟨some "InFo", none⟩ := by decide +kernel
  have hwords : Command.Invocation.ofWords ["-c", "f", "truth", "00"] =
      .ok ⟨.truth "00", 0, some "f"⟩ := by decide +kernel
  refine ⟨⟨⟨.trace, true⟩, ?_, rfl, rfl⟩, hwords, hflags _ _ 9 hwords⟩
  exact (hlayers 9 _).mpr ⟨_, .info, .file hread htext,
    .named rfl (by decide +kernel), rfl, rfl⟩

end ScriptStack.Settings
