import Mathlib.Data.List.Perm.Basic
import ScriptStack.Proofs.Settings.Fault
import ScriptStack.Proofs.Toml.Flat
/-!
Layouts of a settings file.  The lines of the settings may stand in any order
with blank lines, comments and entries of other names around them
(`LaidOut`), and all such files hold the same settings (`load_of_laidOut`).
-/

namespace ScriptStack.Settings

open Toml

namespace Overrides

def levelWord : BareKey where
  chars := levelKey.toList
  ne_nil := by decide
  bare := by decide

def warnWord : BareKey where
  chars := warnKey.toList
  ne_nil := by decide
  bare := by decide

/-- The lines that overrides are written in, the level first. -/
def lines (overrides : Overrides) : List FlatLine :=
  (overrides.logLevel.map fun name => .entry levelWord (.text name)).toList ++
    (overrides.warnNonMinimal.map fun b =>
      .entry warnWord (.boolean b)).toList

end Overrides

/-- Whether a line sets anything. -/
def isSettingLine (line : FlatLine) : Bool :=
  line.keyValue?.any fun entry =>
    entry.1 == Overrides.levelKey || entry.1 == Overrides.warnKey

/-- A file with the lines of some overrides in any order, among lines that set
nothing. -/
inductive LaidOut (overrides : Overrides) : String → Prop where
  | of_lines (lines : List FlatLine)
      (hlines : (lines.filter isSettingLine).Perm overrides.lines) :
      LaidOut overrides (String.ofList (writeLines lines))

theorem Overrides.toToml_eq (overrides : Overrides) :
    overrides.toToml = String.ofList (writeLines overrides.lines) := by
  obtain ⟨level, warn⟩ := overrides
  cases level <;> cases warn <;>
    simp [toToml, lines, writeLine, writeLines, FlatLine.chars, levelWord,
      warnWord, Scalar.chars]

theorem Overrides.filter_lines (overrides : Overrides) :
    overrides.lines.filter isSettingLine = overrides.lines := by
  obtain ⟨level, warn⟩ := overrides
  cases level <;> cases warn <;> rfl

/-- The file as it is written is one of its layouts. -/
theorem LaidOut.toToml (overrides : Overrides) :
    LaidOut overrides overrides.toToml := by
  rw [overrides.toToml_eq]
  apply LaidOut.of_lines
  rw [overrides.filter_lines]

/-- The entries of a table with some key. -/
def entriesOf (key : String) (table : Table) : Table :=
  table.filter fun entry => entry.1 == key

/-- Lines that set nothing have no entry of a setting's key. -/
theorem entriesOf_filterMap {key : String}
    (hkey : key = Overrides.levelKey ∨ key = Overrides.warnKey)
    (lines : List FlatLine) :
    entriesOf key (lines.filterMap FlatLine.keyValue?) =
      entriesOf key
        ((lines.filter isSettingLine).filterMap FlatLine.keyValue?) := by
  rw [entriesOf, entriesOf, List.filterMap_filter, List.filter_filterMap,
    List.filter_filterMap]
  congr 1
  funext line
  cases hline : line.keyValue? with
  | none => simp
  | some entry =>
      by_cases hset : isSettingLine line = true
      · rw [if_pos hset]
      · have hname : (entry.1 == key) = false := by
          rw [beq_eq_false_iff_ne]
          rintro rfl
          exact hset (by simpa [isSettingLine, hline] using hkey)
        rw [if_neg hset, Option.filter_none, Option.filter_some,
          if_neg (Bool.eq_false_iff.mp hname)]

theorem eq_toList_of_perm {α : Type} {l : List α} {o : Option α}
    (h : l.Perm o.toList) : l = o.toList := by
  cases o with
  | none => exact h.eq_nil
  | some a => exact List.perm_singleton.mp h

/-- The line of a setting, if it is set, has an entry of that setting's key and
of no other. -/
theorem entriesOf_setting {α : Type} (key : String) (word : BareKey)
    (scalar : α → Scalar) (setting : Option α) :
    entriesOf key ((setting.map fun a =>
        FlatLine.entry word (scalar a)).toList.filterMap FlatLine.keyValue?) =
      if String.ofList word.chars = key then
        (setting.map fun a => (key, (scalar a).value)).toList
      else [] := by
  cases setting with
  | none => simp [entriesOf]
  | some a =>
      by_cases hkey : String.ofList word.chars = key
      · rw [if_pos hkey]
        simp [entriesOf, FlatLine.keyValue?, hkey]
      · rw [if_neg hkey]
        simp [entriesOf, FlatLine.keyValue?, hkey]

theorem entriesOf_lines (overrides : Overrides) (key : String) :
    entriesOf key (overrides.lines.filterMap FlatLine.keyValue?) =
      (if Overrides.levelKey = key then
        (overrides.logLevel.map fun name => (key, Value.text name)).toList
      else []) ++
      if Overrides.warnKey = key then
        (overrides.warnNonMinimal.map fun b => (key, Value.boolean b)).toList
      else [] := by
  have hlevel := entriesOf_setting key Overrides.levelWord .text
    overrides.logLevel
  have hwarn := entriesOf_setting key Overrides.warnWord .boolean
    overrides.warnNonMinimal
  rw [Overrides.levelWord, String.ofList_toList] at hlevel
  rw [Overrides.warnWord, String.ofList_toList] at hwarn
  rw [Overrides.lines, List.filterMap_append, entriesOf, List.filter_append]
  exact congrArg₂ (· ++ ·) hlevel hwarn

/-- A setting is read back from its one entry, or found missing where there is
none. -/
theorem field?_eq_some {α : Type} {key : String} {read : Value → Option α}
    {write : α → Value} (hread : ∀ a, read (write a) = some a)
    {table : Table} {setting : Option α}
    (htable : entriesOf key table =
      (setting.map fun a => (key, write a)).toList) :
    Overrides.field? key read table = some setting := by
  rw [entriesOf] at htable
  rw [Overrides.field?, htable]
  cases setting with
  | none => rfl
  | some a => simp [hread]

theorem ofToml?_of_laidOut {overrides : Overrides} {text : String}
    (htext : LaidOut overrides text) :
    Overrides.ofToml? text = some overrides := by
  obtain ⟨lines, hlines⟩ := htext
  have hentries {key : String}
      (hkey : key = Overrides.levelKey ∨ key = Overrides.warnKey) :
      (entriesOf key (lines.filterMap FlatLine.keyValue?)).Perm
        (entriesOf key (overrides.lines.filterMap FlatLine.keyValue?)) := by
    rw [entriesOf_filterMap hkey]
    exact (hlines.filterMap _).filter _
  have hlevel := hentries (Or.inl rfl)
  have hwarn := hentries (Or.inr rfl)
  rw [entriesOf_lines, if_pos rfl, if_neg (by decide), List.append_nil]
    at hlevel
  rw [entriesOf_lines, if_neg (by decide), if_pos rfl, List.nil_append] at hwarn
  rw [Overrides.ofToml?, ofText?_writeLines]
  simp only [Option.bind_eq_bind, Option.bind_some, Overrides.ofDocument?]
  rw [field?_eq_some ?text (eq_toList_of_perm hlevel),
    field?_eq_some ?boolean (eq_toList_of_perm hwarn)]
  case text => exact fun _ => rfl
  case boolean => exact fun _ => rfl
  rfl

theorem load_of_laidOut {overrides : Overrides} {source : Source}
    {path text : String} (htext : LaidOut overrides text)
    (hread : source.reader path = .ok text.toUTF8) :
    Overrides.load source path = .ok overrides := by
  simp only [Overrides.load, readText_of_toUTF8 hread, ofToml?_of_laidOut htext]

theorem resolve_of_load {overrides : Overrides} {source : Source}
    {path : String} (hload : Overrides.load source path = .ok overrides) :
    resolve source (some path) 0 = overrides.settings := by
  simp only [resolve, hload, bind, Except.bind]
  cases overrides.settings <;> rfl

/-- What is set in a file comes back from it, whatever text the name of the
level is.  The order of the two lines and what else stands between, before and
after them do not matter, and without more steps the settings for the file are
those that the overrides give. -/
theorem settings_survive_layout (overrides : Overrides) :
    (∀ (source : Source) (path : String),
      source.reader path = .ok overrides.toToml.toUTF8 →
        Overrides.load source path = .ok overrides) ∧
    LaidOut overrides overrides.toToml ∧
    ∀ (source : Source) (path text : String), LaidOut overrides text →
      source.reader path = .ok text.toUTF8 →
        Overrides.load source path = .ok overrides ∧
        resolve source (some path) 0 = overrides.settings := by
  refine ⟨?_, LaidOut.toToml overrides, ?_⟩
  · intro source path hread
    exact load_of_laidOut (LaidOut.toToml overrides) hread
  · intro source path text htext hread
    have hload := load_of_laidOut htext hread
    exact ⟨hload, resolve_of_load hload⟩

/-- A file with its settings in the other order and lines around them. -/
def swappedFile : String :=
  "# \"\nwarn_non_minimal = false\n \nk-1 = true\nlog_level = \"\\t\\\"#\"\n"

theorem settings_survive_layout_swapped :
    LaidOut ⟨some "\t\"#", some false⟩ swappedFile ∧
      Overrides.load ⟨fun _ => .ok swappedFile.toUTF8, id⟩ "a" =
        .ok ⟨some "\t\"#", some false⟩ ∧
      Overrides.load
          ⟨fun _ => .ok (Overrides.toToml ⟨some "\x7f\n", none⟩).toUTF8, id⟩
          "a" =
        .ok ⟨some "\x7f\n", none⟩ := by
  have htext : LaidOut ⟨some "\t\"#", some false⟩ swappedFile :=
    .of_lines
      [.comment [' ', '"'] (by decide),
        .entry Overrides.warnWord (.boolean false),
        .blank [' '] (by decide),
        .entry ⟨['k', '-', '1'], by decide, by decide⟩ (.boolean true),
        .entry Overrides.levelWord (.text "\t\"#")]
      (List.Perm.swap _ _ _)
  refine ⟨htext, ?_, (settings_survive_layout _).1 _ "a" rfl⟩
  exact ((settings_survive_layout _).2.2 _ "a" _ htext rfl).1

end ScriptStack.Settings
