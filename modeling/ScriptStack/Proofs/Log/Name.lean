import Mathlib.Tactic.SplitIfs
import ScriptStack.Log.Level
/-!
Names of levels.  A name is taken in any mix of ASCII capitals and small
letters, and in no other spelling (`ofName?_eq_some_iff`): whether it is made
of capitals or of small letters first, nothing else is lost (`toLower_toUpper`,
`toUpper_toLower`).
-/

namespace ScriptStack.Log

/-- Small letters are those from 97 to 122, and their capitals lie 32 below. -/
theorem toNat_toUpper (c : Char) :
    c.toUpper.toNat =
      if 97 ≤ c.toNat ∧ c.toNat ≤ 122 then c.toNat - 32 else c.toNat := by
  have hsum := UInt32.toNat_add c.val ('A'.val - 'a'.val)
  have hshift : ('A'.val - 'a'.val).toNat = 4294967264 := by decide
  rw [hshift, Char.toNat_val] at hsum
  delta Char.toUpper
  split
  next hsmall =>
    have hlow : 97 ≤ c.toNat := hsmall.1
    have hhigh : c.toNat ≤ 122 := hsmall.2
    rw [if_pos ⟨hlow, hhigh⟩]
    exact hsum.trans (by omega)
  next hother => exact (if_neg hother).symm

theorem toNat_toLower (c : Char) :
    c.toLower.toNat =
      if 65 ≤ c.toNat ∧ c.toNat ≤ 90 then c.toNat + 32 else c.toNat := by
  have hsum := UInt32.toNat_add c.val ('a'.val - 'A'.val)
  have hshift : ('a'.val - 'A'.val).toNat = 32 := by decide
  rw [hshift, Char.toNat_val] at hsum
  delta Char.toLower
  split
  next hcapital =>
    have hlow : 65 ≤ c.toNat := hcapital.1
    have hhigh : c.toNat ≤ 90 := hcapital.2
    rw [if_pos ⟨hlow, hhigh⟩]
    exact hsum.trans (by omega)
  next hother => exact (if_neg hother).symm

/-- A letter that is made a capital is not lost: its small letter is the same.
-/
theorem toLower_toUpper (c : Char) : c.toUpper.toLower = c.toLower := by
  apply Char.toNat_inj.mp
  rw [toNat_toLower, toNat_toLower, toNat_toUpper]
  split_ifs <;> omega

theorem toUpper_toLower (c : Char) : c.toLower.toUpper = c.toUpper := by
  apply Char.toNat_inj.mp
  rw [toNat_toUpper, toNat_toUpper, toNat_toLower]
  split_ifs <;> omega

namespace Level

/-- The name of a level in small letters. -/
def smallName : Level → String
  | .error => "error"
  | .warn => "warn"
  | .info => "info"
  | .debug => "debug"
  | .trace => "trace"

theorem rank_injective : Function.Injective rank := by
  intro level level' hrank
  cases level <;> cases level' <;> first | rfl | contradiction

/-- Capitals and small letters say the same of a name. -/
theorem map_toUpper_eq_iff (level : Level) (chars : List Char) :
    chars.map Char.toUpper = level.name.toList ↔
      chars.map Char.toLower = level.smallName.toList := by
  have hsmall : level.name.toList.map Char.toLower =
      level.smallName.toList := by
    cases level <;> decide
  have hcapital : level.smallName.toList.map Char.toUpper =
      level.name.toList := by
    cases level <;> decide
  constructor
  · intro hupper
    rw [← hsmall, ← hupper, List.map_map]
    exact List.map_congr_left fun c _ => (toLower_toUpper c).symm
  · intro hlower
    rw [← hcapital, ← hlower, List.map_map]
    exact List.map_congr_left fun c _ => (toUpper_toLower c).symm

theorem ofName?_eq_some_iff (text : String) (level : Level) :
    ofName? text = some level ↔ text.toLower = level.smallName := by
  have hlower : text.toLower.toList = text.toList.map Char.toLower :=
    String.toList_map
  rw [← String.toList_inj, hlower, ← map_toUpper_eq_iff]
  constructor
  · intro hfound
    have hname := List.find?_some hfound
    exact (eq_of_beq hname).symm
  · intro hupper
    rw [ofName?, hupper]
    cases level <;> decide

/-- The names that are taken, in small letters. -/
theorem isSome_ofName?_iff (text : String) :
    (ofName? text).isSome = true ↔
      text.toLower ∈ ["error", "warn", "info", "debug", "trace"] := by
  have hnames : ["error", "warn", "info", "debug", "trace"] =
      all.map smallName := rfl
  rw [Option.isSome_iff_exists, hnames, List.mem_map]
  constructor
  · rintro ⟨level, hlevel⟩
    refine ⟨level, by cases level <;> decide, ?_⟩
    exact ((ofName?_eq_some_iff text level).mp hlevel).symm
  · rintro ⟨level, -, hname⟩
    exact ⟨level, (ofName?_eq_some_iff text level).mpr hname.symm⟩

end Level

end ScriptStack.Log
