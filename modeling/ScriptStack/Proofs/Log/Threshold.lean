import Mathlib.Data.List.Basic
import ScriptStack.Log.Entry
/-!
Levels as thresholds.  Steps towards more messages add to the rank up to the
last level (`rank_raise`), and a higher rank shows all that a lower one shows
(`shown_sublist_shown`).
-/

namespace ScriptStack.Log

theorem Level.rank_le_five (level : Level) : level.rank ≤ 5 := by
  cases level <;> decide

/-- One step goes up by one rank, and stays where there is none above. -/
theorem Level.rank_moreVerbose (level : Level) :
    level.moreVerbose.rank = min 5 (level.rank + 1) := by
  cases level <;> rfl

/-- Steps go up by as many ranks, as far as there are any. -/
theorem Level.rank_raise (level : Level) (steps : Nat) :
    (level.raise steps).rank = min 5 (level.rank + steps) := by
  induction steps with
  | zero =>
      have hlevel := level.rank_le_five
      change level.rank = min 5 level.rank
      omega
  | succ steps ih =>
      rw [raise, rank_moreVerbose, ih]
      omega

theorem Level.rank_raise_le_rank_raise (level : Level) {steps more : Nat}
    (hsteps : steps ≤ more) :
    (level.raise steps).rank ≤ (level.raise more).rank := by
  rw [rank_raise, rank_raise]
  omega

/-- Steps that are taken in two parts lead as far as all of them at once. -/
theorem Level.raise_raise (level : Level) (steps more : Nat) :
    (level.raise steps).raise more = level.raise (steps + more) := by
  induction more with
  | zero => rfl
  | succ more ih => rw [raise, ih, ← Nat.add_assoc, raise]

/-- A level hides nothing that a more urgent one shows, and leaves the order as
it is. -/
theorem shown_sublist_shown {low high : Level} (hrank : low.rank ≤ high.rank)
    (entries : List Entry) :
    (shown low entries).Sublist (shown high entries) := by
  apply List.monotone_filter_right
  intro entry hentry
  rw [Entry.shownAt, decide_eq_true_eq] at hentry ⊢
  exact Nat.le_trans hentry hrank

end ScriptStack.Log
