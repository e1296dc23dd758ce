import Mathlib.Order.Bounds.Basic
import ScriptStack.Proofs.Stack.Run
/-!
The depth of a stack along a run.  It rises and falls with the steps, but never
below zero: a pop from the empty stack is refused and counts for nothing
(`size_apply`).  How many steps are refused is the most by which pops are ahead
of pushes at any time, `deficit`.
-/

namespace ScriptStack.Stack

def pushes (steps : List Step) : Nat := steps.countP Step.isPush

/-- How many steps try to take an item. -/
def pops (steps : List Step) : Nat := steps.countP Step.isPop

/-- How far a step raises the depth when it is not refused. -/
def Step.rise (step : Step) : Int :=
  if step.isPush then 1 else if step.isPop then -1 else 0

/-- The most by which pops are ahead of pushes in a first part of the steps:
how many items a run needs for every step to be answered. -/
def deficit : List Step → Nat
  | [] => 0
  | step :: rest => (deficit rest - step.rise).toNat

def refusals (outcomes : List Outcome) : Nat :=
  outcomes.countP Outcome.refused

theorem Step.rise_of_push {step : Step} (hpush : step.isPush = true) :
    step.rise = 1 := by
  rw [rise, if_pos hpush]

theorem Step.rise_of_pop {step : Step} (hpop : step.isPop = true) :
    step.rise = -1 := by
  cases step with
  | pop | popNumber | popBool => rfl
  | push | pushNumber | pushBool | peek | size | isEmpty => contradiction

theorem Step.rise_of_look {step : Step} (hstored : step.stored? = none)
    (hview : step.view? = none) : step.rise = 0 := by
  simp [rise, isPush, isPop, hstored, hview]

theorem Step.isPush_of_rise {step : Step} (hrise : 0 < step.rise) :
    step.isPush = true := by
  by_contra hpush
  rw [rise, if_neg hpush] at hrise
  split at hrise <;> omega

theorem Step.isPop_of_rise {step : Step} (hrise : step.rise < 0) :
    step.isPop = true := by
  by_contra hpop
  rw [rise, if_neg hpop] at hrise
  split at hrise <;> omega

theorem Step.rise_le_one (step : Step) : step.rise ≤ 1 := by
  unfold rise
  repeat' split
  all_goals decide

theorem Step.neg_one_le_rise (step : Step) : -1 ≤ step.rise := by
  unfold rise
  repeat' split
  all_goals decide

/-- How far the steps raise the depth when none of them is refused. -/
def rise (steps : List Step) : Int := pushes steps - pops steps

@[simp] theorem rise_nil : rise [] = 0 := rfl

theorem rise_singleton (step : Step) : rise [step] = step.rise := by
  rcases step.apply_cases with
    ⟨_, hstored, hview, _⟩ | ⟨_, hstored, hview, _⟩ | ⟨_, hstored, hview, _⟩ <;>
  simp [rise, pushes, pops, Step.rise, Step.isPush, Step.isPop, hstored, hview]

theorem rise_append (front rest : List Step) :
    rise (front ++ rest) = rise front + rise rest := by
  simp only [rise, pushes, pops, List.countP_append]
  omega

@[simp] theorem rise_cons (step : Step) (rest : List Step) :
    rise (step :: rest) = step.rise + rise rest := by
  rw [← rise_singleton, ← rise_append, List.singleton_append]

/-- What steps lack is what all but the first of them lack, less what that one
brings. -/
theorem cast_deficit_cons (step : Step) (rest : List Step) :
    (deficit (step :: rest) : Int) = max (deficit rest - step.rise) 0 :=
  Int.toNat_eq_max _

/-- One step on the depth: a walk that is reflected at zero, where a refusal
makes up for the rest. -/
theorem size_apply (step : Step) (stack : Stack) :
    ((step.apply stack).stack.size : Int) = max (stack.size + step.rise) 0 ∧
      ((step.apply stack).stack.size : Int) =
        stack.size + step.rise + refusals [step.apply stack] := by
  rcases step.apply_cases with
    ⟨item, hstored, _, happly⟩ | ⟨view, _, hview, happly⟩ |
      ⟨view, hstored, hview, happly⟩
  · have hrise := Step.rise_of_push (step.isPush_iff.mpr ⟨item, hstored⟩)
    have hsize : (pushing item stack).stack.size = stack.size + 1 := rfl
    have hrefusals : refusals [pushing item stack] = 0 := rfl
    rw [happly]
    omega
  · have hrise := Step.rise_of_pop (step.isPop_iff.mpr ⟨view, hview⟩)
    obtain ⟨items⟩ := stack
    rw [happly, hrise]
    cases items with
    | nil => exact ⟨rfl, rfl⟩
    | cons top below =>
        have hsize : size ⟨top :: below⟩ =
          (popping view ⟨top :: below⟩).stack.size + 1 := rfl
        have hrefusals : refusals [popping view ⟨top :: below⟩] = 0 := rfl
        omega
  · have hrise := Step.rise_of_look hstored hview
    have hrefusals : refusals [looking view stack] = 0 := rfl
    have hsize : (looking view stack).stack.size = stack.size := rfl
    rw [happly]
    omega

theorem refusals_cons (outcome : Outcome) (rest : List Outcome) :
    refusals (outcome :: rest) = refusals [outcome] + refusals rest := by
  rw [← List.singleton_append, refusals, List.countP_append]
  rfl

/-- A stack that is deep enough for the steps refuses none of them, and each
item that it lacks costs one refusal. -/
theorem refusals_run (stack : Stack) (steps : List Step) :
    refusals (run stack steps) = deficit steps - stack.size := by
  induction steps generalizing stack with
  | nil => simp [refusals, deficit]
  | cons step rest ih =>
      obtain ⟨hreflected, hrefused⟩ := size_apply step stack
      have hdeficit := cast_deficit_cons step rest
      rw [run_cons, refusals_cons, ih]
      omega

/-- What was pushed and not popped is on the stack, but a refused pop took
nothing. -/
theorem size_after (stack : Stack) (steps : List Step) :
    ((after stack steps).size : Int) =
      stack.size + rise steps + refusals (run stack steps) := by
  induction steps generalizing stack with
  | nil => simp [refusals]
  | cons step rest ih =>
      have hstep := (size_apply step stack).2
      rw [after_cons, run_cons, refusals_cons, ih, rise_cons]
      omega

theorem neg_rise_le_deficit {front steps : List Step}
    (hfront : front <+: steps) : -rise front ≤ deficit steps := by
  induction steps generalizing front with
  | nil =>
      rw [List.prefix_nil.mp hfront]
      simp
  | cons step rest ih =>
      rcases List.prefix_cons_iff.mp hfront with rfl | ⟨front, rfl, hrest⟩
      · simp
      · have hle := ih hrest
        have hdeficit := cast_deficit_cons step rest
        rw [rise_cons]
        omega

/-- The deficit is reached by some steps from the front on. -/
theorem exists_neg_rise_eq_deficit (steps : List Step) :
    ∃ front, front <+: steps ∧ -rise front = deficit steps := by
  induction steps with
  | nil => exact ⟨[], List.prefix_rfl, rfl⟩
  | cons step rest ih =>
      have hdeficit := cast_deficit_cons step rest
      obtain ⟨front, hfront, hrise⟩ := ih
      by_cases hahead : 0 ≤ (deficit rest : Int) - step.rise
      · refine ⟨step :: front, (List.prefix_cons_inj step).mpr hfront, ?_⟩
        rw [rise_cons]
        omega
      · refine ⟨[], List.nil_prefix, ?_⟩
        rw [rise_nil]
        omega

/-- From the empty stack there are as many refusals as pops are ever ahead of
pushes, and they make up the difference in the final depth.  Pops are refused
when the stack is empty and in no other case, and nothing is refused but pops.
A refused step leaves the stack as it is and causes no event. -/
theorem refusals_accounted (steps : List Step) :
    IsGreatest {lead : Int | ∃ front, front <+: steps ∧
        lead = pops front - pushes front}
      (refusals (run Stack.empty steps)) ∧
    ((after Stack.empty steps).size : Int) =
      pushes steps - pops steps + refusals (run Stack.empty steps) ∧
    ∀ front step rest, steps = front ++ step :: rest →
      ∃ outcome, (run Stack.empty steps)[front.length]? = some outcome ∧
        (outcome.reply = .error .underflow ↔
          step.isPop = true ∧ after Stack.empty front = Stack.empty) ∧
        (outcome.reply = .error .underflow →
          outcome.stack = after Stack.empty front ∧ outcome.events = []) := by
  have hrefusals := refusals_run Stack.empty steps
  have hempty : Stack.empty.size = 0 := rfl
  rw [hempty, Nat.sub_zero] at hrefusals
  refine ⟨⟨?_, ?_⟩, ?_, ?_⟩
  · obtain ⟨front, hfront, hrise⟩ := exists_neg_rise_eq_deficit steps
    refine ⟨front, hfront, ?_⟩
    rw [hrefusals, ← hrise, rise]
    omega
  · rintro lead ⟨front, hfront, rfl⟩
    have hle := neg_rise_le_deficit hfront
    rw [hrefusals]
    rw [rise] at hle
    omega
  · have hsize := size_after Stack.empty steps
    rw [rise, hempty] at hsize
    omega
  · rintro front step rest rfl
    refine ⟨_, getElem?_run_append Stack.empty front step rest, ?_, ?_⟩
    · rw [← Outcome.refused_iff, refused_apply_iff]
    · intro hrefused
      rw [← Outcome.refused_iff] at hrefused
      rw [apply_of_refused hrefused]
      exact ⟨rfl, rfl⟩

/-- Two refusals with a push between them. -/
theorem refusals_accounted_twice :
    ∃ outcome, (run Stack.empty
        [.pop, .pushBool true, .popNumber, .popBool])[3]? = some outcome ∧
      outcome.reply = .error .underflow ∧ outcome.stack = Stack.empty ∧
      outcome.events = [] := by
  obtain ⟨outcome, hrun, hrefused, hkept⟩ := (refusals_accounted _).2.2
    [.pop, .pushBool true, .popNumber] .popBool [] rfl
  have hreply := hrefused.mpr ⟨rfl, rfl⟩
  exact ⟨outcome, hrun, hreply, hkept hreply⟩

end ScriptStack.Stack
