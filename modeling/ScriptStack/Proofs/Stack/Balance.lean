import Mathlib.Data.List.Induction
import ScriptStack.Proofs.Stack.Depth
/-!
Which pop takes which push.  A push and a later pop belong together when the
steps between them are balanced; such a pop answers with the item of its push
(`reply_of_matching`).  A run takes from the stack what its first steps lack
and leaves what its pushes stored and no pop took (`items_after`).
-/

namespace ScriptStack.Stack

/-- As many pushes as pops, and at no time more pops than pushes. -/
structure Balanced (steps : List Step) : Prop where
  level : pushes steps = pops steps
  covered : ∀ front, front <+: steps → pops front ≤ pushes front

theorem balanced_iff (steps : List Step) :
    Balanced steps ↔
      rise steps = 0 ∧ ∀ front, front <+: steps → 0 ≤ rise front := by
  constructor
  · intro hbalanced
    refine ⟨?_, fun front hfront => ?_⟩
    · rw [rise, hbalanced.level, Int.sub_self]
    · have hcovered := hbalanced.covered front hfront
      rw [rise]
      omega
  · rintro ⟨hlevel, hcovered⟩
    refine ⟨?_, fun front hfront => ?_⟩
    · rw [rise] at hlevel
      omega
    · have hfront := hcovered front hfront
      rw [rise] at hfront
      omega

theorem Balanced.rise_eq_zero {steps : List Step} (hsteps : Balanced steps) :
    rise steps = 0 :=
  ((balanced_iff steps).mp hsteps).1

theorem Balanced.rise_nonneg {front rest : List Step}
    (hsteps : Balanced (front ++ rest)) : 0 ≤ rise front :=
  ((balanced_iff _).mp hsteps).2 front (List.prefix_append front rest)

theorem Balanced.deficit_eq_zero {steps : List Step}
    (hsteps : Balanced steps) : deficit steps = 0 := by
  obtain ⟨front, hfront, hrise⟩ := exists_neg_rise_eq_deficit steps
  have hcovered := ((balanced_iff steps).mp hsteps).2 front hfront
  omega

/-- Balanced steps end where they began and never reach below. -/
theorem balanced_iff_deficit (steps : List Step) :
    Balanced steps ↔ rise steps = 0 ∧ deficit steps = 0 := by
  constructor
  · intro hsteps
    exact ⟨hsteps.rise_eq_zero, hsteps.deficit_eq_zero⟩
  · rintro ⟨hlevel, hdeficit⟩
    refine (balanced_iff steps).mpr ⟨hlevel, fun front hfront => ?_⟩
    have hle := neg_rise_le_deficit hfront
    omega

instance : DecidablePred Balanced :=
  fun steps => decidable_of_iff _ (balanced_iff_deficit steps).symm

theorem Balanced.refusals_eq_zero {steps : List Step}
    (hsteps : Balanced steps) (stack : Stack) :
    refusals (run stack steps) = 0 := by
  rw [refusals_run, hsteps.deficit_eq_zero, Nat.zero_sub]

/-- The push whose item a pop after `front` takes: the steps after the push are
balanced. -/
structure Matching (front before : List Step) (opening : Step)
    (between : List Step) : Prop where
  split : front = before ++ opening :: between
  isPush : opening.isPush = true
  balanced : Balanced between

/-- Whether some step takes the item that was on top before the steps: a pop
with balanced steps before it. -/
def Taken (steps : List Step) : Prop :=
  ∃ between closing rest, steps = between ++ closing :: rest ∧
    closing.isPop = true ∧ Balanced between

/-- The first pop that is ahead of the pushes has balanced steps before it. -/
theorem taken_of_rise_neg {steps : List Step}
    (hneg : ∃ front, front <+: steps ∧ rise front < 0) : Taken steps := by
  induction steps using List.reverseRecOn with
  | nil =>
      obtain ⟨front, hfront, hrise⟩ := hneg
      rw [List.prefix_nil.mp hfront, rise_nil] at hrise
      omega
  | append_singleton steps step ih =>
      by_cases hearlier : ∃ front, front <+: steps ∧ rise front < 0
      · obtain ⟨between, closing, rest, rfl, hpop, hbetween⟩ := ih hearlier
        exact ⟨between, closing, rest ++ [step], by simp, hpop, hbetween⟩
      · obtain ⟨front, hfront, hrise⟩ := hneg
        rcases List.prefix_concat_iff.mp hfront with rfl | hfront
        · have hcovered : ∀ front, front <+: steps → 0 ≤ rise front :=
            fun front hfront =>
              Int.not_lt.mp fun hrise => hearlier ⟨front, hfront, hrise⟩
          have hsteps := hcovered steps List.prefix_rfl
          have hstep := step.neg_one_le_rise
          rw [rise_append, rise_singleton] at hrise
          refine ⟨steps, step, [], rfl, Step.isPop_of_rise (by omega), ?_⟩
          exact (balanced_iff steps).mpr ⟨by omega, hcovered⟩
        · exact absurd ⟨front, hfront, hrise⟩ hearlier

theorem taken_iff (steps : List Step) : Taken steps ↔ 0 < deficit steps := by
  constructor
  · rintro ⟨between, closing, rest, rfl, hpop, hbetween⟩
    have hfront : between ++ [closing] <+: between ++ closing :: rest :=
      ⟨rest, by simp⟩
    have hle := neg_rise_le_deficit hfront
    rw [rise_append, rise_singleton, hbetween.rise_eq_zero,
      Step.rise_of_pop hpop] at hle
    omega
  · intro hdeficit
    obtain ⟨front, hfront, hrise⟩ := exists_neg_rise_eq_deficit steps
    exact taken_of_rise_neg ⟨front, hfront, by omega⟩

instance : DecidablePred Taken :=
  fun steps => decidable_of_iff _ (taken_iff steps).symm

/-- The items that are stored and not taken by a later step, in the order in
which they are stored. -/
def leftOver : List Step → List Item
  | [] => []
  | step :: rest =>
      if Taken rest then leftOver rest
      else step.stored?.toList ++ leftOver rest

theorem deficit_of_push {step : Step} (hpush : step.isPush = true)
    (rest : List Step) : deficit (step :: rest) = deficit rest - 1 := by
  rw [deficit, Step.rise_of_push hpush]
  omega

theorem deficit_of_pop {step : Step} (hpop : step.isPop = true)
    (rest : List Step) : deficit (step :: rest) = deficit rest + 1 := by
  rw [deficit, Step.rise_of_pop hpop]
  omega

theorem deficit_of_look {step : Step} (hstored : step.stored? = none)
    (hview : step.view? = none) (rest : List Step) :
    deficit (step :: rest) = deficit rest := by
  rw [deficit, Step.rise_of_look hstored hview]
  omega

theorem leftOver_of_not_stored {step : Step} (hstored : step.stored? = none)
    (rest : List Step) : leftOver (step :: rest) = leftOver rest := by
  simp [leftOver, hstored]

/-- What a run leaves: below, the items that it never took, and on them those
that it stored and did not take back. -/
theorem items_after (stack : Stack) (steps : List Step) :
    (after stack steps).items =
      (leftOver steps).reverse ++ stack.items.drop (deficit steps) := by
  induction steps generalizing stack with
  | nil => simp [leftOver, deficit]
  | cons step rest ih =>
      obtain ⟨items⟩ := stack
      rw [after_cons, ih]
      rcases step.apply_cases with
        ⟨item, hstored, _, happly⟩ | ⟨view, hstored, hview, happly⟩ |
          ⟨view, hstored, hview, happly⟩
      · have hpush := step.isPush_iff.mpr ⟨item, hstored⟩
        rw [happly, deficit_of_push hpush]
        cases hdeficit : deficit rest with
        | zero =>
            have htaken : ¬ Taken rest := by
              rw [taken_iff]
              omega
            simp [leftOver, hstored, htaken, pushing, push]
        | succ lacking =>
            have htaken : Taken rest := by
              rw [taken_iff]
              omega
            simp [leftOver, htaken, pushing, push]
      · have hpop := step.isPop_iff.mpr ⟨view, hview⟩
        rw [happly, deficit_of_pop hpop, leftOver_of_not_stored hstored]
        cases items <;> simp
      · rw [happly, deficit_of_look hstored hview,
          leftOver_of_not_stored hstored]
        rfl

theorem items_after_empty (steps : List Step) :
    (after Stack.empty steps).items.reverse = leftOver steps := by
  rw [items_after]
  simp [Stack.empty]

example : leftOver [.pushBool true, .pop, .pop, .push ⟨[5]⟩, .peek] =
    [⟨[5]⟩] := by decide

theorem Balanced.leftOver_eq_nil {steps : List Step}
    (hsteps : Balanced steps) : leftOver steps = [] := by
  have hsize := size_after Stack.empty steps
  rw [hsteps.rise_eq_zero, hsteps.refusals_eq_zero] at hsize
  have hitems : (after Stack.empty steps).items = [] := by
    rw [← List.length_eq_zero_iff]
    simpa [size, Stack.empty] using hsize
  rw [← items_after_empty, hitems, List.reverse_nil]

/-- Balanced steps leave no trace on the stack. -/
theorem Balanced.after_eq {steps : List Step} (hsteps : Balanced steps)
    (stack : Stack) : after stack steps = stack := by
  have hitems := items_after stack steps
  rw [hsteps.leftOver_eq_nil, hsteps.deficit_eq_zero] at hitems
  exact congrArg Stack.mk hitems

/-- A pop answers with the item of its push. -/
theorem reply_of_matching (stack : Stack) {front before between : List Step}
    {opening closing : Step} {item : Item} {view : Item → Reply}
    (hmatching : Matching front before opening between)
    (hstored : opening.stored? = some item)
    (hview : closing.view? = some view) :
    (closing.apply (after stack front)).reply = .ok (view item) := by
  rw [hmatching.split, after_append, after_cons,
    hmatching.balanced.after_eq, Step.apply_of_stored hstored,
    Step.apply_of_view hview]
  rfl

/-- The last push that is ahead of the pops has balanced steps after it. -/
theorem exists_matching {front : List Step}
    (hpos : ∃ tail, tail <:+ front ∧ 0 < rise tail) :
    ∃ before opening between, Matching front before opening between := by
  induction front with
  | nil =>
      obtain ⟨tail, htail, hrise⟩ := hpos
      rw [List.suffix_nil.mp htail, rise_nil] at hrise
      omega
  | cons step front ih =>
      by_cases hlater : ∃ tail, tail <:+ front ∧ 0 < rise tail
      · obtain ⟨before, opening, between, rfl, hpush, hbetween⟩ := ih hlater
        exact ⟨step :: before, opening, between, rfl, hpush, hbetween⟩
      · obtain ⟨tail, htail, hrise⟩ := hpos
        rcases List.suffix_cons_iff.mp htail with rfl | htail
        · have hfalls : ∀ tail, tail <:+ front → rise tail ≤ 0 :=
            fun tail htail =>
              Int.not_lt.mp fun hrise => hlater ⟨tail, htail, hrise⟩
          have hfront := hfalls front List.suffix_rfl
          have hstep := step.rise_le_one
          rw [rise_cons] at hrise
          refine ⟨[], step, front, rfl, Step.isPush_of_rise (by omega), ?_⟩
          rw [balanced_iff]
          refine ⟨by omega, ?_⟩
          rintro first ⟨last, rfl⟩
          have hlast := hfalls last (List.suffix_append first last)
          rw [rise_append] at hrise hfront
          omega
        · exact absurd ⟨tail, htail, hrise⟩ hlater

/-- A push in front of balanced steps has no pop among them, so steps that end
in these are not balanced. -/
theorem not_balanced_of_push_inside {before between : List Step}
    {opening : Step} (hpush : opening.isPush = true)
    (hbetween : Balanced between) :
    ¬ Balanced (before ++ opening :: between) := by
  intro hbalanced
  have hlevel := hbalanced.rise_eq_zero
  have hbefore := hbalanced.rise_nonneg
  rw [rise_append, rise_cons, Step.rise_of_push hpush,
    hbetween.rise_eq_zero] at hlevel
  omega

theorem Matching.unique {front before between before' between' : List Step}
    {opening opening' : Step}
    (hmatching : Matching front before opening between)
    (hmatching' : Matching front before' opening' between') :
    before' = before ∧ opening' = opening ∧ between' = between := by
  have hsplit := hmatching'.split
  rw [hmatching.split] at hsplit
  rcases List.append_eq_append_iff.mp hsplit with
    ⟨gap, rfl, htail⟩ | ⟨gap, rfl, htail⟩
  · cases gap with
    | nil =>
        obtain ⟨rfl, rfl⟩ := List.cons_eq_cons.mp htail
        simp
    | cons step gap =>
        obtain ⟨rfl, rfl⟩ := List.cons_eq_cons.mp htail
        exact absurd hmatching.balanced (not_balanced_of_push_inside
          hmatching'.isPush hmatching'.balanced)
  · cases gap with
    | nil =>
        obtain ⟨rfl, rfl⟩ := List.cons_eq_cons.mp htail
        simp
    | cons step gap =>
        obtain ⟨rfl, rfl⟩ := List.cons_eq_cons.mp htail
        exact absurd hmatching'.balanced (not_balanced_of_push_inside
          hmatching.isPush hmatching.balanced)

theorem Balanced.exists_matching {front rest : List Step} {closing : Step}
    (hsteps : Balanced (front ++ closing :: rest))
    (hpop : closing.isPop = true) :
    ∃ before opening between, Matching front before opening between := by
  rw [← List.singleton_append, ← List.append_assoc] at hsteps
  have hrise := hsteps.rise_nonneg
  rw [rise_append, rise_singleton, Step.rise_of_pop hpop] at hrise
  exact Stack.exists_matching ⟨front, List.suffix_rfl, by omega⟩

/-- Balanced steps are all answered and leave the stack as it was, and each of
their pops answers with the item of the one push that it belongs to.  From the
empty stack any steps leave the items that no later pop takes, in the order in
which they were stored. -/
theorem pops_answer_matching_pushes :
    (∀ stack steps, Balanced steps →
      (∀ outcome ∈ run stack steps, outcome.reply ≠ .error .underflow) ∧
      (∀ front closing view rest, steps = front ++ closing :: rest →
        closing.view? = some view →
        ∃ before opening between item,
          Matching front before opening between ∧
          (∀ before' opening' between',
            Matching front before' opening' between' →
              before' = before ∧ opening' = opening ∧ between' = between) ∧
          opening.stored? = some item ∧
          ∃ outcome, (run stack steps)[front.length]? = some outcome ∧
            outcome.reply = .ok (view item)) ∧
      after stack steps = stack) ∧
    ∀ steps, (after Stack.empty steps).items.reverse = leftOver steps := by
  refine ⟨fun stack steps hsteps => ⟨?_, ?_, hsteps.after_eq stack⟩,
    items_after_empty⟩
  · intro outcome houtcome
    have hnone := List.countP_eq_zero.mp (hsteps.refusals_eq_zero stack)
    rw [ne_eq, ← outcome.refused_iff]
    exact hnone outcome houtcome
  · rintro front closing view rest rfl hview
    have hpop := closing.isPop_iff.mpr ⟨view, hview⟩
    obtain ⟨before, opening, between, hmatching⟩ := hsteps.exists_matching hpop
    obtain ⟨item, hstored⟩ := opening.isPush_iff.mp hmatching.isPush
    exact ⟨before, opening, between, item, hmatching,
      fun _ _ _ hmatching' => hmatching.unique hmatching', hstored,
      _, getElem?_run_append stack front closing rest,
      reply_of_matching stack hmatching hstored hview⟩

/-- A pop of a number with a push and a pop of a truth value before it. -/
theorem pops_answer_matching_pushes_nested :
    Balanced [.pushNumber 5, .pushBool true, .popBool, .peek, .popNumber] ∧
      ∃ outcome, (run ⟨[⟨[7]⟩]⟩ [.pushNumber 5, .pushBool true, .popBool,
          .peek, .popNumber])[4]? = some outcome ∧
        outcome.reply = .ok (.number (Item.ofInt 5).toInt) := by
  have hsteps : Balanced
      [.pushNumber 5, .pushBool true, .popBool, .peek, .popNumber] := by decide
  refine ⟨hsteps, ?_⟩
  obtain ⟨_, _, _, item, _, hunique, hstored, hreply⟩ :=
    (pops_answer_matching_pushes.1 ⟨[⟨[7]⟩]⟩ _ hsteps).2.1
      [.pushNumber 5, .pushBool true, .popBool, .peek] .popNumber _ [] rfl rfl
  obtain ⟨-, rfl, -⟩ := hunique [] (.pushNumber 5)
    [.pushBool true, .popBool, .peek] ⟨rfl, rfl, by decide⟩
  obtain rfl := Option.some.inj hstored
  exact hreply

end ScriptStack.Stack
