import ScriptStack.Stack.Step
/-!
Runs of steps.  Every step pushes an item, pops one or looks at the stack
(`Step.apply_cases`), and the step that follows some others in a run meets the
stack that they leave (`getElem?_run`).
-/

namespace ScriptStack.Stack

/-- The item that a step puts on the stack. -/
def Step.stored? : Step → Option Item
  | .push item => some item
  | .pushNumber n => some (Item.ofInt n)
  | .pushBool b => some (Item.ofBool b)
  | _ => none

/-- What a step answers for the item that it takes off the stack. -/
def Step.view? : Step → Option (Item → Reply)
  | .pop => some .item
  | .popNumber => some fun item => .number item.toInt
  | .popBool => some fun item => .truth item.isTrue
  | _ => none

def Step.isPush (step : Step) : Bool := step.stored?.isSome

def Step.isPop (step : Step) : Bool := step.view?.isSome

theorem Step.isPush_iff (step : Step) :
    step.isPush = true ↔ ∃ item, step.stored? = some item :=
  Option.isSome_iff_exists

theorem Step.isPop_iff (step : Step) :
    step.isPop = true ↔ ∃ view, step.view? = some view :=
  Option.isSome_iff_exists

/-- A step does one of three things: it puts an item on the stack, takes one
off, or looks at it. -/
theorem Step.apply_cases (step : Step) :
    (∃ item, step.stored? = some item ∧ step.view? = none ∧
        step.apply = pushing item) ∨
      (∃ view, step.stored? = none ∧ step.view? = some view ∧
        step.apply = popping view) ∨
      ∃ view, step.stored? = none ∧ step.view? = none ∧
        step.apply = looking view := by
  cases step with
  | push | pushNumber | pushBool => exact Or.inl ⟨_, rfl, rfl, rfl⟩
  | pop | popNumber | popBool => exact Or.inr (Or.inl ⟨_, rfl, rfl, rfl⟩)
  | peek | size | isEmpty => exact Or.inr (Or.inr ⟨_, rfl, rfl, rfl⟩)

theorem Step.apply_of_stored {step : Step} {item : Item}
    (hstored : step.stored? = some item) : step.apply = pushing item := by
  cases step with
  | push | pushNumber | pushBool =>
      obtain rfl := Option.some.inj hstored
      rfl
  | pop | popNumber | popBool | peek | size | isEmpty => contradiction

/-- What a step takes off the stack it answers with, in its own view. -/
theorem Step.apply_of_view {step : Step} {view : Item → Reply}
    (hview : step.view? = some view) : step.apply = popping view := by
  cases step with
  | pop | popNumber | popBool =>
      obtain rfl := Option.some.inj hview
      rfl
  | push | pushNumber | pushBool | peek | size | isEmpty => contradiction

@[simp] theorem popping_nil (view : Item → Reply) :
    popping view ⟨[]⟩ = ⟨.error .underflow, ⟨[]⟩, []⟩ := rfl

@[simp] theorem popping_cons (view : Item → Reply) (top : Item)
    (below : List Item) :
    popping view ⟨top :: below⟩ =
      ⟨.ok (view top), ⟨below⟩, [.popped top below.length]⟩ := rfl

@[simp] theorem run_nil (stack : Stack) : run stack [] = [] := rfl

@[simp] theorem run_cons (stack : Stack) (step : Step) (rest : List Step) :
    run stack (step :: rest) =
      step.apply stack :: run (step.apply stack).stack rest := rfl

@[simp] theorem after_nil (stack : Stack) : after stack [] = stack := rfl

@[simp] theorem after_cons (stack : Stack) (step : Step) (rest : List Step) :
    after stack (step :: rest) = after (step.apply stack).stack rest := rfl

/-- Steps go on from the stack that the steps before them leave. -/
theorem after_append (stack : Stack) (front rest : List Step) :
    after stack (front ++ rest) = after (after stack front) rest :=
  List.foldl_append

/-- A step of a run does what it does alone on the stack that the steps before
it leave. -/
theorem getElem?_run (stack : Stack) (steps : List Step) (index : Nat) :
    (run stack steps)[index]? = steps[index]?.map fun step =>
      step.apply (after stack (steps.take index)) := by
  induction steps generalizing stack index with
  | nil => simp
  | cons step rest ih =>
      cases index with
      | zero => rfl
      | succ index => exact ih (step.apply stack).stack index

theorem getElem?_run_append (stack : Stack) (front : List Step) (step : Step)
    (rest : List Step) :
    (run stack (front ++ step :: rest))[front.length]? =
      some (step.apply (after stack front)) := by
  rw [getElem?_run]
  simp

/-- Whether a step was refused. -/
def Outcome.refused (outcome : Outcome) : Bool :=
  match outcome.reply with
  | .error .underflow => true
  | .ok _ => false

theorem Outcome.refused_iff (outcome : Outcome) :
    outcome.refused = true ↔ outcome.reply = .error .underflow := by
  unfold refused
  split <;> simp_all

/-- Steps are refused in one situation only, and then nothing happens. -/
theorem refused_apply_iff (step : Step) (stack : Stack) :
    (step.apply stack).refused = true ↔
      step.isPop = true ∧ stack = Stack.empty := by
  obtain ⟨items⟩ := stack
  rcases step.apply_cases with
    ⟨_, _, hview, happly⟩ | ⟨_, _, hview, happly⟩ | ⟨_, _, hview, happly⟩
  · simp [happly, hview, pushing, Outcome.refused, Step.isPop]
  · cases items <;>
      simp [happly, hview, Outcome.refused, Step.isPop, Stack.empty]
  · simp [happly, hview, looking, Outcome.refused, Step.isPop]

/-- A refused step leaves the stack as it was and reports no event. -/
theorem apply_of_refused {step : Step} {stack : Stack}
    (hrefused : (step.apply stack).refused = true) :
    step.apply stack = ⟨.error .underflow, stack, []⟩ := by
  obtain ⟨hpop, rfl⟩ := (refused_apply_iff step stack).mp hrefused
  obtain ⟨view, hview⟩ := step.isPop_iff.mp hpop
  rw [Step.apply_of_view hview]
  rfl

end ScriptStack.Stack
