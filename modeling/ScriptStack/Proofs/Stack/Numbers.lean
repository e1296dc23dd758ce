import ScriptStack.Proofs.Item.Truth
import ScriptStack.Proofs.Stack.Balance
/-!
A stack of items as a stack of numbers.  Read through `numbers`, every step is
a step on numbers alone (`numeric_apply`), and so is every run (`numeric_run`):
which of its spellings a number has on the stack makes no difference.
-/

namespace ScriptStack.Stack

/-- The numbers of the items, the top one first. -/
def numbers (stack : Stack) : List Int := stack.items.map Item.toInt

/-- An answer in which items are known by their numbers. -/
inductive NumberReply where
  | done
  | item (n : Int)
  | number (n : Int)
  | truth (b : Bool)
  | top (n? : Option Int)
  | size (n : Nat)
  deriving DecidableEq, Repr

structure NumberOutcome where
  reply : Except Error NumberReply
  numbers : List Int

/-- Takes the top number and answers what `view` makes of it. -/
def takingNumber (view : Int → NumberReply) : List Int → NumberOutcome
  | [] => ⟨.error .underflow, []⟩
  | n :: below => ⟨.ok (view n), below⟩

/-- What a step does to a stack of numbers. -/
def Step.applyNumbers (step : Step) (numbers : List Int) : NumberOutcome :=
  match step with
  | .push item => ⟨.ok .done, item.toInt :: numbers⟩
  | .pushNumber n => ⟨.ok .done, n :: numbers⟩
  | .pushBool b => ⟨.ok .done, (if b then 1 else 0) :: numbers⟩
  | .pop => takingNumber .item numbers
  | .popNumber => takingNumber .number numbers
  | .popBool => takingNumber (fun n => .truth (decide (n ≠ 0))) numbers
  | .peek => ⟨.ok (.top numbers.head?), numbers⟩
  | .size => ⟨.ok (.size numbers.length), numbers⟩
  | .isEmpty => ⟨.ok (.truth numbers.isEmpty), numbers⟩

def runNumbers (numbers : List Int) : List Step → List NumberOutcome
  | [] => []
  | step :: rest =>
      let outcome := step.applyNumbers numbers
      outcome :: runNumbers outcome.numbers rest

def Reply.numeric : Reply → NumberReply
  | .done => .done
  | .item taken => .item taken.toInt
  | .number n => .number n
  | .truth b => .truth b
  | .top top? => .top (top?.map Item.toInt)
  | .size n => .size n

def Outcome.numeric (outcome : Outcome) : NumberOutcome :=
  ⟨outcome.reply.map Reply.numeric, outcome.stack.numbers⟩

theorem numeric_pushing (item : Item) (stack : Stack) :
    (pushing item stack).numeric =
      ⟨.ok .done, item.toInt :: stack.numbers⟩ := rfl

theorem numeric_popping {view : Item → Reply} {numberView : Int → NumberReply}
    (hview : ∀ item, (view item).numeric = numberView item.toInt)
    (stack : Stack) :
    (popping view stack).numeric =
      takingNumber numberView stack.numbers := by
  obtain ⟨items⟩ := stack
  cases items with
  | nil => rfl
  | cons top below =>
      rw [popping_cons]
      simp [Outcome.numeric, Except.map, hview, numbers, takingNumber]

/-- A step on a stack does to its numbers what the step on numbers does. -/
theorem numeric_apply (step : Step) (stack : Stack) :
    (step.apply stack).numeric = step.applyNumbers stack.numbers := by
  cases step with
  | push item => exact numeric_pushing item stack
  | pushNumber n =>
      rw [Step.apply, numeric_pushing, Item.toInt_ofInt]
      rfl
  | pushBool b =>
      rw [Step.apply, numeric_pushing, Item.toInt_ofBool]
      rfl
  | pop => exact numeric_popping (fun _ => rfl) stack
  | popNumber => exact numeric_popping (fun _ => rfl) stack
  | popBool =>
      apply numeric_popping
      intro item
      rw [Item.isTrue_eq_decide]
      rfl
  | peek =>
      simp [Step.apply, looking, Outcome.numeric, Except.map, Reply.numeric,
        Step.applyNumbers, numbers, peek?]
  | size =>
      simp [Step.apply, looking, Outcome.numeric, Except.map, Reply.numeric,
        Step.applyNumbers, numbers, size]
  | isEmpty =>
      simp [Step.apply, looking, Outcome.numeric, Except.map, Reply.numeric,
        Step.applyNumbers, numbers, isEmpty]

/-- Step by step, a run on items is a run on their numbers. -/
theorem numeric_run (stack : Stack) (steps : List Step) :
    (run stack steps).map Outcome.numeric =
      runNumbers stack.numbers steps := by
  induction steps generalizing stack with
  | nil => rfl
  | cons step rest ih =>
      rw [run_cons, List.map_cons, ih, runNumbers, ← numeric_apply]
      rfl

/-- Two steps of which one stores another spelling of the number that the other
stores, or which are the same. -/
inductive Step.Respelled : Step → Step → Prop
  | same (step : Step) : Respelled step step
  | stored {step step' : Step} {item item' : Item}
      (hstored : step.stored? = some item)
      (hstored' : step'.stored? = some item')
      (hnumber : item.toInt = item'.toInt) : Respelled step step'

theorem applyNumbers_of_stored {step : Step} {item : Item}
    (hstored : step.stored? = some item) (numbers : List Int) :
    step.applyNumbers numbers = ⟨.ok .done, item.toInt :: numbers⟩ := by
  cases step with
  | push | pushNumber | pushBool =>
      obtain rfl := Option.some.inj hstored
      simp [Step.applyNumbers, Item.toInt_ofInt, Item.toInt_ofBool]
  | pop | popNumber | popBool | peek | size | isEmpty => contradiction

theorem Step.Respelled.applyNumbers_eq {step step' : Step}
    (hstep : Step.Respelled step step') (numbers : List Int) :
    step.applyNumbers numbers = step'.applyNumbers numbers := by
  cases hstep with
  | same => rfl
  | stored hstored hstored' hnumber =>
      rw [applyNumbers_of_stored hstored, applyNumbers_of_stored hstored',
        hnumber]

theorem runNumbers_respelled {steps steps' : List Step}
    (hsteps : List.Forall₂ Step.Respelled steps steps')
    (numbers : List Int) :
    runNumbers numbers steps = runNumbers numbers steps' := by
  induction hsteps generalizing numbers with
  | nil => rfl
  | cons hstep _ ih =>
      simp only [runNumbers]
      rw [hstep.applyNumbers_eq, ih]

/-- Whether an answer shows no bytes. -/
def Reply.showsNoBytes : Reply → Bool
  | .item _ | .top _ => false
  | _ => true

theorem Reply.numeric_inj {reply reply' : Reply}
    (hreply : reply.showsNoBytes = true)
    (hnumeric : reply.numeric = reply'.numeric) : reply = reply' := by
  cases reply <;> cases reply' <;> simp_all [numeric, showsNoBytes]

/-- Whether a step answers with a number, a truth value or a size. -/
def Step.readsNumbers : Step → Bool
  | .popNumber | .popBool | .size | .isEmpty => true
  | _ => false

theorem showsNoBytes_of_readsNumbers {step : Step}
    (hstep : step.readsNumbers = true) {stack : Stack} {reply : Reply}
    (hreply : (step.apply stack).reply = .ok reply) :
    reply.showsNoBytes = true := by
  obtain ⟨items⟩ := stack
  cases step with
  | popNumber | popBool =>
      cases items with
      | nil => cases hreply
      | cons =>
          cases hreply
          rfl
  | size | isEmpty =>
      cases hreply
      rfl
  | push | pushNumber | pushBool | pop | peek => cases hstep

/-- Answers of such steps are equal when they are equal as numbers. -/
theorem reply_eq_of_numeric_eq {step : Step}
    (hstep : step.readsNumbers = true) {stack : Stack} {outcome : Outcome}
    (hnumeric : (step.apply stack).numeric = outcome.numeric) :
    (step.apply stack).reply = outcome.reply := by
  have hreply := congrArg NumberOutcome.reply hnumeric
  simp only [Outcome.numeric] at hreply
  cases hleft : (step.apply stack).reply with
  | error reason =>
      cases hright : outcome.reply with
      | error reason' => rfl
      | ok reply' => simp [hleft, hright, Except.map] at hreply
  | ok reply =>
      cases hright : outcome.reply with
      | error reason' => simp [hleft, hright, Except.map] at hreply
      | ok reply' =>
          rw [hleft, hright] at hreply
          have hshown := showsNoBytes_of_readsNumbers hstep hleft
          rw [Reply.numeric_inj hshown (Except.ok.inj hreply)]

theorem replies_respelled (stack : Stack) {steps steps' : List Step}
    (hsteps : List.Forall₂ Step.Respelled steps steps') {index : Nat}
    {step : Step} (hindex : steps[index]? = some step)
    (hstep : step.readsNumbers = true) :
    (run stack steps)[index]?.map Outcome.reply =
      (run stack steps')[index]?.map Outcome.reply := by
  have hrun : (run stack steps).map Outcome.numeric =
      (run stack steps').map Outcome.numeric := by
    rw [numeric_run, numeric_run, runNumbers_respelled hsteps]
  have hat := congrArg (·[index]?) hrun
  simp only [List.getElem?_map] at hat
  rw [getElem?_run stack steps, hindex] at hat ⊢
  cases houtcome : (run stack steps')[index]? with
  | none => simp [houtcome] at hat
  | some outcome =>
      rw [houtcome] at hat
      exact congrArg some
        (reply_eq_of_numeric_eq hstep (Option.some.inj hat))

/-- Steps that balance in between do not change what is read back. -/
theorem reply_after_stored (stack : Stack) {opening closing : Step}
    {item : Item} {view : Item → Reply} {between : List Step}
    (hstored : opening.stored? = some item)
    (hview : closing.view? = some view) (hbetween : Balanced between) :
    (closing.apply (after stack (opening :: between))).reply =
      .ok (view item) := by
  have hpush := opening.isPush_iff.mpr ⟨item, hstored⟩
  have hmatching : Matching (opening :: between) [] opening between :=
    ⟨rfl, hpush, hbetween⟩
  exact reply_of_matching stack hmatching hstored hview

/-- A stack of items is a stack of numbers.  Every run gives step by step the
answers, refusals and numbers that the same steps give on the numbers alone;
another spelling of a stored number changes no answer that shows no bytes; and
what is stored as a number or a truth value is read back as either. -/
theorem run_refines_numbers :
    (∀ stack steps, (run stack steps).map Outcome.numeric =
      runNumbers stack.numbers steps) ∧
    (∀ stack steps steps', List.Forall₂ Step.Respelled steps steps' →
      ∀ (index : Nat) step, steps[index]? = some step →
        step.readsNumbers = true →
        (run stack steps)[index]?.map Outcome.reply =
          (run stack steps')[index]?.map Outcome.reply) ∧
    ∀ stack between, Balanced between → ∀ n b,
      (Step.popNumber.apply (after stack (.pushNumber n :: between))).reply =
        .ok (.number n) ∧
      (Step.popBool.apply (after stack (.pushNumber n :: between))).reply =
        .ok (.truth (decide (n ≠ 0))) ∧
      (Step.popNumber.apply (after stack (.pushBool b :: between))).reply =
        .ok (.number (if b then 1 else 0)) ∧
      (Step.popBool.apply (after stack (.pushBool b :: between))).reply =
        .ok (.truth b) := by
  refine ⟨numeric_run, ?_, ?_⟩
  · intro stack steps steps' hsteps index step hindex hstep
    exact replies_respelled stack hsteps hindex hstep
  · intro stack between hbetween n b
    refine ⟨?_, ?_, ?_, ?_⟩
    · rw [reply_after_stored stack rfl rfl hbetween, Item.toInt_ofInt]
    · rw [reply_after_stored stack rfl rfl hbetween, Item.isTrue_eq_decide,
        Item.toInt_ofInt]
    · rw [reply_after_stored stack rfl rfl hbetween, Item.toInt_ofBool]
    · rw [reply_after_stored stack rfl rfl hbetween, Item.isTrue_eq_decide,
        Item.toInt_ofBool]
      cases b <;> rfl

/-- Five and five with padding, and minus three read back as a truth value. -/
theorem run_refines_numbers_padded :
    (run Stack.empty [.push ⟨[5]⟩, .popNumber])[1]?.map Outcome.reply =
        (run Stack.empty [.push ⟨[5, 0, 0]⟩, .popNumber])[1]?.map
          Outcome.reply ∧
      (Step.popBool.apply (after Stack.empty
        [.pushNumber (-3), .pushBool false, .popNumber])).reply =
          .ok (.truth true) := by
  have hnumber : Item.toInt ⟨[5]⟩ = Item.toInt ⟨[5, 0, 0]⟩ := by decide
  have hsteps : List.Forall₂ Step.Respelled [.push ⟨[5]⟩, .popNumber]
      [.push ⟨[5, 0, 0]⟩, .popNumber] :=
    .cons (.stored rfl rfl hnumber) (.cons (.same _) .nil)
  refine ⟨run_refines_numbers.2.1 Stack.empty _ _ hsteps 1 .popNumber rfl rfl,
    ?_⟩
  exact (run_refines_numbers.2.2 Stack.empty [.pushBool false, .popNumber]
    (by decide) (-3) true).2.1

end ScriptStack.Stack
