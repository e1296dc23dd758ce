import Mathlib.Data.List.Basic
import ScriptStack.Proofs.Hex.Writing
import ScriptStack.Proofs.Integer.Decimal
import ScriptStack.Proofs.Stack.Run
/-!
The journal of a run.  A line can be read back as the event that it tells
(`Event.ofText?_text`), and the events of a step lead from the stack before it
to the stack after it (`foldlM_redo?_apply`), so the lines of a run alone
rebuild its stack (`replay?_journal`).
-/

namespace ScriptStack.Stack

/-- What a step writes into the journal. -/
def Outcome.entries (outcome : Outcome) : List Log.Entry :=
  outcome.events.map Event.entry

def journal (outcomes : List Outcome) : List Log.Entry :=
  outcomes.flatMap Outcome.entries

/-- The line for an item that comes onto the stack or leaves it. -/
def changeLine (word : String) (item : Item) (depth : Nat) : String :=
  word ++ " StackValue(" ++ Hex.render item.bytes ++ "), depth " ++ depth.repr

/-- Reads an item and a depth as they stand in a line behind its first words,
and makes an event of them. -/
def readChange? (event : Item → Nat → Event) (chars : List Char) :
    Option Event := do
  let hex := chars.takeWhile (· != ')')
  let item ← (Item.ofHex (String.ofList hex)).toOption
  let depth ← (chars.dropWhile (· != ')')).dropPrefix? "), depth ".toList
  return event item (← (Decimal.magnitude depth).toOption)

/-- The event that a line tells. -/
def Event.ofText? (text : String) : Option Event :=
  match text.toList.dropPrefix? "push StackValue(".toList with
  | some chars => readChange? .pushed chars
  | none =>
      (text.toList.dropPrefix? "pop StackValue(".toList).bind
        (readChange? .popped)

/-- Makes the change of an event.  An item can be taken only if it is on top. -/
def redo? (stack : Stack) : Event → Option Stack
  | .pushed item _ => some (stack.push item)
  | .popped item _ => do
      let (top, below) ← stack.pop?
      if top = item then some below else none

/-- Makes the changes that some lines tell. -/
def replay? (stack : Stack) (lines : List String) : Option Stack :=
  lines.foldlM (fun current line => (Event.ofText? line).bind current.redo?)
    stack

theorem text_pushed (item : Item) (depth : Nat) :
    (Event.pushed item depth).text = changeLine "push" item depth := by
  rw [← String.toList_inj]
  simp [Event.text, Item.describe, Item.toHex, changeLine]

theorem text_popped (item : Item) (depth : Nat) :
    (Event.popped item depth).text = changeLine "pop" item depth := by
  rw [← String.toList_inj]
  simp [Event.text, Item.describe, Item.toHex, changeLine]

theorem toList_changeLine (word : String) (item : Item) (depth : Nat) :
    (changeLine word item depth).toList =
      (word ++ " StackValue(").toList ++ ((Hex.render item.bytes).toList ++
        ("), depth ".toList ++ Nat.toDigits 10 depth)) := by
  simp [changeLine]

/-- The parenthesis ends the bytes, for it is no digit. -/
theorem readChange?_of_line (event : Item → Nat → Event) (item : Item)
    (depth : Nat) :
    readChange? event ((Hex.render item.bytes).toList ++
      ("), depth ".toList ++ Nat.toDigits 10 depth)) =
        some (event item depth) := by
  have hhex : ∀ c ∈ (Hex.render item.bytes).toList, (c != ')') = true := by
    intro c hc
    have halphabet : (Hex.alphabet.all (· != ')')) = true := by decide
    exact List.all_eq_true.mp halphabet c (Hex.mem_alphabet_of_mem_render hc)
  have hitem : Item.ofHex (Hex.render item.bytes) = .ok item :=
    Item.ofHex_toHex item
  have htake : ("), depth ".toList ++ Nat.toDigits 10 depth).takeWhile
      (· != ')') = [] := rfl
  have hdrop : ("), depth ".toList ++ Nat.toDigits 10 depth).dropWhile
      (· != ')') = "), depth ".toList ++ Nat.toDigits 10 depth := rfl
  rw [readChange?, List.takeWhile_append_of_pos hhex, htake,
    List.dropWhile_append_of_pos hhex, hdrop, List.append_nil,
    String.ofList_toList, hitem,
    List.dropPrefix?_append_of_beq _ (beq_self_eq_true _)]
  change (Decimal.magnitude (Nat.toDigits 10 depth)).toOption.bind
    (fun read => some (event item read)) = some (event item depth)
  rw [Decimal.magnitude_toDigits]
  rfl

theorem Event.ofText?_text (event : Event) :
    Event.ofText? event.text = some event := by
  cases event with
  | pushed item depth =>
      have hfront : ("push" ++ " StackValue(").toList =
        "push StackValue(".toList := by decide
      rw [Event.ofText?, text_pushed, toList_changeLine, hfront,
        List.dropPrefix?_append_of_beq _ (beq_self_eq_true _)]
      exact readChange?_of_line .pushed item depth
  | popped item depth =>
      have hfront : ("pop" ++ " StackValue(").toList =
        "pop StackValue(".toList := by decide
      have hpush (rest : List Char) :
          ("pop StackValue(".toList ++ rest).dropPrefix?
            "push StackValue(".toList = none := rfl
      rw [Event.ofText?, text_popped, toList_changeLine, hfront, hpush,
        List.dropPrefix?_append_of_beq _ (beq_self_eq_true _)]
      simp only [Option.bind_some]
      exact readChange?_of_line .popped item depth

/-- A step does what its events tell. -/
theorem foldlM_redo?_apply (step : Step) (stack : Stack) :
    (step.apply stack).events.foldlM redo? stack =
      some (step.apply stack).stack := by
  obtain ⟨items⟩ := stack
  rcases step.apply_cases with
    ⟨_, _, _, happly⟩ | ⟨_, _, _, happly⟩ | ⟨_, _, _, happly⟩
  · rw [happly]
    rfl
  · rw [happly]
    cases items with
    | nil => rfl
    | cons top below => simp [redo?, pop?]
  · rw [happly]
    rfl

theorem entries_of_stored {step : Step} {item : Item}
    (hstored : step.stored? = some item) (stack : Stack) :
    (step.apply stack).stack = stack.push item ∧
      (step.apply stack).entries = [⟨.trace,
        changeLine "push" item (step.apply stack).stack.size⟩] := by
  rw [Step.apply_of_stored hstored]
  refine ⟨rfl, ?_⟩
  rw [← text_pushed]
  rfl

theorem entries_of_view {step : Step} {view : Item → Reply}
    (hview : step.view? = some view) {stack : Stack}
    (hanswered : (step.apply stack).reply ≠ .error .underflow) :
    ∃ item, stack = (step.apply stack).stack.push item ∧
      (step.apply stack).reply = .ok (view item) ∧
      (step.apply stack).entries = [⟨.trace,
        changeLine "pop" item (step.apply stack).stack.size⟩] := by
  obtain ⟨items⟩ := stack
  rw [Step.apply_of_view hview] at hanswered ⊢
  cases items with
  | nil => exact absurd rfl hanswered
  | cons top below =>
      refine ⟨top, rfl, rfl, ?_⟩
      rw [← text_popped]
      rfl

theorem entries_of_silent {step : Step} {stack : Stack}
    (hsilent : (step.apply stack).reply = .error .underflow ∨
      step.stored? = none ∧ step.view? = none) :
    (step.apply stack).entries = [] := by
  rcases hsilent with hrefused | ⟨hstored, hview⟩
  · rw [← Outcome.refused_iff] at hrefused
    rw [apply_of_refused hrefused]
    rfl
  · cases step with
    | push | pushNumber | pushBool => cases hstored
    | pop | popNumber | popBool => cases hview
    | peek | size | isEmpty => rfl

/-- Lines are redone like the events that they tell. -/
theorem replay?_entries (stack : Stack) (events : List Event) :
    replay? stack ((events.map Event.entry).map Log.Entry.text) =
      events.foldlM redo? stack := by
  have hline (current : Stack) (event : Event) :
      (Event.ofText? event.entry.text).bind current.redo? =
        current.redo? event := by
    rw [Event.entry, Event.ofText?_text, Option.bind_some]
  simp only [replay?, List.foldlM_map, hline]

theorem replay?_append (stack : Stack) (front rest : List String) :
    replay? stack (front ++ rest) =
      (replay? stack front).bind (replay? · rest) :=
  List.foldlM_append

theorem journal_cons (outcome : Outcome) (rest : List Outcome) :
    journal (outcome :: rest) = outcome.entries ++ journal rest := rfl

/-- The lines of a run lead from the stack before it to the one after it. -/
theorem replay?_journal (stack : Stack) (steps : List Step) :
    replay? stack ((journal (run stack steps)).map Log.Entry.text) =
      some (after stack steps) := by
  induction steps generalizing stack with
  | nil => rfl
  | cons step rest ih =>
      rw [run_cons, journal_cons, List.map_append, replay?_append,
        Outcome.entries, replay?_entries, foldlM_redo?_apply,
        Option.bind_some, ih, after_cons]

/-- The journal tells a run truly.  A push that stores an item and a pop that
takes one leave one line each, with the bytes of the item and the depth right
after the step; a refused pop and a look leave none.  The lines alone, redone
from the empty stack, give the final stack, and each item that a line says was
taken is the one that comes off. -/
theorem journal_tells_run (steps : List Step) :
    (∀ front step rest, steps = front ++ step :: rest →
      ∃ outcome, (run Stack.empty steps)[front.length]? = some outcome ∧
        outcome.stack = after Stack.empty (front ++ [step]) ∧
        (∀ item, step.stored? = some item →
          outcome.stack = (after Stack.empty front).push item ∧
          outcome.entries =
            [⟨.trace, changeLine "push" item outcome.stack.size⟩]) ∧
        (∀ view, step.view? = some view →
          outcome.reply ≠ .error .underflow →
          ∃ item, after Stack.empty front = outcome.stack.push item ∧
            outcome.reply = .ok (view item) ∧
            outcome.entries =
              [⟨.trace, changeLine "pop" item outcome.stack.size⟩]) ∧
        (outcome.reply = .error .underflow ∨
          step.stored? = none ∧ step.view? = none →
            outcome.entries = [])) ∧
    replay? Stack.empty
        ((journal (run Stack.empty steps)).map Log.Entry.text) =
      some (after Stack.empty steps) := by
  refine ⟨?_, replay?_journal Stack.empty steps⟩
  rintro front step rest rfl
  refine ⟨_, getElem?_run_append Stack.empty front step rest, ?_, ?_, ?_,
    entries_of_silent⟩
  · rw [after_append]
    rfl
  · intro item hstored
    exact entries_of_stored hstored _
  · intro view hview hanswered
    exact entries_of_view hview hanswered

/-- The line for five, taken as a truth value. -/
theorem journal_tells_run_pop :
    ∃ outcome, (run Stack.empty
        [.push ⟨[0x05]⟩, .popBool, .pop])[1]? = some outcome ∧
      outcome.reply ≠ .error .underflow ∧
      outcome.entries = [⟨.trace, "pop StackValue(05), depth 0"⟩] := by
  obtain ⟨outcome, hrun, -, -, hpop, -⟩ :=
    (journal_tells_run [.push ⟨[0x05]⟩, .popBool, .pop]).1
      [.push ⟨[0x05]⟩] .popBool [.pop] rfl
  obtain rfl := Option.some.inj hrun
  obtain ⟨item, hitem, -, hentries⟩ := hpop _ rfl (by decide)
  obtain rfl : ⟨[0x05]⟩ = item :=
    (List.cons.inj (Stack.mk.inj hitem)).1
  refine ⟨_, rfl, by decide, ?_⟩
  rw [hentries]
  decide +kernel

end ScriptStack.Stack
