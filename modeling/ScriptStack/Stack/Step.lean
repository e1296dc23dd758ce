import ScriptStack.Stack.Basic
/-!
Operations on a stack and runs of them.  An operation gives its answer, the stack after it and the
events it caused.  A refused operation changes nothing and causes no event, and the run goes on.
-/

namespace ScriptStack.Stack

inductive Step where
  | push (item : Item)
  | pushNumber (n : Int)
  | pushBool (b : Bool)
  | pop
  | popNumber
  | popBool
  | peek
  | size
  | isEmpty
  deriving DecidableEq, Repr

inductive Reply where
  | done
  | item (item : Item)
  | number (n : Int)
  | truth (b : Bool)
  | top (item? : Option Item)
  | size (n : Nat)
  deriving DecidableEq, Repr

structure Outcome where
  reply : Except Error Reply
  stack : Stack
  events : List Event

def pushing (item : Item) (stack : Stack) : Outcome :=
  ⟨.ok .done, stack.push item, [.pushed item (stack.size + 1)]⟩

/-- Takes the top item off the stack and answers what `view` makes of it. -/
def popping (view : Item → Reply) (stack : Stack) : Outcome :=
  match stack.pop? with
  | none => ⟨.error .underflow, stack, []⟩
  | some (item, below) => ⟨.ok (view item), below, [.popped item below.size]⟩

def looking (view : Stack → Reply) (stack : Stack) : Outcome :=
  ⟨.ok (view stack), stack, []⟩

def Step.apply : Step → Stack → Outcome
  | .push item => pushing item
  | .pushNumber n => pushing (Item.ofInt n)
  | .pushBool b => pushing (Item.ofBool b)
  | .pop => popping .item
  | .popNumber => popping fun item => .number item.toInt
  | .popBool => popping fun item => .truth item.isTrue
  | .peek => looking fun stack => .top stack.peek?
  | .size => looking fun stack => .size stack.size
  | .isEmpty => looking fun stack => .truth stack.isEmpty

/-- The effects of some operations, one after the other. -/
def run (stack : Stack) : List Step → List Outcome
  | [] => []
  | step :: rest =>
      let outcome := step.apply stack
      outcome :: run outcome.stack rest

def after (stack : Stack) (steps : List Step) : Stack :=
  steps.foldl (fun current step => (step.apply current).stack) stack

end ScriptStack.Stack
