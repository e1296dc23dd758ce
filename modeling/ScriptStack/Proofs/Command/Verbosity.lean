import Mathlib.Tactic.SplitIfs
import ScriptStack.Command.Invocation
/-!
Flags that ask for more messages.  Some of them in front of other words change
nothing of the call that those spell but how often more messages are asked for
(`ofWords_flags`).
-/

namespace ScriptStack.Command

/-- The same call with more messages asked for. -/
def Invocation.louder (invocation : Invocation) (more : Nat) : Invocation :=
  { invocation with verbosity := invocation.verbosity + more }

@[simp]
theorem Invocation.louder_request (invocation : Invocation) (more : Nat) :
    (invocation.louder more).request = invocation.request := rfl

/-- What is read of an option word when one more flag stands before it. -/
def raised (read : Options × Bool) : Options × Bool := (read.1.raise, read.2)

theorem readCluster_raise (options : Options) (letters : List Char) :
    readCluster options.raise letters =
      (readCluster options letters).map raised := by
  induction letters generalizing options with
  | nil => rfl
  | cons c rest ih =>
      rw [readCluster, readCluster]
      by_cases hd : c = 'd'
      · rw [if_pos hd, if_pos hd]
        exact ih options.raise
      · rw [if_neg hd, if_neg hd]
        split_ifs <;> rfl

theorem readLong_raise (options : Options) (word : String) :
    readLong options.raise word = (readLong options word).map raised := by
  rw [readLong, readLong]
  cases splitLong word with
  | mk name value =>
      cases value <;> (dsimp only; split_ifs <;> rfl)

/-- Whether a call is refused does not depend on its flags. -/
theorem call_raise (options : Options) (request : Request) :
    options.raise.call request =
      (options.call request).map (·.louder 1) := by
  obtain ⟨verbosity, pathOptions, paths⟩ := options
  cases paths <;> (dsimp only [Options.call, Options.raise]; split_ifs <;> rfl)

/-- A flag is added to what the words after it are read as; none of them is read
otherwise for it. -/
theorem readWords_raise (options : Options) (awaiting : Bool)
    (words : List String) :
    readWords options.raise awaiting words =
      (readWords options awaiting words).map (·.louder 1) := by
  induction words generalizing options awaiting with
  | nil => rfl
  | cons word rest ih =>
      rw [readWords, readWords]
      by_cases hvalue : (awaiting && !startsOption word) = true
      · rw [if_pos hvalue, if_pos hvalue]
        exact ih (options.addPath word) false
      · rw [if_neg hvalue, if_neg hvalue]
        by_cases hhelp : word = "help"
        · rw [if_pos hhelp, if_pos hhelp]
          rfl
        · rw [if_neg hhelp, if_neg hhelp]
          cases Subcommand.ofName? word with
          | some subcommand =>
              dsimp only
              cases readOperands subcommand [] rest with
              | error usage => rfl
              | ok request => exact call_raise options request
          | none =>
              dsimp only
              by_cases hdashes : word = "--"
              · rw [if_pos hdashes, if_pos hdashes]
                rfl
              · rw [if_neg hdashes, if_neg hdashes]
                by_cases hlong : isLong word = true
                · rw [if_pos hlong, if_pos hlong, readLong_raise]
                  cases readLong options word with
                  | error usage => rfl
                  | ok next => exact ih next.1 next.2
                · rw [if_neg hlong, if_neg hlong]
                  by_cases hcluster : isCluster word = true
                  · rw [if_pos hcluster, if_pos hcluster, readCluster_raise]
                    cases readCluster options (word.toList.drop 1) with
                    | error usage => rfl
                    | ok next => exact ih next.1 next.2
                  · rw [if_neg hcluster, if_neg hcluster]
                    rfl

theorem ofWords_flag (words : List String) :
    Invocation.ofWords ("-d" :: words) =
      (Invocation.ofWords words).map (·.louder 1) := by
  rw [Invocation.ofWords, readWords]
  exact readWords_raise Options.none false words

/-- Each flag in front asks for more messages once more. -/
theorem ofWords_flags (count : Nat) {words : List String}
    {invocation : Invocation}
    (hwords : Invocation.ofWords words = .ok invocation) :
    Invocation.ofWords (List.replicate count "-d" ++ words) =
      .ok (invocation.louder count) := by
  induction count with
  | zero => exact hwords
  | succ count ih =>
      rw [List.replicate_succ, List.cons_append, ofWords_flag, ih]
      rfl

end ScriptStack.Command
