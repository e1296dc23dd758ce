import Mathlib.Data.List.Basic
import ScriptStack.Proofs.Command.Operands
/-!
Spellings of a call.  Flags and the option for a settings file have short and
long forms, and a cluster of short ones may end in the option.  Reading a form
adds what the form says and nothing else (`readWords_form`), so all spellings
of a call are read as that call (`readWords_forms`, `Spelling.readOperands_eq`).
No option is the value of the one in front of it (`ofWords_of_missing_value`).
-/

namespace ScriptStack.Command

/-- A settings path that begins with neither a hyphen nor an equals sign. -/
structure PathWord where
  word : String
  ne_empty : word ≠ ""
  no_hyphen : word.toList.head? ≠ some '-'
  no_equals : word.toList.head? ≠ some '='

/-- How a value follows the letter of its option. -/
inductive Joint where
  /-- As the next word. -/
  | apart
  | glued
  | equals

/-- One way to write flags or the settings path. -/
inductive OptionForm where
  /-- A cluster of flags, with `more` of them before the last one. -/
  | shortFlags (more : Nat)
  | longFlag
  /-- A cluster of flags that ends in the letter of the path. -/
  | short (flags : Nat) (joint : Joint) (path : PathWord)
  | longApart (path : PathWord)
  | longEquals (path : PathWord)

/-- A hyphen, some flags and more letters. -/
def cluster (flags : Nat) (letters : List Char) : String :=
  String.ofList ('-' :: (List.replicate flags 'd' ++ letters))

namespace OptionForm

def words : OptionForm → List String
  | .shortFlags more => [cluster more ['d']]
  | .longFlag => ["--debug"]
  | .short flags .apart path => [cluster flags ['c'], path.word]
  | .short flags .glued path => [cluster flags ('c' :: path.word.toList)]
  | .short flags .equals path =>
      [cluster flags ('c' :: '=' :: path.word.toList)]
  | .longApart path => ["--config", path.word]
  | .longEquals path => ["--config=" ++ path.word]

def flagCount : OptionForm → Nat
  | .shortFlags more => more + 1
  | .longFlag => 1
  | .short flags _ _ => flags
  | .longApart _ | .longEquals _ => 0

def path? : OptionForm → Option String
  | .shortFlags _ | .longFlag => none
  | .short _ _ path | .longApart path | .longEquals path => some path.word

/-- The flags of all forms together. -/
def totalFlags : List OptionForm → Nat
  | [] => 0
  | form :: forms => form.flagCount + totalFlags forms

end OptionForm

/-- The words of a call: options in any order, the subcommand and as many
operands as it takes, which may be any words behind `--`. -/
structure Spelling where
  options : List OptionForm
  subcommand : Subcommand
  dashes : Bool
  operands : List String
  one_path : (options.filterMap OptionForm.path?).length ≤ 1
  all_operands : operands.length = subcommand.operandNames.length
  plain_operands : dashes = false →
    ∀ word ∈ operands, word.toList.head? ≠ some '-' ∧ word ≠ "help"

namespace Spelling

def words (spelling : Spelling) : List String :=
  spelling.options.flatMap OptionForm.words ++ spelling.subcommand.name ::
    if spelling.dashes then "--" :: spelling.operands else spelling.operands

def flagCount (spelling : Spelling) : Nat :=
  OptionForm.totalFlags spelling.options

def path? (spelling : Spelling) : Option String :=
  (spelling.options.filterMap OptionForm.path?).head?

end Spelling

/-- Options with more flags and paths behind those they have. -/
def Options.plus (options : Options) (flags : Nat) (paths : List String) :
    Options :=
  ⟨options.verbosity + flags, options.pathOptions + paths.length,
    options.settingsPaths ++ paths⟩

theorem Options.plus_plus (options : Options) (flags flags' : Nat)
    (paths paths' : List String) :
    (options.plus flags paths).plus flags' paths' =
      options.plus (flags + flags') (paths ++ paths') := by
  simp [plus, Nat.add_assoc]

/-- Flags in front of other letters of a cluster are counted and passed over. -/
theorem readCluster_flags (options : Options) (flags : Nat)
    (letters : List Char) :
    readCluster options (List.replicate flags 'd' ++ letters) =
      readCluster (options.plus flags []) letters := by
  induction flags generalizing options with
  | zero => simp [Options.plus]
  | succ flags ih =>
      have hraise : options.raise = options.plus 1 [] := by
        simp [Options.raise, Options.plus]
      rw [List.replicate_succ, List.cons_append, readCluster, if_pos rfl, ih,
        hraise, Options.plus_plus, Nat.add_comm, List.append_nil]

theorem ofName?_eq_none_of_hyphen {word : String}
    (hhead : word.toList.head? = some '-') :
    Subcommand.ofName? word = none := by
  rw [Subcommand.ofName?, List.find?_eq_none]
  intro subcommand _ hname
  obtain rfl := eq_of_beq hname
  cases subcommand <;> exact absurd hhead (by decide)

theorem ne_help_of_hyphen {word : String}
    (hhead : word.toList.head? = some '-') : word ≠ "help" := by
  rintro rfl
  exact absurd hhead (by decide)

/-- A long option is read, and then the rest with what it leaves awaited. -/
theorem readWords_long {word : String} {options : Options}
    {next : Options × Bool} (hlong : isLong word = true)
    (hread : readLong options word = .ok next) (rest : List String) :
    readWords options false (word :: rest) = readWords next.1 next.2 rest := by
  have hhead : word.toList.head? = some '-' := by
    unfold isLong at hlong
    split at hlong
    next hword => rw [hword]; rfl
    next => contradiction
  have hdashes : word ≠ "--" := by
    rintro rfl
    exact absurd hlong (by decide)
  rw [readWords, Bool.false_and, if_neg Bool.false_ne_true,
    if_neg (ne_help_of_hyphen hhead)]
  simp only [ofName?_eq_none_of_hyphen hhead, if_neg hdashes, if_pos hlong,
    hread]

theorem toList_cluster (flags : Nat) (letters : List Char) :
    (cluster flags letters).toList =
      '-' :: (List.replicate flags 'd' ++ letters) :=
  String.toList_ofList

theorem exists_toList_cluster (flags : Nat) {letter : Char}
    (hletter : letter ≠ '-') (letters : List Char) :
    ∃ first rest, first ≠ '-' ∧
      (cluster flags (letter :: letters)).toList = '-' :: first :: rest := by
  rw [toList_cluster]
  cases flags with
  | zero => exact ⟨letter, letters, hletter, rfl⟩
  | succ flags => exact ⟨'d', _, by decide, rfl⟩

/-- A cluster is read behind its flags, and then the rest. -/
theorem readWords_cluster {options : Options} {flags : Nat} {letter : Char}
    {letters : List Char} {next : Options × Bool} (hletter : letter ≠ '-')
    (hread : readCluster (options.plus flags []) (letter :: letters) =
      .ok next) (rest : List String) :
    readWords options false (cluster flags (letter :: letters) :: rest) =
      readWords next.1 next.2 rest := by
  have hletters : readCluster options
      ((cluster flags (letter :: letters)).toList.drop 1) = .ok next := by
    rw [toList_cluster, List.drop_one, List.tail_cons, readCluster_flags, hread]
  obtain ⟨first, tail, hfirst, hword⟩ :=
    exists_toList_cluster flags hletter letters
  generalize cluster flags (letter :: letters) = word at hletters hword ⊢
  have hhead : word.toList.head? = some '-' := by rw [hword]; rfl
  have hlong : isLong word ≠ true := by
    rw [isLong, hword]
    split
    next hdashes =>
      exact absurd (List.cons.inj (List.cons.inj hdashes).2).1 hfirst
    next => exact Bool.false_ne_true
  have hcluster : isCluster word = true := by
    rw [isCluster, hword]
    simpa using hfirst
  have hdashes : word ≠ "--" := by
    rintro rfl
    exact absurd hcluster (by decide)
  rw [readWords, Bool.false_and, if_neg Bool.false_ne_true,
    if_neg (ne_help_of_hyphen hhead)]
  simp only [ofName?_eq_none_of_hyphen hhead, if_neg hdashes, if_neg hlong,
    if_pos hcluster, hletters]

/-- Where a value is awaited, a word that begins no option is the value. -/
theorem readWords_value (options : Options) {word : String}
    (hword : startsOption word = false) (rest : List String) :
    readWords options.openPath true (word :: rest) =
      readWords (options.plus 0 [word]) false rest := by
  rw [readWords, hword, Bool.not_false, Bool.and_true, if_pos rfl]
  rfl

/-- Where a value is awaited, a word that begins an option is read as one all
the same. -/
theorem readWords_option (options : Options) {word : String}
    (hword : startsOption word = true) (rest : List String) :
    readWords options true (word :: rest) =
      readWords options false (word :: rest) := by
  rw [readWords, readWords, hword]
  rfl

theorem PathWord.not_startsOption (path : PathWord) :
    startsOption path.word = false := by
  have hhead := path.no_hyphen
  unfold startsOption
  split
  next hword =>
    rw [hword] at hhead
    exact absurd rfl hhead
  next => rfl

theorem PathWord.toList_ne_nil (path : PathWord) : path.word.toList ≠ [] :=
  fun hnil => path.ne_empty (String.toList_eq_nil_iff.mp hnil)

theorem PathWord.valueOf_toList (path : PathWord) :
    valueOf path.word.toList = path.word := by
  have hequals := path.no_equals
  have hdrop : path.word.toList.dropWhile (· == '=') = path.word.toList := by
    cases hword : path.word.toList with
    | nil => rfl
    | cons c rest =>
        rw [hword] at hequals
        apply List.dropWhile_cons_of_neg
        simpa using hequals
  rw [valueOf, hdrop, String.ofList_toList]

theorem PathWord.valueOf_equals (path : PathWord) :
    valueOf ('=' :: path.word.toList) = path.word := by
  have hvalue := path.valueOf_toList
  rwa [valueOf, List.dropWhile_cons_of_pos (by decide)]

theorem readCluster_path (options : Options) {chars : List Char}
    (hne : chars ≠ []) :
    readCluster options ('c' :: chars) =
      .ok (options.plus 0 [valueOf chars], false) := by
  have hvalue : chars.isEmpty = false := List.isEmpty_eq_false_iff.mpr hne
  rw [readCluster, if_neg (by decide), if_pos rfl, hvalue]
  rfl

theorem readLong_equals (options : Options) (path : PathWord) :
    readLong options ("--config=" ++ path.word) =
      .ok (options.plus 0 [path.word], false) := by
  have hsplit : splitLong ("--config=" ++ path.word) =
      ("config".toList, some path.word.toList) := by
    have hchars : ("--config=" ++ path.word).toList =
        '-' :: '-' :: ("config".toList ++ '=' :: path.word.toList) := by
      rw [String.toList_append]
      rfl
    rw [splitLong, hchars]
    rfl
  rw [readLong, hsplit]
  simp only [if_pos, path.valueOf_toList]
  rfl

/-- Reading one form adds its flags and its path. -/
theorem readWords_form (options : Options) (form : OptionForm)
    (rest : List String) :
    readWords options false (form.words ++ rest) =
      readWords (options.plus form.flagCount form.path?.toList) false rest := by
  cases form with
  | shortFlags more =>
      have hread : readCluster (options.plus more []) ['d'] =
          .ok (options.plus (more + 1) [], false) := by
        simp [readCluster, Options.raise, Options.plus, Nat.add_assoc]
      exact readWords_cluster (by decide) hread rest
  | longFlag =>
      have hread : readLong options "--debug" =
          .ok (options.plus 1 [], false) := by
        rw [Options.plus, List.append_nil]
        rfl
      exact readWords_long (by decide) hread rest
  | short flags joint path =>
      cases joint with
      | apart =>
          have hread : readCluster (options.plus flags []) ['c'] =
              .ok ((options.plus flags []).openPath, true) := rfl
          rw [OptionForm.words, List.cons_append,
            readWords_cluster (by decide) hread, List.singleton_append,
            readWords_value _ path.not_startsOption, Options.plus_plus]
          rfl
      | glued =>
          have hread :=
            readCluster_path (options.plus flags []) path.toList_ne_nil
          rw [path.valueOf_toList, Options.plus_plus] at hread
          exact readWords_cluster (by decide) hread rest
      | equals =>
          have hread := readCluster_path (options.plus flags [])
            (List.cons_ne_nil '=' path.word.toList)
          rw [path.valueOf_equals, Options.plus_plus] at hread
          exact readWords_cluster (by decide) hread rest
  | longApart path =>
      have hread : readLong options "--config" = .ok (options.openPath, true) :=
        rfl
      rw [OptionForm.words, List.cons_append,
        readWords_long (by decide) hread, List.singleton_append,
        readWords_value _ path.not_startsOption]
      rfl
  | longEquals path =>
      have hlong : isLong ("--config=" ++ path.word) = true := by
        rw [isLong, String.toList_append]
        rfl
      exact readWords_long hlong (readLong_equals options path) rest

/-- Reading forms one after the other gathers their flags and their paths. -/
theorem readWords_forms (options : Options) (forms : List OptionForm)
    (rest : List String) :
    readWords options false (forms.flatMap OptionForm.words ++ rest) =
      readWords (options.plus (OptionForm.totalFlags forms)
        (forms.filterMap OptionForm.path?)) false rest := by
  induction forms generalizing options with
  | nil => simp [Options.plus, OptionForm.totalFlags]
  | cons form forms ih =>
      have hpaths : (form :: forms).filterMap OptionForm.path? =
          form.path?.toList ++ forms.filterMap OptionForm.path? := by
        cases hpath : form.path? <;> simp [hpath]
      rw [List.flatMap_cons, List.append_assoc, readWords_form, ih,
        Options.plus_plus, OptionForm.totalFlags, hpaths]

theorem exists_finish_eq {subcommand : Subcommand} {operands : List String}
    (hlength : operands.length = subcommand.operandNames.length) :
    ∃ request, finish subcommand operands = .ok request ∧
      request.subcommand = subcommand ∧ request.operands = operands := by
  cases subcommand with
  | decode | encode | truth =>
      obtain ⟨operand, rfl⟩ := List.length_eq_one_iff.mp hlength
      exact ⟨_, rfl, rfl, rfl⟩
  | cmp =>
      obtain ⟨left, right, rfl⟩ := List.length_eq_two.mp hlength
      exact ⟨_, rfl, rfl, rfl⟩

theorem Spelling.readOperands_eq (spelling : Spelling) :
    readOperands spelling.subcommand []
        (if spelling.dashes then "--" :: spelling.operands
          else spelling.operands) =
      finish spelling.subcommand spelling.operands := by
  cases hdashes : spelling.dashes with
  | true => exact readOperands_dashes spelling.all_operands.le
  | false =>
      apply readOperands_of_isOperand []
      · intro word hword
        exact IsOperand.of_head (spelling.plain_operands hdashes word hword).1
      · simp [spelling.all_operands]

theorem Options.call_plus (flags : Nat) {paths : List String}
    (hpaths : paths.length ≤ 1) (request : Request) :
    (Options.none.plus flags paths).call request =
      .ok ⟨request, flags, paths.head?⟩ := by
  have hplus :
      Options.none.plus flags paths = ⟨flags, paths.length, paths⟩ := by
    simp [plus, none]
  rw [hplus]
  match paths with
  | [] => rfl
  | [path] => rfl
  | _ :: _ :: _ => simp at hpaths

theorem startsOption_cluster (flags : Nat) {letter : Char}
    (hletter : letter ≠ '-') (letters : List Char) :
    startsOption (cluster flags (letter :: letters)) = true := by
  obtain ⟨first, rest, -, hword⟩ := exists_toList_cluster flags hletter letters
  rw [startsOption, hword]
  rfl

/-- Every form begins with a word that begins an option. -/
theorem OptionForm.exists_words_eq_cons (form : OptionForm) :
    ∃ word more, form.words = word :: more ∧ startsOption word = true := by
  cases form with
  | shortFlags more =>
      exact ⟨_, _, rfl, startsOption_cluster more (by decide) []⟩
  | longFlag => exact ⟨_, _, rfl, by decide⟩
  | short flags joint path =>
      cases joint <;>
        exact ⟨_, _, rfl, startsOption_cluster flags (by decide) _⟩
  | longApart path => exact ⟨_, _, rfl, by decide⟩
  | longEquals path =>
      refine ⟨_, _, rfl, ?_⟩
      rw [startsOption, String.toList_append]
      rfl

/-- The option for a settings path takes no other option for its value.  In
front of one it stays without, and the call is refused: the value is missing, or
the option is given twice if a path comes later. -/
theorem ofWords_of_missing_value (flags : Nat) {forms : List OptionForm}
    (hforms : forms ≠ []) {subcommand : Subcommand} {rest : List String}
    {request : Request}
    (hrest : readOperands subcommand [] rest = .ok request) :
    Invocation.ofWords (cluster flags ['c'] ::
        (forms.flatMap OptionForm.words ++ subcommand.name :: rest)) =
      .error (if forms.filterMap OptionForm.path? = [] then .missingValue
        else .repeatedOption) := by
  have hread : readCluster (Options.none.plus flags []) ['c'] =
      .ok ((Options.none.plus flags []).openPath, true) := rfl
  obtain ⟨form, more, rfl⟩ := List.exists_cons_of_ne_nil hforms
  obtain ⟨word, after, hword, hoption⟩ := form.exists_words_eq_cons
  rw [Invocation.ofWords, readWords_cluster (by decide) hread]
  have hnext := readWords_forms (Options.none.plus flags []).openPath
    (form :: more) (subcommand.name :: rest)
  rw [List.flatMap_cons, hword, List.cons_append, List.cons_append] at hnext ⊢
  rw [readWords_option _ hoption, hnext, readWords_name, hrest]
  cases hpaths : (form :: more).filterMap OptionForm.path? with
  | nil => rfl
  | cons path paths =>
      exact if_neg (by simp [Options.plus, Options.openPath, Options.none])

example : Invocation.ofWords ["-c", "-d", "decode", "00"] =
    .error .missingValue := by decide +kernel

/-- However a call is written, it is read as its subcommand with its operands
under their names, as many steps as there are flags, and its settings path. -/
theorem all_spellings_read_back (spelling : Spelling) :
    ∃ invocation, Invocation.ofWords spelling.words = .ok invocation ∧
      invocation.request.subcommand = spelling.subcommand ∧
      invocation.request.parameters =
        spelling.subcommand.operandNames.zip spelling.operands ∧
      invocation.verbosity = spelling.flagCount ∧
      invocation.settingsPath = spelling.path? := by
  obtain ⟨request, hfinish, hsubcommand, hoperands⟩ :=
    exists_finish_eq spelling.all_operands
  refine ⟨⟨request, spelling.flagCount, spelling.path?⟩, ?_, hsubcommand, ?_,
    rfl, rfl⟩
  · rw [Invocation.ofWords, Spelling.words, readWords_forms, readWords_name,
      spelling.readOperands_eq, hfinish]
    exact Options.call_plus spelling.flagCount spelling.one_path request
  · rw [Request.parameters, hsubcommand, hoperands]

/-- A settings path that is the name of a subcommand, and operands that would
be read otherwise in front of `--`. -/
theorem all_spellings_read_back_cluster :
    ∃ invocation, Invocation.ofWords
        ["--debug", "-ddc", "decode", "-dd", "cmp", "--", "--", "help"] =
          .ok invocation ∧
      invocation.request.subcommand = .cmp ∧
      invocation.request.parameters = [("left", "--"), ("right", "help")] ∧
      invocation.verbosity = 5 ∧ invocation.settingsPath = some "decode" := by
  exact all_spellings_read_back
    ⟨[.longFlag, .short 2 .apart ⟨"decode", by decide, by decide, by decide⟩,
      .shortFlags 1], .cmp, true, ["--", "help"], by decide, rfl, nofun⟩

end ScriptStack.Command
