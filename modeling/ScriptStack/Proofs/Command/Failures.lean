import ScriptStack.Proofs.Command.Notes
import ScriptStack.Proofs.Hex.Writing
import ScriptStack.Proofs.Integer.Decimal
/-!
How a run fails.  It looks at the settings file, then at the operands from left
to right, and tells of the first failure alone (`FirstFailure`).  Without one
it answers in full.
-/

namespace ScriptStack.Command

/-- Why a subcommand does not take a text as an operand, if it does not. -/
def Subcommand.refusal? (subcommand : Subcommand) (text : String) :
    Option Failure :=
  if subcommand.takesNumbers then
    match Decimal.parse text with
    | .error reason => some (.decimal reason)
    | .ok _ => none
  else
    match Hex.parse text with
    | .error reason => some (.hex reason)
    | .ok _ => none

/-- Whether a subcommand takes a text as an operand: the number to encode is
decimal, all other operands are hexadecimal. -/
def Subcommand.Takes (subcommand : Subcommand) (text : String) : Prop :=
  if subcommand = .encode then ∃ n, Decimal.parse text = .ok n
  else ∃ bytes, Hex.parse text = .ok bytes

/-- Why an operand of a request is not taken, the first one if there are
several. -/
def Request.refusal? (request : Request) : Option Failure :=
  request.operands.findSome? request.subcommand.refusal?

/-- The first failure of a call: the fault of its settings file, or else the
first operand that is not taken. -/
inductive FirstFailure (source : Settings.Source) (invocation : Invocation) :
    Failure → Prop where
  | settings {path : String} {reason : Settings.Error}
      (hpath : invocation.settingsPath = some path)
      (hfault : Settings.Fault source path reason) :
      FirstFailure source invocation (.settings reason)
  | operand {before after : List String} {text : String} {failure : Failure}
      (hsettings : ∀ path, invocation.settingsPath = some path →
        ∀ reason, ¬ Settings.Fault source path reason)
      (hoperands : invocation.request.operands = before ++ text :: after)
      (hbefore : ∀ taken ∈ before, invocation.request.subcommand.Takes taken)
      (htext : invocation.request.subcommand.refusal? text = some failure) :
      FirstFailure source invocation failure

/-- The lines of an answer to a request: as many as its subcommand gives, and
none of them broken. -/
structure Request.IsAnswer (request : Request) (lines : List String) :
    Prop where
  length_eq : lines.length = if request.subcommand = .cmp then 2 else 1
  not_broken : ∀ line ∈ lines, '\n' ∉ line.toList

theorem not_mem_toHex_of_not_mem_alphabet {c : Char} (hc : c ∉ Hex.alphabet)
    (item : Item) : c ∉ item.toHex.toList :=
  fun hmem => hc (Hex.mem_alphabet_of_mem_render hmem)

theorem answer_withItem (name text : String) (next : Item → Outcome) :
    (withItem name text next).answer =
      match Hex.parse text with
      | .error reason => .error (.hex reason)
      | .ok bytes => (next ⟨bytes⟩).answer := by
  rw [withItem, Item.ofHex]
  cases Hex.parse text <;> rfl

theorem answer_decode (hex : String) :
    (Request.decode hex).answer =
      match Hex.parse hex with
      | .error reason => .error (.hex reason)
      | .ok bytes => .ok [Decimal.render (SignMagnitude.decode bytes)] :=
  answer_withItem "hex" hex _

theorem answer_encode (number : String) :
    (Request.encode number).answer =
      match Decimal.parse number with
      | .error reason => .error (.decimal reason)
      | .ok n => .ok [(Item.ofInt n).toHex] := by
  rw [Request.answer, Request.perform, encode]
  cases Decimal.parse number <;> rfl

theorem answer_truth (hex : String) :
    (Request.truth hex).answer =
      match Hex.parse hex with
      | .error reason => .error (.hex reason)
      | .ok bytes => .ok [if Item.isTrue ⟨bytes⟩ then "true" else "false"] :=
  answer_withItem "hex" hex _

/-- The first operand fails before the second one is read. -/
theorem answer_cmp (left right : String) :
    (Request.cmp left right).answer =
      match Hex.parse left with
      | .error reason => .error (.hex reason)
      | .ok a =>
          match Hex.parse right with
          | .error reason => .error (.hex reason)
          | .ok b => .ok [orderWord (Item.compareNumbers ⟨a⟩ ⟨b⟩),
              "bytes " ++ if Item.mk a = ⟨b⟩ then "equal" else "differ"] := by
  rw [Request.answer, Request.perform, cmp, answer_withItem]
  cases Hex.parse left with
  | error reason => rfl
  | ok a => exact answer_withItem "right" right _

theorem Subcommand.refusal?_encode (text : String) :
    Subcommand.encode.refusal? text =
      match Decimal.parse text with
      | .error reason => some (.decimal reason)
      | .ok _ => none := rfl

theorem Subcommand.refusal?_hex {subcommand : Subcommand}
    (hhex : subcommand.takesNumbers = false) (text : String) :
    subcommand.refusal? text =
      match Hex.parse text with
      | .error reason => some (.hex reason)
      | .ok _ => none := by
  rw [refusal?, hhex]
  rfl

theorem Request.IsAnswer.singleton {request : Request} {line : String}
    (hrequest : request.subcommand ≠ .cmp) (hline : '\n' ∉ line.toList) :
    request.IsAnswer [line] :=
  ⟨(if_neg hrequest).symm, List.forall_mem_singleton.mpr hline⟩

theorem Request.IsAnswer.cmp (left right : String) (order : Ordering)
    (same : Prop) [Decidable same] :
    (Request.cmp left right).IsAnswer
      [orderWord order, "bytes " ++ if same then "equal" else "differ"] := by
  refine ⟨rfl, ?_⟩
  intro line hline
  simp only [List.mem_cons, List.not_mem_nil, or_false] at hline
  rcases hline with rfl | rfl
  · cases order <;> decide
  · by_cases hsame : same
    · rw [if_pos hsame]
      decide
    · rw [if_neg hsame]
      decide

theorem Request.refusal?_of_operand {request : Request} {text : String}
    (hoperands : request.operands = [text]) :
    request.refusal? = request.subcommand.refusal? text := by
  rw [refusal?, hoperands, List.findSome?_singleton]

/-- A request is refused for one of its operands, or it is answered in full. -/
theorem refused_or_answered (request : Request) :
    (∃ failure, request.refusal? = some failure ∧
        request.answer = .error failure) ∨
      ∃ lines, request.refusal? = none ∧ request.answer = .ok lines ∧
        request.IsAnswer lines := by
  cases request with
  | encode number =>
      rw [Request.refusal?_of_operand rfl, Request.subcommand,
        Subcommand.refusal?_encode, answer_encode]
      cases Decimal.parse number with
      | error reason => exact Or.inl ⟨_, rfl, rfl⟩
      | ok n =>
          have hline : '\n' ∉ (Item.ofInt n).toHex.toList :=
            not_mem_toHex_of_not_mem_alphabet (by decide) _
          exact Or.inr ⟨_, rfl, rfl, .singleton nofun hline⟩
  | decode hex =>
      rw [Request.refusal?_of_operand rfl, Request.subcommand,
        Subcommand.refusal?_hex rfl, answer_decode]
      cases Hex.parse hex with
      | error reason => exact Or.inl ⟨_, rfl, rfl⟩
      | ok bytes =>
          have hline : '\n' ∉
              (Decimal.render (SignMagnitude.decode bytes)).toList :=
            Decimal.not_mem_render (by decide) (by decide) _
          exact Or.inr ⟨_, rfl, rfl, .singleton nofun hline⟩
  | truth hex =>
      rw [Request.refusal?_of_operand rfl, Request.subcommand,
        Subcommand.refusal?_hex rfl, answer_truth]
      cases Hex.parse hex with
      | error reason => exact Or.inl ⟨_, rfl, rfl⟩
      | ok bytes =>
          have hline : '\n' ∉
              (if Item.isTrue ⟨bytes⟩ then "true" else "false").toList := by
            split <;> decide
          exact Or.inr ⟨_, rfl, rfl, .singleton nofun hline⟩
  | cmp left right =>
      have hrefusal : (Request.cmp left right).refusal? =
          (Subcommand.cmp.refusal? left).or
            (Subcommand.cmp.refusal? right) := by
        change [left, right].findSome? Subcommand.cmp.refusal? = _
        rw [List.findSome?_cons, List.findSome?_singleton]
        cases Subcommand.cmp.refusal? left <;> rfl
      rw [hrefusal, answer_cmp, Subcommand.refusal?_hex rfl,
        Subcommand.refusal?_hex rfl]
      -- the second operand is looked at only where the first one is taken
      cases Hex.parse left with
      | error reason => exact Or.inl ⟨_, rfl, rfl⟩
      | ok a =>
          cases Hex.parse right with
          | error reason => exact Or.inl ⟨_, rfl, rfl⟩
          | ok b => exact Or.inr ⟨_, rfl, rfl, .cmp left right _ _⟩

/-- A subcommand has nothing against a text that it takes. -/
theorem Subcommand.refusal?_eq_none_iff (subcommand : Subcommand)
    (text : String) :
    subcommand.refusal? text = none ↔ subcommand.Takes text := by
  by_cases hencode : subcommand = .encode
  · subst hencode
    rw [refusal?_encode, Takes, if_pos rfl]
    cases Decimal.parse text <;> simp
  · have hhex : subcommand.takesNumbers = false := by
      cases subcommand <;> first | rfl | exact absurd rfl hencode
    rw [refusal?_hex hhex, Takes, if_neg hencode]
    cases Hex.parse text <;> simp

theorem Request.refusal?_eq_none_iff (request : Request) :
    request.refusal? = none ↔
      ∀ text ∈ request.operands, request.subcommand.Takes text := by
  simp only [refusal?, List.findSome?_eq_none_iff,
    Subcommand.refusal?_eq_none_iff]

/-- What is told of is the first operand that is not taken. -/
theorem Request.refusal?_eq_some_iff (request : Request) (failure : Failure) :
    request.refusal? = some failure ↔
      ∃ before text after, request.operands = before ++ text :: after ∧
        request.subcommand.refusal? text = some failure ∧
        ∀ taken ∈ before, request.subcommand.Takes taken := by
  simp only [refusal?, List.findSome?_eq_some_iff,
    Subcommand.refusal?_eq_none_iff]

/-- A fault of the settings file is the first failure, whatever the operands
are. -/
theorem firstFailure_iff_of_resolve_error {source : Settings.Source}
    {invocation : Invocation} {reason : Settings.Error}
    (hsettings : Settings.resolve source invocation.settingsPath
      invocation.verbosity = .error reason) (failure : Failure) :
    FirstFailure source invocation failure ↔ failure = .settings reason := by
  obtain ⟨file, hpath, hfault⟩ :=
    (Settings.resolve_eq_error_iff ..).mp hsettings
  constructor
  · intro hfirst
    cases hfirst with
    | settings hother hfound =>
        have hfile := (Settings.resolve_eq_error_iff source
          invocation.settingsPath invocation.verbosity _).mpr
            ⟨_, hother, hfound⟩
        rw [Except.error.inj (hfile.symm.trans hsettings)]
    | operand hnone => exact absurd hfault (hnone file hpath reason)
  · rintro rfl
    exact .settings hpath hfault

/-- With settings, the first failure is the first operand that is not taken. -/
theorem firstFailure_iff_of_resolve {source : Settings.Source}
    {invocation : Invocation} {settings : Settings}
    (hsettings : Settings.resolve source invocation.settingsPath
      invocation.verbosity = .ok settings) (failure : Failure) :
    FirstFailure source invocation failure ↔
      invocation.request.refusal? = some failure := by
  have hnone : ∀ path, invocation.settingsPath = some path →
      ∀ reason, ¬ Settings.Fault source path reason := by
    intro path hpath reason hfault
    rw [hpath] at hsettings
    exact hfault.resolve_ne_ok invocation.verbosity settings hsettings
  rw [Request.refusal?_eq_some_iff]
  constructor
  · intro hfirst
    cases hfirst with
    | settings hpath hfault => exact absurd hfault (hnone _ hpath _)
    | operand _ hoperands hbefore htext =>
        exact ⟨_, _, _, hoperands, htext, hbefore⟩
  · rintro ⟨before, text, after, hoperands, htext, hbefore⟩
    exact .operand hnone hoperands hbefore htext

/-- A call that parses is run to a report.  It succeeds just if there are
settings and every operand is taken, and then answers in full and tells of no
failure.  Otherwise it answers nothing and tells of the first failure, the one
and only, and without settings it says nothing else. -/
theorem run_reports_first_failure (source : Settings.Source)
    {words : List String} {invocation : Invocation}
    (hwords : Invocation.ofWords words = .ok invocation) :
    ∃ report, run source words = .ok report ∧
      (report.exitCode = 0 ↔
        (∃ settings, Settings.resolve source invocation.settingsPath
            invocation.verbosity = .ok settings) ∧
          ∀ text ∈ invocation.request.operands,
            invocation.request.subcommand.Takes text) ∧
      (report.exitCode = 0 →
        report.errorText = "" ∧ invocation.request.IsAnswer report.output) ∧
      (report.exitCode ≠ 0 → report.exitCode = 1 ∧ report.output = [] ∧
        ∃ failure,
          (∀ other, FirstFailure source invocation other ↔ other = failure) ∧
          report.errorText = failure.message ++ "\n") ∧
      ((∀ settings, Settings.resolve source invocation.settingsPath
          invocation.verbosity ≠ .ok settings) → report.log = []) := by
  cases hsettings : Settings.resolve source invocation.settingsPath
      invocation.verbosity with
  | error reason =>
      refine ⟨_, run_of_resolve_error hwords hsettings, ?_, nofun, ?_, ?_⟩
      · exact ⟨nofun, fun ⟨⟨_, hok⟩, _⟩ => nomatch hok⟩
      · intro _
        exact ⟨rfl, rfl, _, firstFailure_iff_of_resolve_error hsettings, rfl⟩
      · intro _
        rfl
  | ok settings =>
      have hfirst := firstFailure_iff_of_resolve hsettings
      have hrun := run_of_resolve hwords hsettings
      rw [← Request.refusal?_eq_none_iff]
      rcases refused_or_answered invocation.request with
        ⟨failure, hrefusal, hanswer⟩ | ⟨lines, hrefusal, hanswer, hlines⟩
      · rw [Request.reportWith, hanswer] at hrun
        refine ⟨_, hrun, ?_, nofun, ?_, ?_⟩
        · rw [hrefusal]
          exact ⟨nofun, fun ⟨_, hnone⟩ => nomatch hnone⟩
        · intro _
          refine ⟨rfl, rfl, failure, ?_, rfl⟩
          intro other
          rw [hfirst, hrefusal, Option.some_inj, eq_comm]
        · intro hnone
          exact absurd rfl (hnone settings)
      · rw [Request.reportWith, hanswer] at hrun
        refine ⟨_, hrun, ?_, ?_, ?_, ?_⟩
        · exact ⟨fun _ => ⟨⟨settings, rfl⟩, hrefusal⟩, fun _ => rfl⟩
        · intro _
          exact ⟨rfl, hlines⟩
        · intro hcode
          exact absurd rfl hcode
        · intro hnone
          exact absurd rfl (hnone settings)

/-- Two operands are wrong, but the file comes first: a level in it that is
unknown, or what is wrong with its text, in the words of its reader. -/
theorem run_reports_first_failure_file :
    Invocation.ofWords ["-c", "f", "cmp", "0g", "0"] =
        .ok ⟨.cmp "0g" "0", 0, some "f"⟩ ∧
      (∃ report,
        run ⟨fun _ => .ok "log_level = 'loud'".toUTF8, id⟩
          ["-c", "f", "cmp", "0g", "0"] = .ok report ∧
        report.exitCode = 1 ∧ report.output = [] ∧ report.log = [] ∧
        report.errorText = "Invalid log level \"loud\"\n") ∧
      ∃ report,
        run ⟨fun _ => .ok "log_level = \n".toUTF8, fun _ =>
            "expected a value, found a newline at line 1 column 13"⟩
          ["-c", "f", "cmp", "0g", "0"] = .ok report ∧
        report.exitCode = 1 ∧ report.output = [] ∧ report.log = [] ∧
        report.errorText = "Invalid config file: " ++
          "expected a value, found a newline at line 1 column 13\n" := by
  have hwords : Invocation.ofWords ["-c", "f", "cmp", "0g", "0"] =
      .ok ⟨.cmp "0g" "0", 0, some "f"⟩ := by decide +kernel
  have hfails {source : Settings.Source} {reason : Settings.Error}
      (hfault : Settings.Fault source "f" reason) :
      ∃ report, run source ["-c", "f", "cmp", "0g", "0"] = .ok report ∧
        report.exitCode = 1 ∧ report.output = [] ∧ report.log = [] ∧
        report.errorText = reason.message ++ "\n" := by
    have hnone := hfault.resolve_ne_ok 0
    obtain ⟨report, hrun, hcode, -, hfailed, hquiet⟩ :=
      run_reports_first_failure source hwords
    have hnonzero : report.exitCode ≠ 0 := by
      intro hzero
      obtain ⟨⟨settings, hok⟩, -⟩ := hcode.mp hzero
      exact hnone settings hok
    obtain ⟨hone, hempty, failure, hfirst, herror⟩ := hfailed hnonzero
    obtain rfl := (hfirst _).mp (.settings rfl hfault)
    exact ⟨report, hrun, hone, hempty, hquiet hnone, herror⟩
  have hloud : Settings.Overrides.ofToml? "log_level = 'loud'" =
      some ⟨some "loud", none⟩ := by decide +kernel
  have hbroken : Settings.Overrides.ofToml? "log_level = \n" = none := by
    decide +kernel
  refine ⟨hwords, hfails (.unknownLevel ?_ hloud rfl (by decide +kernel)),
    hfails (.invalidFile ?_ hbroken)⟩
  · exact Settings.readText_of_toUTF8 rfl
  · exact Settings.readText_of_toUTF8 rfl

end ScriptStack.Command
