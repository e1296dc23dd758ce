import ScriptStack.Proofs.ErrorObject.RoundTrip
import ScriptStack.Proofs.Json.Grammar
/-!
Error objects as trees.  A tree is an error object if it is a list of a code
and a message, or an object with one member of either name among any others
(`HeldBy`).  The members of an object fill the two fields one by one, and each
field takes at most one (`foldlM_add?_eq_some_iff`).
-/

namespace ScriptStack.ErrorObject

open ScriptStack.Json

/-- The values of the members with some key. -/
def valuesOf (key : String) (members : List (List Char × Value)) : List Value :=
  (members.filter fun member => member.1 = key.toList).map Prod.snd

/-- Whether a value is an error object: a list of its code and message, or an
object with one member of either name. -/
inductive HeldBy (e : ErrorObject) : Value → Prop where
  | list {literal : NumberLiteral} (hcode : literal.Writes e.code.toInt) :
      HeldBy e (.list [.number literal, .text e.message.toList])
  | object {members : List (List Char × Value)} {literal : NumberLiteral}
      (hcode : literal.Writes e.code.toInt)
      (hcodes : valuesOf "code" members = [.number literal])
      (hmessages : valuesOf "message" members = [.text e.message.toList]) :
      HeldBy e (.object members)

/-- The code that a value stands for. -/
def codeIn : Value → Option Int32
  | .number literal => literal.integer?.bind code?
  | _ => none

/-- The message that a value stands for. -/
def messageIn : Value → Option String
  | .text chars => some (String.ofList chars)
  | _ => none

/-- The fields with one more member, unless it repeats one of them or has a
wrong value. -/
def Fields.add? (fields : Fields) (member : List Char × Value) :
    Option Fields :=
  if member.1 = "code".toList then
    if fields.code.isSome then none
    else (codeIn member.2).map fun code => { fields with code := some code }
  else if member.1 = "message".toList then
    if fields.message.isSome then none
    else (messageIn member.2).map fun message =>
      { fields with message := some message }
  else some fields

/-- The error object that a value is. -/
def errorObject? : Value → Option ErrorObject
  | .list [code, message] => do return ⟨← codeIn code, ← messageIn message⟩
  | .object members => do
      (← members.foldlM Fields.add? ⟨none, none⟩).finish.toOption
  | _ => none

theorem code?_eq_some_iff (n : Int) (code : Int32) :
    code? n = some code ↔ n = code.toInt := by
  constructor
  · intro h
    rw [code?] at h
    split at h
    next hrange =>
      rw [← Option.some.inj h, Int32.toInt_ofInt_of_le hrange.1]
      exact Int.lt_of_le_of_lt hrange.2 (by decide)
    next => contradiction
  · rintro rfl
    exact code?_toInt code

/-- A code fits in the word that integers are read into. -/
theorem integer?_bind_code?_eq_some_iff (literal : NumberLiteral)
    (code : Int32) :
    literal.integer?.bind code? = some code ↔ literal.Writes code.toInt := by
  have hlow : Int64.minValue.toInt ≤ code.toInt :=
    Int.le_trans (by decide) code.minValue_le_toInt
  have hhigh : code.toInt < UInt64.size :=
    Int.lt_of_le_of_lt code.toInt_le (by decide)
  simp only [Option.bind_eq_some_iff, code?_eq_some_iff, exists_eq_right,
    NumberLiteral.integer?_eq_some_iff, hlow, hhigh, and_true]

theorem codeIn_eq_some_iff (v : Value) (code : Int32) :
    codeIn v = some code ↔
      ∃ literal, v = .number literal ∧ literal.Writes code.toInt := by
  cases v with
  | number literal =>
      simp only [codeIn, integer?_bind_code?_eq_some_iff,
        Value.number.injEq, exists_eq_left']
  | null | boolean | text | list | object =>
      simp only [codeIn, reduceCtorEq, false_and, exists_false]

theorem messageIn_eq_some_iff (v : Value) (message : String) :
    messageIn v = some message ↔ v = .text message.toList := by
  cases v with
  | text chars =>
      rw [messageIn, Option.some.injEq, Value.text.injEq]
      exact ⟨fun h => by rw [← h, String.toList_ofList],
        fun h => by rw [h, String.ofList_toList]⟩
  | null | boolean | number | list | object =>
      simp only [messageIn, reduceCtorEq]

/-- How a field changes with the values of its members: not at all without
one, and from nothing to what the only one is read as. -/
inductive Takes {α : Type} (read : Value → Option α) :
    Option α → List Value → Option α → Prop where
  | nothing (field : Option α) : Takes read field [] field
  | only {v : Value} {a : α} (hread : read v = some a) :
      Takes read none [v] (some a)

theorem takes_nil_iff {α : Type} (read : Value → Option α)
    (old new : Option α) : Takes read old [] new ↔ new = old := by
  constructor
  · rintro ⟨⟩
    rfl
  · rintro rfl
    exact .nothing new

/-- After a value the field is full. -/
theorem takes_cons_iff {α : Type} (read : Value → Option α)
    (old new : Option α) (v : Value) (vs : List Value) :
    Takes read old (v :: vs) new ↔
      old = none ∧ ∃ a, read v = some a ∧ Takes read (some a) vs new := by
  constructor
  · rintro (_ | hread)
    exact ⟨rfl, _, hread, .nothing _⟩
  · rintro ⟨rfl, a, hread, htakes⟩
    cases htakes
    exact .only hread

/-- A field that begins empty and ends full was given once. -/
theorem takes_none_some_iff {α : Type} (read : Value → Option α)
    (vs : List Value) (a : α) :
    Takes read none vs (some a) ↔ ∃ v, vs = [v] ∧ read v = some a := by
  constructor
  · rintro (_ | hread)
    exact ⟨_, rfl, hread⟩
  · rintro ⟨v, rfl, hread⟩
    exact .only hread

theorem valuesOf_cons (key : String) (member : List Char × Value)
    (members : List (List Char × Value)) :
    valuesOf key (member :: members) =
      if member.1 = key.toList then member.2 :: valuesOf key members
      else valuesOf key members := by
  by_cases hkey : member.1 = key.toList <;> simp [valuesOf, hkey]

/-- A code is taken where there is none yet. -/
theorem add?_code {member : List Char × Value}
    (hkey : member.1 = "code".toList) (fields next : Fields) :
    fields.add? member = some next ↔
      fields.code = none ∧ ∃ code, codeIn member.2 = some code ∧
        ⟨some code, fields.message⟩ = next := by
  rw [Fields.add?, if_pos hkey]
  cases fields.code with
  | none => simp
  | some code => simp

theorem add?_message {member : List Char × Value}
    (hkey : member.1 = "message".toList) (fields next : Fields) :
    fields.add? member = some next ↔
      fields.message = none ∧ ∃ message, messageIn member.2 = some message ∧
        ⟨fields.code, some message⟩ = next := by
  have hcode : member.1 ≠ "code".toList := by
    rw [hkey]
    decide
  rw [Fields.add?, if_neg hcode, if_pos hkey]
  cases fields.message with
  | none => simp
  | some message => simp

/-- Each field takes the values of the members with its name. -/
theorem foldlM_add?_eq_some_iff (members : List (List Char × Value))
    (fields final : Fields) :
    members.foldlM Fields.add? fields = some final ↔
      Takes codeIn fields.code (valuesOf "code" members) final.code ∧
      Takes messageIn fields.message (valuesOf "message" members)
        final.message := by
  induction members generalizing fields with
  | nil =>
      rw [List.foldlM_nil, valuesOf, valuesOf]
      simp only [List.filter_nil, List.map_nil, takes_nil_iff]
      cases fields
      cases final
      simp only [pure, Option.some.injEq, Fields.mk.injEq, eq_comm]
  | cons member members ih =>
      rw [List.foldlM_cons, Option.bind_eq_bind, Option.bind_eq_some_iff,
        valuesOf_cons, valuesOf_cons]
      simp only [ih]
      by_cases hcode : member.1 = "code".toList
      · have hmessage : member.1 ≠ "message".toList := by
          rw [hcode]
          decide
        rw [if_pos hcode, if_neg hmessage, takes_cons_iff]
        simp only [add?_code hcode]
        constructor
        · rintro ⟨_, ⟨hnew, code, hread, rfl⟩, hcodes, hmessages⟩
          exact ⟨⟨hnew, code, hread, hcodes⟩, hmessages⟩
        · rintro ⟨⟨hnew, code, hread, hcodes⟩, hmessages⟩
          exact ⟨_, ⟨hnew, code, hread, rfl⟩, hcodes, hmessages⟩
      by_cases hmessage : member.1 = "message".toList
      · rw [if_neg hcode, if_pos hmessage, takes_cons_iff]
        simp only [add?_message hmessage]
        constructor
        · rintro ⟨_, ⟨hnew, message, hread, rfl⟩, hcodes, hmessages⟩
          exact ⟨hcodes, hnew, message, hread, hmessages⟩
        · rintro ⟨hcodes, hnew, message, hread, hmessages⟩
          exact ⟨_, ⟨hnew, message, hread, rfl⟩, hcodes, hmessages⟩
      · rw [if_neg hcode, if_neg hmessage]
        simp only [Fields.add?, if_neg hcode, if_neg hmessage,
          Option.some.injEq, exists_eq_left']

theorem finish_toOption_eq_some_iff (fields : Fields) (e : ErrorObject) :
    fields.finish.toOption = some e ↔
      fields = ⟨some e.code, some e.message⟩ := by
  obtain ⟨_ | code, _ | message⟩ := fields
  · simp [Fields.finish, Except.toOption]
  · simp [Fields.finish, Except.toOption]
  · simp [Fields.finish, Except.toOption]
  · cases e
    simp [Fields.finish, Except.toOption]

theorem errorObject?_pair (first second : Value) :
    errorObject? (.list [first, second]) =
      (codeIn first).bind fun code =>
        (messageIn second).map fun message => ⟨code, message⟩ := by
  rw [errorObject?]
  cases codeIn first <;> cases messageIn second <;> rfl

/-- A list stands for an error object if it has a code and a message, in this
order, and nothing else. -/
theorem errorObject?_list_eq_some_iff (values : List Value)
    (e : ErrorObject) :
    errorObject? (.list values) = some e ↔ HeldBy e (.list values) := by
  rcases values with _ | ⟨first, _ | ⟨second, _ | ⟨third, values⟩⟩⟩
  · exact ⟨nofun, nofun⟩
  · exact ⟨nofun, nofun⟩
  · have hshape : errorObject? (.list [first, second]) = some e ↔
        codeIn first = some e.code ∧ messageIn second = some e.message := by
      cases e
      simp [errorObject?_pair, Option.bind_eq_some_iff]
    rw [hshape, codeIn_eq_some_iff, messageIn_eq_some_iff]
    constructor
    · rintro ⟨⟨literal, rfl, hcode⟩, rfl⟩
      exact .list hcode
    · rintro ⟨hcode⟩
      exact ⟨⟨_, rfl, hcode⟩, rfl⟩
  · exact ⟨nofun, nofun⟩

/-- An object stands for an error object if its two keys are there once; others
do not matter. -/
theorem errorObject?_object_eq_some_iff (members : List (List Char × Value))
    (e : ErrorObject) :
    errorObject? (.object members) = some e ↔ HeldBy e (.object members) := by
  have hshape : errorObject? (.object members) = some e ↔
      (∃ v, valuesOf "code" members = [v] ∧ codeIn v = some e.code) ∧
      ∃ v, valuesOf "message" members = [v] ∧ messageIn v = some e.message := by
    rw [errorObject?, Option.bind_eq_bind, Option.bind_eq_some_iff]
    simp only [finish_toOption_eq_some_iff, exists_eq_right,
      foldlM_add?_eq_some_iff, takes_none_some_iff]
  rw [hshape]
  simp only [codeIn_eq_some_iff, messageIn_eq_some_iff]
  constructor
  · rintro ⟨⟨_, hcodes, literal, rfl, hcode⟩, _, hmessages, rfl⟩
    exact .object hcode hcodes hmessages
  · rintro ⟨⟩
    next hcode hcodes hmessages =>
    exact ⟨⟨_, hcodes, _, rfl, hcode⟩, _, hmessages, rfl⟩

theorem errorObject?_eq_some_iff (v : Value) (e : ErrorObject) :
    errorObject? v = some e ↔ HeldBy e v := by
  cases v with
  | list values => exact errorObject?_list_eq_some_iff values e
  | object members => exact errorObject?_object_eq_some_iff members e
  | null | boolean | number | text =>
      rw [errorObject?]
      · exact ⟨nofun, nofun⟩
      all_goals nofun

end ScriptStack.ErrorObject
