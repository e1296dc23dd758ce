import ScriptStack.Proofs.ErrorObject.Tree
import ScriptStack.Proofs.Json.Reading
/-!
The shapes of error objects in JSON.  Up to its fault, each reader is a function
of the tree that the text spells: `codeIn` and `messageIn` for values,
`Fields.add?` for members (`toOption_readMembersWith`), `errorObject?` for whole
texts (`toOption_ofJson`).
-/

namespace ScriptStack.ErrorObject

open ScriptStack.Json

theorem toOption_bind {α β : Type} (first : Except Error α)
    (next : α → Except Error β) :
    (first >>= next).toOption =
      first.toOption.bind fun a => (next a).toOption := by
  cases first <;> rfl

theorem toOption_map {α β : Type} (f : α → β) (first : Except Error α) :
    (first.map f).toOption = first.toOption.map f := by
  cases first <;> rfl

/-! Codes and messages -/

theorem readCode_skipSpace (chars : List Char) :
    readCode (skipSpace chars) = readCode chars := by
  rw [readCode, readCode, skipSpace_skipSpace]

theorem readMessage_skipSpace (chars : List Char) :
    readMessage (skipSpace chars) = readMessage chars := by
  rw [readMessage, readMessage, skipSpace_skipSpace]

theorem toOption_readCode_number {literal : NumberLiteral}
    {chars rest : List Char} (hnumber : SpellsNumber literal chars)
    (hrest : NumberLiteral.EndsNumber rest) :
    (readCode (chars ++ rest)).toOption =
      (codeIn (.number literal)).map fun code => (code, rest) := by
  have hread := NumberLiteral.read_of_spells .truncated hnumber hrest
  obtain ⟨c, tail, rfl, hc⟩ := NumberLiteral.spellsNumber_eq_cons hnumber
  have hspace := NumberLiteral.isSpace_of_number hc
  rw [List.cons_append] at hread ⊢
  simp only [readCode, skipSpace_of_not_isSpace hspace, if_pos hc, hread, bind,
    Except.bind, codeIn, NumberLiteral.found]
  cases literal.integer? with
  | some n =>
      dsimp only [Option.bind]
      cases code? n <;> rfl
  | none =>
      -- no code, whether a float holds the number or not
      dsimp only [Option.bind]
      cases NumberLiteral.scale? literal.parts.1 literal.parts.2 <;> rfl

/-- A code is read from a number, and from nothing else. -/
theorem toOption_readCode {v : Value} {chars rest : List Char}
    (helement : Spells (.element v) chars)
    (hrest : NumberLiteral.EndsNumber rest) :
    ∃ gap, Blank gap ∧ (readCode (chars ++ rest)).toOption =
      (codeIn v).map fun code => (code, gap ++ rest) := by
  obtain ⟨c, tail, hskip, hc⟩ := helement.skipSpace_eq rest
  by_cases hnumber : c = '-' ∨ c.isDigit = true
  · obtain ⟨literal, rfl⟩ := hc.eq_number hnumber
    cases helement with
    | @element _ before chars gap hbefore hvalue hgap =>
        cases hvalue with
        | number hnumber =>
            refine ⟨gap, hgap, ?_⟩
            rw [List.append_assoc, List.append_assoc, ← readCode_skipSpace,
              skipSpace_of_blank hbefore, readCode_skipSpace]
            exact toOption_readCode_number hnumber
              (endsNumber_of_blank hgap hrest)
  · have hnone : (readCode (chars ++ rest)).toOption = none := by
      simp only [readCode, hskip, if_neg hnumber]
      rfl
    refine ⟨[], blank_nil, ?_⟩
    rw [hnone]
    cases v with
    | number literal => exact absurd hc hnumber
    | null | boolean | text | list | object => rfl

/-- A message is read from a string, and from nothing else. -/
theorem toOption_readMessage {v : Value} {chars : List Char}
    (helement : Spells (.element v) chars) (rest : List Char) :
    ∃ gap, Blank gap ∧ (readMessage (chars ++ rest)).toOption =
      (messageIn v).map fun message => (message, gap ++ rest) := by
  obtain ⟨c, tail, hskip, hc⟩ := helement.skipSpace_eq rest
  by_cases hquote : c = '"'
  · subst hquote
    obtain ⟨message, rfl⟩ := hc.eq_text
    cases helement with
    | @element _ before chars gap hbefore hvalue hgap =>
        cases hvalue with
        | @text _ spelled htext =>
            refine ⟨gap, hgap, ?_⟩
            rw [List.append_assoc, List.append_assoc, ← readMessage_skipSpace,
              skipSpace_of_blank hbefore, readMessage_skipSpace,
              List.cons_append, List.append_assoc, readMessage,
              skipSpace_of_not_isSpace (by decide)]
            dsimp only
            rw [if_pos rfl, List.singleton_append, readText_of_spells htext]
            rfl
  · have hnone : (readMessage (chars ++ rest)).toOption = none := by
      simp only [readMessage, hskip, if_neg hquote]
      rfl
    refine ⟨[], blank_nil, ?_⟩
    rw [hnone]
    cases v with
    | text message => exact absurd hc hquote
    | null | boolean | number | list | object => rfl

/-! Objects -/

theorem toOption_readMember (fields : Fields) (key : List Char)
    {chars gap rest : List Char} {v : Value} (hgap : Blank gap)
    (helement : Spells (.element v) chars)
    (hrest : NumberLiteral.EndsNumber rest) :
    ∃ after, Blank after ∧
      (fields.readMember key (gap ++ ':' :: (chars ++ rest))).toOption =
        (fields.add? (key, v)).map fun fields => (fields, after ++ rest) := by
  have hcolon := readMark_of_blank hgap (show isSpace ':' = false by decide)
    (chars ++ rest)
  by_cases hcode : key = "code".toList
  · obtain ⟨after, hafter, hread⟩ := toOption_readCode helement hrest
    refine ⟨after, hafter, ?_⟩
    simp only [Fields.add?, if_pos hcode]
    cases hnew : fields.code with
    | none =>
        rw [hcode, readMember_code hnew, hcolon]
        simp only [bind, Except.bind]
        rw [toOption_map, hread, Option.isSome_none,
          if_neg Bool.false_ne_true, Option.map_map, Option.map_map]
        rfl
    | some code =>
        simp only [Fields.readMember, if_pos hcode, hnew, Option.isSome_some]
        rfl
  by_cases hmessage : key = "message".toList
  · obtain ⟨after, hafter, hread⟩ := toOption_readMessage helement rest
    refine ⟨after, hafter, ?_⟩
    simp only [Fields.add?, if_neg hcode, if_pos hmessage]
    cases hnew : fields.message with
    | none =>
        rw [hmessage, readMember_message hnew, hcolon]
        simp only [bind, Except.bind]
        rw [toOption_map, hread, Option.isSome_none,
          if_neg Bool.false_ne_true, Option.map_map, Option.map_map]
        rfl
    | some message =>
        simp only [Fields.readMember, if_neg hcode, if_pos hmessage, hnew,
          Option.isSome_some]
        rfl
  · obtain ⟨after, hafter, hskip⟩ := skipValue_of_spells helement hrest
    refine ⟨after, hafter, ?_⟩
    simp only [Fields.readMember, if_neg hcode, if_neg hmessage, hcolon, hskip,
      bind, Except.bind, Fields.add?]
    rfl

theorem readMore_comma (fuel : Nat) (fields : Fields) {gap : List Char}
    (hgap : Blank gap) (rest : List Char) :
    readMore fuel (fields, gap ++ ',' :: rest) =
      readMembersWith fuel fields rest := by
  rw [readMore, skipSpace_mark hgap (by decide)]
  exact if_pos rfl

theorem readMore_brace (fuel : Nat) (fields : Fields) {gap : List Char}
    (hgap : Blank gap) (rest : List Char) :
    readMore fuel (fields, gap ++ '\x7d' :: rest) = .ok (fields, rest) := by
  rw [readMore, skipSpace_mark hgap (by decide)]
  rfl

/-- A member that may be read adds its value, and the next one is read. -/
theorem toOption_readMembersWith_succ (fuel : Nat) (fields : Fields)
    {key chars rest : List Char} {v : Value}
    (hmember : Spells (.member key v) chars)
    (hrest : NumberLiteral.EndsNumber rest) :
    ∃ gap, Blank gap ∧
      (readMembersWith (fuel + 1) fields (chars ++ rest)).toOption =
        (fields.add? (key, v)).bind fun fields =>
          (readMore fuel (fields, gap ++ rest)).toOption := by
  cases hmember with
  | @member _ spelled before after chars _ hbefore hkey hafter helement =>
      obtain ⟨gap, hgap, hread⟩ :=
        toOption_readMember fields key hafter helement hrest
      refine ⟨gap, hgap, ?_⟩
      simp only [List.append_assoc, List.cons_append]
      rw [readMembersWith_key fuel fields
        (readMark_of_blank hbefore (by decide) _) (readText_of_spells hkey _),
        toOption_bind, hread, Option.bind_map]
      rfl

theorem length_pos_of_member {key chars : List Char} {v : Value}
    (hmember : Spells (.member key v) chars) : 0 < chars.length := by
  cases hmember
  simp only [List.length_append, List.length_cons]
  omega

/-- The members of an object are read one by one, with their fields. -/
theorem toOption_readMembersWith {members : List (List Char × Value)}
    {chars : List Char} (hmembers : Spells (.members members) chars)
    {fuel : Nat} (hfuel : chars.length ≤ fuel) (fields : Fields)
    (rest : List Char) :
    (readMembersWith fuel fields (chars ++ '\x7d' :: rest)).toOption =
      (members.foldlM Fields.add? fields).map fun fields => (fields, rest) := by
  -- the fields go along with the members that are left
  induction members generalizing chars fuel fields with
  | nil => nomatch hmembers
  | cons member members ih =>
      cases hmembers with
      | lastMember hmember =>
          have hpos := length_pos_of_member hmember
          have hends : NumberLiteral.EndsNumber ('\x7d' :: rest) :=
            .cons (by decide) rest
          obtain ⟨fuel, rfl⟩ :=
            Nat.exists_eq_add_one.mpr (Nat.lt_of_lt_of_le hpos hfuel)
          obtain ⟨gap, hgap, hread⟩ :=
            toOption_readMembersWith_succ fuel fields hmember hends
          rw [hread, List.foldlM_cons]
          simp only [readMore_brace fuel _ hgap, List.foldlM_nil]
          cases fields.add? (_, _) <;> rfl
      | @moreMembers _ _ _ chars more hmember hmembers =>
          have hends : NumberLiteral.EndsNumber
              (',' :: (more ++ '\x7d' :: rest)) := .cons (by decide) _
          rw [List.length_append, List.length_cons] at hfuel
          obtain ⟨fuel, rfl⟩ := Nat.exists_eq_add_one.mpr
            (show 0 < fuel by omega)
          have hmore : more.length ≤ fuel := by omega
          obtain ⟨gap, hgap, hread⟩ :=
            toOption_readMembersWith_succ fuel fields hmember hends
          rw [List.append_assoc, List.cons_append, hread, List.foldlM_cons]
          simp only [readMore_comma fuel _ hgap, ih hmembers hmore]
          cases fields.add? (_, _) <;> rfl

theorem exists_member_skipSpace {key chars : List Char} {v : Value}
    (hmember : Spells (.member key v) chars) (rest : List Char) :
    ∃ stripped, skipSpace (chars ++ rest) = stripped ++ rest ∧
      Spells (.member key v) stripped := by
  cases hmember with
  | member hbefore hkey hafter helement =>
      refine ⟨_, ?_, .member blank_nil hkey hafter helement⟩
      rw [List.append_assoc, skipSpace_of_blank hbefore]
      exact skipSpace_of_not_isSpace (by decide) _

/-- The members of an object are members also without the blanks in front,
behind which the reader begins to count its steps. -/
theorem exists_members_skipSpace {members : List (List Char × Value)}
    {chars : List Char} (hmembers : Spells (.members members) chars)
    (rest : List Char) :
    ∃ stripped, skipSpace (chars ++ rest) = stripped ++ rest ∧
      Spells (.members members) stripped := by
  cases hmembers with
  | lastMember hmember =>
      obtain ⟨stripped, hskip, hspells⟩ := exists_member_skipSpace hmember rest
      exact ⟨stripped, hskip, .lastMember hspells⟩
  | @moreMembers _ _ _ chars more hmember hmembers =>
      obtain ⟨stripped, hskip, hspells⟩ :=
        exists_member_skipSpace hmember (',' :: (more ++ rest))
      refine ⟨stripped ++ ',' :: more, ?_, .moreMembers hspells hmembers⟩
      rw [List.append_assoc, List.append_assoc]
      exact hskip

theorem toOption_readObject_nil {gap : List Char} (hgap : Blank gap)
    (rest : List Char) :
    (readObject (gap ++ '\x7d' :: rest)).toOption = none := by
  rw [readObject, skipSpace_mark hgap (by decide)]
  rfl

theorem toOption_readObject {members : List (List Char × Value)}
    {chars : List Char} (hmembers : Spells (.members members) chars)
    (rest : List Char) :
    (readObject (chars ++ '\x7d' :: rest)).toOption =
      (errorObject? (.object members)).map fun e => (e, rest) := by
  obtain ⟨c, tail, hskip, hc⟩ := hmembers.skipSpace_eq ('\x7d' :: rest)
  have hhead : (skipSpace (chars ++ '\x7d' :: rest)).head? ≠ some '\x7d' := by
    rw [hskip]
    exact fun h => hc.ne_close.2 (Option.some.inj h)
  obtain ⟨stripped, hstripped, hspells⟩ :=
    exists_members_skipSpace hmembers ('\x7d' :: rest)
  have hfuel : stripped.length ≤
      (stripped ++ '\x7d' :: rest).length + 1 := by
    rw [List.length_append]
    omega
  rw [readObject_of_head? hhead, hstripped, toOption_bind,
    toOption_readMembersWith hspells hfuel, errorObject?]
  cases members.foldlM Fields.add? ⟨none, none⟩ with
  | none => rfl
  | some fields => exact toOption_map _ _

/-! Lists -/

theorem toOption_refuseEnd_close (n : Nat) {gap : List Char}
    (hgap : Blank gap) (rest : List Char) :
    (refuseEnd n (gap ++ ']' :: rest)).toOption = none := by
  rw [refuseEnd, skipSpace_mark hgap (by decide)]
  rfl

theorem refuseEnd_of_ne (n : Nat) {chars rest : List Char} {c : Char}
    (hskip : skipSpace chars = c :: rest) (hc : c ≠ ']') :
    refuseEnd n chars = .ok () := by
  rw [refuseEnd, hskip]
  split
  next hclose => exact absurd (List.cons.inj hclose).1 hc
  next => rfl

theorem toOption_readList_nil {gap : List Char} (hgap : Blank gap)
    (rest : List Char) :
    (readList (gap ++ ']' :: rest)).toOption = none := by
  rw [readList, toOption_bind, toOption_refuseEnd_close 0 hgap]
  rfl

/-- What is read after the code in a list. -/
def readRest (read : Int32 × List Char) :
    Except Error (ErrorObject × List Char) := do
  refuseEnd 1 read.2
  let rest ← readMark ',' read.2
  let (message, rest) ← match skipSpace rest with
    | ']' :: _ => .error .malformed
    | rest => readMessage rest
  return (⟨read.1, message⟩, ← readMark ']' rest)

theorem readList_of_ne {chars rest : List Char} {c : Char}
    (hskip : skipSpace chars = c :: rest) (hc : c ≠ ']') :
    readList chars = readCode chars >>= readRest := by
  rw [readList, refuseEnd_of_ne 0 hskip hc]
  rfl

theorem toOption_readRest_close (code : Int32) {gap : List Char}
    (hgap : Blank gap) (rest : List Char) :
    (readRest (code, gap ++ ']' :: rest)).toOption = none := by
  rw [readRest, toOption_bind, toOption_refuseEnd_close 1 hgap]
  rfl

/-- Behind a comma stands the message, and behind the message the bracket. -/
theorem readRest_comma (code : Int32) {gap : List Char} (hgap : Blank gap)
    {chars rest : List Char} {c : Char}
    (hskip : skipSpace chars = c :: rest) (hc : c ≠ ']') :
    readRest (code, gap ++ ',' :: chars) =
      readMessage chars >>= fun read =>
        (readMark ']' read.2).map fun rest => (⟨code, read.1⟩, rest) := by
  have hcomma := skipSpace_mark hgap (show isSpace ',' = false by decide) chars
  rw [readRest, refuseEnd_of_ne 1 hcomma (by decide),
    readMark_of_blank hgap (by decide), ← readMessage_skipSpace]
  simp only [bind, Except.bind, hskip]
  split
  next hclose => exact absurd (List.cons.inj hclose).1 hc
  next =>
    cases readMessage (c :: rest) with
    | error reason => rfl
    | ok read =>
        dsimp only
        cases readMark ']' read.2 <;> rfl

theorem toOption_readRest_comma {gap chars : List Char} {v : Value}
    (hgap : Blank gap) (helement : Spells (.element v) chars)
    (rest : List Char) :
    ∃ after, Blank after ∧ ∀ code : Int32,
      (readRest (code, gap ++ ',' :: (chars ++ rest))).toOption =
        (messageIn v).bind fun message =>
          (readMark ']' (after ++ rest)).toOption.map fun rest =>
            (⟨code, message⟩, rest) := by
  obtain ⟨c, tail, hskip, hc⟩ := helement.skipSpace_eq rest
  obtain ⟨after, hafter, hread⟩ := toOption_readMessage helement rest
  refine ⟨after, hafter, fun code => ?_⟩
  rw [readRest_comma code hgap hskip hc.ne_close.1, toOption_bind, hread,
    Option.bind_map]
  simp only [Function.comp_def, toOption_map]

/-- A list is read if it has two elements, which are a code and a message. -/
theorem toOption_readList {values : List Value} {chars : List Char}
    (helements : Spells (.elements values) chars) (rest : List Char) :
    (readList (chars ++ ']' :: rest)).toOption =
      (errorObject? (.list values)).map fun e => (e, rest) := by
  obtain ⟨c, tail, hskip, hc⟩ := helements.skipSpace_eq (']' :: rest)
  rw [readList_of_ne hskip hc.ne_close.1, toOption_bind]
  cases helements with
  | @lastElement v _ helement =>
      have hends : NumberLiteral.EndsNumber (']' :: rest) :=
        .cons (by decide) rest
      obtain ⟨gap, hgap, hcode⟩ := toOption_readCode helement hends
      rw [hcode, Option.bind_map]
      simp only [Function.comp_def, toOption_readRest_close _ hgap]
      exact Option.bind_fun_none _
  | @moreElements v vs chars more helement helements =>
      have hends : NumberLiteral.EndsNumber
          (',' :: (more ++ ']' :: rest)) := .cons (by decide) _
      obtain ⟨gap, hgap, hcode⟩ := toOption_readCode helement hends
      rw [List.append_assoc, List.cons_append, hcode, Option.bind_map]
      cases helements with
      | @lastElement w _ hlast =>
          obtain ⟨after, hafter, hrest⟩ :=
            toOption_readRest_comma hgap hlast (']' :: rest)
          simp only [Function.comp_def, hrest,
            readMark_of_blank hafter (show isSpace ']' = false by decide)]
          rw [errorObject?_pair]
          cases codeIn v <;> cases messageIn w <;> rfl
      | @moreElements w ws _ more hsecond hothers =>
          have hnone : errorObject? (.list (v :: w :: ws)) = none := by
            cases hothers <;> rfl
          obtain ⟨after, hafter, hrest⟩ :=
            toOption_readRest_comma hgap hsecond (',' :: (more ++ ']' :: rest))
          have hmore := readMark_of_ne hafter
            (show isSpace ',' = false by decide) (show ',' ≠ ']' by decide)
            (more ++ ']' :: rest)
          rw [List.append_assoc, List.cons_append]
          simp only [Function.comp_def, hrest, hmore]
          rw [hnone]
          cases codeIn v <;> cases messageIn w <;> rfl

/-! Whole texts -/

theorem toOption_read {v : Value} {chars : List Char}
    (hvalue : Spells (.value v) chars) (rest : List Char) :
    (read (chars ++ rest)).toOption =
      (errorObject? v).map fun e => (e, rest) := by
  obtain ⟨c, tail, hskip, hc⟩ := hvalue.skipSpace_eq rest
  by_cases hbrace : c = '\x7b'
  · subst hbrace
    obtain ⟨members, rfl⟩ := hc.eq_object
    cases hvalue with
    | emptyObject hgap =>
        rw [List.cons_append, List.append_assoc]
        exact toOption_readObject_nil hgap rest
    | object hmembers =>
        rw [List.cons_append, List.append_assoc]
        exact toOption_readObject hmembers rest
  by_cases hbracket : c = '['
  · subst hbracket
    obtain ⟨values, rfl⟩ := hc.eq_list
    cases hvalue with
    | emptyList hgap =>
        rw [List.cons_append, List.append_assoc]
        exact toOption_readList_nil hgap rest
    | list helements =>
        rw [List.cons_append, List.append_assoc]
        exact toOption_readList helements rest
  · have hnone : (read (chars ++ rest)).toOption = none := by
      simp only [read, hskip, if_neg hbrace, if_neg hbracket]
      rfl
    rw [hnone]
    cases v with
    | list values => exact absurd hc hbracket
    | object members => exact absurd hc hbrace
    | null | boolean | number | text => rfl

/-- Blanks and spellings do not matter. -/
theorem toOption_ofJson {v : Value} {text : String}
    (htext : Spells (.element v) text.toList) :
    (ofJson text).toOption = errorObject? v := by
  generalize hchars : text.toList = chars at htext
  cases htext with
  | @element _ before chars after hbefore hvalue hafter =>
      have hread :
          read (before ++ (chars ++ after)) = read (chars ++ after) := by
        rw [read, skipSpace_of_blank hbefore, read]
      have hend : readEnd after = .ok () := by
        have hskip := skipSpace_of_blank hafter []
        rw [List.append_nil] at hskip
        rw [readEnd, hskip]
        rfl
      rw [ofJson, hchars, hread, toOption_bind, toOption_read hvalue]
      simp only [Option.bind_map, Function.comp_def, hend]
      cases errorObject? v <;> rfl

/-- A JSON text is read as an error object if and only if its tree is one: two
elements, or one member of either name in any order among any others. -/
theorem json_shapes_accepted {v : Value} {text : String}
    (htext : Spells (.element v) text.toList) (e : ErrorObject) :
    ofJson text = .ok e ↔ HeldBy e v := by
  rw [← errorObject?_eq_some_iff, ← toOption_ofJson htext]
  cases ofJson text <;> simp [Except.toOption]

/-- The key is escaped, and what the unknown member holds does not matter. -/
theorem json_shapes_accepted_members :
    Spells
      (.element (.object
        [("data".toList, .list
          [.number ⟨true, ['0'], none, some (false, ['3'])⟩, .object []]),
        ("message".toList, .text ['a']),
        ("code".toList, .number ⟨true, ['1', '2'], none, none⟩)]))
      ("\x7b\"data\":[-0E+3, \x7b\x7d],\"message\":\"a\"," ++
        "\"\\u0063ode\": -12\x7d").toList ∧
    ofJson ("\x7b\"data\":[-0E+3, \x7b\x7d],\"message\":\"a\"," ++
        "\"\\u0063ode\": -12\x7d") = .ok ⟨-12, "a"⟩ := by
  have hblank : Blank [' '] := by decide
  have hexponent : SpellsExponent (some (false, ['3'])) ['E', '+', '3'] :=
    .some (.inr rfl) (show (false, ['+']) ∈ exponentSigns by decide)
      (show Digits ['3'] by decide)
  have hdata : Spells (.member "data".toList (.list
      [.number ⟨true, ['0'], none, some (false, ['3'])⟩, .object []])) _ :=
    .member blank_nil (spellsText_plain (by decide)) blank_nil
      (.element blank_nil (.list (.moreElements
        (.element blank_nil (.number (.mk (by decide) .none hexponent))
          blank_nil)
        (.lastElement
          (.element hblank (.emptyObject blank_nil) blank_nil)))) blank_nil)
  have hmessage : Spells (.member "message".toList (.text ['a'])) _ :=
    .member blank_nil (spellsText_plain (by decide)) blank_nil
      (.element blank_nil (.text (spellsText_plain (by decide))) blank_nil)
  have hunit : SpellsUnit 0x63 ['\\', 'u', '0', '0', '6', '3'] :=
    .mk (List.all_eq_true.mp
      (show ['0', '0', '6', '3'].all Hex.isDigit = true by decide))
  have hc : SpellsChar 'c' _ := .unit hunit (by decide)
  have hcode : Spells
      (.member "code".toList (.number ⟨true, ['1', '2'], none, none⟩)) _ :=
    .member blank_nil (.cons hc (spellsText_plain (by decide))) blank_nil
      (.element hblank (.number (.mk (by decide) .none .none)) blank_nil)
  have htext := Spells.element blank_nil (.object (.moreMembers hdata
    (.moreMembers hmessage (.lastMember hcode)))) blank_nil
  have hwrites : NumberLiteral.Writes ⟨true, ['1', '2'], none, none⟩ (-12) :=
    ⟨rfl, rfl, by decide, by decide⟩
  exact ⟨htext, (json_shapes_accepted htext ⟨-12, "a"⟩).mpr
    (.object hwrites rfl rfl)⟩

end ScriptStack.ErrorObject
