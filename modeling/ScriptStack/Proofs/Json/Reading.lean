import ScriptStack.Json.Skip
import ScriptStack.Proofs.Json.Number
import ScriptStack.Proofs.Json.Text
/-!
Values of JSON in a text.  A value shows its kind with its first character
(`Spells.skipSpace_eq`), and one of any depth is passed over in as many steps
as it has characters (`skips_of_spells`).
-/

namespace ScriptStack.Json

theorem isSpace_iff (c : Char) : isSpace c = true ↔ c ∈ blanks := by
  simp [isSpace, blanks, or_assoc]

theorem skipSpace_of_blank {gap : List Char} (hgap : Blank gap)
    (rest : List Char) : skipSpace (gap ++ rest) = skipSpace rest :=
  List.dropWhile_append_of_pos fun c hc => (isSpace_iff c).mpr (hgap c hc)

/-- A number ends in front of blanks, whatever they are followed by. -/
theorem endsNumber_of_blank {gap rest : List Char} (hgap : Blank gap)
    (hrest : NumberLiteral.EndsNumber rest) :
    NumberLiteral.EndsNumber (gap ++ rest) := by
  cases gap with
  | nil => exact hrest
  | cons c gap =>
      have hall : (blanks.all fun c => !c.isDigit && c != '.' && c != 'e' &&
          c != 'E') = true := by decide
      have hc := List.all_eq_true.mp hall c (hgap c List.mem_cons_self)
      exact .cons (by simpa [and_assoc] using hc) _

/-- The character that a value begins with. -/
def Value.Opens : Value → Char → Prop
  | .null, c => c = 'n'
  | .boolean b, c => c = if b then 't' else 'f'
  | .number _, c => c = '-' ∨ c.isDigit = true
  | .text _, c => c = '"'
  | .list _, c => c = '['
  | .object _, c => c = '\x7b'

/-- The character that a part of a text begins with, behind blanks. -/
def Phrase.Opens : Phrase → Char → Prop
  | .value v, c => v.Opens c
  | .element v, c => v.Opens c
  | .elements vs, c => ∃ v ∈ vs.head?, v.Opens c
  | .member _ _, c => c = '"'
  | .members _, c => c = '"'

/-- What begins a value closes no list and no object, so an empty one is told
from others by one character. -/
theorem Value.Opens.ne_close {v : Value} {c : Char} (hc : v.Opens c) :
    c ≠ ']' ∧ c ≠ '\x7d' := by
  cases v with
  | number =>
      rcases hc with rfl | hdigit
      · decide
      · constructor <;> exact Decimal.ne_of_isDigit hdigit (by decide)
  | boolean b => cases b <;> (rw [Value.Opens] at hc; subst hc; decide)
  | null | text | list | object => rw [Value.Opens] at hc; subst hc; decide

theorem Phrase.Opens.ne_close {phrase : Phrase} {c : Char}
    (hc : phrase.Opens c) : c ≠ ']' ∧ c ≠ '\x7d' := by
  cases phrase with
  | value v => exact Value.Opens.ne_close hc
  | element v => exact Value.Opens.ne_close hc
  | elements vs =>
      obtain ⟨v, -, hv⟩ := hc
      exact hv.ne_close
  | member | members => rw [Phrase.Opens] at hc; subst hc; decide

/-- The kind of a value is seen from the character that it begins with; numbers
alone begin with a sign or a digit. -/
theorem Value.Opens.eq_number {v : Value} {c : Char} (hc : v.Opens c)
    (hnumber : c = '-' ∨ c.isDigit = true) :
    ∃ literal, v = .number literal := by
  cases v with
  | number literal => exact ⟨literal, rfl⟩
  | boolean b =>
      rw [Value.Opens] at hc
      subst hc
      exact absurd hnumber (by cases b <;> decide)
  | null | text | list | object =>
      rw [Value.Opens] at hc
      subst hc
      exact absurd hnumber (by decide)

theorem Value.Opens.eq_text {v : Value} (hc : v.Opens '"') :
    ∃ chars, v = .text chars := by
  cases v with
  | text chars => exact ⟨chars, rfl⟩
  | boolean b => cases b <;> simp [Value.Opens] at hc
  | null | number | list | object => simp [Value.Opens] at hc

theorem Value.Opens.eq_list {v : Value} (hc : v.Opens '[') :
    ∃ vs, v = .list vs := by
  cases v with
  | list vs => exact ⟨vs, rfl⟩
  | boolean b => cases b <;> simp [Value.Opens] at hc
  | null | number | text | object => simp [Value.Opens] at hc

theorem Value.Opens.eq_object {v : Value} (hc : v.Opens '\x7b') :
    ∃ members, v = .object members := by
  cases v with
  | object members => exact ⟨members, rfl⟩
  | boolean b => cases b <;> simp [Value.Opens] at hc
  | null | number | text | list => simp [Value.Opens] at hc

/-- Behind the blanks in front of it, a part of a text begins with a character
of its kind. -/
theorem Spells.skipSpace_eq {phrase : Phrase} {chars : List Char}
    (hspells : Spells phrase chars) (rest : List Char) :
    ∃ c tail, skipSpace (chars ++ rest) = c :: tail ∧ phrase.Opens c := by
  induction hspells generalizing rest with
  | null => exact ⟨'n', _, rfl, rfl⟩
  | true => exact ⟨'t', _, rfl, rfl⟩
  | false => exact ⟨'f', _, rfl, rfl⟩
  | number hnumber =>
      obtain ⟨c, tail, rfl, hc⟩ := NumberLiteral.spellsNumber_eq_cons hnumber
      exact ⟨c, _, skipSpace_of_not_isSpace
        (NumberLiteral.isSpace_of_number hc) _, hc⟩
  | text => exact ⟨'"', _, rfl, rfl⟩
  | emptyList | list => exact ⟨'[', _, rfl, rfl⟩
  | emptyObject | object => exact ⟨'\x7b', _, rfl, rfl⟩
  | element hbefore _ _ ih =>
      rw [List.append_assoc, List.append_assoc, skipSpace_of_blank hbefore]
      exact ih _
  | lastElement _ ih =>
      obtain ⟨c, tail, htail, hc⟩ := ih rest
      exact ⟨c, tail, htail, _, rfl, hc⟩
  | moreElements _ _ ih =>
      rw [List.append_assoc]
      obtain ⟨c, tail, htail, hc⟩ := ih _
      exact ⟨c, tail, htail, _, rfl, hc⟩
  | member hbefore =>
      rw [List.append_assoc, skipSpace_of_blank hbefore]
      exact ⟨'"', _, rfl, rfl⟩
  | lastMember _ ih => exact ih rest
  | moreMembers _ _ ih =>
      rw [List.append_assoc]
      exact ih _

theorem skipSpace_skipSpace (chars : List Char) :
    skipSpace (skipSpace chars) = skipSpace chars :=
  List.dropWhile_idempotent ..

theorem skipValueWith_skipSpace (fuel : Nat) (chars : List Char) :
    skipValueWith fuel (skipSpace chars) = skipValueWith fuel chars := by
  cases fuel with
  | zero => rfl
  | succ fuel => rw [skipValueWith, skipValueWith, skipSpace_skipSpace]

theorem readMark_skipSpace (mark : Char) (chars : List Char) :
    readMark mark (skipSpace chars) = readMark mark chars := by
  rw [readMark, readMark, skipSpace_skipSpace]

theorem skipElementsWith_skipSpace (fuel : Nat) (chars : List Char) :
    skipElementsWith fuel (skipSpace chars) = skipElementsWith fuel chars := by
  cases fuel with
  | zero => rfl
  | succ fuel =>
      rw [skipElementsWith, skipElementsWith, skipValueWith_skipSpace]

theorem skipMembersWith_skipSpace (fuel : Nat) (chars : List Char) :
    skipMembersWith fuel (skipSpace chars) = skipMembersWith fuel chars := by
  cases fuel with
  | zero => rfl
  | succ fuel => rw [skipMembersWith, skipMembersWith, readMark_skipSpace]

/-- Blanks in front of a value do not matter. -/
theorem skipValueWith_of_blank (fuel : Nat) {gap : List Char}
    (hgap : Blank gap) (rest : List Char) :
    skipValueWith fuel (gap ++ rest) = skipValueWith fuel rest := by
  rw [← skipValueWith_skipSpace, skipSpace_of_blank hgap,
    skipValueWith_skipSpace]

theorem skipSpace_mark {gap : List Char} (hgap : Blank gap) {mark : Char}
    (hmark : isSpace mark = false) (rest : List Char) :
    skipSpace (gap ++ mark :: rest) = mark :: rest := by
  rw [skipSpace_of_blank hgap, skipSpace_of_not_isSpace hmark]

/-- A mark is found behind blanks. -/
theorem readMark_of_blank {gap : List Char} (hgap : Blank gap) {mark : Char}
    (hmark : isSpace mark = false) (rest : List Char) :
    readMark mark (gap ++ mark :: rest) = .ok rest := by
  rw [readMark, skipSpace_mark hgap hmark]
  exact if_pos rfl

theorem readMark_of_ne {gap : List Char} (hgap : Blank gap)
    {mark c : Char} (hspace : isSpace c = false) (hc : c ≠ mark)
    (rest : List Char) :
    readMark mark (gap ++ c :: rest) = .error .malformed := by
  rw [readMark, skipSpace_mark hgap hspace]
  exact if_neg hc

/-- A list that is not empty is passed over as its elements are. -/
theorem skipValueWith_list (fuel : Nat) {phrase : Phrase} {chars : List Char}
    (hspells : Spells phrase chars) (rest : List Char) :
    skipValueWith (fuel + 1) ('[' :: (chars ++ rest)) =
      skipElementsWith fuel (chars ++ rest) := by
  obtain ⟨c, tail, htail, hc⟩ := hspells.skipSpace_eq rest
  rw [← skipElementsWith_skipSpace, skipValueWith,
    skipSpace_of_not_isSpace (by decide)]
  simp only [htail, Char.reduceEq, if_false, if_true]
  rw [if_neg (by decide)]
  split
  next hclose => exact absurd (List.cons.inj hclose).1 hc.ne_close.1
  next => rfl

/-- An object that is not empty is passed over as its members are. -/
theorem skipValueWith_object (fuel : Nat) {phrase : Phrase} {chars : List Char}
    (hspells : Spells phrase chars) (rest : List Char) :
    skipValueWith (fuel + 1) ('\x7b' :: (chars ++ rest)) =
      skipMembersWith fuel (chars ++ rest) := by
  obtain ⟨c, tail, htail, hc⟩ := hspells.skipSpace_eq rest
  rw [← skipMembersWith_skipSpace, skipValueWith,
    skipSpace_of_not_isSpace (by decide)]
  simp only [htail, Char.reduceEq, if_false, if_true]
  rw [if_neg (by decide)]
  split
  next hclose => exact absurd (List.cons.inj hclose).1 hc.ne_close.2
  next => rfl

/-- What stands behind an item of a list or an object: a comma and more items,
or the closing mark. -/
def readOn (close : Char) (more : List Char → Except Error (List Char))
    (chars : List Char) : Except Error (List Char) :=
  match skipSpace chars with
  | [] => .error .truncated
  | c :: rest =>
      if c = ',' then more rest
      else if c = close then .ok rest
      else .error .malformed

theorem readOn_comma (close : Char)
    (more : List Char → Except Error (List Char)) {gap : List Char}
    (hgap : Blank gap) (rest : List Char) :
    readOn close more (gap ++ ',' :: rest) = more rest := by
  rw [readOn, skipSpace_mark hgap (by decide)]
  exact if_pos rfl

theorem readOn_close {close : Char} (hspace : isSpace close = false)
    (hcomma : close ≠ ',') (more : List Char → Except Error (List Char))
    {gap : List Char} (hgap : Blank gap) (rest : List Char) :
    readOn close more (gap ++ close :: rest) = .ok rest := by
  rw [readOn, skipSpace_mark hgap hspace]
  dsimp only
  rw [if_neg hcomma, if_pos rfl]

/-- Elements are one element and what goes on behind it. -/
theorem skipElementsWith_succ (fuel : Nat) (chars : List Char) :
    skipElementsWith (fuel + 1) chars =
      skipValueWith fuel chars >>= readOn ']' (skipElementsWith fuel) := rfl

/-- Passes over a member, from the quote of its key to the end of its value. -/
def skipMember (fuel : Nat) (chars : List Char) : Except Error (List Char) := do
  let afterKey ← skipText (← readMark '"' chars)
  skipValueWith fuel (← readMark ':' afterKey)

/-- Members are one member and what goes on behind it, as elements are with
their own closing mark. -/
theorem skipMembersWith_succ (fuel : Nat) (chars : List Char) :
    skipMembersWith (fuel + 1) chars =
      skipMember fuel chars >>= readOn '\x7d' (skipMembersWith fuel) := by
  rw [skipMembersWith, skipMember]
  simp only [bind_assoc]
  rfl

/-- What begins as a number is passed over by reading it. -/
theorem skipValueWith_number (fuel : Nat) {c : Char}
    (hc : c = '-' ∨ c.isDigit = true) (rest : List Char) :
    skipValueWith (fuel + 1) (c :: rest) =
      (NumberLiteral.read .malformed (c :: rest)).map Prod.snd := by
  have hne {d : Char} (hsign : d ≠ '-') (hdigit : d.isDigit = false) :
      c ≠ d := by
    rcases hc with rfl | hc
    · exact hsign.symm
    · exact Decimal.ne_of_isDigit hc hdigit
  rw [skipValueWith,
    skipSpace_of_not_isSpace (NumberLiteral.isSpace_of_number hc)]
  dsimp only
  rw [if_neg (hne (by decide) rfl), if_neg (hne (by decide) rfl),
    if_neg (hne (by decide) rfl), if_neg (hne (by decide) rfl), if_pos hc]

/-! A value in front of a character that goes on no number is passed over, and
the parts of a value alike.  Each one takes as many steps at most as it has
characters, and one more for the list or object it is in. -/

def SkipsValue (chars : List Char) : Prop :=
  ∀ fuel rest, chars.length ≤ fuel → NumberLiteral.EndsNumber rest →
    skipValueWith fuel (chars ++ rest) = .ok rest

/-- Blanks behind an item may be left over. -/
def SkipsItem (item : Nat → List Char → Except Error (List Char))
    (chars : List Char) : Prop :=
  ∀ fuel rest, chars.length ≤ fuel → NumberLiteral.EndsNumber rest →
    ∃ gap, Blank gap ∧ item fuel (chars ++ rest) = .ok (gap ++ rest)

def SkipsItems (items : Nat → List Char → Except Error (List Char))
    (close : Char) (chars : List Char) : Prop :=
  ∀ fuel rest, chars.length < fuel →
    items fuel (chars ++ close :: rest) = .ok rest

def Skips : Phrase → List Char → Prop
  | .value _, chars => SkipsValue chars
  | .element _, chars => SkipsItem skipValueWith chars
  | .elements _, chars => SkipsItems skipElementsWith ']' chars
  | .member _ _, chars => SkipsItem skipMember chars
  | .members _, chars => SkipsItems skipMembersWith '\x7d' chars

theorem SkipsValue.of_succ {c : Char} {chars : List Char}
    (hsucc : ∀ fuel rest, chars.length ≤ fuel →
      NumberLiteral.EndsNumber rest →
        skipValueWith (fuel + 1) (c :: (chars ++ rest)) = .ok rest) :
    SkipsValue (c :: chars) := by
  intro fuel rest hfuel hrest
  cases fuel with
  | zero => contradiction
  | succ fuel => exact hsucc fuel rest (Nat.le_of_succ_le_succ hfuel) hrest

/-- What follows a number ends it, so all of its digits are passed over. -/
theorem skipsValue_number {literal : NumberLiteral} {chars : List Char}
    (hnumber : SpellsNumber literal chars) : SkipsValue chars := by
  obtain ⟨c, tail, rfl, hc⟩ := NumberLiteral.spellsNumber_eq_cons hnumber
  apply SkipsValue.of_succ
  intro fuel rest _ hrest
  have hread := NumberLiteral.read_of_spells .malformed hnumber hrest
  rw [List.cons_append] at hread
  rw [skipValueWith_number fuel hc, hread]
  rfl

theorem skipsValue_emptyList {gap : List Char} (hgap : Blank gap) :
    SkipsValue ('[' :: (gap ++ [']'])) := by
  apply SkipsValue.of_succ
  intro fuel rest _ _
  rw [List.append_assoc, skipValueWith, skipSpace_of_not_isSpace (by decide)]
  simp only [List.singleton_append,
    skipSpace_mark hgap (show isSpace ']' = false by decide)]
  rfl

theorem skipsValue_emptyObject {gap : List Char} (hgap : Blank gap) :
    SkipsValue ('\x7b' :: (gap ++ ['\x7d'])) := by
  apply SkipsValue.of_succ
  intro fuel rest _ _
  rw [List.append_assoc, skipValueWith, skipSpace_of_not_isSpace (by decide)]
  simp only [List.singleton_append,
    skipSpace_mark hgap (show isSpace '\x7d' = false by decide)]
  rfl

/-- An element is passed over up to the blanks behind it, which are left. -/
theorem skipsItem_element {before chars after : List Char}
    (hbefore : Blank before) (hvalue : SkipsValue chars)
    (hafter : Blank after) :
    SkipsItem skipValueWith (before ++ (chars ++ after)) := by
  intro fuel rest hfuel hrest
  refine ⟨after, hafter, ?_⟩
  rw [List.append_assoc, List.append_assoc,
    skipValueWith_of_blank fuel hbefore]
  apply hvalue
  · simp only [List.length_append] at hfuel
    omega
  · exact endsNumber_of_blank hafter hrest

/-- A member is passed over if the element behind its colon is. -/
theorem skipsItem_member {key spelled before after chars : List Char}
    (hbefore : Blank before) (hkey : SpellsText key spelled)
    (hafter : Blank after) (helement : SkipsItem skipValueWith chars) :
    SkipsItem skipMember
      (before ++ '"' :: (spelled ++ '"' :: (after ++ ':' :: chars))) := by
  intro fuel rest hfuel hrest
  simp only [List.length_append, List.length_cons] at hfuel
  obtain ⟨gap, hgap, hskip⟩ := helement fuel rest (by omega) hrest
  refine ⟨gap, hgap, ?_⟩
  simp only [List.append_assoc, List.cons_append]
  simp only [skipMember, bind, Except.bind,
    readMark_of_blank hbefore (show isSpace '"' = false by decide),
    skipText_of_spells hkey,
    readMark_of_blank hafter (show isSpace ':' = false by decide)]
  exact hskip

section Items

variable {item items : Nat → List Char → Except Error (List Char)}
  {close : Char} {chars more : List Char}

/-- The last item is passed over with the closing mark behind it. -/
theorem skipsItems_last
    (hsucc : ∀ fuel chars, items (fuel + 1) chars =
      item fuel chars >>= readOn close (items fuel))
    (hclose : close = ']' ∨ close = '\x7d') (hitem : SkipsItem item chars) :
    SkipsItems items close chars := by
  intro fuel rest hfuel
  cases fuel with
  | zero => contradiction
  | succ fuel =>
      have hends : NumberLiteral.EndsNumber (close :: rest) := by
        rcases hclose with rfl | rfl
        · exact .cons (by decide) rest
        · exact .cons (by decide) rest
      obtain ⟨gap, hgap, hskip⟩ :=
        hitem fuel (close :: rest) (Nat.le_of_lt_succ hfuel) hends
      rw [hsucc, hskip]
      rcases hclose with rfl | rfl
      · exact readOn_close (by decide) (by decide) _ hgap rest
      · exact readOn_close (by decide) (by decide) _ hgap rest

/-- One more item takes one step more, and has its comma for it. -/
theorem skipsItems_more
    (hsucc : ∀ fuel chars, items (fuel + 1) chars =
      item fuel chars >>= readOn close (items fuel))
    (hitem : SkipsItem item chars) (hitems : SkipsItems items close more) :
    SkipsItems items close (chars ++ ',' :: more) := by
  intro fuel rest hfuel
  cases fuel with
  | zero => contradiction
  | succ fuel =>
      rw [List.length_append, List.length_cons] at hfuel
      have hends : NumberLiteral.EndsNumber
          (',' :: (more ++ close :: rest)) := .cons (by decide) _
      obtain ⟨gap, hgap, hskip⟩ :=
        hitem fuel (',' :: (more ++ close :: rest)) (by omega) hends
      rw [List.append_assoc, List.cons_append, hsucc, hskip]
      exact (readOn_comma _ _ hgap _).trans (hitems fuel rest (by omega))

end Items

/-- Every part of a text is passed over as its kind is.  The induction is on the
grammar; lists and objects go through the same two lemmas on items. -/
theorem skips_of_spells {phrase : Phrase} {chars : List Char}
    (hspells : Spells phrase chars) : Skips phrase chars := by
  induction hspells with
  | null | true | false => exact SkipsValue.of_succ fun _ _ _ _ => rfl
  | number hnumber => exact skipsValue_number hnumber
  | text htext =>
      apply SkipsValue.of_succ
      intro fuel rest _ _
      rw [List.append_assoc]
      exact skipText_of_spells htext rest
  | emptyList hgap => exact skipsValue_emptyList hgap
  | emptyObject hgap => exact skipsValue_emptyObject hgap
  | list helements ih =>
      apply SkipsValue.of_succ
      intro fuel rest hfuel _
      rw [List.append_assoc, skipValueWith_list fuel helements]
      apply ih
      rw [List.length_append] at hfuel
      exact hfuel
  | object hmembers ih =>
      apply SkipsValue.of_succ
      intro fuel rest hfuel _
      rw [List.append_assoc, skipValueWith_object fuel hmembers]
      apply ih
      rw [List.length_append] at hfuel
      exact hfuel
  | element hbefore _ hafter ih => exact skipsItem_element hbefore ih hafter
  | lastElement _ ih =>
      exact skipsItems_last skipElementsWith_succ (.inl rfl) ih
  | moreElements _ _ ih ihs =>
      exact skipsItems_more skipElementsWith_succ ih ihs
  | member hbefore hkey hafter _ ih =>
      exact skipsItem_member hbefore hkey hafter ih
  | lastMember _ ih => exact skipsItems_last skipMembersWith_succ (.inr rfl) ih
  | moreMembers _ _ ih ihs =>
      exact skipsItems_more skipMembersWith_succ ih ihs

/-- A value of any depth is passed over, up to the blanks behind it: it has
characters enough for all the steps. -/
theorem skipValue_of_spells {v : Value} {chars rest : List Char}
    (helement : Spells (.element v) chars)
    (hrest : NumberLiteral.EndsNumber rest) :
    ∃ gap, Blank gap ∧ skipValue (chars ++ rest) = .ok (gap ++ rest) := by
  apply skips_of_spells helement _ rest _ hrest
  rw [List.length_append]
  omega

end ScriptStack.Json
