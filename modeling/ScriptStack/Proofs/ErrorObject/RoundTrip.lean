import ScriptStack.ErrorObject.Json
import ScriptStack.Proofs.Json.Number
import ScriptStack.Proofs.Json.Text
/-!
Error objects through JSON.  Each of the two members is read as it was written,
the code first (`readMembersWith_code`, `readMembersWith_message`), so the
object is read back from its text (`ofJson_toJson`).
-/

namespace ScriptStack.ErrorObject

open ScriptStack.Json

theorem readMark_cons {mark : Char} (hmark : isSpace mark = false)
    (rest : List Char) : readMark mark (mark :: rest) = .ok rest := by
  rw [readMark, skipSpace_of_not_isSpace hmark]
  exact if_pos rfl

theorem readText_key {key : List Char} (hkey : key.flatMap escape = key)
    (rest : List Char) : readText (key ++ '"' :: rest) = .ok (key, rest) := by
  have hread := readText_of_spells (spellsText_flatMap_escape key) rest
  rwa [hkey] at hread

theorem code?_toInt (code : Int32) : code? code.toInt = some code := by
  rw [code?, if_pos ⟨code.minValue_le_toInt, code.toInt_le⟩, Int32.ofInt_toInt]

/-- A code is read as it was written: all codes fit in the word that integers
are read into. -/
theorem readCode_render (code : Int32) {rest : List Char}
    (hrest : NumberLiteral.EndsNumber rest) :
    readCode ((Decimal.render code.toInt).toList ++ rest) =
      .ok (code, rest) := by
  have hspells := NumberLiteral.spellsNumber_written code.toInt
  have hread := NumberLiteral.read_of_spells .truncated hspells hrest
  have hfound : (NumberLiteral.written code.toInt).found =
      .ok (.integer code.toInt) := by
    apply NumberLiteral.found_written
    · exact Int.le_trans (by decide) code.minValue_le_toInt
    · exact Int.le_trans code.toInt_le (by decide)
  obtain ⟨c, tail, htext, hc⟩ := NumberLiteral.spellsNumber_eq_cons hspells
  have hspace := NumberLiteral.isSpace_of_number hc
  rw [htext, List.cons_append] at hread ⊢
  simp only [readCode, skipSpace_of_not_isSpace hspace, if_pos hc, hread, bind,
    Except.bind, hfound, code?_toInt]

/-- A message comes back from its quotes. -/
theorem readMessage_writeText (message : String) (rest : List Char) :
    readMessage (writeText message.toList ++ rest) = .ok (message, rest) := by
  have hread :=
    readText_of_spells (spellsText_flatMap_escape message.toList) rest
  have htext : writeText message.toList ++ rest =
      '"' :: (message.toList.flatMap escape ++ '"' :: rest) := by
    simp [writeText]
  rw [htext, readMessage, skipSpace_of_not_isSpace (by decide)]
  dsimp only
  rw [if_pos rfl, hread, Except.map, String.ofList_toList]

/-- A written code with its key, then `rest`. -/
def codeMember (code : Int32) (rest : List Char) : List Char :=
  '"' :: ("code".toList ++
    '"' :: ':' :: ((Decimal.render code.toInt).toList ++ rest))

/-- A written message with its key, then `rest`. -/
def messageMember (message : String) (rest : List Char) : List Char :=
  '"' :: ("message".toList ++
    '"' :: ':' :: (writeText message.toList ++ rest))

theorem toJsonChars_eq (e : ErrorObject) :
    e.toJsonChars = '\x7b' ::
      codeMember e.code (',' :: messageMember e.message ['\x7d']) := by
  have hcode : "\x7b\"code\":".toList =
      '\x7b' :: '"' :: ("code".toList ++ ['"', ':']) := by decide
  have hmessage : ",\"message\":".toList =
      ',' :: '"' :: ("message".toList ++ ['"', ':']) := by decide
  unfold toJsonChars codeMember messageMember Decimal.render
  simp only [hcode, hmessage, List.append_assoc, List.cons_append,
    List.nil_append]

theorem readMember_code {fields : Fields} (hnew : fields.code = none)
    (chars : List Char) :
    fields.readMember "code".toList chars =
      (readMark ':' chars >>= readCode).map fun read =>
        (⟨some read.1, fields.message⟩, read.2) := by
  rw [Fields.readMember, if_pos rfl, hnew]
  simp only [bind, Except.bind]
  cases readMark ':' chars with
  | error reason => rfl
  | ok rest => cases hread : readCode rest <;> simp [hread] <;> rfl

theorem readMember_message {fields : Fields} (hnew : fields.message = none)
    (chars : List Char) :
    fields.readMember "message".toList chars =
      (readMark ':' chars >>= readMessage).map fun read =>
        (⟨fields.code, some read.1⟩, read.2) := by
  rw [Fields.readMember, if_neg (by decide), if_pos rfl, hnew]
  simp only [bind, Except.bind]
  cases readMark ':' chars with
  | error reason => rfl
  | ok rest => cases hread : readMessage rest <;> simp [hread] <;> rfl

/-- What is read after a member: the members behind a comma, or the end. -/
def readMore (fuel : Nat) (read : Fields × List Char) :
    Except Error (Fields × List Char) :=
  match skipSpace read.2 with
  | [] => .error .truncated
  | c :: rest =>
      if c = ',' then readMembersWith fuel read.1 rest
      else if c = '\x7d' then .ok (read.1, rest)
      else .error .malformed

/-- A member is read from its key to the mark behind its value. -/
theorem readMembersWith_key (fuel : Nat) (fields : Fields)
    {chars quoted key rest : List Char}
    (hquote : readMark '"' chars = .ok quoted)
    (hkey : readText quoted = .ok (key, rest)) :
    readMembersWith (fuel + 1) fields chars =
      fields.readMember key rest >>= readMore fuel := by
  simp only [readMembersWith, hquote, hkey, bind, Except.bind]
  rfl

/-- An object that does not close at once is read by its members. -/
theorem readObject_of_head? {chars : List Char}
    (hhead : (skipSpace chars).head? ≠ some '\x7d') :
    readObject chars =
      readMembersWith ((skipSpace chars).length + 1) ⟨none, none⟩
          (skipSpace chars) >>= fun read =>
        (Fields.finish read.1).map fun e => (e, read.2) := by
  rw [readObject]
  split
  next hbrace =>
    rw [hbrace] at hhead
    exact absurd rfl hhead
  next =>
    simp only [bind, Except.bind]
    cases readMembersWith ((skipSpace chars).length + 1) ⟨none, none⟩
        (skipSpace chars) with
    | error reason => rfl
    | ok read =>
        dsimp only
        cases Fields.finish read.1 <;> rfl

theorem readMembersWith_code (fuel : Nat) (code : Int32) (rest : List Char) :
    readMembersWith (fuel + 1) ⟨none, none⟩ (codeMember code (',' :: rest)) =
      readMembersWith fuel ⟨some code, none⟩ rest := by
  have hends : NumberLiteral.EndsNumber (',' :: rest) :=
    .cons (by decide) rest
  rw [codeMember, readMembersWith_key fuel _ (readMark_cons (by decide) _)
    (readText_key (by decide) _), readMember_code rfl,
    readMark_cons (by decide)]
  simp only [bind, Except.bind, readCode_render code hends, Except.map]
  rw [readMore, skipSpace_of_not_isSpace (by decide)]
  exact if_pos rfl

theorem readMembersWith_message (fuel : Nat) (code : Int32) (message : String)
    (rest : List Char) :
    readMembersWith (fuel + 1) ⟨some code, none⟩
        (messageMember message ('\x7d' :: rest)) =
      .ok (⟨some code, some message⟩, rest) := by
  rw [messageMember, readMembersWith_key fuel _ (readMark_cons (by decide) _)
    (readText_key (by decide) _), readMember_message rfl,
    readMark_cons (by decide)]
  simp only [bind, Except.bind, readMessage_writeText, Except.map]
  rw [readMore, skipSpace_of_not_isSpace (by decide)]
  rfl

theorem readObject_members (code : Int32) (message : String)
    (rest : List Char) :
    readObject (codeMember code
        (',' :: messageMember message ('\x7d' :: rest))) =
      .ok (⟨code, message⟩, rest) := by
  have hmembers (fuel : Nat) :
      readMembersWith (fuel + 2) ⟨none, none⟩
          (codeMember code (',' :: messageMember message ('\x7d' :: rest))) =
        .ok (⟨some code, some message⟩, rest) := by
    rw [readMembersWith_code, readMembersWith_message]
  -- the text is longer than one character, which leaves fuel for both members
  cases hchars : codeMember code
      (',' :: messageMember message ('\x7d' :: rest)) with
  | nil => nomatch hchars
  | cons c tail =>
      obtain rfl : '"' = c := (List.cons.inj hchars).1
      have hskip : skipSpace ('"' :: tail) = '"' :: tail :=
        skipSpace_of_not_isSpace (by decide) tail
      have hhead : (skipSpace ('"' :: tail)).head? ≠ some '\x7d' := by
        rw [hskip, List.head?_cons]
        decide
      rw [hchars] at hmembers
      rw [readObject_of_head? hhead, hskip, List.length_cons, hmembers]
      rfl

/-- An error object comes back from the text that it is written as. -/
theorem ofJson_toJson (e : ErrorObject) : ofJson e.toJson = .ok e := by
  have hread : read e.toJsonChars = .ok (e, []) := by
    rw [toJsonChars_eq, read, skipSpace_of_not_isSpace (by decide)]
    dsimp only
    rw [if_pos rfl, readObject_members]
  rw [ofJson, toJson, String.toList_ofList, hread]
  rfl

/-- An error object comes back from its JSON, whatever its code and the
characters of its message are, and no other error object has the same JSON. -/
theorem json_round_trip :
    (∀ (code : Int32) (message : String),
      ofJson (toJson ⟨code, message⟩) = .ok ⟨code, message⟩) ∧
    Function.Injective toJson := by
  constructor
  · intro code message
    exact ofJson_toJson ⟨code, message⟩
  · intro e e' htext
    have hread := ofJson_toJson e
    rw [htext, ofJson_toJson] at hread
    exact (Except.ok.inj hread).symm

end ScriptStack.ErrorObject
