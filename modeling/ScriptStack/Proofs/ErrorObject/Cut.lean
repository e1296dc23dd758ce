import ScriptStack.Proofs.ErrorObject.RoundTrip
import ScriptStack.Proofs.Json.Cut
/-!
Error objects in texts that are cut off.  Wherever the text of an object is cut,
its reader comes to the end while it waits for more; a code may be cut to a
shorter one, but the closing brace is missing then (`readMembersWith_of_cut`).
-/

namespace ScriptStack.ErrorObject

open ScriptStack.Json

theorem readMore_nil (fuel : Nat) (fields : Fields) :
    readMore fuel (fields, []) = .error .truncated := rfl

/-- What is left of a code is a code of its own, or too short for one. -/
theorem readCode_of_cut {code : Int32} {part : List Char}
    (hpart : part <+: (Decimal.render code.toInt).toList) :
    readCode part = .error .truncated ∨
      ∃ shorter, readCode part = .ok (shorter, []) := by
  rcases Decimal.exists_render_of_cut hpart with
    rfl | rfl | ⟨n, rfl, hlow, hhigh⟩
  · exact Or.inl rfl
  · exact Or.inl rfl
  · right
    have hmin := code.minValue_le_toInt
    have hmax := code.toInt_le
    have hn : (Int32.ofInt n).toInt = n := by
      have hleast : Int32.minValue.toInt = -2 ^ 31 := by decide
      have hgreatest : Int32.maxValue.toInt = 2 ^ 31 - 1 := by decide
      apply Int32.toInt_ofInt_of_le
      · omega
      · omega
    refine ⟨Int32.ofInt n, ?_⟩
    have hread := readCode_render (Int32.ofInt n)
      (show NumberLiteral.EndsNumber [] from nofun)
    rwa [hn, List.append_nil] at hread

/-- What is left of a message is too short for one, or all of it is left. -/
theorem readMessage_of_cut {message : String} {part : List Char}
    (hpart : part <+: writeText message.toList) :
    readMessage part = .error .truncated ∨
      readMessage part = .ok (message, []) := by
  have htext : writeText message.toList =
      '"' :: (message.toList.flatMap escape ++ '"' :: []) := by
    simp [writeText]
  rw [htext, List.prefix_cons_iff] at hpart
  rcases hpart with rfl | ⟨quoted, rfl, hquoted⟩
  · exact Or.inl rfl
  rcases cut_append_cons hquoted with hcut | ⟨more, rfl, hmore⟩
  · left
    rw [readMessage, skipSpace_of_not_isSpace (by decide)]
    dsimp only
    rw [if_pos rfl, readText_of_cut hcut, Except.map]
  · right
    rw [List.prefix_nil] at hmore
    rw [hmore, ← htext, ← readMessage_writeText, List.append_nil]

/-- Members are too short for themselves if what is left of the first one and of
those behind it is. -/
theorem readMembersWith_of_cut {fuel : Nat} {fields : Fields}
    {key part rest : List Char} (hkey : key.flatMap escape = key)
    (hpart : part <+: '"' :: (key ++ '"' :: rest))
    (hmember : ∀ left, left <+: rest →
      fields.readMember key left >>= readMore fuel = .error .truncated) :
    readMembersWith (fuel + 1) fields part = .error .truncated := by
  rw [List.prefix_cons_iff] at hpart
  rcases hpart with rfl | ⟨quoted, rfl, hquoted⟩
  · rfl
  · rcases cut_append_cons hquoted with hcut | ⟨left, rfl, hleft⟩
    · rw [← hkey] at hcut
      have hmark := readMark_cons (show isSpace '"' = false by decide) quoted
      simp only [readMembersWith, hmark, bind, Except.bind,
        readText_of_cut hcut]
    · rw [readMembersWith_key fuel fields (readMark_cons (by decide) _)
        (readText_key hkey left)]
      exact hmember left hleft

/-- What is left of the last member is too short without the closing brace. -/
theorem readMembersWith_of_cut_message (fuel : Nat) (code : Int32)
    (message : String) {part : List Char}
    (hpart : part <+: messageMember message []) :
    readMembersWith fuel ⟨some code, none⟩ part = .error .truncated := by
  cases fuel with
  | zero => rfl
  | succ fuel =>
      apply readMembersWith_of_cut (by decide) hpart
      intro left hleft
      rw [readMember_message rfl]
      rw [List.append_nil, List.prefix_cons_iff] at hleft
      rcases hleft with rfl | ⟨value, rfl, hvalue⟩
      · rfl
      rw [readMark_cons (by decide)]
      rcases readMessage_of_cut hvalue with hshort | hwhole
      · simp only [bind, Except.bind, hshort, Except.map]
      · simp only [bind, Except.bind, hwhole, Except.map, readMore_nil]

/-- What is left of the two members is too short: a code that is cut off may be
a code, but nothing stands behind it. -/
theorem readMembersWith_of_cut_members (fuel : Nat) (e : ErrorObject)
    {part : List Char} (hpart : part <+:
      codeMember e.code (',' :: messageMember e.message [])) :
    readMembersWith fuel ⟨none, none⟩ part = .error .truncated := by
  cases fuel with
  | zero => rfl
  | succ fuel =>
      apply readMembersWith_of_cut (by decide) hpart
      intro left hleft
      rw [readMember_code rfl]
      rw [List.prefix_cons_iff] at hleft
      rcases hleft with rfl | ⟨value, rfl, hvalue⟩
      · rfl
      rw [readMark_cons (by decide)]
      rcases cut_append_cons hvalue with hcut | ⟨more, rfl, hmore⟩
      · rcases readCode_of_cut hcut with hshort | ⟨shorter, hshorter⟩
        · simp only [bind, Except.bind, hshort, Except.map]
        · simp only [bind, Except.bind, hshorter, Except.map, readMore_nil]
      · have hread := readCode_render e.code
          (NumberLiteral.EndsNumber.cons (c := ',') (by decide) more)
        simp only [bind, Except.bind, hread, Except.map]
        exact readMembersWith_of_cut_message fuel e.code e.message hmore

theorem read_of_cut {e : ErrorObject} {part : List Char}
    (hpart : part <+: e.toJsonChars) (hne : part ≠ e.toJsonChars) :
    read part = .error .truncated := by
  have hchars : e.toJsonChars = '\x7b' ::
      codeMember e.code (',' :: messageMember e.message []) ++ ['\x7d'] := by
    rw [toJsonChars_eq]
    simp [codeMember, messageMember]
  rw [hchars, List.prefix_concat_iff] at hpart
  have hopen := hpart.resolve_left (hchars ▸ hne)
  rw [List.prefix_cons_iff] at hopen
  rcases hopen with rfl | ⟨members, rfl, hmembers⟩
  · rfl
  have hmore := readMembersWith_of_cut_members (members.length + 1) e hmembers
  -- no brace closes the object where its first quote should stand
  have hstart : skipSpace members = members ∧ members.head? ≠ some '\x7d' := by
    rw [codeMember, List.prefix_cons_iff] at hmembers
    rcases hmembers with rfl | ⟨tail, rfl, -⟩
    · exact ⟨rfl, by simp⟩
    · exact ⟨skipSpace_of_not_isSpace (by decide) tail, by simp⟩
  have hobject : readObject members = .error .truncated := by
    rw [readObject_of_head? (hstart.1.symm ▸ hstart.2), hstart.1, hmore]
    rfl
  rw [read, skipSpace_of_not_isSpace (by decide)]
  dsimp only
  rw [if_pos rfl, hobject]

/-- An error object that is cut off anywhere, at the start too, is told from a
whole one: its text ends too early, whatever the part that is left says. -/
theorem cut_json_ends_too_early (e : ErrorObject) {part gone : String}
    (htext : part ++ gone = e.toJson) (hgone : gone ≠ "") :
    ofJson part = .error .truncated := by
  have hchars : part.toList ++ gone.toList = e.toJsonChars := by
    rw [← String.toList_append, htext, toJson, String.toList_ofList]
  have hread : read part.toList = .error .truncated := by
    apply read_of_cut ⟨gone.toList, hchars⟩
    intro hwhole
    rw [← hwhole, List.append_right_eq_self,
      String.toList_eq_nil_iff] at hchars
    exact hgone hchars
  rw [ofJson, hread]
  rfl

/-- A cut inside an escape, one that leaves a shorter code, and nothing left. -/
theorem cut_json_ends_too_early_inside :
    ("\x7b\"code\":-12,\"message\":\"\\u00" ++ "01\"\x7d" =
        toJson ⟨-12, "\x01"⟩ ∧
      ofJson "\x7b\"code\":-12,\"message\":\"\\u00" = .error .truncated) ∧
    ("\x7b\"code\":-1" ++ "2,\"message\":\"\\u0001\"\x7d" =
        toJson ⟨-12, "\x01"⟩ ∧
      ofJson "\x7b\"code\":-1" = .error .truncated) ∧
    ("" ++ toJson ⟨-12, "\x01"⟩ = toJson ⟨-12, "\x01"⟩ ∧
      ofJson "" = .error .truncated) := by
  have hescape : "\x7b\"code\":-12,\"message\":\"\\u00" ++ "01\"\x7d" =
      toJson ⟨-12, "\x01"⟩ := by decide +kernel
  have hcode : "\x7b\"code\":-1" ++ "2,\"message\":\"\\u0001\"\x7d" =
      toJson ⟨-12, "\x01"⟩ := by decide +kernel
  have hnothing : "" ++ toJson ⟨-12, "\x01"⟩ = toJson ⟨-12, "\x01"⟩ := by
    decide +kernel
  exact ⟨⟨hescape, cut_json_ends_too_early _ hescape (by decide)⟩,
    ⟨hcode, cut_json_ends_too_early _ hcode (by decide)⟩,
    hnothing, cut_json_ends_too_early _ hnothing (by decide +kernel)⟩

end ScriptStack.ErrorObject
