import Mathlib.Data.List.TakeWhile
import ScriptStack.Proofs.Toml.Quote
import ScriptStack.Toml.Token
/-!
Tokens of a text that is written out.  Each kind of token is read off the front
of the text up to where it ends, whatever follows (`tokens_mark`,
`tokens_blanks`, `tokens_word`, `tokens_text`), and a comment is no token
(`tokens_comment`).
-/

namespace ScriptStack.Toml

theorem tokens_nil : tokens [] = some [] := by
  rw [tokens]

/-- One token is read, and then those of the rest, unless a comment begins. -/
theorem tokens_cons {c : Char} {rest more : List Char} {token : Token}
    (hc : c ≠ '#') (hread : readToken c rest = some (token, more)) :
    tokens (c :: rest) = (tokens more).map (token :: ·) := by
  rw [tokens, if_neg hc]
  split
  next hnone => simp [hread] at hnone
  next hsome =>
    obtain ⟨rfl, rfl⟩ := Prod.mk.inj (Option.some.inj (hread.symm.trans hsome))
    rfl

/-- A comment is passed over up to the end of its line, which is a token. -/
theorem tokens_comment {text : List Char}
    (htext : ∀ c ∈ text, isCommentChar c = true) (rest : List Char) :
    tokens ('#' :: (text ++ '\n' :: rest)) = tokens ('\n' :: rest) := by
  have hdrop : (text ++ '\n' :: rest).dropWhile isCommentChar =
      '\n' :: rest := by
    rw [List.dropWhile_append_of_pos htext]
    exact List.dropWhile_cons_of_neg (by decide)
  rw [tokens, if_pos rfl, hdrop]

theorem tokens_mark {c : Char} {token : Token} (hmark : mark? c = some token)
    (rest : List Char) :
    tokens (c :: rest) = (tokens rest).map (token :: ·) := by
  apply tokens_cons
  · rintro rfl
    exact absurd hmark nofun
  · rw [readToken, hmark]

/-- The characters that are tokens by themselves. -/
def markChars : List Char :=
  ['\n', '=', '.', ',', ':', '+', '\x7b', '\x7d', '[', ']']

theorem mark?_eq_none {p : Char → Bool} {c : Char} (hc : p c = true)
    (hmarks : (markChars.all fun d => !p d) = true) : mark? c = none := by
  have hnot : c ∉ markChars := by
    intro hmem
    have hmark := List.all_eq_true.mp hmarks c hmem
    simp [hc] at hmark
  unfold mark?
  split
  case h_11 => rfl
  all_goals exact absurd (by simp [markChars]) hnot

theorem isBlank_of_isWordChar {c : Char} (hc : isWordChar c = true) :
    isBlank c = false := by
  by_contra hblank
  simp only [isBlank, Bool.not_eq_false, Bool.or_eq_true, beq_iff_eq] at hblank
  rcases hblank with rfl | rfl
  · exact absurd hc (by decide)
  · exact absurd hc (by decide)

/-- Blanks up to the next other character are one token, which tells a single
space from more. -/
theorem tokens_blanks {c next : Char} {more : List Char}
    (hblanks : ∀ d ∈ c :: more, isBlank d = true)
    (hnext : isBlank next = false) (rest : List Char) :
    tokens (c :: (more ++ next :: rest)) =
      (tokens (next :: rest)).map (.blank (c == ' ' && more.isEmpty) :: ·) := by
  obtain ⟨hc, hmore⟩ := List.forall_mem_cons.mp hblanks
  have hstop : isBlank next ≠ true := by simp [hnext]
  apply tokens_cons
  · rintro rfl
    exact absurd hc (by decide)
  · rw [readToken, mark?_eq_none hc (by decide)]
    simp [hc, List.takeWhile_append_of_pos hmore,
      List.dropWhile_append_of_pos hmore, hstop]

/-- A word goes on for as long as its characters may stand in words. -/
theorem tokens_word {word : List Char} (hne : word ≠ [])
    (hword : ∀ c ∈ word, isWordChar c = true) {next : Char}
    (hnext : isWordChar next = false) (rest : List Char) :
    tokens (word ++ next :: rest) =
      (tokens (next :: rest)).map (.word word :: ·) := by
  obtain ⟨c, tail, rfl⟩ := List.exists_cons_of_ne_nil hne
  obtain ⟨hc, htail⟩ := List.forall_mem_cons.mp hword
  have hblank : isBlank c = false := isBlank_of_isWordChar hc
  have hstop : isWordChar next ≠ true := by simp [hnext]
  rw [List.cons_append]
  apply tokens_cons
  · rintro rfl
    exact absurd hc (by decide)
  · rw [readToken, mark?_eq_none hc (by decide)]
    simp [hc, hblank, List.takeWhile_append_of_pos htail,
      List.dropWhile_append_of_pos htail, hstop]

/-- No character is written with a quote in front, so that what stands behind
the first quote of a text is not a second one. -/
theorem exists_escape_eq_cons (c : Char) :
    ∃ first more, escape c = first :: more ∧ first ≠ '"' := by
  unfold escape
  split_ifs with hself
  all_goals first
    | exact ⟨'\\', _, rfl, by decide⟩
    | exact ⟨c, [], rfl, fun hc => hself (Or.inl hc)⟩

/-- A text comes back from its quotes; the empty one is told from three quotes
in a row by what follows it. -/
theorem readText_writeText (chars : List Char) {next : Char}
    (hnext : next ≠ '"') (rest : List Char) :
    readText '"' (chars.flatMap escape ++ '"' :: next :: rest) =
      some (.text chars false, next :: rest) := by
  have hread := readQuoted_flatMap_escape chars (next :: rest)
  cases chars with
  | nil => simp [readText, hnext]
  | cons c chars =>
      obtain ⟨first, more, hescape, hfirst⟩ := exists_escape_eq_cons c
      rw [List.flatMap_cons, hescape, List.append_assoc, List.cons_append]
        at hread ⊢
      cases htail : more ++ (chars.flatMap escape ++ '"' :: next :: rest) with
      | nil => simp at htail
      | cons second tail =>
          rw [htail] at hread
          rw [readText]
          simp only [if_neg hfirst]
          exact congrArg _ hread

theorem tokens_text (chars : List Char) {next : Char} (hnext : next ≠ '"')
    (rest : List Char) :
    tokens (writeText chars ++ next :: rest) =
      (tokens (next :: rest)).map (.text chars false :: ·) := by
  have hchars : writeText chars ++ next :: rest =
      '"' :: (chars.flatMap escape ++ '"' :: next :: rest) := by
    simp [writeText]
  rw [hchars]
  apply tokens_cons (by decide)
  exact readText_writeText chars hnext rest

end ScriptStack.Toml
