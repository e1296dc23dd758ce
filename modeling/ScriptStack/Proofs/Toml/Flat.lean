import ScriptStack.Proofs.Toml.Token
import ScriptStack.Toml.Document
/-!
Flat documents: lines that are blank, comments, or bare keys with a text or a
boolean, as they are written.  Such a document is read as the table of its
entries, in order and whatever stands between them (`ofText?_writeLines`).
-/

namespace ScriptStack.Toml

/-- A key that needs no quotes. -/
structure BareKey where
  chars : List Char
  ne_nil : chars ≠ []
  bare : (chars.all fun c => c.isAlphanum || c == '-' || c == '_') = true

/-- A value that is written on one line. -/
inductive Scalar where
  | text (s : String)
  | boolean (b : Bool)

namespace Scalar

def chars : Scalar → List Char
  | .text s => writeText s.toList
  | .boolean b => (if b then "true" else "false").toList

def value : Scalar → Value
  | .text s => .text s
  | .boolean b => .boolean b

def token : Scalar → Token
  | .text s => .text s.toList false
  | .boolean b => .word (if b then "true" else "false").toList

end Scalar

/-- A line of a flat document. -/
inductive FlatLine where
  | blank (blanks : List Char)
      (hblanks : (blanks.all fun c => c == ' ' || c == '\t') = true)
  | comment (text : List Char)
      (htext : (text.all fun c => 0x20 ≤ c.toNat) = true)
  | entry (key : BareKey) (value : Scalar)

namespace FlatLine

/-- A line as it is written, without its end. -/
def chars : FlatLine → List Char
  | .blank blanks _ => blanks
  | .comment text _ => '#' :: text
  | .entry key value => key.chars ++ [' ', '=', ' '] ++ value.chars

def tokens : FlatLine → List Token
  | .blank [] _ | .comment _ _ => [.newline]
  | .blank (c :: more) _ => [.blank (c == ' ' && more.isEmpty), .newline]
  | .entry key value =>
      [.word key.chars, .blank true, .equals, .blank true, value.token,
        .newline]

def keyValue? : FlatLine → Option (String × Value)
  | .blank _ _ | .comment _ _ => none
  | .entry key value => some (String.ofList key.chars, value.value)

end FlatLine

/-- The text of a flat document, each line with its end. -/
def writeLines (lines : List FlatLine) : List Char :=
  lines.flatMap fun line => line.chars ++ ['\n']

theorem BareKey.isWordChar (key : BareKey) :
    ∀ c ∈ key.chars, Toml.isWordChar c = true :=
  List.all_eq_true.mp key.bare

theorem tokens_space {c : Char} (hc : isBlank c = false) (rest : List Char) :
    tokens (' ' :: c :: rest) =
      (tokens (c :: rest)).map (.blank true :: ·) :=
  tokens_blanks (List.forall_mem_singleton.mpr rfl) hc rest

/-- A value on one line does not begin with a blank, so the blank in front of it
is a single one. -/
theorem Scalar.exists_chars_eq_cons (value : Scalar) :
    ∃ c rest, value.chars = c :: rest ∧ isBlank c = false := by
  cases value with
  | text s => exact ⟨'"', _, rfl, by decide⟩
  | boolean b =>
      cases b with
      | false => exact ⟨'f', _, rfl, by decide⟩
      | true => exact ⟨'t', _, rfl, by decide⟩

/-- A value on one line is one token. -/
theorem Scalar.tokens_chars (value : Scalar) (rest : List Char) :
    tokens (value.chars ++ '\n' :: rest) =
      (tokens ('\n' :: rest)).map (value.token :: ·) := by
  cases value with
  | text s => exact tokens_text s.toList (by decide) rest
  | boolean b =>
      have hne : (Scalar.boolean b).chars ≠ [] := by cases b <;> decide
      have hword : ∀ c ∈ (Scalar.boolean b).chars, isWordChar c = true := by
        rw [← List.all_eq_true]
        cases b <;> decide
      exact tokens_word hne hword (by decide) rest

/-- A line has its own tokens, whatever stands on the lines after it. -/
theorem FlatLine.tokens_chars (line : FlatLine) (rest : List Char) :
    Toml.tokens (line.chars ++ '\n' :: rest) =
      (Toml.tokens rest).map (line.tokens ++ ·) := by
  have hend := tokens_mark (c := '\n') rfl rest
  cases line with
  | blank blanks hblanks =>
      cases blanks with
      | nil => exact hend
      | cons c more =>
          have hall : ∀ d ∈ c :: more, isBlank d = true :=
            List.all_eq_true.mp hblanks
          rw [FlatLine.chars, List.cons_append, tokens_blanks hall (by decide),
            hend, Option.map_map]
          rfl
  | comment text htext =>
      have hall : ∀ c ∈ text, isCommentChar c = true := by
        intro c hc
        simp [isCommentChar, of_decide_eq_true (List.all_eq_true.mp htext c hc)]
      rw [FlatLine.chars, List.cons_append, tokens_comment hall, hend]
      rfl
  | entry key value =>
      obtain ⟨c, more, hvalue, hc⟩ := value.exists_chars_eq_cons
      have hspace : Toml.tokens (' ' :: (value.chars ++ '\n' :: rest)) =
          (Toml.tokens (value.chars ++ '\n' :: rest)).map
            (.blank true :: ·) := by
        rw [hvalue]
        exact tokens_space hc _
      have hchars : (FlatLine.entry key value).chars ++ '\n' :: rest =
          key.chars ++ ' ' :: '=' :: ' ' :: (value.chars ++ '\n' :: rest) := by
        simp [FlatLine.chars]
      rw [hchars, tokens_word key.ne_nil key.isWordChar (by decide),
        tokens_space (by decide), tokens_mark rfl, hspace, value.tokens_chars,
        hend]
      simp only [Option.map_map]
      rfl

theorem tokens_writeLines (lines : List FlatLine) :
    tokens (writeLines lines) = some (lines.flatMap FlatLine.tokens) := by
  induction lines with
  | nil => exact tokens_nil
  | cons line lines ih =>
      have hchars : writeLines (line :: lines) =
          line.chars ++ '\n' :: writeLines lines := by
        simp [writeLines]
      rw [hchars, line.tokens_chars, ih, List.flatMap_cons, Option.map_some]

theorem Scalar.return_not_mem (value : Scalar) : '\r' ∉ value.chars := by
  cases value with
  | text s =>
      have hescape : '\r' ∉ s.toList.flatMap escape := by
        rw [List.mem_flatMap]
        rintro ⟨c, _, hc⟩
        exact absurd (space_le_toNat_of_mem_escape hc) (by decide)
      simpa [Scalar.chars, writeText] using hescape
  | boolean b => cases b <;> decide

theorem FlatLine.return_not_mem (line : FlatLine) : '\r' ∉ line.chars := by
  cases line with
  | blank blanks hblanks =>
      exact fun hmem => absurd (List.all_eq_true.mp hblanks _ hmem) (by decide)
  | comment text htext =>
      have htext : '\r' ∉ text := fun hmem =>
        absurd (List.all_eq_true.mp htext _ hmem) (by decide)
      simpa [FlatLine.chars] using htext
  | entry key value =>
      have hkey : '\r' ∉ key.chars := fun hmem =>
        absurd (key.isWordChar _ hmem) (by decide)
      have hvalue := value.return_not_mem
      simp [FlatLine.chars, hkey, hvalue]

/-- Nothing that is written holds a carriage return, so no ends of lines are
joined. -/
theorem return_not_mem_writeLines (lines : List FlatLine) :
    '\r' ∉ writeLines lines := by
  rw [writeLines, List.mem_flatMap]
  rintro ⟨line, _, hline⟩
  rcases List.mem_append.mp hline with hmem | hmem
  · exact line.return_not_mem hmem
  · exact absurd hmem (by decide)

theorem joinLineEnds_of_not_mem {chars : List Char} (hchars : '\r' ∉ chars) :
    joinLineEnds chars = chars := by
  fun_induction joinLineEnds chars with
  | case1 => rfl
  | case2 rest ih => simp at hchars
  | case3 c rest hc ih =>
      rw [ih fun hmem => hchars (List.mem_cons_of_mem c hmem)]

theorem dropByteOrderMark_of_head?_ne {chars : List Char}
    (hhead : chars.head? ≠ some '\ufeff') :
    dropByteOrderMark chars = chars := by
  unfold dropByteOrderMark
  split
  · exact absurd rfl hhead
  · rfl

theorem FlatLine.head?_chars_ne (line : FlatLine) (rest : List Char) :
    (line.chars ++ '\n' :: rest).head? ≠ some '\ufeff' := by
  cases line with
  | blank blanks hblanks =>
      cases blanks with
      | nil => exact fun hhead => absurd (Option.some.inj hhead) (by decide)
      | cons c more =>
          intro hhead
          obtain rfl : c = '\ufeff' := Option.some.inj hhead
          have hblank := List.all_eq_true.mp hblanks _ List.mem_cons_self
          exact absurd hblank (by decide)
  | comment text htext =>
      exact fun hhead => absurd (Option.some.inj hhead) (by decide)
  | entry key value =>
      intro hhead
      obtain ⟨c, more, hkey⟩ := List.exists_cons_of_ne_nil key.ne_nil
      have hword := key.isWordChar c (by simp [hkey])
      rw [FlatLine.chars, hkey] at hhead
      obtain rfl : c = '\ufeff' := Option.some.inj hhead
      exact absurd hword (by decide)

theorem head?_writeLines_ne (lines : List FlatLine) :
    (writeLines lines).head? ≠ some '\ufeff' := by
  cases lines with
  | nil => nofun
  | cons line lines =>
      have hchars : writeLines (line :: lines) =
          line.chars ++ '\n' :: writeLines lines := by
        simp [writeLines]
      rw [hchars]
      exact line.head?_chars_ne _

/-- The tokens of a document are those of its lines. -/
theorem scan_writeLines (lines : List FlatLine) :
    scan (String.ofList (writeLines lines)) =
      some (lines.flatMap FlatLine.tokens) := by
  rw [scan, String.toList_ofList,
    dropByteOrderMark_of_head?_ne (head?_writeLines_ne lines),
    joinLineEnds_of_not_mem (return_not_mem_writeLines lines),
    tokens_writeLines]

theorem readLinesWith_congr {tokens tokens' : List Token}
    (hskip : skipLines tokens = skipLines tokens') (fuel : Nat) :
    readLinesWith fuel tokens = readLinesWith fuel tokens' := by
  cases fuel with
  | zero => rfl
  | succ fuel => rw [readLinesWith, readLinesWith, hskip]

theorem Scalar.readValue_token (value : Scalar) (rest : List Token) :
    readValue (value.token :: rest) = some (value.value, rest) := by
  rw [readValue]
  cases value with
  | text s =>
      simp only [Scalar.token, readValueWith, String.ofList_toList]
      rfl
  | boolean b => cases b <;> rfl

/-- The line of an entry, as it is read. -/
def entryLine (entry : String × Value) : Line := .entry [entry.1] entry.2

theorem readEntry_tokens (key : BareKey) (value : Scalar) (rest : List Token) :
    readEntry ((FlatLine.entry key value).tokens ++ rest) =
      some (entryLine (String.ofList key.chars, value.value), rest) := by
  have hvalue := value.readValue_token (.newline :: rest)
  simp [readEntry, FlatLine.tokens, readKey, expect, skipBlank, hvalue,
    readLineEnd, entryLine]

/-- A line without an entry is skipped. -/
theorem FlatLine.skipLines_tokens {line : FlatLine}
    (hline : line.keyValue? = none) (rest : List Token) :
    skipLines (line.tokens ++ rest) = skipLines rest := by
  cases line with
  | blank blanks hblanks => cases blanks <;> rfl
  | comment text htext => rfl
  | entry key value => nomatch hline

/-- A line with an entry is read as that entry, in one step. -/
theorem FlatLine.readLinesWith_tokens {line : FlatLine}
    {entry : String × Value} (hline : line.keyValue? = some entry)
    (fuel : Nat) (rest : List Token) :
    readLinesWith (fuel + 1) (line.tokens ++ rest) =
      (readLinesWith fuel rest).map (entryLine entry :: ·) := by
  cases line with
  | blank blanks hblanks => nomatch hline
  | comment text htext => nomatch hline
  | entry key value =>
      obtain rfl := Option.some.inj hline
      have hentry := readEntry_tokens key value rest
      have hskip (more : List Token) :
          skipLines (.word key.chars :: more) = .word key.chars :: more := rfl
      rw [FlatLine.tokens, List.cons_append] at hentry ⊢
      rw [readLinesWith, hskip]
      simp only [hentry, Option.bind_eq_bind, Option.bind_some]
      cases readLinesWith fuel rest <;> rfl

/-- Lines are read as their entries, and only these use up fuel. -/
theorem readLinesWith_flatMap_tokens (lines : List FlatLine) {fuel : Nat}
    (hfuel : lines.length < fuel) :
    readLinesWith fuel (lines.flatMap FlatLine.tokens) =
      some ((lines.filterMap FlatLine.keyValue?).map entryLine) := by
  induction lines generalizing fuel with
  | nil =>
      obtain ⟨fuel, rfl⟩ := Nat.exists_eq_add_of_lt hfuel
      rfl
  | cons line lines ih =>
      rw [List.length_cons] at hfuel
      rw [List.flatMap_cons]
      cases hline : line.keyValue? with
      | none =>
          rw [readLinesWith_congr (FlatLine.skipLines_tokens hline _),
            ih (by omega), List.filterMap_cons_none hline]
      | some entry =>
          obtain ⟨fuel, rfl⟩ : ∃ n, fuel = n + 1 := ⟨fuel - 1, by omega⟩
          rw [FlatLine.readLinesWith_tokens hline, ih (by omega),
            List.filterMap_cons_some hline]
          rfl

theorem length_le_length_tokens (lines : List FlatLine) :
    lines.length ≤ (lines.flatMap FlatLine.tokens).length := by
  induction lines with
  | nil => exact Nat.le_refl _
  | cons line lines ih =>
      have hline : 0 < line.tokens.length := by
        cases line with
        | blank blanks hblanks => cases blanks <;> simp [FlatLine.tokens]
        | comment text htext => simp [FlatLine.tokens]
        | entry key value => simp [FlatLine.tokens]
      rw [List.length_cons, List.flatMap_cons, List.length_append]
      omega

/-- Entries in front of all headers are the table of the document, in order. -/
theorem gather_entryLines (table entries : Table) :
    gather table (entries.map entryLine) = some (table ++ entries, []) := by
  induction entries generalizing table with
  | nil => simp [gather]
  | cons entry entries ih =>
      have hinsert : Table.insert? entry.2 [entry.1] table =
          some (table ++ [entry]) := rfl
      rw [List.map_cons, entryLine, gather, hinsert]
      exact (ih (table ++ [entry])).trans (by simp)

/-- A flat document is read as its entries, and has no sections. -/
theorem ofText?_writeLines (lines : List FlatLine) :
    Document.ofText? (String.ofList (writeLines lines)) =
      some ⟨lines.filterMap FlatLine.keyValue?, []⟩ := by
  have hlines : readLines (lines.flatMap FlatLine.tokens) =
      some ((lines.filterMap FlatLine.keyValue?).map entryLine) :=
    readLinesWith_flatMap_tokens lines
      (Nat.lt_succ_of_le (length_le_length_tokens lines))
  rw [Document.ofText?, scan_writeLines]
  simp only [Option.bind_eq_bind, Option.bind_some, hlines, gather_entryLines,
    List.nil_append]
  rfl

end ScriptStack.Toml
