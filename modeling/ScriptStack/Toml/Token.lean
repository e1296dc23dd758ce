import ScriptStack.Toml.Quote
/-!
Tokens of TOML.  A comment runs to the end of its line and is no token.
-/

namespace ScriptStack.Toml

inductive Token where
  | newline
  /-- A run of spaces and tabs, and whether it is one single space. -/
  | blank (single : Bool)
  | equals
  | period
  | comma
  | colon
  | plus
  | openBrace
  | closeBrace
  | openBracket
  | closeBracket
  /-- Letters, digits, hyphens and underscores. -/
  | word (chars : List Char)
  /-- A quoted text, and whether it may run over several lines. -/
  | text (chars : List Char) (multiline : Bool)
  deriving DecidableEq, Repr

/-- Whether a character may stand in a word. -/
def isWordChar (c : Char) : Bool := c.isAlphanum || c == '-' || c == '_'

/-- Whether a character may stand in a comment. -/
def isCommentChar (c : Char) : Bool := c == '\t' || 0x20 ≤ c.toNat

/-- The token for one character that stands for itself. -/
def mark? (c : Char) : Option Token :=
  match c with
  | '\n' => some .newline
  | '=' => some .equals
  | '.' => some .period
  | ',' => some .comma
  | ':' => some .colon
  | '+' => some .plus
  | '\x7b' => some .openBrace
  | '\x7d' => some .closeBrace
  | '[' => some .openBracket
  | ']' => some .closeBracket
  | _ => none

/-- The line end right after three opening marks does not belong to the text. -/
def dropFirstLineEnd : List Char → List Char
  | '\n' :: rest => rest
  | chars => chars

/-- A quoted text after its first mark. -/
def readText (mark : Char) (rest : List Char) : Option (Token × List Char) :=
  let escapes := mark == '"'
  match rest with
  | a :: b :: more =>
      if a = mark then
        if b = mark then
          (readQuoted ⟨mark, escapes, true⟩ .nothing (dropFirstLineEnd more)).map
            fun (chars, rest) => (.text chars true, rest)
        else some (.text [] false, b :: more)
      else (readQuoted ⟨mark, escapes, false⟩ .nothing rest).map
        fun (chars, rest) => (.text chars false, rest)
  | [a] => if a = mark then some (.text [] false, []) else none
  | [] => none

/-- The token that begins with the character `c`, and the characters after it. -/
def readToken (c : Char) (rest : List Char) : Option (Token × List Char) :=
  match mark? c with
  | some token => some (token, rest)
  | none =>
      if isBlank c then
        let more := rest.takeWhile isBlank
        some (.blank (c == ' ' && more.isEmpty), rest.dropWhile isBlank)
      else if isWordChar c then
        some (.word (c :: rest.takeWhile isWordChar), rest.dropWhile isWordChar)
      else if c = '"' ∨ c = '\'' then readText c rest
      else none

private theorem length_dropWhile_le (p : Char → Bool) (chars : List Char) :
    (chars.dropWhile p).length ≤ chars.length :=
  (List.dropWhile_sublist p).length_le

private theorem length_dropFirstLineEnd_le (chars : List Char) :
    (dropFirstLineEnd chars).length ≤ chars.length := by
  unfold dropFirstLineEnd
  split <;> simp

theorem length_readText_le {mark : Char} {rest : List Char} {r : Token × List Char}
    (h : readText mark rest = some r) : r.2.length ≤ rest.length := by
  unfold readText at h
  split at h
  next a b more =>
      split at h
      · split at h
        · obtain ⟨q, hq, rfl⟩ := Option.map_eq_some_iff.mp h
          have hlt := length_readQuoted_lt hq
          have hle := length_dropFirstLineEnd_le more
          simp only [List.length_cons]
          omega
        · cases h; simp
      · obtain ⟨q, hq, rfl⟩ := Option.map_eq_some_iff.mp h
        exact Nat.le_of_lt (length_readQuoted_lt hq)
  next a =>
      split at h
      · cases h; simp
      · cases h
  next => cases h

/-- What follows a token is no longer than what follows its first character. -/
theorem length_readToken_le {c : Char} {rest : List Char} {r : Token × List Char}
    (h : readToken c rest = some r) : r.2.length ≤ rest.length := by
  unfold readToken at h
  split at h
  · cases h; exact Nat.le_refl _
  · split at h
    · cases h; exact length_dropWhile_le _ _
    · split at h
      · cases h; exact length_dropWhile_le _ _
      · split at h
        · exact length_readText_le h
        · cases h

def tokens (chars : List Char) : Option (List Token) :=
  match chars with
  | [] => some []
  | c :: rest =>
      if c = '#' then tokens (rest.dropWhile isCommentChar)
      else
        match _h : readToken c rest with
        | none => none
        | some (token, more) => (tokens more).map (token :: ·)
termination_by chars.length
decreasing_by
  · exact Nat.lt_succ_of_le (length_dropWhile_le _ _)
  · exact Nat.lt_succ_of_le (length_readToken_le _h)

/-- Joins a carriage return to the line feed after it. -/
def joinLineEnds : List Char → List Char
  | [] => []
  | '\r' :: '\n' :: rest => '\n' :: joinLineEnds rest
  | c :: rest => c :: joinLineEnds rest

/-- Takes one byte order mark off the front. -/
def dropByteOrderMark : List Char → List Char
  | '\ufeff' :: rest => rest
  | chars => chars

def scan (text : String) : Option (List Token) :=
  tokens (joinLineEnds (dropByteOrderMark text.toList))

end ScriptStack.Toml
