import ScriptStack.Hex
/-!
Quoted text of TOML: basic strings, which have escapes, and literal strings, which have none.  Each
kind also has a form with three quotes on each side that may run over several lines.
-/

namespace ScriptStack.Toml

def isBlank (c : Char) : Bool := c == ' ' || c == '\t'

structure Quote where
  /-- The character that closes the text. -/
  mark : Char
  /-- Whether a backslash begins an escape. -/
  escapes : Bool
  /-- Whether three marks close the text and lines may break. -/
  multiline : Bool
  deriving DecidableEq, Repr

/-- What a backslash at the end of a line has left to skip. -/
inductive Skip where
  | nothing
  /-- Blanks up to the end of the line. -/
  | line
  /-- Blanks and line ends. -/
  | lines
  deriving DecidableEq, Repr

/-- Whether a character may stand in a quoted text as itself. -/
def isPlain (c : Char) : Bool := c == '\t' || (0x20 ≤ c.toNat && c.toNat != 0x7f)

/-- The character that a one-letter escape stands for. -/
def shortEscape? (c : Char) : Option Char :=
  if c = '"' ∨ c = '\\' then some c
  else if c = 'b' then some '\x08'
  else if c = 'f' then some '\x0c'
  else if c = 'n' then some '\n'
  else if c = 'r' then some '\r'
  else if c = 't' then some '\t'
  else none

/-- The number that some hexadecimal digits stand for, after digits with the value `acc`. -/
def hexValue? (acc : Nat) : List Char → Option Nat
  | [] => some acc
  | c :: rest => (Hex.digit? c).bind fun d => hexValue? (16 * acc + d.toNat) rest

/-- The character with the code point that some hexadecimal digits give. -/
def codePoint? (digits : List Char) : Option Char :=
  (hexValue? 0 digits).bind fun n => if n.isValidChar then some (Char.ofNat n) else none

/-- Puts a character in front of what was read. -/
def consChar (c : Char) (read : Option (List Char × List Char)) :
    Option (List Char × List Char) :=
  read.map fun (chars, rest) => (c :: chars, rest)

/-- The text and the rest at three closing marks.  One or two marks more belong to the text. -/
def close (mark : Char) : List Char → List Char × List Char
  | a :: b :: rest =>
      if a = mark then
        if b = mark then ([mark, mark], rest) else ([mark], b :: rest)
      else ([], a :: b :: rest)
  | [a] => if a = mark then ([mark], []) else ([], [a])
  | [] => ([], [])

/-- Whether two characters are both the mark of a quote. -/
def closes (quote : Quote) : List Char → Bool
  | a :: b :: _ => a == quote.mark && b == quote.mark
  | _ => false

/-- The text up to its closing mark. -/
def readQuoted (quote : Quote) (skip : Skip) : List Char → Option (List Char × List Char)
  | [] => none
  | c :: rest =>
      if skip = .line then
        if c = '\n' then readQuoted quote .lines rest
        else if isBlank c then readQuoted quote .line rest
        else none
      else if skip = .lines ∧ (isBlank c ∨ c = '\n') then readQuoted quote .lines rest
      else if c = '\n' then
        if quote.multiline then consChar c (readQuoted quote .nothing rest) else none
      else if c = quote.mark then
        if !quote.multiline then some ([], rest)
        else if closes quote rest then some (close c (rest.drop 2))
        else consChar c (readQuoted quote .nothing rest)
      else if c = '\\' ∧ quote.escapes then
        match rest with
        | [] => none
        | e :: more =>
            match shortEscape? e with
            | some c => consChar c (readQuoted quote .nothing more)
            | none =>
                if e = 'u' then
                  match more with
                  | a :: b :: c :: d :: more =>
                      (codePoint? [a, b, c, d]).bind fun c =>
                        consChar c (readQuoted quote .nothing more)
                  | _ => none
                else if e = 'U' then
                  match more with
                  | a :: b :: c :: d :: a' :: b' :: c' :: d' :: more =>
                      (codePoint? [a, b, c, d, a', b', c', d']).bind fun c =>
                        consChar c (readQuoted quote .nothing more)
                  | _ => none
                else if quote.multiline ∧ e = '\n' then readQuoted quote .lines more
                else if quote.multiline ∧ isBlank e then readQuoted quote .line more
                else none
      else if isPlain c then consChar c (readQuoted quote .nothing rest)
      else none

/-- How a character is written in a basic string on one line. -/
def escape (c : Char) : List Char :=
  if c = '"' ∨ c = '\\' then ['\\', c]
  else if c = '\x08' then ['\\', 'b']
  else if c = '\x0c' then ['\\', 'f']
  else if c = '\n' then ['\\', 'n']
  else if c = '\r' then ['\\', 'r']
  else if c = '\t' then ['\\', 't']
  else if c.toNat < 0x20 ∨ c.toNat = 0x7f then
    ['\\', 'u', '0', '0'] ++ (Hex.byteDigits c.toNat.toUInt8).map Char.toUpper
  else [c]

def writeText (chars : List Char) : List Char :=
  ['"'] ++ chars.flatMap escape ++ ['"']

theorem length_close_le (mark : Char) (chars : List Char) :
    (close mark chars).2.length ≤ chars.length := by
  match chars with
  | [] => simp [close]
  | [a] =>
      simp only [close]
      split
      · simp
      · simp
  | a :: b :: rest =>
      simp only [close]
      split
      · split
        · simp only [List.length_cons]
          omega
        · simp
      · simp

private theorem length_of_consChar {c : Char} {read : Option (List Char × List Char)}
    {r : List Char × List Char} {n : Nat} (h : consChar c read = some r)
    (hread : ∀ r, read = some r → r.2.length < n) : r.2.length < n := by
  obtain ⟨⟨chars, rest⟩, hr, rfl⟩ := Option.map_eq_some_iff.mp h
  exact hread (chars, rest) hr

/-- Reading a quoted text leaves fewer characters. -/
theorem length_readQuoted_lt {quote : Quote} {skip : Skip} {chars : List Char}
    {r : List Char × List Char} (h : readQuoted quote skip chars = some r) :
    r.2.length < chars.length := by
  fun_induction readQuoted quote skip chars generalizing r with
  | case1 | case4 | case7 | case11 | case14 | case16 | case19 | case21 => cases h
  | case2 _ ih | case3 _ _ _ _ ih | case5 _ _ _ _ _ ih | case17 _ _ _ _ _ _ _ _ _ _ _ _ _ ih
  | case18 _ _ _ _ _ _ _ _ _ _ _ _ _ _ ih =>
      have := ih h
      simp only [List.length_cons]
      omega
  | case6 _ _ _ _ _ ih | case10 _ _ _ _ _ _ _ ih | case12 _ _ _ _ _ _ _ _ _ _ _ ih
  | case20 _ _ _ _ _ _ _ _ _ ih =>
      have := length_of_consChar h fun _ => ih
      simp only [List.length_cons]
      omega
  | case8 => cases h; simp
  | case9 =>
      cases h
      refine Nat.lt_of_le_of_lt (length_close_le _ _) ?_
      simp only [List.length_drop, List.length_cons]
      omega
  | case13 _ _ _ _ _ _ _ _ _ _ _ _ _ ih
  | case15 _ _ _ _ _ _ _ _ _ _ _ _ _ _ _ _ _ _ ih =>
      obtain ⟨_, _, h⟩ := Option.bind_eq_some_iff.mp h
      have := length_of_consChar h fun _ => ih
      simp only [List.length_cons]
      omega

end ScriptStack.Toml
