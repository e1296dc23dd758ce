import ScriptStack.Toml.Keyed
import ScriptStack.Toml.Number
import ScriptStack.Toml.Token
/-!
Values of TOML and their tables.  Texts, booleans and integers keep their content; of floats and
dates only the form is checked.
-/

namespace ScriptStack.Toml

inductive Value where
  | text (s : String)
  | boolean (b : Bool)
  | integer (n : Int)
  | float
  | moment
  | list (items : List Value)
  /-- A table in braces. -/
  | closed (entries : List (String × Value))
  /-- A table that dotted keys spell, which more dotted keys may extend. -/
  | dotted (entries : List (String × Value))
  deriving Repr, Inhabited

/-- Keys and values in the order in which they are written.  A key may repeat. -/
abbrev Table := List (String × Value)

/-- Adds a value under a dotted key.  A part of the key that is taken must be a table spelled by
dotted keys; the last part is added even if it is taken. -/
def Table.insert? (value : Value) : List String → Table → Option Table
  | [], _ => none
  | [key], table => some (table ++ [(key, value)])
  | key :: path, table =>
      updateKey? key (fun old =>
        match old with
        | none => (Table.insert? value path []).map .dotted
        | some (.dotted entries) => (Table.insert? value path entries).map .dotted
        | some _ => none) table

/-- The tokens after a blank, if there is one. -/
def skipBlank : List Token → List Token
  | .blank _ :: rest => rest
  | tokens => tokens

/-- The tokens after blanks and line ends. -/
def skipLines : List Token → List Token
  | .blank _ :: rest => skipLines rest
  | .newline :: rest => skipLines rest
  | tokens => tokens

/-- Takes one token off the front. -/
def expect (token : Token) : List Token → Option (List Token)
  | t :: rest => if t = token then some rest else none
  | [] => none

/-- A key in its parts: words or quoted texts on one line, with periods between them and blanks
around them.  `wanted` says whether a part must come next. -/
def readKey (wanted : Bool) : List Token → Option (List String × List Token)
  | .blank _ :: rest => readKey wanted rest
  | .word chars :: rest =>
      if wanted then
        (readKey false rest).map fun (path, rest) => (String.ofList chars :: path, rest)
      else some ([], .word chars :: rest)
  | .text chars false :: rest =>
      if wanted then
        (readKey false rest).map fun (path, rest) => (String.ofList chars :: path, rest)
      else some ([], .text chars false :: rest)
  | .period :: rest => if wanted then none else readKey true rest
  | tokens => if wanted then none else some ([], tokens)

/-- Passes over a mark and the word after it, if the mark stands there. -/
def skipMarkedWord (mark : Token) : List Token → Option (List Token)
  | t :: .word chars :: rest =>
      if t = mark then some rest else some (t :: .word chars :: rest)
  | t :: rest => if t = mark then none else some (t :: rest)
  | [] => some []

/-- The rest of a time of day after its hours and a colon. -/
def readClock : List Token → Option (Value × List Token)
  | .word _ :: .colon :: .word _ :: rest => do
      let rest ← skipMarkedWord .period rest
      let rest ← skipMarkedWord .plus rest
      let rest ← skipMarkedWord .colon rest
      return (.moment, rest)
  | _ => none

/-- The rest of a date or a time of day after its first word.  One space may stand between the date
and the hours. -/
def readMoment (colonTaken : Bool) (tokens : List Token) : Option (Value × List Token) :=
  let tokens := match tokens with
    | .blank true :: .word _ :: rest => rest
    | tokens => tokens
  if colonTaken then readClock tokens
  else
    match tokens with
    | .colon :: rest => readClock rest
    | tokens => some (.moment, tokens)

/-- Whether some letter `e` is followed by a minus sign. -/
def hasNegativeExponent : List Char → Bool
  | c :: d :: rest => ((c == 'e' || c == 'E') && d == '-') || hasNegativeExponent (d :: rest)
  | _ => false

/-- Whether a word begins a date: it holds the letter between date and time, or a hyphen that is
no sign. -/
def beginsMoment (word : List Char) : Bool :=
  word.contains 'T' || word.contains 't' ||
    ((word.drop 1).contains '-' && !hasNegativeExponent word)

/-- Whether a character is the letter of an exponent. -/
def isExponentMark (c : Char) : Bool := c == 'e' || c == 'E'

/-- The exponent of a float, whose letter and all after it are given; a plus sign parts the
exponent from its letter. -/
def readExponent (tail : List Char) (tokens : List Token) : Option (Int × List Token) :=
  match tail with
  | [] => some (0, tokens)
  | [c] =>
      if !isExponentMark c then none
      else
        match tokens with
        | .plus :: .word digits :: rest => (exponent? false digits).map fun n => (n, rest)
        | .word digits :: rest => (exponent? false digits).map fun n => (n, rest)
        | _ => none
  | c :: digits =>
      if isExponentMark c then (exponent? true digits).map fun n => (n, tokens) else none

/-- A float: its first word, and the word after its point if it has a point. -/
def readFloat (word : List Char) (point : Option (List Char)) (tokens : List Token) :
    Option (Value × List Token) := do
  let (_, whole, tail) ← takeSigned? word
  let (fraction, tail) ← match point with
    | none => some ([], tail)
    | some after => if tail.isEmpty then takeDigits? 10 after else none
  let (exponent, rest) ← readExponent tail tokens
  finite? whole fraction exponent
  return (.float, rest)

/-- The words for infinity and for no number. -/
def floatWords : List (List Char) :=
  [['i', 'n', 'f'], ['-', 'i', 'n', 'f'], ['n', 'a', 'n'], ['-', 'n', 'a', 'n']]

/-- A number that begins with a word. -/
def readNumber (word : List Char) (tokens : List Token) : Option (Value × List Token) :=
  match word with
  | '0' :: 'x' :: digits => (inRadix? 16 digits).map fun n => (.integer n, tokens)
  | '0' :: 'o' :: digits => (inRadix? 8 digits).map fun n => (.integer n, tokens)
  | '0' :: 'b' :: digits => (inRadix? 2 digits).map fun n => (.integer n, tokens)
  | word =>
      if word.any isExponentMark then readFloat word none tokens
      else
        match tokens with
        | .period :: .word after :: rest => readFloat word (some after) rest
        | .period :: _ => none
        | tokens =>
            if floatWords.contains word then some (.float, tokens)
            else (decimal? word).map fun n => (.integer n, tokens)

/-- Whether a word can begin a number or a date. -/
def beginsNumber (word : List Char) : Bool :=
  floatWords.contains word ||
    match word with
    | c :: _ => c == '-' || c.isDigit
    | [] => false

/-- A value that begins with a word. -/
def readWordValue (word : List Char) (tokens : List Token) : Option (Value × List Token) :=
  if word = ['t', 'r', 'u', 'e'] then some (.boolean true, tokens)
  else if word = ['f', 'a', 'l', 's', 'e'] then some (.boolean false, tokens)
  else if !beginsNumber word then none
  else if beginsMoment word then readMoment false tokens
  else
    match tokens with
    | .colon :: rest => readMoment true rest
    | tokens => readNumber word tokens

mutual

/-- A value.  Each unit of `fuel` allows one more value, item or entry on the way down. -/
def readValueWith : Nat → List Token → Option (Value × List Token)
  | 0, _ => none
  | fuel + 1, tokens =>
      match tokens with
      | .text chars _ :: rest => some (.text (String.ofList chars), rest)
      | .word chars :: rest => readWordValue chars rest
      | .plus :: .word chars :: rest => readNumber chars rest
      | .openBracket :: rest => readItemsWith fuel [] rest
      | .openBrace :: rest =>
          match skipBlank rest with
          | .closeBrace :: rest => some (.closed [], rest)
          | rest => readEntriesWith fuel [] rest
      | _ => none

/-- The items of a list and its closing bracket.  A comma may follow the last item. -/
def readItemsWith : Nat → List Value → List Token → Option (Value × List Token)
  | 0, _, _ => none
  | fuel + 1, items, tokens =>
      match skipLines tokens with
      | .closeBracket :: rest => some (.list items, rest)
      | tokens => do
          let (item, rest) ← readValueWith fuel tokens
          match skipLines rest with
          | .comma :: rest => readItemsWith fuel (items ++ [item]) rest
          | .closeBracket :: rest => some (.list (items ++ [item]), rest)
          | _ => none

/-- The entries of a table in braces and its closing brace, all on one line. -/
def readEntriesWith : Nat → Table → List Token → Option (Value × List Token)
  | 0, _, _ => none
  | fuel + 1, table, tokens => do
      let (path, rest) ← readKey true tokens
      let rest ← expect .equals rest
      let (value, rest) ← readValueWith fuel (skipBlank rest)
      let table ← Table.insert? value path table
      match skipBlank rest with
      | .closeBrace :: rest => some (.closed table, rest)
      | .comma :: rest => readEntriesWith fuel table rest
      | _ => none

end

/-- A value and the tokens after it.  A value takes no more steps than twice its tokens. -/
def readValue (tokens : List Token) : Option (Value × List Token) :=
  readValueWith (2 * tokens.length + 2) tokens

end ScriptStack.Toml
