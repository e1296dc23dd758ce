/-!
Words that look like numbers, of any size and with or without a fraction.
-/

namespace ScriptStack.Command

/-- Whether a word is one ASCII digit or more. -/
def isDigits (chars : List Char) : Bool := !chars.isEmpty && chars.all Char.isDigit

/-- The characters after a sign, if there is one. -/
def dropSign : List Char → List Char
  | '-' :: rest => rest
  | '+' :: rest => rest
  | chars => chars

/-- Whether the characters after the digits of a number are nothing or an exponent. -/
def isExponent : List Char → Bool
  | [] => true
  | c :: rest => (c == 'e' || c == 'E') && isDigits (dropSign rest)

/-- Whether characters are digits with at most one point among them, perhaps with an exponent. -/
def isDecimal (chars : List Char) : Bool :=
  let whole := chars.takeWhile Char.isDigit
  match chars.dropWhile Char.isDigit with
  | '.' :: rest =>
      let fraction := rest.takeWhile Char.isDigit
      !(whole.isEmpty && fraction.isEmpty) && isExponent (rest.dropWhile Char.isDigit)
  | rest => !whole.isEmpty && isExponent rest

/-- Names of numbers that have no digits. -/
def numberNames : List String := ["inf", "infinity", "nan"]

/-- Whether a word is a number: a sign, then a decimal or a name in any mix of capitals and small
letters. -/
def isNumberWord (word : String) : Bool :=
  let chars := dropSign word.toList
  isDecimal chars || numberNames.any fun name => chars.map Char.toLower == name.toList

end ScriptStack.Command
