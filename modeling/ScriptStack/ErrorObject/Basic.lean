import ScriptStack.Text.Quoted
/-!
The error object of a JSON-RPC answer: a code and a message, passed to the caller as they are.
-/

namespace ScriptStack

structure ErrorObject where
  code : Int32
  message : String
  deriving DecidableEq, Repr

namespace ErrorObject

/-- The codes that the protocol reserves, with their names. -/
def reservedCodes : List (String × Int32) :=
  [("PARSE_ERROR", -32700),
   ("INVALID_REQUEST", -32600),
   ("METHOD_NOT_FOUND", -32601),
   ("INVALID_PARAMS", -32602),
   ("INTERNAL_ERROR", -32603)]

/-- The message with the code in parentheses after it. -/
def display (e : ErrorObject) : String :=
  e.message ++ " (code " ++ e.code.toInt.repr ++ ")"

/-- Both fields by name, the message in quotes. -/
def describe (e : ErrorObject) : String :=
  "RequestError \x7b code: " ++ e.code.toInt.repr ++ ", message: " ++
    Text.quoted e.message ++ " \x7d"

end ErrorObject

end ScriptStack
