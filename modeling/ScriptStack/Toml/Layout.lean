import ScriptStack.Toml.Document
/-!
The layout of sections.  Each header declares a table or one more element of a list of tables; a
table is declared at most once, and a name is not both.
-/

namespace ScriptStack.Toml

/-- What the headers so far say about a name. -/
inductive Node where
  /-- A table, which has a header of its own if it is declared. -/
  | table (declared : Bool) (children : List (String × Node))
  /-- A list of tables, with the children of its last element. -/
  | elements (children : List (String × Node))
  deriving Repr, Inhabited

/-- What a header makes of the name at the end of its path. -/
def Node.declare? (isElement : Bool) : Option Node → Option Node
  | none => some (if isElement then .elements [] else .table true [])
  | some (.table false children) => if isElement then none else some (.table true children)
  | some (.table true _) => none
  | some (.elements _) => if isElement then some (.elements []) else none

/-- Adds a header to a layout.  Names on the way to its last one become tables if they are new. -/
def declare? (isElement : Bool) :
    List String → List (String × Node) → Option (List (String × Node))
  | [], _ => none
  | [name], nodes => updateKey? name (Node.declare? isElement) nodes
  | name :: path, nodes =>
      updateKey? name (fun old =>
        match old with
        | none => (declare? isElement path []).map (.table false)
        | some (.table declared children) =>
            (declare? isElement path children).map (.table declared)
        | some (.elements children) =>
            (declare? isElement path children).map .elements) nodes

/-- The layout of some headers, if they fit together. -/
def layout? (headers : List Header) : Option (List (String × Node)) :=
  headers.foldlM (fun nodes header => declare? header.isElement header.path nodes) []

/-- Whether the sections of a document fit together. -/
def Document.isLaidOut (document : Document) : Bool :=
  (layout? (document.sections.map Section.header)).isSome

end ScriptStack.Toml
