import ScriptStack.Files.Error
/-!
A folder of files as a value.  Paths are looked up from it, one name after the other; what lies
outside it is not known and so not found.
-/

namespace ScriptStack.Files

structure Folder where
  files : List (List String × ByteArray)

namespace Folder

inductive Place where
  /-- A folder, by the names on the way to it, the last one first. -/
  | folder (names : List String)
  | file (content : ByteArray)
  /-- A folder that holds this one. -/
  | outside
  | root

/-- The longest name, in bytes. -/
def maxName : Nat := 255

/-- The longest path, in bytes. -/
def maxPath : Nat := 4095

/-- What a name in a folder stands for. -/
def child (folder : Folder) (names : List String) (name : String) : Except Error Place :=
  let path := names.reverse ++ [name]
  match folder.files.find? fun file => file.1 = path with
  | some (_, content) => .ok (.file content)
  | none =>
      if folder.files.any fun file => path.isPrefixOf file.1 then .ok (.folder (name :: names))
      else .error .notFound

/-- One step along a path. -/
def enter (folder : Folder) (place : Place) (name : String) : Except Error Place :=
  match place with
  | .file _ => .error .notDirectory
  | place =>
      if name = "" ∨ name = "." then .ok place
      else if maxName < name.utf8ByteSize then .error .nameTooLong
      else
        match place with
        | .folder names =>
            if name = ".." then
              match names with
              | [] => .ok .outside
              | _ :: above => .ok (.folder above)
            else folder.child names name
        | place => if name = ".." then .ok place else .error .notFound

def names (path : String) : List String :=
  (path.toList.splitOnP (· == '/')).map String.ofList

def read (folder : Folder) : Reader := fun path =>
  if path.toList.contains '\x00' then .error .nulInPath
  else if path = "" then .error .notFound
  else if maxPath < path.utf8ByteSize then .error .nameTooLong
  else do
    let start : Place := if path.toList.head? = some '/' then .root else .folder []
    match ← (names path).foldlM folder.enter start with
    | .file content => .ok content
    | _ => .error .isDirectory

/-- A folder of files with the given paths. -/
def ofPaths (files : List (String × ByteArray)) : Folder :=
  ⟨files.map fun (path, content) => (names path, content)⟩

end Folder

end ScriptStack.Files
