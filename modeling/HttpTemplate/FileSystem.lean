import HttpTemplate.Text.Quoted
import HttpTemplate.Text.Split
import HttpTemplate.Text.Utf8

/-!
A tree of files, and reading one by its path. A path is walked step by step from the root of the
tree; every step but the last has to be a directory.
-/

namespace HttpTemplate

inductive FileFault where
  | missing (path : String)
  | notDirectory (path : String)
  | isDirectory (path : String)
  | nameTooLong (path : String)
  | denied (path : String)
  | nullCharacter
deriving DecidableEq, Repr

def FileFault.message : FileFault → String
  | missing path => "[Errno 2] No such file or directory: " ++ Text.quoted path
  | notDirectory path => "[Errno 20] Not a directory: " ++ Text.quoted path
  | denied path => "[Errno 13] Permission denied: " ++ Text.quoted path
  | isDirectory path => "[Errno 21] Is a directory: " ++ Text.quoted path
  | nameTooLong path => "[Errno 36] File name too long: " ++ Text.quoted path
  | nullCharacter => "embedded null byte"

def pathSteps (path : String) : List String := (Text.splitOn '/' path.toList).map String.ofList

def baseName (path : String) : String :=
  String.ofList (Text.splitLast '/' path.toList).2

/-- A path without empty and single-dot steps; two leading slashes are kept, more become one. -/
def cleanPath (path : String) : String :=
  let steps := (pathSteps path).filter fun s => s != "" && s != "."
  let root := match path.toList with
    | '/' :: '/' :: '/' :: _ => "/"
    | '/' :: '/' :: _ => "//"
    | '/' :: _ => "/"
    | _ => ""
  let clean := root ++ "/".intercalate steps
  if clean = "" then "." else clean

/-- Files with their contents; an entry without contents is a directory. Paths with a leading slash
begin at the root, others in the directory where the program runs. -/
structure FileSystem where
  entries : List (String × Option (List UInt8))

namespace FileSystem

def entrySteps (path : String) : List String :=
  let steps := (pathSteps path).filter fun s => s != "" && s != "."
  if path.toList.head? = some '/' then "" :: steps else steps

def content? (fs : FileSystem) (steps : List String) : Option (List UInt8) :=
  fs.entries.findSome? fun (path, content) => if entrySteps path = steps then content else none

def isAbove (steps : List String) : Bool := steps.all (· == "..")

def isRoot (steps : List String) : Bool := steps == [""]

def isDirectory (fs : FileSystem) (steps : List String) : Bool :=
  isAbove steps || isRoot steps || fs.entries.any fun (path, content) =>
    if entrySteps path = steps then content.isNone else steps.isPrefixOf (entrySteps path)

def parent (here : List String) : List String :=
  if isAbove here then here ++ [".."] else if isRoot here then here else here.dropLast

def maxNameLength : Nat := 255

def maxPathLength : Nat := 4095

def walk (fs : FileSystem) (path : String) (here : List String) :
    List String → Except FileFault (List String)
  | [] => .ok here
  | step :: rest =>
    if !fs.isDirectory here then .error (.notDirectory path)
    else if step = "" ∨ step = "." then walk fs path here rest
    else if step = ".." then walk fs path (parent here) rest
    else if maxNameLength < step.utf8ByteSize then .error (.nameTooLong path)
    else
      let next := here ++ [step]
      if fs.isDirectory next || (fs.content? next).isSome then walk fs path next rest
      else .error (.missing path)

def origin (path : String) : List String := if path.toList.head? = some '/' then [""] else []

def read (fs : FileSystem) (path : String) : Except FileFault (List UInt8) :=
  if path.toList.contains '\x00' then .error .nullCharacter
  else if path = "" then .error (.missing path)
  else if maxPathLength < path.utf8ByteSize then .error (.nameTooLong path)
  else do
    let steps ← fs.walk path (origin path) (pathSteps path)
    match fs.content? steps with
    | some content => return content
    | none => .error (.isDirectory path)

end FileSystem

end HttpTemplate
