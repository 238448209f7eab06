import CallTracer.FileFault
import CallTracer.Sorting
import CallTracer.Text.Order
/-! A tree of files and directories with the operations that a run asks of its file system. -/
namespace CallTracer

/-- The names that lead from the root to a file or directory. -/
abbrev Location := List Text

inductive Node
  | directory
  | file (bytes : ByteArray)
  /-- A device without space for a single byte. -/
  | fullDevice
  /-- A device that takes every text and keeps none. -/
  | nullDevice

def Node.isDirectory : Node → Bool
  | directory => true
  | _ => false

/-- A tree without links. -/
structure FileTree where
  /-- Where the paths that do not begin with a slash begin. -/
  workingDirectory : Location
  /-- What is there besides the working directory and the directories around it. -/
  nodes : List (Location × Node)

namespace FileTree

/-- An empty working directory, and two devices. -/
def initial : FileTree where
  workingDirectory := ["work".toList]
  nodes := [(["dev".toList], .directory), (["dev".toList, "full".toList], .fullDevice),
    (["dev".toList, "null".toList], .nullDevice)]

/-- The root, the working directory and what is between them are directories all the time. -/
def find? (t : FileTree) (l : Location) : Option Node :=
  if l.isPrefixOf t.workingDirectory then some .directory else t.nodes.lookup l

def put (t : FileTree) (l : Location) (n : Node) : FileTree :=
  { t with nodes := (l, n) :: t.nodes.filter (·.1 != l) }

def erase (t : FileTree) (l : Location) : FileTree :=
  { t with nodes := t.nodes.filter fun n => !l.isPrefixOf n.1 }

/-- Where a path leads: to something that is there, or to a name that is free in a directory. -/
inductive Target
  | existing (location : Location) (node : Node)
  | free (location : Location)

def maxNameLength : Nat := 255

def maxPathLength : Nat := 4095

/-- Whether a name stands for a directory that is already reached: an empty one and `.` for the
directory itself, and `..` for the one around it. -/
def isRelative (name : Text) : Bool := name.isEmpty || name == ".".toList || name == "..".toList

/-- The directory that such a name leads to. The one around the root is the root. -/
def step (here : Location) (name : Text) : Location :=
  if name = "..".toList then here.dropLast else here

/-- Follows the names of a path from a directory or file on. -/
def follow (t : FileTree) (here : Location) (node : Node) : List Text → Except FileFault Target
  | [] => .ok (.existing here node)
  | name :: names =>
    if !node.isDirectory then .error .notDirectory
    else if isRelative name then follow t (step here name) .directory names
    else if maxNameLength < Text.byteLength name then .error .nameTooLong
    else match t.find? (here ++ [name]) with
      | some n => follow t (here ++ [name]) n names
      | none =>
        if names.all List.isEmpty then .ok (.free (here ++ [name]))
        else .error .notFound

/-- Paths hold no zero character and have a limited length. -/
def check (path : Text) : Except FileFault Unit :=
  if path.contains '\x00' then .error .zeroInName
  else if maxPathLength < Text.byteLength path then .error .nameTooLong
  else .ok ()

/-- Where a path begins: at the root or in the working directory. -/
def start (t : FileTree) (path : Text) : Location :=
  if path.head? = some '/' then [] else t.workingDirectory

/-- Follows the names of a path from where it begins. -/
def walk (t : FileTree) (path : Text) : Except FileFault Target :=
  if path.isEmpty then .error .notFound
  else follow t (t.start path) .directory (Text.split '/' path)

def resolve (t : FileTree) (path : Text) : Except FileFault Target := do
  check path
  t.walk path

/-- The path of the directory around the name that a path ends in, if slashes stand behind that
name. -/
def slashedIn? (path : Text) : Option Text :=
  match path.reverse with
  | '/' :: rest =>
    let rest := rest.dropWhile (· = '/')
    let around := (rest.dropWhile (· != '/')).reverse
    if isRelative (rest.takeWhile (· != '/')).reverse then none
    else some (if around.isEmpty then ".".toList else around)
  | _ => none

/-- The text that a file holds. -/
def read (t : FileTree) (path : Text) : Except FileFault Text :=
  match t.resolve path with
  | .error f => .error f
  | .ok (.free _) => .error .notFound
  | .ok (.existing _ .directory) => .error .isDirectory
  | .ok (.existing _ .fullDevice) => .error .notText
  | .ok (.existing _ .nullDevice) => .ok []
  | .ok (.existing _ (.file bytes)) =>
    match String.fromUTF8? bytes with
    | some s => .ok s.toList
    | none => .error .notText

/-- Where a path to write to leads. A name with slashes behind it has to be that of a directory,
whatever is there. -/
def destination (t : FileTree) (path : Text) : Except FileFault Target := do
  check path
  match slashedIn? path with
  | none => t.walk path
  | some around =>
    match ← t.walk around with
    | .existing .. => .error .isDirectory
    | .free _ => .error .notFound

/-- Puts bytes into a file in place of what it holds; a failing write changes nothing. -/
def writeBytes (t : FileTree) (path : Text) (bytes : ByteArray) : Except FileFault FileTree :=
  match t.destination path with
  | .error f => .error f
  | .ok (.free l) => .ok (t.put l (.file bytes))
  | .ok (.existing _ .directory) => .error .isDirectory
  | .ok (.existing _ .fullDevice) => if bytes.isEmpty then .ok t else .error .noSpace
  | .ok (.existing _ .nullDevice) => .ok t
  | .ok (.existing l (.file _)) => .ok (t.put l (.file bytes))

def write (t : FileTree) (path text : Text) : Except FileFault FileTree :=
  t.writeBytes path (String.ofList text).toUTF8

/-- The bytes of a file, if there is one. -/
def bytes? (t : FileTree) (path : Text) : Option ByteArray :=
  match t.resolve path with
  | .ok (.existing _ (.file bytes)) => some bytes
  | .ok (.existing _ .nullDevice) => some .empty
  | _ => none

/-- Makes the directories that the names lead through, up to a name that cannot be one. -/
def makeDirectories (t : FileTree) (here : Location) : List Text → FileTree
  | [] => t
  | name :: names =>
    if isRelative name then makeDirectories t (step here name) names
    else if maxNameLength < Text.byteLength name then t
    else
      let l := here ++ [name]
      match t.find? l with
      | none => makeDirectories (t.put l .directory) l names
      | some n => if n.isDirectory then makeDirectories t l names else t

def makeDirectory (t : FileTree) (path : Text) : FileTree :=
  match check path with
  | .ok () => makeDirectories t (t.start path) (Text.split '/' path)
  | .error _ => t

/-- Takes a file away, or a directory with all that is in it; `none` if there is nothing. -/
def remove? (t : FileTree) (path : Text) : Option FileTree :=
  match t.resolve path with
  | .ok (.existing l _) => some (t.erase l)
  | _ => none

/-- The paths below the working directory in ascending order, those of directories with a slash at
their end. -/
def list (t : FileTree) : List Text :=
  Sorting.sort Text.atMost <| t.nodes.filterMap fun (l, n) =>
    if t.workingDirectory.isPrefixOf l then
      let below := l.drop t.workingDirectory.length
      some (Text.join ['/'] below ++ if n.isDirectory then ['/'] else [])
    else none

end FileTree
end CallTracer
