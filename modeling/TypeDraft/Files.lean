import TypeDraft.Text.Blank
import TypeDraft.Text.Utf8
import TypeDraft.Value.Display

/-!
# Files

The files that a run can see, by path. A path is a list of names from the working directory on; the
directories are those that hold a file and those that are known beside.
-/

namespace TypeDraft

/-- A path by its names. A path from the root of the system starts with a slash as a name. -/
abbrev Path := List String

namespace Path

private def names (s : String) : List String :=
  ((Text.splitAt '/' s.toList).map String.ofList).filter fun n => n ≠ "" && n ≠ "."

def ofString (s : String) : Path :=
  if s.toList.head? = some '/' then "/" :: names s else names s

def text : Path → String
  | [] => "."
  | "/" :: names => "/" ++ "/".intercalate names
  | names => "/".intercalate names

/-- The path one step on; a step upwards takes the last name away. -/
def step (p : Path) (name : String) : Path :=
  if name = ".." then
    match p.getLast? with
    | none | some ".." => p ++ [name]
    | some "/" => p
    | some _ => p.dropLast
  else p ++ [name]

/-- The path without steps upwards that follow a step downwards. -/
def resolved (p : Path) : Path := p.foldl step []

/-- Whether a text names what can only be a directory: its last name is empty or a dot. -/
def wantsDirectory (s : String) : Bool :=
  match s.toList.reverse with
  | ['.'] | '/' :: _ | '.' :: '/' :: _ => true
  | _ => false

/-- The part of the last name from its last dot on, unless that stands at one of its ends. -/
def extension (p : Path) : String :=
  let name := (p.getLastD "").toList
  let tail := name.reverse.takeWhile (· != '.')
  if tail.length + 1 < name.length && !tail.isEmpty then String.ofList ('.' :: tail.reverse) else ""

end Path

structure Files where
  files : List (Path × List UInt8)
  directories : List Path := []

inductive FileError where
  | notFound (path : String)
  | notADirectory (path : String)
  | isADirectory (path : String)
  | nameTooLong (path : String)
  | notUtf8 (e : Text.Utf8Error)
  deriving DecidableEq

def FileError.message : FileError → String
  | notFound path => "[Errno 2] No such file or directory: " ++ Text.displayString path
  | notADirectory path => "[Errno 20] Not a directory: " ++ Text.displayString path
  | isADirectory path => "[Errno 21] Is a directory: " ++ Text.displayString path
  | nameTooLong path => "[Errno 36] File name too long: " ++ Text.displayString path
  | notUtf8 e => e.message

inductive Place where
  | file (bytes : List UInt8)
  | directory
  /-- Nothing, but in a directory that is there. -/
  | vacant
  /-- Nothing, for a directory on the way is not there. -/
  | lost
  /-- Nothing, for a file stands on the way. -/
  | blocked
  /-- Nothing, for a name is longer than one may be. -/
  | overlong
  deriving DecidableEq

/-- Whether a file is there, or may be. -/
def Place.isWritable : Place → Bool
  | file _ | vacant => true
  | _ => false

namespace Files

/-- Whether a name takes more bytes than that of a file may. -/
def isOverlong (name : String) : Bool := 255 < name.utf8ByteSize

def hasDirectory (fs : Files) (p : Path) : Bool :=
  p == ["/"] || p.all (· == "..") || fs.directories.contains p ||
    fs.files.any fun f => p.isPrefixOf f.1 && p.length < f.1.length

def placeFrom (fs : Files) (here : Path) : Path → Place
  | [] =>
    match fs.files.lookup here with
    | some bytes => .file bytes
    | none => if fs.hasDirectory here then .directory else .vacant
  | name :: names =>
    if (fs.files.lookup here).isSome then .blocked
    else if !fs.hasDirectory here then .lost
    else if isOverlong name then .overlong
    else placeFrom fs (here.step name) names

def place (fs : Files) (p : Path) : Place :=
  if 4095 < p.text.utf8ByteSize then .overlong else placeFrom fs [] p

def read (fs : Files) (p : Path) : Except FileError String :=
  match fs.place p with
  | .file bytes => ((Text.decodeUtf8 bytes).map Text.unifyLineEnds).mapError .notUtf8
  | .directory => .error (.isADirectory p.text)
  | .blocked => .error (.notADirectory p.text)
  | .overlong => .error (.nameTooLong p.text)
  | .vacant | .lost => .error (.notFound p.text)

def checkWritable (fs : Files) (p : Path) : Except FileError Unit :=
  match fs.place p with
  | .file _ | .vacant => .ok ()
  | .directory => .error (.isADirectory p.text)
  | .blocked => .error (.notADirectory p.text)
  | .overlong => .error (.nameTooLong p.text)
  | .lost => .error (.notFound p.text)

/-- Makes the directories on the way through some names, unless one of them cannot be. -/
def makeFrom (fs : Files) (here : Path) : Path → Option Files
  | [] => some fs
  | name :: names =>
    let next := here.step name
    if isOverlong name || (fs.files.lookup next).isSome then none
    else if fs.hasDirectory next then makeFrom fs next names
    else makeFrom { fs with directories := next :: fs.directories } next names

/-- Writes a file with the directories that lead to it, unless something is in the way. -/
def write (fs : Files) (p : Path) (bytes : List UInt8) : Option Files := do
  let fs ← fs.makeFrom [] p.dropLast
  if (fs.place p).isWritable then some { fs with files := (p.resolved, bytes) :: fs.files }
  else none

end Files

end TypeDraft
