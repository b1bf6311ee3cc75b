import BootClock.Keyed
import BootClock.SystemError
import BootClock.Text.Split
/-!
# File trees

A file tree is a file or a directory of named file trees. A place is the list of names that leads
to it from the root. A path is a text: names between slashes, taken from the root if it starts with
one and from the current directory if not. Following a path fails with the error number that says
which step could not be taken. Names and paths have a greatest length in bytes. There are no links, no
permissions, and no names or paths that are not texts.
-/

namespace BootClock

inductive FileTree where
  | file (contents : ByteArray)
  | directory (entries : List (String × FileTree))

/-- A place in a file tree: the names that lead to it from the root. -/
abbrev Place : Type := List String

/-- The path of a place. -/
def Place.path (p : Place) : String := "/" ++ "/".intercalate p

namespace FileTree

/-- There is no such entry. -/
def noEntry : SystemError := .numbered 2

/-- Something that is no directory was to be entered. -/
def notDirectory : SystemError := .numbered 20

/-- A directory was to be read. -/
def isDirectory : SystemError := .numbered 21

/-- A name or a path is longer than it can be. -/
def tooLong : SystemError := .numbered 36

/-- A path holds a NUL character, which would end it. -/
def holdsNul : SystemError := .custom "file name contained an unexpected NUL byte"

/-- The greatest length of a name, in bytes. -/
def longestName : Nat := 255

/-- The greatest length of a path, in bytes. -/
def longestPath : Nat := 4095

def child? : FileTree → String → Option FileTree
  | file _, _ => none
  | directory entries, name => Keyed.get? entries name

/-- The tree at a place. -/
def get? : FileTree → Place → Option FileTree
  | t, [] => some t
  | t, name :: p => match t.child? name with
    | some c => c.get? p
    | none => none

/-- The tree with `new` at a place; directories that are missing on the way are made. -/
def put (new : FileTree) : Place → FileTree → FileTree
  | [], _ => new
  | name :: p, t =>
    let entries := match t with
      | directory entries => entries
      | file _ => []
    directory (Keyed.set entries name (put new p ((t.child? name).getD (directory []))))

theorem get?_put_self (new : FileTree) (p : Place) (t : FileTree) :
    (put new p t).get? p = some new := by
  induction p generalizing t with
  | nil => rfl
  | cons name p ih => simp [put, get?, child?, Keyed.get?_set, ih]

/-! ## Paths -/

def isAbsolute (path : String) : Bool := path.toList.head? = some '/'

/-- The names of a path, with the empty ones that doubled slashes and those at its ends make. -/
def names (path : String) : List String := (split '/' path.toList).map String.ofList

/-- The place that a path names by its text alone, whatever there is. -/
def textual (here : Place) (path : String) : Place :=
  (names path).foldl (fun here name =>
    if name = "" ∨ name = "." then here
    else if name = ".." then here.dropLast
    else here ++ [name]) (if isAbsolute path then [] else here)

/-- Goes on from a place by names; an empty name and a single dot stay, a double dot goes up. Each
name is looked up in a directory, and only there its length matters. -/
def follow (t : FileTree) : Place → List String → Except SystemError Place
  | here, [] => .ok here
  | here, name :: rest => match t.get? here with
    | some (directory entries) =>
      if name = "" ∨ name = "." then follow t here rest
      else if name = ".." then follow t here.dropLast rest
      else if longestName < name.utf8ByteSize then .error tooLong
      else if (Keyed.get? entries name).isSome then follow t (here ++ [name]) rest
      else .error noEntry
    | some (file _) => .error notDirectory
    | none => .error noEntry

/-- Where a path leads, be it as long as it may. Without a current directory only paths from the root
lead anywhere. -/
def walk (t : FileTree) (current : Option Place) (path : String) : Except SystemError Place :=
  if '\x00' ∈ path.toList then .error holdsNul
  else if path = "" then .error noEntry
  else if isAbsolute path then t.follow [] (names path)
  else match current with
    | some here => t.follow here (names path)
    | none => .error noEntry

/-- The place of a path, which must not be longer than a path can be. -/
def place (t : FileTree) (current : Option Place) (path : String) : Except SystemError Place :=
  if '\x00' ∉ path.toList ∧ longestPath < path.utf8ByteSize then .error tooLong
  else t.walk current path

/-- The contents of the file at a place. -/
def readAt (t : FileTree) (p : Place) : Except SystemError ByteArray :=
  match t.get? p with
  | some (file contents) => .ok contents
  | some (directory _) => .error isDirectory
  | none => .error noEntry

/-- A path seen from the directory at another; one from the root leads to the same place from
everywhere. -/
def join (path below : String) : String :=
  if isAbsolute below then below
  else if path.toList.getLast? = some '/' then path ++ below
  else path ++ "/" ++ below

end FileTree

end BootClock
