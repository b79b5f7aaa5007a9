import ResourceTemplate.File.Basic

/-!
# Directories in memory

A directory has named entries.  A path is followed from name to name; a dot stays where it is and
two dots go back.
-/

namespace ResourceTemplate

/-- A file, or a directory with named entries. -/
inductive FileNode where
  /-- A file; without a text if its bytes are none. -/
  | file (text? : Option String)
  | directory (entries : List (String × FileNode))

namespace FileNode

/-- The directory without entries. -/
def empty : FileNode := directory []

/-- The entry of a name. -/
def entry? (name : String) : List (String × FileNode) → Option FileNode
  | [] => none
  | (other, node) :: rest => if other = name then some node else entry? name rest

/-- A new file under a path of names. -/
def single (text? : Option String) : List String → FileNode
  | [] => file text?
  | name :: names => directory [(name, single text? names)]

mutual

/-- Put a file under a path of names. -/
def write (text? : Option String) (names : List String) : FileNode → FileNode
  | file old =>
      match names with
      | [] => file text?
      | _ => file old
  | directory entries =>
      match names with
      | [] => directory entries
      | name :: names => directory (writeEntry text? name names entries)

/-- Put a file under a path that begins with a name. -/
def writeEntry (text? : Option String) (name : String) (names : List String) :
    List (String × FileNode) → List (String × FileNode)
  | [] => [(name, single text? names)]
  | (other, node) :: rest =>
      if other = name then (other, write text? names node) :: rest
      else (other, node) :: writeEntry text? name names rest

end

/-- The names that a path consists of. -/
def pathNames (path : String) : List String := path.splitOn "/"

/-- Follow names from a node; the nodes on the way back are given, the nearest first. -/
def follow (back : List FileNode) (here : FileNode) : List String → Except FileError FileNode
  | [] => .ok here
  | name :: names =>
      match here with
      | file _ => .error .notDirectory
      | directory entries =>
          if name = "" ∨ name = "." then follow back here names
          else if name = ".." then
            match back with
            | [] => .error .notFound
            | parent :: back => follow back parent names
          else
            match entry? name entries with
            | none => .error .notFound
            | some node => follow (here :: back) node names

/-- The text under a path in a directory. -/
def read (root : FileNode) (path : String) : FileAnswer :=
  if path = "" ∨ path.startsWith "/" then .error .notFound
  else
    match follow [] root (pathNames path) with
    | .error e => .error e
    | .ok (file (some text)) => .ok text
    | .ok (file none) => .error .notText
    | .ok (directory _) => .error .isDirectory

end FileNode

end ResourceTemplate
