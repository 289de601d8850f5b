import CommandFront.Text.OsText
import CommandFront.Text.Split

/-!
# Files

A path is followed name by name, and a directory or a file in the wrong place is an error of its
own. Contents need not be text; that a file is there but is no text is told apart from that it is
missing.

- `FileNode`: a file or a directory with all that is below it.
- `FileSystem`: a tree of files and the directory that relative paths start from.
- `FileSystem.resolve`: follows a path. A slash at its end demands a directory.
- `FileSystem.readText`: the text of the file at a path, or a `FileError`.
-/

namespace CommandFront

/-- A path, absolute if it starts with a slash. -/
abbrev Path := OsText

/-- A file, or a directory with all that is below it. -/
inductive FileNode where
  /-- A file with its content. -/
  | file (content : OsText)
  /-- A directory with its entries by name. -/
  | directory (entries : List (OsText × FileNode))

/-- Why a file cannot be read as text. -/
inductive FileError where
  /-- Nothing has the name. -/
  | notFound
  /-- There is a directory where a file is wanted. -/
  | isDirectory
  /-- There is a file where a directory is wanted. -/
  | notDirectory
  /-- The path or a name in it is too long. -/
  | nameTooLong
  /-- The path holds the character zero. -/
  | zeroInName
  /-- The content is ill-formed. -/
  | notText
deriving DecidableEq, Repr

/-- The error in words. -/
def FileError.message : FileError → String
  | notFound => "No such file or directory (os error 2)"
  | isDirectory => "Is a directory (os error 21)"
  | notDirectory => "Not a directory (os error 20)"
  | nameTooLong => "File name too long (os error 36)"
  | zeroInName => "file name contained an unexpected NUL byte"
  | notText => "stream did not contain valid UTF-8"

/-- An error that tells of something at the path: it is there, but is no text. -/
def FileError.IsPresence (e : FileError) : Prop :=
  e = .isDirectory ∨ e = .notText

instance (e : FileError) : Decidable e.IsPresence :=
  inferInstanceAs (Decidable (_ ∨ _))

namespace Path

/-- The glyph between the names of a path. -/
def slash : Glyph :=
  .scalar '/'

/-- Whether the path starts from the root. -/
def isAbsolute (p : Path) : Bool :=
  p.head? == some slash

/-- The names of the path, those between slashes that follow each other being empty. -/
def names (p : Path) : List OsText :=
  Text.split slash p

/-- The path with a name below it; a slash at the end of the path is used. -/
def join (p : Path) (name : String) : Path :=
  if p = [] ∨ p.getLast? = some slash then p ++ OsText.ofString name
  else p ++ slash :: OsText.ofString name

/-- The number of bytes of a text. -/
def byteCount (t : OsText) : Nat :=
  t.foldr (fun glyph rest =>
    match glyph with
    | .scalar c => c.utf8Size + rest
    | .stray bytes => bytes.length + rest) 0

/-- The longest name that a directory can hold, in bytes. -/
def longestName : Nat :=
  255

/-- The length from which on a path is refused, in bytes. -/
def longestPath : Nat :=
  4096

end Path

namespace FileNode

/-- The entries of a directory; a file has none. -/
def entries : FileNode → List (OsText × FileNode)
  | file _ => []
  | directory entries => entries

/-- Changes what is at the end of a list of names. The directories on the way are made. -/
def update (change : Option FileNode → FileNode) : List OsText → Option FileNode → FileNode
  | [], old => change old
  | name :: names, old =>
    let entries := (old.map FileNode.entries).getD []
    .directory
      ((name, update change names (entries.lookup name))
        :: entries.filter fun entry => decide (entry.1 ≠ name))

end FileNode

/-- A place in a tree of files: a node and the directories above it, the nearest first. -/
structure FileSystem.Place where
  /-- The node. -/
  node : FileNode
  /-- The directories above it. -/
  above : List FileNode := []

/-- Goes from a place to what has a name there. -/
def FileSystem.Place.enter (here : Place) (name : OsText) : Except FileError Place :=
  match here.node with
  | .file _ => .error .notDirectory
  | .directory entries =>
    if name = [] ∨ name = OsText.ofString "." then .ok here
    else if name = OsText.ofString ".." then
      match here.above with
      | [] => .ok here
      | parent :: above => .ok ⟨parent, above⟩
    else if Path.longestName < Path.byteCount name then .error .nameTooLong
    else
      match entries.lookup name with
      | none => .error .notFound
      | some node => .ok ⟨node, here.node :: here.above⟩

/-- Goes from a place along a path. -/
def FileSystem.Place.follow (start : Place) (p : Path) : Except FileError Place :=
  if p = [] then .error .notFound
  else if Path.longestPath ≤ Path.byteCount p then .error .nameTooLong
  else (Path.names p).foldlM Place.enter start

/-- A tree of files and the directory that relative paths start from. -/
structure FileSystem where
  /-- The root of the tree. -/
  root : FileNode := .directory []
  /-- The absolute path of the working directory. -/
  workingDirectory : Path := [Path.slash]

namespace FileSystem

/-- The place of the root. -/
def top (fs : FileSystem) : Place :=
  ⟨fs.root, []⟩

/-- Follows a path from the root, or from the working directory if it is relative. -/
def resolve (fs : FileSystem) (p : Path) : Except FileError Place :=
  if .scalar '\x00' ∈ p then .error .zeroInName
  else if Path.isAbsolute p then fs.top.follow p
  else do (← fs.top.follow fs.workingDirectory).follow p

/-- The text of the file at a path. -/
def readText (fs : FileSystem) (p : Path) : Except FileError String := do
  match (← fs.resolve p).node with
  | .directory _ => .error .isDirectory
  | .file content =>
    match content.toString? with
    | some text => return text
    | none => .error .notText

/-- The tree with a file at a path, which is taken from the root. -/
def addFile (fs : FileSystem) (p : Path) (content : OsText) : FileSystem :=
  let names := (Path.names p).filter fun name => decide (name ≠ [])
  { fs with root := FileNode.update (fun _ => .file content) names (some fs.root) }

/-- The tree with a directory at a path, which is taken from the root. -/
def addDirectory (fs : FileSystem) (p : Path) : FileSystem :=
  let names := (Path.names p).filter fun name => decide (name ≠ [])
  let make (old : Option FileNode) : FileNode := .directory ((old.map FileNode.entries).getD [])
  { fs with root := FileNode.update make names (some fs.root) }

end FileSystem

end CommandFront
