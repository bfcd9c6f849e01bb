import ImageBot.Text.Utf8
/-!
# Files

A path is a row of bytes, and need not be a text. A file system is a tree of folders with a
current one. A path is walked name by name from the current folder, or from the root if it
starts with a slash; nothing is below a file. What is known of a path is all that its readers
use, so `Files` stands for any source of this knowledge.
-/
namespace ImageBot

open Text

/-- A path. -/
structure OsPath where
  bytes : List UInt8
  deriving Repr, DecidableEq

namespace OsPath

/-- What separates the names in a path. -/
def slash : UInt8 := 0x2F

/-- The path that a text names. -/
def ofText (text : String) : OsPath := ⟨Utf8.bytes text⟩

/-- Whether a path starts at the root. -/
def isAbsolute (p : OsPath) : Bool := p.bytes.head? == some slash

/-- Whether a name that is put behind a path needs a slash in front of it. -/
def isOpen (p : OsPath) : Bool := p.bytes.getLast?.any (· != slash)

/-- A path from a folder. An absolute one is as it is. -/
def join (folder path : OsPath) : OsPath :=
  if path.isAbsolute then path
  else ⟨folder.bytes ++ (if folder.isOpen then [slash] else []) ++ path.bytes⟩

/-- A path as it is shown. -/
def shown (p : OsPath) : String := Utf8.textLossy p.bytes

/-- The names between the slashes of a path. -/
def names (p : OsPath) : List (List UInt8) :=
  p.bytes.foldr (fun b names =>
    if b = slash then [] :: names else (b :: names.headD []) :: names.tail) [[]]

end OsPath

/-- The greatest number of bytes in a name. -/
def longestName : Nat := 255

/-- The greatest number of bytes in a path. -/
def longestPath : Nat := 4095

/-- What a path leads to. -/
inductive FileState
  | absent
  /-- The path goes on below a file. -/
  | blocked
  /-- The path is none, since it has a byte that no path can have. -/
  | unnamable
  /-- The path or a name in it is longer than any can be. -/
  | overlong
  /-- There is something that may not be read. -/
  | locked
  | folder
  | file (content : List UInt8)
  deriving Repr, DecidableEq

/-- Why a file cannot be read as text. -/
inductive FileFault
  | notFound
  | notAFolder
  | isFolder
  | badName
  | tooLong
  | denied
  | notText
  deriving Repr, DecidableEq

/-- The text of a fault. -/
def FileFault.message : FileFault → String
  | notFound => "No such file or directory (os error 2)"
  | notAFolder => "Not a directory (os error 20)"
  | isFolder => "Is a directory (os error 21)"
  | badName => "file name contained an unexpected NUL byte"
  | tooLong => "File name too long (os error 36)"
  | denied => "Permission denied (os error 13)"
  | notText => "stream did not contain valid UTF-8"

namespace FileState

/-- Whether there is something. -/
def isPresent : FileState → Bool
  | locked | folder | file _ => true
  | _ => false

/-- What is there as text. -/
def text : FileState → Except FileFault (List Char)
  | absent => .error .notFound
  | blocked => .error .notAFolder
  | unnamable => .error .badName
  | overlong => .error .tooLong
  | locked => .error .denied
  | folder => .error .isFolder
  | file content =>
    match Utf8.decode content with
    | .ok text => .ok text
    | .error _ => .error .notText

end FileState

/-- What each path leads to. -/
abbrev Files := OsPath → FileState

/-- A file, or a folder with its entries by name. -/
inductive FileTree
  | file (content : List UInt8)
  | folder (entries : List (List UInt8 × FileTree))

namespace FileTree

/-- A folder without entries. -/
def empty : FileTree := folder []

/-- What is at the root of a tree. -/
def state : FileTree → FileState
  | file content => .file content
  | folder _ => .folder

/-- The names that lead nowhere. -/
def stay : List (List UInt8) := [[], [0x2E]]

/-- The name that leads out of a folder. -/
def outward : List UInt8 := [0x2E, 0x2E]

/-- What names lead to from a tree, of which the folders around it are at hand, the
innermost first. -/
def walk : (around : List FileTree) → FileTree → List (List UInt8) → FileState
  | _, t, [] => t.state
  | _, file _, _ :: _ => .blocked
  | around, folder entries, name :: rest =>
    if stay.contains name then walk around (folder entries) rest
    else if name = outward then
      match around with
      | [] => walk [] (folder entries) rest
      | parent :: higher => walk higher parent rest
    else if longestName < name.length then .overlong
    else match entries.lookup name with
      | none => .absent
      | some t => walk (folder entries :: around) t rest

/-- Puts a tree where names lead, with folders on the way to it. A file on the way makes
room for a folder. -/
def put (t : FileTree) : (names : List (List UInt8)) → FileTree → FileTree
  | [], _ => t
  | name :: rest, at_ =>
    let entries := match at_ with
      | folder entries => entries
      | file _ => []
    let below := put t rest ((entries.lookup name).getD empty)
    folder ((name, below) :: entries.filter fun e => e.1 != name)

end FileTree

/-- A tree with a current folder in it. -/
structure FileSystem where
  root : FileTree
  current : List (List UInt8)

/-- What a path leads to. -/
def FileSystem.files (s : FileSystem) : Files := fun path =>
  if path.bytes.isEmpty then .absent
  else if path.bytes.contains 0 then .unnamable
  else if longestPath < path.bytes.length then .overlong
  else s.root.walk [] (if path.isAbsolute then path.names else s.current ++ path.names)

end ImageBot
