/-
  The program — files.

  Files lie in a tree of folders, of which the usual ones are there and one is the
  folder in which the program works.  A name is a path, from the root if it begins with
  a slash and from the working folder otherwise: empty parts and `.` stay where they
  are, `..` leads out of a folder, and some names lead to folders elsewhere.
  `FileTree.walk` says where a path leads to; reading and making files follow from it.
-/
import Chip8.Error

namespace Chip8

/-- A place in the tree: the names on the way to it from the root. -/
abbrev Location := List String

/-- The files in the tree, besides those that are always there. -/
structure FileTree where
  files : List (Location × List UInt8)

/-- What there is at a location. -/
inductive Entry where
  | folder
  | file (bytes : List UInt8)
  /-- a file that is always empty -/
  | void
  /-- a device that is not connected -/
  | device

/-- Where a path leads to. -/
inductive Place where
  | entry (loc : Location) (e : Entry)
  /-- there is nothing of this name in a folder -/
  | vacant (loc : Location)
  /-- nowhere: a part of the path does not exist -/
  | nowhere
  /-- nowhere: a part of the path is a file -/
  | beyondFile
  /-- nowhere: the path or a part of it is too long -/
  | tooLong

namespace FileTree

/-- The working folder.  A zero character is in no path, so that none leads there by the
    name of the folder. -/
def work : Location := ["tmp", "\x00"]

/-- The parts of a path, which are those of the location if it begins at the root. -/
def location (path : String) : Location := (path.toList.splitOn '/').map .ofList

/-- The usual folders. -/
def folders : List Location :=
  [ "boot", "dev", "dev/mqueue", "dev/pts", "dev/shm", "etc", "home", "media", "mnt", "opt", "proc",
    "proc/self", "proc/self/fd", "proc/self/fdinfo", "proc/self/ns", "proc/self/net",
    "proc/self/task", "proc/sys", "root", "run", "run/lock", "srv", "sys", "sys/block", "sys/bus",
    "sys/class", "sys/dev", "sys/devices", "sys/firmware", "sys/fs", "sys/kernel", "sys/module",
    "sys/power", "tmp", "usr", "usr/bin", "usr/games", "usr/include", "usr/lib", "usr/lib64",
    "usr/local", "usr/local/bin", "usr/local/etc", "usr/local/games", "usr/local/include",
    "usr/local/lib", "usr/local/sbin", "usr/local/share", "usr/local/src", "usr/sbin", "usr/share",
    "usr/src", "var", "var/backups", "var/cache", "var/lib", "var/local", "var/log", "var/mail",
    "var/opt", "var/spool", "var/tmp" ].map location

/-- The names that lead to folders elsewhere. -/
def links : List (Location × Location) :=
  [ (location "bin", location "usr/bin"), (location "sbin", location "usr/sbin"),
    (location "lib", location "usr/lib"), (location "lib64", location "usr/lib64"),
    (location "dev/fd", location "proc/self/fd"), (location "var/run", location "run"),
    (location "var/lock", location "run/lock"), (location "proc/self/cwd", work),
    (location "proc/self/root", []) ]

/-- What there is at a location. -/
def entry? (t : FileTree) (loc : Location) : Option Entry :=
  if loc = [] ∨ loc = work ∨ folders.contains loc then some .folder
  else if loc = location "dev/null" then some .void
  else if loc = location "dev/tty" then some .device
  else (t.files.lookup loc).map .file

/-- The most bytes in a part of a path. -/
def maxPart : Nat := 255

/-- The most bytes in a path. -/
def maxPath : Nat := 4095

/-- Whether a part of a path is too long. -/
def isLong (part : String) : Bool := maxPart < part.utf8ByteSize

/-- Where the parts of a path lead to from a folder. -/
def walk (t : FileTree) (loc : Location) : List String → Place
  | [] => .entry loc .folder
  | "" :: rest | "." :: rest => t.walk loc rest
  | ".." :: rest => t.walk loc.dropLast rest
  | name :: rest =>
    if isLong name then .tooLong
    else
      let next := (links.lookup (loc ++ [name])).getD (loc ++ [name])
      match t.entry? next with
      | some .folder => t.walk next rest
      | some e => if rest.isEmpty then .entry next e else .beyondFile
      | none => if rest.all (·.isEmpty) then .vacant next else .nowhere

/-- Where a path begins. -/
def start (name : String) : Location := if name.startsWith "/" then [] else work

/-- Where a name leads to. -/
def locate (t : FileTree) (name : String) : Place :=
  if name.isEmpty then .nowhere
  else if maxPath < name.utf8ByteSize then .tooLong
  else t.walk (start name) (location name)

/-- A path up to its last part, if that is a name with a slash behind it. -/
def beforeFolderName? (name : String) : Option (List String) :=
  let parts := (location name).reverse
  match parts.dropWhile String.isEmpty with
  | last :: before =>
    if parts.head?.any String.isEmpty && last != "." && last != ".." then some before.reverse
    else none
  | [] => none

/-- Where a file of a name would be made: what has a slash behind it can only be a
    folder. -/
def target (t : FileTree) (name : String) : Place :=
  match beforeFolderName? name with
  | some before =>
    if maxPath < name.utf8ByteSize then .tooLong else t.walk (start name) before
  | none => t.locate name

/-- Why nothing can be opened at a place. -/
def refusal? (name : String) : Place → Option FileError
  | .entry _ .folder => some (.isDirectory name)
  | .entry _ .device => some (.noDevice name)
  | .nowhere => some (.noSuchFile name)
  | .beyondFile => some (.notDirectory name)
  | .tooLong => some (.nameTooLong name)
  | .entry .. | .vacant _ => none

/-- A place that can be opened under a name. -/
def opened (name : String) (p : Place) : Except Error Place :=
  if name.toList.contains '\x00' then .error .zeroInName
  else
    match refusal? name p with
    | some e => .error (.file e)
    | none => .ok p

/-- Read a file. -/
def read (t : FileTree) (name : String) : Except Error (List UInt8) := do
  match ← opened name (t.locate name) with
  | .entry _ (.file bytes) => .ok bytes
  | .entry .. => .ok []
  | _ => .error (.file (.noSuchFile name))

/-- The location at which a file of some name is made.  None can be made where the system
    shows its own state. -/
def create (t : FileTree) (name : String) : Except Error Location := do
  match ← opened name (t.target name) with
  | .vacant loc =>
    match loc with
    | "proc" :: _ => .error (.file (.noSuchFile name))
    | "sys" :: _ => .error (.file (.readOnly name))
    | _ => .ok loc
  | .entry loc _ => .ok loc
  | _ => .error (.file (.noSuchFile name))

/-- The tree with one more file. -/
def put (t : FileTree) (name : String) (bytes : List UInt8) : Except Error FileTree := do
  return ⟨(← t.create name, bytes) :: t.files⟩

/-- The tree with the given files. -/
def ofFiles (files : List (String × List UInt8)) : Except Error FileTree :=
  files.foldlM (fun t (name, bytes) => t.put name bytes) ⟨[]⟩

end FileTree

/-- Whether an error is one of opening a file. -/
def Error.isFileError : Error → Bool
  | file _ => true
  | _ => false

end Chip8
