import AccessController.Bytes
import AccessController.Memory
import AccessController.Text.Quoted

/-!
# Files

Programs, memory images and reports are files. `FileAccess` is what the library
asks of its surroundings: to read a file and to write one, in any monad.
`Directory` is a directory held in memory, with the paths that resolve from it:
names in it, names outside of it, and the few things that every system has.
-/

namespace AccessController

/-- Why a file cannot be read or written. -/
inductive FileError where
  | system (code : Nat) (description : String)
  | nulInName
  | notText
  deriving Repr, DecidableEq

namespace FileError

def message : FileError → String
  | .system code description => s!"{description} (os error {code})"
  | .nulInName => "file name contained an unexpected NUL byte"
  | .notText => "stream did not contain valid UTF-8"

def notFound : FileError := .system 2 "No such file or directory"

def notDirectory : FileError := .system 20 "Not a directory"

def isDirectory : FileError := .system 21 "Is a directory"

def noSpace : FileError := .system 28 "No space left on device"

def nameTooLong : FileError := .system 36 "File name too long"

end FileError

/-- Reading and writing of files by name. -/
structure FileAccess (m : Type → Type) where
  read : String → m (Except FileError Bytes)
  write : String → Bytes → m (Except FileError Unit)

/-- The text of a file. -/
def FileError.decodeText (bytes : Bytes) : Except FileError String :=
  match String.fromUTF8? ⟨bytes.toArray⟩ with
  | some text => .ok text
  | none => .error .notText

/-- The bytes of a text. -/
def textBytes (text : String) : Bytes := text.toUTF8.toList

/-- Reads a file that has to be text. -/
def FileAccess.readText {m : Type → Type} [Monad m] (files : FileAccess m) (path : String) :
    m (Except FileError String) := do
  return (← files.read path).bind FileError.decodeText

/-- The files of one directory, held in memory under their paths from there. A
path to a file implies the directories on its way. -/
structure Directory where
  files : List (String × Bytes) := []
  deriving Repr, DecidableEq

namespace Directory

/-- Where a path starts from: the directory itself, a directory that holds it
with the number of levels in between, or the root of all directories. -/
inductive Start where
  | here
  | holder (between : Nat)
  | root
  deriving Repr, DecidableEq

/-- A directory on the way of a path: its start and the names that lead down from
there, the last one first. -/
structure Folder where
  start : Start
  names : List String := []
  deriving Repr, DecidableEq

namespace Folder

/-- The directory that holds a directory. The root holds itself. -/
def parent : Folder → Folder
  | ⟨start, _ :: names⟩ => ⟨start, names⟩
  | ⟨.here, []⟩ => { start := .holder 0 }
  | ⟨.holder between, []⟩ => { start := .holder (between + 1) }
  | ⟨.root, []⟩ => { start := .root }

/-- The path to a name in a directory. -/
def pathTo (folder : Folder) (name : String) : String :=
  let way := match folder.start with
    | .here => []
    | .holder between => List.replicate (between + 1) ".."
    | .root => [""]
  "/".intercalate (way ++ folder.names.reverse ++ [name])

/-- The directories that are found at every root. -/
def systemNames : List String :=
  ["bin", "boot", "dev", "etc", "home", "lib", "media", "mnt", "opt", "proc", "root", "run", "sbin",
    "srv", "sys", "tmp", "usr", "var"]

end Folder

/-- What a path leads to. -/
inductive Place where
  | file (path : String)
  | directory
  deriving Repr, DecidableEq

/-- The device that is always empty and takes everything. -/
def nullDevice : String := "/dev/null"

/-- The device that has no space left. -/
def fullDevice : String := "/dev/full"

def find? (directory : Directory) (path : String) : Option Bytes :=
  if path = nullDevice ∨ path = fullDevice then some [] else directory.files.lookup path

/-- Whether a name in a directory is one of a directory. -/
def hasFolder (directory : Directory) (folder : Folder) (name : String) : Bool :=
  (folder == { start := .root } && Folder.systemNames.contains name) ||
    directory.files.any fun file => file.1.startsWith (folder.pathTo name ++ "/")

/-- Follows the parts of a path from a directory. A name that is about to be
created is one of a directory if a slash follows it, whether it exists or not. -/
def follow (directory : Directory) (creating : Bool) :
    Folder → List String → Except FileError Place
  | _, [] => .ok .directory
  | folder, part :: rest =>
    if part = "" ∨ part = "." then directory.follow creating folder rest
    else if part = ".." then directory.follow creating folder.parent rest
    else if creating ∧ rest ≠ [] ∧ rest.all (· == "") then .ok .directory
    else if 255 < part.utf8ByteSize then .error .nameTooLong
    else if directory.hasFolder folder part then
      directory.follow creating { folder with names := part :: folder.names } rest
    else if rest = [] then .ok (.file (folder.pathTo part))
    else
      .error (if (directory.find? (folder.pathTo part)).isSome then .notDirectory else .notFound)

/-- What a path leads to. An empty path leads nowhere. -/
def resolve (directory : Directory) (creating : Bool) (path : String) :
    Except FileError Place :=
  if path.any (· == '\x00') then .error .nulInName
  else if path = "" then .error .notFound
  else if 4095 < path.utf8ByteSize then .error .nameTooLong
  else
    let start := if path.startsWith "/" then .root else .here
    directory.follow creating { start } (path.splitOn "/")

def read (directory : Directory) (path : String) : Except FileError Bytes := do
  match ← directory.resolve false path with
  | .directory => throw .isDirectory
  | .file path =>
    match directory.find? path with
    | some bytes => return bytes
    | none => throw .notFound

def write (directory : Directory) (path : String) (bytes : Bytes) : Except FileError Directory := do
  match ← directory.resolve true path with
  | .directory => throw .isDirectory
  | .file path =>
    if path = nullDevice ∨ (path = fullDevice ∧ bytes = []) then return directory
    else if path = fullDevice then throw .noSpace
    else return ⟨(path, bytes) :: directory.files.filter fun file => file.1 != path⟩

/-- File access to a directory that is carried along as state. -/
def access : FileAccess (StateM Directory) where
  read path := return (← get).read path
  write path bytes := do
    match (← get).write path bytes with
    | .error error => return .error error
    | .ok changed =>
      set changed
      return .ok ()

end Directory

namespace Memory

/-- Why a memory image was not loaded. -/
inductive ImageError where
  | unreadable (path : String) (error : FileError)
  | tooLarge (path : String) (error : OutOfBounds)
  deriving Repr, DecidableEq

def ImageError.message : ImageError → String
  | .unreadable path error =>
    s!"failed to read memory image {Text.quoted path}: {error.message}"
  | .tooLarge path error =>
    s!"memory image {Text.quoted path} is larger than shared memory: {error.message}"

/-- A memory dump that could not be written. -/
structure DumpError where
  path : String
  error : FileError
  deriving Repr, DecidableEq

def DumpError.message (error : DumpError) : String :=
  s!"failed to write memory dump {Text.quoted error.path}: {error.error.message}"

/-- Copies the bytes read from an image file to address 0. The result has the
changed memory and the number of bytes. -/
def withImage (memory : Memory) (path : String) (image : Except FileError Bytes) :
    Except ImageError (Memory × Nat) :=
  match image with
  | .error error => .error (.unreadable path error)
  | .ok bytes =>
    match memory.write 0 bytes with
    | .error error => .error (.tooLarge path error)
    | .ok written => .ok (written, bytes.length)

/-- Copies an image file to address 0. -/
def loadImage {m : Type → Type} [Monad m] (memory : Memory) (files : FileAccess m)
    (path : String) : m (Except ImageError (Memory × Nat)) := do
  return memory.withImage path (← files.read path)

/-- Writes all bytes to a file. -/
def dump {m : Type → Type} [Monad m] (memory : Memory) (files : FileAccess m)
    (path : String) : m (Except DumpError Unit) := do
  return (← files.write path memory.toList).mapError (DumpError.mk path)

end Memory

end AccessController
