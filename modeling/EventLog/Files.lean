/-!
# Files

What the program can see of the file system: the text of a file, and whether a path names a regular
file. A tree of places is one such view, and what was found at some paths is another.
-/

namespace EventLog

inductive FileFault where
  | missing
  | directory
  /-- The path leads through something that is no directory. -/
  | notDirectory
  | nameTooLong
  /-- The path holds a NUL character. -/
  | badName
  | denied
  | notText
  /-- Any other reason, in the words of the system. -/
  | other (reason : String)
deriving DecidableEq, Repr

def FileFault.message : FileFault → String
  | missing => "No such file or directory (os error 2)"
  | directory => "Is a directory (os error 21)"
  | notDirectory => "Not a directory (os error 20)"
  | nameTooLong => "File name too long (os error 36)"
  | badName => "file name contained an unexpected NUL byte"
  | denied => "Permission denied (os error 13)"
  | notText => "stream did not contain valid UTF-8"
  | other reason => reason

/-- The fault that the system reports by a number and in words. Its numbers come with either
    sign. -/
def FileFault.ofSystem (code : UInt32) (reason : String) : FileFault :=
  let number := if code < 0x80000000 then code else 0 - code
  match number.toNat with
  | 2 => .missing
  | 13 => .denied
  | 20 => .notDirectory
  | 21 => .directory
  | 36 => .nameTooLong
  | number => .other (reason ++ " (os error " ++ toString number ++ ")")

def FileFault.isOfFile : FileFault → Bool
  | denied => true
  | notText => true
  | other _ => true
  | _ => false

/-- A view of the file system. -/
structure Files where
  /-- The text of a file. -/
  read : String → Except FileFault String
  /-- Says whether a path names a regular file. -/
  isFile : String → Bool

/-- Two views that show the same at some paths. -/
def Files.AgreeOn (files : Files) (paths : List String) (others : Files) : Prop :=
  ∀ path ∈ paths, files.read path = others.read path ∧ files.isFile path = others.isFile path

def textOfBytes (bytes : ByteArray) : Except FileFault String :=
  match String.fromUTF8? bytes with
  | some text => .ok text
  | none => .error .notText

/-- What was found at some paths. There is nothing at any other. -/
def Files.ofReadings (readings : List (String × Except FileFault String)) : Files where
  read path := (readings.lookup path).getD (.error .missing)
  isFile path :=
    match readings.lookup path with
    | some (.ok _) => true
    | some (.error fault) => fault.isOfFile
    | none => false

/-! ## Trees -/

/-- The names that lead to a place from the root. -/
abbrev Place := List String

/-- What stands at a place. -/
inductive FileNode where
  | directory
  | file (bytes : ByteArray)
  /-- The device that reads as an empty text. -/
  | nullDevice

/-- A file system: what stands at its places, and the place where a path begins that does not begin
    at the root. What lies on the way to a place is a directory. -/
structure FileTree where
  nodes : List (Place × FileNode)
  start : Place

def pathParts (path : String) : List String := (path.toList.splitOn '/').map String.ofList

namespace FileTree

/-- The directories below the root of any system. -/
def systemDirectories : List String :=
  ["bin", "boot", "dev", "etc", "home", "lib", "media", "mnt", "opt", "proc", "root", "run", "sbin",
    "srv", "sys", "tmp", "usr", "var"]

/-- A system with some contents below its working directory. A name may lead through directories,
    and without bytes it is that of a directory. -/
def ofContents (start : Place) (contents : List (String × Option ByteArray)) : FileTree where
  nodes :=
    [(["dev", "null"], .nullDevice), (start, .directory)] ++
      systemDirectories.map (fun name => ([name], .directory)) ++
      contents.map fun (name, bytes?) =>
        (start ++ pathParts name,
          match bytes? with
          | some bytes => .file bytes
          | none => .directory)
  start := start

def node? (tree : FileTree) (place : Place) : Option FileNode :=
  match tree.nodes.find? fun (listed, _) => listed = place with
  | some (_, node) => some node
  | none =>
      if place.isEmpty || tree.nodes.any fun (listed, _) => place.isPrefixOf listed then
        some .directory
      else
        none

/-- The longest name that a file may have, in bytes. -/
def nameLimit : Nat := 255

/-- The length from which on a path is too long, in bytes. -/
def pathLimit : Nat := 4096

/-- Follows the parts of a path from a place. An empty part and a dot stay there, and two dots lead
    one directory up, from the root to the root. -/
def walk (tree : FileTree) (place : Place) : List String → Except FileFault FileNode
  | [] =>
      match tree.node? place with
      | some node => .ok node
      | none => .error .missing
  | part :: parts =>
      match tree.node? place with
      | none => .error .missing
      | some (.file _) => .error .notDirectory
      | some .nullDevice => .error .notDirectory
      | some .directory =>
          if part.isEmpty || part = "." then tree.walk place parts
          else if part = ".." then tree.walk place.dropLast parts
          else if nameLimit < part.utf8ByteSize then .error .nameTooLong
          else tree.walk (place ++ [part]) parts

def origin (tree : FileTree) (path : String) : Place :=
  if path.toList.head? = some '/' then [] else tree.start

def find (tree : FileTree) (path : String) : Except FileFault FileNode :=
  if path.toList.contains '\x00' then .error .badName
  else if path.isEmpty then .error .missing
  else if pathLimit ≤ path.utf8ByteSize then .error .nameTooLong
  else tree.walk (tree.origin path) (pathParts path)

def files (tree : FileTree) : Files where
  read path :=
    match tree.find path with
    | .error fault => .error fault
    | .ok .directory => .error .directory
    | .ok .nullDevice => .ok ""
    | .ok (.file bytes) => textOfBytes bytes
  isFile path :=
    match tree.find path with
    | .ok (.file _) => true
    | _ => false

end FileTree

end EventLog
