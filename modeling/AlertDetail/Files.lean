import AlertDetail.Text.Blank

/-!
# Files by name

Why a file cannot be read, and files that are held in memory: a folder with files and folders in it,
in which names are looked up as in a file system. A name is a path from the folder, or one from the
root, which stands above the folder. There only the folders that every system has are known, and the
file that is always empty.
-/

namespace AlertDetail

/-- Why a file cannot be read. -/
inductive FileFault where
  /-- There is none. -/
  | missing
  /-- A part of the name other than the last is a file. -/
  | notFolder
  /-- The name is that of a folder. -/
  | isFolder
  /-- Its bytes are no text. -/
  | notText
  /-- The name or a part of it is too long. -/
  | tooLong
  /-- The name holds a character that ends names. -/
  | endedName
  /-- Something else. -/
  | other (cause : String)
  deriving DecidableEq, Repr, Inhabited

/-- The text shown for a fault. -/
def FileFault.message : FileFault → String
  | missing => "No such file or directory (os error 2)"
  | notFolder => "Not a directory (os error 20)"
  | isFolder => "Is a directory (os error 21)"
  | notText => "stream did not contain valid UTF-8"
  | tooLong => "File name too long (os error 36)"
  | endedName => "file name contained an unexpected NUL byte"
  | other cause => cause

/-- A place in a file system. -/
inductive FilePlace where
  /-- From a folder, by the parts of the name. -/
  | own (parts : List (List Char))
  /-- From the root, by the parts of the name. -/
  | system (parts : List (List Char))
  deriving DecidableEq, Repr, Inhabited

namespace FilePlace

/-- The place of a part in a place. -/
def down (part : List Char) : FilePlace → FilePlace
  | own parts => own (parts ++ [part])
  | system parts => system (parts ++ [part])

/-- The place that a place is in. The root is in itself. -/
def up : FilePlace → FilePlace
  | own [] => system []
  | own parts => own parts.dropLast
  | system parts => system parts.dropLast

/-- Names of the folders in the root. -/
def systemFolders : List String :=
  ["bin", "boot", "dev", "etc", "home", "lib", "media", "mnt", "opt", "proc", "root", "run", "sbin",
    "srv", "sys", "tmp", "usr", "var"]

/-- The parts of the name of the file that is always empty. -/
def emptyFile : List (List Char) := ["dev".toList, "null".toList]

end FilePlace

/-- A folder in memory. -/
structure Folder where
  /-- The texts of files by their names. -/
  files : List (String × String) := []
  /-- Names of folders that may hold nothing. -/
  folders : List String := []
  deriving DecidableEq, Repr, Inhabited

namespace Folder

/-- The most bytes of a part of a name. -/
def longestPart : Nat := 255

/-- The most bytes of a name. -/
def longestName : Nat := 4095

/-- The parts of a name. -/
def parts (name : String) : List (List Char) := Text.pieces '/' name.toList

/-- The text of the file at a place. -/
def file? (folder : Folder) : FilePlace → Option String
  | .own place =>
    folder.files.findSome? fun (name, text) => if parts name = place then some text else none
  | .system place => if place = FilePlace.emptyFile then some "" else none

/-- Whether there is a folder at a place: one that is listed, or one on the way to a file. -/
def hasFolder (folder : Folder) : FilePlace → Bool
  | .own place =>
    place.isEmpty || (folder.folders ++ folder.files.map (·.1)).any fun name =>
      place.isPrefixOf (parts name) && (folder.file? (.own place)).isNone
  | .system [] => true
  | .system [part] => FilePlace.systemFolders.contains (.ofList part)
  | .system _ => false

/-- Where a name leads from a place. -/
def walk (folder : Folder) (place : FilePlace) : List (List Char) → Except FileFault FilePlace
  | [] => .ok place
  | part :: rest =>
    if !folder.hasFolder place then
      .error (if (folder.file? place).isSome then .notFolder else .missing)
    else if part.isEmpty ∨ part = ['.'] then folder.walk place rest
    else if part = ['.', '.'] then folder.walk place.up rest
    else if longestPart < (String.ofList part).utf8ByteSize then .error .tooLong
    else folder.walk (place.down part) rest

/-- The text of a file. -/
def read (folder : Folder) (name : String) : Except FileFault String := do
  if name.toList.contains '\x00' then throw .endedName
  if longestName < name.utf8ByteSize then throw .tooLong
  if name = "" then throw .missing
  let place ← folder.walk (if name.startsWith "/" then .system [] else .own []) (parts name)
  match folder.file? place with
  | some text => return text
  | none => throw (if folder.hasFolder place then .isFolder else .missing)

end Folder

end AlertDetail
