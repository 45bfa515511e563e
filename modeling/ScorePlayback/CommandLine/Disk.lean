import ScorePlayback.CommandLine.Path

/-! A tree of directories and files, as far as commands can see it, and the directory in it where
they run. -/

namespace ScorePlayback.CommandLine

/-- Why a file cannot be opened for writing: the number and the words of the system. -/
structure WriteFault where
  number : Nat
  reason : String
deriving DecidableEq, Repr

namespace WriteFault

def noSuchFile : WriteFault := ⟨2, "No such file or directory"⟩

def notDirectory : WriteFault := ⟨20, "Not a directory"⟩

def isDirectory : WriteFault := ⟨21, "Is a directory"⟩

def nameTooLong : WriteFault := ⟨36, "File name too long"⟩

def message (fault : WriteFault) (path : LooseText) : String :=
  s!"[Errno {fault.number}] {fault.reason}: {Text.quote path}"

end WriteFault

/-- The names from the root down. -/
abbrev Place := List LooseText

/-- Commands run at `home`. -/
structure Disk where
  home : Place := []
  files : List (Place × List UInt8)
  directories : List Place

inductive Entry.Kind
  | directory
  | file (bytes : List UInt8)

/-- The most bytes of a path and of a name in it. -/
def pathLimit : Nat := 4095

def nameLimit : Nat := 255

namespace Disk

/-- The directories are those that are given, those above anything that is given, and the root. -/
def hasDirectory (disk : Disk) (place : Place) : Bool :=
  place.isPrefixOf disk.home || disk.directories.any (place.isPrefixOf ·)
    || disk.files.any fun file => place.isPrefixOf file.1 && place != file.1

def entry? (disk : Disk) (place : Place) : Option Entry.Kind :=
  match disk.files.lookup place with
  | some bytes => some (.file bytes)
  | none => if disk.hasDirectory place then some .directory else none

/-- Follows names down from a place, and up for two points; above the root is the root. Every name
but the last one has to lead to a directory. The last one may be missing. -/
def follow (disk : Disk) (place : Place) : List LooseText → Except WriteFault Place
  | [] => .ok place
  | name :: rest =>
    match disk.entry? place with
    | none => .error .noSuchFile
    | some (.file _) => .error .notDirectory
    | some .directory =>
      if name = "" || name = "." then follow disk place rest
      else if name = ".." then follow disk place.dropLast rest
      else if nameLimit < sizeOf name then .error .nameTooLong
      else follow disk (place ++ [name]) rest

/-- The place that a path leads to by the names in it. -/
def resolve (disk : Disk) (path : LooseText) (names : List LooseText) : Except WriteFault Place :=
  if path.isEmpty then .error .noSuchFile
  else if pathLimit < sizeOf path then .error .nameTooLong
  else disk.follow (if (rootOf path).isEmpty then disk.home else []) names

/-- The bytes of an existing file. -/
def read? (disk : Disk) (path : LooseText) : Option (List UInt8) :=
  match disk.resolve path (piecesOf path) with
  | .ok place =>
    match disk.entry? place with
    | some (.file bytes) => some bytes
    | _ => none
  | .error _ => none

/-- The place of a file that is opened for writing. A slash after the last name asks for a
directory, whether there is one or not. -/
def openForWriting (disk : Disk) (path : LooseText) : Except WriteFault Place := do
  let pieces := piecesOf path
  let place ← disk.resolve path (pieces.reverse.dropWhile LooseText.isEmpty).reverse
  match disk.entry? place with
  | some .directory => throw .isDirectory
  | _ => if (pieces.getLastD "").isEmpty then throw .isDirectory else return place

end Disk

end ScorePlayback.CommandLine
