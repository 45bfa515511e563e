import ScorePlayback.Text.Utf8

/-! Paths of the command line: the names in them, another ending in place of their own, and what
keeps a text from being a path at all. -/

namespace ScorePlayback.CommandLine
open Text

/-- The texts between slashes. -/
def splitSlashes : List TextUnit → List (List TextUnit)
  | [] => [[]]
  | unit :: rest =>
    let pieces := splitSlashes rest
    if unit = .char '/' then [] :: pieces
    else (unit :: pieces.headD []) :: pieces.tail

def piecesOf (path : LooseText) : List LooseText :=
  (splitSlashes path.units).map LooseText.mk

/-- The slashes that a path starts with, where they matter: one, or exactly two. -/
def rootOf (path : LooseText) : LooseText :=
  let slashes := (path.units.takeWhile (· = .char '/')).length
  if slashes = 0 then "" else if slashes = 2 then "//" else "/"

/-- The names of a path, without empty ones and those of the directory itself. -/
def namesOf (path : LooseText) : List LooseText :=
  (piecesOf path).filter fun name => name ≠ "" && name ≠ "."

def lastName (path : LooseText) : LooseText := (namesOf path).getLastD ""

/-- A name before and from its last point. A point at either end starts no suffix. -/
def splitSuffix (name : LooseText) : LooseText × LooseText :=
  let units := name.units
  let suffix := (units.reverse.takeWhile (· ≠ .char '.')).reverse
  let stem := units.take (units.length - suffix.length - 1)
  if suffix.isEmpty || stem.isEmpty || suffix.length = units.length then (name, "")
  else (⟨stem⟩, ⟨.char '.' :: suffix⟩)

def stem (path : LooseText) : LooseText := (splitSuffix (lastName path)).1

/-- Names with slashes between them. -/
def joinNames : List LooseText → LooseText
  | [] => ""
  | [name] => name
  | name :: rest => name ++ "/" ++ joinNames rest

/-- The path with another suffix, in its plain form. -/
def withSuffix (path suffix : LooseText) : LooseText :=
  rootOf path ++ joinNames ((namesOf path).dropLast ++ [stem path ++ suffix])

/-- Halves of pairs that stand for the bytes from 128 on, which belong to no character. -/
def isByte : TextUnit → Bool
  | .char _ => false
  | .half index => 0x480 ≤ index.val && index.val < 0x500

/-- The number of bytes of a path. -/
def sizeOf (path : LooseText) : Nat :=
  path.units.foldl (fun size unit => size + (unit.char?.map Char.utf8Size).getD 1) 0

/-- Why a text is no path. -/
inductive PathFault
  | unencodable (run : UnencodableRun)
  | nul
deriving DecidableEq, Repr

def PathFault.message : PathFault → String
  | unencodable run => Utf8.unencodableMessage run
  | nul => "embedded null byte"

def pathFault? (path : LooseText) : Option PathFault :=
  match UnencodableRun.find? (fun unit => !unit.isHalf || isByte unit) (·.isHalf) path with
  | some run => some (.unencodable run)
  | none => if path.units.contains (.char '\x00') then some .nul else none

end ScorePlayback.CommandLine
