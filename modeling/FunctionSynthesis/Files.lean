import FunctionSynthesis.Fault
import FunctionSynthesis.Text.Blank

/-!
# Files

A tree of files as a value: which files there are with their texts, which
directories there are, and where the program works. Reading and writing follow
paths step by step, so a path through a missing directory leads nowhere even if
it comes back.
-/

namespace FunctionSynthesis

/-- A path, from the root or from a directory, without empty parts and without
parts that stay where they are. The root is written with one slash or with
two. -/
structure Path where
  slashes : Nat
  parts : List String
  deriving DecidableEq, Inhabited

namespace Path

def isAbsolute (path : Path) : Bool :=
  path.slashes != 0

/-- The parts of a text between slashes. -/
def partsOf (text : String) : List String :=
  let pieces := text.toList.splitOn '/'
  (pieces.map String.ofList).filter fun part => part != "" && part != "."

/-- How many slashes stand for the root in front of a text: more than two count
as one. -/
def rootOf (text : String) : Nat :=
  let slashes := (text.toList.takeWhile (· = '/')).length
  if 2 < slashes then 1 else slashes

def ofText (text : String) : Path :=
  ⟨rootOf text, partsOf text⟩

/-- The path from the root to a place. -/
def ofPlace (place : List String) : Path :=
  ⟨1, place⟩

def text (path : Path) : String :=
  let joined := "/".intercalate path.parts
  if path.isAbsolute then
    String.ofList (List.replicate path.slashes '/') ++ joined
  else if path.parts.isEmpty then "."
  else joined

def name (path : Path) : String :=
  path.parts.getLastD ""

/-- What the last part ends in, from its last point on. A point at the start or
at the end of a name begins no suffix. -/
def suffix (path : Path) : String :=
  let chars := path.name.toList
  let ending := (chars.reverse.takeWhile (· != '.')).reverse
  let before := chars.length - ending.length
  if ending.isEmpty || before ≤ 1 then ""
  else String.ofList ('.' :: ending)

/-- A path from the end of another one. -/
def append (base path : Path) : Path :=
  if path.isAbsolute then path else ⟨base.slashes, base.parts ++ path.parts⟩

/-- The parts that are left when every step back is taken at once. -/
def collapse (parts : List String) : List String :=
  (parts.foldl (fun taken part =>
    if part = ".." then taken.tail else part :: taken) []).reverse

/-- A directory and the directories around it, the nearest first. -/
def outward (parts : List String) : List (List String) :=
  (List.range (parts.length + 1)).reverse.map fun n => parts.take n

end Path

/-- What is at a place. -/
inductive Site where
  | file (text : String)
  | directory
  | missing
  /-- A file stands where a directory is needed. -/
  | blocked
  /-- A part of the path is longer than the name of a file can be. -/
  | unnameable
  deriving DecidableEq, Inhabited

/-- Files with their texts, directories, and the directory that relative paths
start from. Places are given by their parts from the root. -/
structure Files where
  files : List (List String × String) := []
  directories : List (List String) := []
  workplace : List String := []
  deriving Inhabited

namespace Files

/-- Whether a directory is at a place: an explicit one, or one on the way to
something. -/
def isDirectory (tree : Files) (place : List String) : Bool :=
  place.isPrefixOf tree.workplace ||
    tree.directories.any place.isPrefixOf ||
    tree.files.any fun f => place.isPrefixOf f.1 && f.1.length != place.length

def at? (tree : Files) (place : List String) : Site :=
  match tree.files.find? fun f => f.1 == place with
  | some (_, text) => .file text
  | none => if tree.isDirectory place then .directory else .missing

/-- How many bytes the name of a file can have. -/
def longestName : Nat := 255

/-- Follow parts from a place. Gives the place where they lead, if every place
on the way is a directory. -/
def follow (tree : Files) (place : List String) :
    List String → Except Site (List String)
  | [] => return place
  | part :: parts =>
      match tree.at? place with
      | .directory =>
          if longestName < part.utf8ByteSize then throw .unnameable
          else
            tree.follow (if part = ".." then place.dropLast else place ++ [part])
              parts
      | .file _ => throw .blocked
      | site => throw site

/-- The place where a path leads. -/
def locate (tree : Files) (path : Path) : Except Site (List String) :=
  tree.follow (if path.isAbsolute then [] else tree.workplace) path.parts

/-- What a path leads to. -/
def site (tree : Files) (path : Path) : Site :=
  match tree.locate path with
  | .ok place => tree.at? place
  | .error site => site

def hasPath (tree : Files) (path : Path) : Bool :=
  match tree.site path with
  | .file _ => true
  | .directory => true
  | _ => false

/-- Whether a path has parts that no file can be named by, since they hold the
character that ends a name. -/
def isBroken (path : Path) : Bool :=
  path.parts.any fun part => part.toList.contains '\x00'

/-- The fault of a path that leads to what is no file. -/
def faultAt (path : Path) : Site → Fault
  | .directory => Fault.isADirectory path.text
  | .blocked => Fault.notADirectory path.text
  | .unnameable => Fault.ofFile 36 "File name too long" path.text
  | _ =>
      if isBroken path then Fault.describe .value "embedded null byte"
      else Fault.noSuchFile path.text

/-- The text of a file as it is stored. -/
def rawText (tree : Files) (path : Path) : Except Fault String :=
  match tree.site path with
  | .file text => return text
  | site => throw (faultAt path site)

/-- The text of a file with all line ends as line feeds. -/
def readText (tree : Files) (path : Path) : Except Fault String :=
  return String.ofList (Text.universalNewlines (← tree.rawText path).toList)

/-- The tree with a text in the file at a path. Its directory has to be
there. -/
def writeText (tree : Files) (path : Path) (text : String) :
    Except Fault Files :=
  match tree.locate path with
  | .error site => throw (faultAt path site)
  | .ok place =>
      if tree.isDirectory place then throw (faultAt path .directory)
      else if isBroken path then throw (faultAt path .missing)
      else
        let others := tree.files.filter fun f => f.1 != place
        return { tree with files := others ++ [(place, text)] }

/-- The absolute form of a path, with every step back taken at once. -/
def resolve (tree : Files) (path : Path) : List String :=
  Path.collapse <|
    if path.isAbsolute then path.parts else tree.workplace ++ path.parts

end Files

end FunctionSynthesis
