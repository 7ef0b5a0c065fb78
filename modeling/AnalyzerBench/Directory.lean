import AnalyzerBench.Fault
import AnalyzerBench.Text.Blank

/-!
# Directories

A directory is given by its files and folders, each named by its place below the directory.  A path is followed step
by step: empty steps and `.` stay, and `..` goes back.  Outside the directory there are folders all the way up and
nothing else.
-/

namespace AnalyzerBench

/-- The names on the way from a directory to a file or folder in it. -/
abbrev Place := List String

/-- What a file holds. -/
inductive Content where
  | text (s : String)
  /-- Octets that are not the UTF-8 form of any text. -/
  | binary (octets : List UInt8)
  deriving DecidableEq, Repr

structure Directory where
  files : List (Place × Content) := []
  folders : List Place := []
  deriving DecidableEq, Repr

/-- The steps of a path. -/
def pathSteps (path : String) : List String := (Text.Chars.pieces (· == '/') path.toList).map String.ofList

/-- The place of a path, where steps back are taken without looking. -/
def pathPlace (path : String) : Place :=
  (pathSteps path).foldl (fun place step =>
    if step = "" || step = "." then place else if step = ".." then place.dropLast else place ++ [step]) []

namespace Directory

/-- The content of the file at a place. -/
def content? (d : Directory) (place : Place) : Option Content := d.files.lookup place

/-- Whether there is a folder at a place. -/
def hasFolder (d : Directory) (place : Place) : Bool := place.isEmpty || d.folders.contains place

/-- Whether no step names anything, so that the steps can only stay or go back. -/
def namesNothing (steps : List String) : Bool := steps.all fun step => step = "" || step = "." || step = ".."

/-- The fault of taking steps outside the directory. -/
def faultOutside (steps : List String) : ReadFault := if namesNothing steps then .isADirectory else .notFound

/-- The place of the file that is reached from a folder by the given steps. -/
def follow (d : Directory) : (folder : Place) → (steps : List String) → Except ReadFault Place
  | _, [] => .error .isADirectory
  | folder, step :: steps =>
    if step = "" || step = "." then d.follow folder steps
    else if step = ".." then (if folder.isEmpty then .error (faultOutside steps) else d.follow folder.dropLast steps)
    else
      let place := folder ++ [step]
      if d.hasFolder place then d.follow place steps
      else if (d.content? place).isSome then (if steps.isEmpty then .ok place else .error .notADirectory)
      else .error .notFound

/-- The place of the file at a path. -/
def find (d : Directory) (path : String) : Except ReadFault Place :=
  if path = "" then .error .notFound
  else if path.toList.head? = some '/' then .error (faultOutside (pathSteps path))
  else d.follow [] (pathSteps path)

/-- The text of the file at a path. -/
def read (d : Directory) (path : String) : Except ReadFault String := do
  match d.content? (← d.find path) with
  | some (.text s) => .ok s
  | some (.binary _) => .error .notUtf8
  | none => .error .notFound

/-- The folders around a place. -/
def around (place : Place) : List Place := (List.range place.length).map fun n => place.take n

/-- Adds a folder and the folders around it. -/
def makeFolder (d : Directory) (place : Place) : Directory :=
  { d with folders := d.folders ++ (around place ++ [place]).filter fun p => !d.hasFolder p && !p.isEmpty }

/-- Gives a file its content, adding the file if it is new. -/
def put (d : Directory) (place : Place) (c : Content) : Directory :=
  if (d.content? place).isSome then
    { d with files := d.files.map fun (p, old) => if p = place then (p, c) else (p, old) }
  else { d with files := d.files ++ [(place, c)] }

/-- Writes the file at a path, adding the folders around it. -/
def write (d : Directory) (path : String) (c : Content) : Directory :=
  let place := pathPlace path
  (d.makeFolder place.dropLast).put place c

/-- Takes a file away. -/
def remove (d : Directory) (place : Place) : Directory := { d with files := d.files.filter fun e => e.1 != place }

/-- Moves a file to a place, over the file that is there. -/
def move (d : Directory) (source target : Place) : Directory :=
  match d.content? source with
  | some c => (d.remove source).put target c
  | none => d

/-- Gives a file another text by way of a temporary file beside it, which is written first and then moved over it. -/
def replaceThrough (d : Directory) (temporary : String) (place : Place) (text : String) : Directory :=
  let beside := place.dropLast ++ [temporary]
  (d.put beside (.text text)).move beside place

/-- A name that is longer than all names in the directory. -/
def freshName (d : Directory) : String := ".tmp" ++ String.join (d.files.map (·.1) ++ d.folders).flatten

/-- Gives the file at a path another text; without such a file nothing changes. -/
def replace (d : Directory) (path text : String) : Directory :=
  match d.find path with
  | .ok place => d.replaceThrough d.freshName place text
  | .error _ => d

/-- The paths of all files and what they hold. -/
def listing (d : Directory) : List (String × Content) :=
  d.files.map fun (place, c) => (String.intercalate "/" place, c)

end Directory

end AnalyzerBench
