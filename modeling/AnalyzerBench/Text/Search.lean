/-!
# Searching text

A text is cut at the leftmost occurrence of another one.  What stands before the cut, the occurrence and what stands
after it are together the text that was cut.
-/

namespace AnalyzerBench.Text

namespace Chars

/-- What follows `start` in `cs`, if `cs` starts with it. -/
def afterStart? : (start cs : List Char) → Option (List Char)
  | [], cs => some cs
  | _ :: _, [] => none
  | a :: start, c :: cs => if a = c then afterStart? start cs else none

/-- What stands before and after the leftmost occurrence of `needle`. -/
def cutAt? (needle : List Char) : List Char → Option (List Char × List Char)
  | [] => (afterStart? needle []).map ([], ·)
  | c :: cs =>
    match afterStart? needle (c :: cs) with
    | some rest => some ([], rest)
    | none => (cutAt? needle cs).map fun (before, after) => (c :: before, after)

/-- The characters with `added` put after each occurrence of `needle`; what was read before comes first, reversed. -/
def addAfterFrom (needle added : List Char) : (before : List Char) → List Char → List Char
  | _, [] => []
  | before, c :: cs =>
    let rest := addAfterFrom needle added (c :: before) cs
    c :: (if needle.reverse.isPrefixOf (c :: before) then added ++ rest else rest)

/-- The characters with `added` put after each occurrence of `needle`. -/
def addAfter (needle added cs : List Char) : List Char := addAfterFrom needle added [] cs

/-- Whether `needle` occurs in `cs`. -/
def contains (needle : List Char) : List Char → Bool
  | [] => needle.isEmpty
  | c :: cs => needle.isPrefixOf (c :: cs) || contains needle cs

end Chars

/-- Whether `needle` occurs in a text. -/
def contains (needle s : String) : Bool := Chars.contains needle.toList s.toList

/-- A text with `added` put after each occurrence of `needle`. -/
def addAfter (needle added s : String) : String :=
  String.ofList (Chars.addAfter needle.toList added.toList s.toList)

/-- What stands before and after the leftmost occurrence of `needle` in a text. -/
def cutAt? (needle s : String) : Option (String × String) :=
  (Chars.cutAt? needle.toList s.toList).map fun (before, after) => (String.ofList before, String.ofList after)

end AnalyzerBench.Text
