import StageRelay.Text.Ascii
import StageRelay.Text.Split

/-!
# Paths of files

A path is a text with slashes between its components. Empty components and
single points in it name nothing. The last component that names something is the
name of the file, unless it is the double point; the extension of a name is what
follows its last point, if anything stands before that point.
-/

namespace StageRelay.FilePath

/-- The components between slashes, with the empty ones. They matter, since a slash at
the end says that a directory stands there. -/
def components (path : String) : List String := (Text.pieces '/' path.toList).map String.ofList

/-- The length of the longest name of a file, in bytes. -/
def maxNameSize : Nat := 255

/-- The length of the longest path, in bytes. A longer one leads nowhere, whatever
stands at its end. -/
def maxSize : Nat := 4095

/-- Whether a path and each of its names are short enough to be looked up. Lengths are
counted in bytes. -/
def isShort (path : String) : Bool :=
  path.utf8ByteSize ≤ maxSize && (components path).all (·.utf8ByteSize ≤ maxNameSize)

def hasNul (path : String) : Bool := path.toList.contains '\x00'

/-- The name of the file that a path leads to. Slashes at the end and single points do
not count, and a path that ends by going up names no file. -/
def fileName? (path : String) : Option String :=
  match ((components path).filter fun c => c ≠ "" ∧ c ≠ ".").getLast? with
  | some ".." => none
  | name => name

/-- What follows the last point of a name; none when there is no point, or
nothing before it. -/
def extensionOf? (name : String) : Option String :=
  match name.toList.reverse.dropWhile (· != '.') with
  | [] => none
  | [_] => none
  | _ => some (String.ofList (name.toList.reverse.takeWhile (· != '.')).reverse)

def extension? (path : String) : Option String := (fileName? path).bind extensionOf?

/-- A path below a directory. A directory that already ends in a slash gets no second
one, and the empty one stands for where paths start from. -/
def join (directory name : String) : String :=
  if directory = "" then name
  else if directory.toList.getLast? = some '/' then directory ++ name
  else directory ++ "/" ++ name

end StageRelay.FilePath
