import Imagewright.Text.Pieces
import Imagewright.Text.Quoted

/-!
# File names

Paths are parts between slashes. Each part is a name, and both have a limited number of bytes, none
of which is null. A byte that is part of no character is held as a lone half.

## Main definitions

* `FileName.join`: the path of a file from a directory on.
* `FileName.isWritable`: the text can be written as a path.
* `FileName.isTooLong`, `FileName.isPathTooLong`: no file can have the name or the path.
-/
namespace Imagewright.FileName

/-- A lone half that stands for a byte. -/
def isByte (half : Nat) : Bool := 0xDC80 ≤ half && half ≤ 0xDCFF

/-- A character that paths hold: not null, and no lone half but one that stands for a byte. -/
def isPathChar (c : Char) : Bool := c.toNat != 0 && (Text.half? c).all isByte

/-- The text can be written as a path. -/
def isWritable (path : String) : Bool := path.toList.all isPathChar

/-- A text holds the null character, which no path does. -/
def hasNull (path : String) : Bool := path.toList.any (·.toNat == 0)

/-- The bytes of a text that can be written as a path. -/
def byteSize (path : String) : Nat :=
  path.toList.foldl (fun size c => size + if (Text.half? c).isSome then 1 else c.utf8Size) 0

/-- Names have at most this many bytes. -/
def maxLength : Nat := 255

/-- No file can have the name, which has too many bytes. -/
def isTooLong (name : String) : Bool := maxLength < byteSize name

/-- Paths have at most this many bytes. -/
def maxPathLength : Nat := 4095

/-- No file can have the path, which has too many bytes. -/
def isPathTooLong (path : String) : Bool := maxPathLength < byteSize path

def tooLongMessage (path : String) : String := "[Errno 36] File name too long: " ++ Text.quote path

def parts (path : String) : List String := (Text.pathParts path).map String.ofList

/-- The slashes that a path starts with, as they are kept: one or two, and of more than two one. -/
def root (path : String) : String :=
  match path.toList.takeWhile (· == '/') with
  | [] => ""
  | ['/', '/'] => "//"
  | _ => "/"

/-- The path of a file from a directory on. Parts that say nothing are left out, and a path from the
root on stands for itself. -/
def join (directory path : String) : String :=
  let written := String.intercalate "/" (parts path)
  if root path != "" then root path ++ written
  else if written == "" then directory
  else s!"{directory}/{written}"

/-- The last part of a path, empty if it has none. -/
def last (path : String) : String := (parts path).getLast?.getD ""

end Imagewright.FileName
