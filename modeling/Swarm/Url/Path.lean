import Swarm.Text.Blank
import Swarm.Url.Percent

/-!
# Paths

The path of a URL with a special scheme. Both slashes divide it; a segment of one dot stands for no
step, and one of two dots for a step up, which never goes above the root and never leaves a drive.
-/

namespace Swarm.Url.Path

open Swarm.Text

/-- Whether a character divides segments. -/
def isSlash (c : Char) : Bool := c == '/' || c == '\\'

/-- Whether a segment is one dot, plain or encoded. -/
def isDot (segment : List Char) : Bool :=
  lower segment ∈ [".".toList, "%2e".toList]

/-- Whether a segment is two dots, plain or encoded. -/
def isDoubleDot (segment : List Char) : Bool :=
  lower segment ∈ ["..".toList, ".%2e".toList, "%2e.".toList, "%2e%2e".toList]

/-- Whether a segment names a drive: a letter and a colon or a bar. -/
def isDrive : List Char → Bool
  | [letter, mark] => letter.isAlpha && (mark == ':' || mark == '|')
  | _ => false

/-- One step up from a folder, whose segments stand with the last one first. -/
def up : List (List Char) → List (List Char)
  | [] => []
  | segment :: outer => if isDrive segment then segment :: outer else outer

/-- The folder after a segment that a slash follows. -/
def enter (folder : List (List Char)) (segment : List Char) : List (List Char) :=
  if isDoubleDot segment then up folder
  else if isDot segment then folder
  else segment :: folder

/-- The text of a path: the segments of its folder, and what follows the last slash. -/
def render (folder : List (List Char)) (last : List Char) : List Char :=
  '/' :: (folder.reverse.flatMap (· ++ ['/'])) ++ last

/-- The segments of a path, encoded, without the slash that it may begin with. -/
def segments (cs : List Char) : List (List Char) :=
  let cs := match cs with
    | c :: rest => if isSlash c then rest else cs
    | [] => []
  (pieces isSlash cs).map (percentEncode .path)

/-- The path with its dots resolved. -/
def resolve (cs : List Char) : List Char :=
  let all := segments cs
  let folder := all.dropLast.foldl enter []
  match all.getLast? with
  | none => ['/']
  | some last =>
    if isDoubleDot last then render (up folder) []
    else if isDot last then render folder []
    else render folder last

/-- Whether resolving a path ever puts a drive right under the root. -/
def startsDrive : (folder : List (List Char)) → List (List Char) → Bool
  | _, [] => false
  | folder, segment :: rest =>
    (folder.isEmpty && isDrive segment) || startsDrive (enter folder segment) rest

end Swarm.Url.Path
