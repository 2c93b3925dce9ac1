/-!
# Blank characters, lines and words

Blank characters are those with the Unicode property White_Space. A line ends with a line feed, with or
without a carriage return before it; words are what stands between blanks.
-/

namespace Swarm.Text

/-- The characters with the Unicode property White_Space. -/
def isBlank (c : Char) : Bool :=
  let n := c.toNat
  (0x09 ≤ n && n ≤ 0x0D) || n == 0x20 || n == 0x85 || n == 0xA0 || n == 0x1680
    || (0x2000 ≤ n && n ≤ 0x200A) || n == 0x2028 || n == 0x2029 || n == 0x202F || n == 0x205F
    || n == 0x3000

/-- Removes the blanks at both ends. -/
def trim (cs : List Char) : List Char :=
  ((cs.dropWhile isBlank).reverse.dropWhile isBlank).reverse

/-- The pieces between the characters that satisfy `mark`; there is one more of them than of these
characters. The piece under way is kept in reverse. -/
def piecesFrom (mark : Char → Bool) (piece : List Char) (done : List (List Char)) :
    List Char → List (List Char)
  | [] => (piece.reverse :: done).reverse
  | c :: cs =>
    if mark c then piecesFrom mark [] (piece.reverse :: done) cs
    else piecesFrom mark (c :: piece) done cs

/-- The pieces between the characters that satisfy `mark`. -/
def pieces (mark : Char → Bool) (cs : List Char) : List (List Char) :=
  piecesFrom mark [] [] cs

/-- The words of a text: what stands between blanks. -/
def words (cs : List Char) : List (List Char) :=
  (pieces isBlank cs).filter (!·.isEmpty)

/-- A line that a line feed ended, without the carriage return before it. -/
def dropReturn (line : List Char) : List Char :=
  if line.getLast? = some '\r' then line.dropLast else line

/-- The lines of a text; nothing after the last line feed is no line. -/
def lines (cs : List Char) : List (List Char) :=
  let ls := pieces (· == '\n') cs
  let ended := ls.dropLast.map dropReturn
  match ls.getLast? with
  | some (c :: last) => ended ++ [c :: last]
  | _ => ended

/-- What stands before and after the first `mark`. -/
def cut? (mark : Char) (cs : List Char) : Option (List Char × List Char) :=
  match cs.dropWhile (· != mark) with
  | [] => none
  | _ :: after => some (cs.takeWhile (· != mark), after)

/-- Lowers the letters of ASCII. -/
def lower (cs : List Char) : List Char :=
  cs.map Char.toLower

/-- Whether `part` occurs somewhere in a text. -/
def contains (part : List Char) : List Char → Bool
  | [] => part.isEmpty
  | c :: cs => part.isPrefixOf (c :: cs) || contains part cs

end Swarm.Text
