import Swarm.Bencode.Cursor
import Swarm.Bencode.Node

/-!
# Walking with a cursor

A value is read by walking over it. A number is a run of digits; an integer stands between `i` and `e`,
a byte string follows its length and a colon, and the items of a list or the entries of a dictionary
stand between `l` or `d` and `e`. Containers may be nested in one another so many times; what is left of
that allowance is the measure by which reading a value ends. A walk moves the cursor along as it reads,
and leaves it where it fails.
-/

namespace Swarm.Bencode

/-- A way to read something that moves the cursor along, also if it fails. -/
abbrev Walk := ExceptT Error (StateM Cursor)

namespace Walk

/-- What a walk from a cursor results in, and where the cursor stands then. -/
def runAt {α : Type} (w : Walk α) (c : Cursor) : Except Error α × Cursor := w.run.run c

/-- The bytes that are not read yet. -/
def rest : Walk Bytes := return (← get).rest

/-- The offset of the next byte. -/
def pos : Walk Nat := return (← get).pos

/-- Steps over some bytes. -/
def skip (count : Nat) : Walk Unit := modify (·.advance count)

/-- Fails at the next byte. -/
def stop {α : Type} (error : Nat → Error) : Walk α := do throw (error (← pos))

/-- Walks over a number: at least one digit, and not too many. -/
def number : Walk Nat := do
  let ds := (← rest).takeWhile Cursor.isDigit
  skip (min ds.length maxDigits)
  if maxDigits < ds.length then stop .tooManyDigits
  else if ds.isEmpty then stop .emptyNumber
  else return Cursor.digitsValue ds

/-- Steps over the byte that must end a part. -/
def expect (wanted : UInt8) (part : Part) : Walk Unit := do
  match ← rest with
  | [] => stop (.unexpectedEnd · part)
  | b :: _ => if b = wanted then skip 1 else stop (.unexpectedByte · b part)

/-- Steps over a minus sign, if one comes next, and tells whether it does. -/
def sign : Walk Bool := do
  match ← rest with
  | b :: _ =>
    if b = '-'.toUInt8 then
      skip 1
      return true
    else return false
  | [] => return false

/-- Walks over what follows the `i` of an integer. -/
def integer : Walk Int := do
  let negative ← sign
  let magnitude ← number
  expect 'e'.toUInt8 .integerEnd
  return if negative then -(magnitude : Int) else magnitude

/-- Walks over a byte string: its length, a colon, and that many bytes. -/
def string : Walk Bytes := do
  let declared ← number
  expect ':'.toUInt8 .lengthEnd
  let content := (← rest).take declared
  if content.length < declared then stop (.shortString · declared content.length)
  else
    skip declared
    return content

/-- Walks over the elements of a container up to the `e` that ends it, those already passed kept in
reverse. A byte of `fuel` for that `e` and for each element is enough, since an element takes at least
one. -/
def elements {α : Type} (part : Part) (element : Walk α) (done : List α) :
    (fuel : Bytes) → Walk (List α)
  | [] => stop (.unexpectedEnd · part)
  | _ :: fuel => do
    match ← rest with
    | [] => stop (.unexpectedEnd · part)
    | b :: _ =>
      if b = 'e'.toUInt8 then
        skip 1
        return done.reverse
      else
        let a ← element
        elements part element (a :: done) fuel

/-- Walks over an entry of a dictionary: a key and its value. -/
def entry (item : Walk Node) : Walk (Bytes × Node) := do
  match ← rest with
  | [] => stop (.unexpectedEnd · .dict)
  | b :: _ =>
    if Cursor.isDigit b then
      let key ← string
      let node ← item
      return (key, node)
    else stop (.invalidKey · b)

/-- Walks over one value, given how to walk over the values inside a container, or that no container
may stand here. -/
def valueWith (inner : Option (Walk Node)) : Walk Node := do
  let start ← pos
  let before ← rest
  match before with
  | [] => stop (.unexpectedEnd · .value)
  | b :: _ =>
    if b = 'i'.toUInt8 then
      skip 1
      let n ← integer
      return .integer ⟨start, ← pos⟩ n
    else if Cursor.isDigit b then
      let content ← string
      return .bytes ⟨start, ← pos⟩ content
    else if b = 'l'.toUInt8 then
      match inner with
      | none => stop .nestingTooDeep
      | some item =>
        skip 1
        let nodes ← elements .list item [] before
        return .list ⟨start, ← pos⟩ nodes
    else if b = 'd'.toUInt8 then
      match inner with
      | none => stop .nestingTooDeep
      | some item =>
        skip 1
        let es ← elements .dict (entry item) [] before
        return .dict ⟨start, ← pos⟩ es
    else stop (.unexpectedByte · b .value)

/-- Walks over one value in which `room` containers may be nested in one another. -/
def value : (room : Nat) → Walk Node
  | 0 => valueWith none
  | room + 1 => valueWith (some (value room))

end Walk

end Swarm.Bencode
