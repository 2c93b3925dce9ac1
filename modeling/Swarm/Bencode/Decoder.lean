import Swarm.Bencode.Walk

/-!
# Decoding

A source is decoded as the value at its beginning, as one value and nothing else, or as one value
after another, with a cursor that stays where decoding stopped.
-/

namespace Swarm.Bencode

/-- Decodes the next value. The cursor stands after it, or where decoding stopped. -/
def Cursor.next (c : Cursor) : Except Error Node × Cursor :=
  (Walk.value maxDepth).runAt c

/-- Decodes the value at the beginning of a source; what follows it does not matter. -/
def decode (source : Bytes) : Except Error Node := (Cursor.start source).next.1

/-- Decodes a source that is one value and nothing else. -/
def decodeExact (source : Bytes) : Except Error Node :=
  match (Cursor.start source).next with
  | (.error e, _) => .error e
  | (.ok node, c) => if c.atEnd then .ok node else .error (.trailingData c.pos)

end Swarm.Bencode
