import Plotter.Text.Quoted

/-!
# UTF-8

Text files hold UTF-8.  A sequence that is not well formed is refused at its first byte, and the
message gives the bytes that were understood before it became clear: one byte that cannot start a
character, or the start of a character that does not go on, or the start of one at the end of the
data.

A file that is read piece by piece counts positions from the start of the piece, and an unfinished
character at the end of the data is a piece of its own (`positionInPieces`).
-/

namespace Plotter

inductive DecodeReason where
  | invalidStart | invalidContinuation | unexpectedEnd
  deriving DecidableEq, Repr

/-- Bytes that are not UTF-8: where they start, how many they are, and the first of them. -/
structure DecodeError where
  position : Nat
  count : Nat
  firstByte : Nat
  reason : DecodeReason
  deriving DecidableEq, Repr

namespace Utf8

/-- The form of a character by its first byte: how many bytes follow, the range of the first of
them, and the bits of the code point in the first byte. -/
structure Lead where
  tails : Nat
  low : Nat := 0x80
  high : Nat := 0xBF
  bits : Nat

def lead? (b : Nat) : Option Lead :=
  if b < 0x80 then some { tails := 0, bits := b }
  else if b < 0xC2 then none
  else if b < 0xE0 then some { tails := 1, bits := b - 0xC0 }
  else if b == 0xE0 then some { tails := 2, low := 0xA0, bits := 0 }
  else if b == 0xED then some { tails := 2, high := 0x9F, bits := 0xD }
  else if b < 0xF0 then some { tails := 2, bits := b - 0xE0 }
  else if b == 0xF0 then some { tails := 3, low := 0x90, bits := 0 }
  else if b == 0xF4 then some { tails := 3, high := 0x8F, bits := 4 }
  else if b < 0xF4 then some { tails := 3, bits := b - 0xF0 }
  else none

/-- Where the decoder stands: between characters, or inside one that started with some byte and
has so many bytes behind it and before it, of which the next lies in a range. -/
inductive Standing where
  | between
  | inside (first seen owed low high bits : Nat)

def reasonText : DecodeReason → Text
  | .invalidStart => "invalid start byte".toList
  | .invalidContinuation => "invalid continuation byte".toList
  | .unexpectedEnd => "unexpected end of data".toList

/-- Decodes bytes from a standing, at a position that counts all bytes so far. -/
def decodeFrom : (position : Nat) → Standing → List UInt8 → Except DecodeError Text
  | _, .between, [] => .ok []
  | position, .inside first seen _ _ _ _, [] =>
    .error ⟨position - seen, seen, first, .unexpectedEnd⟩
  | position, .between, b :: rest =>
    match lead? b.toNat with
    | none => .error ⟨position, 1, b.toNat, .invalidStart⟩
    | some lead =>
      if lead.tails == 0 then
        (decodeFrom (position + 1) .between rest).map (Char.ofNat lead.bits :: ·)
      else
        decodeFrom (position + 1) (.inside b.toNat 1 lead.tails lead.low lead.high lead.bits) rest
  | position, .inside first seen owed low high bits, b :: rest =>
    let value := b.toNat
    if low ≤ value && value ≤ high then
      let total := bits * 64 + (value - 0x80)
      if owed ≤ 1 then (decodeFrom (position + 1) .between rest).map (Char.ofNat total :: ·)
      else decodeFrom (position + 1) (.inside first (seen + 1) (owed - 1) 0x80 0xBF total) rest
    else .error ⟨position - seen, seen, first, .invalidContinuation⟩

def decode (bytes : List UInt8) : Except DecodeError Text := decodeFrom 0 .between bytes

end Utf8

namespace DecodeError

/-- The error of a reader that takes a file piece by piece. -/
def inPieces (e : DecodeError) : DecodeError :=
  match e.reason with
  | .unexpectedEnd => { e with position := 0 }
  | _ => e

def message (e : DecodeError) : Text :=
  let place :=
    if e.count == 1 then
      "byte 0x".toList ++ Text.hexDigits 2 e.firstByte ++ " in position ".toList
        ++ Nat.toDigits 10 e.position
    else
      "bytes in position ".toList ++ Nat.toDigits 10 e.position ++ "-".toList
        ++ Nat.toDigits 10 (e.position + e.count - 1)
  "'utf-8' codec can't decode ".toList ++ place ++ ": ".toList ++ Utf8.reasonText e.reason

end DecodeError

namespace Text

/-- Every kind of line end as a line feed. -/
def unifyNewlines : Text → Text
  | [] => []
  | '\r' :: '\n' :: rest => '\n' :: unifyNewlines rest
  | '\r' :: rest => '\n' :: unifyNewlines rest
  | c :: rest => c :: unifyNewlines rest

end Text

end Plotter
