import StyleGauge.Text.Hex

/-!
# UTF-8

Characters as bytes. Bytes that stand for no text are refused at the first flaw, which is the
longest beginning of a character there is, or the one byte that begins none.
-/

namespace StyleGauge.Text.Utf8

/-- The bytes that may go on a character. -/
abbrev Range := Nat × Nat

/-- The bytes that may follow where nothing narrower is asked for. -/
def anyTail : Range := (0x80, 0xBF)

/-- How a byte begins a character: the bits of the code point that it holds, and the ranges of the
bytes that have to follow. -/
def start? (byte : Nat) : Option (Nat × List Range) :=
  if byte ≤ 0x7F then some (byte, [])
  else if byte < 0xC2 then none
  else if byte ≤ 0xDF then some (byte - 0xC0, [anyTail])
  else if byte = 0xE0 then some (0x0, [(0xA0, 0xBF), anyTail])
  else if byte = 0xED then some (0xD, [(0x80, 0x9F), anyTail])
  else if byte ≤ 0xEF then some (byte - 0xE0, [anyTail, anyTail])
  else if byte = 0xF0 then some (0x0, [(0x90, 0xBF), anyTail, anyTail])
  else if byte ≤ 0xF3 then some (byte - 0xF0, [anyTail, anyTail, anyTail])
  else if byte = 0xF4 then some (0x4, [(0x80, 0x8F), anyTail, anyTail])
  else none

/-- What is wrong with bytes that stand for no text. -/
inductive Cause where
  | startByte
  | continuationByte
  | endOfData
  deriving DecidableEq, Repr

/-- The text of a cause. -/
def Cause.message : Cause → String
  | startByte => "invalid start byte"
  | continuationByte => "invalid continuation byte"
  | endOfData => "unexpected end of data"

/-- The first flaw of bytes that stand for no text. -/
structure Flaw where
  cause : Cause
  /-- The first byte of the flaw. -/
  byte : UInt8
  /-- The offset of that byte. -/
  first : Nat
  /-- The offset of the last byte of the flaw. -/
  last : Nat
  deriving DecidableEq, Repr

/-- The text of a flaw. -/
def Flaw.message (f : Flaw) : String :=
  let place :=
    if f.first = f.last then
      let byte := String.ofList (hex 2 f.byte.toNat)
      s!"byte 0x{byte} in position {f.first}"
    else s!"bytes in position {f.first}-{f.last}"
  s!"'utf-8' codec can't decode {place}: {f.cause.message}"

/-- A character whose bytes are not all read. -/
structure Pending where
  /-- Its first byte. -/
  byte : UInt8
  /-- The offset of that byte. -/
  first : Nat
  /-- The bits of the code point so far. -/
  bits : Nat
  /-- The range of the next byte. -/
  next : Range
  /-- The ranges of the bytes after that. -/
  more : List Range

/-- The characters that bytes stand for, from an offset on and maybe within a character. -/
def decodeFrom (offset : Nat) : Option Pending → List UInt8 → Except Flaw (List Char)
  | none, [] => .ok []
  | some p, [] => .error ⟨.endOfData, p.byte, p.first, offset - 1⟩
  | none, byte :: bytes =>
    match start? byte.toNat with
    | none => .error ⟨.startByte, byte, offset, offset⟩
    | some (bits, []) => (Char.ofNat bits :: ·) <$> decodeFrom (offset + 1) none bytes
    | some (bits, next :: more) =>
      decodeFrom (offset + 1) (some ⟨byte, offset, bits, next, more⟩) bytes
  | some p, byte :: bytes =>
    if byte.toNat < p.next.1 ∨ p.next.2 < byte.toNat then
      .error ⟨.continuationByte, p.byte, p.first, offset - 1⟩
    else
      let bits := 0x40 * p.bits + (byte.toNat - 0x80)
      match p.more with
      | [] => (Char.ofNat bits :: ·) <$> decodeFrom (offset + 1) none bytes
      | next :: more => decodeFrom (offset + 1) (some ⟨p.byte, p.first, bits, next, more⟩) bytes

/-- The text that bytes stand for. -/
def decode (bytes : List UInt8) : Except Flaw (List Char) :=
  decodeFrom 0 none bytes

/-- The bytes of a text. -/
def encode (text : String) : List UInt8 :=
  text.toUTF8.toList

end StyleGauge.Text.Utf8
