/-!
# Decoding UTF-8

Bytes are decoded one by one. A byte that cannot continue the character under way ends it, and what
has been read of it is replaced by one U+FFFD; so a malformed stretch gives one replacement for each
longest part that some character could start with. Since the decoder looks at no byte twice, what it
makes of two pieces one after the other is what it makes of them together.
-/

namespace LexMachine.Utf8

/-- The character that stands for what cannot be decoded. -/
def replacement : Char := '\ufffd'

/-- A character of which some bytes have been read. -/
structure Partial where
  /-- The bits read so far. -/
  value : Nat
  /-- The number of bytes still to come, at least one. -/
  left : Nat
  /-- The least value of the next byte. -/
  low : Nat
  /-- The greatest value of the next byte. -/
  high : Nat
deriving Repr, DecidableEq

/-- What a byte does that starts a character. -/
inductive Lead where
  /-- It is a character by itself. -/
  | whole (c : Char)
  /-- It starts a longer character. -/
  | part (p : Partial)
  /-- It starts none. -/
  | malformed
deriving Repr, DecidableEq

/-- A byte as the start of a character. The second byte has narrower bounds where the character
would otherwise be a surrogate, too great, or too long for its value. -/
def lead (b : Nat) : Lead :=
  if b < 0x80 then .whole (Char.ofNat b)
  else if b < 0xC2 then .malformed
  else if b < 0xE0 then .part ⟨b - 0xC0, 1, 0x80, 0xBF⟩
  else if b == 0xE0 then .part ⟨0, 2, 0xA0, 0xBF⟩
  else if b == 0xED then .part ⟨0xD, 2, 0x80, 0x9F⟩
  else if b < 0xF0 then .part ⟨b - 0xE0, 2, 0x80, 0xBF⟩
  else if b == 0xF0 then .part ⟨0, 3, 0x90, 0xBF⟩
  else if b < 0xF4 then .part ⟨b - 0xF0, 3, 0x80, 0xBF⟩
  else if b == 0xF4 then .part ⟨4, 3, 0x80, 0x8F⟩
  else .malformed

/-- A decoder at work. -/
structure Decoder where
  /-- The characters decoded, the last first. -/
  decoded : List Char := []
  /-- The character under way. -/
  pending : Option Partial := none
  /-- The number of bytes read, without those of the character under way. -/
  settled : Nat := 0
  /-- The number of bytes read of the character under way. -/
  held : Nat := 0
  /-- Where the first replaced stretch starts. -/
  malformedAt : Option Nat := none
deriving Repr, DecidableEq

namespace Decoder

/-- The decoder after one replacement of so many bytes. -/
def replace (d : Decoder) (bytes : Nat) : Decoder :=
  { decoded := replacement :: d.decoded
    settled := d.settled + bytes
    malformedAt := d.malformedAt <|> some d.settled }

/-- The decoder after a byte that starts a character. -/
def start (d : Decoder) (b : Nat) : Decoder :=
  match lead b with
  | .whole c =>
    { d with decoded := c :: d.decoded, pending := none, settled := d.settled + 1, held := 0 }
  | .part p => { d with pending := some p, held := 1 }
  | .malformed => d.replace 1

/-- The decoder after one byte. -/
def feed (d : Decoder) (byte : UInt8) : Decoder :=
  let b := byte.toNat
  match d.pending with
  | none => d.start b
  | some p =>
    if p.low ≤ b && b ≤ p.high then
      let value := p.value * 64 + b % 64
      if p.left ≤ 1 then
        { d with
          decoded := Char.ofNat value :: d.decoded
          pending := none
          settled := d.settled + d.held + 1
          held := 0 }
      else { d with pending := some ⟨value, p.left - 1, 0x80, 0xBF⟩, held := d.held + 1 }
    else (d.replace d.held).start b

/-- The decoder at the end of the bytes: a character that is still under way is replaced. -/
def finish (d : Decoder) : Decoder :=
  if d.pending.isSome then d.replace d.held else d

end Decoder

/-- The decoder after all bytes. -/
def run (bytes : List UInt8) : Decoder := (bytes.foldl Decoder.feed {}).finish

/-- The text of bytes, with what is malformed replaced. -/
def decode (bytes : List UInt8) : List Char := (run bytes).decoded.reverse

/-- Where the first malformed stretch of bytes starts, if they are no text. -/
def malformedAt? (bytes : List UInt8) : Option Nat := (run bytes).malformedAt

/-- The number of bytes of a text. -/
def size (text : List Char) : Nat := text.foldr (fun c bytes => c.utf8Size + bytes) 0

/-- The bytes of a text. -/
def encode (text : String) : List UInt8 := text.toUTF8.toList

end LexMachine.Utf8
