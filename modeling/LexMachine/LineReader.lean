import LexMachine.LexError
import LexMachine.Log.Event
import LexMachine.Text.Utf8

/-!
# Reading lines

Input is read a line at a time, or in pieces of bounded size where a line is longer. Bytes at the
end of a piece that may be the start of a character are kept back for the next piece.
-/

namespace LexMachine

/-- Input: its bytes, and the failure that follows them in place of their end, if one does. -/
structure Source where
  /-- The bytes. -/
  bytes : List UInt8
  /-- The text of the failure. -/
  failure : Option String := none

/-- A line or a piece of one. -/
structure Chunk where
  /-- The text, with what is malformed replaced. -/
  text : List Char
  /-- Whether the line or the input ends here. -/
  eol : Bool
  /-- Where the first malformed stretch of the chunk starts, in bytes. -/
  malformedAt : Option Nat
deriving Repr, DecidableEq

/-- The event that reports malformed input. -/
def Chunk.event? (c : Chunk) : Option Log.Event :=
  c.malformedAt.map fun offset =>
    .warning Log.Code.invalidEncoding "Replaced invalid UTF-8 in input"
      [("offset", toString offset)]

/-- A reader at some place of its input. -/
structure LineReader where
  /-- The bytes not yet read. -/
  unread : List UInt8
  /-- The failure after the last byte. -/
  failure : Option String
  /-- The greatest number of bytes of a chunk. -/
  limit : Nat
  /-- The bytes kept back from the chunk before. -/
  carry : List UInt8 := []
  /-- Whether the end of the input has been seen. -/
  exhausted : Bool := false

namespace LineReader

/-- The byte that ends a line. -/
def newline : UInt8 := 10

/-- A reader at the start of its input. A chunk has room for any one character at least. -/
def ofSource (source : Source) (limit : Nat) : LineReader :=
  { unread := source.bytes, failure := source.failure, limit := max limit 4 }

/-- What has been taken from the input up to the end of a line, the end of the input or a number of
bytes. -/
structure Taken where
  /-- The bytes taken, after those given. -/
  bytes : List UInt8
  /-- The bytes left. -/
  rest : List UInt8
  /-- Whether the last byte ends a line. -/
  ended : Bool
  /-- Whether the input ran out before the line or the number did. -/
  short : Bool

/-- Takes bytes; the first argument holds those taken before, the last first. -/
def takeLine (before : List UInt8) : Nat → List UInt8 → Taken
  | 0, rest => ⟨before.reverse, rest, false, false⟩
  | _ + 1, [] => ⟨before.reverse, [], false, true⟩
  | room + 1, b :: rest =>
    if b == newline then ⟨(b :: before).reverse, rest, true, false⟩
    else takeLine (b :: before) room rest

/-- The number of bytes that a lead byte announces; none for a byte that is no lead. -/
def announced? (b : UInt8) : Option Nat :=
  if 0xC0 ≤ b && b ≤ 0xDF then some 2
  else if 0xE0 ≤ b && b ≤ 0xEF then some 3
  else if 0xF0 ≤ b && b ≤ 0xF7 then some 4
  else none

/-- The number of bytes at the end of a piece that start a character without ending it, given the
bytes from the last one back and how many have been passed over. At most three are looked at. -/
def incompleteTail : (passed : Nat) → List UInt8 → Nat
  | _, [] => 0
  | passed, b :: before =>
    if 3 ≤ passed then 0
    else if 0x80 ≤ b && b ≤ 0xBF then incompleteTail (passed + 1) before
    else match announced? b with
      | some width => if passed + 1 < width then passed + 1 else 0
      | none => 0

/-- The next chunk, and the reader after it. At the end of the input the chunks are empty. -/
def next (r : LineReader) : Except String Chunk × LineReader :=
  if r.exhausted then (.ok ⟨[], true, none⟩, r)
  else
    let taken := takeLine r.carry.reverse (max (r.limit - r.carry.length) 1) r.unread
    match taken.short, r.failure with
    | true, some failure => (.error failure, { r with unread := [], carry := [] })
    | short, _ =>
      let tail := if short then 0 else incompleteTail 0 taken.bytes.reverse
      let whole := taken.bytes.length - tail
      let bytes := taken.bytes.take whole
      (.ok ⟨Utf8.decode bytes, taken.ended || short, Utf8.malformedAt? bytes⟩,
       { r with unread := taken.rest, carry := taken.bytes.drop whole, exhausted := short })

/-! ## All chunks -/

/-- A bound on the number of chunks to come. -/
def remaining (r : LineReader) : Nat := if r.exhausted then 0 else r.unread.length + 1

theorem length_rest_takeLine (before : List UInt8) (room : Nat) (unread : List UInt8)
    (h : (takeLine before room unread).short = false) (hroom : 0 < room) :
    (takeLine before room unread).rest.length < unread.length := by
  induction unread generalizing before room with
  | nil => cases room <;> simp_all [takeLine]
  | cons b rest ih =>
    obtain _ | room := room
    · omega
    · simp only [takeLine] at h ⊢
      split
      · simp
      · rename_i hb
        rw [if_neg hb] at h
        obtain _ | room := room
        · simp [takeLine]
        · have := ih (b :: before) (room + 1) h (by omega)
          simp only [List.length_cons]
          omega

theorem remaining_next {r after : LineReader} {c : Chunk} (hr : r.exhausted = false)
    (h : r.next = (.ok c, after)) : after.remaining < r.remaining := by
  have shorter := length_rest_takeLine r.carry.reverse (max (r.limit - r.carry.length) 1) r.unread
  unfold next at h
  simp only [hr, Bool.false_eq_true, if_false] at h
  generalize takeLine r.carry.reverse (max (r.limit - r.carry.length) 1) r.unread = taken
    at h shorter
  obtain ⟨bytes, rest, ended, short⟩ := taken
  cases short with
  | true =>
    cases hf : r.failure with
    | some failure => simp [hf] at h
    | none =>
      simp only [hf, Prod.mk.injEq] at h
      simp [remaining, hr, ← h.2]
  | false =>
    simp only [Prod.mk.injEq] at h
    have := shorter rfl (Nat.lt_of_lt_of_le Nat.one_pos (Nat.le_max_right _ _))
    simp only at this
    simp only [remaining, hr, ← h.2, Bool.false_eq_true, if_false]
    omega

/-- All chunks of an input. -/
structure Chunks where
  /-- The chunks, in order. -/
  chunks : List Chunk
  /-- The failure that follows them, if the input does not end. -/
  failure : Option String

/-- The chunks from some place on; `before` are those before it, the last first. -/
def chunksAfter (before : List Chunk) (r : LineReader) : Chunks :=
  match _hr : r.exhausted, _hn : r.next with
  | true, _ => ⟨before.reverse, none⟩
  | false, (.error failure, _) => ⟨before.reverse, some failure⟩
  | false, (.ok chunk, after) => chunksAfter (chunk :: before) after
termination_by r.remaining
decreasing_by exact remaining_next _hr _hn

/-- The chunks that a reader gives, up to and including the one with which it sees the end of the
input. -/
def chunks (r : LineReader) : Chunks := chunksAfter [] r

end LineReader

end LexMachine
