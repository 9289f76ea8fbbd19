/-!
# Outlets

An outlet takes text as UTF-8. It may have room for so many bytes only: a text that does not fit is
taken as far as it fits, and fails.
-/

namespace LexMachine.Render

/-- Where output goes. -/
structure Outlet where
  /-- The bytes taken. -/
  written : ByteArray := .empty
  /-- The number of bytes that there is room for, unless there is room for all. -/
  room : Option Nat := none
  /-- The text of the failure to take more. -/
  full : String := "pipe full"
  /-- The text of the failure at the end, if there is one. -/
  flushFailure : Option String := none

namespace Outlet

/-- The outlet after a text, and the failure to take all of it. -/
def write (o : Outlet) (text : String) : Outlet × Option String :=
  let bytes := text.toUTF8
  match o with
  | ⟨written, none, full, flushFailure⟩ => (⟨written ++ bytes, none, full, flushFailure⟩, none)
  | ⟨written, some room, full, flushFailure⟩ =>
    if bytes.size ≤ room then
      (⟨written ++ bytes, some (room - bytes.size), full, flushFailure⟩, none)
    else (⟨written ++ bytes.extract 0 room, some 0, full, flushFailure⟩, some full)

end Outlet

end LexMachine.Render
