/-!
# Where a text may be cut

The places of a text are counted in bytes. At some of them a character would be cut, and a text may
be cut at the others only. The last of those up to a limit is found by going back from the limit,
byte by byte.
-/

namespace LexMachine.Text

/-- Whether a place of a text is between two characters, or at one of its ends. -/
def isBoundary (text : String) (place : Nat) : Bool := String.Pos.Raw.isValid text ⟨place⟩

/-- The last place not after a given one that is between two characters. There is none if one would
have to go back from the start of the text. -/
def lastBoundary? (text : String) (place : Nat) : Option Nat :=
  if isBoundary text place then some place
  else match place with
    | 0 => none
    | place + 1 => lastBoundary? text place

/-- The text before a place. There is none if a character is cut there. -/
def before? (text : String) (place : Nat) : Option String :=
  if h : String.Pos.Raw.IsValid text ⟨place⟩ then some (text.sliceTo (text.pos ⟨place⟩ h)).copy
  else none

theorem isBoundary_iff {text : String} {place : Nat} :
    isBoundary text place = true ↔ String.Pos.Raw.IsValid text ⟨place⟩ :=
  String.Pos.Raw.isValid_eq_true_iff

theorem isBoundary_zero (text : String) : isBoundary text 0 = true :=
  isBoundary_iff.2 String.Pos.Raw.isValid_zero

/-- **The search ends at the start of the text**, if not before. -/
theorem exists_lastBoundary (text : String) (place : Nat) :
    ∃ stop, lastBoundary? text place = some stop ∧ isBoundary text stop = true := by
  induction place with
  | zero => exact ⟨0, if_pos (isBoundary_zero text), isBoundary_zero text⟩
  | succ place ih =>
    unfold lastBoundary?
    split
    · rename_i here
      exact ⟨place + 1, rfl, here⟩
    · exact ih

theorem isSome_before? {text : String} {place : Nat} (h : isBoundary text place = true) :
    (before? text place).isSome = true := by
  rw [before?, dif_pos (isBoundary_iff.1 h)]
  rfl

end LexMachine.Text
