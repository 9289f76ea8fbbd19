import LexMachine.Proofs.Filters.Chains
import LexMachine.Proofs.Matching
import LexMachine.Render.Renderer

/-!
# What is written

An outlet with room for all takes every token that is shown in it, and holds what its renderer makes
of the tokens, one after the other (`offer_sink`). That is the text of the tokens where they are
shown plain (`Renderer.Plain.offer_sink`).
-/

namespace LexMachine.Render

namespace Outlet

/-- The outlet with one more text in it. -/
def holding (o : Outlet) (text : String) : Outlet := { o with written := o.written ++ text.toUTF8 }

@[simp] theorem written_holding (o : Outlet) (text : String) :
    (o.holding text).written = o.written ++ text.toUTF8 := rfl

theorem holding_empty (o : Outlet) : o.holding "" = o := by
  have nothing : o.written ++ "".toUTF8 = o.written := ByteArray.append_empty
  rw [holding, nothing]

theorem holding_append (o : Outlet) (a b : String) :
    o.holding (a ++ b) = (o.holding a).holding b := by
  have together : o.written ++ (a ++ b).toUTF8 = o.written ++ a.toUTF8 ++ b.toUTF8 := by
    rw [ByteArray.append_assoc]
    exact congrArg (o.written ++ ·) String.toByteArray_append
  rw [holding, together]
  rfl

/-- An outlet with room for all takes every text. -/
theorem write_of_room {o : Outlet} (room : o.room = none) (text : String) :
    o.write text = (o.holding text, none) := by
  obtain ⟨written, limit, full, flushFailure⟩ := o
  obtain rfl : limit = none := room
  rfl

end Outlet

namespace Renderer

/-- **An outlet with room for all** takes all tokens that are shown in it. -/
theorem offer_sink (r : Renderer) (start : Outlet) {o : Outlet} (room : o.room = none)
    (tokens : List Token) :
    (r.sink start).offer o tokens = (o.holding (String.join (tokens.map r.render)), none) := by
  induction tokens generalizing o with
  | nil =>
    exact congrArg (·, none) o.holding_empty.symm
  | cons t tokens ih =>
    have accepted : (r.sink start).accept o t = (o.holding (r.render t), none) := by
      change ((o.write (r.render t)).1, (o.write (r.render t)).2.map LexError.downstream) = _
      rw [o.write_of_room room]
      rfl
    rw [List.map_cons, String.join_cons, Outlet.holding_append]
    exact (Sink.offer_cons_of_accepted _ accepted tokens).trans (ih room)

/-- A renderer that shows the texts of tokens and nothing else. -/
def Plain (r : Renderer) : Prop := ∀ t, r.render t = t.value

theorem plain_text : text.Plain := fun _ => rfl

theorem plain_terminal (sheet : StyleSheet) : (terminal sheet false).Plain := by
  intro t
  simp [render]

/-- Tokens that are shown plain leave their text in the outlet. -/
theorem Plain.offer_sink {r : Renderer} (h : r.Plain) (start : Outlet) {o : Outlet}
    (room : o.room = none) (tokens : List Token) :
    (r.sink start).offer o tokens = (o.holding (String.ofList (Token.textOf tokens)), none) := by
  rw [Renderer.offer_sink r start room, ← Token.join_values, List.map_congr_left fun t _ => h t]

end Renderer

end LexMachine.Render
