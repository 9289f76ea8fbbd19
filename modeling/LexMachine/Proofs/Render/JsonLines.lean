import LexMachine.Proofs.Json.Written
import LexMachine.Proofs.Render.Outlets

/-!
# Tokens on lines

The JSON renderer shows each token but the last of a stream as an object on a line of its own. No
written form holds a line feed, whatever the texts in it hold (`Json.Fits.newline_not_mem`), so the
lines are found again where the output is cut at line feeds, and each is read back as its token
(`Renderer.json_lines`).
-/

namespace LexMachine

namespace Json

theorem hexDigit_ne_newline : ∀ n < 16, hexDigit n ≠ '\n' := by decide

/-- No escape holds a line feed, and a line feed is escaped. -/
theorem newline_not_mem_escapeChar (c : Char) : '\n' ∉ escapeChar c := by
  unfold escapeChar
  split
  case h_8 _ _ newline _ _ _ _ =>
    split
    · rename_i control
      have first := (hexDigit_ne_newline (c.toNat / 16) (by omega)).symm
      have second := (hexDigit_ne_newline (c.toNat % 16) (by omega)).symm
      simp [first, second]
    · simpa using Ne.symm newline
  all_goals decide

theorem newline_not_mem_quote (s : String) : '\n' ∉ quote s := by
  simp [quote, newline_not_mem_escapeChar]

theorem newline_not_mem_comma (first : Bool) : '\n' ∉ comma first := by
  cases first <;> decide

theorem newline_not_mem_items {values : List Json} (each : ∀ v ∈ values, '\n' ∉ written v)
    (first : Bool) : '\n' ∉ writtenItems values first := by
  induction values generalizing first with
  | nil => simp [writtenItems]
  | cons v values ih =>
    obtain ⟨here, each⟩ := List.forall_mem_cons.1 each
    simp [writtenItems, newline_not_mem_comma, here, ih each]

theorem newline_not_mem_fields {fields : List (String × Json)}
    (each : ∀ f ∈ fields, '\n' ∉ written f.2) (first : Bool) :
    '\n' ∉ writtenFields fields first := by
  induction fields generalizing first with
  | nil => simp [writtenFields]
  | cons f fields ih =>
    obtain ⟨here, each⟩ := List.forall_mem_cons.1 each
    simp [writtenFields, newline_not_mem_comma, newline_not_mem_quote, here, ih each]

/-- **A value is written on one line.** -/
theorem Fits.newline_not_mem {depth : Nat} {v : Json} (h : Fits depth v) : '\n' ∉ written v := by
  induction h with
  | null => decide
  | bool _ b => cases b <;> decide
  | str _ s => exact newline_not_mem_quote s
  | arr _ ih => simp [written, newline_not_mem_items ih]
  | obj _ ih => simp [written, newline_not_mem_fields ih]

end Json

namespace Token

theorem fits_toJson (depth : Nat) (t : Token) : Json.Fits (depth + 1) t.toJson := by
  refine .obj fun f member => ?_
  simp only [List.mem_cons, List.not_mem_nil, or_false] at member
  rcases member with rfl | rfl | rfl <;> exact .str _ _

theorem ofJson?_toJson (t : Token) : ofJson? t.toJson = some t := rfl

/-- **A token is read back.** -/
theorem ofText?_render (t : Token) : ofText? t.toJson.render = some t := by
  rw [ofText?, Json.parse_render (t.fits_toJson _)]
  exact t.ofJson?_toJson

end Token

namespace Render.Renderer

/-- The lines that tokens are shown on. -/
def lines (tokens : List Token) : List (List Char) :=
  (tokens.filter (!·.isStop)).map fun t => t.toJson.render.toList

/-- Text cut at line feeds is cut into the lines that tokens are shown on, and nothing more. -/
theorem splitOn_json (tokens : List Token) :
    (String.join (tokens.map json.render)).toList.splitOn '\n' = lines tokens ++ [[]] := by
  induction tokens with
  | nil => rfl
  | cons t tokens ih =>
    rw [List.map_cons, String.join_cons, String.toList_append]
    cases stop : t.isStop with
    | true => simpa [render, lines, stop] using ih
    | false =>
      have oneLine : '\n' ∉ t.toJson.render.toList := by
        rw [Json.toList_render]
        exact (t.fits_toJson 0).newline_not_mem
      have shown : (json.render t).toList ++ (String.join (tokens.map json.render)).toList =
          t.toJson.render.toList ++ '\n' :: (String.join (tokens.map json.render)).toList := by
        simp [render, stop]
      rw [shown, List.splitOn_append_cons_self_of_not_mem oneLine, ih]
      simp [lines, stop]

/-- **Tokens that are written as JSON are read back from the lines of the output.** An outlet with
room for all takes every list of tokens, whatever their texts, types and states are. Cut at line
feeds, what has been written has one line for each token that does not end a stream, and nothing
behind the last line feed. Reading the lines gives these tokens in their order. -/
theorem json_lines (start : Outlet) {o : Outlet} (room : o.room = none) (tokens : List Token) :
    ∃ text, (json.sink start).offer o tokens = (o.holding text, none) ∧
      ∃ lines, text.toList.splitOn '\n' = lines ++ [[]] ∧
        lines.length = tokens.countP (!·.isStop) ∧
        lines.map (fun line => Token.ofText? (String.ofList line)) =
          (tokens.filter (!·.isStop)).map some := by
  refine ⟨_, json.offer_sink start room tokens, lines tokens, splitOn_json tokens, ?_, ?_⟩
  · rw [lines, List.length_map, List.countP_eq_length_filter]
  · rw [lines, List.map_map]
    refine List.map_congr_left fun t _ => ?_
    rw [Function.comp_apply, String.ofList_toList, t.ofText?_render]

/-- A text that ends a line, a token that only looks like the last of a stream, a state with a
control character in its name, and the token that ends the stream. -/
theorem json_lines_control :
    let tokens : List Token :=
      [⟨"\"a\\\n", .string, "root"⟩, ⟨"", .none, "root"⟩, ⟨"", .text, "\x01"⟩, .stop]
    ∃ text, (json.sink {}).offer {} tokens = (({} : Outlet).holding text, none) ∧
      ∃ lines, text.toList.splitOn '\n' = lines ++ [[]] ∧
        lines.length = 3 ∧
        lines.map (fun line => Token.ofText? (String.ofList line)) =
          (tokens.take 3).map some :=
  json_lines {} rfl _

end Render.Renderer

end LexMachine
