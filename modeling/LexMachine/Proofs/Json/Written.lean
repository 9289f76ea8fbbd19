import LexMachine.Json.Parser
import LexMachine.Json.Printer
import Mathlib.Data.List.DropRight
import Mathlib.Data.List.TakeWhile

/-!
# What is written is read back

Reading the written form of a value gives the value again, with or without blanks around it
(`parse_written`), as long as it holds nothing but texts, truth values, lists and objects, and is
not nested too deep (`Fits`). A string is read back character by character, since each escape stands
for one (`stringRest_escapeChar`). Values are read back whatever follows them, with as many calls as
there are characters to read (`value_written`).
-/

namespace LexMachine.Json

/-! ## Strings -/

theorem hexValue?_hexDigit : ∀ n < 16, hexValue? (hexDigit n) = some n := by decide

theorem hexFour?_hexDigit {n : Nat} (h : n < 0x20) :
    hexFour? '0' '0' (hexDigit (n / 16)) (hexDigit (n % 16)) = some n := by
  have zero : hexValue? '0' = some 0 := by decide
  have first := hexValue?_hexDigit (n / 16) (by omega)
  have second := hexValue?_hexDigit (n % 16) (by omega)
  simp only [hexFour?, zero, first, second, Option.bind_eq_bind, Option.bind_some, Option.pure_def]
  congr 1
  omega

/-- A character that needs no escape is read as it is. -/
theorem stringRest_cons (read : List Nat) {c : Char} (quote : c ≠ '"') (escape : c ≠ '\\')
    (printable : ¬ c.toNat < 0x20) (rest : List Char) :
    stringRest read (c :: rest) = stringRest (c.toNat :: read) rest := by
  rw [stringRest]
  · simp [escape, printable]
  · exact quote
  · exact fun _ _ _ _ _ same => absurd same escape
  · exact fun _ _ same => absurd same escape

/-- **The written form of a character is read as the character.** -/
theorem stringRest_escapeChar (read : List Nat) (c : Char) (rest : List Char) :
    stringRest read (escapeChar c ++ rest) = stringRest (c.toNat :: read) rest := by
  unfold escapeChar
  split
  case h_8 quote escape _ _ _ _ _ =>
    split
    · rename_i control
      simp [stringRest, hexFour?_hexDigit control]
    · exact stringRest_cons read quote escape ‹_› rest
  all_goals simp [stringRest, shortEscape?]

theorem stringRest_flatMap (s : List Char) (read : List Nat) (rest : List Char) :
    stringRest read (s.flatMap escapeChar ++ '"' :: rest) =
      .ok ((s.map Char.toNat).reverse ++ read, rest) := by
  induction s generalizing read with
  | nil => simp [stringRest]
  | cons c s ih =>
    rw [List.flatMap_cons, List.append_assoc, stringRest_escapeChar, ih]
    simp

/-- No character is half a surrogate pair. -/
theorem characters?_map (s after : List Char) :
    characters? after (s.map Char.toNat) = some (s.reverse ++ after) := by
  induction s generalizing after with
  | nil => simp [characters?]
  | cons c s ih =>
    have whole : (decide (c.toNat < 0xD800) || decide (0xDFFF < c.toNat)) = true := by
      have valid : c.toNat < 0xD800 ∨ 0xDFFF < c.toNat ∧ c.toNat < 0x110000 := c.valid
      simp only [Bool.or_eq_true, decide_eq_true_eq]
      omega
    rw [List.map_cons, characters?.eq_def]
    simp only [whole, if_true, Char.ofNat_toNat, ih]
    simp

/-- **A string is read back.** -/
theorem string_quote (s : String) (rest : List Char) :
    string (s.toList.flatMap escapeChar ++ '"' :: rest) = .ok (some s, rest) := by
  unfold string
  rw [stringRest_flatMap]
  show Except.ok ((characters? [] ((s.toList.map Char.toNat).reverse ++ [])).map String.ofList,
    rest) = _
  rw [List.append_nil, ← List.map_reverse, characters?_map]
  simp

/-! ## The written form -/

/-- What stands before an item or a field. -/
def comma (first : Bool) : List Char := if first then [] else [',']

mutual

/-- The characters of the written form of a value. -/
def written : Json → List Char
  | .null => ['n', 'u', 'l', 'l']
  | .bool true => ['t', 'r', 'u', 'e']
  | .bool false => ['f', 'a', 'l', 's', 'e']
  | .num spelling => spelling.toList
  | .str s => quote s
  | .arr values => '[' :: (writtenItems values true ++ [']'])
  | .obj fields => '\x7b' :: (writtenFields fields true ++ ['\x7d'])
  | .unreadable => ['n', 'u', 'l', 'l']

/-- The characters of the items of an array. -/
def writtenItems : List Json → Bool → List Char
  | [], _ => []
  | v :: rest, first => comma first ++ written v ++ writtenItems rest false

/-- The characters of the fields of an object. -/
def writtenFields : List (String × Json) → Bool → List Char
  | [], _ => []
  | (name, v) :: rest, first =>
    comma first ++ quote name ++ ':' :: written v ++ writtenFields rest false

end

theorem toList_writeString (s out : String) :
    (writeString s out).toList = out.toList ++ quote s := by
  unfold writeString
  generalize quote s = added
  induction added generalizing out with
  | nil => simp
  | cons c added ih => simp [ih]

theorem toList_comma (first : Bool) (out : String) :
    (if first then out else out.push ',').toList = out.toList ++ comma first := by
  cases first <;> simp [comma]

mutual

theorem toList_write (v : Json) (out : String) :
    (write v out).toList = out.toList ++ written v := by
  match v with
  | .null | .bool true | .bool false | .num _ | .unreadable => simp [write, written]
  | .str s => rw [write, written, toList_writeString]
  | .arr values => simp [write, written, toList_writeItems values]
  | .obj fields => simp [write, written, toList_writeFields fields]

theorem toList_writeItems (values : List Json) (first : Bool) (out : String) :
    (writeItems values first out).toList = out.toList ++ writtenItems values first := by
  match values with
  | [] => simp [writeItems, writtenItems]
  | v :: rest =>
    rw [writeItems, toList_writeItems rest, toList_write v, toList_comma, writtenItems]
    simp

theorem toList_writeFields (fields : List (String × Json)) (first : Bool) (out : String) :
    (writeFields fields first out).toList = out.toList ++ writtenFields fields first := by
  match fields with
  | [] => simp [writeFields, writtenFields]
  | (name, v) :: rest =>
    simp only [writeFields]
    rw [toList_writeFields rest, toList_write v, String.toList_push, toList_writeString,
      toList_comma, writtenFields]
    simp

end

@[simp] theorem toList_render (v : Json) : v.render.toList = written v := by
  rw [render, toList_write]
  simp

/-! ## Values -/

/-- **What is read back**: a value without numbers, nested so deep at most, that could be read. -/
inductive Fits : (depth : Nat) → Json → Prop where
  | null (depth : Nat) : Fits depth .null
  | bool (depth : Nat) (b : Bool) : Fits depth (.bool b)
  | str (depth : Nat) (s : String) : Fits depth (.str s)
  /-- The items of an array are nested one deeper. -/
  | arr {depth : Nat} {values : List Json} (inside : ∀ v ∈ values, Fits depth v) :
      Fits (depth + 1) (.arr values)
  /-- The values of the fields of an object are nested one deeper. -/
  | obj {depth : Nat} {fields : List (String × Json)} (inside : ∀ f ∈ fields, Fits depth f.2) :
      Fits (depth + 1) (.obj fields)

variable {depth fuel : Nat} {v : Json} {values : List Json} {fields : List (String × Json)}

theorem skipBlanks_cons {c : Char} (h : isBlank c = false) (s : List Char) :
    skipBlanks (c :: s) = c :: s := by
  unfold skipBlanks
  rw [List.dropWhile_cons_of_neg (by simp [h])]

/-- The written form of a value starts with a character that is no blank and closes no array. -/
theorem Fits.head (h : Fits depth v) (rest : List Char) :
    ∃ c more, written v ++ rest = c :: more ∧ isBlank c = false ∧ c ≠ ']' := by
  cases h with
  | null | arr | obj | str => exact ⟨_, _, rfl, by decide, by decide⟩
  | bool _ b => cases b <;> exact ⟨_, _, rfl, by decide, by decide⟩

/-- A value is read back, whatever follows it. -/
def ReadBack (depth : Nat) (v : Json) : Prop :=
  ∀ fuel rest, (written v).length < fuel → value fuel depth (written v ++ rest) = .ok (v, rest)

/-- Reading a value takes one of the calls, so there is one at least. -/
theorem readBack_of_succ (h : ∀ fuel rest, (written v).length ≤ fuel →
    value (fuel + 1) depth (written v ++ rest) = .ok (v, rest)) : ReadBack depth v := by
  intro fuel rest enough
  obtain ⟨fuel, rfl⟩ : ∃ more, fuel = more + 1 := ⟨fuel - 1, by omega⟩
  exact h fuel rest (Nat.le_of_lt_succ enough)

theorem writtenItems_cons (v : Json) (values : List Json) :
    writtenItems (v :: values) true = written v ++ writtenItems values false := by
  rw [writtenItems]
  rfl

/-- Items after others are the same items with a comma before them. -/
theorem writtenItems_more (v : Json) (values : List Json) :
    writtenItems (v :: values) false = ',' :: writtenItems (v :: values) true := by
  rw [writtenItems, writtenItems]
  rfl

theorem items_written (each : ∀ v ∈ values, ReadBack depth v) (there : values ≠ [])
    (before : List Json) (rest : List Char) (enough : (writtenItems values true).length + 1 < fuel) :
    items fuel depth before (writtenItems values true ++ ']' :: rest) =
      .ok (.arr (before.reverse ++ values), rest) := by
  induction values generalizing before fuel with
  | nil => exact absurd rfl there
  | cons v values ih =>
    obtain ⟨first, each⟩ := List.forall_mem_cons.1 each
    obtain ⟨fuel, rfl⟩ : ∃ more, fuel = more + 1 := ⟨fuel - 1, by omega⟩
    rw [writtenItems_cons, List.length_append] at enough
    have read := first fuel (writtenItems values false ++ ']' :: rest) (by omega)
    rw [writtenItems_cons, List.append_assoc, items, read]
    dsimp only
    -- after an item comes the end of the array or a comma with more items
    cases values with
    | nil =>
      rw [writtenItems, List.nil_append, skipBlanks_cons (by decide)]
      simp
    | cons next values =>
      rw [writtenItems_more, List.length_cons] at enough
      rw [writtenItems_more, List.cons_append, skipBlanks_cons (by decide)]
      show items fuel depth (v :: before) (writtenItems (next :: values) true ++ ']' :: rest) = _
      rw [ih each (by simp) (v :: before) (by omega)]
      simp

theorem writtenFields_cons (name : String) (v : Json) (fields : List (String × Json)) :
    writtenFields ((name, v) :: fields) true =
      quote name ++ ':' :: (written v ++ writtenFields fields false) := by
  rw [writtenFields]
  simp [comma]

/-- Fields after others are the same fields with a comma before them. -/
theorem writtenFields_more (f : String × Json) (fields : List (String × Json)) :
    writtenFields (f :: fields) false = ',' :: writtenFields (f :: fields) true := by
  rw [writtenFields, writtenFields]
  simp [comma]

theorem fields_written (each : ∀ f ∈ fields, ReadBack depth f.2) (there : fields ≠ [])
    (before : List (String × Json)) (rest : List Char)
    (enough : (writtenFields fields true).length + 1 < fuel) :
    Json.fields fuel depth (some before) (writtenFields fields true ++ '\x7d' :: rest) =
      .ok (.obj (before.reverse ++ fields), rest) := by
  induction fields generalizing before fuel with
  | nil => exact absurd rfl there
  | cons f fields ih =>
    obtain ⟨name, v⟩ := f
    obtain ⟨first, each⟩ := List.forall_mem_cons.1 each
    obtain ⟨fuel, rfl⟩ : ∃ more, fuel = more + 1 := ⟨fuel - 1, by omega⟩
    simp only [writtenFields_cons, List.length_append, List.length_cons] at enough
    have read := first fuel (writtenFields fields false ++ '\x7d' :: rest) (by dsimp only; omega)
    have shape : writtenFields ((name, v) :: fields) true ++ '\x7d' :: rest =
        '"' :: (name.toList.flatMap escapeChar ++
          '"' :: ':' :: (written v ++ (writtenFields fields false ++ '\x7d' :: rest))) := by
      simp [writtenFields_cons, quote]
    have colon (s : List Char) : skipBlanks (':' :: s) = ':' :: s := skipBlanks_cons (by decide) s
    rw [shape, Json.fields, skipBlanks_cons (by decide)]
    simp only [string_quote, colon, read]
    cases fields with
    | nil =>
      rw [writtenFields, List.nil_append, skipBlanks_cons (by decide)]
      simp
    | cons next fields =>
      rw [writtenFields_more, List.length_cons] at enough
      rw [writtenFields_more, List.cons_append, skipBlanks_cons (by decide)]
      show Json.fields fuel depth (some ((name, v) :: before))
        (writtenFields (next :: fields) true ++ '\x7d' :: rest) = _
      rw [ih each (by simp) ((name, v) :: before) (by omega)]
      simp

theorem readBack_str (depth : Nat) (s : String) : ReadBack depth (.str s) := by
  refine readBack_of_succ fun fuel rest enough => ?_
  have shape : written (.str s) ++ rest = '"' :: (s.toList.flatMap escapeChar ++ '"' :: rest) := by
    simp [written, quote]
  rw [shape, value, skipBlanks_cons (by decide)]
  simp only [string_quote]
  rfl

theorem readBack_arr (inside : ∀ v ∈ values, Fits depth v) (each : ∀ v ∈ values, ReadBack depth v) :
    ReadBack (depth + 1) (.arr values) := by
  refine readBack_of_succ fun fuel rest enough => ?_
  have shape : written (.arr values) ++ rest =
      '[' :: (writtenItems values true ++ ']' :: rest) := by
    simp [written]
  simp only [written, List.length_cons, List.length_append, List.length_nil] at enough
  rw [shape, value, skipBlanks_cons (by decide)]
  cases values with
  | nil => simp [writtenItems, skipBlanks, isBlank]
  | cons v values =>
    -- the first item starts with a character that closes no array
    obtain ⟨c, more, start, solid, opens⟩ :=
      (inside v (by simp)).head (writtenItems values false ++ ']' :: rest)
    have enough : (writtenItems (v :: values) true).length + 1 < fuel := by omega
    have read := items_written each (by simp) [] rest enough
    rw [writtenItems_cons, List.append_assoc, start] at read ⊢
    simp only [skipBlanks_cons solid]
    simp [opens, read]

theorem readBack_obj (each : ∀ f ∈ fields, ReadBack depth f.2) :
    ReadBack (depth + 1) (.obj fields) := by
  refine readBack_of_succ fun fuel rest enough => ?_
  have shape : written (.obj fields) ++ rest =
      '\x7b' :: (writtenFields fields true ++ '\x7d' :: rest) := by
    simp [written]
  simp only [written, List.length_cons, List.length_append, List.length_nil] at enough
  rw [shape, value, skipBlanks_cons (by decide)]
  cases fields with
  | nil => simp [writtenFields, skipBlanks, isBlank]
  | cons f fields =>
    have enough : (writtenFields (f :: fields) true).length + 1 < fuel := by omega
    have read := fields_written each (by simp) [] rest enough
    obtain ⟨more, start⟩ : ∃ more, writtenFields (f :: fields) true ++ '\x7d' :: rest =
        '"' :: more := ⟨_, by rw [writtenFields_cons]; rfl⟩
    rw [start] at read ⊢
    simp only [skipBlanks_cons (show isBlank '"' = false by decide)]
    simp [read]

/-- **The written form of a value is read as the value.** -/
theorem value_written (h : Fits depth v) : ReadBack depth v := by
  induction h with
  | null =>
    refine readBack_of_succ fun fuel rest enough => ?_
    simp [written, value, skipBlanks, isBlank]
  | bool _ b =>
    refine readBack_of_succ fun fuel rest enough => ?_
    cases b <;> simp [written, value, skipBlanks, isBlank]
  | str depth s => exact readBack_str depth s
  | arr inside ih => exact readBack_arr inside ih
  | obj _ ih => exact readBack_obj ih

/-- Blanks before a value do not count. -/
theorem value_skipBlanks (fuel depth : Nat) (s : List Char) :
    value (fuel + 1) depth (skipBlanks s) = value (fuel + 1) depth s := by
  have again : skipBlanks (skipBlanks s) = skipBlanks s := by
    unfold skipBlanks
    exact List.dropWhile_idempotent isBlank s
  rw [value, value, again]

/-- **What is written is read back** if it is not nested too deep and holds no numbers, and so it is
with blanks around it. -/
theorem parse_written (h : Fits maxDepth v) (before after : List Char)
    (blank : ∀ c ∈ before ++ after, isBlank c = true) {text : String}
    (spelled : text.toList = before ++ (written v ++ after)) : parse text = .ok v := by
  have skipped : skipBlanks text.toList = written v ++ after := by
    obtain ⟨c, more, start, solid, -⟩ := h.head after
    unfold skipBlanks
    rw [spelled, List.dropWhile_append_of_pos fun c hc => blank c (List.mem_append_left _ hc),
      start, List.dropWhile_cons_of_neg (by simp [solid])]
  have enough : (written v).length < text.toList.length + 1 := by
    simp only [spelled, List.length_append]
    omega
  have read := value_written h _ after enough
  rw [← skipped, value_skipBlanks] at read
  have nothing : skipBlanks after = [] := by
    unfold skipBlanks
    rw [List.dropWhile_eq_nil_iff]
    exact fun c hc => blank c (List.mem_append_right _ hc)
  unfold parse
  dsimp only
  rw [read]
  show (if (skipBlanks after).isEmpty then pure v else throw ParseError.trailing) = Except.ok v
  rw [nothing]
  rfl

theorem parse_render (h : Fits maxDepth v) : parse v.render = .ok v :=
  parse_written h [] [] (by simp) (by simp)

end LexMachine.Json
