import LexMachine.Proofs.Builtin.JsonStrings
import LexMachine.Proofs.Builtin.Patterns
import LexMachine.Proofs.Run.Emptying
import LexMachine.Proofs.Run.Filtering

/-!
# Which JSON texts are recognised

A text is lexed as it is built: a value in each of the states in which it may stand
(`lexes_value`), with a state for each array and object that is open. That is so as long as no
string does harm to the one before it. Where one does, quotes get crossed (`crosses_value`), and
they stay crossed up to the end of the line, so that some quote or backslash is found outside of
strings (`goesWrong_of_crossed`).
-/

namespace LexMachine.Builtin

open JsonText (Letter Quote quoted spelled)
open Regex (Node)
open Unicode (whiteSpace)

/-! ## Texts to come -/

mutual

/-- What is awaited at a value are its strings and those behind it. -/
theorem awaits_value {after : List Char} {more : List Quote} (h : Awaits after more) :
    (v : JsonText) → Awaits (v.written ++ after) (v.quotes ++ more)
  | .null | .bool true | .bool false => by
    rw [JsonText.written, JsonText.quotes]
    exact h.append (by simp [Calm])
  | .number n => by
    rw [JsonText.written, JsonText.quotes]
    refine h.append fun c hc => ?_
    have chars := n.mem_written hc
    constructor <;> rintro rfl <;> revert chars <;> simp
  | .string letters => by
    rw [JsonText.written, JsonText.quotes, quoted]
    simpa using Awaits.start ⟨false, letters⟩ h.crossed
  | .array items => by
    have closed : Awaits (']' :: after) more := h.cons (by decide)
    rw [JsonText.written, JsonText.quotes, List.cons_append, List.append_assoc]
    exact (awaits_items closed items).cons (by decide)
  | .object members => by
    have closed : Awaits ('\x7d' :: after) more := h.cons (by decide)
    rw [JsonText.written, JsonText.quotes, List.cons_append, List.append_assoc]
    exact (awaits_members closed members).cons (by decide)

theorem awaits_items {after : List Char} {more : List Quote} (h : Awaits after more) :
    (items : List JsonText) →
      Awaits (JsonText.writtenItems items ++ after) (JsonText.quotesItems items ++ more)
  | [] => h
  | [v] => by
    simpa [JsonText.writtenItems, JsonText.quotesItems] using awaits_value h v
  | v :: w :: items => by
    have later : Awaits (',' :: (JsonText.writtenItems (w :: items) ++ after)) _ :=
      (awaits_items h (w :: items)).cons (by decide)
    rw [JsonText.writtenItems, JsonText.quotesItems, List.append_assoc, List.append_assoc]
    exact awaits_value later v

theorem awaits_members {after : List Char} {more : List Quote} (h : Awaits after more) :
    (members : List (List Letter × JsonText)) →
      Awaits (JsonText.writtenMembers members ++ after) (JsonText.quotesMembers members ++ more)
  | [] => h
  | [(name, v)] => by
    have value : Awaits (':' :: (v.written ++ after)) _ := (awaits_value h v).cons (by decide)
    simpa [JsonText.writtenMembers, JsonText.quotesMembers, quoted] using
      Awaits.start ⟨true, name⟩ value.crossed
  | (name, v) :: m :: members => by
    have later : Awaits (',' :: (JsonText.writtenMembers (m :: members) ++ after)) _ :=
      (awaits_members h (m :: members)).cons (by decide)
    have value : Awaits (':' :: (v.written ++ _)) _ := (awaits_value later v).cons (by decide)
    simpa [JsonText.writtenMembers, JsonText.quotesMembers, quoted] using
      Awaits.start ⟨true, name⟩ value.crossed

end

/-! ## Constants and punctuation -/

section Punctuation

variable {active : String} {below : List String} {after : List Char} {more : List Quote}

theorem lexes_constant {word : List Char} (state : active ∈ valueStates)
    (known : word ∈ [['t', 'r', 'u', 'e'], ['f', 'a', 'l', 's', 'e'], ['n', 'u', 'l', 'l']])
    (room : below.length + 1 ≤ Limits.stackDepth) :
    json.Lexes (active :: below) (word ++ after) (active :: below) after := by
  have starts : ∃ c, skips 1 c = true ∧ word.head? = some c := by
    simp only [List.mem_cons, List.not_mem_nil, or_false] at known
    rcases known with rfl | rfl | rfl <;> exact ⟨_, by decide +kernel, rfl⟩
  obtain ⟨c, behind, starts⟩ := starts
  exact lexes_start 1 state behind starts (first_constant known) room rfl (by simp)

/-- The bracket that opens an array. -/
theorem lexes_bracket (state : active ∈ valueStates) (text : List Char)
    (room : below.length + 2 ≤ Limits.stackDepth) :
    json.Lexes (active :: below) ('[' :: text) ("arrayValue" :: active :: below) text := by
  have there : Deed.First (valueDeeds.drop 7) [.push "arrayValue"] ['['] text :=
    .here rfl (by simp) (Regex.comes_one (Regex.comes_some text))
  exact lexes_start 7 (c := '[') state (by decide +kernel) rfl there room rfl (by simp)

/-- The comma behind an item. -/
theorem lexes_comma (text : List Char) (room : below.length + 1 ≤ Limits.stackDepth) :
    json.Lexes ("arrayValue" :: below) (',' :: text) ("arrayValue" :: below) text :=
  lexes_one 10 deeds_arrayValue (by decide +kernel) rfl room rfl (by simp)

/-- The bracket that closes an array. -/
theorem lexes_closing (text : List Char) (room : below.length + 3 ≤ Limits.stackDepth) :
    json.Lexes ("arrayValue" :: active :: below) (']' :: text) (active :: below) text :=
  lexes_one 11 deeds_arrayValue (by decide +kernel) rfl (by simp; omega) rfl (by simp)

/-- The brace that opens an object. -/
theorem lexes_brace (state : active ∈ valueStates) (text : List Char)
    (room : below.length + 2 ≤ Limits.stackDepth) :
    json.Lexes (active :: below) ('\x7b' :: text) ("objectKey" :: active :: below) text := by
  have there : Deed.First (valueDeeds.drop 8) [.push "objectKey"] ['\x7b'] text :=
    .here rfl (by simp) (Regex.comes_one (Regex.comes_some text))
  exact lexes_start 8 (c := '\x7b') state (by decide +kernel) rfl there room rfl (by simp)

/-- The brace that closes an object without members. -/
theorem lexes_emptyClosing (text : List Char) (room : below.length + 3 ≤ Limits.stackDepth) :
    json.Lexes ("objectKey" :: active :: below) ('\x7d' :: text) (active :: below) text :=
  lexes_one 2 deeds_objectKey (by decide +kernel) rfl (by simp; omega) rfl (by simp)

/-- A name and its colon. -/
theorem lexes_name {name : List Letter} (awaits : Awaits after more)
    (apart : (⟨true, name⟩ :: more).IsChain Quote.Apart)
    (room : below.length + 2 ≤ Limits.stackDepth) :
    json.Lexes ("objectKey" :: below) (quoted name ++ ':' :: after)
      ("objectValue" :: "objectKey" :: below) after := by
  have there : Deed.First nameDeeds [.push "objectValue"] (quoted name ++ [':']) after :=
    (first_name awaits apart).of_drop (c := '"') (by decide +kernel) rfl
  obtain ⟨r, moves, first⟩ := Deed.First.exists_rule (deeds_objectKey ▸ there)
  have step : json.Lexes ("objectKey" :: below) (quoted name ++ [':'] ++ after)
      ("objectValue" :: "objectKey" :: below) after :=
    .step first moves room rfl (by simp)
  rwa [List.append_assoc] at step

/-- The comma behind a member. -/
theorem lexes_memberComma (text : List Char) (room : below.length + 4 ≤ Limits.stackDepth) :
    json.Lexes ("objectValue" :: "objectKey" :: below) (',' :: text) ("objectKey" :: below) text :=
  lexes_one 10 deeds_objectValue (by decide +kernel) rfl (by simp; omega) rfl (by simp)

/-- The brace that closes an object behind a member. -/
theorem lexes_memberClosing (text : List Char) (room : below.length + 5 ≤ Limits.stackDepth) :
    json.Lexes ("objectValue" :: "objectKey" :: active :: below) ('\x7d' :: text) (active :: below)
      text :=
  lexes_one 11 deeds_objectValue (by decide +kernel) rfl (by simp; omega) rfl (by simp)

end Punctuation

/-! ## Values -/

mutual

/-- **A value is lexed** in each of its states, up to what follows it. -/
theorem lexes_value {active : String} (below : List String) {after : List Char} {more : List Quote}
    (state : active ∈ valueStates) (ended : Ended after) (awaits : Awaits after more) :
    (v : JsonText) → below.length + 2 * v.depth + 3 ≤ Limits.stackDepth →
      (v.quotes ++ more).IsChain Quote.Apart →
      json.Lexes (active :: below) (v.written ++ after) (active :: below) after
  | .null, room, _ | .bool true, room, _ | .bool false, room, _ => by
    rw [JsonText.written]
    exact lexes_constant state (by simp) (by omega)
  | .number n, room, _ => by
    obtain ⟨c, starts, known⟩ := head?_number n
    rw [JsonText.written]
    exact lexes_start 2 state (List.all_eq_true.1 skips_number c known) starts
      (first_number n ended) (by simp; omega) rfl (by simp)
  | .string letters, room, apart => by
    rw [JsonText.written]
    exact lexes_start 5 (c := '"') state (by decide +kernel) rfl (first_string awaits apart)
      (by simp; omega) rfl (by simp)
  | .array items, room, apart => by
    rw [JsonText.depth] at room
    have closed : Awaits (']' :: after) more := awaits.cons (by decide)
    have inside := lexes_items (active :: below) (by simp [Ended]) closed items (by simp; omega)
      apart
    rw [JsonText.written, List.cons_append, List.append_assoc]
    exact (lexes_bracket state _ (by omega)).trans (inside.trans (lexes_closing after (by omega)))
  | .object [], room, _ =>
    (lexes_brace state _ (by omega)).trans (lexes_emptyClosing after (by omega))
  | .object (m :: members), room, apart => by
    rw [JsonText.depth] at room
    rw [JsonText.written, List.cons_append, List.append_assoc]
    exact (lexes_brace state _ (by omega)).trans
      (lexes_members active below awaits (m :: members) (by simp) (by omega) apart)

/-- **The items of an array are lexed**, with what separates them. -/
theorem lexes_items (below : List String) {after : List Char} {more : List Quote}
    (ended : Ended after) (awaits : Awaits after more) :
    (items : List JsonText) → below.length + 2 * JsonText.depthItems items + 3 ≤ Limits.stackDepth →
      (JsonText.quotesItems items ++ more).IsChain Quote.Apart →
      json.Lexes ("arrayValue" :: below) (JsonText.writtenItems items ++ after)
        ("arrayValue" :: below) after
  | [], _, _ => .here _ _
  | [v], room, apart => by
    rw [JsonText.depthItems] at room
    rw [JsonText.writtenItems]
    exact lexes_value below arrayValue_mem ended awaits v (by omega)
      (by simpa [JsonText.quotesItems] using apart)
  | v :: w :: items, room, apart => by
    rw [JsonText.depthItems] at room
    rw [JsonText.quotesItems, List.append_assoc] at apart
    have later : Awaits (',' :: (JsonText.writtenItems (w :: items) ++ after)) _ :=
      (awaits_items awaits (w :: items)).cons (by decide)
    have value := lexes_value below arrayValue_mem (by simp [Ended]) later v (by omega) apart
    have rest := lexes_items below ended awaits (w :: items) (by omega) apart.right_of_append
    rw [JsonText.writtenItems, List.append_assoc]
    exact value.trans ((lexes_comma _ (by omega)).trans rest)

/-- **The members of an object are lexed**, with what separates them and the brace behind them. -/
theorem lexes_members (active : String) (below : List String) {after : List Char}
    {more : List Quote} (awaits : Awaits after more) :
    (members : List (List Letter × JsonText)) → members ≠ [] →
      below.length + 2 * JsonText.depthMembers members + 5 ≤ Limits.stackDepth →
      (JsonText.quotesMembers members ++ more).IsChain Quote.Apart →
      json.Lexes ("objectKey" :: active :: below)
        (JsonText.writtenMembers members ++ '\x7d' :: after) (active :: below) after
  | [], nonempty, _, _ => absurd rfl nonempty
  | [(name, v)], _, room, apart => by
    rw [JsonText.depthMembers] at room
    rw [JsonText.quotesMembers, JsonText.quotesMembers, List.append_nil] at apart
    have closed : Awaits ('\x7d' :: after) more := awaits.cons (by decide)
    have value := lexes_value ("objectKey" :: active :: below) objectValue_mem (by simp [Ended])
      closed v (by simp; omega) apart.tail
    rw [JsonText.writtenMembers, List.append_assoc, List.cons_append]
    exact (lexes_name (awaits_value closed v) apart (by simp; omega)).trans
      (value.trans (lexes_memberClosing after (by omega)))
  | (name, v) :: m :: members, _, room, apart => by
    rw [JsonText.depthMembers] at room
    rw [JsonText.quotesMembers, List.cons_append, List.append_assoc] at apart
    have closed : Awaits ('\x7d' :: after) more := awaits.cons (by decide)
    have later : Awaits (',' :: (JsonText.writtenMembers (m :: members) ++ '\x7d' :: after)) _ :=
      (awaits_members closed (m :: members)).cons (by decide)
    have value := lexes_value ("objectKey" :: active :: below) objectValue_mem (by simp [Ended])
      later v (by simp; omega) apart.tail
    have rest := lexes_members active below awaits (m :: members) (by simp) (by omega)
      apart.tail.right_of_append
    rw [JsonText.writtenMembers, List.append_assoc, List.cons_append, List.append_assoc,
      List.cons_append]
    exact (lexes_name (awaits_value later v) apart (by simp; omega)).trans
      (value.trans ((lexes_memberComma _ (by simp; omega)).trans rest))

end

/-! ## Crossed quotes -/

/-- **The stacks of a run** have a state for each array and object that is open, and one for a
member. -/
inductive JsonStack : List String → Prop where
  | root : JsonStack ["root"]
  | array {names : List String} (inner : JsonStack names) : JsonStack ("arrayValue" :: names)
  | key {names : List String} (inner : JsonStack names) : JsonStack ("objectKey" :: names)
  | value {names : List String} (inner : JsonStack names) :
      JsonStack ("objectValue" :: "objectKey" :: names)

theorem JsonStack.ne_nil {names : List String} (h : JsonStack names) : names ≠ [] := by
  cases h <;> simp

/-- **Quotes get crossed** somewhere in a text. -/
def Crosses (names : List String) (text : List Char) : Prop :=
  ∃ names' text', json.Lexes names text names' text' ∧ JsonStack names' ∧ crossed true text' = true

theorem Crosses.behind {names names' : List String} {text text' : List Char}
    (h : Crosses names' text') (lexes : json.Lexes names text names' text') :
    Crosses names text := by
  obtain ⟨last, rest, lexes', nested, paired⟩ := h
  exact ⟨last, rest, lexes.trans lexes', nested, paired⟩

section Traps

variable {active : String} {below : List String} {after : List Char} {more : List Quote}

/-- A string that the next one does harm to. -/
theorem crosses_string {letters : List Letter} (state : active ∈ valueStates)
    (nested : JsonStack (active :: below)) (awaits : Awaits after more)
    (room : below.length + 1 ≤ Limits.stackDepth)
    (harmed : ¬ (⟨false, letters⟩ :: more.take 1).IsChain Quote.Apart) :
    Crosses (active :: below) (quoted letters ++ after) := by
  cases awaits with
  | nothing => exact absurd (.singleton _) harmed
  | @quote front behind q more calm paired =>
    have ends : Quote.endsEscaped ⟨false, letters⟩ = true := by simpa [Quote.Apart] using harmed
    have trapped : Deed.First (valueDeeds.drop 5) [] (quoted letters ++ (front ++ ['"']))
        (spelled q.letters ++ '"' :: behind) :=
      first_trapped (by simpa [Quote.endsEscaped] using ends) calm _
    have lexes : json.Lexes (active :: below)
        (quoted letters ++ (front ++ ['"']) ++ (spelled q.letters ++ '"' :: behind))
        (active :: below) (spelled q.letters ++ '"' :: behind) :=
      lexes_start 5 (c := '"') state (by decide +kernel) rfl trapped (by simpa using room) rfl
        (by simp)
    exact ⟨_, _, by simpa using lexes, nested, crossed_spelled q.letters paired⟩

/-- A name that the next string does harm to. -/
theorem crosses_name {name : List Letter} (inner : JsonStack below)
    (awaits : Awaits after more) (room : below.length + 2 ≤ Limits.stackDepth)
    (harmed : ¬ (⟨true, name⟩ :: more.take 1).IsChain Quote.Apart) :
    Crosses ("objectKey" :: below) (quoted name ++ ':' :: after) := by
  cases awaits with
  | nothing => exact absurd (.singleton _) harmed
  | @quote front behind q more calm paired =>
    obtain ⟨ends, starts⟩ : Quote.endsEscaped ⟨true, name⟩ = true ∧ q.startsWithColon = true := by
      simpa [Quote.Apart] using harmed
    -- the name goes on into the next string, up to the colon that this one starts with
    obtain ⟨rest, found⟩ :
        ∃ rest, (spelled q.letters).dropWhile whiteSpace.contains = ':' :: rest :=
      List.head?_eq_some_iff.1 (by simpa [Quote.startsWithColon] using starts)
    have split : spelled q.letters =
        (spelled q.letters).takeWhile whiteSpace.contains ++ ':' :: rest := by
      rw [← found, List.takeWhile_append_dropWhile]
    generalize hblanks : (spelled q.letters).takeWhile whiteSpace.contains = blanks at split
    have blank : ∀ c ∈ blanks, whiteSpace.contains c = true := fun c hc =>
      List.mem_takeWhile_imp (hblanks ▸ hc)
    have calmBlanks : Calm (blanks ++ [':']) := by
      refine List.forall_mem_append.2 ⟨fun c hc => ?_, by simp⟩
      have white := blank c hc
      constructor <;> rintro rfl <;> revert white <;> decide
    have crossed : crossed true (rest ++ '"' :: behind) = true := by
      have whole := crossed_spelled q.letters paired
      rw [split] at whole
      rw [← crossed_append calmBlanks]
      simpa using whole
    have calm : Calm (':' :: front) := List.forall_mem_cons.2 ⟨by decide, calm⟩
    have trapped := (first_trappedName (by simpa [Quote.endsEscaped] using ends) calm blank
      (rest ++ '"' :: behind)).of_drop (c := '"') (by decide +kernel) rfl
    obtain ⟨r, moves, first⟩ := Deed.First.exists_rule (deeds_objectKey ▸ trapped)
    have lexes : json.Lexes ("objectKey" :: below)
        (quoted name ++ (':' :: front ++ '"' :: (blanks ++ [':'])) ++ (rest ++ '"' :: behind))
        ("objectValue" :: "objectKey" :: below) (rest ++ '"' :: behind) :=
      .step first moves room rfl (by simp)
    refine ⟨_, _, ?_, .value inner, crossed⟩
    rw [split]
    simpa using lexes

end Traps

/-- If a relation holds along a list up to the first item of more and along what follows, it holds
along all of it. -/
theorem isChain_of_take {a b c : List Quote} (first : (a ++ (b ++ c).take 1).IsChain Quote.Apart)
    (later : (b ++ c.take 1).IsChain Quote.Apart) :
    (a ++ (b ++ c.take 1)).IsChain Quote.Apart := by
  have next : ((b ++ c).take 1).head? = (b ++ c.take 1).head? := by
    cases b <;> simp
  rw [List.isChain_append] at first ⊢
  exact ⟨first.1, later, next ▸ first.2.2⟩

mutual

/-- **Quotes get crossed in a value** if the next string does harm to one in it. -/
theorem crosses_value {active : String} (below : List String) {after : List Char}
    {more : List Quote} (state : active ∈ valueStates) (nested : JsonStack (active :: below))
    (awaits : Awaits after more) :
    (v : JsonText) → below.length + 2 * v.depth + 3 ≤ Limits.stackDepth →
      ¬ (v.quotes ++ more.take 1).IsChain Quote.Apart →
      Crosses (active :: below) (v.written ++ after)
  | .null, _, harmed | .bool true, _, harmed | .bool false, _, harmed | .number _, _, harmed
  | .object [], _, harmed => by
    refine absurd ?_ harmed
    cases more <;> simp [JsonText.quotes, JsonText.quotesMembers]
  | .string letters, room, harmed => by
    rw [JsonText.written]
    exact crosses_string state nested awaits (by omega) harmed
  | .array items, room, harmed => by
    rw [JsonText.depth] at room
    have closed : Awaits (']' :: after) more := awaits.cons (by decide)
    have inside := crosses_items (active :: below) (.array nested) closed items (by simp; omega)
      harmed
    rw [JsonText.written, List.cons_append, List.append_assoc]
    exact inside.behind (lexes_bracket state _ (by omega))
  | .object (m :: members), room, harmed => by
    rw [JsonText.depth] at room
    rw [JsonText.written, List.cons_append, List.append_assoc]
    exact (crosses_members active below nested awaits (m :: members) (by omega) harmed).behind
      (lexes_brace state _ (by omega))

theorem crosses_items (below : List String) {after : List Char} {more : List Quote}
    (nested : JsonStack ("arrayValue" :: below)) (awaits : Awaits after more) :
    (items : List JsonText) → below.length + 2 * JsonText.depthItems items + 3 ≤ Limits.stackDepth →
      ¬ (JsonText.quotesItems items ++ more.take 1).IsChain Quote.Apart →
      Crosses ("arrayValue" :: below) (JsonText.writtenItems items ++ after)
  | [], _, harmed => by
    refine absurd ?_ harmed
    cases more <;> simp [JsonText.quotesItems]
  | [v], room, harmed => by
    rw [JsonText.depthItems] at room
    rw [JsonText.writtenItems]
    exact crosses_value below arrayValue_mem nested awaits v (by omega)
      (by simpa [JsonText.quotesItems] using harmed)
  | v :: w :: items, room, harmed => by
    rw [JsonText.depthItems] at room
    rw [JsonText.quotesItems, List.append_assoc] at harmed
    have later : Awaits (',' :: (JsonText.writtenItems (w :: items) ++ after)) _ :=
      (awaits_items awaits (w :: items)).cons (by decide)
    let behind := JsonText.quotesItems (w :: items)
    rw [JsonText.writtenItems, List.append_assoc]
    by_cases here : (v.quotes ++ (behind ++ more).take 1).IsChain Quote.Apart
    · -- the value is lexed, so it happens behind it
      have value := lexes_value below arrayValue_mem (by simp [Ended]) later.take v (by omega) here
      have rest := crosses_items below nested awaits (w :: items) (by omega)
        fun later => harmed (isChain_of_take here later)
      exact (rest.behind (lexes_comma _ (by omega))).behind value
    · exact crosses_value below arrayValue_mem nested later v (by omega) here

theorem crosses_members (active : String) (below : List String) {after : List Char}
    {more : List Quote} (nested : JsonStack (active :: below)) (awaits : Awaits after more) :
    (members : List (List Letter × JsonText)) →
      below.length + 2 * JsonText.depthMembers members + 5 ≤ Limits.stackDepth →
      ¬ (JsonText.quotesMembers members ++ more.take 1).IsChain Quote.Apart →
      Crosses ("objectKey" :: active :: below)
        (JsonText.writtenMembers members ++ '\x7d' :: after)
  | [], _, harmed => by
    refine absurd ?_ harmed
    cases more <;> simp [JsonText.quotesMembers]
  | [(name, v)], room, harmed => by
    rw [JsonText.depthMembers] at room
    rw [JsonText.quotesMembers, JsonText.quotesMembers, List.append_nil] at harmed
    have closed : Awaits ('\x7d' :: after) more := awaits.cons (by decide)
    rw [JsonText.writtenMembers, List.append_assoc, List.cons_append]
    by_cases named : (⟨true, name⟩ :: (v.quotes ++ more).take 1).IsChain Quote.Apart
    · have value := crosses_value ("objectKey" :: active :: below) objectValue_mem (.value nested)
        closed v (by simp; omega) fun later =>
          harmed (isChain_of_take (a := [⟨true, name⟩]) named later)
      exact value.behind (lexes_name (awaits_value closed v).take named (by simp; omega))
    · exact crosses_name nested (awaits_value closed v) (by simp; omega) named
  | (name, v) :: m :: members, room, harmed => by
    rw [JsonText.depthMembers] at room
    rw [JsonText.quotesMembers, List.cons_append, List.append_assoc] at harmed
    have closed : Awaits ('\x7d' :: after) more := awaits.cons (by decide)
    have later : Awaits (',' :: (JsonText.writtenMembers (m :: members) ++ '\x7d' :: after)) _ :=
      (awaits_members closed (m :: members)).cons (by decide)
    let behind := JsonText.quotesMembers (m :: members)
    rw [JsonText.writtenMembers, List.append_assoc, List.cons_append, List.append_assoc,
      List.cons_append]
    by_cases named : (⟨true, name⟩ :: (v.quotes ++ (behind ++ more)).take 1).IsChain Quote.Apart
    · refine Crosses.behind ?_ (lexes_name (awaits_value later v).take named (by simp; omega))
      by_cases here : (v.quotes ++ (behind ++ more).take 1).IsChain Quote.Apart
      · -- the name and its value are lexed, so it happens behind them
        have value := lexes_value ("objectKey" :: active :: below) objectValue_mem (by simp [Ended])
          later.take v (by simp; omega) here
        have rest := crosses_members active below nested awaits (m :: members) (by omega)
          fun rest => harmed ?_
        · exact (rest.behind (lexes_memberComma _ (by simp; omega))).behind value
        · rw [← List.append_assoc] at named ⊢
          exact isChain_of_take (a := [⟨true, name⟩]) named
            (List.append_assoc .. ▸ isChain_of_take here rest)
      · exact crosses_value ("objectKey" :: active :: below) objectValue_mem (.value nested) later v
          (by simp; omega) here
    · exact crosses_name nested (awaits_value later v) (by simp; omega) named

end

/-! ## Lines with crossed quotes -/

section Leading

variable {outside : Bool} {s s' : Regex.Spot}

/-- A quote turns outside and inside. -/
theorem crossed_of_quote (h : (Node.one '"').Leads s s') (here : crossed outside s.rest = true) :
    crossed (!outside) s'.rest = true := by
  obtain ⟨c, rest, same, member, rfl⟩ := h
  obtain rfl := Regex.contains_single.1 member
  rwa [same, crossed_quote] at here

/-- What takes neither quotes nor backslashes changes nothing. -/
theorem crossed_of_leads {n : Node} (h : n.Leads s s')
    (calm : n.takes '"' = false ∧ n.takes '\\' = false) (here : crossed outside s.rest = true) :
    crossed outside s'.rest = true := by
  refine h.keeps (P := fun s => crossed outside s.rest = true) (fun c rest _ taken here => ?_) here
  rwa [crossed_cons ⟨?_, ?_⟩] at here
  · rintro rfl
    cases taken.symm.trans calm.1
  · rintro rfl
    cases taken.symm.trans calm.2

/-- Inside of strings letters change nothing: there is no backslash before the next quote. -/
theorem crossed_of_letters (h : (Node.rep letter 0 none false).Leads s s')
    (here : crossed false s.rest = true) : crossed false s'.rest = true := by
  obtain ⟨passes, -, -, h⟩ := h
  refine h.keeps (P := fun s => crossed false s.rest = true) (fun s s' pass here => ?_) here
  rcases pass with ⟨between, ⟨c, rest, same, member, -⟩, -⟩ | ⟨c, rest, same, member, rfl⟩
  · obtain rfl := Regex.contains_single.1 member
    rw [same, crossed_backslash] at here
    cases here
  · have unquoted := contains_unquotedSet.1 member
    rw [same] at here
    by_cases escape : c = '\\'
    · rw [escape, crossed_backslash] at here
      cases here
    · rwa [crossed_cons ⟨unquoted, escape⟩] at here

end Leading

/-- The expressions of strings. -/
def stringNodes : List Node := [emptyNode, stringNode, nameNode]

/-- **Quotes stay crossed** for a lexer that is outside of strings: strings are found from one quote
to the next. -/
theorem crossed_of_string {n : Node} (known : n ∈ stringNodes) {s s' : Regex.Spot}
    (h : n.Leads s s') (here : crossed true s.rest = true) : crossed true s'.rest = true := by
  simp only [stringNodes, List.mem_cons, List.not_mem_nil, or_false] at known
  rcases known with rfl | rfl | rfl
  · obtain ⟨_, start, stop⟩ := h
    exact crossed_of_quote stop (crossed_of_quote start here)
  · obtain ⟨_, start, _, letters, stop⟩ := h
    exact crossed_of_quote stop (crossed_of_letters letters (crossed_of_quote start here))
  · obtain ⟨_, start, _, letters, _, stop, behind⟩ := h
    have closed := crossed_of_quote stop (crossed_of_letters letters (crossed_of_quote start here))
    exact crossed_of_leads (n := .seq (.group 4 (.rep (.set whiteSpace) 0 none true))
      (.group 5 (.one ':'))) behind (by decide) closed

/-- All that is tried. -/
def allDeeds : List Deed := arrayDeeds ++ memberDeeds ++ nameDeeds

theorem nodes_allDeeds : (allDeeds.all fun d => d.node?.any fun n =>
    n.isSteady && n.minLength.any (0 < ·) &&
      ((!n.takes '"' && !n.takes '\\') || stringNodes.contains n)) = true := by
  decide +kernel

theorem moves_valueDeeds {names : List String} (h : JsonStack names) :
    ∀ d ∈ valueDeeds, JsonStack (Transition.moved d.next names) := by
  simp only [valueDeeds, List.forall_mem_cons, Transition.moved]
  exact ⟨h, h, h, h, h, h, h, .array h, .key h, by simp⟩

theorem moves_arrayDeeds {names : List String} (h : JsonStack names) :
    ∀ d ∈ arrayDeeds, JsonStack (Transition.moved d.next ("arrayValue" :: names)) := by
  simp only [arrayDeeds, List.forall_mem_cons, List.forall_mem_append, Transition.moved]
  exact ⟨.array h, moves_valueDeeds (.array h), .array h, h, by simp⟩

theorem moves_memberDeeds {names : List String} (h : JsonStack names) :
    ∀ d ∈ memberDeeds,
      JsonStack (Transition.moved d.next ("objectValue" :: "objectKey" :: names)) := by
  simp only [memberDeeds, List.forall_mem_cons, List.forall_mem_append, Transition.moved]
  exact ⟨.value h, moves_valueDeeds (.value h), .key h, h, by simp⟩

theorem moves_nameDeeds {names : List String} (h : JsonStack names) :
    ∀ d ∈ nameDeeds, JsonStack (Transition.moved d.next ("objectKey" :: names)) := by
  simp only [nameDeeds, List.forall_mem_cons, Transition.moved]
  exact ⟨.key h, .value h, h, by simp⟩

/-- **The rules of the state that is active** are among those that are tried, and leave a stack of a
run. -/
theorem JsonStack.moved {active : String} {below : List String} (h : JsonStack (active :: below))
    {r : RuleSpec} (hr : r ∈ json.rulesOf active) :
    r.deed ∈ allDeeds ∧ JsonStack (Transition.moved r.transitions (active :: below)) := by
  have there : r.deed ∈ (json.rulesOf active).map (·.deed) := List.mem_map_of_mem hr
  generalize stack : active :: below = names at h ⊢
  cases h with
  | root =>
    obtain ⟨rfl, rfl⟩ := List.cons.inj stack
    rw [deeds_root] at there
    exact ⟨by simp [allDeeds, arrayDeeds, there], moves_valueDeeds .root _ there⟩
  | array inner =>
    obtain ⟨rfl, rfl⟩ := List.cons.inj stack
    rw [deeds_arrayValue] at there
    exact ⟨by simp [allDeeds, there], moves_arrayDeeds inner _ there⟩
  | key inner =>
    obtain ⟨rfl, rfl⟩ := List.cons.inj stack
    rw [deeds_objectKey] at there
    exact ⟨by simp [allDeeds, there], moves_nameDeeds inner _ there⟩
  | value inner =>
    obtain ⟨rfl, rfl⟩ := List.cons.inj stack
    rw [deeds_objectValue] at there
    exact ⟨by simp [allDeeds, there], moves_memberDeeds inner _ there⟩

/-- **A line with crossed quotes goes wrong.** They stay crossed, and at the end of a text they are
not. -/
theorem goesWrong_of_crossed {l : Lexer} (runs : json.Runs l) {names : List String}
    {text : List Char} (nested : JsonStack names) (paired : crossed true text = true)
    (lexer : String) :
    LexerSpec.GoesWrong (l.states.tokenizeLine lexer ⟨names, Limits.stackDepth⟩ text) := by
  refine runs.goesWrong (P := fun names text => JsonStack names ∧ crossed true text = true)
    (fun names text h => ⟨h.1.ne_nil, ?_⟩) (fun active below text h r hr => ?_) ⟨nested, paired⟩
    lexer
  · rintro rfl
    cases h.2
  · obtain ⟨tried, nested⟩ := h.1.moved hr
    have proper := List.all_eq_true.1 nodes_allDeeds _ tried
    obtain ⟨n, expression, proper⟩ := (Option.any_eq_true ..).1 proper
    simp only [Bool.and_eq_true, Bool.or_eq_true, Bool.not_eq_true',
      List.contains_iff_mem] at proper
    obtain ⟨⟨steady, taking⟩, kind⟩ := proper
    refine ⟨n, expression, steady, taking, fun before rest leads => ⟨nested, ?_⟩⟩
    rcases kind with calm | string
    · exact crossed_of_leads leads calm h.2
    · exact crossed_of_string string leads h.2

/-! ## Runs -/

section Runs

variable {l : Lexer} {v : JsonText} (compiled : json.compile = .ok l) (shallow : v.depth ≤ 500)
  (fits : (Utf8.encode (String.ofList v.written)).length < Limits.lineChunk)
  (preferences : Preferences)

include compiled fits in
/-- What the plain tokenizer makes of a text that fits into one read is what a run makes of it. -/
theorem trace_of_text {tokens : List Token} {result : Except (Option LexError) Stack}
    (worked : l.states.tokenizeLine l.name ⟨["root"], Limits.stackDepth⟩ v.written =
      (tokens, result)) :
    let trace := (l.withPreferences preferences).trace ⟨Utf8.encode (String.ofList v.written), none⟩
    tokensOf trace.steps = tokens ∧ trace.ending.error? = Lexer.lineError? result := by
  have runs : json.Runs l := typed_json.runs compiled (by decide)
  have limit : l.chunkLimit = Limits.lineChunk := runs.means.rest.2.2.2.2.2.1
  have unbroken : '\n' ∉ v.written := fun h => absurd (v.le_of_mem_written '\n' h) (by decide)
  exact Lexer.trace_of_line (l := l.withPreferences preferences) worked v.written_ne_nil unbroken
    (limit.symm ▸ fits)

theorem room_of_depth (shallow : v.depth ≤ 500) :
    ([] : List String).length + 2 * v.depth + 3 ≤ Limits.stackDepth := by
  have : Limits.stackDepth = 1024 := rfl
  simp only [List.length_nil]
  omega

include compiled shallow fits in
/-- **A text in which no string does harm to the one before it** is lexed without errors. -/
theorem spell_of_apart (apart : v.quotes.IsChain Quote.Apart) :
    let trace := (l.withPreferences preferences).trace ⟨Utf8.encode (String.ofList v.written), none⟩
    trace.ending.error? = none ∧ Token.Spell (tokensOf trace.steps) v.written := by
  have runs : json.Runs l := typed_json.runs compiled (by decide)
  have awaits : Awaits [] [] := .nothing (by simp [Calm])
  have lexes := lexes_value [] root_mem (by simp [Ended]) awaits v (room_of_depth shallow)
    (by simpa using apart)
  rw [List.append_nil] at lexes
  obtain ⟨made, spell, line⟩ := runs.tokenizeLine_of_line lexes l.name
  obtain ⟨tokens, ending⟩ := trace_of_text compiled fits preferences line
  exact ⟨ending, tokens ▸ spell⟩

include compiled shallow fits in
/-- **A text that is lexed without errors** is one in which no string does harm to the one before
it. -/
theorem apart_of_clean
    (succeeds : ((l.withPreferences preferences).run
      ⟨Utf8.encode (String.ofList v.written), none⟩ .collector).error? = none)
    (clean : ∀ t ∈ ((l.withPreferences preferences).run
      ⟨Utf8.encode (String.ofList v.written), none⟩ .collector).output, t.type ≠ .error) :
    v.quotes.IsChain Quote.Apart := by
  have runs : json.Runs l := typed_json.runs compiled (by decide)
  by_contra harmed
  have awaits : Awaits [] [] := .nothing (by simp [Calm])
  obtain ⟨names, text, lexes, nested, paired⟩ := crosses_value [] root_mem .root awaits v
    (room_of_depth shallow) (by simpa using harmed)
  rw [List.append_nil] at lexes
  obtain ⟨made, front, -, -, line⟩ := runs.tokenizeLine_of_lexes lexes l.name
  obtain ⟨tokens, ending⟩ := trace_of_text compiled fits preferences line
  rw [((l.withPreferences preferences).run_collector _).1, tokens] at clean
  rw [((l.withPreferences preferences).run_collector _).2, ending] at succeeds
  rcases goesWrong_of_crossed runs nested paired l.name with ⟨t, ht, error⟩ | ⟨e, failed⟩
  · exact clean t (List.mem_append_left _ (List.mem_append_right _ ht)) error
  · rw [failed] at succeeds
    cases succeeds

end Runs

/-- **JSON is recognised exactly where no string does harm to the one before it.** For every text
that is nested no deeper than 500 and fits into one read, a run succeeds without a token that is an
error if and only if no value that ends with an escaped backslash is followed by another string, and
no name that does is followed by a string that starts, after white space, with a colon. Then runs
succeed in each mode, whatever their reports are, and the tokens spell the text. -/
theorem recognises_json (v : JsonText) (shallow : v.depth ≤ 500)
    (fits : (Utf8.encode (String.ofList v.written)).length < Limits.lineChunk)
    (preferences : Preferences) :
    ∃ l, json.compile = .ok l ∧
      let l := l.withPreferences preferences
      let source : Source := ⟨Utf8.encode (String.ofList v.written), none⟩
      let report := l.run source .collector
      (report.error? = none ∧ (∀ t ∈ report.output, t.type ≠ .error) ↔
        v.quotes.IsChain Quote.Apart) ∧
      (v.quotes.IsChain Quote.Apart →
        (∀ {α : Type} (k : Sink α), k.Quiet → ∀ mode, (l.runAs mode source k).error? = none) ∧
          Token.textOf (l.tokens source) = v.written) := by
  obtain ⟨l, compiled⟩ := typed_json.exists_compile
  refine ⟨l, compiled, ⟨?_, fun apart => ?_⟩, fun apart => ?_⟩
  · exact fun ⟨succeeds, clean⟩ =>
      apart_of_clean compiled shallow fits preferences succeeds clean
  · obtain ⟨ending, spell⟩ := spell_of_apart compiled shallow fits preferences apart
    refine ⟨((l.withPreferences preferences).run_collector _).2.trans ending, ?_⟩
    rw [((l.withPreferences preferences).run_collector _).1]
    exact List.forall_mem_append.2 ⟨spell.clean, by decide⟩
  · obtain ⟨ending, spell⟩ := spell_of_apart compiled shallow fits preferences apart
    have hl := (Lexer.Compiled.ofSpec compiled).withPreferences preferences
    refine ⟨fun k quiet mode => ?_, ?_⟩
    · rw [Lexer.runAs, Lexer.error_of_quiet (quiet.chain _), ending]
    · rw [hl.tokens_eq]
      exact spell.text

/-- A name that ends with an escaped backslash, before a string with an escaped quote and a number.
-/
def escapes : JsonText :=
  .object [([.escape '\\' rfl], .array [.string [.plain 'a' (by decide), .escape '"' rfl],
    .number ⟨true, ['1'], some ['5'], none, by simp, by simp, by simp, by simp⟩])]

/-- This text is recognised. -/
theorem recognises_json_escapes :
    ∃ l, json.compile = .ok l ∧
      let report := (l.withPreferences {}).run ⟨Utf8.encode (String.ofList escapes.written), none⟩
        .collector
      report.error? = none ∧ ∀ t ∈ report.output, t.type ≠ .error := by
  have fits : (Utf8.encode (String.ofList escapes.written)).length < Limits.lineChunk := by
    rw [Utf8.encode_ofList]
    decide
  obtain ⟨l, compiled, recognised, -⟩ := recognises_json escapes (by decide) fits {}
  exact ⟨l, compiled, recognised.2 (by decide)⟩

/-- Two strings of which the first is an escaped backslash. -/
def harmed : JsonText := .array [.string [.escape '\\' rfl], .string [.plain 'a' (by decide)]]

/-- **Not every text is recognised.** -/
theorem not_recognises_harmed :
    ¬ ∀ v : JsonText, v.depth ≤ 500 →
      (Utf8.encode (String.ofList v.written)).length < Limits.lineChunk →
      ∃ l, json.compile = .ok l ∧
        let report := l.run ⟨Utf8.encode (String.ofList v.written), none⟩ .collector
        report.error? = none ∧ ∀ t ∈ report.output, t.type ≠ .error := by
  intro all
  have fits : (Utf8.encode (String.ofList harmed.written)).length < Limits.lineChunk := by
    rw [Utf8.encode_ofList]
    decide
  obtain ⟨l, compiled, succeeds, clean⟩ := all harmed (by decide) fits
  have apart := apart_of_clean compiled (by decide) fits l.preferences succeeds clean
  exact absurd apart (by decide)

end LexMachine.Builtin
