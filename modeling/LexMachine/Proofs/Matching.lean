import LexMachine.Proofs.Regex.Hits
import LexMachine.StateTable

/-!
# What a match takes

A rule cuts the text of its match into tokens and loses none of it (`text_tokens`). What a state
finds at the start of a subject depends on the rule that wins there (`StateTable.Decides`), and lies
in the subject: a match takes characters that are there, and its tokens are their text
(`StateTable.matched_spec`).
-/

namespace LexMachine

section Except

variable {ε δ α β : Type} {x : Except ε α}

section Bind

variable {f : α → Except ε β}

theorem bind_eq_ok {b : β} : x >>= f = .ok b ↔ ∃ a, x = .ok a ∧ f a = .ok b := by
  cases x <;> simp [bind, Except.bind]

theorem bind_eq_error {e : ε} :
    x >>= f = .error e ↔ x = .error e ∨ ∃ a, x = .ok a ∧ f a = .error e := by
  cases x <;> simp [bind, Except.bind]

end Bind

theorem map_eq_ok {f : α → β} {b : β} : x.map f = .ok b ↔ ∃ a, x = .ok a ∧ f a = b := by
  cases x <;> simp [Except.map]

theorem map_eq_error {f : α → β} {e : ε} : x.map f = .error e ↔ x = .error e := by
  cases x <;> simp [Except.map]

theorem eq_ok_of_mapError {f : ε → δ} {a : α} (h : x.mapError f = .ok a) : x = .ok a := by
  cases x with
  | error e => cases h
  | ok b =>
    cases h
    rfl

theorem error_of_mapError {f : ε → δ} {e : δ} (h : x.mapError f = .error e) :
    ∃ cause, x = .error cause ∧ e = f cause := by
  cases x with
  | error cause => exact ⟨cause, rfl, (Except.error.inj h).symm⟩
  | ok a => cases h

theorem eq_ok_get (h : x.toOption.isSome) : x = .ok (x.toOption.get h) := by
  cases x with
  | error e => cases h
  | ok a => rfl

end Except

/-- The text of tokens, one after the other. -/
def Token.textOf (tokens : List Token) : List Char := tokens.flatMap (·.value.toList)

namespace Token

@[simp] theorem textOf_nil : textOf [] = [] := rfl

@[simp] theorem textOf_cons (t : Token) (tokens : List Token) :
    textOf (t :: tokens) = t.value.toList ++ textOf tokens := rfl

@[simp] theorem textOf_append (a b : List Token) : textOf (a ++ b) = textOf a ++ textOf b :=
  List.flatMap_append ..

/-- The texts of tokens put together. -/
theorem join_values (tokens : List Token) :
    String.join (tokens.map (·.value)) = String.ofList (textOf tokens) := by
  induction tokens with
  | nil => rfl
  | cons t tokens ih =>
    rw [List.map_cons, String.join_cons, ih, textOf_cons, String.ofList_append,
      String.ofList_toList]

end Token

@[simp] theorem toList_slice (text : List Char) (start stop : Nat) :
    (slice text start stop).toList = (text.drop start).take (stop - start) :=
  String.toList_ofList

/-- Neighbouring parts of a text together. -/
theorem take_drop_append (text : List Char) {a b c : Nat} (hab : a ≤ b) (hbc : b ≤ c) :
    (text.drop a).take (b - a) ++ (text.drop b).take (c - b) = (text.drop a).take (c - a) := by
  have hb : text.drop b = (text.drop a).drop (b - a) := by
    rw [List.drop_drop]
    congr 1
    omega
  rw [hb, ← List.take_add]
  congr 1
  omega

/-- **Pieces tile a stretch of text**: each starts where the one before it stops. -/
inductive Tiles : (start stop : Nat) → List Piece → Prop where
  /-- No pieces tile an empty stretch. -/
  | nil (pos : Nat) : Tiles pos pos []
  /-- One more piece stands before the others. -/
  | cons {p : Piece} {stop : Nat} {pieces : List Piece} (le : p.start ≤ p.stop)
      (rest : Tiles p.stop stop pieces) : Tiles p.start stop (p :: pieces)

namespace Tiles

variable {start stop : Nat} {pieces : List Piece}

theorem le (h : Tiles start stop pieces) : start ≤ stop := by
  induction h with
  | nil => exact Nat.le_refl _
  | cons le _ ih => exact Nat.le_trans le ih

theorem append {middle : Nat} {more : List Piece} (h : Tiles start middle pieces)
    (h' : Tiles middle stop more) : Tiles start stop (pieces ++ more) := by
  induction h with
  | nil => exact h'
  | cons le _ ih => exact .cons le (ih h')

/-- Text around groups, if there is any, is a piece of its own. -/
theorem gap (le : start ≤ stop) :
    Tiles start stop (if start < stop then [⟨start, stop, none⟩] else []) := by
  by_cases less : start < stop
  · rw [if_pos less]
    exact .cons (p := ⟨start, stop, none⟩) le (.nil stop)
  · obtain rfl : start = stop := by omega
    rw [if_neg less]
    exact .nil start

/-- No piece reaches out of the stretch. -/
theorem bounds (h : Tiles start stop pieces) :
    ∀ p ∈ pieces, start ≤ p.start ∧ p.start ≤ p.stop ∧ p.stop ≤ stop := by
  induction h with
  | nil => simp
  | cons le rest ih =>
    intro q hq
    rcases List.mem_cons.1 hq with rfl | hq
    · exact ⟨Nat.le_refl _, le, rest.le⟩
    · obtain ⟨first, ordered, last⟩ := ih q hq
      exact ⟨Nat.le_trans le first, ordered, last⟩

/-- **The tokens of pieces are the text that these tile.** -/
theorem text (r : PatternRule) (subject : List Char) (h : Tiles start stop pieces) :
    Token.textOf (pieces.map (r.token subject)) = (subject.drop start).take (stop - start) := by
  induction h with
  | nil => simp
  | @cons p stop pieces le rest ih =>
    rw [List.map_cons, Token.textOf_cons, ih, PatternRule.token, toList_slice,
      take_drop_append subject le rest.le]

end Tiles

namespace PatternRule

variable (r : PatternRule) {subject : List Char}

/-- **How groups are cut off** from one on: the pieces, and where the cursor comes to from where it
stands. -/
inductive Cuts : (group cursor : Nat) → List (Option (Nat × Nat)) → List Piece → (last : Nat) →
    Prop where
  | nil (group cursor : Nat) : Cuts group cursor [] [] cursor
  /-- A group that took no part has no piece. -/
  | absent {group cursor last : Nat} {groups : List (Option (Nat × Nat))} {pieces : List Piece}
      (later : Cuts (group + 1) cursor groups pieces last) :
      Cuts group cursor (none :: groups) pieces last
  /-- A group at the cursor or behind it is a piece, and so is the text before it. -/
  | ahead {group cursor last start stop : Nat} {groups : List (Option (Nat × Nat))}
      {pieces : List Piece} {subtype : TokenType} (typed : r.subtypes[group]? = some subtype)
      (le : cursor ≤ start) (later : Cuts (group + 1) stop groups pieces last) :
      Cuts group cursor (some (start, stop) :: groups)
        ((if cursor < start then [⟨cursor, start, none⟩] else []) ++
          ⟨start, stop, some subtype⟩ :: pieces) last
  /-- Of a group that the cursor is in, the rest is a piece. -/
  | within {group cursor last start stop : Nat} {groups : List (Option (Nat × Nat))}
      {pieces : List Piece} {subtype : TokenType} (typed : r.subtypes[group]? = some subtype)
      (before : start < cursor) (beyond : cursor < stop)
      (later : Cuts (group + 1) stop groups pieces last) :
      Cuts group cursor (some (start, stop) :: groups) (⟨cursor, stop, some subtype⟩ :: pieces) last
  /-- A group that the cursor has left behind has no piece. -/
  | passed {group cursor last start stop : Nat} {groups : List (Option (Nat × Nat))}
      {pieces : List Piece} {subtype : TokenType} (typed : r.subtypes[group]? = some subtype)
      (before : start < cursor) (behind : stop ≤ cursor)
      (later : Cuts (group + 1) cursor groups pieces last) :
      Cuts group cursor (some (start, stop) :: groups) pieces last

variable {group cursor last : Nat} {groups : List (Option (Nat × Nat))} {pieces : List Piece}

theorem cuts_of_groupPieces (h : r.groupPieces group cursor groups = .ok (pieces, last)) :
    r.Cuts group cursor groups pieces last := by
  fun_induction r.groupPieces group cursor groups generalizing pieces last with
  | case1 =>
    cases h
    exact .nil _ _
  | case2 group cursor groups ih => exact .absent (ih h)
  | case3 => cases h
  | case4 group cursor start stop groups subtype typed le gap =>
    rename_i ih
    obtain ⟨⟨more, last'⟩, hmore, h⟩ := bind_eq_ok.1 h
    cases h
    exact .ahead typed le (ih hmore)
  | case5 group cursor start stop groups subtype typed before beyond ih =>
    obtain ⟨⟨more, last'⟩, hmore, h⟩ := bind_eq_ok.1 h
    cases h
    exact .within typed (Nat.not_le.1 before) beyond (ih hmore)
  | case6 group cursor start stop groups subtype typed before behind ih =>
    exact .passed typed (Nat.not_le.1 before) (Nat.not_lt.1 behind) (ih h)

variable {r} in
/-- **The pieces of groups tile the text** from where the cursor stands to where it comes. -/
theorem Cuts.tiles {high : Nat} (h : r.Cuts group cursor groups pieces last)
    (hcursor : cursor ≤ high)
    (hgroups : ∀ start stop, some (start, stop) ∈ groups → start ≤ stop ∧ stop ≤ high) :
    Tiles cursor last pieces ∧ last ≤ high := by
  induction h with
  | nil group cursor => exact ⟨.nil cursor, hcursor⟩
  | absent _ ih | passed _ _ _ _ ih =>
    exact ih hcursor fun a b hab => hgroups a b (List.mem_cons_of_mem _ hab)
  | @ahead group cursor last start stop groups pieces subtype _ le _ ih =>
    obtain ⟨hstart, hstop⟩ := hgroups start stop (by simp)
    obtain ⟨tiles, hlast⟩ := ih hstop fun a b hab => hgroups a b (List.mem_cons_of_mem _ hab)
    have here : Tiles start last (⟨start, stop, some subtype⟩ :: pieces) :=
      .cons (p := ⟨start, stop, some subtype⟩) hstart tiles
    exact ⟨(Tiles.gap le).append here, hlast⟩
  | @within group cursor last start stop groups pieces subtype _ _ beyond _ ih =>
    obtain ⟨-, hstop⟩ := hgroups start stop (by simp)
    obtain ⟨tiles, hlast⟩ := ih hstop fun a b hab => hgroups a b (List.mem_cons_of_mem _ hab)
    exact ⟨.cons (p := ⟨cursor, stop, some subtype⟩) (Nat.le_of_lt beyond) tiles, hlast⟩

/-- **The pieces of a match tile it** if its groups do not reach out of it. -/
theorem tiles_pieces {start stop : Nat} {groups : List (Option (Nat × Nat))} {pieces : List Piece}
    (ordered : start ≤ stop)
    (hgroups : ∀ a b, some (a, b) ∈ groups → a ≤ b ∧ b ≤ stop)
    (h : r.pieces start stop groups = .ok pieces) : Tiles start stop pieces := by
  unfold PatternRule.pieces at h
  split at h
  · cases h
    exact .cons (p := ⟨start, stop, some r.type⟩) ordered (.nil stop)
  · obtain ⟨⟨grouped, cursor⟩, hgrouped, h⟩ := bind_eq_ok.1 h
    cases h
    obtain ⟨tiles, hlast⟩ := (r.cuts_of_groupPieces hgrouped).tiles ordered hgroups
    exact tiles.append (.gap hlast)

/-- **The tokens of a match are its text.** -/
theorem text_tokens {h : Regex.Hit} (within : h.Within subject.length) {tokens : List Token}
    (ht : r.tokens subject h = .ok tokens) :
    Token.textOf tokens = (subject.drop h.start).take (h.stop - h.start) := by
  obtain ⟨pieces, hpieces, rfl⟩ := map_eq_ok.1 ht
  exact (r.tiles_pieces (Nat.le_of_lt h.nonempty) (fun a b hab => (within.groups a b hab).2)
    hpieces).text r subject

/-- **What becomes of groups from one on** is told by the first one that took part in the match and
has no subtype: without such a group there is a result, with it there is an error that names it. -/
def TypesGroups (r : PatternRule) (group : Nat) (groups : List (Option (Nat × Nat))) {α : Type} :
    Except LexError α → Prop
  | .ok _ => ∀ i span, groups[i]? = some (some span) → group + i < r.subtypes.length
  | .error e => ∃ i span, groups[i]? = some (some span) ∧ r.subtypes.length ≤ group + i ∧
      (∀ j < i, ∀ span, groups[j]? = some (some span) → group + j < r.subtypes.length) ∧
      e = .misconfiguredRule r.regex.pattern (group + i + 1) r.subtypes.length

theorem TypesGroups.bind {r : PatternRule} {group : Nat} {groups : List (Option (Nat × Nat))}
    {α β : Type} {x : Except LexError α} {f : α → Except LexError β}
    (h : r.TypesGroups group groups x) (total : ∀ a, ∃ b, f a = .ok b) :
    r.TypesGroups group groups (x >>= f) := by
  cases x with
  | error e => exact h
  | ok a =>
    obtain ⟨b, hb⟩ := total a
    have same : Except.ok a >>= f = .ok b := hb
    rw [same]
    exact h

/-- A group in front that did not take part, or has a subtype, changes nothing. -/
theorem TypesGroups.cons {r : PatternRule} {group : Nat} {groups : List (Option (Nat × Nat))}
    {α : Type} {x : Except LexError α} {head : Option (Nat × Nat)}
    (typed : ∀ span, head = some span → group < r.subtypes.length)
    (h : r.TypesGroups (group + 1) groups x) : r.TypesGroups group (head :: groups) x := by
  -- group number `i` behind the first one is group number `i + 1` of all
  have shift (i : Nat) : group + 1 + i = group + (i + 1) := by omega
  have front (i : Nat) (below : ∀ j < i, ∀ span, groups[j]? = some (some span) →
      group + 1 + j < r.subtypes.length) :
      ∀ j < i + 1, ∀ span, (head :: groups)[j]? = some (some span) →
        group + j < r.subtypes.length := by
    intro j hj span hspan
    cases j with
    | zero => exact typed span (Option.some.inj hspan)
    | succ j =>
      rw [← shift]
      exact below j (by omega) span hspan
  cases x with
  | ok a =>
    intro i span hspan
    exact front i (fun j _ => h j) i (Nat.lt_succ_self i) span hspan
  | error e =>
    obtain ⟨i, span, hspan, lacks, first, he⟩ := h
    rw [shift] at lacks he
    exact ⟨i + 1, span, hspan, lacks, front i first, he⟩

theorem types_groupPieces (group cursor : Nat) (groups : List (Option (Nat × Nat))) :
    r.TypesGroups group groups (r.groupPieces group cursor groups) := by
  fun_induction r.groupPieces group cursor groups with
  | case1 => simp [TypesGroups]
  | case2 group cursor groups ih => exact ih.cons (by simp)
  | case3 group cursor start stop groups missing =>
    exact ⟨0, (start, stop), rfl, List.getElem?_eq_none_iff.1 missing, by simp, rfl⟩
  | case4 group cursor start stop groups subtype there =>
    rename_i ih
    exact (ih.cons fun _ _ => (List.getElem?_eq_some_iff.1 there).1).bind fun _ => ⟨_, rfl⟩
  | case5 group cursor start stop groups subtype there _ _ ih =>
    exact (ih.cons fun _ _ => (List.getElem?_eq_some_iff.1 there).1).bind fun _ => ⟨_, rfl⟩
  | case6 group cursor start stop groups subtype there _ _ ih =>
    exact ih.cons fun _ _ => (List.getElem?_eq_some_iff.1 there).1

/-- **A match is cut into pieces** unless there are subtypes, but too few of them. -/
theorem types_pieces (typed : r.subtypes ≠ []) (start stop : Nat)
    (groups : List (Option (Nat × Nat))) : r.TypesGroups 0 groups (r.pieces start stop groups) := by
  unfold PatternRule.pieces
  rw [if_neg (mt List.isEmpty_iff.1 typed)]
  exact (r.types_groupPieces 0 start groups).bind fun _ => ⟨_, rfl⟩

/-- A match gives no tokens only for want of a subtype for one of its groups. -/
theorem misconfigured_of_tokens {h : Regex.Hit} {e : LexError}
    (he : r.tokens subject h = .error e) :
    ∃ number, e = .misconfiguredRule r.regex.pattern number r.subtypes.length ∧
      r.subtypes ≠ [] ∧ r.subtypes.length < number ∧ number ≤ h.groups.length := by
  have typed : r.subtypes ≠ [] := by
    intro untyped
    simp [PatternRule.tokens, cut, PatternRule.pieces, untyped, Except.map] at he
  have types := r.types_pieces typed h.start h.stop h.groups
  unfold PatternRule.tokens cut at he
  rw [map_eq_error.1 he] at types
  obtain ⟨i, span, hspan, lacks, -, rfl⟩ := types
  have bound := (List.getElem?_eq_some_iff.1 hspan).1
  exact ⟨0 + i + 1, rfl, typed, by omega, by omega⟩

end PatternRule

namespace StateTable

/-- The rules of all states. -/
def HasRule (table : StateTable) (rule : Rule) : Prop :=
  ∃ name rules, table.get? name = some rules ∧ rule ∈ rules

/-- **Includes add no rules**: each rule of a flattened state is written in it or in some state. -/
theorem hasRule_of_mem_flatten (table : StateTable) {levels : Nat} {origin : Option String}
    {rules : List Rule} {s : SourcedRule} (h : s ∈ table.flatten levels origin rules) :
    .pattern s.rule ∈ rules ∨ table.HasRule (.pattern s.rule) := by
  fun_induction table.flatten levels origin rules with
  | case1 => cases h
  | case2 levels origin rule rules ih =>
    rcases List.mem_cons.1 h with rfl | h
    · exact .inl (by simp)
    · exact (ih h).imp_left (List.mem_cons_of_mem _)
  | case3 origin target rules ih => exact (ih h).imp_left (List.mem_cons_of_mem _)
  | case4 levels origin target rules ih₁ ih₂ =>
    -- what a target brings is of the table; what stands behind the include is of the list
    rcases List.mem_append.1 h with h | h
    · cases hget : table.get? target with
      | none => simp [hget] at h
      | some included =>
        rw [hget] at h
        exact .inr ((ih₁ included h).elim (fun hs => ⟨target, included, hget, hs⟩) id)
    · exact (ih₂ h).imp_left (List.mem_cons_of_mem _)

/-- The pattern rules of a table have programs that close their groups. -/
def Balanced (table : StateTable) : Prop :=
  ∀ r, table.HasRule (.pattern r) → r.regex.program.Balanced

variable {table : StateTable} {name : String} {rules : List Rule} {subject : List Char}

/-- The rule that wins in a state is one of the table's, and its match lies in the subject. -/
theorem winner_spec (hb : table.Balanced) (hrules : table.get? name = some rules)
    {s : SourcedRule} {h : Regex.Hit} (hw : table.winner? rules subject = some (s, h)) :
    table.HasRule (.pattern s.rule) ∧ h.Within subject.length := by
  have all : ∀ s ∈ table.rulesOf rules, table.HasRule (.pattern s.rule) := fun s hs =>
    (table.hasRule_of_mem_flatten hs).elim (fun hs => ⟨name, rules, hrules, hs⟩) id
  obtain ⟨⟨regex, hmem⟩, within⟩ := Regex.isHit_of_search (fun e he => by
    obtain ⟨s, hs, rfl⟩ := List.mem_map.1 he
    exact hb s.rule (all s hs)) hw
  obtain ⟨s', hs', heq⟩ := List.mem_map.1 hmem
  obtain rfl := (Prod.mk.inj heq).2
  exact ⟨all s' hs', within⟩

/-- **What decides about the start of a subject**: whether a rule wins, where its match starts, and
what the rule makes of it. -/
inductive Decides (table : StateTable) (rules : List Rule) (subject : List Char) :
    Except LexError MatchOutcome → Prop where
  /-- No rule wins. -/
  | nothing (none : table.winner? rules subject = none) :
      Decides table rules subject (.ok .noMatch)
  /-- The match of the winner is further on. -/
  | later {s : SourcedRule} {hit : Regex.Hit}
      (wins : table.winner? rules subject = some (s, hit)) (positive : 0 < hit.start) :
      Decides table rules subject (.ok (.skip hit.start positive))
  /-- The winner has no tokens for its match. -/
  | refused {s : SourcedRule} {hit : Regex.Hit} {e : LexError}
      (wins : table.winner? rules subject = some (s, hit)) (start : hit.start = 0)
      (fails : s.rule.tokens subject hit = .error e) : Decides table rules subject (.error e)
  /-- The winner has tokens, which name the state that it comes from. -/
  | here {s : SourcedRule} {hit : Regex.Hit} {tokens : List Token}
      (wins : table.winner? rules subject = some (s, hit)) (start : hit.start = 0)
      (positive : 0 < hit.stop) (cut : s.rule.tokens subject hit = .ok tokens) :
      Decides table rules subject (.ok (.matched hit.stop positive s.rule (match s.origin with
        | none => tokens
        | some name => tokens.map fun t => { t with state := name })))

theorem decides_matchAt (table : StateTable) (rules : List Rule) (subject : List Char) :
    table.Decides rules subject (table.matchAt rules subject) := by
  unfold matchAt
  cases hw : table.winner? rules subject with
  | none => exact .nothing hw
  | some found =>
    obtain ⟨⟨origin, rule⟩, hit⟩ := found
    dsimp only
    split
    · exact .later hw ‹_›
    · rename_i start
      cases hcut : rule.tokens subject hit with
      | error e => exact .refused hw (Nat.eq_zero_of_not_pos start) hcut
      | ok tokens => exact .here hw (Nat.eq_zero_of_not_pos start) _ hcut

/-- **A match takes characters that are there**, and its tokens are their text. -/
theorem matched_spec (hb : table.Balanced) (hrules : table.get? name = some rules) {length : Nat}
    {positive : 0 < length} {rule : PatternRule} {tokens : List Token}
    (h : table.matchAt rules subject = .ok (.matched length positive rule tokens)) :
    table.HasRule (.pattern rule) ∧ length ≤ subject.length ∧
      Token.textOf tokens = subject.take length := by
  have decides := table.decides_matchAt rules subject
  rw [h] at decides
  cases decides with
  | @here s hit tokens wins start _ cut =>
    obtain ⟨hrule, within⟩ := winner_spec hb hrules wins
    have htext := s.rule.text_tokens within cut
    rw [start, List.drop_zero, Nat.sub_zero] at htext
    refine ⟨hrule, within.stop, ?_⟩
    rw [← htext]
    cases s.origin with
    | none => rfl
    | some name => simp [Token.textOf, List.flatMap_map]

/-- The text before the nearest match is there. -/
theorem skip_spec (hb : table.Balanced) (hrules : table.get? name = some rules) {distance : Nat}
    {positive : 0 < distance} (h : table.matchAt rules subject = .ok (.skip distance positive)) :
    distance ≤ subject.length := by
  have decides := table.decides_matchAt rules subject
  rw [h] at decides
  cases decides with
  | @later s hit wins =>
    exact Nat.le_trans (Nat.le_of_lt hit.nonempty) (winner_spec hb hrules wins).2.stop

/-- Matching fails only for want of subtypes. -/
theorem misconfigured_of_matchAt {e : LexError} (h : table.matchAt rules subject = .error e) :
    ∃ pattern group subtypes, e = .misconfiguredRule pattern group subtypes := by
  have decides := table.decides_matchAt rules subject
  rw [h] at decides
  cases decides with
  | @refused s _ _ _ _ fails =>
    obtain ⟨number, rfl, -⟩ := s.rule.misconfigured_of_tokens fails
    exact ⟨_, number, _, rfl⟩

end StateTable

end LexMachine
