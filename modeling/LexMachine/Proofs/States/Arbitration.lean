import LexMachine.Proofs.Matching
import LexMachine.Proofs.Regex.SideBySide
import LexMachine.Proofs.States.Inlining

/-!
# The rule that wins

Of the rules that a state stands for the one that matches earliest wins, and of those that start
together the first. That is what the side by side search of a state finds (`winner_eq_earliest`),
and what a search finds that leaves includes where they are and looks into their targets when it
comes to them (`nested_eq_earliest`): it compares in other groups, which makes no difference.

So a state finds what its inlined rules find one by one, and does with a match at the start of the
subject what the first rule that matches there does by itself (`includes_mean_inlining`).
-/

namespace LexMachine

open Regex (Hit earlier earliest)

/-! ## Rules one by one -/

namespace SourcedRule

/-- The first match of a rule in a subject, with the rule. -/
def find? (s : SourcedRule) (subject : List Char) : Option (SourcedRule × Hit) :=
  (s.rule.find? subject).map (s, ·)

/-- Whether the first match of a rule is at the start of a subject. -/
def matchesAtStart (subject : List Char) (s : SourcedRule) : Bool :=
  (s.rule.find? subject).any (·.start == 0)

/-- Where the first matches of rules start. -/
def starts (flat : List SourcedRule) (subject : List Char) : List Nat :=
  flat.filterMap fun s => (s.rule.find? subject).map (·.start)

/-- A rule reached through an include: it comes from the target unless it comes from further
inside. -/
def via (target : String) (s : SourcedRule) : SourcedRule :=
  { s with origin := some (s.origin.getD target) }

variable {flat : List SourcedRule} {subject : List Char} {s : SourcedRule} {h : Hit}

/-- The earliest of the first matches of rules, the first of those that start together. -/
def earliest? (flat : List SourcedRule) (subject : List Char) : Option (SourcedRule × Hit) :=
  earliest (flat.map (·.find? subject))

theorem earliest?_cons (s : SourcedRule) (flat : List SourcedRule) (subject : List Char) :
    earliest? (s :: flat) subject = earlier (s.find? subject) (earliest? flat subject) := rfl

theorem earliest?_append (xs ys : List SourcedRule) (subject : List Char) :
    earliest? (xs ++ ys) subject = earlier (earliest? xs subject) (earliest? ys subject) := by
  rw [earliest?, List.map_append, Regex.earliest_append]
  rfl

theorem find?_via (target : String) (s : SourcedRule) (subject : List Char) :
    (s.via target).find? subject = (s.find? subject).map (Prod.map (via target) id) := by
  simp only [find?, via, Option.map_map]
  rfl

theorem earliest?_via (target : String) (flat : List SourcedRule) (subject : List Char) :
    earliest? (flat.map (·.via target)) subject =
      (earliest? flat subject).map (Prod.map (·.via target) id) := by
  rw [earliest?, earliest?, ← Regex.earliest_map, List.map_map, List.map_map]
  congr 1
  exact List.map_congr_left fun s _ => s.find?_via target subject

/-- The earliest match starts where the least start is. -/
theorem start_earliest (flat : List SourcedRule) (subject : List Char) :
    (earliest? flat subject).map (·.2.start) = (starts flat subject).min? := by
  induction flat with
  | nil => rfl
  | cons s flat ih =>
    rw [earliest?_cons, starts, List.filterMap_cons, ← starts]
    cases hs : s.rule.find? subject with
    | none => simpa [find?, hs] using ih
    | some h =>
      rw [find?, hs, Option.map_some, Option.map_some, List.min?_cons, ← ih]
      cases earliest? flat subject with
      | none => rfl
      | some b =>
        show Option.map _ (if b.2.start < h.start then some b else some (s, h)) =
          some (min h.start b.2.start)
        split
        · rw [Nat.min_eq_right (Nat.le_of_lt ‹_›)]
          rfl
        · rw [Nat.min_eq_left (Nat.not_lt.1 ‹_›)]
          rfl

theorem find?_of_earliest (hw : earliest? flat subject = some (s, h)) :
    s ∈ flat ∧ s.rule.find? subject = some h := by
  obtain ⟨s', hmem, hfind⟩ := List.mem_map.1 (Regex.mem_of_earliest hw)
  obtain ⟨h', hh, heq⟩ := Option.map_eq_some_iff.1 hfind
  obtain ⟨rfl, rfl⟩ := Prod.mk.inj heq
  exact ⟨hmem, hh⟩

/-- A match at the start is that of the first rule that matches there. -/
theorem first_of_earliest (hw : earliest? flat subject = some (s, h)) (start : h.start = 0) :
    flat.find? (matchesAtStart subject) = some s := by
  induction flat with
  | nil => cases hw
  | cons r flat ih =>
    rw [earliest?_cons] at hw
    by_cases hr : r.matchesAtStart subject = true
    · obtain ⟨h', hh, hstart⟩ := (Option.any_eq_true ..).1 hr
      rw [find?, hh, Option.map_some, Regex.earlier_eq_left] at hw
      · cases hw
        exact List.find?_cons_of_pos hr
      · intro b _
        rw [beq_iff_eq] at hstart
        exact hstart ▸ Nat.zero_le _
    · rw [List.find?_cons_of_neg hr]
      -- the rule does not match at the start, so the winner is another one
      cases hrest : earliest? flat subject with
      | none =>
        rw [hrest, Regex.earlier_none, find?] at hw
        obtain ⟨h', hh, heq⟩ := Option.map_eq_some_iff.1 hw
        obtain ⟨rfl, rfl⟩ := Prod.mk.inj heq
        exact absurd (by simp [matchesAtStart, hh, start]) hr
      | some b =>
        rw [hrest, find?] at hw
        cases hh : r.rule.find? subject with
        | none =>
          rw [hh] at hw
          exact ih (hrest.trans hw)
        | some h' =>
          rw [hh, Option.map_some, earlier] at hw
          split at hw
          · exact ih (hrest.trans hw)
          · cases hw
            exact absurd (by simp [matchesAtStart, hh, start]) hr

end SourcedRule

namespace PatternRule

/-- A rule leaves it open in which state its tokens have been recognised. -/
theorem state_tokens (r : PatternRule) {subject : List Char} {h : Hit} {tokens : List Token}
    (ht : r.tokens subject h = .ok tokens) : ∀ t ∈ tokens, t.state = "" := by
  obtain ⟨pieces, -, rfl⟩ := map_eq_ok.1 ht
  intro t ht
  obtain ⟨p, -, rfl⟩ := List.mem_map.1 ht
  rfl

end PatternRule

namespace StateTable

variable (table : StateTable) (subject : List Char)

/-! ## The side by side search -/

theorem winner_eq_earliest (rules : List Rule) :
    table.winner? rules subject = SourcedRule.earliest? (table.rulesOf rules) subject := by
  rw [winner?, Regex.search_eq_earliest, List.map_map]
  rfl

/-- A state without rules finds nothing. -/
theorem matchAt_nil : table.matchAt [] subject = .ok .noMatch := by
  have nothing : table.winner? [] subject = none := by
    rw [winner_eq_earliest, rulesOf, flatten]
    rfl
  simp [matchAt, nothing]

/-! ## The nested search -/

/-- Whether a match starts at the start of the subject, where none can be earlier. -/
def startsAtOnce (found : Option (SourcedRule × Hit)) : Bool := found.any (·.2.start == 0)

/-- **The nested search** of a state keeps the best match so far. It looks into the target of an
include when it comes to it, a match takes the place of the best one only if it starts before it,
and one at the start of the subject ends the search. -/
def nested? : Nat → Option (SourcedRule × Hit) → List Rule → Option (SourcedRule × Hit)
  | _, best, [] => best
  | levels, best, .pattern rule :: rules =>
    let best := earlier best (SourcedRule.find? ⟨none, rule⟩ subject)
    if startsAtOnce best then best else nested? levels best rules
  | 0, best, .incl _ :: rules => nested? 0 best rules
  | levels + 1, best, .incl target :: rules =>
    let best := earlier best <| (table.get? target).bind fun included =>
      (nested? levels none included).map (Prod.map (·.via target) id)
    if startsAtOnce best then best else nested? (levels + 1) best rules
termination_by levels _ rules => (levels, rules.length)

variable {table subject}

theorem earlier_of_startsAtOnce {a : Option (SourcedRule × Hit)} (h : startsAtOnce a = true)
    (b : Option (SourcedRule × Hit)) : earlier a b = a := by
  obtain ⟨found, rfl, hstart⟩ := (Option.any_eq_true ..).1 h
  refine Regex.earlier_eq_left fun b' _ => ?_
  rw [beq_iff_eq] at hstart
  exact hstart ▸ Nat.zero_le _

theorem flatten_via (levels : Nat) (origin : Option String) (target : String)
    (rules : List Rule) :
    (table.flatten levels origin rules).map (·.via target) =
      table.flatten levels (some (origin.getD target)) rules := by
  fun_induction table.flatten levels origin rules with
  | case1 => simp [flatten]
  | case2 levels origin rule rules ih =>
    rw [flatten, List.map_cons, ih]
    rfl
  | case3 origin name rules ih => rw [flatten, ih]
  | case4 levels origin name rules ihInside ihLater =>
    rw [flatten, List.map_append, ihLater]
    cases hget : table.get? name with
    | none => rfl
    | some included =>
      -- rules from further inside keep their origin
      have inside := ihInside included
      rw [Option.getD_some] at inside
      dsimp only
      rw [inside]

/-- The rules that an include stands for, to so many levels. -/
def reached (table : StateTable) (levels : Nat) (target : String) : List SourcedRule :=
  match table.get? target with
  | none => []
  | some included => table.flatten levels (some target) included

theorem flatten_incl (levels : Nat) (origin : Option String) (target : String)
    (rules : List Rule) :
    table.flatten (levels + 1) origin (.incl target :: rules) =
      table.reached levels target ++ table.flatten (levels + 1) origin rules := by
  rw [flatten]
  rfl

/-- What is reached through an include is found in its target. -/
theorem earliest?_reached (levels : Nat) (target : String) :
    SourcedRule.earliest? (table.reached levels target) subject =
      (table.get? target).bind fun included =>
        (SourcedRule.earliest? (table.flatten levels none included) subject).map
          (Prod.map (·.via target) id) := by
  unfold reached
  cases table.get? target with
  | none => rfl
  | some included =>
    have via := @flatten_via table levels none target included
    rw [Option.getD_none] at via
    dsimp only
    rw [Option.bind_some, ← via, SourcedRule.earliest?_via]

/-- **The nested search finds the winner of the flat list.** -/
theorem nested_eq_earliest (levels : Nat) (best : Option (SourcedRule × Hit))
    (rules : List Rule) :
    table.nested? subject levels best rules =
      earlier best (SourcedRule.earliest? (table.flatten levels none rules) subject) := by
  fun_induction table.nested? subject levels best rules with
  | case1 =>
    rw [flatten]
    exact (Regex.earlier_none _).symm
  | case2 levels best rule rules best' hstop =>
    -- the rule matches at once, so it does not matter that the others are left out
    rw [flatten, SourcedRule.earliest?_cons, ← Regex.earlier_assoc]
    exact (earlier_of_startsAtOnce hstop _).symm
  | case3 levels best rule rules best' _ ih =>
    rw [flatten, SourcedRule.earliest?_cons, ← Regex.earlier_assoc, ih]
  | case4 best target rules ih => rw [ih, flatten]
  | case5 levels best target rules best' hstop ihInside =>
    -- what the target reaches matches at once, so the rules behind the include are left out
    have found : best' =
        earlier best (SourcedRule.earliest? (table.reached levels target) subject) := by
      rw [earliest?_reached]
      simp [best', ihInside]
    rw [flatten_incl, SourcedRule.earliest?_append, ← Regex.earlier_assoc, ← found]
    exact (earlier_of_startsAtOnce hstop _).symm
  | case6 levels best target rules best' _ ihInside ih =>
    have found : best' =
        earlier best (SourcedRule.earliest? (table.reached levels target) subject) := by
      rw [earliest?_reached]
      simp [best', ihInside]
    rw [flatten_incl, SourcedRule.earliest?_append, ← Regex.earlier_assoc, ← found, ih]

/-! ## What a state finds -/

variable {rules : List Rule}

/-- A match at the start of a subject is what the rule that wins makes of it by itself, told where
the rule comes from. -/
theorem matchAt_of_winner {s : SourcedRule} {h : Hit}
    (hw : table.winner? rules subject = some (s, h)) (find : s.rule.find? subject = some h)
    (start : h.start = 0) :
    (∃ e, s.rule.matchAt subject = .error e ∧ table.matchAt rules subject = .error e) ∨
      ∃ length positive tokens, s.rule.matchAt subject = .ok (some (length, tokens)) ∧
        table.matchAt rules subject = .ok (.matched length positive s.rule
          (tokens.map fun t => { t with state := s.origin.getD "" })) := by
  obtain ⟨origin, rule⟩ := s
  have alone : rule.matchAt subject = do return some (h.stop, ← rule.tokens subject h) := by
    unfold PatternRule.matchAt
    rw [find]
    exact if_pos (by simp [start])
  unfold matchAt
  rw [hw, alone]
  dsimp only
  rw [dif_neg (by omega)]
  cases hcut : rule.tokens subject h with
  | error e => exact .inl ⟨e, rfl, rfl⟩
  | ok tokens =>
    refine .inr ⟨h.stop, Nat.lt_of_le_of_lt (Nat.zero_le _) h.nonempty, tokens, rfl, ?_⟩
    cases origin with
    | some name => rfl
    | none =>
      -- a rule of the state itself leaves its tokens without a state
      have same : tokens.map (fun t => { t with state := "" }) = tokens := by
        refine (List.map_congr_left fun t ht => ?_).trans tokens.map_id
        rw [← rule.state_tokens hcut t ht]
        rfl
      show Except.ok _ = Except.ok _
      rw [Option.getD_none, same]

/-- **Includes mean inlining, and the leftmost of the earliest wins.** Where no state includes
itself the rules of a state stand for one list of pattern rules. The nested search of the state and
the search of the list side by side find the same. The state finds the least of the positions at
which the rules of the list find their first matches. If there is none nothing matches; if it is not
the start of the subject the text before it is skipped; and at the start the first rule of the list
that matches there decides, with the length and the tokens or the error of its own match, and the
tokens name the included state that the rule comes from, or none. -/
theorem includes_mean_inlining (acyclic : table.Acyclic) {name : String}
    (declared : table.get? name = some rules) :
    ∃ flat, table.Inlines none rules flat ∧
      (∀ other, table.Inlines none rules other → other = flat) ∧
      ∀ subject,
        (∀ levels, table.size ≤ levels →
          table.nested? subject levels none rules = table.winner? rules subject) ∧
        table.find? rules subject = (SourcedRule.starts flat subject).min? ∧
        ((SourcedRule.starts flat subject).min? = none →
          table.matchAt rules subject = .ok .noMatch) ∧
        (∀ distance, (SourcedRule.starts flat subject).min? = some distance →
          ∀ positive : 0 < distance,
            table.matchAt rules subject = .ok (.skip distance positive)) ∧
        ((SourcedRule.starts flat subject).min? = some 0 →
          ∃ s, flat.find? (SourcedRule.matchesAtStart subject) = some s ∧
            ((∃ e, s.rule.matchAt subject = .error e ∧
                table.matchAt rules subject = .error e) ∨
              ∃ length positive tokens,
                s.rule.matchAt subject = .ok (some (length, tokens)) ∧
                table.matchAt rules subject = .ok (.matched length positive s.rule
                  (tokens.map fun t => { t with state := s.origin.getD "" })))) := by
  have inlines := inlines_of_levels acyclic declared (Nat.le_refl _)
  refine ⟨table.rulesOf rules, inlines, fun other h => inlines.unique h, fun subject => ?_⟩
  have winner := winner_eq_earliest table subject rules
  have least := SourcedRule.start_earliest (table.rulesOf rules) subject
  refine ⟨fun levels enough => ?_, ?_, fun nothing => ?_, fun distance hd positive => ?_,
    fun start => ?_⟩
  · rw [nested_eq_earliest, Regex.none_earlier, winner]
    rw [inlines.unique (inlines_of_levels acyclic declared enough)]
    rfl
  · rw [find?, winner, least]
  · rw [← least, Option.map_eq_none_iff] at nothing
    unfold matchAt
    rw [winner, nothing]
  · rw [← least] at hd
    obtain ⟨⟨s, h⟩, hw, rfl⟩ := Option.map_eq_some_iff.1 hd
    unfold matchAt
    rw [winner, hw]
    exact dif_pos positive
  · rw [← least] at start
    obtain ⟨⟨s, h⟩, hw, hstart⟩ := Option.map_eq_some_iff.1 start
    have find := (SourcedRule.find?_of_earliest hw).2
    exact ⟨s, SourcedRule.first_of_earliest hw hstart,
      matchAt_of_winner (winner.trans hw) find hstart⟩

/-- A table in which the root state includes a state that is not defined, and words, which include
digits. -/
def wordsAndDigits : StateTable where
  entries :=
    [("digits", [.pattern ⟨(Regex.ofPattern "[0-9]+").toOption.get (by decide), .number, [], []⟩]),
     ("root", [.incl "blanks", .incl "words"]),
     ("words",
      [.pattern ⟨(Regex.ofPattern "[a-z]+").toOption.get (by decide), .text, [], []⟩,
       .incl "digits"])]
  increasing := by decide

theorem acyclic_wordsAndDigits : wordsAndDigits.Acyclic := by
  refine acyclic_of_rank (fun name => if name = "root" then 2 else if name = "words" then 1 else 0)
    fun name target h => ?_
  obtain ⟨rules, hrules, ht⟩ := h
  rw [NameMap.get?_eq_some_iff] at hrules
  simp [wordsAndDigits] at hrules
  rcases hrules with ⟨rfl, rfl⟩ | ⟨rfl, rfl⟩ | ⟨rfl, rfl⟩
  · simp at ht
  · simp at ht
    rcases ht with rfl | rfl <;> decide
  · simp at ht
    subst ht
    decide

/-- What the root state finds in a text with a digit in it is what the rules of words and digits
find, and its nested search agrees. -/
theorem includes_mean_inlining_digits :
    ∃ flat, wordsAndDigits.Inlines none [.incl "blanks", .incl "words"] flat ∧
      wordsAndDigits.find? [.incl "blanks", .incl "words"] ['-', '7', 'a'] =
        (SourcedRule.starts flat ['-', '7', 'a']).min? ∧
      wordsAndDigits.nested? ['-', '7', 'a'] 3 none [.incl "blanks", .incl "words"] =
        wordsAndDigits.winner? [.incl "blanks", .incl "words"] ['-', '7', 'a'] := by
  have declared : wordsAndDigits.get? "root" = some [.incl "blanks", .incl "words"] := rfl
  obtain ⟨flat, inlines, -, finds⟩ := includes_mean_inlining acyclic_wordsAndDigits declared
  exact ⟨flat, inlines, (finds _).2.1, (finds _).1 3 (by decide)⟩

end StateTable

end LexMachine
