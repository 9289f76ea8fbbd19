import LexMachine.Proofs.Matching
import Mathlib.Order.Bounds.Defs

/-!
# Cutting a match into tokens

A match is cut at its groups, which come in the order of their numbers and not of their positions:
groups lie in one another, and a group that is repeated keeps the positions of its last turn. The
pieces tile the match all the same. A group that took part has a piece unless another one before it
reaches as far (`Cuts.covered`), a piece with a type is of a group with that type, and a
piece without one is not empty (`Cuts.sources`). There are no pieces just if some group that
took part has no subtype, and the error names the first such group (`cut_partitions`).
-/

namespace LexMachine.PatternRule

variable (r : PatternRule) {subject : List Char} {start stop group cursor last : Nat}
  {groups : List (Option (Nat × Nat))} {pieces : List Piece}

/-- A group took part in a match, and its number is greater than there are subtypes. -/
def Untyped (groups : List (Option (Nat × Nat))) (number : Nat) : Prop :=
  r.subtypes.length < number ∧ ∃ span, groups[number - 1]? = some (some span)

/-- A piece is not empty if it has no type, and otherwise has the type of a group, counted from
`group` on, and lies at the end of this group. -/
def Sources (group : Nat) (groups : List (Option (Nat × Nat))) (p : Piece) : Prop :=
  match p.type? with
  | none => p.start < p.stop
  | some type => ∃ i first, groups[i]? = some (some (first, p.stop)) ∧ first ≤ p.start ∧
      r.subtypes[group + i]? = some type

variable {r} in
theorem Sources.cons {p : Piece} (head : Option (Nat × Nat))
    (h : r.Sources (group + 1) groups p) : r.Sources group (head :: groups) p := by
  unfold Sources at h ⊢
  cases htype : p.type? with
  | none => simpa only [htype] using h
  | some type =>
    simp only [htype] at h ⊢
    obtain ⟨i, first, hspan, le, typed⟩ := h
    refine ⟨i + 1, first, hspan, le, ?_⟩
    rwa [show group + (i + 1) = group + 1 + i by omega]

variable {r} in
theorem Cuts.sources (h : r.Cuts group cursor groups pieces last) :
    ∀ p ∈ pieces, r.Sources group groups p := by
  induction h with
  | nil => simp
  | absent _ ih | passed _ _ _ _ ih => exact fun p hp => (ih p hp).cons _
  | @ahead group cursor last start stop groups pieces subtype typed _ _ ih =>
    intro p hp
    rcases List.mem_append.1 hp with hp | hp
    · by_cases less : cursor < start
      · obtain rfl : p = ⟨cursor, start, none⟩ := by simpa [less] using hp
        exact less
      · simp [less] at hp
    · rcases List.mem_cons.1 hp with rfl | hp
      · exact ⟨0, start, rfl, Nat.le_refl _, typed⟩
      · exact (ih p hp).cons _
  | @within group cursor last start stop groups pieces subtype typed before _ _ ih =>
    intro p hp
    rcases List.mem_cons.1 hp with rfl | hp
    · exact ⟨0, start, rfl, Nat.le_of_lt before, typed⟩
    · exact (ih p hp).cons _

/-- The end of a group has been reached before the group itself has come up: some group before it
goes beyond its start and as far as its end. -/
def Reached (groups : List (Option (Nat × Nat))) (i a b : Nat) : Prop :=
  ∃ j < i, ∃ c d, groups[j]? = some (some (c, d)) ∧ a < d ∧ b ≤ d

theorem Reached.cons {i a b : Nat} (head : Option (Nat × Nat)) (h : Reached groups i a b) :
    Reached (head :: groups) (i + 1) a b := by
  obtain ⟨j, hj, c, d, took, beyond, far⟩ := h
  exact ⟨j + 1, by omega, c, d, took, beyond, far⟩

/-- What lies before the end of a group has been reached for all groups after it. -/
theorem Reached.behind {i a b first stop : Nat}
    (h : (a < stop ∧ b ≤ stop) ∨ Reached groups i a b) :
    Reached (some (first, stop) :: groups) (i + 1) a b := by
  rcases h with ⟨beyond, far⟩ | reached
  · exact ⟨0, by omega, first, stop, rfl, beyond, far⟩
  · exact reached.cons _

/-- A group that gets its piece here leaves the groups after it with their pieces. -/
theorem covered_cons {subtype : TokenType} {start stop i a b : Nat} {more : List Piece}
    (typed : r.subtypes[group]? = some subtype)
    (here : ∃ p ∈ pieces, p.stop = stop ∧ p.type? = some subtype) (later : more ⊆ pieces)
    (ih : ∀ {i}, groups[i]? = some (some (a, b)) →
      (∃ p ∈ more, p.stop = b ∧ p.type? = r.subtypes[group + 1 + i]?) ∨ (a < stop ∧ b ≤ stop) ∨
        Reached groups i a b)
    (took : (some (start, stop) :: groups)[i]? = some (some (a, b))) :
    (∃ p ∈ pieces, p.stop = b ∧ p.type? = r.subtypes[group + i]?) ∨
      Reached (some (start, stop) :: groups) i a b := by
  cases i with
  | zero =>
    cases took
    obtain ⟨p, hp, stops, type⟩ := here
    exact .inl ⟨p, hp, stops, type.trans typed.symm⟩
  | succ i =>
    rw [show group + (i + 1) = group + 1 + i by omega]
    rcases ih took with ⟨p, hp, same⟩ | reached
    · exact .inl ⟨p, later hp, same⟩
    · exact .inr (.behind reached)

variable {r} in
/-- **Each group that took part has a piece**, unless its end has been reached, be it by the cursor
or by a group before it. -/
theorem Cuts.covered (h : r.Cuts group cursor groups pieces last) {i a b : Nat}
    (took : groups[i]? = some (some (a, b))) :
    (∃ p ∈ pieces, p.stop = b ∧ p.type? = r.subtypes[group + i]?) ∨ (a < cursor ∧ b ≤ cursor) ∨
      Reached groups i a b := by
  have shift (group i : Nat) : group + (i + 1) = group + 1 + i := by omega
  -- the group is the first one, which gets its piece here, or it comes up later
  induction h generalizing i with
  | nil => simp at took
  | absent _ ih =>
    cases i with
    | zero => simp at took
    | succ i =>
      rw [shift]
      exact (ih took).imp_right (Or.imp_right (Reached.cons none))
  | @ahead group cursor last start stop groups pieces subtype typed _ _ ih =>
    have here : ∃ p ∈ (if cursor < start then [(⟨cursor, start, none⟩ : Piece)] else []) ++
        ⟨start, stop, some subtype⟩ :: pieces, p.stop = stop ∧ p.type? = some subtype :=
      ⟨⟨start, stop, some subtype⟩, by simp, rfl, rfl⟩
    exact (r.covered_cons typed here (fun p hp => by simp [hp]) ih took).imp_right .inr
  | @within group cursor last start stop groups pieces subtype typed _ _ _ ih =>
    have here : ∃ p ∈ ⟨cursor, stop, some subtype⟩ :: pieces,
        p.stop = stop ∧ p.type? = some subtype := ⟨⟨cursor, stop, some subtype⟩, by simp, rfl, rfl⟩
    exact (r.covered_cons typed here (List.subset_cons_self _ _) ih took).imp_right .inr
  | passed _ before behind _ ih =>
    cases i with
    | zero =>
      cases took
      exact .inr (.inl ⟨before, behind⟩)
    | succ i =>
      rw [shift]
      exact (ih took).imp_right (Or.imp_right (Reached.cons _))

/-! ## The whole match -/

/-- **The pieces of a match**, given where it starts and stops and where its groups do. -/
structure Partitions (r : PatternRule) (start stop : Nat) (groups : List (Option (Nat × Nat)))
    (pieces : List Piece) : Prop where
  /-- Each piece starts where the one before it stops, from the start of the match to its end. -/
  tiles : Tiles start stop pieces
  /-- No piece reaches out of the match. -/
  bounds : ∀ p ∈ pieces, start ≤ p.start ∧ p.start ≤ p.stop ∧ p.stop ≤ stop
  /-- Text around the groups has a piece only if there is any. -/
  gaps : ∀ p ∈ pieces, p.type? = none → p.start < p.stop
  /-- Without subtypes there is one piece of the base type. -/
  whole : r.subtypes = [] → pieces = [⟨start, stop, some r.type⟩]
  /-- With subtypes a piece with a type lies at the end of a group with this type. -/
  sources : r.subtypes ≠ [] → ∀ p ∈ pieces, ∀ type, p.type? = some type →
    ∃ i first : Nat, groups[i]? = some (some (first, p.stop)) ∧ first ≤ p.start ∧
      r.subtypes[i]? = some type
  /-- With subtypes a group that took part has a piece unless its end has been reached before. -/
  covered : r.subtypes ≠ [] → ∀ i a b, groups[i]? = some (some (a, b)) →
    (∃ p ∈ pieces, p.stop = b ∧ p.type? = r.subtypes[i]?) ∨ Reached groups i a b

theorem partitions_pieces (ordered : start ≤ stop)
    (within : ∀ a b, some (a, b) ∈ groups → start ≤ a ∧ a ≤ b ∧ b ≤ stop)
    (h : r.pieces start stop groups = .ok pieces) : r.Partitions start stop groups pieces := by
  have tiles := r.tiles_pieces ordered (fun a b hab => (within a b hab).2) h
  unfold PatternRule.pieces at h
  by_cases typed : r.subtypes = []
  · rw [if_pos (List.isEmpty_iff.2 typed)] at h
    cases h
    exact ⟨tiles, tiles.bounds, by simp, fun _ => rfl, absurd typed, absurd typed⟩
  · rw [if_neg (mt List.isEmpty_iff.1 typed)] at h
    obtain ⟨⟨grouped, cursor⟩, hgrouped, h⟩ := bind_eq_ok.1 h
    cases h
    have cuts := r.cuts_of_groupPieces hgrouped
    have rest : ∀ p ∈ (if cursor < stop then [(⟨cursor, stop, none⟩ : Piece)] else []),
        p.type? = none ∧ p.start < p.stop := by
      intro p hp
      split at hp
      · obtain rfl := List.mem_singleton.1 hp
        exact ⟨rfl, ‹_›⟩
      · cases hp
    refine ⟨tiles, tiles.bounds, fun p hp untyped => ?_, fun none => absurd none typed,
      fun _ p hp type htype => ?_, fun _ i a b took => ?_⟩
    · rcases List.mem_append.1 hp with hp | hp
      · simpa only [Sources, untyped] using cuts.sources p hp
      · exact (rest p hp).2
    · rcases List.mem_append.1 hp with hp | hp
      · simpa only [Sources, htype, Nat.zero_add] using cuts.sources p hp
      · rw [(rest p hp).1] at htype
        cases htype
    · have inside := within a b (List.mem_of_getElem? took)
      rcases cuts.covered took with ⟨p, hp, same⟩ | ⟨before, -⟩ | reached
      · rw [Nat.zero_add] at same
        exact .inl ⟨p, List.mem_append_left _ hp, same⟩
      · omega
      · exact .inr reached

/-- A match is not cut up just if there are subtypes and a group that took part has none. -/
theorem types_cut (typed : r.subtypes ≠ []) (subject : List Char) (start stop : Nat)
    (groups : List (Option (Nat × Nat))) :
    match r.cut subject start stop groups with
    | .ok _ => ∀ number, ¬ r.Untyped groups number
    | .error e => ∃ number, IsLeast {n | r.Untyped groups n} number ∧
        e = .misconfiguredRule r.regex.pattern number r.subtypes.length := by
  have types := r.types_pieces typed start stop groups
  unfold cut
  cases hpieces : r.pieces start stop groups with
  | ok pieces =>
    rw [hpieces] at types
    intro number ⟨lacks, span, took⟩
    have there := types _ span took
    omega
  | error e =>
    rw [hpieces] at types
    obtain ⟨i, span, took, lacks, first, rfl⟩ := types
    refine ⟨i + 1, ⟨⟨by omega, span, took⟩, ?_⟩, by rw [Nat.zero_add]⟩
    rintro number ⟨lacks', span', took'⟩
    refine Nat.le_of_not_lt fun less => ?_
    have there := first (number - 1) (by omega) span' took'
    omega

/-- What is cut off before the first group without a subtype comes up lies in the match. -/
theorem bounds_before (ordered : start ≤ stop)
    (within : ∀ a b, some (a, b) ∈ groups → start ≤ a ∧ a ≤ b ∧ b ≤ stop) {number : Nat}
    (least : IsLeast {n | r.Untyped groups n} number) :
    ∃ pieces last, r.groupPieces 0 start (groups.take (number - 1)) = .ok (pieces, last) ∧
      ∀ p ∈ pieces, start ≤ p.start ∧ p.start ≤ p.stop ∧ p.stop ≤ stop := by
  have types := r.types_groupPieces 0 start (groups.take (number - 1))
  cases hgrouped : r.groupPieces 0 start (groups.take (number - 1)) with
  | ok result =>
    obtain ⟨tiles, hlast⟩ := (r.cuts_of_groupPieces hgrouped).tiles ordered fun a b hab =>
      (within a b (List.mem_of_mem_take hab)).2
    refine ⟨result.1, result.2, rfl, fun p hp => ?_⟩
    obtain ⟨first, le, last⟩ := tiles.bounds p hp
    exact ⟨first, le, Nat.le_trans last hlast⟩
  | error e =>
    rw [hgrouped] at types
    obtain ⟨i, span, took, lacks, -, -⟩ := types
    rw [List.getElem?_take] at took
    by_cases before : i < number - 1
    · rw [if_pos before] at took
      have later : number ≤ i + 1 := least.2 ⟨by omega, span, took⟩
      omega
    · simp [before] at took

/-- **The tokens of a match partition it.** There are none just if there are subtypes, but a group
that took part has none; the error names the least such group, and what has been cut off by then
lies in the match. The tokens are the texts of pieces that tile the match, so that together they are
its text; no piece reaches out of it, and a token of the base type for text around the groups is not
empty. -/
theorem cut_partitions (ordered : start ≤ stop) (inside : stop ≤ subject.length)
    (within : ∀ a b, some (a, b) ∈ groups → start ≤ a ∧ a ≤ b ∧ b ≤ stop) :
    ((∃ e, r.cut subject start stop groups = .error e) ↔
        r.subtypes ≠ [] ∧ ∃ number, r.Untyped groups number) ∧
      (∀ e, r.cut subject start stop groups = .error e →
        ∃ number, IsLeast {n | r.Untyped groups n} number ∧
          e = .misconfiguredRule r.regex.pattern number r.subtypes.length ∧
          ∃ pieces last, r.groupPieces 0 start (groups.take (number - 1)) = .ok (pieces, last) ∧
            ∀ p ∈ pieces, start ≤ p.start ∧ p.start ≤ p.stop ∧ p.stop ≤ stop) ∧
      ∀ tokens, r.cut subject start stop groups = .ok tokens →
        String.join (tokens.map (·.value)) = slice subject start stop ∧
        ∃ pieces, r.pieces start stop groups = .ok pieces ∧ tokens = pieces.map (r.token subject) ∧
          r.Partitions start stop groups pieces ∧
          ∀ p ∈ pieces, p.type? = none →
            (r.token subject p).type = r.type ∧ (r.token subject p).value ≠ "" := by
  have untyped : ∀ e, r.cut subject start stop groups = .error e → r.subtypes ≠ [] := by
    intro e he none
    simp [cut, PatternRule.pieces, none, Except.map] at he
  refine ⟨⟨?_, ?_⟩, fun e he => ?_, fun tokens ht => ?_⟩
  · rintro ⟨e, he⟩
    have types := r.types_cut (untyped e he) subject start stop groups
    rw [he] at types
    obtain ⟨number, least, -⟩ := types
    exact ⟨untyped e he, number, least.1⟩
  · rintro ⟨typed, number, lacks⟩
    have types := r.types_cut typed subject start stop groups
    cases hcut : r.cut subject start stop groups with
    | error e => exact ⟨e, rfl⟩
    | ok tokens =>
      rw [hcut] at types
      exact absurd lacks (types number)
  · have types := r.types_cut (untyped e he) subject start stop groups
    rw [he] at types
    obtain ⟨number, least, same⟩ := types
    exact ⟨number, least, same, r.bounds_before ordered within least⟩
  · obtain ⟨pieces, hpieces, rfl⟩ := map_eq_ok.1 ht
    have partitions := r.partitions_pieces ordered within hpieces
    refine ⟨?_, pieces, hpieces, rfl, partitions, fun p hp gap => ⟨by simp [token, gap], ?_⟩⟩
    · rw [Token.join_values, partitions.tiles.text]
      rfl
    · -- the piece is not empty, and it lies in the subject
      have less := partitions.gaps p hp gap
      obtain ⟨-, -, bound⟩ := partitions.bounds p hp
      intro empty
      have length := congrArg (·.toList.length) empty
      simp only [token, toList_slice, List.length_take, List.length_drop, String.toList_empty,
        List.length_nil] at length
      omega

/-- A rule whose groups are found in either order. -/
def eitherOrder (subtypes : List TokenType) : PatternRule where
  regex := (Regex.ofPattern "(?:(a)|(b))+").toOption.get (by decide)
  type := .text
  subtypes := subtypes
  next := []

/-- The second group stands before the first one, which has a piece; the second one has none, since
its end has been reached. With one subtype the second group is the one that lacks its own. -/
theorem cut_partitions_eitherOrder :
    (eitherOrder [.tag, .attr]).cut ['b', 'a'] 0 2 [some (1, 2), some (0, 1)] =
        .ok [⟨"b", .text, ""⟩, ⟨"a", .tag, ""⟩] ∧
      (eitherOrder [.tag, .attr]).Partitions 0 2 [some (1, 2), some (0, 1)]
        [⟨0, 1, none⟩, ⟨1, 2, some .tag⟩] ∧
      IsLeast {n | (eitherOrder [.tag]).Untyped [some (1, 2), some (0, 1)] n} 2 := by
  have within : ∀ a b, some (a, b) ∈ [some (1, 2), some (0, 1)] → 0 ≤ a ∧ a ≤ b ∧ b ≤ 2 := by
    intro a b h
    simp at h
    omega
  have inside : 2 ≤ ['b', 'a'].length := by decide
  obtain ⟨-, -, partitions⟩ :=
    (eitherOrder [.tag, .attr]).cut_partitions (Nat.zero_le 2) inside within
  obtain ⟨-, least, -⟩ := (eitherOrder [.tag]).cut_partitions (Nat.zero_le 2) inside within
  have cut : (eitherOrder [.tag, .attr]).cut ['b', 'a'] 0 2 [some (1, 2), some (0, 1)] =
      .ok [⟨"b", .text, ""⟩, ⟨"a", .tag, ""⟩] := by rfl
  have lacks : (eitherOrder [.tag]).cut ['b', 'a'] 0 2 [some (1, 2), some (0, 1)] =
      .error (.misconfiguredRule "(?:(a)|(b))+" 2 1) := by rfl
  obtain ⟨-, pieces, hpieces, -, shape, -⟩ := partitions _ cut
  obtain ⟨number, first, same, -⟩ := least _ lacks
  cases hpieces
  cases same
  exact ⟨cut, shape, first⟩

end LexMachine.PatternRule
