import LexMachine.Proofs.Regex.Size
import LexMachine.Proofs.Run.Safety

/-!
# Checking specifications

Whether a specification is well-formed can be computed without laying out any automaton, as long as
its patterns are light (`typed_of_isTyped`). The same check sees to it that each rule has a type for
each group of its pattern, if it has types at all, so that no rule of the lexer lacks one
(`Typed.not_lacks`). Patterns that the check is too coarse for are looked at one by one, and the
check is told how many groups they have.
-/

namespace LexMachine

namespace Regex

/-- The expression that a pattern stands for, before its size is looked at. -/
def expression? (pattern : List Char) : Option Node :=
  match Reading.turns pattern.length {} pattern with
  | .error _ => none
  | .ok r =>
    if r.opened.isEmpty && r.level.whole.depth ≤ maxDepth then some r.level.whole.node else none

theorem reading_of_expression {pattern : List Char} {n : Node} (h : expression? pattern = some n) :
    ∃ r, Reading.turns pattern.length {} pattern = .ok r ∧ r.opened.isEmpty = true ∧
      r.level.whole.depth ≤ maxDepth ∧ r.level.whole.node = n := by
  unfold expression? at h
  split at h
  · cases h
  · rename_i r read
    split at h
    · rename_i accepted
      obtain ⟨closed, shallow⟩ : r.opened.isEmpty = true ∧ r.level.whole.depth ≤ maxDepth := by
        simpa using accepted
      exact ⟨r, read, closed, shallow, Option.some.inj h⟩
    · cases h

/-- A pattern whose expression is small enough is a regular expression. -/
theorem ofPattern_of_expression {pattern : String} {n : Node}
    (h : expression? pattern.toList = some n) (small : n.isWithinLimit = true) :
    ∃ regex, ofPattern pattern = .ok regex ∧ regex.groupCount = n.groupCount := by
  have parsed : parse pattern.toList = .ok n := by
    obtain ⟨r, read, closed, shallow, rfl⟩ := reading_of_expression h
    simp [parse, read, closed, Nat.not_lt.2 shallow, small, bind, Except.bind, pure, Except.pure]
  refine ⟨⟨pattern, n.program⟩, ?_, rfl⟩
  rw [ofPattern, parsed]
  rfl

/-- The weight of a set as its runs show it. -/
def runWeight (s : Unicode.CodeSet) : Nat := 128 + 5608 * s.runs.length

theorem weight_le_runWeight (s : Unicode.CodeSet) : s.weight ≤ runWeight s := by
  have := s.length_byteSequences_le
  unfold Unicode.CodeSet.weight runWeight
  omega

/-- Whether the runs of the sets of an expression show that it is small enough. -/
def Node.isLight (n : Node) : Bool :=
  !n.hasTexts && n.weight runWeight + 292 ≤ Layout.limit

theorem Node.isWithinLimit_of_isLight {n : Node} (h : n.isLight = true) :
    n.isWithinLimit = true := by
  obtain ⟨apart, light⟩ :
      n.hasTexts = false ∧ n.weight runWeight + 292 ≤ Layout.limit := by simpa [isLight] using h
  exact isWithinLimit_of_weight weight_le_runWeight apart light

end Regex

/-! ## Rules -/

namespace RuleSpec

/-- **A rule that lacks nothing**: its pattern is a regular expression, and if the rule has types
for groups it has one for each. -/
def Typed (r : RuleSpec) : Prop :=
  ∀ pattern ∈ r.regexp, ∃ regex, Regex.ofPattern pattern = .ok regex ∧
    (r.subtypes = [] ∨ regex.groupCount ≤ r.subtypes.length)

/-- Whether a rule has types enough for so many groups. -/
def hasTypes (r : RuleSpec) (groups : Nat) : Bool :=
  r.subtypes.isEmpty || groups ≤ r.subtypes.length

/-- Whether a rule has no pattern or a light one that it has types enough for. -/
def isLight (r : RuleSpec) : Bool :=
  r.regexp.all fun pattern =>
    (Regex.expression? pattern.toList).any fun n => n.isLight && r.hasTypes n.groupCount

theorem typed_of_parsed {r : RuleSpec} {pattern : String} {regex : Regex}
    (written : r.regexp = some pattern) (parsed : Regex.ofPattern pattern = .ok regex)
    (enough : r.hasTypes regex.groupCount = true) : r.Typed := by
  rw [Typed, written]
  rintro _ ⟨⟩
  exact ⟨regex, parsed, by simpa [hasTypes] using enough⟩

theorem typed_of_isLight {r : RuleSpec} (h : r.isLight = true) : r.Typed := by
  cases written : r.regexp with
  | none => simp [Typed, written]
  | some pattern =>
    rw [isLight, written, Option.all_some] at h
    cases hn : Regex.expression? pattern.toList with
    | none => simp [hn] at h
    | some n =>
      rw [hn, Option.any_some, Bool.and_eq_true] at h
      obtain ⟨regex, parsed, groups⟩ :=
        Regex.ofPattern_of_expression hn (Regex.Node.isWithinLimit_of_isLight h.1)
      exact typed_of_parsed written parsed (groups ▸ h.2)

/-- Whether the pattern of a rule is one of those whose groups are known, and the rule has types
enough for it. -/
def isKnown (r : RuleSpec) (known : List (String × Nat)) : Bool :=
  known.any fun k => r.regexp == some k.1 && r.hasTypes k.2

theorem typed_of_isKnown {r : RuleSpec} {known : List (String × Nat)} (h : r.isKnown known = true)
    (parsed : ∀ k ∈ known, ∃ regex, Regex.ofPattern k.1 = .ok regex ∧ regex.groupCount = k.2) :
    r.Typed := by
  obtain ⟨k, hk, same⟩ := List.any_eq_true.1 h
  rw [Bool.and_eq_true, beq_iff_eq] at same
  obtain ⟨regex, hregex, groups⟩ := parsed k hk
  exact typed_of_parsed same.1 hregex (groups ▸ same.2)

/-- Whether a rule is a pattern or an include, and refers to states of a specification only. -/
def isPlaced (r : RuleSpec) (spec : LexerSpec) : Bool :=
  r.regexp.isSome != r.included.isSome && (r.included.isNone || r.next.isNone) &&
    r.included.all (spec.states.contains ·) &&
    r.transitions.all fun
      | .pop => true
      | .push state => spec.states.contains state

theorem wellFormed_of_isPlaced {r : RuleSpec} {spec : LexerSpec} (placed : r.isPlaced spec = true)
    (typed : r.Typed) : r.WellFormed spec := by
  simp only [isPlaced, Bool.and_eq_true, bne_iff_ne, Bool.or_eq_true, Option.isNone_iff_eq_none,
    List.all_eq_true] at placed
  obtain ⟨⟨⟨one, still⟩, target⟩, pushed⟩ := placed
  refine ⟨one, fun included => ?_, fun name hname => ?_, fun state hstate => pushed _ hstate,
    fun pattern hpattern => ?_⟩
  · rcases still with none | still
    · simp [none] at included
    · exact still
  · rw [Option.mem_def.1 hname] at target
    exact target
  · obtain ⟨regex, parsed, -⟩ := typed pattern hpattern
    exact ⟨regex, parsed⟩

end RuleSpec

/-! ## Specifications -/

namespace LexerSpec

variable {spec : LexerSpec}

/-- **A specification that lacks nothing.** -/
structure Typed (spec : LexerSpec) : Prop extends spec.WellFormed where
  /-- No rule lacks a type. -/
  typed : ∀ state index r, spec.Writes state index r → r.Typed

/-- Whether a specification lacks nothing, given the numbers of groups of some patterns. -/
def isTyped (spec : LexerSpec) (known : List (String × Nat)) : Bool :=
  spec.states.contains rootState && spec.checkIncludes.isOk &&
    (spec.filenames.all fun pattern => (Glob.parse pattern).isOk) &&
    (spec.mimeTypes.all fun type => (MediaType.essence type).isOk) &&
    spec.states.entries.all fun state => state.2.all fun r =>
      r.isPlaced spec && (r.isKnown known || r.isLight)

theorem exists_of_isOk {ε α : Type} {x : Except ε α} (h : x.isOk = true) : ∃ a, x = .ok a := by
  cases x with
  | error => cases h
  | ok a => exact ⟨a, rfl⟩

/-- **A specification that passes the check lacks nothing**, if what it was told is right. -/
theorem typed_of_isTyped (known : List (String × Nat)) (h : spec.isTyped known = true)
    (parsed : ∀ k ∈ known, ∃ regex, Regex.ofPattern k.1 = .ok regex ∧ regex.groupCount = k.2) :
    spec.Typed := by
  simp only [isTyped, Bool.and_eq_true, List.all_eq_true, Bool.or_eq_true] at h
  obtain ⟨⟨⟨⟨root, circles⟩, filenames⟩, mimeTypes⟩, rules⟩ := h
  have checked (state : String) (index : Nat) (r : RuleSpec) (written : spec.Writes state index r) :
      r.isPlaced spec = true ∧ r.Typed := by
    obtain ⟨written, hget, hr⟩ := written
    obtain ⟨placed, light⟩ :=
      rules _ (NameMap.get?_eq_some_iff.1 hget) r (List.mem_of_getElem? hr)
    exact ⟨placed, light.elim (RuleSpec.typed_of_isKnown · parsed) RuleSpec.typed_of_isLight⟩
  obtain ⟨⟨⟩, acyclic⟩ := exists_of_isOk circles
  exact {
    root
    rules := fun state index r written =>
      RuleSpec.wellFormed_of_isPlaced (checked state index r written).1
        (checked state index r written).2
    acyclic := checkIncludes_eq_ok_iff.1 acyclic
    filenames := fun pattern h => exists_of_isOk (filenames pattern h)
    mimeTypes := fun type h => exists_of_isOk (mimeTypes type h)
    typed := fun state index r written => (checked state index r written).2 }

theorem WellFormed.exists_compile (h : spec.WellFormed) : ∃ l, spec.compile = .ok l := by
  cases compiled : spec.compile with
  | ok l => exact ⟨l, rfl⟩
  | error e => exact absurd (refusal_of_compile compiled) h.not_refusal

/-- **No rule of the lexer lacks a type.** -/
theorem Typed.not_lacks (h : spec.Typed) {l : Lexer} (means : spec.Means l) (r : PatternRule) :
    ¬ l.states.Lacks r := by
  rintro ⟨⟨name, rules, hget, hr⟩, typed, few⟩
  obtain ⟨written, source, hwritten, hsource, meaning⟩ := means.exists_written hget hr
  obtain ⟨index, hindex⟩ := List.mem_iff_getElem?.1 hsource
  cases meaning with
  | pattern hpattern _ parsed =>
    obtain ⟨regex, hregex, enough⟩ :=
      h.typed name index source ⟨written, hwritten, hindex⟩ _ hpattern
    obtain rfl := Except.ok.inj (parsed.symm.trans hregex)
    rcases enough with none | enough
    · exact typed none
    · exact absurd few (Nat.not_lt.2 enough)

end LexerSpec

end LexMachine
