import LexMachine.Proofs.Specification.Checks

/-!
# What a state lies on

A state that is pushed from one other state only lies on that state whenever it is on the stack. A
nesting says so of some states, and a stack is in shape (`Nesting.Shapes`) if it agrees with the
nesting and has the root state at its bottom and nowhere else. Whether the rules of a specification
keep all stacks in shape can be computed from the rules alone (`LexerSpec.keepsShape`), although
there is no bound to the depth of a stack: only the names that a rule takes off have to be known.

If they do, the stack of a run is in shape wherever the run comes to (`shapes_of_reaches`). So it
never is empty, and it is full only if the nesting allows stacks so deep.
-/

namespace LexMachine

open Relation (ReflTransGen)

/-- For some states, the state that each of them lies on. -/
abbrev Nesting : Type := String → Option String

namespace Stack

theorem maxDepth_pop (s : Stack) : s.pop.1.maxDepth = s.maxDepth := by
  obtain ⟨names, maxDepth⟩ := s
  cases names <;> rfl

/-- A push fails on a full stack only. -/
theorem push_cases (s : Stack) (state : String) :
    (s.push state = .error (.stackOverflow state) ∧ s.maxDepth ≤ s.names.length) ∨
      ∃ move, s.push state = .ok ({ s with names := state :: s.names }, move) := by
  unfold push
  split
  · exact .inl ⟨rfl, ‹_›⟩
  · exact .inr ⟨_, rfl⟩

end Stack

namespace Nesting

variable {below : Nesting}

/-! ## Stacks in shape -/

/-- **A stack in shape.** -/
inductive Shapes (below : Nesting) : List String → Prop where
  /-- The root state is at the bottom. -/
  | root : Shapes below [rootState]
  /-- Any other state lies on the one that the nesting names. -/
  | push {state : String} {names : List String} (other : state ≠ rootState)
      (lies : ∀ b ∈ below state, names.head? = some b) (h : Shapes below names) :
      Shapes below (state :: names)

theorem Shapes.nonempty {names : List String} (h : below.Shapes names) : names ≠ [] := by
  cases h <;> simp

/-- A state that is not the root state leaves a stack in shape behind. -/
theorem Shapes.rest {state : String} {names : List String} (h : below.Shapes (state :: names))
    (other : state ≠ rootState) :
    below.Shapes names ∧ ∀ b ∈ below state, names.head? = some b := by
  cases h with
  | root => exact absurd rfl other
  | push _ lies h => exact ⟨h, lies⟩

/-- Whether transitions keep all stacks in shape that have some names on top. -/
def keeps (below : Nesting) : (top : List String) → List Transition → Bool
  | _, [] => true
  | top, .push state :: next =>
    state != rootState && (below state).all (top.head? == some ·) &&
      below.keeps (state :: top) next
  | [], .pop :: _ => false
  | [state], .pop :: next => state != rootState && below.keeps (below state).toList next
  | state :: second :: top, .pop :: next =>
    state != rootState && below.keeps (second :: top) next

/-- What is known of a stack in shape once its topmost state is gone. -/
theorem Shapes.prefix_of_rest {state : String} {names : List String}
    (lies : ∀ b ∈ below state, names.head? = some b) : (below state).toList <+: names := by
  cases named : below state with
  | none => exact List.nil_prefix
  | some b =>
    obtain ⟨rest, rfl⟩ := List.head?_eq_some_iff.1 (lies b named)
    exact ⟨rest, rfl⟩

/-- Taking a state off that is not the root state. -/
theorem Shapes.pop {s : Stack} {state : String} {names : List String} (h : below.Shapes s.names)
    (hnames : s.names = state :: names) (other : state ≠ rootState) :
    below.Shapes s.pop.1.names ∧ s.pop.1.names = names ∧
      (below state).toList <+: s.pop.1.names := by
  have popped : s.pop.1.names = names := by rw [Stack.names_pop, hnames, List.tail_cons]
  rw [hnames] at h
  obtain ⟨rest, lies⟩ := h.rest other
  rw [popped]
  exact ⟨rest, rfl, prefix_of_rest lies⟩

/-- **Transitions keep the shape**, whether they are all made or not; if they are not, some stack
in shape is full. -/
theorem Shapes.apply {s : Stack} (top : List String) {next : List Transition}
    (h : below.Shapes s.names) (known : top <+: s.names) (kept : below.keeps top next = true) :
    below.Shapes (s.apply next).stack.names ∧
      ((s.apply next).error? ≠ none →
        ∃ names, below.Shapes names ∧ s.maxDepth ≤ names.length) := by
  fun_induction keeps below top next generalizing s with
  | case1 top => exact ⟨h, fun failed => absurd rfl failed⟩
  | case2 top state next ih =>
    -- a push that fails changes nothing, and shows that the stack is full
    simp only [Bool.and_eq_true, bne_iff_ne] at kept
    obtain ⟨⟨other, lies⟩, kept⟩ := kept
    rcases s.push_cases state with ⟨hpush, full⟩ | ⟨move, hpush⟩
    · simp only [Stack.apply, hpush]
      exact ⟨h, fun _ => ⟨s.names, h, full⟩⟩
    · simp only [Stack.apply, hpush]
      have shape : below.Shapes (state :: s.names) := by
        refine .push other (fun b hb => ?_) h
        rw [Option.mem_def.1 hb, Option.all_some, beq_iff_eq] at lies
        obtain ⟨rest, rfl⟩ := List.head?_eq_some_iff.1 lies
        obtain ⟨names, hnames⟩ := known
        rw [← hnames]
        rfl
      exact ih shape ((List.prefix_cons_inj state).2 known) kept
  | case3 => cases kept
  | case4 state next ih =>
    -- only the topmost state is known, and what lies below it is what the nesting names
    simp only [Bool.and_eq_true, bne_iff_ne] at kept
    obtain ⟨names, hnames⟩ := known
    obtain ⟨shape, -, top⟩ := h.pop hnames.symm kept.1
    rw [← s.maxDepth_pop]
    exact ih shape top kept.2
  | case5 state second top next ih =>
    -- more than the topmost state is known, and stays known
    simp only [Bool.and_eq_true, bne_iff_ne] at kept
    obtain ⟨names, hnames⟩ := known
    obtain ⟨shape, rest, -⟩ := h.pop hnames.symm kept.1
    rw [← s.maxDepth_pop]
    exact ih shape (rest ▸ ⟨names, rfl⟩) kept.2

/-- Where every state lies on one of lesser rank, no stack is deeper than its active state allows.
-/
theorem Shapes.length_le {rank : String → Nat}
    (lower : ∀ state, state ≠ rootState → ∃ b, below state = some b ∧ rank b < rank state)
    {names : List String} (h : below.Shapes names) :
    ∃ active, names.head? = some active ∧ names.length ≤ rank active + 1 := by
  induction h with
  | root => exact ⟨rootState, rfl, Nat.le_add_left ..⟩
  | @push state names other lies h ih =>
    obtain ⟨b, named, less⟩ := lower state other
    obtain ⟨active, top, short⟩ := ih
    obtain rfl := Option.some.inj (top.symm.trans (lies b named))
    refine ⟨state, rfl, ?_⟩
    rw [List.length_cons]
    omega

end Nesting

/-! ## The rules of a state -/

namespace StateTable

variable {table : StateTable}

/-- **A rule serves a state** if it is written in the state or in one that the state includes,
directly or through others. -/
def Serves (table : StateTable) (name : String) (r : PatternRule) : Prop :=
  ∃ target rules, ReflTransGen table.Includes name target ∧ table.get? target = some rules ∧
    .pattern r ∈ rules

/-- A rule is written in a list of rules or serves a state that the list includes. -/
def Offers (table : StateTable) (rules : List Rule) (r : PatternRule) : Prop :=
  .pattern r ∈ rules ∨ ∃ target, .incl target ∈ rules ∧ table.Serves target r

theorem Offers.tail {rules : List Rule} {r : PatternRule} (h : table.Offers rules r) (rule : Rule) :
    table.Offers (rule :: rules) r := by
  rcases h with h | ⟨target, h, serves⟩
  · exact .inl (List.mem_cons_of_mem _ h)
  · exact .inr ⟨target, List.mem_cons_of_mem _ h, serves⟩

theorem Offers.serves {name : String} {rules : List Rule} (hrules : table.get? name = some rules)
    {r : PatternRule} (h : table.Offers rules r) : table.Serves name r := by
  rcases h with h | ⟨target, h, last, declared, includes, hget, hr⟩
  · exact ⟨name, rules, .refl, hrules, h⟩
  · exact ⟨last, declared, .head ⟨rules, hrules, h⟩ includes, hget, hr⟩

theorem offers_of_mem_flatten {levels : Nat} {origin : Option String} {rules : List Rule}
    {s : SourcedRule} (h : s ∈ table.flatten levels origin rules) : table.Offers rules s.rule := by
  fun_induction table.flatten levels origin rules with
  | case1 => cases h
  | case2 levels origin rule rules ih =>
    rcases List.mem_cons.1 h with rfl | h
    · exact .inl (by simp)
    · exact (ih h).tail _
  | case3 origin target rules ih => exact (ih h).tail _
  | case4 levels origin target rules ihInside ihLater =>
    rcases List.mem_append.1 h with h | h
    · cases hget : table.get? target with
      | none => simp [hget] at h
      | some included =>
        rw [hget] at h
        exact .inr ⟨target, by simp, (ihInside included h).serves hget⟩
    · exact (ihLater h).tail _

/-- The rule of a match serves the state. -/
theorem serves_of_matchAt {name : String} {rules : List Rule}
    (hrules : table.get? name = some rules) {subject : List Char} {length : Nat}
    {positive : 0 < length} {rule : PatternRule} {tokens : List Token}
    (h : table.matchAt rules subject = .ok (.matched length positive rule tokens)) :
    table.Serves name rule := by
  have decides := table.decides_matchAt rules subject
  rw [h] at decides
  cases decides with
  | @here s hit _ wins =>
    rw [winner_eq_earliest] at wins
    exact (offers_of_mem_flatten (SourcedRule.find?_of_earliest wins).1).serves hrules

end StateTable

/-! ## Checking the shape -/

namespace LexerSpec

variable {spec : LexerSpec} {below : Nesting}

/-- Whether the transitions of the rules of a state, and of what it includes to so many levels, pass
a check. -/
def checksFrom (spec : LexerSpec) (check : List Transition → Bool) : Nat → String → Bool
  | 0, _ => false
  | levels + 1, name =>
    ((spec.states.get? name).getD []).all fun r =>
      match r.included with
      | some target => spec.checksFrom check levels target
      | none => check r.transitions

/-- What one level of a check says of each rule that is written in a state. -/
theorem checksFrom_succ {check : List Transition → Bool} {name : String} {levels : Nat}
    {written : List RuleSpec} (hwritten : spec.states.get? name = some written)
    (h : spec.checksFrom check (levels + 1) name = true) {r : RuleSpec} (hr : r ∈ written) :
    (match r.included with
      | some target => spec.checksFrom check levels target
      | none => check r.transitions) = true := by
  rw [checksFrom, hwritten, Option.getD_some, List.all_eq_true] at h
  exact h r hr

/-- **A check goes through all rules that serve a state.** -/
theorem check_of_checksFrom {check : List Transition → Bool} {l : Lexer} (means : spec.Means l)
    {name : String} {rule : PatternRule} (serves : l.states.Serves name rule) {levels : Nat}
    (h : spec.checksFrom check levels name = true) : check rule.next = true := by
  obtain ⟨last, rules, includes, hget, hrule⟩ := serves
  -- each include takes one of the levels that are looked through
  induction includes using ReflTransGen.head_induction_on generalizing levels with
  | refl =>
    cases levels with
    | zero => cases h
    | succ levels =>
      obtain ⟨written, r, hwritten, hr, meaning⟩ := means.exists_written hget hrule
      have checked := checksFrom_succ hwritten h hr
      cases meaning with
      | pattern _ alone => simpa [alone] using checked
  | head step _ ih =>
    cases levels with
    | zero => cases h
    | succ levels =>
      obtain ⟨included, hincluded, hincl⟩ := step
      obtain ⟨written, r, hwritten, hr, meaning⟩ := means.exists_written hincluded hincl
      have checked := checksFrom_succ hwritten h hr
      cases meaning with
      | incl target =>
        rw [target] at checked
        exact ih checked

/-- Whether the rules of all states keep stacks in shape on which the state is active. -/
def keepsShape (spec : LexerSpec) (below : Nesting) : Bool :=
  spec.states.names.all fun name =>
    spec.checksFrom (below.keeps [name]) spec.states.size name

end LexerSpec

/-! ## Runs -/

/-- **A lexer keeps the shape** if each rule does that serves a state, when the state is active. -/
def Lexer.Keeps (l : Lexer) (below : Nesting) : Prop :=
  ∀ active rule, l.states.Serves active rule → below.keeps [active] rule.next = true

theorem LexerSpec.keeps_of_keepsShape {spec : LexerSpec} {l : Lexer} (means : spec.Means l)
    {below : Nesting} (h : spec.keepsShape below = true) : l.Keeps below := by
  intro active rule serves
  have declared : active ∈ spec.states.names := by
    rw [← means.names]
    obtain ⟨last, rules, includes, hget, -⟩ := serves
    rcases ReflTransGen.cases_head includes with rfl | ⟨_, ⟨_, hget, _⟩, _⟩ <;>
      exact NameMap.mem_names_of_get? hget
  exact check_of_checksFrom means serves (List.all_eq_true.1 h active declared)

namespace Lexer

variable {l : Lexer} {below : Nesting} {p q : Place} {steps : List Step}

/-- What a match does to a stack in shape. -/
theorem Keeps.apply (kept : l.Keeps below) {stack : Stack} (shape : below.Shapes stack.names)
    {subject : List Char} {active : String} {length : Nat} {positive : 0 < length}
    {rule : PatternRule} {tokens : List Token}
    (finds : l.Finds stack subject active (.ok (.matched length positive rule tokens))) :
    below.Shapes (stack.apply rule.next).stack.names ∧
      ((stack.apply rule.next).error? ≠ none →
        ∃ names, below.Shapes names ∧ stack.maxDepth ≤ names.length) := by
  obtain ⟨top, rules, hrules, found⟩ := finds
  obtain ⟨rest, hnames⟩ := List.head?_eq_some_iff.1 top
  exact shape.apply [active] ⟨rest, hnames.symm⟩
    (kept active rule (StateTable.serves_of_matchAt hrules found))

theorem shapes_step (kept : l.Keeps below) (hp : below.Shapes p.stack.names)
    (hs : l.Goes p steps q) : below.Shapes q.stack.names := by
  cases hs with
  | read | usedUp => exact hp
  | advanced _ _ turns =>
    cases turns with
    | matched finds => exact (kept.apply hp finds).1
    | skipped | unmatched => exact hp
  | waits => exact .root

/-- **The stack of a run is in shape.** -/
theorem shapes_of_reaches (kept : l.Keeps below) {source : Source}
    (hp : l.Reaches (l.start source) steps p) : below.Shapes p.stack.names := by
  induction hp with
  | here => exact .root
  | step _ hs ih => exact shapes_step kept ih hs

/-- **A run of a lexer that keeps the shape** and lacks no type matches all text, unless a stack in
shape is so deep that it is full. -/
theorem Keeps.outcome (kept : l.Keeps below) (hl : l.Compiled) (typed : ∀ r, ¬ l.states.Lacks r)
    (bytes : List UInt8) :
    ((l.trace ⟨bytes, none⟩).ending.error? = none →
      Token.textOf (l.tokens ⟨bytes, none⟩) = Utf8.decode bytes) ∧
    ∀ e, (l.trace ⟨bytes, none⟩).ending.error? = some e →
      (∃ state, e = .stackOverflow state) ∧
        ∃ names, below.Shapes names ∧ Limits.stackDepth ≤ names.length := by
  refine ⟨fun success => text_of_success hl success ?_, fun e failed => ?_⟩
  · intro before p length positive rule matched meets
    obtain ⟨active, finds⟩ := meets.finds
    exact (kept.apply (shapes_of_reaches kept meets.reached) finds).1.nonempty
  · rcases hl.error_of_trace bytes failed with ⟨state, rfl⟩ | ⟨r, number, lacks, rfl⟩
    · refine ⟨⟨state, rfl⟩, ?_⟩
      obtain ⟨before, p, length, positive, rule, matched, meets, fails, -⟩ :=
        exists_overflowed hl failed
      obtain ⟨active, finds⟩ := meets.finds
      have full := (kept.apply (shapes_of_reaches kept meets.reached) finds).2 (by simp [fails])
      rwa [(bounded_of_reaches meets.reached).limit] at full
    · exact absurd lacks (typed r)

end Lexer

end LexMachine
