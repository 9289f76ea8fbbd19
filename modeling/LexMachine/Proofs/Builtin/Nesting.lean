import LexMachine.Proofs.Builtin.Patterns
import LexMachine.Proofs.Run.Nesting

/-!
# The stacks of the built-in lexers

Three of the built-in specifications keep a shape. In style sheets the block of a media query lies
on the query, and in JSON the value of a member lies on its key, so that the two states that a
closing brace takes off at once are both there and the root state is left below them. In HTML no
state is pushed but from one other, so that the stack never is deeper than three
(`length_le_html`). A run of these lexers that succeeds has matched all of its input, and it always
succeeds where no stack in shape is full (`Nested.outcome`).
-/

namespace LexMachine.Builtin

/-- The nesting of style sheets. -/
def cssNesting : Nesting := fun state => if state == "mediaBlock" then some "media" else none

/-- The nesting of JSON. -/
def jsonNesting : Nesting := fun state => if state == "objectValue" then some "objectKey" else none

/-- The nesting of HTML: the value of an attribute lies on its tag, all else on the root state. -/
def htmlNesting : Nesting := fun state => some (if state == "tagAttr" then "tag" else rootState)

/-- The number of states that a state of HTML lies on. -/
def htmlRank (state : String) : Nat :=
  if state == rootState then 0 else if state == "tagAttr" then 2 else 1

theorem length_le_html {names : List String} (h : htmlNesting.Shapes names) : names.length ≤ 3 := by
  have lower (state : String) (other : state ≠ rootState) :
      ∃ b, htmlNesting state = some b ∧ htmlRank b < htmlRank state := by
    refine ⟨_, rfl, ?_⟩
    by_cases value : state = "tagAttr"
    · subst value
      decide
    · simp [htmlRank, other, value]
  obtain ⟨active, -, short⟩ := h.length_le lower
  have rank : htmlRank active ≤ 2 := by
    unfold htmlRank
    split
    · omega
    · split <;> omega
  omega

/-- **The specifications that keep a shape**, each with its nesting. -/
inductive Nested : LexerSpec → Nesting → Prop where
  | css : Nested css cssNesting
  | html : Nested html htmlNesting
  | json : Nested json jsonNesting

namespace Nested

variable {spec : LexerSpec} {below : Nesting}

theorem keepsShape (h : Nested spec below) : spec.keepsShape below = true := by
  cases h <;> decide +kernel

theorem mem_all (h : Nested spec below) : spec ∈ all := by
  cases h <;> simp [all]

/-- **How a run of a nested lexer ends.** -/
theorem outcome (h : Nested spec below) {l : Lexer} (compiled : spec.compile = .ok l)
    (preferences : Preferences) (bytes : List UInt8) :
    let l := l.withPreferences preferences
    let error? := (l.trace ⟨bytes, none⟩).ending.error?
    (error? = none → Token.textOf (l.tokens ⟨bytes, none⟩) = Utf8.decode bytes) ∧
      (∀ e, error? = some e → ∃ state, e = .stackOverflow state) ∧
      ((∀ names, below.Shapes names → names.length < Limits.stackDepth) → error? = none) := by
  intro l' error?
  have means := (LexerSpec.of_compile compiled).2
  have kept : l'.Keeps below := LexerSpec.keeps_of_keepsShape means h.keepsShape
  have typed : ∀ r, ¬ l.states.Lacks r := (typed_of_mem h.mem_all).not_lacks means
  obtain ⟨success, failure⟩ :=
    kept.outcome ((Lexer.Compiled.ofSpec compiled).withPreferences preferences) typed bytes
  refine ⟨success, fun e failed => (failure e failed).1, fun shallow => ?_⟩
  cases failed : error? with
  | none => rfl
  | some e =>
    obtain ⟨-, names, shape, deep⟩ := failure e failed
    exact absurd deep (Nat.not_le.2 (shallow names shape))

end Nested

end LexMachine.Builtin
