import LexMachine.Proofs.Builtin.Patterns
import LexMachine.Proofs.Run.Filtering
import LexMachine.Proofs.Run.Stacks

/-!
# The few stacks of markup and of heads

In HTML a comment and a tag lie on the root state, and the value of an attribute lies on its tag. In
HTTP the headers lie on the root state and the value of a header on the headers; behind the last
header the stack is empty. There are no other stacks, whatever the input is, so these two lexers
never fail (`Stacked.never_fails`).
-/

namespace LexMachine.Builtin

/-- The stacks of HTML, the active state first. -/
def htmlStacks : List (List String) :=
  [["root"], ["comment", "root"], ["tag", "root"], ["tagAttr", "tag", "root"]]

/-- The stacks of HTTP, the active state first. The empty one ends the run. -/
def httpStacks : List (List String) :=
  [["root"], ["headers", "root"], ["headerValue", "headers", "root"], []]

/-- **The specifications with few stacks**, each with these. -/
inductive Stacked : LexerSpec → List (List String) → Prop where
  | html : Stacked html htmlStacks
  | http : Stacked http httpStacks

namespace Stacked

variable {spec : LexerSpec} {known : List (List String)}

theorem keepsTo (h : Stacked spec known) : spec.keepsTo known = true := by
  cases h <;> decide +kernel

theorem mem_all (h : Stacked spec known) : spec ∈ all := by
  cases h <;> simp [all]

/-- **The lexers of HTML and of HTTP never fail.** Whatever their reports and limits are, in each
mode they succeed on all input that is read without failure, as long as no token is refused. At each
place of a run the stack is one of the few of the lexer and not the empty one, and after each match
it is one of the few. So a run of HTML goes through all of its input, and one of HTTP does unless it
ends with the empty stack. -/
theorem never_fails (h : Stacked spec known) (preferences : Preferences) (chunk pending : Nat) :
    ∃ l, spec.compile = .ok l ∧
      let l := (l.withPreferences preferences).withLimits chunk pending
      (∀ {α : Type} (k : Sink α), k.Quiet → ∀ mode bytes,
        (l.runAs mode ⟨bytes, none⟩ k).error? = none) ∧
      (∀ source before p, l.Reaches (l.start source) before p →
        p.stack.names ∈ known ∧ p.stack.names ≠ []) ∧
      (∀ source before p length positive rule matched,
        l.Meets source before p (.ok (.matched length positive rule matched)) →
          (p.stack.apply rule.next).error? = none ∧
            (p.stack.apply rule.next).stack.names ∈ known) ∧
      ∀ bytes, (l.trace ⟨bytes, none⟩).ending = .inputEnded ∨
        spec = Builtin.http ∧ (l.trace ⟨bytes, none⟩).ending = .stackEmptied := by
  have typed := typed_of_mem h.mem_all
  obtain ⟨l, compiled⟩ := typed.exists_compile
  refine ⟨l, compiled, ?_⟩
  intro l'
  have means := (LexerSpec.of_compile compiled).2
  have hl : l'.Compiled := ((Lexer.Compiled.ofSpec compiled).withPreferences _).withLimits _ _
  have kept : l'.KeepsTo known :=
    have kept := LexerSpec.keepsTo_of_means means h.keepsTo
    ⟨kept.root, kept.rules⟩
  have lacking : ∀ r, ¬ l.states.Lacks r := typed.not_lacks means
  have ending (bytes : List UInt8) := kept.ending hl lacking bytes
  refine ⟨fun k quiet mode bytes => ?_, fun source before p reached =>
    ⟨kept.reaches reached, (Lexer.sound_of_reaches hl.legal reached).nonempty⟩,
    fun source before p _ _ _ _ meets => kept.meets meets, fun bytes => ?_⟩
  · rw [Lexer.runAs, Lexer.error_of_quiet (quiet.chain _)]
    rcases ending bytes with ended | ⟨emptied, -⟩
    · rw [ended]
      rfl
    · rw [emptied]
      rfl
  · rcases ending bytes with ended | ⟨emptied, empty⟩
    · exact .inl ended
    · refine .inr ⟨?_, emptied⟩
      cases h with
      | html => simp [htmlStacks] at empty
      | http => rfl

/-- A comment and a tag that are not closed, read four bytes at a time and laid out anew, and a head
that has a body behind it. -/
theorem never_fails_unclosed :
    (∃ l, Builtin.html.compile = .ok l ∧
      (((l.withPreferences {}).withLimits 4 4).runAs .formatted ⟨"<!-- <b ".toUTF8.toList, none⟩
        .collector).error? = none) ∧
    ∃ l, Builtin.http.compile = .ok l ∧
      (((l.withPreferences {}).withLimits 9 9).runAs .filtered
        ⟨"HTTP/2 200\n\n<".toUTF8.toList, none⟩ .collector).error? = none := by
  obtain ⟨l, compiled, succeeds, -⟩ := never_fails .html {} 4 4
  obtain ⟨l', compiled', succeeds', -⟩ := never_fails .http {} 9 9
  exact ⟨⟨l, compiled, succeeds .collector Sink.quiet_collector _ _⟩,
    l', compiled', succeeds' .collector Sink.quiet_collector _ _⟩

end Stacked

end LexMachine.Builtin
