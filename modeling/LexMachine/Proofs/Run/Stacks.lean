import LexMachine.Proofs.Run.Nesting

/-!
# Runs with few stacks

The runs of some lexers have one of a few stacks wherever they come to, whatever the input is. A
list has all stacks of a lexer if it has the stack that runs start with, and the transitions of each
rule lead from every stack on which the rule counts to one of the list (`Lexer.KeepsTo`). That can
be computed from the specification (`LexerSpec.keepsTo`). The empty stack may be in the list: a run
ends there.

Since the transitions are made on known stacks, it is known too that none of these is too deep. So a
lexer that keeps to a list of stacks and lacks no type never fails (`Lexer.KeepsTo.ending`).
-/

namespace LexMachine

/-- Whether transitions can be made on a stack and lead to one of a list. -/
def Stack.leadsTo (known : List (List String)) (names : List String) (next : List Transition) :
    Bool :=
  let applied := (⟨names, Limits.stackDepth⟩ : Stack).apply next
  applied.error?.isNone && known.contains applied.stack.names

/-- **A lexer keeps to some stacks** if its rules lead from one to another. -/
structure Lexer.KeepsTo (l : Lexer) (known : List (List String)) : Prop where
  /-- The stack that runs start with is one of them. -/
  root : [rootState] ∈ known
  /-- The rules that serve an active state lead to one of them. -/
  rules : ∀ active below rule, active :: below ∈ known → l.states.Serves active rule →
    Stack.leadsTo known (active :: below) rule.next = true

namespace LexerSpec

variable {spec : LexerSpec} {known : List (List String)}

/-- Whether the rules that are written lead from one of some stacks to another. -/
def keepsTo (spec : LexerSpec) (known : List (List String)) : Bool :=
  known.contains [rootState] && known.all fun names =>
    names.head?.all fun active =>
      spec.checksFrom (Stack.leadsTo known names) spec.states.size active

theorem keepsTo_of_means {l : Lexer} (means : spec.Means l) (h : spec.keepsTo known = true) :
    l.KeepsTo known := by
  rw [keepsTo, Bool.and_eq_true, List.contains_iff_mem, List.all_eq_true] at h
  obtain ⟨root, rules⟩ := h
  refine ⟨root, fun active below rule here serves => ?_⟩
  exact check_of_checksFrom means serves (rules _ here)

end LexerSpec

namespace Lexer

variable {l : Lexer} {known : List (List String)} {p q : Place} {steps : List Step}

namespace KeepsTo

/-- What a match does to a stack of the list. -/
theorem apply (kept : l.KeepsTo known) {stack : Stack} (limit : stack.maxDepth = Limits.stackDepth)
    (here : stack.names ∈ known) {subject : List Char} {active : String} {length : Nat}
    {positive : 0 < length} {rule : PatternRule} {tokens : List Token}
    (finds : l.Finds stack subject active (.ok (.matched length positive rule tokens))) :
    (stack.apply rule.next).error? = none ∧ (stack.apply rule.next).stack.names ∈ known := by
  obtain ⟨names, maxDepth⟩ := stack
  obtain rfl : maxDepth = Limits.stackDepth := limit
  obtain ⟨top, rules, hrules, found⟩ := finds
  obtain ⟨below, rfl⟩ := List.head?_eq_some_iff.1 top
  have leads := kept.rules active below rule here (StateTable.serves_of_matchAt hrules found)
  rw [Stack.leadsTo, Bool.and_eq_true, Option.isNone_iff_eq_none, List.contains_iff_mem] at leads
  exact leads

theorem step (kept : l.KeepsTo known) (limit : p.stack.maxDepth = Limits.stackDepth)
    (here : p.stack.names ∈ known) (hs : l.Goes p steps q) : q.stack.names ∈ known := by
  cases hs with
  | read | usedUp => exact here
  | advanced _ _ turns =>
    cases turns with
    | matched finds => exact (kept.apply limit here finds).2
    | skipped | unmatched => exact here
  | waits => exact kept.root

/-- **The stack of a run is one of the list.** -/
theorem reaches (kept : l.KeepsTo known) {source : Source}
    (hp : l.Reaches (l.start source) steps p) : p.stack.names ∈ known := by
  induction hp with
  | here => exact kept.root
  | step before hs ih => exact kept.step (bounded_of_reaches before).limit ih hs

/-- So it is after each match. -/
theorem meets (kept : l.KeepsTo known) {source : Source} {length : Nat} {positive : 0 < length}
    {rule : PatternRule} {matched : List Token}
    (h : l.Meets source steps p (.ok (.matched length positive rule matched))) :
    (p.stack.apply rule.next).error? = none ∧ (p.stack.apply rule.next).stack.names ∈ known := by
  obtain ⟨active, finds⟩ := h.finds
  exact kept.apply (bounded_of_reaches h.reached).limit (kept.reaches h.reached) finds

/-- **A run of a lexer that keeps to some stacks** and lacks no type does not fail. It goes through
all of the input, unless a match can empty the stack. -/
theorem ending (kept : l.KeepsTo known) (hl : l.Compiled) (typed : ∀ r, ¬ l.states.Lacks r)
    (bytes : List UInt8) :
    (l.trace ⟨bytes, none⟩).ending = .inputEnded ∨
      (l.trace ⟨bytes, none⟩).ending = .stackEmptied ∧ [] ∈ known := by
  obtain ⟨before, p, -, finishes⟩ := exists_finishes hl bytes
  cases finishes with
  | inputEnded ending => exact .inl ending
  | emptied ending meets empty => exact .inr ⟨ending, empty ▸ (kept.meets meets).2⟩
  | overflowed _ meets fails =>
    rw [(kept.meets meets).1] at fails
    cases fails
  | misconfigured _ meets =>
    obtain ⟨active, -, rules, hrules, found⟩ := meets.finds
    obtain ⟨r, -, lacks, -⟩ := StateTable.lacks_of_matchAt hrules found
    exact absurd lacks (typed r)

end KeepsTo

end Lexer

end LexMachine
