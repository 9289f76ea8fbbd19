import LexMachine.Proofs.Filters.Rewriting
import LexMachine.Proofs.Matching

/-!
# What filters do to the text

Filters keep the text of a stream, however they cut it into tokens, except for those that lay it out
anew (`textOf_rewriteAll`).
-/

namespace LexMachine.FilterKind

/-- Whether a filter lays its tokens out anew. -/
def laysOut : FilterKind → Bool
  | indent _ => true
  | passthrough | removeEmpties | mergeAdjacent => false

theorem textOf_removeEmpties (tokens : List Token) :
    Token.textOf (removeEmpties.rewrite tokens) = Token.textOf tokens := by
  change Token.textOf (tokens.filter (!·.isEmpty)) = Token.textOf tokens
  induction tokens with
  | nil => rfl
  | cons t tokens ih =>
    rw [List.filter_cons, Token.textOf_cons]
    split
    · rw [Token.textOf_cons, ih]
    · rename_i dropped
      have empty : t.value = "" := by simpa [Token.isEmpty] using dropped
      rw [ih, empty]
      rfl

theorem textOf_joined (first : Token) (others : List Token) :
    (first.joined others).value.toList = Token.textOf (first :: others) := by
  rw [Token.joined, String.toList_append, Token.join_values, String.toList_ofList,
    Token.textOf_cons]

theorem textOf_joinRuns (tokens : List Token) :
    Token.textOf (joinRuns tokens) = Token.textOf tokens := by
  -- by induction on the runs, of which the tokens are the concatenation
  have whole := List.flatten_splitBy (fun a b : Token => a.type == b.type) tokens
  unfold joinRuns
  generalize tokens.splitBy _ = runs at whole ⊢
  subst whole
  induction runs with
  | nil => rfl
  | cons run runs ih =>
    rw [List.flatMap_cons, List.flatten_cons, Token.textOf_append, Token.textOf_append, ih]
    cases run with
    | nil => rfl
    | cons first others =>
      rw [Token.textOf_cons, textOf_joined, Token.textOf_nil, List.append_nil]

/-- **Filters keep the text** if none of them lays it out anew. -/
theorem textOf_rewriteAll {kinds : List FilterKind} (h : ∀ kind ∈ kinds, kind.laysOut = false)
    (tokens : List Token) :
    Token.textOf (rewriteAll kinds tokens) = Token.textOf tokens := by
  induction kinds generalizing tokens with
  | nil => rfl
  | cons kind kinds ih =>
    obtain ⟨first, rest⟩ := List.forall_mem_cons.1 h
    refine (ih rest (kind.rewrite tokens)).trans ?_
    cases kind with
    | passthrough => rfl
    | removeEmpties => exact textOf_removeEmpties tokens
    | mergeAdjacent => exact textOf_joinRuns tokens
    | indent => cases first

end LexMachine.FilterKind
