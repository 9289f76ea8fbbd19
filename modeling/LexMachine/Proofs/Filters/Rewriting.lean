import LexMachine.Filter.Kind
import Mathlib.Data.List.SplitBy

/-!
# What filters make of streams

What each filter makes of a whole stream, said without its memory (`FilterKind.rewrite`): nothing
changes; tokens without text are gone; each longest run of one type is one token; every token is
laid out at the depth that the brackets before it give. A filter that is fed one token at a time,
and then the end of the stream, answers with that, and then with the end (`stream_closed`). What
it makes of tokens holds no second end (`unended_rewrite`).
-/

namespace LexMachine

/-- Tokens of which none ends the stream. -/
def Unended (tokens : List Token) : Prop := ∀ t ∈ tokens, t.isStop = false

theorem unended_nil : Unended [] := by simp [Unended]

theorem unended_cons {t : Token} {tokens : List Token} :
    Unended (t :: tokens) ↔ t.isStop = false ∧ Unended tokens := List.forall_mem_cons

theorem unended_append {a b : List Token} : Unended (a ++ b) ↔ Unended a ∧ Unended b :=
  List.forall_mem_append

/-! ## Whole streams -/

namespace Token

/-- One token of a run: the texts of all, in the state of the first. -/
def joined (first : Token) (others : List Token) : Token :=
  { first with value := first.value ++ String.join (others.map (·.value)) }

/-- Whether a token opens a bracket. -/
def opens (t : Token) : Bool := t.type == .punctuation && (t.value == "\x7b" || t.value == "[")

/-- Whether a token closes a bracket. -/
def closes (t : Token) : Bool := t.type == .punctuation && (t.value == "\x7d" || t.value == "]")

/-- Whether a token separates items. -/
def separates (t : Token) : Bool := t.type == .punctuation && t.value == ","

/-- Whether a token assigns a value. -/
def assigns (t : Token) : Bool := t.type == .assignment && t.value == ":"

/-- The number of open brackets after a token; a bracket that was never opened closes none. -/
def depthAfter (depth : Nat) (t : Token) : Nat :=
  if t.opens then depth + 1 else if t.closes then depth - 1 else depth

/-- A token laid out at a depth: white space is gone; a closing bracket has a new line before it, at
the depth after it; an opening one and a separator have one after them; an assignment is followed by
a blank. -/
def laidOut (unit : String) (depth : Nat) (t : Token) : List Token :=
  if t.type == .whitespace then []
  else
    (if t.closes then Filter.newLine unit (t.depthAfter depth) t.state else []) ++ t ::
      (if t.opens || t.separates then Filter.newLine unit (t.depthAfter depth) t.state
        else if t.assigns then [Filter.blank " " t.state] else [])

end Token

namespace FilterKind

/-- Longest runs of tokens of one type, each as one token. -/
def joinRuns (tokens : List Token) : List Token :=
  (tokens.splitBy fun a b => a.type == b.type).flatMap fun
    | [] => []
    | first :: others => [first.joined others]

/-- Tokens laid out from a depth on, each at the depth that those before it give. -/
def relayout (unit : String) (depth : Nat) (tokens : List Token) : List Token :=
  (tokens.zip (tokens.scanl (fun depth t => t.depthAfter depth) depth)).flatMap fun (t, depth) =>
    t.laidOut unit depth

theorem relayout_cons (unit : String) (depth : Nat) (t : Token) (tokens : List Token) :
    relayout unit depth (t :: tokens) =
      t.laidOut unit depth ++ relayout unit (t.depthAfter depth) tokens := by
  simp [relayout]

/-- **What a filter makes of a stream**, the end of the stream apart. -/
def rewrite : FilterKind → List Token → List Token
  | passthrough, tokens => tokens
  | removeEmpties, tokens => tokens.filter (!·.isEmpty)
  | mergeAdjacent, tokens => joinRuns tokens
  | indent unit, tokens => relayout unit 0 tokens

/-- What filters make of a stream, the first of them first. -/
def rewriteAll (kinds : List FilterKind) (tokens : List Token) : List Token :=
  kinds.foldl (fun tokens kind => kind.rewrite tokens) tokens

end FilterKind

/-! ## Token by token -/

namespace Filter

variable (f : Filter)

/-- The state after a list of tokens. -/
def after (s : f.State) (tokens : List Token) : f.State :=
  tokens.foldl (fun s t => (f.step s t).1) s

theorem answers_append (s : f.State) (a b : List Token) :
    f.answers s (a ++ b) = f.answers s a ++ f.answers (f.after s a) b := by
  induction a generalizing s with
  | nil => rfl
  | cons t a ih => simp [answers, after, ih]

theorem answers_cons (s : f.State) (t : Token) (tokens : List Token) :
    f.answers s (t :: tokens) = (f.step s t).2 ++ f.answers (f.step s t).1 tokens := rfl

theorem answers_passthrough (s : passthrough.State) (tokens : List Token) :
    passthrough.answers s tokens = tokens := by
  induction tokens with
  | nil => rfl
  | cons t tokens ih => exact congrArg (t :: ·) ih

theorem answers_removeEmpties (s : removeEmpties.State) {tokens : List Token}
    (h : Unended tokens) : removeEmpties.answers s tokens = tokens.filter (!·.isEmpty) := by
  induction tokens with
  | nil => rfl
  | cons t tokens ih =>
    obtain ⟨ht, h⟩ := unended_cons.1 h
    have step : removeEmpties.step s t = (s, if t.isEmpty then [] else [t]) := by
      simp only [removeEmpties, ht, Bool.not_false, Bool.and_true]
      rfl
    rw [answers_cons, step, ih h]
    cases hempty : t.isEmpty <;> simp [hempty]

/-! ### Merging -/

/-- The memory of merging while it holds back a run. -/
def holding (first : Token) (others : List Token) : mergeAdjacent.State :=
  some (first.joined others)

theorem step_first {t : Token} (h : t.isStop = false) :
    mergeAdjacent.step mergeAdjacent.initial t = (holding t [], []) := by
  simp [mergeAdjacent, mergeStep, holding, h, Token.joined]

/-- A token of the same type joins a run. -/
theorem step_same {first t : Token} (others : List Token) (h : t.isStop = false)
    (same : t.type = first.type) :
    mergeAdjacent.step (holding first others) t = (holding first (others ++ [t]), []) := by
  have joins : (first.joined others).type = t.type := same.symm
  have longer : first.joined (others ++ [t]) =
      { first.joined others with value := (first.joined others).value ++ t.value } := by
    simp [Token.joined, String.append_assoc]
  simp [mergeAdjacent, mergeStep, holding, h, joins, longer]

/-- A token of another type ends a run and starts the next one. -/
theorem step_other {first t : Token} (others : List Token) (h : t.isStop = false)
    (other : t.type ≠ first.type) :
    mergeAdjacent.step (holding first others) t = (holding t [], [first.joined others]) := by
  simp [mergeAdjacent, mergeStep, holding, h, other.symm, Token.joined]

theorem splitBy_run {first : Token} {others : List Token}
    (same : ∀ t ∈ others, t.type = first.type) :
    (first :: others).splitBy (fun a b => a.type == b.type) = [first :: others] := by
  have all : ∀ t ∈ first :: others, t.type = first.type := List.forall_mem_cons.2 ⟨rfl, same⟩
  refine List.splitBy_of_isChain (by simp) (List.Pairwise.isChain ?_)
  exact List.pairwise_of_forall_mem_list fun a ha b hb => by simp [all a ha, all b hb]

/-- A run ends before a token of another type. -/
theorem joinRuns_run {first t : Token} {others : List Token} (tokens : List Token)
    (same : ∀ u ∈ others, u.type = first.type) (other : t.type ≠ first.type) :
    FilterKind.joinRuns (first :: others ++ t :: tokens) =
      first.joined others :: FilterKind.joinRuns (t :: tokens) := by
  have ends : ∀ last ∈ (first :: others).getLast?, (last.type == t.type) = false := by
    intro last hlast
    have : last.type = first.type := by
      rcases List.mem_cons.1 (List.mem_of_getLast? hlast) with rfl | h
      · rfl
      · exact same last h
    simpa [this] using other.symm
  rw [FilterKind.joinRuns, List.splitBy_append_cons tokens ends, splitBy_run same]
  rfl

/-- A run that is held back and the tokens after it are merged as if they came together. -/
theorem answers_holding {first : Token} {others tokens : List Token}
    (same : ∀ t ∈ others, t.type = first.type) (h : Unended tokens) :
    mergeAdjacent.answers (holding first others) (tokens ++ [.stop]) =
      FilterKind.joinRuns (first :: others ++ tokens) ++ [.stop] := by
  induction tokens generalizing first others with
  | nil =>
    rw [List.append_nil, FilterKind.joinRuns, splitBy_run same]
    rfl
  | cons t tokens ih =>
    obtain ⟨ht, h⟩ := unended_cons.1 h
    rw [List.cons_append, answers_cons]
    -- the next token belongs to the run that is held back, or ends it
    by_cases htype : t.type = first.type
    · have longer : ∀ u ∈ others ++ [t], u.type = first.type := by
        simpa [or_imp, forall_and, htype] using same
      rw [step_same others ht htype, List.nil_append, ih longer h]
      simp
    · rw [step_other others ht htype, ih (by simp) h, joinRuns_run tokens same htype]
      rfl

theorem answers_mergeAdjacent {tokens : List Token} (h : Unended tokens) :
    mergeAdjacent.answers mergeAdjacent.initial (tokens ++ [.stop]) =
      FilterKind.joinRuns tokens ++ [.stop] := by
  cases tokens with
  | nil => rfl
  | cons t tokens =>
    obtain ⟨ht, h⟩ := unended_cons.1 h
    rw [List.cons_append, answers_cons, step_first ht, List.nil_append,
      answers_holding (by simp) h]
    rfl

/-! ### Indenting -/

/-- Any other token leaves the depth as it is. -/
theorem indentStep_other (unit : String) (depth : Nat) {t : Token} (h : t.isStop = false)
    (other : t.type ≠ .punctuation) :
    indentStep unit depth t = (t.depthAfter depth, t.laidOut unit depth) := by
  have types : TokenType.whitespace ≠ .punctuation ∧ TokenType.assignment ≠ .punctuation ∧
    TokenType.assignment ≠ .whitespace := by decide
  by_cases space : t.type = .whitespace
  · simp [indentStep, Token.laidOut, Token.depthAfter, Token.opens, Token.closes, h, space, types]
  · by_cases assigns : t.type = .assignment ∧ t.value = ":"
    · simp [indentStep, Token.laidOut, Token.depthAfter, Token.opens, Token.closes,
        Token.separates, Token.assigns, h, types, assigns]
    · simp [indentStep, Token.laidOut, Token.depthAfter, Token.opens, Token.closes,
        Token.separates, Token.assigns, h, space, other, assigns]

/-- Punctuation is laid out by what it does to the depth. -/
theorem indentStep_punctuation (unit : String) (depth : Nat) {t : Token} (h : t.isStop = false)
    (punct : t.type = .punctuation) :
    indentStep unit depth t = (t.depthAfter depth, t.laidOut unit depth) := by
  have types : TokenType.punctuation ≠ .whitespace ∧ TokenType.punctuation ≠ .assignment := by
    decide
  by_cases separates : t.value = ","
  · simp [indentStep, Token.laidOut, Token.depthAfter, Token.opens, Token.closes,
      Token.separates, h, punct, types, separates]
  · by_cases opens : t.value = "\x7b" ∨ t.value = "["
    · have : t.value ≠ "\x7d" ∧ t.value ≠ "]" := by
        rcases opens with opens | opens <;> rw [opens] <;> decide
      simp [indentStep, Token.laidOut, Token.depthAfter, Token.opens, Token.closes,
        Token.separates, h, punct, types, separates, opens, this]
    · simp [indentStep, Token.laidOut, Token.depthAfter, Token.opens, Token.closes,
        Token.separates, Token.assigns, h, punct, types, separates, opens]
      split <;> simp

/-- A step changes the depth and lays the token out as its brackets say. -/
theorem indentStep_eq (unit : String) (depth : Nat) {t : Token} (h : t.isStop = false) :
    indentStep unit depth t = (t.depthAfter depth, t.laidOut unit depth) := by
  by_cases punct : t.type = .punctuation
  · exact indentStep_punctuation unit depth h punct
  · exact indentStep_other unit depth h punct

/-- Tokens are laid out one at a time as they are all at once. -/
theorem answers_indent (unit : String) (depth : (indent unit).State) {tokens : List Token}
    (h : Unended tokens) :
    (indent unit).answers depth (tokens ++ [.stop]) =
      FilterKind.relayout unit depth tokens ++ [.stop] := by
  induction tokens generalizing depth with
  | nil => rfl
  | cons t tokens ih =>
    obtain ⟨ht, h⟩ := unended_cons.1 h
    have step : (indent unit).step depth t = (t.depthAfter depth, t.laidOut unit depth) :=
      indentStep_eq unit depth ht
    rw [List.cons_append, answers_cons, step, ih _ h, ← List.append_assoc]
    exact congrArg (· ++ [Token.stop]) (FilterKind.relayout_cons unit depth t tokens).symm

/-- **A filter that is fed one token at a time makes of a stream what its kind says**, and hands on
the end of it. -/
theorem stream_closed (kind : FilterKind) {tokens : List Token} (h : Unended tokens) :
    kind.filter.stream (tokens ++ [.stop]) = kind.rewrite tokens ++ [.stop] := by
  cases kind with
  | passthrough => exact answers_passthrough _ _
  | removeEmpties =>
    change removeEmpties.answers removeEmpties.initial _ = _
    rw [answers_append, answers_removeEmpties _ h]
    rfl
  | mergeAdjacent => exact answers_mergeAdjacent h
  | indent unit => exact answers_indent unit _ h

end Filter

/-! ## No second end -/

namespace Token

theorem isStop_joined {first : Token} (others : List Token) (h : first.isStop = false) :
    (first.joined others).isStop = false := by
  have empty (a b : String) : (a ++ b).isEmpty = true → a.isEmpty = true := by
    simp only [String.isEmpty_iff, String.append_eq_empty_iff]
    exact And.left
  contrapose! h
  simp only [isStop, joined, Bool.not_eq_false, Bool.and_eq_true] at h ⊢
  exact ⟨⟨empty _ _ h.1.1, h.1.2⟩, h.2⟩

theorem isStop_blank (value state : String) : (Filter.blank value state).isStop = false := by
  have : (TokenType.whitespace == TokenType.none) = false := by decide
  simp [isStop, Filter.blank, this]

theorem unended_newLine (unit : String) (depth : Nat) (state : String) :
    Unended (Filter.newLine unit depth state) := by
  unfold Filter.newLine
  split <;> simp [Unended, isStop_blank]

theorem unended_laidOut (unit : String) (depth : Nat) {t : Token} (h : t.isStop = false) :
    Unended (t.laidOut unit depth) := by
  unfold laidOut
  split
  · exact unended_nil
  · refine unended_append.2 ⟨?_, unended_cons.2 ⟨h, ?_⟩⟩
    · split
      · exact unended_newLine unit _ _
      · exact unended_nil
    · split
      · exact unended_newLine unit _ _
      · split <;> simp [Unended, isStop_blank]

end Token

namespace FilterKind

theorem unended_joinRuns {tokens : List Token} (h : Unended tokens) : Unended (joinRuns tokens) := by
  intro t ht
  obtain ⟨run, hrun, ht⟩ := List.mem_flatMap.1 ht
  cases run with
  | nil => simp at ht
  | cons first others =>
    obtain rfl := List.mem_singleton.1 ht
    have : first ∈ (tokens.splitBy fun a b => a.type == b.type).flatten :=
      List.mem_flatten_of_mem hrun List.mem_cons_self
    exact Token.isStop_joined others (h first (by simpa using this))

theorem unended_relayout (unit : String) (depth : Nat) {tokens : List Token} (h : Unended tokens) :
    Unended (relayout unit depth tokens) := by
  intro t ht
  obtain ⟨⟨u, depth⟩, hu, ht⟩ := List.mem_flatMap.1 ht
  exact Token.unended_laidOut unit depth (h u (List.of_mem_zip hu).1) t ht

/-- A filter makes no second end of the stream. -/
theorem unended_rewrite (kind : FilterKind) {tokens : List Token} (h : Unended tokens) :
    Unended (kind.rewrite tokens) := by
  cases kind with
  | passthrough => exact h
  | removeEmpties => exact fun t ht => h t (List.mem_of_mem_filter ht)
  | mergeAdjacent => exact unended_joinRuns h
  | indent unit => exact unended_relayout unit 0 h

theorem unended_rewriteAll (kinds : List FilterKind) {tokens : List Token} (h : Unended tokens) :
    Unended (rewriteAll kinds tokens) := by
  induction kinds generalizing tokens with
  | nil => exact h
  | cons kind kinds ih => exact ih (kind.unended_rewrite h)

end FilterKind

end LexMachine
