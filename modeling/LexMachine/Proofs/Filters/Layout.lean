import LexMachine.Proofs.Run.Filtering

/-!
# Layout

What indenting makes of tokens is said by the tokens that are not white space alone, and by the
brackets that are open at each of them (`Layout`). So only white space differs from what came in,
and what is laid out already stays as it is (`lays_out_anew`).
-/

namespace LexMachine

namespace Token

/-- Tokens without those of white space. -/
def withoutSpace (tokens : List Token) : List Token := tokens.filter (·.type != .whitespace)

/-- **The brackets that are open** after tokens, the innermost first. A closing bracket closes the
innermost one; where none is open it closes nothing. -/
def openBrackets (tokens : List Token) : List Token :=
  tokens.foldl (fun unclosed t =>
    if t.opens then t :: unclosed else if t.closes then unclosed.tail else unclosed) []

end Token

open Token (withoutSpace openBrackets)

/-- **The start of a line** at a depth: a line break, and a unit of indentation for each open
bracket unless this is no text at all. -/
inductive StartsLine (unit : String) (depth : Nat) (state : String) : List Token → Prop where
  /-- There is nothing to indent by. -/
  | flush (none : String.join (List.replicate depth unit) = "") :
      StartsLine unit depth state [Filter.blank "\n" state]
  /-- The text to indent by follows the line break. -/
  | indented (some : String.join (List.replicate depth unit) ≠ "") :
      StartsLine unit depth state
        [Filter.blank "\n" state, Filter.blank (String.join (List.replicate depth unit)) state]

/-- **How tokens are laid out**, told by the last of them. Lines start at the depth that counts the
bracket that they belong to. -/
inductive Layout (unit : String) : List Token → List Token → Prop where
  /-- There is nothing to lay out. -/
  | nil : Layout unit [] []
  /-- A line starts after an opening bracket. -/
  | opening {tokens laid line : List Token} {t : Token} (before : Layout unit tokens laid)
      (opens : t.opens = true)
      (starts : StartsLine unit (openBrackets (tokens ++ [t])).length t.state line) :
      Layout unit (tokens ++ [t]) (laid ++ t :: line)
  /-- A line starts after a separator. -/
  | separator {tokens laid line : List Token} {t : Token} (before : Layout unit tokens laid)
      (separates : t.separates = true)
      (starts : StartsLine unit (openBrackets (tokens ++ [t])).length t.state line) :
      Layout unit (tokens ++ [t]) (laid ++ t :: line)
  /-- A line starts before a closing bracket. -/
  | closing {tokens laid line : List Token} {t : Token} (before : Layout unit tokens laid)
      (closes : t.closes = true)
      (starts : StartsLine unit (openBrackets (tokens ++ [t])).length t.state line) :
      Layout unit (tokens ++ [t]) (laid ++ (line ++ [t]))
  /-- A blank follows an assignment. -/
  | assignment {tokens laid : List Token} {t : Token} (before : Layout unit tokens laid)
      (assigns : t.assigns = true) :
      Layout unit (tokens ++ [t]) (laid ++ [t, Filter.blank " " t.state])
  /-- Nothing is added to other tokens. -/
  | other {tokens laid : List Token} {t : Token} (before : Layout unit tokens laid)
      (opens : t.opens = false) (separates : t.separates = false) (closes : t.closes = false)
      (assigns : t.assigns = false) :
      Layout unit (tokens ++ [t]) (laid ++ [t])

/-! ## Brackets -/

namespace Token

/-- The depth is the number of open brackets. -/
theorem length_openBrackets (tokens : List Token) :
    (openBrackets tokens).length = tokens.foldl (fun depth t => t.depthAfter depth) 0 := by
  refine (List.foldl_hom List.length fun unclosed t => ?_).symm
  rw [depthAfter]
  split
  · exact List.length_cons.symm
  · split
    · exact List.length_tail.symm
    · rfl

theorem length_openBrackets_concat (tokens : List Token) (t : Token) :
    (openBrackets (tokens ++ [t])).length = t.depthAfter (openBrackets tokens).length := by
  rw [length_openBrackets, length_openBrackets, List.foldl_append]
  rfl

/-- White space opens and closes nothing. -/
theorem depthAfter_space (depth : Nat) {t : Token} (h : t.type = .whitespace) :
    t.depthAfter depth = depth := by
  have differ : TokenType.whitespace ≠ .punctuation := by decide
  simp [depthAfter, opens, closes, h, differ]

/-- A closing bracket is nothing else. -/
theorem eq_false_of_closes {t : Token} (h : t.closes = true) :
    t.opens = false ∧ t.separates = false ∧ t.assigns = false := by
  obtain ⟨type, value⟩ : t.type = .punctuation ∧ (t.value = "\x7d" ∨ t.value = "]") := by
    simpa [closes] using h
  rcases value with value | value <;> simp [opens, separates, assigns, type, value]

end Token

/-! ## Lines -/

/-- Nothing is indented where no bracket is open, or by no text. -/
theorem join_replicate_eq_empty {depth : Nat} {unit : String} :
    String.join (List.replicate depth unit) = "" ↔ depth = 0 ∨ unit = "" := by
  induction depth with
  | zero => simp
  | succ depth ih =>
    rw [List.replicate_succ, String.join_cons, String.append_eq_empty_iff, ih]
    simpa using Or.inr

theorem startsLine_newLine (unit : String) (depth : Nat) (state : String) :
    StartsLine unit depth state (Filter.newLine unit depth state) := by
  unfold Filter.newLine
  by_cases h : String.join (List.replicate depth unit) = ""
  · have flush : (decide (0 < depth) && unit != "") = false := by
      rcases join_replicate_eq_empty.1 h with h | h <;> simp [h]
    rw [flush]
    exact .flush h
  · have indented : (decide (0 < depth) && unit != "") = true := by
      obtain ⟨deep, some⟩ := not_or.1 (mt join_replicate_eq_empty.2 h)
      simp [Nat.pos_of_ne_zero deep, some]
    rw [indented]
    exact .indented h

/-- A line starts with white space only. -/
theorem StartsLine.withoutSpace {unit state : String} {depth : Nat} {line : List Token}
    (h : StartsLine unit depth state line) : withoutSpace line = [] := by
  cases h <;> rfl

/-! ## One token -/

namespace Token

theorem withoutSpace_append (a b : List Token) :
    withoutSpace (a ++ b) = withoutSpace a ++ withoutSpace b := List.filter_append ..

theorem withoutSpace_singleton {t : Token} (solid : t.type ≠ .whitespace) :
    withoutSpace [t] = [t] := by
  simp [withoutSpace, solid]

end Token

/-- What a token that is not white space is laid out as continues the layout of those before it. -/
theorem Layout.concat {unit : String} {tokens laid : List Token} (before : Layout unit tokens laid)
    {t : Token} (solid : t.type ≠ .whitespace) :
    Layout unit (tokens ++ [t]) (laid ++ t.laidOut unit (openBrackets tokens).length) := by
  have starts := startsLine_newLine unit (openBrackets (tokens ++ [t])).length t.state
  have depth := Token.length_openBrackets_concat tokens t
  have space : (t.type == .whitespace) = false := beq_eq_false_iff_ne.2 solid
  rw [Token.laidOut, space, ← depth]
  -- closing brackets first: only for them something comes before the token
  by_cases closes : t.closes = true
  · obtain ⟨opens, separates, assigns⟩ := Token.eq_false_of_closes closes
    simpa [closes, opens, separates, assigns] using before.closing closes starts
  by_cases opens : t.opens = true
  · simpa [closes, opens] using before.opening opens starts
  by_cases separates : t.separates = true
  · simpa [closes, opens, separates] using before.separator separates starts
  by_cases assigns : t.assigns = true
  · simpa [closes, opens, separates, assigns] using before.assignment assigns
  · rw [Bool.not_eq_true] at closes opens separates assigns
    simpa [closes, opens, separates, assigns] using before.other opens separates closes assigns

/-- In a layout the tokens are what is not white space. -/
theorem Layout.withoutSpace_eq {unit : String} {tokens laid : List Token}
    (h : Layout unit tokens laid) (solid : ∀ t ∈ tokens, t.type ≠ .whitespace) :
    withoutSpace laid = tokens := by
  have blank (state : String) : withoutSpace [Filter.blank " " state] = [] := rfl
  have apart {tokens : List Token} {t : Token} (solid : ∀ u ∈ tokens ++ [t], u.type ≠ .whitespace) :
      (∀ u ∈ tokens, u.type ≠ .whitespace) ∧ withoutSpace [t] = [t] := by
    rw [List.forall_mem_append, List.forall_mem_singleton] at solid
    exact solid.imp_right Token.withoutSpace_singleton
  induction h with
  | nil => rfl
  | opening _ _ starts ih | separator _ _ starts ih =>
    obtain ⟨solid, last⟩ := apart solid
    rw [List.append_cons, Token.withoutSpace_append, Token.withoutSpace_append, ih solid, last,
      starts.withoutSpace, List.append_nil]
  | closing _ _ starts ih =>
    obtain ⟨solid, last⟩ := apart solid
    rw [Token.withoutSpace_append, Token.withoutSpace_append, ih solid, last, starts.withoutSpace,
      List.nil_append]
  | assignment _ _ ih =>
    obtain ⟨solid, last⟩ := apart solid
    rw [List.append_cons, Token.withoutSpace_append, Token.withoutSpace_append, ih solid, last,
      blank, List.append_nil]
  | other _ _ _ _ _ ih =>
    obtain ⟨solid, last⟩ := apart solid
    rw [Token.withoutSpace_append, ih solid, last]

/-! ## Whole streams -/

namespace FilterKind

/-- White space makes no difference. -/
theorem relayout_withoutSpace (unit : String) (depth : Nat) (tokens : List Token) :
    relayout unit depth tokens = relayout unit depth (withoutSpace tokens) := by
  induction tokens generalizing depth with
  | nil => rfl
  | cons t tokens ih =>
    by_cases space : t.type = .whitespace
    · have gone : withoutSpace (t :: tokens) = withoutSpace tokens := by
        simp [withoutSpace, space]
      have nothing : t.laidOut unit depth = [] := by simp [Token.laidOut, space]
      rw [gone, relayout_cons, nothing, Token.depthAfter_space depth space, List.nil_append, ih]
    · have stays : withoutSpace (t :: tokens) = t :: withoutSpace tokens := by
        simp [withoutSpace, space]
      rw [stays, relayout_cons, relayout_cons, ih]

/-- Tokens are laid out at the depth that those before them lead to. -/
theorem relayout_append (unit : String) (depth : Nat) (a b : List Token) :
    relayout unit depth (a ++ b) = relayout unit depth a ++
      relayout unit (a.foldl (fun depth t => t.depthAfter depth) depth) b := by
  induction a generalizing depth with
  | nil => rfl
  | cons t a ih =>
    rw [List.cons_append, relayout_cons, ih, relayout_cons, List.append_assoc]
    rfl

/-- Tokens without white space are laid out as their brackets say. -/
theorem layout_relayout (unit : String) {tokens : List Token}
    (solid : ∀ t ∈ tokens, t.type ≠ .whitespace) :
    Layout unit tokens (relayout unit 0 tokens) := by
  induction tokens using List.reverseRecOn with
  | nil => exact .nil
  | append_singleton tokens t ih =>
    rw [List.forall_mem_append, List.forall_mem_singleton] at solid
    rw [relayout_append, ← Token.length_openBrackets, relayout_cons]
    simpa [relayout] using (ih solid.1).concat solid.2

/-- **Indenting only touches white space**, and what is indented already it leaves as it is. What
indenting hands on to a sink that refuses nothing depends on the tokens that are not white space
alone: these are kept, in order and up to the end of the stream, and laid out as the brackets that
are open at each of them say. -/
theorem lays_out_anew (unit : String) {tokens : List Token} (h : Unended tokens) :
    ∃ laid, Unended laid ∧ (indent unit).HandsOn (tokens ++ [Token.stop]) (laid ++ [Token.stop]) ∧
      withoutSpace (laid ++ [Token.stop]) = withoutSpace (tokens ++ [Token.stop]) ∧
      (∀ other, Unended other → withoutSpace other = withoutSpace tokens →
        (indent unit).HandsOn (other ++ [Token.stop]) (laid ++ [Token.stop])) ∧
      (indent unit).HandsOn (laid ++ [Token.stop]) (laid ++ [Token.stop]) ∧
      Layout unit (withoutSpace tokens) laid := by
  have solid : ∀ t ∈ withoutSpace tokens, t.type ≠ .whitespace := by
    simp [Token.withoutSpace]
  have layout := layout_relayout unit solid
  have reduced := layout.withoutSpace_eq solid
  rw [← relayout_withoutSpace] at layout reduced
  have unended := unended_relayout unit 0 h
  have alike (other : List Token) (unended : Unended other)
      (same : withoutSpace other = withoutSpace tokens) :
      (indent unit).HandsOn (other ++ [Token.stop]) (relayout unit 0 tokens ++ [Token.stop]) := by
    rw [relayout_withoutSpace, ← same, ← relayout_withoutSpace]
    exact (indent unit).handsOn_closed unended
  refine ⟨relayout unit 0 tokens, unended, alike tokens h rfl, ?_, alike, ?_, layout⟩
  · rw [Token.withoutSpace_append, reduced, Token.withoutSpace_append]
  -- what has been laid out is one more stream with the same tokens but for white space
  · exact alike _ unended reduced

/-- A bracket that was never opened, and one with a blank after it. -/
def unopened : List Token :=
  [⟨"]", .punctuation, "a"⟩, ⟨"[", .punctuation, "b"⟩, ⟨" ", .whitespace, "c"⟩]

/-- A line starts before the bracket that was never opened, and the blank gives way to another. -/
theorem lays_out_anew_unopened :
    ∃ laid, Unended unopened ∧
      (indent "\t").HandsOn (unopened ++ [Token.stop]) (laid ++ [Token.stop]) ∧
      laid = [⟨"\n", .whitespace, "a"⟩, ⟨"]", .punctuation, "a"⟩, ⟨"[", .punctuation, "b"⟩,
        ⟨"\n", .whitespace, "b"⟩, ⟨"\t", .whitespace, "b"⟩] := by
  have unended : Unended unopened := by
    unfold Unended
    decide
  obtain ⟨laid, -, handsOn, -⟩ := lays_out_anew "\t" unended
  have same := HandsOn.unique ((indent "\t").handsOn_closed unended) handsOn
  refine ⟨laid, unended, handsOn, (List.append_cancel_right same).trans ?_⟩
  decide

end FilterKind

end LexMachine
