import LexMachine.Command.Run
import LexMachine.Proofs.Builtin.Nesting
import LexMachine.Proofs.Filters.Texts
import LexMachine.Proofs.Registry
import LexMachine.Proofs.Render.Outlets
import LexMachine.Proofs.Run.Filtering
import LexMachine.Proofs.Text.Replacement

/-!
# The command reproduces its input

With the name of a built-in lexer and nothing else to look for, the command runs this lexer over its
input (`run_builtin`). Tokens that are shown plain and are not laid out anew leave the text of the
run in the outlet (`render_plain`). For the lexers that keep their stacks in shape this is all of
the input, with what is malformed replaced, unless a stack is full (`reproduces`).
-/

namespace LexMachine.Command

open Render (Outlet)

variable {a : Arguments} {o : Outlet}

/-! ## Choosing a built-in lexer -/

/-- Without further specifications the registry has the built-in lexers. -/
theorem createRegistry_builtin (files : Files) (engine : Preferences) :
    ∃ registry events, createRegistry files engine [] = (registry, events, none) ∧
      ∀ spec ∈ Builtin.all, ∃ l, spec.compile = .ok l ∧
        registry.get? spec.name = some (l.withPreferences engine) := by
  obtain ⟨success, found⟩ := Registry.registerBuiltin_spec { preferences := engine }
  refine ⟨_, ({ preferences := engine } : Registry).registerBuiltin.events ++ [], ?_, found⟩
  -- the equation of the definition would compile all of the built-in specifications
  delta createRegistry
  simp only [success, loadSpecs]

/-- The command with the name of a built-in lexer runs it over standard input. -/
theorem run_builtin (noFile : a.file = none) (noSpecs : a.specs = []) (noList : a.list = false)
    {spec : LexerSpec} (builtin : spec ∈ Builtin.all) (named : a.lexer = some spec.name)
    (context : Context) (files : Files) (stdin : Source) (o : Outlet) :
    ∃ l, spec.compile = .ok l ∧
      let rendered := render (l.withPreferences context.engine) a context.coloured stdin o
      (run a context files stdin o).outlet = rendered.outlet ∧
        (run a context files stdin o).error? = rendered.error? := by
  obtain ⟨registry, events, created, found⟩ := createRegistry_builtin files context.engine
  obtain ⟨l, compiled, hget⟩ := found spec builtin
  have resolved : resolve registry a = .ok (l.withPreferences context.engine) := by
    simp only [resolve, named, hget]
  refine ⟨l, compiled, ?_⟩
  delta run
  simp [noSpecs, created, noList, resolved, noFile, openInput]

/-! ## Showing what it makes of the input -/

/-- **The text of a run is what is written** if tokens are shown plain and not laid out anew. -/
theorem render_plain {l : Lexer} (hl : l.Compiled)
    (kept : ∀ kind ∈ l.kindsOf a.mode, kind.laysOut = false) {coloured : Bool}
    (plain : (renderer a.output coloured).Plain) (room : o.room = none)
    (flushed : o.flushFailure = none) (input : Source) :
    (render l a coloured input o).outlet =
        o.holding (String.ofList (Token.textOf (l.tokens input))) ∧
      (render l a coloured input o).error? =
        (l.trace input).ending.error?.map CommandError.engine := by
  have same : Token.textOf (FilterKind.rewriteAll (l.kindsOf a.mode)
      (tokensOf (l.trace input).steps) ++ [.stop]) = Token.textOf (l.tokens input) := by
    rw [Token.textOf_append, FilterKind.textOf_rewriteAll kept, hl.tokens_eq]
    exact List.append_nil _
  have offered := plain.offer_sink o room (FilterKind.rewriteAll (l.kindsOf a.mode)
      (tokensOf (l.trace input).steps) ++ [.stop])
  rw [same] at offered
  obtain ⟨output, error⟩ := Lexer.runAs_of_accepted hl (k := (renderer a.output coloured).sink o)
    a.mode input (congrArg (·.2) offered)
  have outlet : (l.runAs a.mode input ((renderer a.output coloured).sink o)).output =
      o.holding (String.ofList (Token.textOf (l.tokens input))) :=
    output.trans (congrArg (·.1) offered)
  refine ⟨outlet, ?_⟩
  unfold render
  dsimp only
  rw [error, outlet]
  cases (l.trace input).ending.error? with
  | none => exact congrArg (Option.map CommandError.io) flushed
  | some e => rfl

/-- Lexers that keep their stacks in shape lay nothing out anew, other than JSON when it is
formatted. -/
theorem keeps_text {spec : LexerSpec} {below : Nesting} (nested : Builtin.Nested spec below)
    {l : Lexer} (means : spec.Means l) {mode : Lexer.Mode}
    (unformatted : spec = Builtin.json → mode ≠ .formatted) :
    ∀ kind ∈ l.kindsOf mode, kind.laysOut = false := by
  obtain ⟨-, filters, formatter, -⟩ := means.rest
  cases mode with
  | raw => simp [Lexer.kindsOf]
  | filtered =>
    rw [Lexer.kindsOf, filters]
    cases nested <;> decide
  | formatted =>
    rw [Lexer.kindsOf, filters, formatter]
    cases nested with
    | css => decide
    | html => decide
    | json => exact absurd rfl (unformatted rfl)

/-- **What comes of the input of a lexer that keeps its stacks in shape.** -/
theorem outcome_nested (noFile : a.file = none) (noSpecs : a.specs = []) (noList : a.list = false)
    {spec : LexerSpec} {below : Nesting} (nested : Builtin.Nested spec below)
    (named : a.lexer = some spec.name) (unformatted : spec = Builtin.json → a.mode ≠ .formatted)
    {context : Context} (plain : (renderer a.output context.coloured).Plain) (room : o.room = none)
    (flushed : o.flushFailure = none) (files : Files) (bytes : List UInt8) :
    let outcome := run a context files ⟨bytes, none⟩ o
    (outcome.error? = none → outcome.outlet = o.holding (String.ofList (Utf8.decode bytes))) ∧
      (∀ e, outcome.error? = some e → (∃ state, e = .engine (.stackOverflow state)) ∧
        ∃ front, front <+: Utf8.decode bytes ∧ outcome.outlet = o.holding (String.ofList front)) ∧
      ((∀ names, below.Shapes names → names.length < Limits.stackDepth) →
        outcome.error? = none) := by
  intro outcome
  obtain ⟨l, compiled, outlet, error⟩ : ∃ l, spec.compile = .ok l ∧
      let rendered := render (l.withPreferences context.engine) a context.coloured ⟨bytes, none⟩ o
      outcome.outlet = rendered.outlet ∧ outcome.error? = rendered.error? :=
    run_builtin noFile noSpecs noList nested.mem_all named context files ⟨bytes, none⟩ o
  clear_value outcome
  have means := (LexerSpec.of_compile compiled).2
  have hl := (Lexer.Compiled.ofSpec compiled).withPreferences context.engine
  obtain ⟨shown, failed⟩ := render_plain hl (keeps_text nested means unformatted) plain room flushed
    ⟨bytes, none⟩
  obtain ⟨whole, full, shallow⟩ := nested.outcome compiled context.engine bytes
  rw [shown] at outlet
  rw [failed] at error
  refine ⟨fun success => ?_, fun e failure => ?_, fun below => ?_⟩
  · rw [outlet, whole (Option.map_eq_none_iff.1 (error.symm.trans success))]
  · obtain ⟨cause, hcause, rfl⟩ := Option.map_eq_some_iff.1 (error.symm.trans failure)
    obtain ⟨state, rfl⟩ := full cause hcause
    exact ⟨⟨state, rfl⟩, _, Lexer.text_isPrefix hl bytes, outlet⟩
  · rw [error, shallow below]
    rfl

/-- **The command reproduces its input.** With the lexer of style sheets or of HTML in any mode, or
that of JSON unless formatted, and plain output, it writes the text of its input, which is the input
itself if that is text. Only a full stack stops it, after the start of the text, and HTML never
fills its stack. -/
theorem reproduces (noFile : a.file = none) (noSpecs : a.specs = []) (noList : a.list = false)
    (lexer : a.lexer = some "css" ∨ a.lexer = some "html" ∨
      a.lexer = some "json" ∧ a.mode ≠ .formatted)
    (context : Context) (output : a.output = .text ∨ a.output = .term ∧ context.coloured = false)
    (room : o.room = none) (flushed : o.flushFailure = none) (files : Files) (bytes : List UInt8) :
    let outcome := run a context files ⟨bytes, none⟩ o
    ∃ text, Utf8.Lossy bytes text ∧ (∀ s, Utf8.encode s = bytes → String.ofList text = s) ∧
      (outcome.error? = none →
        outcome.outlet.written = o.written ++ (String.ofList text).toUTF8) ∧
      (∀ e, outcome.error? = some e → (∃ state, e = .engine (.stackOverflow state)) ∧
        ∃ front, front <+: text ∧
          outcome.outlet.written = o.written ++ (String.ofList front).toUTF8) ∧
      (a.lexer = some "html" → outcome.error? = none) := by
  intro outcome
  have plain : (renderer a.output context.coloured).Plain := by
    rcases output with text | ⟨term, colourless⟩
    · rw [text]
      exact Render.Renderer.plain_text
    · rw [term, colourless]
      exact Render.Renderer.plain_terminal .standard
  obtain ⟨spec, below, nested, named, unformatted⟩ : ∃ spec below, Builtin.Nested spec below ∧
      a.lexer = some spec.name ∧ (spec = Builtin.json → a.mode ≠ .formatted) := by
    rcases lexer with css | html | ⟨json, unformatted⟩
    · exact ⟨_, _, .css, css, fun same => absurd (congrArg LexerSpec.name same) (by decide)⟩
    · exact ⟨_, _, .html, html, fun same => absurd (congrArg LexerSpec.name same) (by decide)⟩
    · exact ⟨_, _, .json, json, fun _ => unformatted⟩
  obtain ⟨whole, full, shallow⟩ := outcome_nested noFile noSpecs noList nested named unformatted
    plain room flushed files bytes
  refine ⟨Utf8.decode bytes, Utf8.lossy_decode bytes, fun s encoded => ?_, fun success => ?_,
    fun e failure => ?_, fun html => shallow ?_⟩
  · rw [← encoded, Utf8.decode_encode, String.ofList_toList]
  · rw [whole success, Outlet.written_holding]
  · obtain ⟨overflow, front, start, held⟩ := full e failure
    exact ⟨overflow, front, start, by rw [held, Outlet.written_holding]⟩
  · have name : spec.name = "html" := Option.some.inj (named.symm.trans html)
    cases nested with
    | css | json => simp [Builtin.css, Builtin.json] at name
    | html =>
      intro names shape
      have short := Builtin.length_le_html shape
      exact Nat.lt_of_le_of_lt short (by decide)

/-- A tag that is never closed, in HTML that is formatted. -/
theorem reproduces_tag :
    let outcome := run { lexer := some "html", output := .text } {} (fun _ => .error "")
      ⟨[60, 98], none⟩ {}
    outcome.error? = none ∧ outcome.outlet.written = "<b".toUTF8 := by
  intro outcome
  obtain ⟨text, -, itself, success, -, html⟩ := reproduces
    (a := { lexer := some "html", output := .text }) (o := {}) rfl rfl rfl (.inr (.inl rfl)) {}
    (.inl rfl) rfl rfl (fun _ => .error "") [60, 98]
  have ended : outcome.error? = none := html rfl
  have same : String.ofList text = "<b" := itself "<b" ((Utf8.encode_eq "<b").trans (by decide))
  refine ⟨ended, (success ended).trans ?_⟩
  rw [same]
  exact ByteArray.empty_append

end LexMachine.Command
