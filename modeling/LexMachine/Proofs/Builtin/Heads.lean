import LexMachine.Builtin.Http
import LexMachine.Proofs.Builtin.Patterns
import LexMachine.Proofs.Run.Emptying
import LexMachine.Proofs.Specification.Lexing
import Mathlib.Data.List.TakeWhile

/-!
# Heads of responses

The head of a response is a status line, headers and a blank line. The lexer for heads takes all of
it and nothing of what follows (`consumes_head`): each line is lexed rule by rule, and the blank
line empties the stack.
-/

namespace LexMachine.Builtin

open Regex (Node Comes Fails digitSet contains_digitSet toNat_cases)
open Unicode (CodeSet)

/-! ## Heads -/

/-- What stands between a line and its line feed. -/
def carriage (present : Bool) : List Char := if present then ['\r'] else []

/-- A header. -/
structure Header where
  /-- The name. -/
  name : List Char
  /-- All that follows the colon. -/
  value : List Char
  /-- Whether the line ends with CR LF. -/
  wide : Bool
  named : name ≠ []
  nameChars : ∀ c ∈ name, c ≠ ':' ∧ c ≠ '\r' ∧ c ≠ '\n'
  valueChars : ∀ c ∈ value, c ≠ '\r' ∧ c ≠ '\n'

/-- The line of a header, before its line feed. -/
def Header.line (h : Header) : List Char := h.name ++ ':' :: (h.value ++ carriage h.wide)

/-- The head of a response. -/
structure Head where
  /-- The version. -/
  version : List Char
  /-- The status code. -/
  code : List Char
  /-- What follows the space after the code, if there is one. -/
  reason : Option (List Char)
  /-- Whether the status line ends with CR LF. -/
  wide : Bool
  /-- The headers. -/
  headers : List Header
  /-- Whether the blank line is CR LF. -/
  wideBlank : Bool
  versioned : version ≠ []
  versionChars : ∀ c ∈ version, c.isDigit = true ∨ c = '.'
  coded : code ≠ []
  codeChars : ∀ c ∈ code, c.isDigit = true
  reasonChars : ∀ text ∈ reason, ∀ c ∈ text, c ≠ '\r' ∧ c ≠ '\n'

namespace Head

/-- What follows the code. -/
def phrase (h : Head) : List Char := h.reason.elim [] (' ' :: ·)

/-- The status line, before its line feed. -/
def status (h : Head) : List Char :=
  ['H', 'T', 'T', 'P', '/'] ++ h.version ++ ' ' :: h.code ++ h.phrase ++ carriage h.wide

/-- The lines of a head, each before its line feed. -/
def lines (h : Head) : List (List Char) :=
  h.status :: (h.headers.map (·.line) ++ [carriage h.wideBlank])

/-- The text of a head. -/
def text (h : Head) : List Char := unlines h.lines

end Head

/-! ## Expressions -/

/-- Digits and dots. -/
def versionSet : CodeSet := ⟨[(46, 46), (48, 57)]⟩

/-- What does not end a line. -/
def inlineSet : CodeSet := ⟨[(0, 9), (11, 55295), (57344, 1114111)]⟩

/-- The characters of the names of headers. -/
def headerSet : CodeSet := ⟨[(0, 9), (11, 12), (14, 57), (59, 55295), (57344, 1114111)]⟩

/-- The characters of the values of headers between semicolons. -/
def valueSet : CodeSet := ⟨[(0, 9), (11, 12), (14, 58), (60, 55295), (57344, 1114111)]⟩

/-- Blanks. -/
def blankSet : CodeSet := ⟨[(9, 9), (32, 32)]⟩

/-- The end of a line, and of the text. -/
def lineEnd : Node :=
  .seq (.rep (.one '\r') 0 (some 1) true) (.seq (.one '\n') (.look .textEnd))

/-- A status line. -/
def statusLine : Node :=
  .seq (.group 1 (.seq (.one 'H') (.seq (.one 'T') (.seq (.one 'T') (.one 'P')))))
    (.seq (.group 2 (.one '/'))
      (.seq (.group 3 (.rep (.set versionSet) 1 none true))
        (.seq (.group 4 (.one ' '))
          (.seq (.group 5 (.rep (.set digitSet) 1 none true))
            (.seq (.group 6 (.rep (.one ' ') 0 (some 1) true))
              (.seq (.group 7 (.rep (.set inlineSet) 0 none false))
                (.seq (.group 8 (.seq (.rep (.one '\r') 0 (some 1) true) (.one '\n')))
                  (.look .textEnd))))))))

/-- A header up to its value. -/
def headerName : Node :=
  .seq (.group 1 (.rep (.set headerSet) 1 none true))
    (.seq (.group 2 (.one ':')) (.group 3 (.rep (.set blankSet) 0 none true)))

theorem rulesOf_root :
    ∃ r, http.rulesOf "root" = [r] ∧ r.node? = some (.seq (.look .textStart) statusLine) ∧
      r.transitions = [.push "headers"] :=
  ⟨_, rfl, rfl, rfl⟩

theorem rulesOf_headers :
    ∃ r r', http.rulesOf "headers" = [r, r'] ∧
      r.node? = some (.seq (.look .textStart) headerName) ∧
      r.transitions = [.push "headerValue"] ∧
      r'.node? = some (.seq (.look .textStart) lineEnd) ∧ r'.transitions = [.pop, .pop] :=
  ⟨_, _, rfl, rfl, rfl, rfl, rfl⟩

theorem rulesOf_headerValue :
    ∃ r r' r'', http.rulesOf "headerValue" = [r, r', r''] ∧
      r.node? = some lineEnd ∧ r.transitions = [.pop] ∧
      r'.node? = some (.rep (.set valueSet) 1 none true) ∧ r'.transitions = [] ∧
      r''.node? = some (.one ';') ∧ r''.transitions = [] :=
  ⟨_, _, _, rfl, rfl, rfl, rfl, rfl, rfl, rfl⟩

/-! ## Sets -/

section Sets

variable {c : Char}

theorem contains_versionSet : versionSet.contains c = true ↔ c.isDigit = true ∨ c = '.' := by
  rw [Char.isDigit_iff_toNat, ← Char.toNat_inj]
  grind [versionSet, CodeSet.contains, CodeSet.covers]

theorem contains_inlineSet : inlineSet.contains c = true ↔ c ≠ '\n' := by
  have range := toNat_cases c
  rw [ne_eq, ← Char.toNat_inj]
  grind [inlineSet, CodeSet.contains, CodeSet.covers]

theorem contains_headerSet : headerSet.contains c = true ↔ c ≠ ':' ∧ c ≠ '\r' ∧ c ≠ '\n' := by
  have range := toNat_cases c
  simp only [ne_eq, ← Char.toNat_inj]
  grind [headerSet, CodeSet.contains, CodeSet.covers]

theorem contains_valueSet : valueSet.contains c = true ↔ c ≠ ';' ∧ c ≠ '\r' ∧ c ≠ '\n' := by
  have range := toNat_cases c
  simp only [ne_eq, ← Char.toNat_inj]
  grind [valueSet, CodeSet.contains, CodeSet.covers]

end Sets

/-! ## Lines -/

/-- The end of a line is found at its place. -/
theorem comes_lineEnd (wide : Bool) :
    Comes (lineEnd.tries some) (carriage wide ++ ['\n']) [] := by
  simp only [lineEnd, Regex.tries_seq]
  have feed : Comes ((Node.one '\n').tries ((Node.look .textEnd).tries some)) ['\n'] [] :=
    Regex.comes_one (Regex.comes_textEnd (Regex.comes_some []))
  cases wide with
  | true => exact Regex.comes_optional (by decide) feed
  | false => exact Regex.comes_optional_missing (by simp; decide) feed

/-- The end of a line is not found before it. -/
theorem fails_lineEnd {c : Char} (inside : c ≠ '\r' ∧ c ≠ '\n') (more : List Char) :
    Fails (lineEnd.tries some) (c :: more) := by
  have other (d : Char) (h : c ≠ d) : (CodeSet.single d).contains c = false := by
    rwa [Bool.eq_false_iff, ne_eq, Regex.contains_single]
  refine Regex.fails_of_shuns ?_ some more
  simp [Node.shuns, lineEnd, Node.one, Node.opens, other _ inside.1, other _ inside.2]
  decide

theorem takes_status (h : Head) {r : RuleSpec}
    (expression : r.node? = some (.seq (.look .textStart) statusLine)) :
    r.Takes (h.status ++ ['\n']) [] := by
  have shape : h.status ++ ['\n'] = 'H' :: 'T' :: 'T' :: 'P' :: '/' :: (h.version ++
      ' ' :: (h.code ++ (h.phrase ++ (carriage h.wide ++ ['\n'])))) := by
    simp [Head.status]
  -- all that follows the code, taken lazily up to the end of the line
  have rest (text : List Char) (inside : ∀ c ∈ text, c ≠ '\r' ∧ c ≠ '\n') :
      Comes ((Node.rep (.set inlineSet) 0 none false).tries (lineEnd.tries some))
        (text ++ (carriage h.wide ++ ['\n'])) [] := by
    refine Regex.comes_lazy (fun c hc => contains_inlineSet.2 (inside c hc).2) ?_
      (comes_lineEnd h.wide)
    intro c more suffix
    exact fails_lineEnd (inside c (suffix.subset List.mem_cons_self)) _
  refine RuleSpec.takes_of_comes_start expression rfl (by simp) ?_
  rw [List.append_nil, shape]
  simp only [statusLine, Regex.tries_seq, Regex.tries_group]
  iterate 5 refine Regex.comes_one ?_
  refine Regex.comes_plus h.versioned (fun c hc => contains_versionSet.2 (h.versionChars c hc))
    (by simp; decide) (Regex.comes_one ?_)
  have unlike : ∀ c ∈ (h.phrase ++ (carriage h.wide ++ ['\n'])).head?,
      digitSet.contains c = false := by
    rw [Head.phrase]
    cases h.reason <;> cases h.wide <;> simp [carriage] <;> decide
  refine Regex.comes_plus h.coded (fun c hc => contains_digitSet.2 (h.codeChars c hc)) unlike ?_
  cases hreason : h.reason with
  | none =>
    rw [Head.phrase, hreason]
    refine Regex.comes_optional_missing ?_ (rest [] (by simp))
    cases h.wide <;> simp [carriage] <;> decide
  | some text =>
    rw [Head.phrase, hreason]
    exact Regex.comes_optional (by decide) (rest text (h.reasonChars text hreason))

/-- What comes behind a stretch of a line: the rest of it or the end of the line. -/
theorem head?_line {text : List Char} {P : Char → Prop} (h : ∀ c ∈ text.head?, P c) (wide : Bool) :
    ∀ c ∈ (text ++ (carriage wide ++ ['\n'])).head?, P c ∨ c = '\r' ∨ c = '\n' := by
  cases text with
  | nil => cases wide <;> simp [carriage]
  | cons c text => exact fun d hd => .inl (h d hd)

/-- In the value of a header there is a stretch without semicolons next, or a semicolon. -/
theorem first_headerValue {value : List Char} (nonempty : value ≠ [])
    (inside : ∀ c ∈ value, c ≠ '\r' ∧ c ≠ '\n') (wide : Bool) :
    ∃ token more r, value = token ++ more ∧ token ≠ [] ∧ r.transitions = [] ∧
      RuleSpec.FirstTakes (http.rulesOf "headerValue") r token
        (more ++ (carriage wide ++ ['\n'])) := by
  obtain ⟨r, r', r'', rules, ends, -, runs, stays, single, stays'⟩ := rulesOf_headerValue
  obtain ⟨c, value, rfl⟩ := List.exists_cons_of_ne_nil nonempty
  obtain ⟨here, later⟩ := List.forall_mem_cons.1 inside
  have refused (more : List Char) : r.Refuses (c :: more) :=
    RuleSpec.refuses_of_fails ends rfl (fails_lineEnd here more)
  rw [rules]
  -- a semicolon is taken alone, and other text up to the next one
  by_cases semicolon : c = ';'
  · subst semicolon
    refine ⟨[';'], value, r'', rfl, by simp, stays', .later (refused _) (.later ?_ (.here ?_))⟩
    · exact RuleSpec.refuses_of_fails runs rfl (Regex.fails_plus (by simp; decide))
    · exact RuleSpec.takes_of_comes single rfl (by simp) (Regex.comes_one (Regex.comes_some _))
  · have run : ∀ d ∈ c :: value.takeWhile (· != ';'), valueSet.contains d = true := by
      refine List.forall_mem_cons.2 ⟨contains_valueSet.2 ⟨semicolon, here⟩, fun d hd => ?_⟩
      have other : d ≠ ';' := by simpa using List.mem_takeWhile_imp hd
      exact contains_valueSet.2 ⟨other, later d (List.takeWhile_subset _ hd)⟩
    refine ⟨c :: value.takeWhile (· != ';'), value.dropWhile (· != ';'), r', by simp, by simp,
      stays, .later (refused _) (.here (RuleSpec.takes_of_comes runs rfl (by simp) ?_))⟩
    refine Regex.comes_plus (by simp) run (fun d hd => ?_) (Regex.comes_some _)
    rw [Bool.eq_false_iff, ne_eq, contains_valueSet]
    have := head?_line (P := (· = ';')) (fun d hd => by simpa using Regex.head?_dropWhile d hd) wide
      d hd
    tauto

/-- **The value of a header** is lexed up to the end of its line. -/
theorem lexes_headerValue {value : List Char} (inside : ∀ c ∈ value, c ≠ '\r' ∧ c ≠ '\n')
    (wide : Bool) :
    http.Lexes ["headerValue", "headers", "root"] (value ++ (carriage wide ++ ['\n']))
      ["headers", "root"] [] := by
  -- one match after the other, until only the end of the line is left
  induction hn : value.length using Nat.strongRecOn generalizing value with
  | _ n ih =>
    by_cases empty : value = []
    · obtain ⟨r, _, _, rules, ends, pops, -⟩ := rulesOf_headerValue
      have takes : r.Takes (carriage wide ++ ['\n']) [] :=
        RuleSpec.takes_of_comes ends rfl (by simp) (by simpa using comes_lineEnd wide)
      rw [empty]
      exact .last (rules ▸ .here takes) pops (by decide) rfl (by simp)
    · obtain ⟨token, more, r, rfl, nonempty, stays, first⟩ := first_headerValue empty inside wide
      have shorter : more.length < n := by
        have := List.length_pos_iff.2 nonempty
        rw [← hn, List.length_append]
        omega
      rw [List.append_assoc]
      refine (LexerSpec.Lexes.step first stays (by decide) rfl (by decide)).trans ?_
      exact ih _ shorter (fun c hc => inside c (List.mem_append_right _ hc)) rfl

/-- **A header** is lexed up to the end of its line. -/
theorem lexes_header (h : Header) :
    http.Lexes ["headers", "root"] (h.line ++ ['\n']) ["headers", "root"] [] := by
  obtain ⟨r, _, rules, expression, pushes, -⟩ := rulesOf_headers
  let blanks := h.value.takeWhile blankSet.contains
  let value := h.value.dropWhile blankSet.contains
  have inside : ∀ c ∈ value, c ≠ '\r' ∧ c ≠ '\n' :=
    fun c hc => h.valueChars c (List.dropWhile_subset _ hc)
  -- the blanks before the value go with the name
  have shape : h.line ++ ['\n'] =
      (h.name ++ ':' :: blanks) ++ (value ++ (carriage h.wide ++ ['\n'])) := by
    have split : h.value = blanks ++ value := List.takeWhile_append_dropWhile.symm
    rw [Header.line, split]
    simp
  have takes : r.Takes (h.name ++ ':' :: blanks) (value ++ (carriage h.wide ++ ['\n'])) := by
    refine RuleSpec.takes_of_comes_start expression rfl (by simp) ?_
    rw [List.append_assoc, List.cons_append]
    simp only [headerName, Regex.tries_seq, Regex.tries_group]
    refine Regex.comes_plus h.named (fun c hc => contains_headerSet.2 (h.nameChars c hc))
      (by simp; decide) (Regex.comes_one (Regex.comes_star ?_ ?_ (Regex.comes_some _)))
    · exact fun c hc => List.mem_takeWhile_imp hc
    · intro c hc
      rcases head?_line (fun d hd => Regex.head?_dropWhile d hd) h.wide c hc with other | rfl | rfl
      · exact other
      · decide
      · decide
  rw [shape]
  exact (LexerSpec.Lexes.step (rules ▸ .here takes) pushes (by decide) rfl (by decide)).trans
    (lexes_headerValue inside h.wide)

/-- **The status line** is lexed up to its end. -/
theorem lexes_status (h : Head) :
    http.Lexes ["root"] (h.status ++ ['\n']) ["headers", "root"] [] := by
  obtain ⟨r, rules, expression, pushes⟩ := rulesOf_root
  exact .last (rules ▸ .here (takes_status h expression)) pushes (by decide) rfl (by simp)

/-- The blank line is taken by a rule that empties the stack. -/
theorem first_blank (wide : Bool) :
    ∃ r, r.transitions = [.pop, .pop] ∧
      RuleSpec.FirstTakes (http.rulesOf "headers") r (carriage wide ++ ['\n']) [] := by
  obtain ⟨r, r', rules, expression, -, expression', pops⟩ := rulesOf_headers
  have refuses (c : Char) (h : c = '\r' ∨ c = '\n') (more : List Char) : r.Refuses (c :: more) := by
    refine RuleSpec.refuses_of_fails expression rfl (Regex.fails_of_shuns ?_ some more)
    rcases h with rfl | rfl <;> decide
  refine ⟨r', pops, rules ▸ .later ?_ (.here ?_)⟩
  · cases wide with
    | true => exact refuses '\r' (.inl rfl) ['\n']
    | false => exact refuses '\n' (.inr rfl) []
  · exact RuleSpec.takes_of_comes_start expression' rfl (by simp)
      (by simpa using comes_lineEnd wide)

/-! ## Heads and bodies -/

/-- **The lines of a head empty the stack**, and their tokens spell it. -/
theorem empties_lines {l : Lexer} (runs : http.Runs l) (lexer : String) (h : Head) :
    ∃ tokens, l.states.Empties lexer .initial h.lines tokens ∧ Token.Spell tokens h.text := by
  -- the empty line behind the headers empties the stack
  have headers (headers : List Header) :
      ∃ tokens, l.states.Empties lexer ⟨["headers", "root"], Limits.stackDepth⟩
          (headers.map (·.line) ++ [carriage h.wideBlank]) tokens ∧
        Token.Spell tokens (unlines (headers.map (·.line) ++ [carriage h.wideBlank])) := by
    induction headers with
    | nil =>
      obtain ⟨r, pops, first⟩ := first_blank h.wideBlank
      have room : ["root"].length + 1 + r.transitions.length ≤ Limits.stackDepth := by
        rw [pops]
        decide
      obtain ⟨tokens, spell, ends⟩ := runs.tokenizeLine_of_first first room lexer
      rw [pops, List.append_nil] at ends
      exact ⟨tokens, .last ends, by simpa [unlines] using spell⟩
    | cons header headers ih =>
      obtain ⟨more, empties, spell'⟩ := ih
      obtain ⟨tokens, spell, goes⟩ := runs.tokenizeLine_of_line (lexes_header header) lexer
      exact ⟨tokens ++ more, .line goes empties, by
        simpa [unlines] using spell.append spell'⟩
  obtain ⟨more, empties, spell'⟩ := headers h.headers
  obtain ⟨tokens, spell, goes⟩ := runs.tokenizeLine_of_line (lexes_status h) lexer
  exact ⟨tokens ++ more, .line goes empties, by
    simpa [Head.text, Head.lines, unlines] using spell.append spell'⟩

/-- The lines of a head are not broken. -/
theorem Head.unbroken (h : Head) : ∀ line ∈ h.lines, '\n' ∉ line := by
  have carriages (wide : Bool) : '\n' ∉ carriage wide := by cases wide <;> decide
  have header (header : Header) : '\n' ∉ header.line := by
    have name : '\n' ∉ header.name := fun hn => (header.nameChars _ hn).2.2 rfl
    have value : '\n' ∉ header.value := fun hv => (header.valueChars _ hv).2 rfl
    simp [Header.line, name, value, carriages]
  have phrase : '\n' ∉ h.phrase := by
    unfold Head.phrase
    cases hreason : h.reason with
    | none => simp
    | some text =>
      have reason : '\n' ∉ text := fun ht => (h.reasonChars text hreason _ ht).2 rfl
      simp [reason]
  have version : '\n' ∉ h.version := fun hv => absurd (h.versionChars _ hv) (by decide)
  have code : '\n' ∉ h.code := fun hc => absurd (h.codeChars _ hc) (by decide)
  simp only [Head.lines, List.forall_mem_cons, List.forall_mem_append, List.forall_mem_map]
  exact ⟨by simp [Head.status, version, code, phrase, carriages], fun _ _ => header _,
    carriages _, by simp⟩

/-- **The lexer for heads takes the head of a response and nothing else.** Whatever its reports are
and whatever bytes follow the head, a run succeeds if its lines fit into one read each, the tokens
are the text of the head, and none of them is an error. -/
theorem consumes_head (h : Head)
    (fits : ∀ line ∈ h.lines,
      (Utf8.encode (String.ofList (line ++ ['\n']))).length ≤ Limits.lineChunk)
    (preferences : Preferences) (body : List UInt8) :
    ∃ l, http.compile = .ok l ∧
      let l := l.withPreferences preferences
      let source : Source := ⟨Utf8.encode (String.ofList h.text) ++ body, none⟩
      (∀ {α : Type} (k : Sink α), k.Quiet → (l.run source k).error? = none) ∧
        (∀ t ∈ (l.run source .collector).output, t.type ≠ .error) ∧
        Token.textOf (l.tokens source) = h.text := by
  obtain ⟨l, compiled⟩ := typed_http.exists_compile
  refine ⟨l, compiled, ?_⟩
  intro l' source
  have runs : http.Runs l := typed_http.runs compiled (by decide)
  have hl : l'.Compiled := (Lexer.Compiled.ofSpec compiled).withPreferences preferences
  obtain ⟨tokens, empties, spell⟩ := empties_lines runs l.name h
  have limit : l'.chunkLimit = Limits.lineChunk := runs.means.rest.2.2.2.2.2.1
  have short : ∀ line ∈ h.lines,
      (Utf8.encode (String.ofList line)).length < max l'.chunkLimit 4 := by
    intro line hline
    have := fits line hline
    rw [Utf8.encode_ofList_append, Utf8.encode_feed, List.length_append, List.length_singleton] at this
    omega
  obtain ⟨steps, rfl, reads⟩ := Lexer.readOn_of_empties (l := l') empties h.unbroken short
  have trace : l'.trace source = ⟨steps, .stackEmptied⟩ :=
    (l'.trace_eq_readOn source).trans (reads body none)
  refine ⟨fun k quiet => ?_, ?_, ?_⟩
  · rw [Lexer.error_of_quiet quiet, trace]
    rfl
  · rw [(l'.run_collector source).1, trace]
    exact List.forall_mem_append.2 ⟨spell.clean, by decide⟩
  · rw [hl.tokens_eq, trace]
    exact spell.text

/-- A head with both ends of lines and a header without a value. -/
def notFound : Head where
  version := ['1', '.', '1']
  code := ['4', '0', '4']
  reason := some ['N', 'o']
  wide := true
  headers := [⟨['A'], [], false, by simp, by simp, by simp⟩,
    ⟨['B'], [' ', 'c', ';', ':'], true, by simp, by simp, by simp⟩]
  wideBlank := false
  versioned := by simp
  versionChars := by simp
  coded := by simp
  codeChars := by simp
  reasonChars := by simp

/-- Of a head and a body that is no text the head is taken. -/
theorem consumes_head_notFound :
    ∃ l, http.compile = .ok l ∧
      Token.textOf ((l.withPreferences {}).tokens
        ⟨Utf8.encode (String.ofList notFound.text) ++ [60, 255, 10], none⟩) = notFound.text := by
  have fits : ∀ line ∈ notFound.lines,
      (Utf8.encode (String.ofList (line ++ ['\n']))).length ≤ Limits.lineChunk := by
    simp only [Utf8.encode_ofList]
    decide
  obtain ⟨l, compiled, -, -, text⟩ := consumes_head notFound fits {} [60, 255, 10]
  exact ⟨l, compiled, text⟩

end LexMachine.Builtin
