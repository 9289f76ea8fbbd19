import LexMachine.Proofs.Run.LineByLine
import LexMachine.Proofs.Text.Encoding

/-!
# Lines in the input

A line that fits into one read is worked on as a whole, whatever follows it (`Lexer.readOn_line`). A
match that empties the stack ends a run: where that happens at the end of some lines, the run reads
these lines and nothing of what follows (`Lexer.readOn_of_empties`). Input that is a single line is
what becomes of that line (`Lexer.trace_of_line`).
-/

namespace LexMachine

open LineReader (newline chunks)

/-! ## Encoded lines -/

/-- Lines with their line feeds. -/
def unlines (lines : List (List Char)) : List Char := lines.flatMap (· ++ ['\n'])

namespace Utf8

theorem encode_ofList (text : List Char) :
    encode (String.ofList text) = text.flatMap String.utf8EncodeChar := by
  rw [encode_eq, String.toList_ofList]

theorem encode_ofList_append (a b : List Char) :
    encode (String.ofList (a ++ b)) = encode (String.ofList a) ++ encode (String.ofList b) := by
  rw [String.ofList_append, encode_append]

theorem encode_feed : encode (String.ofList ['\n']) = [newline] := by
  rw [encode_ofList]
  decide

theorem encode_unlines_cons (line : List Char) (lines : List (List Char)) (more : List UInt8) :
    encode (String.ofList (unlines (line :: lines))) ++ more =
      encode (String.ofList line) ++
        newline :: (encode (String.ofList (unlines lines)) ++ more) := by
  rw [unlines, List.flatMap_cons, encode_ofList_append, encode_ofList_append, encode_feed,
    ← unlines]
  simp only [List.append_assoc, List.cons_append, List.nil_append]

/-- A line that is not broken has no line feed among its bytes. -/
theorem newline_not_mem_encode {line : List Char} (unbroken : '\n' ∉ line) :
    newline ∉ encode (String.ofList line) := by
  intro h
  have feed := ofNat_mem_of_mem_encode (by decide) h
  rw [String.toList_ofList] at feed
  exact unbroken feed

end Utf8

/-! ## Runs -/

/-- **Lines empty a stack** and give some tokens: the last of them ends with an empty stack. The
lines are those before their line feeds. -/
inductive StateTable.Empties (table : StateTable) (lexer : String) :
    Stack → List (List Char) → List Token → Prop where
  | last {stack : Stack} {line : List Char} {tokens : List Token}
      (ends : table.tokenizeLine lexer stack (line ++ ['\n']) = (tokens, .error none)) :
      Empties table lexer stack [line] tokens
  | line {stack after : Stack} {line : List Char} {tokens more : List Token}
      {lines : List (List Char)}
      (goes : table.tokenizeLine lexer stack (line ++ ['\n']) = (tokens, .ok after))
      (rest : Empties table lexer after lines more) :
      Empties table lexer stack (line :: lines) (tokens ++ more)

namespace Lexer

variable {l : Lexer} {stack after : Stack} {line : List Char} {tokens : List Token}

/-- A run on some input from a stack on. -/
def readOn (l : Lexer) (stack : Stack) (source : Source) : Trace :=
  l.drive source.failure [] stack [] (LineReader.ofSource source l.chunkLimit).chunks.chunks

/-- A line that fits is worked on as a whole. -/
theorem readOn_line (l : Lexer) (stack : Stack) (unbroken : '\n' ∉ line)
    (fits : (Utf8.encode (String.ofList line)).length < max l.chunkLimit 4) :
    ∃ chunk : Chunk, l.states.tokenizeLine l.name stack (line ++ ['\n']) =
        (tokensOf (l.workChunk stack [] chunk).steps.reverse,
          (l.workChunk stack [] chunk).outcome) ∧
      (l.workChunk stack [] chunk).pending = [] ∧
      ∀ more failure,
        l.readOn stack ⟨Utf8.encode (String.ofList line) ++ newline :: more, failure⟩ =
          l.resume failure (l.workChunk stack [] chunk)
            (LineReader.ofSource ⟨more, failure⟩ l.chunkLimit).chunks.chunks := by
  obtain ⟨chunk, whole, text, reads⟩ :=
    LineReader.chunks_line (Utf8.newline_not_mem_encode unbroken) fits
  rw [Utf8.decode_encode, String.toList_ofList] at text
  refine ⟨chunk, text ▸ l.tokenizeLine_eq_workChunk stack whole, l.pending_workChunk stack whole,
    fun more failure => ?_⟩
  rw [← l.drive_eq_resume]
  exact congrArg (l.drive failure [] stack []) (reads more failure)

/-- A run goes on behind a line that leaves a stack. -/
theorem readOn_of_goes
    (goes : l.states.tokenizeLine l.name stack (line ++ ['\n']) = (tokens, .ok after))
    (unbroken : '\n' ∉ line)
    (fits : (Utf8.encode (String.ofList line)).length < max l.chunkLimit 4) :
    ∃ steps, tokensOf steps = tokens ∧ ∀ more failure,
      l.readOn stack ⟨Utf8.encode (String.ofList line) ++ newline :: more, failure⟩ =
        (l.readOn after ⟨more, failure⟩).after steps := by
  obtain ⟨chunk, work, used, reads⟩ := l.readOn_line stack unbroken fits
  rw [goes, Worked.outcome] at work
  cases hending : (l.workChunk stack [] chunk).ending? with
  | some ending =>
    rw [hending] at work
    cases (Prod.mk.inj work).2
  | none =>
    rw [hending] at work
    obtain ⟨htokens, hafter⟩ := Prod.mk.inj work
    have same : after = (l.workChunk stack [] chunk).stack := Except.ok.inj hafter
    refine ⟨_, htokens.symm, fun more failure => ?_⟩
    rw [reads, l.resume_of_passed failure hending, used, same]
    rfl

/-- A run ends in a line that empties the stack. -/
theorem readOn_of_ends
    (ends : l.states.tokenizeLine l.name stack (line ++ ['\n']) = (tokens, .error none))
    (unbroken : '\n' ∉ line)
    (fits : (Utf8.encode (String.ofList line)).length < max l.chunkLimit 4) :
    ∃ steps, tokensOf steps = tokens ∧ ∀ more failure,
      l.readOn stack ⟨Utf8.encode (String.ofList line) ++ newline :: more, failure⟩ =
        ⟨steps, .stackEmptied⟩ := by
  obtain ⟨chunk, work, -, reads⟩ := l.readOn_line stack unbroken fits
  rw [ends, Worked.outcome] at work
  cases hending : (l.workChunk stack [] chunk).ending? with
  | none =>
    rw [hending] at work
    cases (Prod.mk.inj work).2
  | some ending =>
    rw [hending] at work
    obtain ⟨htokens, herror⟩ := Prod.mk.inj work
    -- a turn does not wait for the end of the input, and this one has not failed
    have emptied : ending = .stackEmptied := by
      cases ending with
      | inputEnded => exact absurd rfl (l.early_of_work hending)
      | stackEmptied => rfl
      | failed => cases herror
    refine ⟨_, htokens.symm, fun more failure => ?_⟩
    rw [reads, l.resume_of_ended failure hending, emptied]

/-- **A run ends where lines empty the stack**, and gives their tokens, whatever follows. -/
theorem readOn_of_empties {lines : List (List Char)}
    (h : l.states.Empties l.name stack lines tokens) (unbroken : ∀ line ∈ lines, '\n' ∉ line)
    (fits : ∀ line ∈ lines, (Utf8.encode (String.ofList line)).length < max l.chunkLimit 4) :
    ∃ steps, tokensOf steps = tokens ∧ ∀ more failure,
      l.readOn stack ⟨Utf8.encode (String.ofList (unlines lines)) ++ more, failure⟩ =
        ⟨steps, .stackEmptied⟩ := by
  induction h with
  | last ends =>
    obtain ⟨steps, hsteps, trace⟩ := readOn_of_ends ends (unbroken _ (by simp)) (fits _ (by simp))
    refine ⟨steps, hsteps, fun more failure => ?_⟩
    rw [Utf8.encode_unlines_cons]
    exact trace _ failure
  | line goes _ ih =>
    obtain ⟨first, hfirst, trace⟩ := readOn_of_goes goes (unbroken _ (by simp)) (fits _ (by simp))
    obtain ⟨steps, hsteps, rest⟩ := ih (fun line h => unbroken line (List.mem_cons_of_mem _ h))
      (fun line h => fits line (List.mem_cons_of_mem _ h))
    refine ⟨first ++ steps, by rw [tokensOf_append, hfirst, hsteps], fun more failure => ?_⟩
    rw [Utf8.encode_unlines_cons, trace, rest]
    rfl

theorem trace_eq_readOn (source : Source) : l.trace source = l.readOn .initial source :=
  l.trace_eq_rest source

/-- The error that the work on a line ends in. -/
def lineError? : Except (Option LexError) Stack → Option LexError
  | .ok _ => none
  | .error error? => error?

/-- **Input that is one line**, without a line feed, is what the plain tokenizer makes of the line.
-/
theorem trace_of_line {result : Except (Option LexError) Stack}
    (worked : l.states.tokenizeLine l.name .initial line = (tokens, result)) (nonempty : line ≠ [])
    (unbroken : '\n' ∉ line)
    (fits : (Utf8.encode (String.ofList line)).length < l.chunkLimit) :
    let trace := l.trace ⟨Utf8.encode (String.ofList line), none⟩
    tokensOf trace.steps = tokens ∧ trace.ending.error? = lineError? result := by
  have bytes : Utf8.encode (String.ofList line) ≠ [] := by
    intro none
    have text := Utf8.decode_encode (String.ofList line)
    rw [none, String.toList_ofList] at text
    exact nonempty text.symm
  have admitted : LineReader.Fits (max 4 l.chunkLimit) (Utf8.encode (String.ofList line)) := by
    rw [LineReader.Fits, splitAfter_last (Utf8.newline_not_mem_encode unbroken) bytes,
      List.forall_mem_singleton]
    omega
  have plain := l.trace_eq_lineByLine admitted
  rw [Utf8.decode_encode, String.toList_ofList, splitAfter_last unbroken nonempty,
    StateTable.lineByLine, worked] at plain
  cases result with
  | error => exact Prod.mk.inj plain
  | ok =>
    obtain ⟨made, ending⟩ := Prod.mk.inj plain
    exact ⟨made.trans (List.append_nil tokens), ending⟩

end Lexer

end LexMachine
