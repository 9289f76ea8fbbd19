import LexMachine.Proofs.Specification.Documents
import LexMachine.Proofs.Text.Encoding
import LexMachine.Specification.File
import Mathlib.Data.String.Basic

/-!
# Specifications saved to files

A file with the document of a specification is read as that specification (`ofFile_of_document`),
if the extension of its name tells the format. A name without slashes is what its path leads to
(`FileName.base?_of_absent`).
-/

namespace LexMachine

/-! ## Names of files in the current directory -/

namespace FileName

open String (utf8Len)

/-- A text is not cut from a place on after which there is no slash. -/
theorem splitOnAux_of_absent (before after : List Char) (absent : '/' ∉ after) :
    (String.ofList (before ++ after)).splitOnAux "/" 0 ⟨utf8Len before⟩ 0 [] =
      [String.ofList (before ++ after)] := by
  induction after generalizing before with
  | nil =>
    have ended := (String.atEnd_of_valid before []).2 rfl
    have whole := String.extract_of_valid [] before []
    rw [String.splitOnAux, if_pos ended]
    simpa using whole
  | cons c after ih =>
    obtain ⟨here, absent⟩ := not_or.1 (mt List.mem_cons.2 absent)
    have more :
        ¬ String.Pos.Raw.atEnd (.ofList (before ++ c :: after)) ⟨utf8Len before⟩ = true := by
      rw [String.atEnd_of_valid]
      exact List.cons_ne_nil c after
    have apart : ¬ (String.Pos.Raw.get (.ofList (before ++ c :: after)) ⟨utf8Len before⟩ ==
        String.Pos.Raw.get "/" 0) = true := by
      rw [String.get_of_valid]
      show ¬ (c == '/') = true
      simpa using Ne.symm here
    have next := String.next_of_valid before c after
    have rest := ih (before ++ [c]) absent
    rw [List.append_assoc, List.singleton_append] at rest
    rw [String.splitOnAux, if_neg more, if_neg apart]
    show String.splitOnAux _ "/" 0 (String.Pos.Raw.next _ ⟨utf8Len before⟩) 0 [] = _
    rw [next]
    simpa using rest

/-- A name without slashes is a path to the file of that name. -/
theorem base?_of_absent {name : String} (absent : '/' ∉ name.toList)
    (other : name ∉ ["", ".", ".."]) : base? name = some name := by
  have split : name.splitOn "/" = [name] := by
    have whole := splitOnAux_of_absent [] name.toList absent
    rw [List.nil_append, String.ofList_toList] at whole
    exact whole
  simp only [List.mem_cons, List.not_mem_nil, or_false, not_or] at other
  obtain ⟨empty, here, up⟩ := other
  simp [base?, components, split, empty, here, up]

end FileName

/-! ## Documents in files -/

/-- The bytes of a text are read as the text. -/
theorem Files.text_of_encode {files : Files} {path text : String}
    (content : files path = .ok ⟨Utf8.encode text, none⟩) : files.text path = .ok text := by
  rw [Files.text, content]
  show (if (Utf8.malformedAt? (Utf8.encode text)).isSome = true then _ else
    Except.ok (String.ofList (Utf8.decode (Utf8.encode text)))) = _
  rw [Utf8.malformedAt?_encode, if_neg (by simp), Utf8.decode_encode, String.ofList_toList]

/-- **A specification comes back from a file** with its document. -/
theorem LexerSpec.ofFile_of_document {files : Files} {path extension : String} {spec : LexerSpec}
    (content : files path = .ok ⟨Utf8.encode spec.toJsonText, none⟩)
    (named : FileName.extension? path = some extension)
    (json : MediaType.sameIgnoringCase extension "json" = true) :
    ofFile files path = .ok spec := by
  have other : ¬ MediaType.sameIgnoringCase extension "toml" = true := by
    intro toml
    have same := (eq_of_beq json).symm.trans (eq_of_beq toml)
    exact absurd same (by decide)
  rw [ofFile, Files.text_of_encode content, named]
  show (if MediaType.sameIgnoringCase extension "toml" = true then _ else
    if MediaType.sameIgnoringCase extension "json" = true then ofJsonText spec.toJsonText
    else _) = _
  rw [if_neg other, if_pos json]
  exact spec.documents_round_trip.1

end LexMachine
