import HexPattern.Pattern.Document
import HexPattern.Proofs.StringLiterals
import HexPattern.Proofs.WrittenForm

/-! Patterns as JSON documents. A document is read by two readers, one inside the
other: the literal gives a text, however it is spelled, and the text gives the
pattern or the fault, whose place is counted in the text and not in the document.
Nothing but a literal is accepted. The characters of a written pattern need no
escape, so its document is the written form between quotes. -/
namespace HexPattern.PatternDocuments
open ReaderSemantics StringLiterals

/-- The documents that are one string literal for a text, with blanks around it. -/
inductive Denotes : List Char → List Char → Prop
  | literal {front body back text : List Char} (inFront : ∀ c ∈ front, Json.isBlank c = true)
      (spelled : Body body text) (behind : ∀ c ∈ back, Json.isBlank c = true) :
      Denotes (front ++ '"' :: (body ++ '"' :: back)) text

variable {document text : List Char} {pattern : Pattern} {fault : Fault}

/-- The literal is read as the text that it spells, whatever that text is. -/
theorem readString_of_denotes (denotes : Denotes document text) :
    ∃ back, Json.readString document = .ok (text, back) ∧ ∀ c ∈ back, Json.isBlank c = true := by
  obtain ⟨inFront, spelled, behind⟩ := denotes
  exact ⟨_, readString_iff.mpr ⟨_, _, inFront, spelled, rfl⟩, behind⟩

theorem readDocument_accepted (denotes : Denotes document text)
    (accepted : Pattern.ofChars text = .ok pattern) : Pattern.readDocument document = .ok pattern := by
  obtain ⟨back, read, blank⟩ := readString_of_denotes denotes
  have ended : Json.readEnd pattern back = .ok pattern := readEnd_iff.mpr ⟨blank, rfl⟩
  simp only [Pattern.readDocument, read, accepted, ended]
  rfl

theorem readDocument_refused (denotes : Denotes document text)
    (refused : Pattern.ofChars text = .error fault) :
    Pattern.readDocument document = .error (.notPattern fault) := by
  obtain ⟨back, read, -⟩ := readString_of_denotes denotes
  simp only [Pattern.readDocument, read, refused]

/-- An accepted document is a literal for an accepted text. -/
theorem denotes_of_accepted (accepted : Pattern.readDocument document = .ok pattern) :
    ∃ text, Denotes document text ∧ Pattern.ofChars text = .ok pattern := by
  unfold Pattern.readDocument at accepted
  split at accepted
  · cases accepted
  · rename_i text back read
    split at accepted
    · cases accepted
    · rename_i found foundRead
      cases ended : Json.readEnd found back with
      | error failure =>
        rw [ended] at accepted
        cases accepted
      | ok kept =>
        rw [ended] at accepted
        cases accepted
        obtain ⟨blank, rfl⟩ := readEnd_iff.mp ended
        obtain ⟨front, body, inFront, spelled, rfl⟩ := readString_iff.mp read
        exact ⟨text, .literal inFront spelled blank, foundRead⟩

theorem writtenChar_nibble (letters : LetterCase) (nibble : Nibble) :
    Json.writtenChar (nibble.char letters) = [nibble.char letters] := by
  cases nibble with
  | any => rfl
  | fixed value => cases letters <;> revert value <;> decide

/-- No character of a written pattern is escaped. -/
theorem written_as_it_stands (letters : LetterCase) (pattern : Pattern) :
    (pattern.chars letters).flatMap Json.writtenChar = pattern.chars letters := by
  have plain : ∀ c ∈ pattern.chars letters, Json.writtenChar c = [c] := by
    intro c member
    rcases WrittenForm.nibble_or_space_of_mem member with rfl | ⟨nibble, rfl⟩
    · rfl
    · exact writtenChar_nibble letters nibble
  rw [List.flatMap_congr plain, List.flatMap_singleton']

/-- The document of a pattern is its written form between quotes. -/
theorem json_eq_quoted (pattern : Pattern) : pattern.json = "\"" ++ pattern.text .upper ++ "\"" := by
  refine String.toList_injective ?_
  rw [String.toList_append, String.toList_append, WrittenForm.toList_text, Pattern.json,
    String.toList_ofList, Json.writeLiteral, written_as_it_stands]
  rfl

theorem no_backslash_in_json (pattern : Pattern) : '\\' ∉ pattern.json.toList := by
  have illegible : ¬ Legible '\\' := by decide
  have legible := legible_of_accepted (WrittenForm.ofChars_chars .upper pattern)
  rw [json_eq_quoted, String.toList_append, String.toList_append, WrittenForm.toList_text]
  simp only [List.mem_append, not_or]
  exact ⟨⟨by decide, fun member => illegible (legible _ member)⟩, by decide⟩

/-- What is written for a pattern is a literal for its written form. -/
theorem denotes_json (pattern : Pattern) : Denotes pattern.json.toList (pattern.chars .upper) := by
  have written : Denotes ([] ++ '"' :: ((pattern.chars .upper).flatMap Json.writtenChar ++ '"' :: []))
      (pattern.chars .upper) := .literal (by simp) (body_of_written _) (by simp)
  rwa [Pattern.json, String.toList_ofList, Json.writeLiteral]

/-- The fault of a text is told with the document as it is told of the text: a
character of the text and its place there. -/
theorem fault_of_document {json text : String} (denotes : Denotes json.toList text.toList)
    (refused : Pattern.ofText text = .error fault) :
    ∃ refusal position found, Pattern.ofJson json = .error refusal ∧ refusal.kind = .content ∧
      refusal.message = fault.message ∧ fault = .unexpectedCharacter position found ∧
      text.toList[position]? = some found := by
  obtain ⟨position, found, first, same⟩ := firstIllegible_of_refused refused
  exact ⟨.notPattern fault, position, found, readDocument_refused denotes refused, rfl, rfl, same,
    first.here⟩

/-- A pattern is written as a literal without escapes, and read back from it. Any
literal is accepted exactly if the text that it denotes is, and as the same pattern;
otherwise the document is well-formed, and what is said of it is what is said of the
text. No other document is accepted, so none whose value is not a string. -/
theorem documents_are_literals_for_texts :
    (∀ pattern : Pattern, pattern.json = "\"" ++ pattern.text .upper ++ "\"" ∧
      '\\' ∉ pattern.json.toList ∧ Pattern.ofJson pattern.json = .ok pattern) ∧
    (∀ json text : String, Denotes json.toList text.toList →
      (∀ pattern, Pattern.ofJson json = .ok pattern ↔ Pattern.ofText text = .ok pattern) ∧
      ∀ fault, Pattern.ofText text = .error fault → ∃ refusal position found,
        Pattern.ofJson json = .error refusal ∧ refusal.kind = .content ∧
        refusal.message = fault.message ∧ fault = .unexpectedCharacter position found ∧
        text.toList[position]? = some found) ∧
    ∀ json pattern, Pattern.ofJson json = .ok pattern →
      ∃ text : String, Denotes json.toList text.toList ∧ Pattern.ofText text = .ok pattern := by
  refine ⟨?_, ?_, ?_⟩
  · intro pattern
    exact ⟨json_eq_quoted pattern, no_backslash_in_json pattern,
      readDocument_accepted (denotes_json pattern) (WrittenForm.ofChars_chars .upper pattern)⟩
  · intro json text denotes
    refine ⟨fun pattern => ⟨?_, readDocument_accepted denotes⟩, fun fault => fault_of_document denotes⟩
    intro accepted
    cases read : Pattern.ofText text with
    | error fault =>
      have refused := readDocument_refused denotes read
      cases refused.symm.trans accepted
    | ok found =>
      have acceptedToo := readDocument_accepted denotes read
      exact congrArg Except.ok (Except.ok.inj (acceptedToo.symm.trans accepted))
  · intro json pattern accepted
    obtain ⟨text, denotes, read⟩ := denotes_of_accepted accepted
    refine ⟨String.ofList text, ?_, ?_⟩
    · rwa [String.toList_ofList]
    · rwa [Pattern.ofText, String.toList_ofList]

example : Pattern.ofJson " \"\\u0041\\u003f\\t?b\" " =
    .ok (.ofCells [⟨.fixed 10, .any⟩, ⟨.any, .fixed 11⟩]) := by
  cbv

end HexPattern.PatternDocuments
