import HexPattern.Proofs.ReaderSemantics

/-! Reading by runs: blanks cut a text into runs, and each run is cut into
pairs of characters from its own start. This looks at a whole text at once and
knows nothing of a reader that uses up a blank as the lower half of a cell or
carries an upper half along. Both give the same cells, so a run never shares
a cell with another one. -/
namespace HexPattern.RunReading
open Text (isBlank)
open ReaderSemantics

/-- The longest stretches of a text without blanks, in order. -/
def runs (text : List Char) : List (List Char) :=
  (text.splitOnP isBlank).filter fun run => !run.isEmpty

/-- The cells of one run, two characters a cell. A last character without a
partner leaves the lower half open. -/
def pairCells : List Char → List Cell
  | [] => []
  | [high] => [⟨nibbleOf high, .any⟩]
  | high :: low :: rest => ⟨nibbleOf high, nibbleOf low⟩ :: pairCells rest

/-- The cells of what is left of a run when the upper half of a cell may
already be read. -/
def runCells : Option Nibble → List Char → List Cell
  | none, run => pairCells run
  | some high, [] => [⟨high, .any⟩]
  | some high, low :: rest => ⟨high, nibbleOf low⟩ :: pairCells rest

/-- The cells of the pieces between blanks. Only the first piece can go on
from a pending half. -/
def pieceCells (pending : Option Nibble) : List (List Char) → List Cell
  | [] => []
  | first :: others => runCells pending first ++ others.flatMap pairCells

private theorem pairCells_cons (c : Char) (run : List Char) :
    pairCells (c :: run) = runCells (some (nibbleOf c)) run := by
  cases run <;> rfl

private theorem pieceCells_none (pieces : List (List Char)) :
    pieceCells none pieces = pieces.flatMap pairCells := by
  cases pieces <;> rfl

private theorem runCells_nil (pending : Option Nibble) : runCells pending [] = halfCell pending := by
  cases pending <;> rfl

/-- The reader agrees with the cutting, with a half cell pending or without.
The invariant is that what is pending belongs to the run the reader is in. -/
theorem read_cells_eq_piece_cells (pending : Option Nibble) (text : List Char) :
    completedBy pending text ++ halfCell (pendingBy pending text) =
      pieceCells pending (text.splitOnP isBlank) := by
  induction text generalizing pending with
  | nil => simp [completedBy, pendingBy, pieceCells, runCells_nil, List.splitOnP_nil]
  | cons c rest ih =>
    have step := ih (pendingAfter pending c)
    rw [List.splitOnP_cons_eq_if_modifyHead]
    simp only [completedBy, pendingBy, List.foldl_cons, List.append_assoc]
    rw [← pendingBy, step]
    by_cases blank : isBlank c = true
    · simp only [completed, pendingAfter, blank, if_true, pieceCells_none]
      rw [pieceCells, runCells_nil]
    · -- a dark character goes on the first piece, which the rest has even if it is empty
      obtain ⟨first, others, pieces⟩ := List.exists_cons_of_ne_nil (List.splitOnP_ne_nil isBlank rest)
      rw [pieces]
      cases pending with
      | none => simp [completed, pendingAfter, blank, pieceCells, runCells, pairCells_cons]
      | some high => simp [completed, pendingAfter, blank, pieceCells, runCells]

/-- A blank parts the runs on its two sides. -/
theorem runs_append_blank {front back : List Char} {c : Char} (blank : isBlank c = true) :
    runs (front ++ c :: back) = runs front ++ runs back := by
  rw [runs, List.splitOnP_append_cons _ _ blank, List.filter_append]
  rfl

theorem runs_of_dark {text : List Char} (dark : ∀ c ∈ text, isBlank c = false)
    (nonempty : text ≠ []) : runs text = [text] := by
  rw [runs, List.splitOnP_eq_singleton dark]
  simp [nonempty]

/-- Put together again, the runs are the text without its blanks. -/
theorem flatten_runs (text : List Char) : (runs text).flatten = text.filter fun c => !isBlank c := by
  rw [runs, List.flatten_filter_not_isEmpty]
  induction text with
  | nil => simp
  | cons c rest ih =>
    obtain ⟨first, others, pieces⟩ := List.exists_cons_of_ne_nil (List.splitOnP_ne_nil isBlank rest)
    rw [List.splitOnP_cons_eq_if_modifyHead]
    rw [pieces] at ih ⊢
    cases blank : isBlank c <;> simp [blank, ← ih]

private theorem flatMap_runs (pieces : List (List Char)) :
    (pieces.filter fun run => !run.isEmpty).flatMap pairCells = pieces.flatMap pairCells := by
  induction pieces with
  | nil => rfl
  | cons piece pieces ih =>
    cases piece with
    | nil => simpa [pairCells] using ih
    | cons c run => simp [ih]

/-- The cells of a legible text are those of its runs. -/
theorem ofChars_eq_runs {text : List Char} (legible : ∀ c ∈ text, Legible c) :
    Pattern.ofChars text = .ok (.ofCells ((runs text).flatMap pairCells)) := by
  rw [ofChars_legible legible, read_cells_eq_piece_cells, pieceCells_none, runs, flatMap_runs]

/-- A text is read as a pattern exactly if it is legible and the pattern's
cells are those of its runs, pair by pair. -/
theorem cells_read_by_runs (text : String) (pattern : Pattern) :
    Pattern.ofText text = .ok pattern ↔
      (∀ c ∈ text.toList, Legible c) ∧ pattern.cells = (runs text.toList).flatMap pairCells := by
  constructor
  · intro accepted
    have legible := legible_of_accepted accepted
    rw [Pattern.ofText, ofChars_eq_runs legible] at accepted
    cases accepted
    exact ⟨legible, rfl⟩
  · rintro ⟨legible, cells⟩
    rw [Pattern.ofText, ofChars_eq_runs legible, ← cells, Pattern.ofCells_cells]

example : Pattern.ofText "?5\u3000???A" = .ok (.ofCells
    [⟨.any, .fixed 5⟩, ⟨.any, .any⟩, ⟨.any, .fixed 10⟩]) := by
  cbv

end HexPattern.RunReading
