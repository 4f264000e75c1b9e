import HexPattern.Pattern.Recipe
import HexPattern.Proofs.FirstOpenCell

/-! Putting patterns together. A recipe adds the cells of its steps one after the
other, so two recipes in a row give the two patterns in a row, and all that is
known about a pattern can be told from its parts. Laid over data, the part
behind begins where the part in front ends; the first open cell is that of the
part in front, or else that of the part behind, counted from the beginning; and
the written forms are parted by one space where there are two of them. -/
namespace HexPattern.JoinedPatterns
open FirstOpenCell

/-- All that is known about a pattern that is two others in a row. -/
structure Joins (front back whole : Pattern) : Prop where
  cells : whole.cells = front.cells ++ back.cells
  mask : whole.mask = front.mask ++ back.mask
  values : whole.values = front.values ++ back.values
  wildcardCount : whole.wildcardCount = front.wildcardCount + back.wildcardCount
  hasWildcards : whole.hasWildcards = (front.hasWildcards || back.hasWildcards)
  matching : ∀ data offset, offset + whole.length ≤ data.length → ∃ inFront behind,
    front.matchesAt? data offset = some inFront ∧
      back.matchesAt? data (offset + front.length) = some behind ∧
      whole.matchesAt? data offset = some (inFront && behind)
  bytes : ∀ frontBytes backBytes, front.toBytes = .ok frontBytes → back.toBytes = .ok backBytes →
    whole.toBytes = .ok (frontBytes ++ backBytes)
  openInFront : ∀ fault, front.toBytes = .error fault → whole.toBytes = .error fault
  openBehind : ∀ frontBytes fault, front.toBytes = .ok frontBytes → back.toBytes = .error fault →
    ∃ index, fault = .openCell index ∧ whole.toBytes = .error (.openCell (front.length + index))
  textOfBack : ∀ letters, front.isEmpty = true → whole.text letters = back.text letters
  textOfFront : ∀ letters, back.isEmpty = true → whole.text letters = front.text letters
  textOfBoth : ∀ letters, front.isEmpty = false → back.isEmpty = false →
    whole.text letters = front.text letters ++ " " ++ back.text letters

variable {front back : Pattern} {steps : List Step} {data : List UInt8} {offset : Nat}
  {letters : LetterCase} {frontBytes backBytes : List UInt8} {fault : Fault}

@[simp] theorem cells_append (front back : Pattern) :
    (front ++ back).cells = front.cells ++ back.cells := rfl

theorem mask_append (front back : Pattern) : (front ++ back).mask = front.mask ++ back.mask :=
  List.map_append

theorem values_append (front back : Pattern) :
    (front ++ back).values = front.values ++ back.values :=
  List.map_append

theorem wildcardCount_append (front back : Pattern) :
    (front ++ back).wildcardCount = front.wildcardCount + back.wildcardCount :=
  List.countP_append

theorem hasWildcards_append (front back : Pattern) :
    (front ++ back).hasWildcards = (front.hasWildcards || back.hasWildcards) := by
  rw [Pattern.hasWildcards_eq, Pattern.hasWildcards_eq, Pattern.hasWildcards_eq, cells_append,
    List.any_append]

/-- A stretch as long as the front part is left to it, and what follows to the
part behind. -/
theorem acceptsWindow_append {inFront behind : List UInt8} (length : inFront.length = front.length) :
    (front ++ back).acceptsWindow (inFront ++ behind) =
      (front.acceptsWindow inFront && back.acceptsWindow behind) := by
  have same : front.cells.length = inFront.length := length.symm
  rw [Pattern.acceptsWindow, cells_append, List.zip_append same, List.all_append]
  rfl

theorem matchesAt_append (fits : offset + (front ++ back).length ≤ data.length) :
    ∃ inFront behind, front.matchesAt? data offset = some inFront ∧
      back.matchesAt? data (offset + front.length) = some behind ∧
      (front ++ back).matchesAt? data offset = some (inFront && behind) := by
  have lengths : (front ++ back).length = front.length + back.length :=
    Pattern.length_append front back
  have frontFits : offset + front.length ≤ data.length := by omega
  have backFits : offset + front.length + back.length ≤ data.length := by omega
  have long : ((data.drop offset).take front.length).length = front.length := by
    rw [List.length_take, List.length_drop]
    omega
  refine ⟨_, _, if_pos frontFits, if_pos backFits, ?_⟩
  rw [Pattern.matchesAt?, if_pos fits, lengths, List.take_add, List.drop_drop,
    acceptsWindow_append long]

theorem toBytes_append (inFront : front.toBytes = .ok frontBytes)
    (behind : back.toBytes = .ok backBytes) :
    (front ++ back).toBytes = .ok (frontBytes ++ backBytes) := by
  rw [toBytes_eq_ok_iff] at inFront behind ⊢
  rw [cells_append, List.map_append, List.map_append, inFront, behind]

theorem toBytes_append_open (failed : front.toBytes = .error fault) :
    (front ++ back).toBytes = .error fault := by
  obtain ⟨index, first, rfl⟩ := toBytes_eq_error_iff.mp failed
  exact toBytes_eq_error_iff.mpr ⟨index, firstOpen_append_left first, rfl⟩

theorem toBytes_append_openBehind (inFront : front.toBytes = .ok frontBytes)
    (behind : back.toBytes = .error fault) :
    ∃ index, fault = .openCell index ∧
      (front ++ back).toBytes = .error (.openCell (front.length + index)) := by
  obtain ⟨index, first, rfl⟩ := toBytes_eq_error_iff.mp behind
  have later := firstOpen_append_right (closed_of_toBytes inFront) first
  exact ⟨index, rfl, toBytes_eq_error_iff.mpr ⟨_, later, rfl⟩⟩

/-- The written form is that of the cells, with spaces between them. -/
theorem text_eq_intercalate (letters : LetterCase) (pattern : Pattern) :
    pattern.text letters = " ".intercalate (pattern.cells.map (Cell.text letters)) := by
  refine String.toList_injective ?_
  have cellTexts : (pattern.cells.map (Cell.text letters)).map String.toList =
      pattern.cells.map (Cell.chars letters) := by
    simp [Cell.text]
  rw [String.toList_intercalate, cellTexts, Pattern.text, String.toList_ofList]
  rfl

theorem text_append (frontFull : front.isEmpty = false) (backFull : back.isEmpty = false) :
    (front ++ back).text letters = front.text letters ++ " " ++ back.text letters := by
  have texts : ∀ {pattern : Pattern}, pattern.isEmpty = false →
      pattern.cells.map (Cell.text letters) ≠ [] := by
    intro pattern full
    simpa [Pattern.isEmpty] using full
  rw [text_eq_intercalate, text_eq_intercalate, text_eq_intercalate, cells_append, List.map_append,
    String.intercalate_append_of_ne_nil (texts frontFull) (texts backFull)]

theorem append_of_isEmpty_front (empty : front.isEmpty = true) : front ++ back = back := by
  refine Pattern.ext_cells ?_
  rw [cells_append, List.isEmpty_iff.mp empty, List.nil_append]

theorem append_of_isEmpty_back (empty : back.isEmpty = true) : front ++ back = front := by
  refine Pattern.ext_cells ?_
  rw [cells_append, List.isEmpty_iff.mp empty, List.append_nil]

theorem joins_append (front back : Pattern) : Joins front back (front ++ back) where
  cells := cells_append front back
  mask := mask_append front back
  values := values_append front back
  wildcardCount := wildcardCount_append front back
  hasWildcards := hasWildcards_append front back
  matching := fun _ _ fits => matchesAt_append fits
  bytes := fun _ _ inFront behind => toBytes_append inFront behind
  openInFront := fun _ failed => toBytes_append_open failed
  openBehind := fun _ _ inFront behind => toBytes_append_openBehind inFront behind
  textOfBack := fun letters empty => by rw [append_of_isEmpty_front empty]
  textOfFront := fun letters empty => by rw [append_of_isEmpty_back empty]
  textOfBoth := fun _ frontFull backFull => text_append frontFull backFull

/-- Adding the steps of a recipe one by one puts its pattern behind the one that
is there. -/
theorem foldl_addStep (steps : List Step) (pattern : Pattern) :
    steps.foldl Pattern.addStep pattern = pattern ++ Pattern.ofRecipe steps := by
  induction steps generalizing pattern with
  | nil =>
    have nothing : (Pattern.ofRecipe []).isEmpty = true := rfl
    exact (append_of_isEmpty_back nothing).symm
  | cons step rest ih =>
    have added : pattern.addStep step ++ Pattern.ofRecipe rest =
        pattern ++ Pattern.ofRecipe (step :: rest) := by
      refine Pattern.ext_cells ?_
      simp [Pattern.addStep, Pattern.ofRecipe, List.append_assoc]
    rw [List.foldl_cons, ih, added]

/-- Going on with a second recipe where the first one ends gives the pattern of
both recipes in a row, which joins the patterns of the two. -/
theorem recipes_join (front back : List Step) :
    back.foldl Pattern.addStep (front.foldl Pattern.addStep (.ofCells [])) =
        Pattern.ofRecipe (front ++ back) ∧
      Joins (.ofRecipe front) (.ofRecipe back) (.ofRecipe (front ++ back)) := by
  have started : front.foldl Pattern.addStep (.ofCells []) = Pattern.ofRecipe front := by
    rw [foldl_addStep]
    exact append_of_isEmpty_front rfl
  rw [started, foldl_addStep, Pattern.ofRecipe_append]
  exact ⟨rfl, joins_append _ _⟩

end HexPattern.JoinedPatterns
