import HexPattern.Pattern.Basic
import Mathlib.Data.List.Basic
import Mathlib.Data.Option.Basic
import Mathlib.Tactic.Common

/-! The bytes that cells stand for, without the walk over them. They are there
exactly if every cell has a value, and otherwise the walk ends at the first open
cell, wherever it began to count. Cells behind the first open one make no
difference, and closed cells in front of it only move its index. Where there are
bytes, they are the values of the cells. -/
namespace HexPattern.FirstOpenCell

/-- Where the first cell with an open half stands. -/
structure FirstOpen (cells : List Cell) (index : Nat) : Prop where
  here : ∃ cell, cells[index]? = some cell ∧ cell.hasWildcard = true
  closedBefore : ∀ cell ∈ cells.take index, cell.hasWildcard = false

variable {cell : Cell} {rest front back : List Cell} {place : Nat}

theorem value_of_closed (closed : cell.hasWildcard = false) : ∃ byte, cell.value? = some byte := by
  refine Option.ne_none_iff_exists'.mp fun none => ?_
  rw [(Cell.value?_eq_none_iff cell).mp none] at closed
  cases closed

theorem firstOpen_head (wild : cell.hasWildcard = true) :
    FirstOpen (cell :: rest) place ↔ place = 0 := by
  constructor
  · intro first
    cases place with
    | zero => rfl
    | succ place =>
      have closed := first.closedBefore cell (by simp)
      rw [wild] at closed
      cases closed
  · rintro rfl
    exact ⟨⟨cell, rfl, wild⟩, by simp⟩

theorem firstOpen_tail (closed : cell.hasWildcard = false) :
    FirstOpen (cell :: rest) place ↔ ∃ later, FirstOpen rest later ∧ place = later + 1 := by
  constructor
  · rintro ⟨⟨found, here, wild⟩, before⟩
    cases place with
    | zero =>
      cases here
      rw [closed] at wild
      cases wild
    | succ later =>
      rw [List.take_succ_cons, List.forall_mem_cons] at before
      exact ⟨later, ⟨⟨found, here, wild⟩, before.2⟩, rfl⟩
  · rintro ⟨later, ⟨here, before⟩, rfl⟩
    refine ⟨here, ?_⟩
    rw [List.take_succ_cons, List.forall_mem_cons]
    exact ⟨closed, before⟩

/-- What stands behind the first open cell does not move it. -/
theorem firstOpen_append_left (first : FirstOpen front place) :
    FirstOpen (front ++ back) place := by
  obtain ⟨⟨found, here, wild⟩, before⟩ := first
  obtain ⟨inside, -⟩ := List.getElem?_eq_some_iff.mp here
  refine ⟨⟨found, ?_, wild⟩, ?_⟩
  · rwa [List.getElem?_append_left inside]
  · rwa [List.take_append_of_le_length (Nat.le_of_lt inside)]

/-- Closed cells in front move the first open cell by their number. -/
theorem firstOpen_append_right (closed : ∀ cell ∈ front, cell.hasWildcard = false)
    (first : FirstOpen back place) : FirstOpen (front ++ back) (front.length + place) := by
  obtain ⟨⟨found, here, wild⟩, before⟩ := first
  refine ⟨⟨found, ?_, wild⟩, ?_⟩
  · rwa [List.getElem?_append_right (Nat.le_add_right ..), Nat.add_sub_cancel_left]
  · rw [List.take_length_add_append, List.forall_mem_append]
    exact ⟨closed, before⟩

variable {cells : List Cell} {bytes : List UInt8} {fault : Fault}

private theorem cellBytes_open (index : Nat) (wild : cell.hasWildcard = true) :
    Pattern.cellBytes index (cell :: rest) = .error (.openCell index) := by
  rw [Pattern.cellBytes, (Cell.value?_eq_none_iff cell).mpr wild]

private theorem cellBytes_closed {byte : UInt8} (index : Nat) (value : cell.value? = some byte) :
    Pattern.cellBytes index (cell :: rest) =
      (Pattern.cellBytes (index + 1) rest).map (byte :: ·) := by
  rw [Pattern.cellBytes, value]

/-- The bytes of cells are their values, if each of them has one. -/
theorem cellBytes_ok_iff (index : Nat) :
    Pattern.cellBytes index cells = .ok bytes ↔ cells.map Cell.value? = bytes.map some := by
  induction cells generalizing index bytes with
  | nil => cases bytes <;> simp [Pattern.cellBytes]
  | cons cell rest ih =>
    cases wild : cell.hasWildcard with
    | true =>
      have none : cell.value? = none := (Cell.value?_eq_none_iff cell).mpr wild
      rw [cellBytes_open index wild]
      cases bytes <;> simp [none]
    | false =>
      obtain ⟨byte, value⟩ := value_of_closed wild
      rw [cellBytes_closed index value, List.map_cons, value]
      cases bytes with
      | nil => cases Pattern.cellBytes (index + 1) rest <;> simp [Except.map]
      | cons other others =>
        rw [List.map_cons, List.cons.injEq, Option.some_inj, ← ih (index + 1)]
        cases Pattern.cellBytes (index + 1) rest <;> simp [Except.map]

/-- Where something is open, something is open first. -/
theorem exists_firstOpen_iff :
    (∃ place, FirstOpen cells place) ↔ ∃ cell ∈ cells, cell.hasWildcard = true := by
  constructor
  · rintro ⟨place, ⟨cell, here, wild⟩, -⟩
    exact ⟨cell, List.mem_of_getElem? here, wild⟩
  · induction cells with
    | nil => simp
    | cons cell rest ih =>
      cases wild : cell.hasWildcard with
      | true => exact fun _ => ⟨0, (firstOpen_head wild).mpr rfl⟩
      | false =>
        rintro ⟨found, member, foundWild⟩
        rcases List.mem_cons.mp member with rfl | later
        · rw [wild] at foundWild
          cases foundWild
        · obtain ⟨place, first⟩ := ih ⟨found, later, foundWild⟩
          exact ⟨place + 1, (firstOpen_tail wild).mpr ⟨place, first, rfl⟩⟩

/-- Without bytes there is a first open cell, and its index is what is known. -/
theorem cellBytes_error_iff (index : Nat) :
    Pattern.cellBytes index cells = .error fault ↔
      ∃ place, FirstOpen cells place ∧ fault = .openCell (index + place) := by
  induction cells generalizing index with
  | nil =>
    have nowhere : ∀ place, ¬ FirstOpen [] place := by
      rintro place ⟨⟨cell, here, -⟩, -⟩
      cases here
    simp [Pattern.cellBytes, nowhere]
  | cons cell rest ih =>
    cases wild : cell.hasWildcard with
    | true => simp [cellBytes_open index wild, firstOpen_head wild, eq_comm]
    | false =>
      obtain ⟨byte, value⟩ := value_of_closed wild
      have later : ∀ place, index + 1 + place = index + (place + 1) := by omega
      have failed : (Pattern.cellBytes (index + 1) rest).map (byte :: ·) = .error fault ↔
          Pattern.cellBytes (index + 1) rest = .error fault := by
        cases Pattern.cellBytes (index + 1) rest <;> simp [Except.map]
      rw [cellBytes_closed index value, failed, ih (index + 1)]
      simp only [firstOpen_tail wild, later]
      constructor
      · rintro ⟨place, first, rfl⟩
        exact ⟨place + 1, ⟨place, first, rfl⟩, rfl⟩
      · rintro ⟨_, ⟨place, first, rfl⟩, rfl⟩
        exact ⟨place, first, rfl⟩

variable {pattern : Pattern}

theorem toBytes_eq_ok_iff :
    pattern.toBytes = .ok bytes ↔ pattern.cells.map Cell.value? = bytes.map some :=
  cellBytes_ok_iff 0

theorem toBytes_eq_error_iff :
    pattern.toBytes = .error fault ↔
      ∃ index, FirstOpen pattern.cells index ∧ fault = .openCell index := by
  rw [Pattern.toBytes, cellBytes_error_iff]
  simp only [Nat.zero_add]

/-- A pattern with bytes has no open cell. -/
theorem closed_of_toBytes (found : pattern.toBytes = .ok bytes) :
    ∀ cell ∈ pattern.cells, cell.hasWildcard = false := by
  intro cell member
  have valued : cell.value? ∈ bytes.map some := by
    rw [← toBytes_eq_ok_iff.mp found]
    exact List.mem_map_of_mem member
  obtain ⟨byte, -, value⟩ := List.mem_map.mp valued
  have notOpen : ¬ cell.hasWildcard = true := by
    rw [← Cell.value?_eq_none_iff, ← value]
    exact Option.some_ne_none byte
  simpa using notOpen

/-- The only byte of a cell is its value under the mask. -/
theorem maskedValue_of_value? {byte : UInt8} (found : cell.value? = some byte) :
    cell.maskedValue = byte := by
  obtain ⟨high, low⟩ := cell
  cases high with
  | any => cases found
  | fixed high =>
    cases low with
    | any => cases found
    | fixed low => exact Option.some.inj found

/-- Where a pattern stands for bytes, they are its values. -/
theorem values_of_toBytes (found : pattern.toBytes = .ok bytes) : pattern.values = bytes := by
  have valued : pattern.cells.map Cell.value? = pattern.values.map some := by
    rw [Pattern.values, List.map_map]
    refine List.map_congr_left fun cell member => ?_
    obtain ⟨byte, value⟩ := value_of_closed (closed_of_toBytes found cell member)
    rw [Function.comp_apply, maskedValue_of_value? value, value]
  rw [toBytes_eq_ok_iff.mp found] at valued
  exact (List.map_injective_iff.mpr (Option.some_injective _) valued).symm

theorem toBytes_ofBytes (bytes : List UInt8) : (Pattern.ofBytes bytes).toBytes = .ok bytes := by
  have values : Cell.value? ∘ Cell.ofByte = some := funext Cell.value?_ofByte
  rw [toBytes_eq_ok_iff, Pattern.ofBytes, Pattern.cells_ofCells, List.map_map, values]

end HexPattern.FirstOpenCell
