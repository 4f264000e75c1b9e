import HexPattern.Session.Command

/-! Where a pattern can be laid over data, and what decides the answer there. Whether
there is an answer is a matter of three lengths. A machine finds the end of the
stretch by adding numbers of sixty-four bits; a sum that is too large breaks the
program off, or it goes round and ends in front of its own beginning, where there
is no stretch to cut out. Where there is an answer, it is that of the stretch alone,
so bytes elsewhere cannot change it. -/
namespace HexPattern.MatchingWindow
open Session (stretch?)

/-- What becomes of a sum that sixty-four bits cannot hold. -/
inductive Overflow where
  /-- There is no sum, and the program breaks off. -/
  | breaksOff
  /-- The sum loses what is too large about it. -/
  | goesRound

/-- The sum of two numbers of sixty-four bits, if there is one. -/
def sum? (left right : UInt64) : Overflow → Option UInt64
  | .breaksOff => (Offset.advance? left.toNat right.toNat).map UInt64.ofNat
  | .goesRound => some (left + right)

/-- The comparison as a machine makes it: the end of the stretch is added up, the
stretch is cut out of the data, and its bytes are compared. Without a sum or a
stretch it breaks off. -/
def compareOnMachine? (overflow : Overflow) (pattern : Pattern) (data : List UInt8)
    (offset : UInt64) : Option Bool :=
  (sum? offset (UInt64.ofNat pattern.length) overflow).bind fun last =>
    (stretch? data offset.toNat last.toNat).map pattern.acceptsWindow

variable {overflow : Overflow} {left right last : UInt64} {pattern : Pattern}
  {data other extra : List UInt8} {offset : Nat}

/-- A sum that is small enough is the same on every machine. -/
theorem sum_of_fits (fits : left.toNat + right.toNat < UInt64.size) :
    ∃ last, sum? left right overflow = some last ∧ last.toNat = left.toNat + right.toNat := by
  have whole : (UInt64.ofNat (left.toNat + right.toNat)).toNat = left.toNat + right.toNat :=
    UInt64.toNat_ofNat_of_lt fits
  cases overflow with
  | breaksOff =>
    refine ⟨_, ?_, whole⟩
    simp [sum?, Offset.advance?, fits]
  | goesRound =>
    refine ⟨left + right, rfl, ?_⟩
    rw [UInt64.toNat_add]
    exact Nat.mod_eq_of_lt fits

/-- A sum that is too large is missing, or it has gone back behind where it began. -/
theorem sum_of_overflow (tooLarge : UInt64.size ≤ left.toNat + right.toNat)
    (found : sum? left right overflow = some last) : last.toNat < left.toNat := by
  cases overflow with
  | breaksOff =>
    have missing : Offset.advance? left.toNat right.toNat = none := if_neg (Nat.not_lt.mpr tooLarge)
    rw [sum?, missing] at found
    cases found
  | goesRound =>
    have leftHeld : left.toNat < UInt64.size := left.toNat_lt
    have rightHeld : right.toNat < UInt64.size := right.toNat_lt
    cases found
    have round : (left + right).toNat = left.toNat + right.toNat - UInt64.size := by
      rw [UInt64.toNat_add]
      exact (Nat.mod_eq_sub_mod tooLarge).trans (Nat.mod_eq_of_lt (by omega))
    omega

/-- The answer is that of the stretch under the pattern. -/
theorem matchesAt_eq_stretch (pattern : Pattern) (data : List UInt8) (offset : Nat) :
    pattern.matchesAt? data offset =
      (stretch? data offset (offset + pattern.length)).map pattern.acceptsWindow := by
  rw [Pattern.matchesAt?, stretch?, Nat.add_sub_cancel_left]
  by_cases fits : offset + pattern.length ≤ data.length
  · simp [fits]
  · simp [fits]

theorem compareOnMachine_of_overflow {place : UInt64} (patternHeld : pattern.length < UInt64.size)
    (tooLarge : UInt64.size ≤ place.toNat + pattern.length) :
    compareOnMachine? overflow pattern data place = none := by
  have length : (UInt64.ofNat pattern.length).toNat = pattern.length :=
    UInt64.toNat_ofNat_of_lt patternHeld
  rw [compareOnMachine?, Option.bind_eq_none_iff]
  intro last found
  have behind : last.toNat < place.toNat := sum_of_overflow (length.symm ▸ tooLarge) found
  rw [Option.map_eq_none_iff, stretch?, if_neg]
  omega

/-- A machine comes to the answer that numbers of any size give. -/
theorem compareOnMachine_eq (dataHeld : data.length < UInt64.size)
    (patternHeld : pattern.length < UInt64.size) (place : UInt64) :
    compareOnMachine? overflow pattern data place = pattern.matchesAt? data place.toNat := by
  have length : (UInt64.ofNat pattern.length).toNat = pattern.length :=
    UInt64.toNat_ofNat_of_lt patternHeld
  by_cases fits : place.toNat + pattern.length < UInt64.size
  · obtain ⟨last, found, same⟩ :
        ∃ last, sum? place (UInt64.ofNat pattern.length) overflow = some last ∧
          last.toNat = place.toNat + (UInt64.ofNat pattern.length).toNat :=
      sum_of_fits (length.symm ▸ fits)
    rw [compareOnMachine?, found, Option.bind_some, matchesAt_eq_stretch, same, length]
  · rw [compareOnMachine_of_overflow patternHeld (Nat.not_lt.mp fits), eq_comm,
      Pattern.matchesAt?_eq_none_iff]
    omega

theorem matchesAt_front (fits : pattern.length ≤ data.length) :
    pattern.matchesAt? data 0 = some (pattern.matchesFront data) := by
  rw [Pattern.matchesFront, Pattern.matchesAt?_of_fits ((Nat.zero_add _).symm ▸ fits), Option.getD_some]

theorem matchesFront_eq_window (fits : pattern.length ≤ data.length) :
    pattern.matchesFront data = pattern.acceptsWindow (data.take pattern.length) := by
  have answer := matchesAt_front fits
  rw [Pattern.matchesAt?_of_fits ((Nat.zero_add _).symm ▸ fits), List.drop_zero] at answer
  exact (Option.some.inj answer).symm

theorem matchesFront_of_short (short : data.length < pattern.length) :
    pattern.matchesFront data = false := by
  rw [Pattern.matchesFront, Pattern.matchesAt?_eq_none_iff.mpr (by omega), Option.getD_none]

/-- Two byte strings that agree under the pattern have the same stretch there. -/
theorem window_eq_of_agree {count : Nat}
    (agree : ∀ place < count, other[offset + place]? = data[offset + place]?) :
    (other.drop offset).take count = (data.drop offset).take count := by
  refine List.ext_getElem? fun place => ?_
  rw [List.getElem?_take, List.getElem?_take, List.getElem?_drop, List.getElem?_drop]
  by_cases inside : place < count
  · rw [if_pos inside, if_pos inside, agree place inside]
  · rw [if_neg inside, if_neg inside]

/-- The lengths alone say whether there is an answer, and the stretch under the
pattern alone says which one. A machine agrees, whatever it does with sums that are
too large: it never comes to an answer by way of one. At the front there is always
an answer, which is no if the data are too short and else that of the first bytes. -/
theorem lengths_and_window_decide (pattern : Pattern) (data : List UInt8) (offset : UInt64) :
    (pattern.matchesAt? data offset.toNat = none ↔ data.length < offset.toNat + pattern.length) ∧
    (data.length < UInt64.size → pattern.length < UInt64.size → ∀ overflow,
      compareOnMachine? overflow pattern data offset = pattern.matchesAt? data offset.toNat ∧
      (UInt64.size ≤ offset.toNat + pattern.length →
        compareOnMachine? overflow pattern data offset = none)) ∧
    (∀ matched, pattern.matchesAt? data offset.toNat = some matched →
      pattern.matchesFront (data.drop offset.toNat) = matched ∧
      pattern.matchesFront ((data.drop offset.toNat).take pattern.length) = matched ∧
      ∀ other, offset.toNat + pattern.length ≤ other.length →
        (∀ place < pattern.length, other[offset.toNat + place]? = data[offset.toNat + place]?) →
          pattern.matchesAt? other offset.toNat = some matched) ∧
    (pattern.length ≤ data.length →
      pattern.matchesAt? data 0 = some (pattern.matchesFront data) ∧
      ∀ extra, pattern.matchesFront (data ++ extra) = pattern.matchesFront data) ∧
    (data.length < pattern.length → pattern.matchesFront data = false) := by
  refine ⟨Pattern.matchesAt?_eq_none_iff, ?_, ?_, ?_, matchesFront_of_short⟩
  · intro dataHeld patternHeld overflow
    exact ⟨compareOnMachine_eq dataHeld patternHeld offset,
      compareOnMachine_of_overflow patternHeld⟩
  · intro matched answer
    have fits := Pattern.fits_of_matchesAt? answer
    have behind : pattern.length ≤ (data.drop offset.toNat).length := by
      rw [List.length_drop]
      omega
    have whole : pattern.length ≤ ((data.drop offset.toNat).take pattern.length).length := by
      rw [List.length_take]
      omega
    rw [Pattern.matchesAt?_of_fits fits, Option.some_inj] at answer
    refine ⟨?_, ?_, ?_⟩
    · rw [matchesFront_eq_window behind, answer]
    · rw [matchesFront_eq_window whole, List.take_take, Nat.min_self, answer]
    · intro other otherFits agree
      rw [Pattern.matchesAt?_of_fits otherFits, window_eq_of_agree agree, answer]
  · intro fits
    refine ⟨matchesAt_front fits, fun extra => ?_⟩
    have longer : pattern.length ≤ (data ++ extra).length := by
      rw [List.length_append]
      omega
    rw [matchesFront_eq_window longer, matchesFront_eq_window fits,
      List.take_append_of_le_length fits]

example : compareOnMachine? .goesRound (.ofBytes [0xA5, 0xCB]) [0xA5] 0xFFFFFFFFFFFFFFFF = none := by
  decide

end HexPattern.MatchingWindow
