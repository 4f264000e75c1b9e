import HexPattern.Proofs.VisibleText

/-! Why a document of settings is refused. The words for a failure are fixed but
for what was found in the place of something else: a number, written anew with
its digits, or a string between quotes. So a document, whatever it holds, brings
no invisible character into the report about it. -/
namespace HexPattern.VisibleFailures
open Json VisibleText

theorem visible_integer (value : Int) : Visible (toString value) := by
  cases value with
  | ofNat number => exact visible_number number
  | negSucc number =>
    have sign : Visible "-" := visible_words (by decide)
    exact visible_append sign (visible_number (number + 1))

theorem visible_digits {digits : List Char} (plain : ∀ c ∈ digits, isPlain c = true) :
    Visible (String.ofList digits) := by
  refine visible_words ?_
  rw [String.toList_ofList]
  exact List.all_eq_true.mpr plain

/-- A number is written with digits, a point, an exponent and signs. -/
theorem visible_float (number : Binary64) : Visible number.text := by
  have decimal : ∀ c ∈ Nat.toDigits 10 number.shortest.1, isPlain c = true :=
    List.all_eq_true.mp (digits_plain (by decide) _)
  have zeros : ∀ count, ∀ c ∈ List.replicate count '0', isPlain c = true := by
    intro count c member
    rw [List.eq_of_mem_replicate member]
    decide
  have front : ∀ count, ∀ c ∈ (Nat.toDigits 10 number.shortest.1).take count, isPlain c = true :=
    fun count c member => decimal c (List.mem_of_mem_take member)
  have back : ∀ count, ∀ c ∈ (Nat.toDigits 10 number.shortest.1).drop count, isPlain c = true :=
    fun count c member => decimal c (List.mem_of_mem_drop member)
  have point : Visible "." := visible_words (by decide)
  unfold Binary64.text
  dsimp only
  split
  · exact visible_words (by decide)
  split
  · exact visible_append (visible_digits (List.forall_mem_append.mpr ⟨decimal, zeros _⟩))
      (visible_words (by decide))
  split
  · exact visible_append (visible_append (visible_digits (front _)) point) (visible_digits (back _))
  split
  · exact visible_append (visible_words (by decide))
      (visible_digits (List.forall_mem_append.mpr ⟨zeros _, decimal⟩))
  · have sign : Visible (if 0 < ((Nat.toDigits 10 number.shortest.1).length : Int) +
        number.shortest.2 then "+" else "-") := by
      split <;> exact visible_words (by decide)
    refine visible_append (visible_append (visible_append ?_ (visible_words (by decide))) sign)
      (visible_number _)
    refine visible_digits (List.forall_mem_append.mpr ⟨front 1, ?_⟩)
    split
    · simp
    · exact List.forall_mem_cons.mpr ⟨by decide, back 1⟩

theorem visible_wanted (wanted : Wanted) : Visible wanted.message := by
  cases wanted <;> exact visible_words (by decide)

theorem visible_found (head : Head) : Visible head.found.message := by
  cases head with
  | null => exact visible_words (by decide)
  | boolean value => cases value <;> exact visible_words (by decide)
  | number value =>
    cases value with
    | integer value => exact visible_between (visible_integer value) (by decide)
    | float negative magnitude =>
      have sign : Visible (if negative then "-" else "") := by
        cases negative <;> exact visible_words (by decide)
      exact visible_between (visible_append sign (visible_float magnitude)) (by decide)
  | string letters =>
    exact visible_append (visible_words (by decide)) (visible_quoted (String.ofList letters))
  | list => exact visible_words (by decide)
  | object => exact visible_words (by decide)

/-- If a text is refused, the cause is visible. -/
def FailsVisibly {α : Type} (read : Except Failure α) : Prop :=
  ∀ failure, read = .error failure → Visible failure.cause.message

section

variable {α β : Type}

theorem fails_ok {value : α} : FailsVisibly (.ok value) := by
  rintro _ ⟨⟩

theorem fails_error {failure : Failure} (visible : Visible failure.cause.message) :
    FailsVisibly (.error failure : Except Failure α) := by
  rintro _ ⟨⟩
  exact visible

theorem fails_cutShort (unfinished : Unfinished) :
    FailsVisibly (cutShort unfinished : Except Failure α) :=
  fails_error (by cases unfinished <;> exact visible_words (by decide))

theorem visible_malformation (malformation : Malformation) : Visible malformation.message := by
  cases malformation <;> exact visible_words (by decide)

theorem fails_malformed (malformation : Malformation) (text : List Char) :
    FailsVisibly (malformed malformation text : Except Failure α) :=
  fails_error (visible_malformation malformation)

theorem fails_map {read : Except Failure α} (f : α → β) (first : FailsVisibly read) :
    FailsVisibly (read.map f) := by
  cases read with
  | error failure => exact fails_error (first failure rfl)
  | ok value => exact fails_ok

theorem fails_bind {read : Except Failure α} {next : α → Except Failure β}
    (first : FailsVisibly read) (later : ∀ value, FailsVisibly (next value)) :
    FailsVisibly (read >>= next) := by
  cases read with
  | error failure => exact fails_error (first failure rfl)
  | ok value => exact later value

end

theorem fails_readCodeUnit (text : List Char) : FailsVisibly (readCodeUnit text) := by
  unfold readCodeUnit
  split
  · split
    · exact fails_ok
    · exact fails_malformed _ _
  · split
    · exact fails_cutShort _
    · exact fails_malformed _ _

theorem fails_readPiece (text : List Char) : FailsVisibly (readPiece text) := by
  unfold readPiece
  split
  · exact fails_cutShort _
  · exact fails_ok
  · split
    · exact fails_cutShort _
    · exact fails_map _ (fails_readCodeUnit _)
    · split
      · exact fails_ok
      · exact fails_malformed _ _
  · split
    · exact fails_malformed _ _
    · exact fails_ok

theorem fails_completeCodeUnit (value : Nat) (text : List Char) :
    FailsVisibly (completeCodeUnit value text) := by
  unfold completeCodeUnit
  split
  · exact fails_malformed _ _
  split
  · split
    · exact fails_cutShort _
    · exact fails_cutShort _
    · split
      · rename_i refused
        exact fails_error (fails_readCodeUnit _ _ refused)
      · split
        · exact fails_ok
        · exact fails_malformed _ _
    · exact fails_malformed _ _
  · exact fails_ok

theorem fails_readLetter (text : List Char) : FailsVisibly (readLetter text) := by
  unfold readLetter
  split
  · rename_i refused
    exact fails_error (fails_readPiece _ _ refused)
  · exact fails_ok
  · exact fails_ok
  · exact fails_map _ (fails_completeCodeUnit _ _)

theorem fails_readLiteral (text : List Char) : FailsVisibly (readLiteral text) := by
  fun_induction readLiteral text with
  | case1 text failure refused => exact fails_error (fails_readLetter _ _ refused)
  | case2 => exact fails_ok
  | case3 text c rest read shorter failure refused ih => exact fails_error (ih _ refused)
  | case4 => exact fails_ok

theorem fails_skipLiteral (text : List Char) : FailsVisibly (skipLiteral text) := by
  fun_induction skipLiteral text with
  | case1 text failure refused => exact fails_error (fails_readPiece _ _ refused)
  | case2 => exact fails_ok
  | case3 text piece rest open_ read shorter ih => exact ih

theorem fails_readWord (word text : List Char) : FailsVisibly (readWord word text) := by
  induction word generalizing text with
  | nil => exact fails_ok
  | cons letter word ih =>
    cases text with
    | nil => exact fails_cutShort _
    | cons c rest =>
      unfold readWord
      split
      · exact ih rest
      · exact fails_malformed _ _

theorem fails_readNumber (text : List Char) : FailsVisibly (readNumber text) := by
  unfold readNumber
  split
  · exact fails_cutShort _
  · exact fails_malformed _ _
  · split
    · exact fails_ok
    · exact fails_error (visible_malformation .numberOutOfRange)

theorem fails_readHead (text : List Char) : FailsVisibly (readHead text) := by
  unfold readHead readHeadHere
  split
  · exact fails_cutShort _
  · exact fails_map _ (fails_readWord _ _)
  · exact fails_map _ (fails_readWord _ _)
  · exact fails_map _ (fails_readWord _ _)
  · exact fails_map _ (fails_readLiteral _)
  · exact fails_ok
  · exact fails_ok
  · split
    · exact fails_map _ (fails_readNumber _)
    · exact fails_malformed _ _

/-- What is found in the place of something else is named visibly. -/
theorem fails_refuse {α : Type} (head : Head) (wanted : Wanted) (rest : List Char) :
    FailsVisibly (head.refuse wanted rest : Except Failure α) :=
  fails_error (visible_append (visible_between (visible_found head) (by decide))
    (visible_wanted wanted))

theorem fails_readByte (text : List Char) : FailsVisibly (readByte text) := by
  unfold readByte
  split
  · rename_i refused
    exact fails_error (fails_readHead _ _ refused)
  · rename_i value rest read
    split
    · exact fails_ok
    -- An integer out of range is named like one in the place of something else.
    · have found : Visible (Found.integer value).message := visible_found (.number (.integer value))
      exact fails_error (visible_append (visible_between found (by decide)) (visible_wanted .byte))
  · exact fails_refuse _ _ _

theorem fails_readBoolean (text : List Char) : FailsVisibly (readBoolean text) := by
  unfold readBoolean
  split
  · rename_i refused
    exact fails_error (fails_readHead _ _ refused)
  · exact fails_ok
  · exact fails_refuse _ _ _

theorem fails_readEnd {α : Type} (value : α) (text : List Char) : FailsVisibly (readEnd value text) := by
  unfold readEnd
  split
  · exact fails_ok
  · exact fails_malformed _ _

theorem fails_nextElement (place : Json.Place) (text : List Char) :
    FailsVisibly (nextElement place text) := by
  unfold nextElement
  split
  · exact fails_cutShort _
  · exact fails_ok
  · exact fails_ok
  · split
    · exact fails_cutShort _
    · exact fails_malformed _ _
    · exact fails_ok
  · exact fails_malformed _ _

theorem fails_closeList (text : List Char) : FailsVisibly (closeList text) := by
  unfold closeList
  split
  · exact fails_cutShort _
  · exact fails_ok
  · exact fails_malformed _ _

theorem fails_nextKey (place : Json.Place) (text : List Char) : FailsVisibly (nextKey place text) := by
  unfold nextKey
  split
  · exact fails_cutShort _
  · exact fails_ok
  · exact fails_map _ (fails_readLiteral _)
  · exact fails_malformed _ _
  · split
    · exact fails_cutShort _
    · exact fails_map _ (fails_readLiteral _)
    · exact fails_malformed _ _
    · exact fails_malformed _ _
  · exact fails_malformed _ _

theorem fails_readColon (text : List Char) : FailsVisibly (readColon text) := by
  unfold readColon
  split
  · exact fails_cutShort _
  · exact fails_ok
  · exact fails_malformed _ _

theorem fails_valueStep (frames : List Frame) (text : List Char) :
    FailsVisibly (Skip.valueStep frames text) := by
  have number : ∀ text, FailsVisibly (Skip.number text) := by
    intro text
    unfold Skip.number
    split
    · exact fails_malformed _ _
    · exact fails_ok
  unfold Skip.valueStep
  split
  · exact fails_cutShort _
  · exact fails_map _ (fails_readWord _ _)
  · exact fails_map _ (fails_readWord _ _)
  · exact fails_map _ (fails_readWord _ _)
  · exact fails_map _ (fails_skipLiteral _)
  · exact fails_ok
  · exact fails_ok
  · split
    · exact fails_map _ (number _)
    · exact fails_malformed _ _

theorem fails_keyStep (outer : List Frame) (text : List Char) :
    FailsVisibly (Skip.keyStep outer text) := by
  unfold Skip.keyStep
  split
  · exact fails_cutShort _
  · exact fails_map _ (fails_skipLiteral _)
  · exact fails_malformed _ _

theorem fails_firstStep (frame : Frame) (outer : List Frame) (text : List Char) :
    FailsVisibly (Skip.firstStep frame outer text) := by
  unfold Skip.firstStep
  split
  · exact fails_cutShort _
  split
  · exact fails_ok
  split
  · exact fails_valueStep _ _
  · exact fails_keyStep _ _

theorem fails_colonStep (outer : List Frame) (text : List Char) :
    FailsVisibly (Skip.colonStep outer text) := by
  unfold Skip.colonStep
  split
  · exact fails_cutShort _
  · exact fails_ok
  · exact fails_malformed _ _

theorem fails_nextStep (frame : Frame) (outer : List Frame) (text : List Char) :
    FailsVisibly (Skip.nextStep frame outer text) := by
  unfold Skip.nextStep
  split
  · exact fails_cutShort _
  split
  · exact fails_ok
  split
  · exact fails_ok
  · exact fails_malformed _ _

theorem fails_step (due : Skip) (text : List Char) : FailsVisibly (Skip.step due text) := by
  cases due with
  | done => exact fails_ok
  | value frames => exact fails_valueStep _ _
  | first frame outer => exact fails_firstStep _ _ _
  | key outer => exact fails_keyStep _ _
  | colon outer => exact fails_colonStep _ _
  | next frame outer => exact fails_nextStep _ _ _

theorem fails_skip (due : Skip) (text : List Char) : FailsVisibly (Skip.run due text) := by
  fun_induction Skip.run due text with
  | case1 => exact fails_ok
  | case2 due text pending failure refused => exact fails_error (fails_step _ _ _ refused)
  | case3 due text pending later rest stepped shorter ih => exact ih

section

open Settings (Given)

theorem fails_keep {α : Type} {read : Except Failure (α × List Char)} (put : α → Given)
    (first : FailsVisibly read) : FailsVisibly (Given.keep put read) := by
  cases read with
  | error failure => exact fails_error (first failure rfl)
  | ok pair => exact fails_ok

theorem fails_readValue (given : Given) (key : Settings.Key) (text : List Char) :
    FailsVisibly (given.readValue key text) := by
  cases key with
  | verbosity => exact fails_keep _ (fails_readByte text)
  | useColor => exact fails_keep _ (fails_readBoolean text)
  | lowercaseHex => exact fails_keep _ (fails_readBoolean text)

/-- Only keys of the settings are ever named as standing twice. -/
theorem fails_readMember (given : Given) (key text : List Char) :
    FailsVisibly (given.readMember key text) := by
  unfold Given.readMember
  split
  · split
    · rename_i refused
      exact fails_error (fails_readColon _ _ refused)
    · exact fails_map _ (fails_skip _ _)
  · rename_i known _
    split
    · have name : Visible known.name := by
        cases known <;> exact visible_words (by decide)
      exact fails_error (visible_between name (by decide))
    · split
      · rename_i refused
        exact fails_error (fails_readColon _ _ refused)
      · exact fails_readValue _ _ _

theorem fails_readMembers (place : Json.Place) (given : Given) (text : List Char) :
    FailsVisibly (Given.readMembers place given text) := by
  fun_induction Given.readMembers place given text with
  | case1 place given text failure refused => exact fails_error (fails_nextKey _ _ _ refused)
  | case2 => exact fails_ok
  | case3 place given text key rest atKey failure refused =>
    exact fails_error (fails_readMember _ _ _ _ refused)
  | case4 place given text key rest atKey next after atValue shorter ih => exact ih

theorem fails_readElement {α : Type} {read : List Char → Except Failure (α × List Char)}
    (inner : ∀ text, FailsVisibly (read text)) (place : Json.Place) (text : List Char) :
    FailsVisibly (Given.readElement read place text) := by
  unfold Given.readElement
  split
  · rename_i refused
    exact fails_error (fails_nextElement _ _ _ refused)
  · exact fails_ok
  · exact fails_map _ (inner _)

theorem fails_readElements (text : List Char) : FailsVisibly (Given.readElements text) := by
  refine fails_bind (fails_readElement fails_readByte _ _) fun verbosity => ?_
  refine fails_bind (fails_readElement fails_readBoolean _ _) fun useColor => ?_
  refine fails_bind (fails_readElement fails_readBoolean _ _) fun lowercaseHex => ?_
  exact fails_bind (fails_closeList _) fun rest => fails_ok

theorem fails_ofJson (text : String) : FailsVisibly (Settings.ofJson text) := by
  refine fails_bind (fails_readHead _) fun read => ?_
  split
  · exact fails_bind (fails_readMembers _ _ _) fun given => fails_readEnd _ _
  · exact fails_bind (fails_readElements _) fun given => fails_readEnd _ _
  · exact fails_refuse _ _ _

/-- Whatever a document of settings holds, the report about it is visible. -/
theorem visible_failure {text : String} {failure : Failure}
    (refused : Settings.ofJson text = .error failure) (whole : List Char) :
    Visible (failure.message whole) := by
  have cause := fails_ofJson text failure refused
  have place : ∀ line column : Nat,
      Visible (failure.cause.message ++ " at line " ++ toString line ++ " column " ++
        toString column) := by
    intro line column
    have inLine := visible_append cause (visible_words (by decide : " at line ".toList.all isPlain))
    have inColumn := visible_append (visible_append inLine (visible_number line))
      (visible_words (by decide : " column ".toList.all isPlain))
    exact visible_append inColumn (visible_number column)
  exact place _ _

end

end HexPattern.VisibleFailures
