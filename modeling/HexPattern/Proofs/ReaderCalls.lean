import HexPattern.Proofs.ReaderSemantics

/-! The reader one call at a time. A call takes characters from the front of the
text: blanks, the first dark character, and the one behind it if there is one. What
it leaves is told here for every call, also for one that gives no cell. Each cell
uses up one dark character or two, so the loop of the reader is left after as many
calls as the text has dark characters, and one more; and as many cells are read of an
accepted text as it has dark characters, or fewer, but at least half as many. -/
namespace HexPattern.ReaderCalls
open ReaderSemantics
open Text (isBlank)

/-- What a call gives, and what it leaves of the text. -/
structure Call where
  given : Except Fault (Option Cell)
  left : Cursor

/-- Takes the next character, with its place. -/
def takeNext : Cursor → Option (Nat × Char) × Cursor
  | ⟨position, []⟩ => (none, ⟨position, []⟩)
  | ⟨position, c :: rest⟩ => (some (position, c), ⟨position + 1, rest⟩)

/-- Takes characters until one is dark. -/
def takeDark (position : Nat) : List Char → Option (Nat × Char) × Cursor
  | [] => (none, ⟨position, []⟩)
  | c :: rest =>
    if isBlank c then takeDark (position + 1) rest else (some (position, c), ⟨position + 1, rest⟩)

/-- One call of the reader, taking one character after the other. -/
def call (cursor : Cursor) : Call :=
  match takeDark cursor.position cursor.rest with
  | (none, left) => ⟨.ok none, left⟩
  | (some (position, c), middle) =>
    match Nibble.ofChar? c with
    | none => ⟨.error (.unexpectedCharacter position c), middle⟩
    | some high =>
      match takeNext middle with
      | (none, left) => ⟨.ok (some ⟨high, .any⟩), left⟩
      | (some (position, c), left) =>
        if c = '?' || isBlank c then ⟨.ok (some ⟨high, .any⟩), left⟩
        else match Nibble.ofHexChar? c with
          | none => ⟨.error (.unexpectedCharacter position c), left⟩
          | some low => ⟨.ok (some ⟨high, low⟩), left⟩

/-- The loop of the reader, broken off after a number of calls. -/
def loop : Nat → List Cell → Cursor → Option (Except Fault Pattern)
  | 0, _, _ => none
  | calls + 1, cells, cursor =>
    match call cursor with
    | ⟨.error fault, _⟩ => some (.error fault)
    | ⟨.ok none, _⟩ => some (.ok (.ofCells cells))
    | ⟨.ok (some cell), left⟩ => loop calls (cells ++ [cell]) left

/-- Where the reader can stand in a text, however its calls end. -/
inductive Reached (text : List Char) : Cursor → Prop
  | start : Reached text ⟨0, text⟩
  | called {cursor} (before : Reached text cursor) : Reached text (call cursor).left

/-- The text from a place on. -/
def standing (text : List Char) (place : Nat) : Cursor := ⟨place, text.drop place⟩

/-- How many characters of a text are dark. -/
def darkCount (text : List Char) : Nat := text.countP fun c => !isBlank c

/-- Where the first dark character stands, from a place on. -/
structure FirstDark (text : List Char) (start place : Nat) (c : Char) : Prop where
  notBefore : start ≤ place
  here : text[place]? = some c
  dark : isBlank c = false
  blankBefore : ∀ earlier d, start ≤ earlier → earlier < place → text[earlier]? = some d →
    isBlank d = true

/-- What a call keeps to that is made at a place of a text. -/
structure KeepsTo (text : List Char) (start : Nat) (made : Call) : Prop where
  none_iff : made.given = .ok none ↔ ∀ c ∈ text.drop start, isBlank c = true
  exhausted : made.given = .ok none → made.left = standing text text.length ∧
    call made.left = ⟨.ok none, standing text text.length⟩
  otherwise : (¬ ∀ c ∈ text.drop start, isBlank c = true) → ∃ place c,
    FirstDark text start place c ∧
      (∀ cell, made.given = .ok (some cell) →
        made.left = standing text (min (place + 2) text.length) ∧
          darkCount made.left.rest < darkCount (text.drop start)) ∧
      ∀ fault, made.given = .error fault → ∃ position found,
        fault = .unexpectedCharacter position found ∧
          (position = place ∨ position = place + 1) ∧ text[position]? = some found

/-- What becomes of a call, told from the characters it is made on. -/
inductive CallRun (position : Nat) : List Char → Call → Prop
  | nothing {blanks} (blank : ∀ c ∈ blanks, isBlank c = true) :
      CallRun position blanks ⟨.ok none, ⟨position + blanks.length, []⟩⟩
  | badHigh {blanks c back} (blank : ∀ d ∈ blanks, isBlank d = true) (dark : isBlank c = false) :
      CallRun position (blanks ++ c :: back)
        ⟨.error (.unexpectedCharacter (position + blanks.length) c),
          ⟨position + blanks.length + 1, back⟩⟩
  | badLow {blanks c found back} (blank : ∀ d ∈ blanks, isBlank d = true)
      (dark : isBlank c = false) :
      CallRun position (blanks ++ c :: found :: back)
        ⟨.error (.unexpectedCharacter (position + blanks.length + 1) found),
          ⟨position + blanks.length + 1 + 1, back⟩⟩
  | cell {blanks c second back cell} (blank : ∀ d ∈ blanks, isBlank d = true)
      (dark : isBlank c = false) (few : second.length ≤ 1) (last : second = [] → back = []) :
      CallRun position (blanks ++ c :: (second ++ back))
        ⟨.ok (some cell), ⟨position + blanks.length + 1 + second.length, back⟩⟩

variable {position : Nat} {cursor : Cursor} {text rest : List Char} {made : Call}

theorem takeDark_eq (cursor : Cursor) :
    takeDark cursor.position cursor.rest = takeNext cursor.skipBlanks := by
  obtain ⟨position, rest⟩ := cursor
  induction rest generalizing position with
  | nil => rfl
  | cons c rest ih =>
    by_cases blank : isBlank c = true
    · have skipped : Cursor.skipBlanks ⟨position, c :: rest⟩ = Cursor.skipBlanks ⟨position + 1, rest⟩ :=
        skipBlanks_blank blank
      rw [skipped, ← ih (position + 1)]
      simp [takeDark, blank]
    · have dark : isBlank c = false := by simpa using blank
      rw [skipBlanks_dark dark]
      simp [takeDark, takeNext, dark]

/-- The calls are those of the reader, which tells what is left only where it gives a
cell. -/
theorem nextCell_eq (cursor : Cursor) : cursor.nextCell =
    (call cursor).given.map (Option.map fun cell => (cell, (call cursor).left)) := by
  unfold call Cursor.nextCell
  rw [takeDark_eq]
  dsimp only
  cases cursor.skipBlanks with
  | mk position rest =>
    cases rest with
    | nil => rfl
    | cons c rest =>
      dsimp only [takeNext]
      cases Nibble.ofChar? c with
      | none => rfl
      | some high =>
        cases rest with
        | nil => rfl
        | cons d rest =>
          dsimp only [takeNext, Cursor.lowNibble]
          split
          · rfl
          · cases Nibble.ofHexChar? d <;> rfl

theorem takeDark_blanks {blanks : List Char} (blank : ∀ c ∈ blanks, isBlank c = true)
    (rest : List Char) :
    takeDark position (blanks ++ rest) = takeDark (position + blanks.length) rest := by
  induction blanks generalizing position with
  | nil => rfl
  | cons c blanks ih =>
    obtain ⟨here, later⟩ := List.forall_mem_cons.mp blank
    rw [List.cons_append, takeDark, if_pos here, ih later, List.length_cons, Nat.add_right_comm,
      Nat.add_assoc]

/-- A text is blank, or there are blanks in front of its first dark character. -/
theorem blank_or_dark (text : List Char) :
    (∀ c ∈ text, isBlank c = true) ∨ ∃ blanks c back, text = blanks ++ c :: back ∧
      (∀ d ∈ blanks, isBlank d = true) ∧ isBlank c = false := by
  induction text with
  | nil => exact .inl (by simp)
  | cons c rest ih =>
    cases dark : isBlank c with
    | false => exact .inr ⟨[], c, rest, rfl, by simp, dark⟩
    | true =>
      rcases ih with blank | ⟨blanks, d, back, rfl, blank, found⟩
      · exact .inl (List.forall_mem_cons.mpr ⟨dark, blank⟩)
      · exact .inr ⟨c :: blanks, d, back, rfl, List.forall_mem_cons.mpr ⟨dark, blank⟩, found⟩

/-- Every call is one of these. -/
theorem call_run (cursor : Cursor) : CallRun cursor.position cursor.rest (call cursor) := by
  obtain ⟨position, rest⟩ := cursor
  dsimp only
  rcases blank_or_dark rest with blank | ⟨blanks, c, back, rfl, blank, dark⟩
  · have took : takeDark position (rest ++ []) = takeDark (position + rest.length) [] :=
      takeDark_blanks blank []
    rw [List.append_nil] at took
    rw [call, took]
    exact .nothing blank
  · rw [call, takeDark_blanks blank, takeDark, if_neg (by simp [dark])]
    dsimp only
    cases Nibble.ofChar? c with
    | none => exact .badHigh blank dark
    | some high =>
      cases back with
      | nil => exact @CallRun.cell position blanks c [] [] _ blank dark (by simp) fun _ => rfl
      | cons d back =>
        have given : ∀ cell, CallRun position (blanks ++ c :: d :: back)
            ⟨.ok (some cell), ⟨position + blanks.length + 1 + 1, back⟩⟩ := fun cell =>
          @CallRun.cell position blanks c [d] back cell blank dark (by simp) nofun
        dsimp only [takeNext]
        split
        · exact given _
        · cases Nibble.ofHexChar? d with
          | none => exact .badLow blank dark
          | some low => exact given _

/-- A call takes a front of the text away, and counts what it takes. -/
theorem taken_of_run (ran : CallRun position rest made) :
    ∃ taken, rest = taken ++ made.left.rest ∧ made.left.position = position + taken.length := by
  cases ran with
  | nothing blank => exact ⟨rest, by simp, rfl⟩
  | @badHigh blanks c back blank dark => exact ⟨blanks ++ [c], by simp, by simp; omega⟩
  | @badLow blanks c found back blank dark => exact ⟨blanks ++ [c, found], by simp, by simp; omega⟩
  | @cell blanks c second back cell blank dark few last =>
    exact ⟨blanks ++ c :: second, by simp, by simp; omega⟩

theorem darkCount_behind_blanks {blanks : List Char} (blank : ∀ c ∈ blanks, isBlank c = true)
    (rest : List Char) : darkCount (blanks ++ rest) = darkCount rest := by
  have none : blanks.countP (fun c => !isBlank c) = 0 :=
    List.countP_eq_zero.mpr fun c member => by simp [blank c member]
  rw [darkCount, List.countP_append, none, Nat.zero_add]
  rfl

theorem darkCount_dark {c : Char} (dark : isBlank c = false) (rest : List Char) :
    darkCount (c :: rest) = darkCount rest + 1 := by
  simp [darkCount, dark]

/-- A cell uses up one dark character or two. -/
theorem dark_used (ran : CallRun position rest made) {cell : Cell}
    (gave : made.given = .ok (some cell)) :
    darkCount made.left.rest < darkCount rest ∧ darkCount rest ≤ darkCount made.left.rest + 2 := by
  cases ran with
  | nothing blank => cases gave
  | badHigh blank dark => cases gave
  | badLow blank dark => cases gave
  | @cell blanks c second back cell blank dark few last =>
    have inSecond : darkCount second ≤ second.length := List.countP_le_length
    have both : darkCount (second ++ back) = darkCount second + darkCount back := List.countP_append
    rw [darkCount_behind_blanks blank, darkCount_dark dark, both]
    dsimp only
    omega

/-- No cell is given exactly of blanks, and they are all taken. -/
theorem none_of_run (ran : CallRun position rest made) :
    (made.given = .ok none ↔ ∀ c ∈ rest, isBlank c = true) ∧
      (made.given = .ok none → made.left = ⟨position + rest.length, []⟩) := by
  have some_dark : ∀ {blanks c back}, isBlank c = false →
      ¬ ∀ d ∈ blanks ++ c :: back, isBlank d = true := by
    intro blanks c back dark blank
    rw [blank c (by simp)] at dark
    cases dark
  cases ran with
  | nothing blank => exact ⟨iff_of_true rfl blank, fun _ => rfl⟩
  | badHigh _ dark => exact ⟨iff_of_false nofun (some_dark dark), nofun⟩
  | badLow _ dark => exact ⟨iff_of_false nofun (some_dark dark), nofun⟩
  | cell _ dark _ _ => exact ⟨iff_of_false nofun (some_dark dark), nofun⟩

theorem call_of_cell {cell : Cell} {next : Cursor}
    (read : cursor.nextCell = .ok (some (cell, next))) : call cursor = ⟨.ok (some cell), next⟩ := by
  rw [nextCell_eq] at read
  generalize call cursor = made at read
  obtain ⟨given, left⟩ := made
  match given with
  | .error fault => cases read
  | .ok none => cases read
  | .ok (some cell) =>
    cases read
    rfl

theorem call_of_none (done : cursor.nextCell = .ok none) : (call cursor).given = .ok none := by
  rw [nextCell_eq] at done
  match gave : (call cursor).given with
  | .error fault =>
    rw [gave] at done
    cases done
  | .ok none => rfl
  | .ok (some cell) =>
    rw [gave] at done
    cases done

/-- What the reader uses up of dark characters for a cell. -/
theorem dark_of_cell {cell : Cell} {next : Cursor}
    (read : cursor.nextCell = .ok (some (cell, next))) :
    darkCount next.rest < darkCount cursor.rest ∧ darkCount cursor.rest ≤ darkCount next.rest + 2 := by
  have ran := call_run cursor
  rw [call_of_cell read] at ran
  exact dark_used ran rfl

/-- No more cells are read than there are dark characters, wherever the reading ends. -/
theorem cells_le_dark (cursor : Cursor) :
    (Reading.ofCursor cursor).cells.length ≤ darkCount cursor.rest := by
  induction cursor using Reading.ofCursor.induct with
  | case1 cursor fault stops =>
    rw [ofCursor_eq, stops]
    exact Nat.zero_le _
  | case2 cursor done =>
    rw [ofCursor_eq, done]
    exact Nat.zero_le _
  | case3 cursor cell next read shorter ih =>
    have used := (dark_of_cell read).1
    rw [ofCursor_eq, read]
    simp only [prepend, List.length_append, List.length_singleton]
    omega

/-- A text that is read to its end has at most two dark characters for each cell. -/
theorem dark_le_cells (cursor : Cursor) (ended : (Reading.ofCursor cursor).fault? = none) :
    darkCount cursor.rest ≤ 2 * (Reading.ofCursor cursor).cells.length := by
  induction cursor using Reading.ofCursor.induct with
  | case1 cursor fault stops =>
    rw [ofCursor_eq, stops] at ended
    cases ended
  | case2 cursor done =>
    have blank := (none_of_run (call_run cursor)).1.mp (call_of_none done)
    have nothing : darkCount cursor.rest = 0 := by
      have behind := darkCount_behind_blanks blank []
      rwa [List.append_nil] at behind
    omega
  | case3 cursor cell next read shorter ih =>
    have used := (dark_of_cell read).2
    rw [ofCursor_eq, read] at ended ⊢
    have later := ih ended
    simp only [prepend, List.length_append, List.length_singleton]
    omega

/-- The loop makes a call for each cell and one more, and comes to what the reading
comes to. -/
theorem loop_eq (calls : Nat) (cells : List Cell) (cursor : Cursor) :
    loop calls cells cursor =
      if (Reading.ofCursor cursor).cells.length < calls then
        some (prepend cells (Reading.ofCursor cursor)).result
      else none := by
  induction calls generalizing cells cursor with
  | zero => rfl
  | succ calls ih =>
    rw [loop, ofCursor_eq, nextCell_eq]
    generalize call cursor = made
    obtain ⟨given, left⟩ := made
    match given with
    | .error fault => rfl
    | .ok none =>
      have result : (prepend cells ⟨[], none⟩).result = .ok (.ofCells cells) := by
        rw [prepend, List.append_nil]
        rfl
      exact (congrArg some result).symm
    | .ok (some cell) =>
      have more : (prepend [cell] (Reading.ofCursor left)).cells.length =
          (Reading.ofCursor left).cells.length + 1 := by
        simp [prepend]
      change loop calls (cells ++ [cell]) left =
        if (prepend [cell] (Reading.ofCursor left)).cells.length < calls + 1 then
          some (prepend cells (prepend [cell] (Reading.ofCursor left))).result
        else none
      rw [ih, prepend_prepend]
      simp only [more, Nat.add_lt_add_iff_right]

section

variable {start : Nat} {front back blanks : List Char} {c : Char}

/-- Behind a front of what is left, the reader stands in the same text. -/
theorem standing_behind (split : text.drop start = front ++ back) :
    (⟨start + front.length, back⟩ : Cursor) = standing text (start + front.length) := by
  rw [standing, ← List.drop_drop, split, List.drop_left]

theorem getElem?_behind (split : text.drop start = front ++ c :: back) :
    text[start + front.length]? = some c := by
  rw [← List.getElem?_drop, split]
  simp

theorem length_of_split (within : start ≤ text.length) (split : text.drop start = front ++ back) :
    text.length = start + front.length + back.length := by
  have lengths := congrArg List.length split
  rw [List.length_drop, List.length_append] at lengths
  omega

theorem firstDark_of_split (split : text.drop start = blanks ++ c :: back)
    (blank : ∀ d ∈ blanks, isBlank d = true) (dark : isBlank c = false) :
    FirstDark text start (start + blanks.length) c := by
  refine ⟨Nat.le_add_right .., getElem?_behind split, dark, ?_⟩
  intro earlier d late early here
  obtain ⟨offset, rfl⟩ := Nat.exists_eq_add_of_le late
  have inside : offset < blanks.length := by omega
  rw [← List.getElem?_drop, split, List.getElem?_append_left inside] at here
  exact blank d (List.mem_of_getElem? here)

/-- Wherever the reader stands in a text, its calls leave it in that text. -/
theorem standing_of_reached (reached : Reached text cursor) :
    ∃ start ≤ text.length, cursor = standing text start := by
  induction reached with
  | start => exact ⟨0, Nat.zero_le _, rfl⟩
  | called before ih =>
    obtain ⟨start, within, rfl⟩ := ih
    obtain ⟨taken, split, position⟩ := taken_of_run (call_run (standing text start))
    refine ⟨start + taken.length, ?_, ?_⟩
    · have length := length_of_split within split
      omega
    · have place : (call (standing text start)).left.position = start + taken.length := position
      rw [← standing_behind split, ← place]

theorem keeps_to (within : start ≤ text.length) :
    KeepsTo text start (call (standing text start)) := by
  have ran : CallRun start (text.drop start) (call (standing text start)) :=
    call_run (standing text start)
  have ended : call (standing text text.length) = ⟨.ok none, standing text text.length⟩ := by
    simp [standing, call, takeDark]
  generalize call (standing text start) = made at ran
  obtain ⟨none_iff, takes⟩ := none_of_run ran
  refine ⟨none_iff, fun gave => ?_, fun more => ?_⟩
  · have left : made.left = standing text text.length := by
      rw [takes gave, standing, List.drop_length, List.length_drop, Nat.add_sub_cancel' within]
    rw [left]
    exact ⟨rfl, ended⟩
  · generalize split : text.drop start = rest at ran more
    have used : ∀ cell, made.given = .ok (some cell) →
        darkCount made.left.rest < darkCount rest := fun cell gave => (dark_used ran gave).1
    cases ran with
    | nothing blank => exact absurd blank more
    | badHigh blank dark =>
      refine ⟨_, _, firstDark_of_split split blank dark, nofun, ?_⟩
      rintro fault ⟨⟩
      exact ⟨_, _, rfl, .inl rfl, getElem?_behind split⟩
    | @badLow blanks c found back blank dark =>
      refine ⟨_, _, firstDark_of_split split blank dark, nofun, ?_⟩
      rintro fault ⟨⟩
      have behind : text.drop start = (blanks ++ [c]) ++ found :: back := by simp [split]
      refine ⟨_, _, rfl, .inr rfl, ?_⟩
      simpa [Nat.add_assoc] using getElem?_behind behind
    | @cell blanks c second back cell blank dark few last =>
      have behind : text.drop start = (blanks ++ c :: second) ++ back := by simp [split]
      have length := length_of_split within behind
      -- the second character is missing only at the end of the text
      have place : start + (blanks ++ c :: second).length =
          min (start + blanks.length + 2) text.length := by
        simp only [List.length_append, List.length_cons] at length ⊢
        rcases Nat.eq_zero_or_pos second.length with none | one
        · have empty := congrArg List.length (last (List.length_eq_zero_iff.mp none))
          rw [List.length_nil] at empty
          omega
        · omega
      refine ⟨_, _, firstDark_of_split split blank dark, fun cell gave => ⟨?_, used cell gave⟩, nofun⟩
      rw [← place, ← standing_behind behind]
      simp [Nat.add_assoc, Nat.add_comm second.length]

end

/-- The calls of the reader use up the text. From every place of it a call gives a cell
and takes the first dark character and the one behind it, or finds only blanks and takes
them all, or reports one of these two characters where it stands. The loop is left after
as many calls as there are dark characters and one more, with what the reading of the text
comes to, and the cells of a pattern are as many as the dark characters or fewer, but no
fewer than half of them. -/
theorem calls_use_up_text (text : String) :
    let chars := text.toList
    (∀ cursor : Cursor, cursor.nextCell =
      (call cursor).given.map (Option.map fun cell => (cell, (call cursor).left))) ∧
    (∀ cursor, Reached chars cursor → ∃ start ≤ chars.length, cursor = standing chars start) ∧
    (∀ start ≤ chars.length, KeepsTo chars start (call (standing chars start))) ∧
    (∀ calls, darkCount chars + 1 ≤ calls →
      loop calls [] ⟨0, chars⟩ = some (Pattern.ofText text)) ∧
    ∀ pattern, Pattern.ofText text = .ok pattern →
      (darkCount chars + 1) / 2 ≤ pattern.length ∧ pattern.length ≤ darkCount chars := by
  intro chars
  refine ⟨nextCell_eq, fun cursor => standing_of_reached, fun start => keeps_to, ?_, ?_⟩
  · intro calls enough
    have few := cells_le_dark ⟨0, chars⟩
    rw [loop_eq, if_pos (Nat.lt_of_lt_of_le (Nat.lt_succ_of_le few) enough)]
    rfl
  · intro pattern accepted
    have reading : Reading.ofCursor ⟨0, chars⟩ = ⟨pattern.cells, none⟩ := reading_of_accepted accepted
    have most := cells_le_dark ⟨0, chars⟩
    have least := dark_le_cells ⟨0, chars⟩ (by rw [reading])
    rw [reading] at most least
    refine ⟨?_, most⟩
    change (darkCount chars + 1) / 2 ≤ pattern.cells.length
    dsimp only at least
    omega

/-- The second call on this text begins behind a blank that the first one has taken, and
stops in the lower half of a cell. -/
theorem second_call_stops_at_last_character :
    let chars := "A 5é".toList
    Reached chars (standing chars 2) ∧
      (call (standing chars 2)).given = .error (.unexpectedCharacter 3 'é') ∧
      (∃ place c, FirstDark chars 2 place c ∧ (3 = place ∨ 3 = place + 1)) ∧
      loop 4 [] ⟨0, chars⟩ = some (.error (.unexpectedCharacter 3 'é')) := by
  intro chars
  have first : (call ⟨0, "A 5é".toList⟩).left = standing "A 5é".toList 2 := by cbv
  have second : (call (standing "A 5é".toList 2)).given = .error (.unexpectedCharacter 3 'é') := by
    cbv
  have refused : Pattern.ofText "A 5é" = .error (.unexpectedCharacter 3 'é') := by cbv
  obtain ⟨-, -, keeps, ends, -⟩ := calls_use_up_text "A 5é"
  have contract := keeps 2 (by decide)
  have notBlank : ¬ ∀ c ∈ "A 5é".toList.drop 2, isBlank c = true := fun blank =>
    absurd (blank '5' (by decide)) (by decide)
  obtain ⟨place, c, found, -, refuses⟩ := contract.otherwise notBlank
  obtain ⟨position, d, same, near, -⟩ := refuses _ second
  cases same
  refine ⟨first ▸ .called .start, second, ⟨place, c, found, near⟩, ?_⟩
  rw [← refused]
  exact ends 4 (by decide)

end HexPattern.ReaderCalls
