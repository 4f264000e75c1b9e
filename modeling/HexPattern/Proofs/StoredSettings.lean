import HexPattern.Proofs.LoadedSettings
import HexPattern.Proofs.SettingsDocuments

/-! Settings that are stored and loaded again. What is written for settings reads back as
the same settings, whatever the verbosity; a file that holds it is loaded if the
verbosity is valid and refused for that reason if not. An integer that stands for the
verbosity in a file passes through three ranges, that of numbers, that of bytes and that
of verbosities, and it comes out as it went in or not at all. -/
namespace HexPattern.StoredSettings
open Json JsonValues SettingsDocuments AgreeingReaders
open LoadedSettings (Loads load_eq loads)
open Settings (Given Key)

/-- A member whose key is spelled as it is. -/
def memberOf (key : Key) (front text : List Char) : Member :=
  ⟨⟨[], key.name.toList, [], ⟨front, text, []⟩⟩, key.name.toList⟩

/-- What is written for settings, member by member. -/
def stored (settings : Settings) : List Member :=
  [.verbosity, .useColor, .lowercaseHex].map fun key => memberOf key [] (field settings key).chars

variable {settings : Settings} {key : Key} {front text rest : List Char} {files : Files} {path : String}
  {number : Int}

theorem spelled_memberOf (key : Key) (blank : Blank front) (text : List Char) :
    (memberOf key front text).Spelled :=
  ⟨⟨blank_nil, blank_nil, blank, blank_nil⟩, body_name key⟩

theorem names_memberOf {other : Key} : (memberOf key front text).Names other ↔ other = key := by
  constructor
  · intro names
    exact name_inj (Eq.symm names)
  · rintro rfl
    rfl

/-- The characters of an object with three members, whatever the values are. -/
theorem toList_members (digits colour letters : String) :
    ("\x7b\"verbosity\":" ++ digits ++ ",\"use_color\":" ++ colour ++ ",\"lowercase_hex\":" ++ letters
        ++ "\x7d").toList =
      '\x7b' :: '"' :: ("verbosity".toList ++ '"' :: ':' :: (digits.toList ++
        ',' :: '"' :: ("use_color".toList ++ '"' :: ':' :: (colour.toList ++
        ',' :: '"' :: ("lowercase_hex".toList ++ '"' :: ':' :: (letters.toList ++ ['\x7d'])))))) := by
  have first : "\x7b\"verbosity\":".toList = '\x7b' :: '"' :: ("verbosity".toList ++ ['"', ':']) := rfl
  have second : ",\"use_color\":".toList = ',' :: '"' :: ("use_color".toList ++ ['"', ':']) := rfl
  have third : ",\"lowercase_hex\":".toList = ',' :: '"' :: ("lowercase_hex".toList ++ ['"', ':']) := rfl
  have last : "\x7d".toList = ['\x7d'] := rfl
  rw [String.toList_append, String.toList_append, String.toList_append, String.toList_append,
    String.toList_append, String.toList_append, first, second, third, last]
  simp only [List.append_assoc, List.cons_append, List.nil_append]

theorem toList_json (settings : Settings) :
    settings.json.toList = objectText [] [] [] (stored settings) := by
  refine (toList_members _ _ _).trans ?_
  simp only [objectText, stored, memberTexts, List.map_cons, List.map_nil, joined, behindCommas,
    List.flatMap_cons, List.flatMap_nil, Part.chars, Element.chars, memberOf, field, Field.chars,
    Key.name, List.append_assoc, List.cons_append, List.nil_append, List.append_nil]

/-- What is written for settings reads back as the same settings. -/
theorem ofJson_json (settings : Settings) : Settings.ofJson settings.json = .ok settings := by
  have spelled : ∀ member ∈ stored settings, member.Spelled :=
    List.forall_mem_map.mpr fun key _ => spelled_memberOf key blank_nil _
  have given : ∀ member ∈ stored settings, ∀ key, member.Names key →
      member.element.text = (field settings key).chars := by
    refine List.forall_mem_map.mpr fun key _ other names => ?_
    rw [names_memberOf.mp names]
    rfl
  have all : ∀ key, ∃ member ∈ stored settings, member.Names key := by
    intro key
    refine ⟨memberOf key [] (field settings key).chars, List.mem_map_of_mem ?_, rfl⟩
    cases key <;> decide
  have told : Tells (stored settings) settings := by
    refine ⟨given, fun key absent => ?_⟩
    obtain ⟨member, isMember, names⟩ := all key
    exact absurd names (absent member isMember)
  have known : ∀ member ∈ stored settings, (∀ key, ¬ member.Names key) →
      IsValue member.element.text :=
    List.forall_mem_map.mpr fun key _ unknown => absurd (names_memberOf.mpr rfl) (unknown key)
  have once : Once (stored settings) := by
    simp [Once, stored, Member.Apart, names_memberOf]
  rw [Settings.ofJson, toList_json]
  exact readDocument_of_told blank_nil blank_nil blank_nil spelled once known told

theorem fromUTF8?_toUTF8 (text : String) : String.fromUTF8? text.toUTF8 = some text := by
  unfold String.fromUTF8?
  rw [String.toUTF8_eq_toByteArray, dif_pos text.isValidUTF8]
  rfl

theorem readText_of_text {text : String} (found : files path = .ok text.toUTF8) :
    files.readText path = .ok text := by
  rw [Files.readText, found]
  dsimp only [bind, Except.bind]
  rw [fromUTF8?_toUTF8]
  rfl

/-- Stored settings are loaded, or refused for their verbosity and nothing else. -/
theorem load_stored (found : files path = .ok settings.json.toUTF8) :
    Settings.load files path =
      if settings.verbosity.toNat ≤ 3 then .ok settings else .error .invalid := by
  have text := readText_of_text found
  have read := ofJson_json settings
  split
  · rename_i small
    exact load_eq (.loaded text read small)
  · rename_i large
    exact load_eq (.invalid text read (Nat.lt_of_not_le large))

/-- A document with an integer for the verbosity. -/
def verbosityText (number : Int) : String := "\x7b\"verbosity\": " ++ toString number ++ "\x7d"

theorem toList_verbosityText (number : Int) : (verbosityText number).toList =
    objectText [] [] [] [memberOf .verbosity [' '] (toString number).toList] := by
  have front : "\x7b\"verbosity\": ".toList = '\x7b' :: '"' :: ("verbosity".toList ++ ['"', ':', ' ']) := rfl
  have last : "\x7d".toList = ['\x7d'] := rfl
  rw [verbosityText, String.toList_append, String.toList_append, front, last]
  simp only [objectText, memberTexts, List.map_cons, List.map_nil, joined, behindCommas,
    List.flatMap_nil, Part.chars, Element.chars, memberOf, Key.name, List.append_assoc,
    List.cons_append, List.nil_append, List.append_nil]

/-- An integer in ordinary digits is a number of the grammar. -/
theorem written_int (number : Int) : Written (toString number).toList
    ⟨decide (number < 0), Nat.toDigits 10 number.natAbs, none, none⟩ := by
  cases number with
  | ofNat number =>
    have digits : (toString (Int.ofNat number)).toList = Nat.toDigits 10 number := Nat.toList_repr
    rw [digits]
    exact written_toDigits number
  | negSucc number =>
    have digits : (toString (Int.negSucc number)).toList = '-' :: Nat.toDigits 10 (number + 1) := by
      show ("-" ++ (number + 1).repr).toList = _
      rw [String.toList_append, Nat.toList_repr]
      rfl
    have negative : decide (Int.negSucc number < 0) = true := decide_eq_true (Int.negSucc_lt_zero number)
    have written := Written.negative (whole_toDigits (number + 1)) .absent .absent
    rw [List.append_nil, List.append_nil] at written
    rw [digits, negative]
    exact written

/-- An integer is denoted by its digits, if they denote an integer at all. -/
theorem integer_of_digits {value : Int}
    (denoted : Numeral.number? ⟨decide (number < 0), Nat.toDigits 10 number.natAbs, none, none⟩ =
      some (.integer value)) : value = number := by
  have noFloat : ∀ numeral : Numeral, numeral.float? ≠ some (.integer value) := by
    intro numeral denoted
    obtain ⟨magnitude, -, same⟩ := Option.map_eq_some_iff.mp denoted
    cases same
  unfold Numeral.number? at denoted
  simp only [Option.isSome_none, Bool.or_self, Bool.false_eq_true, if_false,
    digitsValue_toDigits, decide_eq_true_eq] at denoted
  split at denoted
  · rename_i negative
    split at denoted
    · cases denoted
      omega
    · exact absurd denoted (noFloat _)
  · rename_i positive
    split at denoted
    · cases denoted
      omega
    · exact absurd denoted (noFloat _)

/-- An integer that is no byte is refused, however it is taken. -/
theorem readByte_refused {blanks : List Char} (blank : Blank blanks) (ends : Ends rest)
    (outside : ¬ (0 ≤ number ∧ number < 256)) :
    ∃ failure, readByte (blanks ++ ((toString number).toList ++ rest)) = .error failure := by
  have written := written_int number
  rw [readByte, readHead_number written blank]
  cases denoted : Numeral.number? ⟨decide (number < 0), Nat.toDigits 10 number.natAbs, none, none⟩ with
  | none =>
    rw [readNumber_large written ends denoted]
    exact ⟨_, rfl⟩
  | some found =>
    rw [readNumber_denoted written ends denoted]
    cases found with
    | float => exact ⟨_, rfl⟩
    | integer value =>
      rw [integer_of_digits denoted]
      exact ⟨_, if_neg outside⟩

/-- The byte that an integer is. -/
def asByte (number : Int) : UInt8 := UInt8.ofNat number.toNat

theorem toNat_asByte (inside : 0 ≤ number ∧ number < 256) : ((asByte number).toNat : Int) = number := by
  rw [asByte, UInt8.toNat_ofNat']
  omega

theorem chars_asByte (inside : 0 ≤ number ∧ number < 256) :
    (Field.byte (asByte number)).chars = (toString number).toList := by
  have same := toNat_asByte inside
  obtain ⟨natural, rfl⟩ := Int.eq_ofNat_of_zero_le inside.1
  rw [chars_byte, Int.ofNat_inj.mp same]
  exact Nat.toList_repr.symm

theorem ofJson_byte (inside : 0 ≤ number ∧ number < 256) :
    Settings.ofJson (verbosityText number) = .ok { Settings.standard with verbosity := asByte number } := by
  have chars := chars_asByte inside
  have told : Tells [memberOf .verbosity [' '] (toString number).toList]
      { Settings.standard with verbosity := asByte number } := by
    refine ⟨List.forall_mem_singleton.mpr fun key names => ?_, fun key absent => ?_⟩
    · rw [names_memberOf.mp names]
      exact chars.symm
    · have other : key ≠ .verbosity := fun same =>
        absent _ List.mem_cons_self (names_memberOf.mpr same)
      cases key with
      | verbosity => exact absurd rfl other
      | useColor | lowercaseHex => rfl
  rw [Settings.ofJson, toList_verbosityText]
  exact readDocument_of_told blank_nil blank_nil blank_nil
    (List.forall_mem_singleton.mpr (spelled_memberOf _ blank_space _)) (List.pairwise_singleton _ _)
    (List.forall_mem_singleton.mpr fun unknown => absurd rfl (unknown .verbosity)) told

theorem ofJson_outside (outside : ¬ (0 ≤ number ∧ number < 256)) :
    ∃ failure, Settings.ofJson (verbosityText number) = .error failure := by
  have spelled : (memberOf .verbosity [' '] (toString number).toList).Spelled :=
    spelled_memberOf _ blank_space _
  have ends : Ends ['\x7d'] := ends_cons [] (by decide)
  obtain ⟨failure, refused⟩ := readByte_refused blank_space ends outside
  have value : (memberOf .verbosity [' '] (toString number).toList).element.chars ++ ['\x7d'] =
      [' '] ++ ((toString number).toList ++ ['\x7d']) := by
    simp [memberOf, Element.chars]
  have read : Given.readMembers .inside {}
      (',' :: ((memberOf .verbosity [' '] (toString number).toList).toPart.chars ++ ['\x7d'])) =
        .error failure := by
    rw [readMembers_member _ spelled, readMember_known spelled rfl rfl, value, Given.readValue, refused]
    rfl
  refine ⟨failure, ?_⟩
  rw [Settings.ofJson, toList_verbosityText, objectText, readDocument_object blank_nil,
    readMembers_enclosed _ (List.forall_mem_singleton.mpr spelled) blank_nil, memberTexts_cons,
    behindCommas_cons]
  exact congrArg (· >>= _) read

/-- A file with an integer for the verbosity is loaded if the integer is a verbosity. -/
theorem load_verbosity (found : files path = .ok (verbosityText number).toUTF8)
    (inside : 0 ≤ number ∧ number ≤ 3) :
    Settings.load files path = .ok { Settings.standard with verbosity := asByte number } := by
  have byte : 0 ≤ number ∧ number < 256 := by omega
  have same := toNat_asByte byte
  refine load_eq (.loaded (readText_of_text found) (ofJson_byte byte) ?_)
  dsimp only
  omega

/-- Otherwise it is refused, as a byte that is no verbosity or as no byte at all. -/
theorem load_noVerbosity (found : files path = .ok (verbosityText number).toUTF8)
    (outside : ¬ (0 ≤ number ∧ number ≤ 3)) : ∃ error, Settings.load files path = .error error := by
  have text := readText_of_text found
  by_cases byte : 0 ≤ number ∧ number < 256
  · have same := toNat_asByte byte
    refine ⟨_, load_eq (.invalid text (ofJson_byte byte) ?_)⟩
    dsimp only
    omega
  · obtain ⟨failure, refused⟩ := ofJson_outside byte
    exact ⟨_, load_eq (.notDocument text refused)⟩

/-- Settings are stored and loaded as they are if they are valid, and nothing that is not
valid is ever loaded. An integer in the place of the verbosity is loaded exactly if it is
a valid verbosity, and then as itself. -/
theorem settings_survive_storage :
    (∀ settings : Settings, Settings.ofJson settings.json = .ok settings) ∧
    (∀ (files : Files) (path : String) (settings : Settings), files path = .ok settings.json.toUTF8 →
      Settings.load files path =
        if settings.verbosity.toNat ≤ 3 then .ok settings else .error .invalid) ∧
    (∀ (files : Files) (path : String) (settings : Settings), Settings.load files path = .ok settings →
      settings.isValid = true ∧ settings.verbosity.toNat ≤ 3) ∧
    ∀ (files : Files) (path : String) (number : Int),
      files path = .ok ("\x7b\"verbosity\": " ++ toString number ++ "\x7d").toUTF8 →
      ((∃ settings, Settings.load files path = .ok settings) ↔ 0 ≤ number ∧ number ≤ 3) ∧
      ∀ settings, Settings.load files path = .ok settings →
        (settings.verbosity.toNat : Int) = number ∧ settings.useColor = true ∧
          settings.lowercaseHex = false := by
  refine ⟨ofJson_json, fun files path settings => load_stored, ?_, ?_⟩
  · intro files path settings loaded
    have valid := Settings.isValid_of_load loaded
    exact ⟨valid, of_decide_eq_true valid⟩
  · intro files path number found
    by_cases inside : 0 ≤ number ∧ number ≤ 3
    · have loaded := load_verbosity found inside
      refine ⟨⟨fun _ => inside, fun _ => ⟨_, loaded⟩⟩, fun settings same => ?_⟩
      cases loaded.symm.trans same
      exact ⟨toNat_asByte (by omega), rfl, rfl⟩
    · obtain ⟨error, refused⟩ := load_noVerbosity found inside
      have never : ∀ settings, Settings.load files path ≠ .ok settings := by
        intro settings loaded
        cases refused.symm.trans loaded
      refine ⟨⟨?_, fun valid => absurd valid inside⟩, fun settings loaded => absurd loaded (never settings)⟩
      rintro ⟨settings, loaded⟩
      exact absurd loaded (never settings)

end HexPattern.StoredSettings
