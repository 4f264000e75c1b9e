import HexPattern.Proofs.AgreeingReaders
import HexPattern.Settings.Document
import Mathlib.Data.List.Pairwise

/-! Settings as JSON documents. What an object says about the settings is what its
members with known keys say, each at most once; all other members are passed over,
however deep their values are, and what is not said is standard. A known key that
comes a second time is refused where it stands, whatever follows it. A list is read as
the object that gives its elements to the keys in the order of their declaration: to the
same settings, or to a failure of the same cause. -/
namespace HexPattern.SettingsDocuments
open AgreeingReaders Json JsonValues
open Settings (Given Key)
open StringLiterals (Body body_of_plain readLiteral_of_body readEnd_iff skipBlanks_behind)

/-- A value that a setting may have. -/
inductive Field where
  | byte (value : UInt8)
  | boolean (value : Bool)

/-- A value as it is written. -/
def Field.chars : Field → List Char
  | byte value => (toString value.toNat).toList
  | boolean value => (toString value).toList

/-- What settings say for a key. -/
def field (settings : Settings) : Key → Field
  | .verbosity => .byte settings.verbosity
  | .useColor => .boolean settings.useColor
  | .lowercaseHex => .boolean settings.lowercaseHex

/-- A part of an object, with the text that its key is spelled for. -/
structure Member extends Part where
  key : List Char

/-- The member has the key that its literal spells, and blanks around it. -/
def Member.Spelled (member : Member) : Prop := member.toPart.Spaced ∧ Body member.body member.key

/-- The member has this key. -/
def Member.Names (member : Member) (key : Key) : Prop := member.key = key.name.toList

/-- A known key has a value of its type, any other key any value. -/
structure Member.Acceptable (member : Member) : Prop where
  known : ∀ key, member.Names key → ∃ settings, member.element.text = (field settings key).chars
  unknown : (∀ key, ¬ member.Names key) → IsValue member.element.text

/-- Two members without a known key in common. -/
def Member.Apart (first second : Member) : Prop := ∀ key, first.Names key → ¬ second.Names key

instance : Std.Symm Member.Apart :=
  ⟨fun _ _ apart key namesSecond namesFirst => apart key namesFirst namesSecond⟩

/-- No known key has two members. -/
def Once (members : List Member) : Prop := members.Pairwise Member.Apart

/-- The members say this of the settings, and nothing else. -/
structure Tells (members : List Member) (settings : Settings) : Prop where
  given : ∀ member ∈ members, ∀ key, member.Names key →
    member.element.text = (field settings key).chars
  absent : ∀ key, (∀ member ∈ members, ¬ member.Names key) →
    field settings key = field .standard key

/-- The characters of members. -/
def memberTexts (members : List Member) : List (List Char) := members.map (·.toPart.chars)

/-- An object, with blanks around it and behind its opening bracket. -/
def objectText (front middle back : List Char) (members : List Member) : List Char :=
  front ++ '\x7b' :: (middle ++ (joined (memberTexts members) ++ '\x7d' :: back))

/-- A list, with blanks around it and behind its opening bracket. -/
def listText (front middle back : List Char) (elements : List Element) : List Char :=
  front ++ '[' :: (middle ++ (joined (elements.map Element.chars) ++ ']' :: back))

/-- The front of an object, a comma, and one more key, with anything behind it. -/
def againText (front middle blanks body anything : List Char) (members : List Member) : List Char :=
  front ++ '\x7b' :: (middle ++ (joined (memberTexts members) ++
    ',' :: (blanks ++ '"' :: (body ++ '"' :: anything))))

variable {settings : Settings} {given next : Given} {key : Key} {keys : List Key} {member : Member}
  {members : List Member} {text rest blanks : List Char}

theorem name_inj {key other : Key} (same : key.name.toList = other.name.toList) : key = other := by
  cases key <;> cases other <;> simp_all [Key.name]

theorem body_name (key : Key) : Body key.name.toList key.name.toList := by
  apply body_of_plain
  cases key <;> rfl

/-- The key that a text names is the one whose name it is. -/
theorem ofChars?_iff : Key.ofChars? text = some key ↔ text = key.name.toList := by
  constructor
  · intro found
    have named := List.find?_some found
    exact (of_decide_eq_true named).symm
  · rintro rfl
    cases key <;> decide

theorem ofChars?_none (unknown : ∀ key : Key, text ≠ key.name.toList) : Key.ofChars? text = none := by
  cases found : Key.ofChars? text with
  | none => rfl
  | some key => exact absurd (ofChars?_iff.mp found) (unknown key)

/-- What has been given once the settings have been read for some keys. -/
def givenFor (settings : Settings) (keys : List Key) : Given :=
  { verbosity? := if .verbosity ∈ keys then some settings.verbosity else none
    useColor? := if .useColor ∈ keys then some settings.useColor else none
    lowercaseHex? := if .lowercaseHex ∈ keys then some settings.lowercaseHex else none }

theorem has_givenFor (settings : Settings) (keys : List Key) (key : Key) :
    (givenFor settings keys).has key = decide (key ∈ keys) := by
  cases key with
  | verbosity => by_cases known : Key.verbosity ∈ keys <;> simp [Given.has, givenFor, known]
  | useColor => by_cases known : Key.useColor ∈ keys <;> simp [Given.has, givenFor, known]
  | lowercaseHex => by_cases known : Key.lowercaseHex ∈ keys <;> simp [Given.has, givenFor, known]

/-- A value that is missing is not missed if it is the standard one. -/
theorem getD_of_absent {α : Type} {p : Prop} [Decidable p] {value standard : α}
    (same : ¬ p → value = standard) : (if p then some value else none).getD standard = value := by
  by_cases given : p
  · rw [if_pos given]
    rfl
  · rw [if_neg given]
    exact (same given).symm

theorem settings_givenFor (standard : ∀ key ∉ keys, field settings key = field .standard key) :
    (givenFor settings keys).settings = settings := by
  have verbosity := getD_of_absent fun absent => Field.byte.inj (standard .verbosity absent)
  have useColor := getD_of_absent fun absent => Field.boolean.inj (standard .useColor absent)
  have lowercaseHex := getD_of_absent fun absent => Field.boolean.inj (standard .lowercaseHex absent)
  rw [givenFor, Given.settings, verbosity, useColor, lowercaseHex]

/-- What follows the key of a member is kept, passed over or refused, and then the reader
goes on behind it. -/
def goOn (given : Given) : Option (List Char) × List Char → Except Failure (Given × List Char)
  | (none, rest) => .ok (given, rest)
  | (some key, rest) => given.readMember key rest >>= fun found =>
    found.1.readMembers .inside found.2

theorem readMembers_eq (place : Json.Place) (given : Given) (text : List Char) :
    given.readMembers place text = nextKey place text >>= goOn given := by
  rw [Given.readMembers]
  split
  · rename_i failed
    rw [failed]
    rfl
  · rename_i closed
    rw [closed]
    rfl
  · rename_i key rest found
    have taken : (nextKey place text >>= goOn given) =
        given.readMember key rest >>= fun found => found.1.readMembers .inside found.2 := by
      rw [found]
      rfl
    rw [taken]
    split
    · rename_i failed
      simp only [failed]
      rfl
    · rename_i read
      simp only [read]
      rfl

/-- The key of a member is the text that its literal spells. -/
theorem nextKey_comma {body key : List Char} (blank : Blank blanks) (spelled : Body body key)
    (rest : List Char) : nextKey .inside (',' :: (blanks ++ '"' :: (body ++ '"' :: rest))) =
      .ok (some key, rest) := by
  have comma : skipBlanks (',' :: (blanks ++ '"' :: (body ++ '"' :: rest))) =
      ',' :: (blanks ++ '"' :: (body ++ '"' :: rest)) := skipBlanks_shown _ (by decide)
  have quote : skipBlanks (blanks ++ '"' :: (body ++ '"' :: rest)) = '"' :: (body ++ '"' :: rest) :=
    skipBlanks_to blank _ (by decide)
  simp only [nextKey, comma, quote, readLiteral_of_body spelled]
  rfl

theorem nextKey_opened {body key : List Char} (blank : Blank blanks) (spelled : Body body key)
    (rest : List Char) : nextKey .opened (blanks ++ '"' :: (body ++ '"' :: rest)) =
      .ok (some key, rest) := by
  have quote : skipBlanks (blanks ++ '"' :: (body ++ '"' :: rest)) = '"' :: (body ++ '"' :: rest) :=
    skipBlanks_to blank _ (by decide)
  simp only [nextKey, quote, readLiteral_of_body spelled]
  rfl

theorem nextKey_closed (place : Json.Place) (blank : Blank blanks) (rest : List Char) :
    nextKey place (blanks ++ '\x7d' :: rest) = .ok (none, rest) := by
  have closing : skipBlanks (blanks ++ '\x7d' :: rest) = '\x7d' :: rest :=
    skipBlanks_to blank _ (by decide)
  cases place with
  | opened => simp only [nextKey, closing]
  | inside => simp only [nextKey, closing]

theorem readMembers_closed (place : Json.Place) (given : Given) (blank : Blank blanks) (rest : List Char) :
    given.readMembers place (blanks ++ '\x7d' :: rest) = .ok (given, rest) := by
  rw [readMembers_eq, nextKey_closed place blank]
  rfl

theorem readMembers_blanks (given : Given) (blank : Blank blanks) (text : List Char) :
    given.readMembers .inside (blanks ++ text) = given.readMembers .inside text := by
  rw [readMembers_eq, readMembers_eq]
  simp only [nextKey, skipBlanks_behind blank]

/-- What stands behind a key up to the end of the text. -/
def Member.behindKey (member : Member) (rest : List Char) : List Char :=
  member.back ++ ':' :: (member.element.chars ++ rest)

theorem readMembers_member (given : Given) (spelled : member.Spelled) (rest : List Char) :
    given.readMembers .inside (',' :: (member.toPart.chars ++ rest)) =
      given.readMember member.key (member.behindKey rest) >>= fun found =>
        found.1.readMembers .inside found.2 := by
  obtain ⟨⟨blank, -, -⟩, key⟩ := spelled
  rw [Part.chars_append, readMembers_eq, nextKey_comma blank key]
  rfl

/-- The first member is read as if a comma had come first. -/
theorem readMembers_first (given : Given) (spelled : member.Spelled) (blank : Blank blanks)
    (rest : List Char) : given.readMembers .opened (blanks ++ (member.toPart.chars ++ rest)) =
      given.readMembers .inside (',' :: (member.toPart.chars ++ rest)) := by
  obtain ⟨⟨blankToo, -, -⟩, key⟩ := spelled
  have both := SkippedValues.blank_append blank blankToo
  rw [Part.chars_append, readMembers_eq, readMembers_eq, nextKey_comma blankToo key, ← List.append_assoc,
    nextKey_opened both key]

theorem readColon_of_blanks (blank : Blank blanks) (rest : List Char) :
    readColon (blanks ++ ':' :: rest) = .ok rest := by
  have colon : skipBlanks (blanks ++ ':' :: rest) = ':' :: rest := skipBlanks_to blank _ (by decide)
  simp only [readColon, colon]

/-- The value of a member with an unknown key is passed over. -/
theorem readMember_unknown (spelled : member.Spelled) (unknown : ∀ key, ¬ member.Names key)
    (value : IsValue member.element.text) (ends : Ends rest) :
    given.readMember member.key (member.behindKey rest) = .ok (given, member.element.back ++ rest) := by
  obtain ⟨⟨-, behind, front, back⟩, -⟩ := spelled
  have closed : Ends (member.element.back ++ rest) := ends_blanks back ends
  have skipped : skipValue (member.element.chars ++ rest) = .ok (member.element.back ++ rest) := by
    rw [Element.chars_append]
    exact SkippedValues.skipValue_of_value value front closed
  rw [Given.readMember, ofChars?_none unknown]
  simp only [Member.behindKey, readColon_of_blanks behind, skipped]
  rfl

theorem readMember_known (spelled : member.Spelled) (names : member.Names key)
    (fresh : given.has key = false) (rest : List Char) :
    given.readMember member.key (member.behindKey rest) =
      given.readValue key (member.element.chars ++ rest) := by
  obtain ⟨⟨-, behind, -⟩, -⟩ := spelled
  rw [Given.readMember, ofChars?_iff.mpr names]
  simp only [fresh, Bool.false_eq_true, if_false, Member.behindKey, readColon_of_blanks behind]

theorem readMember_again (taken : given.has key = true) (rest : List Char) :
    ∃ failure, given.readMember key.name.toList rest = .error failure ∧
      failure.cause = .duplicateKey key.name := by
  rw [Given.readMember, ofChars?_iff.mpr rfl]
  exact ⟨_, if_pos taken, rfl⟩

theorem chars_byte (value : UInt8) : (Field.byte value).chars = Nat.toDigits 10 value.toNat :=
  Nat.toList_repr

/-- No two bytes have the same digits. -/
theorem byte_of_chars {value other : UInt8} (same : (Field.byte value).chars = (Field.byte other).chars) :
    value = other := by
  rw [chars_byte, chars_byte] at same
  have numbers := congrArg digitsValue same
  rw [digitsValue_toDigits, digitsValue_toDigits] at numbers
  exact UInt8.toNat_inj.mp numbers

/-- A byte is read back from its digits. -/
theorem readByte_of_chars (value : UInt8) (blank : Blank blanks) (ends : Ends rest) :
    readByte (blanks ++ ((Field.byte value).chars ++ rest)) = .ok (value, rest) := by
  have small : value.toNat < 256 := value.toNat_lt
  have fits : value.toNat < Nat.pow 2 64 := Nat.lt_of_lt_of_le small (by decide)
  have number : Numeral.number? ⟨false, Nat.toDigits 10 value.toNat, none, none⟩ =
      some (.integer value.toNat) := by
    simp [Numeral.number?, digitsValue_toDigits, fits]
  have inRange : (0 : Int) ≤ value.toNat ∧ (value.toNat : Int) < 256 := by omega
  rw [chars_byte, readByte, readHead_number (written_toDigits value.toNat) blank,
    readNumber_denoted (written_toDigits value.toNat) ends number]
  simp [Except.map, inRange]

theorem readBoolean_of_chars (value : Bool) (blank : Blank blanks) (rest : List Char) :
    readBoolean (blanks ++ ((Field.boolean value).chars ++ rest)) = .ok (value, rest) := by
  have head : readHead (blanks ++ ((Field.boolean value).chars ++ rest)) = .ok (.boolean value, rest) := by
    cases value with
    | true => exact readHead_of_value .true blank rest
    | false => exact readHead_of_value .false blank rest
  rw [readBoolean, head]

/-- A known key takes the value that the settings have for it. -/
theorem readValue_of_field (settings : Settings) (keys : List Key) (key : Key) (blank : Blank blanks)
    (ends : Ends rest) :
    (givenFor settings keys).readValue key (blanks ++ ((field settings key).chars ++ rest)) =
      .ok (givenFor settings (key :: keys), rest) := by
  cases key with
  | verbosity =>
    rw [Given.readValue, field, readByte_of_chars settings.verbosity blank ends]
    simp [Given.keep, givenFor]
  | useColor =>
    rw [Given.readValue, field, readBoolean_of_chars settings.useColor blank]
    simp [Given.keep, givenFor]
  | lowercaseHex =>
    rw [Given.readValue, field, readBoolean_of_chars settings.lowercaseHex blank]
    simp [Given.keep, givenFor]

/-- A member that says what the settings have. -/
def Member.Fits (settings : Settings) (member : Member) : Prop :=
  (∀ key, member.Names key → member.element.text = (field settings key).chars) ∧
    ((∀ key, ¬ member.Names key) → IsValue member.element.text)

/-- The keys that have been met once a member is read. -/
def Met (keys : List Key) (members : List Member) (met : List Key) : Prop :=
  ∀ key, key ∈ met ↔ key ∈ keys ∨ ∃ member ∈ members, member.Names key

theorem member_passed (spelled : member.Spelled) (fits : member.Fits settings)
    (fresh : ∀ key ∈ keys, ¬ member.Names key) (ends : Ends rest) :
    ∃ met, Met keys [member] met ∧
      (givenFor settings keys).readMembers .inside (',' :: (member.toPart.chars ++ rest)) =
        (givenFor settings met).readMembers .inside rest := by
  have back : Blank member.element.back := spelled.1.2.2.2
  rw [readMembers_member _ spelled]
  by_cases known : ∃ key, member.Names key
  · obtain ⟨key, names⟩ := known
    have notYet : (givenFor settings keys).has key = false := by
      rw [has_givenFor]
      exact decide_eq_false fun met => fresh key met names
    have closed : Ends (member.element.back ++ rest) := ends_blanks back ends
    have read := readValue_of_field settings keys key spelled.1.2.2.1 closed
    refine ⟨key :: keys, fun other => ?_, ?_⟩
    · have same : member.Names other ↔ other = key :=
        ⟨fun also => name_inj (also.symm.trans names), fun same => same ▸ names⟩
      simp [same, or_comm]
    · rw [readMember_known spelled names notYet, Element.chars_append, fits.1 key names, read]
      exact readMembers_blanks _ back rest
  · have unknown : ∀ key, ¬ member.Names key := fun key names => known ⟨key, names⟩
    refine ⟨keys, fun other => by simp [unknown], ?_⟩
    rw [readMember_unknown spelled unknown (fits.2 unknown) ends]
    exact readMembers_blanks _ back rest

theorem memberTexts_cons (member : Member) (others : List Member) :
    memberTexts (member :: others) = member.toPart.chars :: memberTexts others := rfl

/-- Members are read one after the other, in any order. -/
theorem members_passed (spelled : ∀ member ∈ members, member.Spelled)
    (fits : ∀ member ∈ members, member.Fits settings) (once : Once members)
    (fresh : ∀ member ∈ members, ∀ key ∈ keys, ¬ member.Names key) (ends : Ends rest) :
    ∃ met, Met keys members met ∧
      (givenFor settings keys).readMembers .inside (behindCommas (memberTexts members) ++ rest) =
        (givenFor settings met).readMembers .inside rest := by
  induction members generalizing keys with
  | nil => exact ⟨keys, by simp [Met], rfl⟩
  | cons member others ih =>
    obtain ⟨spelledHere, spelledLater⟩ := List.forall_mem_cons.mp spelled
    obtain ⟨fitsHere, fitsLater⟩ := List.forall_mem_cons.mp fits
    obtain ⟨freshHere, freshLater⟩ := List.forall_mem_cons.mp fresh
    obtain ⟨onceHere, onceLater⟩ := List.pairwise_cons.mp once
    have closed : Ends (behindCommas (memberTexts others) ++ rest) := by
      cases others with
      | nil => exact ends
      | cons other more => exact SkippedValues.ends_comma _
    obtain ⟨met, metHere, passed⟩ := member_passed spelledHere fitsHere freshHere closed
    have freshStill : ∀ other ∈ others, ∀ key ∈ met, ¬ other.Names key := by
      intro other isOther key isMet names
      rcases (metHere key).mp isMet with before | ⟨same, here, namesHere⟩
      · exact freshLater other isOther key before names
      · cases List.mem_singleton.mp here
        exact onceHere other isOther key namesHere names
    obtain ⟨all, metLater, passedLater⟩ := ih spelledLater fitsLater onceLater freshStill
    refine ⟨all, fun key => ?_, ?_⟩
    · rw [metLater, metHere]
      simp [or_assoc]
    · rw [memberTexts_cons, behindCommas_cons, passed]
      exact passedLater

/-- An object begins with nothing given. -/
theorem all_members_passed (spelled : ∀ member ∈ members, member.Spelled)
    (fits : ∀ member ∈ members, member.Fits settings) (once : Once members) (ends : Ends rest) :
    ∃ met, (∀ key, key ∈ met ↔ ∃ member ∈ members, member.Names key) ∧
      Given.readMembers .inside {} (behindCommas (memberTexts members) ++ rest) =
        (givenFor settings met).readMembers .inside rest := by
  have fresh : ∀ member ∈ members, ∀ key ∈ ([] : List Key), ¬ member.Names key := by simp
  obtain ⟨met, isMet, passed⟩ := members_passed spelled fits once fresh ends
  exact ⟨met, fun key => by simp [isMet key], passed⟩

/-- Members are read as if a comma stood in front of the first one. -/
theorem readMembers_joined (given : Given) (spelled : ∀ member ∈ members, member.Spelled)
    (blank : Blank blanks) (some : members ≠ []) (rest : List Char) :
    given.readMembers .opened (blanks ++ (joined (memberTexts members) ++ rest)) =
      given.readMembers .inside (behindCommas (memberTexts members) ++ rest) := by
  obtain ⟨first, others, rfl⟩ := List.exists_cons_of_ne_nil some
  rw [memberTexts_cons, joined, List.append_assoc, behindCommas_cons]
  exact readMembers_first given (spelled first List.mem_cons_self) blank _

/-- So are all members of an object, if there are any. -/
theorem readMembers_enclosed (given : Given) (spelled : ∀ member ∈ members, member.Spelled)
    (blank : Blank blanks) (back : List Char) :
    given.readMembers .opened (blanks ++ (joined (memberTexts members) ++ '\x7d' :: back)) =
      given.readMembers .inside (behindCommas (memberTexts members) ++ '\x7d' :: back) := by
  by_cases none : members = []
  · subst none
    exact (readMembers_closed .opened given blank back).trans
      (readMembers_closed .inside given blank_nil back).symm
  · exact readMembers_joined given spelled blank none _

theorem readDocument_object (blank : Blank blanks) (text : List Char) :
    Settings.readDocument (blanks ++ '\x7b' :: text) =
      Given.readMembers .opened {} text >>= fun found => readEnd found.1.settings found.2 := by
  have head : readHead (blanks ++ '\x7b' :: text) = .ok (.object, text) := by
    rw [readHead, skipBlanks_to blank _ (by decide)]
    rfl
  rw [Settings.readDocument, head]
  rfl

theorem readDocument_list (blank : Blank blanks) (text : List Char) :
    Settings.readDocument (blanks ++ '[' :: text) =
      Given.readElements text >>= fun found => readEnd found.1.settings found.2 := by
  have head : readHead (blanks ++ '[' :: text) = .ok (.list, text) := by
    rw [readHead, skipBlanks_to blank _ (by decide)]
    rfl
  rw [Settings.readDocument, head]
  rfl

section

variable {front middle back : List Char}

/-- An object is read as the settings that its members say. -/
theorem readDocument_of_told (inFront : Blank front) (inside : Blank middle) (behind : Blank back)
    (spelled : ∀ member ∈ members, member.Spelled) (once : Once members)
    (others : ∀ member ∈ members, (∀ key, ¬ member.Names key) → IsValue member.element.text)
    (told : Tells members settings) :
    Settings.readDocument (objectText front middle back members) = .ok settings := by
  have fits : ∀ member ∈ members, member.Fits settings := fun member isMember =>
    ⟨told.given member isMember, others member isMember⟩
  have ends : Ends ('\x7d' :: back) := SkippedValues.ends_closing .object back
  obtain ⟨met, isMet, passed⟩ := all_members_passed spelled fits once ends
  have standard : ∀ key ∉ met, field settings key = field .standard key := by
    intro key notMet
    apply told.absent
    intro member isMember names
    exact notMet ((isMet key).mpr ⟨member, isMember, names⟩)
  have closed : (givenFor settings met).readMembers .inside ('\x7d' :: back) =
      .ok (givenFor settings met, back) :=
    readMembers_closed .inside _ blank_nil back
  rw [objectText, readDocument_object inFront, readMembers_enclosed _ spelled inside, passed, closed]
  exact readEnd_iff.mpr ⟨behind, settings_givenFor standard⟩

/-- A known key that comes again is refused, whatever stands behind it. -/
theorem readDocument_of_again {body : List Char} (inFront : Blank front) (inside : Blank middle)
    (blank : Blank blanks) (spelled : ∀ member ∈ members, member.Spelled) (once : Once members)
    (fits : ∀ member ∈ members, member.Fits settings) (taken : ∃ member ∈ members, member.Names key)
    (again : Body body key.name.toList) (anything : List Char) :
    ∃ failure, Settings.readDocument (againText front middle blanks body anything members) =
        .error failure ∧ failure.cause = .duplicateKey key.name := by
  have ends : Ends (',' :: (blanks ++ '"' :: (body ++ '"' :: anything))) := SkippedValues.ends_comma _
  obtain ⟨met, isMet, passed⟩ := all_members_passed spelled fits once ends
  have has : (givenFor settings met).has key = true := by
    rw [has_givenFor]
    exact decide_eq_true ((isMet key).mpr taken)
  obtain ⟨failure, refused, cause⟩ := readMember_again has anything
  have some : members ≠ [] := by
    rintro rfl
    obtain ⟨member, isMember, -⟩ := taken
    cases isMember
  refine ⟨failure, ?_, cause⟩
  rw [againText, readDocument_object inFront, readMembers_joined _ spelled inside some, passed,
    readMembers_eq, nextKey_comma blank again]
  show (Given.readMember _ _ anything >>= _) >>= _ = _
  rw [refused]
  rfl

/-- For one key some settings are as the members say. -/
theorem exists_told_key (once : Once members) (acceptable : ∀ member ∈ members, member.Acceptable)
    (key : Key) : ∃ settings,
      (∀ member ∈ members, member.Names key → member.element.text = (field settings key).chars) ∧
      ((∀ member ∈ members, ¬ member.Names key) → field settings key = field .standard key) := by
  by_cases named : ∃ member ∈ members, member.Names key
  · obtain ⟨member, isMember, names⟩ := named
    obtain ⟨settings, same⟩ := (acceptable member isMember).known key names
    refine ⟨settings, fun other isOther alsoNames => ?_, fun absent => absurd names (absent member isMember)⟩
    by_cases alone : member = other
    · rw [← alone, same]
    · exact absurd alsoNames (once.forall isMember isOther alone key names)
  · exact ⟨.standard, fun member isMember names => absurd ⟨member, isMember, names⟩ named, fun _ => rfl⟩

/-- Some settings are as the members say. -/
theorem exists_told (once : Once members) (acceptable : ∀ member ∈ members, member.Acceptable) :
    ∃ settings, Tells members settings := by
  obtain ⟨first, firstGiven, firstAbsent⟩ := exists_told_key once acceptable .verbosity
  obtain ⟨second, secondGiven, secondAbsent⟩ := exists_told_key once acceptable .useColor
  obtain ⟨third, thirdGiven, thirdAbsent⟩ := exists_told_key once acceptable .lowercaseHex
  refine ⟨⟨first.verbosity, second.useColor, third.lowercaseHex⟩, ?_, ?_⟩
  · intro member isMember key names
    cases key with
    | verbosity => exact firstGiven member isMember names
    | useColor => exact secondGiven member isMember names
    | lowercaseHex => exact thirdGiven member isMember names
  · intro key absent
    cases key with
    | verbosity => exact firstAbsent absent
    | useColor => exact secondAbsent absent
    | lowercaseHex => exact thirdAbsent absent

end

/-- The fields of a list, in the order of the keys. Fields that are missing are left to
be standard. -/
def readFields : List Key → Json.Place → Given → List Char → Except Failure (Given × List Char)
  | [], _, given, text => (closeList text).map (given, ·)
  | key :: keys, place, given, text =>
    match nextElement place text with
    | .error failure => .error failure
    | .ok none => (closeList text).map (given, ·)
    | .ok (some start) =>
      given.readValue key start >>= fun found => readFields keys .inside found.1 found.2

/-- A list that has ended has no more elements. -/
theorem nextElement_ended {place : Json.Place} (ended : nextElement place text = .ok none) :
    nextElement .inside text = .ok none := by
  unfold nextElement at ended ⊢
  split at ended
  · cases ended
  · rename_i closing
    simp only [closing]
  · cases ended
  · split at ended
    · cases ended
    · cases ended
    · cases ended
  · cases ended

theorem readFields_ended (ended : nextElement .inside text = .ok none) (keys : List Key)
    (given : Given) : readFields keys .inside given text = (closeList text).map (given, ·) := by
  cases keys with
  | nil => rfl
  | cons key keys => simp only [readFields, ended]

/-- An element that is kept for a key, and then the fields for the other keys. -/
theorem readElement_field {α : Type} {read : List Char → Except Failure (α × List Char)}
    {goes : Option α × List Char → Except Failure (Given × List Char)} {place : Json.Place}
    (put : Option α → Given) (kept : ∀ start, (put none).readValue key start =
      Given.keep (fun value => put (some value)) (read start))
    (later : ∀ value? rest, goes (value?, rest) = readFields keys .inside (put value?) rest) :
    (Given.readElement read place text >>= goes) = readFields (key :: keys) place (put none) text := by
  unfold Given.readElement readFields
  cases first : nextElement place text with
  | error failure => rfl
  | ok start? =>
    cases start? with
    | none =>
      have ended := nextElement_ended first
      exact (later none text).trans (readFields_ended ended keys _)
    | some start =>
      simp only [kept]
      cases read start with
      | error failure => rfl
      | ok found => exact later (some found.1) found.2

/-- The reader of lists reads the fields in the order of their declaration. -/
theorem readElements_eq (text : List Char) : Given.readElements text =
    readFields [.verbosity, .useColor, .lowercaseHex] .opened {} text := by
  refine readElement_field (fun value? => ⟨value?, none, none⟩) (fun _ => rfl) ?_
  intro verbosity? rest
  refine readElement_field (fun value? => ⟨verbosity?, value?, none⟩) (fun _ => rfl) ?_
  intro useColor? rest
  refine readElement_field (fun value? => ⟨verbosity?, useColor?, value?⟩) (fun _ => rfl) ?_
  intro lowercaseHex? rest
  rw [readFields]
  dsimp only
  cases closeList rest with
  | error failure => rfl
  | ok back => rfl

/-- The members give the elements, in their order, to the first of the keys. -/
inductive Named : List Key → List Element → List Member → Prop
  | nil {keys : List Key} : Named keys [] []
  | cons {key keys element elements member members} (names : Member.Names member key)
      (same : member.element.text = element.text) (others : Named keys elements members) :
      Named (key :: keys) (element :: elements) (member :: members)

/-- What a reading comes to, wherever a failure is noticed. -/
def outcome {α : Type} : Except Failure α → Except Cause α
  | .ok value => .ok value
  | .error failure => .error failure.cause

section

variable {element : Element} {elements : List Element} {other more : List Char}

theorem agree_keep {α : Type} (put : α → Given) {first second : Except Failure (α × List Char)}
    (agree : Agree rest other first second) :
    Agree rest other (Given.keep put first) (Given.keep put second) := by
  cases agree with
  | ok value => exact .ok (put value)
  | error same => exact .error same

/-- A known key takes the same value in both texts, or refuses it in both. -/
theorem agree_readValue (given : Given) (key : Key) (value : IsValue text) (blank : Blank blanks)
    (blankToo : Blank more) (ends : Ends rest) (endsToo : Ends other) :
    Agree rest other (given.readValue key (blanks ++ (text ++ rest)))
      (given.readValue key (more ++ (text ++ other))) := by
  have heads : HeadsAgree rest other (readHead (blanks ++ (text ++ rest)))
      (readHead (more ++ (text ++ other))) := by
    rw [readHead_of_value value blank, readHead_of_value value blankToo]
    exact heads_agree value ends endsToo
  cases key with
  | verbosity => exact agree_keep _ (agree_byte heads)
  | useColor => exact agree_keep _ (agree_boolean heads)
  | lowercaseHex => exact agree_keep _ (agree_boolean heads)

theorem kept_of_ok {α : Type} {put : α → Given} {read : Except Failure (α × List Char)}
    (kept : Given.keep put read = .ok (next, rest)) : ∃ value, next = put value := by
  cases read with
  | error failure => cases kept
  | ok found =>
    cases kept
    exact ⟨found.1, rfl⟩

/-- Only the key that is read has a value afterwards that it had not before. -/
theorem has_readValue (read : given.readValue key text = .ok (next, rest)) {another : Key}
    (apart : another ≠ key) : next.has another = given.has another := by
  cases key with
  | verbosity =>
    obtain ⟨value, rfl⟩ := kept_of_ok read
    cases another with
    | verbosity => exact absurd rfl apart
    | useColor | lowercaseHex => rfl
  | useColor =>
    obtain ⟨value, rfl⟩ := kept_of_ok read
    cases another with
    | useColor => exact absurd rfl apart
    | verbosity | lowercaseHex => rfl
  | lowercaseHex =>
    obtain ⟨value, rfl⟩ := kept_of_ok read
    cases another with
    | lowercaseHex => exact absurd rfl apart
    | verbosity | useColor => rfl

theorem nextElement_closing (place : Json.Place) (blank : Blank blanks) (rest : List Char) :
    nextElement place (blanks ++ ']' :: rest) = .ok none := by
  have closing : skipBlanks (blanks ++ ']' :: rest) = ']' :: rest := skipBlanks_to blank _ (by decide)
  cases place with
  | opened => simp only [nextElement, closing]
  | inside => simp only [nextElement, closing]

theorem nextElement_comma (spaced : element.Spaced) (value : IsValue element.text) (rest : List Char) :
    nextElement .inside (',' :: (element.chars ++ rest)) =
      .ok (some (element.text ++ (element.back ++ rest))) := by
  obtain ⟨c, more, same, shown, notClosing⟩ := head_of_value value
  have comma : skipBlanks (',' :: (element.chars ++ rest)) = ',' :: (element.chars ++ rest) :=
    skipBlanks_shown _ (by decide)
  have start : skipBlanks (element.chars ++ rest) = c :: (more ++ (element.back ++ rest)) := by
    rw [Element.chars_append, same]
    exact skipBlanks_to spaced.1 _ shown
  rw [same]
  simp [nextElement, comma, start, notClosing]

theorem nextElement_opened (spaced : element.Spaced) (value : IsValue element.text) (blank : Blank blanks)
    (rest : List Char) : nextElement .opened (blanks ++ (element.chars ++ rest)) =
      .ok (some (element.text ++ (element.back ++ rest))) := by
  obtain ⟨c, more, same, shown, notClosing⟩ := head_of_value value
  have start : skipBlanks (blanks ++ (element.chars ++ rest)) =
      c :: (more ++ (element.back ++ rest)) := by
    rw [skipBlanks_behind blank, Element.chars_append, same]
    exact skipBlanks_to spaced.1 _ shown
  rw [same]
  simp [nextElement, start, notClosing]

theorem readFields_closed (keys : List Key) (given : Given) (rest : List Char) :
    readFields keys .inside given (']' :: rest) = .ok (given, rest) := by
  have ended : nextElement .inside (']' :: rest) = .ok none := nextElement_closing .inside blank_nil rest
  rw [readFields_ended ended, closeList, skipBlanks_shown _ (by decide)]
  rfl

theorem readFields_blanks (keys : List Key) (given : Given) (blank : Blank blanks) (text : List Char) :
    readFields keys .inside given (blanks ++ text) = readFields keys .inside given text := by
  cases keys with
  | nil => simp only [readFields, closeList, skipBlanks_behind blank]
  | cons key keys => simp only [readFields, nextElement, closeList, skipBlanks_behind blank]

theorem readFields_element (spaced : element.Spaced) (value : IsValue element.text) (keys : List Key)
    (given : Given) (rest : List Char) :
    readFields (key :: keys) .inside given (',' :: (element.chars ++ rest)) =
      given.readValue key (element.text ++ (element.back ++ rest)) >>= fun found =>
        readFields keys .inside found.1 found.2 := by
  simp only [readFields, nextElement_comma spaced value]

/-- The elements of a list are read as if a comma stood in front of the first one. -/
theorem readFields_enclosed (spaced : ∀ element ∈ elements, element.Spaced)
    (values : ∀ element ∈ elements, IsValue element.text) (blank : Blank blanks) (back : List Char) :
    readFields (key :: keys) .opened given
        (blanks ++ (joined (elements.map Element.chars) ++ ']' :: back)) =
      readFields (key :: keys) .inside given
        (behindCommas (elements.map Element.chars) ++ ']' :: back) := by
  cases elements with
  | nil =>
    have closed := nextElement_closing .opened blank back
    have bracket : skipBlanks (blanks ++ ']' :: back) = ']' :: back := skipBlanks_to blank _ (by decide)
    refine Eq.trans ?_ (readFields_closed (key :: keys) given back).symm
    rw [List.map_nil, joined, List.nil_append]
    simp only [readFields, closed, closeList, bracket]
    rfl
  | cons element others =>
    have spacedHere := spaced element List.mem_cons_self
    have valueHere := values element List.mem_cons_self
    rw [List.map_cons, joined, List.append_assoc, behindCommas_cons]
    simp only [readFields, nextElement_comma spacedHere valueHere,
      nextElement_opened spacedHere valueHere blank]

/-- An element and the member that gives it to a key are read alike, and so is what follows
them if it is read alike with any value for this key. -/
theorem field_agrees {left right : List Char} (names : member.Names key)
    (same : member.element.text = element.text) (fresh : given.has key = false)
    (spaced : element.Spaced) (value : IsValue element.text) (spelled : member.Spelled)
    (ends : Ends rest) (endsToo : Ends other)
    (later : ∀ next, (∀ another ≠ key, next.has another = given.has another) →
      Agree left right (readFields keys .inside next rest) (next.readMembers .inside other)) :
    Agree left right (readFields (key :: keys) .inside given (',' :: (element.chars ++ rest)))
      (given.readMembers .inside (',' :: (member.toPart.chars ++ other))) := by
  have front : Blank member.element.front := spelled.1.2.2.1
  have back : Blank member.element.back := spelled.1.2.2.2
  have agree := agree_readValue given key value blank_nil front (ends_blanks spaced.2 ends)
    (ends_blanks back endsToo)
  rw [readFields_element spaced value, readMembers_member _ spelled,
    readMember_known spelled names fresh, Element.chars_append, same]
  refine agree_bind agree fun next read => ?_
  dsimp only
  rw [readFields_blanks keys next spaced.2, readMembers_blanks next back]
  exact later next fun another apart => has_readValue read apart

/-- Element by element, a list and an object come to the same. -/
theorem fields_agree (named : Named keys elements members) (apart : keys.Nodup)
    (fresh : ∀ key ∈ keys, given.has key = false) (spaced : ∀ element ∈ elements, element.Spaced)
    (values : ∀ element ∈ elements, IsValue element.text)
    (spelled : ∀ member ∈ members, member.Spelled) (left right : List Char) :
    Agree left right
      (readFields keys .inside given (behindCommas (elements.map Element.chars) ++ ']' :: left))
      (given.readMembers .inside (behindCommas (memberTexts members) ++ '\x7d' :: right)) := by
  induction named generalizing given with
  | nil =>
    have closed : given.readMembers .inside ('\x7d' :: right) = .ok (given, right) :=
      readMembers_closed .inside given blank_nil right
    show Agree left right (readFields _ .inside given (']' :: left))
      (given.readMembers .inside ('\x7d' :: right))
    rw [readFields_closed, closed]
    exact .ok given
  | @cons key keys element elements member members names same others ih =>
    obtain ⟨notAgain, apartLater⟩ := List.nodup_cons.mp apart
    obtain ⟨freshHere, freshLater⟩ := List.forall_mem_cons.mp fresh
    obtain ⟨spacedHere, spacedLater⟩ := List.forall_mem_cons.mp spaced
    obtain ⟨valueHere, valuesLater⟩ := List.forall_mem_cons.mp values
    obtain ⟨spelledHere, spelledLater⟩ := List.forall_mem_cons.mp spelled
    have ends := SkippedValues.ends_behindCommas .list (elements.map Element.chars) left
    have endsToo := SkippedValues.ends_behindCommas .object (memberTexts members) right
    rw [List.map_cons, memberTexts_cons, behindCommas_cons, behindCommas_cons]
    refine field_agrees names same freshHere spacedHere valueHere spelledHere ends endsToo ?_
    intro next unchanged
    have freshStill : ∀ another ∈ keys, next.has another = false := by
      intro another isKey
      have different : another ≠ key := fun same => notAgain (same ▸ isKey)
      rw [unchanged another different]
      exact freshLater another isKey
    exact ih apartLater freshStill spacedLater valuesLater spelledLater

/-- A list comes to what the object comes to that gives its elements to the keys. -/
theorem outcome_of_list {front middle back inFront inside behind : List Char} (blank : Blank front)
    (blankMiddle : Blank middle) (blankBack : Blank back) (alsoBlank : Blank inFront)
    (alsoMiddle : Blank inside) (alsoBack : Blank behind)
    (named : Named [.verbosity, .useColor, .lowercaseHex] elements members)
    (spaced : ∀ element ∈ elements, element.Spaced) (values : ∀ element ∈ elements, IsValue element.text)
    (spelled : ∀ member ∈ members, member.Spelled) :
    outcome (Settings.readDocument (listText front middle back elements)) =
      outcome (Settings.readDocument (objectText inFront inside behind members)) := by
  have fresh : ∀ key ∈ [Key.verbosity, .useColor, .lowercaseHex], Given.has {} key = false := by
    intro key _
    cases key <;> rfl
  have agree := fields_agree named (by decide) fresh spaced values spelled back behind
  rw [listText, objectText, readDocument_list blank, readDocument_object alsoBlank, readElements_eq,
    readFields_enclosed spaced values blankMiddle, readMembers_enclosed _ spelled alsoMiddle]
  revert agree
  generalize readFields _ _ _ _ = listRead, Given.readMembers _ _ _ = objectRead
  intro agree
  cases agree with
  | error same => exact congrArg Except.error same
  | ok given =>
    have ended : ∀ {text : List Char}, Blank text → readEnd given.settings text = .ok given.settings :=
      fun blank => readEnd_iff.mpr ⟨blank, rfl⟩
    show outcome (readEnd given.settings back) = outcome (readEnd given.settings behind)
    rw [ended blankBack, ended alsoBack]

end

/-- What a document says about the settings. An object whose known keys come at most once
is accepted, and the settings are what its known members say; members with other keys
may come as often as they like. A known key that comes again behind members that are
acceptable is what is reported. A list of at most three elements comes to what the
object does that gives them to the first keys. -/
theorem documents_tell_settings :
    (∀ (front middle back : List Char) (members : List Member), Blank front → Blank middle →
      Blank back → (∀ member ∈ members, member.Spelled) → (∀ member ∈ members, member.Acceptable) →
      Once members →
      ∃ settings, Settings.ofJson (String.ofList (objectText front middle back members)) = .ok settings ∧
        Tells members settings) ∧
    (∀ (front middle blanks body anything : List Char) (members : List Member) (key : Key),
      Blank front → Blank middle → Blank blanks → (∀ member ∈ members, member.Spelled) →
      (∀ member ∈ members, member.Acceptable) → Once members → (∃ member ∈ members, member.Names key) →
      Body body key.name.toList →
      ∃ failure, Settings.ofJson (String.ofList (againText front middle blanks body anything members)) =
          .error failure ∧
        failure.cause = .duplicateKey key.name ∧ failure.cause.kind = .content) ∧
    (∀ (front middle back inFront inside behind : List Char) (elements : List Element)
      (members : List Member), Blank front → Blank middle → Blank back → Blank inFront → Blank inside →
      Blank behind → Named [.verbosity, .useColor, .lowercaseHex] elements members →
      (∀ element ∈ elements, element.Spaced) → (∀ element ∈ elements, IsValue element.text) →
      (∀ member ∈ members, member.Spelled) →
      outcome (Settings.ofJson (String.ofList (listText front middle back elements))) =
        outcome (Settings.ofJson (String.ofList (objectText inFront inside behind members)))) := by
  simp only [Settings.ofJson, String.toList_ofList]
  refine ⟨?_, ?_, ?_⟩
  · intro front middle back members blank blankMiddle blankBack spelled acceptable once
    obtain ⟨settings, told⟩ := exists_told once acceptable
    refine ⟨settings, ?_, told⟩
    exact readDocument_of_told blank blankMiddle blankBack spelled once
      (fun member isMember => (acceptable member isMember).unknown) told
  · intro front middle blanks body anything members key blank blankMiddle blankComma spelled acceptable
      once taken again
    obtain ⟨settings, told⟩ := exists_told once acceptable
    have fits : ∀ member ∈ members, member.Fits settings := fun member isMember =>
      ⟨told.given member isMember, (acceptable member isMember).unknown⟩
    obtain ⟨failure, refused, cause⟩ := readDocument_of_again blank blankMiddle blankComma spelled once
      fits taken again anything
    exact ⟨failure, refused, cause, by rw [cause]; rfl⟩
  · intro front middle back inFront inside behind elements members blank blankMiddle blankBack alsoBlank
      alsoMiddle alsoBack named spaced values spelled
    exact outcome_of_list blank blankMiddle blankBack alsoBlank alsoMiddle alsoBack named spaced values
      spelled

/-- A known key may be spelled with an escape, and stand behind another one whose value
is deep and holds a member of the same key. -/
theorem escaped_key_behind_other_member :
    ∃ settings, Settings.ofJson
        "\x7b\"x\":[\x7b\"verbosity\":null\x7d],\"\\u0076erbosity\": 2\x7d" = .ok settings ∧
      field settings .verbosity = .byte 2 ∧ field settings .useColor = .boolean true := by
  let inner : Part := ⟨[], "verbosity".toList, [], ⟨[], "null".toList, []⟩⟩
  let element : Element := ⟨[], '\x7b' :: ([] ++ (joined ([inner].map Part.chars) ++ ['\x7d'])), []⟩
  let other : Member :=
    ⟨⟨[], ['x'], [], ⟨[], '[' :: ([] ++ (joined ([element].map Element.chars) ++ [']'])), []⟩⟩, ['x']⟩
  let known : Member := ⟨⟨[], "\\u0076erbosity".toList, [], ⟨[' '], ['2'], []⟩⟩, "verbosity".toList⟩
  have isObject : IsValue element.text := .object blank_nil
    (List.forall_mem_singleton.mpr ⟨blank_nil, blank_nil, blank_nil, blank_nil⟩)
    (List.forall_mem_singleton.mpr (isBody_of_body (body_name .verbosity)))
    (List.forall_mem_singleton.mpr .null)
  have isList : IsValue other.element.text := .list blank_nil
    (List.forall_mem_singleton.mpr ⟨blank_nil, blank_nil⟩) (List.forall_mem_singleton.mpr isObject)
  have hex : ∀ c ∈ "0076".toList, ReaderSemantics.IsHexDigit c := by
    simp [ReaderSemantics.IsHexDigit]
  have escaped : Body ("\\u0076".toList ++ "erbosity".toList) "verbosity".toList :=
    .cons (.unit ⟨rfl, hex, rfl⟩) (body_of_plain rfl)
  have otherSpelled : other.Spelled := ⟨⟨blank_nil, blank_nil, blank_nil, blank_nil⟩, body_of_plain rfl⟩
  have knownSpelled : known.Spelled := ⟨⟨blank_nil, blank_nil, blank_space, blank_nil⟩, escaped⟩
  have apart : ∀ key : Key, ['x'] ≠ key.name.toList := by
    intro key
    cases key <;> decide
  have unknown : ∀ key, ¬ other.Names key := apart
  have only : ∀ key, known.Names key → key = .verbosity := fun key names => name_inj names.symm
  have acceptable : known.Acceptable := by
    refine ⟨fun key names => ⟨⟨2, true, false⟩, ?_⟩, fun absent => absurd rfl (absent .verbosity)⟩
    rw [only key names]
    rfl
  have once : Once [other, known] := by
    simp [Once, Member.Apart, unknown]
  obtain ⟨settings, read, told⟩ := documents_tell_settings.1 [] [] [] [other, known]
    blank_nil blank_nil blank_nil (by simp [otherSpelled, knownSpelled])
    (List.forall_mem_cons.mpr ⟨⟨fun key names => absurd names (unknown key), fun _ => isList⟩,
      List.forall_mem_singleton.mpr acceptable⟩) once
  refine ⟨settings, read, ?_, ?_⟩
  · have digits : (Field.byte 2).chars = (Field.byte settings.verbosity).chars :=
      told.given known (by simp) .verbosity rfl
    exact congrArg Field.byte (byte_of_chars digits).symm
  · refine told.absent .useColor (List.forall_mem_cons.mpr ⟨unknown .useColor, ?_⟩)
    exact List.forall_mem_singleton.mpr fun names => Key.noConfusion (only .useColor names)

end HexPattern.SettingsDocuments
