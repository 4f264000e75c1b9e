import HexPattern.Json.Container
import HexPattern.Json.Skip
import HexPattern.Settings.Basic

/-!
Settings as a JSON document. An object names the settings, in any order and next to anything else; a list
gives them in the order of their declaration. What is not given keeps its standard value, and a known key
that stands twice is refused.
-/

namespace HexPattern.Settings

/-- The keys of the settings. -/
inductive Key where
  | verbosity
  | useColor
  | lowercaseHex
deriving DecidableEq, Repr

/-- The key as it is written. -/
def Key.name : Key → String
  | verbosity => "verbosity"
  | useColor => "use_color"
  | lowercaseHex => "lowercase_hex"

/-- The key that is written so. -/
def Key.ofChars? (text : List Char) : Option Key :=
  [verbosity, useColor, lowercaseHex].find? fun key => key.name.toList = text

/-- The settings that a document has given so far. -/
structure Given where
  verbosity? : Option UInt8 := none
  useColor? : Option Bool := none
  lowercaseHex? : Option Bool := none
deriving DecidableEq, Repr

namespace Given

/-- Whether a value has been given for the key. -/
def has (given : Given) : Key → Bool
  | .verbosity => given.verbosity?.isSome
  | .useColor => given.useColor?.isSome
  | .lowercaseHex => given.lowercaseHex?.isSome

/-- The settings given, the others being standard. -/
def settings (given : Given) : Settings :=
  { verbosity := given.verbosity?.getD standard.verbosity
    useColor := given.useColor?.getD standard.useColor
    lowercaseHex := given.lowercaseHex?.getD standard.lowercaseHex }

/-- Puts a value that was read where it belongs. -/
def keep {α : Type} (put : α → Given) :
    Except Json.Failure (α × List Char) → Except Json.Failure (Given × List Char)
  | .error failure => .error failure
  | .ok (value, rest) => .ok (put value, rest)

/-- Reads the value of a known key. -/
def readValue (given : Given) (key : Key) (text : List Char) :
    Except Json.Failure (Given × List Char) :=
  match key with
  | .verbosity => keep (fun value => { given with verbosity? := some value }) (Json.readByte text)
  | .useColor => keep (fun value => { given with useColor? := some value }) (Json.readBoolean text)
  | .lowercaseHex =>
    keep (fun value => { given with lowercaseHex? := some value }) (Json.readBoolean text)

/-- Reads what follows a key: a colon and a value, which is kept if the key is known. -/
def readMember (given : Given) (key : List Char) (text : List Char) :
    Except Json.Failure (Given × List Char) :=
  match Key.ofChars? key with
  | none =>
    match Json.readColon text with
    | .error failure => .error failure
    | .ok rest => (Json.skipValue rest).map (given, ·)
  | some key =>
    if given.has key then .error ⟨.duplicateKey key.name, Json.skipBlanks text⟩
    else
      match Json.readColon text with
      | .error failure => .error failure
      | .ok rest => given.readValue key rest

private theorem keep_le {α : Type} {read : Except Json.Failure (α × List Char)} {put : α → Given}
    {bound : Nat} {found : Given} {rest : List Char} (h : keep put read = .ok (found, rest))
    (shorter : ∀ value after, read = .ok (value, after) → after.length < bound) :
    rest.length ≤ bound := by
  cases read with
  | error failure => simp [keep] at h
  | ok pair =>
    simp only [keep, Except.ok.injEq, Prod.mk.injEq] at h
    exact h.2 ▸ Nat.le_of_lt (shorter pair.1 pair.2 rfl)

theorem readValue_le {given found : Given} {key : Key} {text rest : List Char}
    (h : given.readValue key text = .ok (found, rest)) : rest.length ≤ text.length := by
  cases key with
  | verbosity => exact keep_le h fun _ _ => Json.readByte_shorter
  | useColor => exact keep_le h fun _ _ => Json.readBoolean_shorter
  | lowercaseHex => exact keep_le h fun _ _ => Json.readBoolean_shorter

theorem readMember_le {given found : Given} {key text rest : List Char}
    (h : given.readMember key text = .ok (found, rest)) : rest.length ≤ text.length := by
  unfold readMember at h
  split at h
  · split at h
    · simp at h
    · rename_i colon
      obtain ⟨after, skipped, equal⟩ := Json.map_eq_ok_iff.mp h
      have := Json.readColon_shorter colon
      have := Json.skipValue_le skipped
      obtain ⟨rfl, rfl⟩ := Prod.mk.inj equal
      omega
  · split at h
    · simp at h
    · split at h
      · simp at h
      · rename_i colon
        have := Json.readColon_shorter colon
        have := readValue_le h
        omega

/-- Reads members up to, and with, the closing bracket. -/
def readMembers (place : Json.Place) (given : Given) (text : List Char) :
    Except Json.Failure (Given × List Char) :=
  match atKey : Json.nextKey place text with
  | .error failure => .error failure
  | .ok (none, rest) => .ok (given, rest)
  | .ok (some key, rest) =>
    match atValue : given.readMember key rest with
    | .error failure => .error failure
    | .ok (given, after) =>
      have : after.length < text.length :=
        Nat.lt_of_le_of_lt (readMember_le atValue) (Json.nextKey_shorter atKey)
      readMembers .inside given after
termination_by text.length

/-- Reads the next element of a list, if the list goes on. -/
def readElement {α : Type} (read : List Char → Except Json.Failure (α × List Char))
    (place : Json.Place) (text : List Char) : Except Json.Failure (Option α × List Char) :=
  match Json.nextElement place text with
  | .error failure => .error failure
  | .ok none => .ok (none, text)
  | .ok (some start) => (read start).map fun (value, rest) => (some value, rest)

/-- Reads the elements of a list up to, and with, the closing bracket. -/
def readElements (text : List Char) : Except Json.Failure (Given × List Char) := do
  let (verbosity?, rest) ← readElement Json.readByte .opened text
  let (useColor?, rest) ← readElement Json.readBoolean .inside rest
  let (lowercaseHex?, rest) ← readElement Json.readBoolean .inside rest
  let rest ← Json.closeList rest
  return (⟨verbosity?, useColor?, lowercaseHex?⟩, rest)

end Given

/-- Reads settings from an object or a list. -/
def readDocument (text : List Char) : Except Json.Failure Settings := do
  match ← Json.readHead text with
  | (.object, rest) =>
    let (given, rest) ← Given.readMembers .opened {} rest
    Json.readEnd given.settings rest
  | (.list, rest) =>
    let (given, rest) ← Given.readElements rest
    Json.readEnd given.settings rest
  | (head, rest) => head.refuse .settings rest

/-- Reads settings from a JSON text. -/
def ofJson (text : String) : Except Json.Failure Settings := readDocument text.toList

/-- Writes settings as a JSON object. -/
def json (settings : Settings) : String :=
  "\x7b\"verbosity\":" ++ toString settings.verbosity.toNat
    ++ ",\"use_color\":" ++ toString settings.useColor
    ++ ",\"lowercase_hex\":" ++ toString settings.lowercaseHex ++ "\x7d"

end HexPattern.Settings
