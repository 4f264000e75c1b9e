import HexPattern.CommandLine.Invocation

/-! The ways in which a settings file is taken or refused, one for each place
where loading comes to an end, and what a refusal means for the settings of an
invocation. -/
namespace HexPattern.LoadedSettings
open CommandLine (Invocation)
open Settings (LoadError)

/-- How loading settings from a file comes out. -/
inductive Loads (files : Files) (path : String) : Except LoadError Settings → Prop
  | unreadable {error} (refused : files.readText path = .error error) :
      Loads files path (.error (.unreadable path error))
  | notDocument {text failure} (found : files.readText path = .ok text)
      (refused : Settings.ofJson text = .error failure) :
      Loads files path (.error (.notDocument path text failure))
  | invalid {text settings} (found : files.readText path = .ok text)
      (read : Settings.ofJson text = .ok settings) (large : 3 < settings.verbosity.toNat) :
      Loads files path (.error .invalid)
  | loaded {text settings} (found : files.readText path = .ok text)
      (read : Settings.ofJson text = .ok settings) (small : settings.verbosity.toNat ≤ 3) :
      Loads files path (.ok settings)

variable {files : Files} {path : String} {outcome : Except LoadError Settings}

theorem load_eq (came : Loads files path outcome) : Settings.load files path = outcome := by
  cases came with
  | unreadable refused => simp only [Settings.load, refused]
  | notDocument found refused => simp only [Settings.load, found, refused]
  | invalid found read large =>
    have invalid : ¬ _ ≤ 3 := Nat.not_le_of_lt large
    simp [Settings.load, found, read, Settings.isValid, invalid]
  | loaded found read small => simp [Settings.load, found, read, Settings.isValid, small]

theorem loads (files : Files) (path : String) : Loads files path (Settings.load files path) := by
  cases found : files.readText path with
  | error error =>
    have refused := Loads.unreadable found
    rwa [load_eq refused]
  | ok text =>
    cases read : Settings.ofJson text with
    | error failure =>
      have refused := Loads.notDocument found read
      rwa [load_eq refused]
    | ok settings =>
      rcases Nat.lt_or_ge 3 settings.verbosity.toNat with large | small
      · have refused := Loads.invalid found read large
        rwa [load_eq refused]
      · have taken := Loads.loaded found read small
        rwa [load_eq taken]

/-- Settings are wanting exactly if there is a settings file and it is refused. -/
theorem settings_error_iff {invocation : Invocation} {error : LoadError} :
    invocation.settings files = .error error ↔
      ∃ path, invocation.options.config? = some path ∧ Loads files path (.error error) := by
  rw [Invocation.settings]
  cases asked : invocation.options.config? with
  | none => simp
  | some path =>
    have came := loads files path
    constructor
    · intro failed
      cases result : Settings.load files path with
      | error refused =>
        simp only [result, Except.map] at failed
        cases failed
        exact ⟨path, rfl, result ▸ came⟩
      | ok base =>
        simp only [result, Except.map] at failed
        cases failed
    · rintro ⟨_, ⟨⟩, refused⟩
      simp only [load_eq refused, Except.map]

end HexPattern.LoadedSettings
