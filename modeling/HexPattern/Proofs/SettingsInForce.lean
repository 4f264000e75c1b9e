import HexPattern.Proofs.LoadedSettings
import HexPattern.Proofs.LogFiltering
import HexPattern.Proofs.RequestedOptions

/-! The settings that an accepted command line puts in force. What its arguments ask
for goes before what the settings file says, field by field, and whichever of the two
decides, the settings are valid: a file is held against the limit when it is loaded,
and a count of requests is cut down to it, however large. Only a file can be refused. -/
namespace HexPattern.SettingsInForce
open CommandLine (Invocation Options)
open CommandRuns PrintedLines RequestedOptions Session
open Terminal (render)

/-- What the arguments ask for, on both sides of the command. Requests for detail behind
the command make those in front of it count for nothing, and so it is with paths. -/
def asked (arguments : List String) : Options :=
  let front := requested (besideCommand false arguments).1
  let back := requested (besideCommand false arguments).2
  { verbose := if back.verbose = 0 then front.verbose else back.verbose
    noColor := front.noColor || back.noColor
    lowercase := front.lowercase || back.lowercase
    config? := back.config?.or front.config? }

/-- What the options are laid on. -/
inductive StartsFrom (files : Files) : Option String → Settings → Prop
  | standard : StartsFrom files none .standard
  | file {path base} (loaded : Settings.load files path = .ok base) :
      StartsFrom files (some path) base

/-- Settings that options make of others. -/
structure Overrides (options : Options) (base settings : Settings) : Prop where
  kept : options.verbose = 0 → settings.verbosity = base.verbosity
  counted : 0 < options.verbose → settings.verbosity.toNat = min options.verbose 3
  /-- A counter of eight bits that stays at its largest value tells as much. -/
  saturated : ∀ counter : UInt8, counter.toNat = min options.verbose 255 →
    settings.verbosity = if 0 < counter then min counter 3 else base.verbosity
  useColor : settings.useColor = (base.useColor && !options.noColor)
  lowercaseHex : settings.lowercaseHex = (base.lowercaseHex || options.lowercase)

variable {files otherFiles : Files} {arguments others : List String} {invocation other : Invocation}
  {settings more : Settings}

theorem asked_of_read (accepted : CommandLine.read arguments = .ok invocation) :
    invocation.options = asked arguments := by
  obtain ⟨before, after⟩ := options_of_read accepted
  rw [Invocation.options, before, after]
  rfl

example : asked ["-v", "--lowercase", "test", "-vvc", "given.json", "A5"] =
    { verbose := 2, lowercase := true, config? := some "given.json" } := by decide

theorem verbosity_counted {options : Options} (some : 0 < options.verbose) (base : Settings) :
    (options.apply base).verbosity.toNat = min options.verbose 3 := by
  have small : min options.verbose 3 < UInt8.size := Nat.lt_of_le_of_lt (Nat.min_le_right ..) (by decide)
  rw [Options.apply, if_neg (Nat.ne_of_gt some)]
  exact UInt8.toNat_ofNat_of_lt small

theorem overrides_apply (options : Options) (base : Settings) :
    Overrides options base (options.apply base) where
  kept none := if_pos none
  counted some := verbosity_counted some base
  saturated := by
    intro counter same
    by_cases none : options.verbose = 0
    · have zero : ¬ 0 < counter := by
        rw [UInt8.lt_iff_toNat_lt, same, none]
        exact Nat.lt_irrefl 0
      rw [if_neg zero]
      exact if_pos none
    · have positive : 0 < options.verbose := Nat.pos_of_ne_zero none
      have more : 0 < counter := by
        rw [UInt8.lt_iff_toNat_lt, same]
        exact Nat.lt_min.mpr ⟨positive, by decide⟩
      rw [if_pos more]
      apply UInt8.toNat_inj.mp
      rw [verbosity_counted positive, UInt8.toNat_min, same, Nat.min_assoc]
      rfl
  useColor := rfl
  lowercaseHex := rfl

theorem settings_start (resolved : invocation.settings files = .ok settings) :
    ∃ base, StartsFrom files invocation.options.config? base ∧
      settings = invocation.options.apply base := by
  rw [Invocation.settings] at resolved
  cases given : invocation.options.config? with
  | none =>
    rw [given] at resolved
    cases resolved
    exact ⟨_, .standard, rfl⟩
  | some path =>
    rw [given] at resolved
    dsimp only at resolved
    cases loaded : Settings.load files path with
    | error error =>
      rw [loaded] at resolved
      cases resolved
    | ok base =>
      rw [loaded] at resolved
      cases resolved
      exact ⟨base, .file loaded, rfl⟩

/-- A threshold lets through what a lower one does, in the same order. -/
theorem kept_sublist {low high : Log.Level} (less : low.detail ≤ high.detail)
    (records : List Log.Record) : (Log.kept low records).Sublist (Log.kept high records) := by
  apply List.monotone_filter_right
  intro record shown
  have below : record.level.detail ≤ low.detail := of_decide_eq_true shown
  exact decide_eq_true (below.trans less)

/-- With one request for detail or more, each further one can only add to the log. -/
theorem threshold_mono {options fuller : Options} {base : Settings} (some : 0 < options.verbose)
    (fewer : options.verbose ≤ fuller.verbose) (otherBase : Settings) :
    (options.apply base).threshold.detail ≤ (fuller.apply otherBase).threshold.detail := by
  apply LogFiltering.ofVerbosity_mono
  rw [verbosity_counted some, verbosity_counted (Nat.lt_of_lt_of_le some fewer)]
  exact min_le_min_right 3 fewer

/-- The settings in force, for every accepted command line and all files. -/
theorem settings_in_force (accepted : CommandLine.read arguments = .ok invocation) (files : Files) :
    (∀ settings, invocation.settings files = .ok settings →
      (settings.isValid = true ∧ settings.verbosity.toNat ≤ 3) ∧
      (∃ base, StartsFrom files (asked arguments).config? base ∧
        Overrides (asked arguments) base settings) ∧
      -- The level in force is that of the verbosity.
      ∀ forceColour, ∃ run, CommandRun settings.letters files invocation.command run ∧
        let colour := forceColour && settings.useColor
        let level := Log.Level.ofVerbosity settings.verbosity.toNat
        (runProgram ⟨forceColour, false⟩ files arguments).stderr =
          render colour ((run.records.filter fun record => record.level.detail ≤ level.detail).map
            recordLine) ++ render colour (failureLines run.result)) ∧
    (∀ error, invocation.settings files = .error error ↔
      ∃ path, (asked arguments).config? = some path ∧ Settings.load files path = .error error) ∧
    -- The same or other files, and no fewer requests for detail.
    ∀ others other otherFiles settings more, CommandLine.read others = .ok other →
      0 < (asked arguments).verbose → (asked arguments).verbose ≤ (asked others).verbose →
      invocation.settings files = .ok settings → other.settings otherFiles = .ok more →
      ∀ records, (Log.kept settings.threshold records).Sublist (Log.kept more.threshold records) := by
  rw [← asked_of_read accepted]
  refine ⟨?_, ?_, ?_⟩
  · intro settings resolved
    have valid := Invocation.isValid_of_settings resolved
    obtain ⟨base, starts, applied⟩ := settings_start resolved
    refine ⟨⟨valid, of_decide_eq_true valid⟩, ⟨base, starts, ?_⟩, ?_⟩
    · rw [applied]
      exact overrides_apply _ base
    · intro forceColour
      refine ⟨_, command_run settings.letters files invocation.command, ?_⟩
      dsimp only
      rw [runProgram_resolved accepted resolved, ReportLines.stderr_eq]
      rfl
  · intro error
    constructor
    · intro failed
      obtain ⟨path, given, refused⟩ := LoadedSettings.settings_error_iff.mp failed
      exact ⟨path, given, LoadedSettings.load_eq refused⟩
    · rintro ⟨path, given, refused⟩
      rw [Invocation.settings, given]
      dsimp only
      rw [refused]
      rfl
  · intro others other otherFiles settings more acceptedToo some fewer resolved resolvedToo records
    rw [← asked_of_read acceptedToo] at fewer
    obtain ⟨base, -, rfl⟩ := settings_start resolved
    obtain ⟨otherBase, -, rfl⟩ := settings_start resolvedToo
    exact kept_sublist (threshold_mono some fewer otherBase) records

/-- As many requests for detail as a counter of eight bits cannot tell from none. -/
theorem detail_asked_for_256_times :
    let arguments := SpelledOptions.inspectArguments { verbose := 256 } {} "A5"
    let invocation : Invocation := ⟨{ verbose := 256 }, {}, .inspect "A5"⟩
    CommandLine.read arguments = .ok invocation ∧
    ∃ settings, invocation.settings (fun _ => .error .notFound) = .ok settings ∧
      settings.verbosity.toNat = 3 := by
  intro arguments invocation
  have accepted : CommandLine.read arguments = .ok invocation :=
    SpelledOptions.read_inspectArguments (by decide) (by decide) (by decide)
  have resolved : invocation.settings (fun _ => .error .notFound) =
      .ok (invocation.options.apply .standard) := rfl
  refine ⟨accepted, _, resolved, ?_⟩
  obtain ⟨-, ⟨base, -, overrides⟩, -⟩ := (settings_in_force accepted _).1 _ resolved
  have count : (asked arguments).verbose = 256 := by
    rw [← asked_of_read accepted]
    rfl
  rw [overrides.counted (by rw [count]; decide), count]
  rfl

end HexPattern.SettingsInForce
