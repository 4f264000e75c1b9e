import HexPattern.Settings.Load

/-!
An accepted command line: the command with its operands, and the options that may stand on either side of
it. Options after the command go before those in front of it, and both go before a file of settings;
`isValid_of_settings` says that the settings in force are always valid.
-/

namespace HexPattern.CommandLine

/-- Where the bytes to be tested come from. -/
inductive BufferSource where
  | hex (text : String)
  | file (path : String)
deriving DecidableEq, Repr

/-- What is to be done. -/
inductive Command where
  /-- Describe a pattern. -/
  | inspect (pattern : String)
  /-- Compare a pattern with bytes at an offset. -/
  | test (pattern : String) (source : BufferSource) (offset : Nat)
deriving DecidableEq, Repr

/-- The options given on one side of the command. -/
structure Options where
  /-- How often more detail was asked for. -/
  verbose : Nat := 0
  noColor : Bool := false
  lowercase : Bool := false
  config? : Option String := none
deriving DecidableEq, Repr

/-- A command line that asks for a command to be run. -/
structure Invocation where
  before : Options
  after : Options
  command : Command
deriving DecidableEq, Repr

/-- The options of both sides together: what counts or has a value is taken from the right side if it is
given there. -/
def Options.merge (before after : Options) : Options :=
  { verbose := if after.verbose = 0 then before.verbose else after.verbose
    noColor := before.noColor || after.noColor
    lowercase := before.lowercase || after.lowercase
    config? := after.config?.or before.config? }

/-- Settings as the options change them. -/
def Options.apply (options : Options) (base : Settings) : Settings :=
  { verbosity :=
      if options.verbose = 0 then base.verbosity else UInt8.ofNat (min options.verbose 3)
    useColor := base.useColor && !options.noColor
    lowercaseHex := base.lowercaseHex || options.lowercase }

namespace Invocation

/-- The options in force. -/
def options (invocation : Invocation) : Options := invocation.before.merge invocation.after

/-- The settings in force: those of the file, or the standard ones, as the options change them. -/
def settings (invocation : Invocation) (files : Files) : Except Settings.LoadError Settings :=
  match invocation.options.config? with
  | none => .ok (invocation.options.apply .standard)
  | some path => (Settings.load files path).map invocation.options.apply

end Invocation

theorem Options.isValid_apply {options : Options} {base : Settings} (valid : base.isValid = true) :
    (options.apply base).isValid = true := by
  unfold Options.apply Settings.isValid
  split
  · exact valid
  · have : min options.verbose 3 ≤ 3 := Nat.min_le_right ..
    simp only [UInt8.toNat_ofNat', decide_eq_true_eq]
    omega

theorem Invocation.isValid_of_settings {invocation : Invocation} {files : Files}
    {settings : Settings} (h : invocation.settings files = .ok settings) :
    settings.isValid = true := by
  unfold Invocation.settings at h
  split at h
  · simp only [Except.ok.injEq] at h
    exact h ▸ Options.isValid_apply (by decide)
  · rename_i path _
    cases loaded : Settings.load files path with
    | error error => simp [loaded, Except.map] at h
    | ok base =>
      simp only [loaded, Except.map, Except.ok.injEq] at h
      exact h ▸ Options.isValid_apply (Settings.isValid_of_load loaded)

end HexPattern.CommandLine
