import HexPattern.Files
import HexPattern.Settings.Document

/-!
Settings from a file. The file must be readable text, hold a document of settings, and give a valid
verbosity; `isValid_of_load` says that nothing else comes out.
-/

namespace HexPattern.Settings

/-- Why a file gives no settings. -/
inductive LoadError where
  /-- The file cannot be read. -/
  | unreadable (path : String) (error : FileError)
  /-- The text is no document of settings. -/
  | notDocument (path : String) (text : String) (failure : Json.Failure)
  /-- The settings are not valid. -/
  | invalid
deriving DecidableEq, Repr

namespace LoadError

/-- What was being done, and why it failed unless the document is at fault. -/
def summary : LoadError → String
  | unreadable path error => "reading config " ++ path ++ ": " ++ error.message
  | notDocument path _ _ => "parsing config " ++ path
  | invalid => invalidMessage

/-- What was being done and why it failed. -/
def message : LoadError → String
  | notDocument path text failure =>
    (notDocument path text failure).summary ++ ": " ++ failure.message text.toList
  | error => error.summary

end LoadError

/-- Reads settings from a file. -/
def load (files : Files) (path : String) : Except LoadError Settings :=
  match files.readText path with
  | .error error => .error (.unreadable path error)
  | .ok text =>
    match ofJson text with
    | .error failure => .error (.notDocument path text failure)
    | .ok settings => if settings.isValid then .ok settings else .error .invalid

theorem isValid_of_load {files : Files} {path : String} {settings : Settings}
    (h : load files path = .ok settings) : settings.isValid = true := by
  unfold load at h
  split at h
  · simp at h
  · split at h
    · simp at h
    · split at h
      · rename_i valid
        simp only [Except.ok.injEq] at h
        exact h ▸ valid
      · simp at h

end HexPattern.Settings
