/-!
Diagnostics. A record has a level, a source and a message; a threshold keeps the records that are no
more detailed than it is. `mem_kept_iff` says that a threshold only ever drops records.
-/

namespace HexPattern.Log

/-- How detailed a record is. -/
inductive Level where
  | warn
  | info
  | debug
  | trace
deriving DecidableEq, Repr

namespace Level

/-- Levels in order of growing detail. -/
def detail : Level → Nat
  | warn => 0
  | info => 1
  | debug => 2
  | trace => 3

/-- The threshold that a verbosity asks for: three and above show everything. -/
def ofVerbosity : Nat → Level
  | 0 => warn
  | 1 => info
  | 2 => debug
  | _ => trace

/-- The level's name. -/
def name : Level → String
  | warn => "WARN"
  | info => "INFO"
  | debug => "DEBUG"
  | trace => "TRACE"

/-- The name filled up to five characters, so that messages line up. -/
def label : Level → String
  | warn => "WARN "
  | info => "INFO "
  | debug => "DEBUG"
  | trace => "TRACE"

end Level

/-- The part of the program that speaks. -/
inductive Source where
  | program
  | reader
deriving DecidableEq, Repr

/-- The name under which a source speaks. -/
def Source.name : Source → String
  | .program => "byte_pattern"
  | .reader => "byte_pattern::pattern::parser"

/-- One diagnostic message. -/
structure Record where
  level : Level
  source : Source
  message : String
deriving DecidableEq, Repr

/-- Whether a record is no more detailed than the threshold. -/
def Record.shownAt (threshold : Level) (record : Record) : Bool :=
  record.level.detail ≤ threshold.detail

/-- The records that a threshold lets through, in their order. -/
def kept (threshold : Level) (records : List Record) : List Record :=
  records.filter (Record.shownAt threshold)

theorem mem_kept_iff {threshold : Level} {records : List Record} {record : Record} :
    record ∈ kept threshold records ↔
      record ∈ records ∧ record.level.detail ≤ threshold.detail := by
  simp [kept, Record.shownAt]

end HexPattern.Log
