/-!
The shapes of arguments. Two dashes begin a long name, which an equals sign divides from a value; one
dash begins a cluster of letters; two dashes alone end the switches; all else is a plain word, a single
dash included.
-/

namespace HexPattern.CommandLine

/-- One argument by its shape. -/
inductive Argument where
  /-- Two dashes alone. -/
  | separator
  /-- A long name and the value attached to it. -/
  | long (name : List Char) (value? : Option String)
  /-- Letters after one dash. -/
  | cluster (letters : List Char)
  /-- Anything else. -/
  | word
deriving DecidableEq, Repr

/-- Divides a long name from what follows its first equals sign. -/
def splitValue (text : List Char) : List Char × Option String :=
  match text.dropWhile (· ≠ '=') with
  | [] => (text, none)
  | _ :: value => (text.takeWhile (· ≠ '='), some (String.ofList value))

/-- The shape of an argument. -/
def Argument.ofChars : List Char → Argument
  | ['-', '-'] => separator
  | '-' :: '-' :: rest =>
    let (name, value?) := splitValue rest
    long name value?
  | '-' :: letter :: rest => cluster (letter :: rest)
  | _ => word

end HexPattern.CommandLine
