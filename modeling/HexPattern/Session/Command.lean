import HexPattern.CommandLine.Invocation
import HexPattern.Pattern.Reader
import HexPattern.Session.Run

/-!
The two commands. Inspecting a pattern prints its length, its open cells and the bytes that a scanner
compares; testing prints the stretch of the buffer under the pattern and whether they match. A test asks
for the pattern first, then for the buffer, then whether the pattern stays inside it.
-/

namespace HexPattern.Session

open Terminal (Line)

/-- A line with a label in front. -/
def labelled (label text : String) : Line := [.styled .label label, .plain (" " ++ text)]

/-- Reads a pattern and reports the reading. -/
def readPattern (reason : String → Fault → Failure) (text : String) : Run Pattern := do
  let reading := Reading.ofText text
  Run.report (reading.records text)
  Run.ofExcept (reason text) reading.result

/-- The warning about a pattern that covers no byte. -/
def emptyWarning : Log.Record :=
  ⟨.warn, .program, "pattern is empty and matches at every offset"⟩

/-- The line about open cells. -/
def wildcardLine (pattern : Pattern) : Line :=
  [.styled .label "Wildcards:", .plain " ",
    if pattern.hasWildcards then .styled .care "yes" else .styled .good "no",
    .plain (" (" ++ toString pattern.wildcardCount ++ " of " ++ toString pattern.length ++ " bytes)")]

/-- Describes a pattern. -/
def inspect (letters : LetterCase) (text : String) : Run Unit := do
  let pattern ← readPattern .badPattern text
  if pattern.isEmpty then Run.report [emptyWarning]
  Run.print [
    labelled "Pattern:" (pattern.text letters),
    labelled "Length:" (toString pattern.length),
    wildcardLine pattern,
    labelled "Mask:" (Hex.bytesText letters pattern.mask),
    labelled "Values:" (Hex.bytesText letters pattern.values)]
  if !pattern.hasWildcards then
    let bytes ← Run.ofExcept .noBytes pattern.toBytes
    Run.print [labelled "Bytes:" (Hex.bytesText letters bytes)]

/-- The bytes that a source gives. -/
def readBuffer (files : Files) : CommandLine.BufferSource → Run (List UInt8)
  | .hex text => do
    let pattern ← readPattern .badBuffer text
    Run.ofExcept .openBuffer pattern.toBytes
  | .file path => do
    let contents ← Run.ofExcept (.unreadableBuffer path) (files path)
    return contents.data.toList

/-- Announces the comparison. -/
def testRecord (pattern : Pattern) (offset : Nat) : Log.Record :=
  ⟨.debug, .program, "testing " ++ pattern.text .upper ++ " at offset " ++ Offset.hexText offset⟩

/-- The line about the outcome of a comparison. -/
def verdictLine (matched : Bool) (offset : Nat) : Line :=
  if matched then [.styled .good "[+]", .plain (" match at offset " ++ Offset.hexText offset)]
  else [.styled .bad "[-]", .plain (" no match at offset " ++ Offset.hexText offset)]

/-- Whether a pattern of the given length, laid at the offset, stays inside a buffer of the given size. -/
def staysInside (length offset size : Nat) : Bool :=
  match Offset.advance? offset length with
  | none => false
  | some last => last ≤ size

/-- The bytes of a buffer from one place up to another. -/
def stretch? (buffer : List UInt8) (first last : Nat) : Option (List UInt8) :=
  if first ≤ last ∧ last ≤ buffer.length then some ((buffer.drop first).take (last - first)) else none

/-- Compares a pattern with the bytes at an offset, and comes to whether they match. -/
def test (letters : LetterCase) (files : Files) (text : String) (source : CommandLine.BufferSource)
    (offset : Nat) : Run Bool := do
  let pattern ← readPattern .badPattern text
  let buffer ← readBuffer files source
  Run.require (staysInside pattern.length offset buffer.length)
    (.outOfBounds pattern.length offset buffer.length)
  Run.report [testRecord pattern offset]
  let last := offset + pattern.length
  let matched ← Run.ofOption (.overrun last buffer.length) (pattern.matchesAt? buffer offset)
  let window ← Run.ofOption (.overrun last buffer.length) (stretch? buffer offset last)
  Run.print [
    labelled "Pattern:" (pattern.text letters),
    labelled "Data:   " (Hex.bytesText letters window),
    verdictLine matched offset]
  return matched

/-- Runs a command, which comes to whether all is well. -/
def runCommand (letters : LetterCase) (files : Files) : CommandLine.Command → Run Bool
  | .inspect pattern => do
    inspect letters pattern
    return true
  | .test pattern source offset => test letters files pattern source offset

end HexPattern.Session
