import HexPattern.Pattern.Recipe
import HexPattern.Pattern.Document
import HexPattern.Main
import HexPattern.Proofs.RunReading
import HexPattern.Proofs.FailureReports
import HexPattern.Proofs.OutputReplay
import HexPattern.Proofs.LogFiltering
import HexPattern.Proofs.LetterCaseRendering
import HexPattern.Proofs.ColourDecoration
import HexPattern.Proofs.JoinedPatterns
import HexPattern.Proofs.TextSeams
import HexPattern.Proofs.LiteralBytes
import HexPattern.Proofs.BufferSources
import HexPattern.Proofs.ClosedPatterns
import HexPattern.Proofs.MatchingWindow
import HexPattern.Proofs.TextSpellings
import HexPattern.Proofs.PatternDocuments
import HexPattern.Proofs.CanonicalTexts
import HexPattern.Proofs.RecipeTexts
import HexPattern.Proofs.HexRendering
import HexPattern.Proofs.NumeralValues
import HexPattern.Proofs.RequestedOptions
import HexPattern.Proofs.SettingsInForce
import HexPattern.Proofs.JsonValues
import HexPattern.Proofs.SkippedValues
import HexPattern.Proofs.AgreeingReaders
import HexPattern.Proofs.SettingsDocuments
import HexPattern.Proofs.StoredSettings
import HexPattern.Proofs.ReadingReports
import HexPattern.Proofs.LineIntegrity
import HexPattern.Proofs.ReaderCalls
