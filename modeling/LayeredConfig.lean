import LayeredConfig.Session.Basic
import LayeredConfig.Proofs.Staging
import LayeredConfig.Proofs.Ranking
import LayeredConfig.Proofs.MergedTree
import LayeredConfig.Proofs.EscapeState
import LayeredConfig.Proofs.PropertiesRoundTrip
import LayeredConfig.Proofs.Competition
import LayeredConfig.Proofs.Foremost
import LayeredConfig.Proofs.Precedence
import LayeredConfig.Proofs.FailingBuild
import LayeredConfig.Proofs.Tally
import LayeredConfig.Proofs.CodeEscapes
import LayeredConfig.Proofs.DocumentLeaves
import LayeredConfig.Proofs.FlattenedDocument
import LayeredConfig.Proofs.LastWord
import LayeredConfig.Proofs.Repetition
import LayeredConfig.Proofs.SortedNames
import LayeredConfig.Proofs.Answers
import LayeredConfig.Proofs.RepeatedSources
import LayeredConfig.Proofs.BoundLookups
import LayeredConfig.Proofs.Rebuilding
import LayeredConfig.Proofs.TypeSoundness
import LayeredConfig.Proofs.Frames
import LayeredConfig.Proofs.Snapshots
import LayeredConfig.Proofs.LineLayout
import LayeredConfig.Proofs.LenientReading
import LayeredConfig.Proofs.Concatenation
import LayeredConfig.Proofs.PlainText
import LayeredConfig.Proofs.CodeUnits
import LayeredConfig.Proofs.Separators
import LayeredConfig.Proofs.FileEncodings
import LayeredConfig.Proofs.ResourceRoots
import LayeredConfig.Proofs.CoherentSources
import LayeredConfig.Proofs.MappedNames
import LayeredConfig.Proofs.DeclaredOrdinals
import LayeredConfig.Proofs.ClosedEscapes
