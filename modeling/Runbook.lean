import Runbook.Cursor
import Runbook.Decision
import Runbook.Failure
import Runbook.Outcome
import Runbook.Invocation
import Runbook.PlanService
import Runbook.Duration
import Runbook.Text.Utf8
import Runbook.Decimal.Fixed
import Runbook.Json
import Runbook.Flamegraph
import Runbook.Frontmatter
import Runbook.Yaml.Scalar
import Runbook.Yaml.Node
import Runbook.Segment
import Runbook.Splice
import Runbook.Yaml.Document
import Runbook.Yaml.Value
import Runbook.Pass
import Runbook.CommandLine
import Runbook.AtomicWrite
import Runbook.Text.Escaped
import Runbook.CommandLine.Report
import Runbook.Main
import Runbook.Proofs.ArtifactShape
import Runbook.Proofs.ArtifactExtent
import Runbook.Proofs.Lines
import Runbook.Proofs.Lookahead
import Runbook.Proofs.Conservation
import Runbook.Proofs.Written
import Runbook.Proofs.Recognition
import Runbook.Proofs.Rewriting
import Runbook.Proofs.SecondPass
import Runbook.Proofs.Idempotence
import Runbook.Proofs.CodeBlocks
import Runbook.Proofs.Isolation
import Runbook.Proofs.Spacing
import Runbook.Proofs.Rerun
import Runbook.Proofs.PlanText
import Runbook.Proofs.OptionChange
import Runbook.Proofs.Locality
import Runbook.Proofs.Effects
import Runbook.Proofs.Paths
import Runbook.Proofs.Routes
import Runbook.Proofs.Saving
import Runbook.Proofs.CommandWords
import Runbook.Proofs.Confinement
import Runbook.Proofs.Selection
import Runbook.Proofs.WriteBack
import Runbook.Proofs.Relinking
import Runbook.Proofs.Resolution
import Runbook.Proofs.Verdict
import Runbook.Proofs.Annotations
import Runbook.Proofs.SamePlace
import Runbook.Proofs.InlineFailure
import Runbook.Proofs.Directories
import Runbook.Proofs.DroppedLinks
import Runbook.Proofs.OptionWords
import Runbook.Proofs.TagDefaults
import Runbook.Proofs.Replacement
import Runbook.Proofs.TemplateParts
import Runbook.Proofs.PathArguments
import Runbook.Proofs.RefusedSave
import Runbook.Proofs.TemporaryFiles
import Runbook.Proofs.FenceLines
import Runbook.Proofs.PlanTimes
import Runbook.Proofs.DecimalText
import Runbook.Proofs.Frames
import Runbook.Proofs.Markup
import Runbook.Proofs.PictureTags
import Runbook.Proofs.PictureMarkup
import Runbook.Proofs.Canvas
import Runbook.Proofs.FrameColours
import Runbook.Proofs.LineReading
