import StyleGauge.Check.Run
import StyleGauge.Command.Run
import StyleGauge.Config.File
import StyleGauge.Config.Setting
import StyleGauge.Console.Text
import StyleGauge.Duplication
import StyleGauge.Files.Search
import StyleGauge.Layout
import StyleGauge.Main
import StyleGauge.Metrics.Ranking
import StyleGauge.Proofs.Report.Outcome
import StyleGauge.Proofs.Selector.Application
import StyleGauge.Proofs.Selector.Combination
import StyleGauge.Proofs.Stylesheet.Closing
import StyleGauge.Proofs.Stylesheet.Comments
import StyleGauge.Proofs.Stylesheet.Concatenation
import StyleGauge.Proofs.Stylesheet.Printing
import StyleGauge.Proofs.Stylesheet.Wrapping
import StyleGauge.Report.Record
import StyleGauge.Selector.Analysis
import StyleGauge.Stylesheet.File
import StyleGauge.Timestamp
import StyleGauge.Yaml.Parser
import StyleGauge.Proofs.Check.Found
import StyleGauge.Proofs.Listing
import StyleGauge.Proofs.Check.Order
import StyleGauge.Proofs.Duplication.Blocks
import StyleGauge.Proofs.Duplication.Overrides
import StyleGauge.Proofs.Stylesheet.Parsed
import StyleGauge.Proofs.Check.Critical
import StyleGauge.Proofs.Report.Gate
import StyleGauge.Proofs.Check.Comparison
import StyleGauge.Proofs.Check.Relaxation
import StyleGauge.Proofs.Check.Growth
import StyleGauge.Proofs.Report.Agreement
import StyleGauge.Proofs.Json.Numeral
import StyleGauge.Proofs.Json.Strings
import StyleGauge.Proofs.Json.Values
import StyleGauge.Proofs.Json.Records
import StyleGauge.Proofs.Report.RoundTrip
import StyleGauge.Proofs.Json.Readable
import StyleGauge.Proofs.Config.Entries
import StyleGauge.Proofs.Config.Overriding
import StyleGauge.Proofs.Insertion
import StyleGauge.Proofs.Number.Monotone
import StyleGauge.Proofs.Number.Mean
import StyleGauge.Proofs.Metrics.Average
import StyleGauge.Proofs.Number.Sign
import StyleGauge.Proofs.Check.Isolation
import StyleGauge.Proofs.Report.Isolation
import StyleGauge.Proofs.Stylesheet.Blanking
import StyleGauge.Proofs.Stylesheet.Walk
import StyleGauge.Proofs.Stylesheet.SourceOrder
import StyleGauge.Proofs.Stylesheet.RulePlaces
import StyleGauge.Proofs.Stylesheet.Flattening
import StyleGauge.Proofs.Stylesheet.Layers
import StyleGauge.Proofs.Selector.Splitting
import StyleGauge.Proofs.Selector.Compounds
import StyleGauge.Proofs.Check.SpecificSelectors
import StyleGauge.Proofs.Selector.Colons
import StyleGauge.Proofs.Selector.Plain
import StyleGauge.Proofs.Duplication.Declarations
import StyleGauge.Proofs.Duplication.Rearranging
import StyleGauge.Proofs.Metrics.Ranking
import StyleGauge.Proofs.Layout
import StyleGauge.Proofs.Files.Search
import StyleGauge.Proofs.Stylesheet.Progress
