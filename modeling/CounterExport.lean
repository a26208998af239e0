import CounterExport.Text.Blank
import CounterExport.Text.CaseTables
import CounterExport.Text.Lowercase
import CounterExport.Text.EscapeTables
import CounterExport.Text.Debug
import CounterExport.Decimal.Binary64
import CounterExport.Decimal.Shortest
import CounterExport.Decimal.Layout
import CounterExport.Decimal.Reading
import CounterExport.Json.Basic
import CounterExport.Json.Reader
import CounterExport.Json.Writer
import CounterExport.Counter.Class
import CounterExport.Counter.Decode
import CounterExport.Collector.Label
import CounterExport.Log.Event
import CounterExport.Collector.Catalog
import CounterExport.Collector.Selection
import CounterExport.Collector.Fields
import CounterExport.Collector.Run
import CounterExport.Source.Mock
import CounterExport.Source.Scenario
import CounterExport.Scrape.Timeout
import CounterExport.Scrape.Context
import CounterExport.Scrape.Exporter
import CounterExport.Command.Similarity
import CounterExport.Command.Options
import CounterExport.Command.FileTree
import CounterExport.Command.Program
import CounterExport.Service.Basic
import CounterExport.Service.Labels
import CounterExport.Service.Metrics
import CounterExport.Service.Rows
import CounterExport.Service.Catalog
import CounterExport.Service.Selection
import CounterExport.Service.Outcomes
import CounterExport.Service.Session
import CounterExport.Service.Context
import CounterExport.Service.Cli
import CounterExport.Service.Handle
import CounterExport.Metric.Name
import CounterExport.Metric.Descriptor
import CounterExport.Metric.ClientCheck
import CounterExport.Metric.Registry
import CounterExport.Metric.Sample
import CounterExport.Metric.Family
import CounterExport.Metric.Exposition
import CounterExport.Main
import CounterExport.Proofs.Selection
import CounterExport.Proofs.Registry
import CounterExport.Proofs.Build
import CounterExport.Proofs.Collect
import CounterExport.Proofs.Family
import CounterExport.Proofs.Dispatch
import CounterExport.Proofs.Exporter
import CounterExport.Proofs.QueryLog
import CounterExport.Proofs.SourceTables
import CounterExport.Proofs.Deadlines
import CounterExport.Proofs.Cancellation
import CounterExport.Proofs.FlagLists
import CounterExport.Proofs.Lowercase
import CounterExport.Proofs.LabelNames
