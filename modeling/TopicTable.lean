import TopicTable.Data.OrderedMap
import TopicTable.Unicode.RangeTable
import TopicTable.Unicode.PropertyTable
import TopicTable.Unicode.CaseTable
import TopicTable.Unicode.Property
import TopicTable.Unicode.CaseMap
import TopicTable.Text.Basic
import TopicTable.Text.Integer
import TopicTable.Text.Quoted
import TopicTable.Text.Utf8
import TopicTable.Error
import TopicTable.Options.Map
import TopicTable.Options.Duration
import TopicTable.Options.Value
import TopicTable.Options.Declared
import TopicTable.Row.DataType
import TopicTable.Row.Batch
import TopicTable.Row.ValueFields
import TopicTable.Topic.Pattern
import TopicTable.Topic.StartupMode
import TopicTable.Connector.Guarantee
import TopicTable.Options.Catalogue
import TopicTable.Topic.Selection
import TopicTable.Schema.Column
import TopicTable.Schema.Table
import TopicTable.Format.Changelog
import TopicTable.Format.Provider
import TopicTable.Format.Handle
import TopicTable.Format.Delimited
import TopicTable.Format.Subject
import TopicTable.Topic.Startup
import TopicTable.Row.Layout
import TopicTable.Row.Metadata
import TopicTable.Partition.Murmur2
import TopicTable.Partition.Partitioner
import TopicTable.Partition.Selection
import TopicTable.Connector.Delivery
import TopicTable.Connector.Source
import TopicTable.Connector.Sink
import TopicTable.Connector.Resolver
import TopicTable.Sample.Words
import TopicTable.Sample
import TopicTable.Proofs.Outcome
import TopicTable.Proofs.Entries
import TopicTable.Proofs.EntryLists
import TopicTable.Proofs.Options
import TopicTable.Proofs.Subjects
import TopicTable.Proofs.Settings
import TopicTable.Proofs.Layout
import TopicTable.Proofs.Discovery
import TopicTable.Proofs.Resolution
import TopicTable.Proofs.PatternLanguage
import TopicTable.Proofs.WordPatterns
import TopicTable.Proofs.Faults
import TopicTable.Proofs.Accounting
import TopicTable.Proofs.Numerals
import TopicTable.Proofs.Codec
import TopicTable.Proofs.Agreement
import TopicTable.Proofs.Blame
import TopicTable.Proofs.SinkSafety
import TopicTable.Proofs.RoundTrip
import TopicTable.Proofs.MetadataRows
import TopicTable.Proofs.Scopes
import TopicTable.Proofs.FormatOptions
import TopicTable.Proofs.Independence
import TopicTable.Proofs.PartitionerRuns
import TopicTable.Proofs.StartingPoints
import TopicTable.Proofs.Durations
import TopicTable.Proofs.SeenColumns
import TopicTable.Proofs.ClientProperties
import TopicTable.Proofs.PrimaryKeys
import TopicTable.Proofs.KeyHash
import TopicTable.Proofs.FairTurns
import TopicTable.Proofs.OffsetEntries
import TopicTable.Proofs.KeyFields
import TopicTable.Proofs.ListedMetadata
import TopicTable.Proofs.FormatDiscovery
import TopicTable.Proofs.Completion
import TopicTable.Proofs.TopicChoice
import TopicTable.Proofs.Anchoring
import TopicTable.Proofs.SecondRound
import TopicTable.Proofs.RowLocality
