import CapillaryActions.Semantics.Transducer
import CapillaryActions.Semantics.Framing
import CapillaryActions.Semantics.Reassembly
import CapillaryActions.Python.UUID
import CapillaryActions.Python.Value
import CapillaryActions.Semantics.Validation
import CapillaryActions.Python.Pydantic
import CapillaryActions.Schema.DomainSchema
import CapillaryActions.Models.StudentModel
import CapillaryActions.Reference.InMemoryMemoryStore
import CapillaryActions.Semantics.Partition
import CapillaryActions.Reference.MemoryLog
import CapillaryActions.Reference.DimensionPartition
import CapillaryActions.Schema.Manifest
import CapillaryActions.Schema.Grammar
import CapillaryActions.Schema.RoundTrip
import CapillaryActions.Events
import CapillaryActions.Models.Presentation
import CapillaryActions.Reference.Slack.Adapter
import CapillaryActions.Reference.Slack.Calls
import CapillaryActions.Reference.Slack.NonInterference
import CapillaryActions.Reference.Slack.Messages
import CapillaryActions.Reference.Slack.History
import CapillaryActions.Reference.Slack.Interleaving
import CapillaryActions.Reference.Slack.Runs
import CapillaryActions.Reference.Slack.Inbound
import CapillaryActions.Reference.Slack.Reply
import CapillaryActions.Semantics.Index
import CapillaryActions.Reference.Slack.Failures
import CapillaryActions.Schema.DimensionNames
import CapillaryActions.Python.Dict
import CapillaryActions.Python.Equality
import CapillaryActions.Events.ToDict
import CapillaryActions.Events.JsonSafety
import CapillaryActions.Python.Json
import CapillaryActions.Reference.Slack.Reads
import CapillaryActions.Reference.Slack.Source
import CapillaryActions.Reference.Slack.Decision
import CapillaryActions.Reference.Slack.Attachment
import CapillaryActions.Reference.Slack.Nulls
import CapillaryActions.Semantics.Congruence
import CapillaryActions.Reference.Slack.Text
import CapillaryActions.Reference.Slack.Chunking
import CapillaryActions.Semantics.Ledger
import CapillaryActions.Reference.Slack.Ledger
import CapillaryActions.Reference.Slack.Retention
import CapillaryActions.Reference.Slack.Conversation
import CapillaryActions.Reference.Slack.Outcomes
import CapillaryActions.Reference.Slack.FileOutcomes
import CapillaryActions.Schema.NormalForm
import CapillaryActions.Schema.LoadFailures
import CapillaryActions.Schema.ManifestFiles
import CapillaryActions.Reference.SchemaChange
import CapillaryActions.Semantics.Simulation
import CapillaryActions.Reference.Slack.Names
import CapillaryActions.Reference.DataIndependence
import CapillaryActions.Semantics.Schedules
import CapillaryActions.Reference.Slack.Schedules
import CapillaryActions.Semantics.Delimited
import CapillaryActions.Reference.Slack.StateSection
import CapillaryActions.Reference.Aliasing
import CapillaryActions.Reference.Slack.Redelivery
import CapillaryActions.Reference.LogAbstraction
