import DataSchema.Assertion
import DataSchema.Main
import DataSchema.Proofs.Conformance
import DataSchema.Proofs.CheckLeeway
import DataSchema.Proofs.Reachability
import DataSchema.Proofs.CastLeeway
import DataSchema.Proofs.Soundness
import DataSchema.Proofs.Enclosure
import DataSchema.Proofs.CastStops
import DataSchema.Proofs.Descent
import DataSchema.Proofs.IssueKinds
import DataSchema.Proofs.Records
import DataSchema.Proofs.TypedParts
import DataSchema.Proofs.Recasting
import DataSchema.Proofs.Rendering
import DataSchema.Proofs.NamedEntries
import DataSchema.Proofs.SameData
import DataSchema.Proofs.Alike
import DataSchema.Proofs.Keeping
import DataSchema.Proofs.Acceptance
import DataSchema.Proofs.Quiet
import DataSchema.Proofs.Overlays
import DataSchema.Proofs.Layers
import DataSchema.Proofs.Completeness
import DataSchema.Proofs.DepthStability
import DataSchema.Proofs.CastRelations
import DataSchema.Proofs.Shape
import DataSchema.Proofs.Nesting
import DataSchema.Proofs.Cycles
import DataSchema.Proofs.DepthGuard
import DataSchema.Proofs.Aliases
import DataSchema.Proofs.Agreement
import DataSchema.Proofs.Rearrangement
import DataSchema.Proofs.KeyOrder
import DataSchema.Proofs.CastKeyOrder
import DataSchema.Proofs.Settled
import DataSchema.Proofs.SettledVerdicts
import DataSchema.Proofs.ConformingData
import DataSchema.Proofs.KeywordGroups
import DataSchema.Proofs.Relocation
import DataSchema.Proofs.Locations
import DataSchema.Proofs.RecordViews
import DataSchema.Proofs.UnrelatedEntries
import DataSchema.Proofs.StrictReading
import DataSchema.Proofs.MergedDocuments
import DataSchema.Proofs.ReadingGate
import DataSchema.Proofs.RequiredNames
import DataSchema.Proofs.KeptDocuments
import DataSchema.Proofs.Alternatives
import DataSchema.Proofs.JsonGrammar
import DataSchema.Proofs.Numerals
import DataSchema.Proofs.JsonText
import DataSchema.Proofs.CommandStatus
import DataSchema.Proofs.MemberOrder
import DataSchema.Proofs.PassedOver
import DataSchema.Proofs.Selection
import DataSchema.Proofs.SingleMember
import DataSchema.Proofs.RoundedQuotients
import DataSchema.Proofs.Multiples
import DataSchema.Proofs.NumberKinds
import DataSchema.Proofs.NumberVerdicts
import DataSchema.Proofs.NumeralForms
import DataSchema.Proofs.ParsedNumbers
import DataSchema.Proofs.Instants
import DataSchema.Proofs.WrittenTimes
import DataSchema.Proofs.Timestamps
import DataSchema.Proofs.JsonData
import DataSchema.Proofs.UniqueItems
import DataSchema.Proofs.Pointers
import DataSchema.Proofs.References
import DataSchema.Proofs.RecordRouting
