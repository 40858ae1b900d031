import WorkflowRelease.Decimal.Binary64
import WorkflowRelease.Decimal.Layout
import WorkflowRelease.Decimal.Shortest
import WorkflowRelease.Expression.Codes
import WorkflowRelease.Expression.Scan
import WorkflowRelease.Failure
import WorkflowRelease.Issue
import WorkflowRelease.Json.Basic
import WorkflowRelease.Json.Extent
import WorkflowRelease.Json.Leaves
import WorkflowRelease.Json.Literal
import WorkflowRelease.Json.Printer
import WorkflowRelease.Log.Entry
import WorkflowRelease.Log.Logger
import WorkflowRelease.Party
import WorkflowRelease.Proofs.Admission
import WorkflowRelease.Proofs.Archived
import WorkflowRelease.Proofs.AuditTrail
import WorkflowRelease.Proofs.Codes
import WorkflowRelease.Proofs.Concurrent.Alone
import WorkflowRelease.Proofs.Concurrent.Basic
import WorkflowRelease.Proofs.Concurrent.Endings
import WorkflowRelease.Proofs.Concurrent.Ids
import WorkflowRelease.Proofs.Concurrent.Serial
import WorkflowRelease.Proofs.Decimal.Range
import WorkflowRelease.Proofs.Defaults
import WorkflowRelease.Proofs.Expression.Rendered
import WorkflowRelease.Proofs.Expression.Unclosed
import WorkflowRelease.Proofs.FieldPaths
import WorkflowRelease.Proofs.Founding
import WorkflowRelease.Proofs.Freshness
import WorkflowRelease.Proofs.Governance.Joined
import WorkflowRelease.Proofs.Governance.Listed
import WorkflowRelease.Proofs.Governance.Mentioned
import WorkflowRelease.Proofs.Governance.Parameters
import WorkflowRelease.Proofs.Governance.Report
import WorkflowRelease.Proofs.Governance.Seen
import WorkflowRelease.Proofs.Governance.Stricter
import WorkflowRelease.Proofs.Governance.Tenants
import WorkflowRelease.Proofs.Graph.Chain
import WorkflowRelease.Proofs.Graph.Convergence
import WorkflowRelease.Proofs.Graph.Order
import WorkflowRelease.Proofs.Graph.Reachable
import WorkflowRelease.Proofs.Graph.Tables
import WorkflowRelease.Proofs.Graph.Walk
import WorkflowRelease.Proofs.History
import WorkflowRelease.Proofs.Leaves.Breadth
import WorkflowRelease.Proofs.Leaves.Entries
import WorkflowRelease.Proofs.Leaves.Texts
import WorkflowRelease.Proofs.Legible
import WorkflowRelease.Proofs.Numbering
import WorkflowRelease.Proofs.Pages
import WorkflowRelease.Proofs.Privacy.Alike
import WorkflowRelease.Proofs.Privacy.Hidden
import WorkflowRelease.Proofs.Privacy.Review
import WorkflowRelease.Proofs.Publication
import WorkflowRelease.Proofs.Run.Apart
import WorkflowRelease.Proofs.Run.Basic
import WorkflowRelease.Proofs.Run.Planned
import WorkflowRelease.Proofs.Run.Reach
import WorkflowRelease.Proofs.Run.Stored
import WorkflowRelease.Proofs.Run.Timeline
import WorkflowRelease.Proofs.Run.Turn
import WorkflowRelease.Proofs.Run.Versions
import WorkflowRelease.Proofs.Snapshot.Again
import WorkflowRelease.Proofs.Snapshot.Broken
import WorkflowRelease.Proofs.Snapshot.Fields
import WorkflowRelease.Proofs.Snapshot.Identity
import WorkflowRelease.Proofs.Snapshot.Kept
import WorkflowRelease.Proofs.Snapshot.ReadBack
import WorkflowRelease.Proofs.Spelling
import WorkflowRelease.Proofs.Stamped
import WorkflowRelease.Proofs.Standing
import WorkflowRelease.Proofs.Structure.Acyclic
import WorkflowRelease.Proofs.Structure.Approval
import WorkflowRelease.Proofs.Structure.Bindings
import WorkflowRelease.Proofs.Structure.Breaches
import WorkflowRelease.Proofs.Structure.Debate
import WorkflowRelease.Proofs.Structure.Overflow
import WorkflowRelease.Proofs.Structure.Reordered
import WorkflowRelease.Proofs.Structure.Retyped
import WorkflowRelease.Proofs.Structure.Sound
import WorkflowRelease.Proofs.Structure.WellFormed
import WorkflowRelease.Proofs.Successor
import WorkflowRelease.Proofs.Undisturbed
import WorkflowRelease.Proofs.Unique
import WorkflowRelease.Proofs.Unseen
import WorkflowRelease.Proofs.Vetting
import WorkflowRelease.Reading.Checked
import WorkflowRelease.Reading.Choice
import WorkflowRelease.Reading.Fault
import WorkflowRelease.Reading.IntegerText
import WorkflowRelease.Reading.Reader
import WorkflowRelease.Reading.Signature
import WorkflowRelease.Registry.Artifact
import WorkflowRelease.Registry.Catalog
import WorkflowRelease.Registry.Gate
import WorkflowRelease.Registry.Review
import WorkflowRelease.Release.Amendment
import WorkflowRelease.Release.Clock
import WorkflowRelease.Release.Commit
import WorkflowRelease.Release.Concurrent
import WorkflowRelease.Release.Listing
import WorkflowRelease.Release.Place
import WorkflowRelease.Release.Plan
import WorkflowRelease.Release.Record
import WorkflowRelease.Release.Refusal
import WorkflowRelease.Release.Request
import WorkflowRelease.Release.Store
import WorkflowRelease.Release.Traced
import WorkflowRelease.Release.Transition
import WorkflowRelease.Release.VersionCode
import WorkflowRelease.Settings
import WorkflowRelease.Settings.Location
import WorkflowRelease.Structure.Contracts
import WorkflowRelease.Structure.Publishing
import WorkflowRelease.Structure.Roles
import WorkflowRelease.Structure.Shape
import WorkflowRelease.Structure.Validate
import WorkflowRelease.Text.Blank
import WorkflowRelease.Text.Case
import WorkflowRelease.Text.CaseTable
import WorkflowRelease.Text.CodeRanges
import WorkflowRelease.Text.DecimalDigit
import WorkflowRelease.Text.Hex
import WorkflowRelease.Text.Lines
import WorkflowRelease.Text.Quoted
import WorkflowRelease.Text.Segments
import WorkflowRelease.Text.Sorted
import WorkflowRelease.Text.Unprintable
import WorkflowRelease.Workflow.Basic
import WorkflowRelease.Workflow.FieldTypes
import WorkflowRelease.Workflow.Graph
import WorkflowRelease.Workflow.Identity
import WorkflowRelease.Workflow.NodeKind
import WorkflowRelease.Workflow.Reading
import WorkflowRelease.Workflow.References
import WorkflowRelease.Workflow.Snapshot
import WorkflowRelease.Workflow.Topology
import WorkflowRelease.Workflow.Vocabulary
