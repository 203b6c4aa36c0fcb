import TenantFleet.Main
import TenantFleet.Proofs.Codec.Snapshot
import TenantFleet.Proofs.Codec.Patches
import TenantFleet.Proofs.Store.Index
import TenantFleet.Proofs.Passes.Running
import TenantFleet.Proofs.Store.Reference
import TenantFleet.Proofs.Passes.Place
import TenantFleet.Proofs.Passes.TenantInstance
import TenantFleet.Proofs.Passes.Making
import TenantFleet.Proofs.Passes.Deployment
import TenantFleet.Proofs.Passes.Registration
import TenantFleet.Proofs.Passes.Admission
import TenantFleet.Proofs.Passes.StatusReport
import TenantFleet.Proofs.Coherence.Basic
import TenantFleet.Proofs.Coherence.Change
import TenantFleet.Proofs.Coherence.Passes
import TenantFleet.Proofs.Coherence.Documents
import TenantFleet.Proofs.Passes.Resync
import TenantFleet.Proofs.Runs.Reachable
import TenantFleet.Proofs.Ledger.Settling
import TenantFleet.Proofs.Ledger.Clearing
import TenantFleet.Proofs.Ledger.Tick
import TenantFleet.Proofs.Runs.Ownership
import TenantFleet.Proofs.Runs.Ledger
import TenantFleet.Proofs.Placement.Choice
import TenantFleet.Proofs.Placement.Spread
import TenantFleet.Proofs.Placement.Places
import TenantFleet.Proofs.Store.Requests
import TenantFleet.Proofs.Runs.Versions
import TenantFleet.Proofs.Runs.Scans
import TenantFleet.Proofs.Store.Times
import TenantFleet.Proofs.Resumption.Trail
import TenantFleet.Proofs.Resumption.TenantInstance
import TenantFleet.Proofs.Resumption.Deployment
import TenantFleet.Proofs.Resumption.Deletions
import TenantFleet.Proofs.Resumption.Registration
import TenantFleet.Proofs.Runs.Resumption
import TenantFleet.Proofs.Store.Edit
import TenantFleet.Proofs.Runs.Edits
import TenantFleet.Proofs.Teardown.Closing
import TenantFleet.Proofs.Teardown.Phases
import TenantFleet.Proofs.Runs.Teardown
import TenantFleet.Proofs.Passes.Statuses
import TenantFleet.Proofs.Runs.Statuses
import TenantFleet.Proofs.Isolation.Basic
import TenantFleet.Proofs.Isolation.Passes
import TenantFleet.Proofs.Isolation.Causes
import TenantFleet.Proofs.Isolation.Documents
import TenantFleet.Proofs.Runs.Isolation
import TenantFleet.Proofs.Reports.Anchors
import TenantFleet.Proofs.Reports.Heritage
import TenantFleet.Proofs.Reports.Filter
import TenantFleet.Proofs.Reports.Tick
import TenantFleet.Proofs.Runs.Reports
import TenantFleet.Proofs.Runs.Lifetimes
import TenantFleet.Proofs.Derivation.Continuation
import TenantFleet.Proofs.Runs.Observed
import TenantFleet.Proofs.Derivation.Naming
import TenantFleet.Proofs.Derivation.Agreement
import TenantFleet.Proofs.Runs.FixedFields
import TenantFleet.Proofs.Quiet.Marks
import TenantFleet.Proofs.Quiet.Tended
import TenantFleet.Proofs.Quiet.Departures
import TenantFleet.Proofs.Quiet.Rest
import TenantFleet.Proofs.Quiet.Undisturbed
import TenantFleet.Proofs.Quiet.Memory
import TenantFleet.Proofs.Runs.Quiet
import TenantFleet.Proofs.Codec.Record
import TenantFleet.Proofs.Codec.Objects
import TenantFleet.Proofs.Codec.Selectors
import TenantFleet.Proofs.Codec.Soundness
import TenantFleet.Proofs.Codec.RoundTrip
import TenantFleet.Proofs.Selector.Nodes
import TenantFleet.Proofs.Selector.Review
import TenantFleet.Proofs.Selector.Ways
import TenantFleet.Proofs.Selector.Findings
import TenantFleet.Proofs.Derivation.Validity
import TenantFleet.Proofs.Runs.Validity
import TenantFleet.Proofs.Store.Keeping
import TenantFleet.Proofs.Runs.ImmutableFields
import TenantFleet.Proofs.Passes.Outcomes
import TenantFleet.Proofs.Teardown.Dismissal
import TenantFleet.Proofs.Runs.Dismissal
import TenantFleet.Proofs.Passes.Convergence
import TenantFleet.Proofs.Runs.Convergence
import TenantFleet.Proofs.Passes.InstanceIds
import TenantFleet.Proofs.Runs.InstanceIds
import TenantFleet.Proofs.Store.Contents
import TenantFleet.Proofs.Commutation.Effects
import TenantFleet.Proofs.Commutation.TenantInstance
import TenantFleet.Proofs.Commutation.Registration
import TenantFleet.Proofs.Runs.Commutation
import TenantFleet.Proofs.Passes.Synchrony
import TenantFleet.Proofs.Runs.Synchrony
import TenantFleet.Proofs.Passes.Failures
import TenantFleet.Proofs.Passes.Unplaced
import TenantFleet.Proofs.Runs.Unplaced
import TenantFleet.Proofs.Passes.StatusWriters
import TenantFleet.Proofs.Runs.StatusWriters
import TenantFleet.Proofs.Passes.UserUpdates
import TenantFleet.Proofs.Runs.UserUpdates
import TenantFleet.Proofs.Runs.Standing
import TenantFleet.Proofs.Derivation.Tenancy
import TenantFleet.Proofs.Runs.Tenancy
import TenantFleet.Proofs.Derivation.Completion
import TenantFleet.Proofs.Runs.Completion
import TenantFleet.Proofs.Reapplying.Defaults
import TenantFleet.Proofs.Reapplying.Confirmation
import TenantFleet.Proofs.Reapplying.Manifests
import TenantFleet.Proofs.Runs.Reapplying
