import BuildTrial.Api.Plane
import BuildTrial.Json.Written
import BuildTrial.Main
import BuildTrial.Rehearsal.Session
import BuildTrial.Rehearsal.Shell
import BuildTrial.Scenario.Codec
import BuildTrial.Script.Rehearsal
import BuildTrial.Script.Server
import BuildTrial.Script.Teardown
import BuildTrial.Suite.Report
import BuildTrial.Proofs.Cleanup.Pass
import BuildTrial.Proofs.Program.Trace
import BuildTrial.Proofs.Scenario.Phased
import BuildTrial.Proofs.Mutate.Settled
import BuildTrial.Proofs.Wait.Polls
import BuildTrial.Proofs.Scenario.Acquisitions
import BuildTrial.Proofs.Scenario.Ledger
import BuildTrial.Proofs.Scenario.Mirror
import BuildTrial.Proofs.Scenario.Fixtures
import BuildTrial.Proofs.Store.Versions
import BuildTrial.Proofs.Store.Contention
import BuildTrial.Proofs.Store.NoLostUpdate
import BuildTrial.Proofs.Binary64.Rounding
import BuildTrial.Proofs.Retry.Pause
import BuildTrial.Proofs.Program.Drift
import BuildTrial.Proofs.Mutate.Steady
import BuildTrial.Proofs.Wait.Steady
import BuildTrial.Proofs.Scenario.Sequence
import BuildTrial.Proofs.Scenario.Steady
import BuildTrial.Proofs.Program.Calls
import BuildTrial.Proofs.Scenario.Jitter
import BuildTrial.Proofs.Program.Cost
import BuildTrial.Proofs.Mutate.Cost
import BuildTrial.Proofs.Wait.Cost
import BuildTrial.Proofs.Scenario.Cost
import BuildTrial.Proofs.Scenario.Budget
import BuildTrial.Proofs.Scenario.Stages
import BuildTrial.Proofs.Scenario.Verdict
import BuildTrial.Proofs.Scenario.Evidence
import BuildTrial.Proofs.Scenario.Gating
import BuildTrial.Proofs.Store.History
import BuildTrial.Proofs.Store.Freshness
import BuildTrial.Proofs.Cleanup.Moments
import BuildTrial.Proofs.Cleanup.Turns
import BuildTrial.Proofs.Cleanup.Once
import BuildTrial.Proofs.Cleanup.Accounts
import BuildTrial.Proofs.Store.Attempts
import BuildTrial.Proofs.Store.EnoughAttempts
import BuildTrial.Proofs.Api.NormalForm
import BuildTrial.Proofs.Api.Requests
import BuildTrial.Proofs.Api.Cycles
import BuildTrial.Proofs.Api.Cluster
import BuildTrial.Proofs.Api.Relabelling
import BuildTrial.Proofs.Program.Clock
import BuildTrial.Proofs.Wait.Inquiry
import BuildTrial.Proofs.Wait.Schedule
import BuildTrial.Proofs.Scenario.SkippedTeardown
import BuildTrial.Proofs.Scenario.PoolWaits
import BuildTrial.Proofs.Scenario.BuildHistory
import BuildTrial.Proofs.Store.Views
import BuildTrial.Proofs.Rehearsal.NodeViews
import BuildTrial.Proofs.Scenario.MovedNode
import BuildTrial.Proofs.Scenario.NodeLabels
import BuildTrial.Proofs.Mutate.Retried
import BuildTrial.Proofs.Store.Commits
import BuildTrial.Proofs.Store.Integrity
import BuildTrial.Proofs.Store.Reconciled
import BuildTrial.Proofs.Store.ConflictBudget
import BuildTrial.Proofs.Api.Content
import BuildTrial.Proofs.Cleanup.Ending
import BuildTrial.Proofs.Text.Base64
import BuildTrial.Proofs.Api.Ownership
import BuildTrial.Proofs.Scenario.Made
import BuildTrial.Proofs.Scenario.Contents
import BuildTrial.Proofs.Api.References
import BuildTrial.Proofs.Api.PoolStatus
import BuildTrial.Proofs.Scenario.Demands
import BuildTrial.Proofs.Suite.Validation
import BuildTrial.Proofs.Codec.Objects
import BuildTrial.Proofs.Codec.Records
import BuildTrial.Proofs.Codec.Omission
import BuildTrial.Proofs.Codec.BuildConfiguration
import BuildTrial.Proofs.Suite.Overrides
import BuildTrial.Proofs.Suite.Selection
import BuildTrial.Proofs.Cli.Preparation
import BuildTrial.Proofs.Scenario.VanishedNode
import BuildTrial.Proofs.Scenario.DestroyedNode
import BuildTrial.Proofs.Scenario.RenderedName
import BuildTrial.Proofs.Retry.Cap
