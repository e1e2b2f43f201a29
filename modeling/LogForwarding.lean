import LogForwarding.Command.Arguments
import LogForwarding.Command.Error
import LogForwarding.Command.Normalization
import LogForwarding.Command.Report
import LogForwarding.Command.Run
import LogForwarding.Command.Settings
import LogForwarding.Dictionary
import LogForwarding.Document.Basic
import LogForwarding.Document.Settings
import LogForwarding.Document.Shape
import LogForwarding.Document.Spec
import LogForwarding.Document.Status
import LogForwarding.Error
import LogForwarding.File.Path
import LogForwarding.File.Sighting
import LogForwarding.File.System
import LogForwarding.File.Tree
import LogForwarding.Input
import LogForwarding.Journal
import LogForwarding.Json.Reader
import LogForwarding.Json.Writer
import LogForwarding.Log.Filter
import LogForwarding.Log.Line
import LogForwarding.Main
import LogForwarding.Names
import LogForwarding.Normalization
import LogForwarding.Number.Binary64
import LogForwarding.Number.Literal
import LogForwarding.Number.Shortest
import LogForwarding.Operator
import LogForwarding.Output
import LogForwarding.Pipeline
import LogForwarding.Proofs.FirstHolders
import LogForwarding.Reserved
import LogForwarding.Review.Outputs
import LogForwarding.Review.Pipelines
import LogForwarding.Route.Default
import LogForwarding.Route.Index
import LogForwarding.Route.Migration
import LogForwarding.Route.Tenant
import LogForwarding.Secret
import LogForwarding.Secret.Directory
import LogForwarding.Settings
import LogForwarding.Settings.File
import LogForwarding.Spec
import LogForwarding.Spec.File
import LogForwarding.Spec.Text
import LogForwarding.Status
import LogForwarding.Store
import LogForwarding.Text.Blank
import LogForwarding.Text.Colour
import LogForwarding.Text.Hidden
import LogForwarding.Text.Quoted
import LogForwarding.Toml.Quoted
import LogForwarding.Toml.Reader
import LogForwarding.Toml.Scalar
import LogForwarding.Toml.Table
import LogForwarding.Toml.Writer
import LogForwarding.Yaml.Cursor
import LogForwarding.Yaml.Folding
import LogForwarding.Yaml.Node
import LogForwarding.Yaml.Reader
import LogForwarding.Yaml.Scalar
import LogForwarding.Yaml.Style
import LogForwarding.Yaml.Tag
import LogForwarding.Yaml.Token
import LogForwarding.Yaml.Writer
import LogForwarding.Proofs.Review.Outputs
import LogForwarding.Proofs.Review.Pipelines
import LogForwarding.Proofs.Normalization
import LogForwarding.Proofs.Route.Index
import LogForwarding.Proofs.Route.Migration
import LogForwarding.Proofs.Integrity
import LogForwarding.Proofs.Route.Store
import LogForwarding.Proofs.Idempotence
import LogForwarding.Proofs.Isolation
import LogForwarding.Proofs.DefaultRoute
import LogForwarding.Proofs.Dictionary
import LogForwarding.Proofs.Document.Rearranged
import LogForwarding.Proofs.Document.Records
import LogForwarding.Proofs.Document.Spec
import LogForwarding.Proofs.Acceptance
import LogForwarding.Proofs.Accounts
import LogForwarding.Proofs.Spec.Text
import LogForwarding.Proofs.Names
import LogForwarding.Proofs.NameClaims
import LogForwarding.Proofs.StandardPipelines
import LogForwarding.Proofs.Fixpoint
import LogForwarding.Proofs.Session
import LogForwarding.Proofs.Outcome
import LogForwarding.Proofs.Confidentiality
import LogForwarding.Proofs.Provenance
import LogForwarding.Proofs.ReservedOutput
import LogForwarding.Proofs.Extension
import LogForwarding.Proofs.Results
import LogForwarding.Proofs.Settings.Precedence
import LogForwarding.Proofs.Command.Outcome
import LogForwarding.Proofs.Command.Usability
import LogForwarding.Proofs.Review.Verdicts
import LogForwarding.Proofs.Review.PipelineVerdicts
import LogForwarding.Proofs.Toml.Quoted
import LogForwarding.Proofs.Toml.Sections
import LogForwarding.Proofs.Settings.Text
import LogForwarding.Proofs.Command.Settings
import LogForwarding.Proofs.Command.Store
import LogForwarding.Proofs.Document.Dialects
import LogForwarding.Proofs.Spec.Formats
import LogForwarding.Proofs.Route.Conservation
import LogForwarding.Proofs.Route.PartNames
import LogForwarding.Proofs.Route.TenantOutputs
import LogForwarding.Proofs.Route.Remigration
import LogForwarding.Proofs.DefaultUse
import LogForwarding.Proofs.StatusLookup
import LogForwarding.Proofs.Review.Monotonicity
import LogForwarding.Proofs.OutputDefaults
import LogForwarding.Proofs.Placeholders
import LogForwarding.Proofs.Journal
import LogForwarding.Proofs.Route.Journal
import LogForwarding.Proofs.Ledger
import LogForwarding.Proofs.File.Name
import LogForwarding.Proofs.File.Walk
import LogForwarding.Proofs.Secret.Volume
import LogForwarding.Proofs.Secret.Directory
import LogForwarding.Proofs.Secret.Run
