import VirtLifecycle.Text.Blank
import VirtLifecycle.Text.Quoted
import VirtLifecycle.Decimal.Shortest
import VirtLifecycle.Keyed
import VirtLifecycle.Json.Basic
import VirtLifecycle.Json.Printer
import VirtLifecycle.Json.MergePatch
import VirtLifecycle.Json.Reader
import VirtLifecycle.Time.Clock
import VirtLifecycle.Kind
import VirtLifecycle.Phase
import VirtLifecycle.ResourceId
import VirtLifecycle.Wait.Backoff
import VirtLifecycle.Time.Timestamp
import VirtLifecycle.Resource.Metadata
import VirtLifecycle.Resource.Basic
import VirtLifecycle.Config
import VirtLifecycle.Wait.Loop
import VirtLifecycle.Cluster.InMemory
import VirtLifecycle.Lifecycle
import VirtLifecycle.Cluster.Http
import VirtLifecycle.Yaml.Scalar
import VirtLifecycle.Yaml.Cursor
import VirtLifecycle.Yaml.Token
import VirtLifecycle.Yaml.Token.Names
import VirtLifecycle.Yaml.Token.Stream
import VirtLifecycle.Manifest
import VirtLifecycle.Main
import VirtLifecycle.Command.Writing
import VirtLifecycle.Command.Execute
import VirtLifecycle.Proofs.Wait.Pauses
import VirtLifecycle.Proofs.Wait.Script
import VirtLifecycle.Proofs.Wait.Decision
import VirtLifecycle.Proofs.Plan.Run
import VirtLifecycle.Proofs.Wait.Loop
import VirtLifecycle.Proofs.Wait.Times
import VirtLifecycle.Proofs.Wait.Trace
import VirtLifecycle.Proofs.Wait.Deadline
import VirtLifecycle.Proofs.Wait.Bound
import VirtLifecycle.Proofs.Wait.Instant
import VirtLifecycle.Proofs.Operation
import VirtLifecycle.Proofs.Except
import VirtLifecycle.Proofs.Lifecycle.Termination
import VirtLifecycle.Proofs.Lifecycle.Calls
import VirtLifecycle.Proofs.Cluster.Writes
import VirtLifecycle.Proofs.Lifecycle.Endings
import VirtLifecycle.Proofs.Lifecycle.Failure
import VirtLifecycle.Proofs.Lifecycle.Deletion
import VirtLifecycle.Proofs.Lifecycle.SharedBudget
import VirtLifecycle.Proofs.Decimal.Digits
import VirtLifecycle.Proofs.Time.Calendar
import VirtLifecycle.Proofs.Time.Timestamp
import VirtLifecycle.Proofs.Json.Canonical
import VirtLifecycle.Proofs.Document
import VirtLifecycle.Proofs.Resource.Basic
import VirtLifecycle.Proofs.Json.Numerals
import VirtLifecycle.Proofs.Json.RoundTrip
import VirtLifecycle.Proofs.Cluster.Http
import VirtLifecycle.Proofs.Lifecycle.Mirrors
import VirtLifecycle.Proofs.Lifecycle.Agreement
import VirtLifecycle.Proofs.Cluster.History
import VirtLifecycle.Proofs.Lifecycle.Independence
import VirtLifecycle.Proofs.Cluster.Commuting
import VirtLifecycle.Proofs.Cluster.Identity
import VirtLifecycle.Proofs.ResourceId
import VirtLifecycle.Proofs.Lifecycle.CreatedIds
import VirtLifecycle.Proofs.Cluster.Addresses
import VirtLifecycle.Proofs.Lifecycle.Reads
import VirtLifecycle.Proofs.Lifecycle.Creation
import VirtLifecycle.Proofs.Lifecycle.Refusals
import VirtLifecycle.Proofs.Lifecycle.Start
import VirtLifecycle.Proofs.Cluster.Untouched
import VirtLifecycle.Proofs.Json.MergePaths
import VirtLifecycle.Proofs.Wait.Extension
import VirtLifecycle.Proofs.Wait.Restarts
import VirtLifecycle.Proofs.Cluster.Retries
import VirtLifecycle.Proofs.Wait.Backoff
import VirtLifecycle.Proofs.Wait.LastState
import VirtLifecycle.Proofs.Wait.Counters
import VirtLifecycle.Proofs.Yaml.OfJson
import VirtLifecycle.Proofs.Manifest
import VirtLifecycle.Proofs.Manifest.Acceptance
import VirtLifecycle.Proofs.Yaml.Layout
import VirtLifecycle.Proofs.Yaml.Quoted
import VirtLifecycle.Proofs.Yaml.Unquoted
import VirtLifecycle.Proofs.Yaml.Scanning
import VirtLifecycle.Proofs.Yaml.Texts
import VirtLifecycle.Proofs.Yaml.Numbers
import VirtLifecycle.Proofs.Yaml.Printable
import VirtLifecycle.Proofs.Yaml.Tokens
import VirtLifecycle.Proofs.Yaml.Parsing
import VirtLifecycle.Proofs.Manifest.Printed
import VirtLifecycle.Proofs.Plan.Ends
import VirtLifecycle.Proofs.Lifecycle.Causes
import VirtLifecycle.Proofs.Cluster.Namespaces
import VirtLifecycle.Proofs.Lifecycle.Preparation
import VirtLifecycle.Proofs.Lifecycle.Submission
import VirtLifecycle.Proofs.Text.Blank
import VirtLifecycle.Proofs.Decimal.Count
import VirtLifecycle.Proofs.Config.Variables
import VirtLifecycle.Proofs.Config.Loading
import VirtLifecycle.Proofs.Phase
import VirtLifecycle.Proofs.Plan.Alike
import VirtLifecycle.Proofs.Command.Writing
import VirtLifecycle.Proofs.Command.Execute
import VirtLifecycle.Proofs.Command.Filling
import VirtLifecycle.Proofs.Command.Line
