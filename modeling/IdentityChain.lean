import IdentityChain.Catalog.Rank
import IdentityChain.Catalog.SignIn
import IdentityChain.Catalog.Snapshot
import IdentityChain.Configuration.Batch
import IdentityChain.Configuration.Item
import IdentityChain.Configuration.Store
import IdentityChain.Decimal.Layout
import IdentityChain.Directory.Basic
import IdentityChain.Fault
import IdentityChain.IntRange
import IdentityChain.Json.Compact
import IdentityChain.Json.Reading
import IdentityChain.Json.Record
import IdentityChain.Mapping.Forms
import IdentityChain.Proofs.Catalog.Building
import IdentityChain.Proofs.Catalog.Chains
import IdentityChain.Proofs.Catalog.Exchanging
import IdentityChain.Proofs.Catalog.Listing
import IdentityChain.Proofs.Catalog.Membership
import IdentityChain.Proofs.Catalog.Participation
import IdentityChain.Proofs.Catalog.Placing
import IdentityChain.Proofs.Catalog.Refusals
import IdentityChain.Proofs.Catalog.Saving
import IdentityChain.Proofs.Catalog.Sequences
import IdentityChain.Proofs.Configuration.Applying
import IdentityChain.Proofs.Configuration.Arranging
import IdentityChain.Proofs.Configuration.Exchange
import IdentityChain.Proofs.Configuration.Merging
import IdentityChain.Proofs.Directory.Accounts
import IdentityChain.Proofs.Directory.Grammar
import IdentityChain.Proofs.Directory.Sources
import IdentityChain.Proofs.Json.Decoding
import IdentityChain.Proofs.Mapping.RoundTrips
import IdentityChain.Proofs.Mapping.WritingBack
import IdentityChain.Proofs.Registry.Actions
import IdentityChain.Proofs.Registry.Arranging
import IdentityChain.Proofs.Registry.CacheUse
import IdentityChain.Proofs.Registry.Endings
import IdentityChain.Proofs.Registry.Exchanging
import IdentityChain.Proofs.Registry.Frames
import IdentityChain.Proofs.Registry.Listing
import IdentityChain.Proofs.Registry.Operations
import IdentityChain.Proofs.Registry.Placing
import IdentityChain.Proofs.Registry.Reading
import IdentityChain.Proofs.Registry.Reordering
import IdentityChain.Proofs.Registry.Runs
import IdentityChain.Proofs.Registry.Saving
import IdentityChain.Proofs.Registry.Staging
import IdentityChain.Proofs.Registry.Steps
import IdentityChain.Proofs.Registry.Trials
import IdentityChain.Proofs.Registry.TypedItems
import IdentityChain.Proofs.Registry.Versions
import IdentityChain.Proofs.Registry.WritingBack
import IdentityChain.Proofs.Resolution.Expiry
import IdentityChain.Proofs.Resolution.Histories
import IdentityChain.Proofs.Resolution.Managed
import IdentityChain.Proofs.Resolution.Outcome
import IdentityChain.Proofs.Resolution.Provenance
import IdentityChain.Proofs.Resolution.Reuse
import IdentityChain.Proofs.SignIn.Deciding
import IdentityChain.Proofs.SignIn.Disclosure
import IdentityChain.Proofs.Store.Commits
import IdentityChain.Proofs.Store.Contract
import IdentityChain.Proofs.Store.Shared
import IdentityChain.Proofs.Text.Bytes
import IdentityChain.Proofs.Time.Counting
import IdentityChain.Proofs.Time.Elapsing
import IdentityChain.Proofs.UserCache.Exactness
import IdentityChain.Proofs.UserCache.Freshness
import IdentityChain.Registry.Basic
import IdentityChain.Resolution
import IdentityChain.Settings.Load
import IdentityChain.Simulation.Check
import IdentityChain.Simulation.SampleTypes
import IdentityChain.Simulation.ScriptedSource
import IdentityChain.Simulation.TroubledStore
import IdentityChain.Table.Lemmas
import IdentityChain.Text.Blank
import IdentityChain.Text.Quoted
import IdentityChain.Time.Reading
import IdentityChain.Time.Written
import IdentityChain.User
import IdentityChain.UserCache
import IdentityChain.Yaml.Value
import IdentityChain.Proofs.Time.Calendar
