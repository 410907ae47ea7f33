import SignalNet.Flow.Basic
import SignalNet.Native.Descriptions
import SignalNet.Network.Access
import SignalNet.Network.Readings
import SignalNet.Proofs.Network.Construction
import SignalNet.Proofs.Network.Locality
import SignalNet.Proofs.Network.Operation
import SignalNet.Proofs.Network.Confluence
import SignalNet.Proofs.Network.Places
import SignalNet.Proofs.Network.Oblivious
import SignalNet.Proofs.Network.Journal
import SignalNet.Proofs.Network.Dataflow
import SignalNet.Proofs.Toml.Reading
import SignalNet.Proofs.Schema.Reading
import SignalNet.Proofs.Schema.Declarations
import SignalNet.Proofs.Schema.Nesting
import SignalNet.Proofs.Schema.Circularity
import SignalNet.Proofs.Schema.DeclarationOrder
import SignalNet.Proofs.Native.Typing
import SignalNet.Proofs.Variable.Shape
import SignalNet.Proofs.Native.Steadiness
import SignalNet.Proofs.Schema.Coherence
import SignalNet.Proofs.Schema.Inheritance
import SignalNet.Proofs.Network.Typing
import SignalNet.Proofs.Network.Linkage
import SignalNet.Proofs.Network.TypeSoundness
import SignalNet.Proofs.Network.Addresses
import SignalNet.Proofs.Network.Depth
import SignalNet.Proofs.Network.Forwarding
import SignalNet.Proofs.Network.Sources
import SignalNet.Proofs.Network.Counterparts
import SignalNet.Proofs.Network.Access
import SignalNet.Proofs.Preset.Idempotence
import SignalNet.Proofs.Network.Replicas
import SignalNet.Proofs.Preset.Isolation
import SignalNet.Proofs.Preset.Fields
import SignalNet.Proofs.Preset.Steps
import SignalNet.Proofs.Preset.Omission
import SignalNet.Proofs.Preset.Settable
import SignalNet.Proofs.Preset.BestEffort
import SignalNet.Proofs.Crossfade.Action
import SignalNet.Proofs.Crossfade.Roles
import SignalNet.Proofs.Crossfade.Preparation
import SignalNet.Proofs.Flow.RunLoop
import SignalNet.Proofs.Crossfade.Mixing
import SignalNet.Proofs.Network.Literals
import SignalNet.Proofs.Network.WellFormed
import SignalNet.Proofs.Network.LeastOrder
import SignalNet.Proofs.Number.ZeroWeight
import SignalNet.Proofs.Preset.Alignment
import SignalNet.Proofs.Preset.Endpoints
import SignalNet.Proofs.Network.Projection
import SignalNet.Proofs.Network.Relocation
import SignalNet.Proofs.Network.Twins
import SignalNet.Proofs.Network.Replication
import SignalNet.Proofs.Network.Settings
import SignalNet.Proofs.Network.Precedence
import SignalNet.Proofs.Preset.StrayEntries
import SignalNet.Proofs.Preset.VoiceBlends
import SignalNet.Proofs.Network.Destinations
import SignalNet.Proofs.Network.ToneChannels
import SignalNet.Proofs.Network.StuckReleases
import SignalNet.Proofs.Network.Begun
import SignalNet.Proofs.Network.CycleReports
import SignalNet.Proofs.Crossfade.Duration
import SignalNet.Proofs.Schema.Bookkeeping
import SignalNet.Proofs.Schema.Interruption
import SignalNet.Proofs.Number.Ordering
import SignalNet.Proofs.Preset.Heaviest
import SignalNet.Proofs.Preset.Selection
import SignalNet.Proofs.Network.Notices
import SignalNet.Proofs.Preset.Notices
import SignalNet.Proofs.Network.AbortedCycles
import SignalNet.Proofs.Native.Blocks
import SignalNet.Proofs.Variable.Operations
import SignalNet.Proofs.Variable.Reference
import SignalNet.Proofs.Schema.Networks
