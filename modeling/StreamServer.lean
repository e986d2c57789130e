import StreamServer.Archives.FileReader
import StreamServer.Archives.Nntp
import StreamServer.Archives.ProgressiveCache
import StreamServer.Archives.Segments
import StreamServer.Archives.Wakeups
import StreamServer.Archives.Yenc
import StreamServer.Capability.CacheFormat
import StreamServer.Capability.CacheLoading
import StreamServer.Capability.CacheRoundTrip
import StreamServer.Capability.CacheSchema
import StreamServer.Capability.Evidence
import StreamServer.Capability.EvidenceEffects
import StreamServer.Capability.EvidenceLife
import StreamServer.Capability.FlightAccounts
import StreamServer.Capability.FlightDelivery
import StreamServer.Capability.FlightFrame
import StreamServer.Capability.FlightMoves
import StreamServer.Capability.FlightResults
import StreamServer.Capability.FlightSteps
import StreamServer.Capability.Flights
import StreamServer.Capability.HashedIdentity
import StreamServer.Capability.Key
import StreamServer.Capability.PassingAnswers
import StreamServer.Capability.PassingEvidence
import StreamServer.Capability.PassingFlights
import StreamServer.Capability.RefreshEffects
import StreamServer.Capability.RefreshOutcome
import StreamServer.Capability.RefreshSteps
import StreamServer.Capability.Registry
import StreamServer.Capability.RegistryFacts
import StreamServer.Capability.Signature
import StreamServer.Capability.Snapshot
import StreamServer.Capability.Storage
import StreamServer.Capability.StorageHistory
import StreamServer.Capability.StorageMoves
import StreamServer.Capability.StorageWakeup
import StreamServer.Capability.StorageWorker
import StreamServer.EngineFs.CapabilityRedaction
import StreamServer.EngineFs.CleanupSteps
import StreamServer.EngineFs.FileEffects
import StreamServer.EngineFs.IdleInversion
import StreamServer.EngineFs.IdleSafety
import StreamServer.EngineFs.IdleSteps
import StreamServer.EngineFs.Moves
import StreamServer.EngineFs.State
import StreamServer.EngineFs.SubtitleCues
import StreamServer.EngineFs.SubtitleEmission
import StreamServer.EngineFs.SubtitleText
import StreamServer.EngineFs.Subtitles
import StreamServer.EngineFs.System
import StreamServer.EngineFs.Teardown
import StreamServer.EngineFs.TeardownSafety
import StreamServer.EngineFs.WatchedFiles
import StreamServer.EngineFs.WatchedTorrents
import StreamServer.LibtorrentSys.MemoryStorage
import StreamServer.LocalAddon.Bencode
import StreamServer.LocalAddon.BencodeGrammar
import StreamServer.LocalAddon.BencodeSafety
import StreamServer.LocalAddon.InfoHash
import StreamServer.LocalAddon.LocalIndex
import StreamServer.LocalAddon.LocalVideos
import StreamServer.LocalAddon.Sha1Digest
import StreamServer.Metadata.BoxBounds
import StreamServer.Metadata.CriticalRanges
import StreamServer.Metadata.CueSafety
import StreamServer.Metadata.Ebml
import StreamServer.Metadata.EbmlSafety
import StreamServer.Metadata.RangeBounds
import StreamServer.Metadata.SampleExpansion
import StreamServer.Metadata.SampleTables
import StreamServer.NetworkSecurity.Classification
import StreamServer.NetworkSecurity.Discovery
import StreamServer.NetworkSecurity.Embedding
import StreamServer.NetworkSecurity.Nat64Cache
import StreamServer.NetworkSecurity.Resolver
import StreamServer.NetworkSecurity.Runtime
import StreamServer.NetworkSecurity.SelfListeners
import StreamServer.Playback.Actions
import StreamServer.Playback.Completion
import StreamServer.Playback.CompletionCoherence
import StreamServer.Playback.Coordinator
import StreamServer.Playback.DecidedPauses
import StreamServer.Playback.DiskStream
import StreamServer.Playback.DiskStreamBytes
import StreamServer.Playback.DiskStreamReads
import StreamServer.Playback.Extensions
import StreamServer.Playback.Fencing
import StreamServer.Playback.Frames
import StreamServer.Playback.Generations
import StreamServer.Playback.Inversion
import StreamServer.Playback.MemoryReads
import StreamServer.Playback.MemoryRuns
import StreamServer.Playback.MemoryStream
import StreamServer.Playback.MetadataCalls
import StreamServer.Playback.MetadataCovered
import StreamServer.Playback.MetadataEffects
import StreamServer.Playback.MetadataPause
import StreamServer.Playback.Moves
import StreamServer.Playback.PauseRetry
import StreamServer.Playback.PauseSteps
import StreamServer.Playback.Permits
import StreamServer.Playback.Phases
import StreamServer.Playback.PriorityBounds
import StreamServer.Playback.PriorityMerge
import StreamServer.Playback.PriorityPolicy
import StreamServer.Playback.PriorityTable
import StreamServer.Playback.Sections
import StreamServer.Playback.Steps
import StreamServer.Playback.Store
import StreamServer.Playback.StreamSeek
import StreamServer.Proxy.CacheControl
import StreamServer.Proxy.CustomOptions
import StreamServer.Proxy.Handoff
import StreamServer.Proxy.HandoffProducer
import StreamServer.Proxy.HlsReference
import StreamServer.Proxy.OffThread
import StreamServer.Proxy.PercentCoding
import StreamServer.Proxy.PlaceholderGuarantees
import StreamServer.Proxy.PlaylistGuarantees
import StreamServer.Proxy.PlaylistLines
import StreamServer.Proxy.PlaylistRewrite
import StreamServer.Proxy.PlaylistScan
import StreamServer.Proxy.ProxyHandler
import StreamServer.Proxy.ProxyResponse
import StreamServer.Proxy.RedirectCredentials
import StreamServer.Proxy.Redirects
import StreamServer.Proxy.ReferenceFacts
import StreamServer.Proxy.Request
import StreamServer.Proxy.VariableOrigin
import StreamServer.Routes.ArchiveRange
import StreamServer.Routes.RangeHeader
import StreamServer.Settings.Coherence
import StreamServer.Settings.Guarantees
import StreamServer.Settings.Payload
import StreamServer.Settings.Protection
import StreamServer.Settings.TrackerSaves
import StreamServer.Settings.Transactions
import StreamServer.Shared.ByteText
import StreamServer.Shared.Checked
import StreamServer.Shared.Fallible
import StreamServer.Shared.Fips180
import StreamServer.Shared.FlightLedger
import StreamServer.Shared.Framing
import StreamServer.Shared.HttpCrate
import StreamServer.Shared.LastUse
import StreamServer.Shared.Lists
import StreamServer.Shared.Loops
import StreamServer.Shared.Numerals
import StreamServer.Shared.Patterns
import StreamServer.Shared.PermitLedger
import StreamServer.Shared.RangeSpec
import StreamServer.Shared.Runs
import StreamServer.Shared.Splices
import StreamServer.Shared.StrSlices
import StreamServer.Shared.Tokens
import StreamServer.Shared.Trimming
import StreamServer.Shared.UrlCrate
import StreamServer.Transcoding.BrokerGuarantees
import StreamServer.Transcoding.BrokerInvariant
import StreamServer.Transcoding.BrokerMoves
import StreamServer.Transcoding.ByteRange
import StreamServer.Transcoding.CommitAdmission
import StreamServer.Transcoding.CommitExclusion
import StreamServer.Transcoding.ManagedRuntime
import StreamServer.Transcoding.ManagedSelections
import StreamServer.Transcoding.ProbeEntries
import StreamServer.Transcoding.ProbeFlights
import StreamServer.Transcoding.ProbeSingleFlight
import StreamServer.Transcoding.ProbeWatchdog
import StreamServer.Transcoding.RuntimeFiles
import StreamServer.Transcoding.RuntimeManifest
import StreamServer.Transcoding.RuntimeProbe
import StreamServer.Transcoding.RuntimeResolution
import StreamServer.Transcoding.SourceBroker
import StreamServer.Transcoding.UnixGuarantees
import StreamServer.Transcoding.UnixOwnership
import StreamServer.Transcoding.UnixProcesses
import StreamServer.Transcoding.UnixRegistry
import StreamServer.Transcoding.UnixSteps
import StreamServer.Transcoding.WindowsStrings
import StreamServer.Updater.PublishedPhase
import StreamServer.Updater.TagOrder
import StreamServer.Updater.Version
import StreamServer.UpdaterHelper.Apply
import StreamServer.UpdaterHelper.Preparation
import StreamServer.UpdaterHelper.ReplaceFile
import StreamServer.UpdaterHelper.ReplaceFiles
import StreamServer.UpdaterHelper.UndoUpdate
