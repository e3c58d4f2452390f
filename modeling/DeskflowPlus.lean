import DeskflowPlus.App.SenderFrameBridge
import DeskflowPlus.Lib.BigEndian
import DeskflowPlus.Lib.Cbor
import DeskflowPlus.Lib.Run
import DeskflowPlus.Lib.StreamDecoder
import DeskflowPlus.Transfer.FileStreaming
import DeskflowPlus.Transfer.FrameCodec
import DeskflowPlus.Transfer.ResumeNegotiator
import DeskflowPlus.Transfer.TransferOfferStateMachine
import DeskflowPlus.App.OutgoingSession
import DeskflowPlus.App.FileTransferRuntime
import DeskflowPlus.App.SenderBackpressure
import DeskflowPlus.App.OutgoingTermination
import DeskflowPlus.Transfer.TransferControlInvariant
import DeskflowPlus.App.OutgoingRecovery
import DeskflowPlus.Transfer.SessionMessageCodec
import DeskflowPlus.FileTransport.FileTlsTransport
import DeskflowPlus.FileTransport.FrameDelivery
import DeskflowPlus.FileTransport.AuthenticationGate
import DeskflowPlus.App.SimultaneousConnect
import DeskflowPlus.Transfer.ManifestPageReassembler
import DeskflowPlus.Transfer.CanonicalManifest
import DeskflowPlus.Transfer.ManifestPaging
import DeskflowPlus.Transfer.ControlMessageCodec
import DeskflowPlus.Transfer.FileMessageRoundTrip
import DeskflowPlus.Transfer.TransferCommandCodec
import DeskflowPlus.Lib.PathSegments
import DeskflowPlus.Transfer.PathContainment
import DeskflowPlus.Transfer.ConflictResolver
import DeskflowPlus.Trust.DeviceIdText
import DeskflowPlus.Trust.TrustedDeviceStore
import DeskflowPlus.Trust.RevocationDurability
import DeskflowPlus.Pairing.PairingStateMachine
import DeskflowPlus.Pairing.PairingManager
import DeskflowPlus.Pairing.PairingSteps
import DeskflowPlus.Pairing.PairingEffects
import DeskflowPlus.Pairing.PairingConsistency
import DeskflowPlus.Pairing.PairingCancellation
import DeskflowPlus.Pairing.PairingTrustSafety
import DeskflowPlus.Pairing.PairingAgreement
import DeskflowPlus.Transfer.FileReception
import DeskflowPlus.App.ReceiveQueue
import DeskflowPlus.Server.ScreenMap
import DeskflowPlus.Server.Server
import DeskflowPlus.Server.LiveClients
import DeskflowPlus.App.IncomingTransferRuntime
import DeskflowPlus.App.IncomingLifeCycle
import DeskflowPlus.Clipboard.ClipboardChunk
import DeskflowPlus.Clipboard.ClipboardStreams
import DeskflowPlus.Options.ClientOptions
import DeskflowPlus.Options.OptionTypes
import DeskflowPlus.Options.OptionSafety
import DeskflowPlus.Options.OptionDelivery
import DeskflowPlus.Server.Config
import DeskflowPlus.Lib.Chain
import DeskflowPlus.Server.Reload
import DeskflowPlus.Server.ReloadOptions
import DeskflowPlus.Server.SwitchTrace
import DeskflowPlus.Server.SwitchDecision
import DeskflowPlus.Server.SwitchGuards
import DeskflowPlus.Server.SwitchWait
import DeskflowPlus.Server.NeighborSearch
import DeskflowPlus.Server.NeighborPosition
import DeskflowPlus.Server.CursorPosition
import DeskflowPlus.Server.ClientTable
import DeskflowPlus.Server.KeyRelay
import DeskflowPlus.Clipboard.Clipboard
import DeskflowPlus.Stream.PacketStreamFilter
import DeskflowPlus.Stream.PacketFraming
import DeskflowPlus.Stream.PacketReadiness
import DeskflowPlus.Client.MouseCompression
import DeskflowPlus.Server.ServerClipboards
import DeskflowPlus.Server.ClipboardOwnership
import DeskflowPlus.Server.ClipboardRefusals
import DeskflowPlus.Server.ConfigReferences
import DeskflowPlus.Client.ServerMessages
import DeskflowPlus.Client.MessageContainment
import DeskflowPlus.Client.KeyMap
import DeskflowPlus.Transfer.CapabilityCodec
import DeskflowPlus.Transfer.FeatureGrammar
import DeskflowPlus.Clipboard.UnmarshallSafety
import DeskflowPlus.App.IncomingFileReceiverWorker
import DeskflowPlus.App.ReceiverReservations
import DeskflowPlus.App.ReceiveProcess
import DeskflowPlus.App.SkippedFiles
import DeskflowPlus.App.ReceiverReplies
import DeskflowPlus.Transfer.PagePlanning
import DeskflowPlus.Reconnect.AddressCandidateProvider
import DeskflowPlus.Reconnect.AutoReconnectCoordinator
import DeskflowPlus.Reconnect.ReconnectGenerations
import DeskflowPlus.Reconnect.ReconnectSafety
import DeskflowPlus.Lib.CopiedVector
import DeskflowPlus.Server.InputFilter
import DeskflowPlus.Server.HotKeyRegistration
import DeskflowPlus.Transfer.CapabilityNegotiation
import DeskflowPlus.Transfer.ResumeStateCodec
import DeskflowPlus.Transfer.ResumeFiles
import DeskflowPlus.Lib.SortUnique
import DeskflowPlus.Transfer.TransferHistoryStore
import DeskflowPlus.Transfer.HistoryListing
import DeskflowPlus.Transfer.HistoryRewriting
import DeskflowPlus.Transfer.QStringArg
import DeskflowPlus.Transfer.RenamedNames
import DeskflowPlus.Transfer.OfferDecisions
import DeskflowPlus.Transfer.PartialCleanupPolicy
import DeskflowPlus.Transfer.CleanupSafety
import DeskflowPlus.Transfer.CleanupReach
import DeskflowPlus.Pairing.CommitAtomicity
import DeskflowPlus.Lib.SortedRows
import DeskflowPlus.Model.TransferCenterModel
import DeskflowPlus.Model.RowOrder
import DeskflowPlus.Model.RowFreshness
import DeskflowPlus.Server.CornerMotion
import DeskflowPlus.Client.KeyMapping
import DeskflowPlus.Lib.BitMask
import DeskflowPlus.Server.MirroredMotion
import DeskflowPlus.Client.ModifierKeys
import DeskflowPlus.Client.ModifierAdjustment
import DeskflowPlus.Client.FailedMapping
import DeskflowPlus.Client.FakeKeys
import DeskflowPlus.Client.KeyGroups
import DeskflowPlus.Client.KeyState
import DeskflowPlus.Client.ServerKeys
import DeskflowPlus.Client.KeyNames
import DeskflowPlus.Client.KeyNameRoundTrip
import DeskflowPlus.Client.ActiveModifiers
import DeskflowPlus.Client.ModifierRestoring
import DeskflowPlus.Client.ModifierMatching
import DeskflowPlus.Lib.OrderedRow
import DeskflowPlus.Server.CellEdges
import DeskflowPlus.Server.ScreenNames
import DeskflowPlus.Lib.FloatFormat
import DeskflowPlus.Server.ConfigIntervals
import DeskflowPlus.Base.Unicode
import DeskflowPlus.Base.MalformedUtf8
import DeskflowPlus.Base.Utf16RoundTrip
import DeskflowPlus.Lib.ByteSource
import DeskflowPlus.Stream.ProtocolFormat
import DeskflowPlus.Stream.FormatRoundTrip
import DeskflowPlus.Stream.ReadLimits
import DeskflowPlus.Server.ClientHandshake
import DeskflowPlus.Server.ConfigReadContext
import DeskflowPlus.Server.ConfigSections
import DeskflowPlus.Server.ConfigLayout
import DeskflowPlus.Server.ConfigRemainders
import DeskflowPlus.Client.LanguageManager
import DeskflowPlus.Net.FingerprintDatabase
import DeskflowPlus.Base.EventTable
import DeskflowPlus.Reconnect.CandidateOrder
import DeskflowPlus.Stream.StreamBufferWords
import DeskflowPlus.Net.NetworkAddress
import DeskflowPlus.Base.StringFormat
import DeskflowPlus.Base.EventTimers
import DeskflowPlus.Discovery.DiscoveryRegistry
import DeskflowPlus.Transfer.ResumeRuns
import DeskflowPlus.Stream.PacketRefinement
