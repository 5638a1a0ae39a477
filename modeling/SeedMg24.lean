import SeedMg24.Analysis.RecordRoundTrip
import SeedMg24.Analysis.StoreHistories
import SeedMg24.Analysis.ResetMarker
import SeedMg24.Analysis.CommandAcknowledgement
import SeedMg24.Analysis.ProvisionRetry
import SeedMg24.Analysis.CommandText
import SeedMg24.Analysis.ReconnectLoop
import SeedMg24.Analysis.TelemetryIngestion
import SeedMg24.Analysis.FailedReplacement
import SeedMg24.Analysis.SerialisedApplies
import SeedMg24.Analysis.LiveConnections
import SeedMg24.Analysis.NodeAnswers
import SeedMg24.Model.ProvisioningCalls
import SeedMg24.Analysis.DeviceRejections
import SeedMg24.Analysis.DurableConfiguration
import SeedMg24.Foundation.JsonSearch
import SeedMg24.Model.UsbBootstrap
import SeedMg24.Model.BootstrapHost
import SeedMg24.Analysis.BootstrapRequests
import SeedMg24.Analysis.BootstrapResponses
import SeedMg24.Analysis.OnboardingIdentities
import SeedMg24.Analysis.HonestCompletion
import SeedMg24.Analysis.RecordBijection
import SeedMg24.Analysis.ResetChallenges
import SeedMg24.Analysis.RetentionBatches
import SeedMg24.Analysis.FirmwareRanges
import SeedMg24.Analysis.VibrationRoundTrip
import SeedMg24.Analysis.VibrationWindows
import SeedMg24.Analysis.ProvisionedApply
import SeedMg24.Analysis.RecordBursts
import SeedMg24.Analysis.WriteOnceIdentity
import SeedMg24.Analysis.RestoredConfiguration
import SeedMg24.Analysis.WholeAnswers
import SeedMg24.Analysis.AlarmTransitions
import SeedMg24.Analysis.OfflineRecords
import SeedMg24.Analysis.OfflineDelivery
import SeedMg24.Analysis.DoubleBufferOrder
import SeedMg24.Analysis.FrameConservation
import SeedMg24.Analysis.RateTracking
import SeedMg24.Analysis.OwnSamples
import SeedMg24.Analysis.CleanRejections
import SeedMg24.Analysis.ConditionVerdicts
import SeedMg24.Analysis.ConditionHysteresis
import SeedMg24.Analysis.RelearnRequests
import SeedMg24.Analysis.StaleCommands
import SeedMg24.Analysis.SingleUseConfirmations
import SeedMg24.Analysis.NumericFilters
import SeedMg24.Analysis.IdentityPayloads
import SeedMg24.Analysis.ResetConversations
import SeedMg24.Analysis.LatestReadings
import SeedMg24.Analysis.HistoryPages
import SeedMg24.Analysis.NodeIdLanguage
import SeedMg24.Analysis.Conversions
import SeedMg24.Analysis.OnlineStatistics
import SeedMg24.Analysis.DebouncedSwitches
import SeedMg24.Analysis.PureTones
import SeedMg24.Analysis.ConditionedWindows
import SeedMg24.Analysis.RegistryIdentities
import SeedMg24.Analysis.ResetRemovals
import SeedMg24.Analysis.InstallerEnds
import SeedMg24.Analysis.ApprovedArtifacts
import SeedMg24.Analysis.RemovedNodes
