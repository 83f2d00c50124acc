import CosmosRl.Rollout.TaskConservation
import CosmosRl.Utils.P2RContent
import CosmosRl.Utils.CoveredRanks
import CosmosRl.Policy.GroupedExperts
import CosmosRl.Dispatcher.Accounting
import CosmosRl.Dispatcher.Barrier
import CosmosRl.Dispatcher.Issuing
import CosmosRl.Dispatcher.MeshRebuild
import CosmosRl.Dispatcher.DispatchFootprint
import CosmosRl.Dispatcher.Staleness
import CosmosRl.Dispatcher.FleetPhase
import CosmosRl.Utils.P2RMatching
import CosmosRl.Foundation.Rendezvous
import CosmosRl.Utils.P2RExecution
import CosmosRl.Utils.P2RMatching
import CosmosRl.Dispatcher.FleetMembership
import CosmosRl.Dispatcher.FleetArrival
import CosmosRl.Dispatcher.Wakeup
import CosmosRl.Data.LoadBalancedDataset
import CosmosRl.Foundation.Extraction
import CosmosRl.Data.PoolConservation
import CosmosRl.Data.LoadBalancing
import CosmosRl.Data.LoadBalancedResume
import CosmosRl.Dispatcher.PromptConservation
import CosmosRl.Dispatcher.PromptResume
import CosmosRl.Data.DecoderOnlyLLMDataPacker
import CosmosRl.Data.TrainedTokens
import CosmosRl.Foundation.Collecting
import CosmosRl.Utils.BalanceSeqlen
import CosmosRl.Utils.BalancedPartitions
import CosmosRl.Launcher.SeparatedPlacement
import CosmosRl.Policy.GRPOTrainer
import CosmosRl.Policy.MiniBatchSteps
import CosmosRl.Policy.OptimizeChunks
import CosmosRl.Policy.OwnSignals
import CosmosRl.Policy.SingleChunk
import CosmosRl.Dispatcher.Blocking
import CosmosRl.Dispatcher.RemainSamples
import CosmosRl.Dispatcher.RankDispatch
import CosmosRl.Dispatcher.RankRuns
import CosmosRl.Utils.BroadcastAgreement
import CosmosRl.Worker.TeacherPrefetch
import CosmosRl.Worker.SavingReplica
import CosmosRl.Utils.RedisStreamHandler
import CosmosRl.Worker.TeacherAnswers
import CosmosRl.Worker.ReferenceShutdown
import CosmosRl.Reference.OwnTokens
import CosmosRl.Policy.PackedProbes
import CosmosRl.Reward.ExtractRollouts
import CosmosRl.Reward.PayloadIdentity
import CosmosRl.Rollout.PromptScatter
import CosmosRl.Rollout.VersionGating
import CosmosRl.Rollout.MultiTurnPairing
import CosmosRl.Rollout.PromptsReported
import CosmosRl.Dispatcher.PromptQuota
import CosmosRl.Worker.SftStepAgreement
import CosmosRl.Foundation.Segments
import CosmosRl.Policy.CollectiveAgreement
import CosmosRl.Data.LongSamples
import CosmosRl.Utils.SliceAlgebra
import CosmosRl.Worker.SaveCadence
import CosmosRl.Policy.SlotShortage
import CosmosRl.Policy.SplitDependence
import CosmosRl.Policy.MissingTeachers
import CosmosRl.Policy.PackedTargets
import CosmosRl.Policy.PackedSftLoss
import CosmosRl.Utils.PackedLengths
import CosmosRl.Foundation.Splicing
import CosmosRl.Data.SftProcessSample
import CosmosRl.Data.PlaceholderSplicing
import CosmosRl.Worker.SFTDataset
import CosmosRl.Reward.SharedPrefixes
import CosmosRl.Reward.IgnoredPrefixes
import CosmosRl.Foundation.Spread
import CosmosRl.Utils.PartitionSpread
import CosmosRl.Policy.TokenBudget
import CosmosRl.Foundation.Offsets
import CosmosRl.Policy.OffPolicyMask
import CosmosRl.Utils.HighAvailabilityNccl
import CosmosRl.Utils.RetriedCollectives
import CosmosRl.Foundation.Eviction
import CosmosRl.Utils.CheckpointManager
import CosmosRl.Utils.CheckpointRetention
import CosmosRl.Dispatcher.StepFetches
import CosmosRl.Dispatcher.StepMoves
import CosmosRl.Dispatcher.EpochSaving
import CosmosRl.Utils.UlyssesRelayout
import CosmosRl.Policy.ExportSafetensors
import CosmosRl.Policy.WeightResume
import CosmosRl.Policy.LrScheduleRuns
import CosmosRl.Dispatcher.ColocatedSteps
import CosmosRl.Dispatcher.ColocatedStreams
import CosmosRl.Worker.ColocatedController
import CosmosRl.Worker.SftCheckpointing
import CosmosRl.Foundation.LastWrite
import CosmosRl.Dispatcher.FilterRewards
import CosmosRl.Foundation.Nested
import CosmosRl.Policy.StateTransfer
import CosmosRl.Utils.MeshRanks
