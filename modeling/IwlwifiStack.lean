import IwlwifiStack.SerialArithmetic
import IwlwifiStack.SlotRing
import IwlwifiStack.ConditionedRun
import IwlwifiStack.ByteOrder
import IwlwifiStack.SequenceNumber
import IwlwifiStack.RxReorderModel
import IwlwifiStack.RxReorderRelease
import IwlwifiStack.RxReorderScan
import IwlwifiStack.BlockAckSession
import IwlwifiStack.RxReorderStep
import IwlwifiStack.RxReorderCounter
import IwlwifiStack.RxReorderOrder
import IwlwifiStack.RxReorderSlots
import IwlwifiStack.RxReorderAmsdu
import IwlwifiStack.DriverReorderModel
import IwlwifiStack.MldBlockAck
import IwlwifiStack.MldReleaseOrder
import IwlwifiStack.WpaDecryptModel
import IwlwifiStack.ReplayProtection
import IwlwifiStack.DefragmentModel
import IwlwifiStack.FragmentReassembly
import IwlwifiStack.FragmentCacheReuse
import IwlwifiStack.MvmReceiveModel
import IwlwifiStack.MvmReplayProtection
import IwlwifiStack.TkipModel
import IwlwifiStack.TkipOwnKey
import IwlwifiStack.TkipReplayProtection
import IwlwifiStack.LinkSelectModel
import IwlwifiStack.LinkSelection
import IwlwifiStack.EmlsrModel
import IwlwifiStack.EmlActiveFlag
import IwlwifiStack.EmlsrExitModel
import IwlwifiStack.EmlsrSwitch
import IwlwifiStack.EmlsrBlocking
import IwlwifiStack.EmlsrTmpBlock
import IwlwifiStack.EmlsrPrevention
import IwlwifiStack.AeadEncryptModel
import IwlwifiStack.AeadHeader
import IwlwifiStack.AeadRoundTrip
import IwlwifiStack.RxAllocatorModel
import IwlwifiStack.RxAllocatorBalance
import IwlwifiStack.RxAllocator
import IwlwifiStack.FlowQueueModel
import IwlwifiStack.FlowQueueInvariant
import IwlwifiStack.FlowQueueRemoval
import IwlwifiStack.FlowQueueRelease
import IwlwifiStack.FlowQueueCalls
import IwlwifiStack.FlowQueueEnqueue
import IwlwifiStack.FlowQueueAccounting
import IwlwifiStack.TxqHandOff
import IwlwifiStack.TxqPointers
import IwlwifiStack.CommandQueueModel
import IwlwifiStack.CommandQueuePointers
import IwlwifiStack.CommandQueueBuffers
import IwlwifiStack.TxQueueModel
import IwlwifiStack.TxQueueOrder
import IwlwifiStack.TxFragmentModel
import IwlwifiStack.FragmentRoundTrip
import IwlwifiStack.S1gTimModel
import IwlwifiStack.S1gTimBlocks
import IwlwifiStack.S1gTimWalk
import IwlwifiStack.S1gTimEncode
import IwlwifiStack.S1gTimDecode
import IwlwifiStack.ListChunks
import IwlwifiStack.TsoModel
import IwlwifiStack.TsoSegments
import IwlwifiStack.TagLengthValue
import IwlwifiStack.ElementSizes
import IwlwifiStack.ElementParseModel
import IwlwifiStack.ElementProfiles
import IwlwifiStack.ElementPass
import IwlwifiStack.ElementLibrary
import IwlwifiStack.EmbeddedProfile
import IwlwifiStack.MultiLinkOrigin
import IwlwifiStack.ElementInheritance
import IwlwifiStack.EhtInheritance
import IwlwifiStack.TtlmModel
import IwlwifiStack.TtlmElements
import IwlwifiStack.TtlmRoundTrip
import IwlwifiStack.WrapDetection
import IwlwifiStack.PtpModel
import IwlwifiStack.PtpClock
import IwlwifiStack.FirmwareTlvModel
import IwlwifiStack.FirmwareTlvParse
import IwlwifiStack.ListSums
import IwlwifiStack.PsBufferModel
import IwlwifiStack.PsBufferAccounting
import IwlwifiStack.PsBufferLimit
import IwlwifiStack.RocModel
import IwlwifiStack.RocAccounting
import IwlwifiStack.RocOrder
import IwlwifiStack.RocSteps
import IwlwifiStack.RocQueue
import IwlwifiStack.RocCancellation
import IwlwifiStack.TaskPool
import IwlwifiStack.WakeTxqsModel
import IwlwifiStack.WakeTxqsItems
import IwlwifiStack.WakeTxqs
import IwlwifiStack.WakeTxqsProgress
import IwlwifiStack.FlowQueueLimits
import IwlwifiStack.CodelModel
import IwlwifiStack.CodelQueue
import IwlwifiStack.DeficitRoundRobinModel
import IwlwifiStack.DeficitRoundRobin
import IwlwifiStack.DeficitRotation
import IwlwifiStack.DequeueFairness
import IwlwifiStack.LinkSetModel
import IwlwifiStack.LinkSet
import IwlwifiStack.LinkSetAtomic
import IwlwifiStack.LinkSetRestore
import IwlwifiStack.LinkSetRuns
import IwlwifiStack.ProtectedEhtModel
import IwlwifiStack.ProtectedEhtDialogs
import IwlwifiStack.ProtectedEhtAnswers
import IwlwifiStack.ActiveLinksModel
import IwlwifiStack.ApRemovalModel
import IwlwifiStack.ApRemovalProfiles
import IwlwifiStack.ApRemovalBeacon
import IwlwifiStack.ApRemovalRuns
import IwlwifiStack.StaAggregates
import IwlwifiStack.TxPowerEnvelope
import IwlwifiStack.ElementOccurrences
import IwlwifiStack.ElementOutcome
import IwlwifiStack.TimRoundTrip
import IwlwifiStack.TxQueueRing
import IwlwifiStack.TxQueueReclaim
import IwlwifiStack.MultiLinkAccess
import IwlwifiStack.CrossLinkModel
import IwlwifiStack.CrossLinkProfiles
import IwlwifiStack.CrossLinkCsa
import IwlwifiStack.AirtimeModel
import IwlwifiStack.AirtimeOverflow
import IwlwifiStack.CommandLayoutModel
import IwlwifiStack.CommandLayout
import IwlwifiStack.ServicePeriodModel
import IwlwifiStack.ServicePeriodQueues
import IwlwifiStack.ServicePeriod
import IwlwifiStack.WindowSchedule
import IwlwifiStack.NoaModel
import IwlwifiStack.NoaDescriptors
import IwlwifiStack.NoaUpdate
import IwlwifiStack.NoaRuns
import IwlwifiStack.PairGrade
import IwlwifiStack.FragmentLength
import IwlwifiStack.BaidBookkeeping
import IwlwifiStack.NextTxqModel
import IwlwifiStack.NextTxq
import IwlwifiStack.RunMerging
import IwlwifiStack.RegDomainModel
import IwlwifiStack.RegDomain
import IwlwifiStack.PnvmModel
import IwlwifiStack.PnvmTlvs
import IwlwifiStack.PnvmSections
import IwlwifiStack.Pnvm
import IwlwifiStack.TpeRearrangeModel
import IwlwifiStack.TpeOffset
import IwlwifiStack.TpeRearrange
import IwlwifiStack.AqlModel
import IwlwifiStack.AqlBalance
import IwlwifiStack.KeyHardware
import IwlwifiStack.KeySlots
import IwlwifiStack.KeyLedger
import IwlwifiStack.KeyOperations
import IwlwifiStack.KeyInstall
import IwlwifiStack.KeyLinks
import IwlwifiStack.KeyActiveLinks
import IwlwifiStack.KeyStations
import IwlwifiStack.KeyRestart
import IwlwifiStack.KeyRuns
import IwlwifiStack.TxBlockAckModel
import IwlwifiStack.TxBlockAckSteps
import IwlwifiStack.TxBlockAckSafety
import IwlwifiStack.TxBlockAckStopFlag
import IwlwifiStack.ScanRuns
import IwlwifiStack.ConnectionSilence
