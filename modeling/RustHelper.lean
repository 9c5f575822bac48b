import RustHelper.EffectProgram
import RustHelper.FallibleProgram
import RustHelper.LockInterleaving
import RustHelper.ByteBlocks
import RustHelper.RingSegments
import RustHelper.SdkTypes
import RustHelper.Crates
import RustHelper.ServiceEffects
import RustHelper.IndexLoops
import RustHelper.WireKeys
import RustHelper.CheckedSlices
import RustHelper.DexAccounts
import RustHelper.DexAccountFormat
import RustHelper.DexQueues
import RustHelper.Rpcnb
import RustHelper.TokenAccounts
import RustHelper.InOutProgram
import RustHelper.PermittedRuns
import RustHelper.MarketKeys
import RustHelper.SerumClient
import RustHelper.ReferenceCrates
import RustHelper.OpenOrdersSlot
import RustHelper.Broadcast
import RustHelper.KeypairCodec
import RustHelper.NewOrder
import RustHelper.DexHandlers
import RustHelper.MonitorQueue
import RustHelper.LockDiscipline
import RustHelper.DeadlockFreedom
import RustHelper.BroadcastHistories
import RustHelper.BroadcastRuns
import RustHelper.BroadcastGuarantees
import RustHelper.BroadcastReports
import RustHelper.BroadcastResponse
import RustHelper.SmallestDistinct
import RustHelper.EventCrank
import RustHelper.MarketNaming
import RustHelper.DecodingSafety
import RustHelper.ExactSigning
import RustHelper.MarketListing
import RustHelper.ByteFields
import RustHelper.TokenInstruction
import RustHelper.TokenInstructionCodec
import RustHelper.TokenInstructionAccounts
import RustHelper.WarrantedEvents
import RustHelper.ServiceResponses
import RustHelper.ServiceWarrants
import RustHelper.BuilderWarrants
import RustHelper.RequestReading
import RustHelper.RequestGrants
import RustHelper.HandlerWarrants
import RustHelper.RequestProvenance
import RustHelper.TaskHistories
import RustHelper.ServedRuns
import RustHelper.SelfBlocking
import RustHelper.ServerProgress
import RustHelper.LabelledHistories
import RustHelper.MonitorStreams
import RustHelper.BroadcastDeadline
import RustHelper.RequestIntents
import RustHelper.IntentBuilders
import RustHelper.IntentHandlers
import RustHelper.ServedIntents
import RustHelper.FatalEvents
import RustHelper.FatalAnswers
import RustHelper.FatalBuilders
import RustHelper.FatalHandlers
import RustHelper.GuardedCell
import RustHelper.SlotHeight
