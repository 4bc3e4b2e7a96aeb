import OpenEventIm.Syncer.StartupCut
import OpenEventIm.Syncer.PublishRetry
import OpenEventIm.Sdk.MessageReading
import OpenEventIm.Syncer.ProviderMessages
import OpenEventIm.Syncer.Processor
import OpenEventIm.Syncer.PollEvents
import OpenEventIm.Syncer.LogReading
import OpenEventIm.Syncer.LogConsumption
import OpenEventIm.Foundation.Transcripts
import OpenEventIm.Service.Outcomes
import OpenEventIm.Syncer.PublishOutcomes
import OpenEventIm.Syncer.DegradedRecord
import OpenEventIm.Syncer.HandoffStatements
import OpenEventIm.Syncer.ProviderDelivery
import OpenEventIm.Syncer.SessionDelivery
import OpenEventIm.Syncer.Watermark
import OpenEventIm.Syncer.PendingQueue
import OpenEventIm.Syncer.DeclarativeMeaning
import OpenEventIm.Foundation.JsonEquality
import OpenEventIm.Sdk.PublishNumbers
import OpenEventIm.Syncer.TickOutcomes
import OpenEventIm.Syncer.TickRuns
import OpenEventIm.Syncer.TickStatements
import OpenEventIm.Syncer.PullerTurns
import OpenEventIm.Syncer.RoundRobin
import OpenEventIm.Syncer.SessionIsolation
import OpenEventIm.Foundation.IntegerReading
import OpenEventIm.Syncer.LarkMessages
import OpenEventIm.Syncer.LarkSenderRules
import OpenEventIm.Syncer.LiveStream
import OpenEventIm.Foundation.PendingCalls
import OpenEventIm.Syncer.Worker
import OpenEventIm.Syncer.WorkerLedger
import OpenEventIm.Syncer.WorkerMemory
import OpenEventIm.Syncer.WorkerMessages
import OpenEventIm.Syncer.WorkerCalls
import OpenEventIm.Syncer.WorkerTicks
import OpenEventIm.Syncer.WorkerGuards
import OpenEventIm.Syncer.WorkerRuns
import OpenEventIm.Syncer.ChannelOrder
import OpenEventIm.Syncer.AtMostOnce
import OpenEventIm.Foundation.GivenAnswers
import OpenEventIm.Syncer.EventProvenance
import OpenEventIm.Syncer.RecordAssociation
import OpenEventIm.Sdk.ReconciliationScan
import OpenEventIm.Foundation.LabelledPaths
import OpenEventIm.Syncer.SessionRuns
import OpenEventIm.Syncer.EventConservation
import OpenEventIm.Syncer.HistoryFailures
import OpenEventIm.Syncer.HistoryWindows
import OpenEventIm.Syncer.Config
import OpenEventIm.Syncer.MappingAcceptance
import OpenEventIm.Syncer.MappingQueries
import OpenEventIm.Syncer.RecoverySimulation
import OpenEventIm.Foundation.Sha256
import OpenEventIm.Syncer.LarkCalls
import OpenEventIm.Syncer.LarkDelivery
import OpenEventIm.Foundation.Simulations
import OpenEventIm.Syncer.DeliveringWorld
import OpenEventIm.Syncer.GaplessLog
import OpenEventIm.Syncer.GaplessRuns
import OpenEventIm.Foundation.SignatureSums
import OpenEventIm.Foundation.WeakSimulations
import OpenEventIm.Syncer.ChannelValidation
import OpenEventIm.Syncer.LarkPulling
import OpenEventIm.Foundation.BoundedWaiting
import OpenEventIm.Syncer.TickFairness
import OpenEventIm.Syncer.RequestLiveness
