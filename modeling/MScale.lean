import MScale.HDaemonReplies
import MScale.HAnalyserReplies
import MScale.ScannerBestRate
import MScale.ScannerThreshold
import MScale.ScannerMaxRate
import MScale.ScannerNoise
import MScale.BoundaryCache
import MScale.BoundaryMemory
import MScale.HydraGroupMembers
import MScale.HydraGroupShares
import MScale.HydraUnresponsive
import MScale.HydraGroupDraws
import MScale.HydraGroupKills
import MScale.HydraScaling
import MScale.HydraDeletion
import MScale.HydraInstanceKeys
import MScale.HydraMemCpuStats
import MScale.HydraFetchStats
import MScale.RunTestZMQSelection
import MScale.RunTestRMQLaunches
import MScale.MockPorts
import MScale.KafkaPub
import MScale.PublisherPacing
import MScale.ZmqPubTests
import MScale.ZmqPubBatches
import MScale.ZmqPubCommands
import MScale.HDZmqpRepSrvTests
import MScale.SubscriberRates
import MScale.SubscriberReconnects
import MScale.MessageStream
import MScale.MarathonScaleApp
import MScale.MarathonDeletion
import MScale.RunSuitMemory
import MScale.ReportedLoss
import MScale.TestSetUp
