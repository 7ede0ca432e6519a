import PhantomMonitor.Agent.GatherMetric
import PhantomMonitor.Agent.GathererThreads
import PhantomMonitor.Agent.PluginDiscover
import PhantomMonitor.Agent.Proofs.Bulks
import PhantomMonitor.Agent.Proofs.GatherBuffers
import PhantomMonitor.Agent.Proofs.GathererThreads
import PhantomMonitor.Agent.Proofs.Hooks
import PhantomMonitor.Agent.Proofs.Intervals
import PhantomMonitor.Agent.Proofs.PublishedSamples
import PhantomMonitor.Agent.Proofs.Shutdown
import PhantomMonitor.Agent.Proofs.ThreadEnds
import PhantomMonitor.Agent.Proofs.ValueBuffers
import PhantomMonitor.Agent.Shutdown
import PhantomMonitor.Agent.Timings
import PhantomMonitor.Agent.ValueSites
import PhantomMonitor.Api.ConfigParameters
import PhantomMonitor.Api.CpuFreq
import PhantomMonitor.Api.DiskMonitor
import PhantomMonitor.Api.MfSend
import PhantomMonitor.Api.MonitorFiles
import PhantomMonitor.Api.MonitorThreads
import PhantomMonitor.Api.PidFiles
import PhantomMonitor.Api.PowerMonitor
import PhantomMonitor.Api.Proofs.CancelledWrites
import PhantomMonitor.Api.Proofs.DeleteAfterDelivery
import PhantomMonitor.Api.Proofs.DiskTotals
import PhantomMonitor.Api.Proofs.FrequencyEnergy
import PhantomMonitor.Api.Proofs.IoReaders
import PhantomMonitor.Api.Proofs.MonitorThreads
import PhantomMonitor.Api.Proofs.ParameterDecoding
import PhantomMonitor.Api.Proofs.ParameterErrors
import PhantomMonitor.Api.Proofs.ParameterTexts
import PhantomMonitor.Api.Proofs.PowerWindows
import PhantomMonitor.Api.Proofs.PreparedSession
import PhantomMonitor.Api.Proofs.ProcessTime
import PhantomMonitor.Api.Proofs.ResourceRates
import PhantomMonitor.Api.Proofs.ResourcesFile
import PhantomMonitor.Api.Proofs.SentRecords
import PhantomMonitor.Api.Proofs.SessionDelivery
import PhantomMonitor.Api.Proofs.SessionEnds
import PhantomMonitor.Api.Proofs.SessionInvariant
import PhantomMonitor.Api.Proofs.StreamBalance
import PhantomMonitor.Api.Proofs.ThreadLifecycle
import PhantomMonitor.Api.Proofs.UserMetrics
import PhantomMonitor.Api.ResourcesMonitor
import PhantomMonitor.Api.Session
import PhantomMonitor.Misc.Average
import PhantomMonitor.Misc.Batching
import PhantomMonitor.Misc.CText
import PhantomMonitor.Misc.Conversions
import PhantomMonitor.Misc.Counter
import PhantomMonitor.Misc.Decimal
import PhantomMonitor.Misc.Emissions
import PhantomMonitor.Misc.Fifo
import PhantomMonitor.Misc.FloatValue
import PhantomMonitor.Misc.HashTable
import PhantomMonitor.Misc.Json
import PhantomMonitor.Misc.KeyedLines
import PhantomMonitor.Misc.Numeral
import PhantomMonitor.Misc.Runs
import PhantomMonitor.Misc.Scanf
import PhantomMonitor.Misc.Search
import PhantomMonitor.Misc.Steps
import PhantomMonitor.Misc.Streams
import PhantomMonitor.Misc.Table
import PhantomMonitor.Parser.Ini
import PhantomMonitor.Parser.MfParser
import PhantomMonitor.Parser.Proofs.ConfigStore
import PhantomMonitor.Parser.Proofs.IniDocuments
import PhantomMonitor.Parser.Proofs.Lookups
import PhantomMonitor.Parser.Proofs.Pools
import PhantomMonitor.Plugins.BoardPower
import PhantomMonitor.Plugins.CPUPerf
import PhantomMonitor.Plugins.CPUTemperature
import PhantomMonitor.Plugins.LinuxResources
import PhantomMonitor.Plugins.LinuxSysPower
import PhantomMonitor.Plugins.NVML
import PhantomMonitor.Plugins.PluginHooks
import PhantomMonitor.Plugins.PluginUtils
import PhantomMonitor.Plugins.ProcFiles
import PhantomMonitor.Plugins.ProcStats
import PhantomMonitor.Plugins.Proofs.BoardFailures
import PhantomMonitor.Plugins.Proofs.BoardMean
import PhantomMonitor.Plugins.Proofs.CPUPerfAgree
import PhantomMonitor.Plugins.Proofs.CPUPerfTable
import PhantomMonitor.Plugins.Proofs.CPUPerfWindows
import PhantomMonitor.Plugins.Proofs.CpuUsage
import PhantomMonitor.Plugins.Proofs.EventBounds
import PhantomMonitor.Plugins.Proofs.MemoryUsage
import PhantomMonitor.Plugins.Proofs.NVMLReports
import PhantomMonitor.Plugins.Proofs.NetTotals
import PhantomMonitor.Plugins.Proofs.PluginNames
import PhantomMonitor.Plugins.Proofs.PluginTexts
import PhantomMonitor.Plugins.Proofs.PowerEnergy
import PhantomMonitor.Plugins.Proofs.PowerFailures
import PhantomMonitor.Plugins.Proofs.PowerMeter
import PhantomMonitor.Plugins.Proofs.PowerParts
import PhantomMonitor.Plugins.Proofs.PowerReports
import PhantomMonitor.Plugins.Proofs.RAPLEnergy
import PhantomMonitor.Plugins.Proofs.RAPLLoop
import PhantomMonitor.Plugins.Proofs.RAPLTable
import PhantomMonitor.Plugins.Proofs.ResourcesTable
import PhantomMonitor.Plugins.Proofs.Throughput
import PhantomMonitor.Plugins.Proofs.VanishedProcess
import PhantomMonitor.Plugins.RAPLPower
import PhantomMonitor.Publisher.Proofs.Batches
import PhantomMonitor.Publisher.Proofs.Handles
import PhantomMonitor.Publisher.Proofs.MessageBounds
import PhantomMonitor.Publisher.Proofs.PublishFile
import PhantomMonitor.Publisher.Proofs.StreamData
import PhantomMonitor.Publisher.Publisher
