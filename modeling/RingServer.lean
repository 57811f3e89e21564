import RingServer.Library.ColorTree
import RingServer.Library.Bytes
import RingServer.Library.Window
import RingServer.Types.RBTree
import RingServer.Types.RBTreeHeap
import RingServer.Types.RBTreeRotate
import RingServer.Types.RBTreeInsert
import RingServer.Types.RBTreeSearch
import RingServer.Types.RBTreeDelete
import RingServer.Types.RBTreeUnlink
import RingServer.Types.RBTreeMap
import RingServer.Types.RBTreeWalk
import RingServer.Ring.RingTypes
import RingServer.Ring.RingBuffer
import RingServer.Ring.Journal
import RingServer.Ring.Write
import RingServer.Ring.RingFile
import RingServer.Ring.Run
import RingServer.Ring.Resident
import RingServer.Ring.Initialize
import RingServer.Ring.StreamIndex
import RingServer.Ring.Search
import RingServer.Ring.Follow
import RingServer.Ring.Deliver
import RingServer.Ring.Session
import RingServer.Ring.StreamFile
import RingServer.Ring.Restart
import RingServer.Ring.Lifetime
import RingServer.Ring.ShutdownAtomic
import RingServer.Library.Text
import RingServer.Protocols.Text
import RingServer.Protocols.DataLinkCommand
import RingServer.Protocols.DataLinkProtocol
import RingServer.Ring.Filters
import RingServer.Ring.Keep
import RingServer.Ring.KeepRead
import RingServer.Protocols.DataLinkSteps
import RingServer.Protocols.DataLinkFrames
import RingServer.Protocols.DataLinkServe
import RingServer.Protocols.DataLinkIds
import RingServer.Protocols.StreamId
import RingServer.Protocols.DataLinkRoundTrip
import RingServer.Protocols.SeedLinkCommand
import RingServer.Protocols.SeedLinkProtocol
import RingServer.Protocols.SeedLinkStream
import RingServer.Ring.KeepSeek
import RingServer.Protocols.SeedLinkPlace
import RingServer.Protocols.SeedLinkReady
import RingServer.Ring.KeepFollow
import RingServer.Ring.KeepRun
import RingServer.Protocols.SeedLinkFrame
import RingServer.Protocols.SeedLinkDelivery
import RingServer.Protocols.SeedLinkResume
import RingServer.Library.Service
import RingServer.Library.Settings
import RingServer.Net.ClientHandler
import RingServer.Net.Framing
import RingServer.Net.FramingRun
import RingServer.Protocols.DataLinkFraming
import RingServer.Net.Detection
import RingServer.Mseed.MseedArchive
import RingServer.Mseed.WriteQueue
import RingServer.Mseed.Partitions
import RingServer.Mseed.Retention
import RingServer.Net.ByteByByte
import RingServer.Net.OneLine
import RingServer.Protocols.HttpProtocol
import RingServer.Protocols.HttpRequests
import RingServer.Library.Wildcard
import RingServer.Library.Paging
import RingServer.Mseed.ArchiveQuery
import RingServer.Protocols.SeedLinkArchive
import RingServer.Ring.KeepNext
import RingServer.Protocols.SeedLinkWindow
import RingServer.Ring.KeepAfter
import RingServer.Protocols.SeedLinkHandOver
import RingServer.Config.IPNet
import RingServer.Config.ServerConfig
import RingServer.Config.Reload
import RingServer.Config.CommandLine
import RingServer.Net.ClientLimits
import RingServer.Net.IdleTimeout
import RingServer.Net.TransferCounts
import RingServer.Protocols.SourceCodes
import RingServer.Ring.KeepSentinel
import RingServer.Ring.KeepAfterTime
import RingServer.Ring.KeepReverse
import RingServer.Ring.KeepAfterRev
import RingServer.Protocols.DataLinkPosition
import RingServer.Protocols.RunInner
import RingServer.Protocols.WriteAccess
import RingServer.Protocols.SeedLinkInfo
import RingServer.Protocols.WrittenId
import RingServer.Protocols.SeedLinkDecode
import RingServer.Protocols.SeedLinkSame
import RingServer.Config.IPMatch
import RingServer.Protocols.SeedLinkTimes
import RingServer.Ring.SizeChecks
import RingServer.Ring.WriteSize
import RingServer.Library.Rescan
import RingServer.Ring.Attached
import RingServer.Ring.ScanEnds
import RingServer.Protocols.DataLinkRead
import RingServer.Net.PartialSends
import RingServer.Protocols.SeedLinkTimeOrder
import RingServer.Library.Paths
import RingServer.Protocols.HttpFiles
import RingServer.Library.Grouping
import RingServer.Library.Xml
import RingServer.Protocols.InfoXml
import RingServer.Protocols.InfoListing
import RingServer.Protocols.InfoEscaped
import RingServer.Protocols.InfoFaithful
import RingServer.Protocols.ServerRun
import RingServer.Program.Startup
import RingServer.Program.Watchdog
import RingServer.Program.Shutdown
import RingServer.Library.Regex
import RingServer.Library.RegexSyntax
import RingServer.Protocols.StreamRegex
import RingServer.Protocols.SeedLinkSelection
import RingServer.Protocols.StreamPaths
import RingServer.Protocols.ArchiveFeed
import RingServer.Protocols.DataLinkSelection
import RingServer.Library.Lines
import RingServer.Protocols.HttpWire
import RingServer.Protocols.Catalog
import RingServer.Program.LogWindows
import RingServer.Library.Stamp
import RingServer.Protocols.IsoTimes
