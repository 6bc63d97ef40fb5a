import NetPlayer.RangeCache.AbandonedRemoval
import NetPlayer.RangeCache.FlightInterest
import NetPlayer.RangeCache.Flights
import NetPlayer.RangeCache.TotalLength
import NetPlayer.RangeCache.FullGetRecovery
import NetPlayer.Cdn.HistoryWriter
import NetPlayer.Cdn.Ranking
import NetPlayer.Fill.CancelledWork
import NetPlayer.Fill.Conservation
import NetPlayer.Hls.PolicyFence
import NetPlayer.Hls.RefreshRuns
import NetPlayer.Tasks.Watchers
import NetPlayer.Outputs.Limits
import NetPlayer.Resolver.RouteMemoryFile
import NetPlayer.Resolver.RouteRuns
import NetPlayer.Resolver.HealthHistory
import NetPlayer.Downloads.Accounting
import NetPlayer.Client.TaskViewRuns
import NetPlayer.Downloads.PublicationRuns
import NetPlayer.RangeCache.ManifestCreation
import NetPlayer.Client.RangeSelection
import NetPlayer.Paging.CollectionListing
import NetPlayer.Paging.RefusedFirstPages
import NetPlayer.Listing.LibraryPages
import NetPlayer.Hls.PendingCleanupRuns
import NetPlayer.Client.LoginPollerRuns
import NetPlayer.Client.CacheLibraryRuns
import NetPlayer.Client.TaskFlagRuns
import NetPlayer.Outputs.Binding
import NetPlayer.Outputs.Deletions
import NetPlayer.RangeCache.LeaseLedger
import NetPlayer.Tasks.FillStatus
import NetPlayer.Login.BrowserCommit
import NetPlayer.Eviction.PassSafety
import NetPlayer.Credentials.BindingRuns
import NetPlayer.Segments.FragmentDurations
import NetPlayer.Segments.InitializationLength
import NetPlayer.Media.ByteRanges
import NetPlayer.Hls.ResourceFileNames
import NetPlayer.RangeCache.RebaseDiagnosis
import NetPlayer.RangeCache.ForegroundChunks
import NetPlayer.RangeCache.CdnSamples
import NetPlayer.Paging.AcceptedSelections
