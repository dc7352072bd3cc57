import Caffeine.Library.Machine
import Caffeine.Library.Publication
import Caffeine.Library.Json
import Caffeine.Library.Memory
import Caffeine.Library.Chunking
import Caffeine.Library.Noninterference
import Caffeine.Library.MachineInt
import Caffeine.Library.Thinning
import Caffeine.Library.Utf8
import Caffeine.Library.Members
import Caffeine.Library.ChangeDetection
import Caffeine.Library.Graphql
import Caffeine.Types
import Caffeine.Policy
import Caffeine.Http
import Caffeine.Serialization
import Caffeine.CaffQL
import Caffeine.Operations
import Caffeine.StageServer
import Caffeine.RestApi
import Caffeine.RestApiReturns
import Caffeine.RefreshRecursion
import Caffeine.AuthorizedRequests
import Caffeine.SharedRequests
import Caffeine.AmongOthers
import Caffeine.Instance
import Caffeine.Authentication
import Caffeine.SlotAfterFailure
import Caffeine.Broadcast
import Caffeine.AddFeed
import Caffeine.BroadcastMoves
import Caffeine.BroadcastState
import Caffeine.BroadcastRegions
import Caffeine.GoingLive
import Caffeine.StageLeftLive
import Caffeine.NoSilentEnd
import Caffeine.Heartbeats
import Caffeine.SourceQuality
import Caffeine.Stopping
import Caffeine.LostConnection
import Caffeine.Requests
import Caffeine.GraphqlRequests
import Caffeine.RequestAnswers
import Caffeine.NetworkRuns
import Caffeine.Negotiation
import Caffeine.Negotiated
import Caffeine.StageUpdates
import Caffeine.Takeovers
import Caffeine.Realtime
import Caffeine.StageMessages
import Caffeine.RealtimeMoves
import Caffeine.SubscriptionAfterStop
import Caffeine.Reconnects
import Caffeine.OrphanedConnections
import Caffeine.LastReference
import Caffeine.Backoff
import Caffeine.CredentialLifetime
import Caffeine.Updates
import Caffeine.TitleUpdates
import Caffeine.GameUpdates
import Caffeine.Dispatch
import Caffeine.Shutdown
import Caffeine.Teardown
import Caffeine.AtRest
import Caffeine.FailureTasks
import Caffeine.Callbacks
import Caffeine.Fragmentize
import Caffeine.X264Encoder
import Caffeine.EncodedBuffer
import Caffeine.PictureOwnership
import Caffeine.TargetFramerate
import Caffeine.AudioDevice
import Caffeine.AudioIsolation
import Caffeine.StoredToken
import Caffeine.CredentialRefresh
import Caffeine.Instances
import Caffeine.VideoCapturer
import Caffeine.VideoSize
import Caffeine.FrameSizes
import Caffeine.UnscaledFrames
import Caffeine.TargetOverflow
import Caffeine.RateLimiter
import Caffeine.AnnotatedTitle
import Caffeine.WebrtcStats
import Caffeine.RepeatedSetters
import Caffeine.ResizePath
