import RoutePlanner.Number.Binary
import RoutePlanner.Number.Shortest
import RoutePlanner.Number.Text
import RoutePlanner.Number.Read
import RoutePlanner.Number.Arith
import RoutePlanner.Json.Value
import RoutePlanner.Json.Print
import RoutePlanner.Json.Parse
import RoutePlanner.Json.Decode
import RoutePlanner.Json.Stream
import RoutePlanner.Validation.Issue
import RoutePlanner.Geo.Coordinates
import RoutePlanner.Geo.Distance
import RoutePlanner.Number.Fixed
import RoutePlanner.Plan.Route
import RoutePlanner.Plan.NearestNeighbor
import RoutePlanner.Geo.Features
import RoutePlanner.Plan.Drawing
import RoutePlanner.Uuid
import RoutePlanner.Optimizer.Failure
import RoutePlanner.Plan.Options
import RoutePlanner.Plan.Diagnostics
import RoutePlanner.Plan.Request
import RoutePlanner.Optimizer.Contract
import RoutePlanner.Optimizer.Wire
import RoutePlanner.Text.Blank
import RoutePlanner.Time.Instant
import RoutePlanner.Time.Read
import RoutePlanner.Hash.Sha256
import RoutePlanner.Hash.Fnv
import RoutePlanner.Plan.Digest
import RoutePlanner.Distance.Request
import RoutePlanner.Distance.Key
import RoutePlanner.Store.Keyed
import RoutePlanner.Distance.Cache
import RoutePlanner.Service.Error
import RoutePlanner.Maps.Failure
import RoutePlanner.Net.SocketAddress
import RoutePlanner.Config
import RoutePlanner.Net.Punycode
import RoutePlanner.Text.Unicode.RangeTable
import RoutePlanner.Text.Unicode.Idna
import RoutePlanner.Text.Unicode.Combining
import RoutePlanner.Text.Unicode.Decomposition
import RoutePlanner.Text.Unicode.Normalization
import RoutePlanner.Text.Unicode.BidiClass
import RoutePlanner.Text.Unicode.Mark
import RoutePlanner.Text.Unicode.Joining
import RoutePlanner.Net.Idna
import RoutePlanner.Net.Host
import RoutePlanner.Net.Url
import RoutePlanner.Remote.Exchange
import RoutePlanner.Net.Header
import RoutePlanner.Optimizer.Client
import RoutePlanner.Plan.Fallback
import RoutePlanner.Maps.DistanceMatrix
import RoutePlanner.Maps.Geocoder
import RoutePlanner.Maps.GeocodeCache
import RoutePlanner.History.Record
import RoutePlanner.History.Store
import RoutePlanner.Engine
import RoutePlanner.Text.Utf8
import RoutePlanner.Http.Form
import RoutePlanner.Net.MediaType
import RoutePlanner.Http.Target
import RoutePlanner.Http.Router
import RoutePlanner.Http.Wire
import RoutePlanner.Service.Startup
import RoutePlanner.Main
import RoutePlanner.Proofs.OptimizerCall
import RoutePlanner.Proofs.Fallback
import RoutePlanner.Proofs.InstantText
import RoutePlanner.Proofs.CacheKey
import RoutePlanner.Proofs.DistanceMatrixCall
import RoutePlanner.Proofs.DistanceLookups
import RoutePlanner.Proofs.VisitedStops
import RoutePlanner.Proofs.HistoryPages
import RoutePlanner.Proofs.SavedRoutes
import RoutePlanner.Proofs.DoubleOrder
import RoutePlanner.Proofs.NearestChoice
import RoutePlanner.Proofs.NearestTour
import RoutePlanner.Proofs.RetrySchedule
import RoutePlanner.Proofs.DoubleValue
import RoutePlanner.Proofs.RouteDrawing
import RoutePlanner.Proofs.ResolvedOptions
import RoutePlanner.Proofs.DoubleText
import RoutePlanner.Proofs.CanonicalJson
import RoutePlanner.Proofs.RequestDigest
import RoutePlanner.Proofs.GeocodeCall
import RoutePlanner.Proofs.SquareMatrix
import RoutePlanner.Proofs.IssuePaths
import RoutePlanner.Proofs.GeocodeCacheReads
import RoutePlanner.Proofs.DoubleRounding
import RoutePlanner.Proofs.DoubleArithmetic
import RoutePlanner.Proofs.PlanConsistency
import RoutePlanner.Proofs.PlanningCall
