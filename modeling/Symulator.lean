import Symulator.Library.LockTable
import Symulator.Srk.LockAgreement
import Symulator.Interlocking.SwitchThrow
import Symulator.Interlocking.RequestCoverage
import Symulator.Interlocking.SignalLock
import Symulator.Interlocking.SwitchLock
import Symulator.Interlocking.DerailerLock
import Symulator.Interlocking.RoundTrip
import Symulator.Interlocking.ProceedAspect
import Symulator.Interlocking.RouteExclusion
import Symulator.Interlocking.RouteIdentity
import Symulator.Interlocking.Drivable
import Symulator.Interlocking.AxleReset
import Symulator.Interlocking.BlockDirection
import Symulator.Interlocking.BlockRelease
import Symulator.Interlocking.Inhibitions
import Symulator.Interlocking.TwoStep
import Symulator.Interlocking.OverlapRelease
import Symulator.Engine.TrainMoves
import Symulator.Trains.Occupancy
import Symulator.Interlocking.TrainEntry
import Symulator.Trains.TrainTail
import Symulator.Validation.Layer2Validator
import Symulator.Interlocking.FlankProtection
import Symulator.Library.LittleEndian
import Symulator.Library.StreamReader
import Symulator.Server.Frame
import Symulator.Server.SnapshotDelivery
import Symulator.Srk.ChangeReport
import Symulator.Server.DispatchBus
import Symulator.Server.SnapshotService
import Symulator.Server.SnapshotCursor
import Symulator.Server.ClientMirror
import Symulator.Interlocking.RouteOverTrain
import Symulator.Trains.FacingSignals
import Symulator.Validation.Layer1Validator
import Symulator.Trains.KnownTrack
import Symulator.Server.Terminal
import Symulator.Server.TrainIdentity
import Symulator.Interlocking.CommandedThrow
import Symulator.Library.WordTrace
import Symulator.Server.DispatchExchangeManager
import Symulator.Server.ExchangeTrace
import Symulator.Server.ExchangeTrain
import Symulator.Server.DispatchCoordinator
import Symulator.Server.DispatchChannel
import Symulator.Server.LineClear
import Symulator.Server.TerminalSession
import Symulator.Engine.PipEvents
import Symulator.Library.Json
import Symulator.Server.PipWriter
import Symulator.Server.ClientSession
import Symulator.Server.Segmentation
import Symulator.Server.RejectionNotices
import Symulator.Engine.JsonLoader
import Symulator.Validation.JsonValidators
import Symulator.Validation.ScenarioLoads
import Symulator.Interlocking.ResetCount
import Symulator.Srk.IndependentCommands
import Symulator.Library.ShortestSearch
import Symulator.Interlocking.ShortestRoute
import Symulator.Library.StableSort
import Symulator.Srk.PriorityDrain
import Symulator.Trains.Onward
import Symulator.Trains.SpawnAtBoundary
import Symulator.Physics.DriverAi
import Symulator.Library.BrakingRoom
import Symulator.Physics.StopSignal
import Symulator.Physics.Odometer
import Symulator.Library.Aggregates
import Symulator.Fleet.Aggregations
import Symulator.Fleet.WellFormed
import Symulator.Fleet.FleetFields
import Symulator.Fleet.FleetRegistry
import Symulator.Fleet.Coupling
import Symulator.Fleet.LoadedFleet
import Symulator.Library.ReflectedCrc
import Symulator.Server.FrameIntegrity
import Symulator.Server.ReadBuffer
import Symulator.Server.ExchangeUid
import Symulator.Library.Enumeration
import Symulator.Server.CommandIngress
import Symulator.Library.CyclicOrder
import Symulator.Tools.UidGenerator
import Symulator.Srk.LevelCrossings
import Symulator.Library.Polyline
import Symulator.Trackview.Layout
import Symulator.Trackview.PathAttachment
import Symulator.Trackview.LayoutRenders
import Symulator.Validation.TotalValidators
import Symulator.Library.Overwrite
import Symulator.Tools.JsonLoader
import Symulator.Tools.EditorPersistence
import Symulator.Tools.EditorSaves
import Symulator.Library.Traces
import Symulator.Interlocking.MovingSwitches
import Symulator.Server.EventLog
import Symulator.Library.Executor
import Symulator.Server.TransportGateway
import Symulator.Server.SessionHistory
import Symulator.Server.SocketWrites
import Symulator.Server.GatewayDelivery
import Symulator.Server.ChannelSilence
import Symulator.Server.GatewayHalts
import Symulator.Library.Replay
import Symulator.Server.SessionServer
import Symulator.Server.ServerTicks
import Symulator.Server.CommandOrder
import Symulator.Server.EventDelivery
import Symulator.Server.ClientReader
import Symulator.Server.ClientCatchUp
import Symulator.Server.CommandVerdicts
import Symulator.Server.CommandWaiting
import Symulator.Server.RouteLog
import Symulator.Server.ServerTerminal
import Symulator.Server.PgDatabase
import Symulator.Server.TelegramJournal
import Symulator.Trackview.LiveTrackview
import Symulator.Server.ServerShutdown
import Symulator.Library.WaitingQueue
import Symulator.Engine.BlockingQueues
import Symulator.Library.JsonSchema
import Symulator.Trackview.JsonLayoutReader
