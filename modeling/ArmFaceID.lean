import ArmFaceID.Library.Machine
import ArmFaceID.Library.RunningMax
import ArmFaceID.Library.Groups
import ArmFaceID.Library.OneShotFlag
import ArmFaceID.Client.RequestGating
import ArmFaceID.Server.RegistrationReport
import ArmFaceID.Server.CacheCoherence
import ArmFaceID.Server.RegisterRpc
import ArmFaceID.Server.ConcurrentRegister
import ArmFaceID.Server.CacheReload
import ArmFaceID.Server.RegisterQueue
import ArmFaceID.Server.NextRegisterUser
import ArmFaceID.Server.RegisterButton
import ArmFaceID.Server.FrameBuffers
import ArmFaceID.Library.FirstBest
import ArmFaceID.Server.BestUser
import ArmFaceID.Server.UniquePersons
import ArmFaceID.Server.NewUser
import ArmFaceID.Server.WorkerTrace
import ArmFaceID.Client.FailedRpc
import ArmFaceID.Client.LoopControl
import ArmFaceID.Server.ThreadControl
import ArmFaceID.Library.LockedCalls
import ArmFaceID.Server.EngineCalls
import ArmFaceID.Server.Startup
import ArmFaceID.Library.NameRegistry
import ArmFaceID.Server.DbConnections
import ArmFaceID.Library.Raster
import ArmFaceID.Utils.Convert
import ArmFaceID.Utils.RoundTrips
import ArmFaceID.Utils.SharedPixels
import ArmFaceID.Library.IndexRemoval
import ArmFaceID.Server.DeleteSelection
import ArmFaceID.Library.Subscribers
import ArmFaceID.Utils.Observers
import ArmFaceID.Server.BadRows
import ArmFaceID.Server.RecognizeFace
import ArmFaceID.Server.RecognizeRpc
import ArmFaceID.Server.SqlQuery
import ArmFaceID.Server.UserStore
import ArmFaceID.Server.UserLookup
import ArmFaceID.Client.LoopFrames
import ArmFaceID.Library.RemoteCall
import ArmFaceID.Network.Recognition
import ArmFaceID.Library.FreshKeys
import ArmFaceID.Server.StoredUsers
import ArmFaceID.Server.Greeting
import ArmFaceID.Server.DetectorThreads
import ArmFaceID.Library.LockProgress
import ArmFaceID.Server.EngineProgress
import ArmFaceID.Server.RegisterMessages
import ArmFaceID.Library.Replica
import ArmFaceID.Server.Sessions
import ArmFaceID.Gui.Preview
import ArmFaceID.Server.Program
import ArmFaceID.Server.ProgramSessions
import ArmFaceID.Library.Settling
import ArmFaceID.Server.Settling
import ArmFaceID.Library.Simulation
import ArmFaceID.Server.Parts
