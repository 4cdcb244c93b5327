import VsomeipTransport.CoexistenceFacts
import VsomeipTransport.ConcurrentActionsFacts
import VsomeipTransport.ConcurrentSendFacts
import VsomeipTransport.CreateAppFacts
import VsomeipTransport.DeliveryFacts
import VsomeipTransport.EngineLogFacts
import VsomeipTransport.FanOutFacts
import VsomeipTransport.FilterFacts
import VsomeipTransport.GetMessageHandlerFacts
import VsomeipTransport.LifecycleFacts
import VsomeipTransport.OfferFacts
import VsomeipTransport.PointToPointFacts
import VsomeipTransport.RegisterRollback
import VsomeipTransport.RegistryLocksFacts
import VsomeipTransport.ResponsePathFacts
import VsomeipTransport.RoundTripFacts
import VsomeipTransport.RpcNetworkFacts
import VsomeipTransport.SessionFacts
import VsomeipTransport.SessionIdFacts
import VsomeipTransport.StateHandlerPoolFacts
import VsomeipTransport.StreamerFacts
import VsomeipTransport.UnregisterAnswerFacts
import VsomeipTransport.UnregisterFacts
import VsomeipTransport.VsomeipConfig
import VsomeipTransport.VsomeipConfigFile
