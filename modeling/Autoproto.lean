import Autoproto.AuthManagerPassword
import Autoproto.UpdateSync
import Autoproto.SequenceDispatcher
import Autoproto.StoreLinearizability
import Autoproto.SessionUnknownQueries
import Autoproto.PublicClientCallbacks
import Autoproto.PublicClientSubmissions
import Autoproto.PublicClientStop
import Autoproto.TransportRoundTrip
import Autoproto.DhCache
import Autoproto.HandshakeSafety
import Autoproto.PqFactorize
import Autoproto.SessionBoundKeys
import Autoproto.LinkedNewSession
import Autoproto.ConnectionFailures
import Autoproto.ConnectionLoop
import Autoproto.DcAuthManager
import Autoproto.ProxyRestart
import Autoproto.DcInitialization
import Autoproto.GetHostByNameActor
import Autoproto.MpscPollableQueue
import Autoproto.TlSerialization
import Autoproto.FindBoundary
import Autoproto.Utf16
import Autoproto.HttpTransport
import Autoproto.FlatHashTableRuns
import Autoproto.VectorQueue
import Autoproto.AesIge
import Autoproto.StringBuilder
