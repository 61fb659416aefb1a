import AsynGyanis.Base.Base64
import AsynGyanis.Core.SchedulerPass
import AsynGyanis.Core.SemaphoreService
import AsynGyanis.Core.VectoredSendCursor
import AsynGyanis.Database.ConditionMeaning
import AsynGyanis.Database.LiteralLike
import AsynGyanis.Database.TransactionRun
import AsynGyanis.Http.CircuitBreakerRun
import AsynGyanis.Http.ContentLengthVerdicts
import AsynGyanis.Http.CookieJarRun
import AsynGyanis.Http.LineAgreement
import AsynGyanis.Http.PathSpelling
import AsynGyanis.Http.ProxyPolicy
import AsynGyanis.Http.RequestFraming
import AsynGyanis.Http.RequestHeadAgreement
import AsynGyanis.Http.ResponseFraming
import AsynGyanis.Http.StaticConfinement
import AsynGyanis.Http2.FrameRoundTrip
import AsynGyanis.Http2.HpackInteger
import AsynGyanis.Http2.ResponseBodies
import AsynGyanis.Http3.CreditRun
import AsynGyanis.Http3.DrainBoundary
import AsynGyanis.Http3.FrameReader
import AsynGyanis.Http3.OutputOrder
import AsynGyanis.Http3.QpackReplay
import AsynGyanis.Http3.RequiredInsertCount
import AsynGyanis.Http3.Submissions
import AsynGyanis.Net.ProxyFraming
import AsynGyanis.Quic.AddressValidationToken
import AsynGyanis.Quic.Codec.FrameAtomicity
import AsynGyanis.Quic.Codec.PacketNumber
import AsynGyanis.Quic.Codec.TransportParameterRules
import AsynGyanis.Quic.Connection.Amplification
import AsynGyanis.Quic.Connection.CryptoReliability
import AsynGyanis.Quic.Connection.DatagramSizes
import AsynGyanis.Quic.Connection.EcnValidation
import AsynGyanis.Quic.Connection.LossPaths
import AsynGyanis.Quic.Connection.PeerConnectionIds
import AsynGyanis.Quic.PacketNumberWords
import AsynGyanis.Quic.PathMtuTimer
import AsynGyanis.Quic.ReassemblyWords
import AsynGyanis.Quic.Recovery.RoundTrip
import AsynGyanis.Quic.Streams.Writability
import AsynGyanis.WebSocket.Utf8
