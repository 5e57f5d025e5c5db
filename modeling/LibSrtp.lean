import LibSrtp.Retransmission
import LibSrtp.Keystreams
import LibSrtp.Channel
import LibSrtp.SessionLives
import LibSrtp.KeySeparation
import LibSrtp.SessionLedger
import LibSrtp.AddStream
import LibSrtp.SessionDelivery
import LibSrtp.Agreement
import LibSrtp.SessionSafety
import LibSrtp.Lifetimes
import LibSrtp.PacketFaults
import LibSrtp.ReplayWindow
import LibSrtp.KeyWarnings
import LibSrtp.StreamIsolation
import LibSrtp.Validation
import LibSrtp.TemplateStreams
import LibSrtp.Delivery
import LibSrtp.IndexRollback
import LibSrtp.RtcpReplay
import LibSrtp.RtpReplay
import LibSrtp.IndexEstimate
import LibSrtp.HeaderGrammar
import LibSrtp.CounterBlocks
import LibSrtp.PartialUpdate
import LibSrtp.DeadKeys
