import HubBridge.Framing
import HubBridge.Main
import HubBridge.Session.Wire
import HubBridge.Proofs.Deadlines
import HubBridge.Proofs.StatusText
import HubBridge.Proofs.DoorReports
import HubBridge.Proofs.SessionMoves
import HubBridge.Proofs.Seats
import HubBridge.Proofs.Actuation
import HubBridge.Proofs.Rearrangement
import HubBridge.Proofs.FreshIds
import HubBridge.Proofs.DoorRecords
import HubBridge.Proofs.OneResult
import HubBridge.Proofs.HistoryResults
import HubBridge.Proofs.DueTimes
import HubBridge.Proofs.Histories
import HubBridge.Proofs.Rest
import HubBridge.Proofs.OctetText
import HubBridge.Proofs.FramedDatagrams
import HubBridge.Proofs.InboundGrammar
import HubBridge.Proofs.ObserverStreams
import HubBridge.Proofs.RawLines
import HubBridge.Proofs.LineRoundTrip
import HubBridge.Proofs.CommandLines
import HubBridge.Proofs.Courses
import HubBridge.Proofs.ActuationAccounts
import HubBridge.Proofs.Decisions
import HubBridge.Proofs.FailedSends
import HubBridge.Proofs.StatusReaders
import HubBridge.Proofs.AnswersToObservers
import HubBridge.Proofs.DeafSessions
import HubBridge.Proofs.AfterShutdown
import HubBridge.Proofs.JsonLexemes
import HubBridge.Proofs.JsonObjects
import HubBridge.Proofs.JsonRoundTrip
import HubBridge.Proofs.Spelling
import HubBridge.Proofs.TokenOrder
import HubBridge.Proofs.Broadcasts
import HubBridge.Proofs.PollingRuns
import HubBridge.Proofs.OneShot
import HubBridge.Proofs.ConsoleLines
import HubBridge.Proofs.HubAddress
import HubBridge.Proofs.LooseNames
import HubBridge.Proofs.SignsOfLife
