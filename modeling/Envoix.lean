import Envoix.Foundation.Fallible
import Envoix.Foundation.ByteCodec
import Envoix.Foundation.Traversal
import Envoix.Protocol.Manifest
import Envoix.Protocol.ManifestForest
import Envoix.Protocol.ManifestCanonical
import Envoix.Protocol.Offer
import Envoix.Protocol.OfferCodec
import Envoix.Protocol.FrameCodec
import Envoix.Foundation.Process
import Envoix.Transfer.Delivery
import Envoix.Transfer.DeliveryPersistence
import Envoix.Transfer.Ledger
import Envoix.Transfer.Engine
import Envoix.Transfer.Receive
import Envoix.Transfer.Send
import Envoix.Foundation.ProgramLogic
import Envoix.Transfer.EngineWorld
import Envoix.Transfer.LedgerConsistency
import Envoix.Transfer.EntryReception
import Envoix.Transfer.ReceiveRun
import Envoix.Transfer.SendRun
import Envoix.Transfer.ResumeAgreement
import Envoix.Foundation.FileSystem
import Envoix.Transfer.Destination
import Envoix.Transfer.Reconciliation
import Envoix.Job.Enumerate
import Envoix.Job.Operations
import Envoix.Transfer.SenderRecord
import Envoix.Foundation.Table
import Envoix.Rendezvous.Broker
import Envoix.Rendezvous.RoomAccounting
import Envoix.Foundation.PoisonedLock
import Envoix.Rendezvous.RegistryLock
import Envoix.Rendezvous.WaitingCreators
import Envoix.Transfer.Certification
import Envoix.Foundation.CallLogic
import Envoix.Transfer.LedgerSteps
import Envoix.Foundation.Party
import Envoix.Session.ManifestSession
import Envoix.Session.ReceiverSession
import Envoix.Session.Disclosure
import Envoix.Session.ArbiterHistory
import Envoix.Session.SenderSession
import Envoix.Session.Agreement
import Envoix.Job.Selections
import Envoix.Job.SelectionRuns
import Envoix.Rendezvous.GuessingBudget
import Envoix.Rendezvous.Pairing
import Envoix.Foundation.Json
import Envoix.Foundation.Base64
import Envoix.Invite.Invitation
import Envoix.Invite.Codec
import Envoix.Invite.Bootstrap
import Envoix.Room.Invite
import Envoix.Room.Route
import Envoix.Room.Session
import Envoix.Room.Offers
import Envoix.Room.LifetimeEffects
import Envoix.Room.Lifetime
import Envoix.Nearby.Bootstrap
import Envoix.Foundation.Framing
import Envoix.Foundation.IdealCrypto
import Envoix.Auth.Authentication
import Envoix.Auth.MutualAuthentication
import Envoix.Pairing.Handshake
import Envoix.Pairing.ControlAgreement
import Envoix.Transfer.BlockTiling
import Envoix.Transfer.DestinationPlan
import Envoix.Transfer.PlanReservations
import Envoix.Foundation.Durable
import Envoix.Remembered.Peers
import Envoix.Remembered.Windows
import Envoix.Remembered.Outbox
import Envoix.Remembered.OutboxRuns
import Envoix.Foundation.Text
import Envoix.Nearby.NfcInvitation
import Envoix.Nearby.NfcTag
import Envoix.Foundation.SocketAddress
import Envoix.Nearby.InviteRoute
import Envoix.Nearby.RouteSurvival
import Envoix.Transfer.ResumeSpace
import Envoix.Transfer.SafeNames
import Envoix.Transfer.EntryPaths
import Envoix.Transfer.CrowdedDirectory
import Envoix.Job.Changes
import Envoix.Job.Pagination
import Envoix.Job.SealedSources
import Envoix.Foundation.ByteStream
import Envoix.Foundation.Cursor
import Envoix.Protocol.AuthEnvelope
import Envoix.Rendezvous.SourceTracker
import Envoix.Rendezvous.SourceBounds
import Envoix.Transfer.CancelToken
import Envoix.Foundation.CallHistory
import Envoix.Transfer.Progress
import Envoix.Transfer.ResumeEstimate
import Envoix.Transfer.SendProgress
import Envoix.Rendezvous.RoomLogs
import Envoix.Foundation.Dispatcher
import Envoix.Nearby.NfcTagRuns
import Envoix.Transfer.StageTimeline
import Envoix.Android.SessionRegistry
import Envoix.Invite.OneUse
import Envoix.Android.RoomControl
import Envoix.Auth.Encodings
import Envoix.Nearby.InviteDelivery
import Envoix.Nearby.InviteDeliveryRuns
import Envoix.Nearby.InviteRequests
import Envoix.Room.PercentCodec
import Envoix.Transfer.ControlFrames
import Envoix.Android.RoomWorkflow
import Envoix.Android.RoomWorkflowRuns
import Envoix.Foundation.BytePipe
import Envoix.Nearby.NfcHosting
import Envoix.Nearby.NfcHostingRuns
import Envoix.Session.NativeTransport
import Envoix.Session.NativeTransportRuns
import Envoix.Foundation.CallSuccess
import Envoix.Transfer.Finalization
import Envoix.Transfer.FinalizationCalls
import Envoix.Transfer.FinalizationRecovery
import Envoix.Transfer.FinalizationResume
import Envoix.Transfer.FinalizationCompletion
