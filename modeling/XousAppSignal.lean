import XousAppSignal.Library.FiniteMap
import XousAppSignal.Library.Runs
import XousAppSignal.Library.Counting
import XousAppSignal.Library.Attempts
import XousAppSignal.Library.Bincode
import XousAppSignal.Library.PackedRecords
import XousAppSignal.Library.DecimalKeys
import XousAppSignal.Library.Histories
import XousAppSignal.Library.Listings
import XousAppSignal.Library.Leads
import XousAppSignal.Library.Locks
import XousAppSignal.Library.Delimiters
import XousAppSignal.Library.JsonMaps
import XousAppSignal.Library.Base64
import XousAppSignal.Text
import XousAppSignal.Uuid
import XousAppSignal.Store.Backend
import XousAppSignal.Store.BufferingBackend
import XousAppSignal.Store.PddbClient
import XousAppSignal.Store.PddbBackend
import XousAppSignal.Store.PddbRoundTrip
import XousAppSignal.Store.PddbFailedPut
import XousAppSignal.Store.PddbBatch
import XousAppSignal.Store.PddbListing
import XousAppSignal.Store.PddbServer
import XousAppSignal.Store.Batch
import XousAppSignal.Store.LimitedContract
import XousAppSignal.Store.MirroredBuffers
import XousAppSignal.Store.PddbContract
import XousAppSignal.Store.PddbRuns
import XousAppSignal.Store.CommitFaults
import XousAppSignal.Store.BatchAbort
import XousAppSignal.Store.PartialCommit
import XousAppSignal.Store.Protocol
import XousAppSignal.Store.SessionBundle
import XousAppSignal.Store.SessionStore
import XousAppSignal.Store.SessionInvariant
import XousAppSignal.Store.SessionLoads
import XousAppSignal.Store.SessionDeletion
import XousAppSignal.Store.SessionFlush
import XousAppSignal.Store.SessionMerge
import XousAppSignal.Store.FailedDictDelete
import XousAppSignal.Store.FlushRetry
import XousAppSignal.Store.SessionMigration
import XousAppSignal.Store.SessionLocks
import XousAppSignal.Store.SessionRefinement
import XousAppSignal.Store.FailedPuts
import XousAppSignal.Store.SessionDurability
import XousAppSignal.Store.KyberPreKeyStore
import XousAppSignal.Store.KyberReplay
import XousAppSignal.Store.KyberLifeCycle
import XousAppSignal.Store.TraitCalls
import XousAppSignal.Store.BatchedFlush
import XousAppSignal.Store.BatchIsolation
import XousAppSignal.Store.ServiceSessions
import XousAppSignal.Store.Clear
import XousAppSignal.Store.Wipe
import XousAppSignal.Store.Presage
import XousAppSignal.Store.StateStore
import XousAppSignal.Store.ContentsStore
import XousAppSignal.Store.KeyDerivations
import XousAppSignal.Store.HexKeys
import XousAppSignal.Store.MessageHistory
import XousAppSignal.Store.ProtocolRecords
import XousAppSignal.Store.CallReturns
import XousAppSignal.Store.PreKeyBundle
import XousAppSignal.Store.LogicalRecords
import XousAppSignal.Store.StoreOps
import XousAppSignal.Store.RecordFrames
import XousAppSignal.Store.AbortedSessions
import XousAppSignal.Store.StoreReads
import XousAppSignal.Store.StoreRuns
import XousAppSignal.Store.ServedCalls
import XousAppSignal.Store.ServedStores
import XousAppSignal.Store.PddbNames
import XousAppSignal.Store.StoreOnPddb
import XousAppSignal.Store.FreshIds
import XousAppSignal.Store.FreshStore
import XousAppSignal.Worker.Cmd
import XousAppSignal.Worker.HandleSend
import XousAppSignal.Worker.SendDurability
import XousAppSignal.Worker.Received
import XousAppSignal.Worker.ManagerTask
import XousAppSignal.Worker.TaskSteps
import XousAppSignal.Worker.TaskReplies
import XousAppSignal.Worker.TaskExits
import XousAppSignal.Worker.TaskEvents
import XousAppSignal.Worker.ReceiveLoop
import XousAppSignal.Worker.Displacement
import XousAppSignal.Worker.AuthExpiry
import XousAppSignal.Worker.RetryDiscipline
import XousAppSignal.Worker.Receipts
import XousAppSignal.Worker.Dispatcher
import XousAppSignal.Worker.WorldSteps
import XousAppSignal.Worker.SendOutcomes
import XousAppSignal.Worker.Logout
import XousAppSignal.Worker.ManagerLifetime
import XousAppSignal.Worker.AccountAnswers
import XousAppSignal.Worker.LinkShape
import XousAppSignal.Worker.LinkOutcomes
import XousAppSignal.Worker.BatchOwnership
import XousAppSignal.Worker.MessageEvents
import XousAppSignal.Worker.TaskProgress
import XousAppSignal.Worker.OpChannels
import XousAppSignal.Worker.WorkerProgress
import XousAppSignal.Ui.Dialogue
import XousAppSignal.Ui.MessageStore
import XousAppSignal.Ui.MessageLog
import XousAppSignal.Ui.Summaries
import XousAppSignal.Ui.App
import XousAppSignal.Ui.HandleKeys
import XousAppSignal.Ui.HandleWorkerEvent
import XousAppSignal.Ui.KeySteps
import XousAppSignal.Ui.Effects
import XousAppSignal.Ui.WaitFlags
import XousAppSignal.Ui.ComposeText
import XousAppSignal.Ui.GroupReplyBlock
import XousAppSignal.Ui.ThreadFiling
import XousAppSignal.Ui.LinkedScreens
import XousAppSignal.Ui.SendRows
import XousAppSignal.Ui.SendStatuses
import XousAppSignal.Ui.StoreCalls
import XousAppSignal.Ui.AuthorLabels
import XousAppSignal.Ui.DisplayNames
import XousAppSignal.Ui.MenuCursor
import XousAppSignal.Ui.HomeEffects
import XousAppSignal.Ui.UsernameLookups
import XousAppSignal.Ui.WriteHome
import XousAppSignal.Ui.HomeFocus
import XousAppSignal.Program.Channels
import XousAppSignal.Program.AccountQueries
import XousAppSignal.Program.WipingScreen
import XousAppSignal.Program.LinkAttempts
import XousAppSignal.Program.MessageDelivery
import XousAppSignal.Program.EventPipe
import XousAppSignal.Program.CommandRoom
import XousAppSignal.Program.Reactions
import XousAppSignal.Program.ProgramProgress
import XousAppSignal.Program.Getrandom
import XousAppSignal.Net.WsPump
import XousAppSignal.Net.ReaderStream
import XousAppSignal.Net.PumpTeardown
import XousAppSignal.Net.Http
import XousAppSignal.Net.HttpRequest
import XousAppSignal.Net.HttpRoundTrip
import XousAppSignal.Net.RequestFraming
import XousAppSignal.Net.HttpExchange
