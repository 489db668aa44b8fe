import ChatSC.ForStd.Transition
import ChatSC.ForStd.Records
import ChatSC.ForStd.Collection
import ChatSC.ForStd.Tally
import ChatSC.ForStd.Reserve
import ChatSC.ForStd.Pagination
import ChatSC.ForStd.Runs
import ChatSC.ForStd.Stdio
import ChatSC.ForStd.Halting
import ChatSC.ForStd.Buffer
import ChatSC.ForStd.Utf8
import ChatSC.ForStd.JsString
import ChatSC.ForStd.UriComponent
import ChatSC.Native.Protocol
import ChatSC.Native.Substitution
import ChatSC.Native.Sha1
import ChatSC.Native.Driver
import ChatSC.Native.DeviceClient
import ChatSC.Native.Processor
import ChatSC.Native.ProcessorDaemon
import ChatSC.Native.Client
import ChatSC.Native.TerminalClient
import ChatSC.Native.ServerProtocol
import ChatSC.Native.Server
import ChatSC.Native.ServerThreads
import ChatSC.Native.ServerWrites
import ChatSC.Native.ServerReads
import ChatSC.Native.ServerProcess
import ChatSC.Native.ClientThreads
import ChatSC.Backend.ObjectId
import ChatSC.Backend.ChatEncryption
import ChatSC.Backend.ChatDb
import ChatSC.Backend.ChatService
import ChatSC.Backend.ChatCalls
import ChatSC.Backend.RealtimeMessage
import ChatSC.Backend.MessageHistory
import ChatSC.Backend.ChatAttachments
import ChatSC.Backend.AttachmentKeys
import ChatSC.Backend.ChatGateway
import ChatSC.Backend.ChatBackend
import ChatSC.Backend.AuthService
import ChatSC.Backend.AuthProcessing
import ChatSC.ForStd.LinearSearch
import ChatSC.Backend.SignIn
import ChatSC.Backend.Registration
import ChatSC.Spec.FreeUsernames
import ChatSC.Spec.UserDb
import ChatSC.Spec.UserDbIsolation
import ChatSC.Spec.UserDbRefinement
import ChatSC.Spec.OnlineUsers
import ChatSC.Spec.ServerLogins
import ChatSC.Spec.ServerThreads
import ChatSC.Spec.Delivery
import ChatSC.Spec.SenderNames
import ChatSC.Spec.Framing
import ChatSC.Spec.HandlerPieces
import ChatSC.Spec.StreamBlocks
import ChatSC.Spec.Acks
import ChatSC.Spec.AwaitedAcks
import ChatSC.Spec.OwedResponses
import ChatSC.Spec.ServingInvariant
import ChatSC.Spec.ClientsGone
import ChatSC.Spec.DeviceIsolation
import ChatSC.Spec.Substitution
import ChatSC.Spec.Processing
import ChatSC.Spec.ProcessorAnswers
import ChatSC.Spec.TerminalChat
import ChatSC.Spec.ClientPrompts
import ChatSC.Spec.Wire
import ChatSC.Spec.WireAgreement
import ChatSC.Spec.StoredMessages
import ChatSC.Spec.Sha1Digest
import ChatSC.Spec.DriverReads
import ChatSC.Spec.PasswordHashing
import ChatSC.Spec.Accounts
import ChatSC.Spec.SignInAttempts
import ChatSC.Spec.LiveSessions
import ChatSC.Backend.RefreshCookie
import ChatSC.Spec.CallSteps
import ChatSC.Spec.Membership
import ChatSC.Spec.MembershipSteps
import ChatSC.Spec.Rosters
import ChatSC.Spec.CallsAlone
import ChatSC.Spec.ChatRuns
import ChatSC.Spec.GroupMembership
import ChatSC.Spec.DirectConversations
import ChatSC.Spec.DirectPairs
import ChatSC.Spec.OpeningDirect
import ChatSC.Spec.DirectCreation
import ChatSC.Spec.GatewayTasks
import ChatSC.Spec.FormerMembers
import ChatSC.Spec.SessionRevocation
import ChatSC.Spec.UnreadCounters
import ChatSC.Spec.MessageHistory
import ChatSC.Spec.StoredDocuments
import ChatSC.Spec.AttachmentSteps
import ChatSC.Spec.AttachedOnce
import ChatSC.Spec.OverlappingSends
import ChatSC.Spec.AttachmentKeys
import ChatSC.Spec.DisplayRule
import ChatSC.Spec.GatewayRuns
import ChatSC.Spec.EncryptedAtRest
import ChatSC.Spec.StoreIntegrity
import ChatSC.Backend.AttachmentDownloads
import ChatSC.Spec.AttachmentDownloads
import ChatSC.Frontend.ChatSocketService
import ChatSC.Spec.Subscriptions
import ChatSC.Frontend.TypingPresence
import ChatSC.Spec.TypingPresence
import ChatSC.Spec.CurrentMembers
import ChatSC.Backend.ConversationPreviews
import ChatSC.Spec.KnownConversations
import ChatSC.Spec.Recency
import ChatSC.Spec.SeenMarkers
import ChatSC.Frontend.ChatPage
import ChatSC.Frontend.ChatClients
import ChatSC.Spec.DisabledAccounts
import ChatSC.Spec.MessagePane
import ChatSC.Spec.StoredCounts
import ChatSC.Spec.UnreadBadges
import ChatSC.ForStd.Keyed
import ChatSC.Spec.PageEvents
import ChatSC.Spec.StoreProgress
import ChatSC.Spec.ListPreviews
import ChatSC.Spec.RefusedCalls
import ChatSC.ForStd.Attempts
import ChatSC.Backend.AiService
import ChatSC.Spec.AiFallback
import ChatSC.Backend.AiFeatures
import ChatSC.Spec.AiFeatures
import ChatSC.Backend.AiCalls
import ChatSC.Spec.AiCalls
import ChatSC.Backend.SocketExchange
import ChatSC.Spec.SocketExchange
import ChatSC.Spec.ProcessingBackends
import ChatSC.ForStd.SortedLists
import ChatSC.ForStd.Followers
import ChatSC.ForStd.PageWindows
import ChatSC.ForStd.RegExpSyntax
import ChatSC.ForStd.RegExpMatch
import ChatSC.ForStd.RegExpLiteral
import ChatSC.Backend.Search
import ChatSC.Frontend.SearchHighlight
import ChatSC.Spec.SearchText
import ChatSC.ForStd.Resorted
import ChatSC.Frontend.ConversationList
import ChatSC.Spec.ConversationOrder
import ChatSC.Spec.DeliveredMessages
import ChatSC.Spec.SettledPage
import ChatSC.Spec.SenderGroups
import ChatSC.Spec.HistoryReach
import ChatSC.ForStd.Blocks
import ChatSC.ForStd.Sha1
import ChatSC.Spec.Sha1Fips
import ChatSC.Frontend.Http
import ChatSC.Spec.SharedRefresh
import ChatSC.Spec.RetriedRequests
import ChatSC.Spec.RefreshCookie
