import MultiUserChat.Client.Client
import MultiUserChat.Client.Scans
import MultiUserChat.Client.SendFile
import MultiUserChat.Client.Threads
import MultiUserChat.Common.FileUtils
import MultiUserChat.Common.GroupStore
import MultiUserChat.Common.MessageQueue
import MultiUserChat.Common.NetUtils
import MultiUserChat.Common.User
import MultiUserChat.Library.Base64
import MultiUserChat.Library.CString
import MultiUserChat.Library.Calls
import MultiUserChat.Library.Frames
import MultiUserChat.Library.Intake
import MultiUserChat.Library.Json
import MultiUserChat.Library.JsonSound
import MultiUserChat.Library.JsonText
import MultiUserChat.Library.Lists
import MultiUserChat.Library.Markup
import MultiUserChat.Library.Notes
import MultiUserChat.Library.PathNames
import MultiUserChat.Library.Percent
import MultiUserChat.Library.Presence
import MultiUserChat.Library.Program
import MultiUserChat.Library.ProgramRules
import MultiUserChat.Library.ProgramText
import MultiUserChat.Library.Replies
import MultiUserChat.Library.Ring
import MultiUserChat.Library.Roster
import MultiUserChat.Library.Slots
import MultiUserChat.Library.Tokens
import MultiUserChat.Library.Transition
import MultiUserChat.Library.Utf16
import MultiUserChat.Library.Utf8
import MultiUserChat.Library.Utf8Encode
import MultiUserChat.Library.Utf8Scalar
import MultiUserChat.Server.Channel
import MultiUserChat.Server.Handler
import MultiUserChat.Server.Run
import MultiUserChat.Server.Scans
import MultiUserChat.Server.Threads
import MultiUserChat.Verif.AbsolutePaths
import MultiUserChat.Verif.AcceptedLogins
import MultiUserChat.Verif.AcceptedText
import MultiUserChat.Verif.Accounts
import MultiUserChat.Verif.Addressable
import MultiUserChat.Verif.Addressing
import MultiUserChat.Verif.Announcement
import MultiUserChat.Verif.Answers
import MultiUserChat.Verif.Attribution
import MultiUserChat.Verif.Authenticity
import MultiUserChat.Verif.Broadcast
import MultiUserChat.Verif.Cascade
import MultiUserChat.Verif.Changes
import MultiUserChat.Verif.ClientReaders
import MultiUserChat.Verif.Connections
import MultiUserChat.Verif.Contacts
import MultiUserChat.Verif.Conversations
import MultiUserChat.Verif.Creation
import MultiUserChat.Verif.Delivery
import MultiUserChat.Verif.Digests
import MultiUserChat.Verif.DownloadPaths
import MultiUserChat.Verif.EventOrder
import MultiUserChat.Verif.FeedMarkup
import MultiUserChat.Verif.FileDelivery
import MultiUserChat.Verif.FileTransfers
import MultiUserChat.Verif.Forwarding
import MultiUserChat.Verif.Framing
import MultiUserChat.Verif.GatewayActions
import MultiUserChat.Verif.GatewayLogins
import MultiUserChat.Verif.GatewayNotices
import MultiUserChat.Verif.GatewayPackets
import MultiUserChat.Verif.GroupEvents
import MultiUserChat.Verif.GroupIds
import MultiUserChat.Verif.GroupLists
import MultiUserChat.Verif.GroupMessage
import MultiUserChat.Verif.GroupRecords
import MultiUserChat.Verif.GroupStore
import MultiUserChat.Verif.GroupTexts
import MultiUserChat.Verif.HandlerText
import MultiUserChat.Verif.IncomingFiles
import MultiUserChat.Verif.Interleaving
import MultiUserChat.Verif.LastingLogins
import MultiUserChat.Verif.ListDelivery
import MultiUserChat.Verif.MatchedReplies
import MultiUserChat.Verif.Matching
import MultiUserChat.Verif.Membership
import MultiUserChat.Verif.MessageQueue
import MultiUserChat.Verif.Mirror
import MultiUserChat.Verif.Network
import MultiUserChat.Verif.Numerals
import MultiUserChat.Verif.OnlineList
import MultiUserChat.Verif.PacketDecoder
import MultiUserChat.Verif.PageAccount
import MultiUserChat.Verif.PageMessages
import MultiUserChat.Verif.PageRequests
import MultiUserChat.Verif.PageView
import MultiUserChat.Verif.Payload
import MultiUserChat.Verif.PayloadFormat
import MultiUserChat.Verif.RawMessages
import MultiUserChat.Verif.Receivers
import MultiUserChat.Verif.RecordLines
import MultiUserChat.Verif.Removal
import MultiUserChat.Verif.Representation
import MultiUserChat.Verif.Restart
import MultiUserChat.Verif.SameFiles
import MultiUserChat.Verif.Scans
import MultiUserChat.Verif.ServerPresence
import MultiUserChat.Verif.Sessions
import MultiUserChat.Verif.StaticFiles
import MultiUserChat.Verif.StorageFile
import MultiUserChat.Verif.Stores
import MultiUserChat.Verif.StreamRoundTrip
import MultiUserChat.Verif.TextDelivery
import MultiUserChat.Verif.TransferSizes
import MultiUserChat.Verif.UserStore
import MultiUserChat.Verif.WireFrames
import MultiUserChat.Verif.Withdrawal
import MultiUserChat.Web.Gateway
import MultiUserChat.Web.Main
import MultiUserChat.Web.Message
import MultiUserChat.Web.Page
import MultiUserChat.Web.Path
import MultiUserChat.Web.Protocol
import MultiUserChat.Web.Session
import MultiUserChat.Web.Site
import MultiUserChat.Web.StaticFiles
import MultiUserChat.Web.View
