import Racoon2.Lib.Bytes
import Racoon2.Lib.Prefix
import Racoon2.Lib.Search
import Racoon2.Lib.Run
import Racoon2.Lib.Keyed
import Racoon2.Lib.Collect
import Racoon2.Iked.AddressPool
import Racoon2.Iked.CryptoPin
import Racoon2.Iked.Window
import Racoon2.Iked.RekeyStub
import Racoon2.Iked.ChildRekey
import Racoon2.Iked.RekeyLock
import Racoon2.Iked.ChildDelete
import Racoon2.Iked.ChildCollision
import Racoon2.Iked.IkeCollision
import Racoon2.Iked.CollisionEnds
import Racoon2.Iked.HandlerWalk
import Racoon2.Iked.Delivery
import Racoon2.Iked.Qcd
import Racoon2.Iked.Forged
import Racoon2.Iked.Replay
import Racoon2.Iked.AuthComplete
import Racoon2.Iked.AuthInitiator
import Racoon2.Iked.Keymat
import Racoon2.Iked.Addke
import Racoon2.Iked.TrafficSelector
import Racoon2.Iked.Intermediate
import Racoon2.Iked.HalfOpen
import Racoon2.Iked.Matcher
import Racoon2.Iked.IkeSaProposal
import Racoon2.Iked.ProposalParse
import Racoon2.Iked.ProposalGrammar
import Racoon2.Iked.ProposalWire
import Racoon2.Iked.Seal
import Racoon2.Iked.FragSend
import Racoon2.Iked.FragChain
import Racoon2.Iked.FragKinds
import Racoon2.Iked.FragRoundTrip
import Racoon2.Lib.Feed
import Racoon2.Iked.TcpFrame
import Racoon2.Iked.TcpStream
import Racoon2.Iked.ResumeRecord
import Racoon2.Iked.ResumeSuite
import Racoon2.Iked.TicketReplay
import Racoon2.Lib.Codec
import Racoon2.Iked.Ticket
import Racoon2.Iked.ProposalPack
import Racoon2.Iked.Deprecated
import Racoon2.Iked.DeprecatedSa
import Racoon2.Lib.Calls
import Racoon2.Lib.Reads
import Racoon2.Lib.Lines
import Racoon2.Iked.PrfPlus
import Racoon2.Iked.SaKeys
import Racoon2.Iked.Followup
import Racoon2.Iked.ResponseAddress
import Racoon2.Spmd.Dns
import Racoon2.Spmd.Cache
import Racoon2.Spmd.Client
import Racoon2.Kinkd.Decode
import Racoon2.Kinkd.Reply
import Racoon2.Xfrm.Requests
import Racoon2.Xfrm.Completions
import Racoon2.Lib.Tlv
import Racoon2.Lib.Feedback
import Racoon2.Iked.TsPayload
import Racoon2.Iked.TsConfirm
import Racoon2.Iked.Radius
import Racoon2.Iked.RadiusVerify
import Racoon2.Iked.RadiusMsk
import Racoon2.Iked.Message
import Racoon2.Iked.Cookie
import Racoon2.Iked.IsakmpFrag
import Racoon2.Iked.IntAuth
import Racoon2.Iked.RekeyRounds
import Racoon2.Lib.Chain
import Racoon2.Iked.NatDetection
import Racoon2.Iked.TcpRegistry
import Racoon2.Iked.NatOa
import Racoon2.Iked.ConfigReply
import Racoon2.Iked.SplitDns
import Racoon2.Iked.ConfigRoundTrip
import Racoon2.Kinkd.Encode
import Racoon2.Kinkd.PayloadChain
import Racoon2.Kinkd.RoundTrip
import Racoon2.Lib.Cursor
import Racoon2.Iked.Schedule
import Racoon2.Iked.TcpRoute
import Racoon2.Lib.Words
import Racoon2.Spmd.Shell
import Racoon2.Xfrm.Migrate
import Racoon2.Xfrm.MigrateRight
import Racoon2.Iked.Mobike
import Racoon2.Iked.MobikeMove
import Racoon2.Iked.Marker
import Racoon2.Kinkd.Install
import Racoon2.Kinkd.Orphans
import Racoon2.Spmd.Proxy
import Racoon2.Spmd.ProxyStores
import Racoon2.Lib.Slots
import Racoon2.Lib.FixedWindow
import Racoon2.Iked.Eap
import Racoon2.Iked.EapRelay
import Racoon2.Iked.EapSimulation
import Racoon2.Spmd.PolicyTable
import Racoon2.Spmd.PolicyMap
import Racoon2.Iked.Redirect
import Racoon2.Iked.Drain
import Racoon2.Iked.RedirectClient
import Racoon2.Iked.RedirectFailover
import Racoon2.Lib.Rows
import Racoon2.Kinkd.DeletePayload
import Racoon2.Kinkd.DeleteReply
import Racoon2.Kinkd.DeleteSa
import Racoon2.Iked.TicketStore
