import Lumepeer.Broker.Proofs.Accounts
import Lumepeer.Broker.Proofs.Deliveries
import Lumepeer.Broker.Proofs.Issuing
import Lumepeer.Broker.Proofs.Licences
import Lumepeer.Broker.Proofs.Payments
import Lumepeer.Broker.Proofs.Refresh
import Lumepeer.Broker.Proofs.Seats
import Lumepeer.Broker.Proofs.Statements
import Lumepeer.Broker.Proofs.Trial
import Lumepeer.Core.Clipboard.Proofs.Echo
import Lumepeer.Core.Consent.Proofs.Queue
import Lumepeer.Core.Consent.Proofs.RateLimit
import Lumepeer.Core.License.Proofs.Codec
import Lumepeer.Core.License.Proofs.Guard
import Lumepeer.Core.License.Proofs.Hold
import Lumepeer.Core.RemotePath.Proofs.BrowseGrammar
import Lumepeer.Core.RemotePath.Proofs.Component
import Lumepeer.Core.RemotePath.Proofs.Entry
import Lumepeer.Core.Session.Proofs.Authority
import Lumepeer.Core.Session.Proofs.Capacity
import Lumepeer.Core.Session.Proofs.Pending
import Lumepeer.Core.Session.Proofs.Reconnect
import Lumepeer.Core.Unattended.Proofs.Lockout
import Lumepeer.Core.Unattended.Proofs.OneTime
import Lumepeer.Core.Unattended.Proofs.PasswordProof
import Lumepeer.Core.Unattended.Proofs.Totp
import Lumepeer.Core.Wire.Proofs.Codec
import Lumepeer.Core.Wire.Proofs.FrameSize
import Lumepeer.Desktop.HostPanel
import Lumepeer.Desktop.Proofs.HandOver
import Lumepeer.Desktop.Proofs.HostPanel
import Lumepeer.Desktop.Proofs.Move
import Lumepeer.Guestkeys.Hook.Proofs.SameWay
import Lumepeer.Lib.CutOff
import Lumepeer.Lib.HalfLife
import Lumepeer.Lib.Ranking
import Lumepeer.Lib.Remembered
import Lumepeer.Lib.Sequel
import Lumepeer.Media.Abr
import Lumepeer.Media.Abr.Proofs.Ladder
import Lumepeer.Media.Abr.Proofs.Link
import Lumepeer.Media.Encode.H264Sps.Proofs.Rewrite
import Lumepeer.Media.Encode.Nv12
import Lumepeer.Media.Encode.Nv12.Proofs.Picture
import Lumepeer.Media.Encode.Nv12.Proofs.Reference
import Lumepeer.Media.Export
import Lumepeer.Media.Export.Proofs.Files
import Lumepeer.Media.Export.Proofs.Tracks
import Lumepeer.Media.Record.Proofs.Recording
import Lumepeer.Media.Scale
import Lumepeer.Media.Scale.Proofs.Cursor
import Lumepeer.Media.Scale.Proofs.Filter
import Lumepeer.Net.FileTransfer.Proofs.Name
import Lumepeer.Net.FileTransfer.Proofs.Outcome
import Lumepeer.Net.Framing.Proofs.Stream
import Lumepeer.Net.LossTolerant
import Lumepeer.Net.LossTolerant.Proofs.Share
import Lumepeer.Net.Media
import Lumepeer.Net.Nostr
import Lumepeer.Net.Nostr.Proofs.Delivery
import Lumepeer.Net.Obfuscate.Proofs.Datagram
import Lumepeer.Net.Obfuscate.Proofs.Route
import Lumepeer.Net.Obfuscate.Proofs.Socket
import Lumepeer.Net.Rendezvous.Proofs.Record
import Lumepeer.Net.Disk
import Lumepeer.Net.Stun.Proofs.Response
import Lumepeer.Net.Ticket.Proofs.Code
import Lumepeer.Net.Ticket.Proofs.Registry
import Lumepeer.Runtime.ClipboardOs
import Lumepeer.Runtime.ClipboardOs.Proofs.Copy
import Lumepeer.Runtime.ClipboardOs.Proofs.Watch
import Lumepeer.Runtime.ConnectionHistory
import Lumepeer.Runtime.Network.DirList
import Lumepeer.Runtime.Network.Proofs.Answers
import Lumepeer.Runtime.Network.Proofs.Cancelled
import Lumepeer.Runtime.Network.Proofs.Credentials
import Lumepeer.Runtime.Network.Proofs.Dials
import Lumepeer.Runtime.Network.Proofs.DirList
import Lumepeer.Runtime.Network.Proofs.DisplayMode
import Lumepeer.Runtime.Network.Proofs.Fetches
import Lumepeer.Runtime.Network.Proofs.Pairing
import Lumepeer.Runtime.Network.Proofs.Parking
import Lumepeer.Runtime.Network.Proofs.Reboot
import Lumepeer.Runtime.Network.Proofs.Recording
import Lumepeer.Runtime.Network.Proofs.Resume
import Lumepeer.Runtime.Network.Proofs.Rows
import Lumepeer.Runtime.Network.Proofs.Terminal
import Lumepeer.Runtime.Network.Proofs.Tunnel
import Lumepeer.Runtime.Network.Proofs.Unattended
import Lumepeer.Runtime.Network.Proofs.WaitTicks
import Lumepeer.Runtime.Network.Proofs.Walk
import Lumepeer.Runtime.Network.Recording
import Lumepeer.Runtime.Network.Unattended
import Lumepeer.Runtime.Network.WaitTicks
import Lumepeer.Runtime.Network.Walk
import Lumepeer.Runtime.Proofs.ConnectionHistory
import Lumepeer.Runtime.View
import Lumepeer.Runtime.View.EncodeLoop
import Lumepeer.Runtime.View.Proofs.Acks
import Lumepeer.Runtime.View.Proofs.Drops
import Lumepeer.Runtime.View.Proofs.Feed
import Lumepeer.Runtime.View.Proofs.Payload
import Lumepeer.Runtime.View.Proofs.Stall
import Lumepeer.Runtime.View.Proofs.Target
import Lumepeer.Service.HostChannelProtocol.Proofs.RoundTrip
import Lumepeer.Service.LogonEnroll
import Lumepeer.Service.LogonEnroll.Proofs.Format
import Lumepeer.Service.LogonSupervisor
import Lumepeer.Service.LogonSupervisor.Proofs.Copies
