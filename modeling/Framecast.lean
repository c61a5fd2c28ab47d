import Framecast.Channel.Registry
import Framecast.Channel.Sleepers
import Framecast.Channel.WaitingRoom
import Framecast.Device.Bench
import Framecast.Mailbox.Traffic
import Framecast.Main
import Framecast.Proofs.Channel.Coverage
import Framecast.Proofs.Channel.Membership
import Framecast.Proofs.Cli.Layering
import Framecast.Proofs.Cli.Port
import Framecast.Proofs.Config.Decoding
import Framecast.Proofs.Config.Opening
import Framecast.Proofs.Crowd.Agreement
import Framecast.Proofs.Crowd.Contents
import Framecast.Proofs.Crowd.Ending
import Framecast.Proofs.Crowd.Isolation
import Framecast.Proofs.Crowd.Order
import Framecast.Proofs.Crowd.Wakeup
import Framecast.Proofs.Device.Ledger
import Framecast.Proofs.Endpoint.NormalForm
import Framecast.Proofs.Mailbox.Delivery
import Framecast.Proofs.Picture.Gradient
import Framecast.Proofs.Picture.Record
import Framecast.Proofs.Pool.Fifo
import Framecast.Proofs.Relay.Wire
import Framecast.Proofs.TicketLock.Sections
import Framecast.Proofs.Timer.Punctuality
import Framecast.TicketLock
import Framecast.TicketLock.Log
