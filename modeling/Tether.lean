import Tether.Proofs.Backoff.Range
import Tether.Proofs.Backoff.Timer
import Tether.Proofs.Channel.Order
import Tether.Proofs.Channel.Progress
import Tether.Proofs.Frame.Forwarding
import Tether.Proofs.Gateway.Delays
import Tether.Proofs.Handshake.Announcement
import Tether.Proofs.Handshake.Readers
import Tether.Proofs.Handshake.RoundTrip
import Tether.Proofs.Pending.Echo
import Tether.Proofs.Pending.Independence
import Tether.Proofs.Schema.Routes
import Tether.Scenario.Play
import Tether.Scenario.Table
import Tether.Scenario.Timer
