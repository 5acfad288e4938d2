import Tether.Duration
import Tether.Handshake
import Tether.Url.Basic

/-!
# The configuration of a channel

What a channel needs to know about the socket it opens.
-/

namespace Tether.Channel

/-- The configuration of one socket. -/
structure Config where
  url : Url
  connectParams : ConnectParams
  /-- The time that opening the socket may take. -/
  connectTimeout : Duration
  /-- The time that the answer to the handshake may take. -/
  handshakeTimeout : Duration
  deriving DecidableEq

end Tether.Channel
