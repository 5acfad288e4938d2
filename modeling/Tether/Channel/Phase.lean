/-!
# Phases of a channel

A channel opens a socket, shakes hands on it, and is open until the socket
closes. From every phase it may go to `closed`, which is the last one.
-/

namespace Tether.Channel

/-- The phase of a channel. -/
inductive Phase
  | connecting
  | handshaking
  | opened
  | closed
  deriving DecidableEq, Repr

namespace Phase

/-- Whether requests can be sent. -/
def isReady : Phase → Bool
  | handshaking | opened => true
  | connecting | closed => false

/-- The name of a phase in the log. -/
def name : Phase → String
  | connecting => "connecting"
  | handshaking => "handshaking"
  | opened => "open"
  | closed => "closed"

/-- The name of a phase in descriptions. -/
def label : Phase → String
  | connecting => "Connecting"
  | handshaking => "Handshaking"
  | opened => "Open"
  | closed => "Closed"

end Phase

end Tether.Channel
