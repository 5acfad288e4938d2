/-!
# Failures

What callers are told when something does not work.

* `Failure.message`: the words of a failure;
* `Failure.isTimeout`, `Failure.isConnection`, `Failure.isRecoverable`: its
  classes. After a recoverable failure, the same request may succeed later.
-/

namespace Tether

/-- Why an operation failed. -/
inductive Failure
  /-- The configuration is invalid. -/
  | config (message : String)
  /-- There is no socket that could carry the request. -/
  | notConnected
  /-- The socket closed before the response came. -/
  | disconnected
  /-- The socket could not be opened. -/
  | connection (message : String)
  /-- The socket was not open in time. -/
  | connectionTimeout (milliseconds : UInt64)
  /-- The peer declined the handshake. -/
  | handshakeRejected (message : String)
  /-- A text is no frame. -/
  | malformedFrame (message : String)
  /-- The protocol is violated. -/
  | protocol (message : String)
  /-- The peer answered a request with an error. -/
  | rpc (code : Option String) (message : String)
  /-- A text is no JSON text, or not of the form asked for. -/
  | json (message : String)
  /-- The socket failed. -/
  | webSocket (message : String)
  /-- A text is no URL. -/
  | url (message : String)
  deriving DecidableEq, Repr

namespace Failure

/-- The words of a failure. -/
def message : Failure → String
  | config m => s!"Configuration error: {m}"
  | notConnected => "Not connected"
  | disconnected => "Disconnected"
  | connection m => s!"Connection failed: {m}"
  | connectionTimeout ms => s!"Connection timeout after {ms.toNat}ms"
  | handshakeRejected m => s!"Handshake rejected: {m}"
  | malformedFrame m => s!"Malformed frame: {m}"
  | protocol m => s!"Protocol error: {m}"
  | rpc _ m => s!"RPC error: {m}"
  | json m => s!"JSON error: {m}"
  | webSocket m => s!"WebSocket error: {m}"
  | url m => s!"Invalid URL: {m}"

/-- The failure of a socket that has been closed already. -/
def socketClosed : Failure := webSocket "Connection closed normally"

/-- A time limit was exceeded. -/
def isTimeout : Failure → Bool
  | connectionTimeout _ => true
  | _ => false

/-- There was no connection, or it was lost. -/
def isConnection : Failure → Bool
  | notConnected | disconnected | connection _ | connectionTimeout _ | webSocket _ => true
  | _ => false

/-- The same request may succeed on a later connection. -/
def isRecoverable : Failure → Bool
  | notConnected | disconnected | connectionTimeout _ => true
  | _ => false

end Failure

end Tether
