import Tether.Backoff.Config
import Tether.Channel.Config
import Tether.ClientOptions

/-!
# The configuration of a gateway

* `Gateway.Settings`: what a user sets, and what holds otherwise;
* `Gateway.Settings.check`: the configuration, or the first fault of the settings;
* `Gateway.Config`: settings without faults.
-/

namespace Tether

namespace Gateway

/-- The configuration of a gateway: that of each socket, and the delays between them. -/
structure Config where
  channel : Channel.Config
  backoff : Backoff.Config
  deriving DecidableEq

/-- What a user sets. -/
structure Settings where
  url : Option String
  client : ClientOptions
  backoff : Backoff.Config
  connectTimeout : Duration
  handshakeTimeout : Duration
  deriving DecidableEq

namespace Settings

/-- The settings of a user who sets none. They lack the URL. -/
def default (host : HostInfo) : Settings where
  url := none
  client := .standard host
  backoff := .default
  connectTimeout := .ofMillis 30000
  handshakeTimeout := .ofMillis 10000

/-- What is wrong with settings. -/
inductive Fault
  | noUrl
  | url (fault : Url.Fault)
  /-- Connections with encryption are not supported. -/
  | encrypted
  /-- The scheme of the URL is no scheme for sockets. -/
  | scheme (scheme : List Char)
  | client (fault : ClientOptions.Fault)
  | backoff (fault : Backoff.Config.Fault)
  | zeroConnectTimeout
  | zeroHandshakeTimeout
  deriving DecidableEq

/-- The failure of a user with such settings. -/
def Fault.toFailure : Fault → Failure
  | noUrl =>
    .config ("Gateway URL is required. Use .url() to set it.\n" ++
      "Example: Gateway::builder().url(\"ws://127.0.0.1:18789/ws\")")
  | url fault => .url fault.message
  | encrypted => .config "wss:// URLs need TLS support. Enable the `rustls` feature."
  | scheme s => .config s!"Gateway URL must use ws:// or wss://, got {String.ofList s}://"
  | client fault => .config s!"invalid client options: {fault.message}"
  | backoff fault => .config fault.message
  | zeroConnectTimeout => .config "connect timeout must be positive"
  | zeroHandshakeTimeout => .config "handshake timeout must be positive"

/-- The URL of the settings, if a socket can be opened there. -/
def socketUrl (s : Settings) : Except Fault Url :=
  match s.url with
  | none => .error .noUrl
  | some text =>
    match Url.parse text with
    | .error fault => .error (.url fault)
    | .ok u =>
      if u.scheme = ['w', 's'] then .ok u
      else if u.scheme = ['w', 's', 's'] then .error .encrypted
      else .error (.scheme u.scheme)

/-- The configuration with these settings: the URL is checked first, then the
    client, the delays and the time limits. -/
def check (s : Settings) : Except Fault Config := do
  let url ← s.socketUrl
  s.client.check.mapError .client
  s.backoff.check.mapError .backoff
  if s.connectTimeout = .zero then throw .zeroConnectTimeout
  if s.handshakeTimeout = .zero then throw .zeroHandshakeTimeout
  return ⟨⟨url, s.client.connectParams, s.connectTimeout, s.handshakeTimeout⟩, s.backoff⟩

end Settings

end Gateway

end Tether
