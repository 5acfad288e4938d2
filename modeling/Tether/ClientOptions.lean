import Tether.Handshake
import Tether.Text.Blank

/-!
# Client options

What a client tells of itself in the handshake.

* `ClientOptions.standard`: the options of a client that sets none;
* `ClientOptions.set`: sets an option. A capability or a list of scopes joins the
  ones before it, and any other setting takes the place of the one before it;
* `ClientOptions.connectParams`: the parameters of the handshake, in which empty
  lists are left out;
* `ClientOptions.check`: the first fault of the options.
-/

namespace Tether

/-- What a client tells of itself. -/
structure ClientOptions where
  id : String
  displayName : Option String
  version : String
  platform : String
  mode : String
  instanceId : Option String
  minProtocol : UInt32
  maxProtocol : UInt32
  caps : List String
  role : Option String
  scopes : List String
  locale : Option String
  userAgent : Option String
  timezone : Option String
  deriving DecidableEq, Repr

/-- What the options take from the host. -/
structure HostInfo where
  platform : String
  timezone : String
  /-- An id drawn at random for this process. -/
  instanceId : String
  deriving DecidableEq, Repr

namespace ClientOptions

/-- The id of a client that sets none. -/
def defaultId : String := "web-chat-ui"

/-- The mode of a client that sets none. -/
def defaultMode : String := "operator"

/-- The version of this library. -/
def libraryVersion : String := "0.1.0"

/-- The time zone of a host that has none. -/
def fallbackTimezone : String := "UTC"

/-- The time zone of a host: the one it tells, or else the one in the environment,
    without leading colons, unless it is empty. -/
def hostTimezone (told environment : Option String) : String :=
  match (told.or environment).map fun s => s.toList.dropWhile (· = ':') with
  | none | some [] => fallbackTimezone
  | some cs => String.ofList cs

/-- The options of a client that sets none. -/
def standard (host : HostInfo) : ClientOptions where
  id := defaultId
  displayName := none
  version := libraryVersion
  platform := host.platform
  mode := defaultMode
  instanceId := some host.instanceId
  minProtocol := protocolVersion
  maxProtocol := protocolVersion
  caps := []
  role := none
  scopes := []
  locale := none
  userAgent := some s!"gateway-channel/{libraryVersion}"
  timezone := some host.timezone

/-- A setting of an option. -/
inductive Setting
  | id (s : String)
  | displayName (s : String)
  | version (s : String)
  | platform (s : String)
  | mode (s : String)
  | protocolRange (min max : UInt32)
  | cap (s : String)
  | role (s : String)
  | scopes (ss : List String)
  | locale (s : String)
  | userAgent (s : String)
  | timezone (s : String)
  deriving DecidableEq, Repr

/-- The options with a setting. -/
def set (o : ClientOptions) : Setting → ClientOptions
  | .id s => { o with id := s }
  | .displayName s => { o with displayName := some s }
  | .version s => { o with version := s }
  | .platform s => { o with platform := s }
  | .mode s => { o with mode := s }
  | .protocolRange min max => { o with minProtocol := min, maxProtocol := max }
  | .cap s => { o with caps := o.caps ++ [s] }
  | .role s => { o with role := some s }
  | .scopes ss => { o with scopes := o.scopes ++ ss }
  | .locale s => { o with locale := some s }
  | .userAgent s => { o with userAgent := some s }
  | .timezone s => { o with timezone := some s }

/-- The options with all settings, in turn. -/
def setAll (o : ClientOptions) (settings : List Setting) : ClientOptions := settings.foldl set o

/-- A list, unless it is empty. -/
def nonEmpty? (ss : List String) : Option (List String) := if ss.isEmpty then none else some ss

/-- The parameters of the handshake. -/
def connectParams (o : ClientOptions) : ConnectParams where
  minProtocol := o.minProtocol
  maxProtocol := o.maxProtocol
  client := ⟨o.id, o.displayName, o.version, o.platform, o.mode, o.instanceId⟩
  caps := nonEmpty? o.caps
  role := o.role
  scopes := nonEmpty? o.scopes
  locale := o.locale
  userAgent := o.userAgent
  timezone := o.timezone

/-- What is wrong with options. -/
inductive Fault
  | blankId
  | blankMode
  | emptyProtocolRange (min max : UInt32)
  deriving DecidableEq, Repr

/-- The words of a fault. -/
def Fault.message : Fault → String
  | blankId => "client id must not be empty"
  | blankMode => "client mode must not be empty"
  | emptyProtocolRange min max =>
    s!"min protocol {min.toNat} is above max protocol {max.toNat}"

/-- The first fault of the options. -/
def check (o : ClientOptions) : Except Fault Unit :=
  if Text.isBlank o.id then .error .blankId
  else if Text.isBlank o.mode then .error .blankMode
  else if o.maxProtocol < o.minProtocol then
    .error (.emptyProtocolRange o.minProtocol o.maxProtocol)
  else .ok ()

end ClientOptions

end Tether
