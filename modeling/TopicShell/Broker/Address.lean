import TopicShell.Broker.Uri

/-!
# Broker addresses

`scheme://host:port/path`, or the same without the scheme, which then is `tcp`.  The scheme decides
the default port, whether the connection is encrypted, and whether it runs over web sockets.
-/

namespace TopicShell.Broker

open TopicShell.Text

inductive Scheme where
  | tcp
  | mqtt
  | ssl
  | tls
  | mqtts
  | ws
  | wss
  deriving DecidableEq

namespace Scheme

def name : Scheme → String
  | tcp => "tcp"
  | mqtt => "mqtt"
  | ssl => "ssl"
  | tls => "tls"
  | mqtts => "mqtts"
  | ws => "ws"
  | wss => "wss"

def all : List Scheme := [tcp, mqtt, ssl, tls, mqtts, ws, wss]

def ofName? (name : String) : Option Scheme :=
  all.find? (·.name == name)

theorem ofName?_name (s : Scheme) : ofName? s.name = some s := by
  cases s <;> decide

def isEncrypted : Scheme → Bool
  | ssl | tls | mqtts | wss => true
  | tcp | mqtt | ws => false

def isWebSocket : Scheme → Bool
  | ws | wss => true
  | tcp | mqtt | ssl | tls | mqtts => false

def defaultPort : Scheme → Nat
  | tcp | mqtt => 1883
  | ssl | tls | mqtts => 8883
  | ws => 80
  | wss => 443

end Scheme

inductive Transport where
  | tcp
  | webSockets
  deriving DecidableEq

def Transport.name : Transport → String
  | tcp => "tcp"
  | webSockets => "websockets"

structure Address where
  scheme : Scheme
  host : String
  port : Nat
  path : String := "/"
  deriving DecidableEq

namespace Address

def isEncrypted (a : Address) : Bool :=
  a.scheme.isEncrypted

def transport (a : Address) : Transport :=
  if a.scheme.isWebSocket then .webSockets else .tcp

end Address

/-- Why a text is no broker address: the identifier itself is malformed, or it names a scheme or
a host that cannot be used. -/
inductive AddressError where
  | malformed (cause : UriError)
  | unsupported (scheme : String)
  | noHost (uri : String)
  deriving DecidableEq

def AddressError.message : AddressError → String
  | .malformed cause => cause.message
  | .unsupported scheme => "unsupported broker scheme: " ++ scheme
  | .noHost uri => "invalid broker uri: " ++ uri

namespace Address

/-- The text with its scheme, `tcp` if it names none. -/
def withScheme (text : List Char) : List Char :=
  if contains [':', '/', '/'] text then text else ['t', 'c', 'p', ':', '/', '/'] ++ text

def ofUri (text : String) (u : Uri) : Except AddressError Address :=
  let scheme := String.ofList u.scheme
  match Scheme.ofName? scheme with
  | none => .error (.unsupported scheme)
  | some s =>
    if u.host.isEmpty then .error (.noHost text)
    else
      match u.port with
      | .error e => .error (.malformed e)
      | .ok port =>
        .ok { scheme := s
              host := String.ofList u.host
              port := if port.getD 0 = 0 then s.defaultPort else port.getD 0
              path := if u.path.isEmpty then "/" else String.ofList u.path }

def parse (text : String) : Except AddressError Address :=
  match Uri.split (withScheme text.toList) with
  | .error e => .error (.malformed e)
  | .ok u => ofUri text u

end Address

end TopicShell.Broker
