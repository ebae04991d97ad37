import Fanout.Error
import Fanout.Json.Lookup

namespace Fanout

def ErrorKind.name : ErrorKind → String
  | .network => "Network"
  | .protocol => "Protocol"
  | .crypto => "Crypto"
  | .internal => "Local"

namespace Error

def name : Error → String
  | .network _ => "Network"
  | .timeout _ => "Timeout"
  | .protocol _ => "Protocol"
  | .unexpectedNode .. => "UnexpectedNode"
  | .serverError .. => "ServerError"
  | .invalidJid _ => "InvalidJid"
  | .crypto _ => "Crypto"
  | .noSession _ => "NoSession"
  | .storage _ => "Storage"
  | .serialization _ => "Serialization"
  | .config _ => "Config"
  | .json => "Json"
  | .base64 => "Base64"

/-- The error of a name, with its texts; an unknown name is taken for an unreadable document. -/
def ofName (name text code got : String) : Error :=
  let all : List Error := [.network text, .timeout text, .protocol text, .unexpectedNode text got,
    .serverError code text, .invalidJid text, .crypto text, .noSession text, .storage text,
    .serialization text, .config text, .base64]
  (all.find? fun e => e.name = name).getD .json

def ofJson (v : Json) : Error :=
  ofName (v.textAt "variant") (v.textAt "text") (v.textAt "code") (v.textAt "got")

end Error

end Fanout
