namespace Fanout

inductive ErrorKind where
  /-- A timeout or a dropped connection. -/
  | network
  /-- A malformed or unexpected answer. -/
  | protocol
  /-- A session or key that does not work. -/
  | crypto
  /-- Storage, documents or settings on this side. -/
  | internal
deriving DecidableEq, Repr

inductive Error where
  | network (text : String)
  | timeout (what : String)
  | protocol (text : String)
  | unexpectedNode (expected got : String)
  | serverError (code context : String)
  | invalidJid (text : String)
  | crypto (text : String)
  | noSession (address : String)
  | storage (text : String)
  | serialization (text : String)
  | config (text : String)
  /-- A document that cannot be read. -/
  | json
  /-- A text that is no base64. -/
  | base64
deriving DecidableEq, Repr, Inhabited

namespace Error

def kind : Error → ErrorKind
  | .network _ | .timeout _ => .network
  | .protocol _ | .unexpectedNode .. | .serverError .. | .invalidJid _ => .protocol
  | .crypto _ | .noSession _ => .crypto
  | .storage _ | .serialization _ | .config _ | .json | .base64 => .internal

/-- Whether a message that failed so stays in the retry queue. -/
def isRetryable (e : Error) : Bool := e.kind = .network ∨ e.kind = .crypto

def message : Error → String
  | .network text => "Network error: " ++ text
  | .timeout what => "Timed out waiting for " ++ what
  | .protocol text => "Protocol error: " ++ text
  | .unexpectedNode expected got => "Unexpected node: expected <" ++ expected ++ ">, got <" ++ got ++ ">"
  | .serverError code context => "Server returned error " ++ code ++ " for " ++ context
  | .invalidJid text => "Invalid JID: " ++ text
  | .crypto text => "Crypto error: " ++ text
  | .noSession address => "No session for " ++ address
  | .storage text => "Storage error: " ++ text
  | .serialization text => "Serialization error: " ++ text
  | .config text => "Config error: " ++ text
  | .json => "unreadable document"
  | .base64 => "invalid base64"

end Error

end Fanout
