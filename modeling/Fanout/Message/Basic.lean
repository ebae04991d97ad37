import Fanout.Jid.Text

namespace Fanout

/-- Names a message that was sent or received before. -/
structure MessageKey where
  remoteJid : Jid
  id : String
  fromMe : Bool
  participant : Option Jid
deriving DecidableEq

/-- A file that is already uploaded. -/
structure MediaInfo where
  url : String
  mimetype : String
  fileLength : UInt64
  mediaKey : String
  fileSha256 : String
  caption : Option String
  fileName : Option String
deriving DecidableEq

inductive Message where
  | text (content : String)
  | image (media : MediaInfo)
  | video (media : MediaInfo) (gifPlayback : Bool)
  | audio (media : MediaInfo) (ptt : Bool)
  | document (media : MediaInfo)
  | sticker (media : MediaInfo)
  | contact (displayName vcard : String)
  | location (latitude longitude : Float) (live : Bool)
  | reaction (key : MessageKey) (emoji : String)
  | poll (name : String) (options : List String) (selectableCount : UInt32)
  | edit (key : MessageKey) (message : Message)
  | revoke (key : MessageKey)
  /-- The copy for the sender's own devices. -/
  | deviceSent (destination : Jid) (message : Message)
  /-- A sender key on its way to a device of a group. -/
  | senderKeyDistribution (group : Jid) (distribution : String)
deriving Inhabited, BEq

namespace Message

/-- What `enc` and `plaintext` nodes give as media type. -/
def mediaType : Message → Option String
  | image _ => some "image"
  | video _ gifPlayback => some (if gifPlayback then "gif" else "video")
  | audio _ ptt => some (if ptt then "ptt" else "audio")
  | document _ => some "document"
  | sticker _ => some "sticker"
  | contact _ _ => some "vcard"
  | location _ _ live => if live then some "livelocation" else none
  | edit _ message | deviceSent _ message => message.mediaType
  | text _ | reaction _ _ | poll _ _ _ | revoke _ | senderKeyDistribution _ _ => none

/-- What the stanza as a whole gives as type. -/
def stanzaType : Message → String
  | reaction _ _ => "reaction"
  | poll _ _ _ => "poll"
  | edit _ message | deviceSent _ message => message.stanzaType
  | message => if message.mediaType.isSome then "media" else "text"

/-- The mark of a message that edits or deletes another one. -/
def editAttribute (destination : Jid) : Message → Option String
  | edit _ _ => some "1"
  | revoke key => if destination.isGroup ∧ ¬key.fromMe then some "8" else some "7"
  | reaction _ emoji => if emoji = "" then some "7" else none
  | _ => none

end Message

end Fanout
