import Fanout.Message.Basic

namespace Fanout

open Json

namespace MessageKey

def toJson (k : MessageKey) : Json :=
  .ofMembers ([("remoteJid", k.remoteJid.toJson), ("id", .ofString k.id),
    ("fromMe", .bool k.fromMe)] ++ member? "participant" (k.participant.map Jid.toJson))

def ofJson? (v : Json) : Option MessageKey := do
  match ← v.fields ["remoteJid", "id", "fromMe", "participant"] with
  | [remoteJid, id, fromMe, participant] =>
    return {
      remoteJid := ← required Jid.ofJson? remoteJid
      id := ← required asString? id
      fromMe := ← required asBool? fromMe
      participant := ← optional Jid.ofJson? participant }
  | _ => none

end MessageKey

namespace MediaInfo

def toJson (m : MediaInfo) : Json :=
  .ofMembers ([("url", .ofString m.url), ("mimetype", .ofString m.mimetype),
    ("fileLength", .ofNat m.fileLength.toNat), ("mediaKey", .ofString m.mediaKey),
    ("fileSha256", .ofString m.fileSha256)] ++ member? "caption" (m.caption.map ofString) ++
    member? "fileName" (m.fileName.map ofString))

def ofJson? (v : Json) : Option MediaInfo := do
  match ← v.fields ["url", "mimetype", "fileLength", "mediaKey", "fileSha256", "caption",
    "fileName"] with
  | [url, mimetype, fileLength, mediaKey, fileSha256, caption, fileName] =>
    return {
      url := ← required asString? url
      mimetype := ← required asString? mimetype
      fileLength := ← required asUInt64? fileLength
      mediaKey := ← required asString? mediaKey
      fileSha256 := ← required asString? fileSha256
      caption := ← optional asString? caption
      fileName := ← optional asString? fileName }
  | _ => none

end MediaInfo

namespace Message

inductive Kind where
  | text | image | video | audio | document | sticker | contact | location | reaction | poll | edit
  | revoke | deviceSent | senderKeyDistribution
deriving DecidableEq

namespace Kind

def all : List Kind := [text, image, video, audio, document, sticker, contact, location, reaction,
  poll, edit, revoke, deviceSent, senderKeyDistribution]

def word : Kind → String
  | text => "text"
  | image => "image"
  | video => "video"
  | audio => "audio"
  | document => "document"
  | sticker => "sticker"
  | contact => "contact"
  | location => "location"
  | reaction => "reaction"
  | poll => "poll"
  | edit => "edit"
  | revoke => "revoke"
  | deviceSent => "deviceSent"
  | senderKeyDistribution => "senderKeyDistribution"

def ofWord? (s : String) : Option Kind := all.find? (fun k => k.word = s)

/-- A message within another one may also give its kind by its place among the kinds. -/
def ofJson? (inner : Bool) : Json → Option Kind
  | .string word => word.bind ofWord?
  | .number n => if inner then n.toNat?.bind (all[·]?) else none
  | _ => none

/-- The fields of a kind in order. -/
def fieldNames : Kind → List String
  | text => ["text"]
  | image | document | sticker => ["media"]
  | video => ["media", "gif_playback"]
  | audio => ["media", "ptt"]
  | contact => ["displayName", "vcard"]
  | location => ["latitude", "longitude", "live"]
  | reaction => ["key", "text"]
  | poll => ["name", "options", "selectableCount"]
  | edit => ["key", "message"]
  | revoke => ["key"]
  | deviceSent => ["destinationJid", "message"]
  | senderKeyDistribution => ["groupId", "distribution"]

end Kind

def tagged (kind : Kind) (members : List (String × Json)) : Json :=
  .ofMembers (("type", .ofString kind.word) :: members)

def toJson : Message → Json
  | text content => tagged .text [("text", .ofString content)]
  | image media => tagged .image [("media", media.toJson)]
  | video media gifPlayback =>
    tagged .video [("media", media.toJson), ("gif_playback", .bool gifPlayback)]
  | audio media ptt => tagged .audio [("media", media.toJson), ("ptt", .bool ptt)]
  | document media => tagged .document [("media", media.toJson)]
  | sticker media => tagged .sticker [("media", media.toJson)]
  | contact displayName vcard =>
    tagged .contact [("displayName", .ofString displayName), ("vcard", .ofString vcard)]
  | location latitude longitude live =>
    tagged .location [("latitude", .ofFloat latitude), ("longitude", .ofFloat longitude),
      ("live", .bool live)]
  | reaction key emoji => tagged .reaction [("key", key.toJson), ("text", .ofString emoji)]
  | poll name options selectableCount =>
    tagged .poll [("name", .ofString name), ("options", .array (options.map .ofString)),
      ("selectableCount", .ofNat selectableCount.toNat)]
  | edit key message => tagged .edit [("key", key.toJson), ("message", message.toJson)]
  | revoke key => tagged .revoke [("key", key.toJson)]
  | deviceSent destination message =>
    tagged .deviceSent [("destinationJid", destination.toJson), ("message", message.toJson)]
  | senderKeyDistribution group distribution =>
    tagged .senderKeyDistribution [("groupId", group.toJson),
      ("distribution", .ofString distribution)]

/-- The kind of a message document, and the document without it. -/
def splitKind? (inner : Bool) : Json → Option (Kind × Json)
  | .object members => do
    let kind ← required (Kind.ofJson? inner) (← member1? "type" members)
    return (kind, .object (members.filter fun m => m.1 ≠ some "type"))
  | .array (kind :: rest) => do return (← Kind.ofJson? inner kind, .array rest)
  | _ => none

/-- Reads a document that nests at most `room` messages. -/
def readWithin : Nat → Bool → Json → Option Message
  | 0, _, _ => none
  | room + 1, inner, v => do
    let (kind, body) ← splitKind? inner v
    match kind, ← body.fields kind.fieldNames with
    | .text, [content] => return text (← required asString? content)
    | .image, [media] => return image (← required MediaInfo.ofJson? media)
    | .video, [media, gifPlayback] =>
      return video (← required MediaInfo.ofJson? media) (← withDefault false asBool? gifPlayback)
    | .audio, [media, ptt] =>
      return audio (← required MediaInfo.ofJson? media) (← withDefault false asBool? ptt)
    | .document, [media] => return document (← required MediaInfo.ofJson? media)
    | .sticker, [media] => return sticker (← required MediaInfo.ofJson? media)
    | .contact, [displayName, vcard] =>
      return contact (← required asString? displayName) (← required asString? vcard)
    | .location, [latitude, longitude, live] =>
      return location (← required asFloat? latitude) (← required asFloat? longitude)
        (← withDefault false asBool? live)
    | .reaction, [key, emoji] =>
      return reaction (← required MessageKey.ofJson? key) (← required asString? emoji)
    | .poll, [name, options, selectableCount] =>
      return poll (← required asString? name) (← required (asList? asString?) options)
        (← required asUInt32? selectableCount)
    | .edit, [key, message] =>
      return edit (← required MessageKey.ofJson? key) (← required (readWithin room true) message)
    | .revoke, [key] => return revoke (← required MessageKey.ofJson? key)
    | .deviceSent, [destination, message] =>
      return deviceSent (← required Jid.ofJson? destination)
        (← required (readWithin room true) message)
    | .senderKeyDistribution, [group, distribution] =>
      return senderKeyDistribution (← required Jid.ofJson? group) (← required asString? distribution)
    | _, _ => none

/-- Reads a message that stands within `outer` containers of a document. -/
def ofJsonWithin? (outer : Nat) (v : Json) : Option Message :=
  if v.sound ∧ v.depth + outer ≤ deepest then readWithin deepest false v else none

def ofJson? (v : Json) : Option Message := ofJsonWithin? 0 v

end Message

end Fanout
