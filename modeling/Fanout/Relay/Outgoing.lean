import Fanout.Credentials
import Fanout.Message.Document
import Fanout.Relay.Options
import Fanout.Stanza

namespace Fanout

inductive DestinationKind where
  | group
  /-- Status posts and broadcast lists. -/
  | status
  | newsletter
  | lid
  | individual
deriving DecidableEq, Inhabited

namespace DestinationKind

def classify (jid : Jid) : DestinationKind :=
  match jid.server with
  | .group => group
  | .broadcast => status
  | .newsletter => newsletter
  | .lid => lid
  | .individual => individual

def word : DestinationKind → String
  | group => "group"
  | status => "status"
  | newsletter => "newsletter"
  | lid => "lid"
  | individual => "individual"

def usesSenderKey : DestinationKind → Bool
  | group | status => true
  | newsletter | lid | individual => false

end DestinationKind

structure Outgoing where
  destination : Jid
  message : Message
  messageId : String
  options : RelayOptions

namespace Outgoing

def kind (o : Outgoing) : DestinationKind := .classify o.destination

def participant (o : Outgoing) : Option Jid := o.options.participant

/-- What ciphertexts between devices show as count. -/
def count (o : Outgoing) : Option UInt32 :=
  if 0 < o.options.retryCount then some o.options.retryCount else none

def withEdit (o : Outgoing) (d : Stanza.Draft) : Stanza.Draft :=
  match o.message.editAttribute o.destination with
  | some edit => d.withAttr "edit" edit
  | none => d

/-- A message for one device is addressed to it, unless the whole group can read it. -/
def withParticipant (o : Outgoing) (credentials : Credentials) (d : Stanza.Draft) : Stanza.Draft :=
  match o.participant with
  | none => d
  | some participant =>
    if o.kind.usesSenderKey then d.withAttr "participant" participant.encode
    else
      let d := { d with recipient := participant }.withAttr "device_fanout" "false"
      if credentials.isMe participant then d.withAttr "recipient" o.destination.encode else d

def header (o : Outgoing) (credentials : Credentials) : Stanza.Draft :=
  o.withParticipant credentials (o.withEdit
    ((Stanza.Draft.new o.messageId o.destination o.message.stanzaType).withAttrs
      o.options.additionalAttributes))

end Outgoing

end Fanout
