import Fanout.Proofs.Host.Recorded
import Fanout.Rehearsal.Stage
import Fanout.Relay.Basic

namespace Fanout

/-- A cipher that hides nothing. -/
def Cipher.plain {ω : Type} : Cipher ω where
  initiate _ _ := pure ⟨[1]⟩
  encrypt _ session plaintext := pure (⟨.msg, plaintext⟩, session)
  decrypt _ session envelope := pure (envelope.body, session.getD ⟨[1]⟩)
  distribution _ record :=
    let record := if record.data = [] then ⟨[1]⟩ else record
    pure (record.data, record)
  groupEncrypt _ record plaintext := pure (plaintext, record)
  acceptDistribution _ _ distribution := pure ⟨distribution⟩
  groupDecrypt _ record ciphertext := pure (ciphertext, record)

namespace Stage

/-- Nothing is refused, nothing fails, and nothing is acknowledged while a stanza is sent. -/
def smooth : Host Stage :=
  { host with
    refuses := fun _ s => (none, s)
    send := fun _ s => .settled (.ok ()) s
    cipher := Loopback.cipher nextNoise }

def plain : Host Stage := { smooth with cipher := Cipher.plain }

theorem plain_quiet : plain.Quiet := fun _ s => ⟨.ok (), s, rfl⟩

def chat : Jid := .ofUser "1-1" .group (by decide)

def friend : Jid := .ofUser "2" .individual (by decide)

/-- A channel that anybody may read: what goes there is not encrypted. -/
def channel : Jid := .ofUser "1" .newsletter (by decide)

def own : Jid := .ofUser "3" .individual (by decide)

/-- Our account as it is on this device. -/
def ownLinked : Jid := ⟨"3", .individual, some 5, by decide, by decide, by decide⟩

def ownLid : Jid := .ofUser "4" .lid (by decide)

/-- Members of the chat are addressed by lid, and our friend has two devices. -/
def opening : Stage :=
  { script :=
      { groups := Dict.ofList [(chat, (.lid, [friend]))]
        devices := Dict.ofList [(friend, [0, 7])] }
    time := 0
    seed := 0 }

end Stage

/-- What we say in a rehearsal, under an id. -/
def Outgoing.hello (destination : Jid) (id : String) : Outgoing :=
  ⟨destination, .text "hi", id, { messageId := some id }⟩

/-- A relay that knows nothing yet. -/
def Relay.atOpening (credentials : Credentials) : Relay (Recorded Stage) :=
  { config := {}
    credentials
    directories := { devices := ∅, groups := ∅, memory := ∅, world := ⟨∅, Stage.opening, []⟩ }
    retry := .new {}
    trackers := .new {}
    running := false }

end Fanout
