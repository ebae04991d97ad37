import Fanout.Proofs.Credentials.Updates
import Fanout.Proofs.Relay.Queue
import Fanout.Proofs.Retry.Filing
import Fanout.Proofs.Session.Records

namespace Fanout

inductive Component where
  | sessions
  | senderKeys
  | senderKeyMemory
  | retries
  | credentials
deriving DecidableEq

/-- What a document is kept for. -/
inductive Subject where
  | session (address : ProtocolAddress)
  | senderKey (name : SenderKeyName)
  | flags (group : Jid)
  | retry (id : String)
  | credentials

namespace Component

/-- What the keys of a component begin with. -/
def home : Component → String
  | sessions => "v1/session/"
  | senderKeys => SessionStore.senderKeyHome
  | senderKeyMemory => "v1/sender-key-memory/"
  | retries => Relay.retryHome
  | credentials => Credentials.key

/-- Whether a key is one of a component's. There is only one document of credentials. -/
def Owns : Component → String → Prop
  | credentials, key => key = Credentials.key
  | c, key => Storage.startsWith c.home key = true

variable {c d : Component} {key : String}

theorem Owns.startsWith (owns : c.Owns key) : Storage.startsWith c.home key = true := by
  cases c with
  | credentials =>
    obtain rfl : key = Credentials.key := owns
    exact Storage.startsWith_iff.mpr ⟨"", by simp [home]⟩
  | _ => exact owns

theorem eq_of_home_starts : ∀ {c d : Component}, c.home.toList <+: d.home.toList → c = d := by
  intro c d
  cases c <;> cases d <;> decide

theorem Owns.unique (owns : c.Owns key) (owns' : d.Owns key) : c = d := by
  have here := List.isPrefixOf_iff_prefix.mp owns.startsWith
  have there := List.isPrefixOf_iff_prefix.mp owns'.startsWith
  rcases List.prefix_or_prefix_of_prefix here there with shorter | longer
  · exact eq_of_home_starts shorter
  · exact (eq_of_home_starts longer).symm

end Component

namespace Subject

def key : Subject → String
  | session address => SessionStore.sessionKey address
  | senderKey name => SessionStore.senderKeyKey name
  | flags group => SenderKeyMemory.key group
  | retry id => Relay.retryHome ++ id
  | credentials => Credentials.key

def component : Subject → Component
  | session _ => .sessions
  | senderKey _ => .senderKeys
  | flags _ => .senderKeyMemory
  | retry _ => .retries
  | credentials => .credentials

theorem owned (a : Subject) : a.component.Owns a.key := by
  cases a with
  | session address => exact Storage.startsWith_iff.mpr ⟨address.text, rfl⟩
  | senderKey name => exact Storage.startsWith_iff.mpr ⟨name.text, rfl⟩
  | flags group => exact Storage.startsWith_iff.mpr ⟨group.encode, rfl⟩
  | retry id => exact Storage.startsWith_iff.mpr ⟨id, rfl⟩
  | credentials => rfl

/-- Whatever the identifiers are, documents of different components have different keys. -/
theorem key_ne {a b : Subject} (apart : a.component ≠ b.component) : a.key ≠ b.key :=
  fun same => apart (a.owned.unique (same ▸ b.owned))

end Subject

namespace Repository

def Place.component : Place → Component
  | session _ => .sessions
  | senderKey _ => .senderKeys

theorem Place.owned (place : Place) : place.component.Owns place.key := by
  cases place with
  | session address => exact (Subject.session address).owned
  | senderKey name => exact (Subject.senderKey name).owned

end Repository

/-- Each document at the home of retry records is the text of the record that its key names. -/
def Documents.Tidy (d : Documents) : Prop :=
  ∀ id text, d.find? (Relay.retryHome ++ id) = some text → RetryQueue.IsText id text

/-- Some components were at work: the documents of all others are as they were, and retry records
are as tidy as before. -/
structure Touched (used : List Component) (v w : Documents) : Prop where
  others : ∀ key, (∀ c ∈ used, ¬c.Owns key) → w.find? key = v.find? key
  tidy : v.Tidy → w.Tidy

namespace Touched

variable {used : List Component} {v w : Documents}

instance : IsPreorder Documents (Touched used) where
  refl _ := ⟨fun _ _ => rfl, id⟩
  trans _ _ _ h h' :=
    ⟨fun key away => (h'.others key away).trans (h.others key away), h'.tidy ∘ h.tidy⟩

theorem of_same (same : ∀ key, w.find? key = v.find? key) : Touched used v w := by
  refine ⟨fun key _ => same key, fun tidy id text found => tidy id text ?_⟩
  rwa [same] at found

/-- Where retries are not at work, their documents are among the others. -/
theorem of_others (idle : .retries ∉ used)
    (others : ∀ key, (∀ c ∈ used, ¬c.Owns key) → w.find? key = v.find? key) :
    Touched used v w := by
  refine ⟨others, fun tidy id text found => tidy id text ?_⟩
  have away : ∀ c ∈ used, ¬c.Owns (Relay.retryHome ++ id) := by
    intro c works owns
    obtain rfl : c = .retries := owns.unique (Subject.retry id).owned
    exact idle works
  rwa [others _ away] at found

theorem of_refiles {home : Option String} (works : .retries ∈ used)
    (atHome : ∀ start, home = some start → start = Relay.retryHome)
    (h : RetryQueue.Refiles home v w) : Touched used v w := by
  constructor
  · intro key away
    rcases h key with same | ⟨start, id, there, rfl, _⟩
    · exact same
    · obtain rfl := atHome start there
      exact absurd (Subject.retry id).owned (away _ works)
  · intro tidy id text found
    rcases h (Relay.retryHome ++ id) with same | ⟨start, id', there, same, filed⟩
    · exact tidy id text (same ▸ found)
    · obtain rfl := atHome start there
      obtain rfl := (String.append_right_inj Relay.retryHome).mp same
      exact filed text found

theorem mono {used' : List Component} (more : used ⊆ used') (h : Touched used v w) :
    Touched used' v w :=
  ⟨fun key away => h.others key fun c works => away c (more works), h.tidy⟩

end Touched

end Fanout
