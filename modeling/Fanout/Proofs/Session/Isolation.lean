import Fanout.Proofs.Jid.Address
import Fanout.Proofs.Rehearsal.Stage
import Fanout.Proofs.Storage

namespace Fanout.Repository

open SessionStore

variable {ω : Type} {host : Host ω} {a b : Jid} {w w' : World ω}

theorem sessionKey_injective : Function.Injective sessionKey := fun _ _ h =>
  ProtocolAddress.text_injective ((String.append_right_inj _).mp h)

def HoldsSession (b : Jid) (key : String) : Prop := key = sessionKey b.protocolAddress

/-- What can be asked for the session of a device. -/
inductive Call where
  | inject (bundle : PreKeyBundle)
  | encrypt (plaintext : List UInt8)
  | decrypt (envelope : Envelope)
  | delete

/-- The world after a call for a device, whichever way the call ends. -/
def Call.after (host : Host ω) (a : Jid) (w : World ω) : Call → World ω
  | inject bundle => (injectSession host a bundle).after w
  | encrypt plaintext => (Repository.encrypt host a plaintext).after w
  | decrypt envelope => (Repository.decrypt host a envelope).after w
  | delete => (deleteSessions host [a]).after w

/-- The record of a session is as it was, and so is what is found out about it. -/
structure SameSession (host : Host ω) (b : Jid) (w w' : World ω) : Prop where
  document : w'.documents.find? (sessionKey b.protocolAddress) =
    w.documents.find? (sessionKey b.protocolAddress)
  has : ∀ found found' v v', hasSession host b w = .ok found v →
    hasSession host b w' = .ok found' v' → found' = found
  record : ∀ session session' v v', loadSession host b.protocolAddress w = .ok session v →
    loadSession host b.protocolAddress w' = .ok session' v' → session' = session

theorem hasSession_eq_ok {found : Bool} (h : hasSession host b w = .ok found w') :
    found = (w.documents.find? (sessionKey b.protocolAddress)).isSome := by
  obtain ⟨text, u, hg, h⟩ := Act.bind_eq_ok.mp h
  obtain ⟨_, read⟩ := Storage.get_eq_ok.mp hg
  cases h
  rw [read]

/-- All that is known of a session is in its document. -/
theorem SameSession.of_document (document : w'.documents.find? (sessionKey b.protocolAddress) =
    w.documents.find? (sessionKey b.protocolAddress)) : SameSession host b w w' := by
  refine ⟨document, fun found found' v v' h h' => ?_, fun session session' v v' h h' => ?_⟩
  · rw [hasSession_eq_ok h, hasSession_eq_ok h', document]
  · obtain ⟨_, read⟩ := Storage.load_eq_ok h
    obtain ⟨_, read'⟩ := Storage.load_eq_ok h'
    rw [Storage.peek?, document] at read'
    exact Option.some.inj (read'.symm.trans read)

theorem Call.sameSession (apart : a.protocolAddress ≠ b.protocolAddress) (call : Call) :
    SameSession host b w (call.after host a w) := by
  have other : ¬HoldsSession b (sessionKey a.protocolAddress) :=
    fun same => apart (sessionKey_injective same)
  have follows : World.Follows (fun _ _ => True) (HoldsSession b) (fun _ => False) w
      (call.after host a w) := by
    have hh := host.keeps_true
    cases call with
    | inject bundle => exact injectSession_keeps hh other bundle w
    | encrypt plaintext => exact encrypt_keeps hh other plaintext w
    | decrypt envelope => exact decrypt_keeps hh other envelope w
    | delete =>
      refine deleteSessions_keeps hh (fun jid only => ?_) (fun _ _ none => none) w
      rwa [List.mem_singleton.mp only]
  exact .of_document (follows.documents _ rfl)

/-- No call for one device touches the session of another, on any host and in any state. -/
def Isolated (a b : Jid) : Prop :=
  ∀ (ω : Type) (host : Host ω) (w : World ω) (call : Call),
    SameSession host b w (call.after host a w)

theorem isolated_iff_protocolAddress_ne : Isolated a b ↔ a.protocolAddress ≠ b.protocolAddress := by
  constructor
  · intro isolated same
    have opened := (isolated Stage Stage.plain ⟨∅, Stage.opening⟩ (.inject default)).document
    have stored : ((Call.inject default).after Stage.plain a ⟨∅, Stage.opening⟩).documents =
        Dict.insert ∅ (sessionKey a.protocolAddress) (SessionRecord.toJson ⟨[1]⟩).compact := rfl
    rw [stored, same, Dict.find?_insert, if_pos rfl] at opened
    cases opened
  · exact fun apart _ _ _ call => call.sameSession apart

/-- Sessions of different devices are isolated but for a lid and the individual that has its user
name with the mark. -/
theorem isolated_iff (ha : a.server.supportsDevices = true) (hb : b.server.supportsDevices = true)
    (ne : a ≠ b) : Isolated a b ↔ ¬(a.PassesFor b ∨ b.PassesFor a) := by
  rw [isolated_iff_protocolAddress_ne, ne_eq, Jid.protocolAddress_eq_iff ha hb, or_iff_right ne]

theorem friend_isolated_from_ownLid : Isolated Stage.friend Stage.ownLid :=
  (isolated_iff (by decide) (by decide) (by decide)).mpr (by decide)

/-- The individual whose user name is what our lid takes for its records. -/
def namesake : Jid := .ofUser "4_1" .individual (by decide)

/-- A session that is opened for our lid is there for its namesake too. -/
theorem ownLid_not_isolated_from_namesake :
    Stage.ownLid.server.supportsDevices = true ∧ namesake.server.supportsDevices = true ∧
      Stage.ownLid ≠ namesake ∧
      (hasSession Stage.plain namesake).yields ⟨∅, Stage.opening⟩ (fun found _ => !found) = true ∧
      (hasSession Stage.plain namesake).yields
        ((Call.inject default).after Stage.plain Stage.ownLid ⟨∅, Stage.opening⟩)
        (fun found _ => found) = true ∧
      ¬Isolated Stage.ownLid namesake := by
  refine ⟨by decide, by decide, by decide, by decide +kernel, by decide +kernel, ?_⟩
  rw [isolated_iff_protocolAddress_ne]
  exact fun apart => apart rfl

end Fanout.Repository
