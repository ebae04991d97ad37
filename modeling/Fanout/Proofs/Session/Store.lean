import Fanout.Proofs.Jid.Address
import Fanout.Proofs.SenderKey.Memory
import Fanout.Session.Store

namespace Fanout

theorem Jid.colon_not_mem_encode (j : Jid) : ':' ∉ j.withoutDevice.encode.toList := by
  have server : ':' ∉ j.server.text.toList := by
    cases j.server <;> decide
  have chars : j.withoutDevice.encode.toList = j.user.toList ++ '@' :: j.server.text.toList := by
    simp [encode, Jid.chars, withoutDevice, ofUser, deviceText]
  rw [chars, List.mem_append, List.mem_cons, not_or, not_or]
  exact ⟨(not_mem_of_isUserName j.user_clean).2, by decide, server⟩

/-- The text of a group has no colon, so the first one ends it. -/
theorem SenderKeyName.halves_of_text_eq {group sender group' sender' : Jid}
    (h : (of group sender).text = (of group' sender').text) :
    group.withoutDevice.encode = group'.withoutDevice.encode ∧
      sender.protocolAddress.text = sender'.protocolAddress.text := by
  have chars : ∀ g s : Jid, (of g s).text.toList =
      g.withoutDevice.encode.toList ++ ':' :: (':' :: s.protocolAddress.text.toList) := by
    intro g s
    simp [text, of]
  have halves : ∀ g s : Jid, Jid.splitAtFirst ':' (of g s).text.toList =
      some (g.withoutDevice.encode.toList, ':' :: s.protocolAddress.text.toList) := by
    intro g s
    rw [chars, Jid.splitAtFirst_append g.colon_not_mem_encode]
  have same := (halves group sender).symm.trans (h ▸ halves group' sender')
  obtain ⟨front, back⟩ := Prod.mk.inj (Option.some.inj same)
  exact ⟨String.toList_injective front, String.toList_injective (List.cons.inj back).2⟩

theorem SenderKeyName.group_eq_of_text_eq {group sender group' sender' : Jid}
    (h : (of group sender).text = (of group' sender').text) :
    group.withoutDevice = group'.withoutDevice :=
  Jid.encode_injective (halves_of_text_eq h).1

theorem SenderKeyName.of_eq_of_text_eq {group sender group' sender' : Jid}
    (h : (of group sender).text = (of group' sender').text) :
    of group sender = of group' sender' := by
  have same : group.withoutDevice = group'.withoutDevice := group_eq_of_text_eq h
  have address := ProtocolAddress.text_injective (halves_of_text_eq h).2
  rw [of, of, same, address]

namespace SessionStore

theorem group_eq_of_senderKeyKey_eq {group sender group' sender' : Jid}
    (h : senderKeyKey (.of group sender) = senderKeyKey (.of group' sender')) :
    group.withoutDevice = group'.withoutDevice :=
  SenderKeyName.group_eq_of_text_eq ((String.append_right_inj senderKeyHome).mp h)

theorem of_eq_of_senderKeyKey_eq {group sender group' sender' : Jid}
    (h : senderKeyKey (.of group sender) = senderKeyKey (.of group' sender')) :
    SenderKeyName.of group sender = .of group' sender' :=
  SenderKeyName.of_eq_of_text_eq ((String.append_right_inj senderKeyHome).mp h)

theorem sessionKey_ne_senderKeyKey (a : ProtocolAddress) (n : SenderKeyName) :
    sessionKey a ≠ senderKeyKey n := by
  intro same
  have chars := congrArg String.toList same
  simp [sessionKey, senderKeyKey, senderKeyHome, String.toList_append] at chars

theorem senderKeyKey_ne_key (name : SenderKeyName) (group : Jid) :
    senderKeyKey name ≠ SenderKeyMemory.key group := by
  intro same
  have record := isRecord_senderKeyKey name
  rw [same, SenderKeyMemory.isRecord_key] at record
  cases record

end SessionStore

end Fanout
