import Mathlib.Data.List.Perm.Basic
import Fanout.Proofs.Jid.Address
import Fanout.Proofs.Rehearsal.Stage

namespace Fanout

theorem Server.eq_of_text_prefix {a b : Server} (h : a.text.toList <+: b.text.toList) : a = b := by
  cases a <;> cases b <;> revert h <;> decide

namespace Jid

theorem chars_ne_nil (j : Jid) : j.chars ≠ [] := by
  simp [chars]

/-- The account and the device of an address stand before its first `@`. -/
theorem splitAtFirst_chars_append (j : Jid) (rest : List Char) :
    splitAtFirst '@' (j.chars ++ rest) =
      some (j.user.toList ++ deviceText j.device, j.server.text.toList ++ rest) := by
  have account : '@' ∉ j.user.toList ++ deviceText j.device := by
    rw [List.mem_append, not_or]
    refine ⟨(not_mem_of_isUserName j.user_clean).1, ?_⟩
    cases j.device with
    | none => simp [deviceText]
    | some d =>
      rw [deviceText, List.mem_cons, not_or]
      refine ⟨by decide, fun digit => ?_⟩
      have := Numeral.isDigit_of_mem_digits digit
      simp at this
  rw [chars, List.append_assoc (j.user.toList ++ deviceText j.device), List.cons_append]
  exact splitAtFirst_append account (j.server.text.toList ++ rest)

/-- Whatever follows them, two texts of addresses that begin alike are those of one address. -/
theorem chars_append_inj {j k : Jid} {rest rest' : List Char}
    (h : j.chars ++ rest = k.chars ++ rest') : j = k ∧ rest = rest' := by
  have split := (splitAtFirst_chars_append j rest).symm.trans
    (h ▸ splitAtFirst_chars_append k rest')
  obtain ⟨account, after⟩ := Prod.mk.inj (Option.some.inj split)
  have server : j.server = k.server := by
    have here : j.server.text.toList <+: k.server.text.toList ++ rest' :=
      after ▸ List.prefix_append _ _
    rcases List.prefix_or_prefix_of_prefix here (List.prefix_append _ _) with first | second
    · exact Server.eq_of_text_prefix first
    · exact (Server.eq_of_text_prefix second).symm
  have text : j.chars = k.chars := by
    rw [chars, chars, account, server]
  rw [server] at after
  exact ⟨encode_injective (congrArg String.ofList text), List.append_cancel_left after⟩

/-- Texts of addresses can be told apart where they stand one after another. -/
theorem flatMap_chars_injective : Function.Injective fun js : List Jid => js.flatMap chars := by
  intro js ks h
  induction js generalizing ks with
  | nil =>
    cases ks with
    | nil => rfl
    | cons k ks => exact absurd (List.append_eq_nil_iff.mp h.symm).1 k.chars_ne_nil
  | cons j js ih =>
    cases ks with
    | nil => exact absurd (List.append_eq_nil_iff.mp h).1 j.chars_ne_nil
    | cons k ks =>
      obtain ⟨rfl, rest⟩ := chars_append_inj h
      exact congrArg (j :: ·) (ih rest)

/-- What an address says, however it was come by. -/
def parts (j : Jid) : String × Server × UInt16 := (j.user, j.server, j.deviceId)

theorem parts_injective : Function.Injective parts := by
  intro j k h
  obtain ⟨user, rest⟩ := Prod.mk.inj h
  obtain ⟨server, device⟩ := Prod.mk.inj rest
  exact ext' user server (deviceId_eq_iff.mp device)

end Jid

theorem Utf8.encode_injective : Function.Injective encode := by
  intro s t h
  exact Option.some.inj ((decode?_encode s).symm.trans (h ▸ decode?_encode t))

namespace Stanza

/-- The devices in the order of their texts. -/
def ordered (devices : List Jid) : List Jid :=
  devices.mergeSort fun a b => a.encode ≤ b.encode

theorem ordered_perm (devices : List Jid) : (ordered devices).Perm devices :=
  List.mergeSort_perm devices _

theorem pairwise_ordered (devices : List Jid) :
    (ordered devices).Pairwise fun a b => a.encode ≤ b.encode := by
  have sorted : (ordered devices).Pairwise fun a b => decide (a.encode ≤ b.encode) = true := by
    refine List.pairwise_mergeSort (fun a b c ab bc => ?_) (fun a b => ?_) devices
    · exact decide_eq_true (String.le_trans (of_decide_eq_true ab) (of_decide_eq_true bc))
    · simpa using String.le_total a.encode b.encode
  exact sorted.imp of_decide_eq_true

/-- Only the order of the devices is lost. -/
theorem ordered_eq_iff {a b : List Jid} : ordered a = ordered b ↔ a.Perm b := by
  refine ⟨fun same => ?_, fun perm => ?_⟩
  · exact (ordered_perm a).symm.trans (same ▸ ordered_perm b)
  · have perm : (ordered a).Perm (ordered b) :=
      (ordered_perm a).trans (perm.trans (ordered_perm b).symm)
    refine perm.eq_of_pairwise ?_ (pairwise_ordered a) (pairwise_ordered b)
    intro j k _ _ le ge
    exact Jid.encode_injective (String.le_antisymm le ge)

theorem hashedDevices_eq (devices : List Jid) :
    hashedDevices devices = Utf8.encode (String.ofList ((ordered devices).flatMap Jid.chars)) := by
  have texts : (devices.map Jid.encode).mergeSort (fun a b => a ≤ b) =
      (ordered devices).map Jid.encode :=
    (@List.map_mergeSort _ _ (fun a b : Jid => a.encode ≤ b.encode) (fun a b => a ≤ b) Jid.encode
      devices fun _ _ _ _ => rfl).symm
  have joined : String.join ((ordered devices).map Jid.encode) =
      String.ofList ((ordered devices).flatMap Jid.chars) := by
    apply String.toList_injective
    rw [String.toList_join, List.flatMap_map, String.toList_ofList]
    exact congrArg (ordered devices).flatMap (funext fun j => String.toList_ofList)
  rw [hashedDevices, texts, joined]

/-- The bytes that are hashed for two lists of devices are the same exactly if the lists differ in
order alone. The hash of the participants is the start of the digest of these bytes, so it hangs only
on which devices there are, and how often, and not on how their addresses were made. -/
theorem hashedDevices_eq_iff_perm (a b : List Jid) :
    participantHash a = "2:" ++ Base64.encode ((Sha256.digest (hashedDevices a)).take 6) ∧
      (hashedDevices a = hashedDevices b ↔ a.Perm b) ∧
      ((a.map Jid.parts).Perm (b.map Jid.parts) → participantHash a = participantHash b) := by
  have identified : hashedDevices a = hashedDevices b ↔ a.Perm b := by
    rw [hashedDevices_eq, hashedDevices_eq, Utf8.encode_injective.eq_iff, String.ofList_inj,
      Jid.flatMap_chars_injective.eq_iff, ordered_eq_iff]
  refine ⟨rfl, identified, fun alike => ?_⟩
  have perm : a.Perm b := (List.map_perm_map_iff Jid.parts_injective).mp alike
  rw [participantHash, participantHash, identified.mpr perm]

/-- Our friend's primary device is hashed as what it is, in any place and under any spelling. -/
theorem respelled_friend_hashed_alike :
    ∃ respelled, Jid.decode "2:0@c.us" = .ok respelled ∧
      ([Stage.friend, Stage.ownLinked].map Jid.parts).Perm
        ([Stage.ownLinked, respelled].map Jid.parts) ∧
      participantHash [Stage.friend, Stage.ownLinked] =
        participantHash [Stage.ownLinked, respelled] := by
  have read : Jid.decode "2:0@c.us" = .ok Stage.friend := rfl
  have alike : ([Stage.friend, Stage.ownLinked].map Jid.parts).Perm
      ([Stage.ownLinked, Stage.friend].map Jid.parts) := by decide
  exact ⟨Stage.friend, read, alike, (hashedDevices_eq_iff_perm _ _).2.2 alike⟩

end Stanza

end Fanout
