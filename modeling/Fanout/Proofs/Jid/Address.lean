import Fanout.Jid.Address
import Fanout.Proofs.Jid.Text

namespace Fanout

/-- The number after the last point is the device, whatever points the name has. -/
theorem ProtocolAddress.text_injective : Function.Injective text := by
  have reversed : ∀ a : ProtocolAddress, Jid.splitAtFirst '.' a.text.toList.reverse =
      some ((Numeral.digits a.device.toNat).reverse, a.name.toList.reverse) := by
    intro a
    have chars : a.text.toList.reverse =
        (Numeral.digits a.device.toNat).reverse ++ '.' :: a.name.toList.reverse := by
      simp [text, Numeral.digits, Nat.repr]
    have pointless : '.' ∉ (Numeral.digits a.device.toNat).reverse := by
      intro point
      have := Numeral.isDigit_of_mem_digits (List.mem_reverse.mp point)
      simp at this
    rw [chars, Jid.splitAtFirst_append pointless]
  intro a b h
  have same := (reversed a).symm.trans (h ▸ reversed b)
  obtain ⟨digits, name⟩ := Prod.mk.inj (Option.some.inj same)
  have device : a.device.toNat = b.device.toNat := by
    rw [← Numeral.value_digits a.device.toNat, List.reverse_inj.mp digits, Numeral.value_digits]
  obtain ⟨_, _⟩ := a
  obtain ⟨_, _⟩ := b
  obtain rfl := String.toList_injective (List.reverse_inj.mp name)
  obtain rfl := UInt16.toNat.inj device
  rfl

namespace Jid

variable {a b : Jid}

theorem deviceId_eq_iff : a.deviceId = b.deviceId ↔ a.device = b.device := by
  have primary : ∀ (j : Jid) (d : UInt16), j.device = some d → d ≠ 0 := fun j _ h zero =>
    j.device_ne_zero (h.trans (congrArg some zero))
  rw [deviceId, deviceId]
  cases ha : a.device with
  | none =>
    cases hb : b.device with
    | none => simp
    | some e => simp [(primary b e hb).symm]
  | some d =>
    cases hb : b.device with
    | none => simp [primary a d ha]
    | some e => simp

theorem protocolAddress_of_individual (h : a.server = .individual) :
    a.protocolAddress = ⟨a.user, a.deviceId⟩ := by
  rw [protocolAddress, if_neg (by simp [h])]

theorem protocolAddress_of_lid (h : a.server = .lid) :
    a.protocolAddress = ⟨a.user ++ "_1", a.deviceId⟩ := by
  rw [protocolAddress, if_pos h]

/-- An individual with the user name that a lid takes for its records, on the same device. -/
def PassesFor (a b : Jid) : Prop :=
  a.server = .individual ∧ b.server = .lid ∧ a.user = b.user ++ "_1" ∧ a.device = b.device

instance : Decidable (a.PassesFor b) := by
  unfold PassesFor
  infer_instance

/-- An individual and a lid share an address only in this way. -/
theorem protocolAddress_eq_iff_passesFor (ha : a.server = .individual) (hb : b.server = .lid) :
    a.protocolAddress = b.protocolAddress ↔ a.PassesFor b := by
  simp only [protocolAddress_of_individual ha, protocolAddress_of_lid hb,
    ProtocolAddress.mk.injEq, deviceId_eq_iff, PassesFor, ha, hb, true_and]

theorem eq_of_protocolAddress_eq (server : a.server = b.server)
    (h : a.protocolAddress = b.protocolAddress) : a = b := by
  obtain ⟨name, device⟩ := ProtocolAddress.mk.inj h
  refine ext' ?_ server (deviceId_eq_iff.mp device)
  rw [server] at name
  split at name
  · exact String.append_left_inj _ |>.mp name
  · exact name

theorem server_of_supportsDevices (h : a.server.supportsDevices = true) :
    a.server = .individual ∨ a.server = .lid := by
  simpa [Server.supportsDevices] using h

theorem protocolAddress_eq_iff (ha : a.server.supportsDevices = true)
    (hb : b.server.supportsDevices = true) :
    a.protocolAddress = b.protocolAddress ↔ a = b ∨ a.PassesFor b ∨ b.PassesFor a := by
  constructor
  · intro h
    rcases server_of_supportsDevices ha with individual | lid <;>
      rcases server_of_supportsDevices hb with individual' | lid'
    · exact .inl (eq_of_protocolAddress_eq (individual.trans individual'.symm) h)
    · exact .inr (.inl ((protocolAddress_eq_iff_passesFor individual lid').mp h))
    · exact .inr (.inr ((protocolAddress_eq_iff_passesFor individual' lid).mp h.symm))
    · exact .inl (eq_of_protocolAddress_eq (lid.trans lid'.symm) h)
  · rintro (rfl | passes | passes)
    · rfl
    · exact (protocolAddress_eq_iff_passesFor passes.1 passes.2.1).mpr passes
    · exact ((protocolAddress_eq_iff_passesFor passes.1 passes.2.1).mpr passes).symm

end Jid

end Fanout
