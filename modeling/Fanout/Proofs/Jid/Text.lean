import Fanout.Jid.Text
import Fanout.Proofs.Json.Fields
import Fanout.Proofs.Json.RoundTrip

namespace Fanout.Jid

theorem splitAtFirst_append {c : Char} {before : List Char} (h : c ∉ before) (after : List Char) :
    splitAtFirst c (before ++ c :: after) = some (before, after) := by
  induction before with
  | nil => simp [splitAtFirst]
  | cons d before ih =>
    obtain ⟨hd, hb⟩ := not_or.mp (mt List.mem_cons.mpr h)
    simp [splitAtFirst, Ne.symm hd, ih hb]

theorem splitAtFirst_eq_none {c : Char} {cs : List Char} (h : c ∉ cs) :
    splitAtFirst c cs = none := by
  induction cs with
  | nil => rfl
  | cons d cs ih =>
    obtain ⟨hd, hc⟩ := not_or.mp (mt List.mem_cons.mpr h)
    simp [splitAtFirst, Ne.symm hd, ih hc]

theorem not_mem_of_isUserName {user : String} (h : isUserName user = true) :
    '@' ∉ user.toList ∧ ':' ∉ user.toList := by
  simp only [isUserName, Bool.not_eq_true', List.any_eq_false, decide_eq_true_eq] at h
  exact ⟨fun hm => h _ hm (Or.inl rfl), fun hm => h _ hm (Or.inr rfl)⟩

theorem readUnsigned?_of_digits {ds : List Char} (hne : ds ≠ [])
    (hd : ∀ c ∈ ds, c.isDigit = true) : readUnsigned? ds = some (Numeral.value ds) := by
  cases ds with
  | nil => exact absurd rfl hne
  | cons c cs =>
    have hc : c ≠ '+' := by
      rintro rfl
      simpa using hd '+' List.mem_cons_self
    have hall : (c :: cs).all Char.isDigit = true := List.all_eq_true.mpr hd
    simp [readUnsigned?, hc, hall]

theorem readUnsigned?_digits (n : Nat) : readUnsigned? (Numeral.digits n) = some n := by
  rw [readUnsigned?_of_digits (Numeral.digits_ne_nil n) fun _ => Numeral.isDigit_of_mem_digits,
    Numeral.value_digits]

theorem readDevice?_digits (d : UInt16) : readDevice? (Numeral.digits d.toNat) = some d := by
  have := d.toNat_lt_size
  simp [readDevice?, readUnsigned?_digits, Option.filter, this]

theorem decode_encode (j : Jid) : decode j.encode = .ok j := by
  obtain ⟨user, server, device, clean, allowed, nonzero⟩ := j
  obtain ⟨hat, hcolon⟩ := not_mem_of_isUserName clean
  cases device with
  | none =>
    simp [decode, encode, chars, deviceText, splitAtFirst_append hat, splitAtFirst_eq_none hcolon,
      Server.parse?_text, make, clean, ofUser]
  | some d =>
    have hd : '@' ∉ user.toList ++ ':' :: Numeral.digits d.toNat := by
      simp only [List.mem_append, List.mem_cons, not_or]
      refine ⟨hat, by decide, fun h => ?_⟩
      have := Numeral.isDigit_of_mem_digits h
      simp at this
    have h0 : d ≠ 0 := fun h => nonzero (by rw [h])
    have hs : server.supportsDevices = true := allowed rfl
    have hsplit := splitAtFirst_append hd server.text.toList
    rw [List.append_assoc, List.cons_append] at hsplit
    simp [decode, encode, chars, deviceText, hsplit, Server.parse?_text,
      splitAtFirst_append hcolon, readDevice?_digits, withDevice, hs, clean, h0]

theorem encode_injective : Function.Injective encode := by
  intro a b h
  have := (decode_encode a).symm.trans (h ▸ decode_encode b)
  exact Except.ok.inj this

@[simp] theorem ofJson?_toJson (j : Jid) : ofJson? j.toJson = some j := by
  simp [ofJson?, toJson, Json.ofString, Json.asString?, decode_encode, Except.toOption]

@[simp] theorem regular_toJson (j : Jid) : j.toJson.Regular := rfl

@[simp] theorem sound_toJson (j : Jid) : j.toJson.sound = true := rfl

@[simp] theorem optional_toJson (j : Jid) :
    Json.optional ofJson? (some j.toJson) = some (some j) :=
  congrArg (Option.map some) (ofJson?_toJson j)

end Fanout.Jid
