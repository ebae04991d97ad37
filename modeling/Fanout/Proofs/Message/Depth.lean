import Fanout.Proofs.Json.Compact
import Fanout.Proofs.Message.RoundTrip

namespace Fanout.Message

open Json

variable {m : Message} {count : Nat}

theorem ofJson?_of_too_deep {v : Json} (deep : deepest < v.depth) : ofJson? v = none := by
  have refused : ¬(v.sound = true ∧ v.depth + 0 ≤ deepest) := by
    rintro ⟨_, shallow⟩
    omega
  rw [ofJson?, ofJsonWithin?, if_neg refused]

/-- The text reads as a document all the same; it is the document that is no message. -/
theorem ofBytes?_of_too_deep (deep : deepest < m.toJson.depth) : ofBytes? m.bytes = none := by
  have text : Utf8.decode? m.bytes = some m.toJson.compact := Utf8.decode?_encode _
  have document : parse? m.toJson.compact = some m.toJson := parse?_compact m.regular_toJson
  simp [ofBytes?, text, document, ofJson?_of_too_deep deep]

theorem decode_encode_of_too_deep (hc : 0 < count) (hb : count < 256)
    (deep : deepest < m.toJson.depth) : decode (encode count m) = .error .json := by
  have bytes : unpad (encode count m) = .ok m.bytes := unpad_pad hc hb m.bytes
  simp [decode, bytes, bind, Except.bind, ofBytes?_of_too_deep deep]

theorem encode_eq_append (count : Nat) (m : Message) : encode count m =
    Utf8.encode m.toJson.compact ++ List.replicate count (UInt8.ofNat count) := rfl

/-- A message without a location is written as the text of its document, without blanks but those of
its strings and standing for this document alone, and as many bytes more as each of them says. It
reads back just as it was if there are at most 127 containers in one another, and is refused if
there are more. -/
theorem encode_reads_back_unless_too_deep (placeless : m.hasLocation = false) (hc : 1 ≤ count)
    (hb : count ≤ 16) :
    (∃ padding, encode count m = Utf8.encode m.toJson.compact ++ padding ∧
      padding.length = count ∧ ∀ b ∈ padding, b.toNat = count) ∧
    tight m.toJson.compact.toList = true ∧ parse? m.toJson.compact = some m.toJson ∧
    decode (encode count m) = if m.toJson.depth ≤ 127 then .ok m else .error .json := by
  have small : count < 256 := by omega
  refine ⟨⟨_, encode_eq_append count m, List.length_replicate, ?_⟩,
    tight_compact m.regular_toJson, parse?_compact m.regular_toJson, ?_⟩
  · intro b hb
    rw [List.eq_of_mem_replicate hb, UInt8.toNat_ofNat', Nat.mod_eq_of_lt small]
  · split
    next shallow => exact decode_encode placeless shallow hc small
    next deep => exact decode_encode_of_too_deep hc small (Nat.lt_of_not_le deep)

/-- A greeting within so many copies for the sender's own devices. -/
def greeting : Nat → Message
  | 0 => .text "hi"
  | n + 1 => .deviceSent .service (greeting n)

theorem hasLocation_greeting (n : Nat) : (greeting n).hasLocation = false := by
  induction n with
  | zero => rfl
  | succ n ih => exact ih

theorem depth_greeting (n : Nat) : (greeting n).toJson.depth = n + 1 := by
  induction n with
  | zero => rfl
  | succ n ih =>
    have own : Jid.service.toJson.depth = 0 := rfl
    simp [greeting, toJson, tagged, ofMembers, depth, depthMembers, ofString, own, ih]

/-- The deepest greeting that reads back, and the next one. -/
theorem greeting_reads_back_up_to_limit :
    decode (encode 16 (greeting 126)) = .ok (greeting 126) ∧
      decode (encode 1 (greeting 127)) = .error .json := by
  have last := (@encode_reads_back_unless_too_deep (greeting 126) 16 (hasLocation_greeting 126)
    (by decide) (by decide)).2.2.2
  have next := (@encode_reads_back_unless_too_deep (greeting 127) 1 (hasLocation_greeting 127)
    (by decide) (by decide)).2.2.2
  rw [depth_greeting] at last next
  exact ⟨last, next⟩

end Fanout.Message
