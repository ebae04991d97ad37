import Fanout.Message.Padding
import Fanout.Proofs.Decimal.Layout
import Fanout.Proofs.Jid.Text
import Fanout.Proofs.Json.Fields

namespace Fanout

open Json

namespace MessageKey

@[simp] theorem regular_toJson (k : MessageKey) : k.toJson.Regular := by
  cases h : k.participant <;> simp [toJson, member?, h]

@[simp] theorem sound_toJson (k : MessageKey) : k.toJson.sound = true := by
  cases h : k.participant <;> simp [toJson, member?, h]

@[simp] theorem ofJson?_toJson (k : MessageKey) : ofJson? k.toJson = some k := by
  obtain ⟨remote, id, fromMe, participant⟩ := k
  cases participant <;>
    simp [toJson, ofJson?, member?, ofMembers, fields, member1?]

end MessageKey

namespace MediaInfo

@[simp] theorem regular_toJson (m : MediaInfo) : m.toJson.Regular := by
  cases h : m.caption <;> cases h' : m.fileName <;> simp [toJson, member?, h, h']

@[simp] theorem sound_toJson (m : MediaInfo) : m.toJson.sound = true := by
  have := sound_ofNat m.fileLength.toNat_lt_size
  cases h : m.caption <;> cases h' : m.fileName <;> simp [toJson, member?, h, h', this]

@[simp] theorem ofJson?_toJson (m : MediaInfo) : ofJson? m.toJson = some m := by
  obtain ⟨url, mimetype, length, mediaKey, sha, caption, fileName⟩ := m
  cases caption <;> cases fileName <;>
    simp [toJson, ofJson?, member?, ofMembers, fields, member1?]

end MediaInfo

namespace Message

/-- Whether a message gives a location, itself or within. -/
def hasLocation : Message → Bool
  | location _ _ _ => true
  | edit _ message | deviceSent _ message => message.hasLocation
  | _ => false

@[simp] theorem regular_toJson (m : Message) : m.toJson.Regular := by
  induction m with
  | edit key message ih => simp [toJson, tagged, ih]
  | deviceSent destination message ih => simp [toJson, tagged, ih]
  | _ => simp [toJson, tagged]

theorem sound_toJson {m : Message} (h : m.hasLocation = false) : m.toJson.sound = true := by
  induction m with
  | location => simp [hasLocation] at h
  | edit key message ih => simp [toJson, tagged, ih h]
  | deviceSent destination message ih => simp [toJson, tagged, ih h]
  | poll name options count =>
    have := sound_ofNat (Nat.lt_trans count.toNat_lt_size (by decide))
    simp [toJson, tagged, this]
  | _ => simp [toJson, tagged]

theorem ofWord?_word (kind : Kind) : Kind.ofWord? kind.word = some kind := by
  cases kind <;> decide

theorem splitKind?_tagged (inner : Bool) (kind : Kind) {members : List (String × Json)}
    (h : ∀ m ∈ members, m.1 ≠ "type") :
    splitKind? inner (tagged kind members) = some (kind, ofMembers members) := by
  have untyped : ∀ m ∈ members.map fun m => (some m.1, m.2), m.1 ≠ some "type" :=
    List.forall_mem_map.mpr fun m hm => by simpa using h m hm
  have none_typed := List.filter_eq_nil_iff.mpr fun m hm => (untyped m hm ∘ of_decide_eq_true)
  have all_kept := List.filter_eq_self.mpr fun m hm => decide_eq_true (untyped m hm)
  simp only [tagged, ofMembers, splitKind?, member1?, List.map_cons, ofString]
  rw [List.filter_cons_of_pos (by simp), none_typed, List.filter_cons_of_neg (by simp), all_kept]
  simp [Kind.ofJson?, ofWord?_word]

theorem room_of_depth {m : Message} {room : Nat} (hd : m.toJson.depth ≤ room) :
    ∃ k, room = k + 1 := by
  have pos : m.toJson.depth ≠ 0 := by
    cases m <;> simp [toJson, tagged, ofMembers, depth]
  exact Nat.exists_eq_add_one_of_ne_zero (by omega)

/-- The documents of nested messages nest no less than the messages. -/
theorem readWithin_toJson {m : Message} (h : m.hasLocation = false) {room : Nat} (inner : Bool)
    (hd : m.toJson.depth ≤ room) : readWithin room inner m.toJson = some m := by
  induction m generalizing room inner with
  | location => simp [hasLocation] at h
  | edit key message ih =>
    obtain ⟨room, rfl⟩ := room_of_depth hd
    have read : readWithin room true message.toJson = some message := ih h true (by
      simp only [toJson, tagged, ofMembers, List.map_cons, depth, depthMembers] at hd
      omega)
    simp [toJson, readWithin, splitKind?_tagged, Kind.fieldNames, ofMembers, fields, member1?, read]
  | deviceSent destination message ih =>
    obtain ⟨room, rfl⟩ := room_of_depth hd
    have read : readWithin room true message.toJson = some message := ih h true (by
      simp only [toJson, tagged, ofMembers, List.map_cons, depth, depthMembers] at hd
      omega)
    simp [toJson, readWithin, splitKind?_tagged, Kind.fieldNames, ofMembers, fields, member1?, read]
  | _ =>
    obtain ⟨room, rfl⟩ := room_of_depth hd
    simp [toJson, readWithin, splitKind?_tagged, Kind.fieldNames, ofMembers, fields, member1?,
      asList?_array asString?_ofString]

theorem ofJson?_toJson {m : Message} (h : m.hasLocation = false) (hd : m.toJson.depth ≤ deepest) :
    ofJson? m.toJson = some m := by
  simp [ofJson?, ofJsonWithin?, sound_toJson h, hd, readWithin_toJson h false hd]

theorem unpad_pad {count : Nat} (hc : 0 < count) (hb : count < 256) (bytes : List UInt8) :
    unpad (pad count bytes) = .ok bytes := by
  have value : (UInt8.ofNat count).toNat = count := by simp; omega
  have last : (pad count bytes).getLast? = some (UInt8.ofNat count) := by
    rw [pad, List.getLast?_append, List.getLast?_replicate, if_neg (by omega)]
    rfl
  have fits : ¬(count = 0 ∨ (pad count bytes).length < count) := by
    simp [pad]
    omega
  simp only [unpad, last, value, if_neg fits]
  simp [pad]

theorem ofBytes?_bytes {m : Message} (h : m.hasLocation = false) (hd : m.toJson.depth ≤ deepest) :
    ofBytes? m.bytes = some m := by
  simp [ofBytes?, bytes, Utf8.decode?_encode, parse?_compact m.regular_toJson,
    ofJson?_toJson h hd]

theorem decode_encode {m : Message} (h : m.hasLocation = false) (hd : m.toJson.depth ≤ deepest)
    {count : Nat} (hc : 0 < count) (hb : count < 256) : decode (encode count m) = .ok m := by
  simp [decode, encode, unpad_pad hc hb, ofBytes?_bytes h hd, bind, Except.bind]

end Message

end Fanout
