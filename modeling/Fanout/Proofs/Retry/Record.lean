import Fanout.Proofs.Message.RoundTrip
import Fanout.Retry.Record

namespace Fanout

open Json

theorem Json.regular_filled {slots : List (String × Option Json)}
    (h : ∀ s ∈ slots, ∀ v, s.2 = some v → v.Regular) : (ofMembers (filled slots)).Regular := by
  rw [regular_ofMembers]
  rintro ⟨name, v⟩ hm
  exact h _ (mem_filled.mp hm) v rfl

namespace RelayOptions

def slots (o : RelayOptions) : List (String × Option Json) :=
  [("messageId", o.messageId.map ofString), ("participant", o.participant.map Jid.toJson),
    ("additionalAttributes", if o.additionalAttributes.isEmpty then none
      else some (.ofMembers (o.additionalAttributes.mapValues ofString).entries)),
    ("useUserDevicesCache", some (.bool o.useUserDevicesCache)),
    ("useCachedGroupMetadata", some (.bool o.useCachedGroupMetadata)),
    ("statusJidList", if o.statusJidList = [] then none
      else some (.array (o.statusJidList.map Jid.toJson))),
    ("retryCount", some (.ofNat o.retryCount.toNat))]

theorem toJson_eq (o : RelayOptions) : o.toJson = .ofMembers (filled o.slots) := by
  simp [toJson, slots, filled, member?]

@[simp] theorem regular_toJson (o : RelayOptions) : o.toJson.Regular := by
  have attributes : ∀ v ∈ (o.additionalAttributes.mapValues ofString).entries, v.2.Regular := by
    intro v hv
    obtain ⟨e, _, rfl⟩ := List.mem_map.mp hv
    exact regular_ofString e.2
  rw [toJson_eq]
  refine regular_filled ?_
  simp [slots]
  exact fun _ name v given => attributes (name, v) given

@[simp] theorem ofJson?_toJson (o : RelayOptions) : ofJson? o.toJson = some o := by
  have id : optional asString? (o.messageId.map ofString) = some o.messageId :=
    optional_map asString?_ofString (fun _ => by simp [ofString]) o.messageId
  have participant : optional Jid.ofJson? (o.participant.map Jid.toJson) = some o.participant :=
    optional_map Jid.ofJson?_toJson (fun _ => by simp [Jid.toJson, ofString]) o.participant
  have attributes : withDefault ∅ (asDict? asString?) (if o.additionalAttributes.isEmpty then none
      else some (.ofMembers (o.additionalAttributes.mapValues ofString).entries)) =
        some o.additionalAttributes := by
    split
    next empty =>
      have same : o.additionalAttributes = ∅ := Dict.ext_entries (List.isEmpty_iff.mp empty)
      rw [same]
      rfl
    next => exact asDict?_ofMembers asString?_ofString o.additionalAttributes
  have list : withDefault [] (asList? Jid.ofJson?) (if o.statusJidList = [] then none
      else some (.array (o.statusJidList.map Jid.toJson))) = some o.statusJidList := by
    split
    next empty => rw [empty]; rfl
    next => exact asList?_array Jid.ofJson?_toJson o.statusJidList
  have distinct : (o.slots.map (·.1)).Nodup := by simp [slots]
  have read := fields_filled distinct
  rw [← toJson_eq] at read
  simp only [slots, List.map_cons, List.map_nil] at read
  simp [ofJson?, read, id, participant, attributes, list]

end RelayOptions

@[simp] theorem RetryState.ofWord?_word (s : RetryState) : ofWord? s.word = some s := by
  cases s <;> decide

namespace RetryRecord

def slots (r : RetryRecord) : List (String × Option Json) :=
  [("messageId", some (ofString r.messageId)), ("jid", some r.jid.toJson),
    ("message", some r.message.toJson), ("options", some r.options.toJson),
    ("attemptCount", some (ofNat r.attemptCount)), ("nextAttemptAt", some (ofNat r.nextAttemptAt)),
    ("delayMs", some (ofNat r.delayMs)), ("errors", some (.array (r.errors.map ofString))),
    ("state", some (ofString r.state.word)), ("inactiveSince", r.inactiveSince.map ofNat),
    ("createdAt", some (ofNat r.createdAt))]

theorem toJson_eq (r : RetryRecord) : r.toJson = .ofMembers (filled r.slots) := by
  simp [toJson, slots, filled, member?]

@[simp] theorem regular_toJson (r : RetryRecord) : r.toJson.Regular := by
  rw [toJson_eq]
  refine regular_filled ?_
  simp [slots]

theorem Fits.new {now : Nat} (shown : now < UInt64.size) (id : String) (jid : Jid)
    (message : Message) (options : RelayOptions) : (RetryRecord.new id jid message options now).Fits :=
  ⟨Nat.two_pow_pos 32, shown, Nat.two_pow_pos 64, fun _ none => (nomatch none), shown⟩

theorem Fits.taken {r : RetryRecord} (fits : r.Fits) : { r with inFlight := true }.Fits :=
  ⟨fits.attemptCount, fits.nextAttemptAt, fits.delayMs, fits.inactiveSince, fits.createdAt⟩

theorem fields_toJson (r : RetryRecord) :
    r.toJson.fields (r.slots.map (·.1)) = some (r.slots.map (·.2)) := by
  rw [toJson_eq]
  exact fields_filled (by simp [slots])

theorem ofJson?_toJson {r : RetryRecord} (fits : r.Fits) :
    ofJson? r.toJson = (Message.ofJsonWithin? 1 r.message.toJson).map fun message =>
      { r with message, inFlight := false } := by
  have read := r.fields_toJson
  have errors := asList?_array asString?_ofString r.errors
  have state : asWord? RetryState.ofWord? (ofString r.state.word) = some r.state :=
    r.state.ofWord?_word
  simp only [slots, List.map_cons, List.map_nil] at read
  simp [ofJson?, read, errors, state, optional_ofNat fits.inactiveSince,
    asNat?_ofNat fits.attemptCount, asNat?_ofNat fits.nextAttemptAt, asNat?_ofNat fits.delayMs,
    asNat?_ofNat fits.createdAt]
  exact Option.map_eq_bind.symm

/-- What can be read of a record is the record, but for its message. -/
theorem eq_of_ofJson?_toJson {r r' : RetryRecord} (h : ofJson? r.toJson = some r') :
    ∃ message, r' = { r with message, inFlight := false } := by
  have read := r.fields_toJson
  have errors := asList?_array asString?_ofString r.errors
  have state : asWord? RetryState.ofWord? (ofString r.state.word) = some r.state :=
    r.state.ofWord?_word
  simp only [slots, List.map_cons, List.map_nil] at read
  simp [ofJson?, read, errors, state, Option.bind_eq_some_iff] at h
  obtain ⟨message, _, attempts, h₁, next, h₂, delay, h₃, since, h₄, created, h₅, rfl⟩ := h
  obtain rfl := eq_of_asNat?_ofNat h₁
  obtain rfl := eq_of_asNat?_ofNat h₂
  obtain rfl := eq_of_asNat?_ofNat h₃
  obtain rfl := eq_of_asNat?_ofNat h₅
  obtain rfl := eq_of_optional_ofNat h₄
  exact ⟨message, rfl⟩

/-- The record of a document, if it can be read. -/
def ofText? (text : String) : Option RetryRecord := (Json.parse? text).bind ofJson?

theorem ofText?_compact (r : RetryRecord) : ofText? r.toJson.compact = ofJson? r.toJson := by
  rw [ofText?, parse?_compact r.regular_toJson]
  rfl

/-- Records that are read back whole: they give no location, and a document can nest them. -/
structure Plain (r : RetryRecord) : Prop where
  placeless : r.message.hasLocation = false
  shallow : r.message.toJson.depth < deepest

theorem depth_message (r : RetryRecord) : r.message.toJson.depth < r.toJson.depth := by
  have slot : ("message", some r.message.toJson) ∈ r.slots := by simp [slots]
  rw [toJson_eq]
  exact depth_lt_ofMembers (mem_filled.mpr slot)

theorem Plain.of_depth {r : RetryRecord} (placeless : r.message.hasLocation = false)
    (shallow : r.toJson.depth ≤ deepest) : r.Plain :=
  ⟨placeless, Nat.lt_of_lt_of_le r.depth_message shallow⟩

theorem Plain.ofText?_compact {r : RetryRecord} (plain : r.Plain) (fits : r.Fits) :
    ofText? r.toJson.compact = some { r with inFlight := false } := by
  have shallow := plain.shallow
  have message : Message.ofJsonWithin? 1 r.message.toJson = some r.message := by
    have sound := Message.sound_toJson plain.placeless
    rw [Message.ofJsonWithin?, if_pos ⟨sound, by omega⟩]
    exact Message.readWithin_toJson plain.placeless false (by omega)
  rw [r.ofText?_compact, ofJson?_toJson fits, message]
  rfl

theorem eq_of_ofText?_compact {r r' : RetryRecord} (h : ofText? r.toJson.compact = some r') :
    ∃ message, r' = { r with message, inFlight := false } :=
  eq_of_ofJson?_toJson (r.ofText?_compact ▸ h)

end RetryRecord

end Fanout
