import Mathlib.Data.List.Basic
import Fanout.Proofs.Dict
import Fanout.Proofs.Jid.Text
import Fanout.Proofs.Json.Fields
import Fanout.Proofs.Storage
import Fanout.Proofs.World.Frame
import Fanout.SenderKey.Memory

namespace Fanout

namespace DeviceFlags

theorem regular_toJson (flags : DeviceFlags) : flags.toJson.Regular := by
  rw [toJson, Json.regular_ofMembers]
  intro m hm
  obtain ⟨e, _, rfl⟩ := List.mem_map.mp hm
  exact Json.regular_bool e.2

theorem ofJson?_toJson (flags : DeviceFlags) : ofJson? flags.toJson = some flags :=
  Json.asDict?_ofMembers Json.asBool?_bool flags

theorem find?_markAll (flags : DeviceFlags) (devices : List Jid) (name : String) :
    (flags.markAll devices).find? name =
      if name ∈ devices.map Jid.encode then some true else flags.find? name := by
  induction devices generalizing flags with
  | nil => simp [markAll, Dict.insertAll]
  | cons jid devices ih =>
    have step : flags.markAll (jid :: devices) = markAll (flags.insert jid.encode true) devices :=
      rfl
    rw [step, ih, Dict.find?_insert]
    by_cases h : jid.encode = name
    · simp [h]
    · simp [h, Ne.symm h]

theorem holds_markAll (flags : DeviceFlags) (devices : List Jid) (jid : Jid) :
    (flags.markAll devices).holds jid = true ↔ flags.holds jid = true ∨ jid ∈ devices := by
  have same : jid.encode ∈ devices.map Jid.encode ↔ jid ∈ devices :=
    List.mem_map_of_injective Jid.encode_injective
  rw [holds, holds, find?_markAll]
  by_cases h : jid ∈ devices <;> simp [same, h]

end DeviceFlags

namespace SenderKeyMemory

/-- The flags that the store keeps for a group: none if they cannot be read. -/
def stored? (documents : Documents) (group : Jid) : Option DeviceFlags :=
  (Storage.peek? DeviceFlags.ofJson? documents (key group)).map (·.getD ∅)

/-- The flags of a group as a look at them finds them. -/
def snapshot? (memory : SenderKeyMemory) (documents : Documents) (group : Jid) :
    Option DeviceFlags :=
  match memory.find? group with
  | some flags => some flags
  | none => stored? documents group

/-- What was looked at before is what the store keeps. -/
def Coherent (memory : SenderKeyMemory) (documents : Documents) : Prop :=
  ∀ group flags, memory.find? group = some flags → stored? documents group = some flags

theorem key_injective : Function.Injective key :=
  fun _ _ h => Jid.encode_injective ((String.append_right_inj _).mp h)

theorem isRecord_key (group : Jid) : SessionStore.isRecord (key group) = false := by
  unfold key SessionStore.isRecord SessionStore.senderKeyHome
  rw [Storage.startsWith_append, Storage.startsWith_append]
  simp [List.isPrefixOf]

theorem stored?_congr {documents documents' : Documents} {group : Jid}
    (h : documents'.find? (key group) = documents.find? (key group)) :
    stored? documents' group = stored? documents group := by
  rw [stored?, stored?, Storage.peek?, Storage.peek?, h]

theorem snapshot?_congr {documents documents' : Documents} {group : Jid} (memory : SenderKeyMemory)
    (h : documents'.find? (key group) = documents.find? (key group)) :
    snapshot? memory documents' group = snapshot? memory documents group := by
  rw [snapshot?, snapshot?, stored?_congr h]

theorem snapshot?_of_find? {memory : SenderKeyMemory} {group : Jid} {flags : DeviceFlags}
    (h : memory.find? group = some flags) (documents : Documents) :
    snapshot? memory documents group = some flags := by
  rw [snapshot?, h]

theorem snapshot?_eq_stored? {memory : SenderKeyMemory} {documents : Documents}
    (h : Coherent memory documents) (group : Jid) :
    snapshot? memory documents group = stored? documents group := by
  unfold snapshot?
  cases hf : memory.find? group with
  | none => rfl
  | some flags => exact (h group flags hf).symm

theorem stored?_insert (documents : Documents) (group : Jid) (flags : DeviceFlags) :
    stored? (documents.insert (key group) flags.toJson.compact) group = some flags := by
  simp [stored?, Storage.peek?, Dict.find?_insert, Json.parse?_compact flags.regular_toJson,
    flags.ofJson?_toJson]

theorem stored?_of_none {documents : Documents} {group : Jid}
    (h : documents.find? (key group) = none) : stored? documents group = some ∅ := by
  simp [stored?, Storage.peek?, h]

variable {ω : Type} {host : Host ω} {R : ω → ω → Prop} {group : Jid}

/-- Records come and go, and the flags of every group stay. -/
structure Steady (R : ω → ω → Prop) (s t : Held SenderKeyMemory ω) : Prop where
  rest : World.KeepsRest R s.world t.world
  snapshot : ∀ group,
    snapshot? t.own t.world.documents group = snapshot? s.own s.world.documents group
  coherent : Coherent s.own s.world.documents → Coherent t.own t.world.documents

instance [IsPreorder ω R] : IsPreorder (Held SenderKeyMemory ω) (Steady R) where
  refl s := ⟨refl_of (World.KeepsRest R) s.world, fun _ => rfl, id⟩
  trans _ _ _ h h' := ⟨trans_of (World.KeepsRest R) h.rest h'.rest,
    fun group => (h'.snapshot group).trans (h.snapshot group), h'.coherent ∘ h.coherent⟩

theorem Steady.of_world (memory : SenderKeyMemory) {w w' : World ω} (h : World.KeepsRest R w w') :
    Steady R ⟨memory, w⟩ ⟨memory, w'⟩ := by
  have same : ∀ group, w'.documents.find? (key group) = w.documents.find? (key group) :=
    fun group => h.documents _ (isRecord_key group)
  exact ⟨h, fun group => snapshot?_congr memory (same group),
    fun hc group flags hf => (stored?_congr (same group)).trans (hc group flags hf)⟩

/-- Remembering what the store keeps changes no flag. -/
theorem Steady.of_remembered [IsPreorder ω R] {s : Held SenderKeyMemory ω} {flags : DeviceFlags}
    (hs : stored? s.world.documents group = some flags) (hm : s.own.find? group = none) :
    Steady R s ⟨s.own.insert group flags, s.world⟩ := by
  refine ⟨refl_of (World.KeepsRest R) s.world, fun other => ?_, fun hc other fs hf => ?_⟩
  · by_cases h : group = other
    · subst h
      simp [snapshot?, Dict.find?_insert, hm, hs]
    · simp [snapshot?, Dict.find?_insert, h]
  · rw [Dict.find?_insert] at hf
    split at hf
    next h =>
      subst h
      exact hs.trans hf
    next => exact hc other fs hf

theorem load_eq_ok {w w' : World ω} {fs : Option DeviceFlags}
    (h : Storage.load host DeviceFlags.ofJson? (key group) w = .ok fs w') :
    stored? w.documents group = some (fs.getD ∅) ∧ w'.documents = w.documents := by
  obtain ⟨ha, hp⟩ := Storage.load_eq_ok h
  obtain ⟨_, rfl⟩ := Storage.allow_eq_ok.mp ha
  exact ⟨by simp [stored?, hp], rfl⟩

theorem flags_of_some {s : Held SenderKeyMemory ω} {fs : DeviceFlags}
    (h : s.own.find? group = some fs) : flags host group s = .ok fs s := by
  simp [flags, Held.getOwn, Act.get_apply, bind, EStateM.bind, pure, EStateM.pure, h]

theorem flags_of_none {s : Held SenderKeyMemory ω} (h : s.own.find? group = none) :
    flags host group s =
      match Storage.load host DeviceFlags.ofJson? (key group) s.world with
      | .ok fs w => .ok (fs.getD ∅) ⟨s.own.insert group (fs.getD ∅), w⟩
      | .error e w => .error e ⟨s.own, w⟩ := by
  unfold flags Held.inWorld Act.zoom
  simp only [Held.getOwn, Act.get_apply, bind, EStateM.bind, pure, EStateM.pure, h]
  cases Storage.load host DeviceFlags.ofJson? (key group) s.world <;> rfl

theorem flags_keeps [IsPreorder ω R] (hh : host.Keeps R) (group : Jid) :
    (flags host group).Keeps (Steady R) := by
  intro s
  cases hm : s.own.find? group with
  | some fs =>
    rw [Act.after_of_ok (flags_of_some hm)]
    exact refl_of (Steady R) s
  | none =>
    have looked : World.KeepsRest R s.world
        ((Storage.load host DeviceFlags.ofJson? (key group)).after s.world) :=
      Storage.load_keeps hh _ _ _
    have rule : flags host group s = _ := flags_of_none hm
    cases hl : Storage.load host DeviceFlags.ofJson? (key group) s.world with
    | error e w =>
      rw [hl] at rule
      rw [Act.after_of_error hl] at looked
      rw [Act.after_of_error rule]
      exact Steady.of_world s.own looked
    | ok fs w =>
      obtain ⟨hs, hd⟩ := load_eq_ok hl
      rw [hl] at rule
      rw [Act.after_of_ok hl] at looked
      rw [Act.after_of_ok rule]
      refine trans_of (Steady R) (Steady.of_world s.own looked) (Steady.of_remembered ?_ hm)
      exact hd ▸ hs

theorem flags_eq_ok {s t : Held SenderKeyMemory ω} {fs : DeviceFlags}
    (h : flags host group s = .ok fs t) :
    snapshot? s.own s.world.documents group = some fs ∧ t.own.find? group = some fs := by
  cases hm : s.own.find? group with
  | some fs' =>
    rw [flags_of_some hm] at h
    cases h
    exact ⟨snapshot?_of_find? hm _, hm⟩
  | none =>
    rw [flags_of_none hm] at h
    cases hl : Storage.load host DeviceFlags.ofJson? (key group) s.world with
    | error e w =>
      rw [hl] at h
      cases h
    | ok stored w =>
      rw [hl] at h
      cases h
      refine ⟨?_, by simp [Dict.find?_insert]⟩
      rw [snapshot?, hm]
      exact (load_eq_ok hl).1

theorem missing_keeps [IsPreorder ω R] (hh : host.Keeps R) (group : Jid) (devices : List Jid) :
    (missing host group devices).Keeps (Steady R) :=
  (flags_keeps hh group).bind fun _ => Act.Keeps.pure _

theorem missing_eq_ok {s t : Held SenderKeyMemory ω} {devices found : List Jid}
    (h : missing host group devices s = .ok found t) :
    ∃ fs, snapshot? s.own s.world.documents group = some fs ∧ t.own.find? group = some fs ∧
      found = devices.filter fun jid => !fs.holds jid := by
  obtain ⟨fs, u, hf, h⟩ := Act.bind_eq_ok.mp h
  cases h
  obtain ⟨before, after⟩ := flags_eq_ok hf
  exact ⟨fs, before, after, rfl⟩

/-- What a mark that goes through does: only the flags of its group change, and only upwards. -/
structure Marks (R : ω → ω → Prop) (group : Jid) (devices : List Jid)
    (s t : Held SenderKeyMemory ω) : Prop where
  host : R s.world.host t.world.host
  documents : ∀ name, SessionStore.isRecord name = false → name ≠ key group →
    t.world.documents.find? name = s.world.documents.find? name
  present : ∀ name, t.world.documents.find? name = none → s.world.documents.find? name = none
  marked : snapshot? t.own t.world.documents group =
    (snapshot? s.own s.world.documents group).map (·.markAll devices)
  others : ∀ other, other ≠ group →
    snapshot? t.own t.world.documents other = snapshot? s.own s.world.documents other
  coherent : Coherent s.own s.world.documents → Coherent t.own t.world.documents

theorem marks_of_save [IsPreorder ω R] (hh : host.Keeps R) {devices : List Jid} {fs : DeviceFlags}
    {s : Held SenderKeyMemory ω} (hm : s.own.find? group = some fs) {w : World ω}
    (h : Storage.save host (key group) (fs.markAll devices).toJson s.world = .ok () w) :
    Marks R group devices s ⟨s.own.insert group (fs.markAll devices), w⟩ := by
  obtain ⟨_, rfl⟩ := Storage.put_eq_ok h
  have others : ∀ name, name ≠ key group → (s.world.documents.insert (key group)
      (fs.markAll devices).toJson.compact).find? name = s.world.documents.find? name := by
    intro name hn
    rw [Dict.find?_insert, if_neg (Ne.symm hn)]
  refine ⟨hh.refuses _ _, fun name _ hn => others name hn, fun name gone => ?_, ?_,
    fun other ho => ?_, fun hc other fs' hf => ?_⟩
  · rw [Dict.find?_insert] at gone
    split at gone
    next => cases gone
    next => exact gone
  · rw [snapshot?_of_find? hm]
    exact snapshot?_of_find? (by simp [Dict.find?_insert]) _
  · rw [snapshot?, Dict.find?_insert, if_neg (Ne.symm ho),
      stored?_congr (others _ (key_injective.ne ho)), snapshot?]
  · rw [Dict.find?_insert] at hf
    split at hf
    next same =>
      cases hf
      subst same
      exact stored?_insert _ _ _
    next differ =>
      rw [stored?_congr (others _ (key_injective.ne (Ne.symm differ)))]
      exact hc other fs' hf

theorem mark_of_find? {devices : List Jid} {fs : DeviceFlags} {s : Held SenderKeyMemory ω}
    (hd : devices ≠ []) (hm : s.own.find? group = some fs) :
    mark host group devices s =
      match Storage.save host (key group) (fs.markAll devices).toJson s.world with
      | .ok _ w => .ok () ⟨s.own.insert group (fs.markAll devices), w⟩
      | .error e w => .error e ⟨s.own, w⟩ := by
  unfold mark
  rw [if_neg hd, Act.bind_of_ok (flags_of_some hm)]
  simp only [Held.inWorld, Act.zoom, bind, EStateM.bind]
  cases Storage.save host (key group) (fs.markAll devices).toJson s.world <;> rfl

theorem mark_nil (s : Held SenderKeyMemory ω) : mark host group [] s = .ok () s := rfl

theorem Marks.nil [IsPreorder ω R] (s : Held SenderKeyMemory ω) : Marks R group [] s s :=
  ⟨refl_of R s.world.host, fun _ _ _ => rfl, fun _ => id, Option.map_id'.symm ▸ rfl, fun _ _ => rfl,
    id⟩

theorem Marks.of_steady [IsPreorder ω R] {devices : List Jid} {s t u : Held SenderKeyMemory ω}
    (h : Steady R s t) (h' : Marks R group devices t u) : Marks R group devices s u where
  host := trans_of R h.rest.host h'.host
  documents name hr hn := (h'.documents name hr hn).trans (h.rest.documents name hr)
  present name gone := h.rest.present name trivial (h'.present name gone)
  marked := h'.marked.trans (congrArg _ (h.snapshot group))
  others other ho := (h'.others other ho).trans (h.snapshot other)
  coherent := h'.coherent ∘ h.coherent

/-- A mark looks at the flags first, and goes on as if they had been looked at before. -/
theorem mark_cases [IsPreorder ω R] (hh : host.Keeps R) {devices : List Jid} (hd : devices ≠ [])
    (s : Held SenderKeyMemory ω) :
    (∃ e t, mark host group devices s = .error e t ∧ Steady R s t) ∨
      ∃ fs t, Steady R s t ∧ t.own.find? group = some fs ∧
        mark host group devices s = mark host group devices t := by
  have look := flags_keeps hh group s
  cases hf : flags host group s with
  | error e t =>
    refine .inl ⟨e, t, ?_, Act.after_of_error hf ▸ look⟩
    unfold mark
    rw [if_neg hd]
    exact Act.bind_eq_error.mpr (.inl hf)
  | ok fs t =>
    have found := (flags_eq_ok hf).2
    refine .inr ⟨fs, t, Act.after_of_ok hf ▸ look, found, ?_⟩
    unfold mark
    rw [if_neg hd, Act.bind_of_ok hf, Act.bind_of_ok (flags_of_some found)]

theorem mark_eq_ok [IsPreorder ω R] (hh : host.Keeps R) {devices : List Jid}
    {s t : Held SenderKeyMemory ω} (h : mark host group devices s = .ok () t) :
    Marks R group devices s t := by
  by_cases hd : devices = []
  · subst hd
    cases h
    exact Marks.nil s
  · rcases mark_cases hh hd s with ⟨e, u, he, _⟩ | ⟨fs, u, steady, found, same⟩
    · rw [he] at h
      cases h
    · rw [same, mark_of_find? hd found] at h
      cases hs : Storage.save host (key group) (fs.markAll devices).toJson u.world with
      | error e w =>
        rw [hs] at h
        cases h
      | ok a w =>
        rw [hs] at h
        cases h
        exact Marks.of_steady steady (marks_of_save hh found hs)

theorem mark_eq_error [IsPreorder ω R] (hh : host.Keeps R) {devices : List Jid}
    {s t : Held SenderKeyMemory ω} {e : Error} (h : mark host group devices s = .error e t) :
    Steady R s t := by
  by_cases hd : devices = []
  · subst hd
    cases h
  · rcases mark_cases hh hd s with ⟨e, u, he, steady⟩ | ⟨fs, u, steady, found, same⟩
    · rw [he] at h
      cases h
      exact steady
    · rw [same, mark_of_find? hd found] at h
      cases hs : Storage.save host (key group) (fs.markAll devices).toJson u.world with
      | ok a w =>
        rw [hs] at h
        cases h
      | error e' w =>
        rw [hs] at h
        cases h
        have kept : World.KeepsRest R u.world w := by
          obtain ⟨_, rfl⟩ := Storage.put_eq_error hs
          exact ⟨hh.refuses _ _, fun _ _ => rfl, fun _ _ => id⟩
        exact trans_of (Steady R) steady (Steady.of_world u.own kept)

/-- The flags behind a mark of a group that was looked at before: the mark is booked if the store
takes it. -/
theorem snapshot?_after_mark {devices : List Jid} {fs : DeviceFlags} {s t : Held SenderKeyMemory ω}
    (hm : s.own.find? group = some fs) (ht : (mark host group devices).after s = t) :
    snapshot? t.own t.world.documents group =
      some (if (host.refuses (.put (key group)) s.world.host).1 = none then fs.markAll devices
        else fs) := by
  have before := snapshot?_of_find? hm s.world.documents
  by_cases hd : devices = []
  · subst hd
    obtain rfl : s = t := (Act.after_of_ok (mark_nil s)).symm.trans ht
    rw [before]
    split <;> rfl
  have rule : mark host group devices s = _ := mark_of_find? hd hm
  cases hs : Storage.save host (key group) (fs.markAll devices).toJson s.world with
  | ok a w =>
    rw [hs] at rule
    obtain rfl := (Act.after_of_ok rule).symm.trans ht
    rw [if_pos (Storage.put_eq_ok hs).1]
    rw [(mark_eq_ok host.keeps_true rule).marked, before]
    rfl
  | error e w =>
    rw [hs] at rule
    obtain rfl := (Act.after_of_error rule).symm.trans ht
    rw [if_neg (by simp [(Storage.put_eq_error hs).1])]
    exact ((mark_eq_error host.keeps_true rule).snapshot group).trans before

theorem mark_keeps_others (devices : List Jid) {other : Jid} (ho : other ≠ group) :
    (mark host group devices).Keeps fun s t => snapshot? t.own t.world.documents other =
      snapshot? s.own s.world.documents other :=
  .intro (fun _ _ _ h => (mark_eq_ok host.keeps_true h).others other ho)
    fun _ _ _ h => (mark_eq_error host.keeps_true h).snapshot other

theorem mark_keeps_host [IsPreorder ω R] (hh : host.Keeps R) (group : Jid) (devices : List Jid) :
    (mark host group devices).Keeps fun s t => R s.world.host t.world.host :=
  .intro (fun _ _ _ h => (mark_eq_ok hh h).host) fun _ _ _ h => (mark_eq_error hh h).rest.host

/-- What a reset that goes through does: nobody in the group is known to hold the key. -/
structure Clears (R : ω → ω → Prop) (group : Jid) (s t : Held SenderKeyMemory ω) : Prop where
  host : R s.world.host t.world.host
  documents : ∀ name, name ≠ key group →
    t.world.documents.find? name = s.world.documents.find? name
  cleared : snapshot? t.own t.world.documents group = some ∅
  others : ∀ other, other ≠ group →
    snapshot? t.own t.world.documents other = snapshot? s.own s.world.documents other
  coherent : Coherent s.own s.world.documents → Coherent t.own t.world.documents

theorem coherent_erase {memory : SenderKeyMemory} {documents : Documents}
    (h : Coherent memory documents) (group : Jid) : Coherent (memory.erase group) documents := by
  intro other fs hf
  rw [Dict.find?_erase] at hf
  split at hf
  next => cases hf
  next => exact h other fs hf

theorem reset_apply (s : Held SenderKeyMemory ω) :
    reset host group s =
      Held.inWorld (Storage.del host (key group)) ⟨s.own.erase group, s.world⟩ := rfl

theorem reset_eq_ok (hh : host.Keeps R) {s t : Held SenderKeyMemory ω}
    (h : reset host group s = .ok () t) : Clears R group s t := by
  rw [reset_apply] at h
  obtain ⟨w, hd, rfl⟩ := Act.zoom_eq_ok.mp h
  obtain ⟨_, rfl⟩ := Storage.del_eq_ok hd
  have others : ∀ name, name ≠ key group →
      (s.world.documents.erase (key group)).find? name = s.world.documents.find? name := by
    intro name hn
    rw [Dict.find?_erase, if_neg (Ne.symm hn)]
  refine ⟨hh.refuses _ _, others, ?_, fun other ho => ?_, fun hc other fs hf => ?_⟩
  · rw [snapshot?, Dict.find?_erase, if_pos rfl]
    exact stored?_of_none (by rw [Dict.find?_erase, if_pos rfl])
  · rw [snapshot?, Dict.find?_erase, if_neg (Ne.symm ho),
      stored?_congr (others _ (key_injective.ne ho)), snapshot?]
  · have kept := coherent_erase hc group other fs hf
    have differ : other ≠ group := by
      rintro rfl
      simp [Dict.find?_erase] at hf
    rw [stored?_congr (others _ (key_injective.ne differ))]
    exact kept

/-- A reset that the store refuses shows no other flags, as long as it forgot nothing that the store
does not keep. -/
theorem reset_eq_error [IsPreorder ω R] (hh : host.Keeps R) {s t : Held SenderKeyMemory ω}
    {e : Error} (h : reset host group s = .error e t) (hc : Coherent s.own s.world.documents) :
    Steady R s t := by
  rw [reset_apply] at h
  obtain ⟨w, hd, rfl⟩ := Act.zoom_eq_error.mp h
  obtain ⟨_, rfl⟩ := Storage.del_eq_error hd
  have after := coherent_erase hc group
  refine ⟨⟨hh.refuses _ _, fun _ _ => rfl, fun _ _ => id⟩, fun other => ?_, fun _ => after⟩
  exact (snapshot?_eq_stored? after other).trans (snapshot?_eq_stored? hc other).symm

end SenderKeyMemory

end Fanout
