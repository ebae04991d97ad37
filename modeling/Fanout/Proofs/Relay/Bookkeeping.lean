import Fanout.Proofs.Relay.Atomicity
import Fanout.Proofs.Session.Store

namespace Fanout

variable {ω : Type} {R : ω → ω → Prop} {host : Host ω} {group : Jid} {devices : List Jid}

namespace SenderKeyMemory

/-- No sender key is gone, and nobody is newly flagged but some devices of one group. -/
structure Books (group : Jid) (devices : List Jid) (s t : Held SenderKeyMemory ω) : Prop where
  keys : ∀ name, t.world.documents.find? (SessionStore.senderKeyKey name) = none →
    s.world.documents.find? (SessionStore.senderKeyKey name) = none
  flags : ∀ other fs device, snapshot? t.own t.world.documents other = some fs →
    fs.holds device = true → other = group ∧ device ∈ devices ∨
      ∃ before, snapshot? s.own s.world.documents other = some before ∧ before.holds device = true
  coherent : Coherent s.own s.world.documents → Coherent t.own t.world.documents

instance : IsPreorder (Held SenderKeyMemory ω) (Books group devices) where
  refl s := ⟨fun _ => id, fun _ fs _ hf hd => .inr ⟨fs, hf, hd⟩, id⟩
  trans s t u h h' := by
    refine ⟨fun name gone => h.keys name (h'.keys name gone), fun other fs device hf hd => ?_,
      h'.coherent ∘ h.coherent⟩
    rcases h'.flags other fs device hf hd with new | ⟨before, hb, hd⟩
    · exact .inl new
    · exact h.flags other before device hb hd

theorem Books.of_steady {s t : Held SenderKeyMemory ω} (h : Steady R s t) :
    Books group devices s t where
  keys _ gone := h.rest.present _ trivial gone
  flags other fs _ hf hd := .inr ⟨fs, (h.snapshot other).symm.trans hf, hd⟩
  coherent := h.coherent

theorem Books.of_marks {s t : Held SenderKeyMemory ω} (h : Marks R group devices s t) :
    Books group devices s t where
  keys _ gone := h.present _ gone
  flags other fs device hf hd := by
    by_cases same : other = group
    · subst same
      rw [h.marked] at hf
      obtain ⟨before, hb, rfl⟩ := Option.map_eq_some_iff.mp hf
      rcases (before.holds_markAll devices device).mp hd with held | new
      · exact .inr ⟨before, hb, held⟩
      · exact .inl ⟨rfl, new⟩
    · exact .inr ⟨fs, (h.others other same).symm.trans hf, hd⟩
  coherent := h.coherent

theorem mark_books (group : Jid) (devices : List Jid) :
    (mark host group devices).Keeps (Books group devices) :=
  .intro (fun _ _ _ h => .of_marks (mark_eq_ok host.keeps_true h))
    fun _ _ _ h => .of_steady (mark_eq_error host.keeps_true h)

/-- No key and no flag of any other group is gone or new, and those of the group are not known. -/
structure Forgets (group : Jid) (s t : Held SenderKeyMemory ω) : Prop where
  keys : ∀ other sender, other.withoutDevice ≠ group.withoutDevice →
    t.world.documents.find? (SessionStore.senderKeyKey (.of other sender)) = none →
      s.world.documents.find? (SessionStore.senderKeyKey (.of other sender)) = none
  flags : ∀ other fs device, snapshot? t.own t.world.documents other = some fs →
    fs.holds device = true →
      other ≠ group ∧ snapshot? s.own s.world.documents other = some fs
  coherent : Coherent s.own s.world.documents → Coherent t.own t.world.documents

theorem Forgets.of_clears {s t : Held SenderKeyMemory ω} (h : Clears R group s t) :
    Forgets group s t where
  keys _ _ _ gone := by
    rwa [h.documents _ (SessionStore.senderKeyKey_ne_key _ _)] at gone
  flags other fs device hf hd := by
    by_cases same : other = group
    · subst same
      rw [h.cleared] at hf
      cases hf
      cases hd
    · exact ⟨same, (h.others other same).symm.trans hf⟩
  coherent := h.coherent

/-- Only documents of a group's sender keys may be gone. -/
def Drops (group : Jid) (s t : Held SenderKeyMemory ω) : Prop :=
  t.own = s.own ∧ World.Follows (fun _ _ => True)
    (fun key => ∀ sender, key ≠ SessionStore.senderKeyKey (.of group sender))
    (fun key => ∀ sender, key ≠ SessionStore.senderKeyKey (.of group sender)) s.world t.world

theorem Forgets.of_drops {s t u : Held SenderKeyMemory ω} (h : Forgets group s t)
    (h' : Drops group t u) : Forgets group s u := by
  obtain ⟨own, world⟩ := h'
  have same : ∀ other, u.world.documents.find? (key other) = t.world.documents.find? (key other) :=
    fun other => world.documents _ fun sender => (SessionStore.senderKeyKey_ne_key _ other).symm
  refine ⟨fun other sender away gone => h.keys other sender away (world.present _ ?_ gone),
    fun other fs device hf hd => h.flags other fs device ?_ hd, fun hc other fs hf => ?_⟩
  · exact fun sender' same => away (SessionStore.group_eq_of_senderKeyKey_eq same)
  · rwa [own, snapshot?_congr _ (same other)] at hf
  · rw [own] at hf
    exact (stored?_congr (same other)).trans (h.coherent hc other fs hf)

end SenderKeyMemory

namespace Relay

/-- The flags of a relay beside its world. -/
def flags (r : Relay ω) : Held SenderKeyMemory ω := ⟨r.directories.memory, r.world⟩

/-- What is remembered of the flags is what the store keeps. -/
def Coherent (r : Relay ω) : Prop :=
  SenderKeyMemory.Coherent r.directories.memory r.world.documents

structure Books (group : Jid) (devices : List Jid) (r r' : Relay ω) : Prop where
  flags : SenderKeyMemory.Books group devices r.flags r'.flags
  home : r'.retry.home = r.retry.home

instance : IsPreorder (Relay ω) (Books group devices) where
  refl r := ⟨refl_of (SenderKeyMemory.Books group devices) r.flags, rfl⟩
  trans _ _ _ h h' := ⟨trans_of _ h.flags h'.flags, h'.home.trans h.home⟩

theorem Prepares.books {r r' : Relay ω} (h : Prepares R r r') : Books group devices r r' := by
  refine ⟨.of_steady h.directories, ?_⟩
  rw [h.rest]

theorem startsWith_retryHome_senderKeyKey (name : SenderKeyName) :
    Storage.startsWith retryHome (SessionStore.senderKeyKey name) = false := by
  unfold SessionStore.senderKeyKey SessionStore.senderKeyHome retryHome
  rw [Storage.startsWith_append]
  simp [List.isPrefixOf]

theorem Settles.books {r r' : Relay ω} (home : r.AtHome) (h : Settles R r r') :
    Books group devices r r' := by
  refine ⟨⟨fun name gone => ?_, fun other fs device hf hd => ?_, fun hc other fs hf => ?_⟩, h.home⟩
  · exact h.world.present _ (home.not_houses (startsWith_retryHome_senderKeyKey name)) gone
  · exact .inr ⟨fs, (h.snapshot?_eq home other).symm.trans hf, hd⟩
  · have away := home.not_houses (startsWith_retryHome_key other)
    rw [flags, h.memory] at hf
    exact (SenderKeyMemory.stored?_congr (h.world.documents _ away)).trans (hc other fs hf)

theorem conclude_books (destination : Jid) (id : String) (message : Message)
    (informed : List Jid) (r : Relay ω) :
    Books destination informed r (conclude host destination id message informed r) := by
  have marked : SenderKeyMemory.Books destination informed r.flags
      ((SenderKeyMemory.mark host destination informed).after r.flags) :=
    SenderKeyMemory.mark_books destination informed r.flags
  rw [conclude, inDirectories, Act.after_zoom, Directories.inMemory, Act.after_zoom]
  exact ⟨⟨marked.keys, marked.flags, marked.coherent⟩, rfl⟩

variable {jid : Jid} {message : Message} {options : RelayOptions} {r r' : Relay ω}

theorem relay_error_books (home : r.AtHome) {e : Error}
    (h : relay host jid message options r = .error e r') : Books group devices r r' := by
  rcases relay_eq_error host.keeps_true h with unsent | ⟨prepared, r₁, made, ht⟩
  · exact unsent.books
  · have sent := (transmit_keeps prepared.node).of_error ht
    exact trans_of (Books group devices) made.books (sent.books (home.of_prepares made))

theorem relay_ok_books (home : r.AtHome) {id : String} {r₁ r₂ : Relay ω} {o : Outgoing}
    {prepared : Prepared} {d : Directories ω}
    (hid : chooseId host r.credentials options r = .ok id r₁)
    (hp : o.prepare host r.credentials r₁.directories = .ok prepared d)
    (ht : transmit host prepared.node { r₁ with directories := d } = .ok () r₂) :
    Books jid prepared.informed r (conclude host jid id message prepared.informed r₂) := by
  have made := prepares_of_ok host.keeps_true hid hp
  have sent := (transmit_keeps prepared.node).of_ok ht
  have taken : Books jid prepared.informed r r₂ :=
    trans_of _ made.books (sent.books (home.of_prepares made))
  exact trans_of _ taken (conclude_books jid id message prepared.informed r₂)

theorem create_eq_ok {c : Config} {credentials : Credentials} {w w' : World ω}
    (h : create host c credentials w = .ok r w') : r.directories.memory = ∅ ∧
      ∀ key, r.world.documents.find? key = w.documents.find? key := by
  obtain ⟨_, opened, memory, rfl⟩ := opened_of_create h
  have follows : (openQueue host c).Keeps
      (World.Follows (fun _ _ => True) (fun _ => True) fun _ => True) := by
    unfold openQueue
    split
    · exact RetryQueue.restore_keeps host.keeps_true _ _
    · exact Act.Keeps.pure _
  exact ⟨memory, fun key => (follows.of_ok opened).documents key trivial⟩

/-- Nothing but keys of a group may be gone. -/
structure Drops (group : Jid) (r r' : Relay ω) : Prop where
  flags : SenderKeyMemory.Drops group r.flags r'.flags
  home : r'.retry.home = r.retry.home

instance : IsPreorder (Relay ω) (Drops group) where
  refl r := ⟨⟨rfl, refl_of (World.Follows _ _ _) r.world⟩, rfl⟩
  trans _ _ _ h h' :=
    ⟨⟨h'.flags.1.trans h.flags.1, trans_of _ h.flags.2 h'.flags.2⟩, h'.home.trans h.home⟩

theorem deleteSenderKey_drops (group sender : Jid) :
    (inWorld (SessionStore.deleteSenderKey host (.of group sender))).Keeps (Drops group) := by
  have own : ¬∀ sender' : Jid, SessionStore.senderKeyKey (.of group sender) ≠
      SessionStore.senderKeyKey (.of group sender') := fun away => away sender rfl
  exact (Storage.del_keeps host.keeps_true own own).zoom fun _ _ h => ⟨⟨rfl, h⟩, rfl⟩

theorem resetSenderKeys_apply (host : Host ω) (group : Jid) (r : Relay ω) :
    resetSenderKeys host group r = (do
      inDirectories (Directories.inMemory (SenderKeyMemory.reset host group))
      inWorld (SessionStore.deleteSenderKey host (.of group r.credentials.me))
      match r.credentials.meLid with
      | some lid => inWorld (SessionStore.deleteSenderKey host (.of group lid))
      | none => return : Act (Relay ω) Unit) r := rfl

/-- A reset that fails before it deletes a key has changed no flag; one that goes on has cleared
those of its group, and deletes only keys of the group. -/
theorem resetSenderKeys_cases (host : Host ω) (group : Jid) (coherent : r.Coherent)
    (h : (resetSenderKeys host group).after r = r') : r'.retry.home = r.retry.home ∧
      (SenderKeyMemory.Books group [] r.flags r'.flags ∨
        SenderKeyMemory.Forgets group r.flags r'.flags) := by
  rw [Act.after_congr (resetSenderKeys_apply host group r)] at h
  cases hr : inDirectories (Directories.inMemory (SenderKeyMemory.reset host group)) r with
  | error e s =>
    obtain rfl := (Act.after_of_error (Act.bind_eq_error.mpr (.inl hr))).symm.trans h
    obtain ⟨d, hd, rfl⟩ := Act.zoom_eq_error.mp hr
    obtain ⟨m, hm, rfl⟩ := Act.zoom_eq_error.mp hd
    exact ⟨rfl, .inl (.of_steady (SenderKeyMemory.reset_eq_error host.keeps_true hm coherent))⟩
  | ok _ s =>
    -- whether or not the deletions go through, the flags are cleared by now
    have deleted : (do
        inWorld (SessionStore.deleteSenderKey host (.of group r.credentials.me))
        match r.credentials.meLid with
        | some lid => inWorld (SessionStore.deleteSenderKey host (.of group lid))
        | none => return : Act (Relay ω) Unit).Keeps (Drops group) := by
      refine (deleteSenderKey_drops group _).bind fun _ => ?_
      split
      · exact deleteSenderKey_drops group _
      · exact Act.Keeps.pure ()
    rw [Act.after_congr (Act.bind_of_ok hr)] at h
    have dropped : Drops group s r' := h ▸ deleted s
    obtain ⟨d, hd, rfl⟩ := Act.zoom_eq_ok.mp hr
    obtain ⟨m, hm, rfl⟩ := Act.zoom_eq_ok.mp hd
    have cleared := SenderKeyMemory.Forgets.of_clears
      (SenderKeyMemory.reset_eq_ok host.keeps_true hm)
    exact ⟨dropped.home, .inr (cleared.of_drops dropped.flags)⟩

end Relay

end Fanout
