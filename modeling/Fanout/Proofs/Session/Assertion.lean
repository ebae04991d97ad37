import Fanout.Proofs.Host.Watched
import Fanout.Proofs.Json.Fields
import Fanout.Proofs.Session.Isolation

namespace Fanout

namespace SessionRecord

theorem regular_toJson (r : SessionRecord) : r.toJson.Regular := by
  rw [toJson, Json.regular_ofMembers]
  simp

theorem ofJson?_toJson (r : SessionRecord) : ofJson? r.toJson = some r := by
  have read : r.toJson.fields ["data"] = some [some (Storage.bytesToJson r.data)] :=
    @Json.fields_filled [("data", some (Storage.bytesToJson r.data))] (by simp)
  simp [ofJson?, read]

end SessionRecord

namespace Prekeys

/-- An answer gives a bundle of public keys for a device. -/
def Gives (answer : Node) (jid : Jid) (bundle : PreKeyBundle) : Prop :=
  ∃ bundles, parse answer = .ok bundles ∧ (jid, bundle) ∈ bundles

/-- Whether an answer gives public keys of a device. -/
def names (answer : Node) (jid : Jid) : Bool :=
  match parse answer with
  | .ok bundles => bundles.any fun b => b.1 = jid
  | .error _ => false

theorem names_iff {answer : Node} {jid : Jid} :
    names answer jid = true ↔ ∃ bundle, Gives answer jid bundle := by
  unfold names Gives
  cases parse answer <;> simp

end Prekeys

namespace Repository

open SessionStore

variable {ω : Type} {host : Host ω} {log : ω → List Observation} {jid : Jid} {u v w w' : World ω}

/-- The document of a device's session. -/
def document? (jid : Jid) (w : World ω) : Option String :=
  w.documents.find? (sessionKey jid.protocolAddress)

/-- The session that is stored for a device. -/
def Stores (jid : Jid) (session : SessionRecord) (w : World ω) : Prop :=
  Storage.peek? SessionRecord.ofJson? w.documents (sessionKey jid.protocolAddress) =
    some (some session)

theorem stores_of_document {session : SessionRecord}
    (h : document? jid w = some session.toJson.compact) : Stores jid session w := by
  unfold document? at h
  simp [Stores, Storage.peek?, h, Json.parse?_compact session.regular_toJson,
    session.ofJson?_toJson]

theorem Stores.eq {session session' : SessionRecord} (h : Stores jid session w)
    (h' : Stores jid session' w) : session = session' :=
  Option.some.inj (Option.some.inj (h.symm.trans h'))

theorem Stores.document {session : SessionRecord} (h : Stores jid session w) :
    document? jid w ≠ none := by
  intro absent
  unfold document? at absent
  simp [Stores, Storage.peek?, absent] at h

/-- The log grows, and the session of a device stays what it was. -/
abbrev KeepsSession (log : ω → List Observation) (jid : Jid) : World ω → World ω → Prop :=
  World.Follows (Saw log []) (HoldsSession jid) fun _ => False

theorem KeepsSession.document (h : KeepsSession log jid w w') :
    document? jid w' = document? jid w :=
  h.documents _ rfl

theorem KeepsSession.stores {session : SessionRecord} (h : KeepsSession log jid w w')
    (stores : Stores jid session w') : Stores jid session w := by
  rwa [Stores, Storage.peek?, h.documents _ rfl] at stores

/-- An envelope was written for a device on the session that had been stored for it. -/
def WroteOnStored (log : ω → List Observation) (jid : Jid) (envelope : Envelope)
    (w w' : World ω) : Prop :=
  ∃ session plaintext, Stores jid session w ∧
    Saw log [.wrote jid.protocolAddress session plaintext envelope] w.host w'.host

/-- An envelope was written for a device on a session that had just been opened from a bundle that
was fetched for it. -/
def WroteOnFresh (log : ω → List Observation) (jid : Jid) (envelope : Envelope)
    (w w' : World ω) : Prop :=
  ∃ answer bundle session plaintext, Prekeys.Gives answer jid bundle ∧
    Saw log [.answered (Prekeys.query [jid]) answer, .opened jid.protocolAddress bundle session,
      .wrote jid.protocolAddress session plaintext envelope] w.host w'.host

/-- A session was opened for a device from a bundle of an answer for it, and is what is stored. -/
def Renewed (log : ω → List Observation) (jid : Jid) (answer : Node) (w w' : World ω) : Prop :=
  ∃ bundle session, Prekeys.Gives answer jid bundle ∧
    document? jid w' = some session.toJson.compact ∧
    Saw log [.answered (Prekeys.query [jid]) answer, .opened jid.protocolAddress bundle session]
      w.host w'.host

variable {envelope : Envelope} {answer : Node}

theorem Renewed.document (h : Renewed log jid answer w w') : document? jid w' ≠ none := by
  obtain ⟨_, session, _, document, _⟩ := h
  simp [document]

theorem Renewed.wrote (h : Renewed log jid answer u v) (h' : WroteOnStored log jid envelope v w) :
    WroteOnFresh log jid envelope u w := by
  obtain ⟨bundle, session, given, document, saw⟩ := h
  obtain ⟨session', plaintext, stores, saw'⟩ := h'
  obtain rfl := stores.eq (stores_of_document document)
  exact ⟨answer, bundle, session', plaintext, given, saw.trans saw'⟩

theorem KeepsSession.wroteOnStored (h : KeepsSession log jid u v)
    (h' : WroteOnStored log jid envelope v w) : WroteOnStored log jid envelope u w := by
  obtain ⟨session, plaintext, stores, saw⟩ := h'
  exact ⟨session, plaintext, h.stores stores, h.host.trans saw⟩

theorem KeepsSession.wroteOnFresh (h : KeepsSession log jid u v)
    (h' : WroteOnFresh log jid envelope v w) : WroteOnFresh log jid envelope u w := by
  obtain ⟨answer, bundle, session, plaintext, given, saw⟩ := h'
  exact ⟨answer, bundle, session, plaintext, given, h.host.trans saw⟩

theorem KeepsSession.renewed (h : KeepsSession log jid u v) (h' : Renewed log jid answer v w) :
    Renewed log jid answer u w := by
  obtain ⟨bundle, session, given, document, saw⟩ := h'
  exact ⟨bundle, session, given, document, h.host.trans saw⟩

theorem injectSession_eq_ok (hl : host.Logs log) {bundle : PreKeyBundle}
    (h : injectSession host jid bundle w = .ok () w') :
    ∃ session, document? jid w' = some session.toJson.compact ∧
      Saw log [.opened jid.protocolAddress bundle session] w.host w'.host := by
  obtain ⟨session, v, made, stored⟩ := Act.bind_eq_ok.mp h
  obtain ⟨s, opened, rfl⟩ := Act.zoom_eq_ok.mp made
  obtain ⟨_, rfl⟩ := Storage.put_eq_ok stored
  exact ⟨session, by simp [document?, Dict.find?_insert],
    (hl.initiate opened).trans (hl.keeps.refuses _ _)⟩

theorem wrote_of_encrypt (hl : host.Logs log) {plaintext : List UInt8}
    (h : encrypt host jid plaintext w = .ok envelope w') :
    WroteOnStored log jid envelope w w' := by
  obtain ⟨session, v, loaded, h⟩ := Act.bind_eq_ok.mp h
  have looked : KeepsSession log jid w v := (Storage.load_keeps hl.keeps _ _).of_ok loaded
  obtain ⟨_, stores⟩ := Storage.load_eq_ok loaded
  cases session with
  | none => cases h
  | some session =>
    obtain ⟨⟨env, next⟩, x, made, h⟩ := Act.bind_eq_ok.mp h
    obtain ⟨s, written, rfl⟩ := Act.zoom_eq_ok.mp made
    by_cases hk : env.kind = .skmsg
    · simp only [hk, if_true] at h
      cases h
    · simp only [hk, if_false] at h
      obtain ⟨_, y, stored, h⟩ := Act.bind_eq_ok.mp h
      cases h
      obtain ⟨_, rfl⟩ := Storage.put_eq_ok stored
      refine ⟨session, plaintext, stores, ?_⟩
      exact (looked.host.trans (hl.encrypt written)).trans (hl.keeps.refuses _ _)

end Repository

namespace Sessions

open Repository

variable {ω : Type} {host : Host ω} {log : ω → List Observation} {jid : Jid} {w w' : World ω}

theorem inject_eq_ok (hl : host.Logs log) {bundles : List (Jid × PreKeyBundle)} {count : Nat}
    (h : inject host [jid] bundles w = .ok count w') :
    (∃ bundle session, (jid, bundle) ∈ bundles ∧
        document? jid w' = some session.toJson.compact ∧
        Saw log [.opened jid.protocolAddress bundle session] w.host w'.host) ∨
      (∀ bundle, (jid, bundle) ∉ bundles) ∧ KeepsSession log jid w w' := by
  induction bundles generalizing w count with
  | nil =>
    cases h
    exact .inr ⟨by simp, refl_of (KeepsSession log jid) _⟩
  | cons b rest ih =>
    obtain ⟨other, bundle⟩ := b
    unfold inject at h
    split at h
    next named =>
      obtain rfl := List.mem_singleton.mp named
      obtain ⟨_, v, opened, h⟩ := Act.bind_eq_ok.mp h
      obtain ⟨count, x, later, h⟩ := Act.bind_eq_ok.mp h
      cases h
      obtain ⟨session, document, saw⟩ := injectSession_eq_ok hl opened
      -- a later bundle for the device takes the place of this one
      rcases ih later with ⟨bundle', session', listed, document', saw'⟩ | ⟨_, keeps⟩
      · refine .inl ⟨bundle', session', List.mem_cons_of_mem _ listed, document', ?_⟩
        exact (saw.mono (List.nil_sublist _)).trans saw'
      · refine .inl ⟨bundle, session, List.mem_cons_self, ?_, saw.trans keeps.host⟩
        exact keeps.document.trans document
    next unnamed =>
      rcases ih h with ⟨bundle', session', listed, document', saw'⟩ | ⟨absent, keeps⟩
      · exact .inl ⟨bundle', session', List.mem_cons_of_mem _ listed, document', saw'⟩
      · refine .inr ⟨fun bundle' listed => ?_, keeps⟩
        rcases List.mem_cons.mp listed with same | listed
        · exact unnamed (List.mem_singleton.mpr (Prod.mk.inj same).1.symm)
        · exact absent bundle' listed

theorem missing_eq_ok {force : Bool} {wanted : List Jid}
    (h : missing host [jid] force w = .ok wanted w') :
    wanted = if force = true ∨ document? jid w = none then [jid] else [] := by
  obtain ⟨asked, v, filtered, h⟩ := Act.bind_eq_ok.mp h
  cases h
  obtain ⟨kept, x, filtered, h⟩ := Act.bind_eq_ok.mp filtered
  cases h
  obtain ⟨needed, y, looked, filtered⟩ := Act.bind_eq_ok.mp filtered
  cases filtered
  have decided : needed = decide (force = true ∨ document? jid w = none) := by
    unfold isMissing at looked
    split at looked
    next forced =>
      cases looked
      simp [forced]
    next unforced =>
      obtain ⟨found, z, looked, h⟩ := Act.bind_eq_ok.mp looked
      cases h
      rw [hasSession_eq_ok looked, document?]
      cases w.documents.find? (SessionStore.sessionKey jid.protocolAddress) <;> simp [unforced]
  rw [decided]
  by_cases needed : force = true ∨ document? jid w = none
  · rw [if_pos needed, decide_eq_true needed]
    rfl
  · rw [if_neg needed, decide_eq_false needed]
    rfl

/-- The service was asked for public keys of a device. What it gave for the device became its
session, and otherwise the session stayed what it was. -/
structure Asked (log : ω → List Observation) (jid : Jid) (answer : Node) (w w' : World ω) :
    Prop where
  saw : Saw log [.answered (Prekeys.query [jid]) answer] w.host w'.host
  renewed : Prekeys.names answer jid = true → Renewed log jid answer w w'
  kept : Prekeys.names answer jid = false → KeepsSession log jid w w'

theorem asked_after {answer : Node} {v : World ω} (h : KeepsSession log jid w v)
    (h' : Asked log jid answer v w') : Asked log jid answer w w' where
  saw := h.host.trans h'.saw
  renewed named := h.renewed (h'.renewed named)
  kept unnamed := trans_of (KeepsSession log jid) h (h'.kept unnamed)

theorem asked_of_answer (hl : host.Logs log) {bundles : List (Jid × PreKeyBundle)} {count : Nat}
    {answer : Node} {v : World ω} (asked : World.query host (Prekeys.query [jid]) w = .ok answer v)
    (parsed : Prekeys.parse answer = .ok bundles)
    (injected : inject host [jid] bundles v = .ok count w') : Asked log jid answer w w' := by
  have kept : KeepsSession log jid w v := (World.query_keeps hl.keeps _).of_ok asked
  have called : World.inHost (host.query (Prekeys.query [jid])) w = .ok answer v := asked
  obtain ⟨s, replied, rfl⟩ := Act.zoom_eq_ok.mp called
  have answered := hl.query replied
  rcases inject_eq_ok hl injected with
    ⟨bundle, session, listed, document, opened⟩ | ⟨absent, keeps⟩
  · have given : Prekeys.Gives answer jid bundle := ⟨bundles, parsed, listed⟩
    refine ⟨answered.trans (opened.mono (List.nil_sublist _)), fun _ => ?_, fun unnamed => ?_⟩
    · exact ⟨bundle, session, given, document, answered.trans opened⟩
    · rw [Prekeys.names_iff.mpr ⟨bundle, given⟩] at unnamed
      cases unnamed
  · refine ⟨answered.trans keeps.host, fun named => ?_, fun _ => ?_⟩
    · obtain ⟨bundle, bundles', parsed', listed⟩ := Prekeys.names_iff.mp named
      obtain rfl := Except.ok.inj (parsed'.symm.trans parsed)
      exact absurd listed (absent bundle)
    · exact trans_of (KeepsSession log jid) kept keeps

/-- A device is asked for exactly if this is forced or there is no session with it. -/
theorem ensure_eq_ok (hl : host.Logs log) {force found : Bool}
    (h : ensure host [jid] force w = .ok found w') :
    if force = true ∨ document? jid w = none then ∃ answer, Asked log jid answer w w'
    else KeepsSession log jid w w' := by
  obtain ⟨wanted, v, missed, h⟩ := Act.bind_eq_ok.mp h
  have looked : KeepsSession log jid w v := (missing_keeps hl.keeps _ _).of_ok missed
  obtain rfl := missing_eq_ok missed
  by_cases needed : force = true ∨ document? jid w = none
  · simp only [if_pos needed, List.cons_ne_nil, if_false] at h ⊢
    obtain ⟨answer, x, asked, h⟩ := Act.bind_eq_ok.mp h
    obtain ⟨bundles, y, read, h⟩ := Act.bind_eq_ok.mp h
    obtain ⟨count, z, injected, h⟩ := Act.bind_eq_ok.mp h
    cases h
    obtain ⟨parsed, rfl⟩ := Act.ofExcept_eq_ok.mp read
    exact ⟨answer, asked_after looked (asked_of_answer hl asked parsed injected)⟩
  · simp only [if_neg needed, if_true] at h ⊢
    cases h
    exact looked

variable {u v : World ω} {envelope : Envelope}

/-- An envelope was written for a device, on the session that was stored for it or, if there was
none, on a fresh one. -/
def WroteAssured (log : ω → List Observation) (jid : Jid) (envelope : Envelope)
    (w w' : World ω) : Prop :=
  if document? jid w = none then WroteOnFresh log jid envelope w w'
  else WroteOnStored log jid envelope w w'

theorem wroteAssured_of_ensure (hl : host.Logs log) {found : Bool}
    (ensured : ensure host [jid] false u = .ok found v)
    (wrote : WroteOnStored log jid envelope v w) : WroteAssured log jid envelope u w := by
  have outcome := ensure_eq_ok hl ensured
  simp only [Bool.false_eq_true, false_or] at outcome
  unfold WroteAssured
  split at outcome
  next absent =>
    rw [if_pos absent]
    obtain ⟨answer, asked⟩ := outcome
    cases named : Prekeys.names answer jid with
    | true => exact (asked.renewed named).wrote wrote
    | false =>
      -- without a session nothing can be written
      obtain ⟨_, _, stores, _⟩ := wrote
      exact absurd ((asked.kept named).document.trans absent) stores.document
  next present =>
    rw [if_neg present]
    exact outcome.wroteOnStored wrote

theorem wroteAssured_after (h : KeepsSession log jid u v) (h' : WroteAssured log jid envelope v w) :
    WroteAssured log jid envelope u w := by
  unfold WroteAssured at h' ⊢
  rw [h.document] at h'
  split at h'
  next absent =>
    rw [if_pos absent]
    exact h.wroteOnFresh h'
  next present =>
    rw [if_neg present]
    exact h.wroteOnStored h'

theorem WroteAssured.later (h : WroteAssured log jid envelope u v)
    (grown : Saw log [] v.host w.host) : WroteAssured log jid envelope u w := by
  unfold WroteAssured at h ⊢
  split at h
  next absent =>
    obtain ⟨answer, bundle, session, plaintext, given, saw⟩ := h
    rw [if_pos absent]
    exact ⟨answer, bundle, session, plaintext, given, saw.trans grown⟩
  next present =>
    obtain ⟨session, plaintext, stores, saw⟩ := h
    rw [if_neg present]
    exact ⟨session, plaintext, stores, saw.trans grown⟩

/-- What a device is written to on after it was asked for. -/
theorem Asked.wrote {answer : Node} (asked : Asked log jid answer u v)
    (h : WroteAssured log jid envelope v w) :
    if Prekeys.names answer jid = true ∨ document? jid u = none then
      WroteOnFresh log jid envelope u w
    else WroteOnStored log jid envelope u w := by
  cases named : Prekeys.names answer jid with
  | true =>
    have renewed := asked.renewed named
    rw [WroteAssured, if_neg renewed.document] at h
    rw [if_pos (.inl rfl)]
    exact renewed.wrote h
  | false =>
    simp only [Bool.false_eq_true, false_or]
    exact wroteAssured_after (asked.kept named) h

end Sessions

end Fanout
