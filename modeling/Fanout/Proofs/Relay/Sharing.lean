import Fanout.Proofs.Relay.Bookkeeping
import Fanout.Proofs.Relay.Components
import Fanout.Proofs.Relay.History
import Fanout.Proofs.Relay.Settlement
import Fanout.Proofs.World.Reading

namespace Fanout

variable {ω α : Type} {host : Host ω}

/-- The keys of no component of a list. -/
def Component.Away (used : List Component) (key : String) : Prop := ∀ c ∈ used, ¬c.Owns key

namespace SenderKeyMemory

variable {kept lasting : String → Prop} {group : Jid}

theorem flags_follows (host : Host ω) (group : Jid) :
    (flags host group).Keeps (Held.Follows (fun _ _ => True) kept lasting) := by
  refine Held.getOwn_keeps.bind fun memory => ?_
  split
  · exact .pure _
  · refine (Held.inWorld_keeps (Storage.load_keeps host.keeps_true _ _)).bind fun stored => ?_
    exact Held.getOwn_keeps.bind fun _ => (Held.setOwn_keeps _).bind fun _ => .pure _

theorem missing_follows (host : Host ω) (group : Jid) (devices : List Jid) :
    (missing host group devices).Keeps (Held.Follows (fun _ _ => True) kept lasting) :=
  (flags_follows host group).bind fun _ => .pure _

theorem mark_follows (host : Host ω) (other : ¬kept (key group)) (devices : List Jid) :
    (mark host group devices).Keeps (Held.Follows (fun _ _ => True) kept lasting) := by
  have written : ∀ next : DeviceFlags, (do
      Held.inWorld (Storage.save host (key group) next.toJson)
      Held.setOwn ((← Held.getOwn).insert group next) :
        Act (Held SenderKeyMemory ω) Unit).Keeps (Held.Follows (fun _ _ => True) kept lasting) :=
    fun next => (Held.inWorld_keeps (Storage.save_keeps host.keeps_true other _)).bind fun _ =>
      Held.getOwn_keeps.bind fun _ => Held.setOwn_keeps _
  exact .ite (.pure _) ((flags_follows host group).bind fun fs => written (fs.markAll devices))

theorem reset_follows (host : Host ω) (other : ¬kept (key group)) (fleeting : ¬lasting (key group)) :
    (reset host group).Keeps (Held.Follows (fun _ _ => True) kept lasting) :=
  Held.getOwn_keeps.bind fun _ => (Held.setOwn_keeps _).bind fun _ =>
    Held.inWorld_keeps (Storage.del_keeps host.keeps_true other fleeting)

end SenderKeyMemory

namespace Relay

/-- Some components were at work over the store of a relay, whose queue stayed at home. -/
def Touches (used : List Component) (r r' : Relay ω) : Prop :=
  r.AtHome → r'.AtHome ∧ Touched used r.world.documents r'.world.documents

variable {used : List Component} {r r' : Relay ω}

instance : IsPreorder (Relay ω) (Touches used) where
  refl _ home := ⟨home, refl_of (Touched used) _⟩
  trans _ _ _ h h' home :=
    ⟨(h' (h home).1).1, trans_of (Touched used) (h home).2 (h' (h home).1).2⟩

theorem Touches.mono {used' : List Component} (h : Touches used r r') (more : used ⊆ used') :
    Touches used' r r' :=
  fun home => ⟨(h home).1, (h home).2.mono more⟩

theorem Touches.of_same (home : r'.retry.home = r.retry.home)
    (same : r'.world.documents = r.world.documents) : Touches used r r' := by
  intro atHome
  rw [AtHome, home]
  exact ⟨atHome, .of_same fun _ => by rw [same]⟩

/-- A world goes on by components that are no queue. -/
def Idle (used : List Component) : World ω → World ω → Prop :=
  World.Follows (fun _ _ => True) (Component.Away used) fun _ => False

theorem Touches.of_idle (idle : .retries ∉ used) (home : r'.retry.home = r.retry.home)
    (h : Idle used r.world r'.world) : Touches used r r' := by
  intro atHome
  rw [AtHome, home]
  exact ⟨atHome, .of_others idle h.documents⟩

theorem inWorld_touches (idle : .retries ∉ used) {x : Act (World ω) α} (hx : x.Keeps (Idle used)) :
    (inWorld x).Keeps (Touches used) :=
  hx.zoom fun _ _ h => .of_idle idle rfl h

theorem inMemory_touches (idle : .retries ∉ used) {x : Act (Held SenderKeyMemory ω) α}
    (hx : x.Keeps (Held.Follows (fun _ _ => True) (Component.Away used) fun _ => False)) :
    (inDirectories (Directories.inMemory x)).Keeps (Touches used) := by
  intro r
  rw [inDirectories, Act.after_zoom, Directories.inMemory, Act.after_zoom]
  exact .of_idle idle rfl (hx ⟨r.directories.memory, r.world⟩)

theorem inRetry_touches (works : .retries ∈ used) {x : Act (Held RetryQueue ω) α}
    (hx : x.Keeps RetryQueue.Tends) : (inRetry x).Keeps (Touches used) := by
  intro r atHome
  have tends : RetryQueue.Tends r.queue ((inRetry x).after r).queue := queue_inRetry x r ▸ hx r.queue
  refine ⟨?_, .of_refiles works (fun start there => ?_) tends.documents⟩
  · rw [AtHome, show ((inRetry x).after r).retry.home = r.retry.home from tends.home]
    exact atHome
  · rcases atHome with none | some
    · cases none.symm.trans there
    · exact Option.some.inj (there.symm.trans some)

theorem inCredentials_touches {x : Act (Held Credentials ω) α} (hx : x.Keeps Credentials.Apart) :
    (inCredentials x).Keeps (Touches [.credentials]) := by
  intro r
  rw [inCredentials, Act.after_zoom]
  refine fun atHome => ⟨atHome, .of_others (by decide) fun key away => ?_⟩
  exact hx ⟨r.credentials, r.world⟩ key fun own => away _ List.mem_cons_self own

theorem Prepares.touches {R : ω → ω → Prop} (h : Prepares R r r') :
    Touches [.sessions, .senderKeys] r r' := by
  intro atHome
  refine ⟨atHome.of_prepares h, .of_others (by decide) fun key away => ?_⟩
  have session := away .sessions (by decide)
  have senderKey := away .senderKeys (by decide)
  refine h.directories.rest.documents key ?_
  rw [SessionStore.isRecord, Bool.or_eq_false_iff]
  exact ⟨Bool.eq_false_iff.mpr session, Bool.eq_false_iff.mpr senderKey⟩

/-- The components that have a part in the sending of a stanza. -/
def delivery : List Component := [.sessions, .senderKeys, .senderKeyMemory, .retries]

theorem deliver_touches (d : Delivery ω) : (deliver host d).Keeps (Touches delivery) := by
  have passed : ∀ s : ω, (modify (withHost s) : Act (Relay ω) PUnit).Keeps (Touches delivery) :=
    fun s => .modify fun r => .of_same rfl rfl
  induction d with
  | settled outcome s => exact (passed s).bind fun _ => .ofExcept outcome
  | acknowledged id s next ih =>
    have acknowledged : (acknowledge host id).Keeps (Touches delivery) :=
      (inRetry_touches (by decide) (RetryQueue.remove_tends host id)).bind fun _ => .pure _
    exact (passed s).bind fun _ => acknowledged.attempt.bind fun answer r => ih answer r.world.host r

theorem transmit_touches (host : Host ω) (n : Node) : (transmit host n).Keeps (Touches delivery) :=
  fun r => deliver_touches (host.send n r.world.host) r

theorem mark_touches (host : Host ω) (group : Jid) (devices : List Jid) :
    (inDirectories (Directories.inMemory (SenderKeyMemory.mark host group devices))).Keeps
      (Touches [.senderKeyMemory]) :=
  inMemory_touches (by decide) (SenderKeyMemory.mark_follows host
    (fun away => away _ List.mem_cons_self (Subject.flags group).owned) devices)

theorem relay_touches (host : Host ω) (jid : Jid) (message : Message) (options : RelayOptions) :
    (relay host jid message options).Keeps (Touches delivery) := by
  have composed : (compose host jid message options).Keeps (Touches delivery) := fun r =>
    (compose_prepares host.keeps_true jid message options r).touches.mono (by decide)
  have marked : ∀ devices, (inDirectories (Directories.inMemory
      (SenderKeyMemory.mark host jid.withoutDevice devices))).Keeps (Touches delivery) :=
    fun devices r => (mark_touches host jid.withoutDevice devices r).mono (by decide)
  have timed : (inWorld (World.now host)).Keeps (Touches delivery) :=
    fun r => .of_same rfl rfl
  rw [relay_eq]
  refine composed.bind fun made => (transmit_touches host _).bind fun _ => ?_
  rw [finish_eq]
  refine (marked _).attempt.bind fun _ => timed.bind fun now => ?_
  exact (Act.Keeps.modify fun r => .of_same rfl rfl).bind fun _ => .pure _

theorem keptBesides_touches (host : Host ω) : KeptBesides host (Touches delivery) where
  now r := .of_same rfl rfl
  noise n r := (inWorld_keeps (World.noiseBytes_keeps host.keeps_true n) r).touches.mono (by decide)
  ensure jids force r :=
    (inWorld_keeps (Sessions.ensure_keeps host.keeps_true jids force) r).touches.mono (by decide)
  enqueue record := inRetry_touches (by decide) (RetryQueue.enqueueInFlight_tends host record)
  fail id error now := inRetry_touches (by decide) (RetryQueue.recordFailure_tends host id error now)
  remove id := inRetry_touches (by decide) (RetryQueue.remove_tends host id)
  purge now := inRetry_touches (by decide) (RetryQueue.purge_tends host now)
  claim id now r := .of_same (RetryQueue.claim_home r.retry id now) rfl
  relay := relay_touches host

theorem resetSenderKeys_touches (host : Host ω) (group : Jid) :
    (resetSenderKeys host group).Keeps (Touches [.senderKeys, .senderKeyMemory]) := by
  have deleted : ∀ name, (inWorld (SessionStore.deleteSenderKey host name)).Keeps
      (Touches [.senderKeys, .senderKeyMemory]) := fun name =>
    inWorld_touches (by decide) (Storage.del_keeps host.keeps_true
      (fun away => away _ List.mem_cons_self (Subject.senderKey name).owned) id)
  have forgotten : (inDirectories (Directories.inMemory (SenderKeyMemory.reset host group))).Keeps
      (Touches [.senderKeys, .senderKeyMemory]) :=
    inMemory_touches (by decide) (SenderKeyMemory.reset_follows host
      (fun away => away .senderKeyMemory (by decide) (Subject.flags group).owned) id)
  refine Act.Keeps.get.bind fun r => forgotten.bind fun _ => (deleted _).bind fun _ => ?_
  split
  · exact deleted _
  · exact .pure ()

/-- What can be asked of a relay and, over its store, of its components. -/
inductive Call where
  | relay (jid : Jid) (message : Message) (options : RelayOptions)
  | send (jid : Jid) (message : Message) (options : RelayOptions)
  | answer (receipt : RetryReceipt)
  | tick
  | acknowledge (id : String)
  | resetSenderKeys (group : Jid)
  | ensure (jids : List Jid) (force : Bool)
  | operate (op : Repository.Operation)
  | change (c : Repository.Change)
  | deleteSessions (jids : List Jid)
  | missing (group : Jid) (devices : List Jid)
  | snapshot (group : Jid)
  | mark (group : Jid) (devices : List Jid)
  | reset (group : Jid)
  | enqueue (record : RetryRecord)
  | claim (id : String) (now : Nat)
  | fail (id error : String) (now : Nat)
  | remove (id : String)
  | purge (now : Nat)
  | credentials (call : Credentials.Call)

namespace Call

/-- The relay after a call, whichever way the call ends. -/
def after (host : Host ω) (r : Relay ω) : Call → Relay ω
  | relay jid message options => (Relay.relay host jid message options).after r
  | send jid message options => (sendMessage host jid message options).after r
  | answer receipt => (handleRetryReceipt host receipt).after r
  | tick => (Relay.tick host).after r
  | acknowledge id => (Relay.acknowledge host id).after r
  | resetSenderKeys group => (Relay.resetSenderKeys host group).after r
  | ensure jids force => (inWorld (Sessions.ensure host jids force)).after r
  | operate op => (inWorld (op.run host)).after r
  | change c => (inWorld (c.run host)).after r
  | deleteSessions jids => (inWorld (Repository.deleteSessions host jids)).after r
  | missing group devices =>
    (inDirectories (Directories.inMemory (SenderKeyMemory.missing host group devices))).after r
  | snapshot group =>
    (inDirectories (Directories.inMemory (SenderKeyMemory.flags host group))).after r
  | mark group devices =>
    (inDirectories (Directories.inMemory (SenderKeyMemory.mark host group devices))).after r
  | reset group => (inDirectories (Directories.inMemory (SenderKeyMemory.reset host group))).after r
  | enqueue record => (inRetry (RetryQueue.enqueueInFlight host record)).after r
  | claim id now => (Relay.claim id now).after r
  | fail id error now => (inRetry (RetryQueue.recordFailure host id error now)).after r
  | remove id => (inRetry (RetryQueue.remove host id)).after r
  | purge now => (inRetry (RetryQueue.purge host now)).after r
  | credentials call => (inCredentials (call.run host)).after r

/-- The components that have a part in a call. -/
def parts : Call → List Component
  | relay .. | send .. | answer _ | tick => delivery
  | acknowledge _ | enqueue _ | claim .. | fail .. | remove _ | purge _ => [.retries]
  | resetSenderKeys _ => [.senderKeys, .senderKeyMemory]
  | ensure .. | deleteSessions _ => [.sessions]
  | operate op => [op.place.component]
  | change c => [c.place.component]
  | missing .. | snapshot _ | mark .. | reset _ => [.senderKeyMemory]
  | credentials _ => [.credentials]

theorem operate_idle (host : Host ω) (op : Repository.Operation) :
    (op.run host).Keeps (Idle [op.place.component]) := by
  intro w
  refine ⟨trivial, fun key away => ?_, fun _ => False.elim⟩
  have other : op.place.key ≠ key :=
    fun same => away _ List.mem_cons_self (same ▸ op.place.owned)
  rcases op.documents_after host w with same | ⟨_, _, _, next, _, _, _, _, _, wrote⟩
  · rw [same]
  · rw [wrote, Dict.find?_insert, if_neg other]

theorem change_idle (host : Host ω) (c : Repository.Change) :
    (c.run host).Keeps (Idle [c.place.component]) := by
  have own : ¬Component.Away [c.place.component] c.place.key :=
    fun away => away _ List.mem_cons_self c.place.owned
  cases c with
  | store place data =>
    rw [Repository.Change.run, Repository.Place.save_eq_put]
    exact Storage.put_keeps host.keeps_true own _
  | delete place =>
    rw [Repository.Change.run, Repository.Place.delete_eq_del]
    exact Storage.del_keeps host.keeps_true own id

/-- A call touches the components that have a part in it and no others. -/
theorem touches (host : Host ω) (r : Relay ω) (call : Call) :
    Touches call.parts r (call.after host r) := by
  have session : ∀ jid : Jid, ¬Component.Away [.sessions]
      (SessionStore.sessionKey jid.protocolAddress) :=
    fun jid away => away _ List.mem_cons_self (Subject.session jid.protocolAddress).owned
  have flags : ∀ group : Jid, ¬Component.Away [.senderKeyMemory] (SenderKeyMemory.key group) :=
    fun group away => away _ List.mem_cons_self (Subject.flags group).owned
  have works : Component.retries ∈ [Component.retries] := List.mem_cons_self
  have idle : Component.retries ∉ [Component.senderKeyMemory] := by decide
  cases call with
  | relay jid message options => exact relay_touches host jid message options r
  | send jid message options => exact (keptBesides_touches host).sendMessage jid message options r
  | answer receipt =>
    exact (keptBesides_touches host).handleRetryReceipt receipt (fun _ _ => .of_same rfl rfl) r
  | tick => exact (keptBesides_touches host).tick (fun _ _ => .of_same rfl rfl) r
  | acknowledge id =>
    exact (inRetry_touches works (RetryQueue.remove_tends host id)).bind (fun _ => .pure _) r
  | resetSenderKeys group => exact resetSenderKeys_touches host group r
  | ensure jids force =>
    exact inWorld_touches (by decide) (Sessions.ensure_follows host.keeps_true session jids force) r
  | operate op =>
    refine inWorld_touches ?_ (operate_idle host op) r
    cases op <;> exact of_decide_eq_true rfl
  | change c =>
    refine inWorld_touches ?_ (change_idle host c) r
    obtain ⟨place, data⟩ | place := c <;> cases place <;> exact of_decide_eq_true rfl
  | deleteSessions jids =>
    exact inWorld_touches (by decide) (Repository.deleteSessions_keeps host.keeps_true
      (fun jid _ => session jid) fun _ _ => id) r
  | missing group devices =>
    exact inMemory_touches idle (SenderKeyMemory.missing_follows host group devices) r
  | snapshot group => exact inMemory_touches idle (SenderKeyMemory.flags_follows host group) r
  | mark group devices => exact mark_touches host group devices r
  | reset group =>
    exact inMemory_touches idle (SenderKeyMemory.reset_follows host (flags group) id) r
  | enqueue record => exact inRetry_touches works (RetryQueue.enqueueInFlight_tends host record) r
  | claim id now => exact .of_same (RetryQueue.claim_home r.retry id now) rfl
  | fail id error now =>
    exact inRetry_touches works (RetryQueue.recordFailure_tends host id error now) r
  | remove id => exact inRetry_touches works (RetryQueue.remove_tends host id) r
  | purge now => exact inRetry_touches works (RetryQueue.purge_tends host now) r
  | credentials call => exact inCredentials_touches (call.run_apart host) r

end Call

/-- The life of a relay and of those that follow it over one store, in which at first nothing is
listed as a retry record. What else goes on may do anything but change a document. -/
inductive Succession (host : Host ω) : Relay ω → Prop
  | opened {c : Config} {credentials : Credentials} {w w' : World ω} {r : Relay ω}
      (bare : ∀ id, w.documents.find? (retryHome ++ id) = none)
      (h : create host c credentials w = .ok r w') : Succession host r
  | reopened {c : Config} {credentials : Credentials} {r r' : Relay ω} {s : ω} {w' : World ω}
      (before : Succession host r)
      (h : create host c credentials ⟨r.world.documents, s⟩ = .ok r' w') : Succession host r'
  | called {r : Relay ω} (before : Succession host r) (call : Call) :
      Succession host (call.after host r)
  | aside {r r' : Relay ω} (before : Succession host r) (home : r'.retry.home = r.retry.home)
      (same : r'.world.documents = r.world.documents) : Succession host r'

theorem Succession.calls {r : Relay ω} (before : Succession host r) (calls : List Call) :
    Succession host (calls.foldl (Call.after host) r) := by
  induction calls generalizing r with
  | nil => exact before
  | cons call calls ih => exact ih (before.called call)

theorem Succession.tidy (run : Succession host r) : r.AtHome ∧ r.world.documents.Tidy := by
  induction run with
  | opened bare h =>
    refine ⟨.of_create h, fun id text found => ?_⟩
    rw [(create_eq_ok h).2, bare] at found
    cases found
  | reopened _ h ih =>
    refine ⟨.of_create h, fun id text found => ih.2 id text ?_⟩
    rwa [(create_eq_ok h).2] at found
  | called _ call ih =>
    obtain ⟨atHome, touched⟩ := call.touches host _ ih.1
    exact ⟨atHome, touched.tidy ih.2⟩
  | aside _ home same ih =>
    rw [AtHome, home, same]
    exact ih

/-- To open a queue is to read retry records and nothing else. -/
theorem openQueue_alike (host : Host ω) (c : Config) {d d' : Documents} (s : ω)
    (same : ∀ id, d'.find? (retryHome ++ id) = d.find? (retryHome ++ id)) :
    Alike (openQueue host c) d d' s := by
  have housed : ∀ key, Storage.startsWith retryHome key = true → d'.find? key = d.find? key := by
    intro key starts
    obtain ⟨id, rfl⟩ := Storage.startsWith_iff.mp starts
    exact same id
  unfold openQueue
  split
  · exact RetryQueue.restore_alike housed
  · exact .pure _

/-- What opening a queue over tidy documents finds under an id was written for this id. -/
theorem written_of_openQueue {c : Config} {w w' : World ω} {q : RetryQueue}
    (tidy : w.documents.Tidy) (h : openQueue host c w = .ok q w') {id : String}
    {record : RetryRecord} (found : q.get? id = some record) :
    ∃ written : RetryRecord, written.messageId = id ∧
      w.documents.find? (retryHome ++ id) = some written.toJson.compact ∧
      RetryRecord.ofText? written.toJson.compact = some record := by
  obtain ⟨_, _, _, keyed, documents⟩ := openQueue_eq_ok h
  obtain ⟨key, ⟨start, home, starts⟩, read⟩ := documents id record found
  obtain rfl : start = retryHome := by
    unfold homeFor at home
    split at home
    · exact (Option.some.inj home).symm
    · cases home
  obtain ⟨id', rfl⟩ := Storage.startsWith_iff.mp starts
  obtain ⟨text, there, read⟩ := Option.bind_eq_some_iff.mp read
  obtain ⟨written, rfl, rfl⟩ := tidy id' text there
  have named : record.messageId = written.messageId := by
    obtain ⟨_, same⟩ := RetryRecord.eq_of_ofText?_compact read
    rw [same]
  obtain rfl : written.messageId = id := named.symm.trans (keyed id record found)
  exact ⟨written, rfl, there, read⟩

/-- How a relay gets on with its components over the store that they share: a call changes documents
only of those that have a part in it, the retry records are listed in order and with nothing else
among them, and a restart does the same whatever is kept beside them. -/
structure GetsOn (host : Host ω) (r : Relay ω) : Prop where
  calls : ∀ (call : Call) (key : String), (∀ c ∈ call.parts, ¬c.Owns key) →
    (call.after host r).world.documents.find? key = r.world.documents.find? key
  listed : (host.refuses (.list retryHome) r.world.host).1 = none → ∃ keys w,
    Storage.list host retryHome r.world = .ok keys w ∧ keys.Pairwise (· < ·) ∧
      ∀ key, key ∈ keys ↔ ∃ record : RetryRecord, key = retryHome ++ record.messageId ∧
        r.world.documents.find? key = some record.toJson.compact
  restarts : ∀ (c : Config) (d : Documents) (s : ω),
    (∀ id, d.find? (retryHome ++ id) = r.world.documents.find? (retryHome ++ id)) →
      Alike (openQueue host c) r.world.documents d s
  restored : ∀ (c : Config) (s : ω) (q : RetryQueue) (w : World ω),
    openQueue host c ⟨r.world.documents, s⟩ = .ok q w → ∀ id record, q.get? id = some record →
      ∃ written : RetryRecord, written.messageId = id ∧
        r.world.documents.find? (retryHome ++ id) = some written.toJson.compact ∧
        RetryRecord.ofText? written.toJson.compact = some record

theorem listed_of_tidy (tidy : r.world.documents.Tidy)
    (allowed : (host.refuses (.list retryHome) r.world.host).1 = none) : ∃ keys w,
    Storage.list host retryHome r.world = .ok keys w ∧ keys.Pairwise (· < ·) ∧
      ∀ key, key ∈ keys ↔ ∃ record : RetryRecord, key = retryHome ++ record.messageId ∧
        r.world.documents.find? key = some record.toJson.compact := by
  refine ⟨_, _, Act.bind_of_ok (Storage.allow_eq_ok.mpr ⟨allowed, rfl⟩),
    Storage.sorted_keysFrom _ _, fun key => ?_⟩
  rw [Storage.mem_keysFrom]
  constructor
  · rintro ⟨starts, text, found⟩
    obtain ⟨id, rfl⟩ := Storage.startsWith_iff.mp starts
    obtain ⟨record, rfl, rfl⟩ := tidy id text found
    exact ⟨record, rfl, found⟩
  · rintro ⟨record, rfl, found⟩
    exact ⟨Storage.startsWith_iff.mpr ⟨record.messageId, rfl⟩, _, found⟩

/-- Whatever the identifiers, a key is one component's only, and so the components of a relay never
meet in the store. -/
theorem Succession.components_apart (run : Succession host r) :
    (∀ a b : Subject, a.component ≠ b.component → a.key ≠ b.key) ∧
      (∀ (a : Subject) (c : Component), c.Owns a.key ↔ c = a.component) ∧ GetsOn host r := by
  obtain ⟨atHome, tidy⟩ := run.tidy
  refine ⟨fun a b => Subject.key_ne, fun a c => ⟨fun owns => owns.unique a.owned, ?_⟩, ?_⟩
  · rintro rfl
    exact a.owned
  · exact {
      calls := fun call key => (call.touches host r atHome).2.others key
      listed := listed_of_tidy tidy
      restarts := fun c d s => openQueue_alike host c s
      restored := fun c s q w h id record =>
        written_of_openQueue (w := ⟨r.world.documents, s⟩) tidy h }

/-- Credentials, a session, and a message that stays, with an id that looks like the way to the
session. -/
def crowd : List Call :=
  [.credentials .save, .operate (.inject Stage.friend default),
    .send Stage.channel (.text "hi") { messageId := some "../session/2.0" }]

theorem crowded_store_lists_retry : ∃ r w, Succession unplugged r ∧
    r.world.documents.keys =
      ["v1/credentials", "v1/retry-queue/../session/2.0", "v1/session/2.0"] ∧
    Storage.list unplugged retryHome r.world = .ok ["v1/retry-queue/../session/2.0"] w ∧
    GetsOn unplugged r := by
  have shown : (create unplugged {} ⟨Stage.own, none, []⟩).yields ⟨∅, Stage.opening⟩ (fun first _ =>
      let r := crowd.foldl (Call.after unplugged) first
      decide (r.world.documents.keys =
        ["v1/credentials", "v1/retry-queue/../session/2.0", "v1/session/2.0"]) &&
      (Storage.list unplugged retryHome).yields r.world (fun listed _ =>
        listed = ["v1/retry-queue/../session/2.0"])) = true := by
    decide +kernel
  obtain ⟨first, _, h, shown⟩ := Act.yields_iff.mp shown
  rw [Bool.and_eq_true, decide_eq_true_eq] at shown
  obtain ⟨w, listed⟩ := Act.ok_of_yields shown.2
  have run := (Succession.opened (fun _ => rfl) h).calls crowd
  exact ⟨_, w, run, shown.1, listed, run.components_apart.2.2⟩

end Relay

end Fanout
