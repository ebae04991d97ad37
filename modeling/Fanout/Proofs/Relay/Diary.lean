import Fanout.Proofs.Relay.Stages
import Fanout.Relay.Tick

namespace Fanout

inductive Entry where
  | enrolled (id : String)
  /-- An attempt to relay the message of a record. -/
  | started (id : String)
  /-- The connection took the stanza of the attempt. -/
  | taken (id : String)
  | failed (id : String) (e : Error)
  /-- A failure after which the record is not tried again. -/
  | gaveUp (id : String)
  | acknowledged (id : String) (answer : Bool)
deriving DecidableEq

structure Diary (ω : Type) where
  relay : Relay ω
  /-- The latest entry first. -/
  entries : List Entry

namespace Relay

variable {ω : Type} (host : Host ω)

/-- The part of a relay before its stanza is handed over. -/
def compose (jid : Jid) (message : Message) (options : RelayOptions) :
    Act (Relay ω) (String × Prepared) := do
  let credentials := (← get).credentials
  let id ← chooseId host credentials options
  let outgoing : Outgoing := ⟨jid.withoutDevice, message, id, options⟩
  return (id, ← inDirectories (outgoing.prepare host credentials))

/-- The part of a relay after its stanza was taken. -/
def finish (jid : Jid) (message : Message) (made : String × Prepared) : Act (Relay ω) String := do
  modify (conclude host jid.withoutDevice made.1 message made.2.informed)
  return made.1

/-- To book who was told is only attempted, and to take the time and the note cannot fail. -/
theorem finish_eq (jid : Jid) (message : Message) (made : String × Prepared) :
    finish host jid message made = (do
      let _ ← Act.attempt (inDirectories (Directories.inMemory
        (SenderKeyMemory.mark host jid.withoutDevice made.2.informed)))
      let now ← inWorld (World.now host)
      modify fun r => { r with trackers := r.trackers.note jid.withoutDevice made.1 message now }
      return made.1) := by
  funext r
  obtain ⟨a, marked⟩ := Act.attempt_apply (inDirectories (Directories.inMemory
    (SenderKeyMemory.mark host jid.withoutDevice made.2.informed))) r
  rw [Act.bind_of_ok marked]
  rfl

theorem relay_eq (jid : Jid) (message : Message) (options : RelayOptions) :
    relay host jid message options = (do
      let made ← compose host jid message options
      transmit host made.2.node
      finish host jid message made) := by
  simp only [finish_eq, compose, bind_assoc, pure_bind]
  rfl

/-- The part of a sending before the first attempt. -/
def enrol (jid : Jid) (message : Message) (options : RelayOptions) : Act (Relay ω) String := do
  let id ← chooseId host (← get).credentials options
  let now ← inWorld (World.now host)
  inRetry (RetryQueue.enqueueInFlight host
    (.new id jid message { options with messageId := some id } now))
  return id

theorem sendMessage_eq (jid : Jid) (message : Message) (options : RelayOptions) :
    sendMessage host jid message options = (do
      let id ← enrol host jid message options
      match ← Act.attempt (relay host jid message { options with messageId := some id }) with
      | .ok id =>
        settleDelivered host id
        return id
      | .error e =>
        settleFailure host id e
        throw e) := by
  simp only [enrol, bind_assoc, pure_bind]
  rfl

end Relay

namespace Diary

variable {ω α β : Type}

def plainly (x : Act (Relay ω) α) : Act (Diary ω) α :=
  Act.zoom Diary.relay (fun r d => { d with relay := r }) x

def note (e : Entry) : Act (Diary ω) Unit := modify fun d => { d with entries := e :: d.entries }

variable (host : Host ω)

def acknowledge (id : String) : Act (Diary ω) Bool := do
  let answer ← plainly (Relay.acknowledge host id)
  note (.acknowledged id answer)
  return answer

def deliver : Delivery ω → Act (Diary ω) Unit
  | .settled outcome s => do
    plainly (modify (Relay.withHost s))
    Act.ofExcept outcome
  | .acknowledged id s next => do
    plainly (modify (Relay.withHost s))
    let answer ← Act.attempt (acknowledge host id)
    fun d => deliver (next answer d.relay.world.host) d

def transmit (n : Node) : Act (Diary ω) Unit :=
  fun d => deliver host (host.send n d.relay.world.host) d

/-- An attempt to relay the message of a record. -/
def relayFor (id : String) (jid : Jid) (message : Message) (options : RelayOptions) :
    Act (Diary ω) String := do
  note (.started id)
  let made ← plainly (Relay.compose host jid message options)
  transmit host made.2.node
  note (.taken id)
  plainly (Relay.finish host jid message made)

def settleFailure (id : String) (e : Error) : Act (Diary ω) Unit := do
  note (.failed id e)
  plainly (Relay.settleFailure host id e)
  if ((← get).relay.retry.get? id).any (·.state = .inactive) then note (.gaveUp id)

/-- The first attempt at a message that is in the queue. -/
def pursue (id : String) (jid : Jid) (message : Message) (options : RelayOptions) :
    Act (Diary ω) String := do
  match ← Act.attempt (relayFor host id jid message options) with
  | .ok sent =>
    plainly (Relay.settleDelivered host sent)
    return sent
  | .error e =>
    settleFailure host id e
    throw e

def sendMessage (jid : Jid) (message : Message) (options : RelayOptions) :
    Act (Diary ω) String := do
  let id ← plainly (Relay.enrol host jid message options)
  note (.enrolled id)
  pursue host id jid message { options with messageId := some id }

def retryOne (now : Nat) (report : TickReport) (id : String) : Act (Diary ω) TickReport := do
  match ← plainly (Relay.claim id now) with
  | none => return { report with skipped := report.skipped + 1 }
  | some record =>
    match ← Act.attempt (relayFor host id record.jid record.message record.options) with
    | .ok _ =>
      plainly (Relay.settleDelivered host id)
      return { report with delivered := report.delivered + 1 }
    | .error e =>
      settleFailure host id e
      return { report with failed := report.failed + 1 }

def tick : Act (Diary ω) (Option TickReport) := do
  let now ← plainly (Relay.inWorld (World.now host))
  match ← plainly (Relay.cleanUp host now) with
  | none => return none
  | some report =>
    let due := (← get).relay.retry.due now
    return some (← due.foldlM (retryOne host now) report)

/-- The same answer or failure as without the diary, with the diary only added to. -/
def Extends (d : Diary ω) :
    EStateM.Result Error (Diary ω) α → EStateM.Result Error (Relay ω) α → Prop
  | .ok a d', .ok b r => a = b ∧ d'.relay = r ∧ d.entries <:+ d'.entries
  | .error e d', .error f r => e = f ∧ d'.relay = r ∧ d.entries <:+ d'.entries
  | _, _ => False

def Mirrors (x : Act (Diary ω) α) (y : Act (Relay ω) α) : Prop :=
  ∀ d, Extends d (x d) (y d.relay)

namespace Mirrors

variable {x : Act (Diary ω) α} {y : Act (Relay ω) α}

theorem of_ok (hx : Mirrors x y) {d d' : Diary ω} {a : α} (h : x d = .ok a d') :
    y d.relay = .ok a d'.relay := by
  have same := hx d
  rw [h] at same
  cases hy : y d.relay with
  | ok b r =>
    rw [hy] at same
    obtain ⟨rfl, rfl, _⟩ := same
    rfl
  | error e r =>
    rw [hy] at same
    exact same.elim

theorem suffix (hx : Mirrors x y) (d : Diary ω) : d.entries <:+ (x.after d).entries := by
  have same := hx d
  unfold Act.after
  cases hd : x d <;> cases hr : y d.relay <;> rw [hd, hr] at same
  case ok.ok => exact same.2.2
  case error.error => exact same.2.2
  all_goals exact same.elim

theorem count_le (hx : Mirrors x y) (e : Entry) (d : Diary ω) :
    d.entries.count e ≤ (x.after d).entries.count e :=
  (hx.suffix d).sublist.count_le e

theorem plainly (y : Act (Relay ω) α) : Mirrors (Diary.plainly y) y := by
  intro d
  unfold Diary.plainly Act.zoom
  cases y d.relay <;> exact ⟨rfl, rfl, List.suffix_refl _⟩

theorem note (e : Entry) : Mirrors (Diary.note e : Act (Diary ω) Unit) (pure ()) :=
  fun _ => ⟨rfl, rfl, List.suffix_cons _ _⟩

theorem pure (a : α) : Mirrors (Pure.pure a : Act (Diary ω) α) (Pure.pure a) :=
  fun _ => ⟨rfl, rfl, List.suffix_refl _⟩

theorem throw (e : Error) : Mirrors (MonadExcept.throw e : Act (Diary ω) α) (MonadExcept.throw e) :=
  fun _ => ⟨rfl, rfl, List.suffix_refl _⟩

theorem bind {f : α → Act (Diary ω) β} {g : α → Act (Relay ω) β} (hx : Mirrors x y)
    (hf : ∀ a, Mirrors (f a) (g a)) : Mirrors (x >>= f) (y >>= g) := by
  intro d
  have first := hx d
  change Extends d (EStateM.bind x f d) (EStateM.bind y g d.relay)
  unfold EStateM.bind
  cases hd : x d <;> cases hr : y d.relay <;> rw [hd, hr] at first
  case ok.ok a d' b r =>
    obtain ⟨rfl, rfl, before⟩ := first
    have rest := hf a d'
    dsimp only
    cases he : f a d' <;> cases hs : g a d'.relay <;> rw [he, hs] at rest
    case ok.ok => exact ⟨rest.1, rest.2.1, before.trans rest.2.2⟩
    case error.error => exact ⟨rest.1, rest.2.1, before.trans rest.2.2⟩
    all_goals exact rest
  case error.error => exact first
  all_goals exact first.elim

theorem attempt (hx : Mirrors x y) : Mirrors (Act.attempt x) (Act.attempt y) := by
  intro d
  have first := hx d
  unfold Act.attempt
  cases hd : x d <;> cases hr : y d.relay <;> rw [hd, hr] at first
  case ok.ok =>
    obtain ⟨rfl, same⟩ := first
    exact ⟨rfl, same⟩
  case error.error =>
    obtain ⟨rfl, same⟩ := first
    exact ⟨rfl, same⟩
  all_goals exact first.elim

theorem noted (e : Entry) (hx : Mirrors x y) : Mirrors (Diary.note e >>= fun _ => x) y := by
  have h := (note (ω := ω) e).bind fun _ => hx
  rwa [pure_bind] at h

theorem foldlM {γ : Type} {f : γ → β → Act (Diary ω) γ} {g : γ → β → Act (Relay ω) γ}
    (h : ∀ c b, Mirrors (f c b) (g c b)) (bs : List β) (c : γ) :
    Mirrors (bs.foldlM f c) (bs.foldlM g c) := by
  induction bs generalizing c with
  | nil => exact pure c
  | cons b bs ih =>
    rw [List.foldlM_cons, List.foldlM_cons]
    exact (h c b).bind fun c' => ih c'

end Mirrors

variable {host}

theorem acknowledge_mirrors (id : String) :
    Mirrors (acknowledge host id) (Relay.acknowledge host id) := by
  have h := (Mirrors.plainly (Relay.acknowledge host id)).bind fun answer =>
    (Mirrors.pure answer).noted (.acknowledged id answer)
  rwa [bind_pure] at h

theorem deliver_mirrors (d : Delivery ω) : Mirrors (deliver host d) (Relay.deliver host d) := by
  induction d with
  | settled outcome s =>
    refine (Mirrors.plainly _).bind fun _ => ?_
    cases outcome with
    | ok a => exact .pure a
    | error e => exact .throw e
  | acknowledged id s next ih =>
    refine (Mirrors.plainly _).bind fun _ => ?_
    exact (acknowledge_mirrors id).attempt.bind fun answer d => ih answer d.relay.world.host d

theorem transmit_mirrors (n : Node) : Mirrors (transmit host n) (Relay.transmit host n) :=
  fun d => deliver_mirrors (host.send n d.relay.world.host) d

theorem relayFor_mirrors (id : String) (jid : Jid) (message : Message) (options : RelayOptions) :
    Mirrors (relayFor host id jid message options) (Relay.relay host jid message options) := by
  rw [Relay.relay_eq]
  refine .noted _ ((Mirrors.plainly _).bind fun made => ?_)
  exact (transmit_mirrors made.2.node).bind fun _ => (Mirrors.plainly _).noted _

theorem settleFailure_mirrors (id : String) (e : Error) :
    Mirrors (settleFailure host id e) (Relay.settleFailure host id e) := by
  refine .noted _ ?_
  have booked : Mirrors (do
      plainly (Relay.settleFailure host id e)
      if ((← get).relay.retry.get? id).any (·.state = .inactive) then note (.gaveUp id))
      (Relay.settleFailure host id e >>= fun _ => pure ()) := by
    refine (Mirrors.plainly _).bind fun _ d => ?_
    change Extends d ((if _ then note (.gaveUp id) else pure ()) d) _
    split
    · exact Mirrors.note _ d
    · exact Mirrors.pure () d
  rwa [bind_pure] at booked

theorem pursue_mirrors (id : String) (jid : Jid) (message : Message) (options : RelayOptions) :
    Mirrors (pursue host id jid message options) (do
      match ← Act.attempt (Relay.relay host jid message options) with
      | .ok sent =>
        Relay.settleDelivered host sent
        return sent
      | .error e =>
        Relay.settleFailure host id e
        throw e) := by
  refine (relayFor_mirrors id jid message _).attempt.bind fun outcome => ?_
  cases outcome with
  | ok sent => exact (Mirrors.plainly _).bind fun _ => .pure sent
  | error e => exact (settleFailure_mirrors id e).bind fun _ => .throw e

theorem sendMessage_mirrors (jid : Jid) (message : Message) (options : RelayOptions) :
    Mirrors (sendMessage host jid message options)
      (Relay.sendMessage host jid message options) := by
  rw [Relay.sendMessage_eq]
  exact (Mirrors.plainly _).bind fun id => .noted _ (pursue_mirrors id jid message _)

theorem retryOne_mirrors (now : Nat) (report : TickReport) (id : String) :
    Mirrors (retryOne host now report id) (Relay.retryOne host now report id) := by
  refine (Mirrors.plainly _).bind fun claimed => ?_
  cases claimed with
  | none => exact .pure _
  | some record =>
    refine (relayFor_mirrors id _ _ _).attempt.bind fun outcome => ?_
    cases outcome with
    | ok sent => exact (Mirrors.plainly _).bind fun _ => .pure _
    | error e => exact (settleFailure_mirrors id e).bind fun _ => .pure _

/-- A pass over the queue is the same with a diary and without. -/
theorem tick_mirrors : Mirrors (tick host) (Relay.tick host) := by
  refine (Mirrors.plainly _).bind fun now => (Mirrors.plainly _).bind fun cleaned => ?_
  cases cleaned with
  | none => exact .pure _
  | some report =>
    have turns : ∀ ids : List String, Mirrors (ids.foldlM (retryOne host now) report)
        (ids.foldlM (Relay.retryOne host now) report) :=
      fun ids => Mirrors.foldlM (fun r id => retryOne_mirrors now r id) ids report
    exact fun d => (turns (d.relay.retry.due now)).bind (fun report => .pure (some report)) d

section Steps

variable {d : Diary ω} {r : Relay ω}

theorem plainly_of_ok {x : Act (Relay ω) α} {a : α} (h : x d.relay = .ok a r) :
    plainly x d = .ok a ⟨r, d.entries⟩ :=
  Act.zoom_eq_ok.mpr ⟨r, h, rfl⟩

theorem plainly_of_error {x : Act (Relay ω) α} {e : Error} (h : x d.relay = .error e r) :
    plainly x d = .error e ⟨r, d.entries⟩ :=
  Act.zoom_eq_error.mpr ⟨r, h, rfl⟩

theorem note_apply (e : Entry) (d : Diary ω) : note e d = .ok () ⟨d.relay, e :: d.entries⟩ := rfl

/-- What is written down of a failure: the failure, and that the record is given up if it is. -/
theorem settleFailure_apply {id : String} {e : Error}
    (h : Relay.settleFailure host id e d.relay = .ok () r) :
    settleFailure host id e d = .ok () ⟨r,
      (if (r.retry.get? id).any (·.state = .inactive) then [Entry.gaveUp id] else []) ++
        .failed id e :: d.entries⟩ := by
  have settled := plainly_of_ok (d := ⟨d.relay, .failed id e :: d.entries⟩) h
  rw [settleFailure, Act.bind_of_ok (note_apply _ d), Act.bind_of_ok settled]
  change (if _ then note (.gaveUp id) else pure ()) _ = _
  split <;> rfl

end Steps

end Diary

end Fanout
