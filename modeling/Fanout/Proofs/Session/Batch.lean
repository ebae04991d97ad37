import Fanout.Proofs.Except
import Fanout.Proofs.Host.Overheard
import Fanout.Proofs.Node
import Fanout.Proofs.Session.Assertion

namespace Fanout

namespace Prekeys

/-- A question for the bundles of some devices lists them, in their order. -/
structure Asked (jids : List Jid) (n : Node) : Prop where
  built : n = query jids
  listed : (n.at? ["key"]).map Node.users = some (jids.map fun jid => some jid.encode)

theorem asked_query (jids : List Jid) : Asked jids (query jids) :=
  ⟨rfl, congrArg some (Node.users_listing (Node.named "key") Jid.encode jids)⟩

/-- How the bundles of devices are asked for. -/
abbrev Asks : List Jid → List Heard → Except Error (List (Jid × PreKeyBundle)) → Prop :=
  AsksOnce Asked parse

/-- What makes an answer worth nothing: it is an error, it has no list, or one user of the list
cannot be read. -/
inductive Rejected (answer : Node) : Prop
  | error {n : Node} (failed : answer.child? "error" = some n)
  | unlisted (none : answer.child? "list" = none)
  | user {list n : Node} {e : Error} (listed : answer.child? "list" = some list)
    (mem : n ∈ list.childrenTagged "user") (unread : readBundle n = .error e)

theorem parse_of_rejected {answer : Node} (rejected : Rejected answer) :
    ∃ e, parse answer = .error e := by
  unfold parse
  cases failed : answer.checkError with
  | error e => exact ⟨e, rfl⟩
  | ok =>
    cases rejected with
    | error error =>
      simp only [Node.checkError, error] at failed
      cases failed
    | unlisted none =>
      simp only [Node.child, none]
      exact ⟨_, rfl⟩
    | user listed mem unread =>
      simp only [Node.child, listed]
      exact mapM_eq_error_iff.mpr ⟨_, mem, _, unread⟩

end Prekeys

namespace Sessions

open Repository SessionStore Overheard

/-- A session that was opened for a device on account of a bundle. -/
structure Opening where
  jid : Jid
  bundle : PreKeyBundle
  session : SessionRecord

namespace Opening

def given (o : Opening) : Jid × PreKeyBundle := (o.jid, o.bundle)

def event (o : Opening) : Heard := .opened o.jid.protocolAddress o.bundle o.session

def store (documents : Documents) (o : Opening) : Documents :=
  documents.insert (sessionKey o.jid.protocolAddress) o.session.toJson.compact

end Opening

variable {ω : Type} {host : Host ω} {wanted : List Jid} {w : World (Overheard ω)}

/-- Opening a session goes wrong only where the cipher does, and then nothing is stored. -/
theorem injectSession_cases (reliable : host.Reliable) (jid : Jid) (bundle : PreKeyBundle)
    (w : World (Overheard ω)) :
    (∃ session w', injectSession host.overhearing jid bundle w = .ok () w' ∧
        Hears [Opening.event ⟨jid, bundle, session⟩] w.host w'.host ∧
        w'.documents = Opening.store w.documents ⟨jid, bundle, session⟩) ∨
      ∃ e w', injectSession host.overhearing jid bundle w = .error e w' ∧
        Hears [] w.host w'.host ∧ w'.documents = w.documents := by
  cases made : World.inHost (host.overhearing.cipher.initiate jid.protocolAddress bundle) w with
  | error e v =>
    right
    obtain ⟨s, failed, rfl⟩ := Act.zoom_eq_error.mp made
    exact ⟨e, _, Act.bind_of_error made, initiate_eq_error failed, rfl⟩
  | ok session v =>
    left
    have after : injectSession host.overhearing jid bundle w =
        storeSession host.overhearing jid.protocolAddress session v := Act.bind_of_ok made
    obtain ⟨s, opened, rfl⟩ := Act.zoom_eq_ok.mp made
    have heard := initiate_eq_ok opened
    rcases Storage.put_cases host.overhearing (sessionKey jid.protocolAddress)
      session.toJson.compact ⟨w.documents, s⟩ with ⟨w', stored, wrote⟩ | ⟨_, _, _, _, refused⟩
    · obtain ⟨_, rfl⟩ := Storage.put_eq_ok stored
      exact ⟨session, _, after.trans stored, heard.trans (.of_eq rfl), wrote⟩
    · exact absurd reliable.overhearing refused

/-- Of the bundles for devices that were asked for, the first ones are opened and stored in their
order: all of them, unless the cipher fails. -/
theorem inject_cases (reliable : host.Reliable) (wanted : List Jid)
    (bundles : List (Jid × PreKeyBundle)) (w : World (Overheard ω)) :
    ∃ (opened : List Opening) (w' : World (Overheard ω)),
      Hears (opened.map Opening.event) w.host w'.host ∧
      w'.documents = opened.foldl Opening.store w.documents ∧
      (inject host.overhearing wanted bundles w = .ok opened.length w' ∧
          opened.map Opening.given = bundles.filter (fun b => b.1 ∈ wanted) ∨
        ∃ e, inject host.overhearing wanted bundles w = .error e w' ∧
          opened.map Opening.given <+: bundles.filter (fun b => b.1 ∈ wanted)) := by
  induction bundles generalizing w with
  | nil => exact ⟨[], w, .of_eq rfl, rfl, .inl ⟨rfl, rfl⟩⟩
  | cons b rest ih =>
    obtain ⟨jid, bundle⟩ := b
    by_cases asked : jid ∈ wanted
    · have first : ((jid, bundle) :: rest).filter (fun b => b.1 ∈ wanted) =
          (jid, bundle) :: rest.filter (fun b => b.1 ∈ wanted) :=
        List.filter_cons_of_pos (by simpa using asked)
      have step : inject host.overhearing wanted ((jid, bundle) :: rest) w = (do
          injectSession host.overhearing jid bundle
          return (← inject host.overhearing wanted rest) + 1 : Act _ _) w := by
        rw [inject, if_pos asked]
      rw [step, first]
      rcases injectSession_cases reliable jid bundle w with
        ⟨session, u, done, heard, stored⟩ | ⟨e, u, failed, silent, same⟩
      · obtain ⟨opened, w', heard', stored', ends⟩ := ih u
        refine ⟨⟨jid, bundle, session⟩ :: opened, w', heard.trans heard', ?_, ?_⟩
        · rw [stored', stored, List.foldl_cons]
        rw [Act.bind_of_ok done]
        rcases ends with ⟨through, all⟩ | ⟨e, stopped, some⟩
        · exact .inl ⟨Act.bind_of_ok through, congrArg (List.cons _) all⟩
        · exact .inr ⟨e, Act.bind_of_error stopped, List.prefix_cons_inj _ |>.mpr some⟩
      · exact ⟨[], u, silent, same, .inr ⟨e, Act.bind_of_error failed, List.nil_prefix⟩⟩
    · have first : ((jid, bundle) :: rest).filter (fun b => b.1 ∈ wanted) =
          rest.filter (fun b => b.1 ∈ wanted) :=
        List.filter_cons_of_neg (by simpa using asked)
      have step : inject host.overhearing wanted ((jid, bundle) :: rest) w =
          inject host.overhearing wanted rest w := by
        rw [inject, if_neg asked]
      rw [step, first]
      exact ih w

/-- The devices to ask for: those without a session, or all of them if that is forced; each once
and in order. -/
def toAsk (jids : List Jid) (force : Bool) (w : World ω) : List Jid :=
  (Dict.ofList ((jids.filter fun jid => force = true ∨ document? jid w = none).map
    fun jid => (jid, ()))).keys

theorem mem_toAsk {jids : List Jid} {force : Bool} {w : World ω} {jid : Jid} :
    jid ∈ toAsk jids force w ↔ jid ∈ jids ∧ (force = true ∨ document? jid w = none) := by
  rw [toAsk, Dict.mem_keys_iff]
  constructor
  · rintro ⟨v, found⟩
    obtain ⟨asked, mem, same⟩ := List.mem_map.mp (Dict.mem_of_find?_ofList found)
    obtain ⟨rfl, _⟩ := Prod.mk.inj same
    simpa using mem
  · intro lacks
    cases found : (Dict.ofList ((jids.filter fun jid => force = true ∨ document? jid w = none).map
        fun jid => (jid, ()))).find? jid with
    | some v => exact ⟨v, rfl⟩
    | none =>
      have absent := Dict.find?_ofList_eq_none_iff.mp found ()
      exact absurd (List.mem_map.mpr ⟨jid, by simpa using lacks, rfl⟩) absent

theorem pairwise_toAsk (jids : List Jid) (force : Bool) (w : World ω) :
    (toAsk jids force w).Pairwise fun a b => compare a b = .lt :=
  List.pairwise_map.mpr (Dict.ofList _).sorted

/-- Looking for the devices without a session goes through unheard, and changes nothing. -/
theorem missing_apply (reliable : host.Reliable) (jids : List Jid) (force : Bool)
    (w : World (Overheard ω)) :
    ∃ w', missing host.overhearing jids force w = .ok (toAsk jids force w) w' ∧
      Hears [] w.host w'.host ∧ w'.documents = w.documents := by
  have looked : ∀ jid v, (Hears [] w.host v.host ∧ v.documents = w.documents) →
      ∃ u, isMissing host.overhearing force jid v =
          .ok (decide (force = true ∨ document? jid w = none)) u ∧
        Hears [] w.host u.host ∧ u.documents = w.documents := by
    rintro jid v ⟨silent, same⟩
    by_cases forced : force = true
    · refine ⟨v, ?_, silent, same⟩
      simp [isMissing, forced, Act.pure_apply]
    · let call : StorageCall := .get (sessionKey jid.protocolAddress)
      let u : World (Overheard ω) := { v with host := (host.overhearing.refuses call v.host).2 }
      have allowed : Storage.allow host.overhearing call v = .ok () u :=
        Storage.allow_eq_ok.mpr ⟨reliable.overhearing call v.host, rfl⟩
      have has : hasSession host.overhearing jid v = .ok (document? jid v).isSome u :=
        Act.bind_of_ok (Storage.get_eq_ok.mpr ⟨allowed, rfl⟩)
      have found : document? jid v = document? jid w := congrArg (Dict.find? · _) same
      refine ⟨u, ?_, silent.trans (.of_eq rfl), same⟩
      rw [isMissing, if_neg forced, Act.bind_of_ok has, Act.pure_apply, found]
      cases document? jid w <;> simp [forced]
  obtain ⟨w', filtered, silent, same⟩ :=
    Act.filterM_of_test looked jids ⟨Hears.of_eq rfl, rfl⟩
  exact ⟨w', Act.bind_of_ok filtered, silent, same⟩

/-- How a call ends, given what the answer was taken to say: nothing is opened of an answer that
cannot be read, and of another all that was asked for, unless the cipher fails meanwhile. -/
inductive Opens (wanted : List Jid) (opened : List Opening) (w' : World (Overheard ω)) :
    Except Error (List (Jid × PreKeyBundle)) →
      EStateM.Result Error (World (Overheard ω)) Bool → Prop
  | unread {e : Error} (none : opened = []) : Opens wanted opened w' (.error e) (.error e w')
  | through {bundles : List (Jid × PreKeyBundle)}
    (all : opened.map Opening.given = bundles.filter fun b => b.1 ∈ wanted) :
    Opens wanted opened w' (.ok bundles) (.ok (decide (0 < opened.length)) w')
  | stopped {bundles : List (Jid × PreKeyBundle)} {e : Error}
    (some : opened.map Opening.given <+: bundles.filter fun b => b.1 ∈ wanted) :
    Opens wanted opened w' (.ok bundles) (.error e w')

namespace Opens

variable {opened : List Opening} {w' u : World (Overheard ω)} {e : Error} {found : Bool}
  {outcome : Except Error (List (Jid × PreKeyBundle))}
  {result : EStateM.Result Error (World (Overheard ω)) Bool}

theorem after {x : Act (World (Overheard ω)) Bool} (h : Opens wanted opened w' outcome (x w)) :
    x.after w = w' := by
  cases hx : x w with
  | ok found u =>
    rw [hx] at h
    rw [Act.after_of_ok hx]
    cases h
    rfl
  | error e u =>
    rw [hx] at h
    rw [Act.after_of_error hx]
    cases h <;> rfl

/-- What is opened was given in the answer, for a device that was asked for. -/
theorem chosen (h : Opens wanted opened w' outcome result) {o : Opening} (mem : o ∈ opened) :
    ∃ bundles, outcome = .ok bundles ∧ o.given ∈ bundles.filter fun b => b.1 ∈ wanted := by
  cases h with
  | unread none =>
    rw [none] at mem
    cases mem
  | @through bundles all => exact ⟨bundles, rfl, all ▸ List.mem_map_of_mem mem⟩
  | @stopped bundles _ some => exact ⟨bundles, rfl, some.subset (List.mem_map_of_mem mem)⟩

theorem of_error (h : Opens wanted opened w' (.error e) result) :
    result = .error e w' ∧ opened = [] := by
  cases h with
  | unread none => exact ⟨rfl, none⟩

theorem of_ok (h : Opens wanted opened w' outcome (.ok found u)) :
    ∃ bundles, outcome = .ok bundles ∧
      opened.map Opening.given = bundles.filter (fun b => b.1 ∈ wanted) ∧
      (found = true ↔ opened ≠ []) := by
  cases h with
  | @through bundles all =>
    refine ⟨bundles, rfl, all, ?_⟩
    rw [decide_eq_true_iff, List.length_pos_iff]

end Opens

/-- The whole call: who is asked for, what is opened of what is given, and how it ends. -/
theorem ensure_opens (reliable : host.Reliable) (jids : List Jid) (force : Bool)
    (w : World (Overheard ω)) :
    ∃ (events : List Heard) (outcome : Except Error (List (Jid × PreKeyBundle)))
      (opened : List Opening) (w' : World (Overheard ω)),
      Prekeys.Asks (toAsk jids force w) events outcome ∧
      Hears (events ++ opened.map Opening.event) w.host w'.host ∧
      w'.documents = opened.foldl Opening.store w.documents ∧
      Opens (toAsk jids force w) opened w' outcome (ensure host.overhearing jids force w) := by
  obtain ⟨u, missed, silent, same⟩ := missing_apply reliable jids force w
  have next : ensure host.overhearing jids force w = (if toAsk jids force w = [] then pure false
      else do
        let answer ← World.query host.overhearing (Prekeys.query (toAsk jids force w))
        let bundles ← Act.ofExcept (Prekeys.parse answer)
        return 0 < (← inject host.overhearing (toAsk jids force w) bundles) : Act _ _) u :=
    Act.bind_of_ok missed
  rw [next]
  by_cases nobody : toAsk jids force w = []
  · rw [if_pos nobody, nobody]
    exact ⟨[], .ok [], [], u, .nobody, silent, same, .through rfl⟩
  rw [if_neg nobody]
  cases asked : World.query host.overhearing (Prekeys.query (toAsk jids force w)) u with
  | error e v =>
    obtain ⟨same', heard⟩ := query_eq_error asked
    refine ⟨_, _, [], v, .somebody nobody (Prekeys.asked_query _) (.error e), silent.trans heard, same'.trans same, ?_⟩
    rw [Act.bind_of_error asked]
    exact .unread rfl
  | ok answer v =>
    obtain ⟨same', heard⟩ := query_eq_ok asked
    have here : v.documents = w.documents := same'.trans same
    have asks : Prekeys.Asks (toAsk jids force w)
        [.asked (Prekeys.query (toAsk jids force w)) (.ok answer)] (Prekeys.parse answer) :=
      .somebody nobody (Prekeys.asked_query _) (.ok answer)
    rw [Act.bind_of_ok asked]
    refine ⟨[.asked (Prekeys.query (toAsk jids force w)) (.ok answer)], Prekeys.parse answer, ?_⟩
    cases parsed : Prekeys.parse answer with
    | error e => exact ⟨[], v, parsed ▸ asks, silent.trans heard, here, .unread rfl⟩
    | ok bundles =>
      obtain ⟨opened, w', heard', stored, ends⟩ :=
        inject_cases reliable (toAsk jids force w) bundles v
      refine ⟨opened, w', parsed ▸ asks, (silent.trans heard).trans heard', here ▸ stored, ?_⟩
      rw [Act.ofExcept_bind_of_ok rfl]
      rcases ends with ⟨through, all⟩ | ⟨e, stopped, some⟩
      · rw [Act.bind_of_ok through]
        exact .through all
      · rw [Act.bind_of_error stopped]
        exact .stopped some

theorem find?_foldl_store {opened : List Opening} {key : String}
    (away : ∀ o ∈ opened, key ≠ sessionKey o.jid.protocolAddress) (documents : Documents) :
    (opened.foldl Opening.store documents).find? key = documents.find? key := by
  induction opened generalizing documents with
  | nil => rfl
  | cons o opened ih =>
    have apart := away o List.mem_cons_self
    rw [List.foldl_cons, ih fun p mem => away p (List.mem_cons_of_mem o mem), Opening.store,
      Dict.find?_insert, if_neg apart.symm]

/-- What a call for sessions with devices asks for, opens and leaves behind. -/
structure Batched (host : Host ω) (jids : List Jid) (force : Bool) (w w' : World (Overheard ω))
    (wanted : List Jid) (events : List Heard)
    (outcome : Except Error (List (Jid × PreKeyBundle))) (opened : List Opening) : Prop where
  after : (ensure host.overhearing jids force).after w = w'
  /-- Each device that is asked for is named once, in the order of addresses. -/
  ordered : wanted.Pairwise fun a b => compare a b = .lt
  mem_wanted : ∀ jid, jid ∈ wanted ↔ jid ∈ jids ∧ (force = true ∨ document? jid w = none)
  asks : Prekeys.Asks wanted events outcome
  silent : events = [] ↔ ∀ jid ∈ jids, force = false ∧ document? jid w ≠ none
  hears : Hears (events ++ opened.map Opening.event) w.host w'.host
  stores : w'.documents = opened.foldl Opening.store w.documents
  requested : ∀ o ∈ opened, o.jid ∈ wanted
  given : ∀ o ∈ opened, ∃ bundles, outcome = .ok bundles ∧ o.given ∈ bundles
  elsewhere : ∀ key, (∀ jid ∈ wanted, key ≠ sessionKey jid.protocolAddress) →
    w'.documents.find? key = w.documents.find? key
  /-- Unless that is forced, no session is replaced. -/
  established : force = false → ∀ key, w.documents.find? key ≠ none →
    w'.documents.find? key = w.documents.find? key
  unanswered : ∀ n e, .asked n (.error e) ∈ events →
    ensure host.overhearing jids force w = .error e w' ∧ w'.documents = w.documents
  rejected : ∀ n answer, .asked n (.ok answer) ∈ events → Prekeys.Rejected answer →
    ∃ e, ensure host.overhearing jids force w = .error e w' ∧ w'.documents = w.documents
  answers : ∀ found u, ensure host.overhearing jids force w = .ok found u →
    ∃ bundles, outcome = .ok bundles ∧
      opened.map Opening.given = bundles.filter (fun b => b.1 ∈ wanted) ∧
      (found = true ↔ opened ≠ [])

/-- The devices that lack a session, or all that are listed if that is forced, are asked for in one
question, and nothing is asked if there are none. Sessions are opened only for them and only from a
whole answer, and what is stored elsewhere stays what it was. -/
theorem ensure_batched (reliable : host.Reliable) (jids : List Jid) (force : Bool)
    (w : World (Overheard ω)) :
    ∃ w' wanted events outcome opened,
      Batched host jids force w w' wanted events outcome opened := by
  obtain ⟨events, outcome, opened, w', asks, hears, stores, opens⟩ :=
    ensure_opens reliable jids force w
  have requested : ∀ o ∈ opened, o.jid ∈ toAsk jids force w := by
    intro o mem
    obtain ⟨bundles, _, mem⟩ := opens.chosen mem
    exact of_decide_eq_true (List.mem_filter.mp mem).2
  have given : ∀ o ∈ opened, ∃ bundles, outcome = .ok bundles ∧ o.given ∈ bundles := by
    intro o mem
    obtain ⟨bundles, read, mem⟩ := opens.chosen mem
    exact ⟨bundles, read, (List.mem_filter.mp mem).1⟩
  have worthless : ∀ e, outcome = .error e →
      ensure host.overhearing jids force w = .error e w' ∧ w'.documents = w.documents := by
    rintro e rfl
    obtain ⟨failed, none⟩ := opens.of_error
    refine ⟨failed, ?_⟩
    rw [stores, none, List.foldl_nil]
  refine ⟨w', toAsk jids force w, events, outcome, opened, opens.after,
    pairwise_toAsk jids force w, fun jid => mem_toAsk, asks, ?_, hears, stores, requested, given,
    ?_, ?_, ?_, ?_, ?_⟩
  · rw [asks.eq_nil_iff, List.eq_nil_iff_forall_not_mem]
    simp only [mem_toAsk]
    cases force <;> simp
  · intro key away
    rw [stores]
    exact find?_foldl_store (fun o mem => away o.jid (requested o mem)) _
  · rintro rfl key established
    rw [stores]
    refine find?_foldl_store (fun o mem => ?_) _
    rintro rfl
    obtain ⟨_, lacks⟩ := mem_toAsk.mp (requested o mem)
    rcases lacks with forced | absent
    · cases forced
    · exact established absent
  · intro n e asked
    exact worthless e (asks.outcome_eq asked)
  · intro n answer asked rejected
    obtain ⟨e, unread⟩ := Prekeys.parse_of_rejected rejected
    exact ⟨e, worthless e ((asks.outcome_eq asked).trans unread)⟩
  · intro found u done
    rw [done] at opens
    exact opens.of_ok

/-- Our friend, listed twice and without a session, is asked for once. -/
theorem friend_batched : ∃ w' n reply outcome opened,
    Batched Stage.smooth [Stage.friend, Stage.friend] false ⟨∅, ⟨Stage.opening, []⟩⟩ w'
      [Stage.friend] [.asked n reply] outcome opened ∧
    (n.at? ["key"]).map Node.users = some [some "2@s.whatsapp.net"] := by
  have reliable : Stage.smooth.Reliable := fun _ _ => rfl
  obtain ⟨w', wanted, events, outcome, opened, batched⟩ :=
    ensure_batched reliable [Stage.friend, Stage.friend] false ⟨∅, ⟨Stage.opening, []⟩⟩
  have only : ∀ jid, jid ∈ wanted ↔ jid = Stage.friend := by
    intro jid
    rw [batched.mem_wanted]
    simp [document?, Dict.find?_empty]
  have once : wanted.Nodup := by
    refine batched.ordered.imp fun {a b} before same => ?_
    rw [same, Std.ReflOrd.compare_self] at before
    cases before
  have listed : wanted = [Stage.friend] := by
    have same : wanted.Perm [Stage.friend] :=
      (List.perm_ext_iff_of_nodup once (List.nodup_singleton _)).mpr (by simpa using only)
    exact List.perm_singleton.mp same
  subst listed
  cases batched.asks with
  | somebody _ asked reply => exact ⟨w', _, reply, _, opened, batched, asked.listed⟩

end Sessions

end Fanout
