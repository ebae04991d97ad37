import Fanout.Proofs.Devices.Directory
import Fanout.Proofs.Host.Overheard
import Fanout.Proofs.Node

namespace Fanout

/-- What is erased from a list does not depend on what else is filtered out of it. -/
theorem eraseDups_filter {α : Type} [BEq α] [LawfulBEq α] (p : α → Bool) (as : List α) :
    (as.filter p).eraseDups = as.eraseDups.filter p := by
  induction size : as.length using Nat.strongRecOn generalizing as with
  | ind n ih =>
    cases as with
    | nil => rfl
    | cons a as =>
      have fewer : (as.filter fun b => !b == a).length < n := by
        have bound := List.length_filter_le (fun b => !b == a) as
        simp only [List.length_cons] at size
        omega
      have others := ih _ fewer (as.filter fun b => !b == a) rfl
      by_cases passes : p a = true
      · rw [List.filter_cons_of_pos passes, List.eraseDups_cons, List.eraseDups_cons,
          List.filter_cons_of_pos passes, ← others, List.filter_comm]
      · have apart : (as.filter fun b => !b == a).filter p = as.filter p := by
          rw [List.filter_filter]
          refine List.filter_congr fun b _ => ?_
          by_cases same : b = a
          · simp [same, passes]
          · simp [same]
        rw [List.filter_cons_of_neg passes, List.eraseDups_cons, List.filter_cons_of_neg passes,
          ← others, apart]

/-- Whether an entry of a device list is this device, by its name in either namespace. -/
def Credentials.isListedAs (credentials : Credentials) (e : DeviceEntry) : Bool :=
  (credentials.me :: credentials.meLid.toList).any fun mine =>
    e.user = mine.user ∧ e.server = mine.server ∧ e.device = mine.deviceId

theorem Credentials.isOwnDevice_of_toJid (credentials : Credentials) {e : DeviceEntry} {jid : Jid}
    (h : e.toJid = .ok jid) : credentials.isOwnDevice jid = credentials.isListedAs e := by
  obtain ⟨user, server⟩ := DeviceEntry.toJid_eq_ok h
  have device := DeviceEntry.deviceId_of_toJid h
  have same : ∀ mine : Jid, isSameDevice jid mine =
      decide (e.user = mine.user ∧ e.server = mine.server ∧ e.device = mine.deviceId) := by
    intro mine
    simp only [isSameDevice, Jid.isSameUser, user, server, device]
    simp [and_assoc]
  unfold isOwnDevice isListedAs
  cases credentials.meLid <;> simp [same]

namespace DeviceDirectory

/-- The users that addresses belong to, as they come up first. -/
def requested (jids : List Jid) : List Jid := (jids.map Jid.withoutDevice).eraseDups

theorem users_eq_requested (jids : List Jid) : users jids = requested jids := by
  induction jids with
  | nil => rfl
  | cons jid jids ih =>
    rw [users, ih, requested, requested, List.map_cons, List.eraseDups_cons, eraseDups_filter]
    congr 2
    funext user
    by_cases same : user = jid.withoutDevice <;> simp [same]

/-- The users that the cache does not answer for. -/
def unknown (cache : DeviceCache) (jids : List Jid) (useCache : Bool) : List Jid :=
  (requested jids).filter fun user => useCache = false ∨ cache.find? user = none

/-- What a look-up goes by without asking. -/
def known (cache : DeviceCache) (useCache : Bool) : DeviceCache := if useCache then cache else ∅

theorem filter_known (cache : DeviceCache) (jids : List Jid) (useCache : Bool) :
    ((users jids).filter fun user => !(known cache useCache).contains user) =
      unknown cache jids useCache := by
  rw [users_eq_requested, unknown]
  refine List.filter_congr fun user _ => ?_
  unfold Dict.contains known
  cases useCache with
  | false => simp [Dict.find?_empty]
  | true => cases found : cache.find? user <;> simp [found]

/-- Lists of devices as the service gives them, one after the other. -/
abbrev Lists := List (Jid × List DeviceEntry)

/-- A question for the lists of some users lists them, in their order. -/
structure Asked (users : List Jid) (n : Node) : Prop where
  built : ∃ sid, n = DeviceQuery.query users sid
  listed : (n.at? ["usync", "list"]).map Node.users = some (users.map fun user => some user.encode)

theorem asked_query (users : List Jid) (sid : String) :
    Asked users (DeviceQuery.query users sid) :=
  ⟨⟨sid, rfl⟩, congrArg some (Node.users_listing (Node.named "list") Jid.encode users)⟩

/-- How the lists of users are asked for. -/
abbrev Asks : List Jid → List Heard → Except Error Lists → Prop :=
  AsksOnce Asked DeviceQuery.parse

/-- The last list that is given for a user. -/
def lastGiven (given : Lists) (user : Jid) : Option (List DeviceEntry) :=
  (given.filter fun listed => listed.1 = user).getLast?.map Prod.snd

/-- The devices of a user, as the service gives them or else as the cache has them. -/
def devicesOf (cache : DeviceCache) (useCache : Bool) (given : Lists) (user : Jid) :
    List DeviceEntry :=
  ((lastGiven given user).or (if useCache then cache.find? user else none)).getD []

theorem getD_find?_insertAll (cache : DeviceCache) (useCache : Bool) (given : Lists) (user : Jid) :
    (((known cache useCache).insertAll given).find? user).getD [] =
      devicesOf cache useCache given user := by
  rw [Dict.find?_insertAll_eq, devicesOf, lastGiven, known]
  cases useCache <;> rfl

/-- What is answered of a device list: neither this device nor, if so wanted, any primary one. -/
def isAnswered (credentials : Credentials) (ignoreZero : Bool) (e : DeviceEntry) : Bool :=
  !(ignoreZero && e.device == 0) && !credentials.isListedAs e

variable {credentials : Credentials} {ignoreZero : Bool}

theorem keep_eq_ok {e : DeviceEntry} {kept : Bool} (h : keep credentials ignoreZero e = .ok kept) :
    kept = isAnswered credentials ignoreZero e := by
  unfold keep at h
  split at h
  next primary =>
    cases h
    simp [isAnswered, primary]
  next other =>
    cases named : e.toJid with
    | error err =>
      rw [named] at h
      cases h
    | ok jid =>
      rw [named] at h
      cases h
      have own := credentials.isOwnDevice_of_toJid named
      have wanted : (ignoreZero && e.device == 0) = false := by simpa using other
      simp only [isAnswered, ← own, wanted, Bool.not_false, Bool.true_and]

theorem keep_eq_error {e : DeviceEntry} {err : Error}
    (h : keep credentials ignoreZero e = .error err) : e.toJid = .error err := by
  unfold keep at h
  split at h
  next => cases h
  next =>
    cases named : e.toJid with
    | error err' =>
      rw [named] at h
      cases h
      rfl
    | ok jid =>
      rw [named] at h
      cases h

theorem filterM_keep_eq_ok {entries answered : List DeviceEntry}
    (h : entries.filterM (keep credentials ignoreZero) = .ok answered) :
    answered = entries.filter (isAnswered credentials ignoreZero) := by
  rw [filterM_eq_ok h]
  refine List.filter_congr fun e mem => ?_
  obtain ⟨kept, passed⟩ := filterM_isOk h e mem
  rw [passed, ← keep_eq_ok passed]
  cases kept <;> rfl

variable {ω : Type}

/-- Asking once: the cache takes what is given, and nothing if that cannot be had or read. -/
theorem fetch_cases (host : Host ω) (users : List Jid) (s : Held DeviceCache (Overheard ω)) :
    ∃ sid outcome t, Overheard.Hears [.asked (DeviceQuery.query users sid) outcome]
        s.world.host t.world.host ∧
      match outcome >>= DeviceQuery.parse with
      | .ok given => fetch host.overhearing users s = .ok given t ∧ t.own = s.own.insertAll given
      | .error e => fetch host.overhearing users s = .error e t ∧ t.own = s.own := by
  obtain ⟨noise, w, drawn, _, silent⟩ := Overheard.noiseBytes_apply host 16 s.world
  have drawn' : Held.inWorld (World.noiseBytes host.overhearing 16) s =
      .ok noise { s with world := w } := Act.zoom_eq_ok.mpr ⟨w, drawn, rfl⟩
  let question := DeviceQuery.query users (sidText noise)
  cases asked : World.query host.overhearing question w with
  | error e v =>
    have heard := silent.trans (Overheard.query_eq_error asked).2
    have failed : Held.inWorld (World.query host.overhearing question) { s with world := w } =
        .error e { s with world := v } := Act.zoom_eq_error.mpr ⟨v, asked, rfl⟩
    refine ⟨sidText noise, .error e, { s with world := v }, heard, ?_, rfl⟩
    exact (Act.bind_of_ok drawn').trans (Act.bind_of_error failed)
  | ok answer v =>
    have heard := silent.trans (Overheard.query_eq_ok asked).2
    have answered : Held.inWorld (World.query host.overhearing question) { s with world := w } =
        .ok answer { s with world := v } := Act.zoom_eq_ok.mpr ⟨v, asked, rfl⟩
    have after : fetch host.overhearing users s = (do
        let given ← Act.ofExcept (DeviceQuery.parse answer)
        Held.setOwn ((← Held.getOwn).insertAll given)
        return given : Act (Held DeviceCache (Overheard ω)) Lists) { s with world := v } :=
      (Act.bind_of_ok drawn').trans (Act.bind_of_ok answered)
    cases parsed : DeviceQuery.parse answer with
    | error e =>
      refine ⟨sidText noise, .ok answer, { s with world := v }, heard, ?_⟩
      have read : (Except.ok answer >>= DeviceQuery.parse) = .error e := parsed
      rw [read, after, parsed]
      exact ⟨rfl, rfl⟩
    | ok given =>
      refine ⟨sidText noise, .ok answer, ⟨s.own.insertAll given, v⟩, heard, ?_⟩
      have read : (Except.ok answer >>= DeviceQuery.parse) = .ok given := parsed
      rw [read, after, parsed]
      exact ⟨rfl, rfl⟩

/-- The lists of the users in their order. -/
def listing (cache : DeviceCache) (useCache : Bool) (jids : List Jid) (given : Lists) :
    List DeviceEntry :=
  (requested jids).flatMap (devicesOf cache useCache given)

/-- How a look-up ends: with what is answered of the lists, unless an entry is no address. -/
inductive Ends (credentials : Credentials) (ignoreZero : Bool) (listed : List DeviceEntry)
    {σ : Type} (t : σ) : EStateM.Result Error σ (List DeviceEntry) → Prop
  | ok : Ends credentials ignoreZero listed t
    (.ok (listed.filter (isAnswered credentials ignoreZero)) t)
  | error {entry e} (mem : entry ∈ listed) (nameless : entry.toJid = .error e) :
    Ends credentials ignoreZero listed t (.error e t)

theorem ends_of_filterM (credentials : Credentials) (ignoreZero : Bool)
    (listed : List DeviceEntry) {σ : Type} (t : σ) :
    Ends credentials ignoreZero listed t
      ((Act.ofExcept (listed.filterM (keep credentials ignoreZero)) : Act σ _) t) := by
  cases passed : listed.filterM (keep credentials ignoreZero) with
  | ok answered =>
    rw [filterM_keep_eq_ok passed]
    exact .ok
  | error e =>
    obtain ⟨entry, mem, refused⟩ := filterM_eq_error passed
    exact .error mem (keep_eq_error refused)

theorem resolve_apply (host : Host ω) (credentials : Credentials) (jids : List Jid)
    (useCache ignoreZero : Bool) (s : Held DeviceCache ω) :
    resolve host credentials jids useCache ignoreZero s = (do
      let given ← if unknown s.own jids useCache = [] then pure []
        else fetch host (unknown s.own jids useCache)
      Act.ofExcept ((listing s.own useCache jids given).filterM (keep credentials ignoreZero)) :
        Act _ _) s := by
  have looked : resolve host credentials jids useCache ignoreZero s = (do
      let wanted := (users jids).filter fun user => !(known s.own useCache).contains user
      let given ← if wanted = [] then pure [] else fetch host wanted
      let lists := (known s.own useCache).insertAll given
      let listed := (users jids).flatMap fun user => (lists.find? user).getD []
      Act.ofExcept (listed.filterM (keep credentials ignoreZero)) : Act _ _) s := by
    cases useCache <;> rfl
  rw [looked]
  simp only [filter_known]
  simp only [getD_find?_insertAll, users_eq_requested]
  rfl

/-- The users that the cache does not answer for are asked for once and together, and not at all if
there are none. What is given is remembered, list by list, and nothing else changes; nothing at all
changes if it cannot be had or read. The answer goes through the lists of the users in their order,
and fails only on an entry that is no address. -/
theorem resolve_exact (host : Host ω) (credentials : Credentials) (jids : List Jid)
    (useCache ignoreZero : Bool) (s : Held DeviceCache (Overheard ω)) :
    ∃ events outcome t, Asks (unknown s.own jids useCache) events outcome ∧
      Overheard.Hears events s.world.host t.world.host ∧
      match outcome with
      | .error e =>
        resolve host.overhearing credentials jids useCache ignoreZero s = .error e t ∧
          t.own = s.own
      | .ok given =>
        (∀ user, t.own.find? user = (lastGiven given user).or (s.own.find? user)) ∧
          Ends credentials ignoreZero (listing s.own useCache jids given) t
            (resolve host.overhearing credentials jids useCache ignoreZero s) := by
  by_cases asked : unknown s.own jids useCache = []
  · have answered : resolve host.overhearing credentials jids useCache ignoreZero s =
        (Act.ofExcept ((listing s.own useCache jids []).filterM (keep credentials ignoreZero)) :
          Act _ _) s := by
      rw [resolve_apply]
      simp only [asked, if_true]
      rfl
    refine ⟨[], .ok [], s, asked ▸ .nobody, .of_eq rfl, fun user => rfl, ?_⟩
    rw [answered]
    exact ends_of_filterM credentials ignoreZero _ s
  · obtain ⟨sid, outcome, t, heard, fetched⟩ :=
      fetch_cases host (unknown s.own jids useCache) s
    refine ⟨_, outcome >>= DeviceQuery.parse, t, .somebody asked (asked_query _ sid) outcome, heard, ?_⟩
    have next : resolve host.overhearing credentials jids useCache ignoreZero s =
        (fetch host.overhearing (unknown s.own jids useCache) >>= fun given =>
          Act.ofExcept ((listing s.own useCache jids given).filterM (keep credentials ignoreZero)) :
          Act _ _) s := by
      rw [resolve_apply]
      simp only [asked, if_false]
    rw [next]
    cases parsed : outcome >>= DeviceQuery.parse with
    | error e =>
      rw [parsed] at fetched
      obtain ⟨failed, kept⟩ := fetched
      exact ⟨Act.bind_of_error failed, kept⟩
    | ok given =>
      rw [parsed] at fetched
      obtain ⟨done, remembered⟩ := fetched
      refine ⟨fun user => ?_, ?_⟩
      · rw [remembered, Dict.find?_insertAll_eq, lastGiven]
      · rw [Act.bind_of_ok done]
        exact ends_of_filterM credentials ignoreZero _ t

end DeviceDirectory

end Fanout
