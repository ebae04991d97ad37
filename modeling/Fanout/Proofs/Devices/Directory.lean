import Fanout.Devices.Directory
import Fanout.Proofs.Act
import Fanout.Proofs.Dict
import Fanout.Proofs.Except

namespace Fanout

theorem DeviceEntry.deviceId_of_toJid {e : DeviceEntry} {jid : Jid} (h : e.toJid = .ok jid) :
    jid.deviceId = e.device := by
  unfold toJid Jid.withDevice at h
  split at h
  next =>
    split at h
    next =>
      cases h
      by_cases h0 : e.device = 0 <;> simp [Jid.deviceId, h0]
    next => cases h
  next => cases h

theorem DeviceEntry.toJid_eq_ok {e : DeviceEntry} {jid : Jid} (h : e.toJid = .ok jid) :
    jid.user = e.user ∧ jid.server = e.server := by
  unfold toJid Jid.withDevice at h
  split at h
  next =>
    split at h
    next =>
      cases h
      exact ⟨rfl, rfl⟩
    next => cases h
  next => cases h

namespace DeviceDirectory

theorem keep_eq_true {credentials : Credentials} {ignoreZero : Bool} {e : DeviceEntry} :
    (keep credentials ignoreZero e).toOption = some true ↔
      ¬(ignoreZero = true ∧ e.device = 0) ∧
        ∃ jid, e.toJid = .ok jid ∧ credentials.isOwnDevice jid = false := by
  unfold keep
  split
  next h => simp [h, Except.toOption]
  next h => cases e.toJid <;> simp [h, Except.toOption, Except.map]

/-- Each list is one of devices of its user. -/
def Owned (cache : DeviceCache) : Prop :=
  ∀ user entries, cache.find? user = some entries →
    ∀ e ∈ entries, e.user = user.user ∧ e.server = user.server

theorem Owned.empty : Owned ∅ := fun _ _ none => nomatch none

theorem Owned.insertAll {cache : DeviceCache} (owned : Owned cache)
    {fetched : List (Jid × List DeviceEntry)}
    (all : ∀ listed ∈ fetched, ∀ e ∈ listed.2,
      e.user = listed.1.user ∧ e.server = listed.1.server) :
    Owned (cache.insertAll fetched) := by
  intro user entries found
  rcases Dict.find?_insertAll cache fetched user with ⟨listed, found', mem⟩ | ⟨found', _⟩
  · obtain rfl := Option.some.inj (found'.symm.trans found)
    exact all (user, listed) mem
  · exact owned user entries (found'.symm.trans found)

theorem Owned.invalidate {cache : DeviceCache} (owned : Owned cache) (user : Jid) :
    Owned (invalidate cache user) := by
  intro other entries found
  rw [DeviceDirectory.invalidate, Dict.find?_erase] at found
  split at found
  next => cases found
  next => exact owned other entries found

theorem readDevice_eq_ok {jid : Jid} {n : Node} {e : DeviceEntry}
    (h : DeviceQuery.readDevice jid n = .ok (some e)) :
    e.user = jid.user ∧ e.server = jid.server := by
  obtain ⟨raw, _, h⟩ := except_bind_eq_ok.mp h
  obtain ⟨id, _, h⟩ := except_bind_eq_ok.mp h
  split at h <;> cases h
  exact ⟨rfl, rfl⟩

theorem readUser_eq_ok {n : Node} {user : Jid} {entries : List DeviceEntry}
    (h : DeviceQuery.readUser n = .ok (some (user, entries))) {e : DeviceEntry} (he : e ∈ entries) :
    e.user = user.user ∧ e.server = user.server := by
  obtain ⟨raw, _, h⟩ := except_bind_eq_ok.mp h
  obtain ⟨jid, _, h⟩ := except_bind_eq_ok.mp h
  dsimp only at h
  split at h
  next => cases h
  next devices _ =>
    obtain ⟨_, _, h⟩ := except_bind_eq_ok.mp h
    obtain ⟨list, _, h⟩ := except_bind_eq_ok.mp h
    obtain ⟨read, hr, h⟩ := except_bind_eq_ok.mp h
    cases h
    obtain ⟨found, mem, same⟩ := List.mem_filterMap.mp he
    rw [filterMap_of_mapM_eq_ok hr] at mem
    obtain ⟨device, _, same'⟩ := List.mem_filterMap.mp mem
    exact readDevice_eq_ok ((toOption_eq_some.mp same').trans (congrArg Except.ok same))

theorem owned_of_parse {answer : Node} {fetched : List (Jid × List DeviceEntry)}
    (h : DeviceQuery.parse answer = .ok fetched) :
    ∀ listed ∈ fetched, ∀ e ∈ listed.2, e.user = listed.1.user ∧ e.server = listed.1.server := by
  obtain ⟨_, _, h⟩ := except_bind_eq_ok.mp h
  obtain ⟨usync, _, h⟩ := except_bind_eq_ok.mp h
  obtain ⟨list, _, h⟩ := except_bind_eq_ok.mp h
  obtain ⟨read, hr, h⟩ := except_bind_eq_ok.mp h
  cases h
  rintro ⟨user, entries⟩ mem e he
  obtain ⟨found, mem, same⟩ := List.mem_filterMap.mp mem
  rw [filterMap_of_mapM_eq_ok hr] at mem
  obtain ⟨n, _, same'⟩ := List.mem_filterMap.mp mem
  exact readUser_eq_ok ((toOption_eq_some.mp same').trans (congrArg Except.ok same)) he

theorem fetch_eq_ok {ω : Type} {host : Host ω} {wanted : List Jid} {s t : Held DeviceCache ω}
    {fetched : List (Jid × List DeviceEntry)} (h : fetch host wanted s = .ok fetched t) :
    (∃ answer, DeviceQuery.parse answer = .ok fetched) ∧ t.own = s.own.insertAll fetched := by
  obtain ⟨noise, u, hn, h⟩ := Act.bind_eq_ok.mp h
  obtain ⟨answer, v, hq, h⟩ := Act.bind_eq_ok.mp h
  obtain ⟨listed, v', hp, h⟩ := Act.bind_eq_ok.mp h
  obtain ⟨parsed, rfl⟩ := Act.ofExcept_eq_ok.mp hp
  obtain ⟨_, _, rfl⟩ := Act.zoom_eq_ok.mp hn
  obtain ⟨_, _, rfl⟩ := Act.zoom_eq_ok.mp hq
  cases h
  exact ⟨⟨answer, parsed⟩, rfl⟩

variable {ω : Type} {host : Host ω}

/-- The lists that a look-up of some users goes by: those known before, and over them those of the
answer if not every user is known. -/
inductive LooksUp (host : Host ω) (users : List Jid) (known : DeviceCache)
    (s : Held DeviceCache ω) : DeviceCache → Held DeviceCache ω → Prop
  | known (all : users.filter (fun user => !known.contains user) = []) :
    LooksUp host users known s known s
  | asked {fetched t} (some : users.filter (fun user => !known.contains user) ≠ [])
    (h : fetch host (users.filter fun user => !known.contains user) s = .ok fetched t) :
    LooksUp host users known s (known.insertAll fetched) t

/-- The devices of a user on the lists that were looked up. -/
def listOf (lists : DeviceCache) (user : Jid) : List DeviceEntry := (lists.find? user).getD []

theorem resolve_eq_ok {credentials : Credentials} {jids : List Jid} {useCache ignoreZero : Bool}
    {s t : Held DeviceCache ω} {entries : List DeviceEntry}
    (h : resolve host credentials jids useCache ignoreZero s = .ok entries t) :
    ∃ lists, LooksUp host (users jids) (if useCache then s.own else ∅) s lists t ∧
      entries = ((users jids).flatMap (listOf lists)).filter fun e =>
        (keep credentials ignoreZero e).toOption = some true := by
  have answered : ∀ known : DeviceCache,
      (do
        let users := users jids
        let wanted := users.filter fun user => !known.contains user
        let fetched ← if wanted = [] then pure [] else fetch host wanted
        let resolved := known.insertAll fetched
        let devices := users.flatMap fun user => (resolved.find? user).getD []
        Act.ofExcept (devices.filterM (keep credentials ignoreZero)) :
          Act (Held DeviceCache ω) (List DeviceEntry)) s = .ok entries t →
        ∃ lists, LooksUp host (users jids) known s lists t ∧
          entries = ((users jids).flatMap (listOf lists)).filter fun e =>
            (keep credentials ignoreZero e).toOption = some true := by
    intro known h
    dsimp only at h
    split at h
    next all =>
      obtain ⟨fetched, u, ha, h⟩ := Act.bind_eq_ok.mp h
      cases ha
      obtain ⟨kept, rfl⟩ := Act.ofExcept_eq_ok.mp h
      exact ⟨known, .known all, filterM_eq_ok kept⟩
    next some =>
      obtain ⟨fetched, u, ha, h⟩ := Act.bind_eq_ok.mp h
      obtain ⟨kept, rfl⟩ := Act.ofExcept_eq_ok.mp h
      exact ⟨known.insertAll fetched, .asked some ha, filterM_eq_ok kept⟩
  cases useCache with
  | true =>
    obtain ⟨known, u, hk, h⟩ := Act.bind_eq_ok.mp h
    cases hk
    exact answered s.own h
  | false =>
    obtain ⟨known, u, hk, h⟩ := Act.bind_eq_ok.mp h
    cases hk
    exact answered ∅ h

end DeviceDirectory

end Fanout
