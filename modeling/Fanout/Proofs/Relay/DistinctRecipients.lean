import Fanout.Proofs.Relay.GroupFanout
import Fanout.Proofs.Relay.History
import Fanout.Proofs.Relay.PairwiseFanout

namespace Fanout

variable {ω : Type} {host : Host ω}

/-- No two of the nodes that a stanza lists devices with are for the same one. -/
def Node.ListsOnce (n : Node) : Prop := (n.recipients.map (·.attr? "jid")).Nodup

instance (n : Node) : Decidable n.ListsOnce :=
  inferInstanceAs (Decidable (n.recipients.map (·.attr? "jid")).Nodup)

theorem Node.listsOnce_iff {n : Node} {listed : List Jid}
    (h : n.recipients.map (·.attr? "jid") = listed.map fun jid => some jid.encode) :
    n.ListsOnce ↔ listed.Nodup := by
  rw [ListsOnce, h]
  exact List.nodup_map_iff fun _ _ same => Jid.encode_injective (Option.some.inj same)

theorem Node.listsOnce_of_nobody {n : Node} (h : n.recipients = []) : n.ListsOnce := by
  rw [ListsOnce, h]
  exact List.nodup_nil

theorem Stanza.Draft.recipients_build_nil {d : Draft} (identity : List UInt8)
    (h : ∀ part ∈ d.parts, ∀ n, part.node? = some n → n.tag ≠ "participants") :
    (d.build identity).recipients = [] := by
  have absent : (d.parts.filterMap Part.node?).find? (·.tag = "participants") = none := by
    rw [List.find?_eq_none]
    intro n hn
    obtain ⟨part, hp, hn⟩ := List.mem_filterMap.mp hn
    simpa using h part hp n hn
  rw [Node.recipients, child?_build d identity (by decide), absent]
  rfl

namespace DeviceDirectory

theorem withoutDevice_of_mem_users {jids : List Jid} {user : Jid} (h : user ∈ users jids) :
    user.device = none := by
  induction jids with
  | nil => cases h
  | cons jid jids ih =>
    rcases List.mem_cons.mp h with rfl | h
    · rfl
    · exact ih (List.mem_filter.mp h).1

theorem nodup_users (jids : List Jid) : (users jids).Nodup := by
  induction jids with
  | nil => exact List.nodup_nil
  | cons jid jids ih =>
    rw [users, List.nodup_cons]
    exact ⟨by simp, ih.filter _⟩

/-- If each list was one of devices of its user, it still is. -/
def KeepsOwned (s t : Held DeviceCache ω) : Prop := Owned s.own → Owned t.own

instance : IsPreorder (Held DeviceCache ω) KeepsOwned where
  refl _ := id
  trans _ _ _ h h' := h' ∘ h

theorem fetch_keeps_owned (wanted : List Jid) : (fetch host wanted).Keeps KeepsOwned := by
  refine Act.Keeps.intro (fun s t fetched h owned => ?_) fun s t e h => ?_
  · obtain ⟨⟨answer, parsed⟩, same⟩ := fetch_eq_ok h
    rw [same]
    exact owned.insertAll (owned_of_parse parsed)
  · have inWorld : ∀ {α : Type} (x : Act (World ω) α),
        (Held.inWorld x : Act (Held DeviceCache ω) α).Keeps KeepsOwned := by
      intro α x s owned
      rwa [Held.inWorld, Act.after_zoom]
    rcases Act.bind_eq_error.mp h with h | ⟨noise, u, hn, h⟩
    · exact (inWorld _).of_error h
    refine trans_of KeepsOwned ((inWorld _).of_ok hn) ?_
    rcases Act.bind_eq_error.mp h with h | ⟨answer, v, hq, h⟩
    · exact (inWorld _).of_error h
    refine trans_of KeepsOwned ((inWorld _).of_ok hq) ?_
    rcases Act.bind_eq_error.mp h with h | ⟨fetched, v', hp, h⟩
    · exact (Act.Keeps.ofExcept _).of_error h
    · cases h

theorem resolve_keeps_owned (credentials : Credentials) (jids : List Jid)
    (useCache ignoreZero : Bool) :
    (resolve host credentials jids useCache ignoreZero).Keeps KeepsOwned := by
  have answered : ∀ wanted : List Jid,
      ∀ k : List (Jid × List DeviceEntry) → Except Error (List DeviceEntry),
      (if wanted = [] then do Act.ofExcept (k (← pure []))
        else do Act.ofExcept (k (← fetch host wanted)) :
          Act (Held DeviceCache ω) (List DeviceEntry)).Keeps KeepsOwned :=
    fun wanted k => .ite ((Act.Keeps.pure []).bind fun _ => .ofExcept _)
      ((fetch_keeps_owned wanted).bind fun _ => .ofExcept _)
  unfold resolve
  exact .ite ((Act.Keeps.get.bind fun _ => Act.Keeps.pure _).bind fun known => answered _ _)
    ((Act.Keeps.pure ∅).bind fun known => answered _ _)

theorem LooksUp.owned {users : List Jid} {known lists : DeviceCache} {s t : Held DeviceCache ω}
    (h : LooksUp host users known s lists t) (owned : Owned known) : Owned lists := by
  cases h with
  | known => exact owned
  | asked _ h =>
    obtain ⟨⟨answer, parsed⟩, _⟩ := fetch_eq_ok h
    exact owned.insertAll (owned_of_parse parsed)

end DeviceDirectory

namespace Preparation

variable {credentials : Credentials} {flags : DeviceFlags}

/-- The device that a stanza for a group tells its key on account of an entry of a list. -/
def toldOf (credentials : Credentials) (flags : DeviceFlags) (e : DeviceEntry) : Option Jid :=
  e.toJid.toOption.filter fun jid => !credentials.isOwnDevice jid && !flags.holds jid

theorem filterMap_toldOf {devices : List DeviceEntry} {targets : List Jid}
    (h : (devices.filter fun e => (DeviceDirectory.keep credentials false e).toOption =
      some true).mapM DeviceEntry.toJid = .ok targets) :
    (targets.filter fun jid => !flags.holds jid) =
      devices.filterMap (toldOf credentials flags) := by
  rw [filterMap_of_mapM_eq_ok h, List.filterMap_filter, List.filter_filterMap]
  refine List.filterMap_congr fun e _ => ?_
  cases hj : e.toJid with
  | error _ =>
    have unread : toldOf credentials flags e = none := by simp [toldOf, hj, Except.toOption]
    rw [unread]
    split <;> rfl
  | ok jid =>
    have kept : DeviceDirectory.keep credentials false e = .ok (!credentials.isOwnDevice jid) := by
      simp [DeviceDirectory.keep, hj, Except.map]
    rw [toldOf, hj, kept]
    cases own : credentials.isOwnDevice jid <;> simp [Except.toOption, Option.filter, own]

/-- The lists of different members have no device in common. -/
theorem nodup_toldOf_iff {members : List Jid} {lists : DeviceCache}
    (owned : DeviceDirectory.Owned lists) :
    (((DeviceDirectory.users members).flatMap (DeviceDirectory.listOf lists)).filterMap
        (toldOf credentials flags)).Nodup ↔
      ∀ user ∈ DeviceDirectory.users members,
        ((DeviceDirectory.listOf lists user).filterMap (toldOf credentials flags)).Nodup := by
  have ofUser : ∀ user jid,
      jid ∈ (DeviceDirectory.listOf lists user).filterMap (toldOf credentials flags) →
        jid.user = user.user ∧ jid.server = user.server := by
    intro user jid told
    obtain ⟨e, mem, told⟩ := List.mem_filterMap.mp told
    obtain ⟨name, server⟩ :=
      DeviceEntry.toJid_eq_ok (toOption_eq_some.mp (Option.filter_eq_some_iff.mp told).1)
    unfold DeviceDirectory.listOf at mem
    cases found : lists.find? user with
    | none =>
      rw [found] at mem
      cases mem
    | some entries =>
      rw [found] at mem
      obtain ⟨name', server'⟩ := owned user entries found e mem
      exact ⟨name.trans name', server.trans server'⟩
  rw [List.filterMap_flatMap, List.nodup_flatMap]
  refine and_iff_left ((DeviceDirectory.nodup_users members).imp_of_mem ?_)
  intro user user' mem mem' ne jid told told'
  obtain ⟨name, server⟩ := ofUser user jid told
  obtain ⟨name', server'⟩ := ofUser user' jid told'
  have device := DeviceDirectory.withoutDevice_of_mem_users mem
  have device' := DeviceDirectory.withoutDevice_of_mem_users mem'
  exact ne (Jid.ext' (name.symm.trans name') (server.symm.trans server')
    (device.trans device'.symm))

variable {o : Outgoing} {d d' : Directories ω} {f : GroupFanout}

theorem listsOnce_group_node (h : gather host credentials o d = .ok f d') :
    (f.node credentials o).ListsOnce ↔ f.informed.Nodup := by
  obtain ⟨_, _, _, _, _, _, _, _, _, _, _, _, _, told⟩ := gather_eq_ok h
  obtain ⟨_, _, _, wrote⟩ := distribute_eq_ok told
  exact Node.listsOnce_iff (jids_node wrote)

theorem listsOnce_newsletter (credentials : Credentials) (o : Outgoing) :
    (newsletter credentials o).node.ListsOnce := by
  refine Node.listsOnce_of_nobody (Stanza.Draft.recipients_build_nil _ fun part hp n hn => ?_)
  rw [Stanza.Draft.withPart, o.parts_header credentials] at hp
  obtain rfl := List.mem_singleton.mp hp
  cases hn
  cases o.message.mediaType <;> exact (by decide : "plaintext" ≠ "participants")

theorem pairwiseTargets_nodup {targets : List Jid}
    (h : pairwiseTargets host credentials o d = .ok targets d') : targets.Nodup := by
  cases hp : o.participant with
  | some participant =>
    simp only [pairwiseTargets, hp] at h
    cases h
    exact List.nodup_singleton _
  | none =>
    simp only [pairwiseTargets, hp] at h
    obtain ⟨linked, _, _, h⟩ := Act.bind_eq_ok.mp h
    cases h
    exact nodup_distinct _

theorem listsOnce_pairwise {prepared : Prepared}
    (h : pairwise host credentials o d = .ok prepared d') : prepared.node.ListsOnce := by
  obtain ⟨targets, d₁, d₂, own, d₃, foreign, ht, _, ho, hf, node⟩ := pairwise_eq_ok h
  obtain ⟨_, _, _, wrote⟩ := encryptAll_eq_ok ho
  obtain ⟨_, _, _, wrote'⟩ := encryptAll_eq_ok hf
  have split : (targets.filter credentials.isMe ++ targets.filter (not ∘ credentials.isMe)).Perm
      targets := List.filter_append_perm _ _
  have nodup := split.nodup_iff.mpr (pairwiseTargets_nodup ht)
  rw [← wrote.jids, ← wrote'.jids, ← List.map_append] at nodup
  rw [node]
  generalize own ++ foreign = ciphertexts at nodup
  have parts : ((o.header credentials).withPart (pairwisePart o ciphertexts)).parts =
      [pairwisePart o ciphertexts] := by
    simp [Stanza.Draft.withPart, o.parts_header credentials]
  -- a single ciphertext for a participant stands alone, and otherwise all are listed
  unfold pairwisePart at parts ⊢
  split at parts
  next participant single hp hs =>
    refine Node.listsOnce_of_nobody (Stanza.Draft.recipients_build_nil _ fun part hp n hn => ?_)
    rw [parts] at hp
    obtain rfl := List.mem_singleton.mp hp
    cases hn
    rw [Stanza.tag_encNode]
    decide
  next =>
    refine (Node.listsOnce_iff ?_).mpr nodup
    rw [Stanza.Draft.recipients_build _ parts (by simp)]
    simp [Stanza.attr?_toNode]

end Preparation

namespace Directories

/-- If each list was one of devices of its user, it still is. -/
def KeepsOwned (d d' : Directories ω) : Prop :=
  DeviceDirectory.Owned d.devices → DeviceDirectory.Owned d'.devices

instance : IsPreorder (Directories ω) KeepsOwned where
  refl _ := id
  trans _ _ _ h h' := h' ∘ h

/-- What is done elsewhere leaves the lists as they are. -/
theorem zoom_keeps_owned {τ α : Type} {part : Directories ω → τ}
    {replace : τ → Directories ω → Directories ω} (x : Act τ α)
    (same : ∀ t d, (replace t d).devices = d.devices) :
    (Act.zoom part replace x).Keeps KeepsOwned := by
  intro d owned
  rwa [Act.after_zoom, same]

theorem KeepsOwned.inParts : KeptInParts host (fun _ _ => True) KeepsOwned where
  keeps := host.keeps_true
  world _ := zoom_keeps_owned _ fun _ _ => rfl
  devices _ _ _ _ := (DeviceDirectory.resolve_keeps_owned _ _ _ _).zoom fun _ _ h => h
  groups _ _ := zoom_keeps_owned _ fun _ _ => rfl
  memory _ _ := zoom_keeps_owned _ fun _ _ => rfl

end Directories

namespace Relay

/-- Each list of devices that a relay remembers is one of devices of its user. -/
def OwnedLists (r : Relay ω) : Prop := DeviceDirectory.Owned r.directories.devices

theorem OwnedLists.of_create {c : Config} {credentials : Credentials} {w w' : World ω} {r : Relay ω}
    (h : create host c credentials w = .ok r w') : r.OwnedLists := by
  obtain ⟨_, _, _, h⟩ := Act.bind_eq_ok.mp h
  obtain ⟨_, _, _, h⟩ := Act.bind_eq_ok.mp h
  obtain ⟨_, _, _, h⟩ := Act.bind_eq_ok.mp h
  cases h
  exact DeviceDirectory.Owned.empty

/-- If the lists of devices were those of their users, they still are. -/
def KeepsOwned (r r' : Relay ω) : Prop := r.OwnedLists → r'.OwnedLists

instance : IsPreorder (Relay ω) KeepsOwned where
  refl _ := id
  trans _ _ _ h h' := h' ∘ h

theorem inWorld_keeps_owned {α : Type} (x : Act (World ω) α) : (inWorld x).Keeps KeepsOwned := by
  intro r owned
  rwa [OwnedLists, inWorld, Act.after_zoom]

theorem chooseId_keeps_owned (credentials : Credentials) (options : RelayOptions) :
    (chooseId host credentials options).Keeps KeepsOwned := by
  unfold chooseId
  split
  · exact Act.Keeps.pure _
  · exact (inWorld_keeps_owned _).bind fun _ => (inWorld_keeps_owned _).bind fun _ =>
      Act.Keeps.pure _

theorem inRetry_keeps_owned {α : Type} (x : Act (Held RetryQueue ω) α) :
    (inRetry x).Keeps KeepsOwned := by
  intro r owned
  rwa [OwnedLists, inRetry, Act.after_zoom]

theorem transmit_keeps_owned (n : Node) : (transmit host n).Keeps KeepsOwned := by
  intro r owned
  rw [OwnedLists, (transmit_keeps n r).rest]
  exact owned

theorem inDirectories_keeps_owned {α : Type} {x : Act (Directories ω) α}
    (hx : x.Keeps Directories.KeepsOwned) : (inDirectories x).Keeps KeepsOwned :=
  hx.zoom fun _ _ h => h

theorem relay_keeps_owned (jid : Jid) (message : Message) (options : RelayOptions) :
    (relay host jid message options).Keeps KeepsOwned := by
  refine Act.Keeps.get.bind fun r => (chooseId_keeps_owned _ _).bind fun id => ?_
  have prepared : ∀ credentials (o : Outgoing),
      (o.prepare host credentials).Keeps Directories.KeepsOwned :=
    Outgoing.prepare_keeps Directories.KeepsOwned.inParts
  refine (inDirectories_keeps_owned (prepared _ _)).bind fun made => ?_
  refine (transmit_keeps_owned _).bind fun _ => ?_
  have marked : (Directories.inMemory (SenderKeyMemory.mark host jid.withoutDevice
      made.informed)).Keeps Directories.KeepsOwned :=
    Directories.zoom_keeps_owned _ fun _ _ => rfl
  refine (inDirectories_keeps_owned marked).attempt.bind fun _ => ?_
  refine (inWorld_keeps_owned _).bind fun now => ?_
  exact (Act.Keeps.modify fun r owned => owned).bind fun _ => Act.Keeps.pure _

theorem keptBesides_owned : KeptBesides host KeepsOwned :=
  .of_all inWorld_keeps_owned inRetry_keeps_owned (fun _ _ _ owned => owned) relay_keeps_owned

/-- The states of a relay from its creation on. What else goes on, such as new credentials or other
answers of the service, may do anything but change the lists of devices. -/
inductive Reached (host : Host ω) : Relay ω → Prop
  | created {c : Config} {credentials : Credentials} {w w' : World ω} {r : Relay ω}
      (h : create host c credentials w = .ok r w') : Reached host r
  | relayed {r : Relay ω} (before : Reached host r) (jid : Jid) (message : Message)
      (options : RelayOptions) : Reached host ((relay host jid message options).after r)
  | sent {r : Relay ω} (before : Reached host r) (jid : Jid) (message : Message)
      (options : RelayOptions) : Reached host ((sendMessage host jid message options).after r)
  | ticked {r : Relay ω} (before : Reached host r) : Reached host ((tick host).after r)
  | asked {r : Relay ω} (before : Reached host r) (receipt : RetryReceipt) :
      Reached host ((handleRetryReceipt host receipt).after r)
  | forgotten {r : Relay ω} (before : Reached host r) (user : Jid) :
      Reached host (r.invalidateDevices user)
  | emptied {r : Relay ω} (before : Reached host r) : Reached host r.invalidateAllDevices
  | aside {r r' : Relay ω} (before : Reached host r)
      (same : r'.directories.devices = r.directories.devices) : Reached host r'

theorem Reached.ownedLists {r : Relay ω} (reached : Reached host r) : r.OwnedLists := by
  induction reached with
  | created h => exact .of_create h
  | relayed _ jid message options ih => exact relay_keeps_owned jid message options _ ih
  | sent _ jid message options ih => exact keptBesides_owned.sendMessage jid message options _ ih
  | ticked _ ih => exact keptBesides_owned.tick (fun _ _ owned => owned) _ ih
  | asked _ receipt ih => exact keptBesides_owned.handleRetryReceipt receipt (fun _ _ owned => owned) _ ih
  | forgotten _ user ih => exact DeviceDirectory.Owned.invalidate ih user
  | emptied => exact DeviceDirectory.Owned.empty
  | aside _ same ih =>
    rw [OwnedLists, same]
    exact ih

/-- What a fan-out to a group goes by: its members, their lists of devices, and the flags. -/
def LooksUpGroup (host : Host ω) (r : Relay ω) (o : Outgoing) (members : List Jid)
    (lists : DeviceCache) (flags : DeviceFlags) : Prop :=
  ∃ r₁ mode d t, chooseId host r.credentials o.options r = .ok o.messageId r₁ ∧
    Preparation.members host r.credentials o r₁.directories = .ok (members, mode) d ∧
    DeviceDirectory.LooksUp host (DeviceDirectory.users members)
      (if o.options.useUserDevicesCache then d.devices else ∅) ⟨d.devices, d.world⟩ lists t ∧
    r.snapshot? o.destination = some flags

/-- Who is told the key of a group, by the lists of its members. -/
theorem informed_of_lists {r r₁ : Relay ω} {o : Outgoing} {d : Directories ω}
    {f : Preparation.GroupFanout} (owned : r.OwnedLists) (all : o.participant = none)
    (hid : chooseId host r.credentials o.options r = .ok o.messageId r₁)
    (h : Preparation.gather host r.credentials o r₁.directories = .ok f d) :
    ∃ members lists flags, LooksUpGroup host r o members lists flags ∧
      DeviceDirectory.Owned lists ∧
      f.informed = ((DeviceDirectory.users members).flatMap
        (DeviceDirectory.listOf lists)).filterMap (Preparation.toldOf r.credentials flags) := by
  obtain ⟨flags, before, informed, _⟩ := Preparation.gather_informed all h
  obtain ⟨members, d₁, d₂, _, _, _, _, hm, ht, _⟩ := Preparation.gather_eq_ok h
  simp only [Preparation.groupTargets, all] at ht
  obtain ⟨entries, u, he, ht⟩ := Act.bind_eq_ok.mp ht
  obtain ⟨t, he, _⟩ := Act.zoom_eq_ok.mp he
  obtain ⟨lists, looked, rfl⟩ := DeviceDirectory.resolve_eq_ok he
  have chosen := (chooseId_keeps host.keeps_true _ _).of_ok hid
  have owned₁ : DeviceDirectory.Owned d₁.devices :=
    (Preparation.members_keeps Directories.KeepsOwned.inParts _ _).of_ok hm
      ((chooseId_keeps_owned _ _).of_ok hid owned)
  have known : DeviceDirectory.Owned (if o.options.useUserDevicesCache then d₁.devices else ∅) := by
    split
    · exact owned₁
    · exact DeviceDirectory.Owned.empty
  refine ⟨members, lists, flags, ⟨r₁, _, d₁, t, hid, hm, looked, ?_⟩, looked.owned known, ?_⟩
  · exact (chosen.snapshot?_eq _).symm.trans before
  · rw [informed]
    exact Preparation.filterMap_toldOf (Act.ofExcept_eq_ok.mp ht).1

/-- Whether a stanza lists its devices once, given what it was made from. -/
def ListsAsLookedUp (host : Host ω) (r : Relay ω) (jid : Jid) (message : Message)
    (options : RelayOptions) (n : Node) : Prop :=
  if (DestinationKind.classify jid).usesSenderKey = true ∧ options.participant = none then
    ∃ id members lists flags,
      LooksUpGroup host r ⟨jid.withoutDevice, message, id, options⟩ members lists flags ∧
        (n.ListsOnce ↔ ∀ user ∈ DeviceDirectory.users members,
          ((DeviceDirectory.listOf lists user).filterMap
            (Preparation.toldOf r.credentials flags)).Nodup)
  else n.ListsOnce

theorem listsAsLookedUp {jid : Jid} {message : Message} {options : RelayOptions} {id : String}
    {r r₁ : Relay ω} {prepared : Prepared} {d : Directories ω} (owned : r.OwnedLists)
    (hid : chooseId host r.credentials options r = .ok id r₁)
    (hp : (⟨jid.withoutDevice, message, id, options⟩ : Outgoing).prepare host r.credentials
      r₁.directories = .ok prepared d) :
    ListsAsLookedUp host r jid message options prepared.node := by
  unfold ListsAsLookedUp
  generalize ho : (⟨jid.withoutDevice, message, id, options⟩ : Outgoing) = o at hp
  have kind : o.kind = DestinationKind.classify jid := ho ▸ rfl
  rcases o.prepare_cases host r.credentials with ⟨keyed, way⟩ | ⟨other, way⟩ | ⟨other, way⟩ <;>
    rw [way] at hp
  · obtain ⟨f, _, hf, hp⟩ := Act.bind_eq_ok.mp hp
    cases hp
    have once := Preparation.listsOnce_group_node hf
    cases all : options.participant with
    | none =>
      rw [if_pos ⟨kind ▸ keyed, rfl⟩]
      subst ho
      obtain ⟨members, lists, flags, looked, owned', informed⟩ :=
        informed_of_lists (o := ⟨jid.withoutDevice, message, id, options⟩) owned all hid hf
      refine ⟨id, members, lists, flags, looked, ?_⟩
      rw [once, informed, Preparation.nodup_toldOf_iff owned']
    | some participant =>
      rw [if_neg (by simp), once]
      subst ho
      rw [(Preparation.gather_of_participant (by exact all) hf).2]
      exact List.nodup_singleton _
  · cases hp
    rw [← kind, other, if_neg (by simp [DestinationKind.usesSenderKey])]
    exact Preparation.listsOnce_newsletter _ o
  · have keyless : (DestinationKind.classify jid).usesSenderKey = false := by
      rw [← kind]
      rcases other with other | other <;> rw [other] <;> rfl
    rw [keyless, if_neg (by simp)]
    exact Preparation.listsOnce_pairwise hp

/-- A stanza for a group lists each device once exactly if no member's list names a device twice
that is to be told the key; all other stanzas list each device once. -/
theorem relay_lists_once_iff (host : Host ω) {r : Relay (Recorded ω)}
    (reached : Reached host.recording r) (jid : Jid) (message : Message) (options : RelayOptions) :
    ∃ stanzas, ((relay host.recording jid message options).after r).handed = r.handed ++ stanzas ∧
      ∀ h ∈ stanzas, ListsAsLookedUp host.recording r jid message options h.stanza := by
  have hh := host.recording_keeps
  have owned := reached.ownedLists
  have listed : ∀ {id : String} {r₁ : Relay (Recorded ω)} {prepared : Prepared}
      {d : Directories (Recorded ω)} (accepted : Bool),
      chooseId host.recording r.credentials options r = .ok id r₁ →
      (⟨jid.withoutDevice, message, id, options⟩ : Outgoing).prepare host.recording r.credentials
        r₁.directories = .ok prepared d →
      ∀ h ∈ [Handed.mk prepared.node accepted],
        ListsAsLookedUp host.recording r jid message options h.stanza := by
    intro id r₁ prepared d accepted hid hp h mem
    obtain rfl := List.mem_singleton.mp mem
    exact listsAsLookedUp owned hid hp
  cases h : relay host.recording jid message options r with
  | ok id r' =>
    rw [Act.after_of_ok h]
    obtain ⟨r₁, prepared, d, r₂, hid, hp, ht, rfl⟩ := relay_eq_ok h
    exact ⟨_, handed_of_taken (prepares_of_ok hh hid hp) ht jid.withoutDevice id message
      prepared.informed, listed true hid hp⟩
  | error e r' =>
    rw [Act.after_of_error h]
    rcases relay_eq_error_cases h with hid | ⟨id, r₁, hid, ⟨d, hp, rfl⟩ | ⟨prepared, d, hp, ht⟩⟩
    · refine ⟨[], ?_, by simp⟩
      rw [List.append_nil]
      exact ((chooseId_keeps hh _ _).of_error hid).handed_eq
    · have made : Prepares Recorded.SameHanded r { r₁ with directories := d } :=
        trans_of _ ((chooseId_keeps hh _ _).of_ok hid)
          ⟨(Outgoing.prepare_steady hh _ _).of_error hp, rfl⟩
      refine ⟨[], ?_, by simp⟩
      rw [List.append_nil]
      exact made.handed_eq
    · refine ⟨_, ?_, listed false hid hp⟩
      exact (transmit_eq_error ht).2.trans
        (congrArg (· ++ _) (prepares_of_ok hh hid hp).handed_eq)

theorem hello_lists_friend_once : ∃ (r : Relay (Recorded Stage)) (w : World (Recorded Stage))
    (h : Handed), create Stage.plain.recording {} ⟨Stage.own, none, []⟩ ⟨∅, Stage.opening, []⟩ =
        .ok r w ∧
      ((relay Stage.plain.recording Stage.friend (.text "hi") { messageId := some "1" }).after
        r).handed = [h] ∧ h.stanza.ListsOnce := by
  obtain ⟨r, w, created, counts⟩ : ∃ r w, create Stage.plain.recording {} ⟨Stage.own, none, []⟩
      ⟨∅, Stage.opening, []⟩ = .ok r w ∧ (decide (r.handed.length = 0) &&
        decide (((relay Stage.plain.recording Stage.friend (.text "hi")
          { messageId := some "1" }).after r).handed.length = 1)) = true :=
    Act.yields_iff.mp (by decide +kernel)
  simp only [Bool.and_eq_true, decide_eq_true_eq] at counts
  obtain ⟨h, handed⟩ := List.length_eq_one_iff.mp counts.2
  obtain ⟨stanzas, same, listed⟩ := relay_lists_once_iff Stage.plain (.created created)
    Stage.friend (.text "hi") { messageId := some "1" }
  rw [List.length_eq_zero_iff.mp counts.1, List.nil_append, handed] at same
  exact ⟨r, w, h, created, handed, listed h (same ▸ List.mem_singleton_self h)⟩

/-- Our friend's second device stands twice on the list. -/
def repeating : Stage :=
  { Stage.opening with script := { Stage.opening.script with
      devices := Dict.ofList [(Stage.friend, [0, 7, 7])] } }

theorem hello_lists_repeated_device_twice :
    (relay Stage.plain.recording Stage.chat (.text "hi") { messageId := some "1" }).yields
      ((atOpening ⟨Stage.own, none, []⟩).withHost ⟨repeating, []⟩) (fun _ r =>
        r.handed.map (fun h => (h.accepted, h.stanza.recipients.map (·.attr? "jid"),
          decide h.stanza.ListsOnce)) =
            [(true, [some "2@s.whatsapp.net", some "2:7@s.whatsapp.net",
              some "2:7@s.whatsapp.net"], false)]) = true := by
  decide +kernel

end Relay

end Fanout
