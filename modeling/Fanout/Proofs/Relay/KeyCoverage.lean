import Fanout.Proofs.Credentials
import Fanout.Proofs.Relay.Bookkeeping
import Fanout.Proofs.Relay.GroupFanout
import Fanout.Proofs.Rehearsal.Stage

namespace Fanout

variable {ω : Type} {host : Host ω}

/-- A stanza for a group that was taken, and what it was made from. -/
structure Sent where
  credentials : Credentials
  outgoing : Outgoing
  fanout : Preparation.GroupFanout

namespace Sent

def node (s : Sent) : Node := s.fanout.node s.credentials s.outgoing

/-- The sender key that the stanza is encrypted under. -/
def key (s : Sent) : SenderKeyName := .of s.outgoing.destination s.fanout.sender

/-- Whether the stanza lists a device, which it then tells its sender key. -/
def Lists (s : Sent) (device : Jid) : Prop :=
  some device.encode ∈ s.node.recipients.map (·.attr? "jid")

end Sent

namespace Relay

variable {r r' : Relay ω} {s : Sent}

/-- A relay to a group that went through, with the calls that made its stanza. -/
structure Sends (host : Host ω) (r : Relay ω) (s : Sent) (r' : Relay ω) : Prop where
  keyed : s.outgoing.kind.usesSenderKey = true
  credentials : s.credentials = r.credentials
  relayed : relay host s.outgoing.destination s.outgoing.message s.outgoing.options r =
    .ok s.outgoing.messageId r'
  gathered : ∃ r₁ d r₂, chooseId host r.credentials s.outgoing.options r =
      .ok s.outgoing.messageId r₁ ∧
    Preparation.gather host r.credentials s.outgoing r₁.directories = .ok s.fanout d ∧
    transmit host s.node { r₁ with directories := d } = .ok () r₂ ∧
    r' = conclude host s.outgoing.destination s.outgoing.messageId s.outgoing.message
      s.fanout.informed r₂

theorem exists_sends {jid : Jid} {message : Message} {options : RelayOptions} {id : String}
    (keyed : (DestinationKind.classify jid).usesSenderKey = true)
    (h : relay host jid message options r = .ok id r') :
    ∃ f, Sends host r ⟨r.credentials, ⟨jid.withoutDevice, message, id, options⟩, f⟩ r' := by
  obtain ⟨r₁, prepared, d, r₂, hid, hp, ht, rfl⟩ := relay_eq_ok h
  rw [Outgoing.prepare_of_usesSenderKey (o := ⟨jid.withoutDevice, message, id, options⟩) keyed]
    at hp
  obtain ⟨f, _, hf, hp⟩ := Act.bind_eq_ok.mp hp
  cases hp
  exact ⟨f, keyed, rfl, h, r₁, d, r₂, hid, hf, ht, rfl⟩

theorem Sends.lists_iff (sends : Sends host r s r') {device : Jid} :
    s.Lists device ↔ device ∈ s.fanout.informed := by
  obtain ⟨_, _, _, _, gathered, _⟩ := sends.gathered
  obtain ⟨_, _, _, _, _, _, _, _, _, _, _, _, _, told⟩ := Preparation.gather_eq_ok gathered
  obtain ⟨_, _, _, wrote⟩ := Preparation.distribute_eq_ok told
  rw [Sent.Lists, Sent.node, Preparation.jids_node wrote]
  exact List.mem_map_of_injective fun _ _ same => Jid.encode_injective (Option.some.inj same)

/-- Whatever goes on beside relays and resets, such as new credentials, new answers of the service,
caches that are dropped, or the retry queue at work. -/
structure Aside (r r' : Relay ω) : Prop where
  memory : r'.directories.memory = r.directories.memory
  home : r'.retry.home = r.retry.home
  flags : ∀ group, r'.world.documents.find? (SenderKeyMemory.key group) =
    r.world.documents.find? (SenderKeyMemory.key group)
  keys : ∀ name, r'.world.documents.find? (SessionStore.senderKeyKey name) =
    r.world.documents.find? (SessionStore.senderKeyKey name)

/-- New credentials touch nothing but their own document. -/
theorem updateCredentials_aside (change : Credentials → Except Error Credentials) :
    (inCredentials (Credentials.update host change)).Keeps Aside := by
  intro r
  have kept : Credentials.Apart _ ((Credentials.update host change).after _) :=
    Credentials.update_apart change ⟨r.credentials, r.world⟩
  rw [inCredentials, Act.after_zoom]
  exact ⟨rfl, rfl, fun _ => kept _ (Storage.append_ne (by decide)),
    fun _ => kept _ (Storage.append_ne (by decide))⟩

inductive Step (host : Host ω) : Relay ω → Option Sent → Relay ω → Prop
  | sent {r r' : Relay ω} {s : Sent} (sends : Sends host r s r') : Step host r (some s) r'
  | relayed {r r' : Relay ω} {jid : Jid} {message : Message} {options : RelayOptions} {id : String}
      (h : relay host jid message options r = .ok id r')
      (keyless : (DestinationKind.classify jid).usesSenderKey = false) : Step host r none r'
  | failed {r r' : Relay ω} {jid : Jid} {message : Message} {options : RelayOptions} {e : Error}
      (h : relay host jid message options r = .error e r') : Step host r none r'
  | reset {r r' : Relay ω} {group : Jid} (h : (resetSenderKeys host group).after r = r') :
      Step host r none r'
  | aside {r r' : Relay ω} (h : Aside r r') : Step host r none r'
  | restarted {r r' : Relay ω} {c : Config} {credentials : Credentials} {start : ω} {w : World ω}
      (h : create host c credentials ⟨r.world.documents, start⟩ = .ok r' w) : Step host r none r'

/-- Whether the record of a sender key was there before a step and is not behind it. -/
def Loses (r r' : Relay ω) (name : SenderKeyName) : Prop :=
  r.world.documents.find? (SessionStore.senderKeyKey name) ≠ none ∧
    r'.world.documents.find? (SessionStore.senderKeyKey name) = none

/-- What a step did to sender keys: the stanza that it handed over, and the keys that it lost. -/
structure Event where
  sent : Option Sent
  lost : SenderKeyName → Prop

/-- Whether a device was told a sender key that was not lost since; the latest event comes first. -/
def Told (name : SenderKeyName) (device : Jid) : List Event → Prop
  | [] => False
  | e :: earlier =>
    (∃ s, e.sent = some s ∧ s.key = name ∧ s.Lists device) ∨
      ¬e.lost name ∧ Told name device earlier

/-- The life of a relay over a store without flags, and what happened in it. -/
inductive Run (host : Host ω) : List Event → Relay ω → Prop
  | created {c : Config} {credentials : Credentials} {w w' : World ω} {r : Relay ω}
      (h : create host c credentials w = .ok r w')
      (bare : ∀ group, w.documents.find? (SenderKeyMemory.key group) = none) : Run host [] r
  | step {h : List Event} {r r' : Relay ω} {s : Option Sent} (run : Run host h r)
      (step : Step host r s r') : Run host (⟨s, Loses r r'⟩ :: h) r'

/-- Every flag stands for a sender key of its group that the device was told. -/
structure Backed (h : List Event) (r : Relay ω) : Prop where
  home : r.AtHome
  coherent : r.Coherent
  told : ∀ group fs device, r.snapshot? group = some fs → fs.holds device = true →
    (DestinationKind.classify group).usesSenderKey = true ∧
      ∃ sender, Told (.of group sender) device h

variable {h : List Event}

theorem Told.later {name : SenderKeyName} {device : Jid} {sent : Option Sent}
    {lost : SenderKeyName → Prop} (told : Told name device h) (kept : ¬lost name) :
    Told name device (⟨sent, lost⟩ :: h) :=
  .inr ⟨kept, told⟩

/-- A step that loses no key leaves every flag backed if those that it sets are. -/
theorem Backed.of_books {group : Jid} {devices : List Jid} (backed : Backed h r)
    (books : Books group devices r r') {sent : Option Sent}
    (new : ∀ device ∈ devices, (DestinationKind.classify group).usesSenderKey = true ∧
      ∃ sender, Told (.of group sender) device (⟨sent, Loses r r'⟩ :: h)) :
    Backed (⟨sent, Loses r r'⟩ :: h) r' where
  home := by
    rw [AtHome, books.home]
    exact backed.home
  coherent := books.flags.coherent backed.coherent
  told other fs device hf hd := by
    rcases books.flags.flags other fs device hf hd with ⟨rfl, listed⟩ | ⟨before, hb, hd⟩
    · exact new device listed
    · obtain ⟨keyed, sender, told⟩ := backed.told other before device hb hd
      exact ⟨keyed, sender, told.later fun lost => lost.1 (books.flags.keys _ lost.2)⟩

theorem device_of_usesSenderKey {jid : Jid}
    (h : (DestinationKind.classify jid).usesSenderKey = true) : jid.withoutDevice = jid := by
  have none_device : jid.device = none := by
    cases hd : jid.device with
    | none => rfl
    | some device =>
      have allowed := jid.device_allowed (by simp [hd])
      cases hs : jid.server <;>
        simp_all [DestinationKind.classify, DestinationKind.usesSenderKey, Server.supportsDevices]
  exact Jid.ext' rfl rfl none_device.symm

theorem Sends.books (sends : Sends host r s r') (home : r.AtHome) :
    Books s.outgoing.destination s.fanout.informed r r' := by
  obtain ⟨r₁, d, r₂, hid, hg, ht, rfl⟩ := sends.gathered
  have hp : s.outgoing.prepare host r.credentials r₁.directories =
      .ok ⟨s.node, s.fanout.informed⟩ d := by
    rw [Outgoing.prepare_of_usesSenderKey sends.keyed, Sent.node, sends.credentials]
    exact Act.bind_of_ok hg
  exact relay_ok_books home hid hp ht

theorem Aside.books {group : Jid} {devices : List Jid} (h : Aside r r') :
    Books group devices r r' := by
  have same : ∀ other, r'.snapshot? other = r.snapshot? other := by
    intro other
    rw [snapshot?, snapshot?, h.memory]
    exact SenderKeyMemory.snapshot?_congr _ (h.flags other)
  refine ⟨⟨fun name gone => (h.keys name).symm.trans gone,
    fun other fs _ hf hd => .inr ⟨fs, (same other).symm.trans hf, hd⟩, fun hc other fs hf => ?_⟩,
    h.home⟩
  rw [Relay.flags, h.memory] at hf
  exact (SenderKeyMemory.stored?_congr (h.flags other)).trans (hc other fs hf)

/-- A new relay knows the flags that the store keeps. -/
theorem Backed.of_create {c : Config} {credentials : Credentials} {start : ω} {w : World ω}
    (backed : Backed h r) (hr : create host c credentials ⟨r.world.documents, start⟩ = .ok r' w) :
    Backed (⟨none, Loses r r'⟩ :: h) r' := by
  obtain ⟨memory, documents⟩ := create_eq_ok hr
  have unknown : ∀ group, r'.directories.memory.find? group = none := by
    rw [memory]
    exact fun _ => rfl
  refine ⟨.of_create hr, fun group fs hf => ?_, fun group fs device hf hd => ?_⟩
  · rw [unknown] at hf
    cases hf
  · have stored : r'.snapshot? group = r.snapshot? group := by
      rw [snapshot?, snapshot?, SenderKeyMemory.snapshot?, unknown,
        SenderKeyMemory.snapshot?_eq_stored? backed.coherent]
      exact SenderKeyMemory.stored?_congr (documents _)
    obtain ⟨keyed, sender, told⟩ := backed.told group fs device (stored ▸ hf) hd
    refine ⟨keyed, sender, told.later fun lost => lost.1 ?_⟩
    exact (documents _).symm.trans lost.2

/-- The keys that a reset takes are of the group whose flags it clears. -/
theorem Backed.of_forgets {group : Jid} (backed : Backed h r)
    (forgets : SenderKeyMemory.Forgets group r.flags r'.flags)
    (home : r'.retry.home = r.retry.home) : Backed (⟨none, Loses r r'⟩ :: h) r' := by
  refine ⟨?_, forgets.coherent backed.coherent, fun other fs device hf hd => ?_⟩
  · rw [AtHome, home]
    exact backed.home
  · obtain ⟨differs, before⟩ := forgets.flags other fs device hf hd
    obtain ⟨keyed, sender, told⟩ := backed.told other fs device before hd
    -- records are named without devices and flags with them, but a keyed group has none
    have away : other.withoutDevice ≠ group.withoutDevice := by
      intro same
      have keyed' : (DestinationKind.classify group).usesSenderKey = true := by
        have server := congrArg Jid.server same
        change other.server = group.server at server
        rwa [DestinationKind.classify, server] at keyed
      rw [device_of_usesSenderKey keyed, device_of_usesSenderKey keyed'] at same
      exact differs same
    exact ⟨keyed, sender, told.later fun lost => lost.1 (forgets.keys other sender away lost.2)⟩

theorem Backed.step {sent : Option Sent} (backed : Backed h r) (step : Step host r sent r') :
    Backed (⟨sent, Loses r r'⟩ :: h) r' := by
  cases step with
  | sent sends =>
    rename_i s
    refine backed.of_books (sends.books backed.home) fun device listed => ⟨sends.keyed, ?_⟩
    exact ⟨s.fanout.sender, .inl ⟨s, rfl, rfl, sends.lists_iff.mpr listed⟩⟩
  | relayed hr keyless =>
    rename_i jid message options id
    obtain ⟨r₁, prepared, d, r₂, hid, hp, ht, rfl⟩ := relay_eq_ok hr
    have nobody := Outgoing.informed_of_keyless (o := ⟨jid.withoutDevice, message, id, options⟩)
      keyless hp
    refine backed.of_books (relay_ok_books backed.home hid hp ht) fun device listed => ?_
    rw [nobody] at listed
    cases listed
  | failed hr =>
    rename_i jid _ _ _
    have books : Books jid [] r r' := relay_error_books backed.home hr
    exact backed.of_books books fun _ listed => (nomatch listed)
  | reset hr =>
    rename_i group
    obtain ⟨home, books | forgets⟩ := resetSenderKeys_cases host group backed.coherent hr
    · exact backed.of_books ⟨books, home⟩ fun _ listed => (nomatch listed)
    · exact backed.of_forgets forgets home
  | aside ha =>
    have books : Books default [] r r' := ha.books
    exact backed.of_books books fun _ listed => (nomatch listed)
  | restarted hr => exact backed.of_create hr

theorem Run.backed (run : Run host h r) : Backed h r := by
  induction run with
  | created hr bare =>
    rename_i r
    obtain ⟨memory, documents⟩ := create_eq_ok hr
    refine ⟨.of_create hr, fun group fs hf => ?_, fun group fs device hf hd => ?_⟩
    · rw [memory] at hf
      cases hf
    · have nobody : r.snapshot? group = some ∅ := by
        rw [snapshot?, memory]
        exact SenderKeyMemory.stored?_of_none ((documents _).trans (bare group))
      obtain rfl := Option.some.inj (nobody.symm.trans hf)
      cases hd
  | step _ step backed => exact backed.step step

/-- A target that a stanza does not list was told some sender key of the group that is not lost. -/
theorem Run.told_of_unlisted (run : Run host h r) (sends : Sends host r s r') {device : Jid}
    (target : device ∈ s.fanout.targets) (unlisted : ¬s.Lists device) :
    ∃ sender, Told (.of s.outgoing.destination sender) device h := by
  have backed := run.backed
  rw [sends.lists_iff] at unlisted
  obtain ⟨r₁, d, r₂, hid, hg, ht, _⟩ := sends.gathered
  have chosen := (chooseId_keeps host.keeps_true _ _).of_ok hid
  cases hp : s.outgoing.participant with
  | some participant =>
    obtain ⟨targets, informed⟩ := Preparation.gather_of_participant hp hg
    rw [targets] at target
    rw [informed] at unlisted
    exact absurd target unlisted
  | none =>
    -- a target is left out only for its flag, and every flag is backed
    obtain ⟨before, flags, informed, _⟩ := Preparation.gather_informed hp hg
    rw [informed, List.mem_filter, not_and] at unlisted
    have held : before.holds device = true := by simpa using unlisted target
    exact (backed.told _ before device ((chosen.snapshot?_eq _).symm.trans flags) held).2

/-- Every target that a stanza does not list was told its very sender key. -/
def Covers (h : List Event) (s : Sent) : Prop :=
  ∀ device ∈ s.fanout.targets, ¬s.Lists device → Told s.key device h

/-- Whether a device was told our sender key of a stanza's group, but only under addresses other
than the one that the stanza is sent under. -/
def ToldOtherwise (h : List Event) (s : Sent) (device : Jid) : Prop :=
  (∃ sender, Told (.of s.outgoing.destination sender) device h) ∧ ¬Told s.key device h

theorem Told.exists_sent {name : SenderKeyName} {device : Jid} (told : Told name device h) :
    ∃ e ∈ h, ∃ s, e.sent = some s ∧ s.key = name := by
  induction h with
  | nil => cases told
  | cons e earlier ih =>
    rcases told with ⟨s, sent, key, _⟩ | ⟨_, told⟩
    · exact ⟨e, List.mem_cons_self, s, sent, key⟩
    · obtain ⟨e', mem, found⟩ := ih told
      exact ⟨e', List.mem_cons_of_mem _ mem, found⟩

/-- The flags do not say under which address a device was told: a stanza covers its targets exactly
if none that it leaves out was told otherwise, and it does if our address stayed the same. -/
theorem Run.covers_iff (run : Run host h r) (sends : Sends host r s r') :
    (Covers h s ↔
      ∀ device ∈ s.fanout.targets, ¬s.Lists device → ¬ToldOtherwise h s device) ∧
    ((∀ e ∈ h, ∀ s', e.sent = some s' → s'.key.group = s.key.group → s'.key = s.key) →
      Covers h s) := by
  refine ⟨⟨fun covers device target unlisted otherwise => ?_,
    fun none_otherwise device target unlisted => ?_⟩, fun same device target unlisted => ?_⟩
  · exact otherwise.2 (covers device target unlisted)
  · by_contra untold
    exact none_otherwise device target unlisted ⟨run.told_of_unlisted sends target unlisted, untold⟩
  · obtain ⟨sender, told⟩ := run.told_of_unlisted sends target unlisted
    obtain ⟨e, mem, s', sent, key⟩ := told.exists_sent
    have group : s'.key.group = s.key.group := by
      rw [key]
      rfl
    rwa [← key, same e mem s' sent group] at told

def say (id : String) : Act (Relay Stage) String :=
  relay Stage.plain Stage.chat (.text "hi") { messageId := some id }

def learnLid : Act (Relay Stage) Bool :=
  inCredentials (Credentials.update Stage.plain fun c => .ok { c with meLid := some Stage.ownLid })

/-- We speak twice to the chat, and between the two we learn our lid or we do not. -/
theorem rehearsed : (create Stage.plain {} ⟨Stage.own, none, []⟩).yields ⟨∅, Stage.opening⟩
    (fun r₀ _ => r₀.credentials = ⟨Stage.own, none, []⟩ && (say "1").yields r₀ fun id r₁ =>
      id = "1" && r₁.credentials = ⟨Stage.own, none, []⟩ &&
      (say "2").yields r₁ (fun id _ => id = "2") &&
      learnLid.yields r₁ fun _ r₂ => (say "2").yields r₂ (fun id _ => id = "2") &&
        (Preparation.gather Stage.plain r₂.credentials (.hello Stage.chat "2")).yields
          r₂.directories fun f _ =>
            Stage.friend ∈ f.targets && f.informed = [] && f.sender = Stage.ownLid) = true := by
  decide +kernel

theorem sends_said {id : String} {r r' : Relay Stage} (h : say id r = .ok id r') :
    ∃ f, Sends Stage.plain r ⟨r.credentials, .hello Stage.chat id, f⟩ r' :=
  exists_sends rfl h

theorem Sends.sender_of_meLid (sends : Sends host r s r') (h : r.credentials.meLid = none) :
    s.fanout.sender = r.credentials.me := by
  obtain ⟨_, _, _, _, gathered, _⟩ := sends.gathered
  obtain ⟨_, _, _, _, _, _, _, _, _, _, sender, _⟩ := Preparation.gather_eq_ok gathered
  rw [sender]
  unfold Preparation.senderAmong
  rw [h]
  cases s.fanout.mode with
  | none => rfl
  | some mode => cases mode <;> rfl

theorem covers_second_stanza : ∃ (h : List Event) (r r' : Relay Stage) (s : Sent),
    Run Stage.plain h r ∧ Sends Stage.plain r s r' ∧ h ≠ [] ∧ Covers h s := by
  obtain ⟨r₀, w, hr, rest⟩ := Act.yields_iff.mp rehearsed
  simp only [Bool.and_eq_true, decide_eq_true_eq, Act.yields_iff] at rest
  obtain ⟨before, id, r₁, h₁, ⟨⟨rfl, after⟩, id', r₂, h₂, rfl⟩, _⟩ := rest
  obtain ⟨f₁, sends₁⟩ := sends_said h₁
  obtain ⟨f₂, sends₂⟩ := sends_said h₂
  have run : Run Stage.plain _ r₁ := .step (.created hr fun _ => rfl) (.sent sends₁)
  refine ⟨_, r₁, r₂, _, run, sends₂, List.cons_ne_nil _ _, (run.covers_iff sends₂).2 ?_⟩
  intro e mem s sent _
  obtain rfl := List.mem_singleton.mp mem
  obtain rfl := Option.some.inj sent
  have sender₁ := sends₁.sender_of_meLid (by rw [before])
  have sender₂ := sends₂.sender_of_meLid (by rw [after])
  rw [Sent.key, Sent.key, sender₁, sender₂, before, after]
  rfl

/-- Once we learn our lid, a chat that addresses its members by lid gets a sender key that nobody
was told, since everybody is flagged. -/
theorem learned_lid_uncovered : ¬∀ (h : List Event) (r r' : Relay Stage) (s : Sent),
    Run Stage.plain h r → Sends Stage.plain r s r' → Covers h s := by
  intro all
  obtain ⟨r₀, w, hr, rest⟩ := Act.yields_iff.mp rehearsed
  simp only [Bool.and_eq_true, decide_eq_true_eq, Act.yields_iff] at rest
  obtain ⟨before, id, r₁, h₁, ⟨⟨rfl, _⟩, _⟩, _, r₂, learned, ⟨id', r₃, h₂, rfl⟩, f, d, hf,
    ⟨target, unlisted⟩, sender⟩ := rest
  obtain ⟨f₁, sends₁⟩ := sends_said h₁
  obtain ⟨f₂, sends₂⟩ := sends_said h₂
  have run : Run Stage.plain _ r₂ := .step (.step (.created hr fun _ => rfl) (.sent sends₁))
    (.aside ((updateCredentials_aside _).of_ok learned))
  -- the fan-out of the second stanza is the one that was looked at
  have gathered : f₂ = f := by
    obtain ⟨_, _, _, chosen, hf₂, _⟩ := sends₂.gathered
    cases chosen
    exact (EStateM.Result.ok.inj (hf₂.symm.trans hf)).1
  subst gathered
  have told := all _ _ _ _ run sends₂ Stage.friend target fun listed => by
    rw [sends₂.lists_iff, unlisted] at listed
    cases listed
  have differ : SenderKeyName.of Stage.chat Stage.own ≠ .of Stage.chat Stage.ownLid := by decide
  rcases told with ⟨_, none_sent, _⟩ | ⟨_, ⟨s, sent, key, _⟩ | ⟨_, nothing⟩⟩
  · cases none_sent
  · obtain rfl := Option.some.inj sent
    rw [Sent.key, Sent.key, sends₁.sender_of_meLid (by rw [before]), sender, before] at key
    exact differ key
  · exact nothing

end Relay

end Fanout
