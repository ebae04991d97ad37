import Fanout.Proofs.SenderKey.Memory
import Fanout.Relay.Basic

namespace Fanout

variable {ω α : Type} {R : ω → ω → Prop} {host : Host ω}

/-- A component's own state may change, and its world goes on by a relation. -/
def Held.Follows {κ : Type} (R : ω → ω → Prop) (kept lasting : String → Prop) (s t : Held κ ω) :
    Prop :=
  World.Follows R kept lasting s.world t.world

instance {κ : Type} {kept lasting : String → Prop} [IsPreorder ω R] :
    IsPreorder (Held κ ω) (Held.Follows R kept lasting) where
  refl s := refl_of (World.Follows R kept lasting) s.world
  trans _ _ _ h h' := trans_of (World.Follows R kept lasting) h h'

/-- Of the documents only records change. -/
abbrev Held.KeepsRest {κ : Type} (R : ω → ω → Prop) : Held κ ω → Held κ ω → Prop :=
  Held.Follows R (fun key => SessionStore.isRecord key = false) fun _ => True

variable {kept lasting : String → Prop}

namespace Held

variable {κ : Type}

theorem inWorld_keeps {x : Act (World ω) α} (hx : x.Keeps (World.Follows R kept lasting)) :
    (inWorld x : Act (Held κ ω) α).Keeps (Follows R kept lasting) :=
  hx.zoom fun _ _ h => h

theorem getOwn_keeps [IsPreorder ω R] :
    (getOwn : Act (Held κ ω) κ).Keeps (Follows R kept lasting) :=
  Act.Keeps.get.bind fun _ => Act.Keeps.pure _

theorem setOwn_keeps [IsPreorder ω R] (own : κ) :
    (setOwn own : Act (Held κ ω) Unit).Keeps (Follows R kept lasting) :=
  Act.Keeps.modify fun s => refl_of (World.Follows R kept lasting) s.world

end Held

variable [IsPreorder ω R]

namespace DeviceDirectory

theorem fetch_keeps (hh : host.Keeps R) (wanted : List Jid) :
    (fetch host wanted).Keeps (Held.Follows R kept lasting) :=
  (Held.inWorld_keeps (World.noiseBytes_keeps hh 16)).bind fun _ =>
    (Held.inWorld_keeps (World.query_keeps hh _)).bind fun _ =>
      (Act.Keeps.ofExcept _).bind fun _ =>
        Held.getOwn_keeps.bind fun _ => (Held.setOwn_keeps _).bind fun _ => Act.Keeps.pure _

theorem resolve_keeps (hh : host.Keeps R) (credentials : Credentials) (jids : List Jid)
    (useCache ignoreZero : Bool) :
    (resolve host credentials jids useCache ignoreZero).Keeps (Held.Follows R kept lasting) := by
  have answered : ∀ known : DeviceCache, ∀ wanted : List Jid,
      ∀ k : List (Jid × List DeviceEntry) → Except Error (List DeviceEntry),
      (if wanted = [] then do Act.ofExcept (k (← pure []))
        else do Act.ofExcept (k (← fetch host wanted)) :
          Act (Held DeviceCache ω) (List DeviceEntry)).Keeps (Held.Follows R kept lasting) :=
    fun known wanted k => .ite ((Act.Keeps.pure []).bind fun _ => .ofExcept _)
      ((fetch_keeps hh wanted).bind fun _ => .ofExcept _)
  unfold resolve
  exact .ite (Held.getOwn_keeps.bind fun known => answered known _ _)
    ((Act.Keeps.pure ∅).bind fun known => answered known _ _)

end DeviceDirectory

namespace GroupDirectory

theorem fetch_keeps (hh : host.Keeps R) (group : Jid) :
    (fetch host group).Keeps (Held.Follows R kept lasting) :=
  (Held.inWorld_keeps (World.query_keeps hh _)).bind fun _ =>
    (Act.Keeps.ofExcept _).bind fun _ =>
      Held.getOwn_keeps.bind fun _ => (Held.setOwn_keeps _).bind fun _ => Act.Keeps.pure _

theorem metadata_keeps (hh : host.Keeps R) (group : Jid) (useCache : Bool) :
    (metadata host group useCache).Keeps (Held.Follows R kept lasting) := by
  refine Held.getOwn_keeps.bind fun cache => ?_
  split
  · exact Act.Keeps.pure _
  · exact fetch_keeps hh group

end GroupDirectory

namespace Directories

/-- Caches and records come and go, and the sender-key flags of every group stay. -/
def Steady (R : ω → ω → Prop) (d d' : Directories ω) : Prop :=
  SenderKeyMemory.Steady R ⟨d.memory, d.world⟩ ⟨d'.memory, d'.world⟩

instance : IsPreorder (Directories ω) (Steady R) where
  refl _ := refl_of (SenderKeyMemory.Steady R) _
  trans _ _ _ h h' := trans_of (SenderKeyMemory.Steady R) h h'

omit [IsPreorder ω R] in
theorem inWorld_keeps {x : Act (World ω) α} (hx : x.Keeps (World.KeepsRest R)) :
    (inWorld x).Keeps (Steady R) :=
  hx.zoom fun d _ h => SenderKeyMemory.Steady.of_world d.memory h

omit [IsPreorder ω R] in
theorem inDevices_keeps {x : Act (Held DeviceCache ω) α} (hx : x.Keeps (Held.KeepsRest R)) :
    (inDevices x).Keeps (Steady R) :=
  hx.zoom fun d _ h => SenderKeyMemory.Steady.of_world d.memory h

omit [IsPreorder ω R] in
theorem inGroups_keeps {x : Act (Held GroupCache ω) α} (hx : x.Keeps (Held.KeepsRest R)) :
    (inGroups x).Keeps (Steady R) :=
  hx.zoom fun d _ h => SenderKeyMemory.Steady.of_world d.memory h

omit [IsPreorder ω R] in
theorem inMemory_keeps {x : Act (Held SenderKeyMemory ω) α}
    (hx : x.Keeps (SenderKeyMemory.Steady R)) : (inMemory x).Keeps (Steady R) :=
  hx.zoom fun _ _ h => h

/-- Whatever is done in the world keeps a relation, as long as of the documents only records
change. -/
structure KeptInWorld (host : Host ω) (R : ω → ω → Prop)
    (K : Directories ω → Directories ω → Prop) : Prop where
  keeps : host.Keeps R
  world : ∀ {α : Type} {x : Act (World ω) α}, x.Keeps (World.KeepsRest R) → (inWorld x).Keeps K

/-- Every look that a preparation takes at what is remembered keeps a relation too. -/
structure KeptInParts (host : Host ω) (R : ω → ω → Prop)
    (K : Directories ω → Directories ω → Prop) : Prop extends KeptInWorld host R K where
  devices : ∀ credentials jids useCache ignoreZero,
    (inDevices (DeviceDirectory.resolve host credentials jids useCache ignoreZero)).Keeps K
  groups : ∀ group useCache, (inGroups (GroupDirectory.metadata host group useCache)).Keeps K
  memory : ∀ group jids, (inMemory (SenderKeyMemory.missing host group jids)).Keeps K

theorem Steady.inParts (hh : host.Keeps R) : KeptInParts host R (Steady R) where
  keeps := hh
  world := inWorld_keeps
  devices _ _ _ _ := inDevices_keeps (DeviceDirectory.resolve_keeps hh _ _ _ _)
  groups _ _ := inGroups_keeps (GroupDirectory.metadata_keeps hh _ _)
  memory _ _ := inMemory_keeps (SenderKeyMemory.missing_keeps hh _ _)

end Directories

namespace Preparation

variable {K : Directories ω → Directories ω → Prop} [IsPreorder (Directories ω) K]

section World

variable (hk : Directories.KeptInWorld host R K)
include hk

omit [IsPreorder ω R] in
theorem plaintext_keeps (m : Message) : (plaintext host m).Keeps K :=
  (hk.world (World.below_keeps hk.keeps 16)).bind fun _ => Act.Keeps.pure _

theorem encryptFor_keeps (bytes : List UInt8) (jid : Jid) : (encryptFor host bytes jid).Keeps K :=
  (hk.world (Repository.encrypt_keeps hk.keeps (SessionStore.not_rest_sessionKey _) bytes)).bind
    fun _ => Act.Keeps.pure _

theorem ensureSessions_keeps (jids : List Jid) : (ensureSessions host jids).Keeps K :=
  (hk.world (Sessions.ensure_keeps hk.keeps jids false)).bind fun _ => Act.Keeps.pure _

theorem encryptAll_keeps (m : Message) (jids : List Jid) : (encryptAll host m jids).Keeps K :=
  .ite (Act.Keeps.pure []) ((plaintext_keeps hk m).bind fun bytes =>
    Act.Keeps.mapM (encryptFor_keeps hk bytes) jids)

theorem distribute_keeps (group : Jid) (distribution : List UInt8) (jids : List Jid) :
    (distribute host group distribution jids).Keeps K :=
  .ite (Act.Keeps.pure []) ((ensureSessions_keeps hk jids).bind fun _ =>
    (plaintext_keeps hk _).bind fun bytes => Act.Keeps.mapM (encryptFor_keeps hk bytes) jids)

end World

variable (hk : Directories.KeptInParts host R K)
include hk

omit [IsPreorder ω R] in
theorem resolve_keeps (credentials : Credentials) (o : Outgoing) (jids : List Jid)
    (ignoreZero : Bool) : (resolve host credentials o jids ignoreZero).Keeps K :=
  (hk.devices _ _ _ _).bind fun _ => Act.Keeps.ofExcept _

omit [IsPreorder ω R] in
theorem members_keeps (credentials : Credentials) (o : Outgoing) :
    (members host credentials o).Keeps K :=
  .ite ((hk.groups _ _).bind fun _ => Act.Keeps.pure _) (Act.Keeps.pure _)

omit [IsPreorder ω R] in
theorem groupTargets_keeps (credentials : Credentials) (o : Outgoing) (members : List Jid) :
    (groupTargets host credentials o members).Keeps K := by
  unfold groupTargets
  split
  · exact Act.Keeps.pure _
  · exact resolve_keeps hk credentials o members false

omit [IsPreorder ω R] in
theorem uninformed_keeps (o : Outgoing) (targets : List Jid) :
    (uninformed host o targets).Keeps K := by
  unfold uninformed
  split
  · exact Act.Keeps.pure _
  · exact hk.memory _ _

theorem gather_keeps (credentials : Credentials) (o : Outgoing) :
    (gather host credentials o).Keeps K :=
  (members_keeps hk credentials o).bind fun _ =>
    (groupTargets_keeps hk credentials o _).bind fun _ =>
      (plaintext_keeps hk.toKeptInWorld _).bind fun _ =>
        (hk.world (Repository.encryptGroup_keeps hk.keeps
          (SessionStore.not_rest_senderKeyKey _) _)).bind fun _ =>
          (uninformed_keeps hk o _).bind fun _ =>
            (distribute_keeps hk.toKeptInWorld _ _ _).bind fun _ => Act.Keeps.pure _

omit [IsPreorder ω R] in
theorem pairwiseTargets_keeps (credentials : Credentials) (o : Outgoing) :
    (pairwiseTargets host credentials o).Keeps K := by
  unfold pairwiseTargets
  split
  · exact Act.Keeps.pure _
  · exact (resolve_keeps hk credentials o _ true).bind fun _ => Act.Keeps.pure _

theorem pairwise_keeps (credentials : Credentials) (o : Outgoing) :
    (pairwise host credentials o).Keeps K :=
  (pairwiseTargets_keeps hk credentials o).bind fun _ =>
    (ensureSessions_keeps hk.toKeptInWorld _).bind fun _ =>
      (encryptAll_keeps hk.toKeptInWorld _ _).bind fun _ =>
        (encryptAll_keeps hk.toKeptInWorld _ _).bind fun _ => Act.Keeps.pure _

end Preparation

omit [IsPreorder ω R] in
/-- The three ways to prepare a stanza. -/
theorem Outgoing.prepare_cases (host : Host ω) (credentials : Credentials) (o : Outgoing) :
    o.kind.usesSenderKey = true ∧
        o.prepare host credentials = Preparation.group host credentials o ∨
    o.kind = .newsletter ∧
      o.prepare host credentials = pure (Preparation.newsletter credentials o) ∨
    (o.kind = .individual ∨ o.kind = .lid) ∧
      o.prepare host credentials = Preparation.pairwise host credentials o := by
  unfold prepare
  cases o.kind <;> simp [DestinationKind.usesSenderKey]

omit [IsPreorder ω R] in
theorem Outgoing.prepare_of_usesSenderKey {o : Outgoing} (h : o.kind.usesSenderKey = true)
    (host : Host ω) (credentials : Credentials) :
    o.prepare host credentials = Preparation.group host credentials o := by
  rcases o.prepare_cases host credentials with ⟨_, way⟩ | ⟨kind, _⟩ | ⟨kind | kind, _⟩
  · exact way
  all_goals
    rw [kind] at h
    cases h

omit [IsPreorder ω R] in
theorem Outgoing.informed_of_keyless {credentials : Credentials} {o : Outgoing}
    {d d' : Directories ω} {prepared : Prepared} (h : o.kind.usesSenderKey = false)
    (hp : o.prepare host credentials d = .ok prepared d') : prepared.informed = [] := by
  rcases o.prepare_cases host credentials with ⟨keyed, _⟩ | ⟨_, way⟩ | ⟨_, way⟩
  · rw [h] at keyed
    cases keyed
  · rw [way] at hp
    cases hp
    rfl
  · rw [way] at hp
    obtain ⟨_, _, _, hp⟩ := Act.bind_eq_ok.mp hp
    obtain ⟨_, _, _, hp⟩ := Act.bind_eq_ok.mp hp
    obtain ⟨_, _, _, hp⟩ := Act.bind_eq_ok.mp hp
    obtain ⟨_, _, _, hp⟩ := Act.bind_eq_ok.mp hp
    cases hp
    rfl

omit [IsPreorder ω R] in
theorem Outgoing.prepare_of_pairwise {o : Outgoing} (h : o.kind = .individual ∨ o.kind = .lid)
    (host : Host ω) (credentials : Credentials) :
    o.prepare host credentials = Preparation.pairwise host credentials o := by
  unfold prepare
  rcases h with h | h <;> rw [h]

theorem Outgoing.prepare_keeps {K : Directories ω → Directories ω → Prop}
    [IsPreorder (Directories ω) K] (hk : Directories.KeptInParts host R K)
    (credentials : Credentials) (o : Outgoing) : (o.prepare host credentials).Keeps K := by
  rcases o.prepare_cases host credentials with ⟨_, h⟩ | ⟨_, h⟩ | ⟨_, h⟩ <;> rw [h]
  · exact (Preparation.gather_keeps hk credentials o).bind fun _ => Act.Keeps.pure _
  · exact Act.Keeps.pure _
  · exact Preparation.pairwise_keeps hk credentials o

theorem Outgoing.prepare_steady (hh : host.Keeps R) (credentials : Credentials) (o : Outgoing) :
    (o.prepare host credentials).Keeps (Directories.Steady R) :=
  prepare_keeps (Directories.Steady.inParts hh) credentials o

end Fanout
