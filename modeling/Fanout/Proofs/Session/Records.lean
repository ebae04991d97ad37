import Fanout.Proofs.Session.Isolation
import Fanout.Proofs.Session.Operation

namespace Fanout.Repository

open SessionStore

deriving instance DecidableEq for Place

variable {ω : Type} {host : Host ω} {w w' : World ω} {documents : Documents}

namespace Place

/-- The address is one of a device, and the name is one of a device in a group. -/
inductive Named : Place → Prop
  | session (jid : Jid) : Named (.session jid.protocolAddress)
  | senderKey (group sender : Jid) : Named (.senderKey (.of group sender))

theorem Named.eq_of_key_eq {place other : Place} (named : place.Named) (named' : other.Named)
    (same : place.key = other.key) : place = other := by
  cases named with
  | session jid =>
    cases named' with
    | session jid' => exact congrArg Place.session (sessionKey_injective same)
    | senderKey group sender => exact absurd same (sessionKey_ne_senderKeyKey _ _)
  | senderKey group sender =>
    cases named' with
    | session jid => exact absurd same.symm (sessionKey_ne_senderKeyKey _ _)
    | senderKey group' sender' => exact congrArg Place.senderKey (of_eq_of_senderKeyKey_eq same)

def delete (host : Host ω) : Place → Act (World ω) Unit
  | session address => deleteSession host address
  | senderKey name => deleteSenderKey host name

theorem delete_eq_del (host : Host ω) (place : Place) :
    place.delete host = Storage.del host place.key := by
  cases place <;> rfl

end Place

/-- A record is written or deleted. -/
inductive Change where
  | store (place : Place) (data : List UInt8)
  | delete (place : Place)

namespace Change

def place : Change → Place
  | store place _ => place
  | delete place => place

def run (host : Host ω) : Change → Act (World ω) Unit
  | store place data => place.save host data
  | delete place => place.delete host

/-- What a change leaves under the place that it is about. -/
def record : Change → Option (List UInt8)
  | store _ data => some data
  | delete _ => none

/-- What a change leaves under each place. -/
def leave (held : Place → Option (List UInt8)) (change : Change) : Place → Option (List UInt8) :=
  fun other => if other = change.place then change.record else held other

/-- What is left under each place by some changes, one after the other: the last that was stored
since the last deletion. -/
def held (changes : List Change) : Place → Option (List UInt8) :=
  changes.foldl leave fun _ => none

theorem held_concat (changes : List Change) (change : Change) :
    held (changes ++ [change]) = leave (held changes) change :=
  List.foldl_concat ..

/-- What a change does to the documents: one is written or goes, the others stay. -/
theorem run_of_reliable (reliable : host.Reliable) (change : Change) (w : World ω) :
    ∃ w', change.run host w = .ok () w' ∧
      w'.documents.find? change.place.key = change.record.map Place.text ∧
      ∀ key, key ≠ change.place.key → w'.documents.find? key = w.documents.find? key := by
  cases change with
  | store place data =>
    rcases Storage.put_cases host place.key (Place.text data) w with
      ⟨w', stored, wrote⟩ | ⟨_, _, _, _, refused⟩
    · rw [← Place.save_eq_put] at stored
      refine ⟨w', stored, ?_, fun key (other : key ≠ place.key) => ?_⟩
      · rw [wrote, Change.place, Dict.find?_insert, if_pos rfl]
        rfl
      · rw [wrote, Dict.find?_insert, if_neg other.symm]
    · exact absurd reliable refused
  | delete place =>
    rcases Storage.del_cases host place.key w with ⟨w', deleted, gone⟩ | ⟨_, _, _, _, refused⟩
    · rw [← Place.delete_eq_del] at deleted
      refine ⟨w', deleted, ?_, fun key (other : key ≠ place.key) => ?_⟩
      · rw [gone, Change.place, Dict.find?_erase, if_pos rfl]
        rfl
      · rw [gone, Dict.find?_erase, if_neg other.symm]
    · exact absurd reliable refused

/-- The documents of all places that devices give rise to are the texts of what they hold. -/
def Mirrored (held : Place → Option (List UInt8)) (documents : Documents) : Prop :=
  ∀ place, place.Named → documents.find? place.key = (held place).map Place.text

/-- A change at one place reaches no other: their keys differ. -/
theorem mirrored_of_run (reliable : host.Reliable) {held : Place → Option (List UInt8)}
    {change : Change} (named : change.place.Named) (mirrored : Mirrored held w.documents) :
    ∃ w', change.run host w = .ok () w' ∧ Mirrored (leave held change) w'.documents := by
  obtain ⟨w', done, here, elsewhere⟩ := run_of_reliable reliable change w
  refine ⟨w', done, fun other named' => ?_⟩
  by_cases same : other = change.place
  · rw [leave, if_pos same, same, here]
  · have apart : other.key ≠ change.place.key :=
      fun keys => same (named'.eq_of_key_eq named keys)
    rw [leave, if_neg same, elsewhere _ apart]
    exact mirrored other named'

theorem mirrored_of_forM (reliable : host.Reliable) {changes : List Change}
    (named : ∀ change ∈ changes, change.place.Named) {held : Place → Option (List UInt8)}
    (mirrored : Mirrored held w.documents) :
    ∃ w', (changes.forM (run host) : Act _ _) w = .ok () w' ∧
      Mirrored (changes.foldl leave held) w'.documents := by
  induction changes generalizing held w with
  | nil => exact ⟨w, rfl, mirrored⟩
  | cons change changes ih =>
    obtain ⟨u, first, there⟩ := mirrored_of_run reliable (named change List.mem_cons_self) mirrored
    obtain ⟨w', rest, after⟩ :=
      ih (fun later member => named later (List.mem_cons_of_mem _ member)) there
    have step : ((change :: changes).forM (run host) : Act _ _) w =
        (change.run host >>= fun _ => changes.forM (run host)) w := rfl
    exact ⟨w', step.trans ((Act.bind_of_ok first).trans rest), after⟩

end Change

/-- What the store answers when it is asked for each session and each sender key. -/
structure Finds (host : Host ω) (w : World ω) (held : Place → Option (List UInt8)) : Prop where
  session : ∀ jid : Jid, ∃ s, loadSession host jid.protocolAddress w =
    .ok ((held (.session jid.protocolAddress)).map .mk) ⟨w.documents, s⟩
  hasSession : ∀ jid : Jid, ∃ s, SessionStore.hasSession host jid.protocolAddress w =
    .ok (held (.session jid.protocolAddress)).isSome ⟨w.documents, s⟩
  senderKey : ∀ group sender : Jid, ∃ s, loadSenderKey host (.of group sender) w =
    .ok ((held (.senderKey (.of group sender))).map .mk) ⟨w.documents, s⟩

theorem Change.Mirrored.finds (reliable : host.Reliable) {held : Place → Option (List UInt8)}
    (mirrored : Mirrored held w.documents) : Finds host w held where
  session jid := Storage.load_of_reads reliable.reads
    (Place.peek?_of_document Place.session_of_text (mirrored _ (.session jid)))
  hasSession jid := by
    have there := mirrored _ (.session jid)
    have allowed : Storage.allow host (.get (sessionKey jid.protocolAddress)) w = .ok () _ :=
      Storage.allow_eq_ok.mpr ⟨reliable _ _, rfl⟩
    have got := Storage.get_eq_ok.mpr ⟨allowed, there⟩
    refine ⟨(host.refuses (.get (sessionKey jid.protocolAddress)) w.host).2, ?_⟩
    rw [SessionStore.hasSession, Act.bind_of_ok got, Option.isSome_map]
    rfl
  senderKey group sender := Storage.load_of_reads reliable.reads
    (Place.peek?_of_document Place.senderKey_of_text (mirrored _ (.senderKey group sender)))

/-- Over a store without records, whatever is stored and deleted: each session and each sender key
is found as it was stored last since its last deletion, and a change of one is seen at no other. -/
theorem found_as_stored_last (reliable : host.Reliable)
    (bare : ∀ place : Place, place.Named → w.documents.find? place.key = none)
    (changes : List Change) (named : ∀ change ∈ changes, change.place.Named) :
    ∃ w', (changes.forM (Change.run host) : Act _ _) w = .ok () w' ∧
      Finds host w' (Change.held changes) ∧
      ∀ change : Change, change.place.Named → ∃ u, change.run host w' = .ok () u ∧
        Finds host u (Change.held (changes ++ [change])) ∧
        ∀ other : Place, other.Named → other ≠ change.place →
          Change.held (changes ++ [change]) other = Change.held changes other ∧
            u.documents.find? other.key = w'.documents.find? other.key := by
  have empty : Change.Mirrored (fun _ => none) w.documents := bare
  obtain ⟨w', done, mirrored⟩ := Change.mirrored_of_forM reliable named empty
  refine ⟨w', done, mirrored.finds reliable, fun change named' => ?_⟩
  obtain ⟨u, changed, after⟩ := Change.mirrored_of_run reliable named' mirrored
  have next : Change.held (changes ++ [change]) = Change.leave (Change.held changes) change :=
    Change.held_concat changes change
  refine ⟨u, changed, next ▸ after.finds reliable, fun other otherNamed apart => ?_⟩
  have kept : Change.leave (Change.held changes) change other = Change.held changes other :=
    if_neg apart
  refine ⟨next ▸ kept, ?_⟩
  rw [after other otherNamed, mirrored other otherNamed]
  exact congrArg _ kept

/-- The session with our friend is deleted, and our friend's key of the chat stays. -/
theorem friend_found_as_stored_last :
    ∃ w s t, loadSession Stage.smooth Stage.friend.protocolAddress w = .ok none ⟨w.documents, s⟩ ∧
      loadSenderKey Stage.smooth (.of Stage.chat Stage.friend) w =
        .ok (some ⟨[4]⟩) ⟨w.documents, t⟩ := by
  let session : Place := .session Stage.friend.protocolAddress
  let senderKey : Place := .senderKey (.of Stage.chat Stage.friend)
  have named : session.Named ∧ senderKey.Named := ⟨.session _, .senderKey _ _⟩
  let w : World Stage := ⟨∅, Stage.opening⟩
  have reliable : Stage.smooth.Reliable := fun _ _ => rfl
  have bare : ∀ place : Place, place.Named → w.documents.find? place.key = none := fun _ _ => rfl
  let changes : List Change :=
    [.store session [1, 2], .store senderKey [4], .delete session]
  have all_named : ∀ change ∈ changes, change.place.Named := by
    simp only [changes, List.mem_cons, List.not_mem_nil, or_false]
    rintro change (rfl | rfl | rfl)
    · exact named.1
    · exact named.2
    · exact named.1
  obtain ⟨w', _, finds, _⟩ := found_as_stored_last reliable bare changes all_named
  obtain ⟨s, loaded⟩ := finds.session Stage.friend
  obtain ⟨t, loaded'⟩ := finds.senderKey Stage.chat Stage.friend
  exact ⟨w', s, t, loaded, loaded'⟩

end Fanout.Repository
