import Fanout.Devices.Query
import Fanout.Proofs.Except
import Fanout.Proofs.Jid.Spelling
import Fanout.Proofs.Node

namespace Fanout.DeviceQuery

/-- The primary device can always be used, any other one only with a key index. -/
def isUsable (d : Listed) : Bool := d.1 = 0 ∨ d.2.isSome = true

def entry (jid : Jid) (d : Listed) : DeviceEntry := ⟨jid.user, d.1, jid.server⟩

/-- The devices of a user that come out of an answer. -/
def usable (jid : Jid) (devices : List Listed) : List DeviceEntry :=
  (devices.filter isUsable).map (entry jid)

theorem readDeviceId_repr (jid : Jid) (id : UInt16) :
    readDeviceId jid id.toNat.repr = .ok id := by
  have digits : id.toNat.repr.toList = Numeral.digits id.toNat := by
    simp [Numeral.digits, Nat.repr]
  rw [readDeviceId, digits, Jid.readDevice?_digits]

theorem attr?_deviceNode (d : Listed) :
    (deviceNode d).attr? "id" = some d.1.toNat.repr ∧
      (deviceNode d).attr? "key-index" = d.2.map Nat.repr := by
  obtain ⟨id, index⟩ := d
  cases index <;> simp [deviceNode, Node.attr?_withAttr, Node.attr?_named]

theorem readDevice_node (jid : Jid) (d : Listed) :
    readDevice jid (deviceNode d) = .ok (if isUsable d then some (entry jid d) else none) := by
  obtain ⟨numbered, keyed⟩ := attr?_deviceNode d
  refine except_bind_eq_ok.mpr ⟨_, Node.attr_eq_ok_iff.mpr numbered, ?_⟩
  refine except_bind_eq_ok.mpr ⟨d.1, readDeviceId_repr jid d.1, ?_⟩
  rw [keyed]
  obtain ⟨id, index⟩ := d
  by_cases primary : id = 0 <;> cases index <;> simp [isUsable, entry, primary] <;> rfl

theorem filterMap_usable (jid : Jid) (devices : List Listed) :
    (devices.map fun d => if isUsable d then some (entry jid d) else none).filterMap id =
      usable jid devices := by
  rw [List.filterMap_map, Function.id_comp, usable]
  induction devices with
  | nil => rfl
  | cons d devices ih => by_cases h : isUsable d = true <;> simp [h, ih]

theorem readUser_node (jid : Jid) (devices : List Listed) :
    readUser (listNode jid devices) = .ok (some (jid.withoutDevice, usable jid devices)) := by
  let list := (Node.named "device-list").withChildren (devices.map deviceNode)
  have named : (listNode jid devices).attr "jid" = .ok jid.encode := by
    refine Node.attr_eq_ok_iff.mpr ?_
    rw [listNode, Node.attr?_withChildren, userNode, Node.attr?_withAttr, if_pos rfl]
  have there : (listNode jid devices).child? "devices" =
      some ((Node.named "devices").withChildren [list]) := rfl
  have sound : ((Node.named "devices").withChildren [list]).child? "error" = none := rfl
  have listed : ((Node.named "devices").withChildren [list]).child? "device-list" = some list := rfl
  have tagged : list.childrenTagged "device" = devices.map deviceNode := by
    refine Node.childrenTagged_of_forall fun c hc => ?_
    obtain ⟨⟨id, index⟩, _, rfl⟩ := List.mem_map.mp hc
    cases index <;> rfl
  have read : (list.childrenTagged "device").mapM (readDevice jid.withoutDevice) =
      .ok (devices.map fun d => if isUsable d then some (entry jid d) else none) := by
    rw [tagged]
    exact mapM_map_of_read (readDevice_node jid.withoutDevice) devices
  refine except_bind_eq_ok.mpr ⟨_, named, except_bind_eq_ok.mpr ⟨_, jid.decode_encode, ?_⟩⟩
  simp only [there]
  refine except_bind_eq_ok.mpr ⟨(), Node.checkError_eq_ok_iff.mpr sound, ?_⟩
  refine except_bind_eq_ok.mpr ⟨list, Node.child_eq_ok_iff.mpr listed, ?_⟩
  refine except_bind_eq_ok.mpr ⟨_, read, ?_⟩
  rw [filterMap_usable]
  rfl

/-- Of what was sent, the usable devices of each user are read. -/
theorem parse_answer (users : List (Jid × List Listed)) :
    parse (answer users) = .ok (users.map fun u => (u.1.withoutDevice, usable u.1 u.2)) := by
  let list := (Node.named "list").withChildren (users.map fun u => listNode u.1 u.2)
  have sound : (answer users).child? "error" = none := rfl
  have there : (answer users).child? "usync" = some ((Node.named "usync").withChildren [list]) := rfl
  have listed : ((Node.named "usync").withChildren [list]).child? "list" = some list := rfl
  have tagged : list.childrenTagged "user" = users.map fun u => listNode u.1 u.2 := by
    refine Node.childrenTagged_of_forall fun c hc => ?_
    obtain ⟨u, _, rfl⟩ := List.mem_map.mp hc
    rfl
  have read : (list.childrenTagged "user").mapM readUser =
      .ok (users.map fun u => some (u.1.withoutDevice, usable u.1 u.2)) := by
    rw [tagged]
    refine mapM_map_of_read (fun u => ?_) users
    exact readUser_node u.1 u.2
  refine except_bind_eq_ok.mpr ⟨(), Node.checkError_eq_ok_iff.mpr sound, ?_⟩
  refine except_bind_eq_ok.mpr ⟨_, Node.child_eq_ok_iff.mpr there, ?_⟩
  refine except_bind_eq_ok.mpr ⟨list, Node.child_eq_ok_iff.mpr listed, ?_⟩
  refine except_bind_eq_ok.mpr ⟨_, read, ?_⟩
  rw [List.filterMap_map, Function.id_comp]
  exact congrArg Except.ok (congrFun List.filterMap_eq_map users)

/-- A device without a number that sixteen bits hold. -/
inductive DeviceRejected (n : Node) : Prop
  | unnumbered (none : n.attr? "id" = none)
  | misnumbered {raw : String} (given : n.attr? "id" = some raw)
    (other : ∀ numeral : Jid.DeviceNumeral, numeral.chars ≠ raw.toList)

/-- A list of devices that is an error, or is none, or has a device that cannot be read. -/
inductive DevicesRejected (devices : Node) : Prop
  | error {c : Node} (failed : devices.child? "error" = some c)
  | unlisted (none : devices.child? "device-list" = none)
  | device {list d : Node} (listed : devices.child? "device-list" = some list)
    (mem : d ∈ list.childrenTagged "device") (bad : DeviceRejected d)

/-- A user without a readable address, or with devices that cannot be read. A user without devices
is passed over. -/
inductive UserRejected (n : Node) : Prop
  | unnamed (none : n.attr? "jid" = none)
  | misnamed {raw : String} {e : Error} (given : n.attr? "jid" = some raw)
    (unread : Jid.decode raw = .error e)
  | devices {devices : Node} (there : n.child? "devices" = some devices)
    (bad : DevicesRejected devices)

/-- What makes an answer worth nothing. -/
inductive Rejected (answer : Node) : Prop
  | error {c : Node} (failed : answer.child? "error" = some c)
  | unanswered (none : answer.child? "usync" = none)
  | unlisted {usync : Node} (there : answer.child? "usync" = some usync)
    (none : usync.child? "list" = none)
  | user {usync list n : Node} (there : answer.child? "usync" = some usync)
    (listed : usync.child? "list" = some list) (mem : n ∈ list.childrenTagged "user")
    (bad : UserRejected n)

theorem readDeviceId_fails_iff {jid : Jid} {raw : String} :
    (∃ e, readDeviceId jid raw = .error e) ↔
      ∀ numeral : Jid.DeviceNumeral, numeral.chars ≠ raw.toList := by
  unfold readDeviceId
  cases read : Jid.readDevice? raw.toList with
  | none =>
    refine iff_of_true ⟨_, rfl⟩ fun numeral same => ?_
    rw [← same, Jid.DeviceNumeral.readDevice?_chars] at read
    cases read
  | some id =>
    obtain ⟨numeral, same⟩ := Jid.DeviceNumeral.exists_of_readDevice? read
    exact iff_of_false nofun fun other => other numeral same

theorem readDevice_fails_iff {jid : Jid} {n : Node} :
    (∃ e, readDevice jid n = .error e) ↔ DeviceRejected n := by
  have judged : ∀ id : UInt16, ¬∃ e, (if id ≠ 0 ∧ n.attr? "key-index" = none then pure none
      else pure (some ⟨jid.user, id, jid.server⟩) : Except Error (Option DeviceEntry)) =
        .error e := by
    intro id
    split <;> exact nofun
  rw [readDevice, Node.attr_bind_fails_iff]
  constructor
  · rintro (none | ⟨raw, given, failed⟩)
    · exact .unnumbered none
    · rcases except_bind_fails_iff.mp failed with other | ⟨id, _, failed⟩
      · exact .misnumbered given (readDeviceId_fails_iff.mp other)
      · exact absurd failed (judged id)
  · intro rejected
    cases rejected with
    | unnumbered none => exact .inl none
    | misnumbered given other =>
      have unread : ∃ e, readDeviceId jid _ = .error e := readDeviceId_fails_iff.mpr other
      exact .inr ⟨_, given, except_bind_fails_iff.mpr (.inl unread)⟩

theorem readDevices_fails_iff {jid : Jid} {devices : Node} :
    (∃ e, (do
      devices.checkError
      let list ← devices.child "device-list"
      let entries ← (list.childrenTagged "device").mapM (readDevice jid)
      return some (jid, entries.filterMap id) :
        Except Error (Option (Jid × List DeviceEntry))) = .error e) ↔
      DevicesRejected devices := by
  simp only [Node.checkError_bind_fails_iff, Node.child_bind_fails_iff, mapM_bind_pure_fails_iff,
    readDevice_fails_iff]
  constructor
  · rintro (⟨c, failed⟩ | none | ⟨list, listed, d, mem, bad⟩)
    · exact .error failed
    · exact .unlisted none
    · exact .device listed mem bad
  · intro rejected
    cases rejected with
    | error failed => exact .inl ⟨_, failed⟩
    | unlisted none => exact .inr (.inl none)
    | device listed mem bad => exact .inr (.inr ⟨_, listed, _, mem, bad⟩)

theorem readUser_fails_iff {n : Node} : (∃ e, readUser n = .error e) ↔ UserRejected n := by
  rw [readUser, Node.attr_bind_fails_iff]
  constructor
  · rintro (none | ⟨raw, given, failed⟩)
    · exact .unnamed none
    rcases except_bind_fails_iff.mp failed with ⟨e, unread⟩ | ⟨jid, _, failed⟩
    · exact .misnamed given unread
    cases there : n.child? "devices" with
    | none =>
      simp only [there] at failed
      obtain ⟨_, returned⟩ := failed
      cases returned
    | some devices =>
      simp only [there] at failed
      exact .devices there (readDevices_fails_iff.mp failed)
  · intro rejected
    cases rejected with
    | unnamed none => exact .inl none
    | misnamed given unread =>
      exact .inr ⟨_, given, except_bind_fails_iff.mpr (.inl ⟨_, unread⟩)⟩
    | devices there bad =>
      -- devices that cannot be read make the user unreadable whatever the address
      refine or_iff_not_imp_left.mpr fun named => ?_
      obtain ⟨raw, given⟩ := Option.ne_none_iff_exists'.mp named
      refine ⟨raw, given, ?_⟩
      cases decoded : Jid.decode raw with
      | error e => exact ⟨e, rfl⟩
      | ok jid =>
        refine except_bind_fails_iff.mpr (.inr ⟨jid, rfl, ?_⟩)
        simp only [there]
        exact readDevices_fails_iff.mpr bad

theorem parse_fails_iff {answer : Node} : (∃ e, parse answer = .error e) ↔ Rejected answer := by
  simp only [parse, Node.checkError_bind_fails_iff, Node.child_bind_fails_iff,
    mapM_bind_pure_fails_iff, readUser_fails_iff]
  constructor
  · rintro (⟨c, failed⟩ | none | ⟨usync, there, none | ⟨list, listed, n, mem, bad⟩⟩)
    · exact .error failed
    · exact .unanswered none
    · exact .unlisted there none
    · exact .user there listed mem bad
  · intro rejected
    cases rejected with
    | error failed => exact .inl ⟨_, failed⟩
    | unanswered none => exact .inr (.inl none)
    | unlisted there none => exact .inr (.inr ⟨_, there, .inl none⟩)
    | user there listed mem bad => exact .inr (.inr ⟨_, there, .inr ⟨_, listed, _, mem, bad⟩⟩)

/-- The answer about users of individual addresses gives back their usable devices, and an answer is
an error exactly if some part of it makes it worth nothing. -/
theorem answer_reads_back_or_fails :
    (∀ users : List (String × List Listed), (∀ u ∈ users, isUserName u.1 = true) →
      parse (answer (users.map fun u => (individual u.1, u.2))) =
        .ok (users.map fun u => (individual u.1,
          (u.2.filter isUsable).map fun d => ⟨u.1, d.1, .individual⟩))) ∧
      ∀ n : Node, (∃ e, parse n = .error e) ↔ Rejected n := by
  refine ⟨fun users named => ?_, fun n => parse_fails_iff⟩
  rw [parse_answer, List.map_map]
  refine congrArg Except.ok (List.map_congr_left fun u mem => ?_)
  have address : individual u.1 = Jid.ofUser u.1 .individual (named u mem) := by
    rw [individual, Jid.make, dif_pos (named u mem)]
  rw [Function.comp_apply, address]
  rfl

/-- One user is listed twice and another one in between; of six devices four come back. -/
theorem repeated_user_reads_back :
    parse (answer (([("1", [(0, none), (7, none), (7, some 3)]), ("2.x", []),
      ("1", [(65535, some 0), (4, none), (0, some 9)])] : List (String × List Listed)).map
        fun u => (individual u.1, u.2))) =
      .ok [(individual "1", [⟨"1", 0, .individual⟩, ⟨"1", 7, .individual⟩]),
        (individual "2.x", []),
        (individual "1", [⟨"1", 65535, .individual⟩, ⟨"1", 0, .individual⟩])] :=
  answer_reads_back_or_fails.1 _ (by decide)

end Fanout.DeviceQuery
