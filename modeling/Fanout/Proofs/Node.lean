import Fanout.Node
import Fanout.Proofs.Except

namespace Fanout.Node

/-- The node that tags lead to, one level each. -/
def at? : Node → List String → Option Node
  | n, [] => some n
  | n, tag :: path => (n.child? tag).bind (at? · path)

/-- The users that a node lists, by the addresses it gives for them. -/
def users (n : Node) : List (Option String) := (n.childrenTagged "user").map (·.attr? "jid")

theorem attr?_withAttr (n : Node) (key value name : String) :
    (n.withAttr key value).attr? name = if key = name then some value else n.attr? name :=
  Dict.find?_insert n.attrs key name value

theorem attr?_named (tag name : String) : (named tag).attr? name = none := rfl

@[simp] theorem attr?_withChildren (n : Node) (ns : List Node) (name : String) :
    (n.withChildren ns).attr? name = n.attr? name := rfl

theorem attr_eq_ok_iff {n : Node} {key value : String} :
    n.attr key = .ok value ↔ n.attr? key = some value := by
  unfold attr
  cases n.attr? key <;> simp

theorem child_eq_ok_iff {n c : Node} {tag : String} :
    n.child tag = .ok c ↔ n.child? tag = some c := by
  unfold child
  cases n.child? tag <;> simp

theorem childBytes_eq_ok_iff {n : Node} {tag : String} {bytes : List UInt8} :
    n.childBytes tag = .ok bytes ↔ n.childBytes? tag = some bytes := by
  unfold childBytes
  cases n.childBytes? tag <;> simp

theorem checkError_eq_ok_iff {n : Node} : n.checkError = .ok () ↔ n.child? "error" = none := by
  unfold checkError
  cases n.child? "error" <;> simp

section Fails

variable {β : Type} {n : Node}

theorem attr_bind_fails_iff {key : String} {f : String → Except Error β} :
    (∃ e, n.attr key >>= f = .error e) ↔
      n.attr? key = none ∨ ∃ value, n.attr? key = some value ∧ ∃ e, f value = .error e := by
  unfold attr
  cases n.attr? key <;> simp [bind, Except.bind]

theorem child_bind_fails_iff {tag : String} {f : Node → Except Error β} :
    (∃ e, n.child tag >>= f = .error e) ↔
      n.child? tag = none ∨ ∃ c, n.child? tag = some c ∧ ∃ e, f c = .error e := by
  unfold child
  cases n.child? tag <;> simp [bind, Except.bind]

theorem checkError_bind_fails_iff {f : Unit → Except Error β} :
    (∃ e, n.checkError >>= f = .error e) ↔
      (∃ c, n.child? "error" = some c) ∨ ∃ e, f () = .error e := by
  unfold checkError
  cases n.child? "error" <;> simp [bind, Except.bind]

end Fails

/-- A list that holds nothing but nodes of one tag holds all of them under that tag. -/
theorem childrenTagged_of_forall {n : Node} {tag : String} (h : ∀ c ∈ n.children, c.tag = tag) :
    n.childrenTagged tag = n.children :=
  List.filter_eq_self.mpr fun c hc => decide_eq_true (h c hc)

theorem users_listing {α : Type} (n : Node) (name : α → String) (listed : List α) :
    (n.withChildren (listed.map fun a => (named "user").withAttr "jid" (name a))).users =
      listed.map fun a => some (name a) := by
  have all : ∀ c ∈ listed.map fun a => (named "user").withAttr "jid" (name a), c.tag = "user" := by
    intro c mem
    obtain ⟨a, _, rfl⟩ := List.mem_map.mp mem
    rfl
  unfold users
  rw [childrenTagged_of_forall (by exact all)]
  exact List.map_map.trans (List.map_congr_left fun a _ => attr?_withAttr _ _ _ _)

end Fanout.Node
