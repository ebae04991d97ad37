import Fanout.Proofs.Node
import Fanout.Relay.Outgoing

namespace Fanout

namespace Node

theorem findAllNodes_eq (wanted : String) (ns : List Node) :
    findAllNodes wanted ns = ns.flatMap (findAll wanted) := by
  induction ns with
  | nil => rfl
  | cons n ns ih => rw [findAllNodes, ih, List.flatMap_cons]

theorem findAll_of_ne {wanted : String} {n : Node} (h : n.tag ≠ wanted) :
    n.findAll wanted = n.children.flatMap (findAll wanted) := by
  obtain ⟨tag, attrs, content⟩ := n
  have : tag ≠ wanted := h
  cases content with
  | empty => simp [findAll, findAllContent, children, Node.content, this]
  | bytes => simp [findAll, findAllContent, children, Node.content, this]
  | nodes ns => simp [findAll, findAllContent, children, Node.content, this, findAllNodes_eq]

theorem findAll_of_children_eq_nil {n : Node} (h : n.children = []) :
    n.findAll n.tag = [n] := by
  obtain ⟨tag, attrs, content⟩ := n
  cases content with
  | empty => simp [findAll, findAllContent, Node.tag]
  | bytes => simp [findAll, findAllContent, Node.tag]
  | nodes ns =>
    have : ns = [] := h
    simp [findAll, findAllContent, findAllNodes, Node.tag, this]

end Node

namespace Stanza

variable (envelope : Envelope) (mediaType : Option String) (count : Option UInt32)

theorem tag_encNode : (encNode envelope mediaType count).tag = "enc" := by
  cases mediaType <;> cases count <;> rfl

theorem bytes?_encNode : (encNode envelope mediaType count).bytes? = some envelope.body := rfl

theorem children_encNode : (encNode envelope mediaType count).children = [] := rfl

theorem attr?_encNode_type :
    (encNode envelope mediaType count).attr? "type" = some envelope.kind.text := by
  change (withCount count (withMediaType mediaType
    (((Node.named "enc").withAttr "v" "2").withAttr "type" envelope.kind.text))).attr? "type" = _
  cases mediaType <;> cases count <;>
    simp [withCount, withMediaType, Node.attr?_withAttr]

theorem attr?_encNode_count :
    (encNode envelope mediaType count).attr? "count" = count.map fun count => count.toNat.repr := by
  change (withCount count (withMediaType mediaType
    (((Node.named "enc").withAttr "v" "2").withAttr "type" envelope.kind.text))).attr? "count" = _
  cases mediaType <;> cases count <;>
    simp [withCount, withMediaType, Node.attr?_withAttr, Node.attr?_named]

theorem attr?_encNode_type_eq_skmsg :
    (encNode envelope mediaType count).attr? "type" = some "skmsg" ↔ envelope.kind = .skmsg := by
  rw [attr?_encNode_type]
  cases envelope.kind <;> simp [CiphertextKind.text]

theorem findAll_encNode : (encNode envelope mediaType count).findAll "enc" =
    [encNode envelope mediaType count] := by
  have alone := Node.findAll_of_children_eq_nil (children_encNode envelope mediaType count)
  rwa [tag_encNode] at alone

theorem findAll_toNode (c : DeviceCiphertext) :
    (toNode mediaType count c).findAll "enc" = [encNode c.envelope mediaType count] := by
  rw [Node.findAll_of_ne (by simp [toNode, Node.withChildren, Node.withContent, Node.withAttr,
    Node.withAttrs, Node.named, Node.tag])]
  exact (List.flatMap_singleton _ _).trans (findAll_encNode c.envelope mediaType count)

theorem findAll_participantsNode (ciphertexts : List DeviceCiphertext) :
    (participantsNode ciphertexts mediaType count).findAll "enc" =
      ciphertexts.map fun c => encNode c.envelope mediaType count := by
  rw [Node.findAll_of_ne (by simp [participantsNode, Node.withChildren, Node.withContent,
    Node.named, Node.tag])]
  change (ciphertexts.map (toNode mediaType count)).flatMap (Node.findAll "enc") = _
  induction ciphertexts with
  | nil => rfl
  | cons c cs ih => simp [findAll_toNode, ih]

theorem attr?_toNode (c : DeviceCiphertext) :
    (toNode mediaType count c).attr? "jid" = some c.jid.encode := by
  change ((Node.named "to").withAttr "jid" c.jid.encode).attr? "jid" = _
  simp [Node.attr?_withAttr]

theorem children_toNode (c : DeviceCiphertext) :
    (toNode mediaType count c).children = [encNode c.envelope mediaType count] := rfl

end Stanza

/-- The nodes under which a stanza lists the devices that it has ciphertexts for. -/
def Node.recipients (n : Node) : List Node :=
  ((n.child? "participants").map fun p => p.childrenTagged "to").getD []

namespace Stanza.Draft

theorem attr?_build_id (d : Draft) (identity : List UInt8) :
    (d.build identity).attr? "id" = some d.id := by
  change d.finalAttrs.find? "id" = some d.id
  simp [finalAttrs, Dict.find?_insert]

theorem tag_build (d : Draft) (identity : List UInt8) : (d.build identity).tag = "message" := rfl

theorem children_build (d : Draft) (identity : List UInt8) :
    (d.build identity).children = d.parts.filterMap Part.node? ++
      if d.parts.any Part.opensSession then [(Node.named "device-identity").withBytes identity]
      else [] := by
  rw [build]
  generalize d.parts.filterMap Part.node? ++ _ = content
  cases content <;> simp [Node.children, Node.content]

theorem child?_build {tag : String} (d : Draft) (identity : List UInt8)
    (h : tag ≠ "device-identity") :
    (d.build identity).child? tag = (d.parts.filterMap Part.node?).find? (·.tag = tag) := by
  rw [Node.child?, children_build, List.find?_append]
  split
  next =>
    rw [List.find?_singleton]
    have other : ((Node.named "device-identity").withBytes identity).tag ≠ tag := Ne.symm h
    simp [other]
  next => simp

theorem findAll_build (d : Draft) (identity : List UInt8) :
    (d.build identity).findAll "enc" =
      (d.parts.filterMap Part.node?).flatMap (Node.findAll "enc") := by
  rw [Node.findAll_of_ne (by simp [tag_build]), children_build, List.flatMap_append]
  split
  next =>
    have none : ((Node.named "device-identity").withBytes identity).findAll "enc" = [] := by
      rw [Node.findAll_of_ne (by simp [Node.withBytes, Node.withContent, Node.named, Node.tag])]
      rfl
    simp [none]
  next => simp

variable {d : Draft} {ciphertexts : List DeviceCiphertext} {mediaType : Option String}
  {count : Option UInt32} {rest : List Part}

/-- A draft whose first part alone lists devices. -/
theorem child?_participants (identity : List UInt8)
    (h : d.parts = .participants ciphertexts mediaType count :: rest)
    (hr : ∀ part ∈ rest, ∀ n, part.node? = some n → n.tag ≠ "participants") :
    (d.build identity).child? "participants" =
      if ciphertexts = [] then none else some (participantsNode ciphertexts mediaType count) := by
  have others : (rest.filterMap Part.node?).find? (·.tag = "participants") = none := by
    rw [List.find?_eq_none]
    intro n hn
    obtain ⟨part, hp, hn⟩ := List.mem_filterMap.mp hn
    simpa using hr part hp n hn
  rw [child?_build d identity (by decide), h]
  cases ciphertexts with
  | nil => simpa [Part.node?] using others
  | cons c cs => rfl

theorem recipients_build (identity : List UInt8)
    (h : d.parts = .participants ciphertexts mediaType count :: rest)
    (hr : ∀ part ∈ rest, ∀ n, part.node? = some n → n.tag ≠ "participants") :
    (d.build identity).recipients = ciphertexts.map (toNode mediaType count) := by
  rw [Node.recipients, child?_participants identity h hr]
  split
  next hc => simp [hc]
  next =>
    change ((ciphertexts.map (toNode mediaType count)).filter fun n => n.tag = "to") = _
    rw [List.filter_eq_self]
    intro n hn
    obtain ⟨c, _, rfl⟩ := List.mem_map.mp hn
    rfl

end Stanza.Draft

namespace Outgoing

variable (o : Outgoing) (credentials : Credentials)

theorem withEdit_same (d : Stanza.Draft) :
    (o.withEdit d).id = d.id ∧ (o.withEdit d).parts = d.parts := by
  unfold withEdit
  split <;> exact ⟨rfl, rfl⟩

theorem withParticipant_same (d : Stanza.Draft) :
    (o.withParticipant credentials d).id = d.id ∧
      (o.withParticipant credentials d).parts = d.parts := by
  unfold withParticipant
  split
  next => exact ⟨rfl, rfl⟩
  next =>
    dsimp only
    split
    next => exact ⟨rfl, rfl⟩
    next => split <;> exact ⟨rfl, rfl⟩

theorem id_header : (o.header credentials).id = o.messageId := by
  rw [header, (o.withParticipant_same credentials _).1, (o.withEdit_same _).1]
  rfl

theorem parts_header : (o.header credentials).parts = [] := by
  rw [header, (o.withParticipant_same credentials _).2, (o.withEdit_same _).2]
  rfl

end Outgoing

end Fanout
