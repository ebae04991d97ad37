import Fanout.Proofs.Stanza

namespace Fanout

/-- Whether a ciphertext of a stanza bears a handshake. -/
def Node.bearsHandshake (n : Node) : Bool :=
  (n.findAll "enc").any fun enc => enc.attr? "type" = some "pkmsg"

namespace Stanza

def identityNode (identity : List UInt8) : Node :=
  (Node.named "device-identity").withBytes identity

/-- After its content a stanza shows an identity exactly if a ciphertext bears a handshake, and it
shows none in its content. -/
structure ShowsIdentity (n : Node) (content : List Node) (identity : List UInt8) : Prop where
  children : n.children = content ++ if n.bearsHandshake then [identityNode identity] else []
  shown : n.childrenTagged "device-identity" =
    if n.bearsHandshake then [identityNode identity] else []

/-- Without a handshake no identity is shown, whichever it is. -/
theorem ShowsIdentity.of_no_handshake {n : Node} {content : List Node} {identity : List UInt8}
    (h : ShowsIdentity n content identity) (plain : n.bearsHandshake = false)
    (other : List UInt8) : ShowsIdentity n content other := by
  obtain ⟨children, shown⟩ := h
  rw [plain] at children shown
  constructor
  · rw [plain]
    exact children
  · rw [plain]
    exact shown

theorem attr?_encNode_type_eq_pkmsg (envelope : Envelope) (mediaType : Option String)
    (count : Option UInt32) :
    (encNode envelope mediaType count).attr? "type" = some "pkmsg" ↔ envelope.kind = .pkmsg := by
  rw [attr?_encNode_type]
  cases envelope.kind <;> simp [CiphertextKind.text]

namespace Part

theorem opensSession_eq (part : Part) :
    part.opensSession = part.node?.any Node.bearsHandshake := by
  cases part with
  | participants ciphertexts mediaType count =>
    cases ciphertexts with
    | nil => rfl
    | cons c cs =>
      simp [node?, opensSession, Node.bearsHandshake, findAll_participantsNode,
        attr?_encNode_type_eq_pkmsg, Function.comp_def]
  | direct ciphertext mediaType count =>
    simp [node?, opensSession, Node.bearsHandshake, findAll_encNode, attr?_encNode_type_eq_pkmsg]
  | group ciphertext mediaType =>
    simp [node?, opensSession, Node.bearsHandshake, findAll_encNode, attr?_encNode_type_eq_pkmsg]
  | plaintext body mediaType => cases mediaType <;> rfl

theorem tag_ne_of_node? {part : Part} {n : Node} (h : part.node? = some n) :
    n.tag ≠ "device-identity" := by
  cases part with
  | participants ciphertexts mediaType count =>
    cases ciphertexts with
    | nil => cases h
    | cons c cs =>
      cases h
      simp [participantsNode, Node.withChildren, Node.withContent, Node.named, Node.tag]
  | direct ciphertext mediaType count =>
    cases h
    simp [tag_encNode]
  | group ciphertext mediaType =>
    cases h
    simp [tag_encNode]
  | plaintext body mediaType =>
    cases h
    cases mediaType <;> simp [withMediaType, Node.withBytes, Node.withContent, Node.withAttr,
      Node.withAttrs, Node.named, Node.tag]

end Part

namespace Draft

theorem bearsHandshake_build (d : Draft) (identity : List UInt8) :
    (d.build identity).bearsHandshake = d.parts.any Part.opensSession := by
  rw [Node.bearsHandshake, findAll_build, List.any_flatMap, List.any_filterMap]
  refine congrArg _ (funext fun part => ?_)
  rw [part.opensSession_eq]
  cases part.node? <;> rfl

theorem showsIdentity_build (d : Draft) (identity : List UInt8) :
    ShowsIdentity (d.build identity) (d.parts.filterMap Part.node?) identity := by
  have children := d.children_build identity
  rw [← d.bearsHandshake_build identity] at children
  refine ⟨children, ?_⟩
  have elsewhere : (d.parts.filterMap Part.node?).filter (·.tag = "device-identity") = [] := by
    rw [List.filter_eq_nil_iff]
    intro n mem
    obtain ⟨part, _, named⟩ := List.mem_filterMap.mp mem
    simpa using Part.tag_ne_of_node? named
  rw [Node.childrenTagged, children, List.filter_append, elsewhere, List.nil_append]
  split <;> rfl

/-- A call on a draft. -/
inductive Call where
  | part (part : Part)
  | attr (key value : String)
  | attrs (attrs : Dict String String)
  | to (recipient : Jid)

namespace Call

def apply (d : Draft) : Call → Draft
  | .part added => d.withPart added
  | .attr key value => d.withAttr key value
  | .attrs given => d.withAttrs given
  | .to recipient => { d with recipient }

/-- The child that a call adds to the stanza. -/
def node? : Call → Option Node
  | .part added => added.node?
  | _ => none

theorem nodes_apply (d : Draft) (call : Call) : (apply d call).parts.filterMap Part.node? =
    d.parts.filterMap Part.node? ++ call.node?.toList := by
  cases call with
  | part added =>
    rw [apply, withPart, List.filterMap_append, node?]
    cases h : added.node? <;> simp [h]
  | _ => exact (List.append_nil _).symm

theorem nodes_foldl (calls : List Call) (d : Draft) :
    (calls.foldl apply d).parts.filterMap Part.node? =
      d.parts.filterMap Part.node? ++ calls.filterMap node? := by
  induction calls generalizing d with
  | nil => exact (List.append_nil _).symm
  | cons call calls ih =>
    rw [List.foldl_cons, ih, nodes_apply, List.append_assoc, List.filterMap_cons]
    cases call.node? <;> rfl

end Call

/-- Whatever calls a stanza was drafted by, it has the children that they added, in their order. -/
theorem showsIdentity_of_calls (id : String) (recipient : Jid) (type : String) (calls : List Call)
    (identity : List UInt8) :
    ShowsIdentity ((calls.foldl Call.apply (new id recipient type)).build identity)
      (calls.filterMap Call.node?) identity := by
  have shows := (calls.foldl Call.apply (new id recipient type)).showsIdentity_build identity
  rwa [Call.nodes_foldl] at shows

end Draft

end Stanza

end Fanout
