import Fanout.Dict
import Fanout.Error
import Fanout.Text.BigEndian

namespace Fanout

mutual

inductive Node where
  | mk (tag : String) (attrs : Dict String String) (content : Content)

/-- No content and an empty list of children are different contents. -/
inductive Content where
  | empty
  | bytes (bytes : List UInt8)
  | nodes (children : List Node)

end

mutual

def Node.decEq : (a b : Node) → Decidable (a = b)
  | .mk tag attrs content, .mk tag' attrs' content' =>
    match decEq tag tag', decEq attrs attrs', Content.decEq content content' with
    | isTrue h, isTrue h', isTrue h'' => isTrue (by rw [h, h', h''])
    | isFalse h, _, _ => isFalse fun e => h (Node.mk.inj e).1
    | _, isFalse h, _ => isFalse fun e => h (Node.mk.inj e).2.1
    | _, _, isFalse h => isFalse fun e => h (Node.mk.inj e).2.2

def Content.decEq : (a b : Content) → Decidable (a = b)
  | .empty, .empty => isTrue rfl
  | .bytes a, .bytes b =>
    match decEq a b with
    | isTrue h => isTrue (by rw [h])
    | isFalse h => isFalse fun e => h (Content.bytes.inj e)
  | .nodes a, .nodes b =>
    match Node.decEqList a b with
    | isTrue h => isTrue (by rw [h])
    | isFalse h => isFalse fun e => h (Content.nodes.inj e)
  | .empty, .bytes _ | .empty, .nodes _ | .bytes _, .empty | .bytes _, .nodes _
  | .nodes _, .empty | .nodes _, .bytes _ => isFalse Content.noConfusion

def Node.decEqList : (a b : List Node) → Decidable (a = b)
  | [], [] => isTrue rfl
  | [], _ :: _ => isFalse (List.cons_ne_nil _ _).symm
  | _ :: _, [] => isFalse (List.cons_ne_nil _ _)
  | a :: as, b :: bs =>
    match Node.decEq a b, Node.decEqList as bs with
    | isTrue h, isTrue h' => isTrue (by rw [h, h'])
    | isFalse h, _ => isFalse fun e => h (List.cons.inj e).1
    | _, isFalse h => isFalse fun e => h (List.cons.inj e).2

end

instance : DecidableEq Node := Node.decEq

namespace Node

def tag : Node → String
  | mk tag _ _ => tag

def attrs : Node → Dict String String
  | mk _ attrs _ => attrs

def content : Node → Content
  | mk _ _ content => content

def named (tag : String) : Node := mk tag ∅ .empty

instance : Inhabited Node := ⟨named ""⟩

def withAttrs (n : Node) (attrs : Dict String String) : Node := mk n.tag attrs n.content

def withContent (n : Node) (content : Content) : Node := mk n.tag n.attrs content

def withAttr (n : Node) (key value : String) : Node := n.withAttrs (n.attrs.insert key value)

def withBytes (n : Node) (bytes : List UInt8) : Node := n.withContent (.bytes bytes)

def withChildren (n : Node) (children : List Node) : Node := n.withContent (.nodes children)

def children (n : Node) : List Node :=
  match n.content with
  | .nodes children => children
  | _ => []

/-- Appends a child; any other content gives way to it. -/
def pushChild (n child : Node) : Node := n.withChildren (n.children ++ [child])

def attr? (n : Node) (key : String) : Option String := n.attrs.find? key

def attr (n : Node) (key : String) : Except Error String :=
  match n.attr? key with
  | some value => .ok value
  | none => .error (.protocol ("<" ++ n.tag ++ "> missing attribute " ++ key))

def childrenTagged (n : Node) (tag : String) : List Node := n.children.filter (·.tag = tag)

def child? (n : Node) (tag : String) : Option Node := n.children.find? (·.tag = tag)

def child (n : Node) (tag : String) : Except Error Node :=
  match n.child? tag with
  | some child => .ok child
  | none => .error (.unexpectedNode tag (n.tag ++ " without it"))

def bytes? (n : Node) : Option (List UInt8) :=
  match n.content with
  | .bytes bytes => some bytes
  | _ => none

def childBytes? (n : Node) (tag : String) : Option (List UInt8) := (n.child? tag).bind bytes?

def childBytes (n : Node) (tag : String) : Except Error (List UInt8) :=
  match n.childBytes? tag with
  | some bytes => .ok bytes
  | none => .error (.protocol ("<" ++ n.tag ++ "> missing <" ++ tag ++ ">"))

/-- The number that a child holds in exactly `len` bytes, four at most. -/
def childNat (n : Node) (tag : String) (len : Nat) : Except Error Nat := do
  let bytes ← n.childBytes tag
  if bytes.length ≠ len ∨ 4 < len then
    throw (.protocol ("<" ++ tag ++ "> expected " ++ len.repr ++ " bytes, got " ++ bytes.length.repr))
  return BigEndian.decode bytes

/-- A node with an error child is refused. -/
def checkError (n : Node) : Except Error Unit :=
  match n.child? "error" with
  | some e => .error (.serverError ((e.attr? "code").getD "unknown")
      ("<" ++ n.tag ++ "> " ++ (e.attr? "text").getD ""))
  | none => .ok ()

mutual

/-- The node and its descendants that bear a tag, parents before children. -/
def findAll (wanted : String) : Node → List Node
  | mk tag attrs content =>
    (if tag = wanted then [mk tag attrs content] else []) ++ findAllContent wanted content

def findAllContent (wanted : String) : Content → List Node
  | .empty => []
  | .bytes _ => []
  | .nodes children => findAllNodes wanted children

def findAllNodes (wanted : String) : List Node → List Node
  | [] => []
  | n :: rest => findAll wanted n ++ findAllNodes wanted rest

end

end Node

end Fanout
