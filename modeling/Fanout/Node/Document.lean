import Fanout.Json.Lookup
import Fanout.Node

namespace Fanout

mutual

/-- A node as a document, given how to show the bytes of each node. -/
def Node.document (render : Node → List UInt8 → String × Json) : Node → Json
  | .mk tag attrs content =>
    .ofMembers ([("tag", .ofString tag), ("attrs", .ofMembers (attrs.mapValues Json.ofString).entries)] ++
      content.documentMembers render tag attrs)

def Content.documentMembers (render : Node → List UInt8 → String × Json) (tag : String)
    (attrs : Dict String String) : Content → List (String × Json)
  | .empty => []
  | .bytes bytes => [render (.mk tag attrs .empty) bytes]
  | .nodes children => [("nodes", .array (Node.documentItems render children))]

def Node.documentItems (render : Node → List UInt8 → String × Json) : List Node → List Json
  | [] => []
  | n :: rest => n.document render :: Node.documentItems render rest

end

namespace Node

def shownBytes (bytes : List UInt8) : String × Json := ("bytes", .ofBytes bytes)

def toJson (n : Node) : Json := n.document fun _ => shownBytes

def attrsOf (v : Json) : Dict String String :=
  .ofList (((v.at? "attrs").getD .null).members.map fun m => (m.1.getD "", m.2.text))

/-- Reads a node no deeper than a bound. -/
def ofJsonWithin : Nat → Json → Node
  | 0, _ => default
  | bound + 1, v =>
    let content := match v.at? "bytes", v.at? "nodes" with
      | some _, _ => .bytes (v.bytesAt "bytes")
      | none, some nodes => .nodes (nodes.items.map (ofJsonWithin bound))
      | none, none => .empty
    .mk (v.textAt "tag") (attrsOf v) content

/-- A node holds its children in a list, so it is never as deep as its document. -/
def ofJson (v : Json) : Node := ofJsonWithin v.depth v

end Node

end Fanout
