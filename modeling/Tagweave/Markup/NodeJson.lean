import Tagweave.Markup.Node
import Tagweave.Json.Basic

/-!
# Nodes as JSON

The JSON form of a document tree, with fields in a fixed order:

* an element is `{"type": "element", "name", "attribs", "children"}`, its attributes a list of
  `[name, value]` pairs in order;
* text is `{"type": "text", "data"}`;
* an attribute value is `{"type": "str" | "number" | "context_ref", "value"}`, a number being a
  double (null when infinite) and a reference `{"accessor": ...}`.
-/

namespace Tagweave

/-- The JSON form of an attribute value. -/
def AttrValue.toJson : AttrValue → Json
  | .str s => .object [("type", .string "str"), ("value", .string s)]
  | .number x => .object [("type", .string "number"), ("value", Json.ofFloat x)]
  | .ref accessor =>
    .object [("type", .string "context_ref"), ("value", .object [("accessor", .string accessor)])]

/-- The JSON form of attributes: `[name, value]` pairs in order. -/
def Attributes.toJson (a : Attributes) : Json :=
  .array (a.toList.map fun (k, v) => .array [.string k, v.toJson])

mutual
/-- The JSON form of a node. -/
def Node.toJson : Node → Json
  | .element name attrs children =>
    .object [("type", .string "element"), ("name", .string name), ("attribs", attrs.toJson),
      ("children", .array (Node.listToJson children))]
  | .text data => .object [("type", .string "text"), ("data", .string data)]

/-- The JSON forms of a list of nodes. -/
def Node.listToJson : List Node → List Json
  | [] => []
  | n :: ns => n.toJson :: Node.listToJson ns
end

end Tagweave
