import Tagweave.Render.Renderer

namespace Tagweave

/-!
# Writing a forest back as markup

With no registered component for its tags, a renderer writes an element through the default
component and a text node through the verbatim engine. Its output is then a fixed function of
the forest, `Node.serializeForest`: text as it is, and an element as `<name`, then ` key=value`
for each attribute whose value is present (the value as compact JSON), `>`, the children and
`</name>`.

* `Node.height` and `Node.forestHeight` count nesting, text included: the depth a forest needs.
* `Renderer.writeNodes_writesBack` is the run lemma: from any output, with depth enough, the
  renderer appends the serialization and stops without error.
* `Renderer.write_eq_serializeForest` is the statement for a whole render pass.
-/

/-- The value an attribute is written back with: the string, the JSON value of the number
    (`Props.numberJson`), or what the interpolator finds for the reference. -/
def AttrValue.written (interpolate : Interpolator) (context : Json) : AttrValue → Option Json
  | .str s => some (.string s)
  | .number x => some (Props.numberJson x)
  | .ref accessor => interpolate context accessor

/-- ` key=value` for each attribute whose value is present, in order. -/
def attributesText (interpolate : Interpolator) (context : Json) :
    List (String × AttrValue) → String
  | [] => ""
  | (key, a) :: rest =>
    (match a.written interpolate context with
      | some v => " " ++ key ++ "=" ++ Json.compact v
      | none => "") ++ attributesText interpolate context rest

mutual
/-- The markup a node is written back as. -/
def Node.serialize (interpolate : Interpolator) (context : Json) : Node → String
  | .text data => data
  | .element name attrs children =>
    "<" ++ name ++ attributesText interpolate context attrs.toList ++ ">" ++
      Node.serializeForest interpolate context children ++ "</" ++ name ++ ">"

/-- The markup of a forest: its nodes written back one after another. -/
def Node.serializeForest (interpolate : Interpolator) (context : Json) : List Node → String
  | [] => ""
  | n :: ns => n.serialize interpolate context ++ Node.serializeForest interpolate context ns
end

mutual
/-- How deeply a node nests, the node itself and text nodes counting as a level. -/
def Node.height : Node → Nat
  | .text _ => 1
  | .element _ _ children => Node.forestHeight children + 1

/-- The height of the highest node of a forest; zero for none. -/
def Node.forestHeight : List Node → Nat
  | [] => 0
  | n :: ns => max n.height (Node.forestHeight ns)
end

mutual
/-- The element names of a node and its descendants. -/
def Node.tagNames : Node → List String
  | .text _ => []
  | .element name _ children => name :: Node.forestTagNames children

/-- The element names of a forest. -/
def Node.forestTagNames : List Node → List String
  | [] => []
  | n :: ns => n.tagNames ++ Node.forestTagNames ns
end

theorem Node.height_pos (n : Node) : 0 < n.height := by
  cases n <;> simp [Node.height]

/-- Resolving an attribute for the props gives the value it is written back with. -/
theorem Props.resolveValue_eq_written (interpolate : Interpolator) (context : Json)
    (a : AttrValue) : Props.resolveValue interpolate context a = a.written interpolate context := by
  cases a <;> rfl

/-- The start tag written for resolved props is `<name`, the attribute text and `>`. -/
theorem openTagText_resolve (interpolate : Interpolator) (context : Json) (name : String)
    (attrs : Attributes) (children : List Node) :
    openTagText (Props.resolve interpolate context name attrs children) =
      "<" ++ name ++ attributesText interpolate context attrs.toList ++ ">" := by
  simp only [openTagText, Props.resolve]
  congr 1
  -- the fold appends one attribute's text at a time to whatever was written before it
  generalize "<" ++ name = acc
  induction attrs.toList generalizing acc with
  | nil => simp [attributesText]
  | cons a rest ih =>
    obtain ⟨k, v⟩ := a
    rw [List.map_cons, List.foldl_cons, ih]
    simp only [attributesText, Props.resolveValue_eq_written]
    cases v.written interpolate context <;> simp [String.append_assoc]

namespace Renderer

/-- A renderer that writes tags back: the default component for unregistered tags, and text
    as it is. -/
structure WritesBack (r : Renderer) : Prop where
  engine : r.engine = some Engine.verbatim
  defaultComponent : r.defaultComponent = Tagweave.defaultComponent

variable {r : Renderer} {context : Json}

mutual
/-- A node whose tags are all unregistered, rendered with depth enough, appends its
    serialization. -/
theorem writeNode_writesBack (hr : r.WritesBack) : ∀ (n : Node) (fuel : Nat) (out : String),
    n.height ≤ fuel → (∀ x ∈ n.tagNames, r.components.lookup x = none) →
    r.writeNode fuel context out n = ⟨out ++ n.serialize r.interpolate context, none⟩
  | n, 0, _, hfuel, _ => absurd hfuel (by have := n.height_pos; omega)
  | .text data, fuel + 1, out, _, _ => by
    rw [writeNode, hr.engine]
    simp [Engine.verbatim, runActions, runAction, Node.serialize]
  | .element name attrs children, fuel + 1, out, hfuel, hnames => by
    have hlookup : r.components.lookup name = none := hnames name (by simp [Node.tagNames])
    have hchildren := writeNodes_writesBack hr children fuel
      (out ++ openTagText (Props.resolve r.interpolate context name attrs children))
      (by simp only [Node.height] at hfuel; omega)
      (fun x hx => hnames x (by simp [Node.tagNames, hx]))
    rw [writeNode, hlookup, Option.getD_none, hr.defaultComponent]
    simp only [Tagweave.defaultComponent, writeTag, runActions, runAction, writeFragment,
      openTagText_resolve]
    rw [openTagText_resolve] at hchildren
    simp only [Props.resolve]
    rw [hchildren]
    simp [Node.serialize, String.append_assoc]

/-- The run lemma: a forest whose tags are all unregistered, rendered with depth enough,
    appends its serialization. -/
theorem writeNodes_writesBack (hr : r.WritesBack) : ∀ (ns : List Node) (fuel : Nat) (out : String),
    Node.forestHeight ns ≤ fuel → (∀ x ∈ Node.forestTagNames ns, r.components.lookup x = none) →
    r.writeNodes fuel context out ns =
      ⟨out ++ Node.serializeForest r.interpolate context ns, none⟩
  | [], fuel, out, _, _ => by simp [writeNodes, Node.serializeForest]
  | n :: ns, fuel, out, hfuel, hnames => by
    simp only [Node.forestHeight, Nat.max_le] at hfuel
    have hn := writeNode_writesBack hr n fuel out hfuel.1
      (fun x hx => hnames x (by simp [Node.forestTagNames, hx]))
    have hns := writeNodes_writesBack hr ns fuel
      (out ++ n.serialize r.interpolate context) hfuel.2
      (fun x hx => hnames x (by simp [Node.forestTagNames, hx]))
    rw [writeNodes, hn]
    simp only
    rw [hns]
    simp [Node.serializeForest, String.append_assoc]
end

/-- A render pass of a forest runs it from an empty output, with the depth limit as fuel. -/
theorem write_nodes (r : Renderer) (t : List Node) (context : Json) :
    r.write (.nodes t) context = r.writeNodes r.maxDepth context "" t := by
  simp [write, writeFragment]

/-- **Writing tags back.** A renderer with the default component, the verbatim engine, no
    component registered under a tag of the forest and a depth limit at least the forest's
    height renders it without error, and what it writes is the forest's serialization. -/
theorem write_eq_serializeForest (components : Registry) (interpolate : Interpolator)
    (maxDepth : Nat) (t : List Node) (context : Json)
    (hdepth : Node.forestHeight t ≤ maxDepth)
    (hunregistered : ∀ x ∈ Node.forestTagNames t, components.lookup x = none) :
    (Renderer.mk components (some .verbatim) Tagweave.defaultComponent interpolate maxDepth).write
      (.nodes t) context = ⟨Node.serializeForest interpolate context t, none⟩ := by
  have hr : (Renderer.mk components (some .verbatim) Tagweave.defaultComponent interpolate
      maxDepth).WritesBack := ⟨rfl, rfl⟩
  have hrun := @writeNodes_writesBack _ context hr t maxDepth "" hdepth hunregistered
  rw [write_nodes]
  simpa using hrun

/-- A paragraph with a string, a number and a reference attribute, written back at depth two
    with the default interpolator. -/
theorem write_paragraph_back :
    Node.forestHeight [.element "p" ((Attributes.empty.insert "s" (.str "x")).insert "r"
      (.ref "a")) [.text "hi"]] ≤ 2 ∧
    (∀ x ∈ Node.forestTagNames [.element "p" ((Attributes.empty.insert "s" (.str "x")).insert "r"
      (.ref "a")) [.text "hi"]], Registry.empty.lookup x = none) ∧
    (Renderer.mk .empty (some .verbatim) Tagweave.defaultComponent pathInterpolator 2).write
      (.nodes [.element "p" ((Attributes.empty.insert "s" (.str "x")).insert "r" (.ref "a"))
        [.text "hi"]]) .null =
      ⟨Node.serializeForest pathInterpolator .null [.element "p"
        ((Attributes.empty.insert "s" (.str "x")).insert "r" (.ref "a")) [.text "hi"]], none⟩ :=
  ⟨by decide, by simp [Registry.empty, Registry.lookup],
    write_eq_serializeForest .empty pathInterpolator 2 _ .null (by decide)
      (by simp [Registry.empty, Registry.lookup])⟩

end Renderer

end Tagweave
