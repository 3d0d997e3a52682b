import Tagweave.Proofs.Serialize

namespace Tagweave

/-!
# Walking a forest

A forest read in preorder is a flat list of steps: entering an element, a text node, and
leaving an element, each at its depth. Top-level nodes are at depth 0 and the children of an
element at depth `k` are at depth `k + 1`.

* `Node.forestWalk` gives the steps of a forest. Its `enter` and `text` steps are the nodes in
  preorder.
* `Step.markup` is what a step writes when the forest is written back as markup. The markup
  of the whole walk is the forest's serialization (`Node.serializeForest_eq_markupOf`), so a
  prefix of the walk writes a prefix of the serialization.
-/

/-- A step of a preorder walk through a forest. -/
inductive Step where
  /-- Entering an element. -/
  | enter (name : String) (attrs : Attributes) (depth : Nat)
  /-- A text node. -/
  | text (data : String) (depth : Nat)
  /-- Leaving an element, after its children. -/
  | leave (name : String) (depth : Nat)
  deriving DecidableEq

mutual
/-- The steps of a node at a depth: a text node is one step, an element is entered, its
    children are walked one level deeper, and it is left. -/
def Node.walk (depth : Nat) : Node → List Step
  | .text data => [.text data depth]
  | .element name attrs children =>
    .enter name attrs depth :: Node.forestWalk (depth + 1) children ++ [.leave name depth]

/-- The steps of a forest at a depth: its nodes walked one after another. -/
def Node.forestWalk (depth : Nat) : List Node → List Step
  | [] => []
  | n :: ns => n.walk depth ++ Node.forestWalk depth ns
end

@[simp] theorem Node.forestWalk_nil (depth : Nat) : Node.forestWalk depth [] = [] := by
  simp [Node.forestWalk]

@[simp] theorem Node.forestWalk_cons (depth : Nat) (n : Node) (ns : List Node) :
    Node.forestWalk depth (n :: ns) = n.walk depth ++ Node.forestWalk depth ns := by
  simp [Node.forestWalk]

@[simp] theorem Node.walk_text (depth : Nat) (data : String) :
    (Node.text data).walk depth = [.text data depth] := by
  simp [Node.walk]

@[simp] theorem Node.walk_element (depth : Nat) (name : String) (attrs : Attributes)
    (children : List Node) :
    (Node.element name attrs children).walk depth =
      .enter name attrs depth :: Node.forestWalk (depth + 1) children ++ [.leave name depth] := by
  simp [Node.walk]

theorem Node.forestWalk_append (depth : Nat) (ns ms : List Node) :
    Node.forestWalk depth (ns ++ ms) = Node.forestWalk depth ns ++ Node.forestWalk depth ms := by
  induction ns with
  | nil => simp
  | cons n ns ih => simp [ih]

/-- What a step writes when a forest is written back as markup: the start tag of an element
    (its attributes resolved by `interpolate` in `context`), text as it is, and the closing
    tag. -/
def Step.markup (interpolate : Interpolator) (context : Json) : Step → String
  | .enter name attrs _ => "<" ++ name ++ attributesText interpolate context attrs.toList ++ ">"
  | .text data _ => data
  | .leave name _ => "</" ++ name ++ ">"

/-- What a run of steps writes. -/
def Step.markupOf (interpolate : Interpolator) (context : Json) (steps : List Step) : String :=
  String.join (steps.map (Step.markup interpolate context))

section Markup

variable (interpolate : Interpolator) (context : Json)

@[simp] theorem Step.markupOf_nil : Step.markupOf interpolate context [] = "" := rfl

@[simp] theorem Step.markupOf_cons (s : Step) (steps : List Step) :
    Step.markupOf interpolate context (s :: steps) =
      s.markup interpolate context ++ Step.markupOf interpolate context steps := by
  simp [Step.markupOf, String.join_cons]

@[simp] theorem Step.markupOf_append (steps steps' : List Step) :
    Step.markupOf interpolate context (steps ++ steps') =
      Step.markupOf interpolate context steps ++ Step.markupOf interpolate context steps' := by
  simp [Step.markupOf, String.join_append]

mutual
/-- A node's walk, at any depth, writes the node's serialization. -/
theorem Node.serialize_eq_markupOf : ∀ (n : Node) (depth : Nat),
    n.serialize interpolate context = Step.markupOf interpolate context (n.walk depth)
  | .text data, depth => by simp [Node.serialize, Step.markup]
  | .element name attrs children, depth => by
    rw [Node.walk_element, Node.serialize,
      Node.serializeForest_eq_markupOf children (depth + 1)]
    simp [Step.markup, String.append_assoc]

/-- A forest's walk, at any depth, writes the forest's serialization. -/
theorem Node.serializeForest_eq_markupOf : ∀ (ns : List Node) (depth : Nat),
    Node.serializeForest interpolate context ns =
      Step.markupOf interpolate context (Node.forestWalk depth ns)
  | [], depth => by simp [Node.serializeForest]
  | n :: ns, depth => by
    rw [Node.forestWalk_cons, Step.markupOf_append, Node.serializeForest,
      Node.serialize_eq_markupOf n depth, Node.serializeForest_eq_markupOf ns depth]
end

end Markup

end Tagweave
