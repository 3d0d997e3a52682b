import Tagweave.Proofs.BuilderWalk
import Mathlib.Data.List.Chain

namespace Tagweave

/-!
# What the tree builder never builds

Every builder that reading a document reaches holds only tidy lists of nodes: no empty text,
no two text nodes side by side, and no children under an element of a void name, at any
depth. No element of a void name is ever open.

* `Node.Tidy` and `Node.TidyForest` say this of nodes and forests, and
  `TreeBuilder.Tidy` of a builder: the top level and the children of each open element are
  tidy forests (newest first, which is as tidy as oldest first), and no open element is
  void.
* `TreeBuilder.Reachable`: the builders reached from the empty one by feeding tokens without
  error, by adding text (a literal `<` between pieces) and by closing the innermost open
  element, one at a time as a closing tag and the end of input do.
* The step lemmas `TreeBuilder.Tidy.addText`, `.openElement`, `.pop` and `.feed` carry the
  invariant over each operation. `TreeBuilder.Reachable.tidy` is the run lemma.
* `TreeBuilder.reachable_tidy` is the statement for the builder and for `Document.parse`.
  With it: a closing tag matches nothing exactly when no open element has its name, and it
  then leaves the builder as it was, or fails when its name is not void. A closing tag of a
  void name never fails, and in a reachable builder it changes nothing.
-/

/-- No two text nodes side by side. -/
def Node.TextsApart (nodes : List Node) : Prop :=
  nodes.IsChain fun a b => ¬(a.isText = true ∧ b.isText = true)

mutual
/-- A node as the tree builder leaves it: text is not empty; an element of a void name has no
    children, and the children of an element are tidy, with no two texts side by side. -/
def Node.Tidy : Node → Prop
  | .text data => data ≠ ""
  | .element name _ children =>
    (isVoidElement name = true → children = []) ∧ Node.TextsApart children ∧ Node.AllTidy children

/-- Every node of the list is tidy. -/
def Node.AllTidy : List Node → Prop
  | [] => True
  | n :: rest => n.Tidy ∧ Node.AllTidy rest
end

/-- A tidy forest: tidy nodes, no two texts side by side. -/
def Node.TidyForest (nodes : List Node) : Prop := Node.TextsApart nodes ∧ Node.AllTidy nodes

namespace Node

@[simp] theorem tidy_text (data : String) : (Node.text data).Tidy ↔ data ≠ "" := by
  simp [Node.Tidy]

@[simp] theorem tidy_element (name : String) (attrs : Attributes) (children : List Node) :
    (Node.element name attrs children).Tidy ↔
      (isVoidElement name = true → children = []) ∧ TidyForest children := by
  simp [Node.Tidy, TidyForest]

theorem allTidy_iff (nodes : List Node) : AllTidy nodes ↔ ∀ n ∈ nodes, n.Tidy := by
  induction nodes with
  | nil => simp [AllTidy]
  | cons n rest ih => simp [AllTidy, ih]

@[simp] theorem tidyForest_nil : TidyForest [] := by
  simp [TidyForest, TextsApart, AllTidy]

/-- An element goes in front of a tidy forest: no text can stand next to it. -/
theorem TidyForest.cons_element {nodes : List Node} (h : TidyForest nodes) {name : String}
    {attrs : Attributes} {children : List Node} (he : (Node.element name attrs children).Tidy) :
    TidyForest (.element name attrs children :: nodes) := by
  refine ⟨h.1.cons fun _ _ => by simp [isText], ?_⟩
  simpa [AllTidy] using ⟨he, h.2⟩

/-- Reversed, a tidy forest is still tidy: side by side is side by side either way. -/
theorem TidyForest.reverse {nodes : List Node} (h : TidyForest nodes) : TidyForest nodes.reverse := by
  refine ⟨?_, ?_⟩
  · rw [TextsApart, List.isChain_reverse]
    exact h.1.imp fun a b hab hba => hab ⟨hba.2, hba.1⟩
  · have hall := (allTidy_iff nodes).mp h.2
    rw [allTidy_iff]
    intro n hn
    exact hall n (List.mem_reverse.mp hn)

end Node

namespace TreeBuilder

/-- Text added in front of a tidy forest: merged with a text node in front, or a node of its
    own. Nonempty text keeps the forest tidy. -/
theorem tidyForest_mergeText {s : String} (hs : s ≠ "") {nodes : List Node}
    (h : Node.TidyForest nodes) : Node.TidyForest (mergeText s nodes) := by
  match nodes, h with
  | .text d :: rest, h =>
    -- the merged node takes the place of the old text node, whose neighbour is no text
    obtain ⟨happart, hall⟩ := h
    simp only [Node.AllTidy, Node.tidy_text] at hall
    show Node.TidyForest (.text (d ++ s) :: rest)
    refine ⟨?_, ?_⟩
    · cases rest with
      | nil => exact List.IsChain.singleton _
      | cons m more =>
        rw [Node.TextsApart, List.isChain_cons_cons] at happart ⊢
        exact ⟨fun hm => happart.1 ⟨rfl, hm.2⟩, happart.2⟩
    · simpa [Node.AllTidy, hs] using hall.2
  | [], _ => exact ⟨List.IsChain.singleton _, by simp [mergeText, Node.AllTidy, hs]⟩
  | .element name attrs children :: rest, h =>
    show Node.TidyForest (.text s :: .element name attrs children :: rest)
    refine ⟨h.1.cons fun y hy => ?_, ?_⟩
    · simp only [List.head?_cons, Option.mem_def, Option.some.injEq] at hy
      subst hy
      simp [Node.isText]
    · simpa [Node.AllTidy, hs] using h.2

/-- The builder invariant: the top level and the children of every open element are tidy
    forests, and no open element has a void name. -/
structure Tidy (b : TreeBuilder) : Prop where
  root : Node.TidyForest b.revRoot
  children : ∀ e ∈ b.stack, Node.TidyForest e.revChildren
  ready : b.Ready

theorem tidy_empty : empty.Tidy := ⟨by simp [empty], by simp [empty], ready_empty⟩

/-! ### One operation -/

namespace Tidy

variable {b : TreeBuilder}

/-- The children of the innermost open element replaced by a tidy forest: every open element
    still has tidy children. -/
theorem children_innermost {e : OpenElement} {es : List OpenElement} {nodes : List Node}
    (hstack : ∀ e' ∈ e :: es, Node.TidyForest e'.revChildren) (h : Node.TidyForest nodes) :
    ∀ e' ∈ { e with revChildren := nodes } :: es, Node.TidyForest e'.revChildren := by
  intro e' he'
  rcases List.mem_cons.mp he' with rfl | he'
  · exact h
  · exact hstack e' (List.mem_cons_of_mem _ he')

/-- Adding a tidy element keeps the builder tidy. -/
theorem addElement (hb : b.Tidy) {name : String} {attrs : Attributes} {children : List Node}
    (he : (Node.element name attrs children).Tidy) :
    (b.addNode (.element name attrs children)).Tidy := by
  obtain ⟨root, stack⟩ := b
  cases stack with
  | nil => exact ⟨hb.root.cons_element he, by simp [addNode], hb.ready.addNode _⟩
  | cons e es =>
    exact ⟨hb.root, children_innermost hb.children
      ((hb.children e List.mem_cons_self).cons_element he), hb.ready.addNode _⟩

theorem addText (hb : b.Tidy) (s : String) : (b.addText s).Tidy := by
  unfold TreeBuilder.addText
  split
  · exact hb
  · next hs =>
    have hs : s ≠ "" := fun h => hs (String.isEmpty_iff.mpr h)
    obtain ⟨root, stack⟩ := b
    cases stack with
    | nil => exact ⟨tidyForest_mergeText hs hb.root, by simp, hb.ready⟩
    | cons e es =>
      exact ⟨hb.root, children_innermost hb.children
        (tidyForest_mergeText hs (hb.children e List.mem_cons_self)), hb.ready⟩

theorem openElement (hb : b.Tidy) {name : String} (hname : isVoidElement name = false)
    (attrs : Attributes) : (b.openElement name attrs).Tidy := by
  refine ⟨hb.root, fun e he => ?_, hb.ready.openElement hname attrs⟩
  simp only [TreeBuilder.openElement, List.mem_cons] at he
  rcases he with rfl | he
  · exact Node.tidyForest_nil
  · exact hb.children e he

/-- Closing the innermost open element adds it, with its children in order, where it was
    opened. It is tidy: its name is not void, and its children were a tidy forest. -/
theorem pop (hb : b.Tidy) : b.pop.Tidy := by
  obtain ⟨root, stack⟩ := b
  cases stack with
  | nil => exact hb
  | cons e es =>
    have hrest : Tidy ⟨root, es⟩ :=
      ⟨hb.root, fun e' he' => hb.children e' (List.mem_cons_of_mem _ he'),
        fun x hx => hb.ready x (by simp_all)⟩
    have hvoid : isVoidElement e.name = false := hb.ready e.name (by simp)
    have he : e.toNode.Tidy := by
      rw [OpenElement.toNode, Node.tidy_element]
      exact ⟨by simp [hvoid], (hb.children e List.mem_cons_self).reverse⟩
    exact hrest.addElement he

theorem popN (hb : b.Tidy) : ∀ k, (TreeBuilder.popN k b).Tidy := by
  intro k
  induction k generalizing b with
  | zero => exact hb
  | succ k ih => exact ih hb.pop

/-- Feeding a token without error keeps the builder tidy. -/
theorem feed (hb : b.Tidy) {t : Token} {p : Nat} {b' : TreeBuilder} (h : b.feed t p = .ok b') :
    b'.Tidy := by
  cases t with
  | text s | cdata s | ref s =>
    simp only [TreeBuilder.feed, Except.ok.injEq] at h
    subst h
    exact hb.addText _
  | start content =>
    simp only [TreeBuilder.feed, Except.ok.injEq] at h
    subst h
    -- a void start tag is a childless element, any other is opened
    split
    · exact hb.addElement (by simp)
    · next hvoid => exact hb.openElement (by simpa using hvoid) _
  | empty content =>
    simp only [TreeBuilder.feed, Except.ok.injEq] at h
    subst h
    exact hb.addElement (by simp)
  | close name =>
    simp only [TreeBuilder.feed] at h
    split at h
    · next b'' hclose =>
      cases h
      rw [close?_eq] at hclose
      obtain ⟨i, -, rfl⟩ := Option.map_eq_some_iff.mp hclose
      exact hb.popN (i + 1)
    · split at h
      · cases h
        exact hb
      · cases h
  | comment _ | declaration _ | instruction _ | doctype _ =>
    simp only [TreeBuilder.feed, Except.ok.injEq] at h
    subst h
    exact hb

end Tidy

/-! ### Every builder reading reaches -/

/-- The builders reading a document reaches: from the empty builder, by feeding a token
    without error, by adding text (the literal `<` between pieces), and by closing the
    innermost open element, as closing tags and the end of input do one element at a time. -/
inductive Reachable : TreeBuilder → Prop
  | empty : Reachable empty
  | feed {b b' : TreeBuilder} {t : Token} {p : Nat} : Reachable b → b.feed t p = .ok b' →
      Reachable b'
  | text {b : TreeBuilder} (s : String) : Reachable b → Reachable (b.addText s)
  | pop {b : TreeBuilder} : Reachable b → Reachable b.pop

/-- The run lemma: every reachable builder is tidy. -/
theorem Reachable.tidy {b : TreeBuilder} (h : b.Reachable) : b.Tidy := by
  induction h with
  | empty => exact tidy_empty
  | feed _ hfeed ih => exact ih.feed hfeed
  | text s _ ih => exact ih.addText s
  | pop _ ih => exact ih.pop

theorem Reachable.popN {b : TreeBuilder} (h : b.Reachable) : ∀ k, (TreeBuilder.popN k b).Reachable := by
  intro k
  induction k generalizing b with
  | zero => exact h
  | succ k ih => exact ih h.pop

/-- A run of tokens fed without error reaches a builder from a reachable one. -/
theorem Reachable.foldlM_feed {ts : List (Token × Nat)} {b b' : TreeBuilder} (h : b.Reachable)
    (hrun : ts.foldlM (fun b tp => b.feed tp.1 tp.2) b = .ok b') : b'.Reachable :=
  @foldlM_feed_induct (fun _ b => b.Reachable) (fun hb hfeed => hb.feed hfeed) ts [] b b' h hrun

/-- A document that reads is the forest of a reachable builder, closed. -/
theorem parse_reachable {s : String} {forest : List Node} (h : Document.parse s = .ok forest) :
    ∃ b : TreeBuilder, b.Reachable ∧ forest = b.finish := by
  rw [Document.parse_eq_stream] at h
  cases hstream : empty.feedStream (Document.stream s) with
  | error e => rw [hstream] at h; cases h
  | ok b =>
    rw [hstream] at h
    cases h
    -- a stream that gives a builder has no fault, so its tokens were all fed
    exact ⟨b, Reachable.empty.foldlM_feed (foldlM_of_feedStream hstream), rfl⟩

/-- Closing every open element leaves a tidy forest. -/
theorem Tidy.finish {b : TreeBuilder} (hb : b.Tidy) : Node.TidyForest b.finish :=
  (hb.popN _).root.reverse

/-! ### Closing tags -/

/-- A closing tag matches nothing exactly when no open element has its name up to ASCII
    case. -/
theorem close?_eq_none_iff (b : TreeBuilder) (name : String) :
    b.close? name = none ↔ ∀ e ∈ b.stack, equalsIgnoringAsciiCase e.name name = false := by
  simp [close?, List.findIdx?_eq_none_iff]

/-- A closing tag that matches nothing leaves the builder as it was when its name is void,
    and fails at its position otherwise. -/
theorem feed_close_unmatched {b : TreeBuilder} {name : String} (h : b.close? name = none)
    (p : Nat) :
    b.feed (.close name) p =
      if isVoidElement name then .ok b else .error (.unexpectedEndTag name p) := by
  simp only [feed, h]

/-- A closing tag of a void name never fails. -/
theorem feed_close_void_ok (b : TreeBuilder) {name : String} (hvoid : isVoidElement name = true)
    (p : Nat) : ∃ b', b.feed (.close name) p = .ok b' := by
  cases h : b.close? name with
  | none => exact ⟨b, by rw [feed_close_unmatched h, if_pos hvoid]⟩
  | some b' => exact ⟨b', by simp only [feed, h]⟩

/-- In a builder with no void element open, a closing tag of a void name matches nothing, so
    it changes nothing. -/
theorem Tidy.feed_close_void {b : TreeBuilder} (hb : b.Tidy) {name : String}
    (hvoid : isVoidElement name = true) (p : Nat) : b.feed (.close name) p = .ok b := by
  have hnone : b.close? name = none := by
    rw [close?_eq_none_iff]
    intro e he
    -- an open element of that name, up to case, would be void itself
    cases hmatch : equalsIgnoringAsciiCase e.name name with
    | false => rfl
    | true =>
      have hopen := hb.ready e.name (List.mem_map_of_mem he)
      rw [isVoidElement_congr hmatch, hvoid] at hopen
      cases hopen
  rw [feed_close_unmatched hnone, if_pos hvoid]

/-- **The tree builder's invariants.** Every builder reading a document reaches is tidy: no
    list of nodes it holds, at the top level, under an open element or deeper, has empty text
    or two texts side by side; no element of a void name has children, and none is open. A
    closing tag matches nothing exactly when no open element has its name, and then leaves
    the builder as it was, or fails when the name is not void. So a closing tag of a void name
    never fails, and in a reachable builder it changes nothing. Every forest a document reads
    as is tidy. -/
theorem reachable_tidy :
    (∀ b : TreeBuilder, b.Reachable → b.Tidy) ∧
    (∀ (b : TreeBuilder) (name : String),
      b.close? name = none ↔ ∀ e ∈ b.stack, equalsIgnoringAsciiCase e.name name = false) ∧
    (∀ (b : TreeBuilder) (name : String) (p : Nat), b.close? name = none →
      b.feed (.close name) p =
        if isVoidElement name then .ok b else .error (.unexpectedEndTag name p)) ∧
    (∀ (b : TreeBuilder) (name : String) (p : Nat), isVoidElement name = true →
      ∃ b', b.feed (.close name) p = .ok b') ∧
    (∀ (b : TreeBuilder) (name : String) (p : Nat), b.Reachable →
      isVoidElement name = true → b.feed (.close name) p = .ok b) ∧
    (∀ (s : String) (forest : List Node), Document.parse s = .ok forest →
      Node.TidyForest forest) := by
  refine ⟨fun b hb => hb.tidy, close?_eq_none_iff, fun b name p h => feed_close_unmatched h p,
    fun b name p hvoid => feed_close_void_ok b hvoid p,
    fun b name p hb hvoid => hb.tidy.feed_close_void hvoid p, fun s forest h => ?_⟩
  obtain ⟨b, hb, rfl⟩ := parse_reachable h
  exact hb.tidy.finish

end TreeBuilder

end Tagweave
