import Tagweave.Proofs.DocumentStream
import Tagweave.Proofs.ForestListing

namespace Tagweave

/-!
# The walk of a tree builder

A `TreeBuilder` holds a forest under construction. Its walk (`TreeBuilder.walk`) is the top
level in preorder, then each open element, outermost first, entered and not yet left. Each
token adds to that walk, text cut into characters, the steps `Token.steps` gives for the names
of the open elements, and closing the builder leaves the elements still open.

* `Token.items`: what a token adds to the listing, which is what its steps list
  (`Token.flatMap_items_trace`).
* `TreeBuilder.chars_walk_feed` (one token) and `TreeBuilder.chars_walk_foldlM_feed` (a run):
  feeding tokens adds their trace (`Token.trace`) to the walk.
* `TreeBuilder.TextsNonempty`: a builder never holds an empty text node.
* `Document.parse_walk`: the walk of a parsed forest is the trace of the document's tokens, then
  the elements open at the end left, innermost first.
-/

/-- The walk of open elements from `depth` on, outermost first: each entered, then its children
    so far. -/
def OpenElement.walkOpen : List OpenElement → Nat → List Step
  | [], _ => []
  | e :: es, depth =>
    .enter e.name e.attrs depth :: Node.forestWalk (depth + 1) e.revChildren.reverse ++
      OpenElement.walkOpen es (depth + 1)

theorem OpenElement.walkOpen_append (es fs : List OpenElement) (depth : Nat) :
    walkOpen (es ++ fs) depth = walkOpen es depth ++ walkOpen fs (depth + es.length) := by
  induction es generalizing depth with
  | nil => rfl
  | cons e es ih =>
    rw [List.cons_append, walkOpen, walkOpen, ih, List.length_cons]
    simp [Nat.add_assoc, Nat.add_comm 1]

namespace TreeBuilder

/-- The walk of what a builder holds: the top level, then the open elements from the outermost
    in, entered and not yet left. -/
def walk (b : TreeBuilder) : List Step :=
  Node.forestWalk 0 b.revRoot.reverse ++ OpenElement.walkOpen b.stack.reverse 0

/-- A builder's walk is that of the builder without its innermost open element, then that
    element entered, then its children so far. -/
theorem walk_cons (root : List Node) (e : OpenElement) (es : List OpenElement) :
    walk ⟨root, e :: es⟩ = walk ⟨root, es⟩ ++
      .enter e.name e.attrs es.length :: Node.forestWalk (es.length + 1) e.revChildren.reverse := by
  simp [walk, OpenElement.walkOpen_append, OpenElement.walkOpen]

theorem walk_addNode (b : TreeBuilder) (n : Node) :
    (b.addNode n).walk = b.walk ++ n.walk b.stack.length := by
  obtain ⟨root, stack⟩ := b
  cases stack with
  | nil => simp [addNode, walk, Node.forestWalk_append, OpenElement.walkOpen]
  | cons e es => simp [addNode, walk_cons, Node.forestWalk_append]

theorem walk_openElement (b : TreeBuilder) (name : String) (attrs : Attributes) :
    (b.openElement name attrs).walk = b.walk ++ [.enter name attrs b.stack.length] := by
  obtain ⟨root, stack⟩ := b
  simp [openElement, walk, OpenElement.walkOpen_append, OpenElement.walkOpen]

/-- Closing the innermost open element leaves it, one level above its children. -/
theorem walk_pop {b : TreeBuilder} {e : OpenElement} {es : List OpenElement}
    (h : b.stack = e :: es) : b.pop.walk = b.walk ++ [.leave e.name es.length] := by
  obtain ⟨root, stack⟩ := b
  subst h
  simp [pop, walk_addNode, walk_cons, OpenElement.toNode]

theorem length_stack_pop {b : TreeBuilder} {e : OpenElement} {es : List OpenElement}
    (h : b.stack = e :: es) : b.pop.stack.length = es.length := by
  obtain ⟨root, stack⟩ := b
  subst h
  simp only [pop]
  unfold addNode
  cases es <;> rfl

/-- Closing the innermost `k` open elements leaves them, innermost first. -/
theorem walk_popN : ∀ (k : Nat) (b : TreeBuilder), k ≤ b.stack.length →
    (popN k b).walk = b.walk ++ Step.leaves (b.names.take k) b.stack.length
  | 0, b, _ => by simp [popN, Step.leaves]
  | k + 1, b, hk => by
    obtain ⟨e, es, hstack⟩ : ∃ e es, b.stack = e :: es := by
      cases h : b.stack with
      | nil => rw [h] at hk; simp at hk
      | cons e es => exact ⟨e, es, rfl⟩
    have hlen := length_stack_pop hstack
    rw [popN, walk_popN k b.pop (by rw [hlen]; simp [hstack] at hk; omega), walk_pop hstack,
      names_pop, hlen]
    simp [names, hstack, Step.leaves]

/-- Text merged into a last text node adds, character by character, what a new text node
    adds. -/
theorem chars_forestWalk_mergeText (s : String) (nodes : List Node) (depth : Nat) :
    (Node.forestWalk depth (mergeText s nodes).reverse).flatMap Step.chars =
      (Node.forestWalk depth nodes.reverse).flatMap Step.chars ++ Step.charsOf s depth := by
  match nodes with
  | .text d :: rest => simp [mergeText, Node.forestWalk_append, Step.charsOf_append]
  | [] => simp [mergeText]
  | .element _ _ _ :: _ => simp [mergeText, Node.forestWalk_append]

theorem chars_walk_addText (b : TreeBuilder) (s : String) :
    (b.addText s).walk.flatMap Step.chars =
      b.walk.flatMap Step.chars ++ Step.charsOf s b.stack.length := by
  unfold addText
  split
  · next hs => simp [String.isEmpty_iff.mp hs]
  · obtain ⟨root, stack⟩ := b
    cases stack with
    | nil => simp [walk, OpenElement.walkOpen, chars_forestWalk_mergeText]
    | cons e es => simp [walk_cons, chars_forestWalk_mergeText]

/-- Closing a builder leaves its open elements, innermost first. -/
theorem forestWalk_finish (b : TreeBuilder) :
    Node.forestWalk 0 b.finish = b.walk ++ Step.leaves b.names b.stack.length := by
  have hpop := walk_popN b.stack.length b (Nat.le_refl _)
  have hnames : b.names.take b.stack.length = b.names :=
    List.take_of_length_le (by simp [names])
  have hstack : (popN b.stack.length b).stack = [] := by
    have h := names_popN b.stack.length b
    rw [names, names, List.drop_eq_nil_of_le (by simp)] at h
    exact List.map_eq_nil_iff.mp h
  rw [hnames] at hpop
  rw [← hpop, finish, walk, hstack]
  simp [OpenElement.walkOpen]

/-! ### No empty text -/

/-- No node a builder holds, closed or open, has empty text. -/
def TextsNonempty (b : TreeBuilder) : Prop :=
  Node.forestTextsNonempty b.revRoot = true ∧
    ∀ e ∈ b.stack, Node.forestTextsNonempty e.revChildren = true

theorem forestTextsNonempty_reverse (ns : List Node) :
    Node.forestTextsNonempty ns.reverse = Node.forestTextsNonempty ns := by
  induction ns with
  | nil => rfl
  | cons n ns ih =>
    rw [List.reverse_cons, Node.forestTextsNonempty_append, ih]
    simp [Bool.and_comm]

theorem textsNonempty_empty : empty.TextsNonempty := by
  simp [TextsNonempty, empty]

theorem TextsNonempty.addNode {b : TreeBuilder} (hb : b.TextsNonempty) {n : Node}
    (hn : n.textsNonempty = true) : (b.addNode n).TextsNonempty := by
  obtain ⟨root, stack⟩ := b
  obtain ⟨hroot, hstack⟩ := hb
  cases stack with
  | nil => exact ⟨by simp [TreeBuilder.addNode, hn, hroot], by simp [TreeBuilder.addNode]⟩
  | cons e es =>
    refine ⟨hroot, ?_⟩
    intro e' he'
    simp only [TreeBuilder.addNode, List.mem_cons] at he'
    rcases he' with rfl | he'
    · simp [hn, hstack e List.mem_cons_self]
    · exact hstack e' (List.mem_cons_of_mem _ he')

theorem forestTextsNonempty_mergeText {s : String} (hs : s ≠ "") {nodes : List Node}
    (h : Node.forestTextsNonempty nodes = true) :
    Node.forestTextsNonempty (mergeText s nodes) = true := by
  match nodes with
  | .text d :: rest =>
    simp only [Node.forestTextsNonempty_cons, Bool.and_eq_true] at h
    simp [mergeText, Node.textsNonempty, hs, h.2]
  | [] => simp [mergeText, Node.textsNonempty, hs]
  | .element _ _ _ :: _ => simp [mergeText, Node.textsNonempty, hs, h]

theorem TextsNonempty.addText {b : TreeBuilder} (hb : b.TextsNonempty) (s : String) :
    (b.addText s).TextsNonempty := by
  unfold TreeBuilder.addText
  split
  · exact hb
  · next hs =>
    have hs : s ≠ "" := fun h => hs (String.isEmpty_iff.mpr h)
    obtain ⟨root, stack⟩ := b
    obtain ⟨hroot, hstack⟩ := hb
    cases stack with
    | nil => exact ⟨forestTextsNonempty_mergeText hs hroot, by simp⟩
    | cons e es =>
      refine ⟨hroot, ?_⟩
      intro e' he'
      simp only [List.mem_cons] at he'
      rcases he' with rfl | he'
      · exact forestTextsNonempty_mergeText hs (hstack e List.mem_cons_self)
      · exact hstack e' (List.mem_cons_of_mem _ he')

theorem TextsNonempty.openElement {b : TreeBuilder} (hb : b.TextsNonempty) (name : String)
    (attrs : Attributes) : (b.openElement name attrs).TextsNonempty := by
  refine ⟨hb.1, ?_⟩
  intro e he
  simp only [TreeBuilder.openElement, List.mem_cons] at he
  rcases he with rfl | he
  · rfl
  · exact hb.2 e he

theorem TextsNonempty.pop {b : TreeBuilder} (hb : b.TextsNonempty) : b.pop.TextsNonempty := by
  obtain ⟨root, stack⟩ := b
  cases stack with
  | nil => exact hb
  | cons e es =>
    have hrest : TextsNonempty ⟨root, es⟩ :=
      ⟨hb.1, fun e' he' => hb.2 e' (List.mem_cons_of_mem _ he')⟩
    have he : e.toNode.textsNonempty = true := by
      simp [OpenElement.toNode, Node.textsNonempty, forestTextsNonempty_reverse,
        hb.2 e List.mem_cons_self]
    exact hrest.addNode he

theorem TextsNonempty.popN {b : TreeBuilder} (hb : b.TextsNonempty) :
    ∀ k, (TreeBuilder.popN k b).TextsNonempty := by
  intro k
  induction k generalizing b with
  | zero => exact hb
  | succ k ih => exact ih hb.pop

theorem TextsNonempty.feed {b b' : TreeBuilder} (hb : b.TextsNonempty) {t : Token} {p : Nat}
    (h : b.feed t p = .ok b') : b'.TextsNonempty := by
  cases t with
  | text s | cdata s | ref s =>
    simp only [TreeBuilder.feed, Except.ok.injEq] at h
    subst h
    exact hb.addText _
  | start content =>
    simp only [TreeBuilder.feed, Except.ok.injEq] at h
    subst h
    split
    · exact hb.addNode (by simp [Node.textsNonempty])
    · exact hb.openElement _ _
  | empty content =>
    simp only [TreeBuilder.feed, Except.ok.injEq] at h
    subst h
    exact hb.addNode (by simp [Node.textsNonempty])
  | close name =>
    simp only [TreeBuilder.feed] at h
    rw [close?_eq] at h
    cases hidx : b.names.findIdx? (equalsIgnoringAsciiCase · name) with
    | some i =>
      simp only [hidx, Option.map_some, Except.ok.injEq] at h
      subst h
      exact hb.popN (i + 1)
    | none =>
      simp only [hidx, Option.map_none] at h
      split at h
      · cases h
        exact hb
      · cases h
  | comment _ | declaration _ | instruction _ | doctype _ =>
    simp only [TreeBuilder.feed, Except.ok.injEq] at h
    subst h
    exact hb

theorem TextsNonempty.foldlM_feed {ts : List (Token × Nat)} {b b' : TreeBuilder}
    (hb : b.TextsNonempty) (h : ts.foldlM (fun b tp => b.feed tp.1 tp.2) b = .ok b') :
    b'.TextsNonempty :=
  @foldlM_feed_induct (fun _ b => b.TextsNonempty) (fun hb hfeed => hb.feed hfeed) ts [] b b' hb h

theorem TextsNonempty.finish {b : TreeBuilder} (hb : b.TextsNonempty) :
    Node.forestTextsNonempty b.finish = true := by
  rw [TreeBuilder.finish, forestTextsNonempty_reverse]
  exact (hb.popN _).1

end TreeBuilder

/-! ### What tokens add -/

namespace Token

/-- What a token adds to the listing: an element for a start or empty tag, the characters of
    text and CDATA, a reference as `&name;`, and nothing for the rest. -/
def items : Token → List Item
  | .start content | .empty content => [.element (splitTag content).1 (splitTag content).2]
  | .text s | .cdata s => s.toList.map .char
  | .ref name => ("&" ++ name ++ ";").toList.map .char
  | .close _ | .comment _ | .declaration _ | .instruction _ | .doctype _ => []

/-- Whether a token is a start or an empty tag, which give an element. -/
def isElementTag : Token → Bool
  | .start _ | .empty _ => true
  | _ => false

/-- The steps a token adds to the walk of what is built, `names` being the names of the open
    elements, innermost first: text one step per character; an element entered, and left at
    once when it takes no children; the elements a closing tag closes left, innermost first. -/
def steps (names : List String) : Token → List Step
  | .text s | .cdata s => Step.charsOf s names.length
  | .ref name => Step.charsOf ("&" ++ name ++ ";") names.length
  | .start content =>
    if isVoidElement (splitTag content).1 then
      [.enter (splitTag content).1 (splitTag content).2 names.length,
        .leave (splitTag content).1 names.length]
    else [.enter (splitTag content).1 (splitTag content).2 names.length]
  | .empty content =>
    [.enter (splitTag content).1 (splitTag content).2 names.length,
      .leave (splitTag content).1 names.length]
  | .close name =>
    match names.findIdx? (equalsIgnoringAsciiCase · name) with
    | some i => Step.leaves (names.take (i + 1)) names.length
    | none => []
  | .comment _ | .declaration _ | .instruction _ | .doctype _ => []

/-- The steps a run of tokens adds, read with `names` open. -/
def trace (names : List String) : List Token → List Step
  | [] => []
  | t :: ts => steps names t ++ trace (openAfter names t) ts

theorem trace_append (names : List String) (ts us : List Token) :
    trace names (ts ++ us) = trace names ts ++ trace (ts.foldl openAfter names) us := by
  induction ts generalizing names with
  | nil => rfl
  | cons t ts ih => simp [trace, ih]

/-- The trace of a run around one of its tokens, read from nothing open: the tokens before
    it, its steps for the names they leave open, then the tokens after it. -/
theorem trace_split (pre post : List Token) (t : Token) :
    trace [] (pre ++ t :: post) =
      trace [] pre ++ (steps (openNames pre) t ++ trace (openAfter (openNames pre) t) post) := by
  rw [trace_append]
  rfl

/-- A token's steps list what the token lists. -/
@[simp] theorem flatMap_items_steps (names : List String) (t : Token) :
    (steps names t).flatMap Step.items = t.items := by
  cases t with
  | text s | cdata s | ref s => simp [steps, items]
  | start content =>
    by_cases hvoid : isVoidElement (splitTag content).1 <;> simp [steps, hvoid, Step.items, items]
  | empty content => simp [steps, Step.items, items]
  | close name =>
    cases hidx : names.findIdx? (equalsIgnoringAsciiCase · name) <;> simp [steps, hidx, items]
  | comment _ | declaration _ | instruction _ | doctype _ => rfl

theorem flatMap_items_trace (names : List String) (ts : List Token) :
    (trace names ts).flatMap Step.items = ts.flatMap items := by
  induction ts generalizing names with
  | nil => rfl
  | cons t ts ih => simp [trace, ih]

/-- A token's steps enter one element for a start or empty tag and none otherwise. -/
theorem countP_isEnter_steps (names : List String) (t : Token) :
    (steps names t).countP Step.isEnter = if t.isElementTag then 1 else 0 := by
  cases t with
  | text s | cdata s | ref s =>
    exact List.countP_eq_zero.mpr fun u hu => by simp [(Step.mem_charsOf hu).2]
  | start content =>
    by_cases hvoid : isVoidElement (splitTag content).1 <;>
      simp [steps, hvoid, Step.isEnter, isElementTag, List.countP_cons]
  | empty content => simp [steps, Step.isEnter, isElementTag, List.countP_cons]
  | close name =>
    cases hidx : names.findIdx? (equalsIgnoringAsciiCase · name) <;>
      simp [steps, hidx, isElementTag]
  | comment _ | declaration _ | instruction _ | doctype _ => rfl

theorem countP_isEnter_trace (names : List String) (ts : List Token) :
    (trace names ts).countP Step.isEnter = ts.countP isElementTag := by
  induction ts generalizing names with
  | nil => rfl
  | cons t ts ih =>
    rw [trace, List.countP_append, countP_isEnter_steps, ih, List.countP_cons]
    omega

end Token

namespace TreeBuilder

/-- **Feeding a token adds its steps.** A token fed without error adds to the walk of what is
    built, text cut into characters, the steps `Token.steps` gives for the open names. -/
theorem chars_walk_feed {b b' : TreeBuilder} {t : Token} {p : Nat} (h : b.feed t p = .ok b') :
    b'.walk.flatMap Step.chars = b.walk.flatMap Step.chars ++ Token.steps b.names t := by
  have hlen : b.names.length = b.stack.length := List.length_map _
  cases t with
  | text s | cdata s | ref s =>
    simp only [feed, Except.ok.injEq] at h
    subst h
    rw [chars_walk_addText, Token.steps, hlen]
  | start content =>
    simp only [feed, Except.ok.injEq] at h
    subst h
    by_cases hvoid : isVoidElement (splitTag content).1
    · simp [Token.steps, hvoid, addLeaf, walk_addNode, hlen]
    · simp [Token.steps, hvoid, walk_openElement, hlen]
  | empty content =>
    simp only [feed, Except.ok.injEq] at h
    subst h
    simp [Token.steps, addLeaf, walk_addNode, hlen]
  | close name =>
    simp only [feed] at h
    rw [close?_eq] at h
    cases hidx : b.names.findIdx? (equalsIgnoringAsciiCase · name) with
    | some i =>
      simp only [hidx, Option.map_some, Except.ok.injEq] at h
      subst h
      have hi : i < b.names.length := (List.findIdx?_eq_some_iff_getElem.mp hidx).1
      rw [walk_popN (i + 1) b (by omega), List.flatMap_append, Step.flatMap_chars_leaves,
        Token.steps, hidx, hlen]
    | none =>
      simp only [hidx, Option.map_none] at h
      split at h
      · cases h
        simp [Token.steps, hidx]
      · cases h
  | comment _ | declaration _ | instruction _ | doctype _ =>
    simp only [feed, Except.ok.injEq] at h
    subst h
    simp [Token.steps]

/-- **Feeding a run adds its trace.** Tokens fed without error add to the walk of what is
    built, text cut into characters, their trace from the open names on. -/
theorem chars_walk_foldlM_feed {ts : List (Token × Nat)} {b b' : TreeBuilder}
    (h : ts.foldlM (fun b tp => b.feed tp.1 tp.2) b = .ok b') :
    b'.walk.flatMap Step.chars = b.walk.flatMap Step.chars ++ Token.trace b.names (ts.map Prod.fst) := by
  -- the names open along the run are carried with the walk, as the next step's steps need them
  have hrun := @foldlM_feed_induct (fun done b' =>
      b'.walk.flatMap Step.chars = b.walk.flatMap Step.chars ++ Token.trace b.names done ∧
        b'.names = done.foldl Token.openAfter b.names)
    (fun ⟨hwalk, hnames⟩ hfeed => by
      refine ⟨?_, by rw [names_feed hfeed, hnames, List.foldl_append, List.foldl_cons,
        List.foldl_nil]⟩
      rw [chars_walk_feed hfeed, hwalk, hnames, Token.trace_append, List.append_assoc]
      simp [Token.trace])
    ts [] b b' ⟨by simp [Token.trace], rfl⟩ h
  simpa using hrun.1

/-- A stream fed without error is its tokens fed without error, with no fault after them. -/
theorem foldlM_of_feedStream {b b' : TreeBuilder} {stream : TokenStream}
    (h : b.feedStream stream = .ok b') :
    stream.tokens.foldlM (fun b tp => b.feed tp.1 tp.2) b = .ok b' := by
  unfold feedStream at h
  cases hfold : stream.tokens.foldlM (fun b tp => b.feed tp.1 tp.2) b with
  | error e =>
    rw [hfold] at h
    cases h
  | ok b₁ =>
    rw [hfold] at h
    cases hfault : stream.fault with
    | some fp =>
      rw [hfault] at h
      cases h
    | none =>
      rw [hfault] at h
      cases h
      rfl

end TreeBuilder

/-- **The walk of a parsed forest.** The walk of the forest a document parses to, text cut into
    characters, is the trace of its tokens, then the elements still open at the end left,
    innermost first. No text node of the forest is empty. -/
theorem Document.parse_walk {s : String} {forest : List Node} (h : Document.parse s = .ok forest) :
    (Node.forestWalk 0 forest).flatMap Step.chars =
      Token.trace [] (Document.tokens s) ++
        Step.leaves (Token.openNames (Document.tokens s))
          (Token.openNames (Document.tokens s)).length ∧
    Node.forestTextsNonempty forest = true := by
  rw [Document.parse_eq_stream] at h
  cases hstream : TreeBuilder.empty.feedStream (Document.stream s) with
  | error e =>
    rw [hstream] at h
    cases h
  | ok b =>
    rw [hstream] at h
    cases h
    have hfold := TreeBuilder.foldlM_of_feedStream hstream
    have hnames : b.names = Token.openNames (Document.tokens s) := by
      rw [TreeBuilder.names_foldlM_feed hfold]
      rfl
    have hlen : b.stack.length = b.names.length := (List.length_map _).symm
    refine ⟨?_, (TreeBuilder.textsNonempty_empty.foldlM_feed hfold).finish⟩
    rw [TreeBuilder.forestWalk_finish, List.flatMap_append, TreeBuilder.chars_walk_foldlM_feed hfold,
      Step.flatMap_chars_leaves, hlen, hnames]
    rfl

end Tagweave
