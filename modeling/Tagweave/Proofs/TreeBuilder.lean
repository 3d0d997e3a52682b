import Tagweave.Markup.Tree
import Tagweave.Proofs.Tokenizer

namespace Tagweave

/-!
# Building trees from tokens

What feeding tokens does to a `TreeBuilder`.

* `TreeBuilder.top` is the list of nodes that the next node joins, newest first: the
  children of the innermost open element, or the top level. A node goes in front of it;
  text merges with a text node in front (`TreeBuilder.addText_append`), so text that
  arrives in several tokens becomes one node.
* `TreeBuilder.Feeds ts b b'`: the tokens `ts`, fed to `b` in order, give `b'` without
  error, whatever offset their positions count from. It composes along `++`.
* Text and reference tokens add the text they spell (`TreeBuilder.feeds_spelling`); a start
  tag opens an element, which the closing tag of the same name then closes with the nodes
  added in between as its children (`TreeBuilder.pop_addNodes_openElement`); a closing tag
  of a void element that is not open is skipped (`TreeBuilder.feeds_close_void`).
-/

/-- Whether a list of nodes starts with a text node. -/
def Node.leadsWithText : List Node → Bool
  | n :: _ => n.isText
  | [] => false

theorem equalsIgnoringAsciiCase_self (a : String) : equalsIgnoringAsciiCase a a = true := by
  simp [equalsIgnoringAsciiCase]

/-- Element names that are equal up to ASCII case are void together. -/
theorem isVoidElement_congr {a b : String} (h : equalsIgnoringAsciiCase a b = true) :
    isVoidElement a = isVoidElement b := by
  have hlower : a.toList.map Char.toLower = b.toList.map Char.toLower := by
    simpa [equalsIgnoringAsciiCase] using h
  simp [isVoidElement, equalsIgnoringAsciiCase, hlower]

namespace TreeBuilder

/-! ### Where the next node goes -/

/-- The nodes the next node joins, newest first. -/
def top (b : TreeBuilder) : List Node :=
  match b.stack with
  | [] => b.revRoot
  | e :: _ => e.revChildren

/-- No open element has a void name, so a closing tag of a void name closes nothing. -/
def Ready (b : TreeBuilder) : Prop :=
  ∀ x ∈ b.stack.map OpenElement.name, isVoidElement x = false

@[simp] theorem top_addNode (b : TreeBuilder) (n : Node) : (b.addNode n).top = n :: b.top := by
  unfold addNode top
  cases b.stack <;> rfl

@[simp] theorem names_addNode (b : TreeBuilder) (n : Node) :
    (b.addNode n).stack.map OpenElement.name = b.stack.map OpenElement.name := by
  unfold addNode
  cases b.stack <;> rfl

@[simp] theorem top_openElement (b : TreeBuilder) (name : String) (attrs : Attributes) :
    (b.openElement name attrs).top = [] := rfl

@[simp] theorem names_openElement (b : TreeBuilder) (name : String) (attrs : Attributes) :
    (b.openElement name attrs).stack.map OpenElement.name =
      name :: b.stack.map OpenElement.name := rfl

theorem Ready.addNode {b : TreeBuilder} (h : b.Ready) (n : Node) : (b.addNode n).Ready := by
  intro x hx
  rw [names_addNode] at hx
  exact h x hx

theorem Ready.openElement {b : TreeBuilder} (h : b.Ready) {name : String}
    (hname : isVoidElement name = false) (attrs : Attributes) : (b.openElement name attrs).Ready := by
  intro x hx
  rw [names_openElement, List.mem_cons] at hx
  rcases hx with rfl | hx
  · exact hname
  · exact h x hx

theorem ready_empty : empty.Ready := by
  simp [Ready, empty]

/-! ### Text -/

theorem mergeText_mergeText (x y : String) (nodes : List Node) :
    mergeText y (mergeText x nodes) = mergeText (x ++ y) nodes := by
  match nodes with
  | .text d :: rest => simp [mergeText, String.append_assoc]
  | [] => rfl
  | .element _ _ _ :: _ => rfl

theorem addText_empty (b : TreeBuilder) : b.addText "" = b := by
  simp [addText]

/-- Text added in two steps is the same as the two texts added at once. -/
theorem addText_append (b : TreeBuilder) (x y : String) :
    (b.addText x).addText y = b.addText (x ++ y) := by
  by_cases hx : x = ""
  · subst hx
    rw [addText_empty, String.empty_append]
  by_cases hy : y = ""
  · subst hy
    rw [addText_empty, String.append_empty]
  have hxy : x ++ y ≠ "" := by
    intro h
    exact hx (String.append_eq_empty_iff.mp h).1
  unfold addText
  simp only [String.isEmpty_iff, hx, hy, hxy, if_false]
  cases b.stack <;> simp [mergeText_mergeText]

/-- Nonempty text that does not follow text is a new text node. -/
theorem addText_eq_addNode {b : TreeBuilder} {s : String} (hs : s ≠ "")
    (htop : Node.leadsWithText b.top = false) : b.addText s = b.addNode (.text s) := by
  have hmerge : ∀ nodes : List Node, Node.leadsWithText nodes = false →
      mergeText s nodes = .text s :: nodes := by
    intro nodes hnodes
    match nodes with
    | [] => rfl
    | .element _ _ _ :: _ => rfl
    | .text _ :: _ => simp [Node.leadsWithText, Node.isText] at hnodes
  unfold addText addNode
  simp only [String.isEmpty_iff, hs, if_false]
  unfold top at htop
  cases hstack : b.stack with
  | nil =>
    rw [hstack] at htop
    simp [hmerge _ htop]
  | cons e es =>
    rw [hstack] at htop
    simp [hmerge _ htop]

@[simp] theorem names_addText (b : TreeBuilder) (s : String) :
    (b.addText s).stack.map OpenElement.name = b.stack.map OpenElement.name := by
  unfold addText
  split
  · rfl
  · cases b.stack <;> rfl

/-! ### Runs of nodes -/

/-- Add nodes one after another. -/
def addNodes (b : TreeBuilder) (nodes : List Node) : TreeBuilder := nodes.foldl addNode b

@[simp] theorem addNodes_nil (b : TreeBuilder) : b.addNodes [] = b := rfl

@[simp] theorem addNodes_cons (b : TreeBuilder) (n : Node) (nodes : List Node) :
    b.addNodes (n :: nodes) = (b.addNode n).addNodes nodes := rfl

theorem addNodes_inner (revRoot : List Node) (e : OpenElement) (es : List OpenElement)
    (nodes : List Node) :
    (TreeBuilder.mk revRoot (e :: es)).addNodes nodes =
      ⟨revRoot, { e with revChildren := nodes.reverse ++ e.revChildren } :: es⟩ := by
  induction nodes generalizing e with
  | nil => rfl
  | cons n rest ih =>
    rw [addNodes_cons]
    simp only [addNode]
    rw [ih]
    simp

theorem addNodes_top_level (revRoot : List Node) (nodes : List Node) :
    (TreeBuilder.mk revRoot []).addNodes nodes = ⟨nodes.reverse ++ revRoot, []⟩ := by
  induction nodes generalizing revRoot with
  | nil => rfl
  | cons n rest ih =>
    rw [addNodes_cons]
    simp only [addNode]
    rw [ih]
    simp

/-- The nodes added between opening an element and closing it become its children. -/
theorem pop_addNodes_openElement (b : TreeBuilder) (name : String) (attrs : Attributes)
    (children : List Node) :
    ((b.openElement name attrs).addNodes children).pop = b.addNode (.element name attrs children) := by
  have hinner := addNodes_inner b.revRoot ⟨name, attrs, []⟩ b.stack children
  simp only [openElement]
  rw [hinner]
  simp [pop, OpenElement.toNode, addNode]

theorem stack_addNodes_openElement (b : TreeBuilder) (name : String) (attrs : Attributes)
    (children : List Node) :
    ((b.openElement name attrs).addNodes children).stack =
      ⟨name, attrs, children.reverse⟩ :: b.stack := by
  have hinner := addNodes_inner b.revRoot ⟨name, attrs, []⟩ b.stack children
  simp only [openElement]
  rw [hinner]
  simp

/-- A forest added to an empty builder is what it finishes with. -/
theorem finish_addNodes_empty (nodes : List Node) : (empty.addNodes nodes).finish = nodes := by
  have htop := addNodes_top_level [] nodes
  simp only [empty]
  rw [htop]
  simp [finish, popN]

/-- An empty builder given text finishes with one text node, or none for empty text. -/
theorem finish_addText_empty (s : String) :
    (empty.addText s).finish = if s = "" then [] else [.text s] := by
  by_cases hs : s = ""
  · subst hs
    simp [addText_empty, finish, popN, empty]
  · simp [addText, hs, empty, finish, popN, mergeText]

/-! ### Feeding tokens -/

/-- The tokens `ts`, fed to `b` in order, give `b'` without error, whatever offset their
    positions count from. -/
def Feeds (ts : List (Token × Nat)) (b b' : TreeBuilder) : Prop :=
  ∀ base, ts.foldlM (fun b tp => b.feed tp.1 (base + tp.2)) b = .ok b'

theorem feeds_nil (b : TreeBuilder) : Feeds [] b b := fun _ => rfl

theorem Feeds.append {ts us : List (Token × Nat)} {b b' b'' : TreeBuilder} (h : Feeds ts b b')
    (h' : Feeds us b' b'') : Feeds (ts ++ us) b b'' := by
  intro base
  rw [List.foldlM_append, h base]
  exact h' base

/-- One token that is fed without error wherever it stands. -/
theorem feeds_single {t : Token} {b b' : TreeBuilder} (h : ∀ p, b.feed t p = .ok b') (q : Nat) :
    Feeds [(t, q)] b b' := by
  intro base
  simp only [List.foldlM_cons, List.foldlM_nil]
  rw [h]
  rfl

/-- A piece is fed token by token, each at its offset from the piece's base; then its fault,
    if it has one, fails it. -/
theorem feedPiece_eq (b : TreeBuilder) (base : Nat) (stream : TokenStream) :
    b.feedPiece base stream =
      stream.tokens.foldlM (fun b tp => b.feed tp.1 (base + tp.2)) b >>= fun b =>
        match stream.fault with
        | some (fault, pos) => .error (.malformed (base + pos) fault)
        | none => .ok b :=
  rfl

/-- A piece whose tokens feed without error ends as its fault says. -/
theorem feedPiece_feeds {stream : TokenStream} {b b' : TreeBuilder}
    (h : Feeds stream.tokens b b') (base : Nat) :
    b.feedPiece base stream = match stream.fault with
      | some (fault, pos) => .error (.malformed (base + pos) fault)
      | none => .ok b' := by
  rw [feedPiece_eq, h base]
  rfl

/-- A piece whose tokens feed without error and that has no fault gives their result. -/
theorem feedPiece_of_feeds {stream : TokenStream} {b b' : TreeBuilder}
    (h : Feeds stream.tokens b b') (hfault : stream.fault = none) (base : Nat) :
    b.feedPiece base stream = .ok b' := by
  rw [feedPiece_feeds h, hfault]

/-- A piece whose tokens feed without error fails with its fault, placed in the document. -/
theorem feedPiece_of_feeds_fault {stream : TokenStream} {b b' : TreeBuilder}
    (h : Feeds stream.tokens b b') {f : MarkupFault} {q : Nat}
    (hfault : stream.fault = some (f, q)) (base : Nat) :
    b.feedPiece base stream = .error (.malformed (base + q) f) := by
  rw [feedPiece_feeds h, hfault]

/-- Text and reference tokens add the text they spell. -/
theorem feeds_spelling {ts : List (Token × Nat)} {cs : List Char}
    (h : Token.spelling (ts.map Prod.fst) = some cs) (b : TreeBuilder) :
    Feeds ts b (b.addText (String.ofList cs)) := by
  induction ts generalizing b cs with
  | nil =>
    simp only [List.map_nil, Token.spelling, Option.some.injEq] at h
    subst h
    rw [String.ofList_nil, addText_empty]
    exact feeds_nil b
  | cons tp rest ih =>
    obtain ⟨t, p⟩ := tp
    cases t with
    | text s =>
      obtain ⟨more, hmore, rfl⟩ := Option.map_eq_some_iff.mp h
      have hrest := ih hmore (b.addText s)
      rw [addText_append] at hrest
      have hstep : Feeds [(.text s, p)] b (b.addText s) := feeds_single (fun _ => rfl) p
      have hs : s ++ String.ofList more = String.ofList (s.toList ++ more) := by
        simp
      rw [hs] at hrest
      exact hstep.append hrest
    | ref name =>
      obtain ⟨more, hmore, rfl⟩ := Option.map_eq_some_iff.mp h
      have hrest := ih hmore (b.addText ("&" ++ name ++ ";"))
      rw [addText_append] at hrest
      have hstep : Feeds [(.ref name, p)] b (b.addText ("&" ++ name ++ ";")) :=
        feeds_single (fun _ => rfl) p
      have hs : "&" ++ name ++ ";" ++ String.ofList more =
          String.ofList ('&' :: name.toList ++ ';' :: more) := by
        apply String.toList_injective
        simp
      rw [hs] at hrest
      exact hstep.append hrest
    | cdata _ | comment _ | declaration _ | instruction _ | doctype _ | start _ | empty _
    | close _ => simp [Token.spelling] at h

/-- A start tag of a name that is not void opens an element. -/
theorem feeds_start_open {content name : String} {attrs : Attributes}
    (hsplit : splitTag content = (name, attrs)) (hvoid : isVoidElement name = false)
    (b : TreeBuilder) (q : Nat) : Feeds [(.start content, q)] b (b.openElement name attrs) := by
  apply feeds_single
  intro p
  simp [feed, hsplit, hvoid]

/-- A start tag of a void name is a childless element. -/
theorem feeds_start_void {content name : String} {attrs : Attributes}
    (hsplit : splitTag content = (name, attrs)) (hvoid : isVoidElement name = true)
    (b : TreeBuilder) (q : Nat) :
    Feeds [(.start content, q)] b (b.addNode (.element name attrs [])) := by
  apply feeds_single
  intro p
  simp [feed, hsplit, hvoid, addLeaf]

/-- A closing tag whose name is that of the innermost open element closes it. -/
theorem feeds_close_innermost {b : TreeBuilder} {e : OpenElement} {es : List OpenElement}
    {name : String} (hstack : b.stack = e :: es) (hname : equalsIgnoringAsciiCase e.name name = true)
    (q : Nat) : Feeds [(.close name, q)] b b.pop := by
  apply feeds_single
  intro p
  simp [feed, close?, hstack, hname, List.findIdx?_cons, popN]

/-- The closing tag of the element opened last closes it, with the nodes added since as its
    children. -/
theorem feeds_close_openElement (b : TreeBuilder) (name : String) (attrs : Attributes)
    (children : List Node) (q : Nat) :
    Feeds [(.close name, q)] ((b.openElement name attrs).addNodes children)
      (b.addNode (.element name attrs children)) := by
  rw [← pop_addNodes_openElement]
  exact feeds_close_innermost (stack_addNodes_openElement b name attrs children)
    (equalsIgnoringAsciiCase_self name) q

/-- A closing tag of a void name is skipped when no void element is open. -/
theorem feeds_close_void {b : TreeBuilder} (hready : b.Ready) {name : String}
    (hvoid : isVoidElement name = true) (q : Nat) : Feeds [(.close name, q)] b b := by
  apply feeds_single
  intro p
  -- an open element of that name, up to case, would be void itself
  have hnone : b.close? name = none := by
    simp only [close?, Option.map_eq_none_iff, List.findIdx?_eq_none_iff]
    intro e he
    cases hmatch : equalsIgnoringAsciiCase e.name name with
    | false => rfl
    | true =>
      have hopen := hready e.name (List.mem_map_of_mem he)
      rw [isVoidElement_congr hmatch, hvoid] at hopen
      cases hopen
  simp [feed, hnone, hvoid]

/-! ### Malformed markup -/

/-- Feeding a token fails only on a closing tag that closes nothing, never as malformed
    markup. -/
theorem feed_ne_malformed (b : TreeBuilder) (t : Token) (position p : Nat) (f : MarkupFault) :
    b.feed t position ≠ .error (.malformed p f) := by
  cases t with
  | close name =>
    simp only [feed]
    split
    · exact fun h => by cases h
    · split <;> exact fun h => by cases h
  | text _ | cdata _ | ref _ | start _ | empty _ | comment _ | declaration _ | instruction _
  | doctype _ => simp [feed]

theorem foldlM_feed_ne_malformed : ∀ (ts : List (Token × Nat)) (b : TreeBuilder) (base p : Nat)
    (f : MarkupFault),
    ts.foldlM (fun b tp => b.feed tp.1 (base + tp.2)) b ≠ .error (.malformed p f)
  | [], b, _, _, _ => fun h => by cases h
  | tp :: ts, b, base, p, f => by
    rw [List.foldlM_cons]
    cases hfeed : b.feed tp.1 (base + tp.2) with
    | error e =>
      intro h
      cases h
      exact feed_ne_malformed b tp.1 (base + tp.2) p f hfeed
    | ok b' => exact foldlM_feed_ne_malformed ts b' base p f

/-- A piece that fails as malformed markup has that fault. -/
theorem feedPiece_malformed {b : TreeBuilder} {base : Nat} {stream : TokenStream} {p : Nat}
    {f : MarkupFault} (h : b.feedPiece base stream = .error (.malformed p f)) :
    ∃ q, stream.fault = some (f, q) := by
  rw [feedPiece_eq] at h
  cases hfold : stream.tokens.foldlM (fun b tp => b.feed tp.1 (base + tp.2)) b with
  | error e =>
    rw [hfold] at h
    cases h
    exact absurd hfold (foldlM_feed_ne_malformed _ b base p f)
  | ok b' =>
    rw [hfold] at h
    cases hfault : stream.fault with
    | none =>
      rw [hfault] at h
      cases h
    | some fq =>
      rw [hfault] at h
      obtain ⟨fault, q⟩ := fq
      simp only [bind, Except.bind, Except.error.injEq, ParseError.malformed.injEq] at h
      exact ⟨q, by rw [h.2]⟩

end TreeBuilder

/-- A document is read piece by piece: the first into an empty builder, each other one after
    the `<` it was cut at, and the builder is closed at the end. -/
theorem Document.parse_of_pieces {s : String} {base : Nat} {cs : List Char}
    {rest : List (Nat × List Char)} (h : Angle.pieces s = (base, cs) :: rest) :
    Document.parse s =
      (TreeBuilder.empty.feedPiece base (TokenStream.read cs) >>= fun b =>
        rest.foldlM (fun b q => (b.addText "<").feedPiece q.1 (TokenStream.read q.2)) b >>=
          fun b => .ok b.finish) := by
  unfold Document.parse
  rw [h]

end Tagweave
