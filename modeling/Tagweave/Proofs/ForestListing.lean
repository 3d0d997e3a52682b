import Tagweave.Proofs.Walk

namespace Tagweave

/-!
# The listing and the elements of a forest

A forest read in preorder as a flat listing, an element by its name and attributes and text by
its characters, and as the list of its elements. Both are read off its walk
(`Node.forestWalk`) with text cut into one step per character (`Step.chars`), so that text in
one node and the same text in adjacent nodes walk alike.

* `Item` and `Node.forestListing`: the listing. Adjacent texts leave no seam in it and an empty
  text leaves nothing; it is what the walk lists (`Node.forestListing_eq_walk`).
* `Node.forestElements`: the elements in preorder, each entered once by the walk
  (`Node.countP_isEnter_forestWalk`).
* `Node.forestWalk_chars_enter`: where the walk of a forest enters an element, that element is
  the forest's element counted by the elements entered before it, and the walk of its children
  follows, up to the step that leaves it.
* `Step.eq_of_first_shallow`: two runs that stay below a depth until a step at that depth split
  there alike. With it the walk of an element's children is read off any run that enters it.
* `Node.forestTextsNonempty`: no text node is empty. Such a forest walks to nothing only when it
  is empty (`Node.eq_nil_of_chars_forestWalk`).
-/

/-- An entry of the flat listing of a forest: an element, by its name and attributes, or one
    character of text. -/
inductive Item where
  | element (name : String) (attrs : Attributes)
  | char (c : Char)

namespace Step

/-- The depth of a step. -/
def depth : Step → Nat
  | .enter _ _ d | .text _ d | .leave _ d => d

/-- Whether a step enters an element. -/
def isEnter : Step → Bool
  | .enter _ _ _ => true
  | _ => false

/-- Text at a depth, one step per character. -/
def charsOf (s : String) (depth : Nat) : List Step :=
  s.toList.map fun c => .text (String.singleton c) depth

/-- A step with its text cut into one step per character. -/
def chars : Step → List Step
  | .text data depth => charsOf data depth
  | s => [s]

/-- What a step adds to the listing. -/
def items : Step → List Item
  | .enter name attrs _ => [.element name attrs]
  | .text data _ => data.toList.map .char
  | .leave _ _ => []

/-- Leaving the open elements `names`, innermost first, the innermost at depth `height - 1`. -/
def leaves : List String → Nat → List Step
  | [], _ => []
  | name :: names, height => .leave name (height - 1) :: leaves names (height - 1)

@[simp] theorem charsOf_empty (depth : Nat) : charsOf "" depth = [] := rfl

theorem charsOf_append (s t : String) (depth : Nat) :
    charsOf (s ++ t) depth = charsOf s depth ++ charsOf t depth := by
  simp [charsOf, String.toList_append]

theorem mem_charsOf {s : String} {depth : Nat} {u : Step} (h : u ∈ charsOf s depth) :
    u.depth = depth ∧ u.isEnter = false := by
  obtain ⟨c, -, rfl⟩ := List.mem_map.mp h
  exact ⟨rfl, rfl⟩

@[simp] theorem chars_enter (name : String) (attrs : Attributes) (depth : Nat) :
    (Step.enter name attrs depth).chars = [.enter name attrs depth] := rfl

@[simp] theorem chars_text (data : String) (depth : Nat) :
    (Step.text data depth).chars = charsOf data depth := rfl

@[simp] theorem chars_leave (name : String) (depth : Nat) :
    (Step.leave name depth).chars = [.leave name depth] := rfl

/-- Cutting text into characters keeps depths. -/
theorem depth_of_mem_chars {s u : Step} (h : u ∈ s.chars) : u.depth = s.depth := by
  cases s with
  | text data depth => exact (mem_charsOf h).1
  | enter | leave =>
    rw [List.mem_singleton.mp h]

@[simp] theorem flatMap_items_charsOf (s : String) (depth : Nat) :
    (charsOf s depth).flatMap items = s.toList.map .char := by
  simp only [charsOf]
  induction s.toList with
  | nil => rfl
  | cons c cs ih => simp [ih, items, String.toList_singleton]

/-- Cutting text into characters keeps the listing. -/
@[simp] theorem flatMap_items_chars (s : Step) : s.chars.flatMap items = s.items := by
  cases s with
  | text data depth => simp [items]
  | enter | leave => simp [chars]

/-- Cutting text into characters keeps the elements entered. -/
@[simp] theorem countP_isEnter_chars (s : Step) : s.chars.countP isEnter = if s.isEnter then 1 else 0 := by
  cases s with
  | text data depth =>
    rw [chars_text, List.countP_eq_zero.mpr fun u hu => by simp [(mem_charsOf hu).2]]
    rfl
  | enter | leave => simp [chars, isEnter]

theorem countP_isEnter_flatMap_chars (steps : List Step) :
    (steps.flatMap chars).countP isEnter = steps.countP isEnter := by
  induction steps with
  | nil => rfl
  | cons s steps ih =>
    rw [List.flatMap_cons, List.countP_append, ih, countP_isEnter_chars, List.countP_cons]
    omega

theorem leaves_append (xs ys : List String) (height : Nat) :
    leaves (xs ++ ys) height = leaves xs height ++ leaves ys (height - xs.length) := by
  induction xs generalizing height with
  | nil => rfl
  | cons x xs ih =>
    rw [List.cons_append, leaves, leaves, ih, List.length_cons, List.cons_append, Nat.sub_sub,
      Nat.add_comm 1]

/-- Leaving `names` from `height` stays at or above `height - names.length`. -/
theorem le_depth_of_mem_leaves {names : List String} {height : Nat} {u : Step}
    (h : u ∈ leaves names height) : height - names.length ≤ u.depth := by
  induction names generalizing height with
  | nil => simp [leaves] at h
  | cons x xs ih =>
    rcases List.mem_cons.mp h with rfl | h
    · simp only [depth, List.length_cons]
      omega
    · have := ih h
      simp only [List.length_cons]
      omega

@[simp] theorem flatMap_chars_leaves (names : List String) (height : Nat) :
    (leaves names height).flatMap chars = leaves names height := by
  induction names generalizing height with
  | nil => rfl
  | cons x xs ih => simp [leaves, ih]

@[simp] theorem flatMap_items_leaves (names : List String) (height : Nat) :
    (leaves names height).flatMap items = [] := by
  induction names generalizing height with
  | nil => rfl
  | cons x xs ih => simp [leaves, ih, items]

@[simp] theorem countP_isEnter_leaves (names : List String) (height : Nat) :
    (leaves names height).countP isEnter = 0 := by
  induction names generalizing height with
  | nil => rfl
  | cons x xs ih => simp [leaves, ih, isEnter]

/-- In two runs that each stay below `depth` until a step at `depth` or above it, those steps
    are at the same place. -/
theorem eq_of_first_shallow {depth : Nat} :
    ∀ {xs ys : List Step} {s t : Step} {rest rest' : List Step},
      (∀ u ∈ xs, depth < u.depth) → (∀ u ∈ ys, depth < u.depth) →
      s.depth ≤ depth → t.depth ≤ depth → xs ++ s :: rest = ys ++ t :: rest' →
      xs = ys ∧ s = t ∧ rest = rest'
  | [], [], _, _, _, _, _, _, _, _, h => by simpa using h
  | [], y :: ys, s, _, _, _, _, hys, hs, _, h => by
    simp only [List.nil_append, List.cons_append, List.cons.injEq] at h
    have := hys y List.mem_cons_self
    rw [← h.1] at this
    omega
  | x :: xs, [], _, t, _, _, hxs, _, _, ht, h => by
    simp only [List.nil_append, List.cons_append, List.cons.injEq] at h
    have := hxs x List.mem_cons_self
    rw [h.1] at this
    omega
  | x :: xs, y :: ys, s, t, rest, rest', hxs, hys, hs, ht, h => by
    simp only [List.cons_append, List.cons.injEq] at h
    obtain ⟨rfl, hrest⟩ := h
    obtain ⟨rfl, hst, hr⟩ := eq_of_first_shallow (fun u hu => hxs u (List.mem_cons_of_mem _ hu))
      (fun u hu => hys u (List.mem_cons_of_mem _ hu)) hs ht hrest
    exact ⟨rfl, hst, hr⟩

theorem flatMap_items_flatMap_chars (steps : List Step) :
    (steps.flatMap chars).flatMap items = steps.flatMap items := by
  simp [List.flatMap_assoc]

/-- Leaving `above`, then an element at `depth`, then what is below it. -/
theorem leaves_split (above : List String) (name : String) (below : List String) (depth : Nat) :
    leaves (above ++ name :: below) (above.length + 1 + depth) =
      leaves above (above.length + 1 + depth) ++ .leave name depth :: leaves below depth := by
  rw [leaves_append, leaves, show above.length + 1 + depth - above.length - 1 = depth by omega]

theorem depth_of_mem_leaves_above {above : List String} {depth : Nat} {u : Step}
    (h : u ∈ leaves above (above.length + 1 + depth)) : depth < u.depth := by
  have := le_depth_of_mem_leaves h
  omega

end Step

/-! ### Listings and elements -/

mutual
/-- A node's listing: an element, then its children's listing; text, by its characters. -/
def Node.listing : Node → List Item
  | .text data => data.toList.map .char
  | .element name attrs children => .element name attrs :: Node.forestListing children

/-- A forest's listing: its nodes' listings one after another. -/
def Node.forestListing : List Node → List Item
  | [] => []
  | n :: ns => n.listing ++ Node.forestListing ns
end

mutual
/-- The elements of a node in preorder. -/
def Node.elements : Node → List Node
  | .text _ => []
  | .element name attrs children => .element name attrs children :: Node.forestElements children

/-- The elements of a forest in preorder. -/
def Node.forestElements : List Node → List Node
  | [] => []
  | n :: ns => n.elements ++ Node.forestElements ns
end

mutual
/-- Whether every text node of a node, at any depth, is nonempty. -/
def Node.textsNonempty : Node → Bool
  | .text data => !data.isEmpty
  | .element _ _ children => Node.forestTextsNonempty children

/-- Whether every text node of a forest, at any depth, is nonempty. -/
def Node.forestTextsNonempty : List Node → Bool
  | [] => true
  | n :: ns => n.textsNonempty && Node.forestTextsNonempty ns
end

@[simp] theorem Node.forestListing_nil : Node.forestListing [] = [] := by
  simp [Node.forestListing]

@[simp] theorem Node.forestListing_cons (n : Node) (ns : List Node) :
    Node.forestListing (n :: ns) = n.listing ++ Node.forestListing ns := by
  simp [Node.forestListing]

@[simp] theorem Node.forestElements_nil : Node.forestElements [] = [] := by
  simp [Node.forestElements]

@[simp] theorem Node.forestElements_cons (n : Node) (ns : List Node) :
    Node.forestElements (n :: ns) = n.elements ++ Node.forestElements ns := by
  simp [Node.forestElements]

@[simp] theorem Node.forestTextsNonempty_nil : Node.forestTextsNonempty [] = true := by
  simp [Node.forestTextsNonempty]

@[simp] theorem Node.forestTextsNonempty_cons (n : Node) (ns : List Node) :
    Node.forestTextsNonempty (n :: ns) = (n.textsNonempty && Node.forestTextsNonempty ns) := by
  simp [Node.forestTextsNonempty]

theorem Node.forestTextsNonempty_append (ns ms : List Node) :
    Node.forestTextsNonempty (ns ++ ms) =
      (Node.forestTextsNonempty ns && Node.forestTextsNonempty ms) := by
  induction ns with
  | nil => simp
  | cons n ns ih => simp [ih, Bool.and_assoc]

mutual
/-- A node's listing is what its walk lists, at any depth. -/
theorem Node.listing_eq_walk : ∀ (n : Node) (depth : Nat),
    n.listing = (n.walk depth).flatMap Step.items
  | .text data, depth => by simp [Node.listing, Step.items]
  | .element name attrs children, depth => by
    rw [Node.walk_element, Node.listing, Node.forestListing_eq_walk children (depth + 1)]
    simp [Step.items]

/-- A forest's listing is what its walk lists, at any depth. -/
theorem Node.forestListing_eq_walk : ∀ (ns : List Node) (depth : Nat),
    Node.forestListing ns = (Node.forestWalk depth ns).flatMap Step.items
  | [], depth => by simp
  | n :: ns, depth => by
    rw [Node.forestListing_cons, Node.forestWalk_cons, List.flatMap_append,
      Node.listing_eq_walk n depth, Node.forestListing_eq_walk ns depth]
end

mutual
/-- A node's walk enters each of its elements once. -/
theorem Node.countP_isEnter_walk : ∀ (n : Node) (depth : Nat),
    (n.walk depth).countP Step.isEnter = n.elements.length
  | .text data, depth => by simp [Node.elements, Step.isEnter]
  | .element name attrs children, depth => by
    rw [Node.walk_element, Node.elements, List.cons_append, List.countP_cons, List.countP_append,
      Node.countP_isEnter_forestWalk children (depth + 1)]
    simp [Step.isEnter]

/-- A forest's walk enters each of its elements once. -/
theorem Node.countP_isEnter_forestWalk : ∀ (ns : List Node) (depth : Nat),
    (Node.forestWalk depth ns).countP Step.isEnter = (Node.forestElements ns).length
  | [], depth => by simp
  | n :: ns, depth => by
    rw [Node.forestWalk_cons, List.countP_append, Node.countP_isEnter_walk n depth,
      Node.countP_isEnter_forestWalk ns depth, Node.forestElements_cons, List.length_append]
end

mutual
/-- A node's walk stays at its depth or below. -/
theorem Node.le_depth_of_mem_walk : ∀ (n : Node) (depth : Nat), ∀ u ∈ n.walk depth,
    depth ≤ u.depth
  | .text data, depth, u, hu => by
    rw [Node.walk_text, List.mem_singleton] at hu
    subst hu
    exact Nat.le_refl _
  | .element name attrs children, depth, u, hu => by
    rw [Node.walk_element] at hu
    simp only [List.cons_append, List.mem_cons, List.mem_append, List.not_mem_nil,
      or_false] at hu
    rcases hu with rfl | hu | rfl
    · exact Nat.le_refl _
    · exact Nat.le_of_succ_le (Node.le_depth_of_mem_forestWalk children (depth + 1) u hu)
    · exact Nat.le_refl _

/-- A forest's walk stays at its depth or below. -/
theorem Node.le_depth_of_mem_forestWalk : ∀ (ns : List Node) (depth : Nat),
    ∀ u ∈ Node.forestWalk depth ns, depth ≤ u.depth
  | [], depth, u, hu => by simp at hu
  | n :: ns, depth, u, hu => by
    rw [Node.forestWalk_cons, List.mem_append] at hu
    rcases hu with hu | hu
    · exact Node.le_depth_of_mem_walk n depth u hu
    · exact Node.le_depth_of_mem_forestWalk ns depth u hu
end

/-- The walk of a forest, text cut into characters, stays at its depth or below. -/
theorem Node.le_depth_of_mem_chars_forestWalk {ns : List Node} {depth : Nat} {u : Step}
    (h : u ∈ (Node.forestWalk depth ns).flatMap Step.chars) : depth ≤ u.depth := by
  obtain ⟨s, hs, hu⟩ := List.mem_flatMap.mp h
  rw [Step.depth_of_mem_chars hu]
  exact Node.le_depth_of_mem_forestWalk ns depth s hs

/-- A forest without empty text whose walk, cut into characters, is empty, is empty. -/
theorem Node.eq_nil_of_chars_forestWalk {ns : List Node} {depth : Nat}
    (hnonempty : Node.forestTextsNonempty ns = true)
    (h : (Node.forestWalk depth ns).flatMap Step.chars = []) : ns = [] := by
  cases ns with
  | nil => rfl
  | cons n ns =>
    rw [Node.forestWalk_cons, List.flatMap_append, List.append_eq_nil_iff] at h
    cases n with
    | text data =>
      simp only [Node.forestTextsNonempty_cons, Node.textsNonempty, Bool.and_eq_true,
        Bool.not_eq_true', String.isEmpty_eq_false_iff] at hnonempty
      simp [Step.charsOf, hnonempty.1] at h
    | element name attrs children => simp at h

/-- A list split at a marked entry, read against a split of the same list in two: the mark falls
    in the first part or in the second. -/
theorem append_eq_append_cons {α : Type} {xs ys pre post : List α} {z : α}
    (h : xs ++ ys = pre ++ z :: post) :
    (∃ mid, xs = pre ++ z :: mid ∧ post = mid ++ ys) ∨
      (∃ mid, pre = xs ++ mid ∧ ys = mid ++ z :: post) := by
  rcases List.append_eq_append_iff.mp h with ⟨mid, hpre, hys⟩ | ⟨mid, hxs, hpost⟩
  · exact .inr ⟨mid, hpre, hys⟩
  · cases mid with
    | nil =>
      simp only [List.append_nil, List.nil_append] at hxs hpost
      exact .inr ⟨[], by simp [hxs], hpost.symm⟩
    | cons u mid =>
      simp only [List.cons_append, List.cons.injEq] at hpost
      obtain ⟨rfl, rfl⟩ := hpost
      exact .inl ⟨mid, hxs, rfl⟩

mutual
/-- **Where a node's walk enters an element.** Where the walk of a node, text cut into
    characters, enters an element, that element is the node's element counted by the elements
    entered before it, and the walk of its children follows, up to the step that leaves it. -/
theorem Node.walk_chars_enter : ∀ (n : Node) (depth : Nat) {pre post : List Step}
    {name : String} {attrs : Attributes} {d : Nat},
    (n.walk depth).flatMap Step.chars = pre ++ .enter name attrs d :: post →
    ∃ children rest, n.elements[pre.countP Step.isEnter]? = some (.element name attrs children) ∧
      post = (Node.forestWalk (d + 1) children).flatMap Step.chars ++ .leave name d :: rest
  | .text data, depth, pre, post, name, attrs, d, h => by
    have hmem : Step.enter name attrs d ∈ ((Node.text data).walk depth).flatMap Step.chars := by
      rw [h]
      simp
    simp [Step.charsOf] at hmem
  | .element m a cs, depth, pre, post, name, attrs, d, h => by
    replace h : Step.enter m a depth :: ((Node.forestWalk (depth + 1) cs).flatMap Step.chars ++
        [.leave m depth]) = pre ++ .enter name attrs d :: post := by
      rw [← h, Node.walk_element]
      simp
    cases pre with
    | nil =>
      -- the element itself is entered first
      simp only [List.nil_append, List.cons.injEq, Step.enter.injEq] at h
      obtain ⟨⟨rfl, rfl, rfl⟩, rfl⟩ := h
      exact ⟨cs, [], by simp [Node.elements], by simp⟩
    | cons u pre =>
      simp only [List.cons_append, List.cons.injEq] at h
      obtain ⟨rfl, h⟩ := h
      -- an element of the children is entered: it is not the closing step of this element
      rcases append_eq_append_cons h with ⟨mid, hkids, rfl⟩ | ⟨mid, -, hlast⟩
      · obtain ⟨children, rest, hget, hmid⟩ := Node.forestWalk_chars_enter cs (depth + 1) hkids
        refine ⟨children, rest ++ [.leave m depth], ?_, by simp [hmid]⟩
        simpa [Node.elements, Step.isEnter, List.countP_cons] using hget
      · cases mid with
        | nil => simp at hlast
        | cons v mid => simp at hlast

/-- **Where a forest's walk enters an element.** Where the walk of a forest, text cut into
    characters, enters an element, that element is the forest's element in preorder counted
    by the elements entered before it, and the walk of its children follows, up to the step
    that leaves it. -/
theorem Node.forestWalk_chars_enter : ∀ (ns : List Node) (depth : Nat) {pre post : List Step}
    {name : String} {attrs : Attributes} {d : Nat},
    (Node.forestWalk depth ns).flatMap Step.chars = pre ++ .enter name attrs d :: post →
    ∃ children rest,
      (Node.forestElements ns)[pre.countP Step.isEnter]? = some (.element name attrs children) ∧
      post = (Node.forestWalk (d + 1) children).flatMap Step.chars ++ .leave name d :: rest
  | [], depth, pre, post, name, attrs, d, h => by simp at h
  | n :: ns, depth, pre, post, name, attrs, d, h => by
    rw [Node.forestWalk_cons, List.flatMap_append] at h
    rcases append_eq_append_cons h with ⟨mid, hnode, rfl⟩ | ⟨mid, rfl, hrest⟩
    · -- the element is one of the first node's
      obtain ⟨children, rest, hget, hmid⟩ := Node.walk_chars_enter n depth hnode
      refine ⟨children, rest ++ (Node.forestWalk depth ns).flatMap Step.chars, ?_, by simp [hmid]⟩
      rw [Node.forestElements_cons, List.getElem?_append_left
        (List.getElem?_eq_some_iff.mp hget).1, hget]
    · -- the element is one of the later nodes'
      obtain ⟨children, rest, hget, hpost⟩ := Node.forestWalk_chars_enter ns depth hrest
      have hcount : ((n.walk depth).flatMap Step.chars).countP Step.isEnter = n.elements.length := by
        rw [Step.countP_isEnter_flatMap_chars, Node.countP_isEnter_walk]
      refine ⟨children, rest, ?_, hpost⟩
      rw [Node.forestElements_cons, List.countP_append, hcount,
        List.getElem?_append_right (Nat.le_add_right _ _), Nat.add_sub_cancel_left, hget]
end

mutual
/-- The elements of a node without empty text have no empty text. -/
theorem Node.textsNonempty_of_mem_elements : ∀ (n : Node), n.textsNonempty = true →
    ∀ m ∈ n.elements, m.textsNonempty = true
  | .text data, _, m, hm => by simp [Node.elements] at hm
  | .element name attrs children, hn, m, hm => by
    rw [Node.elements, List.mem_cons] at hm
    rcases hm with rfl | hm
    · exact hn
    · exact Node.textsNonempty_of_mem_forestElements children hn m hm

/-- The elements of a forest without empty text have no empty text. -/
theorem Node.textsNonempty_of_mem_forestElements : ∀ (ns : List Node),
    Node.forestTextsNonempty ns = true → ∀ m ∈ Node.forestElements ns, m.textsNonempty = true
  | [], _, m, hm => by simp at hm
  | n :: ns, hns, m, hm => by
    simp only [Node.forestTextsNonempty_cons, Bool.and_eq_true] at hns
    rw [Node.forestElements_cons, List.mem_append] at hm
    rcases hm with hm | hm
    · exact Node.textsNonempty_of_mem_elements n hns.1 m hm
    · exact Node.textsNonempty_of_mem_forestElements ns hns.2 m hm
end

end Tagweave
