import Tagweave.Proofs.BuilderWalk

namespace Tagweave

/-!
# The tree follows the token stream

What a parsed forest is, token by token, read off its walk (`Document.parse_walk`).

* `Token.closesDepth`: whether a closing tag closes the open element at a depth, that is,
  whether its innermost match among the open elements is that element or one outside it.
* `Token.trace_keeps`: while no closing tag closes an element, the trace stays inside it and
  it stays open.
* `Document.parse_start_children` and `Document.parse_leaf_childless`: the element of a start
  tag holds exactly the tokens up to the closing tag that closes it, or to the end; a void
  start tag or an empty tag gives an element with no children.
* `Document.parse_follows_tokens`: the listing of a parsed forest is the listing of its tokens,
  with the two facts above.
-/

/-! ### Elements kept open -/

namespace Token

/-- Whether a closing tag named `name`, read while `names` are open (innermost first), closes
    the open element at `depth`: its innermost match up to ASCII case is that element or one
    outside it. -/
def closesDepth (names : List String) (name : String) (depth : Nat) : Bool :=
  match names.findIdx? (equalsIgnoringAsciiCase · name) with
  | some i => names.length ≤ depth + i + 1
  | none => false

section Keeps

variable {below : List String} {depth : Nat}

/-- A token that is not a closing tag closing the element at `depth` keeps that element and
    those outside it open. -/
theorem openAfter_keeps (hbelow : below.length = depth + 1) {above : List String} {t : Token}
    (hkeep : ∀ x, t = .close x → closesDepth (above ++ below) x depth = false) :
    ∃ above', openAfter (above ++ below) t = above' ++ below := by
  cases t with
  | start content =>
    by_cases hvoid : isVoidElement (splitTag content).1
    · exact ⟨above, by simp [openAfter, hvoid]⟩
    · exact ⟨(splitTag content).1 :: above, by simp [openAfter, hvoid]⟩
  | close x =>
    have hx := hkeep x rfl
    unfold closesDepth at hx
    cases hidx : (above ++ below).findIdx? (equalsIgnoringAsciiCase · x) with
    | none => exact ⟨above, by simp [openAfter, hidx]⟩
    | some i =>
      rw [hidx] at hx
      simp only [List.length_append, decide_eq_false_iff_not, Nat.not_le] at hx
      refine ⟨above.drop (i + 1), ?_⟩
      simp only [openAfter, hidx]
      exact List.drop_append_of_le_length (by omega)
  | text _ | ref _ | cdata _ | comment _ | declaration _ | instruction _ | doctype _ | empty _ =>
    exact ⟨above, rfl⟩

/-- The steps of such a token stay below `depth`. -/
theorem steps_deep (hbelow : below.length = depth + 1) {above : List String} {t : Token}
    (hkeep : ∀ x, t = .close x → closesDepth (above ++ below) x depth = false) :
    ∀ u ∈ steps (above ++ below) t, depth < u.depth := by
  intro u hu
  have hlen : depth < above.length + below.length := by omega
  cases t with
  | text s | cdata s | ref s =>
    rw [(Step.mem_charsOf hu).1, List.length_append]
    exact hlen
  | start content =>
    by_cases hvoid : isVoidElement (splitTag content).1 <;> simp [steps, hvoid] at hu
    · rcases hu with rfl | rfl <;> exact hlen
    · rw [hu]
      exact hlen
  | empty content =>
    simp only [steps, List.mem_cons, List.not_mem_nil, or_false, List.length_append] at hu
    rcases hu with rfl | rfl <;> exact hlen
  | close x =>
    have hx := hkeep x rfl
    unfold closesDepth at hx
    cases hidx : (above ++ below).findIdx? (equalsIgnoringAsciiCase · x) with
    | none => simp [steps, hidx] at hu
    | some i =>
      rw [hidx] at hx
      simp only [decide_eq_false_iff_not, Nat.not_le] at hx
      simp only [steps, hidx] at hu
      -- the innermost `i + 1` open elements are left, all of them inside the one at `depth`
      have hi := (List.findIdx?_eq_some_iff_getElem.mp hidx).1
      have hdeep := Step.le_depth_of_mem_leaves hu
      rw [List.length_take, Nat.min_eq_left (by omega)] at hdeep
      omega
  | comment _ | declaration _ | instruction _ | doctype _ => simp [steps] at hu

/-- **A run that keeps an element open.** When no closing tag of a run, read after the tokens
    before it, closes the element at `depth`, the run's trace stays below `depth`, and that
    element and those outside it stay open. -/
theorem trace_keeps (hbelow : below.length = depth + 1) :
    ∀ (ts : List Token) (above : List String),
      (∀ pre x post, ts = pre ++ .close x :: post →
        closesDepth (pre.foldl openAfter (above ++ below)) x depth = false) →
      (∀ u ∈ trace (above ++ below) ts, depth < u.depth) ∧
        ∃ above', ts.foldl openAfter (above ++ below) = above' ++ below
  | [], above, _ => ⟨by simp [trace], above, rfl⟩
  | t :: ts, above, hkeep => by
    have hfirst : ∀ x, t = .close x → closesDepth (above ++ below) x depth = false :=
      fun x hx => hkeep [] x ts (by rw [hx]; rfl)
    obtain ⟨above', hafter⟩ := openAfter_keeps hbelow hfirst
    have ih := trace_keeps hbelow ts above' fun pre x post hsplit => by
      have h := hkeep (t :: pre) x post (by rw [hsplit]; rfl)
      rwa [List.foldl_cons, hafter] at h
    refine ⟨?_, ?_⟩
    · intro u hu
      rw [trace, List.mem_append] at hu
      rcases hu with hu | hu
      · exact steps_deep hbelow hfirst u hu
      · rw [hafter] at hu
        exact ih.1 u hu
    · rw [List.foldl_cons, hafter]
      exact ih.2

end Keeps

/-- A closing tag that closes the open element named `name` at depth `below.length` leaves
    the elements inside it, then that element. -/
theorem steps_close_split {above below : List String} {name x : String}
    (h : closesDepth (above ++ name :: below) x below.length = true) :
    ∃ rest, steps (above ++ name :: below) (.close x) =
      Step.leaves above (above.length + 1 + below.length) ++ .leave name below.length :: rest := by
  unfold closesDepth at h
  cases hidx : (above ++ name :: below).findIdx? (equalsIgnoringAsciiCase · x) with
  | none =>
    rw [hidx] at h
    cases h
  | some i =>
    rw [hidx] at h
    simp only [List.length_append, List.length_cons, decide_eq_true_eq] at h
    have hi := (List.findIdx?_eq_some_iff_getElem.mp hidx).1
    simp only [List.length_append, List.length_cons] at hi
    -- the innermost match is the element itself or one outside it
    have htake : (above ++ name :: below).take (i + 1) =
        above ++ name :: below.take (i - above.length) := by
      rw [List.take_append, List.take_of_length_le (by omega),
        show i + 1 - above.length = (i - above.length) + 1 by omega, List.take_succ_cons]
    refine ⟨Step.leaves (below.take (i - above.length)) below.length, ?_⟩
    simp only [steps, hidx, htake, List.length_append, List.length_cons]
    rw [show above.length + (below.length + 1) = above.length + 1 + below.length by omega,
      Step.leaves_split]

end Token

/-! ### The forest of a parse -/

section Parse

variable {s : String} {forest : List Node}

/-- **The element of a start tag.** In a parsed document, the element a start tag of a non-void
    name opens is the forest's element in preorder counted by the start and empty tags before
    it, and its children list exactly the tokens up to the closing tag that closes it (the
    first whose innermost match among the open elements is that element or one outside it),
    or up to the end when none does. -/
theorem Document.parse_start_children (h : Document.parse s = .ok forest)
    {pre mid post : List Token} {content : String}
    (htokens : Document.tokens s = pre ++ .start content :: (mid ++ post))
    (hopen : isVoidElement (splitTag content).1 = false)
    (hmid : ∀ pre' x post', mid = pre' ++ .close x :: post' →
      Token.closesDepth (Token.openNames (pre ++ .start content :: pre')) x
        (Token.openNames pre).length = false)
    (hend : post = [] ∨ ∃ x post', post = .close x :: post' ∧
      Token.closesDepth (Token.openNames (pre ++ .start content :: mid)) x
        (Token.openNames pre).length = true) :
    ∃ children, (Node.forestElements forest)[pre.countP Token.isElementTag]? =
        some (.element (splitTag content).1 (splitTag content).2 children) ∧
      Node.forestListing children = mid.flatMap Token.items := by
  obtain ⟨hwalk, -⟩ := Document.parse_walk h
  have hstart : Token.openAfter (Token.openNames pre) (.start content) =
      (splitTag content).1 :: Token.openNames pre := by
    simp [Token.openAfter, hopen]
  have hnames : ∀ ts, Token.openNames (pre ++ .start content :: ts) =
      ts.foldl Token.openAfter ([] ++ (splitTag content).1 :: Token.openNames pre) := by
    intro ts
    rw [Token.openNames_append, List.foldl_cons, hstart, List.nil_append]
  -- the element stays open through `mid`, whose steps are all inside it
  obtain ⟨hdeep, above, habove⟩ := Token.trace_keeps (List.length_cons ..) mid []
    fun pre' x post' hsplit => by
      have hx := hmid pre' x post' hsplit
      rwa [hnames] at hx
  rw [List.nil_append] at hdeep habove
  have hdepth : above.length + 1 + (Token.openNames pre).length =
      (above ++ (splitTag content).1 :: Token.openNames pre).length := by
    simp only [List.length_append, List.length_cons]
    omega
  -- the walk: the tokens before, the element entered, `mid` and the elements inside it left,
  -- then the element left
  have hshape : ∃ rest, (Node.forestWalk 0 forest).flatMap Step.chars =
      Token.trace [] pre ++
        .enter (splitTag content).1 (splitTag content).2 (Token.openNames pre).length ::
        ((Token.trace ((splitTag content).1 :: Token.openNames pre) mid ++
          Step.leaves above (above.length + 1 + (Token.openNames pre).length)) ++
          .leave (splitTag content).1 (Token.openNames pre).length :: rest) := by
    have htrace : Token.trace [] (Document.tokens s) = Token.trace [] pre ++
        .enter (splitTag content).1 (splitTag content).2 (Token.openNames pre).length ::
          (Token.trace ((splitTag content).1 :: Token.openNames pre) mid ++
            Token.trace (above ++ (splitTag content).1 :: Token.openNames pre) post) := by
      rw [htokens, Token.trace_split, hstart, Token.trace_append, habove]
      simp [Token.steps, hopen]
    rcases hend with rfl | ⟨x, post', rfl, hclose⟩
    · -- at the end the elements still open are left, this one among them
      have hopenNames : Token.openNames (Document.tokens s) =
          above ++ (splitTag content).1 :: Token.openNames pre := by
        rw [htokens, List.append_nil, hnames, List.nil_append, habove]
      refine ⟨Step.leaves (Token.openNames pre) (Token.openNames pre).length, ?_⟩
      rw [hwalk, htrace, hopenNames, ← hdepth, Step.leaves_split]
      simp [Token.trace]
    · -- the closing tag leaves the elements inside this one, then this one
      have hafter : Token.openNames (pre ++ .start content :: mid) =
          above ++ (splitTag content).1 :: Token.openNames pre := by
        rw [hnames, List.nil_append, habove]
      rw [hafter] at hclose
      obtain ⟨rest, hsteps⟩ := Token.steps_close_split hclose
      refine ⟨rest ++ Token.trace (Token.openAfter (above ++ (splitTag content).1 ::
        Token.openNames pre) (.close x)) post' ++ Step.leaves (Token.openNames (Document.tokens s))
          (Token.openNames (Document.tokens s)).length, ?_⟩
      rw [hwalk, htrace, Token.trace, hsteps]
      simp
  obtain ⟨rest, hshape⟩ := hshape
  obtain ⟨children, rest', hget, hpost⟩ := Node.forestWalk_chars_enter forest 0 hshape
  -- the children's walk is what comes before the first step leaving the element
  have hinside : ∀ u ∈ Token.trace ((splitTag content).1 :: Token.openNames pre) mid ++
      Step.leaves above (above.length + 1 + (Token.openNames pre).length),
      (Token.openNames pre).length < u.depth := by
    intro u hu
    rcases List.mem_append.mp hu with hu | hu
    · exact hdeep u hu
    · exact Step.depth_of_mem_leaves_above hu
  have hkids : ∀ u ∈ (Node.forestWalk ((Token.openNames pre).length + 1) children).flatMap
      Step.chars, (Token.openNames pre).length < u.depth :=
    fun u hu => Node.le_depth_of_mem_chars_forestWalk hu
  obtain ⟨hchildren, -, -⟩ := Step.eq_of_first_shallow hinside hkids (Nat.le_refl _)
    (Nat.le_refl _) hpost
  refine ⟨children, ?_, ?_⟩
  · rw [← Token.countP_isEnter_trace [] pre]
    exact hget
  · rw [Node.forestListing_eq_walk children ((Token.openNames pre).length + 1),
      ← Step.flatMap_items_flatMap_chars, ← hchildren, List.flatMap_append,
      Token.flatMap_items_trace, Step.flatMap_items_leaves, List.append_nil]

/-- **Elements without children.** In a parsed document, a start tag of a void name and an
    empty tag give the forest's element in preorder counted by the start and empty tags
    before them, and that element has no children. -/
theorem Document.parse_leaf_childless (h : Document.parse s = .ok forest)
    {pre post : List Token} {t : Token} {content : String}
    (htokens : Document.tokens s = pre ++ t :: post)
    (hleaf : (t = .start content ∧ isVoidElement (splitTag content).1 = true) ∨
      t = .empty content) :
    (Node.forestElements forest)[pre.countP Token.isElementTag]? =
      some (.element (splitTag content).1 (splitTag content).2 []) := by
  obtain ⟨hwalk, hnonempty⟩ := Document.parse_walk h
  have hsteps : Token.steps (Token.openNames pre) t =
      [.enter (splitTag content).1 (splitTag content).2 (Token.openNames pre).length,
        .leave (splitTag content).1 (Token.openNames pre).length] := by
    rcases hleaf with ⟨rfl, hvoid⟩ | rfl
    · simp [Token.steps, hvoid]
    · rfl
  have hshape : (Node.forestWalk 0 forest).flatMap Step.chars = Token.trace [] pre ++
      .enter (splitTag content).1 (splitTag content).2 (Token.openNames pre).length ::
        ([] ++ .leave (splitTag content).1 (Token.openNames pre).length ::
          (Token.trace (Token.openAfter (Token.openNames pre) t) post ++
            Step.leaves (Token.openNames (Document.tokens s))
              (Token.openNames (Document.tokens s)).length)) := by
    rw [hwalk, htokens, Token.trace_split, hsteps]
    simp
  obtain ⟨children, rest, hget, hpost⟩ := Node.forestWalk_chars_enter forest 0 hshape
  -- nothing comes between entering the element and leaving it
  obtain ⟨hempty, -, -⟩ := Step.eq_of_first_shallow (fun u hu => by simp at hu)
    (fun u hu => Node.le_depth_of_mem_chars_forestWalk hu) (Nat.le_refl _) (Nat.le_refl _) hpost
  have hkids : Node.forestTextsNonempty children = true := by
    have hmem := List.mem_of_getElem? hget
    simpa [Node.textsNonempty] using
      Node.textsNonempty_of_mem_forestElements forest hnonempty _ hmem
  rw [← Token.countP_isEnter_trace [] pre, hget, Node.eq_nil_of_chars_forestWalk hkids hempty.symm]

/-- **The tree follows the token stream.** For a document that parses:
    its forest lists, in preorder, an element for each start and empty tag of its tokens and
    the characters of their text, CDATA and references, in the tokens' order; the element a
    start tag of a non-void name opens holds exactly the tokens up to the first closing tag
    whose innermost match among the open elements is that element or one outside it, or up to
    the end when there is none; and a start tag of a void name or an empty tag gives an element
    with no children. The element of a start or empty tag is the forest's element in preorder
    counted by the start and empty tags before it. -/
theorem Document.parse_follows_tokens (h : Document.parse s = .ok forest) :
    Node.forestListing forest = (Document.tokens s).flatMap Token.items ∧
    (∀ pre content mid post, Document.tokens s = pre ++ .start content :: (mid ++ post) →
      isVoidElement (splitTag content).1 = false →
      (∀ pre' x post', mid = pre' ++ .close x :: post' →
        Token.closesDepth (Token.openNames (pre ++ .start content :: pre')) x
          (Token.openNames pre).length = false) →
      (post = [] ∨ ∃ x post', post = .close x :: post' ∧
        Token.closesDepth (Token.openNames (pre ++ .start content :: mid)) x
          (Token.openNames pre).length = true) →
      ∃ children, (Node.forestElements forest)[pre.countP Token.isElementTag]? =
          some (.element (splitTag content).1 (splitTag content).2 children) ∧
        Node.forestListing children = mid.flatMap Token.items) ∧
    (∀ pre content post,
      (Document.tokens s = pre ++ .start content :: post ∧
        isVoidElement (splitTag content).1 = true) ∨
        Document.tokens s = pre ++ .empty content :: post →
      (Node.forestElements forest)[pre.countP Token.isElementTag]? =
        some (.element (splitTag content).1 (splitTag content).2 [])) := by
  refine ⟨?_, fun pre content mid post htokens hopen hmid hend =>
    Document.parse_start_children h htokens hopen hmid hend, fun pre content post hleaf => ?_⟩
  · obtain ⟨hwalk, -⟩ := Document.parse_walk h
    rw [Node.forestListing_eq_walk forest 0, ← Step.flatMap_items_flatMap_chars, hwalk,
      List.flatMap_append, Token.flatMap_items_trace, Step.flatMap_items_leaves, List.append_nil]
  · rcases hleaf with ⟨htokens, hvoid⟩ | htokens
    · exact Document.parse_leaf_childless h htokens (.inl ⟨rfl, hvoid⟩)
    · exact Document.parse_leaf_childless h htokens (.inr rfl)

/-- The forest of a paragraph with one letter of text lists the tokens it is read from. -/
theorem parse_follows_tokens_paragraph :
    Document.parse "<p>a</p>" = .ok [.element "p" .empty [.text "a"]] ∧
    Node.forestListing [.element "p" .empty [.text "a"]] =
      (Document.tokens "<p>a</p>").flatMap Token.items := by
  have hchars : "<p>a</p>".toList = ['<', 'p', '>', 'a', '<', '/', 'p', '>'] := by decide
  have hpieces : Angle.pieces "<p>a</p>" = [(0, ['<', 'p', '>', 'a', '<', '/', 'p', '>'])] := by
    simp [Angle.pieces, hchars, Angle.piecesFrom, Angle.markupExtent, Angle.tagEnd,
      Angle.tagEnd.go, List.isPrefixOf, Angle.byteLength, Char.utf8Size]
  -- the start tag, the text up to the next `<` and the closing tag, read one after another
  have hread : ∃ q, TokenStream.read ['<', 'p', '>', 'a', '<', '/', 'p', '>'] =
      ⟨[(.start "p", 3), (.text "a", q), (.close "p", 8)], none⟩ := by
    rw [TokenStream.read_unmarked (by simp)]
    have hstart := @Token.readFrom_start 'p' [] ['a', '<', '/', 'p', '>'] rfl
      (Angle.inert_plain (by simp)) (by simp) 0 []
    obtain ⟨q, htext⟩ := @Token.readFrom_text_plain ['a'] ['<', '/', 'p', '>'] (by simp)
      (.inr (.inl rfl)) 3 [(.start "p", 3)]
    have hclose := @Token.readFrom_close 'p' [] [] (Angle.inert_plain (by simp))
      (by simp [Unicode.isMarkupBlank]) 4 (Token.textToken ['a'] q ++ [(.start "p", 3)])
    refine ⟨q, ?_⟩
    simp only [List.nil_append] at hstart hclose
    simp only [List.singleton_append] at htext
    rw [hstart, show 0 + Angle.byteLength ['<', 'p', '>'] = 3 from rfl,
      show String.ofList ['p'] = "p" from rfl, htext, show 3 + Angle.byteLength ['a'] = 4 from rfl,
      hclose, Token.readFrom_text_nil]
    rfl
  obtain ⟨q, hread⟩ := hread
  have hstream : Document.stream "<p>a</p>" =
      ⟨[(.start "p", 3), (.text "a", q), (.close "p", 8)], none⟩ := by
    simp [Document.stream, hpieces, Document.streamOf, hread]
  have hparse : Document.parse "<p>a</p>" = .ok [.element "p" .empty [.text "a"]] := by
    rw [Document.parse_eq_stream, hstream]
    rfl
  exact ⟨hparse, (Document.parse_follows_tokens hparse).1⟩

/-- An empty CDATA section is a token of empty text, and the forest keeps no node for it:
    empty text adds nothing. -/
theorem parse_empty_cdata_no_text :
    Document.tokens "<![CDATA[]]>" = [.cdata ""] ∧ Document.parse "<![CDATA[]]>" = .ok [] := by
  have hchars : "<![CDATA[]]>".toList =
      ['<', '!', '[', 'C', 'D', 'A', 'T', 'A', '[', ']', ']', '>'] := by decide
  have hpieces : Angle.pieces "<![CDATA[]]>" =
      [(0, ['<', '!', '[', 'C', 'D', 'A', 'T', 'A', '[', ']', ']', '>'])] := by
    simp [Angle.pieces, hchars, Angle.piecesFrom, Angle.markupExtent, Angle.findSub,
      List.isPrefixOf, Angle.byteLength, Char.utf8Size]
  have hmarkup : Token.readMarkup ['!', '[', 'C', 'D', 'A', 'T', 'A', '[', ']', ']', '>'] 1 =
      .ok (.cdata "", 11) := rfl
  have hread : TokenStream.read ['<', '!', '[', 'C', 'D', 'A', 'T', 'A', '[', ']', ']', '>'] =
      ⟨[(.cdata "", 12)], none⟩ := by
    rw [TokenStream.read_unmarked (by simp), Token.readFrom_text_angle, Token.readFrom.eq_3]
    split
    · next fault heq =>
      rw [Nat.zero_add, hmarkup] at heq
      cases heq
    · next token used heq =>
      rw [Nat.zero_add, hmarkup] at heq
      cases heq
      rw [show List.drop 11 ['!', '[', 'C', 'D', 'A', 'T', 'A', '[', ']', ']', '>'] = [] from rfl,
        Token.readFrom_text_nil]
      rfl
  have hstream : Document.stream "<![CDATA[]]>" = ⟨[(.cdata "", 12)], none⟩ := by
    simp [Document.stream, hpieces, Document.streamOf, hread]
  refine ⟨by simp [Document.tokens, hstream], ?_⟩
  rw [Document.parse_eq_stream, hstream]
  rfl

end Parse

end Tagweave
