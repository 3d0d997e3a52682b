import Tagweave.Proofs.TreeBuilder

namespace Tagweave

/-!
# The token stream of a document

A document is read as one stream of tokens: the tokens of each piece between literal `<`s, at
their byte offsets in the document, with a text token `<` before every piece but the first,
at the offset just past that literal `<`. The stream ends at the first piece whose reading
faults, with that fault.

* `Document.stream` is the stream, and `Document.parse_eq_stream` says that parsing feeds it
  to an empty builder, fails at its fault and otherwise closes the builder.
* `Token.openNames` gives the names of the elements a run of tokens leaves open, innermost
  first. A start tag of a name that is not void opens one. A closing tag closes the innermost
  open element of its name, up to ASCII case, and everything opened inside it.
  `TreeBuilder.names_foldlM_feed` shows that this is what the builder's stack holds.
* `Document.parse_unexpectedEndTag_split`: a document fails on an unmatched closing tag at a
  token of its stream. Every token before it feeds without error, and at that token no open
  element has its name.
-/

/-- The tokens of the pieces `ps`, each at its offset, and the fault that stops reading, if
    any. Every piece but the first (`first = false`) is preceded by a text token `<` at its own
    offset, just past the literal `<` it follows. -/
def Document.streamOf (first : Bool) : List (Nat × List Char) → TokenStream
  | [] => ⟨[], none⟩
  | (base, cs) :: rest =>
    let piece := TokenStream.read cs
    let here := (if first then [] else [(.text "<", base)]) ++
      piece.tokens.map fun tp => (tp.1, base + tp.2)
    match piece.fault with
    | some (f, p) => ⟨here, some (f, base + p)⟩
    | none => ⟨here ++ (Document.streamOf false rest).tokens, (Document.streamOf false rest).fault⟩

/-- The token stream of a document. -/
def Document.stream (s : String) : TokenStream := Document.streamOf true (Angle.pieces s)

/-- The tokens of a document, in order. -/
def Document.tokens (s : String) : List Token := (Document.stream s).tokens.map Prod.fst

/-- Feed a stream's tokens to a builder at their offsets, then fail at its fault. -/
def TreeBuilder.feedStream (b : TreeBuilder) (stream : TokenStream) :
    Except ParseError TreeBuilder := do
  let b ← stream.tokens.foldlM (fun b tp => b.feed tp.1 tp.2) b
  match stream.fault with
  | some (fault, p) => .error (.malformed p fault)
  | none => .ok b

namespace TreeBuilder

section Stream

variable (b : TreeBuilder)

theorem feedStream_none (ts : List (Token × Nat)) :
    b.feedStream ⟨ts, none⟩ = ts.foldlM (fun b tp => b.feed tp.1 tp.2) b := by
  unfold feedStream
  cases ts.foldlM (fun b tp => b.feed tp.1 tp.2) b <;> rfl

theorem feedStream_cons (tp : Token × Nat) (ts : List (Token × Nat))
    (fault : Option (MarkupFault × Nat)) :
    b.feedStream ⟨tp :: ts, fault⟩ = b.feed tp.1 tp.2 >>= fun b => b.feedStream ⟨ts, fault⟩ := by
  simp only [feedStream, List.foldlM_cons, bind_assoc]

theorem feedStream_append (ts us : List (Token × Nat)) (fault : Option (MarkupFault × Nat)) :
    b.feedStream ⟨ts ++ us, fault⟩ =
      ts.foldlM (fun b tp => b.feed tp.1 tp.2) b >>= fun b => b.feedStream ⟨us, fault⟩ := by
  simp only [feedStream, List.foldlM_append, bind_assoc]

/-- A stream that ends in a fault never gives a builder to go on with. -/
theorem feedStream_fault_bind (ts : List (Token × Nat)) (fp : MarkupFault × Nat)
    (g : TreeBuilder → Except ParseError TreeBuilder) :
    b.feedStream ⟨ts, some fp⟩ >>= g = b.feedStream ⟨ts, some fp⟩ := by
  unfold feedStream
  cases ts.foldlM (fun b tp => b.feed tp.1 tp.2) b <;> rfl

theorem feed_text (s : String) (p : Nat) : b.feed (.text s) p = pure (b.addText s) := rfl

end Stream

/-- A piece fed at its offset is its tokens fed at their offsets in the document. -/
theorem feedPiece_eq_feedStream (b : TreeBuilder) (base : Nat) (cs : List Char) :
    b.feedPiece base (TokenStream.read cs) =
      b.feedStream ⟨(TokenStream.read cs).tokens.map fun tp => (tp.1, base + tp.2),
        (TokenStream.read cs).fault.map fun fp => (fp.1, base + fp.2)⟩ := by
  rw [feedPiece_eq, feedStream, List.foldlM_map]
  cases (TokenStream.read cs).fault <;> rfl

/-- The pieces after the first, each after its literal `<`, are fed as their stream. -/
theorem foldlM_feedPiece_eq_feedStream : ∀ (ps : List (Nat × List Char)) (b : TreeBuilder),
    ps.foldlM (fun b q => (b.addText "<").feedPiece q.1 (TokenStream.read q.2)) b =
      b.feedStream (Document.streamOf false ps)
  | [], b => rfl
  | (base, cs) :: ps, b => by
    rw [List.foldlM_cons, feedPiece_eq_feedStream]
    simp only [Document.streamOf, Bool.false_eq_true, if_false, List.singleton_append]
    cases hfault : (TokenStream.read cs).fault with
    | some fp =>
      simp only [Option.map_some, feedStream_fault_bind, feedStream_cons, feed_text, pure_bind]
    | none =>
      have hrest := foldlM_feedPiece_eq_feedStream ps
      -- the later pieces go on from whatever this one leaves
      cases hstream : Document.streamOf false ps with
      | mk ts fault =>
        rw [hstream] at hrest
        simp only [Option.map_none, feedStream_none, List.cons_append, feedStream_cons,
          feedStream_append, feed_text, pure_bind, hrest]

end TreeBuilder

/-- **Parsing feeds the stream.** A document is parsed by feeding its token stream to an empty
    builder, failing at the stream's fault, and closing the builder at the end. -/
theorem Document.parse_eq_stream (s : String) :
    Document.parse s = (TreeBuilder.empty.feedStream (Document.stream s)).map TreeBuilder.finish := by
  obtain ⟨first, rest, hhead⟩ := Angle.piecesFrom_head 0 0 [] s.toList
  have hpieces : Angle.pieces s = (0, first) :: rest := by
    rw [Angle.pieces, hhead, List.reverse_nil, List.nil_append]
  rw [Document.parse_of_pieces hpieces, Document.stream, hpieces,
    TreeBuilder.feedPiece_eq_feedStream]
  simp only [Document.streamOf, if_true, List.nil_append]
  cases hfault : (TokenStream.read first).fault with
  | some fp =>
    unfold TreeBuilder.feedStream
    cases (List.map (fun tp => (tp.1, 0 + tp.2)) (TokenStream.read first).tokens).foldlM
      (fun b tp => b.feed tp.1 tp.2) TreeBuilder.empty <;> rfl
  | none =>
    simp only [Option.map_none, TreeBuilder.feedStream_none, TreeBuilder.feedStream_append,
      TreeBuilder.foldlM_feedPiece_eq_feedStream]
    cases (List.map (fun tp => (tp.1, 0 + tp.2)) (TokenStream.read first).tokens).foldlM
      (fun b tp => b.feed tp.1 tp.2) TreeBuilder.empty with
    | error e => rfl
    | ok b =>
      show (b.feedStream _ >>= fun b => Except.ok b.finish) = Except.map _ (b.feedStream _)
      cases b.feedStream (Document.streamOf false rest) <;> rfl

/-! ### Open elements -/

/-- The names of the open elements after a token, given those before it (innermost first). -/
def Token.openAfter (names : List String) : Token → List String
  | .start content =>
    if isVoidElement (splitTag content).1 then names else (splitTag content).1 :: names
  | .close name =>
    match names.findIdx? (equalsIgnoringAsciiCase · name) with
    | some i => names.drop (i + 1)
    | none => names
  | _ => names

/-- The names of the elements a run of tokens leaves open, innermost first. -/
def Token.openNames (ts : List Token) : List String := ts.foldl Token.openAfter []

theorem Token.openNames_append (ts us : List Token) :
    Token.openNames (ts ++ us) = us.foldl Token.openAfter (Token.openNames ts) := by
  simp [Token.openNames, List.foldl_append]

namespace TreeBuilder

/-- The names of the open elements, innermost first. -/
def names (b : TreeBuilder) : List String := b.stack.map OpenElement.name

theorem names_pop (b : TreeBuilder) : b.pop.names = b.names.drop 1 := by
  obtain ⟨root, stack⟩ := b
  cases stack with
  | nil => rfl
  | cons e es => simp [pop, names]

theorem names_popN : ∀ (k : Nat) (b : TreeBuilder), (popN k b).names = b.names.drop k
  | 0, b => rfl
  | k + 1, b => by
    rw [popN, names_popN k b.pop, names_pop, List.drop_drop, Nat.add_comm]

/-- Closing finds the innermost open element by name, the names alone deciding. -/
theorem close?_eq (b : TreeBuilder) (name : String) :
    b.close? name =
      (b.names.findIdx? (equalsIgnoringAsciiCase · name)).map fun i => popN (i + 1) b := by
  simp [close?, names, List.findIdx?_map, Function.comp_def]

/-- Feeding a token moves the open names as `Token.openAfter` says. -/
theorem names_feed {b b' : TreeBuilder} {t : Token} {p : Nat} (h : b.feed t p = .ok b') :
    b'.names = Token.openAfter b.names t := by
  cases t with
  | text s | cdata s =>
    simp only [feed, Except.ok.injEq] at h
    subst h
    exact names_addText b s
  | ref name =>
    simp only [feed, Except.ok.injEq] at h
    subst h
    exact names_addText b _
  | start content =>
    simp only [feed, Except.ok.injEq] at h
    subst h
    split <;> simp_all [Token.openAfter, addLeaf, names, openElement]
  | empty content =>
    simp only [feed, Except.ok.injEq] at h
    subst h
    simp [Token.openAfter, addLeaf, names]
  | close name =>
    simp only [feed] at h
    rw [close?_eq] at h
    simp only [Token.openAfter]
    cases hidx : b.names.findIdx? (equalsIgnoringAsciiCase · name) with
    | some i =>
      simp only [hidx, Option.map_some, Except.ok.injEq] at h
      subst h
      exact names_popN (i + 1) b
    | none =>
      simp only [hidx, Option.map_none] at h
      split at h
      · cases h
        rfl
      · cases h
  | comment _ | declaration _ | instruction _ | doctype _ =>
    simp only [feed, Except.ok.injEq] at h
    subst h
    rfl

/-- **Feeding a run, one token at a time.** A fact about a builder and the tokens fed to it so
    far that every token fed without error carries on holds after a run fed without error. -/
theorem foldlM_feed_induct (P : List Token → TreeBuilder → Prop)
    (hstep : ∀ {done b b' t p}, P done b → b.feed t p = .ok b' → P (done ++ [t]) b') :
    ∀ {ts : List (Token × Nat)} {done : List Token} {b b' : TreeBuilder}, P done b →
      ts.foldlM (fun b tp => b.feed tp.1 tp.2) b = .ok b' → P (done ++ ts.map Prod.fst) b'
  | [], done, b, b', hb, h => by
    simp only [List.foldlM_nil, pure, Except.pure, Except.ok.injEq] at h
    subst h
    simpa using hb
  | tp :: ts, done, b, b', hb, h => by
    rw [List.foldlM_cons] at h
    cases hfeed : b.feed tp.1 tp.2 with
    | error e =>
      rw [hfeed] at h
      cases h
    | ok b₁ =>
      rw [hfeed] at h
      simpa using foldlM_feed_induct P hstep (hstep hb hfeed) h

/-- Tokens fed without error leave open the names `Token.openAfter` says. -/
theorem names_foldlM_feed {ts : List (Token × Nat)} {b b' : TreeBuilder}
    (h : ts.foldlM (fun b tp => b.feed tp.1 tp.2) b = .ok b') :
    b'.names = (ts.map Prod.fst).foldl Token.openAfter b.names := by
  have hrun := @foldlM_feed_induct (fun done b' => b'.names = done.foldl Token.openAfter b.names)
    (fun hb hfeed => by rw [names_feed hfeed, hb, List.foldl_append, List.foldl_cons, List.foldl_nil])
    ts [] b b' rfl h
  simpa using hrun

theorem names_empty : empty.names = [] := rfl

/-! ### Where feeding fails -/

/-- Feeding a token fails only at a closing tag that matches no open element and is not void,
    with its name and position. -/
theorem feed_eq_error {b : TreeBuilder} {t : Token} {p : Nat} {e : ParseError}
    (h : b.feed t p = .error e) :
    ∃ name, t = .close name ∧ e = .unexpectedEndTag name p ∧ isVoidElement name = false ∧
      ∀ x ∈ b.names, equalsIgnoringAsciiCase x name = false := by
  cases t with
  | close name =>
    simp only [feed] at h
    rw [close?_eq] at h
    cases hidx : b.names.findIdx? (equalsIgnoringAsciiCase · name) with
    | some i =>
      simp only [hidx, Option.map_some] at h
      cases h
    | none =>
      simp only [hidx, Option.map_none] at h
      split at h
      · cases h
      · next hvoid =>
        simp only [Except.error.injEq] at h
        refine ⟨name, rfl, h.symm, by simpa using hvoid, ?_⟩
        intro x hx
        simpa using List.findIdx?_eq_none_iff.mp hidx x hx
  | text _ | cdata _ | ref _ | start _ | empty _ | comment _ | declaration _ | instruction _
  | doctype _ => simp [feed] at h

/-- A closing tag fed without error closed an open element of its name or is void. -/
theorem close_matched {b b' : TreeBuilder} {name : String} {p : Nat}
    (h : b.feed (.close name) p = .ok b') :
    isVoidElement name = true ∨ ∃ x ∈ b.names, equalsIgnoringAsciiCase x name = true := by
  simp only [feed] at h
  rw [close?_eq] at h
  cases hidx : b.names.findIdx? (equalsIgnoringAsciiCase · name) with
  | some i =>
    obtain ⟨hi, hmatch, -⟩ := List.findIdx?_eq_some_iff_getElem.mp hidx
    exact .inr ⟨_, List.getElem_mem hi, hmatch⟩
  | none =>
    simp only [hidx, Option.map_none] at h
    split at h
    · next hvoid => exact .inl hvoid
    · cases h

/-- A fold that fails, fails at one token after a prefix that feeds without error. -/
theorem foldlM_feed_error : ∀ {ts : List (Token × Nat)} {b : TreeBuilder} {e : ParseError},
    ts.foldlM (fun b tp => b.feed tp.1 tp.2) b = .error e →
    ∃ before tp after b', ts = before ++ tp :: after ∧
      before.foldlM (fun b tp => b.feed tp.1 tp.2) b = .ok b' ∧ b'.feed tp.1 tp.2 = .error e
  | [], b, e, h => by cases h
  | tp :: ts, b, e, h => by
    rw [List.foldlM_cons] at h
    cases hfeed : b.feed tp.1 tp.2 with
    | error e' =>
      rw [hfeed] at h
      cases h
      exact ⟨[], tp, ts, b, rfl, rfl, hfeed⟩
    | ok b₁ =>
      rw [hfeed] at h
      obtain ⟨before, tp', after, b', rfl, hbefore, htp⟩ := foldlM_feed_error h
      refine ⟨tp :: before, tp', after, b', rfl, ?_, htp⟩
      rw [List.foldlM_cons, hfeed]
      exact hbefore

/-- Every token of a run fed without error was fed without error after the ones before it. -/
theorem foldlM_feed_prefix : ∀ {pre : List (Token × Nat)} {tp : Token × Nat}
    {post : List (Token × Nat)} {b b' : TreeBuilder},
    (pre ++ tp :: post).foldlM (fun b tp => b.feed tp.1 tp.2) b = .ok b' →
    ∃ b₁ b₂, pre.foldlM (fun b tp => b.feed tp.1 tp.2) b = .ok b₁ ∧ b₁.feed tp.1 tp.2 = .ok b₂
  | pre, tp, post, b, b', h => by
    rw [List.foldlM_append] at h
    cases hpre : pre.foldlM (fun b tp => b.feed tp.1 tp.2) b with
    | error e =>
      rw [hpre] at h
      cases h
    | ok b₁ =>
      rw [hpre] at h
      simp only [bind, Except.bind, List.foldlM_cons] at h
      cases htp : b₁.feed tp.1 tp.2 with
      | error e =>
        rw [htp] at h
        cases h
      | ok b₂ => exact ⟨b₁, b₂, rfl, htp⟩

end TreeBuilder

/-- **Where an unmatched closing tag stops parsing.** A document that fails with
    `unexpectedEndTag name position` has that closing tag in its stream at `position`. Its name
    is not void, no element open before it has its name, and every closing tag before it
    closed an open element or was void. -/
theorem Document.parse_unexpectedEndTag_split {s name : String} {position : Nat}
    (h : Document.parse s = .error (.unexpectedEndTag name position)) :
    isVoidElement name = false ∧
    ∃ before after, (Document.stream s).tokens = before ++ (.close name, position) :: after ∧
      (∀ x ∈ Token.openNames (before.map Prod.fst), equalsIgnoringAsciiCase x name = false) ∧
      ∀ pre x q mid, before = pre ++ (.close x, q) :: mid →
        isVoidElement x = true ∨
          ∃ y ∈ Token.openNames (pre.map Prod.fst), equalsIgnoringAsciiCase y x = true := by
  rw [Document.parse_eq_stream, TreeBuilder.feedStream] at h
  -- the fault only fails as malformed markup, so the fold itself failed
  cases hfold : (Document.stream s).tokens.foldlM (fun b tp => b.feed tp.1 tp.2)
      TreeBuilder.empty with
  | ok b =>
    rw [hfold] at h
    cases hfault : (Document.stream s).fault with
    | none => simp [hfault, bind, Except.bind, Except.map] at h
    | some fp => simp [hfault, bind, Except.bind, Except.map] at h
  | error e =>
    rw [hfold] at h
    simp only [bind, Except.bind, Except.map, Except.error.injEq] at h
    subst h
    obtain ⟨before, tp, after, b, hsplit, hbefore, htp⟩ := TreeBuilder.foldlM_feed_error hfold
    obtain ⟨x, htok, herr, hvoid, hnone⟩ := TreeBuilder.feed_eq_error htp
    obtain ⟨t, q⟩ := tp
    simp only at htok herr
    subst htok
    cases herr
    have hnames := TreeBuilder.names_foldlM_feed hbefore
    refine ⟨hvoid, before, after, hsplit, ?_, ?_⟩
    · rw [Token.openNames, ← TreeBuilder.names_empty, ← hnames]
      exact hnone
    · intro pre y r mid hpre
      subst hpre
      obtain ⟨b₁, b₂, hpre, hclose⟩ := TreeBuilder.foldlM_feed_prefix hbefore
      rw [Token.openNames, ← TreeBuilder.names_empty, ← TreeBuilder.names_foldlM_feed hpre]
      exact TreeBuilder.close_matched hclose

end Tagweave
