import Tagweave.Proofs.LiteralText

namespace Tagweave

/-!
# Malformed markup

The scan that cuts a document at its literal `<`s and the reader of each piece agree on where
markup ends, with one exception. The scan closes a processing instruction at the first `?>`
after its `<?`; the reader lets the `?` of `<?` be the `?` of its `?>`, so that `<?>` is a
whole instruction to it, one whose body is too short to have been closed. Every other markup
the scan took whole is one token to the reader (`Token.readFrom_scanned`), so this is the only
way a document without `<!` comes to fail as malformed markup.

* `TreeBuilder.foldlM_feedPiece_malformed`, `Document.parse_malformed_piece`: a malformed
  markup error comes from the fault of one piece's reading, since the builder raises none.
* `Document.malformed_unclosedInstruction`: with no `<!`, that fault is a `<?>` the scan closed.
* `TokenStream.read_unclosedInstruction`, `Document.parse_unclosedInstruction`: a document whose
  first `<` opens such an instruction fails there.
* `Document.parse_malformed` puts the two directions together.
-/

/-- Only a mark at the very start is dropped, so a `<` after it stays where it was. -/
theorem dropMark_append_angle (pre r : List Char) :
    dropMark (pre ++ '<' :: r) = dropMark pre ++ '<' :: r := by
  cases pre with
  | nil => rfl
  | cons c p =>
    by_cases hc : c = '\uFEFF'
    · subst hc
      rfl
    · rw [dropMark_unmarked, dropMark_unmarked] <;> simp [hc]

/-- No `<` of the text is followed at once by `!`. -/
theorem noBang_of_not_infix {cs : List Char} (h : ¬ ['<', '!'] <:+: cs) :
    ∀ pre rest, cs ≠ pre ++ '<' :: '!' :: rest := by
  rintro pre rest rfl
  exact h ⟨pre, rest, by simp⟩

namespace TreeBuilder

/-- The pieces after the first fail as malformed markup only through the fault of one of them. -/
theorem foldlM_feedPiece_malformed {p : Nat} {f : MarkupFault} :
    ∀ (ps : List (Nat × List Char)) (b : TreeBuilder),
      ps.foldlM (fun b q => (b.addText "<").feedPiece q.1 (TokenStream.read q.2)) b =
        .error (.malformed p f) →
      ∃ piece ∈ ps, ∃ q, (TokenStream.read piece.2).fault = some (f, q)
  | [], b, h => by cases h
  | piece :: ps, b, h => by
    rw [List.foldlM_cons] at h
    cases hpiece : (b.addText "<").feedPiece piece.1 (TokenStream.read piece.2) with
    | error e =>
      -- this piece fails, and only its fault can make the error malformed markup
      simp only [hpiece, bind, Except.bind, Except.error.injEq] at h
      subst h
      obtain ⟨q, hq⟩ := feedPiece_malformed hpiece
      exact ⟨piece, List.mem_cons_self, q, hq⟩
    | ok b' =>
      simp only [hpiece, bind, Except.bind] at h
      obtain ⟨bad, hbad, q, hq⟩ := foldlM_feedPiece_malformed ps b' h
      exact ⟨bad, List.mem_cons_of_mem _ hbad, q, hq⟩

end TreeBuilder

/-- A document fails as malformed markup only through the fault of one of its pieces. -/
theorem Document.parse_malformed_piece {s : String} {p : Nat} {f : MarkupFault}
    (h : Document.parse s = .error (.malformed p f)) :
    ∃ piece ∈ Angle.pieces s, ∃ q, (TokenStream.read piece.2).fault = some (f, q) := by
  -- a document always has a first piece
  obtain ⟨first, rest, hhead⟩ := Angle.piecesFrom_head 0 0 [] s.toList
  have hpieces : Angle.pieces s = (0, first) :: rest := by
    rw [Angle.pieces, hhead, List.reverse_nil, List.nil_append]
  rw [Document.parse_of_pieces hpieces] at h
  rw [hpieces]
  cases hfirst : TreeBuilder.empty.feedPiece 0 (TokenStream.read first) with
  | error e =>
    simp only [hfirst, bind, Except.bind, Except.error.injEq] at h
    subst h
    obtain ⟨q, hq⟩ := TreeBuilder.feedPiece_malformed hfirst
    exact ⟨(0, first), List.mem_cons_self, q, hq⟩
  | ok b =>
    simp only [hfirst, bind, Except.bind] at h
    -- the builder's last step cannot fail, so the error is the fold's
    cases hfold : rest.foldlM (fun b q => (b.addText "<").feedPiece q.1
        (TokenStream.read q.2)) b with
    | error e =>
      rw [hfold] at h
      cases h
      obtain ⟨bad, hbad, q, hq⟩ := TreeBuilder.foldlM_feedPiece_malformed rest b hfold
      exact ⟨bad, List.mem_cons_of_mem _ hbad, q, hq⟩
    | ok b' =>
      rw [hfold] at h
      cases h

/-- A piece whose first `<` opens `<?>` is read as the text before it, then fails there: the
    instruction is reported unclosed at the offset of its `<` in the piece as read, that is
    without the piece's leading byte-order mark. -/
theorem TokenStream.read_unclosedInstruction {pre : List Char} (hpre : '<' ∉ pre)
    (r : List Char) :
    ∃ tokens, TokenStream.read (pre ++ '<' :: '?' :: '>' :: r) =
        ⟨tokens, some (.unclosedInstruction, Angle.byteLength (dropMark pre))⟩ ∧
      Token.spelling (tokens.map Prod.fst) = some (dropMark pre) := by
  have hmark : '<' ∉ dropMark pre := fun hmem => hpre ((dropMark_sublist pre).subset hmem)
  obtain ⟨new, hread, hspelling⟩ :=
    Token.readsAsText (dropMark pre) ('<' :: '?' :: '>' :: r) hmark (Or.inr rfl) 0 []
  refine ⟨new.reverse, ?_, by rw [List.map_reverse]; exact hspelling⟩
  rw [TokenStream.read_eq_dropMark, dropMark_append_angle, hread, Token.readFrom_text_angle,
    Token.readFrom.eq_3]
  -- the reader stops at `<?>`, one byte into the markup, and reports the `<`
  split
  · next fault heq =>
    rw [Token.readMarkup_unclosedInstruction, Except.error.injEq] at heq
    subst heq
    simp
  · next token used heq =>
    rw [Token.readMarkup_unclosedInstruction] at heq
    cases heq

/-- The first piece of a document whose first `<` opens `<?>` and has a `?>` after it
    runs from the start up to that `<?>` and on. -/
theorem Angle.pieces_instruction {pre mid rest : List Char} (hpre : '<' ∉ pre) :
    ∃ r more, Angle.pieces
        (String.ofList (pre ++ '<' :: '?' :: '>' :: (mid ++ '?' :: '>' :: rest))) =
      (0, pre ++ '<' :: '?' :: '>' :: r) :: more := by
  -- the scan finds the `?>`, so `<?>` opens markup and stays in the first piece
  obtain ⟨j, hj⟩ := @Angle.findSub_isSome ['?', '>'] ('>' :: mid) rest
  have hextent : Angle.markupExtent ('<' :: '?' :: '>' :: (mid ++ '?' :: '>' :: rest)) =
      some (j + 4) := by
    rw [Angle.markupExtent_query]
    simp only [List.cons_append, List.append_assoc, List.nil_append] at hj
    rw [hj]
    rfl
  unfold Angle.pieces
  rw [String.toList_ofList, Angle.passes_plain hpre, Angle.piecesFrom, if_pos rfl, hextent]
  dsimp only
  obtain ⟨more, pieces, hhead⟩ := Angle.piecesFrom_head
    (0 + Angle.byteLength pre +
      Angle.byteLength (('<' :: '?' :: '>' :: (mid ++ '?' :: '>' :: rest)).take (j + 4)))
    0 ((('<' :: '?' :: '>' :: (mid ++ '?' :: '>' :: rest)).take (j + 4)).reverse ++
      (pre.reverse ++ []))
    (('?' :: '>' :: (mid ++ '?' :: '>' :: rest)).drop (j + 4 - 1))
  refine ⟨(mid ++ '?' :: '>' :: rest).take (j + 1) ++ more, pieces, ?_⟩
  rw [hhead]
  simp

/-- In a document with no `<!`, the only markup the reader finds malformed is an instruction
    opened by `<?>` with a `?>` after it, which the scan took whole. -/
theorem Document.malformed_unclosedInstruction {s : String} (hbang : ¬ ['<', '!'] <:+: s.toList)
    {p : Nat} {f : MarkupFault} (h : Document.parse s = .error (.malformed p f)) :
    f = .unclosedInstruction ∧
      ∃ pre mid rest, s.toList = pre ++ '<' :: '?' :: '>' :: (mid ++ '?' :: '>' :: rest) := by
  -- the faulty piece was cut by the scan, so its fault is a `<?>` the scan saw closed
  have hnoBang := noBang_of_not_infix hbang
  obtain ⟨piece, hmem, q, hfault⟩ := Document.parse_malformed_piece h
  obtain ⟨hscanned, hpiece⟩ := Angle.pieces_scanned hnoBang piece hmem
  obtain ⟨hf, pre, mid, rest, hcs⟩ :=
    TokenStream.read_fault hscanned (Angle.noBang_of_infix hpiece hnoBang) hfault
  obtain ⟨before, after, hs⟩ := hpiece
  refine ⟨hf, before ++ pre, mid, rest ++ after, ?_⟩
  rw [← hs, hcs]
  simp

/-- A document whose first `<` opens `<?>`, with a `?>` after it, fails there as an unclosed
    instruction, at the offset of that `<` less a leading byte-order mark. -/
theorem Document.parse_unclosedInstruction {pre : List Char} (hpre : '<' ∉ pre)
    (mid rest : List Char) :
    Document.parse (String.ofList (pre ++ '<' :: '?' :: '>' :: (mid ++ '?' :: '>' :: rest))) =
      .error (.malformed (Angle.byteLength (dropMark pre)) .unclosedInstruction) := by
  -- the first piece holds the `<?>`, and reading it fails before any token is built
  obtain ⟨r, more, hpieces⟩ := @Angle.pieces_instruction pre mid rest hpre
  obtain ⟨tokens, hread, hspelling⟩ := TokenStream.read_unclosedInstruction hpre r
  have hfirst := @TreeBuilder.feedPiece_of_feeds_fault
    ⟨tokens, some (.unclosedInstruction, Angle.byteLength (dropMark pre))⟩ _ _
    (TreeBuilder.feeds_spelling hspelling TreeBuilder.empty) _ _ rfl 0
  rw [Document.parse_of_pieces hpieces, hread, hfirst, Nat.zero_add]
  rfl

/-- **Malformed markup is an instruction opened by `<?>`.** In a document with no `<!`, the
    only markup the reader finds malformed is a processing instruction opened by `<?>` with a
    `?>` after it. And when the first `<` of the document opens `<?>`, with a `?>` anywhere
    after it, the document fails there: the instruction is reported unclosed, at the offset of
    its `<` less a leading byte-order mark. -/
theorem Document.parse_malformed (s : String) (hbang : ¬ ['<', '!'] <:+: s.toList) :
    (∀ p f, Document.parse s = .error (.malformed p f) →
      f = .unclosedInstruction ∧
        ∃ pre mid rest, s.toList = pre ++ '<' :: '?' :: '>' :: (mid ++ '?' :: '>' :: rest)) ∧
    (∀ pre mid rest, '<' ∉ pre →
      s.toList = pre ++ '<' :: '?' :: '>' :: (mid ++ '?' :: '>' :: rest) →
      Document.parse s =
        .error (.malformed (Angle.byteLength (dropMark pre)) .unclosedInstruction)) := by
  refine ⟨fun p f h => Document.malformed_unclosedInstruction hbang h, ?_⟩
  intro pre mid rest hpre hs
  rw [← String.ofList_toList (s := s), hs]
  exact Document.parse_unclosedInstruction hpre mid rest

/-- `<?>?>` is an instruction to the scan, closed by its last two characters, but the reader
    ends it at the first `>` and finds it unclosed. -/
theorem parse_unclosedInstruction_query :
    ¬ ['<', '!'] <:+: "<?>?>".toList ∧ '<' ∉ ([] : List Char) ∧
    "<?>?>".toList = [] ++ '<' :: '?' :: '>' :: ([] ++ '?' :: '>' :: []) ∧
    Document.parse "<?>?>" = .error (.malformed 0 .unclosedInstruction) ∧
    ∃ pre mid rest, "<?>?>".toList = pre ++ '<' :: '?' :: '>' :: (mid ++ '?' :: '>' :: rest) := by
  have hbang : ¬ ['<', '!'] <:+: "<?>?>".toList := by decide
  have hs : "<?>?>".toList = [] ++ '<' :: '?' :: '>' :: ([] ++ '?' :: '>' :: []) := by decide
  have hparse := (Document.parse_malformed "<?>?>" hbang).2 [] [] [] List.not_mem_nil hs
  exact ⟨hbang, List.not_mem_nil, hs, hparse,
    ((Document.parse_malformed "<?>?>" hbang).1 0 _ hparse).2⟩

end Tagweave
