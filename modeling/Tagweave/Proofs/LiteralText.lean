import Tagweave.Proofs.TreeBuilder

namespace Tagweave

/-!
# Text without markup

A document in which no `<` starts markup is cut at each of its `<`s (`Angle.piecesFrom_allLiteral`),
every piece is read as text and reference tokens that spell it, and the builder merges the
pieces, with the `<`s between them, into one text node. What is lost is a byte-order mark at
the start of each piece, which the reader of a piece drops: at the start of the document and
right after each `<` (`dropSpanMarks`).

* `TreeBuilder.feedPiece_read_text`: one piece without `<` adds its text, mark dropped.
* `Document.parse_allLiteral` is the statement for a whole document.
-/

/-- A list without the byte-order mark it starts with, if it does. -/
def dropMark : List Char → List Char
  | '\uFEFF' :: cs => cs
  | cs => cs

/-- The text without a byte-order mark at its start and right after each `<`. -/
def dropSpanMarks (s : String) : String :=
  String.ofList (['<'].intercalate ((s.toList.splitOn '<').map dropMark))

theorem dropMark_unmarked {cs : List Char} (h : ∀ rest, cs ≠ '\uFEFF' :: rest) :
    dropMark cs = cs := by
  unfold dropMark
  split
  · next rest => exact absurd rfl (h rest)
  · rfl

theorem TokenStream.read_eq_dropMark (cs : List Char) :
    TokenStream.read cs = Token.readFrom .text (dropMark cs) 0 [] := by
  by_cases hmarked : ∃ rest, cs = '\uFEFF' :: rest
  · obtain ⟨rest, rfl⟩ := hmarked
    rfl
  · have hunmarked : ∀ rest, cs ≠ '\uFEFF' :: rest := fun rest h => hmarked ⟨rest, h⟩
    rw [TokenStream.read_unmarked hunmarked, dropMark_unmarked hunmarked]

theorem dropMark_sublist (cs : List Char) : (dropMark cs).Sublist cs := by
  unfold dropMark
  split
  · exact List.sublist_cons_self _ _
  · exact List.Sublist.refl _

/-- Joining at single `<`s: the first stretch, then each other one after its `<`. -/
theorem intercalate_angle (l : List Char) (ls : List (List Char)) :
    ['<'].intercalate (l :: ls) = l ++ ls.flatMap ('<' :: ·) := by
  induction ls generalizing l with
  | nil => simp
  | cons l' ls ih =>
    rw [List.intercalate_cons_cons, ih, List.flatMap_cons]
    simp

namespace TreeBuilder

/-- A piece without `<` is read as its text, without a leading mark. -/
theorem feedPiece_read_text {cs : List Char} (h : '<' ∉ cs) (b : TreeBuilder) (base : Nat) :
    b.feedPiece base (TokenStream.read cs) = .ok (b.addText (String.ofList (dropMark cs))) := by
  have hmark : '<' ∉ dropMark cs := fun hmem => h ((dropMark_sublist cs).subset hmem)
  obtain ⟨new, hread, hspelling⟩ := Token.readsAsText (dropMark cs) [] hmark (Or.inl rfl) 0 []
  rw [List.append_nil, List.append_nil, Token.readFrom_text_nil] at hread
  have hspelled : Token.spelling (new.reverse.map Prod.fst) = some (dropMark cs) := by
    rw [List.map_reverse]
    exact hspelling
  rw [TokenStream.read_eq_dropMark, hread]
  exact feedPiece_of_feeds (feeds_spelling hspelled b) rfl base

/-- The pieces after the first, each after its `<`, add their texts one after another. -/
theorem foldlM_feedPiece_text : ∀ (ps : List (Nat × List Char)) (b : TreeBuilder),
    (∀ p ∈ ps, '<' ∉ p.2) →
    ps.foldlM (fun b p => (b.addText "<").feedPiece p.1 (TokenStream.read p.2)) b =
      .ok (b.addText (String.ofList (ps.flatMap fun p => '<' :: dropMark p.2)))
  | [], b, _ => by
    rw [List.flatMap_nil, String.ofList_nil, addText_empty]
    rfl
  | p :: ps, b, h => by
    have hrest := foldlM_feedPiece_text ps ((b.addText "<").addText (String.ofList (dropMark p.2)))
      (fun q hq => h q (List.mem_cons_of_mem _ hq))
    rw [List.foldlM_cons, feedPiece_read_text (h p List.mem_cons_self)]
    simp only [bind, Except.bind]
    rw [hrest, addText_append, addText_append]
    congr 2
    apply String.toList_injective
    simp

end TreeBuilder

/-- **Text without markup is kept.** When every `<` of a document is literal, reading it gives
    one text node of the whole document, or nothing when that is empty, except for the
    byte-order mark that starts a piece, at the start of the document or right after a `<`,
    which is dropped. -/
theorem Document.parse_allLiteral (s : String)
    (hliteral : ∀ pre rest, s.toList = pre ++ '<' :: rest →
      Angle.byteLength pre ∈ Angle.literals s) :
    Document.parse s = .ok (if dropSpanMarks s = "" then [] else [.text (dropSpanMarks s)]) := by
  have hall : Angle.AllLiteral 0 s.toList := fun pre rest h => by
    rw [Nat.zero_add]
    exact hliteral pre rest h
  obtain ⟨hsplit, hfree⟩ := @Angle.piecesFrom_allLiteral 0 0 [] s.toList List.not_mem_nil hall
  change (Angle.pieces s).map Prod.snd = ([].reverse ++ s.toList).splitOn '<' at hsplit
  change ∀ p ∈ Angle.pieces s, '<' ∉ p.2 at hfree
  rw [List.reverse_nil, List.nil_append] at hsplit
  -- the first piece, then the others, each after its `<`
  obtain ⟨first, rest, hpieces⟩ : ∃ first rest, Angle.pieces s = first :: rest := by
    cases hp : Angle.pieces s with
    | nil =>
      rw [hp, List.map_nil] at hsplit
      exact absurd hsplit.symm (List.splitOn_ne_nil '<' s.toList)
    | cons first rest => exact ⟨first, rest, rfl⟩
  rw [hpieces] at hsplit hfree
  have htext : dropSpanMarks s =
      String.ofList (dropMark first.2) ++
        String.ofList (rest.flatMap fun p => '<' :: dropMark p.2) := by
    unfold dropSpanMarks
    rw [← hsplit, List.map_cons, List.map_cons, intercalate_angle, String.ofList_append]
    simp [List.flatMap_map]
  have hfirst := TreeBuilder.feedPiece_read_text (hfree first List.mem_cons_self)
    TreeBuilder.empty first.1
  have hfold := TreeBuilder.foldlM_feedPiece_text rest
    (TreeBuilder.empty.addText (String.ofList (dropMark first.2)))
    (fun p hp => hfree p (List.mem_cons_of_mem _ hp))
  rw [Document.parse_of_pieces hpieces, hfirst]
  simp only [bind, Except.bind]
  rw [hfold, TreeBuilder.addText_append, ← htext]
  show Except.ok (TreeBuilder.empty.addText (dropSpanMarks s)).finish = _
  rw [TreeBuilder.finish_addText_empty]

/-- A byte-order mark right after a literal `<` is lost: `a<`, the mark and `b` are read as the
    text `a<b`. -/
theorem parse_allLiteral_mark_after_angle :
    (∀ pre rest, "a<\uFEFFb".toList = pre ++ '<' :: rest →
      Angle.byteLength pre ∈ Angle.literals "a<\uFEFFb") ∧
    Document.parse "a<\uFEFFb" =
      .ok (if dropSpanMarks "a<\uFEFFb" = "" then [] else [.text (dropSpanMarks "a<\uFEFFb")]) ∧
    dropSpanMarks "a<\uFEFFb" = "a<b" := by
  have hchars : "a<\uFEFFb".toList = ['a', '<', '\uFEFF', 'b'] := by decide
  have hliterals : Angle.literals "a<\uFEFFb" = [1] := by
    simp [Angle.literals, hchars, Angle.literalsFrom, Angle.markupExtent, List.isPrefixOf,
      Char.utf8Size]
  have hangles : Angle.anglesFrom 0 "a<\uFEFFb".toList = [1] := by
    rw [hchars]
    decide
  have hliteral : ∀ pre rest, "a<\uFEFFb".toList = pre ++ '<' :: rest →
      Angle.byteLength pre ∈ Angle.literals "a<\uFEFFb" := by
    intro pre rest h
    have hall := @Angle.allLiteral_of_anglesFrom 0 "a<\uFEFFb".toList (fun x hx => by
      rw [hangles] at hx
      rw [← Angle.literals, hliterals]
      exact hx) pre rest h
    rw [Nat.zero_add] at hall
    exact hall
  exact ⟨hliteral, Document.parse_allLiteral _ hliteral, by decide⟩

end Tagweave
