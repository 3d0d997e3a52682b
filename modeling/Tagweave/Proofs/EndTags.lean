import Tagweave.Proofs.DocumentStream
import Tagweave.Proofs.MarkupFaults

namespace Tagweave

/-!
# Unmatched closing tags

Where a closing tag that matches no open element is reported.

* `Token.readMarkup_close_shape` and `Token.readFrom_close_located`: a closing tag token stands for
  `</`, its name, the blanks cut from the end of the name, and `>`. Its offset is just past
  that `>`, counted from the start of the text the reader was given.
* `TokenStream.read_close`: in a piece, that count starts after a byte-order mark the piece
  opens with, which the reader drops.
* `Angle.pieces_located`: each piece of a document stands in it at its offset.
* `Document.parse_unexpectedEndTag`: a document that fails on an unmatched closing tag fails
  at the first closing tag whose name is not void and matches no open element. Its position is
  just past that tag's `>` in the document, less three bytes when the tag's piece opens with a
  byte-order mark.
-/

open Angle (byteLength byteLength_append byteLength_cons)

/-- `cs` holds a closing tag named `name` whose end, `>`, is `p` bytes into `cs`: `</`, the
    name, blanks and `>`. -/
def Token.ClosedAt (cs : List Char) (name : String) (p : Nat) : Prop :=
  ∃ pre w post, cs = pre ++ '<' :: '/' :: (name.toList ++ w ++ '>' :: post) ∧
    (∀ c ∈ w, Unicode.isMarkupBlank c = true) ∧
    p = byteLength (pre ++ '<' :: '/' :: (name.toList ++ w ++ ['>']))

namespace Token

/-- The scan for the end of a tag stops at a `>`. -/
theorem tagEnd_go_closes : ∀ {cs : List Char} {q : Option Char} {n k : Nat},
    Angle.tagEnd.go cs q n = some k → ∃ post, cs = cs.take (k - n - 1) ++ '>' :: post
  | [], _, _, _, h => by simp [Angle.tagEnd.go] at h
  | c :: rest, none, n, k, h => by
    simp only [Angle.tagEnd.go] at h
    split at h
    · obtain ⟨post, hpost⟩ := tagEnd_go_closes h
      have hlt := Angle.tagEnd_go_lt h
      refine ⟨post, ?_⟩
      rw [show k - n - 1 = (k - (n + 1) - 1) + 1 by omega, List.take_succ_cons, List.cons_append,
        ← hpost]
    · split at h
      · next hclose =>
        cases h
        subst hclose
        exact ⟨rest, by simp⟩
      · obtain ⟨post, hpost⟩ := tagEnd_go_closes h
        have hlt := Angle.tagEnd_go_lt h
        refine ⟨post, ?_⟩
        rw [show k - n - 1 = (k - (n + 1) - 1) + 1 by omega, List.take_succ_cons,
          List.cons_append, ← hpost]
  | c :: rest, some q, n, k, h => by
    simp only [Angle.tagEnd.go] at h
    split at h <;>
    · obtain ⟨post, hpost⟩ := tagEnd_go_closes h
      have hlt := Angle.tagEnd_go_lt h
      refine ⟨post, ?_⟩
      rw [show k - n - 1 = (k - (n + 1) - 1) + 1 by omega, List.take_succ_cons, List.cons_append,
        ← hpost]

/-- A tag's body is followed by the `>` that ends it. -/
theorem tagBody_closes {cs body : List Char} (h : tagBody cs = some body) :
    ∃ post, cs = body ++ '>' :: post := by
  obtain ⟨k, hk, rfl⟩ := Option.map_eq_some_iff.mp h
  obtain ⟨post, hpost⟩ := tagEnd_go_closes hk
  exact ⟨post, by simpa using hpost⟩

/-- A name is what is left of it without its trailing blanks, then those blanks. -/
theorem dropTrailing_append_blanks (cs : List Char) :
    ∃ w, cs = Unicode.dropTrailing Unicode.isMarkupBlank cs ++ w ∧
      ∀ c ∈ w, Unicode.isMarkupBlank c = true := by
  refine ⟨(cs.reverse.takeWhile Unicode.isMarkupBlank).reverse, ?_, ?_⟩
  · rw [Unicode.dropTrailing, ← List.reverse_append, List.takeWhile_append_dropWhile,
      List.reverse_reverse]
  · intro c hc
    rw [List.mem_reverse] at hc
    have hall := List.all_takeWhile (l := cs.reverse) (p := Unicode.isMarkupBlank)
    rw [List.all_eq_true] at hall
    exact hall c hc

/-- A closing tag is `/`, its name, the blanks trimmed from the name, and `>`. -/
theorem readMarkup_close_shape {cs : List Char} {pos used : Nat} {name : String}
    (h : readMarkup cs pos = .ok (.close name, used)) :
    ∃ w post, cs = '/' :: (name.toList ++ w ++ '>' :: post) ∧
      (∀ c ∈ w, Unicode.isMarkupBlank c = true) ∧
      cs.take used = '/' :: (name.toList ++ w ++ ['>']) := by
  unfold readMarkup at h
  split at h
  · cases h
  · -- the `<!` forms are never closing tags
    simp only at h
    repeat' split at h
    all_goals cases h
  · next r =>
    split at h
    · cases h
    · next body hbody =>
      simp only [Except.ok.injEq, Prod.mk.injEq, Token.close.injEq] at h
      obtain ⟨hname, rfl⟩ := h
      obtain ⟨post, hpost⟩ := tagBody_closes hbody
      -- the body starts with the `/`, which is not the closing `>`
      obtain ⟨rest, hrest⟩ : ∃ rest, body = '/' :: rest := by
        cases body with
        | nil => simp at hpost
        | cons d rest =>
          simp only [List.cons_append, List.cons.injEq] at hpost
          exact ⟨rest, by rw [hpost.1]⟩
      subst hrest
      simp only [List.drop_one, List.tail_cons] at hname
      obtain ⟨w, hw, hblank⟩ := dropTrailing_append_blanks rest
      split at hname
      · refine ⟨[], post, ?_, by simp, ?_⟩
        · rw [← hname, String.toList_ofList, List.append_nil, hpost, List.cons_append]
        · rw [← hname, String.toList_ofList, hpost]
          simp [List.take_append, List.take_of_length_le]
      · refine ⟨w, post, ?_, hblank, ?_⟩
        · rw [← hname, String.toList_ofList, ← hw, hpost, List.cons_append]
        · rw [← hname, String.toList_ofList, ← hw, hpost]
          simp [List.take_append, List.take_of_length_le]
  · simp only at h
    repeat' split at h
    all_goals cases h
  · simp only at h
    repeat' split at h
    all_goals cases h

/-- The first character past a plain stretch, when there is one, stops the stretch. -/
theorem stops_after_takeWhile {p : Char → Bool} {cs r : List Char} {c : Char}
    (h : cs.drop (cs.takeWhile p).length = c :: r) : p c = false ∧ cs = cs.takeWhile p ++ c :: r := by
  have hsplit := List.takeWhile_append_dropWhile (p := p) (l := cs)
  have hdrop : cs.drop (cs.takeWhile p).length = cs.dropWhile p := by
    have hleft := @List.drop_left _ (cs.takeWhile p) (cs.dropWhile p)
    rwa [hsplit] at hleft
  rw [hdrop] at h
  refine ⟨?_, by rw [← h, hsplit]⟩
  have hnot := List.head?_dropWhile_not p cs
  rw [h] at hnot
  exact hnot

/-- **Closing tags where the reader finds them.** Reading `cs`, `done` being what was read
    before it from the start of the text, every closing tag token stands in the text with its
    offset just past its `>`. In reference mode `cs` starts with its `&`, and in markup mode
    `done` ends with the `<`. -/
theorem readFrom_close_located (mode : Mode) (cs : List Char) (pos : Nat) (acc : List (Token × Nat)) :
    ∀ done, (mode = .ref → cs.head? = some '&') → (mode = .markup → ∃ d, done = d ++ ['<']) →
      byteLength done = pos →
      (∀ name p, (.close name, p) ∈ acc → ClosedAt (done ++ cs) name p) →
      ∀ name p, (.close name, p) ∈ (readFrom mode cs pos acc).tokens → ClosedAt (done ++ cs) name p := by
  fun_induction readFrom mode cs pos acc with
  | case1 cs pos acc body pos₁ hrest =>
    intro done _ _ _ hacc name p hp
    simp only [List.mem_reverse] at hp
    split at hp
    · exact hacc name p hp
    · exact hacc name p (List.mem_of_ne_of_mem (by simp) hp)
  | case2 cs pos acc body pos₁ r hrest acc₁ ih =>
    intro done _ _ hpos hacc
    have hcs : cs = body ++ '<' :: r := (stops_after_takeWhile hrest).2
    have hfull : done ++ cs = (done ++ body ++ ['<']) ++ r := by simp [hcs]
    rw [hfull]
    refine ih (done ++ body ++ ['<']) (by simp) (fun _ => ⟨done ++ body, rfl⟩)
      (by simp only [byteLength_append, byteLength_cons, Angle.byteLength_nil,
        Angle.utf8Size_angle, hpos, pos₁]) ?_
    intro name p hp
    rw [← hfull]
    unfold acc₁ at hp
    split at hp
    · exact hacc name p hp
    · exact hacc name p (List.mem_of_ne_of_mem (by simp) hp)
  | case3 cs pos acc body pos₁ c r hc hrest acc₁ ih =>
    intro done _ _ hpos hacc
    obtain ⟨hstop, hcs⟩ := stops_after_takeWhile hrest
    replace hcs : cs = body ++ c :: r := hcs
    -- a text run stops only at `<` or `&`, and this one did not stop at `<`
    have hamp : c = '&' := by
      simp only [Bool.and_eq_false_iff, decide_eq_false_iff_not, ne_eq, Decidable.not_not] at hstop
      exact hstop.resolve_left hc
    have hfull : done ++ cs = (done ++ body) ++ c :: r := by simp [hcs]
    rw [hfull]
    refine ih (done ++ body) (fun _ => by rw [hamp]; rfl) (by simp)
      (by simp only [byteLength_append, hpos, pos₁]) ?_
    intro name p hp
    rw [← hfull]
    unfold acc₁ at hp
    split at hp
    · exact hacc name p hp
    · exact hacc name p (List.mem_of_ne_of_mem (by simp) hp)
  | case4 cs pos acc body pos₁ r hrest ih =>
    intro done hmode _ hpos hacc
    obtain ⟨r₀, rfl⟩ : ∃ r₀, cs = '&' :: r₀ := List.head?_eq_some_iff.mp (hmode rfl)
    have hcs : r₀ = body ++ ';' :: r := (stops_after_takeWhile hrest).2
    have hfull : done ++ '&' :: r₀ = (done ++ '&' :: body ++ [';']) ++ r := by simp [hcs]
    rw [hfull]
    refine ih (done ++ '&' :: body ++ [';']) (by simp) (by simp) ?_ ?_
    · simp only [byteLength_append, byteLength_cons, Angle.byteLength_nil, utf8Size_amp,
        utf8Size_semicolon, ← hpos, pos₁]
      omega
    · intro name p hp
      rw [← hfull]
      exact hacc name p (List.mem_of_ne_of_mem (by simp) hp)
  | case5 cs pos acc body pos₁ asText r hrest ih =>
    intro done hmode _ hpos hacc
    obtain ⟨r₀, rfl⟩ : ∃ r₀, cs = '&' :: r₀ := List.head?_eq_some_iff.mp (hmode rfl)
    have hcs : r₀ = body ++ '<' :: r := (stops_after_takeWhile hrest).2
    have hfull : done ++ '&' :: r₀ = (done ++ '&' :: body ++ ['<']) ++ r := by simp [hcs]
    rw [hfull]
    refine ih (done ++ '&' :: body ++ ['<']) (by simp) (fun _ => ⟨done ++ '&' :: body, by simp⟩)
      ?_ ?_
    · simp only [byteLength_append, byteLength_cons, Angle.byteLength_nil, utf8Size_amp,
        Angle.utf8Size_angle, ← hpos, pos₁]
      omega
    · intro name p hp
      rw [← hfull]
      exact hacc name p (List.mem_of_ne_of_mem (by simp [asText]) hp)
  | case6 cs pos acc body pos₁ asText hrest =>
    intro done _ _ _ hacc name p hp
    simp only [List.mem_reverse] at hp
    exact hacc name p (List.mem_of_ne_of_mem (by simp [asText]) hp)
  | case7 cs pos acc body pos₁ asText c r hsemi hangle hrest ih =>
    intro done hmode _ hpos hacc
    obtain ⟨r₀, rfl⟩ : ∃ r₀, cs = '&' :: r₀ := List.head?_eq_some_iff.mp (hmode rfl)
    obtain ⟨hstop, hcs⟩ := stops_after_takeWhile hrest
    replace hcs : r₀ = body ++ c :: r := hcs
    -- a reference name stops only at `;`, `&` or `<`, and this one stopped at neither `;` nor `<`
    have hamp : c = '&' := by
      simp only [Bool.and_eq_false_iff, decide_eq_false_iff_not, ne_eq, Decidable.not_not] at hstop
      exact (hstop.resolve_right hangle).resolve_left hsemi
    have hfull : done ++ '&' :: r₀ = (done ++ '&' :: body) ++ c :: r := by simp [hcs]
    rw [hfull]
    refine ih (done ++ '&' :: body) (fun _ => by rw [hamp]; rfl) (by simp) ?_ ?_
    · simp only [byteLength_append, byteLength_cons, utf8Size_amp, ← hpos, pos₁]
      omega
    · intro name p hp
      rw [← hfull]
      exact hacc name p (List.mem_of_ne_of_mem (by simp [asText]) hp)
  | case8 cs pos acc fault hmarkup =>
    intro done _ _ _ hacc name p hp
    simp only [List.mem_reverse] at hp
    exact hacc name p hp
  | case9 cs pos acc token used hmarkup pos₁ ih =>
    intro done _ hmode hpos hacc
    obtain ⟨d, rfl⟩ := hmode rfl
    have hfull : d ++ ['<'] ++ cs = (d ++ ['<'] ++ cs.take used) ++ cs.drop used := by simp
    rw [hfull]
    refine ih (d ++ ['<'] ++ cs.take used) (by simp) (by simp)
      (by simp only [byteLength_append, hpos, pos₁]) ?_
    intro name p hp
    rw [← hfull]
    rcases List.mem_cons.mp hp with heq | hp
    · -- the token just read is the closing tag
      simp only [Prod.mk.injEq] at heq
      obtain ⟨rfl, rfl⟩ := heq
      obtain ⟨w, post, hcs, hblank, htake⟩ := readMarkup_close_shape hmarkup
      refine ⟨d, w, post, by rw [hcs]; simp, hblank, ?_⟩
      simp only [pos₁, ← hpos, htake, byteLength_append, byteLength_cons, Angle.byteLength_nil]
      omega
    · exact hacc name p hp

end Token

/-- **Closing tags in a piece.** A closing tag token of a piece stands in it as `</`, its name,
    the blanks trimmed from the name, and `>`. Its offset is the byte length up to that `>`,
    not counting a byte-order mark at the start of the piece. -/
theorem TokenStream.read_close {cs : List Char} {name : String} {p : Nat}
    (h : (.close name, p) ∈ (TokenStream.read cs).tokens) :
    ∃ pre w post, cs = pre ++ '<' :: '/' :: (name.toList ++ w ++ '>' :: post) ∧
      (∀ c ∈ w, Unicode.isMarkupBlank c = true) ∧
      p = byteLength (dropMark (pre ++ '<' :: '/' :: (name.toList ++ w ++ ['>']))) := by
  rw [TokenStream.read_eq_dropMark] at h
  obtain ⟨pre', w, post, hcs, hblank, hp⟩ :=
    Token.readFrom_close_located .text (dropMark cs) 0 [] [] (by simp) (by simp) rfl (by simp) name p h
  rw [List.nil_append] at hcs
  -- put the mark, if there was one, back in front of what comes before the tag
  obtain ⟨pre, hpre, hdrop⟩ : ∃ pre, cs = pre ++ '<' :: '/' :: (name.toList ++ w ++ '>' :: post) ∧
      dropMark pre = pre' := by
    by_cases hmarked : ∃ rest, cs = '\uFEFF' :: rest
    · obtain ⟨rest, rfl⟩ := hmarked
      exact ⟨'\uFEFF' :: pre', by rw [List.cons_append, ← hcs]; rfl, rfl⟩
    · have hunmarked : ∀ rest, cs ≠ '\uFEFF' :: rest := fun rest h => hmarked ⟨rest, h⟩
      rw [dropMark_unmarked hunmarked] at hcs
      refine ⟨pre', hcs, dropMark_unmarked fun rest hrest =>
        hunmarked (rest ++ '<' :: '/' :: (name.toList ++ w ++ '>' :: post)) ?_⟩
      rw [hcs, hrest, List.cons_append]
  refine ⟨pre, w, post, hpre, hblank, ?_⟩
  rw [dropMark_append_angle, hdrop, hp]

namespace Angle

/-- Every piece of the cut stands in the text at its offset. -/
theorem piecesFrom_located {pos start : Nat} {acc cs : List Char} (lead : List Char)
    (hstart : byteLength lead = start) (hpos : byteLength lead + byteLength acc.reverse = pos) :
    ∀ p ∈ piecesFrom pos start acc cs,
      ∃ front back, lead ++ acc.reverse ++ cs = front ++ p.2 ++ back ∧ byteLength front = p.1 := by
  fun_induction piecesFrom pos start acc cs generalizing lead with
  | case1 pos start acc =>
    intro p hp
    rw [List.mem_singleton] at hp
    subst hp
    exact ⟨lead, [], by simp, hstart⟩
  | case2 pos start acc rest k hk taken ih =>
    intro p hp
    obtain ⟨front, back, hsplit, hfront⟩ := ih lead hstart (by
      simp only [List.reverse_append, List.reverse_reverse, byteLength_append] at hpos ⊢
      omega) p hp
    refine ⟨front, back, ?_, hfront⟩
    -- the markup is taken whole: its `<` and the `k - 1` characters after it
    rw [← hsplit, ← markupExtent_split hk]
    simp [taken]
  | case3 pos start acc rest hk ih =>
    intro p hp
    rcases List.mem_cons.mp hp with rfl | hp
    · exact ⟨lead, '<' :: rest, by simp, hstart⟩
    · have hlen : byteLength (lead ++ acc.reverse ++ ['<']) = pos + 1 := by
        simp only [byteLength_append, byteLength_cons, byteLength_nil, utf8Size_angle]
        omega
      obtain ⟨front, back, hsplit, hfront⟩ := ih (lead ++ acc.reverse ++ ['<']) hlen
        (by simpa using hlen) p hp
      refine ⟨front, back, ?_, hfront⟩
      rw [← hsplit]
      simp
  | case4 pos start acc c rest hc ih =>
    intro p hp
    obtain ⟨front, back, hsplit, hfront⟩ := ih lead hstart (by
      simp only [List.reverse_cons, byteLength_append, byteLength_cons, byteLength_nil]
      omega) p hp
    refine ⟨front, back, ?_, hfront⟩
    rw [← hsplit]
    simp

/-- **Pieces stand in the text.** Each piece of a document is a stretch of it that starts at
    the piece's offset. -/
theorem pieces_located {s : String} {base : Nat} {piece : List Char}
    (h : (base, piece) ∈ pieces s) :
    ∃ lead rest, s.toList = lead ++ piece ++ rest ∧ byteLength lead = base := by
  obtain ⟨front, back, hsplit, hfront⟩ :=
    @piecesFrom_located 0 0 [] s.toList [] rfl rfl _ h
  exact ⟨front, back, by simpa using hsplit, hfront⟩

end Angle

/-- A token of the stream is a literal `<` or a token of one of the pieces, moved to the
    piece's offset. -/
theorem Document.mem_streamOf {t : Token} {q : Nat} :
    ∀ {first : Bool} {ps : List (Nat × List Char)}, (t, q) ∈ (Document.streamOf first ps).tokens →
      t = .text "<" ∨ ∃ piece ∈ ps, ∃ p, (t, p) ∈ (TokenStream.read piece.2).tokens ∧ q = piece.1 + p
  | _, [], h => by simp [Document.streamOf] at h
  | first, (base, cs) :: ps, h => by
    have hhere : (t, q) ∈ (if first then [] else [(Token.text "<", base)]) ++
        (TokenStream.read cs).tokens.map (fun tp => (tp.1, base + tp.2)) →
        t = .text "<" ∨ ∃ piece ∈ (base, cs) :: ps, ∃ p,
          (t, p) ∈ (TokenStream.read piece.2).tokens ∧ q = piece.1 + p := by
      intro hmem
      rcases List.mem_append.mp hmem with hlead | hpiece
      · split at hlead <;> simp_all
      · obtain ⟨⟨t', p⟩, hp, heq⟩ := List.mem_map.mp hpiece
        simp only [Prod.mk.injEq] at heq
        obtain ⟨rfl, rfl⟩ := heq
        exact .inr ⟨(base, cs), List.mem_cons_self, p, hp, rfl⟩
    simp only [Document.streamOf] at h
    split at h
    · exact hhere h
    · rcases List.mem_append.mp h with hmem | hmem
      · exact hhere hmem
      · rcases Document.mem_streamOf hmem with hlt | ⟨piece, hpiece, p, hp, hq⟩
        · exact .inl hlt
        · exact .inr ⟨piece, List.mem_cons_of_mem _ hpiece, p, hp, hq⟩

/-- **Unmatched closing tags.** A document that fails with `unexpectedEndTag name position`
    fails at the first closing tag of its token stream that is not void and matches no open
    element, up to ASCII case. Every closing tag before it closed an open element or was void.
    The tag stands in its piece as `</`, `name`, the blanks trimmed from the name, and `>`.
    `position` is the byte offset just past that `>`, except that a byte-order mark at the start
    of the tag's piece is not counted. -/
theorem Document.parse_unexpectedEndTag {s name : String} {position : Nat}
    (h : Document.parse s = .error (.unexpectedEndTag name position)) :
    isVoidElement name = false ∧
    (∃ before after, (Document.stream s).tokens = before ++ (.close name, position) :: after ∧
      (∀ x ∈ Token.openNames (before.map Prod.fst), equalsIgnoringAsciiCase x name = false) ∧
      ∀ pre x q mid, before = pre ++ (.close x, q) :: mid →
        isVoidElement x = true ∨
          ∃ y ∈ Token.openNames (pre.map Prod.fst), equalsIgnoringAsciiCase y x = true) ∧
    ∃ lead piece rest pre w post, s.toList = lead ++ piece ++ rest ∧
      (byteLength lead, piece) ∈ Angle.pieces s ∧
      piece = pre ++ '<' :: '/' :: (name.toList ++ w ++ '>' :: post) ∧
      (∀ c ∈ w, Unicode.isMarkupBlank c = true) ∧
      position = byteLength lead +
        byteLength (dropMark (pre ++ '<' :: '/' :: (name.toList ++ w ++ ['>']))) := by
  obtain ⟨hvoid, before, after, hsplit, hnone, hearlier⟩ := Document.parse_unexpectedEndTag_split h
  refine ⟨hvoid, ⟨before, after, hsplit, hnone, hearlier⟩, ?_⟩
  have hmem : (Token.close name, position) ∈ (Document.stream s).tokens := by
    rw [hsplit]
    simp
  rcases Document.mem_streamOf hmem with hlt | ⟨⟨base, piece⟩, hpiece, p, hp, hq⟩
  · cases hlt
  · obtain ⟨pre, w, post, hcs, hblank, hpos⟩ := TokenStream.read_close hp
    obtain ⟨lead, rest, hs, hlead⟩ := Angle.pieces_located hpiece
    refine ⟨lead, piece, rest, pre, w, post, hs, by rw [hlead]; exact hpiece, hcs, hblank, ?_⟩
    rw [hq, hpos, hlead]

/-- A closing tag with nothing open, in a text that starts with a byte-order mark. Its `>` is
    the seventh byte, but the mark is not counted. -/
theorem parse_unexpectedEndTag_after_mark :
    Document.parse "\uFEFF</a>" = .error (.unexpectedEndTag "a" 4) ∧
    isVoidElement "a" = false ∧
    ∃ before after, (Document.stream "\uFEFF</a>").tokens = before ++ (.close "a", 4) :: after := by
  have hchars : "\uFEFF</a>".toList = ['\uFEFF', '<', '/', 'a', '>'] := by decide
  have hpieces : Angle.pieces "\uFEFF</a>" = [(0, ['\uFEFF', '<', '/', 'a', '>'])] := by
    simp [Angle.pieces, hchars, Angle.piecesFrom, Angle.markupExtent, Angle.tagEnd,
      Angle.tagEnd.go, List.isPrefixOf, Angle.byteLength, Char.utf8Size]
  -- the mark is dropped, and the tag is read from offset 0 of what is left
  have hread : TokenStream.read ['\uFEFF', '<', '/', 'a', '>'] = ⟨[(.close "a", 4)], none⟩ := by
    rw [TokenStream.read_marked]
    have hlast : ∀ d, ['a'].getLast? = some d → Unicode.isMarkupBlank d = false := by
      intro d hd
      simp only [List.getLast?_singleton, Option.some.injEq] at hd
      subst hd
      rfl
    have h := @Token.readFrom_close 'a' [] [] (Angle.inert_plain (by simp)) hlast 0 []
    rw [List.nil_append] at h
    rw [h, Token.readFrom_text_nil]
    rfl
  have hvoid : isVoidElement "a" = false := by decide
  have hparse : Document.parse "\uFEFF</a>" = .error (.unexpectedEndTag "a" 4) := by
    simp [Document.parse, hpieces, hread, TreeBuilder.feedPiece, TreeBuilder.feed,
      TreeBuilder.close?, hvoid, TreeBuilder.empty]
    rfl
  obtain ⟨-, ⟨before, after, hsplit, -⟩, -⟩ := Document.parse_unexpectedEndTag hparse
  exact ⟨hparse, hvoid, before, after, hsplit⟩

end Tagweave
