import Mathlib
import Tagweave.Proofs.ByteScan
import Tagweave.Proofs.EndTags

namespace Tagweave

/-!
# Token texts as slices of their piece

Each token of a piece carries one text: the run of text, the name of a reference, the content
of a section, the content or name of a tag. The reader cuts that text out of the piece between
two characters, never inside one, so the bytes the text is decoded from are a slice of the
piece's bytes at character boundaries, and decoding them cannot fail.

* `Token.readMarkup_payload_inside`: the text of markup read after a `<` is a run of the
  characters that follow it.
* `Token.readFrom_payload_inside`: reading a piece mode by mode, every token's text is a run of
  the piece's characters; what is left to read is always a suffix of the piece.
* `TokenStream.read_payload_decodes`: the bytes of each token's text are the slice of the
  piece's bytes between two character boundaries, and decode to that text.
* `splitTagBytes?_eq`: cutting a tag's content at the byte offset of its first white space
  succeeds and gives the name `splitTag` reads.
* `Document.cuts_on_char_boundaries` gathers what reading a document cuts: the markup lengths,
  the literal `<`s, the spans between them, the token texts and the tag names.
-/

open Angle (byteLength dropBytes? takeBytes? findCharBytes?)

namespace Token

/-- The text a token carries. -/
def payload : Token → String
  | text s | ref s | cdata s | comment s | declaration s | instruction s | doctype s | start s
  | empty s | close s => s

/-! ### The bodies of markup -/

/-- A run inside a stretch of a list is a run of the list. -/
theorem infix_take_drop (l : List Char) (i j : Nat) : (l.drop i).take j <:+: l :=
  (List.take_prefix j _).isInfix.trans (List.drop_suffix i l).isInfix

theorem prefix_of_instructionBody_go : ∀ {cs : List Char} {prev : Char} {acc body : List Char},
    instructionBody.go cs prev acc = some body → ∃ p, p <+: cs ∧ body = acc.reverse ++ p
  | [], _, _, _, h => by simp [instructionBody.go] at h
  | c :: rest, prev, acc, body, h => by
    rw [instructionBody.go] at h
    split at h
    · cases h
      exact ⟨[], List.nil_prefix, (List.append_nil _).symm⟩
    · obtain ⟨p, hp, rfl⟩ := prefix_of_instructionBody_go h
      exact ⟨c :: p, List.cons_prefix_cons.mpr ⟨rfl, hp⟩, by simp⟩

theorem prefix_of_commentBody_go : ∀ {cs : List Char} {i : Nat} {acc body : List Char},
    commentBody.go cs i acc = some body → ∃ p, p <+: cs ∧ body = acc.reverse ++ p
  | [], _, _, _, h => by simp [commentBody.go] at h
  | c :: rest, i, acc, body, h => by
    rw [commentBody.go] at h
    split at h
    · cases h
      exact ⟨[], List.nil_prefix, (List.append_nil _).symm⟩
    · obtain ⟨p, hp, rfl⟩ := prefix_of_commentBody_go h
      exact ⟨c :: p, List.cons_prefix_cons.mpr ⟨rfl, hp⟩, by simp⟩

theorem prefix_of_cdataBody_go : ∀ {cs acc body : List Char},
    cdataBody.go cs acc = some body → ∃ p, p <+: cs ∧ body = acc.reverse ++ p
  | [], _, _, h => by simp [cdataBody.go] at h
  | c :: rest, acc, body, h => by
    rw [cdataBody.go] at h
    split at h
    · cases h
      exact ⟨[], List.nil_prefix, (List.append_nil _).symm⟩
    · obtain ⟨p, hp, rfl⟩ := prefix_of_cdataBody_go h
      exact ⟨c :: p, List.cons_prefix_cons.mpr ⟨rfl, hp⟩, by simp⟩

theorem prefix_of_instructionBody {cs body : List Char} (h : instructionBody cs = some body) :
    body <+: cs := by
  cases cs with
  | nil => simp [instructionBody] at h
  | cons c rest =>
    obtain ⟨p, hp, rfl⟩ := prefix_of_instructionBody_go h
    exact List.cons_prefix_cons.mpr ⟨rfl, hp⟩

theorem prefix_of_commentBody {cs body : List Char} (h : commentBody cs = some body) :
    body <+: cs := by
  obtain ⟨p, hp, rfl⟩ := prefix_of_commentBody_go h
  simpa using hp

theorem prefix_of_cdataBody {cs body : List Char} (h : cdataBody cs = some body) : body <+: cs := by
  obtain ⟨p, hp, rfl⟩ := prefix_of_cdataBody_go h
  simpa using hp

theorem prefix_of_doctypeBody {cs body : List Char} (h : doctypeBody cs = some body) :
    body <+: cs := by
  obtain ⟨n, -, rfl⟩ := Option.map_eq_some_iff.mp h
  exact List.take_prefix n cs

theorem prefix_of_tagBody {cs body : List Char} (h : tagBody cs = some body) : body <+: cs := by
  obtain ⟨post, rfl⟩ := tagBody_closes h
  exact List.prefix_append body _

/-- The text of markup read after a `<` is a run of the characters that follow the `<`: each
    body is a prefix of them, and each text is cut from its body. -/
theorem readMarkup_payload_inside {cs : List Char} {pos used : Nat} {t : Token}
    (h : readMarkup cs pos = .ok (t, used)) : t.payload.toList <:+: cs := by
  unfold readMarkup at h
  repeat' split at h
  all_goals simp only [Except.ok.injEq, Prod.mk.injEq, reduceCtorEq] at h
  · -- a CDATA section
    rename_i body hbody _
    obtain ⟨rfl, -⟩ := h
    rw [payload, String.toList_ofList]
    exact (infix_take_drop body _ _).trans (prefix_of_cdataBody hbody).isInfix
  · -- a comment
    rename_i body hbody _
    obtain ⟨rfl, -⟩ := h
    rw [payload, String.toList_ofList]
    exact (infix_take_drop body _ _).trans (prefix_of_commentBody hbody).isInfix
  · -- a doctype, by its name
    rename_i body hbody _
    split at h
    · cases h
    · simp only [Except.ok.injEq, Prod.mk.injEq] at h
      obtain ⟨rfl, -⟩ := h
      rw [payload, String.toList_ofList]
      exact (List.dropWhile_suffix _).isInfix.trans
        ((List.drop_suffix 8 body).isInfix.trans (prefix_of_doctypeBody hbody).isInfix)
  · -- a closing tag, by its name with or without its trailing blanks
    rename_i body hbody
    obtain ⟨rfl, -⟩ := h
    have hname : body.drop 1 <:+: '/' :: _ :=
      (List.drop_suffix 1 body).isInfix.trans (prefix_of_tagBody hbody).isInfix
    obtain ⟨w, hw, -⟩ := dropTrailing_append_blanks (body.drop 1)
    have htrimmed : Unicode.dropTrailing Unicode.isMarkupBlank (body.drop 1) <+: body.drop 1 :=
      ⟨w, hw.symm⟩
    rw [payload, String.toList_ofList]
    split
    · exact hname
    · exact htrimmed.isInfix.trans hname
  · -- a processing instruction or a declaration, by its content
    rename_i body hbody _
    obtain ⟨rfl, -⟩ := h
    have hcontent := (infix_take_drop body 1 (body.length - 2)).trans
      (prefix_of_instructionBody hbody).isInfix
    split <;> simpa only [payload, String.toList_ofList] using hcontent
  · -- an empty-element tag
    rename_i body hbody _
    obtain ⟨rfl, -⟩ := h
    rw [payload, String.toList_ofList]
    exact (List.dropLast_prefix body).isInfix.trans (prefix_of_tagBody hbody).isInfix
  · -- a start tag
    rename_i body hbody _
    obtain ⟨rfl, -⟩ := h
    rw [payload, String.toList_ofList]
    exact (prefix_of_tagBody hbody).isInfix

/-! ### Reading a piece -/

/-- Pushing the text run read so far keeps every token's text inside the piece. -/
theorem forall_pushText {whole body : List Char} {acc : List (Token × Nat)} {p : Nat}
    (hacc : ∀ t ∈ acc, t.1.payload.toList <:+: whole) (hbody : body <:+: whole) :
    ∀ t ∈ (if body.isEmpty then acc else (.text (String.ofList body), p) :: acc),
      t.1.payload.toList <:+: whole := by
  intro t ht
  split at ht
  · exact hacc t ht
  · rcases List.mem_cons.mp ht with rfl | ht
    · simpa only [payload, String.toList_ofList] using hbody
    · exact hacc t ht

/-- A run a reader takes from the front of what is left is a run of the piece. -/
theorem takeWhile_inside {whole cs : List Char} (hcs : cs <:+ whole) (p : Char → Bool) :
    cs.takeWhile p <:+: whole :=
  (List.takeWhile_prefix p).isInfix.trans hcs.isInfix

/-- What is left after the reader drops some characters is still a suffix of the piece. -/
theorem suffix_of_drop_eq {whole cs rest : List Char} {n : Nat} (hcs : cs <:+ whole)
    (h : cs.drop n = rest) : rest <:+ whole :=
  h ▸ (List.drop_suffix n cs).trans hcs

/-- A reference read as text keeps its `&`, which starts what was left. -/
theorem ampText_inside {whole cs : List Char} (hcs : cs <:+ whole) (hamp : cs.head? = some '&')
    (p : Char → Bool) : '&' :: (cs.drop 1).takeWhile p <:+: whole := by
  obtain ⟨r, rfl⟩ := List.head?_eq_some_iff.mp hamp
  exact (List.cons_prefix_cons.mpr ⟨rfl, List.takeWhile_prefix p⟩).isInfix.trans hcs.isInfix

/-- **Token texts stay inside the piece.** Reading `cs`, a suffix of the piece `whole`, every
    token's text is a run of the piece's characters. In reference mode `cs` starts with its
    `&`, which a reference that turns out to be text keeps. -/
theorem readFrom_payload_inside {whole : List Char} (mode : Mode) (cs : List Char) (pos : Nat)
    (acc : List (Token × Nat)) :
    cs <:+ whole → (mode = .ref → cs.head? = some '&') →
      (∀ t ∈ acc, t.1.payload.toList <:+: whole) →
      ∀ t ∈ (readFrom mode cs pos acc).tokens, t.1.payload.toList <:+: whole := by
  fun_induction readFrom mode cs pos acc with
  | case1 cs pos acc body pos₁ hrest =>
    intro hcs _ hacc t ht
    rw [List.mem_reverse] at ht
    exact forall_pushText hacc (takeWhile_inside hcs _) t ht
  | case2 cs pos acc body pos₁ r hrest acc₁ ih =>
    intro hcs _ hacc
    have hr : r <:+ whole := (List.suffix_cons '<' r).trans (suffix_of_drop_eq hcs hrest)
    exact ih hr (by simp) (forall_pushText hacc (takeWhile_inside hcs _))
  | case3 cs pos acc body pos₁ c r hc hrest acc₁ ih =>
    intro hcs _ hacc
    -- a text run stops only at `<` or `&`, and this one did not stop at `<`
    have hamp : c = '&' := by
      have hstop := (stops_after_takeWhile hrest).1
      simp only [Bool.and_eq_false_iff, decide_eq_false_iff_not, ne_eq, Decidable.not_not] at hstop
      exact hstop.resolve_left hc
    exact ih (suffix_of_drop_eq hcs hrest) (fun _ => by rw [hamp]; rfl)
      (forall_pushText hacc (takeWhile_inside hcs _))
  | case4 cs pos acc body pos₁ r hrest ih =>
    intro hcs _ hacc
    have hname : cs.drop 1 <:+ whole := suffix_of_drop_eq hcs rfl
    have hr : r <:+ whole := (List.suffix_cons ';' r).trans (suffix_of_drop_eq hname hrest)
    refine ih hr (by simp) (List.forall_mem_cons.mpr ⟨?_, hacc⟩)
    -- the reference, by its name
    simpa only [payload, String.toList_ofList] using takeWhile_inside hname _
  | case5 cs pos acc body pos₁ asText r hrest ih =>
    intro hcs hmode hacc
    have hr : r <:+ whole :=
      (List.suffix_cons '<' r).trans (suffix_of_drop_eq (suffix_of_drop_eq hcs rfl) hrest)
    refine ih hr (by simp) (List.forall_mem_cons.mpr ⟨?_, hacc⟩)
    simpa only [asText, payload, String.toList_ofList] using ampText_inside hcs (hmode rfl) _
  | case6 cs pos acc body pos₁ asText hrest =>
    intro hcs hmode hacc t ht
    rw [List.mem_reverse] at ht
    refine List.forall_mem_cons.mpr ⟨?_, hacc⟩ t ht
    simpa only [asText, payload, String.toList_ofList] using ampText_inside hcs (hmode rfl) _
  | case7 cs pos acc body pos₁ asText c r hsemi hangle hrest ih =>
    intro hcs hmode hacc
    -- a reference name stops only at `;`, `&` or `<`, and this one stopped at neither `;` nor `<`
    have hamp : c = '&' := by
      have hstop := (stops_after_takeWhile hrest).1
      simp only [Bool.and_eq_false_iff, decide_eq_false_iff_not, ne_eq, Decidable.not_not] at hstop
      exact (hstop.resolve_right hangle).resolve_left hsemi
    refine ih (suffix_of_drop_eq (suffix_of_drop_eq hcs rfl) hrest) (fun _ => by rw [hamp]; rfl)
      (List.forall_mem_cons.mpr ⟨?_, hacc⟩)
    simpa only [asText, payload, String.toList_ofList] using ampText_inside hcs (hmode rfl) _
  | case8 cs pos acc fault hmarkup =>
    intro _ _ hacc t ht
    rw [List.mem_reverse] at ht
    exact hacc t ht
  | case9 cs pos acc token used hmarkup pos₁ ih =>
    intro hcs _ hacc
    exact ih (suffix_of_drop_eq hcs rfl) (by simp)
      (List.forall_mem_cons.mpr ⟨(readMarkup_payload_inside hmarkup).trans hcs.isInfix, hacc⟩)

end Token

theorem dropMark_suffix (cs : List Char) : dropMark cs <:+ cs := by
  unfold dropMark
  split
  · exact List.suffix_cons _ _
  · exact List.suffix_refl _

/-- Every token's text is a run of the characters of its piece. -/
theorem TokenStream.read_payload_inside (cs : List Char) :
    ∀ t ∈ (TokenStream.read cs).tokens, t.1.payload.toList <:+: cs := by
  rw [TokenStream.read_eq_dropMark]
  exact Token.readFrom_payload_inside .text _ 0 [] (dropMark_suffix cs) (by simp) (by simp)

/-! ### Decoding a slice -/

/-- A string's own bytes decode to it. -/
theorem fromUTF8?_toByteArray (s : String) : String.fromUTF8? s.toByteArray = some s := by
  rw [String.fromUTF8?, dif_pos s.isValidUTF8]
  rfl

theorem size_utf8Encode (l : List Char) : l.utf8Encode.size = byteLength l := by
  rw [Angle.byteLength_eq_utf8ByteSize, ← String.toByteArray_ofList, String.size_toByteArray]

/-- The bytes of a text split as `pre ++ mid ++ post`, sliced between the byte lengths of `pre`
    and of `pre ++ mid`, decode to `mid`. -/
theorem fromUTF8?_extract (pre mid post : List Char) :
    String.fromUTF8? ((String.ofList (pre ++ mid ++ post)).toByteArray.extract (byteLength pre)
      (byteLength pre + byteLength mid)) = some (String.ofList mid) := by
  have hslice := @ByteArray.extract_append_size_add' pre.utf8Encode
    (mid.utf8Encode ++ post.utf8Encode) 0 (byteLength mid) (byteLength pre)
    (size_utf8Encode pre).symm
  rw [Nat.add_zero] at hslice
  rw [String.toByteArray_ofList, List.utf8Encode_append, List.utf8Encode_append,
    ByteArray.append_assoc, hslice, ByteArray.extract_append_eq_left (size_utf8Encode mid).symm,
    ← String.toByteArray_ofList, fromUTF8?_toByteArray]

/-- **Token texts decode.** Each token's text stands in its piece between two character
    boundaries, and the piece's bytes between them decode to that text. -/
theorem TokenStream.read_payload_decodes (cs : List Char) :
    ∀ t ∈ (TokenStream.read cs).tokens, ∃ pre post, cs = pre ++ t.1.payload.toList ++ post ∧
      String.fromUTF8? ((String.ofList cs).toByteArray.extract (byteLength pre)
        (byteLength pre + byteLength t.1.payload.toList)) = some t.1.payload := by
  intro t ht
  obtain ⟨pre, post, hcs⟩ := TokenStream.read_payload_inside cs t ht
  refine ⟨pre, post, hcs.symm, ?_⟩
  rw [← hcs, fromUTF8?_extract, String.ofList_toList]

/-! ### Cutting a tag's name -/

/-- A tag's content cut at the byte offset of its first white space, or at its end: the name
    and the rest; none when the cut falls inside a character. -/
def splitTagBytes? (cs : List Char) : Option (List Char × List Char) :=
  let cut := (findCharBytes? Unicode.isWhiteSpace cs).getD (byteLength cs)
  (takeBytes? cs cut).bind fun name => (dropBytes? cs cut).map fun rest => (name, rest)

/-- The first white space of a text lies after the run without white space that starts it. -/
theorem findCharBytes?_whiteSpace (cs : List Char) :
    (findCharBytes? Unicode.isWhiteSpace cs).getD (byteLength cs) =
      byteLength (cs.takeWhile fun c => !Unicode.isWhiteSpace c) := by
  have hsplit := List.takeWhile_append_dropWhile (p := fun c => !Unicode.isWhiteSpace c) (l := cs)
  have hname : ∀ c ∈ cs.takeWhile (fun c => !Unicode.isWhiteSpace c),
      Unicode.isWhiteSpace c = false := fun c hc => by
    simpa using List.mem_takeWhile_imp hc
  conv_lhs => rw [← hsplit]
  rw [Angle.findCharBytes?_append hname]
  cases hrest : cs.dropWhile (fun c => !Unicode.isWhiteSpace c) with
  | nil =>
    rw [Angle.findCharBytes?_nil, Option.map_none, Option.getD_none, List.append_nil]
  | cons c r =>
    -- the run stopped at `c`, which is white space
    have hc : Unicode.isWhiteSpace c = true := by
      have hhead := List.head?_dropWhile_not (fun c => !Unicode.isWhiteSpace c) cs
      rw [hrest] at hhead
      simpa using hhead
    rw [Angle.findCharBytes?_cons_of_pos hc, Option.map_some, Option.getD_some, Nat.add_zero]

theorem splitTagBytes?_split (cs : List Char) :
    splitTagBytes? cs = some (cs.takeWhile (fun c => !Unicode.isWhiteSpace c),
      cs.dropWhile fun c => !Unicode.isWhiteSpace c) := by
  simp only [splitTagBytes?, findCharBytes?_whiteSpace]
  have hsplit := List.takeWhile_append_dropWhile (p := fun c => !Unicode.isWhiteSpace c) (l := cs)
  generalize cs.takeWhile (fun c => !Unicode.isWhiteSpace c) = name at hsplit ⊢
  generalize cs.dropWhile (fun c => !Unicode.isWhiteSpace c) = rest at hsplit ⊢
  subst hsplit
  rw [Angle.takeBytes?_append, Angle.dropBytes?_append]
  rfl

/-- Cutting a tag's content at its first white space never falls inside a character: it gives
    the name `splitTag` reads and what follows it. -/
theorem splitTagBytes?_eq (content : String) :
    splitTagBytes? content.toList =
      some ((splitTag content).1.toList, content.toList.drop (splitTag content).1.length) := by
  have hsplit := List.takeWhile_append_dropWhile (p := fun c => !Unicode.isWhiteSpace c)
    (l := content.toList)
  have hdrop := @List.drop_left _ (content.toList.takeWhile fun c => !Unicode.isWhiteSpace c)
    (content.toList.dropWhile fun c => !Unicode.isWhiteSpace c)
  rw [hsplit] at hdrop
  rw [splitTagBytes?_split, ← hdrop]
  simp only [splitTag, String.toList_ofList, String.length_ofList]

/-! ### Reading a document -/

/-- **Every cut is at a character boundary.** Reading a document cuts its text at byte
    offsets, and none of them falls inside a character:
    * measuring the markup at any `<` never fails, and markup takes at least two bytes and ends
      on a boundary, so the scan moves forward;
    * the scan over byte offsets lists exactly the literal `<`s, in increasing order, each at
      a boundary where a `<` stands;
    * the spans between them are cut without fail, are the document's pieces, and with the
      literal `<`s between them make up the text in order;
    * the bytes of every token's text are a slice of its piece between two boundaries, and
      decode to that text;
    * a tag's content is cut at its first white space on a boundary, into the name `splitTag`
      reads and the rest. -/
theorem Document.cuts_on_char_boundaries (s : String) :
    (∀ rest, ∃ m, Angle.markupBytes? ('<' :: rest) = some m ∧
      ∀ len ∈ m, 2 ≤ len ∧ ∃ post, dropBytes? ('<' :: rest) len = some post) ∧
    Angle.byteLiterals? s.toList = some (Angle.literals s) ∧
    (Angle.literals s).Pairwise (· < ·) ∧
    (∀ x ∈ Angle.literals s, ∃ post, dropBytes? s.toList x = some ('<' :: post)) ∧
    Angle.spans? s.toList (Angle.literals s) = some (Angle.pieces s) ∧
    ['<'].intercalate ((Angle.pieces s).map Prod.snd) = s.toList ∧
    (∀ piece ∈ Angle.pieces s, ∀ t ∈ (TokenStream.read piece.2).tokens,
      ∃ pre post, piece.2 = pre ++ t.1.payload.toList ++ post ∧
        String.fromUTF8? ((String.ofList piece.2).toByteArray.extract (byteLength pre)
          (byteLength pre + byteLength t.1.payload.toList)) = some t.1.payload) ∧
    ∀ content : String, splitTagBytes? content.toList =
      some ((splitTag content).1.toList, content.toList.drop (splitTag content).1.length) := by
  refine ⟨Angle.markupBytes?_angle_cut, Angle.byteLiterals?_eq s, Angle.literalsFrom_pairwise 0 _,
    ?_, Angle.spans?_literals s, Angle.intercalate_pieces s,
    fun piece _ => TokenStream.read_payload_decodes piece.2, splitTagBytes?_eq⟩
  -- a literal offset is the byte length of the text before its `<`
  intro x hx
  obtain ⟨pre, post, hs, rfl⟩ := Angle.mem_literalsFrom hx
  exact ⟨post, by rw [hs, Nat.zero_add, Angle.dropBytes?_append]⟩

/-- In `<b>é < 2</b>` the `<` after the two bytes of `é` is literal: the scan lists byte 6,
    and the text is cut into the spans before and after it. -/
theorem cuts_literal_after_accent :
    Angle.byteLiterals? "<b>é < 2</b>".toList = some [6] ∧
      Angle.spans? "<b>é < 2</b>".toList [6] =
        some [(0, "<b>é ".toList), (7, " 2</b>".toList)] := by
  have hchars : "<b>é < 2</b>".toList =
      ['<', 'b', '>', 'é', ' ', '<', ' ', '2', '<', '/', 'b', '>'] := by decide
  have hliterals : Angle.literals "<b>é < 2</b>" = [6] := by
    simp [Angle.literals, hchars, Angle.literalsFrom, Angle.markupExtent, Angle.tagEnd,
      Angle.tagEnd.go, List.isPrefixOf, Angle.byteLength, Char.utf8Size]
  have hpieces : Angle.pieces "<b>é < 2</b>" = [(0, "<b>é ".toList), (7, " 2</b>".toList)] := by
    simp [Angle.pieces, hchars, Angle.piecesFrom, Angle.markupExtent, Angle.tagEnd,
      Angle.tagEnd.go, List.isPrefixOf, Angle.byteLength, Char.utf8Size]
  obtain ⟨-, hscan, -, -, hspans, -⟩ := Document.cuts_on_char_boundaries "<b>é < 2</b>"
  rw [hliterals] at hscan hspans
  rw [hpieces] at hspans
  exact ⟨hscan, hspans⟩

end Tagweave
