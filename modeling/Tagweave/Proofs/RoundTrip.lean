import Tagweave.Proofs.TreeBuilder
import Tagweave.Proofs.AttributeText

namespace Tagweave

/-!
# Writing a forest and reading it back

A forest is canonical (`Node.forestIsCanonical`) when every part of it is written as text that
the reader takes back unchanged: tag names of a letter and then letters, digits, `_`, `.`, `:`
or `-`; no children under a void element; attributes with names of name characters and values
that read back (`AttrValue.isCanonical`); text nodes that are nonempty, hold no `<` and never
stand side by side.

* `Node.passes_forest`: the written text of a canonical forest has no literal `<`, so the
  document is one piece.
* `Node.reads_forest` is the run lemma: the tokenizer reads the written forest as tokens that,
  fed to a tree builder, add exactly the forest's nodes. The induction follows the forest: a
  text node is text and reference tokens, an element a start tag, its children and a closing
  tag.
* `Document.parse_write` is the statement for a whole render pass: rendering a canonical
  forest with the default component succeeds, and reading the result gives the forest back,
  except for a byte-order mark at the very start of the text, which the tokenizer drops
  (`Node.dropLeadingMark`).
-/

open Angle (byteLength byteLength_append byteLength_cons)

/-! ### Canonical forests -/

/-- Characters of a tag name after its first letter. -/
def isTagNameChar (c : Char) : Bool :=
  c.isAlphanum || c = '_' || c = '.' || c = ':' || c = '-'

/-- A tag name: an ASCII letter, then letters, digits, `_`, `.`, `:` or `-`. -/
def isTagName (name : String) : Bool :=
  match name.toList with
  | c :: rest => c.isAlpha && rest.all isTagNameChar
  | [] => false

mutual
/-- A node that is written as text which reads back as the node itself. -/
def Node.isCanonical : Node → Bool
  | .text data => data ≠ "" && !data.toList.contains '<'
  | .element name attrs children =>
    isTagName name && (!isVoidElement name || children.isEmpty) &&
      attrs.toList.all (fun e => isAttributeName e.1 && e.2.isCanonical) &&
      Node.forestIsCanonical children

/-- A forest of canonical nodes with no two text nodes side by side. -/
def Node.forestIsCanonical : List Node → Bool
  | [] => true
  | n :: rest =>
    n.isCanonical && !(n.isText && Node.leadsWithText rest) && Node.forestIsCanonical rest
end

/-- The forest without a byte-order mark at the start of its first text node: that node loses
    the mark, and is gone when the mark was all of it. -/
def Node.dropLeadingMark : List Node → List Node
  | .text data :: rest =>
    match data.toList with
    | '\uFEFF' :: more => if more = [] then rest else .text (String.ofList more) :: rest
    | _ => .text data :: rest
  | nodes => nodes

/-! ### The characters of a tag -/

/-- Tag name characters end no tag, open no quote and are no white space. -/
theorem isTagNameChar_plain {c : Char} (h : isTagNameChar c = true) :
    c ≠ '"' ∧ c ≠ '\'' ∧ c ≠ '>' ∧ c ≠ '/' ∧ Unicode.isWhiteSpace c = false ∧
      Unicode.isMarkupBlank c = false := by
  have hchar : ∀ d : Char, c = d ↔ c.toNat = d.toNat := fun d =>
    ⟨fun h => h ▸ rfl, fun h => Char.ext (UInt32.toNat_inj.mp h)⟩
  -- letters, digits and the four marks, by code point
  have hcode : (65 ≤ c.toNat ∧ c.toNat ≤ 90) ∨ (97 ≤ c.toNat ∧ c.toNat ≤ 122) ∨
      (48 ≤ c.toNat ∧ c.toNat ≤ 57) ∨ c.toNat = 95 ∨ c.toNat = 46 ∨ c.toNat = 58 ∨
      c.toNat = 45 := by
    simp only [isTagNameChar, Char.isAlphanum, Char.isAlpha, Char.isUpper, Char.isLower,
      Char.isDigit, Bool.or_eq_true, Bool.and_eq_true, decide_eq_true_eq, ge_iff_le,
      UInt32.le_iff_toNat_le, hchar, Char.toNat_val] at h
    simp at h
    omega
  refine ⟨fun h => ?_, fun h => ?_, fun h => ?_, fun h => ?_, ?_, ?_⟩
  · have hcodes := (hchar _).mp h
    simp at hcodes
    omega
  · have hcodes := (hchar _).mp h
    simp at hcodes
    omega
  · have hcodes := (hchar _).mp h
    simp at hcodes
    omega
  · have hcodes := (hchar _).mp h
    simp at hcodes
    omega
  · simp only [Unicode.isWhiteSpace, Bool.or_eq_false_iff, Bool.and_eq_false_iff,
      beq_eq_false_iff_ne, decide_eq_false_iff_not]
    omega
  · simp only [Unicode.isMarkupBlank, Bool.or_eq_false_iff, decide_eq_false_iff_not, hchar]
    simp
    omega

theorem isTagNameChar_of_isAlpha {c : Char} (h : c.isAlpha = true) : isTagNameChar c = true := by
  simp [isTagNameChar, Char.isAlphanum, h]

/-- A tag name is a letter and tag name characters. -/
theorem isTagName_spec {name : String} (h : isTagName name = true) :
    ∃ c rest, name.toList = c :: rest ∧ c.isAlpha = true ∧
      ∀ d ∈ c :: rest, isTagNameChar d = true := by
  unfold isTagName at h
  split at h
  · next c rest hname =>
    simp only [Bool.and_eq_true, List.all_eq_true] at h
    refine ⟨c, rest, hname, h.1, ?_⟩
    intro d hd
    rcases List.mem_cons.mp hd with rfl | hd
    · exact isTagNameChar_of_isAlpha h.1
    · exact h.2 d hd
  · simp at h

/-- The search for the closing `>` reads through a tag name. -/
theorem inert_tagName {cs : List Char} (h : ∀ d ∈ cs, isTagNameChar d = true) : Angle.Inert cs :=
  Angle.inert_plain fun d hd =>
    let hplain := isTagNameChar_plain (h d hd)
    ⟨hplain.1, hplain.2.1, hplain.2.2.1⟩

/-- The search for the closing `>` reads through canonical attribute text: names and `=` are
    plain, and a string value is one quoted stretch. -/
theorem inert_canonicalText (attrs : Attributes)
    (h : ∀ e ∈ attrs.toList, isAttributeName e.1 = true ∧ e.2.isCanonical = true) :
    Angle.Inert attrs.canonicalText := by
  unfold Attributes.canonicalText
  revert h
  induction attrs.toList with
  | nil => intro _; exact Angle.inert_nil
  | cons e rest ih =>
    intro h
    obtain ⟨hk, ha⟩ := h e (by simp)
    have hrest := ih (fun e' he' => h e' (List.mem_cons_of_mem _ he'))
    have hname : Angle.Inert (' ' :: (e.1.toList ++ ['='])) := by
      apply Angle.inert_plain
      intro d hd
      simp only [isAttributeName, Bool.and_eq_true, List.all_eq_true] at hk
      simp only [List.mem_cons, List.mem_append, List.not_mem_nil, or_false] at hd
      rcases hd with rfl | hd | rfl
      · decide
      · have hnameChar := hk.2 d hd
        simp only [AttributeText.isNameChar, Bool.not_eq_true', Bool.or_eq_false_iff,
          decide_eq_false_iff_not] at hnameChar
        exact ⟨hnameChar.1.1.2, hnameChar.1.2, hnameChar.1.1.1.2⟩
      · decide
    have hvalue : Angle.Inert e.2.canonicalText := by
      cases hv : e.2 with
      | str s =>
        rw [hv] at ha
        have hnoquote : '"' ∉ s.toList := fun hmem => by
          simpa [AttrValue.isCanonical, Json.isPlainChar] using
            (List.all_eq_true.mp ha) '"' hmem
        exact Angle.inert_quoted (Or.inl rfl) hnoquote
      | number x =>
        apply Angle.inert_plain
        intro d hd
        simp only [AttrValue.canonicalText, List.mem_append] at hd
        rcases hd with hsign | hdigit
        · split at hsign
          · simp only [List.mem_singleton] at hsign
            subst hsign
            decide
          · simp at hsign
        · have hd : d.isDigit = true := Nat.isDigit_of_mem_toDigits (by decide) (by decide) hdigit
          refine ⟨fun h => ?_, fun h => ?_, fun h => ?_⟩ <;> subst h <;> simp at hd
      | ref _ => rw [hv] at ha; simp [AttrValue.isCanonical] at ha
    rw [List.flatMap_cons]
    have hentry : ' ' :: (e.1.toList ++ '=' :: e.2.canonicalText) =
        ' ' :: (e.1.toList ++ ['=']) ++ e.2.canonicalText := by
      simp
    rw [hentry]
    exact (hname.append hvalue).append hrest

/-- The last character of a canonical value's text is a quote or a digit. -/
theorem canonicalText_getLast {a : AttrValue} (ha : a.isCanonical = true) {d : Char}
    (hd : a.canonicalText.getLast? = some d) : d ≠ '/' := by
  cases a with
  | str s =>
    simp only [AttrValue.canonicalText] at hd
    rw [← List.cons_append, List.getLast?_append] at hd
    simp only [List.getLast?_singleton, Option.some_or, Option.some.injEq] at hd
    subst hd
    decide
  | number x =>
    have hne := @Nat.toDigits_ne_nil x.toInt.natAbs 10
    simp only [AttrValue.canonicalText, List.getLast?_append] at hd
    obtain ⟨last, hlast⟩ := Option.ne_none_iff_exists'.mp
      (mt List.getLast?_eq_none_iff.mp hne)
    rw [hlast, Option.some_or, Option.some.injEq] at hd
    subst hd
    have hdigit : last.isDigit = true :=
      Nat.isDigit_of_mem_toDigits (by decide) (by decide) (List.mem_of_getLast? hlast)
    rintro rfl
    simp at hdigit
  | ref _ => simp [AttrValue.isCanonical] at ha

/-- A written start tag does not end in `/`, so it is no empty-element tag. -/
theorem startTag_getLast {name : String} (hname : isTagName name = true) (attrs : Attributes)
    (hattrs : ∀ e ∈ attrs.toList, isAttributeName e.1 = true ∧ e.2.isCanonical = true) :
    (name.toList ++ attrs.canonicalText).getLast? ≠ some '/' := by
  obtain ⟨c, rest, hcs, -, hchars⟩ := isTagName_spec hname
  -- the last character is the name's, or that of the last attribute's value
  have hattrsLast : ∀ d, attrs.canonicalText.getLast? = some d → d ≠ '/' := by
    unfold Attributes.canonicalText
    revert hattrs
    induction attrs.toList with
    | nil => simp
    | cons e more ih =>
      intro hattrs d hd
      rw [List.flatMap_cons, List.getLast?_append] at hd
      cases hmore : (more.flatMap fun e => ' ' :: (e.1.toList ++ '=' :: e.2.canonicalText)).getLast?
        with
      | some d' =>
        rw [hmore, Option.some_or, Option.some.injEq] at hd
        subst hd
        exact ih (fun e' he' => hattrs e' (List.mem_cons_of_mem _ he')) _ hmore
      | none =>
        rw [hmore, Option.none_or] at hd
        have hvalue := (hattrs e (by simp)).2
        obtain ⟨v, vs, hvs, -⟩ := AttributeText.canonicalText_head hvalue
        have hlast : e.2.canonicalText.getLast? = some d := by
          have hsplit : ' ' :: (e.1.toList ++ '=' :: e.2.canonicalText) =
              ' ' :: (e.1.toList ++ ['=']) ++ e.2.canonicalText := by
            simp
          rw [hsplit, List.getLast?_append, hvs,
            List.getLast?_eq_some_getLast (List.cons_ne_nil v vs), Option.some_or] at hd
          rw [hvs, List.getLast?_eq_some_getLast (List.cons_ne_nil v vs), hd]
        exact canonicalText_getLast hvalue hlast
  intro hslash
  rw [List.getLast?_append] at hslash
  cases htext : attrs.canonicalText.getLast? with
  | some d =>
    rw [htext, Option.some_or, Option.some.injEq] at hslash
    exact hattrsLast d htext hslash
  | none =>
    rw [htext, Option.none_or, hcs] at hslash
    exact (isTagNameChar_plain (hchars '/' (List.mem_of_getLast? hslash))).2.2.2.1 rfl

/-! ### The written text of a canonical forest -/

theorem isCanonical_text {data : String} :
    (Node.text data).isCanonical = true ↔ data ≠ "" ∧ '<' ∉ data.toList := by
  simp [Node.isCanonical]

theorem isCanonical_element {name : String} {attrs : Attributes} {children : List Node} :
    (Node.element name attrs children).isCanonical = true ↔
      isTagName name = true ∧ (isVoidElement name = true → children = []) ∧
      (∀ e ∈ attrs.toList, isAttributeName e.1 = true ∧ e.2.isCanonical = true) ∧
      Node.forestIsCanonical children = true := by
  simp only [Node.isCanonical, Bool.and_eq_true, Bool.or_eq_true, Bool.not_eq_true',
    List.isEmpty_iff, List.all_eq_true]
  constructor
  · rintro ⟨⟨⟨hname, hvoid⟩, hattrs⟩, hchildren⟩
    refine ⟨hname, fun h => ?_, hattrs, hchildren⟩
    rcases hvoid with hv | hv
    · rw [h] at hv
      cases hv
    · exact hv
  · rintro ⟨hname, hvoid, hattrs, hchildren⟩
    refine ⟨⟨⟨hname, ?_⟩, hattrs⟩, hchildren⟩
    cases hv : isVoidElement name with
    | false => exact Or.inl rfl
    | true => exact Or.inr (hvoid hv)

theorem forestIsCanonical_cons {n : Node} {rest : List Node} :
    Node.forestIsCanonical (n :: rest) = true ↔
      n.isCanonical = true ∧ (n.isText = true → Node.leadsWithText rest = false) ∧
      Node.forestIsCanonical rest = true := by
  simp only [Node.forestIsCanonical, Bool.and_eq_true, Bool.not_eq_true', Bool.and_eq_false_iff]
  constructor
  · rintro ⟨⟨hn, hsep⟩, hrest⟩
    refine ⟨hn, fun ht => ?_, hrest⟩
    rcases hsep with h | h
    · rw [ht] at h
      cases h
    · exact h
  · rintro ⟨hn, hsep, hrest⟩
    refine ⟨⟨hn, ?_⟩, hrest⟩
    cases ht : n.isText with
    | false => exact Or.inl rfl
    | true => exact Or.inr (hsep ht)

section Written

variable {interpolate : Interpolator} {context : Json}

/-- A canonical element is written as its start tag, its children and its closing tag. -/
theorem serialize_element {name : String} {attrs : Attributes} {children : List Node}
    (hattrs : ∀ e ∈ attrs.toList, isAttributeName e.1 = true ∧ e.2.isCanonical = true) :
    (Node.serialize interpolate context (.element name attrs children)).toList =
      '<' :: (name.toList ++ attrs.canonicalText ++ ['>']) ++
        (Node.serializeForest interpolate context children).toList ++
        '<' :: ('/' :: name.toList ++ ['>']) := by
  have htext := attributesText_canonical interpolate context attrs.toList
    (fun e he => (hattrs e he).2)
  simp only [Node.serialize, String.toList_append, htext, Attributes.canonicalText]
  simp

end Written

/-! ### One piece -/

/-- A written start tag is passed over whole by the cut at literal `<`s. -/
theorem passes_startTag {name : String} (hname : isTagName name = true) (attrs : Attributes)
    (hattrs : ∀ e ∈ attrs.toList, isAttributeName e.1 = true ∧ e.2.isCanonical = true) :
    Angle.Passes ('<' :: (name.toList ++ attrs.canonicalText ++ ['>'])) := by
  obtain ⟨c, rest, hcs, halpha, hchars⟩ := isTagName_spec hname
  have hangle : Angle.Inert ['<'] := Angle.inert_plain (by simp)
  have hinert : Angle.Inert ('<' :: (name.toList ++ attrs.canonicalText)) := by
    rw [← hcs] at hchars
    exact hangle.append ((inert_tagName hchars).append (inert_canonicalText attrs hattrs))
  apply Angle.passes_tag hinert
  intro ys
  rw [hcs, List.cons_append, List.cons_append]
  exact Angle.markupExtent_start halpha _

/-- A written closing tag is passed over whole by the cut at literal `<`s. -/
theorem passes_closeTag {name : String} (hname : isTagName name = true) :
    Angle.Passes ('<' :: ('/' :: name.toList ++ ['>'])) := by
  obtain ⟨c, rest, hcs, halpha, hchars⟩ := isTagName_spec hname
  have hopen : Angle.Inert ['<', '/'] := Angle.inert_plain (by simp)
  have hinert : Angle.Inert ('<' :: '/' :: name.toList) := by
    rw [← hcs] at hchars
    exact hopen.append (inert_tagName hchars)
  apply Angle.passes_tag hinert
  intro ys
  rw [hcs, List.cons_append]
  exact Angle.markupExtent_close halpha _

section Written

variable {interpolate : Interpolator} {context : Json}

mutual
/-- The written text of a canonical node is passed over whole: it has no literal `<`. -/
theorem Node.passes_node :
    ∀ n : Node, n.isCanonical = true → Angle.Passes (n.serialize interpolate context).toList
  | .text data, h => by
    obtain ⟨-, hangle⟩ := isCanonical_text.mp h
    exact Angle.passes_plain hangle
  | .element name attrs children, h => by
    obtain ⟨hname, -, hattrs, hchildren⟩ := isCanonical_element.mp h
    rw [serialize_element hattrs]
    exact ((passes_startTag hname attrs hattrs).append
      (Node.passes_forest children hchildren)).append (passes_closeTag hname)

/-- The written text of a canonical forest is passed over whole: it has no literal `<`. -/
theorem Node.passes_forest :
    ∀ t : List Node, Node.forestIsCanonical t = true →
      Angle.Passes (Node.serializeForest interpolate context t).toList
  | [], _ => by
    simp only [Node.serializeForest, String.toList_empty]
    exact Angle.passes_nil
  | n :: rest, h => by
    obtain ⟨hn, -, hrest⟩ := forestIsCanonical_cons.mp h
    simp only [Node.serializeForest, String.toList_append]
    exact (Node.passes_node n hn).append (Node.passes_forest rest hrest)
end

/-- The written text of a canonical forest is one piece. -/
theorem pieces_serializeForest {t : List Node} (ht : Node.forestIsCanonical t = true) :
    Angle.pieces (Node.serializeForest interpolate context t) =
      [(0, (Node.serializeForest interpolate context t).toList)] := by
  have hpass := @Node.passes_forest interpolate context t ht 0 0 [] []
  rw [List.append_nil] at hpass
  simp only [Angle.pieces]
  rw [hpass, Angle.piecesFrom.eq_1]
  simp

/-! ### Reading the written text back -/

open TreeBuilder (Feeds)

/-- Reading `chars` and then `ys` from text mode gives tokens that take the builder from `b`
    to `b'`, and goes on with `ys` from text mode. -/
def ReadsInto (chars ys : List Char) (b b' : TreeBuilder) : Prop :=
  ∀ pos acc, ∃ new, Token.readFrom .text (chars ++ ys) pos acc =
      Token.readFrom .text ys (pos + byteLength chars) (new ++ acc) ∧ Feeds new.reverse b b'

theorem ReadsInto.append {xs ys zs : List Char} {b b' b'' : TreeBuilder}
    (h : ReadsInto xs (ys ++ zs) b b') (h' : ReadsInto ys zs b' b'') :
    ReadsInto (xs ++ ys) zs b b'' := by
  intro pos acc
  obtain ⟨new, hread, hfeeds⟩ := h pos acc
  obtain ⟨new', hread', hfeeds'⟩ := h' (pos + byteLength xs) (new ++ acc)
  refine ⟨new' ++ new, ?_, ?_⟩
  · rw [List.append_assoc, hread, hread', byteLength_append, Nat.add_assoc, List.append_assoc]
  · rw [List.reverse_append]
    exact hfeeds.append hfeeds'

theorem readsInto_nil (ys : List Char) (b : TreeBuilder) : ReadsInto [] ys b b := by
  intro pos acc
  exact ⟨[], by simp [byteLength], TreeBuilder.feeds_nil b⟩

/-- Markup read as a single token that feeds the same way wherever it stands. -/
theorem readsInto_token {chars ys : List Char} {t : Token} {b b' : TreeBuilder}
    (hread : ∀ pos acc, Token.readFrom .text (chars ++ ys) pos acc =
      Token.readFrom .text ys (pos + byteLength chars) ((t, pos + byteLength chars) :: acc))
    (hfeeds : ∀ q, Feeds [(t, q)] b b') : ReadsInto chars ys b b' := by
  intro pos acc
  exact ⟨[(t, pos + byteLength chars)], hread pos acc, hfeeds _⟩

/-- A written start tag is read as one start tag token of its name and attribute text. -/
theorem readFrom_startTag {name : String} (hname : isTagName name = true) {attrs : Attributes}
    (hattrs : ∀ e ∈ attrs.toList, isAttributeName e.1 = true ∧ e.2.isCanonical = true)
    (ys : List Char) (pos : Nat) (acc : List (Token × Nat)) :
    Token.readFrom .text ('<' :: (name.toList ++ attrs.canonicalText ++ ['>']) ++ ys) pos acc =
      Token.readFrom .text ys (pos + byteLength ('<' :: (name.toList ++ attrs.canonicalText ++ ['>'])))
        ((.start (String.ofList (name.toList ++ attrs.canonicalText)),
          pos + byteLength ('<' :: (name.toList ++ attrs.canonicalText ++ ['>']))) :: acc) := by
  obtain ⟨c, rest, hcs, halpha, hchars⟩ := isTagName_spec hname
  have hlast := startTag_getLast hname attrs hattrs
  rw [← hcs] at hchars
  have hinert := (inert_tagName hchars).append (inert_canonicalText attrs hattrs)
  rw [hcs, List.cons_append] at hinert hlast
  have hread := @Token.readFrom_start c (rest ++ attrs.canonicalText) ys halpha hinert hlast pos acc
  rw [hcs]
  simp only [List.cons_append, List.append_assoc] at hread ⊢
  exact hread

/-- A written closing tag is read as one closing tag token of its name. -/
theorem readFrom_closeTag {name : String} (hname : isTagName name = true) (ys : List Char)
    (pos : Nat) (acc : List (Token × Nat)) :
    Token.readFrom .text ('<' :: ('/' :: name.toList ++ ['>']) ++ ys) pos acc =
      Token.readFrom .text ys (pos + byteLength ('<' :: ('/' :: name.toList ++ ['>'])))
        ((.close name, pos + byteLength ('<' :: ('/' :: name.toList ++ ['>']))) :: acc) := by
  obtain ⟨c, rest, hcs, -, hchars⟩ := isTagName_spec hname
  have hlast : ∀ d, (c :: rest).getLast? = some d → Unicode.isMarkupBlank d = false :=
    fun d hd => (isTagNameChar_plain (hchars d (List.mem_of_getLast? hd))).2.2.2.2.2
  have hread := @Token.readFrom_close c rest ys (inert_tagName hchars) hlast pos acc
  have hspelled : String.ofList (c :: rest) = name := by rw [← hcs, String.ofList_toList]
  rw [hspelled] at hread
  rw [hcs]
  simp only [List.cons_append, List.append_assoc] at hread ⊢
  exact hread

/-- After a written node comes the end, or a `<` when the rest of the forest starts with an
    element. -/
theorem serializeForest_stops {rest : List Node} (hcanonical : Node.forestIsCanonical rest = true)
    (hlead : Node.leadsWithText rest = false) {ys : List Char} (hys : ys = [] ∨ ys.head? = some '<') :
    (Node.serializeForest interpolate context rest).toList ++ ys = [] ∨
      ((Node.serializeForest interpolate context rest).toList ++ ys).head? = some '<' := by
  match rest, hcanonical, hlead with
  | [], _, _ =>
    simp only [Node.serializeForest, String.toList_empty, List.nil_append]
    exact hys
  | .element name attrs children :: more, hcanonical, _ =>
    obtain ⟨hn, -, -⟩ := forestIsCanonical_cons.mp hcanonical
    obtain ⟨-, -, hattrs, -⟩ := isCanonical_element.mp hn
    right
    simp only [Node.serializeForest, String.toList_append, serialize_element hattrs]
    simp

mutual
/-- A canonical node, written and read back in front of `ys`, adds itself to the builder. Text
    needs `ys` to start no text, and a builder whose newest node is no text. -/
theorem Node.reads_node : ∀ n : Node, n.isCanonical = true →
    ∀ ys : List Char, (n.isText = true → ys = [] ∨ ys.head? = some '<') →
    ∀ b : TreeBuilder, b.Ready → (n.isText = true → Node.leadsWithText b.top = false) →
    ReadsInto (n.serialize interpolate context).toList ys b (b.addNode n)
  | .text data, h, ys, hys, b, _, htop => by
    obtain ⟨hne, hangle⟩ := isCanonical_text.mp h
    intro pos acc
    obtain ⟨new, hread, hspelling⟩ := Token.readsAsText data.toList ys hangle (hys rfl) pos acc
    refine ⟨new, hread, ?_⟩
    have hspelled : Token.spelling (new.reverse.map Prod.fst) = some data.toList := by
      rw [List.map_reverse]
      exact hspelling
    have hfeeds := TreeBuilder.feeds_spelling hspelled b
    rw [String.ofList_toList, TreeBuilder.addText_eq_addNode hne (htop rfl)] at hfeeds
    exact hfeeds
  | .element name attrs children, h, ys, _, b, hready, _ => by
    obtain ⟨hname, hvoid, hattrs, hchildren⟩ := isCanonical_element.mp h
    obtain ⟨c, rest, hcs, -, hchars⟩ := isTagName_spec hname
    have hsplit := splitTag_canonical
      (fun d hd => (isTagNameChar_plain (hchars d (hcs ▸ hd))).2.2.2.2.1) attrs hattrs
    rw [serialize_element hattrs, List.append_assoc]
    -- a void name adds a childless element at its start tag, and its closing tag is skipped
    cases hv : isVoidElement name with
    | false =>
      apply ReadsInto.append (readsInto_token (readFrom_startTag hname hattrs _)
        (TreeBuilder.feeds_start_open hsplit hv b))
      apply ReadsInto.append (Node.reads_forest children hchildren _ (Or.inr (by simp))
        (b.openElement name attrs) (hready.openElement hv attrs)
        (fun _ => by rw [TreeBuilder.top_openElement]; rfl))
      exact readsInto_token (readFrom_closeTag hname ys)
        (TreeBuilder.feeds_close_openElement b name attrs children)
    | true =>
      obtain rfl := hvoid hv
      simp only [Node.serializeForest, String.toList_empty, List.nil_append]
      apply ReadsInto.append (readsInto_token (readFrom_startTag hname hattrs _)
        (TreeBuilder.feeds_start_void hsplit hv b))
      exact readsInto_token (readFrom_closeTag hname ys)
        (TreeBuilder.feeds_close_void (hready.addNode (.element name attrs [])) hv)

theorem Node.reads_forest : ∀ t : List Node, Node.forestIsCanonical t = true →
    ∀ ys : List Char, (ys = [] ∨ ys.head? = some '<') →
    ∀ b : TreeBuilder, b.Ready → (Node.leadsWithText t = true → Node.leadsWithText b.top = false) →
    ReadsInto (Node.serializeForest interpolate context t).toList ys b (b.addNodes t)
  | [], _, ys, _, b, _, _ => readsInto_nil ys b
  | n :: rest, h, ys, hys, b, hready, htop => by
    obtain ⟨hn, hsep, hrest⟩ := forestIsCanonical_cons.mp h
    simp only [Node.serializeForest, String.toList_append, TreeBuilder.addNodes_cons]
    apply ReadsInto.append (Node.reads_node n hn _
      (fun htext => serializeForest_stops hrest (hsep htext) hys) b hready htop)
    -- the next node follows `n`, which is text only when the next one is not
    apply Node.reads_forest rest hrest ys hys (b.addNode n) (hready.addNode n)
    intro hlead
    simp only [TreeBuilder.top_addNode, Node.leadsWithText]
    cases htext : n.isText with
    | false => rfl
    | true => rw [hsep htext] at hlead; cases hlead
end

/-! ### The leading byte-order mark -/

theorem dropLeadingMark_marked {data : String} {more : List Char}
    (hdata : data.toList = '\uFEFF' :: more) (rest : List Node) :
    Node.dropLeadingMark (.text data :: rest) =
      if more = [] then rest else .text (String.ofList more) :: rest := by
  simp only [Node.dropLeadingMark, hdata]

theorem dropLeadingMark_unmarked {data : String} (hdata : ∀ more, data.toList ≠ '\uFEFF' :: more)
    (rest : List Node) : Node.dropLeadingMark (.text data :: rest) = .text data :: rest := by
  -- the catch-all case of the match holds when no mark is there
  simp only [Node.dropLeadingMark]

theorem forestIsCanonical_dropLeadingMark {t : List Node} (h : Node.forestIsCanonical t = true) :
    Node.forestIsCanonical (Node.dropLeadingMark t) = true := by
  match t, h with
  | [], _ => rfl
  | .element name attrs children :: rest, h => exact h
  | .text data :: rest, h =>
    obtain ⟨hn, hsep, hrest⟩ := forestIsCanonical_cons.mp h
    obtain ⟨-, hangle⟩ := isCanonical_text.mp hn
    by_cases hmarked : ∃ more, data.toList = '\uFEFF' :: more
    · obtain ⟨more, hdata⟩ := hmarked
      rw [dropLeadingMark_marked hdata]
      split
      · exact hrest
      · next hmore =>
        -- the text without its mark is still nonempty, without `<`, and followed by no text
        have hne : String.ofList more ≠ "" := fun hempty =>
          hmore (by simpa using congrArg String.toList hempty)
        have hno : '<' ∉ (String.ofList more).toList := fun hmem => by
          rw [String.toList_ofList] at hmem
          exact hangle (hdata ▸ List.mem_cons_of_mem _ hmem)
        exact forestIsCanonical_cons.mpr
          ⟨isCanonical_text.mpr ⟨hne, hno⟩, fun _ => hsep rfl, hrest⟩
    · rw [dropLeadingMark_unmarked (fun more hdata => hmarked ⟨more, hdata⟩)]
      exact h

/-- The reader drops a mark at the start of the written text: it reads the written text of the
    forest without its leading mark. -/
theorem read_serializeForest {t : List Node} (h : Node.forestIsCanonical t = true) :
    TokenStream.read (Node.serializeForest interpolate context t).toList =
      Token.readFrom .text (Node.serializeForest interpolate context (Node.dropLeadingMark t)).toList
        0 [] := by
  match t, h with
  | [], _ => rfl
  | .element name attrs children :: rest, h =>
    obtain ⟨hn, -, -⟩ := forestIsCanonical_cons.mp h
    obtain ⟨-, -, hattrs, -⟩ := isCanonical_element.mp hn
    apply TokenStream.read_unmarked
    simp [Node.serializeForest, serialize_element hattrs]
  | .text data :: rest, h =>
    obtain ⟨hn, -, -⟩ := forestIsCanonical_cons.mp h
    obtain ⟨hne, -⟩ := isCanonical_text.mp hn
    by_cases hmarked : ∃ more, data.toList = '\uFEFF' :: more
    · obtain ⟨more, hdata⟩ := hmarked
      rw [dropLeadingMark_marked hdata]
      simp only [Node.serializeForest, Node.serialize, String.toList_append, hdata,
        List.cons_append, TokenStream.read_marked]
      split
      · next hmore => rw [hmore, List.nil_append]
      · simp [Node.serializeForest, Node.serialize]
    · rw [dropLeadingMark_unmarked (fun more hdata => hmarked ⟨more, hdata⟩)]
      apply TokenStream.read_unmarked
      -- the text starts with a character other than the mark
      obtain ⟨c, cs, hcs⟩ := List.exists_cons_of_ne_nil (mt String.toList_eq_nil_iff.mp hne)
      intro r hr
      simp only [Node.serializeForest, Node.serialize, String.toList_append, hcs,
        List.cons_append, List.cons.injEq] at hr
      exact hmarked ⟨cs, hcs.trans (hr.1 ▸ rfl)⟩

end Written

/-! ### A whole render pass read back -/

/-- **Writing a canonical forest and reading it back.** A renderer with the default component,
    the verbatim engine, no component registered under a tag of the forest and a depth limit at
    least the forest's height writes a canonical forest without error, and reading what it wrote
    gives the forest back, except for a byte-order mark at the very start, which the reader
    drops. -/
theorem Document.parse_write (components : Registry) (interpolate : Interpolator)
    (maxDepth : Nat) (t : List Node) (context : Json)
    (hcanonical : Node.forestIsCanonical t = true) (hdepth : Node.forestHeight t ≤ maxDepth)
    (hunregistered : ∀ x ∈ Node.forestTagNames t, components.lookup x = none) :
    ∃ s, (Renderer.mk components (some .verbatim) defaultComponent interpolate maxDepth).write
        (.nodes t) context = ⟨s, none⟩ ∧
      Document.parse s = .ok (Node.dropLeadingMark t) := by
  have hr : (Renderer.mk components (some .verbatim) defaultComponent interpolate
      maxDepth).WritesBack := ⟨rfl, rfl⟩
  have hwrite := @Renderer.writeNodes_writesBack _ context hr t maxDepth "" hdepth hunregistered
  rw [Renderer.write_nodes]
  refine ⟨Node.serializeForest interpolate context t, by simpa using hwrite, ?_⟩
  -- the written text is one piece, read from text mode after its mark
  obtain ⟨new, hread, hfeeds⟩ := @Node.reads_forest interpolate context (Node.dropLeadingMark t)
    (forestIsCanonical_dropLeadingMark hcanonical) [] (Or.inl rfl) TreeBuilder.empty
    TreeBuilder.ready_empty (fun _ => rfl) 0 []
  rw [List.append_nil, List.append_nil, Token.readFrom_text_nil] at hread
  have hstream : TokenStream.read (Node.serializeForest interpolate context t).toList =
      ⟨new.reverse, none⟩ := by
    rw [read_serializeForest hcanonical, hread]
  have hpiece : TreeBuilder.empty.feedPiece 0 ⟨new.reverse, none⟩ =
      .ok (TreeBuilder.empty.addNodes (Node.dropLeadingMark t)) :=
    TreeBuilder.feedPiece_of_feeds hfeeds rfl 0
  rw [Document.parse_of_pieces (pieces_serializeForest hcanonical), hstream, hpiece]
  show Except.ok (TreeBuilder.empty.addNodes (Node.dropLeadingMark t)).finish = _
  rw [TreeBuilder.finish_addNodes_empty]

/-- A marked text and a paragraph with an attribute, written at depth two and read back: the
    paragraph comes back whole, and the text without its mark. -/
theorem parse_write_markedText_paragraph :
    Node.forestIsCanonical [.text "\uFEFFa", .element "p" (Attributes.empty.insert "id" (.str "x"))
      [.text "b"]] = true ∧
    Node.forestHeight [.text "\uFEFFa", .element "p" (Attributes.empty.insert "id" (.str "x"))
      [.text "b"]] ≤ 2 ∧
    (∀ x ∈ Node.forestTagNames [.text "\uFEFFa", .element "p"
      (Attributes.empty.insert "id" (.str "x")) [.text "b"]], Registry.empty.lookup x = none) ∧
    (∃ s, (Renderer.mk .empty (some .verbatim) defaultComponent pathInterpolator 2).write
        (.nodes [.text "\uFEFFa", .element "p" (Attributes.empty.insert "id" (.str "x"))
          [.text "b"]]) .null = ⟨s, none⟩ ∧
      Document.parse s = .ok (Node.dropLeadingMark [.text "\uFEFFa", .element "p"
        (Attributes.empty.insert "id" (.str "x")) [.text "b"]])) ∧
    Node.dropLeadingMark [.text "\uFEFFa", .element "p" (Attributes.empty.insert "id" (.str "x"))
      [.text "b"]] = [.text "a", .element "p" (Attributes.empty.insert "id" (.str "x")) [.text "b"]] :=
  ⟨by decide, by decide, by simp [Registry.empty, Registry.lookup],
    Document.parse_write .empty pathInterpolator 2 _ .null (by decide) (by decide)
      (by simp [Registry.empty, Registry.lookup]), rfl⟩

end Tagweave
