import Tagweave.Markup.Angle

namespace Tagweave

namespace Angle

/-!
# Scanning for markup

Where the scan for the end of a tag stops, and how the cut of a text at its literal `<`s
passes over text and over complete markup.

* `Angle.Inert` is tag text that the search for the closing `>` reads through and leaves
  outside quotes: plain characters, and a quoted stretch without its own quote.
  `Angle.tagEnd_inert`: a tag whose inside is inert ends at the `>` right after it.
* `Angle.Passes` is text that `Angle.piecesFrom` adds whole to the piece it is collecting,
  whatever follows: characters other than `<`, and markup whose extent does not depend on
  what follows it. Both are closed under concatenation, so a whole written document is
  handled one tag and one text at a time.
-/

@[simp] theorem byteLength_nil : byteLength [] = 0 := rfl

theorem byteLength_cons (c : Char) (xs : List Char) :
    byteLength (c :: xs) = c.utf8Size + byteLength xs := rfl

theorem byteLength_append (xs ys : List Char) :
    byteLength (xs ++ ys) = byteLength xs + byteLength ys := by
  induction xs with
  | nil => rw [List.nil_append, byteLength_nil, Nat.zero_add]
  | cons c xs ih => rw [List.cons_append, byteLength_cons, byteLength_cons, ih, Nat.add_assoc]

@[simp] theorem utf8Size_angle : '<'.utf8Size = 1 := rfl

/-! ### The end of a tag -/

/-- Tag text that the search for the closing `>` reads through, leaving it outside quotes:
    what follows is searched as from a fresh start. -/
def Inert (xs : List Char) : Prop :=
  ∀ ys n, tagEnd.go (xs ++ ys) none n = tagEnd.go ys none (n + xs.length)

theorem inert_nil : Inert [] := by
  intro ys n
  simp

theorem Inert.append {xs ys : List Char} (hx : Inert xs) (hy : Inert ys) : Inert (xs ++ ys) := by
  intro zs n
  rw [List.append_assoc, hx, hy, List.length_append, Nat.add_assoc]

/-- Characters that are neither quotes nor `>` are read through one by one. -/
theorem inert_plain {xs : List Char} (h : ∀ c ∈ xs, c ≠ '"' ∧ c ≠ '\'' ∧ c ≠ '>') :
    Inert xs := by
  induction xs with
  | nil => exact inert_nil
  | cons c rest ih =>
    intro ys n
    obtain ⟨hq, ha, hg⟩ := h c (by simp)
    have hrest := ih (fun d hd => h d (by simp [hd]))
    simp only [List.cons_append, tagEnd.go, hq, ha, hg, decide_false, Bool.or_false,
      Bool.false_eq_true, if_false]
    rw [hrest, List.length_cons]
    congr 1
    omega

/-- Inside a quoted stretch, everything up to the closing quote is read through. -/
theorem go_quoted {q : Char} {s : List Char} (h : q ∉ s) (ys : List Char) (n : Nat) :
    tagEnd.go (s ++ q :: ys) (some q) n = tagEnd.go ys none (n + s.length + 1) := by
  induction s generalizing n with
  | nil => simp [tagEnd.go]
  | cons c rest ih =>
    have hc : c ≠ q := fun hcq => h (by simp [hcq])
    have hrest : q ∉ rest := fun hq => h (by simp [hq])
    simp only [List.cons_append, tagEnd.go, hc, if_false]
    rw [ih hrest, List.length_cons]
    congr 1
    omega

/-- A quoted stretch without its own quote inside is read through. -/
theorem inert_quoted {q : Char} {s : List Char} (hq : q = '"' ∨ q = '\'') (h : q ∉ s) :
    Inert (q :: s ++ [q]) := by
  intro ys n
  have hopen : tagEnd.go (q :: (s ++ q :: ys)) none n = tagEnd.go (s ++ q :: ys) (some q) (n + 1) := by
    rcases hq with rfl | rfl <;> simp [tagEnd.go]
  simp only [List.cons_append, List.append_assoc, List.nil_append]
  rw [hopen, go_quoted h, List.length_cons, List.length_append, List.length_singleton]
  congr 1
  omega

/-- A tag whose inside is inert ends at the `>` that follows it. -/
theorem tagEnd_inert {body : List Char} (h : Inert body) (rest : List Char) :
    tagEnd (body ++ '>' :: rest) = some (body.length + 1) := by
  simp only [tagEnd]
  rw [h]
  simp [tagEnd.go]

/-! ### Markup extents of tags -/

/-- At `<` and a letter the markup is a start tag, ending where the tag ends. -/
theorem markupExtent_start {c : Char} (hc : c.isAlpha = true) (more : List Char) :
    markupExtent ('<' :: c :: more) = tagEnd ('<' :: c :: more) := by
  have hbang : c ≠ '!' := by rintro rfl; simp at hc
  have hquery : c ≠ '?' := by rintro rfl; simp at hc
  have hslash : c ≠ '/' := by rintro rfl; simp at hc
  simp [markupExtent, hbang, Ne.symm hbang, hquery, hslash, hc, List.isPrefixOf]

/-- At `</` and a letter the markup is a closing tag, ending where the tag ends. -/
theorem markupExtent_close {c : Char} (hc : c.isAlpha = true) (more : List Char) :
    markupExtent ('<' :: '/' :: c :: more) = tagEnd ('<' :: '/' :: c :: more) := by
  simp [markupExtent, hc, List.isPrefixOf]

/-! ### Cutting at literal `<`s -/

/-- Text that `piecesFrom` adds whole to the piece it is collecting, whatever follows. -/
def Passes (xs : List Char) : Prop :=
  ∀ pos start acc ys, piecesFrom pos start acc (xs ++ ys) =
    piecesFrom (pos + byteLength xs) start (xs.reverse ++ acc) ys

theorem passes_nil : Passes [] := by
  intro pos start acc ys
  simp [byteLength]

theorem Passes.append {xs ys : List Char} (hx : Passes xs) (hy : Passes ys) :
    Passes (xs ++ ys) := by
  intro pos start acc zs
  rw [List.append_assoc, hx, hy, byteLength_append, Nat.add_assoc]
  simp [List.append_assoc]

/-- Characters other than `<` join the piece one by one. -/
theorem passes_plain {xs : List Char} (h : '<' ∉ xs) : Passes xs := by
  induction xs with
  | nil => exact passes_nil
  | cons c rest ih =>
    intro pos start acc ys
    have hc : c ≠ '<' := fun hc => h (by simp [hc])
    have hrest := ih (fun hr => h (by simp [hr]))
    rw [List.cons_append, piecesFrom, if_neg hc, hrest, byteLength_cons]
    simp [Nat.add_assoc]

/-- Markup whose extent is known without looking past it joins the piece whole. -/
theorem passes_markup {m : List Char}
    (h : ∀ ys, markupExtent ('<' :: m ++ ys) = some (m.length + 1)) : Passes ('<' :: m) := by
  intro pos start acc ys
  have hm := h ys
  rw [List.cons_append] at hm ⊢
  rw [piecesFrom, if_pos rfl, hm]
  simp only [Nat.add_sub_cancel]
  rw [List.take_succ_cons, List.take_left' rfl, List.drop_left' rfl]

/-- A tag `<…>` whose inside is inert and whose markup extent is its tag end joins the piece
    whole. -/
theorem passes_tag {body : List Char} (hinert : Inert ('<' :: body))
    (hextent : ∀ ys, markupExtent ('<' :: (body ++ '>' :: ys)) =
      tagEnd ('<' :: (body ++ '>' :: ys))) :
    Passes ('<' :: (body ++ ['>'])) := by
  apply passes_markup
  intro ys
  have hend := tagEnd_inert hinert ys
  simp only [List.cons_append, List.append_assoc, List.nil_append] at hend ⊢
  rw [hextent, hend]
  simp

/-! ### Text whose every `<` is literal -/

theorem tagEnd_go_lt : ∀ {cs : List Char} {q : Option Char} {n k : Nat},
    tagEnd.go cs q n = some k → n < k
  | [], _, _, _, h => by simp [tagEnd.go] at h
  | c :: rest, none, n, k, h => by
    simp only [tagEnd.go] at h
    split at h
    · have := tagEnd_go_lt h
      omega
    · split at h
      · cases h
        omega
      · have := tagEnd_go_lt h
        omega
  | c :: rest, some q, n, k, h => by
    simp only [tagEnd.go] at h
    split at h
    · have := tagEnd_go_lt h
      omega
    · have := tagEnd_go_lt h
      omega

/-- Markup is never empty: it takes at least the `<` it starts at. -/
theorem markupExtent_pos {cs : List Char} {k : Nat} (h : markupExtent cs = some k) : 0 < k := by
  have hclosed : ∀ {openLen : Nat} {close rest : List Char}, 0 < openLen →
      (findSub close rest).map (fun j => openLen + j + close.length) = some k → 0 < k := by
    intro openLen close rest hopen hfound
    obtain ⟨j, -, rfl⟩ := Option.map_eq_some_iff.mp hfound
    omega
  unfold markupExtent at h
  dsimp only at h
  split at h
  · exact hclosed (by decide) h
  split at h
  · exact hclosed (by decide) h
  split at h
  · exact hclosed (by decide) h
  split at h
  · exact hclosed (by decide) h
  -- a tag: its extent is where its `>` is found
  split at h
  · split at h
    · exact tagEnd_go_lt h
    · cases h
  · cases h

/-- Markup at a `<` is the front of the text: its characters, then the rest. -/
theorem markupExtent_split {rest : List Char} {k : Nat} (hk : markupExtent ('<' :: rest) = some k) :
    ('<' :: rest).take k ++ rest.drop (k - 1) = '<' :: rest := by
  obtain ⟨k', rfl⟩ : ∃ k', k = k' + 1 := ⟨k - 1, by have := markupExtent_pos hk; omega⟩
  simp

theorem le_of_mem_literalsFrom {pos x : Nat} {cs : List Char} (h : x ∈ literalsFrom pos cs) :
    pos ≤ x := by
  fun_induction literalsFrom pos cs with
  | case1 => simp at h
  | case2 pos rest k hk ih =>
    have := ih h
    omega
  | case3 pos rest hk ih =>
    rcases List.mem_cons.mp h with rfl | h
    · exact Nat.le_refl _
    · have := ih h
      omega
  | case4 pos c rest hc ih =>
    have := ih h
    omega

/-- A `<` whose offset the scan lists as literal starts no markup: markup would have been
    jumped over, and every offset listed after it lies beyond it. -/
theorem markupExtent_eq_none_of_mem {pos : Nat} {rest : List Char}
    (h : pos ∈ literalsFrom pos ('<' :: rest)) : markupExtent ('<' :: rest) = none := by
  cases hm : markupExtent ('<' :: rest) with
  | none => rfl
  | some k =>
    rw [literalsFrom, if_pos rfl, hm] at h
    have hbeyond := le_of_mem_literalsFrom h
    obtain ⟨k', rfl⟩ : ∃ k', k = k' + 1 := ⟨k - 1, by have := markupExtent_pos hm; omega⟩
    rw [List.take_succ_cons, byteLength_cons, utf8Size_angle] at hbeyond
    omega

/-- Every `<` of `cs`, which starts at byte offset `pos`, is literal. -/
def AllLiteral (pos : Nat) (cs : List Char) : Prop :=
  ∀ pre rest, cs = pre ++ '<' :: rest → pos + byteLength pre ∈ literalsFrom pos cs

/-- A text whose every `<` is literal is cut at each `<`: the pieces are the stretches between
    them, none holding a `<`. -/
theorem piecesFrom_allLiteral {pos start : Nat} {acc cs : List Char} (hacc : '<' ∉ acc)
    (h : AllLiteral pos cs) :
    (piecesFrom pos start acc cs).map Prod.snd = (acc.reverse ++ cs).splitOn '<' ∧
      ∀ p ∈ piecesFrom pos start acc cs, '<' ∉ p.2 := by
  induction cs generalizing pos start acc with
  | nil =>
    have hrev : '<' ∉ acc.reverse := by simpa using hacc
    rw [piecesFrom, List.append_nil, List.splitOn_eq_singleton hrev]
    simpa using hrev
  | cons c rest ih =>
    by_cases hc : c = '<'
    · subst hc
      have hnone := markupExtent_eq_none_of_mem (by simpa [byteLength] using h [] rest rfl)
      have hlit : literalsFrom pos ('<' :: rest) = pos :: literalsFrom (pos + 1) rest := by
        rw [literalsFrom, if_pos rfl, hnone]
      -- past the `<` a new piece starts, and the later `<`s are literal still
      have hrest : AllLiteral (pos + 1) rest := by
        intro pre r hr
        have hmem := h ('<' :: pre) r (by rw [hr, List.cons_append])
        rw [hlit, byteLength_cons, List.mem_cons] at hmem
        rcases hmem with hmem | hmem
        · simp at hmem
        · simpa [Nat.add_assoc] using hmem
      obtain ⟨hsplit, hfree⟩ := @ih (pos + 1) (pos + 1) [] List.not_mem_nil hrest
      rw [piecesFrom, if_pos rfl, hnone]
      refine ⟨?_, ?_⟩
      · rw [List.map_cons, hsplit, List.splitOn_append_cons_self_of_not_mem (by simpa using hacc)]
        simp
      · intro p hp
        rcases List.mem_cons.mp hp with rfl | hp
        · simpa using hacc
        · exact hfree p hp
    · have hrest : AllLiteral (pos + c.utf8Size) rest := by
        intro pre r hr
        have hmem := h (c :: pre) r (by rw [hr, List.cons_append])
        rw [literalsFrom, if_neg hc, byteLength_cons] at hmem
        simpa [Nat.add_assoc] using hmem
      have hacc' : '<' ∉ c :: acc := by
        simp only [List.mem_cons, not_or]
        exact ⟨Ne.symm hc, hacc⟩
      obtain ⟨hsplit, hfree⟩ := @ih (pos + c.utf8Size) start (c :: acc) hacc' hrest
      rw [piecesFrom, if_neg hc]
      refine ⟨?_, hfree⟩
      rw [hsplit]
      simp

/-- Byte offsets of every `<` of `cs`, which starts at byte offset `pos`. -/
def anglesFrom (pos : Nat) : List Char → List Nat
  | [] => []
  | c :: rest =>
    if c = '<' then pos :: anglesFrom (pos + 1) rest else anglesFrom (pos + c.utf8Size) rest

theorem mem_anglesFrom {pos : Nat} {cs pre rest : List Char} (h : cs = pre ++ '<' :: rest) :
    pos + byteLength pre ∈ anglesFrom pos cs := by
  subst h
  induction pre generalizing pos with
  | nil => simp [anglesFrom, byteLength]
  | cons c more ih =>
    have hmore := @ih (pos + c.utf8Size)
    rw [byteLength_cons, ← Nat.add_assoc, List.cons_append, anglesFrom]
    split
    · next hc =>
      subst hc
      exact List.mem_cons_of_mem _ hmore
    · exact hmore

/-- The `<`s are all literal when the scan lists the offset of each. -/
theorem allLiteral_of_anglesFrom {pos : Nat} {cs : List Char}
    (h : ∀ x ∈ anglesFrom pos cs, x ∈ literalsFrom pos cs) : AllLiteral pos cs :=
  fun _ _ hcs => h _ (mem_anglesFrom hcs)

/-! ### Markup ends within itself

The end the scan finds for a piece of markup does not depend on what follows that end, so the
markup keeps its extent wherever its piece is cut off. -/

theorem tagEnd_go_le : ∀ {cs : List Char} {q : Option Char} {n k : Nat},
    tagEnd.go cs q n = some k → k ≤ n + cs.length
  | [], _, _, _, h => by simp [tagEnd.go] at h
  | c :: rest, none, n, k, h => by
    simp only [tagEnd.go] at h
    split at h
    · have := tagEnd_go_le h
      simp only [List.length_cons]
      omega
    · split at h
      · cases h
        simp
      · have := tagEnd_go_le h
        simp only [List.length_cons]
        omega
  | c :: rest, some q, n, k, h => by
    simp only [tagEnd.go] at h
    split at h
    · have := tagEnd_go_le h
      simp only [List.length_cons]
      omega
    · have := tagEnd_go_le h
      simp only [List.length_cons]
      omega

theorem tagEnd_go_succ : ∀ (cs : List Char) (q : Option Char) (n : Nat),
    tagEnd.go cs q (n + 1) = (tagEnd.go cs q n).map (· + 1)
  | [], _, _ => rfl
  | c :: rest, none, n => by
    simp only [tagEnd.go]
    split
    · exact tagEnd_go_succ rest _ (n + 1)
    · split
      · rfl
      · exact tagEnd_go_succ rest none (n + 1)
  | c :: rest, some q, n => by
    simp only [tagEnd.go]
    split
    · exact tagEnd_go_succ rest none (n + 1)
    · exact tagEnd_go_succ rest (some q) (n + 1)

/-- A character that neither opens a quote nor closes the tag moves its end by one. -/
theorem tagEnd_cons_plain {c : Char} (hdouble : c ≠ '"') (hsingle : c ≠ '\'') (hclose : c ≠ '>')
    (cs : List Char) : tagEnd (c :: cs) = (tagEnd cs).map (· + 1) := by
  simp only [tagEnd, tagEnd.go, hdouble, hsingle, hclose, decide_false, Bool.or_false,
    Bool.false_eq_true, if_false]
  exact tagEnd_go_succ cs none 0

/-- The search for the closing `>` stops there, whatever follows. -/
theorem tagEnd_go_take_append : ∀ {cs : List Char} {q : Option Char} {n k : Nat},
    tagEnd.go cs q n = some k → ∀ ys, tagEnd.go (cs.take (k - n) ++ ys) q n = some k
  | [], _, _, _, h, _ => by simp [tagEnd.go] at h
  | c :: rest, none, n, k, h, ys => by
    obtain ⟨m, hm⟩ : ∃ m, k - n = m + 1 := ⟨k - n - 1, by have := tagEnd_go_lt h; omega⟩
    rw [hm, List.take_succ_cons, List.cons_append]
    simp only [tagEnd.go] at h ⊢
    split
    · next hquote =>
      rw [if_pos hquote] at h
      have hrest := tagEnd_go_take_append h ys
      rwa [show k - (n + 1) = m by omega] at hrest
    · next hquote =>
      rw [if_neg hquote] at h
      split
      · next hclose =>
        rw [if_pos hclose] at h
        exact h
      · next hclose =>
        rw [if_neg hclose] at h
        have hrest := tagEnd_go_take_append h ys
        rwa [show k - (n + 1) = m by omega] at hrest
  | c :: rest, some q, n, k, h, ys => by
    obtain ⟨m, hm⟩ : ∃ m, k - n = m + 1 := ⟨k - n - 1, by have := tagEnd_go_lt h; omega⟩
    rw [hm, List.take_succ_cons, List.cons_append]
    simp only [tagEnd.go] at h ⊢
    split
    · next hclose =>
      rw [if_pos hclose] at h
      have hrest := tagEnd_go_take_append h ys
      rwa [show k - (n + 1) = m by omega] at hrest
    · next hclose =>
      rw [if_neg hclose] at h
      have hrest := tagEnd_go_take_append h ys
      rwa [show k - (n + 1) = m by omega] at hrest

theorem isPrefixOf_take_append : ∀ {p xs : List Char} {n : Nat} (ys : List Char),
    p.length ≤ n → n ≤ xs.length → p.isPrefixOf (xs.take n ++ ys) = p.isPrefixOf xs
  | [], _, _, _, _, _ => by simp [List.isPrefixOf]
  | _ :: _, [], n, _, hp, hn => by simp at hp hn; omega
  | _ :: _, _ :: _, 0, _, hp, _ => by simp at hp
  | a :: p, x :: xs, n + 1, ys, hp, hn => by
    simp only [List.take_succ_cons, List.cons_append, List.isPrefixOf]
    rw [isPrefixOf_take_append ys (by simp at hp; omega) (by simp at hn; omega)]

section FindSub

variable {p : List Char}

theorem findSub_of_isPrefixOf {cs : List Char} (h : p.isPrefixOf cs = true) :
    findSub p cs = some 0 := by
  cases cs with
  | nil =>
    cases p with
    | nil => rfl
    | cons => simp [List.isPrefixOf] at h
  | cons c rest => simp [findSub, h]

/-- The first occurrence of a pattern is found again when the text is cut off after it. -/
theorem findSub_take_append : ∀ {cs : List Char} {j : Nat}, findSub p cs = some j →
    j + p.length ≤ cs.length ∧ ∀ ys, findSub p (cs.take (j + p.length) ++ ys) = some j
  | [], j, h => by
    -- only the empty pattern is found in the empty text
    simp only [findSub] at h
    split at h
    · next hempty =>
      cases h
      have hnil : p = [] := List.isEmpty_iff.mp hempty
      subst hnil
      exact ⟨Nat.le_refl _, fun ys => findSub_of_isPrefixOf (by simp [List.isPrefixOf])⟩
    · cases h
  | c :: rest, j, h => by
    simp only [findSub] at h
    split at h
    · next hprefix =>
      cases h
      have hle : p.length ≤ (c :: rest).length := (List.isPrefixOf_iff_prefix.mp hprefix).length_le
      refine ⟨by simpa using hle, fun ys => findSub_of_isPrefixOf ?_⟩
      rw [Nat.zero_add, isPrefixOf_take_append ys (Nat.le_refl _) hle]
      exact hprefix
    · next hprefix =>
      obtain ⟨j', hj', rfl⟩ := Option.map_eq_some_iff.mp h
      obtain ⟨hlen, hrest⟩ := findSub_take_append hj'
      refine ⟨by simp only [List.length_cons]; omega, fun ys => ?_⟩
      have hnot : p.isPrefixOf ((c :: rest).take (j' + p.length + 1) ++ ys) = false := by
        rw [isPrefixOf_take_append ys (by omega) (by simp only [List.length_cons]; omega)]
        exact Bool.eq_false_iff.mpr hprefix
      rw [show j' + 1 + p.length = j' + p.length + 1 by omega]
      rw [List.take_succ_cons, List.cons_append] at hnot ⊢
      rw [findSub, if_neg (by simp [hnot]), hrest ys]
      rfl

/-- Where a pattern is found, the text is what comes before, the pattern and the rest. -/
theorem findSub_eq_some : ∀ {cs : List Char} {j : Nat}, findSub p cs = some j →
    ∃ pre post, cs = pre ++ p ++ post ∧ pre.length = j
  | [], j, h => by
    simp only [findSub] at h
    split at h
    · next hempty =>
      cases h
      exact ⟨[], [], by simp [List.isEmpty_iff.mp hempty], rfl⟩
    · cases h
  | c :: rest, j, h => by
    simp only [findSub] at h
    split at h
    · next hprefix =>
      cases h
      obtain ⟨post, hpost⟩ := List.isPrefixOf_iff_prefix.mp hprefix
      exact ⟨[], post, by simp [hpost], rfl⟩
    · obtain ⟨j', hj', rfl⟩ := Option.map_eq_some_iff.mp h
      obtain ⟨pre, post, hcs, hlen⟩ := findSub_eq_some hj'
      exact ⟨c :: pre, post, by simp [hcs], by simp [hlen]⟩

end FindSub

theorem markupExtent_query (r : List Char) :
    markupExtent ('<' :: '?' :: r) = (findSub ['?', '>'] r).map (· + 4) := by
  simp [markupExtent, List.isPrefixOf]
  congr 1
  funext j
  omega

/-- Markup that opens with no `!`: a processing instruction, closed by the first `?>` after its
    `<?`, or a tag (start or closing), closed where the tag ends. -/
theorem markupExtent_cases {rest : List Char} {k : Nat} (hbang : rest.head? ≠ some '!')
    (h : markupExtent ('<' :: rest) = some k) :
    (∃ r j, rest = '?' :: r ∧ findSub ['?', '>'] r = some j ∧ k = j + 4) ∨
      (tagEnd ('<' :: rest) = some k ∧
        ∃ c r, c.isAlpha = true ∧ (rest = c :: r ∨ rest = '/' :: c :: r)) := by
  cases rest with
  | nil => simp [markupExtent] at h
  | cons c r =>
    have hnot : c ≠ '!' := fun hc => hbang (by simp [hc])
    by_cases hquery : c = '?'
    · subst hquery
      rw [markupExtent_query] at h
      obtain ⟨j, hj, rfl⟩ := Option.map_eq_some_iff.mp h
      exact Or.inl ⟨r, j, rfl, hj, rfl⟩
    by_cases hslash : c = '/'
    · subst hslash
      cases r with
      | nil => simp [markupExtent] at h
      | cons d r =>
        cases hd : d.isAlpha with
        | true =>
          rw [markupExtent_close hd] at h
          exact Or.inr ⟨h, d, r, hd, Or.inr rfl⟩
        | false => simp [markupExtent, List.isPrefixOf, hd] at h
    cases hc : c.isAlpha with
    | true =>
      rw [markupExtent_start hc] at h
      exact Or.inr ⟨h, c, r, hc, Or.inl rfl⟩
    | false =>
      simp [markupExtent, List.isPrefixOf, hc, hquery, hslash, Ne.symm hnot] at h
      exact absurd h.1 hnot

/-- Markup found at a `<` keeps its extent when the text is cut off right after it. -/
theorem markupExtent_take {rest : List Char} {k : Nat} (hbang : rest.head? ≠ some '!')
    (h : markupExtent ('<' :: rest) = some k) :
    k ≤ rest.length + 1 ∧ ∀ zs, markupExtent ('<' :: (rest.take (k - 1) ++ zs)) = some k := by
  rcases markupExtent_cases hbang h with ⟨r, j, rfl, hj, rfl⟩ | ⟨htag, c, r, hc, hrest⟩
  · -- a processing instruction: its first `?>` is found again
    obtain ⟨hlen, hfound⟩ := findSub_take_append hj
    rw [show ['?', '>'].length = 2 from rfl] at hlen hfound
    refine ⟨by simp only [List.length_cons]; omega, fun zs => ?_⟩
    rw [show j + 4 - 1 = j + 2 + 1 by omega, List.take_succ_cons, List.cons_append,
      markupExtent_query, hfound zs]
    rfl
  · -- a tag: its closing `>` is found again, behind the same opening
    have hle := tagEnd_go_le htag
    have hfound := tagEnd_go_take_append htag
    refine ⟨by simp only [List.length_cons] at hle; omega, fun zs => ?_⟩
    have hcut := hfound zs
    rw [Nat.sub_zero] at hcut
    obtain ⟨a, hinner, rfl⟩ := Option.map_eq_some_iff.mp
      ((tagEnd_cons_plain (c := '<') (by decide) (by decide) (by decide) rest).symm.trans htag)
    rcases hrest with rfl | rfl
    · have hpos : 0 < a := tagEnd_go_lt hinner
      obtain ⟨b, rfl⟩ : ∃ b, a = b + 1 := ⟨a - 1, by omega⟩
      rw [Nat.add_sub_cancel, List.take_succ_cons, List.cons_append, markupExtent_start hc]
      simp only [List.take_succ_cons, List.cons_append] at hcut
      exact hcut
    · obtain ⟨b, hname, rfl⟩ := Option.map_eq_some_iff.mp
        ((tagEnd_cons_plain (c := '/') (by decide) (by decide) (by decide) (c :: r)).symm.trans
          hinner)
      have hpos : 0 < b := tagEnd_go_lt hname
      obtain ⟨n, rfl⟩ : ∃ n, b = n + 1 := ⟨b - 1, by omega⟩
      rw [Nat.add_sub_cancel, List.take_succ_cons, List.take_succ_cons, List.cons_append,
        List.cons_append, markupExtent_close hc]
      simp only [List.take_succ_cons, List.cons_append] at hcut
      exact hcut

/-! ### Pieces as the cut leaves them -/

/-- A piece as the cut leaves it: text without `<`, and markup that keeps its extent whatever
    follows it. -/
inductive Scanned : List Char → Prop
  | text {xs : List Char} (h : '<' ∉ xs) : Scanned xs
  | markup {xs m ys : List Char} (hxs : '<' ∉ xs)
      (hm : ∀ zs, markupExtent ('<' :: (m ++ zs)) = some (m.length + 1)) (hys : Scanned ys) :
      Scanned (xs ++ '<' :: (m ++ ys))

theorem Scanned.append {xs ys : List Char} (hx : Scanned xs) (hy : Scanned ys) :
    Scanned (xs ++ ys) := by
  induction hx with
  | text h =>
    cases hy with
    | text h' => exact .text (by simp [h, h'])
    | markup hxs hm hys =>
      rw [← List.append_assoc]
      exact .markup (by simp [h, hxs]) hm hys
  | markup hxs hm _ ih =>
    rw [List.append_assoc, List.cons_append, List.append_assoc]
    exact .markup hxs hm ih

/-- A text with no `<!` has none in any part of it. -/
theorem noBang_of_infix {xs ys : List Char} (h : xs <:+: ys)
    (hbang : ∀ pre rest, ys ≠ pre ++ '<' :: '!' :: rest) :
    ∀ pre rest, xs ≠ pre ++ '<' :: '!' :: rest := by
  intro pre rest hxs
  obtain ⟨front, back, hys⟩ := h
  exact hbang (front ++ pre) (rest ++ back) (by rw [← hys, hxs]; simp)

/-- Every piece of the cut is made of text and markup that ends within itself, and stands in
    the text: the characters collected so far, then the rest. -/
theorem piecesFrom_scanned {pos start : Nat} {acc cs : List Char} :
    Scanned acc.reverse → (∀ pre rest, cs ≠ pre ++ '<' :: '!' :: rest) →
      ∀ p ∈ piecesFrom pos start acc cs, Scanned p.2 ∧ p.2 <:+: acc.reverse ++ cs := by
  fun_induction piecesFrom pos start acc cs with
  | case1 pos start acc =>
    intro hacc _ p hp
    rw [List.mem_singleton] at hp
    subst hp
    exact ⟨hacc, by simp⟩
  | case2 pos start acc rest k hk taken ih =>
    intro hacc hbang p hp
    -- the markup joins the piece whole; the scan goes on after it
    have hhead : rest.head? ≠ some '!' := by
      intro h
      obtain ⟨r, rfl⟩ := List.head?_eq_some_iff.mp h
      exact hbang [] r rfl
    obtain ⟨hlen, hm⟩ := markupExtent_take hhead hk
    have hpos := markupExtent_pos hk
    have htaken : taken = '<' :: rest.take (k - 1) := by
      obtain ⟨k', rfl⟩ : ∃ k', k = k' + 1 := ⟨k - 1, by omega⟩
      simp [taken]
    have hchunk : Scanned taken := by
      rw [htaken, ← List.nil_append ('<' :: _), ← List.append_nil (rest.take (k - 1))]
      refine .markup (by simp) (fun zs => ?_) (.text (by simp))
      rw [List.length_take, Nat.min_eq_left (by omega), Nat.sub_add_cancel hpos]
      exact hm zs
    have hrest : ∀ pre r, rest.drop (k - 1) ≠ pre ++ '<' :: '!' :: r :=
      noBang_of_infix (List.drop_suffix _ _).isInfix
        (fun pre r h => hbang ('<' :: pre) r (by rw [h]; rfl))
    have hacc' : Scanned (taken.reverse ++ acc).reverse := by
      rw [List.reverse_append, List.reverse_reverse]
      exact hacc.append hchunk
    obtain ⟨hscanned, hinfix⟩ := ih hacc' hrest p hp
    refine ⟨hscanned, ?_⟩
    rw [List.reverse_append, List.reverse_reverse, List.append_assoc, htaken, List.cons_append,
      List.take_append_drop] at hinfix
    exact hinfix
  | case3 pos start acc rest hk ih =>
    intro hacc hbang p hp
    rcases List.mem_cons.mp hp with rfl | hp
    · exact ⟨hacc, List.prefix_append _ _ |>.isInfix⟩
    · have hrest := noBang_of_infix (List.suffix_cons _ _).isInfix hbang
      obtain ⟨hscanned, hinfix⟩ := ih (.text (by simp)) hrest p hp
      refine ⟨hscanned, hinfix.trans ?_⟩
      simp only [List.reverse_nil, List.nil_append]
      exact ((List.suffix_cons _ _).trans (List.suffix_append _ _)).isInfix
  | case4 pos start acc c rest hc ih =>
    intro hacc hbang p hp
    have hrest := noBang_of_infix (List.suffix_cons _ _).isInfix hbang
    have hacc' : Scanned (c :: acc).reverse := by
      rw [List.reverse_cons]
      exact hacc.append (.text (by simp [Ne.symm hc]))
    obtain ⟨hscanned, hinfix⟩ := ih hacc' hrest p hp
    refine ⟨hscanned, ?_⟩
    simpa using hinfix

/-- The pieces of a text with no `<!` are made of text and markup that ends within itself,
    and each stands in the text. -/
theorem pieces_scanned {s : String} (hbang : ∀ pre rest, s.toList ≠ pre ++ '<' :: '!' :: rest) :
    ∀ p ∈ pieces s, Scanned p.2 ∧ p.2 <:+: s.toList := by
  intro p hp
  simpa using piecesFrom_scanned (.text (by simp)) hbang p hp

theorem Scanned.of_cons {c : Char} {cs : List Char} (hc : c ≠ '<') (h : Scanned (c :: cs)) :
    Scanned cs := by
  generalize hl : c :: cs = l at h
  cases h with
  | text h =>
    subst hl
    exact .text fun hmem => h (List.mem_cons_of_mem _ hmem)
  | @markup xs m ys hxs hm hys =>
    cases xs with
    | nil =>
      simp only [List.nil_append, List.cons.injEq] at hl
      exact absurd hl.1 hc
    | cons d xs =>
      simp only [List.cons_append, List.cons.injEq] at hl
      obtain ⟨rfl, rfl⟩ := hl
      exact .markup (fun hmem => hxs (List.mem_cons_of_mem _ hmem)) hm hys

/-- The first piece of the cut starts with the characters collected so far. -/
theorem piecesFrom_head (pos start : Nat) (acc cs : List Char) :
    ∃ more rest, piecesFrom pos start acc cs = (start, acc.reverse ++ more) :: rest := by
  fun_induction piecesFrom pos start acc cs with
  | case1 pos start acc => exact ⟨[], [], by simp⟩
  | case2 pos start acc rest k hk taken ih =>
    obtain ⟨more, rest, h⟩ := ih
    exact ⟨taken ++ more, rest, by rw [h]; simp⟩
  | case3 pos start acc rest hk ih =>
    exact ⟨[], piecesFrom (pos + 1) (pos + 1) [] rest, by simp⟩
  | case4 pos start acc c rest hc ih =>
    obtain ⟨more, rest, h⟩ := ih
    exact ⟨c :: more, rest, by rw [h]; simp⟩

/-- A pattern that occurs is found. -/
theorem findSub_isSome {p : List Char} : ∀ {pre post : List Char},
    ∃ j, findSub p (pre ++ p ++ post) = some j
  | [], post => ⟨0, findSub_of_isPrefixOf (List.isPrefixOf_iff_prefix.mpr (List.prefix_append _ _))⟩
  | c :: pre, post => by
    obtain ⟨j, hj⟩ := @findSub_isSome p pre post
    simp only [List.cons_append, findSub]
    split
    · exact ⟨0, rfl⟩
    · exact ⟨j + 1, by rw [hj]; rfl⟩

end Angle

end Tagweave
