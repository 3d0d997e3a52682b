import Mathlib
import Tagweave.Proofs.ByteOffsets
import Tagweave.Proofs.LiteralText

namespace Tagweave

namespace Angle

/-!
# The scan for literal `<`s, on byte offsets

`Angle.literals` scans the characters of a text and counts bytes as it goes. The same scan can
be carried out on byte offsets alone: cut the text at the current offset, find the next `<`,
cut there and measure the markup it starts in bytes — the end of a tag by a loop over its
bytes that tracks quotes byte by byte, the other markup by the offset of its closing sequence —
then jump over the markup, or list the `<` and go on one byte after it. Every cut is possible
only at a character boundary; the scan fails (`none`) if one is not.

* `Angle.tagEndBytes_utf8`: over the UTF-8 bytes of a tag, the byte loop ends just past the
  `>` where the character scan `Angle.tagEnd` ends. A byte of a character above U+007F is
  never a quote or `>`, nor the byte of an open quote.
* `Angle.markupBytes?_angle`: at a `<`, measuring markup by bytes never fails and gives the
  byte length of `Angle.markupExtent`'s characters.
* `Angle.byteLiterals?_eq`: the byte-offset scan terminates, since every jump moves forward,
  never cuts off a character boundary, and lists exactly `Angle.literals`.
* `Angle.spans?_literals`: cutting the text into the spans between those offsets never fails
  and gives `Angle.pieces`; with the literal `<`s between them the spans make up the text in
  order (`Angle.intercalate_pieces`).
-/

/-! ### The end of a tag, over bytes -/

/-- The end of a tag found over its bytes: the offset just past the first `>` outside a quoted
    stretch, which a `"` or `'` byte opens and the same byte closes. -/
def tagEndBytes (bytes : List UInt8) : Option Nat := go bytes none 0
where
  /-- Scan from offset `i`, inside the quote opened by byte `q` if there is one. -/
  go : List UInt8 → Option UInt8 → Nat → Option Nat
    | [], _, _ => none
    | b :: rest, none, i =>
      if b = '"'.toUInt8 || b = '\''.toUInt8 then go rest (some b) (i + 1)
      else if b = '>'.toUInt8 then some (i + 1)
      else go rest none (i + 1)
    | b :: rest, some q, i => if q = b then go rest none (i + 1) else go rest (some q) (i + 1)

/-- Two characters below U+0080 have the same byte exactly when they are equal. -/
theorem toUInt8_eq_toUInt8 {c d : Char} (hc : c.utf8Size = 1) (hd : d.utf8Size = 1) :
    c.toUInt8 = d.toUInt8 ↔ c = d := by
  refine ⟨fun h => ?_, fun h => h ▸ rfl⟩
  have hc' := UInt32.le_iff_toNat_le.mp (Char.utf8Size_eq_one_iff.mp hc)
  have hd' := UInt32.le_iff_toNat_le.mp (Char.utf8Size_eq_one_iff.mp hd)
  have hbytes := congrArg UInt8.toNat h
  simp only [← Char.toUInt8_val, UInt32.toNat_toUInt8] at hbytes
  apply Char.ext
  apply UInt32.toNat_inj.mp
  simp only [UInt32.reduceToNat] at hc' hd'
  omega

/-- The byte of a character below U+0080 is below 0x80. -/
theorem toUInt8_lt {c : Char} (hc : c.utf8Size = 1) : c.toUInt8 < 0x80 := by
  have hc' := UInt32.le_iff_toNat_le.mp (Char.utf8Size_eq_one_iff.mp hc)
  simp only [UInt32.reduceToNat] at hc'
  rw [UInt8.lt_iff_toNat_lt, ← Char.toUInt8_val, UInt32.toNat_toUInt8]
  simp only [UInt8.reduceToNat]
  omega

/-- Bytes of at least 0x80 are passed over in any state the loop can be in. -/
theorem tagEndBytes_go_high {bs : List UInt8} (hbs : ∀ b ∈ bs, 0x80 ≤ b) {q : Option UInt8}
    (hq : ∀ x ∈ q, x < 0x80) (rest : List UInt8) (i : Nat) :
    tagEndBytes.go (bs ++ rest) q i = tagEndBytes.go rest q (i + bs.length) := by
  induction bs generalizing i with
  | nil => rfl
  | cons b bs ih =>
    have hb : 0x80 ≤ b := hbs b (by simp)
    have hrest := ih fun x hx => hbs x (by simp [hx])
    -- the byte is no quote, no `>`, and not the byte of the open quote
    have hne : ∀ {x : UInt8}, x < 0x80 → b ≠ x := fun hx hbx =>
      absurd (hbx ▸ hb) (UInt8.not_le.mpr hx)
    rw [List.cons_append, List.length_cons]
    cases q with
    | none =>
      simp only [tagEndBytes.go, hne (by decide : '"'.toUInt8 < 0x80),
        hne (by decide : '\''.toUInt8 < 0x80), hne (by decide : '>'.toUInt8 < 0x80),
        decide_false, Bool.or_false, Bool.false_eq_true, if_false]
      rw [hrest, Nat.add_assoc, Nat.add_comm 1]
    | some x =>
      have hx : x ≠ b := (hne (hq x rfl)).symm
      simp only [tagEndBytes.go, hx, if_false]
      rw [hrest, Nat.add_assoc, Nat.add_comm 1]

/-- The byte loop over the encoding of a tag follows the character scan: inside the same quote,
    it ends at the byte offset of the characters the character scan ends after. -/
theorem tagEndBytes_go_utf8 (cs : List Char) (q : Option Char) (hq : ∀ c ∈ q, c.utf8Size = 1)
    (i : Nat) :
    tagEndBytes.go (utf8 cs) (q.map Char.toUInt8) i =
      (tagEnd.go cs q 0).map fun k => i + byteLength (cs.take k) := by
  induction cs generalizing q i with
  | nil => cases q <;> rfl
  | cons c cs ih =>
    -- the character scan moves one character on; count it in bytes
    have hstep : ∀ q' : Option Char, (∀ c ∈ q', c.utf8Size = 1) →
        tagEndBytes.go (utf8 cs) (q'.map Char.toUInt8) (i + c.utf8Size) =
          (tagEnd.go cs q' 1).map fun k => i + byteLength ((c :: cs).take k) := by
      intro q' hq'
      rw [ih q' hq', tagEnd_go_succ, Option.map_map]
      congr 1
      funext k
      simp [byteLength_cons, Nat.add_assoc]
    by_cases hc : c.utf8Size = 1
    · rw [utf8_cons, String.utf8EncodeChar_eq_singleton hc, Char.toUInt8_val, List.singleton_append]
      rw [hc] at hstep
      have hbyte : ∀ d : Char, d.utf8Size = 1 → (c.toUInt8 = d.toUInt8 ↔ c = d) :=
        fun d hd => toUInt8_eq_toUInt8 hc hd
      cases q with
      | none =>
        simp only [Option.map_none, tagEndBytes.go, tagEnd.go, Nat.zero_add, hbyte '"' rfl,
          hbyte '\'' rfl, hbyte '>' rfl]
        split
        · exact hstep (some c) (by simpa using hc)
        · split
          · simp [byteLength_cons, hc]
          · exact hstep none (by simp)
      | some q =>
        have hsame : q.toUInt8 = c.toUInt8 ↔ c = q := eq_comm.trans (hbyte q (hq q rfl))
        simp only [Option.map_some, tagEndBytes.go, tagEnd.go, Nat.zero_add, hsame]
        split
        · exact hstep none (by simp)
        · exact hstep (some q) hq
    · -- a character above U+007F: none of its bytes is a quote, a `>` or the open quote
      have hhigh := fun b (hb : b ∈ String.utf8EncodeChar c) => le_of_mem_utf8EncodeChar hc hb
      have hquote : ∀ x ∈ q.map Char.toUInt8, x < 0x80 := by
        intro x hx
        obtain ⟨d, hd, rfl⟩ := Option.mem_map.mp hx
        exact toUInt8_lt (hq d hd)
      rw [utf8_cons, tagEndBytes_go_high hhigh hquote, String.length_utf8EncodeChar]
      have hplain : ∀ d : Char, d.utf8Size = 1 → c ≠ d := fun d hd h => hc (h ▸ hd)
      cases q with
      | none =>
        simp only [tagEnd.go, hplain '"' rfl, hplain '\'' rfl, hplain '>' rfl, decide_false,
          Bool.or_false, Bool.false_eq_true, if_false]
        exact hstep none (by simp)
      | some q =>
        simp only [tagEnd.go, hplain q (hq q rfl), if_false]
        exact hstep (some q) hq

/-- Over the UTF-8 bytes of a text, the byte loop ends just past the `>` where the character scan
    for the end of a tag ends. -/
theorem tagEndBytes_utf8 (cs : List Char) :
    tagEndBytes (utf8 cs) = (tagEnd cs).map fun k => byteLength (cs.take k) := by
  have h := tagEndBytes_go_utf8 cs none (by simp) 0
  simp only [Option.map_none, Nat.zero_add] at h
  exact h

/-! ### Markup, measured in bytes -/

/-- The byte length of markup that `rest` opens with `opening` and that ends with the first
    `close` after the opening: `some none` when no `close` follows, `none` when the cut after
    the opening falls off a character boundary. -/
def closedBytes? (rest opening close : List Char) : Option (Option Nat) :=
  (dropBytes? rest (byteLength opening)).map fun body =>
    (findBytes? close body).map fun e => byteLength opening + e + byteLength close

/-- The byte length of the terminated markup that `rest` (which starts with `<`) starts with,
    found by cutting it at byte offsets: `some none` when it starts none, and `none` when a cut
    falls off a character boundary. -/
def markupBytes? (rest : List Char) : Option (Option Nat) := do
  let after ← dropBytes? rest 1
  if "!--".toList.isPrefixOf after then closedBytes? rest "<!--".toList "-->".toList
  else if "![CDATA[".toList.isPrefixOf after then closedBytes? rest "<![CDATA[".toList "]]>".toList
  else if after.head? = some '?' then closedBytes? rest "<?".toList "?>".toList
  else if after.head? = some '!' then closedBytes? rest "<!".toList ">".toList
  else
    let name := match after with
      | '/' :: r => r
      | r => r
    match name with
    | c :: _ => if c.isAlpha then some (tagEndBytes (utf8 rest)) else some none
    | [] => some none

/-- Markup opened by a prefix of the text is measured without fail: the byte length of the
    characters up to its first `close`. -/
theorem closedBytes?_opened {opening cs : List Char} (h : opening <+: cs) (close : List Char) :
    closedBytes? cs opening close =
      some ((findSub close (cs.drop opening.length)).map fun j =>
        byteLength (cs.take (opening.length + j + close.length))) := by
  obtain ⟨r, rfl⟩ := h
  rw [closedBytes?, dropBytes?_append, Option.map_some, List.drop_left, findBytes?,
    Option.map_map]
  congr 1
  cases hj : findSub close r with
  | none => rfl
  | some j =>
    -- the text is the opening, what precedes the close, the close and the rest
    obtain ⟨pre, post, rfl, rfl⟩ := findSub_eq_some hj
    have htake : (opening ++ (pre ++ close ++ post)).take
        (opening.length + pre.length + close.length) = opening ++ pre ++ close := by
      rw [show opening ++ (pre ++ close ++ post) = (opening ++ pre ++ close) ++ post by simp]
      exact List.take_left' (by simp [Nat.add_assoc])
    have hpre : (pre ++ close ++ post).take pre.length = pre := by
      rw [List.append_assoc]
      exact List.take_left' rfl
    simp only [Option.map_some, Function.comp_apply, hpre, htake, byteLength_append]

/-- Markup measured by its closing sequence takes at least its opening and that sequence. -/
theorem closedBytes?_ge {rest opening close : List Char} {len : Nat}
    (h : closedBytes? rest opening close = some (some len)) :
    byteLength opening + byteLength close ≤ len := by
  obtain ⟨body, -, hbody⟩ := Option.map_eq_some_iff.mp h
  obtain ⟨e, -, rfl⟩ := Option.map_eq_some_iff.mp hbody
  omega

/-- Markup that the text opens with `'<' :: o` is measured without fail, by the byte length of
    its characters up to the first `close` after the opening. -/
private theorem closedBytes?_angle {o rest : List Char} (h : o.isPrefixOf rest = true)
    (close : List Char) :
    closedBytes? ('<' :: rest) ('<' :: o) close =
      some (((findSub close (rest.drop o.length)).map fun j => (o.length + 1) + j + close.length).map
        fun k => byteLength (('<' :: rest).take k)) := by
  have hprefix : '<' :: o <+: '<' :: rest :=
    List.cons_prefix_cons.mpr ⟨rfl, List.isPrefixOf_iff_prefix.mp h⟩
  rw [closedBytes?_opened hprefix, Option.map_map]
  rfl

/-- At a `<`, measuring markup by bytes never fails, and gives the byte length of the
    characters `Angle.markupExtent` counts. -/
theorem markupBytes?_angle (rest : List Char) :
    markupBytes? ('<' :: rest) =
      some ((markupExtent ('<' :: rest)).map fun k => byteLength (('<' :: rest).take k)) := by
  have hafter : dropBytes? ('<' :: rest) 1 = some rest := dropBytes?_append ['<'] rest
  -- a `?` or `!` right after the `<` opens the text
  have hhead : ∀ {c : Char}, rest.head? = some c → [c].isPrefixOf rest = true := by
    intro c hc
    obtain ⟨r, rfl⟩ := List.head?_eq_some_iff.mp hc
    simp [List.isPrefixOf]
  unfold markupBytes? markupExtent
  simp only [hafter, Option.bind_eq_bind, Option.bind_some, List.drop_succ_cons, List.drop_zero]
  split_ifs with hcomment hcdata hquery hbang
  · exact closedBytes?_angle hcomment _
  · exact closedBytes?_angle hcdata _
  · exact closedBytes?_angle (hhead hquery) _
  · exact closedBytes?_angle (hhead hbang) _
  · -- a tag, when a letter follows the `<` or its `/`: its end is found over its bytes
    rcases rest with _ | ⟨d, r⟩
    · rfl
    · by_cases hslash : d = '/'
      · subst hslash
        rcases r with _ | ⟨c, t⟩
        · rfl
        · simp only []
          split_ifs
          · rw [tagEndBytes_utf8]
          · rfl
      · simp [hslash, -utf8_cons]
        split_ifs
        · rw [tagEndBytes_utf8]
        · rfl

theorem tagEndBytes_go_pos : ∀ {bs : List UInt8} {q : Option UInt8} {i k : Nat},
    tagEndBytes.go bs q i = some k → i < k
  | [], _, _, _, h => by simp [tagEndBytes.go] at h
  | b :: rest, none, i, k, h => by
    simp only [tagEndBytes.go] at h
    split at h
    · have := tagEndBytes_go_pos h
      omega
    · split at h
      · cases h
        omega
      · have := tagEndBytes_go_pos h
        omega
  | b :: rest, some q, i, k, h => by
    simp only [tagEndBytes.go] at h
    split at h
    · have := tagEndBytes_go_pos h
      omega
    · have := tagEndBytes_go_pos h
      omega

/-- Markup takes at least one byte, so the scan that jumps over it moves forward. -/
theorem markupBytes?_pos {rest : List Char} {len : Nat} (h : markupBytes? rest = some (some len)) :
    0 < len := by
  unfold markupBytes? at h
  cases hafter : dropBytes? rest 1 with
  | none => simp only [hafter, Option.bind_eq_bind, Option.bind_none, reduceCtorEq] at h
  | some after =>
    simp only [hafter, Option.bind_eq_bind, Option.bind_some] at h
    split_ifs at h
    · exact lt_of_lt_of_le (by decide) (closedBytes?_ge h)
    · exact lt_of_lt_of_le (by decide) (closedBytes?_ge h)
    · exact lt_of_lt_of_le (by decide) (closedBytes?_ge h)
    · exact lt_of_lt_of_le (by decide) (closedBytes?_ge h)
    · -- a tag ends after its `>`
      split at h
      · split_ifs at h
        · exact tagEndBytes_go_pos (Option.some_injective _ h)
        · cases h
      · cases h

/-- Markup at a `<` takes at least two bytes: the `<` and the byte that ends it. -/
theorem markupBytes?_angle_two {rest : List Char} {len : Nat}
    (h : markupBytes? ('<' :: rest) = some (some len)) : 2 ≤ len := by
  have hafter : dropBytes? ('<' :: rest) 1 = some rest := dropBytes?_append ['<'] rest
  unfold markupBytes? at h
  simp only [hafter, Option.bind_eq_bind, Option.bind_some] at h
  split_ifs at h
  · exact le_trans (by decide) (closedBytes?_ge h)
  · exact le_trans (by decide) (closedBytes?_ge h)
  · exact le_trans (by decide) (closedBytes?_ge h)
  · exact le_trans (by decide) (closedBytes?_ge h)
  · -- a tag: its `<` is neither a quote nor `>`, so the loop goes on past byte 0
    have hstep : tagEndBytes (utf8 ('<' :: rest)) = tagEndBytes.go (utf8 rest) none 1 := rfl
    split at h
    · split_ifs at h
      · rw [hstep] at h
        exact tagEndBytes_go_pos (Option.some_injective _ h)
      · cases h
    · cases h

/-- At a `<`, measuring markup in bytes never fails, and markup it finds takes at least two
    bytes and ends on a character boundary. -/
theorem markupBytes?_angle_cut (rest : List Char) :
    ∃ m, markupBytes? ('<' :: rest) = some m ∧
      ∀ len ∈ m, 2 ≤ len ∧ ∃ post, dropBytes? ('<' :: rest) len = some post := by
  refine ⟨_, markupBytes?_angle rest, fun len hlen => ⟨@markupBytes?_angle_two rest len ?_, ?_⟩⟩
  · rw [markupBytes?_angle, Option.mem_def.mp hlen]
  · obtain ⟨k, -, rfl⟩ := Option.map_eq_some_iff.mp hlen
    have hcut := dropBytes?_append (('<' :: rest).take k) (('<' :: rest).drop k)
    rw [List.take_append_drop] at hcut
    exact ⟨_, hcut⟩

/-! ### The scan -/

/-- A character found after a cut lies before the end of the text. -/
theorem lt_byteLength_of_found {input r : List Char} {pos found : Nat} {p : Char → Bool}
    (hr : dropBytes? input pos = some r) (hf : findCharBytes? p r = some found) :
    pos + found < byteLength input := by
  obtain ⟨pre, rfl, rfl⟩ := dropBytes?_eq_some.mp hr
  obtain ⟨mid, c, post, rfl, -, rfl⟩ := findCharBytes?_eq_some hf
  have := c.utf8Size_pos
  rw [byteLength_append, byteLength_append, byteLength_cons]
  omega

set_option linter.unusedVariables false in
/-- The byte offsets of the literal `<`s of `input` from byte offset `pos` on, found by cutting
    the text: cut at `pos`, find the next `<`, cut there and measure the markup it starts; jump
    over the markup, or list the `<` and go on one byte after it. None when a cut falls off a
    character boundary. Each jump moves forward by at least a byte (`markupBytes?_pos`). -/
def byteLiteralsFrom? (input : List Char) (pos : Nat) : Option (List Nat) :=
  match hr : dropBytes? input pos with
  | none => none
  | some r =>
    match hf : findCharBytes? (· == '<') r with
    | none => some []
    | some found =>
      match dropBytes? input (pos + found) with
      | none => none
      | some rest =>
        match hm : markupBytes? rest with
        | none => none
        | some (some len) => byteLiteralsFrom? input (pos + found + len)
        | some none => (byteLiteralsFrom? input (pos + found + 1)).map ((pos + found) :: ·)
termination_by byteLength input - pos
decreasing_by
  · have hfound := lt_byteLength_of_found hr hf
    have hlen := markupBytes?_pos hm
    omega
  · have hfound := lt_byteLength_of_found hr hf
    omega

/-- The byte offsets of the literal `<`s of a text, found by cutting it at byte offsets. -/
def byteLiterals? (input : List Char) : Option (List Nat) := byteLiteralsFrom? input 0

/-- No `<` after the cut: the scan ends. -/
theorem byteLiteralsFrom?_done {input r : List Char} {pos : Nat}
    (hr : dropBytes? input pos = some r) (hf : findCharBytes? (· == '<') r = none) :
    byteLiteralsFrom? input pos = some [] := by
  rw [byteLiteralsFrom?]
  split
  · simp_all
  · split
    · rfl
    · simp_all

/-- A `<` found after the cut: what the scan does next depends on the markup it starts. -/
theorem byteLiteralsFrom?_found {input r rest : List Char} {pos found : Nat}
    (hr : dropBytes? input pos = some r) (hf : findCharBytes? (· == '<') r = some found)
    (hrest : dropBytes? input (pos + found) = some rest) :
    byteLiteralsFrom? input pos = (markupBytes? rest).bind fun m =>
      m.elim ((byteLiteralsFrom? input (pos + found + 1)).map ((pos + found) :: ·))
        fun len => byteLiteralsFrom? input (pos + found + len) := by
  rw [byteLiteralsFrom?]
  split
  · simp_all
  · next r' hr' =>
    obtain rfl : r' = r := Option.some_injective _ (hr'.symm.trans hr)
    split
    · simp_all
    · next found' hf' =>
      obtain rfl : found' = found := Option.some_injective _ (hf'.symm.trans hf)
      simp only [hrest]
      split <;> simp_all

/-- A `<` that starts markup: the scan jumps over the markup. -/
theorem byteLiteralsFrom?_markup {input r rest : List Char} {pos found len : Nat}
    (hr : dropBytes? input pos = some r) (hf : findCharBytes? (· == '<') r = some found)
    (hrest : dropBytes? input (pos + found) = some rest) (hm : markupBytes? rest = some (some len)) :
    byteLiteralsFrom? input pos = byteLiteralsFrom? input (pos + found + len) := by
  rw [byteLiteralsFrom?_found hr hf hrest, hm]
  rfl

/-- A `<` that starts no markup: the scan lists it and goes on after it. -/
theorem byteLiteralsFrom?_literal {input r rest : List Char} {pos found : Nat}
    (hr : dropBytes? input pos = some r) (hf : findCharBytes? (· == '<') r = some found)
    (hrest : dropBytes? input (pos + found) = some rest) (hm : markupBytes? rest = some none) :
    byteLiteralsFrom? input pos =
      (byteLiteralsFrom? input (pos + found + 1)).map ((pos + found) :: ·) := by
  rw [byteLiteralsFrom?_found hr hf hrest, hm]
  rfl

/-- Characters other than `<` are no `<` to the search. -/
private theorem not_angle {mid : List Char} (hmid : '<' ∉ mid) : ∀ c ∈ mid, (c == '<') = false :=
  fun _ hc => beq_eq_false_iff_ne.mpr fun h => hmid (h ▸ hc)

/-- Cut at the byte length of a prefix, the scan finds the `<` that ends a stretch without `<`,
    and cuts again right before it. -/
private theorem found_angle {input pre mid rest : List Char}
    (hinput : input = pre ++ mid ++ '<' :: rest) (hmid : '<' ∉ mid) :
    dropBytes? input (byteLength pre) = some (mid ++ '<' :: rest) ∧
      findCharBytes? (· == '<') (mid ++ '<' :: rest) = some (byteLength mid) ∧
      dropBytes? input (byteLength pre + byteLength mid) = some ('<' :: rest) := by
  subst hinput
  refine ⟨?_, ?_, ?_⟩
  · rw [List.append_assoc]
    exact dropBytes?_append pre _
  · rw [findCharBytes?_append (not_angle hmid), findCharBytes?_cons_of_pos (by rfl)]
    rfl
  · rw [← byteLength_append]
    exact dropBytes?_append (pre ++ mid) _

/-- The byte-offset scan lists what the character scan lists. It starts at the byte length of a
    prefix `pre`, the character scan at the characters `cs` after it and a stretch `mid` without
    `<` that the byte-offset scan's search passes over. -/
theorem byteLiteralsFrom?_literalsFrom {input : List Char} {pos : Nat} {cs : List Char} :
    ∀ pre mid, input = pre ++ mid ++ cs → '<' ∉ mid → byteLength pre + byteLength mid = pos →
      byteLiteralsFrom? input (byteLength pre) = some (literalsFrom pos cs) := by
  fun_induction literalsFrom pos cs with
  | case1 pos =>
    -- no `<` is left: the search finds none
    intro pre mid hinput hmid _
    apply byteLiteralsFrom?_done (r := mid)
    · rw [hinput, List.append_nil]
      exact dropBytes?_append pre mid
    · rw [← List.append_nil mid, findCharBytes?_append (not_angle hmid)]
      rfl
  | case2 pos rest k hk ih =>
    -- markup: both scans jump over its characters
    intro pre mid hinput hmid hpos
    obtain ⟨hr, hf, hrest⟩ := found_angle hinput hmid
    have hm : markupBytes? ('<' :: rest) = some (some (byteLength (('<' :: rest).take k))) := by
      rw [markupBytes?_angle, hk]
      rfl
    have hsplit := (markupExtent_split hk).symm
    rw [byteLiteralsFrom?_markup hr hf hrest hm, ← byteLength_append, ← byteLength_append]
    exact ih (pre ++ mid ++ ('<' :: rest).take k) []
      (by rw [hinput, List.append_nil, List.append_assoc (pre ++ mid), ← hsplit]) (by simp)
      (by simp only [byteLength_append, byteLength_nil]; omega)
  | case3 pos rest hk ih =>
    -- a literal `<`: both scans list it and go on after it
    intro pre mid hinput hmid hpos
    obtain ⟨hr, hf, hrest⟩ := found_angle hinput hmid
    have hm : markupBytes? ('<' :: rest) = some none := by
      rw [markupBytes?_angle, hk]
      rfl
    rw [byteLiteralsFrom?_literal hr hf hrest hm, hpos]
    have hnext := ih (pre ++ mid ++ ['<']) [] (by rw [hinput]; simp) (by simp)
      (by simp only [byteLength_append, byteLength_nil, byteLength_cons]; simp; omega)
    rw [byteLength_append, byteLength_append, hpos, show byteLength ['<'] = 1 from rfl] at hnext
    rw [hnext]
    rfl
  | case4 pos c rest hc ih =>
    -- another character: the search passes over it
    intro pre mid hinput hmid hpos
    exact ih pre (mid ++ [c]) (by rw [hinput]; simp) (by simp [hmid, Ne.symm hc])
      (by rw [byteLength_append, byteLength_cons, byteLength_nil]; omega)

/-- The scan of a text on byte offsets never cuts off a character boundary, and lists exactly the
    literal `<`s of the character scan. -/
theorem byteLiterals?_eq (s : String) : byteLiterals? s.toList = some (literals s) :=
  byteLiteralsFrom?_literalsFrom [] [] rfl List.not_mem_nil rfl

/-! ### What the scan lists -/

/-- The offsets the scan lists increase strictly: after a literal `<` it goes on past it. -/
theorem literalsFrom_pairwise (pos : Nat) (cs : List Char) :
    (literalsFrom pos cs).Pairwise (· < ·) := by
  fun_induction literalsFrom pos cs with
  | case1 => exact List.Pairwise.nil
  | case2 pos rest k hk ih => exact ih
  | case3 pos rest hk ih =>
    refine List.pairwise_cons.mpr ⟨fun x hx => ?_, ih⟩
    have := le_of_mem_literalsFrom hx
    omega
  | case4 pos c rest hc ih => exact ih

/-- Each offset the scan lists is the byte offset of a `<` of the text. -/
theorem mem_literalsFrom {pos x : Nat} {cs : List Char} (h : x ∈ literalsFrom pos cs) :
    ∃ pre post, cs = pre ++ '<' :: post ∧ pos + byteLength pre = x := by
  fun_induction literalsFrom pos cs with
  | case1 => simp at h
  | case2 pos rest k hk ih =>
    -- found past the markup, which the scan jumped over
    obtain ⟨pre, post, hrest, rfl⟩ := ih h
    refine ⟨('<' :: rest).take k ++ pre, post, ?_, by rw [byteLength_append, Nat.add_assoc]⟩
    rw [List.append_assoc, ← hrest, markupExtent_split hk]
  | case3 pos rest hk ih =>
    rcases List.mem_cons.mp h with rfl | h
    · exact ⟨[], rest, rfl, rfl⟩
    · obtain ⟨pre, post, rfl, rfl⟩ := ih h
      exact ⟨'<' :: pre, post, rfl, by rw [byteLength_cons, utf8Size_angle, Nat.add_assoc]⟩
  | case4 pos c rest hc ih =>
    obtain ⟨pre, post, rfl, rfl⟩ := ih h
    exact ⟨c :: pre, post, rfl, by rw [byteLength_cons, Nat.add_assoc]⟩

/-! ### The spans between literal `<`s -/

/-- The spans of `input` between the literal `<`s at the byte offsets `literals`, from byte
    `start` on, each with its byte offset: the text from `start` up to the next literal `<`, and
    after the last one the rest of the text. None when a cut falls off a character boundary or
    an offset lies before `start`. -/
def spansFrom? (input : List Char) (start : Nat) : List Nat → Option (List (Nat × List Char))
  | [] => (dropBytes? input start).map fun span => [(start, span)]
  | literal :: more => do
    let span ← sliceBytes? input start literal
    let spans ← spansFrom? input (literal + 1) more
    pure ((start, span) :: spans)

/-- The spans of a text between the literal `<`s at the byte offsets `literals`. -/
def spans? (input : List Char) (literals : List Nat) : Option (List (Nat × List Char)) :=
  spansFrom? input 0 literals

/-- Cutting at the offsets the scan lists gives the pieces the cut collects. The piece being
    collected starts at the byte length of the prefix `pre` and holds `acc`, reversed. -/
theorem spansFrom?_literalsFrom {input : List Char} {pos start : Nat} {acc cs : List Char} :
    ∀ pre, input = pre ++ acc.reverse ++ cs → byteLength pre = start →
      byteLength pre + byteLength acc.reverse = pos →
      spansFrom? input start (literalsFrom pos cs) = some (piecesFrom pos start acc cs) := by
  fun_induction piecesFrom pos start acc cs with
  | case1 pos start acc =>
    -- the rest of the text is the last piece
    intro pre hinput hstart _
    rw [literalsFrom, spansFrom?, ← hstart, hinput, List.append_nil, dropBytes?_append]
    rfl
  | case2 pos start acc rest k hk taken ih =>
    -- markup joins the piece being collected
    intro pre hinput hstart hpos
    have hsplit : '<' :: rest = taken ++ rest.drop (k - 1) := (markupExtent_split hk).symm
    rw [literalsFrom, if_pos rfl, hk]
    refine ih pre ?_ hstart ?_
    · rw [hinput, List.reverse_append, List.reverse_reverse, hsplit]
      simp
    · rw [List.reverse_append, List.reverse_reverse, byteLength_append, ← hpos, Nat.add_assoc]
  | case3 pos start acc rest hk ih =>
    -- a literal `<`: the piece ends before it, and the next one starts after it
    intro pre hinput hstart hpos
    have hslice : sliceBytes? input start pos = some acc.reverse := by
      rw [← hstart, ← hpos, hinput]
      exact sliceBytes?_append pre acc.reverse _
    have hnext := ih (pre ++ acc.reverse ++ ['<']) (by rw [hinput]; simp)
      (by rw [byteLength_append, byteLength_append, hpos]; rfl)
      (by rw [byteLength_append, byteLength_append, hpos]; rfl)
    rw [literalsFrom, if_pos rfl, hk, spansFrom?]
    simp only [hslice, hnext, Option.bind_eq_bind, Option.bind_some, Option.pure_def]
  | case4 pos start acc c rest hc ih =>
    -- another character joins the piece
    intro pre hinput hstart hpos
    rw [literalsFrom, if_neg hc]
    refine ih pre ?_ hstart ?_
    · rw [hinput]
      simp
    · rw [List.reverse_cons, byteLength_append, ← hpos, byteLength_cons, byteLength_nil]
      omega

/-- Cutting a text at its literal `<`s never falls off a character boundary, and gives its
    pieces. -/
theorem spans?_literals (s : String) : spans? s.toList (literals s) = some (pieces s) :=
  spansFrom?_literalsFrom [] rfl rfl rfl

/-- The pieces the cut collects, with a `<` between each two, are the characters collected so
    far and the rest of the text. -/
theorem intercalate_piecesFrom (pos start : Nat) (acc cs : List Char) :
    ['<'].intercalate ((piecesFrom pos start acc cs).map Prod.snd) = acc.reverse ++ cs := by
  fun_induction piecesFrom pos start acc cs with
  | case1 pos start acc => simp
  | case2 pos start acc rest k hk taken ih =>
    have hsplit : '<' :: rest = taken ++ rest.drop (k - 1) := (markupExtent_split hk).symm
    rw [ih, List.reverse_append, List.reverse_reverse, List.append_assoc, ← hsplit]
  | case3 pos start acc rest hk ih =>
    obtain ⟨more, later, hhead⟩ := piecesFrom_head (pos + 1) (pos + 1) [] rest
    rw [hhead] at ih ⊢
    rw [List.map_cons, List.map_cons, List.intercalate_cons_cons, ← List.map_cons, ih]
    simp
  | case4 pos start acc c rest hc ih =>
    rw [ih]
    simp

/-- The pieces of a text, with a `<` between each two, make up the text. -/
theorem intercalate_pieces (s : String) :
    ['<'].intercalate ((pieces s).map Prod.snd) = s.toList := by
  have h := intercalate_piecesFrom 0 0 [] s.toList
  rw [List.reverse_nil, List.nil_append] at h
  exact h

end Angle

end Tagweave
