import Mathlib
import Tagweave.Proofs.Scanner

namespace Tagweave

namespace Angle

/-!
# Byte offsets into text

A document is read as characters, but the offsets its reader reports, and the offsets it cuts
the text at, count bytes of the text's UTF-8 encoding. A text can only be cut at a character
boundary: a byte offset where one of its characters starts, or its end.

* `Angle.utf8` is the encoding of a character list. A character below U+0080 is the one byte of
  its code (`String.utf8EncodeChar_eq_singleton`); every byte of any other character is at
  least 0x80 (`le_of_mem_utf8EncodeChar`), so no byte of it is an ASCII delimiter.
* `Angle.dropBytes?`, `Angle.takeBytes?` and `Angle.sliceBytes?` cut a text at byte offsets and
  fail (`none`) at an offset inside a character or past the end: exactly where the offset is
  not a valid position of the string (`isSome_dropBytes?_iff`).
* `Angle.findBytes?` and `Angle.findCharBytes?` give the byte offset of the first occurrence of
  a pattern, or of the first character with a property.

The lemmas speak of a text split as `pre ++ post`, at the offset `byteLength pre`.
-/

/-! ### The encoding -/

/-- The UTF-8 encoding of a character list. -/
def utf8 (cs : List Char) : List UInt8 := cs.flatMap String.utf8EncodeChar

@[simp] theorem utf8_nil : utf8 [] = [] := rfl

@[simp] theorem utf8_cons (c : Char) (cs : List Char) :
    utf8 (c :: cs) = String.utf8EncodeChar c ++ utf8 cs := List.flatMap_cons

theorem length_utf8 (cs : List Char) : (utf8 cs).length = byteLength cs := by
  induction cs with
  | nil => rfl
  | cons c cs ih =>
    rw [utf8_cons, List.length_append, String.length_utf8EncodeChar, ih, byteLength_cons]

/-- Every byte of a character above U+007F is at least 0x80: the lead byte of a longer
    sequence, or a continuation byte. -/
theorem le_of_mem_utf8EncodeChar {c : Char} (hc : c.utf8Size ≠ 1) {b : UInt8}
    (hb : b ∈ String.utf8EncodeChar c) : 0x80 ≤ b := by
  -- each byte of a longer sequence is some bits or-ed with a marker of at least 0x80
  have marked : ∀ {x m : UInt8}, 0x80 ≤ m → 0x80 ≤ x ||| m :=
    fun hm => UInt8.le_trans hm UInt8.right_le_or
  rcases Char.utf8Size_eq c with h | h | h | h
  · exact absurd h hc
  · rw [String.utf8EncodeChar_eq_cons_cons h] at hb
    simp only [List.mem_cons, List.not_mem_nil, or_false] at hb
    rcases hb with rfl | rfl <;> exact marked (by decide)
  · rw [String.utf8EncodeChar_eq_cons_cons_cons h] at hb
    simp only [List.mem_cons, List.not_mem_nil, or_false] at hb
    rcases hb with rfl | rfl | rfl <;> exact marked (by decide)
  · rw [String.utf8EncodeChar_eq_cons_cons_cons_cons h] at hb
    simp only [List.mem_cons, List.not_mem_nil, or_false] at hb
    rcases hb with rfl | rfl | rfl | rfl <;> exact marked (by decide)

/-- The byte length of a character list is the size of the string it spells. -/
theorem byteLength_eq_utf8ByteSize (cs : List Char) :
    byteLength cs = (String.ofList cs).utf8ByteSize := by
  induction cs with
  | nil => rfl
  | cons c cs ih =>
    have hsplit : String.ofList (c :: cs) = String.singleton c ++ String.ofList cs := by
      rw [String.singleton_eq_ofList, ← String.ofList_append]
      rfl
    rw [byteLength_cons, ih, hsplit, String.utf8ByteSize_append, String.utf8ByteSize_singleton]

/-! ### Cutting at a byte offset -/

/-- The text after its first `i` bytes; none when byte `i` falls inside a character or past
    the end. -/
def dropBytes? : List Char → Nat → Option (List Char)
  | cs, 0 => some cs
  | [], _ + 1 => none
  | c :: cs, i + 1 => if c.utf8Size ≤ i + 1 then dropBytes? cs (i + 1 - c.utf8Size) else none

/-- The characters of the first `i` bytes of a text; none when byte `i` falls inside a
    character or past the end. -/
def takeBytes? : List Char → Nat → Option (List Char)
  | _, 0 => some []
  | [], _ + 1 => none
  | c :: cs, i + 1 =>
    if c.utf8Size ≤ i + 1 then (takeBytes? cs (i + 1 - c.utf8Size)).map (c :: ·) else none

/-- The characters between byte offsets `a` and `b`; none unless `a ≤ b` and both offsets are
    character boundaries. -/
def sliceBytes? (cs : List Char) (a b : Nat) : Option (List Char) :=
  if a ≤ b then (dropBytes? cs a).bind fun rest => takeBytes? rest (b - a) else none

/-- A nonempty prefix takes at least one byte, so its length is a successor. -/
private theorem byteLength_cons_eq_succ (c : Char) (pre : List Char) :
    ∃ i, byteLength (c :: pre) = i + 1 ∧ c.utf8Size ≤ i + 1 ∧ i + 1 - c.utf8Size = byteLength pre :=
  ⟨c.utf8Size - 1 + byteLength pre, by
    have := c.utf8Size_pos
    rw [byteLength_cons]
    omega⟩

/-- A text is cut after any of its prefixes, at the prefix's byte length. -/
@[simp] theorem dropBytes?_append (pre post : List Char) :
    dropBytes? (pre ++ post) (byteLength pre) = some post := by
  induction pre with
  | nil => simp [dropBytes?]
  | cons c pre ih =>
    obtain ⟨i, hi, hle, hrest⟩ := byteLength_cons_eq_succ c pre
    rw [List.cons_append, hi, dropBytes?, if_pos hle, hrest, ih]

@[simp] theorem takeBytes?_append (pre post : List Char) :
    takeBytes? (pre ++ post) (byteLength pre) = some pre := by
  induction pre with
  | nil => simp [takeBytes?]
  | cons c pre ih =>
    obtain ⟨i, hi, hle, hrest⟩ := byteLength_cons_eq_succ c pre
    rw [List.cons_append, hi, takeBytes?, if_pos hle, hrest, ih]
    rfl

/-- Cutting succeeds exactly at the byte length of a prefix, and leaves what follows it. -/
theorem dropBytes?_eq_some {cs post : List Char} {i : Nat} :
    dropBytes? cs i = some post ↔ ∃ pre, cs = pre ++ post ∧ byteLength pre = i := by
  constructor
  · intro h
    fun_induction dropBytes? cs i with
    | case1 cs =>
      cases h
      exact ⟨[], rfl, rfl⟩
    | case2 i => cases h
    | case3 c cs i hle ih =>
      obtain ⟨pre, rfl, hpre⟩ := ih h
      exact ⟨c :: pre, rfl, by rw [byteLength_cons]; omega⟩
    | case4 c cs i hle => cases h
  · rintro ⟨pre, rfl, rfl⟩
    exact dropBytes?_append pre post

/-- The segment `mid` of a text split as `pre ++ mid ++ post` is cut out between the byte
    lengths of `pre` and of `pre ++ mid`. -/
theorem sliceBytes?_append (pre mid post : List Char) :
    sliceBytes? (pre ++ mid ++ post) (byteLength pre) (byteLength pre + byteLength mid) =
      some mid := by
  rw [sliceBytes?, if_pos (Nat.le_add_right _ _), List.append_assoc, dropBytes?_append,
    Option.bind_some, Nat.add_sub_cancel_left, takeBytes?_append]

/-- Cutting a string's characters at byte `i` succeeds exactly when `i` is a valid position of
    the string. -/
theorem isSome_dropBytes?_iff (s : String) (i : Nat) :
    (dropBytes? s.toList i).isSome ↔ (String.Pos.Raw.mk i).IsValid s := by
  rw [String.Pos.Raw.isValid_iff_exists_take_toList, Option.isSome_iff_exists]
  constructor
  · rintro ⟨post, h⟩
    obtain ⟨pre, hs, rfl⟩ := dropBytes?_eq_some.mp h
    refine ⟨pre.length, ?_⟩
    rw [hs, List.take_left' rfl, byteLength_eq_utf8ByteSize]
  · rintro ⟨k, hk⟩
    refine ⟨s.toList.drop k, dropBytes?_eq_some.mpr ⟨s.toList.take k, ?_, ?_⟩⟩
    · exact (List.take_append_drop k s.toList).symm
    · rw [byteLength_eq_utf8ByteSize]
      exact hk.symm

/-! ### Searching by byte offset -/

/-- The byte offset of the first occurrence of `pattern` in a text. -/
def findBytes? (pattern cs : List Char) : Option Nat :=
  (findSub pattern cs).map fun j => byteLength (cs.take j)

/-- The byte offset of the first character of a text with property `p`. -/
def findCharBytes? (p : Char → Bool) (cs : List Char) : Option Nat :=
  (cs.findIdx? p).map fun i => byteLength (cs.take i)

/-- Where a pattern is found, the text is what comes before it, of the byte length found, then
    the pattern and the rest. -/
theorem findBytes?_eq_some {p cs : List Char} {i : Nat} (h : findBytes? p cs = some i) :
    ∃ pre post, cs = pre ++ p ++ post ∧ byteLength pre = i := by
  obtain ⟨j, hj, rfl⟩ := Option.map_eq_some_iff.mp h
  obtain ⟨pre, post, hcs, hlen⟩ := findSub_eq_some hj
  refine ⟨pre, post, hcs, ?_⟩
  rw [hcs, List.append_assoc, List.take_left' hlen]

@[simp] theorem findCharBytes?_nil (p : Char → Bool) : findCharBytes? p [] = none := rfl

theorem findCharBytes?_cons_of_pos {p : Char → Bool} {c : Char} (hc : p c = true)
    (cs : List Char) : findCharBytes? p (c :: cs) = some 0 := by
  simp [findCharBytes?, List.findIdx?_cons, hc]

/-- A character without the property is passed over, its bytes counted. -/
theorem findCharBytes?_cons_of_neg {p : Char → Bool} {c : Char} (hc : p c = false)
    (cs : List Char) :
    findCharBytes? p (c :: cs) = (findCharBytes? p cs).map (c.utf8Size + ·) := by
  simp only [findCharBytes?, List.findIdx?_cons, hc, Bool.false_eq_true, if_false,
    Option.map_map]
  rfl

theorem findCharBytes?_append {p : Char → Bool} {mid : List Char}
    (hmid : ∀ c ∈ mid, p c = false) (cs : List Char) :
    findCharBytes? p (mid ++ cs) = (findCharBytes? p cs).map (byteLength mid + ·) := by
  induction mid with
  | nil => simp only [List.nil_append, byteLength_nil, Nat.zero_add, Option.map_id']
  | cons c mid ih =>
    rw [List.cons_append, findCharBytes?_cons_of_neg (hmid c (by simp)),
      ih fun d hd => hmid d (by simp [hd]), Option.map_map]
    congr 1
    funext i
    simp [byteLength_cons, Nat.add_assoc]

/-- Where a character with the property is found, the text is what comes before it, of the byte
    length found, then that character and the rest. -/
theorem findCharBytes?_eq_some {p : Char → Bool} {cs : List Char} {i : Nat}
    (h : findCharBytes? p cs = some i) :
    ∃ pre c post, cs = pre ++ c :: post ∧ p c = true ∧ byteLength pre = i := by
  obtain ⟨j, hj, rfl⟩ := Option.map_eq_some_iff.mp h
  obtain ⟨hlt, hpj, -⟩ := List.findIdx?_eq_some_iff_getElem.mp hj
  refine ⟨cs.take j, cs[j], cs.drop (j + 1), ?_, hpj, rfl⟩
  rw [List.getElem_cons_drop, List.take_append_drop]

end Angle

end Tagweave
