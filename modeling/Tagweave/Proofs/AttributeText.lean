import Tagweave.Proofs.Serialize
import Tagweave.Proofs.SafeIntegers
import Tagweave.Markup.Tree

namespace Tagweave

/-!
# Attribute text written and read back

The default component writes an attribute as ` key=value`, the value as compact JSON. For the
values whose text reads back as themselves (`AttrValue.isCanonical`: a string of plain
characters, or a safe integer) this is undone by the attribute reader.

* `Json.quoteInto_plain` and `Json.compact_ofInt`: the JSON text of a plain string is the
  string in quotes, and that of an integer its sign and decimal digits.
* `attributesText_canonical`: the attribute text of canonical attributes, character by
  character (`AttrValue.canonicalText`).
* `AttributeText.value?_canonicalText` reads a value back, and
  `AttributeText.readInto_canonical` a whole attribute text: it inserts the attributes in
  order. `AttributeText.readInto_blank` skips white space, and
  `AttributeText.takeWhile_append_of_stop` says where a run of name, blank or digit
  characters ends.
* `splitTag_canonical`: the content of a written start tag splits into the element's name
  and its attributes.
-/

/-! ### JSON text of plain strings and integers -/

namespace Json

/-- Characters a JSON string holds as they are: no quote, backslash or control. -/
def isPlainChar (c : Char) : Bool := c ≠ '"' && c ≠ '\\' && 0x20 ≤ c.toNat

theorem escapeChar_plain {c : Char} (h : isPlainChar c = true) : escapeChar c = none := by
  simp only [isPlainChar, Bool.and_eq_true, decide_eq_true_eq] at h
  obtain ⟨⟨hquote, hslash⟩, hcontrol⟩ := h
  have hnl : c ≠ '\n' := by rintro rfl; simp at hcontrol
  have hcr : c ≠ '\r' := by rintro rfl; simp at hcontrol
  have htab : c ≠ '\t' := by rintro rfl; simp at hcontrol
  have hback : c.toNat ≠ 8 := by omega
  have hfeed : c.toNat ≠ 12 := by omega
  have hlow : ¬ c.toNat < 0x20 := by omega
  unfold escapeChar
  rw [if_neg hquote, if_neg hslash, if_neg hnl, if_neg hcr, if_neg htab, if_neg hback,
    if_neg hfeed, if_neg hlow]

/-- A fold that appends plain characters as they are appends the whole run. -/
theorem foldl_plain (f : String → Char → String)
    (hf : ∀ acc c, isPlainChar c = true → f acc c = acc.push c) :
    ∀ (cs : List Char) (acc : String), (∀ c ∈ cs, isPlainChar c = true) →
      cs.foldl f acc = acc ++ String.ofList cs := by
  intro cs
  induction cs with
  | nil => simp
  | cons c rest ih =>
    intro acc hall
    rw [List.foldl_cons, hf acc c (hall c (by simp)), ih _ (fun d hd => hall d (by simp [hd]))]
    apply String.toList_injective
    simp

/-- A string of plain characters is quoted by adding a quote on each side. -/
theorem quoteInto_plain (out s : String) (h : ∀ c ∈ s.toList, isPlainChar c = true) :
    quoteInto out s = out ++ "\"" ++ s ++ "\"" := by
  unfold quoteInto
  -- each step of the fold finds no escape and pushes the character
  rw [String.foldl_eq_foldl_toList,
    foldl_plain _ (fun acc c hc => by simp only [escapeChar_plain hc]) _ _ h]
  apply String.toList_injective
  simp

/-- An integer is written in decimal, with a minus sign when negative. -/
theorem compact_ofInt (n : Int) :
    (compact (ofInt n)).toList = (if n < 0 then ['-'] else []) ++ Nat.toDigits 10 n.natAbs := by
  by_cases hn : n < 0
  · have hnot : ¬ 0 ≤ n := by omega
    have hmag : (-n).toNat = n.natAbs := by omega
    simp [compact, writeCompact, ofInt, hnot, hn, JsonNumber.text, Int.repr_eq_if, hmag]
  · have hnonneg : 0 ≤ n := by omega
    have hmag : n.toNat = n.natAbs := by omega
    simp [compact, writeCompact, ofInt, hnonneg, hn, JsonNumber.text, hmag]

end Json

/-! ### Values that read back -/

/-- A safe integer: a finite whole double of magnitude at most `2 ^ 53 - 1`, other than `-0`. -/
def Binary64.isSafeInteger (x : Binary64) : Bool :=
  x.isFinite && x.isIntegral && decide (x.toInt.natAbs ≤ Props.maxSafeInteger) &&
    x != Binary64.zero true

/-- A value whose written text reads back as itself: a string of plain characters, or a safe
    integer. References are resolved when written, so they never read back. -/
def AttrValue.isCanonical : AttrValue → Bool
  | .str s => s.toList.all Json.isPlainChar
  | .number x => x.isSafeInteger
  | .ref _ => false

/-- A name the attribute reader takes whole: nonempty, of name characters only. -/
def isAttributeName (k : String) : Bool := k ≠ "" && k.toList.all AttributeText.isNameChar

/-- The characters a canonical value is written as: a string in quotes, or a whole number with
    its sign. -/
def AttrValue.canonicalText : AttrValue → List Char
  | .str s => '"' :: (s.toList ++ ['"'])
  | .number x => (if x.toInt < 0 then ['-'] else []) ++ Nat.toDigits 10 x.toInt.natAbs
  | .ref _ => []

/-- The characters canonical attributes are written as: a space, the name, `=` and the value's
    text, for each attribute in order. -/
def Attributes.canonicalText (attrs : Attributes) : List Char :=
  attrs.toList.flatMap fun e => ' ' :: (e.1.toList ++ '=' :: e.2.canonicalText)

/-- A safe integer is written as a JSON integer. -/
theorem numberJson_safe {x : Binary64} (h : x.isSafeInteger = true) :
    Props.numberJson x = Json.ofInt x.toInt := by
  simp only [Binary64.isSafeInteger, Bool.and_eq_true, decide_eq_true_eq, bne_iff_ne] at h
  obtain ⟨⟨⟨hfinite, hintegral⟩, hsafe⟩, -⟩ := h
  simp [Props.numberJson, hfinite, hintegral, hsafe]

/-- A canonical value is written as its canonical text, whatever the interpolator. -/
theorem written_canonical {a : AttrValue} (ha : a.isCanonical = true) (interpolate : Interpolator)
    (context : Json) :
    ∃ j, a.written interpolate context = some j ∧ (Json.compact j).toList = a.canonicalText := by
  cases a with
  | str s =>
    have hplain : ∀ c ∈ s.toList, Json.isPlainChar c = true := by
      simpa [AttrValue.isCanonical] using ha
    refine ⟨.string s, rfl, ?_⟩
    simp [Json.compact, Json.writeCompact, Json.quoteInto_plain _ _ hplain, AttrValue.canonicalText]
  | number x =>
    refine ⟨Props.numberJson x, rfl, ?_⟩
    rw [numberJson_safe ha, Json.compact_ofInt]
    rfl
  | ref _ => simp [AttrValue.isCanonical] at ha

/-- The attribute text of canonical attributes: a space, the name, `=` and the value's text,
    for each attribute in order. -/
theorem attributesText_canonical (interpolate : Interpolator) (context : Json) :
    ∀ entries : List (String × AttrValue), (∀ e ∈ entries, e.2.isCanonical = true) →
      (attributesText interpolate context entries).toList =
        entries.flatMap fun e => ' ' :: (e.1.toList ++ '=' :: e.2.canonicalText)
  | [], _ => rfl
  | (k, a) :: rest, h => by
    obtain ⟨j, hj, htext⟩ := written_canonical (h (k, a) (by simp)) interpolate context
    have hrest := attributesText_canonical interpolate context rest
      (fun e he => h e (List.mem_cons_of_mem _ he))
    simp only [attributesText, hj, String.toList_append, hrest, htext, List.flatMap_cons]
    simp

/-! ### Reading values back -/

namespace AttributeText

theorem isDigit_eq (c : Char) : isDigit c = c.isDigit := by
  simp only [isDigit, Char.isDigit]
  rfl

/-- A run of characters with a property, followed by one without it or by nothing, is what
taking while the property holds takes. -/
theorem takeWhile_append_of_stop {p : Char → Bool} {xs ys : List Char}
    (hxs : ∀ c ∈ xs, p c = true) (hys : ∀ c ∈ ys.head?, p c = false) :
    (xs ++ ys).takeWhile p = xs := by
  rw [List.takeWhile_append_of_pos hxs]
  cases ys with
  | nil => simp
  | cons y ys => simp [hys y rfl]

theorem isWhiteSpace_of_isDigit {c : Char} (h : isDigit c = true) :
    Unicode.isWhiteSpace c = false := by
  simp only [isDigit, Bool.and_eq_true, decide_eq_true_eq] at h
  have hlo : 48 ≤ c.toNat := h.1
  have hhi : c.toNat ≤ 57 := h.2
  simp only [Unicode.isWhiteSpace, Bool.or_eq_false_iff, Bool.and_eq_false_iff,
    beq_eq_false_iff_ne, decide_eq_false_iff_not]
  omega

theorem isNameChar_of_isWhiteSpace {c : Char} (h : Unicode.isWhiteSpace c = true) :
    isNameChar c = false := by
  simp [isNameChar, h]

/-- Decimal digits, with a minus sign when negative, followed by the end or a space, are read
    as a number of that sign and those whole digits. -/
theorem number?_digits (negative : Bool) (n : Nat) {rest : List Char}
    (hrest : rest = [] ∨ rest.head? = some ' ') :
    number? ((if negative then ['-'] else []) ++ Nat.toDigits 10 n ++ rest) =
      some (negative, Nat.toDigits 10 n, [],
        (if negative then 1 else 0) + (Nat.toDigits 10 n).length) := by
  obtain ⟨d, ds, hds⟩ := List.exists_cons_of_ne_nil (@Nat.toDigits_ne_nil n 10)
  have hdigits : ∀ c ∈ d :: ds, isDigit c = true := fun c hc => by
    rw [isDigit_eq]
    exact Nat.isDigit_of_mem_toDigits (by decide) (by decide) (hds ▸ hc)
  have hstop : ∀ c, rest.head? = some c → isDigit c = false := by
    intro c hc
    rcases hrest with hnil | hspace
    · simp [hnil] at hc
    · rw [hspace, Option.some.injEq] at hc
      subst hc
      rfl
  have hwhole : (d :: (ds ++ rest)).takeWhile isDigit = d :: ds := by
    rw [← List.cons_append]
    exact takeWhile_append_of_stop hdigits hstop
  have hnotsign : d ≠ '-' ∧ d ≠ '+' := by
    have hd := hdigits d (by simp)
    constructor <;> rintro rfl <;> simp [isDigit] at hd
  rw [hds]
  unfold number?
  split
  next negative' signLen r heq =>
    -- the sign comes first
    have hsign : negative' = negative ∧ signLen = (if negative then 1 else 0) ∧
        r = d :: (ds ++ rest) := by
      cases negative <;> split at heq <;> simp_all
    obtain ⟨rfl, rfl, rfl⟩ := hsign
    simp only [hwhole, List.length_cons, List.drop_succ_cons, List.drop_left]
    -- no point follows the digits, so there is no fraction
    rcases hrest with rfl | hspace
    · simp
    · obtain ⟨more, rfl⟩ := List.head?_eq_some_iff.mp hspace
      simp

theorem digitsValue_toDigits (n : Nat) : digitsValue (Nat.toDigits 10 n) = n :=
  Nat.ofDigitChars_ten_toDigits

/-- A string in quotes, followed by anything, is read as that string. -/
theorem value?_quoted {s : List Char} (hs : '"' ∉ s) (rest : List Char) :
    value? ('"' :: (s ++ '"' :: rest)) = some (.str (String.ofList s), s.length + 2) := by
  have hbody : (s ++ '"' :: rest).takeWhile (fun c => !decide (c = '"')) = s := by
    rw [List.takeWhile_append_of_pos (fun c hc => by
      have hne : c ≠ '"' := fun h => hs (h ▸ hc)
      simpa using hne)]
    simp
  simp [value?, hbody]

/-- Text that does not start with a quote and starts with a number is read as that number. -/
theorem value?_of_number? {cs : List Char} (hquote : ∀ r, cs ≠ '"' :: r)
    {negative : Bool} {whole frac : List Char} {n : Nat}
    (h : number? cs = some (negative, whole, frac, n)) :
    value? cs = some (.number (numberValue negative whole frac), n) := by
  unfold value?
  split
  · next r => exact absurd rfl (hquote r)
  · simp [h]

/-- A canonical value, followed by the end or a space, is read back. -/
theorem value?_canonicalText {a : AttrValue} (ha : a.isCanonical = true) {rest : List Char}
    (hrest : rest = [] ∨ rest.head? = some ' ') :
    value? (a.canonicalText ++ rest) = some (a, a.canonicalText.length) := by
  cases a with
  | str s =>
    have hplain : ∀ c ∈ s.toList, Json.isPlainChar c = true := by
      simpa [AttrValue.isCanonical] using ha
    have hnoquote : '"' ∉ s.toList := fun hmem => by
      simpa [Json.isPlainChar] using hplain '"' hmem
    have hread := value?_quoted hnoquote rest
    simp only [String.ofList_toList] at hread
    have htext : (AttrValue.str s).canonicalText ++ rest = '"' :: (s.toList ++ '"' :: rest) := by
      simp [AttrValue.canonicalText]
    have hlen : (AttrValue.str s).canonicalText.length = s.toList.length + 2 := by
      simp [AttrValue.canonicalText]
    rw [htext, hlen, hread]
  | number x =>
    -- not a quote, so the number is read; its digits give back the double
    have hsafe : x.isSafeInteger = true := ha
    simp only [Binary64.isSafeInteger, Bool.and_eq_true, decide_eq_true_eq, bne_iff_ne] at hsafe
    obtain ⟨⟨⟨-, hintegral⟩, hbound⟩, hzero⟩ := hsafe
    have hnumber := number?_digits (decide (x.toInt < 0)) x.toInt.natAbs hrest
    obtain ⟨d, ds, hds⟩ := List.exists_cons_of_ne_nil (@Nat.toDigits_ne_nil x.toInt.natAbs 10)
    have hmem : d ∈ Nat.toDigits 10 x.toInt.natAbs := by simp [hds]
    have hd : d.isDigit = true := Nat.isDigit_of_mem_toDigits (by decide) (by decide) hmem
    have hnotquote : ∀ r, (AttrValue.number x).canonicalText ++ rest ≠ '"' :: r := by
      intro r h
      simp only [AttrValue.canonicalText, hds] at h
      split at h
      · simp at h
      · simp only [List.nil_append, List.cons_append, List.cons.injEq] at h
        rw [h.1] at hd
        simp at hd
    have htext : (AttrValue.number x).canonicalText ++ rest =
        (if decide (x.toInt < 0) = true then ['-'] else []) ++ Nat.toDigits 10 x.toInt.natAbs ++
          rest := by
      simp [AttrValue.canonicalText]
    have hlen : (AttrValue.number x).canonicalText.length =
        (if decide (x.toInt < 0) = true then 1 else 0) + (Nat.toDigits 10 x.toInt.natAbs).length := by
      simp only [AttrValue.canonicalText, List.length_append]
      split <;> simp_all
    rw [value?_of_number? hnotquote (htext ▸ hnumber), hlen]
    simp only [numberValue, List.append_nil, List.length_nil, Int.natCast_zero, Int.neg_zero,
      digitsValue_toDigits, Binary64.ofDecimal_toInt hintegral hbound hzero]
  | ref _ => simp [AttrValue.isCanonical] at ha

/-- The text of a canonical value starts with a quote, a minus sign or a digit: no white
    space. -/
theorem canonicalText_head {a : AttrValue} (ha : a.isCanonical = true) :
    ∃ c cs, a.canonicalText = c :: cs ∧ Unicode.isWhiteSpace c = false := by
  cases a with
  | str s => exact ⟨'"', s.toList ++ ['"'], rfl, by decide⟩
  | number x =>
    obtain ⟨d, ds, hds⟩ := List.exists_cons_of_ne_nil (@Nat.toDigits_ne_nil x.toInt.natAbs 10)
    have hmem : d ∈ Nat.toDigits 10 x.toInt.natAbs := by simp [hds]
    have hd : d.isDigit = true := Nat.isDigit_of_mem_toDigits (by decide) (by decide) hmem
    by_cases hneg : x.toInt < 0
    · exact ⟨'-', Nat.toDigits 10 x.toInt.natAbs, by simp [AttrValue.canonicalText, hneg],
        by decide⟩
    · refine ⟨d, ds, by simp [AttrValue.canonicalText, hneg, hds], ?_⟩
      rw [← isDigit_eq] at hd
      exact isWhiteSpace_of_isDigit hd
  | ref _ => simp [AttrValue.isCanonical] at ha

/-- White space is skipped. -/
theorem readInto_blank (acc : Attributes) {c : Char} (hc : Unicode.isWhiteSpace c = true)
    (rest : List Char) : readInto acc (c :: rest) = readInto acc rest := by
  have hname := isNameChar_of_isWhiteSpace hc
  have hnone : attributeAt? (c :: rest) = none := by
    simp [attributeAt?, hname]
  rw [readInto.eq_2, hnone]
  simp [hname]

/-- A space is skipped. -/
theorem readInto_space (acc : Attributes) (rest : List Char) :
    readInto acc (' ' :: rest) = readInto acc rest :=
  readInto_blank acc (by decide) rest

/-- A name, `=` and a canonical value, followed by the end or a space, is one attribute. -/
theorem attributeAt?_canonical {k : String} (hk : isAttributeName k = true) {a : AttrValue}
    (ha : a.isCanonical = true) {rest : List Char} (hrest : rest = [] ∨ rest.head? = some ' ') :
    attributeAt? (k.toList ++ '=' :: (a.canonicalText ++ rest)) =
      some (k, a, k.toList.length + 1 + a.canonicalText.length) := by
  simp only [isAttributeName, Bool.and_eq_true, decide_eq_true_eq, List.all_eq_true] at hk
  obtain ⟨hne, hchars⟩ := hk
  have hequals : isNameChar '=' = false := by decide
  have hnonempty : k.toList.isEmpty = false := by
    simpa [List.isEmpty_iff, String.toList_eq_nil_iff] using hne
  obtain ⟨c, cs, htext, hc⟩ := canonicalText_head ha
  have hvalue := value?_canonicalText ha hrest
  rw [htext, List.cons_append] at hvalue ⊢
  have hname : (k.toList ++ '=' :: c :: (cs ++ rest)).takeWhile isNameChar = k.toList :=
    takeWhile_append_of_stop hchars (by simp [hequals])
  have hgap : (c :: (cs ++ rest)).takeWhile Unicode.isWhiteSpace = [] := by
    simp [hc]
  have hequalsWhite : Unicode.isWhiteSpace '=' = false := by decide
  have hgapBefore : ('=' :: c :: (cs ++ rest)).takeWhile Unicode.isWhiteSpace = [] := by
    simp [hequalsWhite]
  simp only [attributeAt?, hname, hnonempty, Bool.false_eq_true, if_false, List.drop_left,
    hgapBefore, hgap, List.length_nil, List.drop_zero, hvalue]
  simp

/-- A name, `=` and a canonical value, followed by the end or a space, is inserted, and reading
    goes on after it. -/
theorem readInto_attribute {k : String} (hk : isAttributeName k = true) {a : AttrValue}
    (ha : a.isCanonical = true) {rest : List Char} (hrest : rest = [] ∨ rest.head? = some ' ')
    (acc : Attributes) :
    readInto acc (k.toList ++ '=' :: (a.canonicalText ++ rest)) = readInto (acc.insert k a) rest := by
  have hat := attributeAt?_canonical hk ha hrest
  obtain ⟨c, more, hcs⟩ : ∃ c more, k.toList = c :: more := by
    simp only [isAttributeName, Bool.and_eq_true, decide_eq_true_eq] at hk
    exact List.exists_cons_of_ne_nil (by simpa [String.toList_eq_nil_iff] using hk.1)
  rw [hcs, List.cons_append] at hat ⊢
  rw [readInto.eq_2, hat]
  -- the attribute takes everything up to `rest`
  have hdrop : (more ++ '=' :: (a.canonicalText ++ rest)).drop
      ((c :: more).length + 1 + a.canonicalText.length - 1) = rest := by
    have hlen : (c :: more).length + 1 + a.canonicalText.length - 1 =
        (more ++ '=' :: a.canonicalText).length := by
      simp
      omega
    have hsplit : more ++ '=' :: (a.canonicalText ++ rest) =
        (more ++ '=' :: a.canonicalText) ++ rest := by
      simp
    rw [hlen, hsplit, List.drop_left]
  simp only [hdrop]

/-- Written attribute text is read as the attributes inserted in order. -/
theorem readInto_canonical :
    ∀ (entries : List (String × AttrValue)) (acc : Attributes),
      (∀ e ∈ entries, isAttributeName e.1 = true ∧ e.2.isCanonical = true) →
        readInto acc (entries.flatMap fun e => ' ' :: (e.1.toList ++ '=' :: e.2.canonicalText)) =
          entries.foldl (fun acc e => acc.insert e.1 e.2) acc
  | [], acc, _ => by simp [readInto.eq_1]
  | (k, a) :: rest, acc, h => by
    obtain ⟨hk, ha⟩ := h (k, a) (by simp)
    have hrest : ∀ e ∈ rest, isAttributeName e.1 = true ∧ e.2.isCanonical = true :=
      fun e he => h e (List.mem_cons_of_mem _ he)
    -- what follows one attribute is the end or the space before the next
    have hnext : (rest.flatMap fun e => ' ' :: (e.1.toList ++ '=' :: e.2.canonicalText)) = [] ∨
        (rest.flatMap fun e => ' ' :: (e.1.toList ++ '=' :: e.2.canonicalText)).head? =
          some ' ' := by
      cases rest with
      | nil => simp
      | cons e more => simp
    rw [List.flatMap_cons, List.cons_append, readInto_space, List.append_assoc, List.cons_append,
      readInto_attribute hk ha hnext, readInto_canonical rest _ hrest, List.foldl_cons]

end AttributeText

theorem Attributes.ext_toList {a b : Attributes} (h : a.toList = b.toList) : a = b := by
  cases a
  cases b
  simp only [Attributes.toList] at h
  subst h
  rfl

/-- Inserting the attributes of a map, in order, into the empty map gives the map back. -/
theorem Attributes.foldl_insert_toList (a : Attributes) :
    a.toList.foldl (fun acc e => acc.insert e.1 e.2) Attributes.empty = a := by
  -- inserting distinct names appends them one by one
  have happend : ∀ (es : List (String × AttrValue)) (acc : Attributes),
      ((acc.toList ++ es).map Prod.fst).Nodup →
        (es.foldl (fun acc e => acc.insert e.1 e.2) acc).toList = acc.toList ++ es := by
    intro es
    induction es with
    | nil => simp
    | cons e rest ih =>
      intro acc hnodup
      have hfresh : e.1 ∉ acc.toList.map Prod.fst := by
        intro hmem
        rw [List.map_append, List.nodup_append] at hnodup
        exact hnodup.2.2 e.1 hmem e.1 (by simp) rfl
      have hinsert : (acc.insert e.1 e.2).toList = acc.toList ++ [e] := by
        rw [Attributes.toList_insert, Entries.set_fresh hfresh]
      rw [List.foldl_cons, ih _ (by rw [hinsert]; simpa using hnodup), hinsert]
      simp
  apply Attributes.ext_toList
  rw [happend _ _ (by simpa using a.nodup_keys)]
  simp [Attributes.toList_empty]

/-- The content of a written start tag splits into the element's name and its attributes. -/
theorem splitTag_canonical {name : String}
    (hname : ∀ c ∈ name.toList, Unicode.isWhiteSpace c = false) (attrs : Attributes)
    (hattrs : ∀ e ∈ attrs.toList, isAttributeName e.1 = true ∧ e.2.isCanonical = true) :
    splitTag (String.ofList (name.toList ++ attrs.canonicalText)) = (name, attrs) := by
  unfold Attributes.canonicalText
  have hread := AttributeText.readInto_canonical attrs.toList Attributes.empty hattrs
  rw [Attributes.foldl_insert_toList] at hread
  have hnameChars : ∀ c ∈ name.toList, (!Unicode.isWhiteSpace c) = true := by
    intro c hc
    simp [hname c hc]
  cases hentries : attrs.toList with
  | nil =>
    -- no attributes: nothing follows the name
    have hempty : attrs = Attributes.empty :=
      Attributes.ext_toList (by rw [hentries, Attributes.toList_empty])
    have htake : name.toList.takeWhile (fun c => !Unicode.isWhiteSpace c) = name.toList := by
      simpa using @List.takeWhile_append_of_pos _ _ name.toList [] hnameChars
    simp [splitTag, htake, hempty]
  | cons e more =>
    obtain ⟨k, a⟩ := e
    rw [hentries] at hread hattrs
    obtain ⟨hk, -⟩ := hattrs (k, a) (by simp)
    -- the first attribute name starts with a name character, which is no white space
    obtain ⟨c, cs, hcs⟩ : ∃ c cs, k.toList = c :: cs := by
      simp only [isAttributeName, Bool.and_eq_true, decide_eq_true_eq] at hk
      exact List.exists_cons_of_ne_nil (by simpa [String.toList_eq_nil_iff] using hk.1)
    have hc : Unicode.isWhiteSpace c = false := by
      simp only [isAttributeName, Bool.and_eq_true, List.all_eq_true] at hk
      have hnameChar := hk.2 c (by simp [hcs])
      simp only [AttributeText.isNameChar, Bool.not_eq_true', Bool.or_eq_false_iff] at hnameChar
      exact hnameChar.2
    have hspace : Unicode.isWhiteSpace ' ' = true := by decide
    rw [List.flatMap_cons, List.cons_append] at hread ⊢
    rw [AttributeText.readInto_space, hcs] at hread
    rw [hcs]
    simp only [List.cons_append, List.append_assoc] at hread ⊢
    have htake : (name.toList ++ ' ' :: c :: (cs ++ '=' :: (a.canonicalText ++
        more.flatMap fun e => ' ' :: (e.1.toList ++ '=' :: e.2.canonicalText)))).takeWhile
          (fun c => !Unicode.isWhiteSpace c) = name.toList := by
      rw [List.takeWhile_append_of_pos hnameChars]
      simp [hspace]
    simp only [splitTag, String.toList_ofList, htake, String.ofList_toList, List.drop_left,
      List.dropWhile_cons, hspace, hc, if_true, Bool.false_eq_true, if_false, List.isEmpty_cons]
    simp only [Attributes.read, String.toList_ofList]
    rw [← hread]

end Tagweave
