import Tagweave.Proofs.AttributeText
import Tagweave.Proofs.InsertionOrder

namespace Tagweave

/-!
# The attribute grammar

Attribute text is read exactly as its grammar spells it. An attribute is a name, white space,
`=`, white space and a value, the value one of

* `"s"` with no quote in `s`, the string `s`;
* a numeral `[-+]?[0-9]*\.?[0-9]+` (`AttributeText.Numeral`), the double nearest to it;
* `{e}` with no closing brace in `e`, a reference by `e` trimmed of white space.

Attributes follow each other with white space between them, and the text may start and end
with white space (`AttributeText.Layout`).

* `AttributeText.value?_form`: a value followed by the end or by white space is read as
  itself, to its last character; for a numeral this is `number?_numeral`.
* `AttributeText.attributeAt?_spelling`: an attribute is found whole, name to value.
* `AttributeText.readInto_blanks` and `AttributeText.readInto_spelling` are the step lemmas
  of the reader: white space is skipped, an attribute is inserted.
* `Attributes.read_layout`: the attributes read from a laid out text are its attributes
  inserted in order, so the first position of a name and its last value are kept.
-/

namespace AttributeText

/-! ### Spelling -/

/-- A number as attribute text writes it, `[-+]?[0-9]*\.?[0-9]+`: an optional sign, whole
digits, and fraction digits after a point. With no point the whole digits are nonempty; with
one, the fraction digits are. -/
structure Numeral where
  /-- `some true` for a minus sign, `some false` for a plus sign. -/
  sign : Option Bool
  whole : List Char
  fraction : Option (List Char)
  whole_digits : ∀ c ∈ whole, isDigit c = true
  fraction_digits : ∀ f ∈ fraction, f ≠ [] ∧ ∀ c ∈ f, isDigit c = true
  whole_ne : fraction = none → whole ≠ []

namespace Numeral

/-- Whether the numeral has a minus sign. -/
def negative (n : Numeral) : Bool := n.sign == some true

/-- The digits after the point, none without a point. -/
def fractionDigits (n : Numeral) : List Char := n.fraction.getD []

/-- The sign as written. -/
def signText : Option Bool → List Char
  | some true => ['-']
  | some false => ['+']
  | none => []

/-- The point and the fraction digits as written. -/
def fractionText : Option (List Char) → List Char
  | some f => '.' :: f
  | none => []

/-- The characters of the numeral. -/
def text (n : Numeral) : List Char := signText n.sign ++ n.whole ++ fractionText n.fraction

/-- The double a numeral stands for: the one nearest to its decimal value, with its sign. -/
def value (n : Numeral) : Binary64 :=
  Binary64.ofDecimal n.negative (Nat.ofDigitChars 10 (n.whole ++ n.fractionDigits) 0)
    (-(n.fractionDigits.length : Int))

end Numeral

/-- A value as attribute text writes it. -/
inductive Form where
  /-- `"s"`, with no quote in `s`. -/
  | quoted (s : String) (no_quote : '"' ∉ s.toList)
  /-- A numeral. -/
  | numeral (n : Numeral)
  /-- `{e}`, with no closing brace in `e`. -/
  | reference (e : String) (no_brace : '}' ∉ e.toList)

namespace Form

/-- The characters of a value. -/
def text : Form → List Char
  | quoted s _ => '"' :: (s.toList ++ ['"'])
  | numeral n => n.text
  | reference e _ => '{' :: (e.toList ++ ['}'])

/-- The attribute value a form stands for. -/
def value : Form → AttrValue
  | quoted s _ => .str s
  | numeral n => .number n.value
  | reference e _ => .ref (Unicode.trim e)

end Form

/-- One attribute as attribute text writes it: a name, white space, `=`, white space and a
value. -/
structure Spelling where
  name : String
  before : List Char
  after : List Char
  form : Form
  name_ne : name ≠ ""
  name_chars : ∀ c ∈ name.toList, isNameChar c = true
  before_blank : ∀ c ∈ before, Unicode.isWhiteSpace c = true
  after_blank : ∀ c ∈ after, Unicode.isWhiteSpace c = true

/-- The characters of an attribute. -/
def Spelling.text (a : Spelling) : List Char :=
  a.name.toList ++ a.before ++ '=' :: (a.after ++ a.form.text)

/-- Attribute text as the grammar lays it out: white space, then each attribute followed by
white space, nonempty between two attributes. -/
structure Layout where
  lead : List Char
  items : List (Spelling × List Char)
  lead_blank : ∀ c ∈ lead, Unicode.isWhiteSpace c = true
  gaps_blank : ∀ p ∈ items, ∀ c ∈ p.2, Unicode.isWhiteSpace c = true
  gaps_ne : ∀ p ∈ items.dropLast, p.2 ≠ []

/-- The characters of laid out attribute text. -/
def Layout.text (l : Layout) : List Char := l.lead ++ l.items.flatMap fun p => p.1.text ++ p.2

/-- The attributes a layout spells, in order: each name with the value of its form. -/
def Layout.pairs (l : Layout) : List (String × AttrValue) :=
  l.items.map fun p => (p.1.name, p.1.form.value)

/-! ### Reading values -/

/-- Text that is empty or starts with white space: what may follow an attribute. -/
def StartsBlank (rest : List Char) : Prop := ∀ c ∈ rest.head?, Unicode.isWhiteSpace c = true

theorem isDigit_of_startsBlank {rest : List Char} (h : StartsBlank rest) :
    ∀ c ∈ rest.head?, isDigit c = false := by
  intro c hc
  cases hd : isDigit c
  · rfl
  · have := isWhiteSpace_of_isDigit hd
    simp_all [StartsBlank]

theorem digitsValue_eq_ofDigitChars (ds : List Char) :
    digitsValue ds = Nat.ofDigitChars 10 ds 0 := by
  rw [Nat.ofDigitChars_eq_foldl]
  rfl

/-- Past its sign a numeral starts with a digit or a point. -/
theorem Numeral.unsigned_head (n : Numeral) :
    ∃ c cs, n.whole ++ Numeral.fractionText n.fraction = c :: cs ∧
      (c = '.' ∨ isDigit c = true) := by
  cases hw : n.whole with
  | cons d ds =>
    exact ⟨d, ds ++ Numeral.fractionText n.fraction, by simp,
      Or.inr (n.whole_digits d (by simp [hw]))⟩
  | nil =>
    -- without whole digits there is a point
    obtain ⟨f, hf⟩ := Option.ne_none_iff_exists'.mp (fun h => n.whole_ne h hw)
    exact ⟨'.', f, by simp [hf, Numeral.fractionText], Or.inl rfl⟩

/-- A numeral starts with a sign, a digit or a point. -/
theorem Numeral.text_head (n : Numeral) :
    ∃ c cs, n.text = c :: cs ∧ (c = '-' ∨ c = '+' ∨ c = '.' ∨ isDigit c = true) := by
  obtain ⟨c, cs, hu, hc⟩ := n.unsigned_head
  cases hs : n.sign with
  | some b =>
    cases b
    · exact ⟨'+', c :: cs, by simp [Numeral.text, hs, Numeral.signText, hu], by simp⟩
    · exact ⟨'-', c :: cs, by simp [Numeral.text, hs, Numeral.signText, hu], by simp⟩
  | none =>
    exact ⟨c, cs, by simp [Numeral.text, hs, Numeral.signText, hu], by
      rcases hc with hc | hc <;> simp [hc]⟩

/-- A numeral followed by the end or white space is read whole: its sign, its whole and
fraction digits and its length. -/
theorem number?_numeral (n : Numeral) {rest : List Char} (hrest : StartsBlank rest) :
    number? (n.text ++ rest) =
      some (n.negative, n.whole, n.fractionDigits, n.text.length) := by
  have hstop := isDigit_of_startsBlank hrest
  -- the whole digits stop at the point or at what follows the numeral
  have hwhole : (n.whole ++ Numeral.fractionText n.fraction ++ rest).takeWhile isDigit =
      n.whole := by
    rw [List.append_assoc]
    apply takeWhile_append_of_stop n.whole_digits
    cases hf : n.fraction with
    | some f => simp [Numeral.fractionText, isDigit]
    | none => simpa [Numeral.fractionText] using hstop
  -- the digits after the point, when there is one
  have hfrac : ∀ f ∈ n.fraction, (f ++ rest).takeWhile isDigit = f := fun f hf =>
    takeWhile_append_of_stop (n.fraction_digits f hf).2 hstop
  have hnotDot : ∀ r, rest ≠ '.' :: r := by
    intro r hr
    have hdot := hrest '.' (by simp [hr])
    exact absurd hdot (by decide)
  have htext : n.text ++ rest =
      Numeral.signText n.sign ++ (n.whole ++ Numeral.fractionText n.fraction ++ rest) := by
    simp [Numeral.text]
  unfold number?
  split
  next negative signLen r heq =>
  -- the sign, if any, is taken first, and the digits follow it
  have hsign : negative = n.negative ∧ signLen = (Numeral.signText n.sign).length ∧
      r = n.whole ++ Numeral.fractionText n.fraction ++ rest := by
    rw [htext] at heq
    cases hs : n.sign with
    | some b => cases b <;> simp_all [Numeral.signText, Numeral.negative]
    | none =>
      -- unsigned text starts with a digit or a point, neither of which is a sign
      obtain ⟨c, cs, hu, hc⟩ := n.unsigned_head
      simp only [hs, Numeral.signText, List.nil_append, hu, List.cons_append] at heq
      split at heq
      · next r' hcons =>
        rw [List.cons.injEq] at hcons
        rcases hc with hc | hc <;> rw [hcons.1] at hc <;> simp [isDigit] at hc
      · next r' hcons =>
        rw [List.cons.injEq] at hcons
        rcases hc with hc | hc <;> rw [hcons.1] at hc <;> simp [isDigit] at hc
      · simp_all [Numeral.negative, Numeral.signText]
  obtain ⟨rfl, rfl, rfl⟩ := hsign
  have hdrop : (n.whole ++ Numeral.fractionText n.fraction ++ rest).drop n.whole.length =
      Numeral.fractionText n.fraction ++ rest := by
    rw [List.append_assoc, List.drop_left]
  simp only [hwhole, hdrop]
  cases hf : n.fraction with
  | some f =>
    -- the point and the fraction digits are taken
    have hbody := hfrac f hf
    have hne := (n.fraction_digits f hf).1
    simp [Numeral.fractionText, hbody, hne, Numeral.text, Numeral.fractionDigits, hf]
    omega
  | none =>
    -- no point follows, so the whole digits are the number; the match on `rest` takes its
    -- last arm by `hnotDot`
    have hne := n.whole_ne hf
    simp only [Numeral.fractionText, List.nil_append]
    simp [hne, Numeral.text, Numeral.fractionDigits, hf, Numeral.fractionText]

/-- A value starts with a character that is no white space. -/
theorem Form.text_head (f : Form) :
    ∃ c cs, f.text = c :: cs ∧ Unicode.isWhiteSpace c = false := by
  cases f with
  | quoted s _ => exact ⟨'"', _, rfl, by decide⟩
  | reference e _ => exact ⟨'{', _, rfl, by decide⟩
  | numeral n =>
    obtain ⟨c, cs, htext, hc⟩ := n.text_head
    refine ⟨c, cs, htext, ?_⟩
    rcases hc with rfl | rfl | rfl | hc
    · decide
    · decide
    · decide
    · exact isWhiteSpace_of_isDigit hc

/-- The value of a numeral is the double its digits are read as. -/
theorem numberValue_numeral (n : Numeral) :
    numberValue n.negative n.whole n.fractionDigits = n.value := by
  rw [numberValue, Numeral.value, digitsValue_eq_ofDigitChars]

theorem number?_brace (r : List Char) : number? ('{' :: r) = none := by
  simp [number?, isDigit]

/-- A value followed by the end or white space is read as itself, to its last character. -/
theorem value?_form (f : Form) {rest : List Char} (hrest : StartsBlank rest) :
    value? (f.text ++ rest) = some (f.value, f.text.length) := by
  cases f with
  | quoted s hs =>
    have hread := value?_quoted hs rest
    simp only [String.ofList_toList] at hread
    simpa [Form.text, Form.value] using hread
  | numeral n =>
    -- a numeral starts with a sign, a digit or a point, not a quote
    have hquote : ∀ r, n.text ++ rest ≠ '"' :: r := by
      intro r h
      obtain ⟨c, cs, htext, hc⟩ := n.text_head
      rw [htext, List.cons_append, List.cons.injEq] at h
      rcases hc with hc | hc | hc | hc <;> rw [h.1] at hc <;> simp [isDigit] at hc
    rw [Form.text, value?_of_number? hquote (number?_numeral n hrest), numberValue_numeral]
    rfl
  | reference e he =>
    have hbody : (e.toList ++ '}' :: rest).takeWhile (fun c => !decide (c = '}')) = e.toList :=
      takeWhile_append_of_stop (fun c hc => by
        have hne : c ≠ '}' := fun h => he (h ▸ hc)
        simpa using hne) (by simp)
    simp [value?, Form.text, Form.value, hbody, number?_brace]

/-! ### Reading attributes -/

/-- An attribute followed by the end or white space is found whole, from its name to the last
character of its value. -/
theorem attributeAt?_spelling (a : Spelling) {rest : List Char} (hrest : StartsBlank rest) :
    attributeAt? (a.text ++ rest) = some (a.name, a.form.value, a.text.length) := by
  obtain ⟨c, cs, hform, hc⟩ := a.form.text_head
  have hvalue := value?_form a.form hrest
  have htext : a.text ++ rest =
      a.name.toList ++ (a.before ++ '=' :: (a.after ++ (a.form.text ++ rest))) := by
    simp [Spelling.text]
  -- the name stops at the white space or the `=` after it
  have hname : (a.name.toList ++ (a.before ++ '=' :: (a.after ++ (a.form.text ++ rest)))).takeWhile
      isNameChar = a.name.toList := by
    apply takeWhile_append_of_stop a.name_chars
    cases hb : a.before with
    | nil => simp [isNameChar]
    | cons b bs => simpa using isNameChar_of_isWhiteSpace (a.before_blank b (by simp [hb]))
  have hnonempty : a.name.toList.isEmpty = false := by
    simpa [List.isEmpty_iff, String.toList_eq_nil_iff] using a.name_ne
  -- the white space on either side of `=` is skipped
  have hgapBefore : (a.before ++ '=' :: (a.after ++ (a.form.text ++ rest))).takeWhile
      Unicode.isWhiteSpace = a.before :=
    takeWhile_append_of_stop a.before_blank (by simp; decide)
  have hgapAfter : (a.after ++ (a.form.text ++ rest)).takeWhile Unicode.isWhiteSpace = a.after :=
    takeWhile_append_of_stop a.after_blank (by simp [hform, hc])
  rw [htext]
  simp only [attributeAt?, hname, hnonempty, Bool.false_eq_true, if_false, List.drop_left,
    hgapBefore, hgapAfter, hvalue, String.ofList_toList]
  simp [Spelling.text]
  omega

/-- A run of white space is skipped. -/
theorem readInto_blanks (acc : Attributes) {ws : List Char}
    (hws : ∀ c ∈ ws, Unicode.isWhiteSpace c = true) (rest : List Char) :
    readInto acc (ws ++ rest) = readInto acc rest := by
  induction ws with
  | nil => rfl
  | cons c cs ih =>
    rw [List.cons_append, readInto_blank acc (hws c (by simp)),
      ih (fun d hd => hws d (by simp [hd]))]

/-- An attribute followed by the end or white space is inserted, and reading goes on after
it. -/
theorem readInto_spelling (a : Spelling) {rest : List Char} (hrest : StartsBlank rest)
    (acc : Attributes) :
    readInto acc (a.text ++ rest) = readInto (acc.insert a.name a.form.value) rest := by
  have hat := attributeAt?_spelling a hrest
  obtain ⟨c, more, hcs⟩ : ∃ c more, a.text = c :: more := by
    have hne : a.name.toList ≠ [] := by simpa [String.toList_eq_nil_iff] using a.name_ne
    obtain ⟨c, more, hname⟩ := List.exists_cons_of_ne_nil hne
    exact ⟨c, more ++ a.before ++ '=' :: (a.after ++ a.form.text),
      by simp [Spelling.text, hname]⟩
  rw [hcs, List.cons_append] at hat ⊢
  rw [readInto.eq_2, hat]
  -- the attribute takes everything up to `rest`
  have hdrop : (more ++ rest).drop ((c :: more).length - 1) = rest := by
    simp
  simp only [hdrop]

/-- Attributes each followed by white space, nonempty between two of them, are inserted in
order. -/
theorem readInto_items : ∀ (items : List (Spelling × List Char)) (acc : Attributes),
    (∀ p ∈ items, ∀ c ∈ p.2, Unicode.isWhiteSpace c = true) →
    (∀ p ∈ items.dropLast, p.2 ≠ []) →
      readInto acc (items.flatMap fun p => p.1.text ++ p.2) =
        items.foldl (fun acc p => acc.insert p.1.name p.1.form.value) acc
  | [], acc, _, _ => by simp [readInto.eq_1]
  | (a, gap) :: rest, acc, hblank, hsep => by
    have hgap : ∀ c ∈ gap, Unicode.isWhiteSpace c = true := hblank (a, gap) (by simp)
    have hrestBlank : ∀ p ∈ rest, ∀ c ∈ p.2, Unicode.isWhiteSpace c = true :=
      fun p hp => hblank p (List.mem_cons_of_mem _ hp)
    have hrestSep : ∀ p ∈ rest.dropLast, p.2 ≠ [] := by
      intro p hp
      apply hsep p
      cases rest with
      | nil => simp at hp
      | cons q more => simp [hp]
    -- what follows the attribute is its gap and then the next attribute, or nothing
    have hnext : StartsBlank (gap ++ rest.flatMap fun p => p.1.text ++ p.2) := by
      cases gap with
      | cons c cs => simpa [StartsBlank] using hgap c (by simp)
      | nil =>
        cases rest with
        | nil => simp [StartsBlank]
        | cons q more => exact absurd rfl (hsep (a, []) (by simp))
    rw [List.flatMap_cons, List.append_assoc, readInto_spelling a hnext, readInto_blanks _ hgap,
      readInto_items rest _ hrestBlank hrestSep, List.foldl_cons]

end AttributeText

/-- Attribute text as the grammar lays it out is read as its attributes inserted in order:
each name keeps the position of its first occurrence and the value of its last. -/
theorem Attributes.read_layout (l : AttributeText.Layout) :
    Attributes.read (String.ofList l.text) = Attributes.ofList l.pairs ∧
    Entries.Records l.pairs (Attributes.read (String.ofList l.text)).toList := by
  have hread : Attributes.read (String.ofList l.text) = Attributes.ofList l.pairs := by
    rw [Attributes.read, String.toList_ofList, AttributeText.Layout.text,
      AttributeText.readInto_blanks _ l.lead_blank,
      AttributeText.readInto_items _ _ l.gaps_blank l.gaps_ne, Attributes.ofList,
      AttributeText.Layout.pairs, List.foldl_map]
  refine ⟨hread, ?_⟩
  rw [hread, Attributes.toList_ofList]
  exact Entries.records_setAll l.pairs

end Tagweave
