import Tagweave.Markup.Token
import Tagweave.Proofs.Scanner

namespace Tagweave

namespace Token

open Angle (byteLength byteLength_append byteLength_cons)

/-!
# Reading text and tags

How the tokenizer reads the pieces a written document is made of.

* `Token.readsAsText`: text without `<`, followed by the end or by a `<`, is read as text and
  reference tokens whose `Token.spelling` is the text itself, and reading goes on after it
  in text mode. The induction follows the tokenizer: a stretch of plain text, then a
  reference or an `&` that is kept as text, then the rest.
* `Token.readFrom_start` and `Token.readFrom_close`: a start tag and a closing tag are one
  token each, and reading goes on after their `>`.
-/

/-- The characters a run of text and reference tokens stands for: text as it is, and a
    reference written back as `&name;`. None when the run holds other tokens. -/
def spelling : List Token → Option (List Char)
  | [] => some []
  | .text s :: ts => (spelling ts).map (s.toList ++ ·)
  | .ref name :: ts => (spelling ts).map ('&' :: name.toList ++ ';' :: ·)
  | _ :: _ => none

theorem spelling_append (ts us : List Token) :
    spelling (ts ++ us) = (spelling ts).bind fun a => (spelling us).map (a ++ ·) := by
  induction ts with
  | nil => simp [spelling]
  | cons t ts ih =>
    cases t <;> simp only [List.cons_append, spelling, ih] <;>
      cases spelling ts <;> simp [Option.map_map, Function.comp_def, List.append_assoc]

@[simp] theorem spelling_text (s : String) : spelling [.text s] = some s.toList := by
  simp [spelling]

@[simp] theorem spelling_ref (name : String) :
    spelling [.ref name] = some ('&' :: name.toList ++ [';']) := by
  simp [spelling]

/-! ### Single steps of the text and reference modes -/

/-- The text token a stretch of plain text adds: none for an empty stretch. -/
def textToken (b : List Char) (p : Nat) : List (Token × Nat) :=
  if b = [] then [] else [(.text (String.ofList b), p)]

theorem spelling_textToken (b : List Char) (p : Nat) :
    spelling ((textToken b p).map Prod.fst).reverse = some b := by
  unfold textToken
  split <;> simp_all [spelling]

/-- What a run of plain text stops at: the end, a `<` or an `&`. -/
def StopsText (z : List Char) : Prop := z = [] ∨ z.head? = some '<' ∨ z.head? = some '&'

theorem takeWhile_plain {b z : List Char} (hb : ∀ c ∈ b, c ≠ '<' ∧ c ≠ '&')
    (hz : StopsText z) :
    (b ++ z).takeWhile (fun c => decide (c ≠ '<') && decide (c ≠ '&')) = b := by
  rw [List.takeWhile_append_of_pos (by simpa using hb)]
  cases z with
  | nil => simp
  | cons c r =>
    have hc : c = '<' ∨ c = '&' := by rcases hz with h | h | h <;> simp_all
    rcases hc with rfl | rfl <;> simp

theorem readFrom_text_nil (pos : Nat) (acc : List (Token × Nat)) :
    readFrom .text [] pos acc = ⟨acc.reverse, none⟩ := by
  rw [readFrom.eq_1]
  split <;> simp_all

theorem readFrom_text_angle (r : List Char) (pos : Nat) (acc : List (Token × Nat)) :
    readFrom .text ('<' :: r) pos acc = readFrom .markup r (pos + 1) acc := by
  rw [readFrom.eq_1]
  split
  next heq => simp at heq
  next r' heq =>
    obtain rfl : r = r' := by simpa using heq
    simp [byteLength]
  next c r' hc heq =>
    obtain ⟨rfl, rfl⟩ : '<' = c ∧ r = r' := by simpa using heq
    exact absurd rfl hc

/-- In text mode an `&` hands over to the reference mode at once. -/
theorem readFrom_text_amp (r : List Char) (pos : Nat) (acc : List (Token × Nat)) :
    readFrom .text ('&' :: r) pos acc = readFrom .ref ('&' :: r) pos acc := by
  rw [readFrom.eq_1]
  split
  next heq => simp at heq
  next r' heq => simp at heq
  next c r' _ heq =>
    obtain ⟨rfl, rfl⟩ : '&' = c ∧ r = r' := by simpa using heq
    simp [byteLength]

/-- A stretch of plain text is one text token, and text mode goes on where it stops. -/
theorem readFrom_text_plain {b z : List Char} (hb : ∀ c ∈ b, c ≠ '<' ∧ c ≠ '&')
    (hz : StopsText z) (pos : Nat) (acc : List (Token × Nat)) :
    ∃ p, readFrom .text (b ++ z) pos acc =
      readFrom .text z (pos + byteLength b) (textToken b p ++ acc) := by
  have hbody := takeWhile_plain hb hz
  rw [readFrom.eq_1]
  split
  next heq =>
    rw [hbody, List.drop_left] at heq
    subst heq
    refine ⟨pos + byteLength b, ?_⟩
    rw [readFrom_text_nil, hbody]
    cases b <;> simp [textToken]
  next r heq =>
    rw [hbody, List.drop_left] at heq
    subst heq
    refine ⟨pos + byteLength b + 1, ?_⟩
    rw [readFrom_text_angle, hbody]
    cases b <;> simp [textToken]
  next c r hc heq =>
    rw [hbody, List.drop_left] at heq
    subst heq
    have hamp : c = '&' := by
      rcases hz with h | h | h <;> simp_all
    subst hamp
    refine ⟨pos + byteLength b, ?_⟩
    rw [readFrom_text_amp, hbody]
    cases b <;> simp [textToken]

/-- What the name of a reference stops at: the end, `;`, `&` or `<`. -/
def StopsRef (z : List Char) : Prop :=
  z = [] ∨ z.head? = some ';' ∨ z.head? = some '&' ∨ z.head? = some '<'

theorem takeWhile_refName {bb z : List Char} (hbb : ∀ c ∈ bb, c ≠ ';' ∧ c ≠ '&' ∧ c ≠ '<')
    (hz : StopsRef z) :
    (bb ++ z).takeWhile (fun c => decide (c ≠ ';') && decide (c ≠ '&') && decide (c ≠ '<')) =
      bb := by
  rw [List.takeWhile_append_of_pos (fun c hc => by have := hbb c hc; simp [this])]
  cases z with
  | nil => simp
  | cons c r =>
    have hc : c = ';' ∨ c = '&' ∨ c = '<' := by rcases hz with h | h | h | h <;> simp_all
    rcases hc with rfl | rfl | rfl <;> simp

/-- An `&` whose name stops at the end, a `<` or another `&` is text, `&` and name together. -/
theorem readFrom_ref_text {bb z : List Char} (hbb : ∀ c ∈ bb, c ≠ ';' ∧ c ≠ '&' ∧ c ≠ '<')
    (hz : StopsText z) (pos : Nat) (acc : List (Token × Nat)) :
    ∃ p, readFrom .ref ('&' :: (bb ++ z)) pos acc =
      readFrom .text z (pos + 1 + byteLength bb) ((.text (String.ofList ('&' :: bb)), p) :: acc) := by
  have hname := takeWhile_refName (z := z) hbb (by rcases hz with h | h | h <;> simp [StopsRef, h])
  rw [readFrom.eq_2]
  simp only [List.drop_one, List.tail_cons]
  split
  next r heq =>
    simp only [List.drop_one, List.tail_cons, hname, List.drop_left] at heq
    subst heq
    simp [StopsText] at hz
  next r heq =>
    simp only [List.drop_one, List.tail_cons, hname, List.drop_left] at heq
    subst heq
    refine ⟨pos + 1 + byteLength bb + 1, ?_⟩
    rw [readFrom_text_angle, hname]
  next heq =>
    simp only [List.drop_one, List.tail_cons, hname, List.drop_left] at heq
    subst heq
    refine ⟨pos + 1 + byteLength bb, ?_⟩
    rw [readFrom_text_nil, hname]
  next c r _ _ heq =>
    simp only [List.drop_one, List.tail_cons, hname, List.drop_left] at heq
    subst heq
    have hamp : c = '&' := by rcases hz with h | h | h <;> simp_all
    subst hamp
    refine ⟨pos + 1 + byteLength bb, ?_⟩
    rw [readFrom_text_amp, hname]

/-- An `&` whose name stops at `;` is a reference token. -/
theorem readFrom_ref_name {bb : List Char} (hbb : ∀ c ∈ bb, c ≠ ';' ∧ c ≠ '&' ∧ c ≠ '<')
    (r : List Char) (pos : Nat) (acc : List (Token × Nat)) :
    readFrom .ref ('&' :: (bb ++ ';' :: r)) pos acc =
      readFrom .text r (pos + 1 + byteLength bb + 1)
        ((.ref (String.ofList bb), pos + 1 + byteLength bb + 1) :: acc) := by
  have hname := takeWhile_refName (z := ';' :: r) hbb (by simp [StopsRef])
  rw [readFrom.eq_2]
  simp only [List.drop_one, List.tail_cons]
  split
  next r' heq =>
    simp only [List.drop_one, List.tail_cons, hname, List.drop_left] at heq
    cases heq
    rw [hname]
  next r' heq =>
    simp only [List.drop_one, List.tail_cons, hname, List.drop_left] at heq
    cases heq
  next heq =>
    simp only [List.drop_one, List.tail_cons, hname, List.drop_left] at heq
    cases heq
  next c r' hsemi _ heq =>
    simp only [List.drop_one, List.tail_cons, hname, List.drop_left] at heq
    cases heq
    exact absurd rfl hsemi

/-! ### Runs of text -/

@[simp] theorem utf8Size_amp : '&'.utf8Size = 1 := rfl

@[simp] theorem utf8Size_semicolon : ';'.utf8Size = 1 := rfl

/-- Reading `xs ++ ys` from text mode takes `xs` as text and reference tokens that spell it,
    then goes on with `ys` from text mode. -/
def ReadsAsText (xs ys : List Char) : Prop :=
  ∀ pos acc, ∃ new, readFrom .text (xs ++ ys) pos acc =
      readFrom .text ys (pos + byteLength xs) (new ++ acc) ∧
    spelling (new.map Prod.fst).reverse = some xs

/-- Split a list where a property first fails. -/
theorem exists_split_takeWhile {α : Type} (p : α → Bool) (xs : List α) :
    ∃ b z, xs = b ++ z ∧ (∀ c ∈ b, p c = true) ∧ ∀ c, z.head? = some c → p c = false := by
  refine ⟨xs.takeWhile p, xs.dropWhile p, List.takeWhile_append_dropWhile.symm, ?_, ?_⟩
  · intro c hc
    have hall := List.all_takeWhile (l := xs) (p := p)
    rw [List.all_eq_true] at hall
    exact hall c hc
  · intro c hc
    have h := List.head?_dropWhile_not p xs
    rw [hc] at h
    exact h

/-- **Text is read as it is written.** Text without `<`, followed by the end or by a `<`, is
    read as text and reference tokens that spell it. -/
theorem readsAsText (xs ys : List Char) (hxs : '<' ∉ xs) (hys : ys = [] ∨ ys.head? = some '<') :
    ReadsAsText xs ys := by
  have hstop : StopsText ys := by rcases hys with h | h <;> simp [StopsText, h]
  -- strong induction on the length: a reference hands the rest of the text to a shorter run
  obtain ⟨n, hn⟩ : ∃ n, xs.length ≤ n := ⟨_, Nat.le_refl _⟩
  induction n generalizing xs with
  | zero =>
    obtain rfl : xs = [] := List.eq_nil_of_length_eq_zero (by omega)
    intro pos acc
    exact ⟨[], by simp [byteLength], by simp [spelling]⟩
  | succ n ih =>
  intro pos acc
  -- a stretch of plain text, then the end or an `&`
  obtain ⟨b, z, rfl, hb, hz⟩ := exists_split_takeWhile (fun c => decide (c ≠ '<') && decide (c ≠ '&')) xs
  have hb' : ∀ c ∈ b, c ≠ '<' ∧ c ≠ '&' := fun c hc => by simpa using hb c hc
  cases z with
  | nil =>
    obtain ⟨p, hp⟩ := readFrom_text_plain hb' hstop pos acc
    exact ⟨textToken b p, by simpa using hp, by simpa using spelling_textToken b p⟩
  | cons a r =>
    have ha : a = '&' := by
      have hstopped := hz a rfl
      have hnot : a ≠ '<' := fun h => hxs (by simp [h])
      simp only [Bool.and_eq_false_iff, decide_eq_false_iff_not, ne_eq, Decidable.not_not] at hstopped
      exact hstopped.resolve_left hnot
    subst ha
    have hr : '<' ∉ r := fun h => hxs (by simp [h])
    obtain ⟨p1, h1⟩ := readFrom_text_plain hb' (z := '&' :: (r ++ ys)) (by simp [StopsText]) pos acc
    -- the name after the `&` runs to the next `;`, `&`, `<` or the end
    obtain ⟨bb, z', rfl, hbb, hz'⟩ :=
      exists_split_takeWhile (fun c => decide (c ≠ ';') && decide (c ≠ '&') && decide (c ≠ '<')) r
    have hbb' : ∀ c ∈ bb, c ≠ ';' ∧ c ≠ '&' ∧ c ≠ '<' := fun c hc => by
      simpa [and_assoc] using hbb c hc
    cases z' with
    | nil =>
      -- the name runs to the end of the text: `&` and name are text
      obtain ⟨p2, h2⟩ := readFrom_ref_text hbb' hstop (pos + byteLength b) (textToken b p1 ++ acc)
      refine ⟨(.text (String.ofList ('&' :: bb)), p2) :: textToken b p1, ?_, ?_⟩
      · simp only [List.append_nil, List.cons_append, List.append_assoc] at h1 h2 ⊢
        rw [h1, readFrom_text_amp, h2, byteLength_append, byteLength_cons]
        simp [Nat.add_assoc]
      · simp [spelling, spelling_append, spelling_textToken]
    | cons d r' =>
      have hd : d = ';' ∨ d = '&' := by
        have hstopped := hz' d rfl
        have hnot : d ≠ '<' := fun h => hr (by simp [h])
        simp only [Bool.and_eq_false_iff, decide_eq_false_iff_not, ne_eq, Decidable.not_not] at hstopped
        exact hstopped.resolve_right hnot
      have hlen : r'.length + 2 ≤ n + 1 := by
        simp only [List.length_append, List.length_cons] at hn
        omega
      rcases hd with rfl | rfl
      · -- `;` closes a reference
        have hrest : '<' ∉ r' := fun h => hr (by simp [h])
        obtain ⟨new, hnew, hspell⟩ := ih r' hrest (by omega)
          (pos + byteLength b + 1 + byteLength bb + 1)
          ((.ref (String.ofList bb), pos + byteLength b + 1 + byteLength bb + 1) :: textToken b p1 ++ acc)
        refine ⟨new ++ (.ref (String.ofList bb), pos + byteLength b + 1 + byteLength bb + 1) ::
          textToken b p1, ?_, ?_⟩
        · simp only [List.cons_append, List.append_assoc] at h1 hnew ⊢
          rw [h1, readFrom_text_amp, readFrom_ref_name hbb', hnew]
          simp [byteLength_append, byteLength_cons, Nat.add_assoc]
        · simp [spelling, spelling_append, spelling_textToken, hspell]
      · -- another `&`: this one and its name are text
        have hrest : '<' ∉ '&' :: r' := fun h => hr (by simp_all)
        obtain ⟨p2, h2⟩ := readFrom_ref_text hbb' (z := '&' :: (r' ++ ys)) (by simp [StopsText])
          (pos + byteLength b) (textToken b p1 ++ acc)
        obtain ⟨new, hnew, hspell⟩ := ih ('&' :: r') hrest (by simp only [List.length_cons]; omega)
          (pos + byteLength b + 1 + byteLength bb)
          ((.text (String.ofList ('&' :: bb)), p2) :: textToken b p1 ++ acc)
        refine ⟨new ++ (.text (String.ofList ('&' :: bb)), p2) :: textToken b p1, ?_, ?_⟩
        · simp only [List.cons_append, List.append_assoc] at h1 h2 hnew ⊢
          rw [h1, readFrom_text_amp, h2, hnew]
          simp [byteLength_append, byteLength_cons, Nat.add_assoc]
        · simp [spelling, spelling_append, spelling_textToken, hspell]

/-! ### Tags -/

theorem tagBody_inert {body : List Char} (h : Angle.Inert body) (ys : List Char) :
    tagBody (body ++ '>' :: ys) = some body := by
  simp [tagBody, Angle.tagEnd_inert h]

/-- A tag that starts with a letter and does not end in `/` is read as a start tag. -/
theorem readMarkup_start {c : Char} {rest ys : List Char} (hc : c.isAlpha = true)
    (hinert : Angle.Inert (c :: rest)) (hlast : (c :: rest).getLast? ≠ some '/') (pos : Nat) :
    readMarkup (c :: (rest ++ '>' :: ys)) pos =
      .ok (.start (String.ofList (c :: rest)), rest.length + 2) := by
  have hbody := tagBody_inert hinert ys
  simp only [List.cons_append] at hbody
  unfold readMarkup
  split
  next heq => simp at heq
  next r heq =>
    obtain ⟨rfl, -⟩ := List.cons.inj heq
    simp at hc
  next heq =>
    obtain ⟨rfl, -⟩ := List.cons.inj heq
    simp at hc
  next heq =>
    obtain ⟨rfl, -⟩ := List.cons.inj heq
    simp at hc
  next =>
    simp only [hbody]
    simp [hlast]

/-- A closing tag whose name does not end in a blank is read as a closing tag of that
    name. -/
theorem readMarkup_close {c : Char} {rest ys : List Char} (hinert : Angle.Inert (c :: rest))
    (hlast : ∀ d, (c :: rest).getLast? = some d → Unicode.isMarkupBlank d = false) (pos : Nat) :
    readMarkup ('/' :: c :: (rest ++ '>' :: ys)) pos =
      .ok (.close (String.ofList (c :: rest)), rest.length + 3) := by
  have hslash : Angle.Inert ['/'] := Angle.inert_plain (by simp)
  have hbody := tagBody_inert (hslash.append hinert) ys
  simp only [List.nil_append, List.cons_append] at hbody
  -- nothing trails the name: its last character is no blank
  have htrim : Unicode.dropTrailing Unicode.isMarkupBlank (c :: rest) = c :: rest := by
    cases hd : (c :: rest).getLast? with
    | none => simp at hd
    | some d =>
      obtain ⟨init, hinit⟩ := List.getLast?_eq_some_iff.mp hd
      rw [hinit]
      simp [Unicode.dropTrailing, hlast d hd]
  unfold readMarkup
  simp [hbody, htrim]

/-- A start tag is one token, and reading goes on after its `>` in text mode. -/
theorem readFrom_start {c : Char} {rest ys : List Char} (hc : c.isAlpha = true)
    (hinert : Angle.Inert (c :: rest)) (hlast : (c :: rest).getLast? ≠ some '/') (pos : Nat)
    (acc : List (Token × Nat)) :
    readFrom .text ('<' :: c :: (rest ++ '>' :: ys)) pos acc =
      readFrom .text ys (pos + byteLength ('<' :: c :: (rest ++ ['>'])))
        ((.start (String.ofList (c :: rest)), pos + byteLength ('<' :: c :: (rest ++ ['>']))) ::
          acc) := by
  rw [readFrom_text_angle, readFrom.eq_3]
  split
  next fault heq =>
    rw [readMarkup_start hc hinert hlast] at heq
    cases heq
  next token used heq =>
    rw [readMarkup_start hc hinert hlast] at heq
    cases heq
    have htake : (c :: (rest ++ '>' :: ys)).take (rest.length + 2) = c :: (rest ++ ['>']) := by
      simp [List.take_append, List.take_of_length_le]
    have hdrop : (c :: (rest ++ '>' :: ys)).drop (rest.length + 2) = ys := by simp
    rw [htake, hdrop, byteLength_cons '<', Nat.add_assoc]
    rfl

/-- A closing tag is one token, and reading goes on after its `>` in text mode. -/
theorem readFrom_close {c : Char} {rest ys : List Char} (hinert : Angle.Inert (c :: rest))
    (hlast : ∀ d, (c :: rest).getLast? = some d → Unicode.isMarkupBlank d = false) (pos : Nat)
    (acc : List (Token × Nat)) :
    readFrom .text ('<' :: '/' :: c :: (rest ++ '>' :: ys)) pos acc =
      readFrom .text ys (pos + byteLength ('<' :: '/' :: c :: (rest ++ ['>'])))
        ((.close (String.ofList (c :: rest)), pos + byteLength ('<' :: '/' :: c :: (rest ++ ['>']))) ::
          acc) := by
  rw [readFrom_text_angle, readFrom.eq_3]
  split
  next fault heq =>
    rw [readMarkup_close hinert hlast] at heq
    cases heq
  next token used heq =>
    rw [readMarkup_close hinert hlast] at heq
    cases heq
    have htake : ('/' :: c :: (rest ++ '>' :: ys)).take (rest.length + 3) =
        '/' :: c :: (rest ++ ['>']) := by
      simp [List.take_append, List.take_of_length_le]
    have hdrop : ('/' :: c :: (rest ++ '>' :: ys)).drop (rest.length + 3) = ys := by simp
    rw [htake, hdrop, byteLength_cons '<', Nat.add_assoc]
    rfl

/-! ### Markup that ends within itself -/

/-- The search for the end of a processing instruction stops at the first `?>` after its
    opening `?`, when that `?` is not followed by `>` at once. -/
theorem instructionBody_go_findSub : ∀ {r : List Char} {j : Nat} (prev : Char)
    (acc : List Char), Angle.findSub ['?', '>'] r = some j → (prev = '?' → r.head? ≠ some '>') →
    ∀ ys, instructionBody.go (r ++ ys) prev acc = some (acc.reverse ++ r.take (j + 1))
  | [], _, _, _, h, _, _ => by simp [Angle.findSub] at h
  | c :: r, j, prev, acc, h, hprev, ys => by
    simp only [Angle.findSub] at h
    split at h
    · next hprefix =>
      -- the `?>` starts right here
      cases h
      obtain ⟨post, hpost⟩ := List.isPrefixOf_iff_prefix.mp hprefix
      simp only [List.cons_append, List.cons.injEq, List.nil_append] at hpost
      obtain ⟨rfl, rfl⟩ := hpost
      simp [instructionBody.go]
    · next hprefix =>
      obtain ⟨j, hj, rfl⟩ := Option.map_eq_some_iff.mp h
      have hstep : ¬(c = '>' ∧ prev = '?') := fun hc => hprev hc.2 (by simp [hc.1])
      have hnext : c = '?' → r.head? ≠ some '>' := by
        rintro rfl hr
        obtain ⟨r', rfl⟩ := List.head?_eq_some_iff.mp hr
        exact hprefix (by simp [List.isPrefixOf])
      have hrest := instructionBody_go_findSub c (c :: acc) hj hnext ys
      simp only [List.cons_append, instructionBody.go, Bool.and_eq_true, decide_eq_true_eq]
      rw [if_neg hstep, hrest]
      simp

/-- The `?` that opens a processing instruction also counts towards its closing `?>`: after
    `<?>` the instruction is already over, with a body too short to hold its `?>`. -/
theorem readMarkup_unclosedInstruction (r : List Char) (pos : Nat) :
    readMarkup ('?' :: '>' :: r) pos = .error (.unclosedInstruction, pos - 1) := by
  simp [readMarkup, instructionBody, instructionBody.go]

/-- A tag, start or closing, is read up to the `>` that ends it. -/
theorem readMarkup_tag_used {cs : List Char} {k : Nat} (hk : Angle.tagEnd cs = some k)
    (hhead : ∀ r, cs ≠ '!' :: r ∧ cs ≠ '?' :: r) (pos : Nat) :
    (readMarkup cs pos).map Prod.snd = .ok ((cs.take (k - 1)).length + 1) := by
  unfold readMarkup
  split
  · simp [Angle.tagEnd, Angle.tagEnd.go] at hk
  · exact absurd rfl (hhead _).1
  · simp only [tagBody, hk, Option.map_some]
    rfl
  · exact absurd rfl (hhead _).2
  · -- a start tag or an empty element, the same length either way
    simp only [tagBody, hk, Option.map_some]
    split <;> rfl

/-- Markup that ends within itself and opens with no `!` is read as one token of its whole
    length, except a processing instruction opened by `<?>`, which is reported unclosed. -/
theorem readMarkup_of_extent {m : List Char} (hbang : m.head? ≠ some '!')
    (hm : ∀ zs, Angle.markupExtent ('<' :: (m ++ zs)) = some (m.length + 1)) (ys : List Char)
    (pos : Nat) :
    (readMarkup (m ++ ys) pos).map Prod.snd = .ok m.length ∨
      (∃ r, m = '?' :: '>' :: r ∧
        readMarkup (m ++ ys) pos = .error (.unclosedInstruction, pos - 1)) := by
  have hall := hm []
  rw [List.append_nil] at hall
  rcases Angle.markupExtent_cases hbang hall with ⟨r, j, rfl, hj, hlen⟩ | ⟨htag, c, r, hc, hshape⟩
  · -- a processing instruction: unclosed at `<?>`, else read up to its `?>`
    by_cases hclose : r.head? = some '>'
    · obtain ⟨r', rfl⟩ := List.head?_eq_some_iff.mp hclose
      exact .inr ⟨r', rfl, readMarkup_unclosedInstruction _ pos⟩
    · left
      obtain ⟨pre, post, hr, hpre⟩ := Angle.findSub_eq_some hj
      have hbody := instructionBody_go_findSub '?' ['?'] hj (fun _ => hclose) ys
      have htake : r.take (j + 1) = pre ++ ['?'] := by
        rw [hr, ← hpre]
        simp [List.take_append, List.take_of_length_le]
      rw [htake] at hbody
      have hlast : ('?' :: (pre ++ ['?'])).getLast? = some '?' := by
        rw [← List.cons_append, List.getLast?_append]
        simp
      have hlenr : r.length = j + 2 := by
        simp only [List.length_cons] at hlen
        omega
      simp only [readMarkup, List.cons_append, instructionBody, hbody, List.reverse_singleton,
        List.nil_append]
      rw [if_pos (by simp [hlast])]
      simp only [Except.map, List.length_cons, List.length_append, List.length_nil, hlenr, hpre]
  · -- a tag: read up to its closing `>`, found where the scan found it
    have hend := hm ys
    have hnot : c ≠ '!' ∧ c ≠ '?' := by
      refine ⟨?_, ?_⟩ <;> rintro rfl <;> simp at hc
    rcases hshape with rfl | rfl
    · rw [List.cons_append, Angle.markupExtent_start hc, ← List.cons_append,
        Angle.tagEnd_cons_plain (by decide) (by decide) (by decide)] at hend
      obtain ⟨k, hk, hk1⟩ := Option.map_eq_some_iff.mp hend
      left
      rw [readMarkup_tag_used hk (fun r => ⟨fun h => hnot.1 (List.cons.inj h).1,
        fun h => hnot.2 (List.cons.inj h).1⟩)]
      simp only [List.length_take, List.length_append, List.length_cons, Except.ok.injEq] at hk1 ⊢
      omega
    · rw [List.cons_append, List.cons_append, Angle.markupExtent_close hc, ← List.cons_append,
        ← List.cons_append, Angle.tagEnd_cons_plain (by decide) (by decide) (by decide)] at hend
      obtain ⟨k, hk, hk1⟩ := Option.map_eq_some_iff.mp hend
      left
      rw [readMarkup_tag_used hk (fun r => ⟨by simp, by simp⟩)]
      simp only [List.length_take, List.length_append, List.length_cons, Except.ok.injEq] at hk1 ⊢
      omega

/-- Reading a piece made of text and markup that ends within itself, with no `<!`, faults only
    at a `<?>` whose instruction the scan closed at a later `?>`. -/
theorem readFrom_scanned {cs : List Char} (hcs : Angle.Scanned cs)
    (hbang : ∀ pre rest, cs ≠ pre ++ '<' :: '!' :: rest) (pos : Nat) (acc : List (Token × Nat))
    {f : MarkupFault} {q : Nat} (hfault : (readFrom .text cs pos acc).fault = some (f, q)) :
    f = .unclosedInstruction ∧
      ∃ pre mid rest, cs = pre ++ '<' :: '?' :: '>' :: (mid ++ '?' :: '>' :: rest) := by
  induction hcs generalizing pos acc with
  | text h =>
    obtain ⟨new, hread, -⟩ := readsAsText _ [] h (Or.inl rfl) pos acc
    rw [List.append_nil] at hread
    rw [hread, readFrom_text_nil] at hfault
    cases hfault
  | @markup xs m ys hxs hm hys ih =>
    obtain ⟨new, hread, -⟩ := readsAsText xs ('<' :: (m ++ ys)) hxs (Or.inr rfl) pos acc
    have hmbang : m.head? ≠ some '!' := by
      intro hhead
      obtain ⟨t, rfl⟩ := List.head?_eq_some_iff.mp hhead
      exact hbang xs (t ++ ys) (by simp)
    have hysbang : ∀ pre rest, ys ≠ pre ++ '<' :: '!' :: rest := fun pre rest h =>
      hbang (xs ++ '<' :: (m ++ pre)) rest (by rw [h]; simp)
    rw [hread, readFrom_text_angle, readFrom.eq_3] at hfault
    rcases readMarkup_of_extent hmbang hm ys (pos + byteLength xs + 1) with hok | ⟨r, rfl, herr⟩
    · -- the markup is one token, and reading goes on after it
      split at hfault
      · next fault heq =>
        rw [heq] at hok
        cases hok
      · next token used heq =>
        rw [heq] at hok
        simp only [Except.map, Except.ok.injEq] at hok
        subst hok
        rw [List.drop_left] at hfault
        obtain ⟨hf, pre, mid, rest, hys⟩ := ih hysbang _ _ hfault
        exact ⟨hf, xs ++ '<' :: (m ++ pre), mid, rest, by rw [hys]; simp⟩
    · -- `<?>` is the fault; the scan found the `?>` that closed it further on
      split at hfault
      · next fault heq =>
        rw [heq, Except.error.injEq] at herr
        subst herr
        simp only [Option.some.injEq, Prod.mk.injEq] at hfault
        have hfound := hm []
        rw [List.append_nil, Angle.markupExtent_query] at hfound
        obtain ⟨j, hj, -⟩ := Option.map_eq_some_iff.mp hfound
        obtain ⟨pre, post, hr, -⟩ := Angle.findSub_eq_some hj
        cases pre with
        | nil => simp at hr
        | cons d mid =>
          simp only [List.cons_append, List.cons.injEq] at hr
          obtain ⟨-, rfl⟩ := hr
          exact ⟨hfault.1.symm, xs, mid, post ++ ys, by simp⟩
      · next token used heq =>
        rw [heq] at herr
        cases herr

end Token

/-- A piece that starts with a byte-order mark is read without it. -/
theorem TokenStream.read_marked (cs : List Char) :
    TokenStream.read ('\uFEFF' :: cs) = Token.readFrom .text cs 0 [] := rfl

/-- A piece that does not start with a byte-order mark is read from its start. -/
theorem TokenStream.read_unmarked {cs : List Char} (h : ∀ rest, cs ≠ '\uFEFF' :: rest) :
    TokenStream.read cs = Token.readFrom .text cs 0 [] := by
  unfold TokenStream.read
  split
  · next rest => exact absurd rfl (h rest)
  · rfl

/-- A fault in reading a piece the scan cut, with no `<!` in it, is an instruction opened by
    `<?>` whose `?>` the scan found further on. -/
theorem TokenStream.read_fault {cs : List Char} (hcs : Angle.Scanned cs)
    (hbang : ∀ pre rest, cs ≠ pre ++ '<' :: '!' :: rest) {f : MarkupFault} {q : Nat}
    (h : (TokenStream.read cs).fault = some (f, q)) :
    f = .unclosedInstruction ∧
      ∃ pre mid rest, cs = pre ++ '<' :: '?' :: '>' :: (mid ++ '?' :: '>' :: rest) := by
  by_cases hmarked : ∃ rest, cs = '\uFEFF' :: rest
  · -- the mark is dropped, and what is left was cut the same way
    obtain ⟨rest, rfl⟩ := hmarked
    rw [TokenStream.read_marked] at h
    obtain ⟨hf, pre, mid, post, hrest⟩ := Token.readFrom_scanned (hcs.of_cons (by decide))
      (Angle.noBang_of_infix (List.suffix_cons _ _).isInfix hbang) 0 [] h
    exact ⟨hf, '\uFEFF' :: pre, mid, post, by rw [hrest]; rfl⟩
  · rw [TokenStream.read_unmarked fun rest h => hmarked ⟨rest, h⟩] at h
    exact Token.readFrom_scanned hcs hbang 0 [] h

end Tagweave
