import Tagweave.Render.Renderer

namespace Tagweave

/-!
# Values from the context

Two things the renderer does with JSON values taken from the context.

Paths compose. `Json.resolvePath_append`: following `p ++ q` follows `p`, then `q` from what
it found. An accessor is split at every `.`, so for nonempty accessors `a` and `b` the
accessor `a.b` resolves as `b` inside what `a` resolves to (`Json.resolve_compose`). A
component that renders under the value of `a` thus gives `{b}` the value `{a.b}` had.

Values render as content along their leaves. `Json.contentLeaves` lists the values an array
reaches that are not arrays themselves, depth first. `Renderer.writeLeaves` writes them in
order: a null writes nothing and a string its text, and anything else stops rendering with
its JSON text. `Renderer.writeValue_eq_writeLeaves` says that rendering a value is exactly
that walk, so `Renderer.writeFragment_value` reads off when rendering succeeds, what it
writes, and where it stops.
-/

/-! ### Paths -/

namespace Json

/-- Following a path `p ++ q` follows `p`, then `q` from the value found. -/
theorem resolvePath_append (v : Json) (p q : List String) :
    v.resolvePath (p ++ q) = (v.resolvePath p).bind (·.resolvePath q) := by
  induction p generalizing v with
  | nil => simp [resolvePath]
  | cons s rest ih =>
    simp only [List.cons_append, resolvePath]
    cases v.step s with
    | none => rfl
    | some w => simp [ih]

/-- The segments of `a.b` are those of `a` followed by those of `b`. -/
theorem segments_dot (a b : String) : segments (a ++ "." ++ b) = segments a ++ segments b := by
  have htext : (a ++ "." ++ b).toList = a.toList ++ '.' :: b.toList := by simp
  rw [segments, htext, List.splitOn_append_cons_self, List.map_append]
  rfl

/-- An accessor with a dot in it is not empty. -/
theorem append_dot_ne_empty (a b : String) : a ++ "." ++ b ≠ "" := by
  intro h
  have hlen := congrArg String.length h
  simp at hlen

/-- A nonempty accessor is followed as the path of its segments. -/
theorem resolve_of_ne_empty {accessor : String} (h : accessor ≠ "") (v : Json) :
    v.resolve accessor = v.resolvePath (segments accessor) := by
  simp [resolve, String.isEmpty_iff, h]

/-- Resolving composes along a dot: a path `p ++ q` is `p` then `q`, and for nonempty
accessors `a` and `b`, `a.b` is `b` resolved in what `a` resolves to. So the path interpolator
gives `b`, in the value of `a`, what it gives `a.b` in the outer context. An empty first
accessor is not the context itself here: `.b` looks up the key `""` first. -/
theorem resolve_compose (ctx : Json) (p q : List String) (a b : String) (ha : a ≠ "")
    (hb : b ≠ "") :
    ctx.resolvePath (p ++ q) = (ctx.resolvePath p).bind (·.resolvePath q) ∧
    ctx.resolve (a ++ "." ++ b) = (ctx.resolve a).bind (·.resolve b) ∧
    (∀ inner, ctx.resolve a = some inner →
      pathInterpolator inner b = pathInterpolator ctx (a ++ "." ++ b)) ∧
    ctx.resolve ("." ++ b) = (ctx.step "").bind (·.resolve b) := by
  -- with both accessors nonempty, each side is a path of segments
  have hdot : ctx.resolve (a ++ "." ++ b) = (ctx.resolve a).bind (·.resolve b) := by
    rw [resolve_of_ne_empty (append_dot_ne_empty a b), resolve_of_ne_empty ha, segments_dot,
      resolvePath_append]
    simp only [resolve_of_ne_empty hb]
  refine ⟨resolvePath_append ctx p q, hdot, fun inner hinner => ?_, ?_⟩
  · simp [pathInterpolator, hdot, hinner]
  · -- `.b` is `b` after the empty accessor, whose one segment is the key `""`
    have hlead : "." ++ b = "" ++ "." ++ b := rfl
    have hempty : segments "" = [""] := rfl
    rw [hlead, resolve_of_ne_empty (append_dot_ne_empty "" b), segments_dot, hempty,
      List.singleton_append, resolvePath]
    simp only [resolve_of_ne_empty hb]

/-- The accessor `a.b` in a context with `a` holding `b`. -/
theorem resolve_compose_nested :
    "a" ≠ "" ∧ "b" ≠ "" ∧
    (object [("a", object [("b", ofNat 5)])]).resolvePath (["a"] ++ ["b"]) =
      ((object [("a", object [("b", ofNat 5)])]).resolvePath ["a"]).bind (·.resolvePath ["b"]) ∧
    (object [("a", object [("b", ofNat 5)])]).resolve ("a" ++ "." ++ "b") =
      ((object [("a", object [("b", ofNat 5)])]).resolve "a").bind (·.resolve "b") ∧
    (∀ inner, (object [("a", object [("b", ofNat 5)])]).resolve "a" = some inner →
      pathInterpolator inner "b" =
        pathInterpolator (object [("a", object [("b", ofNat 5)])]) ("a" ++ "." ++ "b")) ∧
    (object [("a", object [("b", ofNat 5)])]).resolve ("." ++ "b") =
      ((object [("a", object [("b", ofNat 5)])]).step "").bind (·.resolve "b") :=
  ⟨by decide, by decide,
    resolve_compose (object [("a", object [("b", ofNat 5)])]) ["a"] ["b"] "a" "b"
      (by decide) (by decide)⟩

end Json

/-! ### Values as content -/

namespace Json

/-- Whether a value is content as it is: null writes nothing and a string its text. -/
def isContent : Json → Bool
  | .null | .string _ => true
  | _ => false

/-- The text a content value writes. -/
def contentText : Json → String
  | .string s => s
  | _ => ""

mutual
/-- The values reached from `v` through arrays that are not arrays themselves, depth first:
    an array stands for its items. -/
def contentLeaves : Json → List Json
  | .array items => contentLeavesOf items
  | v => [v]

/-- The content leaves of array items, one item after another. -/
def contentLeavesOf : List Json → List Json
  | [] => []
  | v :: vs => contentLeaves v ++ contentLeavesOf vs
end

@[simp] theorem contentLeaves_array (items : List Json) :
    (array items).contentLeaves = contentLeavesOf items := by
  simp [contentLeaves]

@[simp] theorem contentLeavesOf_nil : contentLeavesOf [] = [] := by
  simp [contentLeavesOf]

@[simp] theorem contentLeavesOf_cons (v : Json) (vs : List Json) :
    contentLeavesOf (v :: vs) = v.contentLeaves ++ contentLeavesOf vs := by
  simp [contentLeavesOf]

end Json

namespace Renderer

/-- Write content leaves after `out` in order, stopping at the first that is not content with
    its JSON text. -/
def writeLeaves (out : String) : List Json → Written
  | [] => ⟨out, none⟩
  | v :: vs =>
    if v.isContent then writeLeaves (out ++ v.contentText) vs
    else ⟨out, some (.unexpectedShape (Json.compact v))⟩

section Leaves

@[simp] theorem writeLeaves_nil (out : String) : writeLeaves out [] = ⟨out, none⟩ := rfl

theorem writeLeaves_cons_content {v : Json} (h : v.isContent = true) (out : String)
    (vs : List Json) : writeLeaves out (v :: vs) = writeLeaves (out ++ v.contentText) vs := by
  simp [writeLeaves, h]

theorem writeLeaves_cons_fault {v : Json} (h : v.isContent = false) (out : String)
    (vs : List Json) :
    writeLeaves out (v :: vs) = ⟨out, some (.unexpectedShape (Json.compact v))⟩ := by
  simp [writeLeaves, h]

/-- Writing two runs of leaves writes the second after the first, unless the first stops. -/
theorem writeLeaves_append (out : String) (vs ws : List Json) :
    writeLeaves out (vs ++ ws) =
      match writeLeaves out vs with
      | ⟨o, none⟩ => writeLeaves o ws
      | w => w := by
  induction vs generalizing out with
  | nil => rfl
  | cons v vs ih =>
    cases hv : v.isContent with
    | true => rw [List.cons_append, writeLeaves_cons_content hv, writeLeaves_cons_content hv, ih]
    | false => rw [List.cons_append, writeLeaves_cons_fault hv, writeLeaves_cons_fault hv]

/-- Leaves that are all content write all their texts. -/
theorem writeLeaves_of_content {vs : List Json} (h : ∀ v ∈ vs, v.isContent = true)
    (out : String) :
    writeLeaves out vs = ⟨out ++ String.join (vs.map Json.contentText), none⟩ := by
  induction vs generalizing out with
  | nil => simp
  | cons v vs ih =>
    rw [writeLeaves_cons_content (h v (by simp)), ih (fun u hu => h u (by simp [hu]))]
    simp [String.append_assoc]

/-- Writing stops at the first leaf that is not content, having written the texts before it. -/
theorem writeLeaves_first_fault {before after : List Json} {w : Json}
    (hbefore : ∀ u ∈ before, u.isContent = true) (hw : w.isContent = false) (out : String) :
    writeLeaves out (before ++ w :: after) =
      ⟨out ++ String.join (before.map Json.contentText),
        some (.unexpectedShape (Json.compact w))⟩ := by
  rw [writeLeaves_append, writeLeaves_of_content hbefore]
  exact writeLeaves_cons_fault hw _ after

/-- Writing leaves fails exactly when one of them is not content. -/
theorem writeLeaves_error_eq_none_iff (out : String) (vs : List Json) :
    (writeLeaves out vs).error = none ↔ ∀ v ∈ vs, v.isContent = true := by
  induction vs generalizing out with
  | nil => simp
  | cons v vs ih =>
    cases hv : v.isContent with
    | true => simp [writeLeaves_cons_content hv, ih, hv]
    | false => simp [writeLeaves_cons_fault hv, hv]

end Leaves

mutual
/-- Rendering a value as content walks its content leaves. -/
theorem writeValue_eq_writeLeaves : ∀ (v : Json) (out : String),
    writeValue out v = writeLeaves out v.contentLeaves
  | .null, out => by simp [writeValue, Json.contentLeaves, writeLeaves, Json.isContent,
      Json.contentText]
  | .bool _, out => by simp [writeValue, Json.contentLeaves, writeLeaves, Json.isContent]
  | .number _, out => by simp [writeValue, Json.contentLeaves, writeLeaves, Json.isContent]
  | .string _, out => by simp [writeValue, Json.contentLeaves, writeLeaves, Json.isContent,
      Json.contentText]
  | .array items, out => by
    rw [writeValue, Json.contentLeaves_array, writeItems_eq_writeLeaves items out]
  | .object _, out => by simp [writeValue, Json.contentLeaves, writeLeaves, Json.isContent]

/-- Rendering array items walks their content leaves one item after another. -/
theorem writeItems_eq_writeLeaves : ∀ (items : List Json) (out : String),
    writeValue.writeItems out items = writeLeaves out (Json.contentLeavesOf items)
  | [], out => by simp [writeValue.writeItems]
  | v :: vs, out => by
    rw [writeValue.writeItems, Json.contentLeavesOf_cons, writeLeaves_append,
      writeValue_eq_writeLeaves v out]
    -- the rest of the items is rendered exactly when the first succeeds
    cases writeLeaves out v.contentLeaves with
    | mk o e =>
      cases e with
      | none => exact writeItems_eq_writeLeaves vs o
      | some e => rfl
end

/-- Rendering a JSON value as content, at any depth, in any context and after any output,
succeeds exactly when every value it reaches through arrays is null, a string or an array.
It then appends the strings in depth-first order. Otherwise it stops at the first boolean,
number or object `w` in that order, with `w`'s JSON text, having appended exactly the strings
before `w`. `Renderer.write` renders a value this way from empty output, and a component
that renders a value does so from the output so far. -/
theorem writeFragment_value (r : Renderer) (fuel : Nat) (ctx : Json) (out : String) (v : Json) :
    ((r.writeFragment fuel ctx out (.value v)).error = none ↔
      ∀ w ∈ v.contentLeaves, w.isContent = true) ∧
    ((∀ w ∈ v.contentLeaves, w.isContent = true) →
      r.writeFragment fuel ctx out (.value v) =
        ⟨out ++ String.join (v.contentLeaves.map Json.contentText), none⟩) ∧
    (∀ before w after, v.contentLeaves = before ++ w :: after →
      (∀ u ∈ before, u.isContent = true) → w.isContent = false →
      r.writeFragment fuel ctx out (.value v) =
        ⟨out ++ String.join (before.map Json.contentText),
          some (.unexpectedShape (Json.compact w))⟩) := by
  have hwalk : r.writeFragment fuel ctx out (.value v) = writeLeaves out v.contentLeaves := by
    rw [writeFragment, writeValue_eq_writeLeaves]
  refine ⟨?_, fun hall => ?_, fun before w after hsplit hbefore hw => ?_⟩
  · rw [hwalk, writeLeaves_error_eq_none_iff]
  · rw [hwalk, writeLeaves_of_content hall]
  · rw [hwalk, hsplit, writeLeaves_first_fault hbefore hw]

example : writeValue "" (.array [.string "a", .null, .array [.string "b"], .bool true, .string "c"]) =
    ⟨"ab", some (.unexpectedShape "true")⟩ := by cbv

end Renderer

end Tagweave
