import Tagweave.Proofs.InsertionOrder
import Tagweave.Render.Default

namespace Tagweave

/-!
# The tag an alias writes

An alias renders an element as a tag of its own element name around the element's children,
rendered once. The start tag holds the class first, when there is one to give
(`Alias.classFor`: the alias's own class and, when forwarding, the element's string `class`,
joined by a space, or whichever of the two exists). Then, when forwarding, it holds every
attribute of the element with a present value, in order, but `class` once a class was
written.

* `openTagText_eq`: the start tag of any props lists the attributes with a present value
  (`presentAttrs`).
* `Entries.setAll_fresh`: setting keys that are all new appends them. So the props of the
  new element (`Alias.props_eq`) are the class pair followed by the kept attributes, in the
  element's order, when the element's attribute names are distinct.
* `Alias.component_writes` is the statement for the component: the three actions it gives,
  the start tag spelled out, and no attribute name written twice.
-/

/-- The attributes with a present value, in order. -/
def presentAttrs (attrs : List (String × Option Json)) : List (String × Json) :=
  attrs.filterMap fun e => e.2.map (e.1, ·)

/-- ` key=value` for each attribute, the value as compact JSON. -/
def attrPairsText (pairs : List (String × Json)) : String :=
  String.join (pairs.map fun e => " " ++ e.1 ++ "=" ++ Json.compact e.2)

@[simp] theorem presentAttrs_append (xs ys : List (String × Option Json)) :
    presentAttrs (xs ++ ys) = presentAttrs xs ++ presentAttrs ys :=
  List.filterMap_append

@[simp] theorem presentAttrs_map_some (pairs : List (String × Json)) :
    presentAttrs (pairs.map fun e => (e.1, some e.2)) = pairs := by
  induction pairs with
  | nil => rfl
  | cons e rest ih =>
    show (e.1, e.2) :: presentAttrs (rest.map fun e => (e.1, some e.2)) = e :: rest
    rw [ih]

@[simp] theorem attrPairsText_append (xs ys : List (String × Json)) :
    attrPairsText (xs ++ ys) = attrPairsText xs ++ attrPairsText ys := by
  simp [attrPairsText, String.join_append]

/-- The names of the present attributes are among the names, in the same order. -/
theorem presentAttrs_keys_sublist (attrs : List (String × Option Json)) :
    ((presentAttrs attrs).map Prod.fst).Sublist (attrs.map Prod.fst) := by
  induction attrs with
  | nil => simp [presentAttrs]
  | cons e rest ih =>
    obtain ⟨k, _ | v⟩ := e
    · simpa [presentAttrs] using ih.cons k
    · simpa [presentAttrs] using ih.cons_cons k

/-- The start tag of an element: its name, then its attributes with a present value. -/
theorem openTagText_eq (p : Props) :
    openTagText p = "<" ++ p.name ++ attrPairsText (presentAttrs p.attrs) ++ ">" := by
  unfold openTagText
  generalize "<" ++ p.name = acc
  induction p.attrs generalizing acc with
  | nil => simp [presentAttrs, attrPairsText]
  | cons e rest ih =>
    obtain ⟨k, _ | v⟩ := e
    · rw [List.foldl_cons, ih]
      simp [presentAttrs]
    · rw [List.foldl_cons, ih]
      simp [presentAttrs, attrPairsText, String.append_assoc]

namespace Entries

variable {α β : Type} [DecidableEq α]

/-- Setting keys that are all new appends them in order. -/
theorem setAll_fresh (entries pairs : List (α × β))
    (h : ((entries ++ pairs).map Prod.fst).Nodup) : setAll entries pairs = entries ++ pairs := by
  induction pairs generalizing entries with
  | nil => simp
  | cons e rest ih =>
    have hfresh : e.1 ∉ entries.map Prod.fst := by
      intro he
      simp only [List.map_append, List.map_cons, List.nodup_append] at h
      exact h.2.2 _ he _ List.mem_cons_self rfl
    rw [setAll, List.foldl_cons, ← setAll, set_fresh hfresh, ih]
    · simp
    · simpa using h

end Entries

/-- Setting attributes one after another changes nothing but the attributes. -/
theorem Props.foldl_withAttr (pairs : List (String × Option Json)) (p : Props) :
    pairs.foldl (fun p e => p.withAttr e.1 e.2) p =
      { p with attrs := Entries.setAll p.attrs pairs } := by
  induction pairs generalizing p with
  | nil => rfl
  | cons e rest ih =>
    rw [List.foldl_cons, ih]
    rfl

/-- Setting the attributes that `skip` does not pick is setting the others in order. -/
theorem Props.foldl_skip_withAttr (skip : String × Option Json → Bool)
    (pairs : List (String × Option Json)) (p : Props) :
    pairs.foldl (fun acc e => if skip e = true then acc else acc.withAttr e.1 e.2) p =
      { p with attrs := Entries.setAll p.attrs (pairs.filter fun e => !skip e) } := by
  rw [← Props.foldl_withAttr, List.foldl_filter]
  congr
  funext acc e
  cases skip e <;> rfl

namespace Alias

/-- The class attribute an alias writes, when it has a class to give. -/
def classAttr (a : Alias) (p : Props) : List (String × Json) :=
  (a.classFor p).toList.map fun c => ("class", .string c)

/-- The attributes an alias forwards and writes: when forwarding, every attribute of `p` with a
present value, in order, but `class` once a class is given; none otherwise. -/
def forwarded (a : Alias) (p : Props) : List (String × Json) :=
  if a.forwardAttributes then
    presentAttrs (p.attrs.filter fun e => !(e.1 = "class" && (a.classFor p).isSome))
  else []

/-- The class pair and the attributes kept for forwarding have distinct names. -/
theorem nodup_keys_class_kept (a : Alias) (p : Props) (hkeys : (p.attrs.map Prod.fst).Nodup) :
    (((a.classAttr p).map (fun e => (e.1, some e.2)) ++
      p.attrs.filter fun e => !(e.1 = "class" && (a.classFor p).isSome)).map Prod.fst).Nodup := by
  have hkept : ((p.attrs.filter fun e => !(e.1 = "class" && (a.classFor p).isSome)).map
      Prod.fst).Nodup := hkeys.sublist ((List.filter_sublist).map Prod.fst)
  -- the element's own `class` is dropped once a class is given
  cases hcls : a.classFor p with
  | none => simpa [classAttr, hcls] using hkept
  | some c =>
    have hnot : "class" ∉ (p.attrs.filter fun e => !(e.1 = "class" && (a.classFor p).isSome)).map
        Prod.fst := by simp [hcls]
    simpa [classAttr, hcls] using List.nodup_cons.mpr ⟨hnot, hkept⟩

/-- The props of the new element: the alias's element name, the same children, the class
pair, then (when forwarding) the kept attributes in the element's order. -/
theorem props_eq (a : Alias) (p : Props) (hkeys : (p.attrs.map Prod.fst).Nodup) :
    a.props p = ⟨a.element, p.children, (a.classAttr p).map (fun e => (e.1, some e.2)) ++
      (if a.forwardAttributes then
        p.attrs.filter fun e => !(e.1 = "class" && (a.classFor p).isSome) else [])⟩ := by
  have hnodup := nodup_keys_class_kept a p hkeys
  unfold props
  cases hfwd : a.forwardAttributes
  · cases hcls : a.classFor p <;> simp [classAttr, hcls, Props.new, Props.withAttr, Entries.set]
  · simp only [if_true]
    rw [Props.foldl_skip_withAttr]
    -- every kept name is new after the class pair, so each setting appends
    cases hcls : a.classFor p with
    | none =>
      have hclass : a.classAttr p = [] := by simp [classAttr, hcls]
      rw [hcls, hclass] at hnodup
      rw [hclass]
      exact congrArg (Props.mk a.element p.children) (Entries.setAll_fresh _ _ hnodup)
    | some c =>
      have hclass : a.classAttr p = [("class", .string c)] := by simp [classAttr, hcls]
      rw [hcls, hclass] at hnodup
      rw [hclass]
      exact congrArg (Props.mk a.element p.children) (Entries.setAll_fresh _ _ hnodup)

/-- The attributes of the new element with a present value are the class and the forwarded
ones, and its attribute names are distinct. -/
theorem presentAttrs_props (a : Alias) (p : Props) (hkeys : (p.attrs.map Prod.fst).Nodup) :
    presentAttrs (a.props p).attrs = a.classAttr p ++ a.forwarded p ∧
      ((a.props p).attrs.map Prod.fst).Nodup := by
  have hnodup := nodup_keys_class_kept a p hkeys
  rw [props_eq a p hkeys]
  unfold forwarded
  cases a.forwardAttributes
  · refine ⟨by simp, ?_⟩
    simp only [List.append_nil, Bool.false_eq_true, if_false]
    exact hnodup.sublist ((List.sublist_append_left _ _).map Prod.fst)
  · exact ⟨by simp, by simpa using hnodup⟩

/-- **What an alias writes.** For props whose attribute names are distinct, the component
writes `<`, the alias's element name, the class attribute when there is a class, the forwarded
attributes and `>`; then renders the children once; then writes the closing tag. No attribute
name is written twice, so in particular there is at most one `class`, and an absent value is
never written. -/
theorem component_writes (a : Alias) (p : Props) (ctx : Json)
    (hkeys : (p.attrs.map Prod.fst).Nodup) :
    a.component p ctx =
      [.write ("<" ++ a.element ++ attrPairsText (a.classAttr p) ++
          attrPairsText (a.forwarded p) ++ ">"),
        .render (.nodes p.children), .write ("</" ++ a.element ++ ">")] ∧
      ((a.classAttr p ++ a.forwarded p).map Prod.fst).Nodup := by
  obtain ⟨hpresent, hnodup⟩ := presentAttrs_props a p hkeys
  have hname : (a.props p).name = a.element := by rw [props_eq a p hkeys]
  have hchildren : (a.props p).children = p.children := by rw [props_eq a p hkeys]
  refine ⟨?_, ?_⟩
  · show writeTag (a.props p) = _
    rw [writeTag, openTagText_eq, hpresent, hname, hchildren, attrPairsText_append]
    simp only [String.append_assoc]
  · rw [← hpresent]
    exact hnodup.sublist (presentAttrs_keys_sublist _)

/-- `<Note class="tip" level=2 who={missing}>` under an alias to `aside` with class `note`
that forwards: one merged class `note tip`, then `level`, and nothing for the absent `who`. -/
theorem component_writes_note :
    (([("class", some (.string "tip")), ("level", some (Json.ofNat 2)), ("who", none)] :
        List (String × Option Json)).map Prod.fst).Nodup ∧
    (⟨"aside", some "note", true⟩ : Alias).component ⟨"Note", [], [("class", some (.string "tip")),
        ("level", some (Json.ofNat 2)), ("who", none)]⟩ .null =
      [.write ("<" ++ "aside" ++ attrPairsText [("class", .string "note tip")] ++
          attrPairsText [("level", Json.ofNat 2)] ++ ">"),
        .render (.nodes []), .write ("</" ++ "aside" ++ ">")] := by
  obtain ⟨hwrites, -⟩ := component_writes ⟨"aside", some "note", true⟩
    ⟨"Note", [], [("class", some (.string "tip")), ("level", some (Json.ofNat 2)), ("who", none)]⟩
    .null (by decide)
  exact ⟨by decide, hwrites.trans rfl⟩

end Alias

end Tagweave
