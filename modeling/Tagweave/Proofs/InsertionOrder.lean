import Tagweave.Render.Props
import Mathlib.Data.List.Induction

namespace Tagweave

/-!
# First position, last value

Pairs set one after another with `Entries.set`, from no pairs at all, leave each key once, at
the position where it was first set, with the value it was last set to (`Entries.Records`).

* `Entries.keys_set` and `Entries.get?_set` are the step lemmas: what one `set` does to the
  list of keys and to a lookup.
* `Entries.records_setAll` is the run lemma: it carries the law along any run of settings.
* `Entries.mem_iff_get?`: when the keys are distinct, the value a key is listed with is the
  one `get?` finds.
* `Attributes.ofList_firstPosition_lastValue`: attributes collected from pairs, and props
  built up with `Props.withAttr`, obey the law; the size of the attributes counts the distinct
  names.
-/

namespace Entries

variable {α β : Type} [DecidableEq α]

/-- Set the pairs in order, starting from `entries`. -/
def setAll (entries : List (α × β)) (pairs : List (α × β)) : List (α × β) :=
  pairs.foldl (fun es p => set p.1 p.2 es) entries

@[simp] theorem setAll_nil (entries : List (α × β)) : setAll entries [] = entries := rfl

@[simp] theorem setAll_append_singleton (entries pairs : List (α × β)) (p : α × β) :
    setAll entries (pairs ++ [p]) = set p.1 p.2 (setAll entries pairs) := by
  simp [setAll]

/-- `entries` is what setting `pairs` in order records: each key once, in the order of its
first setting, with the value of its last setting. -/
structure Records (pairs entries : List (α × β)) : Prop where
  nodup : (entries.map Prod.fst).Nodup
  keys_eq : entries.map Prod.fst = (pairs.map Prod.fst).eraseDups
  mem_iff : ∀ k v, (k, v) ∈ entries ↔ pairs.reverse.lookup k = some v
  get?_eq : ∀ k, get? k entries = pairs.reverse.lookup k

/-! ### One setting -/

/-- Setting a key leaves the keys as they are when it is there, and appends it otherwise. -/
theorem keys_set (key : α) (value : β) (entries : List (α × β)) :
    (set key value entries).map Prod.fst =
      if key ∈ entries.map Prod.fst then entries.map Prod.fst
      else entries.map Prod.fst ++ [key] := by
  induction entries with
  | nil => simp [set]
  | cons e rest ih =>
    obtain ⟨k, v⟩ := e
    by_cases hk : k = key
    · simp [set, hk]
    · have hne : key ≠ k := fun h => hk h.symm
      simp only [set, hk, if_false, List.map_cons, ih, List.mem_cons, hne, false_or]
      split <;> simp

/-- After setting `key`, a lookup of `key` finds the new value and any other lookup is
unchanged. -/
theorem get?_set (key k : α) (value : β) (entries : List (α × β)) :
    get? k (set key value entries) = if key = k then some value else get? k entries := by
  induction entries with
  | nil => simp [set, get?]
  | cons e rest ih =>
    obtain ⟨k', v'⟩ := e
    by_cases hk' : k' = key
    · subst hk'
      by_cases hk : k' = k <;> simp [set, get?, hk]
    · by_cases hk : k' = k
      · subst hk
        simp [set, get?, hk', Ne.symm hk']
      · simp only [get?] at ih
        simp [set, get?, hk', hk, ih]

/-- With distinct keys, a key is listed with exactly the value `get?` finds for it. -/
theorem mem_iff_get? {entries : List (α × β)} (h : (entries.map Prod.fst).Nodup) (k : α)
    (v : β) : (k, v) ∈ entries ↔ get? k entries = some v := by
  induction entries with
  | nil => simp [get?]
  | cons e rest ih =>
    obtain ⟨k', v'⟩ := e
    simp only [List.map_cons, List.nodup_cons] at h
    simp only [get?] at ih
    by_cases hk : k' = k
    · subst hk
      -- the head is the only pair with this key
      have hnot : ∀ w, (k', w) ∉ rest := fun w hw =>
        h.1 (List.mem_map_of_mem (f := Prod.fst) hw)
      simp [get?, hnot, eq_comm]
    · simp [get?, hk, ih h.2, Ne.symm hk]

/-! ### A run of settings -/

/-- The last setting of a key is the first pair with that key in the reversed run. -/
theorem lookup_reverse_append_singleton (pairs : List (α × β)) (p : α × β) (k : α) :
    (pairs ++ [p]).reverse.lookup k = if p.1 = k then some p.2 else pairs.reverse.lookup k := by
  obtain ⟨key, value⟩ := p
  by_cases hk : key = k
  · simp [hk]
  · have hne : (k == key) = false := by simpa using Ne.symm hk
    simp [List.lookup_cons, hk, hne]

/-- Adding one more key to a list that is deduplicated keeps the first occurrence. -/
theorem eraseDups_append_singleton (xs : List α) (x : α) :
    (xs ++ [x]).eraseDups = if x ∈ xs then xs.eraseDups else xs.eraseDups ++ [x] := by
  rw [List.eraseDups_append]
  by_cases hx : x ∈ xs <;> simp [List.removeAll, List.eraseDups_cons, hx]

/-- The run lemma: setting pairs in order from no pairs records them. -/
theorem records_setAll (pairs : List (α × β)) : Records pairs (setAll [] pairs) := by
  induction pairs using List.reverseRecOn with
  | nil => exact ⟨List.nodup_nil, rfl, by simp, fun k => by simp [get?]⟩
  | append_singleton pairs p ih =>
    rw [setAll_append_singleton]
    have hnodup := nodup_keys_set p.1 p.2 _ ih.nodup
    have hget : ∀ k,
        get? k (set p.1 p.2 (setAll [] pairs)) = (pairs ++ [p]).reverse.lookup k := by
      intro k
      rw [get?_set, ih.get?_eq, lookup_reverse_append_singleton]
    refine ⟨hnodup, ?_, fun k v => ?_, hget⟩
    · -- the key is appended exactly when no earlier pair had it
      rw [keys_set, ih.keys_eq, List.map_append, List.map_singleton,
        eraseDups_append_singleton]
      simp only [List.mem_eraseDups]
    · rw [mem_iff_get? hnodup, hget]

end Entries

/-! ### Attributes and props -/

/-- Collecting pairs into attributes sets them in order. -/
theorem Attributes.toList_ofList (pairs : List (String × AttrValue)) :
    (Attributes.ofList pairs).toList = Entries.setAll [] pairs := by
  have hrun : ∀ (a : Attributes),
      (pairs.foldl (fun acc p => acc.insert p.1 p.2) a).toList = Entries.setAll a.toList pairs := by
    induction pairs with
    | nil => intro a; rfl
    | cons p rest ih =>
      intro a
      rw [List.foldl_cons, ih]
      rfl
  exact hrun Attributes.empty

/-- Setting props attribute by attribute sets the pairs in order. -/
theorem Props.attrs_foldl_withAttr (pairs : List (String × Option Json)) (p : Props) :
    (pairs.foldl (fun p e => p.withAttr e.1 e.2) p).attrs = Entries.setAll p.attrs pairs := by
  induction pairs generalizing p with
  | nil => rfl
  | cons e rest ih =>
    rw [List.foldl_cons, ih]
    rfl

/-- Attributes collected from pairs, and props set attribute by attribute from none, list each
name once, in the order of its first insertion, with the value of its last. Lookup finds that
value, and nothing for a name never inserted; the size of the attributes is the number of
distinct names. For props the value is optional, and lookup finds it when present. -/
theorem Attributes.ofList_firstPosition_lastValue (pairs : List (String × AttrValue))
    (settings : List (String × Option Json)) (name : String) (children : List Node) :
    Entries.Records pairs (Attributes.ofList pairs).toList ∧
      (∀ k, (Attributes.ofList pairs).get? k = pairs.reverse.lookup k) ∧
      (Attributes.ofList pairs).size = (pairs.map Prod.fst).eraseDups.length ∧
    Entries.Records settings
        (settings.foldl (fun p e => p.withAttr e.1 e.2) (Props.new name children)).attrs ∧
      ∀ k, (settings.foldl (fun p e => p.withAttr e.1 e.2) (Props.new name children)).get? k =
        (settings.reverse.lookup k).join := by
  have hattrs := Entries.records_setAll pairs
  have hprops := Entries.records_setAll settings
  rw [← Attributes.toList_ofList] at hattrs
  have hnew := Props.attrs_foldl_withAttr settings (Props.new name children)
  rw [show (Props.new name children).attrs = [] from rfl] at hnew
  rw [← hnew] at hprops
  refine ⟨hattrs, hattrs.get?_eq, ?_, hprops, fun k => ?_⟩
  · -- the size is the number of keys, which are the distinct names
    have hlen := congrArg List.length hattrs.keys_eq
    simpa [Attributes.size, Attributes.toList] using hlen
  · simp only [Props.get?, hprops.get?_eq]

example : (Attributes.ofList [("a", .str "1"), ("b", .str "2"), ("a", .str "3")]).toList =
    [("a", .str "3"), ("b", .str "2")] := by decide

end Tagweave
