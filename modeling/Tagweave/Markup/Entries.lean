/-!
# Entries

A list of key-value pairs used as a map that keeps order. `Entries.set` gives a key that is
present its new value in place and appends a new key at the end, so every key stays where it
was first set and holds the value it was last set to. `Entries.get?` reads the value of the
first pair with a key.

The attributes of an element and the props handed to a component are both kept this way.
-/

namespace Tagweave

namespace Entries

variable {α β : Type} [DecidableEq α]

/-- Replace the value of the first pair with key `key`, or append a new pair. -/
def set (key : α) (value : β) : List (α × β) → List (α × β)
  | [] => [(key, value)]
  | (k, v) :: rest => if k = key then (k, value) :: rest else (k, v) :: set key value rest

/-- The value of the first pair with key `key`. -/
def get? (key : α) (entries : List (α × β)) : Option β :=
  (entries.find? (·.1 = key)).map Prod.snd

/-- A key of `set key value entries` is `key` or a key of `entries`. -/
theorem mem_keys_set {key k : α} {value : β} {entries : List (α × β)}
    (h : k ∈ (set key value entries).map Prod.fst) : k ∈ entries.map Prod.fst ∨ k = key := by
  induction entries with
  | nil => simp_all [set]
  | cons e rest ih =>
    obtain ⟨k', v'⟩ := e
    by_cases hk : k' = key
    · simp_all [set]
    · simp only [set, hk, if_false, List.map_cons, List.mem_cons] at h
      rcases h with rfl | h
      · simp
      · rcases ih h with h | h <;> simp_all

/-- Setting a key keeps the keys distinct. -/
theorem nodup_keys_set (key : α) (value : β) (entries : List (α × β))
    (h : (entries.map Prod.fst).Nodup) : ((set key value entries).map Prod.fst).Nodup := by
  induction entries with
  | nil => simp [set]
  | cons e rest ih =>
    obtain ⟨k, v⟩ := e
    simp only [List.map_cons, List.nodup_cons] at h
    by_cases hk : k = key
    · simpa [set, hk] using h
    · simp only [set, hk, if_false, List.map_cons, List.nodup_cons]
      refine ⟨fun hmem => ?_, ih h.2⟩
      rcases mem_keys_set hmem with hmem | hmem
      · exact h.1 hmem
      · exact hk hmem

/-- A key that is not there yet is appended. -/
theorem set_fresh {key : α} {value : β} :
    ∀ {entries : List (α × β)}, key ∉ entries.map Prod.fst →
      set key value entries = entries ++ [(key, value)]
  | [], _ => rfl
  | (k, v) :: rest, h => by
    have hk : k ≠ key := fun hk => h (by simp [hk])
    have hrest : key ∉ rest.map Prod.fst := fun hr => h (List.mem_cons_of_mem _ hr)
    simp [set, hk, set_fresh hrest]

end Entries

end Tagweave
