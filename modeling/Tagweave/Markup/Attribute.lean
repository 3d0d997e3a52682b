import Tagweave.Binary64.Basic
import Tagweave.Markup.Entries

/-!
# Attributes

The attributes of a tag: an ordered map from names to values. A value is a literal string,
a number, or a reference into the rendering context by a dotted accessor.

The map keeps each name at the position where it was first inserted and the value it was
last given: `Attributes.insert` replaces a present name in place and appends a new one.
`Attributes.toList` is the view every other operation is stated against.
-/

namespace Tagweave

/-- The value of an attribute as written in a tag. -/
inductive AttrValue where
  /-- A quoted literal, kept as written. -/
  | str (s : String)
  /-- A bare number. -/
  | number (x : Binary64)
  /-- A `{...}` reference into the context, by its trimmed accessor. -/
  | ref (accessor : String)
  deriving DecidableEq, Inhabited

/-- Attributes in the order their names first appeared; no name occurs twice. -/
structure Attributes where
  entries : List (String × AttrValue)
  nodup : (entries.map Prod.fst).Nodup
  deriving DecidableEq

namespace Attributes

/-- No attributes. -/
def empty : Attributes := ⟨[], List.nodup_nil⟩

instance : Inhabited Attributes := ⟨empty⟩

/-- The name-value pairs in order. -/
def toList (a : Attributes) : List (String × AttrValue) := a.entries

/-- Set `name` to `value`, keeping the position of a name already present. -/
def insert (a : Attributes) (name : String) (value : AttrValue) : Attributes :=
  ⟨Entries.set name value a.entries, Entries.nodup_keys_set name value a.entries a.nodup⟩

/-- The value of `name`, if present. -/
def get? (a : Attributes) (name : String) : Option AttrValue := Entries.get? name a.entries

/-- Number of distinct names. -/
def size (a : Attributes) : Nat := a.entries.length

/-- Whether there are no attributes. -/
def isEmpty (a : Attributes) : Bool := a.entries.isEmpty

/-- Insert the pairs in order, so a repeated name keeps its first position and last value. -/
def ofList (pairs : List (String × AttrValue)) : Attributes :=
  pairs.foldl (fun acc (k, v) => acc.insert k v) empty

@[simp] theorem toList_empty : empty.toList = [] := rfl

@[simp] theorem toList_insert (a : Attributes) (name : String) (value : AttrValue) :
    (a.insert name value).toList = Entries.set name value a.toList := rfl

/-- The names of attributes are distinct. -/
theorem nodup_keys (a : Attributes) : (a.toList.map Prod.fst).Nodup := a.nodup

end Attributes

end Tagweave
