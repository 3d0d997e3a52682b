import Tagweave.Config.Settings
import Tagweave.Toml.Document
import Tagweave.Unicode.Quoted

/-!
# Reading the settings from TOML

The settings are read from the tree of a TOML document field by field, the way a
deserializer driven by the settings' record types reads them:

* A record reads a table's entries in ascending key order. Each key must name one of its
  fields (otherwise `unknown field`, at the key), and each value is read as that field's
  type. After the last entry, a required field that did not appear is `missing field`, at
  the table. A record can also be read from an array, whose items give its fields in order;
  missing items take their defaults, and a missing required one is `invalid length`.
* A map (the components, the context values) reads a table's entries, in the same order.
* A string, a boolean: exactly that, else `invalid type`, which names what was found and
  what was expected.

A date or time in the tree reads as a map of one private entry holding its text, so it is a
map to a map reader and an unknown field to a record reader. Every error points at the
innermost key or value it is about.
-/

namespace Tagweave

namespace Toml

/-- The text of a double as numbers are displayed: positional, shortest digits, `inf`, `-inf`
and `NaN` for the values that are not finite. -/
def floatText (x : Binary64) : String :=
  if x.isFinite then Binary64.toText ⟨-400, 400, "", "e", false⟩ x
  else if x.fraction ≠ 0 then "NaN"
  else if x.isNegative then "-inf" else "inf"

/-- A double shown as a floating point number: with a decimal point when finite. -/
def floatShown (x : Binary64) : String :=
  let t := floatText x
  if x.isFinite && !t.contains '.' then t ++ ".0" else t

/-- The key under which a date or time shows its text when read as a map. -/
def datetimeKey : String := "$__toml_private_datetime"

/-- What an item is, as an `invalid type` error names it. -/
def Item.unexpected : Item → String
  | .scalar (.string s) _ => "string " ++ Unicode.quoteEscaped s
  | .scalar (.integer n) _ => "integer `" ++ toString n ++ "`"
  | .scalar (.float x) _ => "floating point `" ++ floatShown x ++ "`"
  | .scalar (.boolean b) _ => "boolean `" ++ (if b then "true" else "false") ++ "`"
  | .scalar (.datetime _) _ => "map"
  | .array _ _ _ => "sequence"
  | .table _ _ _ => "map"

/-- The entries of an item read as a map, in ascending key order: a table's, or a date's one
private entry; none for any other item. -/
def Item.mapEntries : Item → Option Entries
  | .table entries _ _ => some (entries.mergeSort fun a b => !(b.1.name < a.1.name))
  | .scalar (.datetime text) span => some [(⟨datetimeKey, span⟩, .scalar (.string text) span)]
  | _ => none

/-- The result of reading part of the tree. -/
abbrev Reading (α : Type) := Except TomlError α

/-- The error of an item of the wrong type. -/
def invalidType {α : Type} (item : Item) (expected : String) : Reading α :=
  .error ⟨"invalid type: " ++ item.unexpected ++ ", expected " ++ expected, item.span⟩

/-- Names between backticks. -/
def ticked (name : String) : String := "`" ++ name ++ "`"

/-- The expected fields of an `unknown field` error. -/
def oneOf : List String → String
  | [a] => ticked a
  | [a, b] => ticked a ++ " or " ++ ticked b
  | names => "one of " ++ ", ".intercalate (names.map ticked)

/-- The error of a key that names no field. -/
def unknownField {α : Type} (key : Key) (fields : List String) : Reading α :=
  .error ⟨"unknown field " ++ ticked key.name ++ ", expected " ++ oneOf fields, key.span⟩

/-- Read a boolean. -/
def readBool (item : Item) : Reading Bool :=
  match item with
  | .scalar (.boolean b) _ => pure b
  | _ => invalidType item "a boolean"

/-- Read a string. -/
def readString (item : Item) : Reading String :=
  match item with
  | .scalar (.string s) _ => pure s
  | _ => invalidType item "a string"

/-- Read entries into a record, one field at a time. -/
def readFields {α : Type} (field : α → Key → Item → Reading α) (init : α) (entries : Entries) :
    Reading α :=
  entries.foldlM (fun acc e => field acc e.1 e.2) init

/-- An item as a JSON value: numbers as numbers (a double that is not finite as null), a
date as its private one-entry map. -/
def Item.toJson : Item → Json
  | .scalar (.string s) _ => .string s
  | .scalar (.integer n) _ => Json.ofInt n
  | .scalar (.float x) _ => Json.ofFloat x
  | .scalar (.boolean b) _ => .bool b
  | .scalar (.datetime text) _ => .object [(datetimeKey, .string text)]
  | .array items _ _ => .array (items.attach.map fun ⟨i, _⟩ => i.toJson)
  | .table entries _ _ => .object (Json.Fields.ofList (entries.attach.map fun ⟨e, _⟩ => (e.1.name, e.2.toJson)))
termination_by i => sizeOf i
decreasing_by
  all_goals simp_wf
  · have := List.sizeOf_lt_of_mem ‹_ ∈ items›
    omega
  · rename_i h
    have := List.sizeOf_lt_of_mem h
    cases e
    simp_all only [Prod.mk.sizeOf_spec]
    omega

end Toml

open Toml

/-- The fields of `[markdown]`. -/
def markdownFields : List String :=
  ["enabled", "tables", "strikethrough", "footnotes", "tasklists", "smart_punctuation"]

/-- Set a field of the markdown settings. -/
def MarkdownSettings.setField (m : MarkdownSettings) (key : Key) (item : Item) :
    Reading MarkdownSettings :=
  match key.name with
  | "enabled" => (fun b => { m with enabled := b }) <$> readBool item
  | "tables" => (fun b => { m with tables := b }) <$> readBool item
  | "strikethrough" => (fun b => { m with strikethrough := b }) <$> readBool item
  | "footnotes" => (fun b => { m with footnotes := b }) <$> readBool item
  | "tasklists" => (fun b => { m with tasklists := b }) <$> readBool item
  | "smart_punctuation" => (fun b => { m with smartPunctuation := b }) <$> readBool item
  | _ => unknownField key markdownFields

/-- Read the markdown settings; an array gives the fields in order. -/
def MarkdownSettings.read (item : Item) : Reading MarkdownSettings :=
  match item.mapEntries, item with
  | some entries, _ => readFields MarkdownSettings.setField {} entries
  | none, .array items _ _ =>
    let keys := markdownFields.map fun name => (⟨name, item.span⟩ : Key)
    ((keys.zip items).foldlM (fun m (k, i) => m.setField k i) {})
  | none, _ => invalidType item "struct MarkdownConfig"

/-- Read a map of JSON values. -/
def readJsonMap (item : Item) : Reading Json.Fields :=
  match item.mapEntries with
  | some entries => pure (Json.Fields.ofList (entries.map fun e => (e.1.name, e.2.toJson)))
  | none => invalidType item "a map"

/-- The fields of `[context]`. -/
def contextFields : List String := ["file", "values"]

/-- Set a field of the context settings. -/
def ContextSettings.setField (c : ContextSettings) (key : Key) (item : Item) :
    Reading ContextSettings :=
  match key.name with
  | "file" => (fun s => { c with file := some s }) <$> readString item
  | "values" => (fun v => { c with values := v }) <$> readJsonMap item
  | _ => unknownField key contextFields

/-- Read the context settings; an array gives the fields in order. -/
def ContextSettings.read (item : Item) : Reading ContextSettings :=
  match item.mapEntries, item with
  | some entries, _ => readFields ContextSettings.setField {} entries
  | none, .array items _ _ =>
    let keys := contextFields.map fun name => (⟨name, item.span⟩ : Key)
    ((keys.zip items).foldlM (fun c (k, i) => c.setField k i) {})
  | none, _ => invalidType item "struct ContextConfigRaw"

/-- The fields of a component. -/
def aliasFields : List String := ["element", "class", "forward_attributes"]

/-- A component as it is being read: its element is required. -/
structure AliasDraft where
  element : Option String := none
  className : Option String := none
  forwardAttributes : Bool := true

/-- Set a field of a component. -/
def AliasDraft.setField (a : AliasDraft) (key : Key) (item : Item) : Reading AliasDraft :=
  match key.name with
  | "element" => (fun s => { a with element := some s }) <$> readString item
  | "class" => (fun s => { a with className := some s }) <$> readString item
  | "forward_attributes" => (fun b => { a with forwardAttributes := b }) <$> readBool item
  | _ => unknownField key aliasFields

/-- Read a component. -/
def readAlias (item : Item) : Reading Alias :=
  match item.mapEntries, item with
  | some entries, _ => do
    let a ← readFields AliasDraft.setField {} entries
    match a.element with
    | some e => pure ⟨e, a.className, a.forwardAttributes⟩
    | none => .error ⟨"missing field `element`", item.span⟩
  | none, .array items _ _ =>
    match items with
    | [] => .error ⟨"invalid length 0, expected struct AliasConfig with 3 elements", item.span⟩
    | first :: rest => do
      let element ← readString first
      let keys := (aliasFields.drop 1).map fun name => (⟨name, item.span⟩ : Key)
      let a ← (keys.zip rest).foldlM (fun a (k, i) => a.setField k i) ({ element := some element } : AliasDraft)
      pure ⟨element, a.className, a.forwardAttributes⟩
  | none, _ => invalidType item "struct AliasConfig"

/-- Read the components, by tag. -/
def readComponents (item : Item) : Reading (List (String × Alias)) :=
  match item.mapEntries with
  | some entries => entries.mapM fun e => do
    let a ← readAlias e.2
    pure (e.1.name, a)
  | none => invalidType item "a map"

/-- The fields of the whole configuration. -/
def configFields : List String := ["markdown", "context", "components"]

/-- Set a field of the configuration. -/
def Config.setField (c : Config) (key : Key) (item : Item) : Reading Config :=
  match key.name with
  | "markdown" => (fun m => { c with markdown := m }) <$> MarkdownSettings.read item
  | "context" => (fun x => { c with context := x }) <$> ContextSettings.read item
  | "components" => (fun x => { c with components := x }) <$> readComponents item
  | _ => unknownField key configFields

/-- Read the configuration from the entries of a document's root table. -/
def Config.readRoot (root : Entries) : Reading Config :=
  readFields Config.setField {} (root.mergeSort fun a b => !(b.1.name < a.1.name))

end Tagweave
