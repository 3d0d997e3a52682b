import Tagweave.Toml.Scalar

/-!
# TOML documents

The expressions of a document, decoded and assembled into one tree of items. Every item
keeps its span, and every key the span where it was written, so that later errors can point
at them.

Tables come in four kinds, which decide how they may be extended:

* an *explicit* table, from a `[header]` (or the root);
* an *implicit* table, created on the way to a header `[a.b]` (here `a`), which a later
  header `[a]` may still define;
* a *dotted* table, created by a dotted key `a.b = 1` (here `a`), which further dotted keys
  may extend but no header may define;
* an *inline* table `{ … }`, which is closed once written.

The key/value pairs after a header fill the header's table, which joins the tree when the
next header starts or the document ends; an array-of-tables header `[[a]]` appends its
table to the array `a` then. A document's semantic errors are therefore met in this order:
key and value decoding and duplicate keys line by line, and the checks of a header's place
when its table joins the tree. The first one is the error of the document.
-/

namespace Tagweave

namespace Toml

/-- A decoded key with the span where it was written. -/
structure Key where
  name : String
  span : Span
  deriving Repr

/-- How a table came to be. -/
inductive TableKind where
  | explicit
  | implicit
  | dotted
  | inline
  deriving DecidableEq, Repr

/-- A decoded value with its span. -/
inductive Item where
  | scalar (value : Scalar) (span : Span)
  /-- An array; `ofTables` for an array of tables built by `[[…]]` headers. -/
  | array (items : List Item) (ofTables : Bool) (span : Span)
  /-- A table, its entries in the order they were added. -/
  | table (entries : List (Key × Item)) (kind : TableKind) (span : Span)

/-- The entries of a table. -/
abbrev Entries := List (Key × Item)

/-- The span of an item. -/
def Item.span : Item → Span
  | .scalar _ s | .array _ _ s | .table _ _ s => s

/-- The name of a scalar's type. -/
def Scalar.typeName : Scalar → String
  | .string _ => "string"
  | .integer _ => "integer"
  | .float _ => "float"
  | .boolean _ => "boolean"
  | .datetime _ => "datetime"

/-- The name of an item's type. -/
def Item.typeName : Item → String
  | .scalar s _ => s.typeName
  | .array _ _ _ => "array"
  | .table _ _ _ => "table"

/-- The entry with a name. -/
def findEntry (entries : Entries) (name : String) : Option (Key × Item) :=
  List.find? (fun e => e.1.name = name) entries

/-- Set the entry of a name: in place if there is one, else at the end. -/
def setEntry (entries : Entries) (key : Key) (item : Item) : Entries :=
  if entries.any (fun e => e.1.name = key.name) then
    entries.map fun e => if e.1.name = key.name then (e.1, item) else e
  else entries ++ [(key, item)]

/-- Remove the entry of a name. -/
def removeEntry (entries : Entries) (name : String) : Entries :=
  entries.filter fun e => e.1.name ≠ name

/-- An error at a span. -/
def failSpan {α : Type} (message : String) (span : Span) : Except TomlError α :=
  .error ⟨message, span⟩

/-- The error of extending a non-table. -/
def cannotExtend {α : Type} (typeName : String) (key : Key) : Except TomlError α :=
  failSpan ("cannot extend value of type " ++ typeName ++ " with a dotted key") key.span

/-- Walk down a key path from the entries of a table of kind `kind`, creating the missing
tables (dotted or implicit by `dotted`), and change the entries of the table at its end by
`f`, which also learns that table's kind. Through an array of tables the walk goes into its
last table. An inline table met on the way is a value that cannot be extended, except inside
an inline table (`inInline`), where it is a key defined twice. -/
def descend {α : Type} (dotted inInline : Bool)
    (f : TableKind → Entries → Except TomlError (Entries × α))
    (kind : TableKind) : List Key → Entries → Except TomlError (Entries × α)
  | [], entries => f kind entries
  | k :: ks, entries =>
    match findEntry entries k.name with
    | none => do
      let kind := if dotted then TableKind.dotted else .implicit
      let (sub, a) ← descend dotted inInline f kind ks []
      pure (setEntry entries k (.table sub kind k.span), a)
    | some (_, item) =>
      match item with
      | .array items true span =>
        match items.getLast? with
        | some (.table sub kind tspan) => do
          let (sub, a) ← descend dotted inInline f kind ks sub
          pure (setEntry entries k (.array (items.dropLast ++ [.table sub kind tspan]) true span), a)
        | some other => cannotExtend other.typeName k
        | none => cannotExtend "array" k
      | .array _ false _ => cannotExtend "array" k
      | .table sub kind span =>
        if kind = .inline then
          if inInline then failSpan "duplicate key" k.span else cannotExtend "inline table" k
        else if dotted && kind = .explicit then failSpan "duplicate key" k.span
        else do
          let (sub, a) ← descend dotted inInline f kind ks sub
          pure (setEntry entries k (.table sub kind span), a)
      | .scalar s _ => cannotExtend s.typeName k

/-- Add a key/value pair under a key path (empty for a plain key) to the entries of a table
of kind `kind`. A dotted key may only add to a dotted table, a plain key only to a table
that is not, and a key may be given only once. -/
def addPair (kind : TableKind) (entries : Entries) (path : List Key) (key : Key) (item : Item) :
    Except TomlError Entries := do
  let (entries, ()) ← descend true (kind = .inline) (fun target rows =>
      if (target = .dotted) = path.isEmpty then failSpan "duplicate key" key.span
      else match findEntry rows key.name with
        | some _ => failSpan "duplicate key" key.span
        | none => pure (setEntry rows key item, ())) kind path entries
  pure entries

/-! ### Decoding the expressions -/

/-- Decode the parts of a key. -/
def decodeKeys (src : List Char) (parts : List KeyPart) : Except TomlError (List Key) :=
  parts.mapM fun p => do
    let name ← decodeKey src p
    pure ⟨name, p.span⟩

/-- Split a decoded dotted key into its path and its last part. -/
def splitKey (keys : List Key) : List Key × Key :=
  (keys.dropLast, keys.getLast?.getD ⟨"", ⟨0, 0⟩⟩)

mutual
/-- Decode a value as written. -/
def decodeValue (src : List Char) : Value → Except TomlError Item
  | .scalar span kind => do
    let s ← decodeScalar src span kind
    pure (.scalar s span)
  | .array span items => do
    let items ← decodeItems src items
    pure (.array items false span)
  | .inlineTable span entries => do
    let entries ← decodeEntries src [] entries
    pure (.table entries .inline span)

/-- Decode array items. -/
def decodeItems (src : List Char) : List Value → Except TomlError (List Item)
  | [] => pure []
  | v :: vs => do
    let item ← decodeValue src v
    let items ← decodeItems src vs
    pure (item :: items)

/-- Decode the pairs of an inline table into its entries. -/
def decodeEntries (src : List Char) (acc : Entries) :
    List (List KeyPart × Value) → Except TomlError Entries
  | [] => pure acc
  | (parts, v) :: rest => do
    let keys ← decodeKeys src parts
    let item ← decodeValue src v
    let (path, key) := splitKey keys
    let acc ← addPair .inline acc path key item
    decodeEntries src acc rest
end

/-- A table header being filled. -/
structure Header where
  path : List Key
  key : Key
  span : Span
  isArray : Bool

/-- A document being assembled: the root's entries, the entries of the table being filled,
and its header (none while the root's own pairs are read). -/
structure Assembly where
  root : Entries
  current : Entries
  header : Option Header

namespace Assembly

/-- Attach the table being filled to the tree. -/
def finishTable (a : Assembly) : Except TomlError Assembly :=
  match a.header with
  | none => pure { a with root := a.current, current := [] }
  | some h =>
    let table := Item.table a.current .explicit h.span
    if h.isArray then do
      let (root, ()) ← descend false false (fun _ parent =>
          match findEntry parent h.key.name with
          | none => pure (setEntry parent h.key (.array [table] true h.span), ())
          | some (k, .array items true span) => pure (setEntry parent k (.array (items ++ [table]) true span), ())
          | some _ => failSpan "duplicate key" h.key.span) .explicit h.path a.root
      pure ⟨root, [], none⟩
    else do
      let (root, ()) ← descend false false (fun _ parent => pure (setEntry parent h.key table, ())) .explicit h.path a.root
      pure ⟨root, [], none⟩

/-- Start filling the table of a header. A plain header takes over an implicit table of its
name; any other value of that name makes it a duplicate. -/
def startTable (a : Assembly) (h : Header) : Except TomlError Assembly :=
  if h.isArray then pure { a with current := [], header := some h }
  else do
    let (root, current) ← descend false false (fun _ parent =>
        match findEntry parent h.key.name with
        | none => pure (parent, [])
        | some (_, .table sub .implicit _) => pure (removeEntry parent h.key.name, sub)
        | some _ => failSpan "duplicate key" h.key.span) .explicit h.path a.root
    pure ⟨root, current, some h⟩

/-- Take one expression. -/
def take (src : List Char) (a : Assembly) : Expression → Except TomlError Assembly
  | .keyValue parts v => do
    let keys ← decodeKeys src parts
    let item ← decodeValue src v
    let (path, key) := splitKey keys
    let current ← addPair .explicit a.current path key item
    pure { a with current := current }
  | .table parts span => do
    let a ← a.finishTable
    let keys ← decodeKeys src parts
    let (path, key) := splitKey keys
    a.startTable ⟨path, key, span, false⟩
  | .arrayTable parts span => do
    let a ← a.finishTable
    let keys ← decodeKeys src parts
    let (path, key) := splitKey keys
    a.startTable ⟨path, key, span, true⟩

end Assembly

/-- Assemble the expressions of a document into the entries of its root table. -/
def assemble (src : List Char) (exprs : List Expression) : Except TomlError Entries := do
  let a ← exprs.foldlM (Assembly.take src) ⟨[], [], none⟩
  let a ← a.finishTable
  pure a.root

/-- Read a TOML text into the entries of its root table, or its first error. -/
def readTable (src : List Char) : Except TomlError Entries :=
  match readDocument src with
  | .error e => .error e.toError
  | .ok exprs => assemble src exprs

end Toml

end Tagweave
