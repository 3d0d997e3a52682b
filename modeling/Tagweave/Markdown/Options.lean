/-!
# Markdown extensions

The CommonMark engine reads plain CommonMark plus the extensions switched on here. Each has
a name, used to list the switched-on set in a fixed order.
-/

namespace Tagweave

namespace Markdown

/-- Which extensions of CommonMark to read. -/
structure Options where
  tables : Bool := false
  strikethrough : Bool := false
  footnotes : Bool := false
  tasklists : Bool := false
  smartPunctuation : Bool := false
  deriving DecidableEq, Repr

namespace Options

/-- Plain CommonMark. -/
def none : Options := {}

/-- The usual set: tables and strikethrough. -/
def standard : Options := { tables := true, strikethrough := true }

/-- Switch on the extension with this name; none for an unknown name. -/
def enable (o : Options) : String → Option Options
  | "tables" => some { o with tables := true }
  | "strikethrough" => some { o with strikethrough := true }
  | "footnotes" => some { o with footnotes := true }
  | "tasklists" => some { o with tasklists := true }
  | "smart_punctuation" => some { o with smartPunctuation := true }
  | _ => Option.none

/-- The names of the switched-on extensions, in the order tables, strikethrough,
footnotes, tasklists, smart punctuation. -/
def names (o : Options) : List String :=
  [("tables", o.tables), ("strikethrough", o.strikethrough), ("footnotes", o.footnotes),
   ("tasklists", o.tasklists), ("smart_punctuation", o.smartPunctuation)].filterMap
    fun (n, on) => if on then some n else Option.none

end Options

end Markdown

end Tagweave
