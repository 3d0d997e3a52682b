import Tagweave.Toml.Scalar

/-!
# Error reports

An error is reported with the line it points at:

```
TOML parse error at line 2, column 11
  |
2 | element = 5
  |           ^
invalid type: integer `5`, expected a string
```

The line and column are found from the byte offset of the span's start. The column counts
the characters before it on its line, except when the character at the offset is not ASCII,
where it counts bytes. An offset at the very end of the text is taken as one past its last
byte, so that the last line break still belongs to the line before it. The marks under the
line are as many as the span has bytes, cut at the end of the line, and at least one.
-/

namespace Tagweave

namespace Toml

/-- Whether a byte continues a UTF-8 sequence. -/
def isContinuation (b : UInt8) : Bool := b &&& 0xC0 == 0x80

/-- The zero-based line and column of a byte offset in a text. -/
def position (bytes : List UInt8) (index : Nat) : Nat × Nat :=
  if bytes.isEmpty then (0, index)
  else
    let safe := min index (bytes.length - 1)
    let offset := index - safe
    let before := bytes.take safe
    let lineStart := match (before.reverse.findIdx? (· == 10)) with
      | some k => safe - k
      | none => 0
    let line := ((bytes.take lineStart).filter (· == 10)).length
    let slice := (bytes.drop lineStart).take (safe + 1 - lineStart)
    let complete := match bytes[safe + 1]? with
      | some b => !isContinuation b
      | none => true
    let column := if complete then (slice.filter fun b => !isContinuation b).length - 1
      else safe - lineStart
    (line, column + offset)

/-- The lines of a text, split at line feeds only. -/
def splitLines (s : String) : List String :=
  (s.toList.splitOn '\n').map String.ofList

/-- The byte offset of a character index. -/
def byteOffset (src : List Char) (i : Nat) : Nat := (src.take i).foldr (fun c n => c.utf8Size + n) 0

/-- The report of an error in a text. -/
def TomlError.report (e : TomlError) (text : String) : String :=
  let src := text.toList
  let bytes := text.toUTF8.toList
  let start := byteOffset src e.span.start
  let stop := byteOffset src e.span.stop
  let (line, column) := position bytes start
  let lineNo := toString (line + 1)
  let content := (splitLines text).getD line ""
  let width := min (stop - start) (content.utf8ByteSize - column)
  let gutter := String.ofList (List.replicate (lineNo.length + 1) ' ')
  "TOML parse error at line " ++ lineNo ++ ", column " ++ toString (column + 1) ++ "\n" ++
    gutter ++ "|\n" ++
    lineNo ++ " | " ++ content ++ "\n" ++
    gutter ++ "|" ++ String.ofList (List.replicate (column + 1) ' ') ++
    String.ofList (List.replicate (max 1 width) '^') ++ "\n" ++
    e.message ++ "\n"

end Toml

end Tagweave
