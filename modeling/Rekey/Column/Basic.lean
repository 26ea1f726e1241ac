import Rekey.Json.Reading
import Rekey.Text.Quoted

/-!
# Columns that hold identifiers

A descriptor names a column in which identifiers of the old system are stored, one in a cell or
several in an array. Rows are addressed by a locator: the value of a key column when the
descriptor names one, else the physical position of the row.
-/

namespace Rekey

open Rekey.Text (quoted quotedOption)

/-- Whether a cell holds one identifier or an array of them. -/
inductive CellKind where
  | scalar
  | array
deriving DecidableEq, Repr, Inhabited

/-- The name of a kind. -/
def CellKind.text : CellKind → String
  | scalar => "scalar"
  | array => "array"

/-- The kinds by name. -/
def CellKind.named : List (String × CellKind) :=
  [scalar, array].map fun k => (k.text, k)

/-- A column that holds identifiers. -/
structure Descriptor where
  table : String
  column : String
  kind : CellKind
  key : Option String
deriving DecidableEq, Repr, Inhabited

/-- What addresses a row of a table. -/
abbrev Locator := String

/-- The content of one cell. Cells and elements may be null. -/
inductive Cell where
  | scalar (value : Option String)
  | array (items : Option (List (Option String)))
deriving DecidableEq, Repr, Inhabited

/-- A null cell of a kind. -/
def Cell.null : CellKind → Cell
  | .scalar => .scalar none
  | .array => .array none

/-- A row as a scan of one column shows it. -/
structure ScannedRow where
  locator : Locator
  cell : Cell
deriving DecidableEq, Repr, Inhabited

namespace Descriptor

/-- The short text of a descriptor. -/
def text (d : Descriptor) : String :=
  d.table ++ "." ++ d.column ++ " (" ++ d.kind.text ++ ")"

/-- The text of a descriptor with all its parts. -/
def fullText (d : Descriptor) : String :=
  let kind := match d.kind with
    | .scalar => "Scalar"
    | .array => "Array"
  "ColumnDescriptor \x7b table: " ++ quoted d.table ++ ", column: " ++ quoted d.column ++
    ", kind: " ++ kind ++ ", key: " ++ quotedOption d.key ++ " \x7d"

/-- The written form of a descriptor; an absent key is left out. -/
def toJson (d : Descriptor) : Json.Value := .object <|
  [("table", .string d.table), ("column", .string d.column), ("kind", .string d.kind.text)] ++
    match d.key with
    | none => []
    | some key => [("key", .string key)]

/-- The written form of a list of descriptors. -/
def listToJson (ds : List Descriptor) : Json.Value :=
  .array (ds.map toJson)

/-- Reads a descriptor. -/
def read : Json.Reader Descriptor := fun d => do
  let found ← Json.readFields [
    .required "table" Json.readText,
    .required "column" Json.readText,
    .required "kind" (Json.readChoice CellKind.named),
    .trailing "key" Json.readText] d
  pure {
    table := ← found.get "table" Json.readText
    column := ← found.get "column" Json.readText
    kind := ← found.get "kind" (Json.readChoice CellKind.named)
    key := ← found.get? "key" Json.readText }

end Descriptor

end Rekey
