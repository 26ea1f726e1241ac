import Rekey.Text.Cut

/-!
# Quoted identifiers

A name in a statement is quoted, so that it stands for itself whatever it holds. Points in a name
separate the parts of a qualified name, and each part is quoted by itself.
-/

namespace Rekey.Sql

open Rekey.Text (cut join)

/-- A part of a name between quotes, in which a quote is written twice. -/
def quotedPart (cs : List Char) : List Char :=
  '"' :: cs.flatMap (fun c => if c = '"' then ['"', '"'] else [c]) ++ ['"']

/-- The parts of a qualified name. -/
def nameParts (name : String) : List (List Char) :=
  cut '.' name.toList

/-- A name with its parts quoted. -/
def quotedName (name : String) : String :=
  String.ofList (join ['.'] ((nameParts name).map quotedPart))

/-- The last part of a qualified name. -/
def lastPart (name : String) : String :=
  String.ofList ((nameParts name).getLast?.getD [])

end Rekey.Sql
