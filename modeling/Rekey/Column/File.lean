import Rekey.Failure.Basic
import Rekey.Text.Blank

/-!
# Descriptor files

A descriptor file is a JSON list of descriptors. Each must name a table and a column.
-/

namespace Rekey.Descriptor

open Rekey.Text (isBlankText)

/-- A descriptor that names both a table and a column. -/
def isComplete (d : Descriptor) : Bool :=
  !isBlankText d.table && !isBlankText d.column

/-- Accepts a list of descriptors unless one of them is incomplete. -/
def checkAll (ds : List Descriptor) : Except Failure (List Descriptor) :=
  match ds.find? (!·.isComplete) with
  | some d => .error (.config (.descriptorIncomplete d))
  | none => .ok ds

/-- The descriptors that a text lists. -/
def parseList (text : String) : Except Failure (List Descriptor) :=
  match Json.readFrom (Json.readList read) text with
  | .error p => .error (.json p)
  | .ok ds => checkAll ds

/-- The descriptors in a file whose content could or could not be had. -/
def loadList (path : String) : Except String ByteArray → Except Failure (List Descriptor)
  | .error reason => .error (.config (.descriptorFileUnreadable path reason))
  | .ok bytes =>
    match String.fromUTF8? bytes with
    | some text => parseList text
    | none =>
      .error (.config (.descriptorFileUnreadable path "stream did not contain valid UTF-8"))

end Rekey.Descriptor
