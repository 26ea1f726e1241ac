import Rekey.Text.Cut
import Rekey.Text.Percent

/-!
# Object paths

An object store compares paths in one form: segments without empty ones between them, with every
character that could be misread written as an escape.
-/

namespace Rekey

namespace ObjectPath

/-- The visible characters that mean something else to a path or to a pattern. -/
def reserved : List Char :=
  ['\\', '\x7b', '^', '\x7d', '%', '\x60', ']', '"', '>', '[', '~', '<', '#', '|', '*', '?']

/-- A character that a path segment holds as it is. -/
def isPlain (c : Char) : Bool :=
  0x20 ≤ c.toNat && c.toNat < 0x7F && !reserved.contains c

/-- A segment with its escapes. The segments of one and of two points would name places relative
to others, so their points are escaped. -/
def segment (cs : List Char) : List Char :=
  if cs == ['.'] || cs == ['.', '.'] then cs.flatMap percentChar
  else cs.flatMap fun c => if isPlain c then [c] else percentChar c

/-- The segments of a path. -/
def segments (path : String) : List String :=
  ((Text.cut '/' path.toList).filter (!·.isEmpty)).map fun s => String.ofList (segment s)

/-- The one form of a path. -/
def normal (path : String) : String :=
  "/".intercalate (segments path)

end ObjectPath

end Rekey
