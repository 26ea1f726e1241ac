import Rekey.Failure.Causes
import Rekey.File.ObjectPath
import Std.Data.ExtTreeMap

/-!
# An object storage in memory

Objects by the normal form of their path. Renaming copies and then deletes, so renaming an object
to its own path deletes it. Files that others have put there keep their names, so one whose name is
no normal form can be listed and never be reached.
-/

namespace Rekey

/-- An object storage in memory. -/
structure MemoryObjects where
  files : Std.ExtTreeMap String String

namespace MemoryObjects

/-- A storage without objects. -/
def empty : MemoryObjects := ⟨∅⟩

instance : Inhabited MemoryObjects := ⟨empty⟩

/-- The object at a path. -/
def get? (o : MemoryObjects) (path : String) : Option String :=
  o.files[ObjectPath.normal path]?

/-- Stores an object, or replaces the one at the same path. -/
def insert (o : MemoryObjects) (path data : String) : MemoryObjects :=
  ⟨o.files.insert (ObjectPath.normal path) data⟩

/-- The name of a file in a directory: empty segments and segments of one point say nothing. -/
def fileName (path : String) : String :=
  "/".intercalate ((Text.cutText '/' path).filter fun seg => !seg.isEmpty && seg != ".")

/-- Puts a file under its own name among the objects, as in a directory that others write to. -/
def place (o : MemoryObjects) (path data : String) : MemoryObjects :=
  ⟨o.files.insert (fileName path) data⟩

/-- The objects with their paths, in the order of the paths. An object at the root is in no list,
since a list holds what stands below the root. -/
def list (o : MemoryObjects) : List (String × String) :=
  o.files.toList.filter (!·.1.isEmpty)

/-- Removes the object at a path. -/
def erase (o : MemoryObjects) (path : String) : MemoryObjects :=
  ⟨o.files.erase (ObjectPath.normal path)⟩

/-- Whether an object stands at a path. -/
def contains (o : MemoryObjects) (path : String) : Bool :=
  (o.get? path).isSome

/-- Copies an object. -/
def copy (o : MemoryObjects) (target source : String) : Except ObjectFault MemoryObjects :=
  match o.get? source with
  | none => .error (.notFound (ObjectPath.normal source))
  | some data => .ok (o.insert target data)

/-- Moves an object. -/
def move (o : MemoryObjects) (target source : String) : Except ObjectFault MemoryObjects :=
  (o.copy target source).map (·.erase source)

end MemoryObjects

end Rekey
