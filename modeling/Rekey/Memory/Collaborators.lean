import Rekey.Memory.Objects
import Rekey.Memory.Provider
import Rekey.Migration.Collaborator

/-!
# Collaborators in memory

The identity provider and the object storage in memory as collaborators of a migration.
-/

namespace Rekey

/-- The provider in memory. -/
def MemoryProvider.collaborator : Provider MemoryProvider where
  name := "memory"
  accountOf email := fun p => (p.accountOf email, p)
  createAccount email := fun p => p.createAccount email

/-- A change of the objects, which stay as they are when the change fails. -/
def MemoryObjects.change (f : MemoryObjects → Except ObjectFault MemoryObjects) :
    StateM MemoryObjects (Except ObjectFault Unit) := fun o =>
  match f o with
  | .error e => (.error e, o)
  | .ok o => (.ok (), o)

/-- The object storage in memory. -/
def MemoryObjects.collaborator : ObjectStorage MemoryObjects where
  contains path := fun o => (.ok (o.contains path), o)
  copy target source := change (·.copy target source)
  move target source := change (·.move target source)

end Rekey
