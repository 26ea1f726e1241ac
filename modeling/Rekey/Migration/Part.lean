import Rekey.Migration.Collaborator

/-!
# Collaborators of a larger world

A collaborator that works on a part of a world works on the world by leaving the rest of it alone.
-/

namespace Rekey

/-- A part of a world `ω`. -/
structure Part (ω σ : Type) where
  get : ω → σ
  set : σ → ω → ω

namespace Part

variable {ω σ τ α : Type}

/-- An action on a part. -/
def lift (p : Part ω σ) (act : StateM σ α) : StateM ω α := fun w =>
  let (a, s) := act (p.get w)
  (a, p.set s w)

/-- A store that is a part. -/
def store (p : Part ω σ) (s : Store σ τ) : Store ω τ where
  prepareMappings := p.lift s.prepareMappings
  latestMapping identifier := p.lift (s.latestMapping identifier)
  mappingsByAge := p.lift s.mappingsByAge
  legacyUsersByAge := p.lift s.legacyUsersByAge
  legacyUserById legacyId := p.lift (s.legacyUserById legacyId)
  mappedUsers := p.lift s.mappedUsers
  scan d := p.lift (s.scan d)
  update d locator cell := p.lift (s.update d locator cell)
  beginTransaction := p.lift s.beginTransaction
  putMapping t legacyId email newId := p.lift (s.putMapping t legacyId email newId)
  hasTargetUser t id := p.lift (s.hasTargetUser t id)
  addTargetUser t u := p.lift (s.addTargetUser t u)
  hasMembership t userId tenantId := p.lift (s.hasMembership t userId tenantId)
  addMembership t m := p.lift (s.addMembership t m)
  commit t := p.lift (s.commit t)
  rollback t := p.lift (s.rollback t)

/-- A provider that is a part. -/
def provider (p : Part ω σ) (c : Provider σ) : Provider ω where
  name := c.name
  accountOf email := p.lift (c.accountOf email)
  createAccount email := p.lift (c.createAccount email)

/-- An object storage that is a part. -/
def storage (p : Part ω σ) (s : ObjectStorage σ) : ObjectStorage ω where
  contains path := p.lift (s.contains path)
  copy target source := p.lift (s.copy target source)
  move target source := p.lift (s.move target source)

end Part

end Rekey
