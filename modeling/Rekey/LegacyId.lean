/-!
# Legacy identifiers

The old system gave its users identifiers of one shape, and only texts of that shape are ever
taken for one.
-/

namespace Rekey

/-- How many characters a legacy identifier has. -/
def legacyIdLength : Nat := 28

/-- The shape of a legacy identifier: so many ASCII letters and digits and nothing else. -/
def isLegacyId (s : String) : Bool :=
  s.toList.length == legacyIdLength && s.toList.all Char.isAlphanum

theorem isLegacyId_iff {s : String} :
    isLegacyId s = true ↔ s.toList.length = 28 ∧ ∀ c ∈ s.toList, c.isAlphanum = true := by
  simp [isLegacyId, legacyIdLength]

end Rekey
