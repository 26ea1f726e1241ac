import Rekey.Record.Basic
import Mathlib.Data.List.DropRight

/-!
# Trimmed texts

Trimming a text twice is trimming it once, so an email key and a tenant are trimmed as they stand.
White space around a text makes no difference to what trimming leaves of it.
-/

namespace Rekey

namespace Text

theorem trimEnd_eq_rdropWhile (cs : List Char) : trimEnd cs = cs.rdropWhile isBlank := rfl

/-- What begins with a character that is no white space keeps it at the start. -/
theorem trimStart_trimEnd_cons {c : Char} {cs : List Char} (hc : isBlank c = false) :
    trimStart (trimEnd (c :: cs)) = trimEnd (c :: cs) := by
  have hne : trimEnd (c :: cs) ≠ [] := by
    intro h
    simp [trimEnd_eq_nil_iff, hc] at h
  obtain ⟨d, rest, hcons⟩ := List.exists_cons_of_ne_nil hne
  have hhead : d :: rest <+: c :: cs := by
    rw [← hcons, trimEnd_eq_rdropWhile]
    exact List.rdropWhile_prefix isBlank _
  obtain ⟨rfl, -⟩ := List.cons_prefix_cons.mp hhead
  rw [hcons]
  exact List.dropWhile_cons_of_neg (by simp [hc])

theorem trimChars_trimChars (cs : List Char) : trimChars (trimChars cs) = trimChars cs := by
  unfold trimChars
  cases hstart : trimStart cs with
  | nil => rfl
  | cons c rest =>
    have hc : isBlank c = false := by
      have hhead := List.head?_dropWhile_not isBlank cs
      rw [show cs.dropWhile isBlank = c :: rest from hstart] at hhead
      simpa using hhead
    rw [trimStart_trimEnd_cons hc]
    simp only [trimEnd_eq_rdropWhile, List.rdropWhile_idempotent]

/-- Trimming twice is trimming once. -/
@[simp] theorem trim_trim (s : String) : trim (trim s) = trim s := by
  simp [trim, trimChars_trimChars]

theorem trimStart_append_of_blank {before : List Char} (h : before.all isBlank = true)
    (cs : List Char) : trimStart (before ++ cs) = trimStart cs := by
  have hnil : before.dropWhile isBlank = [] := trimStart_eq_nil_iff.mpr h
  simp [trimStart, List.dropWhile_append, hnil]

theorem trimEnd_append_of_blank {after : List Char} (h : after.all isBlank = true)
    (cs : List Char) : trimEnd (cs ++ after) = trimEnd cs := by
  have hrev : trimStart (after.reverse ++ cs.reverse) = trimStart cs.reverse :=
    trimStart_append_of_blank (by rwa [List.all_reverse]) _
  simp only [trimEnd, List.reverse_append]
  exact congrArg List.reverse hrev

/-- White space around a text falls away. -/
theorem trim_padded {before after : String} (hbefore : isBlankText before = true)
    (hafter : isBlankText after = true) (s : String) : trim (before ++ s ++ after) = trim s := by
  simp only [trim, trimChars, String.toList_append, List.append_assoc]
  rw [trimStart_append_of_blank hbefore]
  by_cases hs : trimStart s.toList = []
  · -- nothing is left of a blank text, whatever white space follows it
    have hblank : s.toList.all isBlank = true := trimStart_eq_nil_iff.mp hs
    rw [trimStart_append_of_blank hblank, trimStart_eq_nil_iff.mpr hafter, hs]
  · have hkept : trimStart (s.toList ++ after.toList) = trimStart s.toList ++ after.toList := by
      rw [trimStart] at hs
      simp [trimStart, List.dropWhile_append, hs]
    rw [hkept, trimEnd_append_of_blank hafter]

/-- A text without white space is trimmed as it stands. -/
theorem trim_of_unblank {s : String} (h : ∀ c ∈ s.toList, isBlank c = false) : trim s = s := by
  have hstart : trimStart s.toList = s.toList := by
    cases hs : s.toList with
    | nil => rfl
    | cons c rest => exact List.dropWhile_cons_of_neg (by simp [h c (by simp [hs])])
  have hend : trimEnd s.toList = s.toList := by
    rw [trimEnd_eq_rdropWhile, List.rdropWhile_eq_self_iff]
    intro hne
    simp [h _ (List.getLast_mem hne)]
  rw [trim, trimChars, hstart, hend, String.ofList_toList]

end Text

open Text (trim)

/-- An email key is trimmed as it stands. -/
theorem LegacyUser.trim_emailKey (u : LegacyUser) : trim u.emailKey = u.emailKey :=
  Text.trim_trim u.email

/-- A tenant is a trimmed text that is not empty. -/
theorem LegacyUser.tenant_eq_some {u : LegacyUser} {tenant : String}
    (h : u.tenant = some tenant) : tenant ≠ "" ∧ trim tenant = tenant := by
  simp only [LegacyUser.tenant, tenantOf, Option.filter_eq_some_iff, Option.map_eq_some_iff] at h
  obtain ⟨⟨raw, -, rfl⟩, hne⟩ := h
  exact ⟨by simpa using hne, Text.trim_trim raw⟩

/-- A member has a role. -/
theorem LegacyUser.grantedRoles_ne_nil {u : LegacyUser} {tenant : String}
    (h : u.tenant = some tenant) : u.grantedRoles ≠ [] := by
  unfold LegacyUser.grantedRoles
  split
  · simp
  · rename_i hroles
    simpa [h] using hroles

end Rekey
