import Rekey.Proofs.Columns.Change

/-!
# Arrays under replacement

Whether an array has a replacement is decided by one flag over all its elements, and what the
replacement holds by each element alone. The two agree: an array has a replacement exactly when one
of its elements has one, and an array after replacement is its elements after replacement, so
replacing goes through concatenation. Replacing is over after one pass for every array exactly when
no new identifier is itself replaced.
-/

namespace Rekey

variable {index : MappingIndex} {id : String} {x : Option String} {xs ys : List (Option String)}

/-- An array after its replacement, if it has one. -/
def rewriteIds (index : MappingIndex) (xs : List (Option String)) : List (Option String) :=
  (replaceIds index (some xs)).getD xs

/-! ## Single elements -/

/-- An identifier has no replacement if it has another shape or is not entered. -/
theorem MappingIndex.lookup_eq_none_iff :
    index.lookup id = none ↔ ¬ (isLegacyId id = true ∧ id ∈ index.entries) := by
  unfold MappingIndex.lookup MappingIndex.get?
  split
  · rename_i hshape
    rw [← Option.not_isSome_iff_eq_none, Std.ExtTreeMap.isSome_getElem?_iff_mem]
    exact ⟨fun habsent h => habsent h.2, fun h hmem => h ⟨hshape, hmem⟩⟩
  · rename_i hshape
    exact iff_of_true rfl fun h => hshape h.1

theorem replaceElement_eq_or (index : MappingIndex) (x : Option String) :
    replaceElement index x = (replaceId index x).or x := by
  unfold replaceElement
  cases replaceId index x <;> rfl

/-! ## Whole arrays -/

/-- An array has no replacement exactly if it is settled as a cell. -/
theorem replaceIds_eq_none_iff_settled :
    replaceIds index (some xs) = none ↔ (Cell.array (some xs)).Settled index := by
  constructor
  · rintro hnone id (_ | hmem)
    by_contra hfound
    have hany : (xs.any fun x => (replaceId index x).isSome) = true :=
      List.any_eq_true.mpr ⟨some id, hmem, Option.isSome_iff_ne_none.mpr hfound⟩
    simp [replaceIds, hany] at hnone
  · intro hsettled
    have hany : ¬ (xs.any fun x => (replaceId index x).isSome) = true := by
      intro hany
      obtain ⟨x, hx, hsome⟩ := List.any_eq_true.mp hany
      cases x with
      | none => contradiction
      | some id =>
        have hid : index.lookup id = none := hsettled id (.element hx)
        simp [replaceId, hid] at hsome
    rw [replaceIds, if_neg hany]

/-- The replacement of an array holds its elements after replacement. -/
theorem replaceIds_eq_some (h : replaceIds index (some xs) = some ys) :
    ys = xs.map (replaceElement index) := by
  dsimp only [replaceIds] at h
  split at h
  · exact (Option.some.inj h).symm
  · contradiction

theorem rewriteCell_eq_rewriteIds (index : MappingIndex) (xs : List (Option String)) :
    rewriteCell index (.array (some xs)) = .array (some (rewriteIds index xs)) := by
  dsimp only [rewriteCell, rewriteIds, replaceCell]
  cases replaceIds index (some xs) <;> rfl

/-- With or without a replacement, an array is its elements after replacement. -/
theorem rewriteIds_eq_map (index : MappingIndex) (xs : List (Option String)) :
    rewriteIds index xs = xs.map (replaceElement index) := by
  have harray := (rewriteCell_eq_rewriteIds index xs).symm.trans (rewriteCell_array index xs)
  exact Option.some.inj (Cell.array.inj harray)

/-- When no new identifier is itself replaced, an array has no second replacement. -/
theorem replaceIds_rewriteIds (hstable : index.Stable) (xs : List (Option String)) :
    replaceIds index (some (rewriteIds index xs)) = none := by
  rw [replaceIds_eq_none_iff_settled, ← rewriteCell_eq_rewriteIds]
  exact settled_rewriteCell hstable _

/-- What the array of one identifier is replaced by tells whether its new identifier is replaced. -/
theorem stable_of_replaceIds_rewriteIds
    (h : ∀ xs, replaceIds index (some (rewriteIds index xs)) = none) : index.Stable := by
  intro old new hnew
  have hsettled := replaceIds_eq_none_iff_settled.mp (h [some old])
  refine hsettled new (.element ?_)
  rw [rewriteIds_eq_map, List.map_singleton, replaceElement_some, hnew]
  exact List.mem_singleton_self _

/-- Replacing in an array, element by element. An array has no replacement exactly if it holds no
identifier of the old shape that is entered; a replacement is as long as the array and holds in each
place the replacement of the element there, or the element; the arrays after replacement of two
parts make up that of the whole; and no array is replaced a second time exactly if no new
identifier is itself replaced. -/
theorem replaceIds_elementwise (index : MappingIndex) :
    (∀ xs, replaceIds index (some xs) = none ↔
      ∀ id, some id ∈ xs → ¬ (isLegacyId id = true ∧ id ∈ index.entries)) ∧
    (∀ xs ys, replaceIds index (some xs) = some ys → ys.length = xs.length ∧
      ∀ (i : Nat) (hi : i < xs.length), ys[i]? = some ((replaceId index xs[i]).or xs[i])) ∧
    (∀ xs zs, rewriteIds index (xs ++ zs) = rewriteIds index xs ++ rewriteIds index zs) ∧
    ((∀ xs, replaceIds index (some (rewriteIds index xs)) = none) ↔ index.Stable) := by
  refine ⟨fun xs => ?_, fun xs ys h => ?_, fun xs zs => ?_,
    stable_of_replaceIds_rewriteIds, replaceIds_rewriteIds⟩
  · rw [replaceIds_eq_none_iff_settled]
    constructor
    · intro hsettled id hmem
      exact MappingIndex.lookup_eq_none_iff.mp (hsettled id (.element hmem))
    · rintro hnone id (_ | hmem)
      exact MappingIndex.lookup_eq_none_iff.mpr (hnone id hmem)
  · obtain rfl := replaceIds_eq_some h
    refine ⟨List.length_map _, fun i hi => ?_⟩
    rw [List.getElem?_map, List.getElem?_eq_getElem hi, Option.map_some, replaceElement_eq_or]
  · rw [rewriteIds_eq_map, rewriteIds_eq_map, rewriteIds_eq_map, List.map_append]

/-- Nulls, other texts and identifiers that are not entered stay where they are. -/
example :
    let index := MappingIndex.empty.insert "Ada0000000000000000000000001" "u1"
    replaceIds index (some [none, some "Ada0000000000000000000000001", some "x",
        some "Ada0000000000000000000000002"]) =
      some [none, some "u1", some "x", some "Ada0000000000000000000000002"] := by
  decide +kernel

end Rekey
