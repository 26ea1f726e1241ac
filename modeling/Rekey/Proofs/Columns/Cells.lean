import Mathlib.Data.List.Forall2
import Rekey.Column.Replacement

/-!
# Cells under replacement

`rewriteCell` is a cell after its replacement, if it has one. It works on one identifier at a time
(`CellChange`), so the length of an array, the order of its elements and its nulls stay. When no new
identifier is itself replaced, a cell that was rewritten once is not rewritten again.
-/

namespace Rekey

variable {index : MappingIndex}

/-- A cell after its replacement, if it has one. -/
def rewriteCell (index : MappingIndex) (c : Cell) : Cell :=
  (replaceCell index c).getD c

namespace Cell

/-- The identifier stands in the cell, alone or as an element of its array. -/
inductive Holds : Cell → String → Prop
  | scalar {id : String} : Holds (.scalar (some id)) id
  | element {id : String} {xs : List (Option String)} (h : some id ∈ xs) :
      Holds (.array (some xs)) id

/-- No identifier in the cell has a replacement. -/
def Settled (index : MappingIndex) (c : Cell) : Prop :=
  ∀ id, c.Holds id → index.lookup id = none

end Cell

/-- An identifier that may be null stays, or `R` relates it to what replaces it. -/
inductive IdChange (R : String → String → Prop) : Option String → Option String → Prop
  | same (x : Option String) : IdChange R x x
  | replaced {old new : String} (h : R old new) : IdChange R (some old) (some new)

/-- A cell changes one identifier at a time. -/
inductive CellChange (R : String → String → Prop) : Cell → Cell → Prop
  | scalar {x y : Option String} (h : IdChange R x y) : CellChange R (.scalar x) (.scalar y)
  | nullArray : CellChange R (.array none) (.array none)
  | array {xs ys : List (Option String)} (h : List.Forall₂ (IdChange R) xs ys) :
      CellChange R (.array (some xs)) (.array (some ys))

/-! ## Single identifiers -/

theorem replaceElement_of_none {x : Option String} (h : replaceId index x = none) :
    replaceElement index x = x := by
  simp [replaceElement, h]

theorem replaceElement_some (index : MappingIndex) (id : String) :
    replaceElement index (some id) = some ((index.lookup id).getD id) := by
  simp only [replaceElement, replaceId, Option.bind_some]
  cases index.lookup id <;> rfl

@[simp] theorem replaceElement_none (index : MappingIndex) : replaceElement index none = none := rfl

theorem idChange_replaceElement (index : MappingIndex) (x : Option String) :
    IdChange (fun old new => index.lookup old = some new) x (replaceElement index x) := by
  cases x with
  | none => exact .same none
  | some id =>
    rw [replaceElement_some]
    cases hid : index.lookup id with
    | none => exact .same (some id)
    | some new => exact .replaced hid

/-! ## Cells -/

@[simp] theorem rewriteCell_scalar (index : MappingIndex) (x : Option String) :
    rewriteCell index (.scalar x) = .scalar (replaceElement index x) := by
  simp only [rewriteCell, replaceCell, replaceElement]
  cases replaceId index x <;> rfl

@[simp] theorem rewriteCell_nullArray (index : MappingIndex) :
    rewriteCell index (.array none) = .array none := rfl

@[simp] theorem rewriteCell_array (index : MappingIndex) (xs : List (Option String)) :
    rewriteCell index (.array (some xs)) = .array (some (xs.map (replaceElement index))) := by
  simp only [rewriteCell, replaceCell, replaceIds]
  split
  · rfl
  · -- an array without replacements is what it is after replacing every element
    rename_i hnone
    have hsame : ∀ x ∈ xs, replaceElement index x = x := by
      intro x hx
      refine replaceElement_of_none (Option.not_isSome_iff_eq_none.mp fun hsome => ?_)
      exact hnone (List.any_eq_true.mpr ⟨x, hx, hsome⟩)
    rw [List.map_congr_left hsame, List.map_id']
    rfl

theorem rewriteCell_of_none {c : Cell} (h : replaceCell index c = none) :
    rewriteCell index c = c := by
  simp [rewriteCell, h]

theorem rewriteCell_of_some {c c' : Cell} (h : replaceCell index c = some c') :
    rewriteCell index c = c' := by
  simp [rewriteCell, h]

/-- Rewriting changes nothing but identifiers that have a replacement. -/
theorem cellChange_rewriteCell (index : MappingIndex) (c : Cell) :
    CellChange (fun old new => index.lookup old = some new) c (rewriteCell index c) := by
  rcases c with x | _ | xs
  · rw [rewriteCell_scalar]
    exact .scalar (idChange_replaceElement index x)
  · exact .nullArray
  · rw [rewriteCell_array]
    refine .array (List.forall₂_map_right_iff.mpr (List.forall₂_same.mpr fun x _ => ?_))
    exact idChange_replaceElement index x

/-! ## Settled cells -/

theorem replaceElement_of_lookup {x : Option String}
    (h : ∀ id, x = some id → index.lookup id = none) : replaceElement index x = x := by
  cases x with
  | none => rfl
  | some id => rw [replaceElement_some, h id rfl, Option.getD_none]

/-- A settled cell is not rewritten. -/
theorem rewriteCell_of_settled {c : Cell} (h : c.Settled index) : rewriteCell index c = c := by
  rcases c with x | _ | xs
  · rw [rewriteCell_scalar, replaceElement_of_lookup]
    rintro id rfl
    exact h id .scalar
  · rfl
  · have hsame : ∀ x ∈ xs, replaceElement index x = x := by
      intro x hx
      refine replaceElement_of_lookup fun id hid => h id (.element ?_)
      rw [← hid]
      exact hx
    rw [rewriteCell_array, List.map_congr_left hsame, List.map_id']

section Stable

variable (hstable : ∀ old new, index.lookup old = some new → index.lookup new = none)
include hstable

theorem lookup_replaceElement {x : Option String} {id : String}
    (h : replaceElement index x = some id) : index.lookup id = none := by
  cases x with
  | none => contradiction
  | some old =>
    rw [replaceElement_some] at h
    obtain rfl := Option.some.inj h
    cases hold : index.lookup old with
    | none => simpa using hold
    | some new => simpa using hstable old new hold

/-- When no new identifier is itself replaced, a cell is settled once it was rewritten. -/
theorem settled_rewriteCell (c : Cell) : (rewriteCell index c).Settled index := by
  intro id hid
  rcases c with x | _ | xs
  · rw [rewriteCell_scalar] at hid
    generalize hx : replaceElement index x = y at hid
    cases hid
    exact lookup_replaceElement hstable hx
  · cases hid
  · rw [rewriteCell_array] at hid
    generalize hxs : xs.map (replaceElement index) = ys at hid
    cases hid with
    | element hmem =>
      rw [← hxs] at hmem
      obtain ⟨x, -, hx⟩ := List.mem_map.mp hmem
      exact lookup_replaceElement hstable hx

end Stable

end Rekey
