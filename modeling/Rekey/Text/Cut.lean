/-!
# Cutting text at a separator

A text with `n` separators has `n + 1` parts, and the parts with the separator between them are
the text again.
-/

namespace Rekey.Text

/-- The parts of a character list between separators. -/
def cut (sep : Char) : List Char → List (List Char)
  | [] => [[]]
  | c :: r =>
    if c = sep then [] :: cut sep r
    else
      match cut sep r with
      | p :: ps => (c :: p) :: ps
      | [] => [[c]]

/-- Parts with a separator between them. -/
def join (sep : List Char) : List (List Char) → List Char
  | [] => []
  | [p] => p
  | p :: q :: r => p ++ sep ++ join sep (q :: r)

theorem cut_ne_nil (sep : Char) (cs : List Char) : cut sep cs ≠ [] := by
  fun_cases cut sep cs <;> simp

theorem join_cons_head (sep : List Char) (c : Char) (p : List Char) (ps : List (List Char)) :
    join sep ((c :: p) :: ps) = c :: join sep (p :: ps) := by
  cases ps <;> simp [join]

/-- Joining what has been cut gives the text back. -/
theorem join_cut (sep : Char) (cs : List Char) : join [sep] (cut sep cs) = cs := by
  fun_induction cut sep cs with
  | case1 => rfl
  | case2 r ih =>
    obtain ⟨p, ps, h⟩ := List.exists_cons_of_ne_nil (cut_ne_nil sep r)
    rw [h] at ih
    simp [h, join, ih]
  | case3 c r _ p ps h ih =>
    rw [h] at ih
    rw [join_cons_head, ih]
  | case4 c r _ h => exact absurd h (cut_ne_nil sep r)

/-- The parts of a text between separators. -/
def cutText (sep : Char) (s : String) : List String :=
  (cut sep s.toList).map String.ofList

end Rekey.Text
