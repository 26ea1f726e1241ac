import Rekey.Network.Url
import Rekey.Proofs.Files.Paths
import Rekey.Proofs.Text.Percent
import Rekey.Proofs.Text.Utf8

/-!
# Form parameters are read back

A form value holds no mark that separates parameters, and reading it gives the text that it was
written from. A parameter that is added to an address is therefore the last one that is read from
it, and the others are read as before.
-/

namespace Rekey

namespace Text

/-- Parts on both sides of a separator are cut apart. -/
theorem cut_append_cons (sep : Char) (cs ds : List Char) :
    cut sep (cs ++ sep :: ds) = cut sep cs ++ cut sep ds := by
  rw [cut_eq_splitOn, cut_eq_splitOn, cut_eq_splitOn]
  exact List.splitOn_append_cons_self ..

end Text

namespace Url

open Text (cut)

/-! ## Form values -/

/-- How a character is written in a form value. -/
def formChar (c : Char) : List Char :=
  if c == ' ' then ['+']
  else if c.isAlphanum || c == '*' || c == '-' || c == '.' || c == '_' then [c]
  else percentChar c

theorem formValue_eq (s : String) : formValue s = s.toList.flatMap formChar := rfl

theorem mem_formChar {c x : Char} (h : x ∈ formChar c) :
    x.isAlphanum = true ∨ x ∈ ['+', '*', '-', '.', '_', '%'] := by
  unfold formChar at h
  split at h
  · exact .inr (List.mem_cons.mpr (.inl (List.mem_singleton.mp h)))
  split at h
  · rename_i hplain
    cases List.mem_singleton.mp h
    simp only [Bool.or_eq_true, beq_iff_eq] at hplain
    simp only [List.mem_cons, List.not_mem_nil, or_false]
    tauto
  · rcases mem_percentChar h with rfl | hdigit
    · exact .inr (by simp)
    · exact .inl hdigit

/-- No mark that separates parameters stands in a form value. -/
theorem not_mem_formValue {x : Char} (s : String) (h : x = '&' ∨ x = '=') : x ∉ formValue s := by
  intro hmem
  rw [formValue_eq, List.mem_flatMap] at hmem
  obtain ⟨c, -, hc⟩ := hmem
  rcases h with rfl | rfl <;> exact absurd (mem_formChar hc) (by decide)

/-- How a character is written when plus signs are blanks again. -/
theorem formChar_blanks (c : Char) :
    (formChar c).map (fun x => if x == '+' then ' ' else x) = percentChar c ∨
      (formChar c).map (fun x => if x == '+' then ' ' else x) = [c] ∧ c ≠ '%' := by
  unfold formChar
  split
  · rename_i hblank
    rw [eq_of_beq hblank]
    exact .inr ⟨rfl, by decide⟩
  split
  · rename_i hplain
    refine .inr ⟨?_, ?_⟩
    · have hplus : c ≠ '+' := by
        rintro rfl
        exact absurd hplain (by decide)
      simp [hplus]
    · rintro rfl
      exact absurd hplain (by decide)
  · -- no escape holds a plus sign
    refine .inl ((List.map_congr_left fun x hx => ?_).trans (List.map_id _))
    have hplus : x ≠ '+' := by
      rintro rfl
      rcases mem_percentChar hx with hpercent | hdigit
      · exact absurd hpercent (by decide)
      · exact absurd hdigit (by decide)
    simp [hplus]

/-- A form value is read as the text that it was written from. -/
theorem formText_formValue (s : String) : formText (formValue s) = s.toList := by
  have hdecoded := Text.percentDecode_flatMap formChar_blanks s.toList
  rw [formText, formValue_eq, List.map_flatMap, hdecoded, Text.utf8Chars_flatMap]

/-! ## Parameters of an address -/

/-- A parameter as a form writes it. -/
def formPair (name value : String) : List Char :=
  formValue name ++ '=' :: formValue value

theorem not_mem_formPair (name value : String) : '&' ∉ formPair name value := by
  simp [formPair, not_mem_formValue]

/-- What stands before the equals sign is the name, and what follows it the value. -/
theorem upTo_formPair (name value : String) :
    upTo (· == '=') (formPair name value) = (formValue name, '=' :: formValue value) := by
  have hname : ∀ x ∈ formValue name, (!(x == '=')) = true := by
    intro x hx
    have hne : x ≠ '=' := by
      rintro rfl
      exact not_mem_formValue name (.inr rfl) hx
    simp [hne]
  simp only [upTo, formPair]
  rw [List.takeWhile_append_of_pos hname, List.dropWhile_append_of_pos hname]
  simp

/-- The parameters that are read from a query. -/
theorem parameters_eq (u : Url) : u.parameters =
    ((cut '&' (u.query.getD [])).filter (!·.isEmpty)).map fun pair =>
      (formText (upTo (· == '=') pair).1, formText (upTo (· == '=') pair).2.tail) := rfl

/-- The query after a parameter was added is cut into its old parts and the parameter. -/
theorem cut_addParameter (u : Url) (name value : String) :
    (cut '&' ((u.addParameter name value).query.getD [])).filter (!·.isEmpty) =
      (cut '&' (u.query.getD [])).filter (!·.isEmpty) ++ [formPair name value] := by
  have hpair : cut '&' (formValue name ++ '=' :: formValue value) = [formPair name value] :=
    Text.cut_of_not_mem (not_mem_formPair name value)
  have hkept : (!(formPair name value).isEmpty) = true := by simp [formPair]
  unfold addParameter
  dsimp only
  split
  · rename_i hnone
    rw [hnone, Option.getD_some, hpair, List.filter_singleton, hkept]
    rfl
  · rename_i hempty
    rw [hempty, Option.getD_some, hpair, List.filter_singleton, hkept]
    rfl
  · rename_i q _ hq
    rw [hq, Option.getD_some, Text.cut_append_cons, hpair, List.filter_append,
      List.filter_singleton, hkept]
    rfl

/-- A parameter that is added is read last, after those that were there. -/
theorem parameters_addParameter (u : Url) (name value : String) :
    (u.addParameter name value).parameters = u.parameters ++ [(name.toList, value.toList)] := by
  rw [parameters_eq, cut_addParameter, List.map_append, ← parameters_eq, List.map_singleton,
    upTo_formPair, List.tail_cons, formText_formValue, formText_formValue]

end Url

end Rekey
