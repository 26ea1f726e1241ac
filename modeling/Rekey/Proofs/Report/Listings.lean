import Rekey.Report.Rendering
import Rekey.Proofs.Report.Csv

/-!
# Listings are read back

The comma-separated listing of mappings is a file of its header and of one record for each mapping,
and of nothing else. The email may hold anything, because it stands between quotes; the time needs
none, because it is made of digits and a few marks.
-/

namespace Rekey

/-- A text that needs no quotes around it. -/
def Csv.Plain (s : String) : Prop :=
  s.toList.all Csv.isPlain = true

instance (s : String) : Decidable (Csv.Plain s) :=
  inferInstanceAs (Decidable (_ = true))

namespace Csv.Plain

variable {s t : String}

theorem append (hs : Plain s) (ht : Plain t) : Plain (s ++ t) := by
  rw [Plain, String.toList_append, List.all_append, Bool.and_eq_true]
  exact ⟨hs, ht⟩

theorem field (hs : Plain s) : Field s.toList s := by
  have hfield := Field.plain (List.all_eq_true.mp hs)
  rwa [String.ofList_toList] at hfield

end Csv.Plain

theorem quotedField_field (s : String) : Csv.Field (quotedField s).toList s := by
  have hfield := Csv.Field.quoted (Csv.quoted_flatMap s.toList)
  rw [String.ofList_toList] at hfield
  rwa [quotedField, String.toList_ofList, List.cons_append]

/-! ## The text of a time -/

namespace Timestamp

theorem plain_digits (n : Nat) : Csv.Plain (toString n) := by
  refine List.all_eq_true.mpr fun c hc => ?_
  have hdigit : c.isDigit = true := Nat.isDigit_of_mem_toDigits (b := 10) (by decide) (by decide)
    (Nat.toList_repr ▸ hc)
  have hne : ∀ d : Char, d.isDigit = false → (c != d) = true := by
    intro d hd
    rw [bne_iff_ne]
    rintro rfl
    rw [hd] at hdigit
    contradiction
  rw [Csv.isPlain, hne ',' rfl, hne '"' rfl, hne '\r' rfl, hne '\n' rfl]
  rfl

theorem plain_padded (width n : Nat) : Csv.Plain (padded width n) := by
  refine .append ?_ (plain_digits n)
  rw [Csv.Plain, String.toList_ofList, List.all_eq_true]
  intro c hc
  rw [List.eq_of_mem_replicate hc]
  rfl

theorem plain_yearText (year : Int) : Csv.Plain (yearText year) := by
  unfold yearText
  split
  · exact plain_padded 4 _
  · refine .append ?_ (plain_padded 4 _)
    split <;> decide

theorem plain_fractionText (nanos : Nat) : Csv.Plain (fractionText nanos) := by
  unfold fractionText
  split
  · rfl
  repeat' split
  all_goals exact .append (by decide) (plain_padded _ _)

/-- The text of a time holds no comma, quote or line break. -/
theorem plain_textWith {offset : String} (hoffset : Csv.Plain offset) (t : Timestamp) :
    Csv.Plain (t.textWith offset) := by
  have hdash : Csv.Plain "-" := by decide
  have hmark : Csv.Plain "T" := by decide
  have hcolon : Csv.Plain ":" := by decide
  unfold textWith
  dsimp only
  generalize (if t.nanos ≥ second then (1, t.nanos - second) else (0, t.nanos)) = parts
  obtain ⟨leap, nanos⟩ := parts
  exact plain_yearText _ |>.append hdash |>.append (plain_padded 2 _) |>.append hdash
    |>.append (plain_padded 2 _) |>.append hmark |>.append (plain_padded 2 _) |>.append hcolon
    |>.append (plain_padded 2 _) |>.append hcolon |>.append (plain_padded 2 _)
    |>.append (plain_fractionText nanos) |>.append hoffset

theorem plain_offsetText (t : Timestamp) : Csv.Plain t.offsetText :=
  plain_textWith (by decide) t

end Timestamp

/-! ## The listing of mappings -/

/-- Fields with commas between them and a line feed at the end are a line. -/
theorem plainRecord_line {text field : String} {texts fields : List String}
    (hfield : Csv.Field text.toList field)
    (hmore : List.Forall₂ (fun text field => Csv.Field text.toList field) texts fields) :
    Csv.Line (plainRecord (text :: texts)).toList (field :: fields) := by
  refine ⟨_, ?_, Csv.record_intercalate hfield (List.forall₂_map_left_iff.mpr hmore)⟩
  rw [plainRecord, String.toList_append, String.toList_intercalate]
  rfl

theorem mappingHeader_line : Csv.Line (plainRecord mappingHeader).toList mappingHeader := by
  have hplain : ∀ s ∈ mappingHeader, Csv.Plain s := by decide
  refine plainRecord_line (hplain _ List.mem_cons_self).field (List.forall₂_same.mpr fun s hs => ?_)
  exact (hplain s (List.mem_cons_of_mem _ hs)).field

/-- The fields of a mapping in a listing. -/
def Mapping.listedFields (m : Mapping) : List String :=
  [m.legacyId, m.email, m.newId, m.migratedAt.offsetText]

theorem mapping_line {m : Mapping} (hlegacy : Csv.Plain m.legacyId) (hnew : Csv.Plain m.newId) :
    Csv.Line
      (plainRecord [m.legacyId, quotedField m.email, m.newId, m.migratedAt.offsetText]).toList
      m.listedFields :=
  plainRecord_line hlegacy.field <|
    .cons (quotedField_field m.email) <| .cons hnew.field <|
      .cons m.migratedAt.plain_offsetText.field .nil

/-- The listing of mappings whose identifiers need no quotes is read as its header and the fields of
each mapping in order, and as nothing else. -/
theorem mappingsCsv_reads {ms : List Mapping}
    (hplain : ∀ m ∈ ms, Csv.Plain m.legacyId ∧ Csv.Plain m.newId) :
    Csv.read (mappingsCsv ms).toList = some (mappingHeader :: ms.map Mapping.listedFields) ∧
      ∀ records, Csv.File (mappingsCsv ms).toList records ↔
        records = mappingHeader :: ms.map Mapping.listedFields := by
  have hfile : Csv.File (mappingsCsv ms).toList (mappingHeader :: ms.map Mapping.listedFields) := by
    rw [mappingsCsv, String.toList_append, String.toList_join, List.flatMap_map]
    exact mappingHeader_line.file.append_lines fun m hm =>
      mapping_line (hplain m hm).1 (hplain m hm).2
  refine ⟨Csv.read_eq_some_iff.mpr hfile, fun records => ⟨fun h => h.unique hfile, ?_⟩⟩
  rintro rfl
  exact hfile

/-- Two mappings whose emails hold everything that needs quotes. -/
def Mapping.strangeEmails : List Mapping :=
  [⟨"Ada0000000000000000000000001", "\"Ada\", of,\r\n\"London\"", "user_1", ⟨0, 0⟩, default⟩,
    ⟨"Ada0000000000000000000000002", "\"", "", ⟨1704067200, 250000000⟩, default⟩]

theorem mappingsCsv_reads_strangeEmails :
    Csv.read (mappingsCsv Mapping.strangeEmails).toList = some [
      ["legacy_id", "email", "new_id", "migrated_at"],
      ["Ada0000000000000000000000001", "\"Ada\", of,\r\n\"London\"", "user_1",
        "1970-01-01T00:00:00+00:00"],
      ["Ada0000000000000000000000002", "\"", "", "2024-01-01T00:00:00.250+00:00"]] := by
  have hplain : ∀ m ∈ Mapping.strangeEmails, Csv.Plain m.legacyId ∧ Csv.Plain m.newId := by
    decide +kernel
  exact (mappingsCsv_reads hplain).1.trans (by decide +kernel)

end Rekey
