import Mathlib.Algebra.GroupWithZero.Nat
import Mathlib.Algebra.Order.BigOperators.Group.List
import Mathlib.Algebra.Order.Group.Nat
import Rekey.Column.File
import Rekey.Proofs.Report.Listings

/-!
# Files without quotes

A report on columns writes every field as it is. A file is never shorter than the fields of its
records with a character behind each, and longer if one of them needs quotes (`File.length_le`).
Lines of fields that are written as they are have just that length, so they are a file of these
fields exactly when none of them needs quotes. The names of tables and columns are the only fields
of a report that may need them.
-/

namespace Rekey

namespace Csv

variable {w text : List Char} {field : String} {fields : List String} {records : List (List String)}

/-! ## How long a file is -/

/-- The fewest characters that a field takes in a file: its own, the one behind it, and quotes around
it if it needs them. -/
def leastLength (field : String) : Nat :=
  field.toList.length + if Plain field then 1 else 3

theorem Quoted.length_le (h : Quoted w text) : text.length ≤ w.length := by
  induction h with
  | nil => exact Nat.le_refl 0
  | char _ _ ih =>
    simp only [List.length_append, List.length_cons, List.length_nil]
    omega
  | quote _ ih =>
    simp only [List.length_append, List.length_cons, List.length_nil]
    omega

theorem Field.length_le (h : Field w field) : leastLength field ≤ w.length + 1 := by
  unfold leastLength
  cases h with
  | plain hplain =>
    have hneeds : Plain (.ofList w) := by
      rw [Plain, String.toList_ofList]
      exact List.all_eq_true.mpr hplain
    rw [if_pos hneeds, String.toList_ofList]
  | quoted hquoted =>
    have hinner := hquoted.length_le
    rw [String.toList_ofList, List.length_cons, List.length_append, List.length_singleton]
    split <;> omega

theorem Fields.length_le (h : Fields w fields) : (fields.map leastLength).sum ≤ w.length := by
  induction h with
  | nil => exact Nat.le_refl 0
  | snoc _ hfield ih =>
    have hlast := hfield.length_le
    simp only [List.map_append, List.map_cons, List.map_nil, List.sum_append, List.sum_cons,
      List.sum_nil, List.length_append, List.length_cons, List.length_nil]
    omega

theorem Record.length_le (h : Record w fields) : (fields.map leastLength).sum ≤ w.length + 1 := by
  obtain ⟨hfields, hlast⟩ := h
  have hbefore := hfields.length_le
  have hend := hlast.length_le
  simp only [List.map_append, List.map_cons, List.map_nil, List.sum_append, List.sum_cons,
    List.sum_nil, List.length_append]
  omega

/-- A file has room for the fields of its records. -/
theorem File.length_le (h : File w records) :
    (records.flatten.map leastLength).sum ≤ w.length := by
  induction h with
  | nil => exact Nat.le_refl 0
  | snoc _ hrecord ih =>
    have hlast := hrecord.length_le
    simp only [List.flatten_append, List.flatten_cons, List.flatten_nil, List.append_nil,
      List.map_append, List.sum_append, List.length_append, List.length_cons, List.length_nil]
    omega

/-- A file that is no longer than its fields, with a character behind each, holds no field that
needs quotes. -/
theorem File.plain_of_length_le (h : File w records)
    (hlength : w.length ≤ (records.flatten.map fun field => field.toList.length + 1).sum) :
    ∀ field ∈ records.flatten, Plain field := by
  intro field hmem
  by_contra hfield
  have hshort : (records.flatten.map fun field => field.toList.length + 1).sum <
      (records.flatten.map leastLength).sum := by
    refine List.sum_lt_sum _ _ (fun f _ => ?_) ⟨field, hmem, ?_⟩
    · unfold leastLength
      split <;> omega
    · rw [leastLength, if_neg hfield]
      omega
  have hroom := h.length_le
  omega

end Csv

/-! ## Lines of fields as they are -/

theorem length_plainRecord {fields : List String} (hne : fields ≠ []) :
    (plainRecord fields).toList.length =
      (fields.map fun field => field.toList.length + 1).sum := by
  obtain ⟨field, more, rfl⟩ := List.exists_cons_of_ne_nil hne
  rw [plainRecord, String.toList_append, String.toList_intercalate, List.map_cons,
    show ",".toList = [','] from rfl, Csv.intercalate_eq_flatMap]
  simp only [List.length_append, List.length_flatMap, List.map_map, List.map_cons, List.sum_cons,
    Function.comp_def, List.length_cons]
  show _ + _ + 1 = _
  omega

/-- A line of fields that need no quotes. -/
theorem plainRecord_line_of_plain {fields : List String} (hne : fields ≠ [])
    (hplain : ∀ field ∈ fields, Csv.Plain field) :
    Csv.Line (plainRecord fields).toList fields := by
  obtain ⟨field, more, rfl⟩ := List.exists_cons_of_ne_nil hne
  refine plainRecord_line (hplain _ List.mem_cons_self).field (List.forall₂_same.mpr fun f hf => ?_)
  exact (hplain f (List.mem_cons_of_mem _ hf)).field

/-- Lines of fields as they are make up the file of these fields exactly when no field needs
quotes. -/
theorem plainRecords_file_iff {records : List (List String)} (hne : ∀ r ∈ records, r ≠ []) :
    Csv.File (records.flatMap fun r => (plainRecord r).toList) records ↔
      ∀ r ∈ records, ∀ field ∈ r, Csv.Plain field := by
  constructor
  · intro hfile r hr field hfield
    refine hfile.plain_of_length_le (Nat.le_of_eq ?_) field (List.mem_flatten_of_mem hr hfield)
    rw [List.length_flatMap, List.map_flatten, List.sum_flatten, List.map_map]
    exact congrArg List.sum (List.map_congr_left fun r hr => length_plainRecord (hne r hr))
  · intro hplain
    have hfile := Csv.File.nil.append_lines fun r hr =>
      plainRecord_line_of_plain (hne r hr) (hplain r hr)
    rwa [List.nil_append, List.nil_append, List.map_id'] at hfile

/-! ## The report on columns -/

/-- The header of reports on columns. -/
def reportHeader : List String :=
  ["table", "column", "kind", "scanned", "updated", "errors", "scan_failed"]

/-- What a report in comma-separated values is meant to hold. -/
def ReplacementReport.csvRecords (r : ReplacementReport) : List (List String) :=
  reportHeader :: r.columns.map ColumnReport.csvFields

theorem toList_renderReport_csv (r : ReplacementReport) :
    (renderReport r .csv).toList = r.csvRecords.flatMap fun fields => (plainRecord fields).toList := by
  rw [renderReport, String.toList_append, String.toList_join, List.flatMap_map]
  show _ = (reportHeader :: r.columns.map ColumnReport.csvFields).flatMap _
  rw [List.flatMap_cons, List.flatMap_map]
  rfl

theorem ReplacementReport.csvRecords_ne_nil (r : ReplacementReport) :
    ∀ fields ∈ r.csvRecords, fields ≠ [] := by
  intro fields hfields
  rcases List.mem_cons.mp hfields with rfl | hcolumn
  · exact List.cons_ne_nil _ _
  · obtain ⟨c, -, rfl⟩ := List.mem_map.mp hcolumn
    exact List.cons_ne_nil _ _

/-- Of the fields of a report on a column only the two names may need quotes. -/
theorem ColumnReport.plain_csvFields_iff (c : ColumnReport) :
    (∀ field ∈ c.csvFields, Csv.Plain field) ↔ Csv.Plain c.table ∧ Csv.Plain c.column := by
  have hkind : Csv.Plain c.kind.text := by cases c.kind <;> decide
  have hflag : Csv.Plain (truthText c.scanFailed) := by cases c.scanFailed <;> decide
  have hcount : ∀ n : Nat, Csv.Plain n.repr := Timestamp.plain_digits
  simp [ColumnReport.csvFields, hkind, hflag, hcount]

/-- The report on columns in comma-separated values is read as its header and the seven fields of
each column in order exactly if no name of a table or column holds a comma, a quote or a line
break. -/
theorem reportCsv_reads_iff (r : ReplacementReport) :
    Csv.read (renderReport r .csv).toList =
        some (reportHeader :: r.columns.map ColumnReport.csvFields) ↔
      ∀ c ∈ r.columns, Csv.Plain c.table ∧ Csv.Plain c.column := by
  have hheader : ∀ field ∈ reportHeader, Csv.Plain field := by decide
  rw [Csv.read_eq_some_iff, toList_renderReport_csv]
  refine (plainRecords_file_iff r.csvRecords_ne_nil).trans ?_
  rw [ReplacementReport.csvRecords, List.forall_mem_cons, List.forall_mem_map]
  refine (and_iff_right hheader).trans (forall₂_congr fun c _ => ?_)
  exact c.plain_csvFields_iff

/-- A descriptor file may name a table with a comma in it. The report on its column is read as a
record of eight fields. -/
theorem reportCsv_splits_name :
    let d : Descriptor := ⟨"owners,old", "id", .scalar, none⟩
    let report : ReplacementReport := ⟨.start .foreignKeys, [.start d]⟩
    Descriptor.parseList
        "[\x7b\"table\":\"owners,old\",\"column\":\"id\",\"kind\":\"scalar\"\x7d]" = .ok [d] ∧
      Csv.read (renderReport report .csv).toList = some [reportHeader,
        ["owners", "old", "id", "scalar", "0", "0", "0", "false"]] ∧
      Csv.read (renderReport report .csv).toList ≠
        some (reportHeader :: report.columns.map ColumnReport.csvFields) := by
  decide +kernel

end Rekey
