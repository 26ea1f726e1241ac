import Rekey.Column.File
import Rekey.Proofs.Json.RoundTrip

/-!
# Descriptor files

A list of descriptors is read back from its written form. A list in which every descriptor names a
table and a column is accepted, and from any other the first that does not is reported. So writing
what was read from a file, in whatever form the file has it, makes a file of the same descriptors.
-/

namespace Rekey.Descriptor

open Rekey.Text (isBlank isBlankText)

/-- A descriptor whose table and column each have a character that is not white space. -/
def Named (d : Descriptor) : Prop :=
  (∃ c ∈ d.table.toList, isBlank c = false) ∧ ∃ c ∈ d.column.toList, isBlank c = false

/-- A text that holds this list: it is accepted if every descriptor is named, and otherwise the
first one that is not is reported. -/
structure ReadsAs (text : String) (ds : List Descriptor) : Prop where
  accepted : (∀ d ∈ ds, d.Named) → parseList text = .ok ds
  refused : ∀ before d after, ds = before ++ d :: after → (∀ b ∈ before, b.Named) → ¬ d.Named →
    parseList text = .error (.config (.descriptorIncomplete d))

/-! ## Reading what was written -/

/-- The document of the written form of a descriptor. -/
def doc (d : Descriptor) : Json.Doc := .object
  ([(some "table", .string (some d.table)), (some "column", .string (some d.column)),
      (some "kind", .string (some d.kind.text))] ++
    match d.key with
    | none => []
    | some key => [(some "key", .string (some key))])
  true

theorem doc?_toJson (d : Descriptor) : d.toJson.doc? = some d.doc := by
  obtain ⟨table, column, kind, key⟩ := d
  cases key <;> rfl

theorem read_doc (d : Descriptor) : read d.doc = .ok d := by
  obtain ⟨table, column, kind, key⟩ := d
  cases kind <;> cases key <;> rfl

theorem doc?_listToJson (ds : List Descriptor) :
    (listToJson ds).doc? = some (.array (ds.map doc) true) := by
  have hitems : Json.itemDocs? (ds.map toJson) = some (ds.map doc) := by
    induction ds with
    | nil => rfl
    | cons d ds ih =>
      rw [List.map_cons, Json.itemDocs?, doc?_toJson, ih]
      rfl
  rw [listToJson, Json.Value.doc?, hitems]
  rfl

theorem readList_doc (ds : List Descriptor) :
    Json.readList read (.array (ds.map doc) true) = .ok ds := by
  have hitems : Json.readItems read (ds.map doc) = .ok ds := by
    induction ds with
    | nil => rfl
    | cons d ds ih =>
      rw [List.map_cons, Json.readItems, read_doc, ih]
      rfl
  rw [Json.readList, hitems]
  rfl

theorem readFrom_listToJson (ds : List Descriptor) :
    Json.readFrom (Json.readList read) (listToJson ds).compact = .ok ds ∧
      Json.readFrom (Json.readList read) (listToJson ds).pretty = .ok ds := by
  have hwritten := Json.readFrom_written (Json.readList read) (doc?_listToJson ds)
  rwa [readList_doc] at hwritten

/-! ## Accepting what was read -/

theorem exists_not_blank {s : String} :
    (∃ c ∈ s.toList, isBlank c = false) ↔ isBlankText s = false := by
  rw [isBlankText, List.all_eq_false]
  simp only [Bool.not_eq_true]

theorem named_iff {d : Descriptor} : d.Named ↔ d.isComplete = true := by
  simp only [Named, exists_not_blank, isComplete, Bool.and_eq_true, Bool.not_eq_true']

instance (d : Descriptor) : Decidable d.Named :=
  decidable_of_iff _ named_iff.symm

theorem checkAll_ok_iff {ds as : List Descriptor} :
    checkAll ds = .ok as ↔ as = ds ∧ ∀ d ∈ ds, d.Named := by
  unfold checkAll
  split
  · next d hfind =>
    have hd := List.find?_some hfind
    refine ⟨nofun, fun ⟨_, hall⟩ => ?_⟩
    simp [named_iff.mp (hall d (List.mem_of_find?_eq_some hfind))] at hd
  · next hfind =>
    refine ⟨fun h => ⟨(Except.ok.inj h).symm, fun d hd => ?_⟩, fun ⟨h, _⟩ => congrArg _ h.symm⟩
    simpa [named_iff] using List.find?_eq_none.mp hfind d hd

theorem checkAll_first {before after : List Descriptor} {d : Descriptor}
    (hbefore : ∀ b ∈ before, b.Named) (hd : ¬ d.Named) :
    checkAll (before ++ d :: after) = .error (.config (.descriptorIncomplete d)) := by
  have hfind : (before ++ d :: after).find? (!·.isComplete) = some d := by
    refine List.find?_eq_some_iff_append.mpr ⟨?_, before, after, rfl, fun b hb => ?_⟩
    · simpa [named_iff] using hd
    · simpa [named_iff] using hbefore b hb
  rw [checkAll, hfind]

theorem readsAs_of_readFrom {text : String} {ds : List Descriptor}
    (h : Json.readFrom (Json.readList read) text = .ok ds) : ReadsAs text ds := by
  have hparse : parseList text = checkAll ds := by rw [parseList, h]
  constructor
  · exact fun hall => hparse.trans (checkAll_ok_iff.mpr ⟨rfl, hall⟩)
  · rintro before d after rfl hbefore hd
    exact hparse.trans (checkAll_first hbefore hd)

theorem named_of_parseList {text : String} {ds : List Descriptor} (h : parseList text = .ok ds) :
    ∀ d ∈ ds, d.Named := by
  unfold parseList at h
  split at h
  · contradiction
  · obtain ⟨rfl, hall⟩ := checkAll_ok_iff.mp h
    exact hall

/-- What the written forms of lists of descriptors are read as. -/
structure RoundTrip (ds : List Descriptor) : Prop where
  compact : ReadsAs (listToJson ds).compact ds
  pretty : ReadsAs (listToJson ds).pretty ds
  /-- What was accepted once is accepted again when it is written in either form. -/
  again : ∀ text, parseList text = .ok ds →
    parseList (listToJson ds).compact = .ok ds ∧ parseList (listToJson ds).pretty = .ok ds

/-- Every list of descriptors is read back from both of its written forms, and so is what was read
from any text. -/
theorem listToJson_roundTrip (ds : List Descriptor) : RoundTrip ds := by
  obtain ⟨hcompact, hpretty⟩ := readFrom_listToJson ds
  exact {
    compact := readsAs_of_readFrom hcompact
    pretty := readsAs_of_readFrom hpretty
    again := fun text h =>
      have hall := named_of_parseList h
      ⟨(readsAs_of_readFrom hcompact).accepted hall, (readsAs_of_readFrom hpretty).accepted hall⟩ }

/-- Two columns whose names need every kind of escape. -/
def quotedColumns : List Descriptor :=
  [⟨"say \"hi\"", "a\\b\tc\u0001", .array, none⟩, ⟨" 𝔲sers ", "id\n", .scalar, some ""⟩]

/-- A column of a table whose name is white space only. -/
def blankTable : Descriptor := ⟨" \u00a0\u2003", "id", .scalar, none⟩

theorem listToJson_roundTrip_quotedColumns :
    parseList (listToJson quotedColumns).compact = .ok quotedColumns ∧
    parseList (listToJson quotedColumns).pretty = .ok quotedColumns ∧
    parseList (listToJson (quotedColumns ++ [blankTable, default])).compact =
      .error (.config (.descriptorIncomplete blankTable)) := by
  have hnamed : ∀ d ∈ quotedColumns, d.Named := by decide +kernel
  have htrip := listToJson_roundTrip quotedColumns
  have hblank := listToJson_roundTrip (quotedColumns ++ [blankTable, default])
  have hunnamed : ¬ blankTable.Named := by decide +kernel
  exact ⟨htrip.compact.accepted hnamed, htrip.pretty.accepted hnamed,
    hblank.compact.refused quotedColumns blankTable [default] rfl hnamed hunnamed⟩

end Rekey.Descriptor
