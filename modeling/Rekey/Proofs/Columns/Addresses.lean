import Rekey.Proofs.Columns.Rows
import Rekey.Proofs.Rehearsal.Temper

/-!
# Addressing rows

A descriptor addresses a row by its place or by the cell in a key column. A scan shows the rows of
a table in order if it can address all of them, and an update writes the first row at an address.
What a descriptor reads of a row to address it does not change when another column is written.
-/

namespace Rekey

namespace MemoryTables

variable {s s' : MemoryTables} {d : Descriptor} {row : StoredRow} {rows rows' : List StoredRow}
  {locator : Locator} {column : String} {cell : Cell}

/-- The descriptor finds an address for the row. -/
def IsAddressed (d : Descriptor) (row : StoredRow) : Prop :=
  ∃ locator, addressOf d row = .ok locator

/-- The address of a row, and the place of a row without one. -/
def locatorOf (d : Descriptor) (row : StoredRow) : Locator :=
  match addressOf d row with
  | .ok locator => locator
  | .error _ => row.locator

/-- A row with an address as a scan shows it. -/
def seen (d : Descriptor) (row : StoredRow) : ScannedRow :=
  ⟨locatorOf d row, (row.cells[d.column]?).getD (.null d.kind)⟩

theorem isAddressed_of_keyless (hkey : d.key = none) (row : StoredRow) : IsAddressed d row :=
  ⟨row.locator, by rw [addressOf, hkey]⟩

/-- A row has an address in a key column when it holds an identifier there. -/
theorem isAddressed_of_key {key value : String} (hkey : d.key = some key)
    (hcell : row.cells[key]? = some (.scalar (some value))) : IsAddressed d row :=
  ⟨value, by simp [addressOf, hkey, hcell]⟩

theorem IsAddressed.addressOf_eq (h : IsAddressed d row) :
    addressOf d row = .ok (locatorOf d row) := by
  obtain ⟨locator, hlocator⟩ := h
  simp [locatorOf, hlocator]

theorem IsAddressed.isLocated_iff (h : IsAddressed d row) :
    isLocated d locator row = true ↔ locatorOf d row = locator := by
  rw [isLocated, h.addressOf_eq]
  exact beq_iff_eq

/-! ## Scans -/

theorem scanRows_of_addressed (h : ∀ row ∈ rows, IsAddressed d row) :
    scanRows d rows = .ok (rows.map (seen d)) := by
  induction rows with
  | nil => rfl
  | cons row rest ih =>
    have haddress := (h row List.mem_cons_self).addressOf_eq
    rw [scanRows, scanRow, haddress, ih fun r hr => h r (List.mem_cons_of_mem _ hr)]
    rfl

theorem scanRows_of_unaddressed (hrow : row ∈ rows) (h : ¬ IsAddressed d row) :
    ∃ e, scanRows d rows = .error e := by
  induction rows with
  | nil => exact absurd hrow List.not_mem_nil
  | cons first rest ih =>
    rw [scanRows, scanRow]
    cases haddress : addressOf d first with
    | error e => exact ⟨e, rfl⟩
    | ok locator =>
      rcases List.mem_cons.mp hrow with rfl | hrest
      · exact absurd ⟨locator, haddress⟩ h
      · obtain ⟨e, he⟩ := ih hrest
        exact ⟨e, by rw [he]; rfl⟩

theorem scan_of_failing (h : d.table ∈ s.failingScans) :
    s.scan d = .error (.scanCancelled d.table) := by
  simp [scan, h]

theorem scan_of_missing (h : d.table ∉ s.failingScans) (hrows : s.tables[d.table]? = none) :
    s.scan d = .error (.unknownColumn d.table d.column) := by
  simp [scan, h, hrows]

theorem scan_of_rows (h : d.table ∉ s.failingScans) (hrows : s.tables[d.table]? = some rows) :
    s.scan d = scanRows d rows := by
  simp [scan, h, hrows]

/-! ## Updates -/

/-- Writing a column that is not the key leaves the address of a row as it is. -/
theorem addressOf_put (h : d.key ≠ some column) :
    addressOf d (row.put column cell) = addressOf d row := by
  unfold addressOf
  cases hkey : d.key with
  | none => rfl
  | some key =>
    have hne : column ≠ key := fun hsame => h (by rw [hkey, hsame])
    simp only [put_cells, if_neg hne]
    rfl

theorem locatorOf_put (h : d.key ≠ some column) :
    locatorOf d (row.put column cell) = locatorOf d row := by
  unfold locatorOf
  rw [addressOf_put h]
  rfl

/-- An update writes one row, which is at the address, and no other. -/
theorem updateRows_eq_some (h : updateRows d locator cell rows = some rows') :
    ∃ before row after, rows = before ++ row :: after ∧
      rows' = before ++ row.put d.column cell :: after ∧ isLocated d locator row = true := by
  induction rows generalizing rows' with
  | nil => simp [updateRows] at h
  | cons first rest ih =>
    rw [updateRows] at h
    split at h
    · rename_i hat
      exact ⟨[], first, rest, rfl, (Option.some.inj h).symm, hat⟩
    · obtain ⟨rest', hrest, rfl⟩ := Option.map_eq_some_iff.mp h
      obtain ⟨before, row, after, rfl, rfl, hat⟩ := ih hrest
      exact ⟨first :: before, row, after, rfl, rfl, hat⟩

/-- An update succeeds when there is a row at the address. -/
theorem exists_updateRows (hrow : row ∈ rows) (h : isLocated d locator row = true) (cell : Cell) :
    ∃ rows', updateRows d locator cell rows = some rows' := by
  induction rows with
  | nil => exact absurd hrow List.not_mem_nil
  | cons first rest ih =>
    rw [updateRows]
    split
    · exact ⟨_, rfl⟩
    · rename_i hnot
      rcases List.mem_cons.mp hrow with rfl | hrest
      · exact absurd h hnot
      · obtain ⟨rest', hrest'⟩ := ih hrest
        exact ⟨first :: rest', by rw [hrest']; rfl⟩

/-- What the written column does not show is the same in all rows after an update. -/
theorem updateRows_map {γ : Type} {f : StoredRow → γ}
    (h : updateRows d locator cell rows = some rows')
    (hf : ∀ row, f (row.put d.column cell) = f row) : rows'.map f = rows.map f := by
  obtain ⟨before, row, after, rfl, rfl, -⟩ := updateRows_eq_some h
  simp [hf]

theorem update_eq_ok {rows' : List StoredRow} (hpass : (d.table, locator) ∉ s.failingRows)
    (hrows : s.tables[d.table]? = some rows)
    (hupdate : updateRows d locator cell rows = some rows') :
    s.update d locator cell = .ok (s.withRows d.table rows') := by
  unfold update
  rw [if_neg (by simpa using hpass), hrows]
  simp only [hupdate]
  rfl

end MemoryTables

/-! ## In a rehearsal -/

namespace Rehearsal

variable {φ ε α : Type} {i : Interference φ} {w w' : World φ} {d : Descriptor}

theorem watched_of_ok {point : Point} {act : StateM (World φ) (Except ε α)} {a : α}
    (h : act w = (.ok a, w')) :
    watched i point act w = (.ok a, { w' with mind := (i.succeeded point w'.mind).2 }) := by
  simp only [watched, bind, StateT.bind, h]
  rfl

theorem watched_of_error {point : Point} {act : StateM (World φ) (Except ε α)} {e : ε}
    (h : act w = (.error e, w')) : watched i point act w = (.error e, w') := by
  simp only [watched, bind, StateT.bind, h]
  rfl

theorem scan_of_ok {rows : List ScannedRow} (h : w.store.scan d = .ok rows) :
    (store i).scan d w = (.ok rows, { w with mind := (i.succeeded .scan w.mind).2 }) := by
  have hquery : query (φ := φ) (·.scan d) w = (.ok rows, w) := by simp only [query, h]
  exact watched_of_ok hquery

theorem scan_of_error {e : StoreFault} (h : w.store.scan d = .error e) :
    (store i).scan d w = (.error e, w) :=
  watched_of_error (by simp only [query, h])

theorem update_of_ok {s : MemoryTables} {locator : Locator} {cell : Cell}
    (h : w.store.update d locator cell = .ok s) :
    (store i).update d locator cell w =
      (.ok (), { w with store := s, mind := (i.succeeded .update w.mind).2 }) := by
  have hchange : change (φ := φ) (·.update d locator cell) w = (.ok (), { w with store := s }) := by
    simp only [change, h]
  exact watched_of_ok hchange

end Rehearsal

end Rekey
