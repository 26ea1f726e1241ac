import Rekey.Failure.Causes
import Rekey.Record.Basic
import Std.Data.ExtTreeMap

/-!
# A store in memory

The tables of a migration as values. Writes of a transaction are staged and reach the tables when
it is committed; until then only the transaction itself sees the rows it creates.
-/

namespace Rekey

open Std (ExtTreeMap)

/-- What identifies a membership. -/
structure MemberKey where
  userId : String
  tenantId : String
deriving DecidableEq, Repr, Inhabited

namespace MemberKey

/-- The order of memberships: by user, then by tenant. -/
def cmp (a b : MemberKey) : Ordering :=
  (compare a.userId b.userId).then (compare a.tenantId b.tenantId)

instance : Ord MemberKey := ⟨cmp⟩

instance : Std.TransOrd MemberKey :=
  inferInstanceAs
    (Std.TransCmp (compareLex (compareOn MemberKey.userId) (compareOn MemberKey.tenantId)))

instance : Std.LawfulEqOrd MemberKey where
  eq_of_compare {a b} h := by
    have h : cmp a b = .eq := h
    rw [cmp, Ordering.then_eq_eq] at h
    cases a
    cases b
    simp_all

end MemberKey

/-- What identifies this membership. -/
def Membership.key (m : Membership) : MemberKey := ⟨m.userId, m.tenantId⟩

/-- A row of a table: where it stands, and its cells by column. -/
structure StoredRow where
  locator : Locator
  cells : ExtTreeMap String Cell

instance : Inhabited StoredRow := ⟨⟨"", ∅⟩⟩

/-- A store in memory. The four lists of failures name what shall fail. -/
structure MemoryTables where
  mappingsReady : Bool
  legacyUsers : List LegacyUser
  targetUsers : ExtTreeMap String TargetUser
  memberships : ExtTreeMap MemberKey Membership
  mappings : ExtTreeMap String Mapping
  tables : ExtTreeMap String (List StoredRow)
  rowCount : Nat
  failingTargets : List String
  failingTenants : List String
  failingRows : List (String × Locator)
  failingScans : List String

/-- A write that a transaction has staged. -/
inductive StagedWrite where
  | mapping (legacyId email newId : String)
  | targetUser (u : TargetUser)
  | membership (m : Membership)
deriving Repr, BEq, Inhabited

/-- A staged write that creates the user with this identifier. -/
def StagedWrite.createsUser (id : String) : StagedWrite → Bool
  | .targetUser u => u.id == id
  | _ => false

/-- A staged write that creates this membership. -/
def StagedWrite.createsMembership (key : MemberKey) : StagedWrite → Bool
  | .membership m => m.key == key
  | _ => false

/-- An open transaction: its writes in order. -/
abbrev Transaction := List StagedWrite

/-- What a commit reads off the clock, which it does for each mapping that it writes. A mapping that
is written again keeps its times, so the reading that counts goes by the legacy identifier. -/
abbrev Readings := String → Timestamp

namespace MemoryTables

/-- A store without tables. -/
def empty : MemoryTables where
  mappingsReady := false
  legacyUsers := []
  targetUsers := ∅
  memberships := ∅
  mappings := ∅
  tables := ∅
  rowCount := 0
  failingTargets := []
  failingTenants := []
  failingRows := []
  failingScans := []

instance : Inhabited MemoryTables := ⟨empty⟩

/-! ## Filling the store -/

/-- Adds a user of the old system. -/
def addLegacyUser (s : MemoryTables) (u : LegacyUser) : MemoryTables :=
  { s with legacyUsers := s.legacyUsers ++ [u] }

/-- Adds a user of the new system, or replaces the one with the same identifier. -/
def putTargetUser (s : MemoryTables) (u : TargetUser) : MemoryTables :=
  { s with targetUsers := s.targetUsers.insert u.id u }

/-- Where the row with this number stands. -/
def rowAddress (n : Nat) : Locator :=
  "(0," ++ toString n ++ ")"

/-- Cells by column; the last of repeated columns counts. -/
def cellsOf (values : List (String × Cell)) : ExtTreeMap String Cell :=
  values.foldl (fun cells v => cells.insert v.1 v.2) ∅

/-- Adds a row to a table and answers where it stands. Rows are numbered over all tables. -/
def addRow (s : MemoryTables) (table : String) (values : List (String × Cell)) :
    Locator × MemoryTables :=
  let locator := rowAddress (s.rowCount + 1)
  let row : StoredRow := ⟨locator, cellsOf values⟩
  (locator, { s with
    rowCount := s.rowCount + 1
    tables := s.tables.insert table ((s.tables[table]?).getD [] ++ [row]) })

/-- A cell of the row that stands at a place. -/
def cellAt (s : MemoryTables) (table : String) (locator : Locator) (column : String) :
    Option Cell :=
  match s.tables[table]? with
  | none => none
  | some rows =>
    match rows.find? (·.locator == locator) with
    | none => none
    | some row => row.cells[column]?

/-! ## Reading -/

/-- The later of two mappings, the second of two equally old ones. -/
def laterMapping (best : Option Mapping) (m : Mapping) : Option Mapping :=
  match best with
  | none => some m
  | some b => if Timestamp.le b.migratedAt m.migratedAt then some m else some b

/-- The latest mapping of a legacy identifier or an email. -/
def latestMapping (s : MemoryTables) (identifier : String) : Option Mapping :=
  (s.mappings.values.filter fun m => m.legacyId == identifier || m.email == identifier).foldl
    laterMapping none

/-- All mappings, the latest first. -/
def mappingsByAge (s : MemoryTables) : List Mapping :=
  s.mappings.values.mergeSort Mapping.le

/-- All users of the old system in the order in which they are migrated. -/
def legacyUsersByAge (s : MemoryTables) : List LegacyUser :=
  s.legacyUsers.mergeSort LegacyUser.le

/-- The user with a legacy identifier. -/
def legacyUserById (s : MemoryTables) (legacyId : String) : Option LegacyUser :=
  s.legacyUsers.find? (·.legacyId == legacyId)

/-- A user together with the user's mapping, if there is one. -/
def mappedUser? (s : MemoryTables) (u : LegacyUser) : Option MappedUser :=
  (s.mappings[u.legacyId]?).map fun m => ⟨u.legacyId, m.newId, u.tenantId⟩

/-- All users of the old system who have a mapping, by legacy identifier. -/
def mappedUsers (s : MemoryTables) : List MappedUser :=
  (s.legacyUsers.filterMap s.mappedUser?).mergeSort fun a b =>
    (compare a.legacyId b.legacyId).isLE

/-! ## Columns -/

/-- What addresses a row for a descriptor: its place, or its value in the key column. -/
def addressOf (d : Descriptor) (row : StoredRow) : Except StoreFault Locator :=
  match d.key with
  | none => .ok row.locator
  | some key =>
    match row.cells[key]? with
    | some (.scalar (some value)) => .ok value
    | _ => .error (.keyMissing row.locator d.table key)

/-- A row as a scan shows it; a missing cell shows as null. -/
def scanRow (d : Descriptor) (row : StoredRow) : Except StoreFault ScannedRow :=
  match addressOf d row with
  | .error e => .error e
  | .ok locator => .ok ⟨locator, (row.cells[d.column]?).getD (.null d.kind)⟩

/-- Rows as a scan shows them, up to the first that cannot be addressed. -/
def scanRows (d : Descriptor) : List StoredRow → Except StoreFault (List ScannedRow)
  | [] => .ok []
  | row :: rest =>
    match scanRow d row with
    | .error e => .error e
    | .ok r => (scanRows d rest).map (r :: ·)

/-- One column of a table. -/
def scan (s : MemoryTables) (d : Descriptor) : Except StoreFault (List ScannedRow) :=
  if s.failingScans.contains d.table then .error (.scanCancelled d.table)
  else
    match s.tables[d.table]? with
    | none => .error (.unknownColumn d.table d.column)
    | some rows => scanRows d rows

/-- Whether a descriptor addresses a row by this locator. -/
def isLocated (d : Descriptor) (locator : Locator) (row : StoredRow) : Bool :=
  match addressOf d row with
  | .ok l => l == locator
  | .error _ => false

/-- Writes a cell of the first row that the locator addresses; none if it addresses no row. -/
def updateRows (d : Descriptor) (locator : Locator) (cell : Cell) :
    List StoredRow → Option (List StoredRow)
  | [] => none
  | row :: rest =>
    if isLocated d locator row then
      some ({ row with cells := row.cells.insert d.column cell } :: rest)
    else (updateRows d locator cell rest).map (row :: ·)

/-- Writes one cell of a column. -/
def update (s : MemoryTables) (d : Descriptor) (locator : Locator) (cell : Cell) :
    Except StoreFault MemoryTables :=
  if s.failingRows.contains (d.table, locator) then .error (.rowWriteFailed locator d.table)
  else
    match s.tables[d.table]? with
    | none => .error (.unknownColumn d.table d.column)
    | some rows =>
      match updateRows d locator cell rows with
      | none => .error (.rowMissing locator d.table)
      | some rows => .ok { s with tables := s.tables.insert d.table rows }

/-! ## Transactions -/

/-- Stages a mapping. -/
def putMapping (s : MemoryTables) (t : Transaction) (legacyId email newId : String) :
    Except StoreFault Transaction :=
  if s.mappingsReady then .ok (t ++ [.mapping legacyId email newId])
  else .error .mappingTableMissing

/-- Whether the transaction or the store holds a user. -/
def hasTargetUser (s : MemoryTables) (t : Transaction) (id : String) : Bool :=
  t.any (StagedWrite.createsUser id) || s.targetUsers.contains id

/-- Stages a user, unless the store holds one with the same identifier. -/
def addTargetUser (s : MemoryTables) (t : Transaction) (u : TargetUser) :
    Except StoreFault Transaction :=
  if s.failingTargets.contains u.email then .error (.targetWriteFailed u.email)
  else if s.targetUsers.contains u.id then .error (.duplicateTargetUser u.id)
  else .ok (t ++ [.targetUser u])

/-- Whether the transaction or the store holds a membership. -/
def hasMembership (s : MemoryTables) (t : Transaction) (key : MemberKey) : Bool :=
  t.any (StagedWrite.createsMembership key) || s.memberships.contains key

/-- Stages a membership, unless the store holds it. -/
def addMembership (s : MemoryTables) (t : Transaction) (m : Membership) :
    Except StoreFault Transaction :=
  if s.failingTenants.contains m.tenantId then .error (.membershipWriteFailed m.tenantId)
  else if s.memberships.contains m.key then
    .error (.duplicateMembership m.userId m.tenantId)
  else .ok (t ++ [.membership m])

/-- A mapping row after a write at time `now`: an existing row keeps its times. -/
def mappingAfter (now : Timestamp) (legacyId email newId : String) (before : Option Mapping) :
    Mapping :=
  match before with
  | some m => { m with email := email, newId := newId }
  | none => ⟨legacyId, email, newId, now, now⟩

/-- The tables after one write. -/
def applyWrite (times : Readings) (s : MemoryTables) : StagedWrite → MemoryTables
  | .mapping legacyId email newId =>
    let row := mappingAfter (times legacyId) legacyId email newId (s.mappings[legacyId]?)
    { s with mappings := s.mappings.insert legacyId row }
  | .targetUser u => { s with targetUsers := s.targetUsers.insert u.id u }
  | .membership m => { s with memberships := s.memberships.insert m.key m }

/-- The tables after all writes of a transaction. -/
def commit (times : Readings) (s : MemoryTables) (t : Transaction) : MemoryTables :=
  t.foldl (applyWrite times) s

end MemoryTables

end Rekey
