import Rekey.Proofs.Agreement
import Rekey.Proofs.Sql.Quoting
import Rekey.Sql.Store

/-!
# Types of key columns

A store keeps the types of key columns that its database has declared. While the database declares
the same for a column whenever it is asked, what is kept is what it would say. A store that forgets
all types before each write therefore sends the same updates and gets the same results, and asks
more: the other one asks for a type at most once, and again only for a column that has none.
-/

namespace Rekey.Sql

variable {ρ α : Type}

/-! ## Writes and what they send -/

/-- A cell to be written. -/
structure Write where
  descriptor : Descriptor
  locator : Locator
  cell : Cell

namespace Write

/-- Writes the cell as the store does. -/
def perform (send : Sender ρ) (wr : Write) : StateM (Database ρ) (Except StoreFault Unit) :=
  update send wr.descriptor wr.locator wr.cell

/-- Writes the cell as a store does that keeps no types. -/
def performAfresh (send : Sender ρ) (wr : Write) :
    StateM (Database ρ) (Except StoreFault Unit) := do
  modify fun db => { db with columnTypes := [] }
  wr.perform send

/-- The row is addressed by this key column of this table. -/
def isKeyedBy (table key : String) (wr : Write) : Bool :=
  wr.descriptor.table == table && wr.descriptor.key == some key

/-- The statement of the write, with the type of the key column if there is one. -/
def statement (wr : Write) (columnType : Option String) : Statement :=
  updateStatement wr.descriptor columnType wr.locator wr.cell

theorem isKeyedBy_iff {table key : String} {wr : Write} :
    wr.isKeyedBy table key = true ↔ wr.descriptor.table = table ∧ wr.descriptor.key = some key := by
  rw [isKeyedBy, Bool.and_eq_true, beq_iff_eq, beq_iff_eq]

/-- The result of the write by the answer to its statement. -/
def verdict (wr : Write) : Except DatabaseFault Result → Except StoreFault Unit
  | .error e => .error (.database e)
  | .ok r => if r.affected = 0 then .error (.rowMissing wr.locator wr.descriptor.table) else .ok ()

end Write

/-- The result of a write and the statements that were sent for it. -/
structure Trace where
  result : Except StoreFault Unit
  statements : List Statement

/-- All statements that were sent for writes. -/
def Trace.log (traces : List Trace) : List Statement :=
  traces.flatMap statements

theorem Trace.log_cons (trace : Trace) (traces : List Trace) :
    log (trace :: traces) = trace.statements ++ log traces :=
  List.flatMap_cons

/-- Sends statements and notes them in order. -/
def noting (send : Sender ρ) : Sender (ρ × List Statement) := fun q s =>
  ((send q s.1).1, ((send q s.1).2, s.2 ++ [q]))

/-- A database whose server also keeps what it was sent. -/
def Database.noted (db : Database ρ) (qs : List Statement) : Database (ρ × List Statement) :=
  ⟨(db.server, qs), db.columnTypes, db.leftOpen⟩

/-- A write together with the statements that it sends. -/
def traced (act : StateM (Database (ρ × List Statement)) (Except StoreFault Unit)) :
    StateM (Database ρ) Trace := fun db =>
  let (r, db') := act (db.noted [])
  (⟨r, db'.server.2⟩, ⟨db'.server.1, db'.columnTypes, db'.leftOpen⟩)

/-- Writes cells one after another. -/
def Write.performAll (send : Sender ρ) (ws : List Write) : StateM (Database ρ) (List Trace) :=
  ws.mapM fun wr => traced (wr.perform (noting send))

/-- Writes cells one after another and keeps no types. -/
def Write.performAllAfresh (send : Sender ρ) (ws : List Write) :
    StateM (Database ρ) (List Trace) :=
  ws.mapM fun wr => traced (wr.performAfresh (noting send))

/-! ## The catalog -/

/-- The type of a column by the answer to the question for it: the type in its row, or the error
that stands for an answer without one. -/
def typeIn (table key : String) : Except DatabaseFault Result → Except StoreFault String
  | .error e => .error (.database e)
  | .ok r =>
    match reading readColumnType r.rows with
    | .error e => .error e
    | .ok none => .error (.unknownColumn table key)
    | .ok (some t) => .ok t

/-- What a database answers to the question for the type of a column. -/
abbrev Catalog := String → String → Except DatabaseFault Result

/-- The type that a catalog declares for a column. -/
def Catalog.declared (catalog : Catalog) (table key : String) : Except StoreFault String :=
  typeIn table key (catalog table key)

/-- Questions for types are answered from a catalog and change nothing. What is answered to other
statements is left open. -/
def Catalogued (send : Sender ρ) (catalog : Catalog) : Prop :=
  ∀ table key w, send (columnTypeStatement table key) w = (catalog table key, w)

/-- The types that a store keeps, by table and key. -/
abbrev Types := List ((String × String) × String)

/-- The types with the one that was learned for a column, if there is one. -/
def Types.learn (types : Types) (table key : String) : Except StoreFault String → Types
  | .error _ => types
  | .ok t => ((table, key), t) :: types

/-- What is kept is what the catalog declares. -/
def Types.Faithful (catalog : Catalog) (types : Types) : Prop :=
  ∀ table key t, types.lookup (table, key) = some t → catalog.declared table key = .ok t

/-! ## Kinds of statements -/

namespace Statement

/-- A statement that writes to a table. -/
def isUpdate (q : Statement) : Bool :=
  "UPDATE ".toList.isPrefixOf q.text.toList

/-- The question for the type of this column. -/
def asksFor (table key : String) (q : Statement) : Bool :=
  q.text == (columnTypeStatement table key).text &&
    match q.params with
    | [.text (some t), .text (some k)] => t == quotedName table && k == key
    | _ => false

end Statement

/-- The updates that were sent for a write. -/
def Trace.updates (trace : Trace) : List Statement :=
  trace.statements.filter Statement.isUpdate

section Kinds

variable (wr : Write) (columnType : Option String) (table key : String)

theorem isUpdate_statement : (wr.statement columnType).isUpdate = true := by
  rw [Statement.isUpdate, List.isPrefixOf_iff_prefix, Write.statement, updateStatement,
    updateFragments, List.cons_append, textOf_cons, Fragment.text]
  exact List.prefix_append _ _

theorem head_columnType : (columnTypeStatement table key).text.toList.head? = some 'S' := by
  have hhead : "SELECT format_type(a.atttypid, a.atttypmod)".toList.head? = some 'S' := by
    decide +kernel
  unfold columnTypeStatement
  dsimp only
  rw [String.toList_append, String.toList_append, List.append_assoc, List.head?_append, hhead,
    Option.some_or]

theorem isUpdate_columnType : (columnTypeStatement table key).isUpdate = false := by
  rw [Bool.eq_false_iff, ne_eq, Statement.isUpdate, List.isPrefixOf_iff_prefix]
  rintro ⟨rest, hrest⟩
  have hhead := head_columnType table key
  have hletter : "UPDATE ".toList.head? = some 'U' := by decide +kernel
  rw [← hrest, List.head?_append, hletter, Option.some_or] at hhead
  exact absurd hhead (by decide)

/-- An update asks for no type. -/
theorem asksFor_statement : (wr.statement columnType).asksFor table key = false := by
  have htext : (wr.statement columnType).text ≠ (columnTypeStatement table key).text := by
    intro heq
    have hupdate := isUpdate_statement wr columnType
    rw [Statement.isUpdate, heq] at hupdate
    exact absurd hupdate (Bool.eq_false_iff.mp (isUpdate_columnType table key))
  rw [Statement.asksFor, beq_eq_false_iff_ne.mpr htext, Bool.false_and]

/-- Questions for different columns are different. -/
theorem asksFor_columnType (table' key' : String) :
    (columnTypeStatement table' key').asksFor table key = (table' == table && key' == key) := by
  have htables : (quotedName table' == quotedName table) = (table' == table) := by
    rw [Bool.eq_iff_iff, beq_iff_eq, beq_iff_eq, quotedName_injective.eq_iff]
  have htext : (columnTypeStatement table' key').text = (columnTypeStatement table key).text := rfl
  rw [Statement.asksFor, htext, beq_self_eq_true, Bool.true_and, ← htables]
  rfl

end Kinds

/-! ## Statements while no transaction is left open -/

section Closed

variable {send : Sender ρ} {db : Database ρ} {table key t : String}

theorem execute_closed (hclosed : db.leftOpen = false) (q : Statement) :
    execute send q db =
      ((send q db.server).1.mapError .database, { db with server := (send q db.server).2 }) := by
  have hclean : cleanUp send db = ((), db) := by
    rw [cleanUp, get_bind, hclosed]
    rfl
  rw [execute, bind_of_eq hclean]
  rfl

theorem select_closed (hclosed : db.leftOpen = false) (q : Statement)
    (read : List Row → Except StoreFault α) :
    select send q read db =
      (((send q db.server).1.mapError .database).bind fun r => read r.rows,
        { db with server := (send q db.server).2 }) := by
  rw [select, bind_of_eq (execute_closed hclosed q)]
  cases (send q db.server).1 <;> rfl

theorem updateCell_closed (hclosed : db.leftOpen = false) (wr : Write)
    (columnType : Option String) :
    updateCell send wr.descriptor columnType wr.locator wr.cell db =
      (wr.verdict (send (wr.statement columnType) db.server).1,
        { db with server := (send (wr.statement columnType) db.server).2 }) := by
  rw [updateCell, bind_of_eq (execute_closed hclosed _)]
  show _ = (wr.verdict (send (wr.statement columnType) db.server).1, _)
  rw [Write.statement]
  cases (send (updateStatement wr.descriptor columnType wr.locator wr.cell) db.server).1 <;> rfl

/-- A type that is kept is not asked for. -/
theorem columnType_kept (hkept : db.columnTypes.lookup (table, key) = some t) :
    columnType send table key db = (.ok t, db) := by
  rw [columnType, get_bind, Database.columnType?, hkept]
  rfl

/-- A type that is not kept is asked for, and kept if there is one. -/
theorem columnType_asked (send : Sender ρ) (hclosed : db.leftOpen = false)
    (hnew : db.columnTypes.lookup (table, key) = none) :
    let a := send (columnTypeStatement table key) db.server
    columnType send table key db =
      (typeIn table key a.1, { db with
        server := a.2
        columnTypes := Types.learn db.columnTypes table key (typeIn table key a.1) }) := by
  intro a
  rw [columnType, get_bind, Database.columnType?, hnew]
  dsimp only
  rw [bind_of_eq (select_closed hclosed _ _)]
  show _ =
    (typeIn table key a.1, Database.mk a.2 (Types.learn _ table key (typeIn table key a.1)) _)
  cases a.1 with
  | error e => rfl
  | ok r =>
    simp only [typeIn, Except.mapError, Except.bind]
    rcases reading readColumnType r.rows with e | _ | t <;> rfl

end Closed

/-! ## One write -/

namespace Write

/-- The type under which the locator is read; none where the row is addressed by its place. -/
def typed (catalog : Catalog) (wr : Write) : Except StoreFault (Option String) :=
  match wr.descriptor.key with
  | none => .ok none
  | some key => (catalog.declared wr.descriptor.table key).map some

/-- The question that precedes the update, unless there is no need for it. -/
def questions (types : Types) (wr : Write) : List Statement :=
  match wr.descriptor.key with
  | none => []
  | some key =>
    if (types.lookup (wr.descriptor.table, key)).isSome then []
    else [columnTypeStatement wr.descriptor.table key]

/-- The types that are kept after the write. -/
def learned (catalog : Catalog) (types : Types) (wr : Write) : Types :=
  match wr.descriptor.key with
  | none => types
  | some key =>
    if (types.lookup (wr.descriptor.table, key)).isSome then types
    else types.learn wr.descriptor.table key (catalog.declared wr.descriptor.table key)

/-- How a write goes: nothing is written unless the locator has a type. -/
def course (send : Sender ρ) (catalog : Catalog) (wr : Write) (db : Database ρ) :
    Trace × Database ρ :=
  let types := wr.learned catalog db.columnTypes
  match wr.typed catalog with
  | .error e => (⟨.error e, wr.questions db.columnTypes⟩, ⟨db.server, types, db.leftOpen⟩)
  | .ok columnType =>
    let a := send (wr.statement columnType) db.server
    (⟨wr.verdict a.1, wr.questions db.columnTypes ++ [wr.statement columnType]⟩,
      ⟨a.2, types, db.leftOpen⟩)

end Write

theorem traced_of_eq {act : StateM (Database (ρ × List Statement)) (Except StoreFault Unit)}
    {r : Except StoreFault Unit} {qs : List Statement} {db db' : Database ρ}
    (h : act (db.noted []) = (r, db'.noted qs)) : traced act db = (⟨r, qs⟩, db') := by
  unfold traced
  rw [h]
  rfl

section Course

variable {send : Sender ρ} {catalog : Catalog} {db : Database ρ} {wr : Write}

theorem traced_perform (hcatalog : Catalogued send catalog) (hclosed : db.leftOpen = false)
    (hfaithful : Types.Faithful catalog db.columnTypes) :
    traced (wr.perform (noting send)) db = wr.course send catalog db := by
  have hupdate : ∀ (types : Types) (qs : List Statement) (columnType : Option String),
      updateCell (noting send) wr.descriptor columnType wr.locator wr.cell
          ({ db with columnTypes := types }.noted qs) =
        (wr.verdict (send (wr.statement columnType) db.server).1,
          (Database.mk (send (wr.statement columnType) db.server).2 types db.leftOpen).noted
            (qs ++ [wr.statement columnType])) := by
    intro types qs columnType
    have hopen : ({ db with columnTypes := types }.noted qs).leftOpen = false := hclosed
    exact updateCell_closed hopen wr columnType
  unfold Write.course Write.typed Write.questions Write.learned Write.perform update
  cases hkey : wr.descriptor.key with
  | none => exact traced_of_eq (hupdate _ [] none)
  | some key =>
    dsimp only
    cases hkept : db.columnTypes.lookup (wr.descriptor.table, key) with
    | some t =>
      have hread : columnType (noting send) wr.descriptor.table key (db.noted []) =
        (.ok t, db.noted []) := columnType_kept hkept
      rw [hfaithful _ _ _ hkept]
      apply traced_of_eq
      rw [bind_of_eq hread]
      exact hupdate _ [] (some t)
    | none =>
      -- the server answers from its catalog and stays as it is, so the update meets it unchanged
      have hask : noting send (columnTypeStatement wr.descriptor.table key) (db.noted []).server =
          (catalog wr.descriptor.table key,
            (db.server, [columnTypeStatement wr.descriptor.table key])) := by
        simp [noting, Database.noted, hcatalog _ _ db.server]
      have hnew : (db.noted []).columnTypes.lookup (wr.descriptor.table, key) = none := hkept
      have hread := columnType_asked (noting send) hclosed hnew
      rw [hask] at hread
      change columnType _ _ _ _ =
        (catalog.declared _ _, Database.mk _ (Types.learn _ _ _ (catalog.declared _ _)) _) at hread
      cases hdeclared : catalog.declared wr.descriptor.table key with
      | error e =>
        rw [hdeclared] at hread
        apply traced_of_eq
        rw [bind_of_eq hread]
        rfl
      | ok t =>
        rw [hdeclared] at hread
        apply traced_of_eq
        rw [bind_of_eq hread]
        exact hupdate (Types.learn _ _ _ (.ok t)) _ (some t)

/-- Nothing is kept that could be wrong. -/
theorem Types.faithful_nil : Types.Faithful catalog [] :=
  fun _ _ _ h => nomatch h

/-- A store that keeps no types goes on as one that knows none. -/
theorem traced_performAfresh (hcatalog : Catalogued send catalog) (hclosed : db.leftOpen = false) :
    traced (wr.performAfresh (noting send)) db =
      wr.course send catalog { db with columnTypes := [] } := by
  have hopen : ({ db with columnTypes := [] } : Database ρ).leftOpen = false := hclosed
  exact traced_perform hcatalog hopen Types.faithful_nil

/-- The updates of a write do not depend on what is known. -/
theorem Write.course_updates :
    (wr.course send catalog db).1.updates =
      match wr.typed catalog with
      | .error _ => []
      | .ok columnType => [wr.statement columnType] := by
  have hquestions : (wr.questions db.columnTypes).filter Statement.isUpdate = [] := by
    unfold questions
    split
    · rfl
    split
    · rfl
    exact List.filter_cons_of_neg (by simp [isUpdate_columnType])
  unfold course Trace.updates
  cases wr.typed catalog with
  | error e => exact hquestions
  | ok columnType =>
    show (_ ++ [wr.statement columnType]).filter _ = [wr.statement columnType]
    rw [List.filter_append, hquestions, List.filter_cons_of_pos (isUpdate_statement wr columnType)]
    rfl

/-- The question for a column precedes the write of a row that it addresses, unless its type is
known. -/
theorem Write.countP_asksFor_course (table key : String) :
    (wr.course send catalog db).1.statements.countP (·.asksFor table key) =
      if wr.isKeyedBy table key && (db.columnTypes.lookup (table, key)).isNone then 1 else 0 := by
  have hquestions : (wr.questions db.columnTypes).countP (·.asksFor table key) =
      if wr.isKeyedBy table key && (db.columnTypes.lookup (table, key)).isNone then 1 else 0 := by
    unfold questions
    cases hkey : wr.descriptor.key with
    | none => simp [isKeyedBy, hkey]
    | some key' =>
      dsimp only
      by_cases hkeyed : wr.isKeyedBy table key = true
      · obtain ⟨rfl, hsame⟩ := isKeyedBy_iff.mp hkeyed
        obtain rfl := Option.some.inj (hkey.symm.trans hsame)
        cases db.columnTypes.lookup (wr.descriptor.table, key') <;>
          simp [hkeyed, asksFor_columnType]
      · have hother : ¬ (wr.descriptor.table = table ∧ key' = key) := fun h =>
          hkeyed (isKeyedBy_iff.mpr ⟨h.1, hkey.trans (congrArg some h.2)⟩)
        rw [Bool.eq_false_iff.mpr hkeyed, Bool.false_and, if_neg Bool.false_ne_true]
        split
        · rfl
        · rw [List.countP_singleton, asksFor_columnType, if_neg]
          rwa [Bool.and_eq_true, beq_iff_eq, beq_iff_eq]
  unfold course
  cases wr.typed catalog with
  | error e => exact hquestions
  | ok columnType =>
    show (_ ++ [wr.statement columnType]).countP _ = _
    rw [List.countP_append, hquestions, List.countP_singleton, asksFor_statement]
    rfl

end Course

/-! ## What a write leaves -/

section Left

variable {catalog : Catalog} {types : Types} {wr : Write} {table key : String}

theorem Types.lookup_learn (types : Types) (t table' key' : String) :
    (types.learn table' key' (.ok t)).lookup (table, key) =
      if table' = table ∧ key' = key then some t else types.lookup (table, key) := by
  unfold learn
  rw [List.lookup_cons]
  by_cases h : table' = table ∧ key' = key
  · simp [h]
  · rw [if_neg h, beq_eq_false_iff_ne.mpr fun heq => h ?_]
    rw [Prod.mk.injEq] at heq
    exact ⟨heq.1.symm, heq.2.symm⟩

/-- After a write the type of its key column is known if there is one. -/
theorem Write.lookup_learned (hfaithful : types.Faithful catalog) :
    (wr.learned catalog types).lookup (table, key) =
      if wr.isKeyedBy table key then (catalog.declared table key).toOption
      else types.lookup (table, key) := by
  unfold learned
  cases hkey : wr.descriptor.key with
  | none => simp [isKeyedBy, hkey]
  | some key' =>
    dsimp only
    by_cases hkeyed : wr.isKeyedBy table key = true
    · obtain ⟨rfl, hsame⟩ := isKeyedBy_iff.mp hkeyed
      obtain rfl := Option.some.inj (hkey.symm.trans hsame)
      rw [if_pos hkeyed]
      cases hkept : types.lookup (wr.descriptor.table, key') with
      | some t =>
        rw [hfaithful _ _ _ hkept, Option.isSome_some, if_pos rfl, hkept]
        rfl
      | none =>
        rw [Option.isSome_none, if_neg Bool.false_ne_true]
        cases catalog.declared wr.descriptor.table key' with
        | error e => exact hkept
        | ok t => rw [Types.lookup_learn, if_pos ⟨rfl, rfl⟩]; rfl
    · rw [if_neg hkeyed]
      split
      · rfl
      cases catalog.declared wr.descriptor.table key' with
      | error e => rfl
      | ok t =>
        rw [Types.lookup_learn, if_neg]
        rintro ⟨htable, rfl⟩
        exact hkeyed (isKeyedBy_iff.mpr ⟨htable, hkey⟩)

theorem Write.faithful_learned (hfaithful : types.Faithful catalog) :
    (wr.learned catalog types).Faithful catalog := by
  intro table key t h
  rw [lookup_learned hfaithful] at h
  split at h
  · cases hdeclared : catalog.declared table key with
    | error e => rw [hdeclared] at h; contradiction
    | ok t' => rw [hdeclared] at h; exact congrArg Except.ok (Option.some.inj h)
  · exact hfaithful table key t h

end Left

/-! ## Notes change nothing -/

section Notes

variable {send : Sender ρ} {q : Statement}

/-- A database and the same one without what its server was sent. -/
def Database.Plain (noted : Database (ρ × List Statement)) (db : Database ρ) : Prop :=
  (⟨noted.server.1, noted.columnTypes, noted.leftOpen⟩ : Database ρ) = db

theorem agree_execute : Agree Database.Plain (execute (noting send) q) (execute send q) := by
  rintro ⟨⟨w, qs⟩, types, leftOpen⟩ _ rfl
  cases leftOpen <;> exact ⟨rfl, rfl⟩

theorem agree_select (read : List Row → Except StoreFault α) :
    Agree Database.Plain (select (noting send) q read) (select send q read) := by
  refine agree_execute.bind fun r => ?_
  cases r <;> exact .pure

theorem agree_columnType (table key : String) :
    Agree Database.Plain (columnType (noting send) table key) (columnType send table key) := by
  rintro noted _ rfl
  rw [columnType, columnType, get_bind, get_bind]
  unfold Database.columnType?
  dsimp only
  cases noted.columnTypes.lookup (table, key) with
  | some t => exact ⟨rfl, rfl⟩
  | none =>
    refine (agree_select _).bind (fun r => ?_) noted _ rfl
    rcases r with e | _ | t
    · exact .pure
    · exact .pure
    · rintro _ _ rfl
      exact ⟨rfl, rfl⟩

theorem agree_perform (wr : Write) :
    Agree Database.Plain (wr.perform (noting send)) (wr.perform send) := by
  have hupdate : ∀ columnType, Agree Database.Plain
      (updateCell (noting send) wr.descriptor columnType wr.locator wr.cell)
      (updateCell send wr.descriptor columnType wr.locator wr.cell) := by
    refine fun columnType => agree_execute.bind fun r => ?_
    cases r <;> exact .pure
  unfold Write.perform update
  split
  · exact hupdate none
  · refine (agree_columnType _ _).bind fun r => ?_
    cases r with
    | error e => exact .pure
    | ok t => exact hupdate (some t)

theorem agree_performAfresh (wr : Write) :
    Agree Database.Plain (wr.performAfresh (noting send)) (wr.performAfresh send) := by
  refine Agree.bind ?_ fun _ => agree_perform wr
  rintro _ _ rfl
  exact ⟨rfl, rfl⟩

/-- Many writes with their traces have the results of the writes without them. -/
theorem mapM_traced
    {noted : Write → StateM (Database (ρ × List Statement)) (Except StoreFault Unit)}
    {plain : Write → StateM (Database ρ) (Except StoreFault Unit)}
    (h : ∀ wr, Agree Database.Plain (noted wr) (plain wr)) (ws : List Write) (db : Database ρ) :
    let traces := (ws.mapM fun wr => traced (noted wr)) db
    (ws.mapM plain) db = (traces.1.map Trace.result, traces.2) := by
  induction ws generalizing db with
  | nil => rfl
  | cons wr ws ih =>
    obtain ⟨hresult, hend⟩ := h wr (db.noted []) db rfl
    have hplain : plain wr db = ((traced (noted wr) db).1.result, (traced (noted wr) db).2) :=
      Prod.ext hresult.symm hend.symm
    dsimp only
    rw [List.mapM_cons, List.mapM_cons, bind_of_eq hplain, bind_of_eq (ih _)]
    rfl

end Notes

/-! ## Many writes -/

section Runs

variable {send : Sender ρ} {catalog : Catalog} {db db' : Database ρ} {wr : Write}
  {table key : String}

theorem performAll_cons {ws : List Write} (hcatalog : Catalogued send catalog)
    (hclosed : db.leftOpen = false) (hfaithful : Types.Faithful catalog db.columnTypes) :
    let next := wr.course send catalog db
    let rest := Write.performAll send ws next.2
    Write.performAll send (wr :: ws) db = (next.1 :: rest.1, rest.2) := by
  intro next rest
  rw [Write.performAll, List.mapM_cons, bind_of_eq (traced_perform hcatalog hclosed hfaithful)]
  rfl

theorem performAllAfresh_cons {ws : List Write} (hcatalog : Catalogued send catalog)
    (hclosed : db.leftOpen = false) :
    let next := wr.course send catalog { db with columnTypes := [] }
    let rest := Write.performAllAfresh send ws next.2
    Write.performAllAfresh send (wr :: ws) db = (next.1 :: rest.1, rest.2) := by
  intro next rest
  rw [Write.performAllAfresh, List.mapM_cons, bind_of_eq (traced_performAfresh hcatalog hclosed)]
  rfl

theorem Write.course_columnTypes :
    (wr.course send catalog db).2.columnTypes = wr.learned catalog db.columnTypes := by
  unfold course
  dsimp only
  split <;> rfl

theorem Write.course_leftOpen : (wr.course send catalog db).2.leftOpen = db.leftOpen := by
  unfold course
  dsimp only
  split <;> rfl

theorem Write.faithful_course (send : Sender ρ) (wr : Write)
    (hfaithful : Types.Faithful catalog db.columnTypes) :
    Types.Faithful catalog (wr.course send catalog db).2.columnTypes := by
  rw [course_columnTypes]
  exact faithful_learned hfaithful

/-- The result and the updates of a write, and what the server makes of them, are the same whatever
is known. -/
theorem Write.course_alike (send : Sender ρ) (catalog : Catalog) (wr : Write)
    (hserver : db.server = db'.server) :
    (wr.course send catalog db).1.result = (wr.course send catalog db').1.result ∧
      (wr.course send catalog db).1.updates = (wr.course send catalog db').1.updates ∧
      (wr.course send catalog db).2.server = (wr.course send catalog db').2.server := by
  rw [course_updates, course_updates]
  unfold course
  dsimp only
  rw [hserver]
  split <;> exact ⟨rfl, rfl, rfl⟩

theorem performAll_alike (hcatalog : Catalogued send catalog) (ws : List Write)
    (hserver : db.server = db'.server) (hclosed : db.leftOpen = false)
    (hclosed' : db'.leftOpen = false) (hfaithful : Types.Faithful catalog db.columnTypes) :
    let kept := Write.performAll send ws db
    let afresh := Write.performAllAfresh send ws db'
    kept.1.map Trace.result = afresh.1.map Trace.result ∧
      kept.1.map Trace.updates = afresh.1.map Trace.updates ∧
      kept.2.server = afresh.2.server := by
  induction ws generalizing db db' with
  | nil => exact ⟨rfl, rfl, hserver⟩
  | cons wr ws ih =>
    dsimp only
    rw [performAll_cons hcatalog hclosed hfaithful, performAllAfresh_cons hcatalog hclosed']
    -- the servers stay equal although one of them was asked more
    have hforgotten : db.server = ({ db' with columnTypes := [] } : Database ρ).server := hserver
    obtain ⟨hresult, hupdates, hserver'⟩ := Write.course_alike send catalog wr hforgotten
    obtain ⟨hresults, hall, hend⟩ := ih hserver' (Write.course_leftOpen.trans hclosed)
      (Write.course_leftOpen.trans hclosed') (Write.faithful_course send wr hfaithful)
    refine ⟨?_, ?_, hend⟩
    · rw [List.map_cons, List.map_cons, hresult, hresults]
    · rw [List.map_cons, List.map_cons, hupdates, hall]

/-- A write whose key column has no type fails without an update. -/
theorem performAll_silent (hcatalog : Catalogued send catalog) (ws : List Write)
    (hclosed : db.leftOpen = false) (hfaithful : Types.Faithful catalog db.columnTypes) :
    List.Forall₂ (fun wr trace => ∀ e, wr.typed catalog = .error e →
      trace.result = .error e ∧ trace.updates = []) ws (Write.performAll send ws db).1 := by
  induction ws generalizing db with
  | nil => exact .nil
  | cons wr ws ih =>
    rw [performAll_cons hcatalog hclosed hfaithful]
    refine .cons (fun e he => ?_)
      (ih (Write.course_leftOpen.trans hclosed) (Write.faithful_course send wr hfaithful))
    rw [Write.course_updates, he]
    unfold Write.course
    rw [he]
    exact ⟨rfl, rfl⟩

/-- A store that keeps no types asks before each write that has a key column. -/
theorem performAllAfresh_asks (hcatalog : Catalogued send catalog) (ws : List Write)
    (hclosed : db.leftOpen = false) :
    List.Forall₂ (fun wr trace => ∀ key, wr.descriptor.key = some key →
      trace.statements.head? = some (columnTypeStatement wr.descriptor.table key)) ws
        (Write.performAllAfresh send ws db).1 := by
  induction ws generalizing db with
  | nil => exact .nil
  | cons wr ws ih =>
    rw [performAllAfresh_cons hcatalog hclosed]
    refine .cons (fun key hkey => ?_) (ih (Write.course_leftOpen.trans hclosed))
    have hquestions : wr.questions [] = [columnTypeStatement wr.descriptor.table key] := by
      rw [Write.questions, hkey]
      rfl
    unfold Write.course
    dsimp only
    rw [hquestions]
    split <;> rfl

/-- The type of a column is asked for once if there is one and it is not known. -/
theorem performAll_once (hcatalog : Catalogued send catalog) (ws : List Write)
    (hclosed : db.leftOpen = false) (hfaithful : Types.Faithful catalog db.columnTypes) {t : String}
    (hdeclared : catalog.declared table key = .ok t) :
    (Trace.log (Write.performAll send ws db).1).countP (·.asksFor table key) ≤
      if (db.columnTypes.lookup (table, key)).isNone then 1 else 0 := by
  induction ws generalizing db with
  | nil => exact Nat.zero_le _
  | cons wr ws ih =>
    have hrest := ih (Write.course_leftOpen.trans hclosed)
      (Write.faithful_course send wr hfaithful)
    rw [Write.course_columnTypes, Write.lookup_learned hfaithful, hdeclared] at hrest
    rw [performAll_cons hcatalog hclosed hfaithful, Trace.log_cons, List.countP_append,
      Write.countP_asksFor_course]
    cases hkeyed : wr.isKeyedBy table key <;> rw [hkeyed] at hrest
    · rw [Bool.false_and, if_neg Bool.false_ne_true, Nat.zero_add]
      exact hrest
    · exact Nat.le_of_eq (by rw [Nat.le_zero.mp hrest, Bool.true_and, Nat.add_zero])

/-- The type of a column that has none is asked for before every write of a row that the column
addresses. -/
theorem performAll_again (hcatalog : Catalogued send catalog) (ws : List Write)
    (hclosed : db.leftOpen = false) (hfaithful : Types.Faithful catalog db.columnTypes)
    {e : StoreFault} (hdeclared : catalog.declared table key = .error e) :
    (Trace.log (Write.performAll send ws db).1).countP (·.asksFor table key) =
      ws.countP (·.isKeyedBy table key) := by
  induction ws generalizing db with
  | nil => rfl
  | cons wr ws ih =>
    have hnone : db.columnTypes.lookup (table, key) = none := by
      rw [Option.eq_none_iff_forall_ne_some]
      intro t ht
      have hok := hfaithful _ _ _ ht
      rw [hdeclared] at hok
      contradiction
    -- what was not learned before this write is not learned after it
    have hrest := ih (Write.course_leftOpen.trans hclosed)
      (Write.faithful_course send wr hfaithful)
    rw [performAll_cons hcatalog hclosed hfaithful, Trace.log_cons, List.countP_append,
      Write.countP_asksFor_course, List.countP_cons, hnone, hrest, Option.isNone_none,
      Bool.and_true, Nat.add_comm]

end Runs

/-- What keeping types leaves as it is and what it saves, for writes with their traces under a
store that keeps types and under one that does not. -/
structure Transparent (catalog : Catalog) (ws : List Write) (kept afresh : List Trace) :
    Prop where
  /-- The results are the same. -/
  results : kept.map Trace.result = afresh.map Trace.result
  /-- The same updates are sent for each write, with the same values. -/
  updates : kept.map Trace.updates = afresh.map Trace.updates
  /-- The store that keeps no types asks before each write that has a key column. -/
  asks : List.Forall₂ (fun wr trace => ∀ key, wr.descriptor.key = some key →
    trace.statements.head? = some (columnTypeStatement wr.descriptor.table key)) ws afresh
  /-- The other one asks at most once for a type that there is. -/
  once : ∀ table key t, catalog.declared table key = .ok t →
    (Trace.log kept).countP (·.asksFor table key) ≤ 1
  /-- Where there is none it asks at every write. -/
  again : ∀ table key e, catalog.declared table key = .error e →
    (Trace.log kept).countP (·.asksFor table key) = ws.countP (·.isKeyedBy table key)
  /-- Without a type no update is sent. -/
  silent : List.Forall₂ (fun wr trace => ∀ e, wr.typed catalog = .error e →
    trace.result = .error e ∧ trace.updates = []) ws kept

/-- Whatever a database answers to updates, keeping the types that its catalog declares is
transparent for any list of writes. The traces are those of the store itself: without them it gives
the same results and leaves the same database. -/
theorem keptTypes_transparent {send : Sender ρ} {catalog : Catalog}
    (hcatalog : Catalogued send catalog) (w : ρ) (ws : List Write) :
    let kept := Write.performAll send ws (.fresh w)
    let afresh := Write.performAllAfresh send ws (.fresh w)
    (ws.mapM (Write.perform send)) (.fresh w) = (kept.1.map Trace.result, kept.2) ∧
      (ws.mapM (Write.performAfresh send)) (.fresh w) = (afresh.1.map Trace.result, afresh.2) ∧
      kept.2.server = afresh.2.server ∧ Transparent catalog ws kept.1 afresh.1 := by
  intro kept afresh
  have hfaithful : Types.Faithful catalog (Database.fresh w).columnTypes := Types.faithful_nil
  have hserver : (Database.fresh w).server = (Database.fresh w).server := rfl
  obtain ⟨hresults, hupdates, hserver⟩ := performAll_alike hcatalog ws hserver rfl rfl hfaithful
  refine ⟨mapM_traced agree_perform ws _, mapM_traced agree_performAfresh ws _, hserver, ?_⟩
  exact {
    results := hresults
    updates := hupdates
    asks := performAllAfresh_asks hcatalog ws rfl
    once := fun table key t ht => performAll_once hcatalog ws rfl hfaithful ht
    again := fun table key e he => performAll_again hcatalog ws rfl hfaithful he
    silent := performAll_silent hcatalog ws rfl hfaithful }

namespace Archive

/-- The catalog of a database with one table, whose key is a number. -/
def catalog : Catalog := fun table key =>
  .ok ⟨if quotedName table == "\"notes\"" && key == "id" then [[.string "bigint"]] else [], 0⟩

/-- A server over this catalog that refuses every second update. -/
def send : Sender Nat := fun q n =>
  match q.params with
  | [.text (some table), .text (some key)] =>
    (.ok ⟨if table == "\"notes\"" && key == "id" then [[.string "bigint"]] else [], 0⟩, n)
  | _ => (if n % 2 = 0 then .ok ⟨[], 1⟩ else .error (.refused "deadlock"), n + 1)

/-- Writes of one table: by its key, by what is no column, by its key again, and by place. -/
def writes : List Write :=
  let write (key : Option String) : Write := ⟨⟨"notes", "owner", .scalar, key⟩, "7", .scalar none⟩
  [write (some "id"), write (some "slug"), write (some "id"), write none]

theorem catalogued : Catalogued send catalog :=
  fun _ _ _ => rfl

end Archive

/-- The writes send three updates. For them the store that keeps types asks two times, once for the
type that there is, and the other one three times. -/
theorem keptTypes_transparent_archive :
    let kept := Write.performAll Archive.send Archive.writes (.fresh 0)
    let afresh := Write.performAllAfresh Archive.send Archive.writes (.fresh 0)
    Catalogued Archive.send Archive.catalog ∧
      Transparent Archive.catalog Archive.writes kept.1 afresh.1 ∧
      (Trace.log kept.1).length = 5 ∧ (Trace.log afresh.1).length = 6 := by
  obtain ⟨-, -, -, htransparent⟩ := keptTypes_transparent Archive.catalogued 0 Archive.writes
  exact ⟨Archive.catalogued, htransparent, by decide +kernel, by decide +kernel⟩

end Rekey.Sql
