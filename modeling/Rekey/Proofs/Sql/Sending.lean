import Rekey.Proofs.Agreement
import Rekey.Sql.Playback
import Rekey.Sql.Store

/-!
# What a store sends

A database that answers from a script keeps the statements it was sent. While no transaction is left
open, an operation of the store outside of transactions sends its own statements and nothing else.
-/

namespace Rekey.Sql

open Playback (send)

/-- These statements were sent on the way from `db` to `db'`, where no transaction is left open. -/
structure Sent (qs : List Statement) (db db' : Database Playback) : Prop where
  statements : db'.server.statements = db.server.statements ++ qs
  closed : db'.leftOpen = false

variable {qs qs' : List Statement} {db db' db'' : Database Playback} {q : Statement}

theorem Sent.nil (h : db.leftOpen = false) : Sent [] db db :=
  ⟨(List.append_nil _).symm, h⟩

theorem Sent.append (h : Sent qs db db') (h' : Sent qs' db' db'') : Sent (qs ++ qs') db db'' :=
  ⟨by rw [h'.statements, h.statements, List.append_assoc], h'.closed⟩

/-- A statement is kept whatever it is answered. -/
theorem send_statements (q : Statement) (p : Playback) :
    (send q p).2.statements = p.statements ++ [q] := by
  unfold send
  dsimp only
  split <;> rfl

theorem cleanUp_closed (h : db.leftOpen = false) : cleanUp send db = ((), db) := by
  rw [cleanUp, get_bind, h]
  rfl

/-- Nothing is rolled back first, since no transaction is left open. -/
theorem execute_sends (h : db.leftOpen = false) (q : Statement) :
    Ends (execute send q) db fun _ db' => Sent [q] db db' := by
  rw [execute, ends_bind, Ends, cleanUp_closed h]
  exact ⟨send_statements q db.server, h⟩

theorem perform_sends (h : db.leftOpen = false) (q : Statement) :
    Ends (perform send q) db fun _ db' => Sent [q] db db' :=
  execute_sends h q

theorem select_sends {α : Type} (h : db.leftOpen = false) (q : Statement)
    (read : List Row → Except StoreFault α) :
    Ends (select send q read) db fun _ db' => Sent [q] db db' := by
  rw [select, ends_bind]
  refine (execute_sends h q).mono fun r db' hsent => ?_
  cases r <;> exact hsent

/-- The statements that prepare the mappings. -/
def preparation (table : String) : List Statement :=
  [mappingTableStatement table, mappingIndexStatement table]

/-- Preparing the mappings sends the statements for it, up to the first that fails. -/
theorem ensureMappings_sends (h : db.leftOpen = false) (table : String) :
    Ends (ensureMappings send table) db fun r db' =>
      ∃ sent, Sent sent db db' ∧ sent <+: preparation table ∧
        (r = .ok () → sent = preparation table) := by
  rw [ensureMappings, ends_bind]
  refine (perform_sends h _).mono fun r db' hsent => ?_
  cases r with
  | error e => exact ⟨_, hsent, List.prefix_append _ [_], nofun⟩
  | ok _ =>
    refine (perform_sends hsent.closed _).mono fun r db'' hsent' => ?_
    exact ⟨preparation table, hsent.append hsent', List.prefix_refl _, fun _ => rfl⟩

end Rekey.Sql
