import Rekey.Sql.Connection

/-!
# A database that answers from a script

Every statement takes the first reply left that is meant for it. Without one a question is answered
with no, a query with no rows, and a write with one row.
-/

namespace Rekey.Sql

/-- What a reply makes of a statement. -/
inductive Verdict where
  | result (r : Result)
  | refused (text : String)
deriving Repr, BEq, Inhabited

/-- A scripted reply, meant for all statements or for those that hold a text. -/
structure ScriptedReply where
  wanted : Option String
  verdict : Verdict
deriving Repr, BEq, Inhabited

/-- A database that answers from a script, and the statements it was sent. -/
structure Playback where
  script : List ScriptedReply
  statements : List Statement
deriving Repr, Inhabited

/-- Whether one character list begins with another. -/
def beginsWith : List Char → List Char → Bool
  | [], _ => true
  | _ :: _, [] => false
  | p :: ps, c :: cs => p == c && beginsWith ps cs

/-- Whether a character list holds another. -/
def holds (part : List Char) : List Char → Bool
  | [] => part.isEmpty
  | c :: r => beginsWith part (c :: r) || holds part r

namespace Playback

/-- A statement that opens or ends a transaction. -/
def isTransactional (q : Statement) : Bool :=
  q == beginStatement || q == commitStatement || q == rollbackStatement

/-- Whether a reply is meant for a statement. -/
def suits (q : Statement) (r : ScriptedReply) : Bool :=
  match r.wanted with
  | some part => holds part.toList q.text.toList
  | none => !isTransactional q

/-- The first reply meant for a statement, and the script without it. -/
def takeReply (q : Statement) : List ScriptedReply → Option ScriptedReply × List ScriptedReply
  | [] => (none, [])
  | r :: rest =>
    if suits q r then (some r, rest)
    else
      let (found, rest) := takeReply q rest
      (found, r :: rest)

/-- The answer to a statement without a reply. -/
def usual (q : Statement) : Result :=
  if beginsWith "SELECT EXISTS".toList q.text.toList then ⟨[[.bool false]], 0⟩
  else if beginsWith "SELECT".toList q.text.toList then ⟨[], 0⟩
  else ⟨[], 1⟩

/-- Answers a statement. -/
def send : Sender Playback := fun q p =>
  let (reply, script) := takeReply q p.script
  let p' : Playback := ⟨script, p.statements ++ [q]⟩
  match reply with
  | none => (.ok (usual q), p')
  | some ⟨_, .result r⟩ => (.ok r, p')
  | some ⟨_, .refused text⟩ => (.error (.refused text), p')

end Playback

/-- Opens a connection to the database at an address, which may refuse it with a text. -/
def connect (link : Link) (refusal : Option String) (address : String) : Except StoreFault Unit :=
  match Location.ofText address with
  | .error fault => .error (.database (.misconfigured fault))
  | .ok location =>
    match link.connect location.place, refusal with
    | .error fault, _ => .error (.database (.unreachable fault))
    | .ok _, some text => .error (.database (.refused text))
    | .ok _, none => .ok ()

end Rekey.Sql
