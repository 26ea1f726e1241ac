import Rekey.Failure.Causes
import Rekey.Network.Link
import Rekey.Network.Url
import Rekey.Text.Charset

/-!
# Requests and answers

A request, the answer to it, and a server that answers from a script and keeps the requests.
-/

namespace Rekey.Network

/-- A request. -/
structure Request where
  method : String
  url : Url
  authorization : Option String
  contentType : Option String
  body : String
deriving DecidableEq, Repr, Inhabited

/-- An address that requests reach: of the two schemes for requests, not too long, and with a host
that a request can name. -/
def isReachable (u : Url) : Bool :=
  let named := match u.authority with
    | some ⟨_, _, .name cs, _⟩ => !cs.any ['"', '\x60', '\x7b', '\x7d'].contains
    | _ => true
  (u.scheme == "http".toList || u.scheme == "https".toList) && named && u.chars.length ≤ 65534

/-- An answer. -/
structure Response where
  status : Nat
  contentType : Option String
  body : List UInt8
deriving DecidableEq, Repr, Inhabited

namespace Response

/-- The request was granted. -/
def isSuccess (r : Response) : Bool := 200 ≤ r.status && r.status < 300

/-- The label of the character set in a content type. -/
def charsetLabel (contentType : String) : Option String :=
  ((Text.cutText ';' contentType).drop 1).findSome? fun part =>
    match Text.cut '=' (part.toList.filter (· != ' ')) with
    | [name, value] =>
      if name.map Char.toLower == "charset".toList then
        some (String.ofList (value.filter (· != '"')))
      else none
    | _ => none

/-- The body as text for people. -/
def text (r : Response) : String :=
  let set := ((r.contentType.bind charsetLabel).map Text.Charset.ofLabel).getD .utf8
  set.decode r.body

end Response

/-- What a server does with a request. -/
inductive Reaction where
  | answer (r : Response)
  | hangUp
deriving DecidableEq, Repr, Inhabited

/-- A server that answers from a script. -/
structure ScriptedServer where
  link : Link
  script : List Reaction
  requests : List Request
deriving Repr

namespace ScriptedServer

/-- What a server answers when its script is used up. -/
def exhausted : Response := ⟨500, none, "no scripted response".toUTF8.toList⟩

/-- An answer as it arrives: some statuses have no body. -/
def delivered (r : Response) : Response :=
  if r.status == 204 || r.status == 304 then { r with body := [] } else r

/-- Sends a request. One to an address that requests do not reach is not sent. -/
def send (q : Request) : StateM ScriptedServer (Except RequestFault Response) := fun s =>
  if isReachable q.url then
    match s.link with
    | .down => (.error (.unanswered q.url.text), s)
    | .up =>
      let s' := { s with requests := s.requests ++ [q], script := s.script.tail }
      match s.script with
      | [] => (.ok exhausted, s')
      | .hangUp :: _ => (.error (.unanswered q.url.text), s')
      | .answer r :: _ => (.ok (delivered r), s')
  else (.error (.unusableAddress q.url.text), s)

end ScriptedServer

end Rekey.Network
