import Rekey.Identity.Selection
import Rekey.Migration.Collaborator
import Rekey.Network.Exchange
import Rekey.Record.Reading

/-!
# An identity provider on the network

Accounts are looked up and created by requests to the users below a base address. A lookup that
names no account is told apart from one that fails, since only the former may lead to a creation.
-/

namespace Rekey.Rest

open Rekey.Network (Request Response)

/-- How requests are sent over a world `σ`. -/
abbrev Sender (σ : Type) := Request → StateM σ (Except RequestFault Response)

/-- The address of the users below a base address. -/
def usersAddress (base : String) : List Char :=
  (base.toList.reverse.dropWhile (· == '/')).reverse ++ "/users".toList

/-- A key that can be put into a request: it holds no control character but tabs. -/
def isSendable (key : String) : Bool :=
  key.toList.all fun c => (0x20 ≤ c.toNat || c == '\t') && c.toNat != 0x7F

/-- The address of the users, if requests to it can be made with this key. Who is named in the
address is no part of it. -/
def usersEndpoint (base key : String) : Except RequestFault Url :=
  match Url.ofChars (usersAddress base) with
  | .error _ => .error .unusable
  | .ok u =>
    if !u.hasHost then .error (.unusableAddress u.text)
    else if !isSendable key then .error .unusable
    else .ok u.withoutUser

/-- The authorization by a key. -/
def bearer (key : String) : String := "Bearer " ++ key

/-- The question for the accounts of an email. -/
def lookupRequest (users : Url) (key email : String) : Request :=
  ⟨"GET", users.addParameter "email" email, some (bearer key), none, ""⟩

/-- The wish for an account with an email. -/
def creationRequest (users : Url) (key email : String) : Request :=
  ⟨"POST", users, some (bearer key), some "application/json",
    (Json.Value.object [("email", .string email)]).compact⟩

/-- Reads the body of an answer. -/
def readBody {α : Type} (read : Json.Reader α) (r : Response) : Except ProviderFault α :=
  match Json.readBytes read r.body with
  | .error _ => .error (.invalidResponse .undecodable)
  | .ok a => .ok a

/-- The refusal that an answer states. -/
def refusal (r : Response) : ProviderFault := .rejected r.status r.text

/-- The account that the answer to a lookup gives. -/
def lookupAnswer (email : String) (r : Response) : Except ProviderFault Account :=
  if r.status = 404 then .error .notFound
  else if r.isSuccess then
    match readBody (Json.readList Account.read) r with
    | .error e => .error e
    | .ok accounts =>
      match pickAccount accounts email with
      | some i => .ok i
      | none => .error .notFound
  else .error (refusal r)

/-- The account that the answer to a creation gives. -/
def creationAnswer (r : Response) : Except ProviderFault Account :=
  if r.isSuccess then
    match readBody Account.read r with
    | .error e => .error e
    | .ok i => if i.id.isEmpty then .error (.invalidResponse .emptyId) else .ok i
  else .error (refusal r)

/-- Makes a request at the address of the users, if there is one, and reads the answer. -/
def exchange {σ : Type} (send : Sender σ) (endpoint : Except RequestFault Url)
    (request : Url → Request) (read : Response → Except ProviderFault Account) :
    StateM σ (Except ProviderFault Account) :=
  match endpoint with
  | .error f => pure (.error (.request f))
  | .ok users => do
    match ← send (request users) with
    | .error f => pure (.error (.request f))
    | .ok r => pure (read r)

/-- The provider at a base address. -/
def provider {σ : Type} (send : Sender σ) (base key : String) : Provider σ where
  name := "rest"
  accountOf email :=
    exchange send (usersEndpoint base key) (lookupRequest · key email) (lookupAnswer email)
  createAccount email :=
    exchange send (usersEndpoint base key) (creationRequest · key email) creationAnswer

end Rekey.Rest
