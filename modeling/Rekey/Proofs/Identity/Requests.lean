import Rekey.Identity.Rest
import Rekey.Proofs.Network.Forms

/-!
# The two requests

Requests can be made wherever the address of the users can be read and has a host and the key can be
put into a request; which email they are about does not matter. The question for the accounts of an
email asks there, with the email as the last parameter, and the wish for an account goes there with
the email in its body.
-/

namespace Rekey.Rest

open Rekey.Network (Request)

variable {base key email : String} {users : Url}

/-- Requests with the key are made at this address: the key can be put into a request, and it is
the address of the users, which has a host, less who is named in it. -/
def IsEndpoint (base key : String) (users : Url) : Prop :=
  isSendable key = true ∧
    ∃ u, Url.ofChars (usersAddress base) = .ok u ∧ u.hasHost = true ∧ u.withoutUser = users

/-- Requests are made where they can be made, and nowhere else. -/
theorem usersEndpoint_eq_ok_iff :
    usersEndpoint base key = .ok users ↔ IsEndpoint base key users := by
  unfold usersEndpoint IsEndpoint
  cases Url.ofChars (usersAddress base) with
  | error fault => simp
  | ok u => cases hhost : u.hasHost <;> cases hkey : isSendable key <;> simp [hhost]

/-- Requests are made at one address. -/
theorem IsEndpoint.unique {users' : Url} (h : IsEndpoint base key users)
    (h' : IsEndpoint base key users') : users = users' :=
  Except.ok.inj ((usersEndpoint_eq_ok_iff.mpr h).symm.trans (usersEndpoint_eq_ok_iff.mpr h'))

/-- Where requests cannot be made there is a reason. -/
theorem usersEndpoint_eq_error (h : ∀ users, ¬ IsEndpoint base key users) :
    ∃ fault, usersEndpoint base key = .error fault := by
  cases hmade : usersEndpoint base key with
  | error fault => exact ⟨fault, rfl⟩
  | ok users => exact absurd (usersEndpoint_eq_ok_iff.mp hmade) (h users)

/-- A question for the accounts of an email: it goes to the address with the email as one more
parameter, and carries the key and nothing else. -/
structure IsQuestion (users : Url) (key email : String) (q : Request) : Prop where
  method : q.method = "GET"
  target : { q.url with query := users.query } = users
  parameters : q.url.parameters = users.parameters ++ [("email".toList, email.toList)]
  authorization : q.authorization = some ("Bearer " ++ key)
  empty : q.contentType = none ∧ q.body = ""

/-- A wish for an account with an email: it goes to the address, with the key, and its body is an
object whose one member is the email. -/
structure IsWish (users : Url) (key email : String) (q : Request) : Prop where
  method : q.method = "POST"
  target : q.url = users
  authorization : q.authorization = some ("Bearer " ++ key)
  contentType : q.contentType = some "application/json"
  body : q.body = (Json.Value.object [("email", .string email)]).compact

theorem lookupRequest_isQuestion (users : Url) (key email : String) :
    IsQuestion users key email (lookupRequest users key email) where
  method := rfl
  target := rfl
  parameters := users.parameters_addParameter "email" email
  authorization := rfl
  empty := ⟨rfl, rfl⟩

theorem creationRequest_isWish (users : Url) (key email : String) :
    IsWish users key email (creationRequest users key email) :=
  ⟨rfl, rfl, rfl, rfl, rfl⟩

end Rekey.Rest
