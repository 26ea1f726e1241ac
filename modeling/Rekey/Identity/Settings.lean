import Rekey.Failure.Basic
import Rekey.Text.Blank

/-!
# Settings of the identity provider

Which provider a migration uses, and what it needs to reach it.
-/

namespace Rekey

open Rekey.Text (isBlankText)

/-- The kinds of identity providers. -/
inductive IdentityBackend where
  | rest
  | memory
deriving DecidableEq, Repr, Inhabited

/-- The name of a kind. -/
def IdentityBackend.text : IdentityBackend → String
  | rest => "rest"
  | memory => "memory"

/-- The kinds by name. -/
def IdentityBackend.named : List (String × IdentityBackend) :=
  [rest, memory].map fun k => (k.text, k)

/-- Settings of the identity provider. The timeout is in milliseconds. -/
structure ProviderSettings where
  kind : IdentityBackend
  endpoint : Option String
  apiKey : Option String
  timeoutMillis : Nat
deriving DecidableEq, Repr, Inhabited

/-- A provider that can be used. -/
inductive ProviderChoice where
  | memory
  | rest (endpoint apiKey : String)
deriving DecidableEq, Repr, Inhabited

/-- The name of the provider. -/
def ProviderChoice.name : ProviderChoice → String
  | memory => "memory"
  | rest _ _ => "rest"

namespace ProviderSettings

/-- How long to wait for an answer unless said otherwise, in seconds. -/
def standardTimeout : Nat := 30

/-- The provider that the settings describe. One that is reached over the network needs an endpoint
that is not blank, a key, and a client, which may have a fault. -/
def choose (s : ProviderSettings) (clientFault : Option String) : Except Failure ProviderChoice :=
  match s.kind with
  | .memory => .ok .memory
  | .rest =>
    match s.endpoint.filter (!isBlankText ·) with
    | none => .error (.config .endpointMissing)
    | some endpoint =>
      match s.apiKey with
      | none => .error (.config .apiKeyMissing)
      | some apiKey =>
        match clientFault with
        | some reason => .error (.config (.clientUnusable reason))
        | none => .ok (.rest endpoint apiKey)

end ProviderSettings

end Rekey
