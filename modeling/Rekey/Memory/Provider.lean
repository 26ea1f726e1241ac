import Rekey.Failure.Causes
import Rekey.Record.Basic
import Std.Data.ExtTreeMap

/-!
# An identity provider in memory

Identities by email. New identities are numbered in the order of their creation.
-/

namespace Rekey

/-- An identity provider in memory. The lists name the emails whose lookup or creation fails. -/
structure MemoryProvider where
  byEmail : Std.ExtTreeMap String Account
  failingLookups : List String
  failingCreates : List String
  lastNumber : Nat
  created : Nat

namespace MemoryProvider

/-- A provider without identities. -/
def empty : MemoryProvider := ⟨∅, [], [], 0, 0⟩

instance : Inhabited MemoryProvider := ⟨empty⟩

/-- How many identities there are. -/
def size (p : MemoryProvider) : Nat := p.byEmail.size

/-- Adds an identity, or replaces the one with the same email. -/
def insert (p : MemoryProvider) (id email : String) : MemoryProvider :=
  { p with byEmail := p.byEmail.insert email ⟨id, some email⟩ }

/-- The identity with this number: 24 hexadecimal digits. -/
def numberedId (n : Nat) : String :=
  let ds := Nat.toDigits 16 n
  "user_" ++ String.ofList (List.replicate (24 - ds.length) '0' ++ ds)

/-- The identity of an email. -/
def accountOf (p : MemoryProvider) (email : String) : Except ProviderFault Account :=
  if p.failingLookups.contains email then .error (.rejected 503 "lookup unavailable")
  else
    match p.byEmail[email]? with
    | some identity => .ok identity
    | none => .error .notFound

/-- Creates the identity of an email that has none. -/
def createAccount (p : MemoryProvider) (email : String) :
    Except ProviderFault Account × MemoryProvider :=
  if p.failingCreates.contains email then (.error (.rejected 422 "email rejected"), p)
  else
    match p.byEmail[email]? with
    | some identity =>
      (.error (.rejected 409 ("identity " ++ identity.id ++ " already exists")), p)
    | none =>
      let identity : Account := ⟨numberedId (p.lastNumber + 1), some email⟩
      (.ok identity, { p with
        byEmail := p.byEmail.insert email identity
        lastNumber := p.lastNumber + 1
        created := p.created + 1 })

end MemoryProvider

end Rekey
