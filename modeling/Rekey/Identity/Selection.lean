import Rekey.Record.Basic

/-!
# Choosing among the accounts of an answer

A provider may answer a lookup with several accounts, and some match loosely. An account whose
email differs is never taken; one without an email is taken when none has the email itself.
-/

namespace Rekey

/-- A text with its ASCII letters in lower case. -/
def foldCase (s : String) : List Char :=
  s.toList.map Char.toLower

/-- An account that carries the email, up to the case of ASCII letters. -/
def Account.carries (i : Account) (email : String) : Bool :=
  match i.email with
  | some e => foldCase e == foldCase email
  | none => false

/-- The account that an answer gives for an email. -/
def pickAccount (answer : List Account) (email : String) : Option Account :=
  match answer.find? (·.carries email) with
  | some i => some i
  | none => answer.find? (·.email.isNone)

end Rekey
