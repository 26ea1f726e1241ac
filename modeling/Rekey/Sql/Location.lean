import Rekey.Network.Link
import Rekey.Network.Url
import Rekey.Text.Count
import Rekey.Text.Quoted

/-!
# Where a database is

The address of a database names a host or the directory of a socket, and a port. Its parameters may
name another place. Every part of it has to make sense, whether or not it bears on the place, and
the first one that does not is reported.
-/

namespace Rekey.Sql

/-- Why an address does not say where a database is. -/
inductive LocationFault where
  | url (fault : UrlFault)
  | escapes (fault : Text.Utf8Fault)
  | encryption (word : String)
  | count (fault : Text.CountFault)
  | hostAddress
deriving DecidableEq, Repr, Inhabited

/-- What is said of anything wrong with an address. -/
def misconfiguredText (what : String) : String := "error with configuration: " ++ what

/-- The message of a fault. -/
def LocationFault.message : LocationFault → String
  | url fault => misconfiguredText fault.message
  | escapes fault => misconfiguredText fault.message
  | encryption word =>
    misconfiguredText
      (misconfiguredText ("unknown value " ++ Text.quoted word ++ " for \x60ssl_mode\x60"))
  | count fault => misconfiguredText fault.message
  | hostAddress => misconfiguredText "invalid IP address syntax"

/-- Where a database is. A directory of a socket wins over a host. -/
structure Location where
  directory : Option (List Char)
  host : List Char
  port : Nat
deriving DecidableEq, Repr, Inhabited

namespace Location

/-- Where a database is unless something else is said. -/
def usual : Location := ⟨none, "localhost".toList, 5432⟩

/-- A host without brackets around it. -/
def unbracketed (cs : List Char) : List Char :=
  let isBracket (c : Char) : Bool := c == '[' || c == ']'
  ((cs.dropWhile isBracket).reverse.dropWhile isBracket).reverse

/-- The place to connect to. -/
def place (l : Location) : Place :=
  match l.directory with
  | some d => .socket (d ++ "/.s.PGSQL.".toList ++ Nat.toDigits 10 l.port)
  | none => .host (unbracketed l.host)

/-- The words for how much a connection is encrypted. -/
def encryptionWords : List String :=
  ["disable", "allow", "prefer", "require", "verify-ca", "verify-full"]

/-- The text that escapes write. -/
def unescape (cs : List Char) : Except LocationFault (List Char) :=
  (Text.utf8Text (Text.percentDecode cs)).mapError .escapes

/-- A host, or the directory of a socket if the text begins with a slash. -/
def withHost (l : Location) (text : List Char) : Location :=
  if text.head? == some '/' then { l with directory := some text } else { l with host := text }

/-- The host of an address, whose escapes are read only to find a directory. -/
def withUrlHost (l : Location) (h : Host) : Except LocationFault Location :=
  if h.isEmpty then .ok l
  else if (Text.percentDecode h.chars).head? == some 0x2F then (unescape h.chars).map l.withHost
  else .ok (l.withHost h.chars)

/-- What a parameter adds. Parameters that bear on something else than the place are taken as they
are, and so are unknown ones. -/
def withParameter (l : Location) (name value : List Char) : Except LocationFault Location :=
  match String.ofList name with
  | "sslmode" | "ssl-mode" =>
    if encryptionWords.contains (String.ofList (value.map Char.toLower)) then .ok l
    else .error (.encryption (String.ofList value))
  | "statement-cache-capacity" =>
    match Text.readCount (UInt64.size - 1) value with
    | .ok _ => .ok l
    | .error fault => .error (.count fault)
  | "host" => .ok (l.withHost value)
  | "hostaddr" =>
    if Address.isLiteral value then .ok (l.withHost value) else .error .hostAddress
  | "port" =>
    match Text.readCount (UInt16.size - 1) value with
    | .ok n => .ok { l with port := n }
    | .error fault => .error (.count fault)
  | _ => .ok l

/-- What parameters add, one after the other. -/
def withParameters (l : Location) :
    List (List Char × List Char) → Except LocationFault Location
  | [] => .ok l
  | p :: rest =>
    match l.withParameter p.1 p.2 with
    | .ok l => l.withParameters rest
    | .error fault => .error fault

/-- What the user, the password and the path of an address write must be text. -/
def checkNames (u : Url) : Except LocationFault Unit := do
  match u.authority with
  | some a =>
    let _ ← unescape a.user
    let _ ← unescape (a.password.getD [])
  | none => pure ()
  let _ ← unescape (u.pathChars.dropWhile (· == '/'))

/-- The location that an address names. -/
def ofUrl (u : Url) : Except LocationFault Location := do
  let l ← match u.authority with
    | some a => do
      let l ← usual.withUrlHost a.host
      pure { l with port := a.port.getD usual.port }
    | none => pure usual
  checkNames u
  l.withParameters u.parameters

/-- The location that a text names. -/
def ofText (s : String) : Except LocationFault Location :=
  match Url.ofChars s.toList with
  | .error fault => .error (.url fault)
  | .ok u => ofUrl u

end Location

end Rekey.Sql
