import Rekey.Network.Address
import Rekey.Network.Domain

/-!
# Hosts

A host is a name or a numeric address. On the web a name is brought into its one form and a name
that ends in a number can only be an address; elsewhere a name is any text without marks that would
end it.
-/

namespace Rekey

/-- A host. -/
inductive Host where
  | name (cs : List Char)
  | fourBytes (address : Nat)
  | eightPieces (pieces : List Nat)
deriving DecidableEq, Repr, Inhabited

/-- Why a text cannot be read as an address. -/
inductive UrlFault where
  | relative
  | hostMissing
  | badName
  | badCharacter
  | badPort
  | badFourBytes
  | badEightPieces
deriving DecidableEq, Repr, Inhabited

/-- The message of a fault. -/
def UrlFault.message : UrlFault → String
  | relative => "relative URL without a base"
  | hostMissing => "empty host"
  | badName => "invalid international domain name"
  | badCharacter => "invalid domain character"
  | badPort => "invalid port number"
  | badFourBytes => "invalid IPv4 address"
  | badEightPieces => "invalid IPv6 address"

namespace Host

/-- The written form of a host. -/
def chars : Host → List Char
  | name cs => cs
  | fourBytes a => Address.fourBytesText a
  | eightPieces ps => '[' :: Address.eightPiecesText ps ++ [']']

/-- No host at all. -/
def isEmpty (h : Host) : Bool := h == .name []

/-- The address between brackets. -/
def bracketed (cs : List Char) : Except UrlFault Host :=
  match cs.getLast?, Address.eightPieces? cs.dropLast with
  | some ']', some ps => .ok (.eightPieces ps)
  | _, _ => .error .badEightPieces

/-- What cannot stand in the name of a host that is no domain. -/
def isMark (c : Char) : Bool :=
  ['\x00', '\t', '\n', '\r'].contains c ||
    [' ', '#', '/', ':', '<', '>', '?', '@', '[', '\\', ']', '^', '|'].contains c

/-- A host of the web. -/
def ofWeb (cs : List Char) : Except UrlFault Host :=
  match cs with
  | '[' :: r => bracketed r
  | _ =>
    match Text.utf8Text (Text.percentDecode cs) with
    | .error _ => .error .badName
    | .ok decoded =>
      match Domain.ascii? decoded with
      | none => .error .badName
      | some [] => .error .hostMissing
      | some domain =>
        if Address.endsInNumber domain then
          match Address.fourBytes? domain with
          | some a => .ok (.fourBytes a)
          | none => .error .badFourBytes
        else .ok (.name domain)

/-- A host of another kind of place. -/
def ofOther (cs : List Char) : Except UrlFault Host :=
  match cs with
  | '[' :: r => bracketed r
  | _ =>
    if cs.any isMark then .error .badCharacter
    else
      .ok (.name (cs.flatMap fun c =>
        if c.toNat < 0x20 || 0x7E < c.toNat then percentChar c else [c]))

end Host

end Rekey
