import Rekey.Network.Address

/-!
# The way to the network

A program reaches its database and its identity provider over the network only when there is a way
to it. Without one an attempt to connect still fails for a cause that depends on the place: numeric
addresses are known at once, names have to be asked for, and a socket is a file.
-/

namespace Rekey

/-- Where a connection leads. -/
inductive Place where
  | socket (path : List Char)
  | host (name : List Char)
deriving DecidableEq, Repr, Inhabited

/-- Why a connection was not opened. -/
inductive LinkFault where
  | unreachable
  | noLocalAddress
  | unfitAddress
  | noSuchSocket
  | socketPathTooLong
  | socketPathHoldsNul
  | nameHoldsNul
  | nameUnresolved
  | nameUnknown
deriving DecidableEq, Repr, Inhabited

/-- The message of a fault. -/
def LinkFault.message : LinkFault → String
  | unreachable => "Network is unreachable (os error 101)"
  | noLocalAddress => "Cannot assign requested address (os error 99)"
  | unfitAddress => "Invalid argument (os error 22)"
  | noSuchSocket => "No such file or directory (os error 2)"
  | socketPathTooLong => "path must be shorter than SUN_LEN"
  | socketPathHoldsNul => "paths must not contain interior null bytes"
  | nameHoldsNul => "file name contained an unexpected NUL byte"
  | nameUnresolved =>
    "failed to lookup address information: Temporary failure in name resolution"
  | nameUnknown => "failed to lookup address information: Name or service not known"

/-- A name that a name server can be asked for: labels of letters, digits, hyphens and low lines, of
which only the last may be empty. -/
def isDomainName (name : List Char) : Bool :=
  let labels := Text.cut '.' name
  let labels := if labels.getLast? == some [] then labels.dropLast else labels
  !labels.isEmpty && name.head? != some '-' && name.length < 254 &&
    labels.all fun l => !l.isEmpty && l.length < 64 &&
      l.all fun c => c.isAlphanum || c == '-' || c == '_'

/-- Why an address of eight pieces is not reached from a machine that has none itself. -/
def piecesFault : List Nat → LinkFault
  | [0, 0, 0, 0, 0, 0xFFFF, _, _] => .unreachable
  | first :: _ =>
    if 0xFE80 ≤ first && first < 0xFEC0 then .unfitAddress
    else if 0xFF00 ≤ first then .unreachable
    else .noLocalAddress
  | [] => .noLocalAddress

/-- Why a host is not reached without a network. -/
def hostFault (name : List Char) : LinkFault :=
  match Address.eightPieces? name with
  | some ps => piecesFault ps
  | none =>
    let here := [['*'], "localhost".toList].contains (name.map Char.toLower)
    let numeric := (Address.fourBytes? name).isSome && name.getLast? != some '.'
    if here || numeric then .unreachable
    else if name.contains '\x00' then .nameHoldsNul
    else if isDomainName name then .nameUnresolved
    else .nameUnknown

/-- The greatest number of bytes in the path of a socket. -/
def longestSocketPath : Nat := 107

/-- Why a place is not reached without a network. -/
def Place.fault : Place → LinkFault
  | host name => hostFault name
  | socket path =>
    if path.contains '\x00' then .socketPathHoldsNul
    else if longestSocketPath < (String.ofList path).utf8ByteSize then .socketPathTooLong
    else .noSuchSocket

/-- Whether connections can be opened. -/
inductive Link where
  | up
  | down
deriving DecidableEq, Repr, Inhabited

/-- Opens a connection. -/
def Link.connect (place : Place) : Link → Except LinkFault Unit
  | up => .ok ()
  | down => .error place.fault

end Rekey
