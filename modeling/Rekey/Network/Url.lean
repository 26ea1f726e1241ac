import Rekey.Network.Host

/-!
# Addresses

An absolute address is taken apart and written again in its one form: dot segments resolved, hosts
of the web in one spelling, and characters that may not stand where they stand as escapes. A form
parameter is added to whatever query the address already has.
-/

namespace Rekey

open Rekey.Text (cut join)

/-- Who and where: a user, a host, and a port unless it is the usual one. -/
structure Authority where
  user : List Char
  password : Option (List Char)
  host : Host
  port : Option Nat
deriving DecidableEq, Repr, Inhabited

/-- The path of an address: segments, or a text that has no parts. -/
inductive UrlPath where
  | segments (list : List (List Char))
  | whole (cs : List Char)
deriving DecidableEq, Repr, Inhabited

/-- An absolute address. -/
structure Url where
  scheme : List Char
  authority : Option Authority
  path : UrlPath
  query : Option (List Char)
  fragment : Option (List Char)
deriving DecidableEq, Repr, Inhabited

namespace Url

/-! ## Kinds of places -/

/-- The kinds of schemes: places of the web, files, and all others. -/
inductive Kind where
  | web
  | file
  | other
deriving DecidableEq, Repr, Inhabited

/-- The kind of a scheme. -/
def Kind.of (scheme : List Char) : Kind :=
  if ["http", "https", "ws", "wss", "ftp"].contains (String.ofList scheme) then .web
  else if scheme == "file".toList then .file
  else .other

/-- The usual port of a scheme. -/
def usualPort (scheme : List Char) : Option Nat :=
  let s := String.ofList scheme
  if s == "http" || s == "ws" then some 80
  else if s == "https" || s == "wss" then some 443
  else if s == "ftp" then some 21
  else none

/-- A character that separates segments. -/
def Kind.separates (k : Kind) (c : Char) : Bool :=
  c == '/' || (c == '\\' && k != .other)

/-! ## Escapes -/

/-- A character that no part of an address holds as it is. -/
def isForeign (c : Char) : Bool :=
  c.toNat < 0x20 || 0x7E < c.toNat

/-- Escapes every foreign character and every one of `extra`. -/
def escape (extra : List Char) (cs : List Char) : List Char :=
  cs.flatMap fun c => if isForeign c || extra.contains c then percentChar c else [c]

/-- What is escaped in a fragment. -/
def fragmentMarks : List Char := [' ', '"', '<', '>', '\x60']

/-- What is escaped in a query. -/
def queryMarks : Kind → List Char
  | .other => [' ', '"', '#', '<', '>']
  | _ => [' ', '"', '#', '<', '>', '\x27']

/-- What is escaped in a path. -/
def pathMarks : List Char := [' ', '"', '#', '<', '>', '?', '\x60', '\x7b', '\x7d']

/-- What is escaped in the name and the password of a user. -/
def userMarks : List Char :=
  pathMarks ++ ['/', ':', ';', '=', '@', '[', '\\', ']', '^', '|']

/-- A form value: a blank is a plus sign, and all but letters, digits and four marks are escaped. -/
def formValue (s : String) : List Char :=
  s.toList.flatMap fun c =>
    if c == ' ' then ['+']
    else if c.isAlphanum || c == '*' || c == '-' || c == '.' || c == '_' then [c]
    else percentChar c

/-! ## Paths -/

/-- The segment that means the place itself, in all its spellings. -/
def isHere (seg : List Char) : Bool :=
  let s := seg.map Char.toLower
  s == ['.'] || s == ['%', '2', 'e']

/-- The segment that means the place above, in all its spellings. -/
def isAbove (seg : List Char) : Bool :=
  let s := seg.map Char.toLower
  s == ['.', '.'] || s == ['.', '%', '2', 'e'] || s == ['%', '2', 'e', '.'] ||
    s == ['%', '2', 'e', '%', '2', 'e']

/-- A segment that names a drive. -/
def isDrive (seg : List Char) : Bool :=
  match seg with
  | [c, d] => c.isAlpha && (d == ':' || d == '|')
  | _ => false

/-- The segments without the last one. A drive that stands alone is not left. -/
def above (k : Kind) (done : List (List Char)) : List (List Char) :=
  match done with
  | [seg] => if k = .file && isDrive seg then done else []
  | _ => done.tail

/-- Resolves dot segments. `done` holds the segments before, the last first. -/
def resolveDots (k : Kind) (done : List (List Char)) : List (List Char) → List (List Char)
  | [] => done.reverse
  | [seg] =>
    if isHere seg then ([] :: done).reverse
    else if isAbove seg then ([] :: above k done).reverse
    else (seg :: done).reverse
  | seg :: rest =>
    if isHere seg then resolveDots k done rest
    else if isAbove seg then resolveDots k (above k done) rest
    else resolveDots k (seg :: done) rest

/-- The segments of a path. A path without a text has none, unless every place of its kind has a
root. Files have no empty segments at the root, and a drive there is marked by a colon. -/
def pathSegments (k : Kind) (cs : List Char) : List (List Char) :=
  let cs := cs.map fun c => if k.separates c then '/' else c
  if cs.isEmpty && k == .other then []
  else
    let segs := cut '/' (if cs.head? == some '/' then cs.tail else cs)
    let segs := resolveDots k [] (segs.map (escape pathMarks))
    match k with
    | .file =>
      let segs := if segs.all List.isEmpty then [[]] else segs.dropWhile List.isEmpty
      match segs with
      | [c, '|'] :: r => if c.isAlpha then [c, ':'] :: r else segs
      | _ => segs
    | _ => segs

/-! ## Taking an address apart -/

/-- A character list without what may surround an address, and without line breaks and tabs. -/
def cleaned (cs : List Char) : List Char :=
  let outer (c : Char) : Bool := c.toNat ≤ 0x20
  let inner := ((cs.dropWhile outer).reverse.dropWhile outer).reverse
  inner.filter fun c => !(c == '\t' || c == '\n' || c == '\r')

/-- The scheme before a colon, in lower case, and what follows the colon. -/
def scheme? (cs : List Char) : Option (List Char × List Char) :=
  let name := cs.takeWhile fun c => c.isAlphanum || c == '+' || c == '-' || c == '.'
  match name, cs.drop name.length with
  | c :: _, ':' :: rest => if c.isAlpha then some (name.map Char.toLower, rest) else none
  | _, _ => none

/-- What stands before the first character of a kind, and the rest from it on. -/
def upTo (p : Char → Bool) (cs : List Char) : List Char × List Char :=
  (cs.takeWhile (!p ·), cs.dropWhile (!p ·))

/-- A character that ends an authority. -/
def Kind.endsAuthority (k : Kind) (c : Char) : Bool :=
  c == '?' || c == '#' || k.separates c

/-- What follows a path: the query after a question mark and the fragment after a hash mark. -/
def tail (k : Kind) (cs : List Char) : Option (List Char) × Option (List Char) :=
  let fragmentOf (r : List Char) : Option (List Char) :=
    match r with
    | '#' :: f => some (escape fragmentMarks f)
    | _ => none
  match cs with
  | '?' :: r =>
    let (q, r) := upTo (· == '#') r
    (some (escape (queryMarks k) q), fragmentOf r)
  | r => (none, fragmentOf r)

/-- A path and what follows it. -/
def ofPath (scheme : List Char) (k : Kind) (authority : Option Authority) (cs : List Char) : Url :=
  let (path, rest) := upTo (fun c => c == '?' || c == '#') cs
  let (query, fragment) := tail k rest
  ⟨scheme, authority, .segments (pathSegments k path), query, fragment⟩

/-- A path that has no parts, and what follows it. -/
def ofWhole (scheme cs : List Char) : Url :=
  let (path, rest) := upTo (fun c => c == '?' || c == '#') cs
  let (query, fragment) := tail .other rest
  ⟨scheme, none, .whole (escape [] path), query, fragment⟩

/-- The user and the password before the last at sign of an authority, and the rest. -/
def userOf (k : Kind) (cs : List Char) : List Char × Option (List Char) × List Char :=
  let (auth, rest) := upTo k.endsAuthority cs
  if auth.contains '@' then
    let host := (auth.reverse.takeWhile (· != '@')).reverse
    let user := auth.take (auth.length - host.length - 1)
    let (name, password) := upTo (· == ':') user
    let password := if 1 < password.length then some (escape userMarks password.tail) else none
    (escape userMarks name, password, host ++ rest)
  else ([], none, cs)

/-- A host and what follows it. Between brackets a colon does not end it. -/
def hostText (k : Kind) (inside : Bool) : List Char → List Char × List Char
  | [] => ([], [])
  | c :: r =>
    if k.endsAuthority c || (c == ':' && !inside) then ([], c :: r)
    else
      let inside := if c == '[' then true else if c == ']' then false else inside
      let (host, rest) := hostText k inside r
      (c :: host, rest)

/-- The port after a colon, and what follows it: at most 65535, and none if no digit is given. -/
def portOf (scheme : List Char) (cs : List Char) : Except UrlFault (Option Nat × List Char) :=
  let digits := cs.takeWhile Char.isDigit
  let rest := cs.drop digits.length
  let n := digits.foldl (fun n c => n * 10 + (c.toNat - 0x30)) 0
  if 65535 < n then .error .badPort
  else
    match rest.head? with
    | some c =>
      if c == '/' || c == '\\' || c == '?' || c == '#' then
        .ok (if digits.isEmpty || usualPort scheme == some n then none else some n, rest)
      else .error .badPort
    | none => .ok (if digits.isEmpty || usualPort scheme == some n then none else some n, rest)

/-- An authority and what follows it. Only other places than those of the web may lack a host, and
then they have neither user nor port. -/
def authorityOf (scheme : List Char) (k : Kind) (cs : List Char) :
    Except UrlFault (Authority × List Char) := do
  let (user, password, rest) := userOf k cs
  let (host, rest) := hostText k false rest
  let named := !user.isEmpty || password.isSome
  let ported := rest.head? == some ':'
  let marked := cs.head? == some '@' && rest != []
  if host.isEmpty && (k == .web || named || ported || marked) then .error .hostMissing
  else
    let host ← if k == .web then Host.ofWeb host else Host.ofOther host
    if ported then
      let (port, rest) ← portOf scheme rest.tail
      .ok (⟨user, password, host, port⟩, rest)
    else .ok (⟨user, password, host, none⟩, rest)

/-- A place with an authority. -/
def ofAuthority (scheme : List Char) (k : Kind) (cs : List Char) : Except UrlFault Url :=
  (authorityOf scheme k cs).map fun a =>
    let path := if k == .other && a.2.head? == some '\\' then '/' :: a.2 else a.2
    ofPath scheme k (some a.1) path

/-- A file: after two slashes comes a host, which may be empty and is empty for this machine. -/
def ofFile (cs : List Char) : Except UrlFault Url :=
  let scheme := "file".toList
  let here : Authority := ⟨[], none, .name [], none⟩
  match cs with
  | a :: b :: r =>
    if Kind.file.separates a && Kind.file.separates b then
      let (host, rest) := upTo Kind.file.endsAuthority r
      if host.isEmpty || isDrive host then .ok (ofPath scheme .file (some here) r)
      else
        (Host.ofWeb host).map fun h =>
          let host := if h == .name "localhost".toList then .name [] else h
          ofPath scheme .file (some { here with host := host }) rest
    else .ok (ofPath scheme .file (some here) cs)
  | _ => .ok (ofPath scheme .file (some here) cs)

/-- The address that characters write. -/
def ofChars (cs : List Char) : Except UrlFault Url :=
  match scheme? (cleaned cs) with
  | none => .error .relative
  | some (scheme, rest) =>
    match Kind.of scheme with
    | .web => ofAuthority scheme .web (rest.dropWhile Kind.web.separates)
    | .file => ofFile rest
    | .other =>
      match rest with
      | '/' :: '/' :: r => ofAuthority scheme .other r
      | '/' :: _ => .ok (ofPath scheme .other none rest)
      | _ => .ok (ofWhole scheme rest)

/-! ## Parameters -/

/-- The text that a form value writes; bytes that are no character are replaced. -/
def formText (cs : List Char) : List Char :=
  let bytes := Text.percentDecode (cs.map fun c => if c == '+' then ' ' else c)
  Text.utf8Chars 0 0 0x80 0xBF bytes

/-- The parameters in the query, as a form writes them. -/
def parameters (u : Url) : List (List Char × List Char) :=
  let pairs := (cut '&' (u.query.getD [])).filter (!·.isEmpty)
  pairs.map fun pair =>
    let (name, value) := upTo (· == '=') pair
    (formText name, formText value.tail)

/-! ## Writing an address -/

/-- Adds a form parameter. -/
def addParameter (u : Url) (name value : String) : Url :=
  let pair := formValue name ++ '=' :: formValue value
  let query := match u.query with
    | none => pair
    | some [] => pair
    | some q => q ++ '&' :: pair
  { u with query := some query }

/-- The address of the same place for nobody in particular. -/
def withoutUser (u : Url) : Url :=
  { u with authority := u.authority.map fun a => { a with user := [], password := none } }

/-- The address names a host. -/
def hasHost (u : Url) : Bool :=
  (u.authority.map (!·.host.isEmpty)).getD false

/-- The written form of an authority. -/
def Authority.chars (a : Authority) : List Char :=
  let user :=
    if a.user.isEmpty && a.password.isNone then []
    else a.user ++ ((a.password.map (':' :: ·)).getD []) ++ ['@']
  user ++ a.host.chars ++ ((a.port.map fun n => ':' :: Nat.toDigits 10 n).getD [])

/-- The written form of a path. -/
def pathChars (u : Url) : List Char :=
  match u.path with
  | .whole cs => cs
  | .segments [] => []
  | .segments segs => '/' :: join ['/'] segs

/-- Path and query, which are what a request asks for. -/
def target (u : Url) : List Char :=
  u.pathChars ++ ((u.query.map ('?' :: ·)).getD [])

/-- The whole address. Where no authority is named, the path must not look like one. -/
def chars (u : Url) : List Char :=
  let place := match u.authority with
    | some a => '/' :: '/' :: Authority.chars a
    | none =>
      match u.path with
      | .segments ([] :: _ :: _) => ['/', '.']
      | _ => []
  u.scheme ++ ':' :: place ++ u.target ++ ((u.fragment.map ('#' :: ·)).getD [])

/-- The whole address. -/
def text (u : Url) : String := String.ofList u.chars

end Url

end Rekey
