import Rekey.Json.Token

/-!
# JSON documents

A document is what can be read of a text from left to right: where the text stops being JSON the
arrays and objects that are open at that place stay unclosed. A reader that takes a document apart
in order therefore meets the problems of a text in the order in which the text has them.
-/

namespace Rekey.Json

/-- A value as the text gives it, up to the place where the text stops being JSON. Members are in
the order of the text, repeated keys included. -/
inductive Doc where
  | null
  | bool (b : Bool)
  | number (n : Numeral)
  | string (s : Option String)
  | array (items : List Doc) (closed : Bool)
  | object (members : List (Option String × Doc)) (closed : Bool)
  | broken
deriving Inhabited, Repr

/-- An array or object that encloses the place reached so far. What it already holds is listed
newest first. -/
inductive Frame where
  | array (before : List Doc)
  | member (before : List (Option String × Doc)) (key : Option String)
deriving Repr

/-- What the text may go on with. -/
inductive Awaiting where
  /-- a value -/
  | value (frames : List Frame)
  /-- a value, or the end of an array that has just begun -/
  | firstItem (frames : List Frame)
  /-- a key, or the end of an object that has just begun -/
  | firstKey (frames : List Frame)
  /-- a key -/
  | key (before : List (Option String × Doc)) (frames : List Frame)
  /-- the colon after a key -/
  | colon (before : List (Option String × Doc)) (key : Option String) (frames : List Frame)
  /-- a comma, or the end of an array -/
  | nextItem (before : List Doc) (frames : List Frame)
  /-- a comma, or the end of an object -/
  | nextMember (before : List (Option String × Doc)) (frames : List Frame)
  /-- nothing more -/
  | done (doc : Doc)
  /-- nothing that comes can mend the text -/
  | failed (doc : Doc)
deriving Repr

/-- A whole value has been read inside these frames. -/
def put (d : Doc) : List Frame → Awaiting
  | [] => .done d
  | .array before :: fs => .nextItem (d :: before) fs
  | .member before k :: fs => .nextMember ((k, d) :: before) fs

/-- The document that remains when the text stops being JSON after `d`. -/
def collapse (d : Doc) : List Frame → Doc
  | [] => d
  | .array before :: fs => collapse (.array (d :: before).reverse false) fs
  | .member before k :: fs => collapse (.object ((k, d) :: before).reverse false) fs

/-- The document as far as it has been read. -/
def Awaiting.soFar : Awaiting → Doc
  | .value fs => collapse .broken fs
  | .firstItem fs => collapse (.array [] false) fs
  | .firstKey fs => collapse (.object [] false) fs
  | .key before fs => collapse (.object before.reverse false) fs
  | .colon before k fs => collapse (.object ((k, .broken) :: before).reverse false) fs
  | .nextItem before fs => collapse (.array before.reverse false) fs
  | .nextMember before fs => collapse (.object before.reverse false) fs
  | .done d => d
  | .failed d => d

/-- A value begins inside these frames. -/
def begin (fs : List Frame) : Token → Awaiting
  | .null => put .null fs
  | .bool b => put (.bool b) fs
  | .number n => put (.number n) fs
  | .string s => put (.string s) fs
  | .leftBracket => .firstItem fs
  | .leftBrace => .firstKey fs
  | _ => .failed (collapse .broken fs)

/-- One more token. -/
def Awaiting.next : Awaiting → Token → Awaiting
  | .value fs, t => begin fs t
  | .firstItem fs, .rightBracket => put (.array [] true) fs
  | .firstItem fs, t => begin (.array [] :: fs) t
  | .firstKey fs, .rightBrace => put (.object [] true) fs
  | .firstKey fs, .string k => .colon [] k fs
  | .key before fs, .string k => .colon before k fs
  | .colon before k fs, .colon => .value (.member before k :: fs)
  | .nextItem before fs, .comma => .value (.array before :: fs)
  | .nextItem before fs, .rightBracket => put (.array before.reverse true) fs
  | .nextMember before fs, .comma => .key before fs
  | .nextMember before fs, .rightBrace => put (.object before.reverse true) fs
  | a, _ => .failed a.soFar

/-- What can be read of a text, and whether that is one value and nothing else. -/
structure Document where
  root : Doc
  complete : Bool
deriving Inhabited, Repr

/-- The document of tokens. -/
def Document.ofTokens (ts : List Token) : Document :=
  match ts.foldl Awaiting.next (.value []) with
  | .done d => ⟨d, true⟩
  | a => ⟨a.soFar, false⟩

/-- The document of a text. -/
def Document.ofChars (cs : List Char) : Document :=
  .ofTokens (tokens .characters cs)

/-- The document of a text. -/
def Document.ofText (s : String) : Document :=
  Document.ofChars s.toList

/-- The document of bytes. No byte above the ASCII range is part of a token other than a literal. -/
def Document.ofBytes (bytes : List UInt8) : Document :=
  .ofTokens (tokens .bytes (bytes.map fun b => Char.ofNat b.toNat))

mutual
/-- A value that is JSON to its end, as far as a reader that skips it can tell: what stands in a
string need not make a text. -/
def Doc.intact : Doc → Bool
  | .array items closed => closed && itemsIntact items
  | .object members closed => closed && membersIntact members
  | .broken => false
  | _ => true
termination_by structural d => d
/-- Items that are JSON to their end. -/
def itemsIntact : List Doc → Bool
  | [] => true
  | d :: r => d.intact && itemsIntact r
termination_by structural d => d
/-- Members that are JSON to their end. -/
def membersIntact : List (Option String × Doc) → Bool
  | [] => true
  | m :: r => memberIntact m && membersIntact r
termination_by structural d => d
/-- A member that is JSON to its end. -/
def memberIntact : Option String × Doc → Bool
  | (_, d) => d.intact
termination_by structural d => d
end

end Rekey.Json
