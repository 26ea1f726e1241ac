import Rekey.Json.Document
import Rekey.Json.Value

/-!
# Reading documents as typed values

A reader takes a document apart from left to right and stops at the first problem. A record may
stand as an object or as an array of its fields in order; a choice may stand as its name or as an
object whose only member has the name for its key and null for its value.
-/

namespace Rekey.Json

/-- Why a text is not what a reader wants. -/
inductive Problem where
  /-- not JSON, or JSON of another shape -/
  | malformed
  | missingField (name : String)
  | unknownVariant (name : String) (known : List String)
  | duplicateField (name : String)
deriving Repr, DecidableEq, Inhabited

/-- A name between grave accents. -/
def accented (name : String) : String :=
  "\x60" ++ name ++ "\x60"

/-- The names that would have been right. -/
def expectedNames : List String → String
  | [] => "there are no variants"
  | [a] => "expected " ++ accented a
  | [a, b] => "expected " ++ accented a ++ " or " ++ accented b
  | names => "expected one of " ++ ", ".intercalate (names.map accented)

/-- The text of the problems that name what is wrong. -/
def Problem.detail : Problem → Option String
  | .malformed => none
  | .missingField name => some ("missing field " ++ accented name)
  | .unknownVariant name known =>
    some ("unknown variant " ++ accented name ++ ", " ++ expectedNames known)
  | .duplicateField name => some ("duplicate field " ++ accented name)

/-- A reader of documents. -/
abbrev Reader (α : Type) := Doc → Except Problem α

/-- Reads a string. -/
def readText : Reader String
  | .string (some s) => .ok s
  | _ => .error .malformed

/-- Reads null as nothing and everything else with the given reader. -/
def readOptional {α : Type} (read : Reader α) : Reader (Option α)
  | .null => .ok none
  | d => (read d).map some

/-- Reads the items of an array in order. -/
def readItems {α : Type} (read : Reader α) : List Doc → Except Problem (List α)
  | [] => .ok []
  | d :: r =>
    match read d with
    | .error p => .error p
    | .ok a => (readItems read r).map (a :: ·)

/-- Reads an array. -/
def readList {α : Type} (read : Reader α) : Reader (List α)
  | .array items closed =>
    match readItems read items with
    | .error p => .error p
    | .ok as => if closed then .ok as else .error .malformed
  | _ => .error .malformed

/-- The choice with this name. -/
def chooseNamed {α : Type} (choices : List (String × α)) (name : String) : Except Problem α :=
  match choices.lookup name with
  | some a => .ok a
  | none => .error (.unknownVariant name (choices.map Prod.fst))

/-- Reads one of the named choices. -/
def readChoice {α : Type} (choices : List (String × α)) : Reader α
  | .string (some name) => chooseNamed choices name
  | .object ((some name, d) :: rest) closed =>
    match chooseNamed choices name with
    | .error p => .error p
    | .ok a =>
      match d, rest, closed with
      | .null, [], true => .ok a
      | _, _, _ => .error .malformed
  | _ => .error .malformed

/-! ## Stored values -/

/-- Adds a member to members sorted by key; a key that is there already gets the new value. -/
def insertMember (k : String) (v : Value) : List (String × Value) → List (String × Value)
  | [] => [(k, v)]
  | (k', v') :: r =>
    if k < k' then (k, v) :: (k', v') :: r
    else if k = k' then (k, v) :: r
    else (k', v') :: insertMember k v r

mutual
/-- The value of a document whose arrays and objects are nested less than `depth` deep. Members
are sorted by key, the last of repeated ones wins. -/
def Doc.value? (depth : Nat) : Doc → Option Value
  | .null => some .null
  | .bool b => some (.bool b)
  | .number n => n.value.map .number
  | .string s => s.map .string
  | .array items closed =>
    if depth ≤ 1 || !closed then none else (itemValues? (depth - 1) items).map .array
  | .object members closed =>
    if depth ≤ 1 || !closed then none
    else (memberValues? (depth - 1) members).map fun ms =>
      .object (ms.foldl (fun acc m => insertMember m.1 m.2 acc) [])
  | .broken => none
termination_by structural d => d
/-- The values of items. -/
def itemValues? (depth : Nat) : List Doc → Option (List Value)
  | [] => some []
  | d :: r =>
    match d.value? depth, itemValues? depth r with
    | some v, some vs => some (v :: vs)
    | _, _ => none
termination_by structural d => d
/-- The values of members in the order of the text. -/
def memberValues? (depth : Nat) : List (Option String × Doc) → Option (List (String × Value))
  | [] => some []
  | m :: r =>
    match memberValue? depth m, memberValues? depth r with
    | some v, some vs => some (v :: vs)
    | _, _ => none
termination_by structural d => d
/-- The key and the value of a member. -/
def memberValue? (depth : Nat) : Option String × Doc → Option (String × Value)
  | (k, d) =>
    match k, d.value? depth with
    | some k, some v => some (k, v)
    | _, _ => none
termination_by structural d => d
end

/-- How deep arrays and objects of a text may be nested where they are stored. -/
def nestingLimit : Nat := 128

/-- Reads any value that stands `level` arrays or objects deep. -/
def readValue (level : Nat) : Reader Value := fun d =>
  match d.value? (nestingLimit - level) with
  | some v => .ok v
  | none => .error .malformed

/-! ## Records -/

/-- A field of a record: its name, what its value must be, whether an object may leave it out, and
whether an array may end before it. -/
structure Field where
  name : String
  check : Doc → Except Problem Unit
  mayMiss : Bool := false
  mayEnd : Bool := false

/-- A field that must be given. -/
def Field.required {α : Type} (name : String) (read : Reader α) : Field :=
  ⟨name, fun d => (read d).map fun _ => (), false, false⟩

/-- A field that may be null and that an object may leave out. -/
def Field.optional {α : Type} (name : String) (read : Reader α) : Field :=
  ⟨name, fun d => (readOptional read d).map fun _ => (), true, false⟩

/-- A field that may be null and that may be left out in both forms. -/
def Field.trailing {α : Type} (name : String) (read : Reader α) : Field :=
  ⟨name, fun d => (readOptional read d).map fun _ => (), true, true⟩

/-- The fields of a record as they were found, by name. -/
abbrev Found := List (String × Doc)

/-- Takes the members of an object in order; members that are no fields are skipped. -/
def takeMembers (fields : List Field) (found : Found) :
    List (Option String × Doc) → Except Problem Found
  | [] => .ok found
  | (none, _) :: _ => .error .malformed
  | (some k, d) :: r =>
    match fields.find? (·.name == k) with
    | none => if d.intact then takeMembers fields found r else .error .malformed
    | some f =>
      if (found.lookup k).isSome then .error (.duplicateField k)
      else
        match f.check d with
        | .error p => .error p
        | .ok _ => takeMembers fields (found ++ [(k, d)]) r

/-- Takes the items of an array as the fields in order. -/
def takeItems : List Field → List Doc → Except Problem Found
  | [], [] => .ok []
  | [], _ :: _ => .error .malformed
  | f :: fs, [] => if f.mayEnd then takeItems fs [] else .error .malformed
  | f :: fs, d :: r =>
    match f.check d with
    | .error p => .error p
    | .ok _ => (takeItems fs r).map ((f.name, d) :: ·)

/-- Reads the fields of a record in either form. -/
def readFields (fields : List Field) : Reader Found
  | .object members closed =>
    match takeMembers fields [] members with
    | .error p => .error p
    | .ok found =>
      if closed then
        match fields.find? fun f => !f.mayMiss && (found.lookup f.name).isNone with
        | some f => .error (.missingField f.name)
        | none => .ok found
      else .error .malformed
  | .array items closed =>
    match takeItems fields items with
    | .error p => .error p
    | .ok found => if closed then .ok found else .error .malformed
  | _ => .error .malformed

/-- The value of a field that was found. -/
def Found.get {α : Type} (found : Found) (name : String) (read : Reader α) : Except Problem α :=
  match found.lookup name with
  | some d => read d
  | none => .error (.missingField name)

/-- The value of a field that may be null or left out. -/
def Found.get? {α : Type} (found : Found) (name : String) (read : Reader α) :
    Except Problem (Option α) :=
  match found.lookup name with
  | some d => readOptional read d
  | none => .ok none

/-- Reads a text that holds one value and nothing else. -/
def readDocument {α : Type} (read : Reader α) (doc : Document) : Except Problem α :=
  match read doc.root with
  | .error p => .error p
  | .ok a => if doc.complete then .ok a else .error .malformed

/-- Reads a text that holds one value and nothing else. -/
def readFrom {α : Type} (read : Reader α) (text : String) : Except Problem α :=
  readDocument read (.ofText text)

/-- Reads bytes that hold one value and nothing else. -/
def readBytes {α : Type} (read : Reader α) (bytes : List UInt8) : Except Problem α :=
  readDocument read (.ofBytes bytes)

end Rekey.Json
