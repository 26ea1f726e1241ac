import Rekey.Proofs.Files.Paths
import Rekey.Sql.Statement
import Mathlib.Logic.Function.Basic

/-!
# Names stay between their quotes

A lexer reads a text by the rule of quoted identifiers: a quote opens a name, two quotes in a row
within it are one quote of the name, and the first other quote closes it. It reads a quoted name as
the parts of the name with points between them, whatever the name holds, so different names are
quoted differently. In a statement no word touches a name in a way that moves a quote. What the
lexer finds outside the names is therefore the same for all names with as many parts, and the names
it finds are those that the statement was made with.
-/

namespace Rekey.Sql

open Rekey.Text (cut join)

/-! ## The lexer -/

/-- What a text is made of: signs that stand for themselves and names between quotes. The last name
may lack its closing quote. -/
inductive Lexeme where
  | sign (c : Char)
  | name (part : List Char)
  | unclosed (part : List Char)
deriving DecidableEq, Repr

/-- Reads on outside of quotes, or within quotes with the part of the name read so far. -/
def lexFrom : Option (List Char) → List Char → List Lexeme
  | none, [] => []
  | none, c :: cs => if c = '"' then lexFrom (some []) cs else .sign c :: lexFrom none cs
  | some part, [] => [.unclosed part]
  | some part, '"' :: '"' :: cs => lexFrom (some (part ++ ['"'])) cs
  | some part, c :: cs =>
    if c = '"' then .name part :: lexFrom none cs else lexFrom (some (part ++ [c])) cs

/-- Reads a text. -/
def lex : List Char → List Lexeme :=
  lexFrom none

/-- The names among what has been read. -/
def names : List Lexeme → List (List Char) :=
  List.filterMap fun
    | .name part => some part
    | _ => none

/-- Leaves a name empty. -/
def Lexeme.blank : Lexeme → Lexeme
  | name _ => name []
  | l => l

/-- What has been read with an empty place for each name. -/
def skeleton : List Lexeme → List Lexeme :=
  List.map Lexeme.blank

/-- The parts of a qualified name, if what has been read is one: names with single points between
them and nothing else. -/
def qualified? : List Lexeme → Option (List (List Char))
  | [.name part] => some [part]
  | .name part :: .sign '.' :: rest => (qualified? rest).map (part :: ·)
  | _ => none

/-- A qualified name of parts, as it is read. -/
def qualified (parts : List (List Char)) : List Lexeme :=
  (parts.map .name).intersperse (.sign '.')

/-- The number of points in a name. -/
def points (name : String) : Nat :=
  name.toList.count '.'

/-! ## Reading a quoted name -/

variable {cs rest : List Char}

/-- The characters of a part with its quotes written twice. -/
def doubled (cs : List Char) : List Char :=
  cs.flatMap fun c => if c = '"' then ['"', '"'] else [c]

/-- The first quote that is not doubled closes the name. -/
theorem lexFrom_close (part : List Char) (h : rest.head? ≠ some '"') :
    lexFrom (some part) ('"' :: rest) = .name part :: lex rest := by
  cases rest with
  | nil => rfl
  | cons c rest =>
    have hc : c ≠ '"' := fun heq => h (congrArg some heq)
    rw [lexFrom, if_pos rfl, lex]
    -- the rule for two quotes in a row comes first, and does not apply
    rintro rest' - heq
    exact hc (List.cons.inj heq).1

theorem lexFrom_double (part : List Char) :
    lexFrom (some part) ('"' :: '"' :: rest) = lexFrom (some (part ++ ['"'])) rest := by
  rw [lexFrom]

theorem lexFrom_letter {c : Char} (part : List Char) (hc : c ≠ '"') :
    lexFrom (some part) (c :: rest) = lexFrom (some (part ++ [c])) rest := by
  rw [lexFrom, if_neg hc]
  rintro rest' heq
  exact absurd heq hc

/-- The characters of a part are read one by one, a doubled quote as one of them. -/
theorem lexFrom_doubled (part : List Char) (h : rest.head? ≠ some '"') :
    lexFrom (some part) (doubled cs ++ '"' :: rest) = .name (part ++ cs) :: lex rest := by
  induction cs generalizing part with
  | nil => rw [doubled, List.flatMap_nil, List.nil_append, lexFrom_close part h, List.append_nil]
  | cons c cs ih =>
    have hread : lexFrom (some part) (doubled (c :: cs) ++ '"' :: rest) =
        lexFrom (some (part ++ [c])) (doubled cs ++ '"' :: rest) := by
      by_cases hc : c = '"'
      · rw [doubled, List.flatMap_cons, if_pos hc, hc]
        exact lexFrom_double part
      · rw [doubled, List.flatMap_cons, if_neg hc]
        exact lexFrom_letter part hc
    rw [hread, ih, List.append_assoc, List.singleton_append]

theorem lex_quotedPart (h : rest.head? ≠ some '"') :
    lex (quotedPart cs ++ rest) = .name cs :: lex rest := by
  rw [quotedPart, List.cons_append, List.cons_append, List.append_assoc, lex, lexFrom, if_pos rfl]
  exact lexFrom_doubled [] h

theorem lex_sign {c : Char} (hc : c ≠ '"') : lex (c :: cs) = .sign c :: lex cs := by
  rw [lex, lexFrom, if_neg hc]

/-- Text without quotes stands for itself. -/
theorem lex_words {words : List Char} (h : '"' ∉ words) :
    lex (words ++ rest) = words.map .sign ++ lex rest := by
  induction words with
  | nil => rfl
  | cons c words ih =>
    have hc : c ≠ '"' := fun heq => h (heq ▸ List.mem_cons_self)
    rw [List.cons_append, lex_sign hc, ih fun hmem => h (List.mem_cons_of_mem c hmem),
      List.map_cons, List.cons_append]

/-- Quoted parts with points between them are read as these parts. -/
theorem lex_join (parts : List (List Char)) (h : rest.head? ≠ some '"') :
    lex (join ['.'] (parts.map quotedPart) ++ rest) = qualified parts ++ lex rest := by
  match parts with
  | [] => rfl
  | [part] => exact lex_quotedPart h
  | part :: next :: more =>
    have hpoint : ∀ cs : List Char, ('.' :: cs).head? ≠ some '"' := by simp
    have hrest := lex_join (next :: more) h
    rw [List.map_cons] at hrest
    rw [List.map_cons, List.map_cons, join, List.append_assoc, List.append_assoc,
      List.singleton_append, lex_quotedPart (hpoint _), lex_sign (by decide), hrest]
    rfl

theorem toList_quotedName (name : String) :
    (quotedName name).toList = join ['.'] ((nameParts name).map quotedPart) :=
  String.toList_ofList

theorem lex_quotedName (name : String) (h : rest.head? ≠ some '"') :
    lex ((quotedName name).toList ++ rest) = qualified (nameParts name) ++ lex rest := by
  rw [toList_quotedName, lex_join _ h]

theorem qualified?_qualified {parts : List (List Char)} (h : parts ≠ []) :
    qualified? (qualified parts) = some parts := by
  match parts with
  | [part] => rfl
  | part :: next :: more =>
    have hrest := qualified?_qualified (List.cons_ne_nil next more)
    calc qualified? (qualified (part :: next :: more))
        = (qualified? (qualified (next :: more))).map (part :: ·) := rfl
      _ = some (part :: next :: more) := by rw [hrest, Option.map_some]

/-- A quoted name is read as the parts of the name and nothing else. -/
theorem qualified?_lex_quotedName (name : String) :
    qualified? (lex (quotedName name).toList) = some (nameParts name) := by
  have hread := @lex_quotedName [] name (by simp)
  rw [List.append_nil] at hread
  rw [hread]
  exact (congrArg qualified? (List.append_nil _)).trans
    (qualified?_qualified (Text.cut_ne_nil '.' name.toList))

theorem quotedName_injective : Function.Injective quotedName := by
  intro a b h
  have hparts : nameParts a = nameParts b := by
    rw [← Option.some_inj, ← qualified?_lex_quotedName, ← qualified?_lex_quotedName, h]
  have hlists : a.toList = b.toList := by
    rw [← Text.join_cut '.' a.toList, ← Text.join_cut '.' b.toList]
    exact congrArg (join ['.']) hparts
  exact String.toList_inj.mp hlists

/-! ## Reading a statement -/

/-- What a part of a statement is read as. -/
def Fragment.lexemes : Fragment → List Lexeme
  | words s => s.toList.map .sign
  | name s => qualified (nameParts s)
  | columnType s => lex s.toList

/-- No word moves a quote: words hold none, a name is followed by a word or stands last, and the
type of a column, of which nothing is known, stands last. -/
def separated : List Fragment → Bool
  | [] => true
  | .words s :: fs => !s.toList.contains '"' && separated fs
  | .name _ :: fs => startsPlain fs && separated fs
  | .columnType _ :: fs => fs.isEmpty
where
  /-- Whether no name and no type comes first. -/
  startsPlain : List Fragment → Bool
    | [] => true
    | .words s :: _ => !s.toList.isEmpty
    | _ => false

theorem textOf_cons (f : Fragment) (fs : List Fragment) :
    (textOf (f :: fs)).toList = f.text.toList ++ (textOf fs).toList := by
  rw [textOf, List.map_cons, String.join_cons, String.toList_append, textOf]

theorem textOf_append (fs gs : List Fragment) :
    (textOf (fs ++ gs)).toList = (textOf fs).toList ++ (textOf gs).toList := by
  rw [textOf, List.map_append, String.join_append, String.toList_append, textOf, textOf]

theorem head_ne_quote {fs : List Fragment} (hplain : separated.startsPlain fs = true)
    (h : separated fs = true) : (textOf fs).toList.head? ≠ some '"' := by
  match fs with
  | [] => decide
  | .words s :: fs =>
    simp only [separated, Bool.and_eq_true, Bool.not_eq_true', List.contains_eq_mem,
      decide_eq_false_iff_not] at h
    have hne : s.toList ≠ [] := by
      intro hnil
      simp [separated.startsPlain, hnil] at hplain
    obtain ⟨c, cs, hs⟩ := List.exists_cons_of_ne_nil hne
    rw [textOf_cons, Fragment.text, hs, List.cons_append, List.head?_cons]
    rintro ⟨⟩
    exact h.1 (hs ▸ List.mem_cons_self)

/-- Names and words of a statement are read as they were put together. -/
theorem lex_textOf {fs : List Fragment} (h : separated fs = true) :
    lex (textOf fs).toList = fs.flatMap Fragment.lexemes := by
  -- one case for each kind of fragment; what follows a name is needed only after a name
  fun_induction separated fs with
  | case1 => rfl
  | case2 s fs ih =>
    obtain ⟨hwords, hrest⟩ := Bool.and_eq_true_iff.mp h
    rw [textOf_cons, List.flatMap_cons, ← ih hrest]
    have hquotes : '"' ∉ s.toList := by simpa using hwords
    exact lex_words hquotes
  | case3 s fs ih =>
    obtain ⟨hplain, hrest⟩ := Bool.and_eq_true_iff.mp h
    rw [textOf_cons, List.flatMap_cons, ← ih hrest]
    exact lex_quotedName s (head_ne_quote hplain hrest)
  | case4 s fs =>
    obtain rfl := List.isEmpty_iff.mp h
    rw [textOf_cons, List.flatMap_cons, List.flatMap_nil, List.append_nil]
    exact congrArg lex (List.append_nil _)

/-! ## The names of a statement -/

/-- The parts of a name. -/
def parts (name : String) : List (List Char) :=
  name.toList.splitOn '.'

/-- The names that a part of a statement is read with. -/
def Fragment.names : Fragment → List (List Char)
  | words _ => []
  | name s => parts s
  | columnType s => Sql.names (lex s.toList)

theorem names_qualified (ps : List (List Char)) : names (qualified ps) = ps := by
  match ps with
  | [] => rfl
  | [part] => rfl
  | part :: next :: more =>
    calc names (qualified (part :: next :: more))
        = part :: names (qualified (next :: more)) := rfl
      _ = part :: next :: more := by rw [names_qualified]

theorem names_lexemes (f : Fragment) : names f.lexemes = f.names := by
  cases f with
  | words s =>
    rw [Fragment.lexemes, names, List.filterMap_map]
    exact List.filterMap_eq_nil_iff.mpr fun _ _ => rfl
  | name s => rw [Fragment.lexemes, names_qualified, nameParts, Text.cut_eq_splitOn,
      Fragment.names, parts]
  | columnType s => rfl

/-- The names of a statement are those that it was put together with. -/
theorem names_textOf {fs : List Fragment} (h : separated fs = true) :
    names (lex (textOf fs).toList) = fs.flatMap Fragment.names := by
  rw [lex_textOf h, names, List.filterMap_flatMap]
  exact congrArg fs.flatMap (funext names_lexemes)

/-! ## The skeleton of a statement -/

/-- What is left of a part of a statement when its names are left empty. -/
def Fragment.places : Fragment → List Lexeme
  | words s => s.toList.map .sign
  | name s => qualified (List.replicate (points s + 1) [])
  | columnType s => skeleton (lex s.toList)

theorem skeleton_qualified (parts : List (List Char)) :
    skeleton (qualified parts) = qualified (List.replicate parts.length []) := by
  match parts with
  | [] => rfl
  | [part] => rfl
  | part :: next :: more =>
    calc skeleton (qualified (part :: next :: more))
        = .name [] :: .sign '.' :: skeleton (qualified (next :: more)) := rfl
      _ = .name [] :: .sign '.' :: qualified (List.replicate (next :: more).length []) := by
        rw [skeleton_qualified]
      _ = qualified (List.replicate (part :: next :: more).length []) := rfl

theorem skeleton_lexemes (f : Fragment) : skeleton f.lexemes = f.places := by
  cases f with
  | words s =>
    rw [Fragment.lexemes, Fragment.places, skeleton, List.map_map]
    rfl
  | name s =>
    rw [Fragment.lexemes, skeleton_qualified, nameParts, Text.length_cut]
    rfl
  | columnType s => rfl

/-- The skeleton of a statement holds of its names the number of their parts. -/
theorem skeleton_textOf {fs : List Fragment} (h : separated fs = true) :
    skeleton (lex (textOf fs).toList) = fs.flatMap Fragment.places := by
  rw [lex_textOf h, skeleton, List.map_flatMap]
  exact congrArg fs.flatMap (funext skeleton_lexemes)

/-! ## The statements that are made of names -/

/-- What the texts of a column may depend on besides the type of its key. -/
structure Shape where
  kind : CellKind
  key : Option Nat
  column : Nat
  table : Nat
deriving DecidableEq, Repr

/-- The kind of a column, whether it has a key, and the points in its names. -/
def shape (d : Descriptor) : Shape where
  kind := d.kind
  key := d.key.map points
  column := points d.column
  table := points d.table

/-- The parts of the key column, if one is declared. -/
def keyParts (d : Descriptor) : List (List Char) :=
  d.key.elim [] parts

/-- The type of the key column at the end of an update. Rows without a key need none. -/
def keyType (d : Descriptor) (columnType : Option String) : List Char :=
  d.key.elim [] fun _ => (columnType.getD "text").toList

/-- What the text of a statement is read as. -/
def Statement.lexemes (s : Statement) : List Lexeme :=
  lex s.text.toList

variable (d : Descriptor) (columnType : Option String) (table : String)

/-- An update up to the type of its key column. -/
def updateFront : List Fragment :=
  [.words "UPDATE ", .name d.table, .words " SET ", .name d.column, .words " = $1 WHERE "] ++
    match d.key with
    | some key => [.name key, .words " = $2::text::"]
    | none => [.words "ctid = $2::tid"]

theorem separated_scan : separated (scanFragments d) = true := by
  obtain ⟨table, column, kind, key⟩ := d
  cases kind <;> cases key <;>
    simp [scanFragments, locatorFragments, castWords, separated, separated.startsPlain]

theorem separated_update : separated (updateFragments d columnType) = true := by
  obtain ⟨table, column, kind, key⟩ := d
  cases key <;> simp [updateFragments, rowFragments, separated, separated.startsPlain]

theorem separated_updateFront : separated (updateFront d) = true := by
  obtain ⟨table, column, kind, key⟩ := d
  cases key <;> simp [updateFront, separated, separated.startsPlain]

theorem separated_mappingTable : separated (mappingTableFragments table) = true := by
  simp only [mappingTableFragments, separated, separated.startsPlain, Bool.and_eq_true]
  decide +kernel

theorem separated_mappingIndex : separated (mappingIndexFragments table) = true := by
  simp [mappingIndexFragments, separated, separated.startsPlain]

theorem updateFragments_eq :
    updateFragments d columnType = updateFront d ++
      d.key.elim [] fun _ => [.columnType (columnType.getD "text")] := by
  obtain ⟨table, column, kind, key⟩ := d
  cases key <;> simp [updateFragments, rowFragments, updateFront]

/-- An update ends in the type of its key column, and the reader is outside of quotes there. -/
theorem update_text (locator : Locator) (cell : Cell) :
    (updateStatement d columnType locator cell).text.toList =
      (textOf (updateFront d)).toList ++ keyType d columnType := by
  rw [updateStatement, updateFragments_eq, textOf_append]
  congr 1
  rw [keyType]
  cases d.key with
  | none => rfl
  | some key =>
    rw [Option.elim_some, Option.elim_some, textOf_cons]
    exact List.append_nil _

theorem update_lexemes (locator : Locator) (cell : Cell) :
    (updateStatement d columnType locator cell).lexemes =
      lex (textOf (updateFront d)).toList ++ lex (keyType d columnType) := by
  rw [Statement.lexemes, updateStatement, lex_textOf (separated_update d columnType),
    lex_textOf (separated_updateFront d), updateFragments_eq, List.flatMap_append, keyType]
  congr 1
  cases d.key with
  | none => rfl
  | some key => exact List.append_nil _

theorem names_updateFront :
    names (lex (textOf (updateFront d)).toList) =
      parts d.table ++ parts d.column ++ keyParts d := by
  rw [names_textOf (separated_updateFront d)]
  obtain ⟨table, column, kind, key⟩ := d
  cases key <;> simp [updateFront, keyParts, Fragment.names]

theorem names_scan :
    names (scanStatement d).lexemes = keyParts d ++ parts d.column ++ parts d.table := by
  rw [Statement.lexemes, scanStatement, names_textOf (separated_scan d)]
  obtain ⟨table, column, kind, key⟩ := d
  cases key <;> simp [scanFragments, locatorFragments, keyParts, Fragment.names]

theorem names_mappingTable : names (mappingTableStatement table).lexemes = parts table := by
  rw [Statement.lexemes, mappingTableStatement, names_textOf (separated_mappingTable table)]
  simp [mappingTableFragments, Fragment.names]

/-- The last part of a name holds no points, so the name of the index has one part. -/
theorem parts_indexName :
    parts (lastPart table ++ "_email_idx") =
      [(parts table).getLastD [] ++ "_email_idx".toList] := by
  have hlast : (lastPart table).toList = (parts table).getLastD [] := by
    rw [lastPart, String.toList_ofList, nameParts, Text.cut_eq_splitOn, parts,
      List.getLastD_eq_getLast?]
  have hpoint : '.' ∉ (parts table).getLastD [] := by
    rw [List.getLastD_eq_getLast?, parts, ← Text.cut_eq_splitOn]
    cases hget : (cut '.' table.toList).getLast? with
    | none => simp
    | some part => exact Text.not_mem_of_mem_cut (List.mem_of_getLast? hget)
  have hname : '.' ∉ (parts table).getLastD [] ++ "_email_idx".toList := by
    rw [List.mem_append]
    rintro (hmem | hmem)
    · exact hpoint hmem
    · exact absurd hmem (by decide)
  rw [parts, String.toList_append, hlast, ← Text.cut_eq_splitOn, Text.cut_of_not_mem hname]

theorem points_indexName : points (lastPart table ++ "_email_idx") = 0 := by
  have hlength := Text.length_cut '.' (lastPart table ++ "_email_idx").toList
  have hone := congrArg List.length (parts_indexName table)
  rw [parts, ← Text.cut_eq_splitOn, hlength, List.length_singleton] at hone
  exact Nat.succ.inj hone

theorem names_mappingIndex :
    names (mappingIndexStatement table).lexemes =
      ((parts table).getLastD [] ++ "_email_idx".toList) :: parts table := by
  rw [Statement.lexemes, mappingIndexStatement, names_textOf (separated_mappingIndex table)]
  simp only [mappingIndexFragments, List.flatMap_cons, List.flatMap_nil, Fragment.names,
    parts_indexName, List.nil_append, List.append_nil, List.singleton_append]

theorem skeleton_scan {d d' : Descriptor} (h : shape d = shape d') :
    skeleton (scanStatement d).lexemes = skeleton (scanStatement d').lexemes := by
  rw [Statement.lexemes, Statement.lexemes, scanStatement, scanStatement,
    skeleton_textOf (separated_scan d), skeleton_textOf (separated_scan d')]
  obtain ⟨hkind, hkey, hcolumn, htable⟩ := Shape.mk.inj h
  cases hd : d.key <;> cases hd' : d'.key <;>
    simp_all [scanFragments, locatorFragments, Fragment.places]

theorem skeleton_update {d d' : Descriptor} (h : shape d = shape d') (columnType : Option String)
    (locator locator' : Locator) (cell cell' : Cell) :
    skeleton (updateStatement d columnType locator cell).lexemes =
      skeleton (updateStatement d' columnType locator' cell').lexemes := by
  rw [Statement.lexemes, Statement.lexemes, updateStatement, updateStatement,
    skeleton_textOf (separated_update d columnType),
    skeleton_textOf (separated_update d' columnType)]
  obtain ⟨-, hkey, hcolumn, htable⟩ := Shape.mk.inj h
  cases hd : d.key <;> cases hd' : d'.key <;>
    simp_all [updateFragments, rowFragments, Fragment.places]

theorem skeleton_mappingTable {t t' : String} (h : points t = points t') :
    skeleton (mappingTableStatement t).lexemes = skeleton (mappingTableStatement t').lexemes := by
  rw [Statement.lexemes, Statement.lexemes, mappingTableStatement, mappingTableStatement,
    skeleton_textOf (separated_mappingTable t), skeleton_textOf (separated_mappingTable t')]
  simp only [mappingTableFragments, List.flatMap_cons, Fragment.places, h]

theorem skeleton_mappingIndex {t t' : String} (h : points t = points t') :
    skeleton (mappingIndexStatement t).lexemes = skeleton (mappingIndexStatement t').lexemes := by
  rw [Statement.lexemes, Statement.lexemes, mappingIndexStatement, mappingIndexStatement,
    skeleton_textOf (separated_mappingIndex t), skeleton_textOf (separated_mappingIndex t')]
  simp only [mappingIndexFragments, List.flatMap_cons, Fragment.places, points_indexName, h]

/-- No name leaves its quotes. A quoted name is read as the parts of the name, so names are quoted
differently. A statement about a column or about the mappings is read with the parts of its names in
their order; with the names left empty, it depends on the kind of the column, on whether it has a
key, on how many points its names hold and on the type of the key, which comes last. -/
theorem names_within_quotes :
    (∀ name, qualified? (lex (quotedName name).toList) = some (parts name)) ∧
    Function.Injective quotedName ∧
    (∀ d, names (scanStatement d).lexemes = keyParts d ++ parts d.column ++ parts d.table) ∧
    Function.FactorsThrough (fun d => skeleton (scanStatement d).lexemes) shape ∧
    (∀ d columnType locator cell, ∃ front,
      (updateStatement d columnType locator cell).text.toList = front ++ keyType d columnType ∧
      (updateStatement d columnType locator cell).lexemes =
        lex front ++ lex (keyType d columnType) ∧
      names (lex front) = parts d.table ++ parts d.column ++ keyParts d) ∧
    (∀ columnType, Function.FactorsThrough
      (fun u : Descriptor × Locator × Cell =>
        skeleton (updateStatement u.1 columnType u.2.1 u.2.2).lexemes)
      (fun u => shape u.1)) ∧
    (∀ table, names (mappingTableStatement table).lexemes = parts table) ∧
    Function.FactorsThrough (fun table => skeleton (mappingTableStatement table).lexemes) points ∧
    (∀ table, names (mappingIndexStatement table).lexemes =
      ((parts table).getLastD [] ++ "_email_idx".toList) :: parts table) ∧
    Function.FactorsThrough (fun table => skeleton (mappingIndexStatement table).lexemes)
      points := by
  refine ⟨fun name => ?_, quotedName_injective, names_scan, fun _ _ h => skeleton_scan h,
    fun d columnType locator cell => ⟨(textOf (updateFront d)).toList,
      update_text d columnType locator cell, update_lexemes d columnType locator cell,
      names_updateFront d⟩,
    fun columnType _ _ h => skeleton_update h columnType _ _ _ _,
    names_mappingTable, fun _ _ h => skeleton_mappingTable h,
    names_mappingIndex, fun _ _ h => skeleton_mappingIndex h⟩
  rw [qualified?_lex_quotedName, nameParts, Text.cut_eq_splitOn, parts]

/-- A column whose name tries to end the statement. -/
def hostile : Descriptor :=
  ⟨"public.refs", "owner\"; DROP TABLE users", .scalar, some "\"id\""⟩

/-- A column with as many points in its names. -/
def harmless : Descriptor :=
  ⟨"public.refs", "owner", .scalar, some "id"⟩

/-- The hostile name is one name of the statement, which is otherwise that of the harmless one. -/
theorem names_within_quotes_hostile :
    shape hostile = shape harmless ∧
    skeleton (scanStatement hostile).lexemes = skeleton (scanStatement harmless).lexemes ∧
    names (scanStatement hostile).lexemes =
      ["\"id\"".toList, "owner\"; DROP TABLE users".toList, "public".toList, "refs".toList] := by
  have hshape : shape hostile = shape harmless := by decide +kernel
  obtain ⟨-, -, hnames, hskeleton, -⟩ := names_within_quotes
  refine ⟨hshape, hskeleton hshape, ?_⟩
  rw [hnames]
  decide +kernel

end Rekey.Sql
