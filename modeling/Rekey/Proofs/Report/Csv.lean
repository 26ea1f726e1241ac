import Mathlib.Data.List.Basic
import Mathlib.Data.List.Forall2
import Mathlib.Data.List.Induction

/-!
# Comma-separated values

A file is a sequence of records, each with a line feed at its end. A record is a sequence of fields
with commas between them. A field is either written as it is, and then holds no comma, quote or line
break, or stands between quotes, where a quote is written twice. `read` goes through a text once,
character by character, and answers exactly the files of this grammar, so a text is the file of at
most one list of records.
-/

namespace Rekey.Csv

/-- Characters that need no quotes around their field. -/
def isPlain (c : Char) : Bool :=
  c != ',' && c != '"' && c != '\r' && c != '\n'

/-! ## The grammar -/

/-- A text between quotes as it is written. -/
inductive Quoted : List Char → List Char → Prop
  | nil : Quoted [] []
  | char {w text : List Char} {c : Char} (h : Quoted w text) (hc : c ≠ '"') :
      Quoted (w ++ [c]) (text ++ [c])
  | quote {w text : List Char} (h : Quoted w text) : Quoted (w ++ ['"', '"']) (text ++ ['"'])

/-- A field as it is written. -/
inductive Field : List Char → String → Prop
  | plain {text : List Char} (h : ∀ c ∈ text, isPlain c = true) : Field text (.ofList text)
  | quoted {w text : List Char} (h : Quoted w text) : Field ('"' :: (w ++ ['"'])) (.ofList text)

/-- Fields, each with a comma behind it. -/
inductive Fields : List Char → List String → Prop
  | nil : Fields [] []
  | snoc {w w' : List Char} {fields : List String} {field : String} (h : Fields w fields)
      (hfield : Field w' field) : Fields (w ++ (w' ++ [','])) (fields ++ [field])

/-- A record, which has at least one field. -/
inductive Record : List Char → List String → Prop
  | mk {w w' : List Char} {fields : List String} {field : String} (h : Fields w fields)
      (hlast : Field w' field) : Record (w ++ w') (fields ++ [field])

/-- Records, each with a line feed behind it. -/
inductive File : List Char → List (List String) → Prop
  | nil : File [] []
  | snoc {w w' : List Char} {records : List (List String)} {record : List String}
      (h : File w records) (hrecord : Record w' record) :
      File (w ++ (w' ++ ['\n'])) (records ++ [record])

/-! ## The reader -/

/-- The place that a reader has reached: the records that are complete, the complete fields of the
record after them, and what the text goes on with. -/
inductive Place where
  /-- a field, or the end of the file if the record has no field yet -/
  | field (records : List (List String)) (fields : List String)
  /-- more of a field that is written as it is -/
  | plain (records : List (List String)) (fields : List String) (text : List Char)
  /-- more of a field between quotes -/
  | quoted (records : List (List String)) (fields : List String) (text : List Char)
  /-- the end of a field behind its quote, or the second of two quotes in it -/
  | closed (records : List (List String)) (fields : List String) (text : List Char)
  /-- nothing that comes can mend the file -/
  | failed
deriving DecidableEq, Repr

/-- The character that ends a field. -/
def endField (records : List (List String)) (fields : List String) (text : List Char) (c : Char) :
    Place :=
  if c = ',' then .field records (fields ++ [.ofList text])
  else if c = '\n' then .field (records ++ [fields ++ [.ofList text]]) []
  else .failed

/-- A character of a field that is written as it is, or its end. -/
def nextPlain (records : List (List String)) (fields : List String) (text : List Char) (c : Char) :
    Place :=
  if isPlain c then .plain records fields (text ++ [c]) else endField records fields text c

/-- One more character. -/
def Place.next : Place → Char → Place
  | .field records fields, c =>
    if c = '"' then .quoted records fields [] else nextPlain records fields [] c
  | .plain records fields text, c => nextPlain records fields text c
  | .quoted records fields text, c =>
    if c = '"' then .closed records fields text else .quoted records fields (text ++ [c])
  | .closed records fields text, c =>
    if c = '"' then .quoted records fields (text ++ [c]) else endField records fields text c
  | .failed, _ => .failed

/-- The records of a text that is a file. -/
def read (cs : List Char) : Option (List (List String)) :=
  match cs.foldl Place.next (.field [] []) with
  | .field records [] => some records
  | _ => none

/-! ## What is read is in the grammar -/

/-- A text ends with complete records and complete fields of one more. -/
def Complete (w : List Char) (records : List (List String)) (fields : List String) : Prop :=
  ∃ u v, w = u ++ v ∧ File u records ∧ Fields v fields

/-- A text in front of a place. -/
def Place.Follows (w : List Char) : Place → Prop
  | .field records fields => Complete w records fields
  | .plain records fields text =>
    ∃ u, w = u ++ text ∧ Complete u records fields ∧ ∀ c ∈ text, isPlain c = true
  | .quoted records fields text =>
    ∃ u v, w = u ++ '"' :: v ∧ Complete u records fields ∧ Quoted v text
  | .closed records fields text =>
    ∃ u v, w = u ++ '"' :: (v ++ ['"']) ∧ Complete u records fields ∧ Quoted v text
  | .failed => True

section Soundness

variable {w u v text : List Char} {records : List (List String)} {fields : List String} {c : Char}

theorem follows_endField (h : Complete u records fields) (hfield : Field v (.ofList text)) :
    (endField records fields text c).Follows (u ++ (v ++ [c])) := by
  obtain ⟨x, y, rfl, hfile, hfields⟩ := h
  unfold endField
  split
  · next hc =>
    subst hc
    exact ⟨x, y ++ (v ++ [',']), List.append_assoc .., hfile, hfields.snoc hfield⟩
  split
  · next hc =>
    subst hc
    refine ⟨x ++ ((y ++ v) ++ ['\n']), [], ?_, hfile.snoc (.mk hfields hfield), .nil⟩
    simp only [List.append_assoc, List.append_nil]
  · trivial

theorem follows_nextPlain (h : Complete u records fields) (hplain : ∀ c ∈ text, isPlain c = true) :
    (nextPlain records fields text c).Follows (u ++ (text ++ [c])) := by
  unfold nextPlain
  split
  · next hc =>
    refine ⟨u, rfl, h, fun c' hc' => ?_⟩
    rcases List.mem_append.mp hc' with hold | hnew
    · exact hplain c' hold
    · rwa [List.mem_singleton.mp hnew]
  · exact follows_endField h (.plain hplain)

/-- One more character leads to the place behind it. -/
theorem Place.Follows.next {p : Place} (h : p.Follows w) (c : Char) :
    (p.next c).Follows (w ++ [c]) := by
  cases p with
  | field records fields =>
    rw [Place.next]
    split
    · next hc =>
      subst hc
      exact ⟨w, [], rfl, h, .nil⟩
    · have hnone : ∀ c ∈ ([] : List Char), isPlain c = true := nofun
      exact follows_nextPlain h hnone
  | plain records fields text =>
    obtain ⟨u, rfl, hcomplete, hplain⟩ := h
    rw [List.append_assoc]
    exact follows_nextPlain hcomplete hplain
  | quoted records fields text =>
    obtain ⟨u, v, rfl, hcomplete, hquoted⟩ := h
    rw [Place.next, List.append_assoc, List.cons_append]
    split
    · next hc =>
      subst hc
      exact ⟨u, v, rfl, hcomplete, hquoted⟩
    · next hc => exact ⟨u, v ++ [c], rfl, hcomplete, hquoted.char hc⟩
  | closed records fields text =>
    obtain ⟨u, v, rfl, hcomplete, hquoted⟩ := h
    rw [Place.next, List.append_assoc]
    split
    · -- the quote before it did not end the field: the two stand for one
      next hc =>
      subst hc
      refine ⟨u, v ++ ['"', '"'], ?_, hcomplete, hquoted.quote⟩
      simp only [List.cons_append, List.append_assoc, List.nil_append]
    · exact follows_endField hcomplete (.quoted hquoted)
  | failed => trivial

theorem follows_foldl (w : List Char) : (w.foldl Place.next (.field [] [])).Follows w := by
  induction w using List.reverseRecOn with
  | nil => exact ⟨[], [], rfl, .nil, .nil⟩
  | append_singleton w c ih =>
    rw [List.foldl_concat]
    exact ih.next c

end Soundness

/-! ## What is in the grammar is read -/

section Completeness

variable {w text : List Char} {records : List (List String)} {fields : List String} {field : String}

theorem Quoted.foldl_next (h : Quoted w text) :
    w.foldl Place.next (.quoted records fields []) = .quoted records fields text := by
  induction h with
  | nil => rfl
  | char h hc ih => rw [List.foldl_concat, ih, Place.next, if_neg hc]
  | quote h ih =>
    rw [List.foldl_append, ih]
    rfl

theorem foldl_nextPlain (h : ∀ c ∈ w, isPlain c = true) :
    w.foldl Place.next (.plain records fields text) = .plain records fields (text ++ w) := by
  induction w generalizing text with
  | nil => rw [List.append_nil]; rfl
  | cons c w ih =>
    rw [List.foldl_cons, Place.next, nextPlain, if_pos (h c List.mem_cons_self),
      ih fun c' hc' => h c' (List.mem_cons_of_mem c hc'), List.append_assoc]
    rfl

/-- A field is read up to the character that ends it. -/
theorem Field.foldl_next (h : Field w field) {c : Char} (hplain : isPlain c = false)
    (hquote : c ≠ '"') :
    (w ++ [c]).foldl Place.next (.field records fields) =
      endField records fields field.toList c := by
  have hend : ∀ text, nextPlain records fields text c = endField records fields text c :=
    fun text => if_neg (by simp [hplain])
  rw [List.foldl_concat]
  cases h with
  | plain htext =>
    rw [String.toList_ofList]
    cases w with
    | nil => rw [List.foldl_nil, Place.next, if_neg hquote, hend]
    | cons d w =>
      have hd : isPlain d = true := htext d List.mem_cons_self
      have hd' : d ≠ '"' := by
        rintro rfl
        contradiction
      rw [List.foldl_cons, Place.next, if_neg hd', nextPlain, if_pos hd,
        foldl_nextPlain fun c' hc' => htext c' (List.mem_cons_of_mem d hc'), Place.next, hend]
      rfl
  | quoted hquoted =>
    rw [String.toList_ofList, List.foldl_cons, List.foldl_concat]
    show ((List.foldl Place.next (.quoted records fields []) _).next '"').next c = _
    rw [hquoted.foldl_next]
    exact if_neg hquote

theorem Fields.foldl_next (h : Fields w fields) :
    w.foldl Place.next (.field records []) = .field records fields := by
  induction h with
  | nil => rfl
  | snoc h hfield ih =>
    rw [List.foldl_append, ih, hfield.foldl_next (by decide) (by decide), endField, if_pos rfl,
      String.ofList_toList]

theorem Record.foldl_next {record : List String} (h : Record w record) :
    (w ++ ['\n']).foldl Place.next (.field records []) = .field (records ++ [record]) [] := by
  obtain ⟨hfields, hlast⟩ := h
  rw [List.append_assoc, List.foldl_append, hfields.foldl_next,
    hlast.foldl_next (by decide) (by decide), endField, if_neg (by decide), if_pos rfl,
    String.ofList_toList]

theorem File.foldl_next (h : File w records) :
    w.foldl Place.next (.field [] []) = .field records [] := by
  induction h with
  | nil => rfl
  | snoc h hrecord ih => rw [List.foldl_append, ih, hrecord.foldl_next]

end Completeness

/-- The reader answers exactly the files of the grammar. -/
theorem read_eq_some_iff {w : List Char} {records : List (List String)} :
    read w = some records ↔ File w records := by
  constructor
  · intro h
    have hfollows := follows_foldl w
    unfold read at h
    split at h
    · next records' hend =>
      obtain rfl := Option.some.inj h
      rw [hend] at hfollows
      obtain ⟨u, v, rfl, hfile, hfields⟩ := hfollows
      -- no field of a further record was begun, so the file is all there is
      generalize hnil : ([] : List String) = none' at hfields
      cases hfields with
      | nil => rwa [List.append_nil]
      | snoc => simp at hnil
    · contradiction
  · intro h
    rw [read, h.foldl_next]

/-- A text is the file of at most one list of records. -/
theorem File.unique {w : List Char} {records records' : List (List String)} (h : File w records)
    (h' : File w records') : records = records' :=
  Option.some.inj ((read_eq_some_iff.mpr h).symm.trans (read_eq_some_iff.mpr h'))

/-! ## Written files -/

section Written

variable {w : List Char} {fields : List String} {field : String} {records : List (List String)}

/-- Any text may stand between quotes if its quotes are written twice. -/
theorem quoted_flatMap (text : List Char) :
    Quoted (text.flatMap fun c => if c = '"' then ['"', '"'] else [c]) text := by
  induction text using List.reverseRecOn with
  | nil => exact .nil
  | append_singleton text c ih =>
    rw [List.flatMap_append, List.flatMap_singleton]
    split
    · next hc =>
      subst hc
      exact ih.quote
    · next hc => exact ih.char hc

theorem Fields.record (h : Fields w fields) {w' : List Char} (hfield : Field w' field)
    {ws : List (List Char)} {more : List String} (hmore : List.Forall₂ Field ws more) :
    Record (w ++ (w' ++ ws.flatMap (',' :: ·))) (fields ++ field :: more) := by
  induction hmore generalizing w w' fields field with
  | nil =>
    rw [List.flatMap_nil, List.append_nil]
    exact .mk h hfield
  | @cons w'' field'' ws more hnext _ ih =>
    have hrecord := ih (h.snoc hfield) hnext
    simpa only [List.flatMap_cons, List.append_assoc, List.cons_append, List.nil_append]
      using hrecord

/-- What is joined by commas has a comma before each part but the first. -/
theorem intercalate_eq_flatMap (w : List Char) (ws : List (List Char)) :
    [','].intercalate (w :: ws) = w ++ ws.flatMap (',' :: ·) := by
  induction ws generalizing w with
  | nil => simp
  | cons w' ws ih =>
    rw [List.intercalate_cons_cons, ih, List.flatMap_cons]
    simp

/-- Fields with commas between them are a record. -/
theorem record_intercalate {w : List Char} {ws : List (List Char)} (hfield : Field w field)
    (hmore : List.Forall₂ Field ws fields) :
    Record ([','].intercalate (w :: ws)) (field :: fields) := by
  rw [intercalate_eq_flatMap]
  exact Fields.nil.record hfield hmore

/-- A record with its line feed. -/
def Line (w : List Char) (record : List String) : Prop :=
  ∃ u, w = u ++ ['\n'] ∧ Record u record

theorem Line.file {record : List String} (h : Line w record) : File w [record] := by
  obtain ⟨u, rfl, hrecord⟩ := h
  exact File.nil.snoc hrecord

/-- A file goes on with any number of lines. -/
theorem File.append_lines {α : Type} {line : α → List Char} {record : α → List String}
    {as : List α} (hfile : File w records) (h : ∀ a ∈ as, Line (line a) (record a)) :
    File (w ++ as.flatMap line) (records ++ as.map record) := by
  induction as using List.reverseRecOn with
  | nil => rwa [List.flatMap_nil, List.map_nil, List.append_nil, List.append_nil]
  | append_singleton as a ih =>
    obtain ⟨u, hline, hrecord⟩ := h a (by simp)
    have hinit := ih fun b hb => h b (List.mem_append_left _ hb)
    rw [List.flatMap_append, List.flatMap_singleton, List.map_append, ← List.append_assoc,
      ← List.append_assoc, hline]
    exact hinit.snoc hrecord

end Written

end Rekey.Csv
