import Mathlib.Data.List.Forall2
import Rekey.Json.Reading

/-!
# Written values are read back

A text written as a literal is scanned as itself, whatever follows it. From there on `Spells`
carries the argument: a written value takes any reader that awaits a value to the place behind it,
so arrays and objects are read item by item. Both written forms of a value without numbers are read
back as its document.
-/

namespace Rekey.Json

/-! ## Literals -/

section Scanning

variable {rest : List Char}

/-- A short escape is scanned as the character that it stands for. -/
theorem scanPieces_short {e c : Char} (h : shortEscape e = some c) :
    scanPieces ('\\' :: e :: rest) =
      (scanPieces rest).map fun (ps, r) => (.char c :: ps, r) := by
  have hletter : e ≠ 'u' := by
    rintro rfl
    have hnone : shortEscape 'u' = none := by decide
    rw [hnone] at h
    contradiction
  rw [scanPieces, h]
  · cases scanPieces rest <;> rfl
  · rintro a b c d r heq -
    exact hletter heq

/-- A long escape is scanned as a unit. -/
theorem scanPieces_unit {a b c d : Char} {u : Nat} (h : hexUnit a b c d = some u) :
    scanPieces ('\\' :: 'u' :: a :: b :: c :: d :: rest) =
      (scanPieces rest).map fun (ps, r) => (.unit u :: ps, r) := by
  rw [scanPieces, h]
  cases scanPieces rest <;> rfl

/-- A character that needs no escape is scanned as itself. -/
theorem scanPieces_plain {c : Char} (hcontrol : ¬ c.toNat < 0x20) (hquote : c ≠ '"')
    (hslash : c ≠ '\\') :
    scanPieces (c :: rest) = (scanPieces rest).map fun (ps, r) => (.char c :: ps, r) := by
  rw [scanPieces, if_neg (by simp [hcontrol, hslash])]
  · exact hquote
  · rintro a b c' d r rfl
    exact absurd rfl hslash
  · rintro e r rfl
    exact absurd rfl hslash

end Scanning

/-- A piece that stands for a character, whatever pieces follow it. -/
def Piece.IsFor (p : Piece) (c : Char) : Prop :=
  ∀ ps, joinPieces id id (p :: ps) = (joinPieces id id ps).map (c :: ·)

theorem Piece.isFor_char (c : Char) : (Piece.char c).IsFor c :=
  fun _ => by rw [joinPieces, id]

/-- A unit below the surrogates stands for the character with its code. -/
theorem Piece.isFor_unit {c : Char} (h : c.toNat < 0x20) : (Piece.unit c.toNat).IsFor c := by
  intro ps
  -- no surrogate, so the unit never asks for a second one, whatever piece comes next
  have hlow : ¬ 0xD800 ≤ c.toNat := by omega
  have hlow' : ¬ 0xDC00 ≤ c.toNat := by omega
  rcases ps with _ | ⟨_ | u, ps⟩ <;> simp [joinPieces, hlow, hlow', Char.ofNat_toNat]

/-- The digits of a long escape name the character. -/
theorem hexUnit_written {n : Nat} (h : n < 0x20) :
    hexUnit '0' '0' (hexDigit (n / 16)) (hexDigit (n % 16)) = some n := by
  have hall : ∀ n < 0x20, hexUnit '0' '0' (hexDigit (n / 16)) (hexDigit (n % 16)) = some n := by
    decide
  exact hall n h

theorem eq_ofNat_of_toNat {c : Char} {n : Nat} (h : c.toNat = n) : Char.ofNat n = c := by
  rw [← h, Char.ofNat_toNat]

/-- A character is written with a short escape, with a long one, or as itself. -/
theorem quotedChar_cases (c : Char) :
    (∃ e, shortEscape e = some c ∧ quotedChar c = ['\\', e]) ∨
    (c.toNat < 0x20 ∧
      quotedChar c = ['\\', 'u', '0', '0', hexDigit (c.toNat / 16), hexDigit (c.toNat % 16)]) ∨
    (¬ c.toNat < 0x20 ∧ c ≠ '"' ∧ c ≠ '\\' ∧ quotedChar c = [c]) := by
  by_cases hshort : c = '"' ∨ c = '\\' ∨ c = '\n' ∨ c = '\r' ∨ c = '\t' ∨ c.toNat = 8 ∨ c.toNat = 12
  · left
    rcases hshort with rfl | rfl | rfl | rfl | rfl | hcode | hcode
    · exact ⟨'"', rfl, rfl⟩
    · exact ⟨'\\', rfl, rfl⟩
    · exact ⟨'n', rfl, rfl⟩
    · exact ⟨'r', rfl, rfl⟩
    · exact ⟨'t', rfl, rfl⟩
    · obtain rfl := eq_ofNat_of_toNat hcode
      exact ⟨'b', rfl, rfl⟩
    · obtain rfl := eq_ofNat_of_toNat hcode
      exact ⟨'f', rfl, rfl⟩
  · right
    simp only [not_or] at hshort
    obtain ⟨hquote, hslash, hline, hreturn, htab, hback, hfeed⟩ := hshort
    by_cases hcontrol : c.toNat < 0x20
    · exact .inl ⟨hcontrol, by
        simp [quotedChar, hquote, hslash, hline, hreturn, htab, hback, hfeed, hcontrol]⟩
    · exact .inr ⟨hcontrol, hquote, hslash, by
        simp [quotedChar, hquote, hslash, hline, hreturn, htab, hback, hfeed, hcontrol]⟩

/-- A written character is scanned as a piece that stands for it, whatever follows. -/
theorem scanPieces_quotedChar (c : Char) :
    ∃ p : Piece, p.IsFor c ∧ ∀ rest, scanPieces (quotedChar c ++ rest) =
      (scanPieces rest).map fun (ps, r) => (p :: ps, r) := by
  rcases quotedChar_cases c with
    ⟨e, he, hwritten⟩ | ⟨hcontrol, hwritten⟩ | ⟨h, hq, hs, hwritten⟩ <;> rw [hwritten]
  · exact ⟨.char c, Piece.isFor_char c, fun rest => scanPieces_short he⟩
  · exact ⟨.unit c.toNat, Piece.isFor_unit hcontrol,
      fun rest => scanPieces_unit (hexUnit_written hcontrol)⟩
  · exact ⟨.char c, Piece.isFor_char c, fun rest => scanPieces_plain h hq hs⟩

theorem scanPieces_written (cs rest : List Char) :
    ∃ ps, joinPieces id id ps = some cs ∧
      scanPieces (cs.flatMap quotedChar ++ '"' :: rest) = some (ps, rest) := by
  induction cs with
  | nil => exact ⟨[], rfl, rfl⟩
  | cons c cs ih =>
    obtain ⟨ps, hjoin, hscan⟩ := ih
    obtain ⟨p, hp, hchar⟩ := scanPieces_quotedChar c
    refine ⟨p :: ps, by rw [hp, hjoin]; rfl, ?_⟩
    rw [List.flatMap_cons, List.append_assoc, hchar, hscan]
    rfl

/-- A written text is scanned as itself, whatever follows its closing quote. -/
theorem scanLiteral_written (s : String) (rest : List Char) :
    scanLiteral .characters (s.toList.flatMap quotedChar ++ '"' :: rest) = some (some s, rest) := by
  obtain ⟨ps, hjoin, hscan⟩ := scanPieces_written s.toList rest
  rw [scanLiteral, hscan, Option.map_some]
  dsimp only
  rw [Coding.characters, hjoin, Option.map_some, String.ofList_toList]

/-! ## Tokens -/

section Tokens

variable {coding : Coding} {rest : List Char}

theorem tokens_space {c : Char} (h : isSpace c = true) :
    tokens coding (c :: rest) = tokens coding rest := by
  rw [tokens, if_pos h]

theorem tokens_mark {c : Char} {t : Token} (hspace : isSpace c = false) (h : markOf? c = some t) :
    tokens coding (c :: rest) = t :: tokens coding rest := by
  rw [tokens, if_neg (Bool.eq_false_iff.mp hspace), h]

theorem tokens_long {c : Char} {r : List Char} {t : Token} (hspace : isSpace c = false)
    (hmark : markOf? c = none) (h : longToken? coding c r = some (t, rest)) :
    tokens coding (c :: r) = t :: tokens coding rest := by
  rw [tokens, if_neg (Bool.eq_false_iff.mp hspace), hmark]
  dsimp only
  split
  · rename_i t' rest' h'
    rw [h] at h'
    obtain ⟨rfl, rfl⟩ := Prod.mk.inj (Option.some.inj h')
    rfl
  · rename_i h'
    rw [h] at h'
    contradiction

theorem tokens_literal (s : String) :
    tokens .characters (quotedChars s.toList ++ rest) =
      .string (some s) :: tokens .characters rest := by
  have hlong : longToken? .characters '"' (s.toList.flatMap quotedChar ++ '"' :: rest) =
      some (.string (some s), rest) := by
    unfold longToken?
    rw [if_pos (beq_self_eq_true '"'), scanLiteral_written]
    rfl
  rw [quotedChars, List.cons_append, List.cons_append, List.append_assoc]
  exact tokens_long (by decide) (by decide) hlong

theorem tokens_blanks {blanks : List Char} (h : ∀ c ∈ blanks, isSpace c = true) :
    tokens coding (blanks ++ rest) = tokens coding rest := by
  induction blanks with
  | nil => rfl
  | cons c blanks ih =>
    rw [List.cons_append, tokens_space (h c List.mem_cons_self),
      ih fun c' hc' => h c' (List.mem_cons_of_mem c hc')]

end Tokens

/-! ## Documents -/

/-- A text that is read as this document wherever a value is awaited, whatever follows it. -/
def Spells (cs : List Char) (d : Doc) : Prop :=
  ∀ rest, ∃ t ts, tokens .characters (cs ++ rest) = t :: ts ∧ t ≠ .rightBracket ∧
    ∀ frames, ts.foldl .next (begin frames t) = (tokens .characters rest).foldl .next (put d frames)

/-- A text that is read as this member of an object, whatever follows it. -/
def SpellsMember (cs : List Char) (m : Option String × Doc) : Prop :=
  ∀ rest, ∃ ts, tokens .characters (cs ++ rest) = .string m.1 :: .colon :: ts ∧
    ∀ frames, ts.foldl .next (.value frames) = (tokens .characters rest).foldl .next (put m.2 frames)

section Documents

variable {cs blanks : List Char} {d : Doc}

theorem spells_string (s : String) : Spells (quotedChars s.toList) (.string (some s)) :=
  fun rest => ⟨.string (some s), tokens .characters rest, tokens_literal s, nofun, fun _ => rfl⟩

theorem Spells.after_blanks (hblanks : ∀ c ∈ blanks, isSpace c = true) (h : Spells cs d) :
    Spells (blanks ++ cs) d := by
  intro rest
  rw [List.append_assoc, tokens_blanks hblanks]
  exact h rest

theorem Spells.member (k : String) (h : Spells cs d) :
    SpellsMember (quotedChars k.toList ++ ':' :: cs) (some k, d) := by
  intro rest
  obtain ⟨t, ts, htokens, -, hfold⟩ := h rest
  refine ⟨t :: ts, ?_, hfold⟩
  rw [List.append_assoc, tokens_literal, List.cons_append, tokens_mark (by decide) rfl, htokens]

theorem SpellsMember.after_blanks {m : Option String × Doc}
    (hblanks : ∀ c ∈ blanks, isSpace c = true) (h : SpellsMember cs m) :
    SpellsMember (blanks ++ cs) m := by
  intro rest
  rw [List.append_assoc, tokens_blanks hblanks]
  exact h rest

/-- Parts with a sign between them are the first one and each other one after the sign. -/
theorem join_sign (sep : Char) (p : List Char) (ps : List (List Char)) :
    Text.join [sep] (p :: ps) = p ++ ps.flatMap (sep :: ·) := by
  induction ps generalizing p with
  | nil => exact (List.append_nil p).symm
  | cons q ps ih => rw [Text.join, ih, List.flatMap_cons, List.append_assoc]; rfl

/-- More items are read up to the end of an array. -/
theorem foldl_items {items : List (List Char)} {docs : List Doc}
    (hblanks : ∀ c ∈ blanks, isSpace c = true) (h : List.Forall₂ Spells items docs)
    (before : List Doc) (frames : List Frame) (rest : List Char) :
    (tokens .characters (items.flatMap (',' :: ·) ++ (blanks ++ ']' :: rest))).foldl .next
        (.nextItem before frames) =
      (tokens .characters rest).foldl .next (put (.array (before.reverse ++ docs) true) frames) := by
  induction h generalizing before with
  | nil =>
    rw [List.flatMap_nil, List.nil_append, tokens_blanks hblanks, tokens_mark (by decide) rfl,
      List.append_nil]
    rfl
  | @cons item doc items docs hitem _ ih =>
    obtain ⟨t, ts, htokens, -, hfold⟩ := hitem (items.flatMap (',' :: ·) ++ (blanks ++ ']' :: rest))
    rw [List.flatMap_cons, List.append_assoc, List.cons_append, tokens_mark (by decide) rfl,
      htokens]
    show ts.foldl .next (begin (.array before :: frames) t) = _
    rw [hfold, put, ih, List.reverse_cons, List.append_assoc]
    rfl

theorem spells_array {items : List (List Char)} {docs : List Doc}
    (hblanks : ∀ c ∈ blanks, isSpace c = true) (h : List.Forall₂ Spells items docs) :
    Spells ('[' :: (Text.join [','] items ++ (blanks ++ [']']))) (.array docs true) := by
  intro rest
  rw [List.cons_append, List.append_assoc, List.append_assoc, List.singleton_append]
  refine ⟨.leftBracket, _, tokens_mark (by decide) rfl, nofun, fun frames => ?_⟩
  cases h with
  | nil =>
    rw [Text.join, List.nil_append, tokens_blanks hblanks, tokens_mark (by decide) rfl]
    rfl
  | @cons item doc items docs hitem hitems =>
    obtain ⟨t, ts, htokens, hfirst, hfold⟩ :=
      hitem (items.flatMap (',' :: ·) ++ (blanks ++ ']' :: rest))
    rw [join_sign, List.append_assoc, htokens]
    -- only a closing bracket would end the array here, and no value begins with one
    have hbegin : Awaiting.next (.firstItem frames) t = begin (.array [] :: frames) t := by
      cases t <;> first | rfl | exact absurd rfl hfirst
    show ts.foldl .next (Awaiting.next (.firstItem frames) t) = _
    rw [hbegin, hfold, put, foldl_items hblanks hitems]
    rfl

/-- More members are read up to the end of an object. -/
theorem foldl_members {members : List (List Char)} {docs : List (Option String × Doc)}
    (hblanks : ∀ c ∈ blanks, isSpace c = true) (h : List.Forall₂ SpellsMember members docs)
    (before : List (Option String × Doc)) (frames : List Frame) (rest : List Char) :
    (tokens .characters (members.flatMap (',' :: ·) ++ (blanks ++ '\x7d' :: rest))).foldl .next
        (.nextMember before frames) =
      (tokens .characters rest).foldl .next (put (.object (before.reverse ++ docs) true) frames) := by
  induction h generalizing before with
  | nil =>
    rw [List.flatMap_nil, List.nil_append, tokens_blanks hblanks, tokens_mark (by decide) rfl,
      List.append_nil]
    rfl
  | @cons member doc members docs hmember _ ih =>
    obtain ⟨ts, htokens, hfold⟩ :=
      hmember (members.flatMap (',' :: ·) ++ (blanks ++ '\x7d' :: rest))
    rw [List.flatMap_cons, List.append_assoc, List.cons_append, tokens_mark (by decide) rfl,
      htokens]
    show ts.foldl Awaiting.next (.value (.member before doc.1 :: frames)) = _
    rw [hfold, put, ih, List.reverse_cons, List.append_assoc]
    rfl

theorem spells_object {members : List (List Char)} {docs : List (Option String × Doc)}
    (hblanks : ∀ c ∈ blanks, isSpace c = true) (h : List.Forall₂ SpellsMember members docs) :
    Spells ('\x7b' :: (Text.join [','] members ++ (blanks ++ ['\x7d']))) (.object docs true) := by
  intro rest
  rw [List.cons_append, List.append_assoc, List.append_assoc, List.singleton_append]
  refine ⟨.leftBrace, _, tokens_mark (by decide) rfl, nofun, fun frames => ?_⟩
  cases h with
  | nil =>
    rw [Text.join, List.nil_append, tokens_blanks hblanks, tokens_mark (by decide) rfl]
    rfl
  | @cons member doc members docs hmember hmembers =>
    obtain ⟨ts, htokens, hfold⟩ :=
      hmember (members.flatMap (',' :: ·) ++ (blanks ++ '\x7d' :: rest))
    rw [join_sign, List.append_assoc, htokens]
    show ts.foldl Awaiting.next (.value (.member [] doc.1 :: frames)) = _
    rw [hfold, put, foldl_members hblanks hmembers]
    rfl

theorem spells_null : Spells ['n', 'u', 'l', 'l'] .null :=
  fun rest => ⟨.null, tokens .characters rest, tokens_long (by decide) (by decide) rfl, nofun, fun _ => rfl⟩

theorem spells_true : Spells ['t', 'r', 'u', 'e'] (.bool true) :=
  fun rest => ⟨.bool true, tokens .characters rest, tokens_long (by decide) (by decide) rfl, nofun,
    fun _ => rfl⟩

theorem spells_false : Spells ['f', 'a', 'l', 's', 'e'] (.bool false) :=
  fun rest => ⟨.bool false, tokens .characters rest, tokens_long (by decide) (by decide) rfl, nofun,
    fun _ => rfl⟩

/-- A text that is read as a document and holds nothing else. -/
theorem Spells.document (h : Spells cs d) : Document.ofChars cs = ⟨d, true⟩ := by
  obtain ⟨t, ts, htokens, -, hfold⟩ := h []
  have hdone : (tokens .characters cs).foldl Awaiting.next (.value []) = .done d := by
    rw [← List.append_nil cs, htokens]
    show ts.foldl Awaiting.next (begin [] t) = _
    rw [hfold, tokens]
    rfl
  rw [Document.ofChars, Document.ofTokens, hdone]

end Documents

/-! ## Values -/

mutual
/-- The document of a value that holds no number. -/
def Value.doc? : Value → Option Doc
  | .null => some .null
  | .bool b => some (.bool b)
  | .number _ => none
  | .string s => some (.string (some s))
  | .array items => (itemDocs? items).map (.array · true)
  | .object members => (memberDocs? members).map (.object · true)
termination_by structural v => v
/-- The documents of items that hold no number. -/
def itemDocs? : List Value → Option (List Doc)
  | [] => some []
  | v :: r =>
    match v.doc?, itemDocs? r with
    | some d, some ds => some (d :: ds)
    | _, _ => none
termination_by structural v => v
/-- The documents of members that hold no number. -/
def memberDocs? : List (String × Value) → Option (List (Option String × Doc))
  | [] => some []
  | m :: r =>
    match memberDoc? m, memberDocs? r with
    | some d, some ds => some (d :: ds)
    | _, _ => none
termination_by structural v => v
/-- The document of a member that holds no number. -/
def memberDoc? : String × Value → Option (Option String × Doc)
  | (k, v) => v.doc?.map fun d => (some k, d)
termination_by structural v => v
end

theorem itemDocs?_cons {v : Value} {r : List Value} {docs : List Doc}
    (h : itemDocs? (v :: r) = some docs) :
    ∃ d ds, v.doc? = some d ∧ itemDocs? r = some ds ∧ docs = d :: ds := by
  rw [itemDocs?] at h
  split at h
  · next d ds hd hds => exact ⟨d, ds, hd, hds, (Option.some.inj h).symm⟩
  · contradiction

theorem memberDocs?_cons {m : String × Value} {r : List (String × Value)}
    {docs : List (Option String × Doc)} (h : memberDocs? (m :: r) = some docs) :
    ∃ d ds, memberDoc? m = some d ∧ memberDocs? r = some ds ∧ docs = d :: ds := by
  rw [memberDocs?] at h
  split at h
  · next d ds hd hds => exact ⟨d, ds, hd, hds, (Option.some.inj h).symm⟩
  · contradiction

theorem isSpace_nil : ∀ c ∈ ([] : List Char), isSpace c = true := nofun

/-- The blanks before an item that stands on a line of its own. -/
theorem isSpace_indentation {depth : Nat} : ∀ c ∈ indentation depth, isSpace c = true := by
  intro c hc
  rcases List.mem_cons.mp hc with rfl | hc
  · rfl
  · rw [List.eq_of_mem_replicate hc]
    rfl

mutual
/-- A value without numbers is read back from its compact form. -/
theorem spells_compact : ∀ {v : Value} {d : Doc}, v.doc? = some d → Spells v.compactChars d
  | .null, _, h => by
    obtain rfl := Option.some.inj h
    exact spells_null
  | .bool true, _, h => by
    obtain rfl := Option.some.inj h
    exact spells_true
  | .bool false, _, h => by
    obtain rfl := Option.some.inj h
    exact spells_false
  | .string s, _, h => by
    obtain rfl := Option.some.inj h
    exact spells_string s
  | .array items, _, h => by
    obtain ⟨docs, hdocs, rfl⟩ := Option.map_eq_some_iff.mp h
    exact spells_array isSpace_nil (spells_compactItems hdocs)
  | .object members, _, h => by
    obtain ⟨docs, hdocs, rfl⟩ := Option.map_eq_some_iff.mp h
    exact spells_object isSpace_nil (spells_compactMembers hdocs)
theorem spells_compactItems : ∀ {items : List Value} {docs : List Doc},
    itemDocs? items = some docs → List.Forall₂ Spells (compactItems items) docs
  | [], _, h => by
    obtain rfl := Option.some.inj h
    exact .nil
  | v :: r, _, h => by
    obtain ⟨d, ds, hd, hds, rfl⟩ := itemDocs?_cons h
    exact .cons (spells_compact hd) (spells_compactItems hds)
theorem spells_compactMembers : ∀ {members : List (String × Value)}
    {docs : List (Option String × Doc)},
    memberDocs? members = some docs → List.Forall₂ SpellsMember (compactMembers members) docs
  | [], _, h => by
    obtain rfl := Option.some.inj h
    exact .nil
  | m :: r, _, h => by
    obtain ⟨d, ds, hd, hds, rfl⟩ := memberDocs?_cons h
    exact .cons (spells_compactMember hd) (spells_compactMembers hds)
theorem spells_compactMember : ∀ {m : String × Value} {doc : Option String × Doc},
    memberDoc? m = some doc → SpellsMember (compactMember m) doc
  | (k, v), _, h => by
    obtain ⟨d, hd, rfl⟩ := Option.map_eq_some_iff.mp h
    exact (spells_compact hd).member k
end

/-- Items that are read between brackets are read as well on lines of their own. -/
theorem spells_bracketed {β : Type} {Spelled : List Char → β → Prop} {left right : Char}
    {document : List β → Doc}
    (hbetween : ∀ {blanks : List Char} {items : List (List Char)} {docs : List β},
      (∀ c ∈ blanks, isSpace c = true) → List.Forall₂ Spelled items docs →
      Spells (left :: (Text.join [','] items ++ (blanks ++ [right]))) (document docs))
    (hafter : ∀ {blanks item : List Char} {doc : β},
      (∀ c ∈ blanks, isSpace c = true) → Spelled item doc → Spelled (blanks ++ item) doc)
    (depth : Nat) {items : List (List Char)} {docs : List β}
    (h : List.Forall₂ Spelled items docs) :
    Spells (bracketed left right depth items) (document docs) := by
  unfold bracketed
  split
  · next hempty =>
    obtain rfl := List.isEmpty_iff.mp hempty
    exact hbetween isSpace_nil h
  · rw [List.append_assoc, List.cons_append]
    refine hbetween isSpace_indentation (List.forall₂_map_left_iff.mpr ?_)
    exact h.imp fun _ _ hitem => hafter isSpace_indentation hitem

mutual
/-- A value without numbers is read back from its form with one item or member a line. -/
theorem spells_pretty (depth : Nat) :
    ∀ {v : Value} {d : Doc}, v.doc? = some d → Spells (v.prettyChars depth) d
  | .null, _, h => by
    obtain rfl := Option.some.inj h
    exact spells_null
  | .bool true, _, h => by
    obtain rfl := Option.some.inj h
    exact spells_true
  | .bool false, _, h => by
    obtain rfl := Option.some.inj h
    exact spells_false
  | .string s, _, h => by
    obtain rfl := Option.some.inj h
    exact spells_string s
  | .array items, _, h => by
    obtain ⟨docs, hdocs, rfl⟩ := Option.map_eq_some_iff.mp h
    exact spells_bracketed spells_array Spells.after_blanks depth
      (spells_prettyItems (depth + 1) hdocs)
  | .object members, _, h => by
    obtain ⟨docs, hdocs, rfl⟩ := Option.map_eq_some_iff.mp h
    exact spells_bracketed spells_object SpellsMember.after_blanks depth
      (spells_prettyMembers (depth + 1) hdocs)
theorem spells_prettyItems (depth : Nat) : ∀ {items : List Value} {docs : List Doc},
    itemDocs? items = some docs → List.Forall₂ Spells (prettyItems depth items) docs
  | [], _, h => by
    obtain rfl := Option.some.inj h
    exact .nil
  | v :: r, _, h => by
    obtain ⟨d, ds, hd, hds, rfl⟩ := itemDocs?_cons h
    exact .cons (spells_pretty depth hd) (spells_prettyItems depth hds)
theorem spells_prettyMembers (depth : Nat) : ∀ {members : List (String × Value)}
    {docs : List (Option String × Doc)},
    memberDocs? members = some docs → List.Forall₂ SpellsMember (prettyMembers depth members) docs
  | [], _, h => by
    obtain rfl := Option.some.inj h
    exact .nil
  | m :: r, _, h => by
    obtain ⟨d, ds, hd, hds, rfl⟩ := memberDocs?_cons h
    exact .cons (spells_prettyMember depth hd) (spells_prettyMembers depth hds)
theorem spells_prettyMember (depth : Nat) : ∀ {m : String × Value} {doc : Option String × Doc},
    memberDoc? m = some doc → SpellsMember (prettyMember depth m) doc
  | (k, v), _, h => by
    obtain ⟨d, hd, rfl⟩ := Option.map_eq_some_iff.mp h
    have hblank : ∀ c ∈ [' '], isSpace c = true := List.forall_mem_singleton.mpr rfl
    exact ((spells_pretty depth hd).after_blanks hblank).member k
end

/-- Reading either written form of a value without numbers is reading its document. -/
theorem readFrom_written {α : Type} (read : Reader α) {v : Value} {d : Doc} (h : v.doc? = some d) :
    readFrom read v.compact = read d ∧ readFrom read v.pretty = read d := by
  have hread : ∀ cs, Spells cs d → readFrom read (String.ofList cs) = read d := by
    intro cs hcs
    rw [readFrom, Document.ofText, String.toList_ofList, hcs.document, readDocument]
    cases read d <;> rfl
  exact ⟨hread _ (spells_compact h), hread _ (spells_pretty 0 h)⟩

end Rekey.Json
