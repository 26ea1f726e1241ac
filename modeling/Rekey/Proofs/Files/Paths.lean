import Rekey.File.Layout
import Rekey.File.ObjectPath
import Rekey.LegacyId
import Rekey.Proofs.Text.Percent
import Mathlib.Data.List.Nodup

/-!
# The three places of a file

The normal form of a path and its segments determine each other, and the segments of a joined path
are those of its parts. Before the file name stands a legacy identifier in the old place and in the
backup, and none in the new place; the backup path of a tenant is longer than the old path. So the
three places of a file are apart, and from the old places and the backups of all users too. Where
two places do meet is said for each pair of kinds (`oldPlace_eq_iff` and what follows it).
-/

namespace Rekey

namespace Text

theorem cut_eq_splitOn (sep : Char) (cs : List Char) : cut sep cs = cs.splitOn sep := by
  fun_induction cut sep cs with
  | case1 => simp
  | case2 r ih => simp [List.splitOn_cons_eq_if_modifyHead, ih]
  | case3 c r hc p ps h ih => simp [List.splitOn_cons_eq_if_modifyHead, hc, ← ih, h]
  | case4 c r _ h => exact absurd h (cut_ne_nil sep r)

/-- A part between separators holds none. -/
theorem not_mem_of_mem_cut {sep : Char} {cs p : List Char} (h : p ∈ cut sep cs) : sep ∉ p := by
  fun_induction cut sep cs generalizing p with
  | case1 => simp_all
  | case2 r ih =>
    rcases List.mem_cons.mp h with rfl | hrest
    · exact List.not_mem_nil
    · exact ih hrest
  | case3 c r hc q qs hcut ih =>
    rcases List.mem_cons.mp h with rfl | hrest
    · have hq : sep ∉ q := ih (hcut ▸ List.mem_cons_self)
      intro hmem
      rcases List.mem_cons.mp hmem with rfl | htail
      · exact hc rfl
      · exact hq htail
    · exact ih (hcut ▸ List.mem_cons_of_mem q hrest)
  | case4 c r _ hcut => exact absurd hcut (cut_ne_nil sep r)

theorem cut_of_not_mem {sep : Char} {cs : List Char} (h : sep ∉ cs) : cut sep cs = [cs] := by
  fun_induction cut sep cs with
  | case1 => rfl
  | case2 r => exact absurd List.mem_cons_self h
  | case3 c r _ p ps hcut ih =>
    have hrest := ih fun hmem => h (List.mem_cons_of_mem c hmem)
    obtain ⟨rfl, rfl⟩ := List.cons.inj (hcut.symm.trans hrest)
    rfl
  | case4 c r _ hcut => exact absurd hcut (cut_ne_nil sep r)

/-- There is one part more than there are separators. -/
theorem length_cut (sep : Char) (cs : List Char) :
    (cut sep cs).length = cs.count sep + 1 := by
  fun_induction cut sep cs with
  | case1 => rfl
  | case2 r ih => rw [List.length_cons, ih, List.count_cons_self]
  | case3 c r hc p ps hcut ih =>
    rw [hcut] at ih
    rw [List.count_cons_of_ne hc, ← ih, List.length_cons, List.length_cons]
  | case4 c r _ hcut => exact absurd hcut (cut_ne_nil sep r)

end Text

/-! ## Segments with escapes -/

namespace ObjectPath

variable {cs : List Char}

/-- What needs no escape stands as it is. -/
theorem segment_of_plain (hdots : (cs == ['.'] || cs == ['.', '.']) = false)
    (hplain : ∀ c ∈ cs, isPlain c = true) : segment cs = cs := by
  have hchars : cs.map (fun c => if isPlain c then [c] else percentChar c) = cs.map fun c => [c] :=
    List.map_congr_left fun c hc => if_pos (hplain c hc)
  rw [segment, if_neg (by simp [hdots]), List.flatMap_def, hchars, ← List.flatMap_def,
    List.flatMap_singleton']

/-- A segment stands as it is, or it holds an escape. -/
theorem segment_eq_or (cs : List Char) : segment cs = cs ∨ '%' ∈ segment cs := by
  cases hdots : cs == ['.'] || cs == ['.', '.'] with
  | true =>
    have hne : cs ≠ [] := by
      rintro rfl
      simp at hdots
    obtain ⟨c, rest, rfl⟩ := List.exists_cons_of_ne_nil hne
    rw [segment, if_pos hdots]
    exact .inr (List.mem_flatMap.mpr ⟨c, List.mem_cons_self, percent_mem_percentChar c⟩)
  | false =>
    by_cases hplain : ∀ c ∈ cs, isPlain c = true
    · exact .inl (segment_of_plain hdots hplain)
    · right
      obtain ⟨c, hc, hescaped⟩ : ∃ c ∈ cs, ¬ isPlain c = true := by simpa using hplain
      rw [segment, if_neg (by simp [hdots])]
      refine List.mem_flatMap.mpr ⟨c, hc, ?_⟩
      rw [if_neg hescaped]
      exact percent_mem_percentChar c

theorem segment_eq_nil_iff : segment cs = [] ↔ cs = [] := by
  constructor
  · intro h
    rcases segment_eq_or cs with hsame | hescape
    · exact hsame ▸ h
    · exact absurd (h ▸ hescape) List.not_mem_nil
  · rintro rfl
    rfl

theorem slash_not_mem_segment (h : '/' ∉ cs) : '/' ∉ segment cs := by
  unfold segment
  split
  · intro hmem
    obtain ⟨c, -, hc⟩ := List.mem_flatMap.mp hmem
    exact slash_not_mem_percentChar c hc
  · intro hmem
    obtain ⟨c, hcs, hc⟩ := List.mem_flatMap.mp hmem
    split at hc
    · exact h (List.mem_singleton.mp hc ▸ hcs)
    · exact slash_not_mem_percentChar c hc

/-- The escapes of a segment are read back. -/
theorem percentDecode_segment (cs : List Char) :
    Text.percentDecode (segment cs) = cs.flatMap String.utf8EncodeChar := by
  unfold segment
  split
  · exact Text.percentDecode_flatMap (fun _ => .inl rfl) cs
  · refine Text.percentDecode_flatMap (fun c => ?_) cs
    split
    · rename_i hplain
      refine .inr ⟨rfl, ?_⟩
      rintro rfl
      exact absurd hplain (by decide)
    · exact .inl rfl

theorem segment_injective {ds : List Char} (h : segment cs = segment ds) : cs = ds := by
  refine eq_of_flatMap_utf8 ?_
  rw [← percentDecode_segment, ← percentDecode_segment, h]

/-! ## Segments -/

theorem segments_join (a b : String) : segments (a ++ "/" ++ b) = segments a ++ segments b := by
  have hchars : (a ++ "/" ++ b).toList = a.toList ++ '/' :: b.toList := by simp
  unfold segments
  rw [hchars, Text.cut_eq_splitOn, List.splitOn_append_cons_self, List.filter_append,
    List.map_append, Text.cut_eq_splitOn, Text.cut_eq_splitOn]

/-- A text without a slash is one segment. -/
theorem segments_eq_singleton {s : String} (hne : s ≠ "") (hslash : '/' ∉ s.toList) :
    segments s = [String.ofList (segment s.toList)] := by
  have hcut : Text.cut '/' s.toList = [s.toList] := by
    rw [Text.cut_eq_splitOn]
    exact List.splitOn_eq_singleton hslash
  have hempty : s.toList.isEmpty = false := by simpa using hne
  simp [segments, hcut, hempty]

theorem mem_segments {path s : String} (h : s ∈ segments path) : s ≠ "" ∧ '/' ∉ s.toList := by
  obtain ⟨cs, hcs, rfl⟩ := List.mem_map.mp h
  obtain ⟨hcut, hne⟩ := List.mem_filter.mp hcs
  have hsegment : segment cs ≠ [] := by
    rw [Ne, segment_eq_nil_iff]
    simpa using hne
  rw [String.toList_ofList]
  exact ⟨by simpa using hsegment, slash_not_mem_segment (Text.not_mem_of_mem_cut hcut)⟩

/-- The segments are read back from the normal form. -/
theorem cut_normal (path : String) :
    (Text.cut '/' (normal path).toList).filter (!·.isEmpty) = (segments path).map String.toList := by
  have hparts : ∀ cs ∈ (segments path).map String.toList, cs ≠ [] ∧ '/' ∉ cs := by
    intro cs hcs
    obtain ⟨s, hs, rfl⟩ := List.mem_map.mp hcs
    obtain ⟨hne, hslash⟩ := mem_segments hs
    exact ⟨by simpa using hne, hslash⟩
  rw [normal, String.toList_intercalate, Text.cut_eq_splitOn]
  generalize (segments path).map String.toList = parts at hparts
  cases parts with
  | nil => simp
  | cons p ps =>
    rw [show "/".toList = ['/'] from rfl,
      List.splitOn_intercalate '/' (fun cs hcs => (hparts cs hcs).2) (List.cons_ne_nil p ps)]
    refine List.filter_eq_self.mpr fun cs hcs => ?_
    simpa using (hparts cs hcs).1

/-- Two paths name one object exactly when their segments agree. -/
theorem normal_eq_iff {a b : String} : normal a = normal b ↔ segments a = segments b := by
  constructor
  · intro h
    have hmap : (segments a).map String.toList = (segments b).map String.toList := by
      rw [← cut_normal, ← cut_normal, h]
    exact (List.map_inj_right fun _ _ => String.toList_inj.mp).mp hmap
  · intro h
    rw [normal, normal, h]

/-! ## Identifiers as segments -/

/-- The code points of letters and digits. -/
theorem toNat_of_isAlphanum {c : Char} (h : c.isAlphanum = true) :
    65 ≤ c.toNat ∧ c.toNat ≤ 90 ∨ 97 ≤ c.toNat ∧ c.toNat ≤ 122 ∨ 48 ≤ c.toNat ∧ c.toNat ≤ 57 := by
  have hclasses : (c.isUpper || c.isLower || c.isDigit) = true := h
  simp only [Bool.or_eq_true] at hclasses
  rcases hclasses with (hupper | hlower) | hdigit
  · exact .inl (of_decide_eq_true hupper)
  · obtain ⟨hfirst, hlast⟩ := Bool.and_eq_true_iff.mp hlower
    exact .inr (.inl ⟨of_decide_eq_true hfirst, of_decide_eq_true hlast⟩)
  · obtain ⟨hfirst, hlast⟩ := Bool.and_eq_true_iff.mp hdigit
    exact .inr (.inr ⟨of_decide_eq_true hfirst, of_decide_eq_true hlast⟩)

/-- Letters and digits need no escape. -/
theorem isPlain_of_isAlphanum {c : Char} (h : c.isAlphanum = true) : isPlain c = true := by
  have hreserved : c ∉ reserved := by
    intro hc
    have hnone : ∀ c ∈ reserved, c.isAlphanum = false := by simp [reserved]
    rw [hnone c hc] at h
    contradiction
  have hrange : 0x20 ≤ c.toNat ∧ c.toNat < 0x7F := by
    have hcode := toNat_of_isAlphanum h
    omega
  simp [isPlain, hrange, hreserved]

/-- A legacy identifier is a segment of its own. -/
theorem segments_legacyId {id : String} (h : isLegacyId id = true) : segments id = [id] := by
  obtain ⟨hlength, halnum⟩ := isLegacyId_iff.mp h
  have hne : id ≠ "" := by
    rintro rfl
    exact absurd hlength (by decide)
  have hslash : '/' ∉ id.toList := fun hmem => absurd (halnum _ hmem) (by decide)
  have hdots : (id.toList == ['.'] || id.toList == ['.', '.']) = false := by
    have hdot : '.' ∉ id.toList := fun hmem => absurd (halnum _ hmem) (by decide)
    rw [Bool.or_eq_false_iff]
    constructor
    · exact beq_eq_false_iff_ne.mpr fun heq => hdot (by simp [heq])
    · exact beq_eq_false_iff_ne.mpr fun heq => hdot (by simp [heq])
  rw [segments_eq_singleton hne hslash,
    segment_of_plain hdots fun c hc => isPlain_of_isAlphanum (halnum c hc), String.ofList_toList]

/-- The segment of another identifier is no legacy identifier. -/
theorem isLegacyId_segment {id : String} (h : isLegacyId id = false) :
    isLegacyId (String.ofList (segment id.toList)) = false := by
  rcases segment_eq_or id.toList with hsame | hescape
  · rw [hsame, String.ofList_toList, h]
  · rw [← Bool.not_eq_true, isLegacyId_iff, String.toList_ofList]
    rintro ⟨-, halnum⟩
    exact absurd (halnum _ hescape) (by decide)

end ObjectPath

/-! ## Places -/

namespace Layout

open ObjectPath (segments normal)

variable {layout : Layout} {tasks : List FileTask} {t t' : FileTask}

/-- The name of the object at the old path of a task. -/
def oldPlace (layout : Layout) (t : FileTask) : String :=
  normal (layout.old t.tenantId t.legacyId)

/-- The name of the object at the backup path of a task. -/
def backupPlace (layout : Layout) (t : FileTask) : String :=
  normal (layout.backup t.tenantId t.legacyId)

/-- The name of the object at the new path of a task. -/
def newPlace (layout : Layout) (t : FileTask) : String :=
  normal (layout.new t.newId)

theorem segments_old {tenant legacyId : String} (h : isLegacyId legacyId = true) :
    segments (layout.old tenant legacyId) =
      segments tenant ++ [legacyId] ++ segments layout.fileName := by
  rw [Layout.old, ObjectPath.segments_join, ObjectPath.segments_join,
    ObjectPath.segments_legacyId h]

theorem segments_backup {tenant legacyId : String} (h : isLegacyId legacyId = true) :
    segments (layout.backup tenant legacyId) =
      segments tenant ++ segments layout.backupSegment ++ [legacyId] ++
        segments layout.fileName := by
  rw [Layout.backup, ObjectPath.segments_join, ObjectPath.segments_join,
    ObjectPath.segments_join, ObjectPath.segments_legacyId h]

theorem segments_new {newId : String} (hne : newId ≠ "") (hslash : '/' ∉ newId.toList) :
    segments (layout.new newId) =
      segments layout.usersSegment ++ [String.ofList (ObjectPath.segment newId.toList)] ++
        segments layout.fileName := by
  rw [Layout.new, ObjectPath.segments_join, ObjectPath.segments_join,
    ObjectPath.segments_eq_singleton hne hslash]

/-- Paths that agree agree before the file name and in the segment before it. -/
theorem prefix_eq_of_normal_eq {a b : String} {p q file : List String} {x y : String}
    (h : normal a = normal b) (ha : segments a = p ++ [x] ++ file)
    (hb : segments b = q ++ [y] ++ file) : p = q ∧ x = y := by
  rw [ObjectPath.normal_eq_iff, ha, hb, List.append_cancel_right_eq] at h
  obtain ⟨hfront, hlast⟩ := List.append_inj' h rfl
  exact ⟨hfront, List.singleton_inj.mp hlast⟩

/-- What is promised of a file to move: its user's legacy identifier has the old shape, and the new
one is a segment of its own and has another shape. -/
structure Identifies (t : FileTask) : Prop where
  legacy : isLegacyId t.legacyId = true
  nonempty : t.newId ≠ ""
  slashless : '/' ∉ t.newId.toList
  fresh : isLegacyId t.newId = false

/-! ## Where places meet -/

/-- Old places meet where the identifiers agree and the tenants have the same segments. -/
theorem oldPlace_eq_iff (ht : isLegacyId t.legacyId = true) (ht' : isLegacyId t'.legacyId = true) :
    layout.oldPlace t = layout.oldPlace t' ↔
      t.legacyId = t'.legacyId ∧ segments t.tenantId = segments t'.tenantId := by
  constructor
  · intro heq
    obtain ⟨htenant, hid⟩ := prefix_eq_of_normal_eq heq (segments_old ht) (segments_old ht')
    exact ⟨hid, htenant⟩
  · rintro ⟨hid, htenant⟩
    rw [oldPlace, oldPlace, ObjectPath.normal_eq_iff, segments_old ht, segments_old ht', hid,
      htenant]

/-- Backups meet where old places do. -/
theorem backupPlace_eq_iff (ht : isLegacyId t.legacyId = true)
    (ht' : isLegacyId t'.legacyId = true) :
    layout.backupPlace t = layout.backupPlace t' ↔
      t.legacyId = t'.legacyId ∧ segments t.tenantId = segments t'.tenantId := by
  constructor
  · intro heq
    obtain ⟨htenant, hid⟩ := prefix_eq_of_normal_eq heq (segments_backup ht) (segments_backup ht')
    exact ⟨hid, List.append_cancel_right htenant⟩
  · rintro ⟨hid, htenant⟩
    rw [backupPlace, backupPlace, ObjectPath.normal_eq_iff, segments_backup ht,
      segments_backup ht', hid, htenant]

/-- An old place meets a backup where the tenant of the old place looks like the backup namespace of
the other one, for one identifier. -/
theorem oldPlace_eq_backupPlace_iff (ht : isLegacyId t.legacyId = true)
    (ht' : isLegacyId t'.legacyId = true) :
    layout.oldPlace t = layout.backupPlace t' ↔ t.legacyId = t'.legacyId ∧
      segments t.tenantId = segments t'.tenantId ++ segments layout.backupSegment := by
  constructor
  · intro heq
    obtain ⟨htenant, hid⟩ := prefix_eq_of_normal_eq heq (segments_old ht) (segments_backup ht')
    exact ⟨hid, htenant⟩
  · rintro ⟨hid, htenant⟩
    rw [oldPlace, backupPlace, ObjectPath.normal_eq_iff, segments_old ht, segments_backup ht', hid,
      htenant]

/-- The backup path of a file is longer than its old path. -/
theorem oldPlace_ne_backupPlace (ht : isLegacyId t.legacyId = true)
    (hbacked : segments layout.backupSegment ≠ []) :
    layout.oldPlace t ≠ layout.backupPlace t := by
  intro heq
  obtain ⟨-, htenant⟩ := (oldPlace_eq_backupPlace_iff ht ht).mp heq
  exact hbacked (List.append_right_eq_self.mp htenant.symm)

/-- A path with a legacy identifier before the file name is no new path. -/
theorem Identifies.newPlace_ne (h : Identifies t) (ht' : isLegacyId t'.legacyId = true)
    {path : String} {front : List String}
    (hpath : segments path = front ++ [t'.legacyId] ++ segments layout.fileName) :
    layout.newPlace t ≠ normal path := by
  intro heq
  obtain ⟨-, hid⟩ := prefix_eq_of_normal_eq heq (segments_new h.nonempty h.slashless) hpath
  have hlegacy := ObjectPath.isLegacyId_segment h.fresh
  rw [hid, ht'] at hlegacy
  contradiction

theorem Identifies.newPlace_ne_oldPlace (h : Identifies t) (h' : Identifies t') :
    layout.newPlace t ≠ layout.oldPlace t' :=
  h.newPlace_ne h'.legacy (segments_old h'.legacy)

theorem Identifies.newPlace_ne_backupPlace (h : Identifies t) (h' : Identifies t') :
    layout.newPlace t ≠ layout.backupPlace t' :=
  h.newPlace_ne h'.legacy (segments_backup h'.legacy)

/-- Users share a new place exactly when they share a new identifier. -/
theorem Identifies.newPlace_eq_iff (h : Identifies t) (h' : Identifies t') :
    layout.newPlace t = layout.newPlace t' ↔ t.newId = t'.newId := by
  constructor
  · intro heq
    obtain ⟨-, hsegment⟩ := prefix_eq_of_normal_eq heq (segments_new h.nonempty h.slashless)
      (segments_new h'.nonempty h'.slashless)
    exact String.toList_inj.mp (ObjectPath.segment_injective (String.ofList_injective hsegment))
  · intro hid
    rw [newPlace, newPlace, hid]

/-- The places of two files, whatever their tenants and the names in the layout. Old places and
backups of users with different legacy identifiers are apart, no new place is an old one or a
backup, a file and its backup stand apart, and new places are shared with new identifiers. -/
theorem places_apart (hbacked : segments layout.backupSegment ≠ []) (ht : Identifies t)
    (ht' : Identifies t') :
    (t.legacyId ≠ t'.legacyId →
      layout.oldPlace t ≠ layout.oldPlace t' ∧ layout.oldPlace t ≠ layout.backupPlace t' ∧
      layout.backupPlace t ≠ layout.oldPlace t' ∧
      layout.backupPlace t ≠ layout.backupPlace t') ∧
    layout.newPlace t ≠ layout.oldPlace t' ∧ layout.newPlace t ≠ layout.backupPlace t' ∧
    layout.oldPlace t ≠ layout.backupPlace t ∧
    (layout.newPlace t = layout.newPlace t' ↔ t.newId = t'.newId) := by
  refine ⟨fun hne => ⟨?_, ?_, ?_, ?_⟩, ht.newPlace_ne_oldPlace ht',
    ht.newPlace_ne_backupPlace ht', oldPlace_ne_backupPlace ht.legacy hbacked,
    ht.newPlace_eq_iff ht'⟩
  · intro heq
    exact hne ((oldPlace_eq_iff ht.legacy ht'.legacy).mp heq).1
  · intro heq
    exact hne ((oldPlace_eq_backupPlace_iff ht.legacy ht'.legacy).mp heq).1
  · intro heq
    exact hne ((oldPlace_eq_backupPlace_iff ht'.legacy ht.legacy).mp heq.symm).1.symm
  · intro heq
    exact hne ((backupPlace_eq_iff ht.legacy ht'.legacy).mp heq).1

/-- A tenant who is named like the backup namespace of another, new identifiers that are named like
a tenant and like a namespace, empty segments and no file name. -/
theorem places_apart_nested :
    let layout : Layout := ⟨"", "admin", "//backup/", "t1"⟩
    let t : FileTask := ⟨"Ada0000000000000000000000001", "backup", "t1/backup"⟩
    let t' : FileTask := ⟨"Ada0000000000000000000000002", "t1", "/t1"⟩
    segments layout.backupSegment ≠ [] ∧ Identifies t ∧ Identifies t' ∧
      layout.oldPlace t = "t1/backup/Ada0000000000000000000000001" ∧
      layout.backupPlace t' = "t1/backup/Ada0000000000000000000000002" ∧
      layout.newPlace t = "t1/backup" ∧ layout.newPlace t' = "t1/t1" ∧
      layout.oldPlace t ≠ layout.backupPlace t' ∧ layout.newPlace t ≠ layout.oldPlace t' ∧
      layout.newPlace t ≠ layout.newPlace t' := by
  intro layout t t'
  have hbacked : segments layout.backupSegment ≠ [] := by decide +kernel
  have ht : Identifies t := ⟨by decide, by decide, by decide, by decide⟩
  have ht' : Identifies t' := ⟨by decide, by decide, by decide, by decide⟩
  obtain ⟨hdifferent, hnew, -, -, hshared⟩ := places_apart hbacked ht ht'
  refine ⟨hbacked, ht, ht', by decide +kernel, by decide +kernel, by decide +kernel,
    by decide +kernel, (hdifferent (by decide)).2.1, hnew, ?_⟩
  rw [Ne, hshared]
  decide

/-! ## All files of a phase -/

/-- What is promised of the files to move: their users have different legacy identifiers, new
identifiers are segments of their own and not legacy-shaped, and backups have a segment. -/
structure Separates (layout : Layout) (tasks : List FileTask) : Prop where
  distinct : (tasks.map FileTask.legacyId).Nodup
  legacy : ∀ t ∈ tasks, isLegacyId t.legacyId = true
  fresh : ∀ t ∈ tasks, t.newId ≠ "" ∧ '/' ∉ t.newId.toList ∧ isLegacyId t.newId = false
  backed : segments layout.backupSegment ≠ []

/-- The places of the tasks do not meet, but for new places of users who share an identifier. -/
structure Apart (layout : Layout) (tasks : List FileTask) : Prop where
  old_ne_backup : ∀ t ∈ tasks, ∀ t' ∈ tasks, layout.oldPlace t ≠ layout.backupPlace t'
  new_ne_old : ∀ t ∈ tasks, ∀ t' ∈ tasks, layout.newPlace t ≠ layout.oldPlace t'
  new_ne_backup : ∀ t ∈ tasks, ∀ t' ∈ tasks, layout.newPlace t ≠ layout.backupPlace t'
  old_injective : ∀ t ∈ tasks, ∀ t' ∈ tasks, layout.oldPlace t = layout.oldPlace t' → t = t'
  backup_injective :
    ∀ t ∈ tasks, ∀ t' ∈ tasks, layout.backupPlace t = layout.backupPlace t' → t = t'

theorem Separates.identifies (h : layout.Separates tasks) (ht : t ∈ tasks) : Identifies t := by
  obtain ⟨hne, hslash, hfresh⟩ := h.fresh t ht
  exact ⟨h.legacy t ht, hne, hslash, hfresh⟩

/-- Users share a new place exactly when they share a new identifier. -/
theorem Separates.newPlace_eq_iff (h : layout.Separates tasks) (ht : t ∈ tasks) (ht' : t' ∈ tasks) :
    layout.newPlace t = layout.newPlace t' ↔ t.newId = t'.newId :=
  (h.identifies ht).newPlace_eq_iff (h.identifies ht')

theorem Separates.apart (h : layout.Separates tasks) : layout.Apart tasks where
  old_ne_backup t ht t' ht' heq := by
    have hid := ((oldPlace_eq_backupPlace_iff (h.legacy t ht) (h.legacy t' ht')).mp heq).1
    obtain rfl : t = t' := List.inj_on_of_nodup_map h.distinct ht ht' hid
    exact oldPlace_ne_backupPlace (h.legacy t ht) h.backed heq
  new_ne_old t ht t' ht' := (h.identifies ht).newPlace_ne_oldPlace (h.identifies ht')
  new_ne_backup t ht t' ht' := (h.identifies ht).newPlace_ne_backupPlace (h.identifies ht')
  old_injective t ht t' ht' heq := by
    have hid := ((oldPlace_eq_iff (h.legacy t ht) (h.legacy t' ht')).mp heq).1
    exact List.inj_on_of_nodup_map h.distinct ht ht' hid
  backup_injective t ht t' ht' heq := by
    have hid := ((backupPlace_eq_iff (h.legacy t ht) (h.legacy t' ht')).mp heq).1
    exact List.inj_on_of_nodup_map h.distinct ht ht' hid

end Layout

end Rekey
