import Rekey.Proofs.Campaign.Reachable
import Rekey.Proofs.Columns.Index
import Rekey.Proofs.Files.Paths
import Rekey.Proofs.Users.Result

/-!
# Looking mappings up

An identifier names the mappings that carry it as their legacy identifier or as their email, and a
lookup answers the latest of them. A user is therefore found under the own legacy identifier unless
that text is also the email of a user who was migrated later.
-/

namespace Rekey

open Rekey.Text (trim isBlankText isBlank)

namespace Mapping

/-- The order in which lookups prefer mappings: the later one, of equally old ones the one with the
greater legacy identifier. -/
def cmp : Mapping → Mapping → Ordering :=
  compareLex (compareOn migratedAt) (compareOn legacyId)

instance transCmp : Std.TransCmp cmp :=
  inferInstanceAs (Std.TransCmp (compareLex (compareOn migratedAt) (compareOn legacyId)))

/-- An identifier names a mapping by its legacy identifier or by its email. -/
def IsNamed (identifier : String) (m : Mapping) : Prop :=
  m.legacyId = identifier ∨ m.email = identifier

theorem legacyId_eq_of_cmp {m m' : Mapping} (h : (cmp m m').isLE = true)
    (h' : (cmp m' m).isLE = true) : m.legacyId = m'.legacyId := by
  have heq : cmp m m' = .eq := Std.OrientedCmp.isLE_antisymm h h'
  have hids : compare m.legacyId m'.legacyId = .eq := (Ordering.then_eq_eq.mp heq).2
  exact Std.LawfulEqOrd.eq_of_compare hids

/-- What is not after `b` is not after a mapping with a greater legacy identifier that is at least
as late as `b`. -/
theorem isLE_cmp_of_le {m b x : Mapping} (hm : (cmp m b).isLE = true)
    (hlater : Timestamp.le b.migratedAt x.migratedAt = true)
    (hid : compare m.legacyId x.legacyId = .lt) : (cmp m x).isLE = true := by
  have hfirst : (compare m.migratedAt b.migratedAt).isLE = true :=
    Ordering.isLE_left_of_isLE_then hm
  have hsecond : (compare b.migratedAt x.migratedAt).isLE = true := hlater
  have htime := Std.TransCmp.isLE_trans hfirst hsecond
  show ((compare m.migratedAt x.migratedAt).then (compare m.legacyId x.legacyId)).isLE = true
  rw [hid]
  cases hcmp : compare m.migratedAt x.migratedAt <;> simp_all

/-- A mapping that is earlier comes first. -/
theorem isLE_cmp_of_not_later {m m' : Mapping}
    (h : ¬ Timestamp.le m'.migratedAt m.migratedAt = true) : (cmp m m').isLE = true := by
  have hlt : compare m.migratedAt m'.migratedAt = .lt := by
    rw [← Std.OrientedCmp.gt_iff_lt]
    have hgt : ¬ (compare m'.migratedAt m.migratedAt).isLE = true := h
    simpa using hgt
  show ((compare m.migratedAt m'.migratedAt).then _).isLE = true
  rw [hlt]
  rfl

end Mapping

namespace MemoryTables

variable {s : MemoryTables} {ms : List Mapping} {identifier : String} {m m' : Mapping}

/-- `m` is the latest of the mappings in the store that an identifier names. -/
structure IsLatest (s : MemoryTables) (identifier : String) (m : Mapping) : Prop where
  stored : ∃ k : String, s.mappings[k]? = some m
  named : m.IsNamed identifier
  latest : ∀ (k : String) (m' : Mapping), s.mappings[k]? = some m' → m'.IsNamed identifier →
    (m'.cmp m).isLE = true

/-- Going through mappings in the order of their legacy identifiers ends at the greatest one. -/
theorem foldl_laterMapping
    (hsorted : ms.Pairwise fun m m' => compare m.legacyId m'.legacyId = .lt) :
    ms = [] ∨ ∃ m ∈ ms, ms.foldl laterMapping none = some m ∧
      ∀ m' ∈ ms, (m'.cmp m).isLE = true := by
  induction ms using List.reverseRecOn with
  | nil => exact .inl rfl
  | append_singleton ms x ih =>
    obtain ⟨hinit, -, hlast⟩ := List.pairwise_append.mp hsorted
    have hx : ∀ m ∈ ms, compare m.legacyId x.legacyId = .lt := fun m hm => hlast m hm x (by simp)
    rw [List.foldl_concat]
    right
    rcases ih hinit with rfl | ⟨b, hb, hfold, hgreatest⟩
    · exact ⟨x, by simp, rfl, by simp [Std.ReflCmp.compare_self]⟩
    rw [hfold]
    dsimp only [laterMapping]
    split
    · -- the last mapping is not earlier than the best one so far, and its identifier is greater
      rename_i hlater
      refine ⟨x, by simp, rfl, fun m' hm' => ?_⟩
      rcases List.mem_append.mp hm' with hold | hnew
      · exact Mapping.isLE_cmp_of_le (hgreatest m' hold) hlater (hx m' hold)
      · obtain rfl := List.mem_singleton.mp hnew
        simp [Std.ReflCmp.compare_self]
    · rename_i hearlier
      refine ⟨b, List.mem_append_left _ hb, rfl, fun m' hm' => ?_⟩
      rcases List.mem_append.mp hm' with hold | hnew
      · exact hgreatest m' hold
      · obtain rfl := List.mem_singleton.mp hnew
        exact Mapping.isLE_cmp_of_not_later hearlier

/-- The mappings of a consistent store stand in the order of their legacy identifiers. -/
theorem Consistent.values_sorted (h : s.Consistent) :
    s.mappings.values.Pairwise fun m m' => compare m.legacyId m'.legacyId = .lt := by
  rw [values_eq_map_toList, List.pairwise_map]
  refine Std.ExtTreeMap.ordered_keys_toList.imp_of_mem ?_
  rintro ⟨k, m⟩ ⟨k', m'⟩ hm hm' hlt
  rw [(h.mapping k m (Std.ExtTreeMap.mem_toList_iff_getElem?_eq_some.mp hm)).1,
    (h.mapping k' m' (Std.ExtTreeMap.mem_toList_iff_getElem?_eq_some.mp hm')).1]
  exact hlt

/-- A lookup in a consistent store answers the latest mapping that the identifier names, and nothing
exactly if it names none. -/
theorem Consistent.latestMapping_cases (h : s.Consistent) (identifier : String) :
    (s.latestMapping identifier = none ∧
        ∀ (k : String) (m : Mapping), s.mappings[k]? = some m → ¬ m.IsNamed identifier) ∨
      ∃ m, s.latestMapping identifier = some m ∧ s.IsLatest identifier m := by
  have hnamed : ∀ m, m ∈ s.mappings.values.filter
      (fun m => m.legacyId == identifier || m.email == identifier) ↔
        (∃ k : String, s.mappings[k]? = some m) ∧ m.IsNamed identifier := by
    intro m
    rw [List.mem_filter, mem_values_iff, Mapping.IsNamed]
    simp
  rcases foldl_laterMapping (h.values_sorted.filter _) with hnil | ⟨m, hm, hfold, hgreatest⟩
  · refine .inl ⟨by rw [latestMapping, hnil]; rfl, fun k m hm hname => ?_⟩
    have hmem := (hnamed m).mpr ⟨⟨k, hm⟩, hname⟩
    rw [hnil] at hmem
    contradiction
  · obtain ⟨hstored, hname⟩ := (hnamed m).mp hm
    exact .inr ⟨m, hfold, hstored, hname, fun k m' hm' hname' =>
      hgreatest m' ((hnamed m').mpr ⟨⟨k, hm'⟩, hname'⟩)⟩

end MemoryTables

/-- A legacy identifier holds no white space. -/
theorem trim_legacyId {id : String} (h : isLegacyId id = true) : trim id = id := by
  refine Text.trim_of_unblank fun c hc => ?_
  have hcode := ObjectPath.toNat_of_isAlphanum ((isLegacyId_iff.mp h).2 c hc)
  simp only [isBlank, Bool.or_eq_false_iff, Bool.and_eq_false_iff, decide_eq_false_iff_not,
    beq_eq_false_iff_ne]
  omega

variable {φ : Type} {i : Interference φ} {c : Campaign (World φ) Transaction} {w : World φ}

/-- A lookup that is not made to fail answers by the trimmed identifier and leaves the store
alone. -/
theorem lookup_ends (hstore : c.store = Rehearsal.store i) (hready : c.ready = true)
    (hpass : (i.fails .latestMapping none w.mind).1 = false) (identifier : String) :
    Ends (c.lookup identifier) (.start w) fun r run => run.world.store = w.store ∧
      r = match w.store.latestMapping (trim identifier) with
        | none => .error (.notFound (.mapping (trim identifier)))
        | some m => .ok m := by
  unfold Campaign.lookup
  rw [if_pos hready, hstore, ends_bind, ends_call]
  refine (Rehearsal.ends_query_of_passes hpass).mono ?_
  rintro _ _ ⟨rfl, rfl⟩
  cases w.store.latestMapping (trim identifier) <;> exact ⟨rfl, rfl⟩

/-- Look a mapping of a reachable store up under its own legacy identifier, with any white space
around it. There is always an answer: the latest mapping that carries the identifier, be it as its
email. This is the mapping itself exactly if none with the identifier as its email comes after
it. -/
theorem lookup_legacyId (h : Reached w) (hstore : c.store = Rehearsal.store i)
    (hready : c.ready = true) (hpass : (i.fails .latestMapping none w.mind).1 = false)
    {k before after : String} {m : Mapping} (hm : w.store.mappings[k]? = some m)
    (hbefore : isBlankText before = true) (hafter : isBlankText after = true) :
    Ends (c.lookup (before ++ m.legacyId ++ after)) (.start w) fun r run =>
      run.world.store = w.store ∧
        (∃ found, r = .ok found ∧ w.store.IsLatest m.legacyId found) ∧
        (r = .ok m ↔ ∀ (k' : String) (m' : Mapping), w.store.mappings[k']? = some m' →
          m'.email = m.legacyId → (m'.cmp m).isLE = true) := by
  have hcons := h.consistent
  obtain ⟨hkey, hlegacy, -⟩ := hcons.mapping k m hm
  have htrim : trim (before ++ m.legacyId ++ after) = m.legacyId := by
    rw [Text.trim_padded hbefore hafter, trim_legacyId (hkey ▸ hlegacy)]
  refine (lookup_ends hstore hready hpass _).mono ?_
  rintro _ run ⟨hsame, rfl⟩
  rw [htrim]
  rcases hcons.latestMapping_cases m.legacyId with ⟨-, hnone⟩ | ⟨found, hfound, hlatest⟩
  · -- the identifier names at least the mapping itself
    exact absurd (.inl rfl) (hnone k m hm)
  rw [hfound]
  refine ⟨hsame, ⟨found, rfl, hlatest⟩, ?_⟩
  constructor
  · intro heq k' m' hm' hemail
    obtain rfl := Except.ok.inj heq
    exact hlatest.latest k' m' hm' (.inr hemail)
  · intro hbefore
    obtain ⟨k', hk'⟩ := hlatest.stored
    -- whichever way the answer is named, its legacy identifier is the one looked up
    have hid : found.legacyId = m.legacyId := by
      rcases hlatest.named with hid | hemail
      · exact hid
      · exact Mapping.legacyId_eq_of_cmp (hbefore k' found hk' hemail)
          (hlatest.latest k m hm (.inl rfl))
    rw [← (hcons.mapping k' found hk').1, hid, hkey, hm] at hk'
    rw [Option.some.inj hk']

namespace Rehearsal

/-- A user whose email is the legacy identifier of another one. -/
def Stage.namesake : LegacyUser :=
  { Stage.ada with
    legacyId := "Grace00000000000000000000001"
    email := Stage.ada.legacyId }

/-- A stage after one user was migrated. -/
def Stage.afterMigrating (w : Stage) (u : LegacyUser) : Stage :=
  (Stage.campaign.perform (.migrateById u.legacyId) (.start w)).2.world

/-- A stage after its users were migrated one by one. -/
def Stage.migrated (users : List LegacyUser) : Stage :=
  users.foldl Stage.afterMigrating (.ofUsers users)

theorem Stage.reached_afterMigrating {w : Stage} (h : Reached w) (u : LegacyUser) :
    Reached (w.afterMigrating u) := by
  unfold Stage.afterMigrating
  with_reducible exact .operation Stage.serves_campaign (.migrateById u.legacyId) h

theorem Stage.reached_migrated (users : List LegacyUser) : Reached (Stage.migrated users) := by
  have hkept : ∀ (rest : List LegacyUser) (w : Stage), Reached w →
      Reached (rest.foldl Stage.afterMigrating w) := by
    intro rest
    induction rest with
    | nil => exact fun _ h => h
    | cons u rest ih =>
      intro w h
      rw [List.foldl_cons]
      exact ih _ (Stage.reached_afterMigrating h u)
  exact hkept users _ (.fresh rfl rfl)

end Rehearsal

open Rehearsal in
/-- A namesake who was migrated before the user does not hide the user. -/
theorem lookup_legacyId_stage :
    let w := Stage.migrated [Stage.namesake, Stage.ada]
    Reached w ∧ w.store.mappings.size = 2 ∧
      ∃ m, w.store.mappings[Stage.ada.legacyId]? = some m ∧
        (Stage.campaign.lookup ("\t" ++ m.legacyId ++ " \n") (.start w)).1 = .ok m := by
  intro w
  have hreached : Reached w := Stage.reached_migrated _
  have hstored : (w.store.mappings[Stage.ada.legacyId]?).isSome := by decide +kernel
  obtain ⟨m, hm⟩ := Option.isSome_iff_exists.mp hstored
  have htab : isBlankText "\t" = true := by decide +kernel
  have hline : isBlankText " \n" = true := by decide +kernel
  have hend := lookup_legacyId (i := Script.interference) (c := Stage.campaign) hreached rfl rfl
    (by decide +kernel) hm htab hline
  refine ⟨hreached, by decide +kernel, m, hm, hend.2.2.mpr fun k' m' hm' hemail => ?_⟩
  have hall : ∀ m' ∈ w.store.mappings.values, ∀ m ∈ w.store.mappings[Stage.ada.legacyId]?,
      m'.email = m.legacyId → (m'.cmp m).isLE = true := by decide +kernel
  exact hall m' (mem_values_iff.mpr ⟨k', hm'⟩) m hm hemail

open Rehearsal in
/-- A namesake who was migrated after the user hides the user: the lookup of the user's legacy
identifier finds the mapping of the namesake. -/
theorem lookup_legacyId_ne :
    let w := Stage.migrated [Stage.ada, Stage.namesake]
    let r := (Stage.campaign.lookup Stage.ada.legacyId (.start w)).1
    Reached w ∧ ∃ m, w.store.mappings[Stage.ada.legacyId]? = some m ∧
      m.legacyId = Stage.ada.legacyId ∧ r ≠ .ok m ∧
      (r.map Mapping.legacyId).toOption = some Stage.namesake.legacyId := by
  intro w r
  have hfound : (r.map Mapping.legacyId).toOption = some Stage.namesake.legacyId := by
    decide +kernel
  have hstored : (w.store.mappings[Stage.ada.legacyId]?).map Mapping.legacyId =
      some Stage.ada.legacyId := by decide +kernel
  obtain ⟨m, hm, hid⟩ := Option.map_eq_some_iff.mp hstored
  refine ⟨Stage.reached_migrated _, m, hm, hid, fun heq => ?_, hfound⟩
  rw [heq] at hfound
  have hsame : Stage.ada.legacyId = Stage.namesake.legacyId := hid ▸ Option.some.inj hfound
  exact absurd hsame (by decide)

end Rekey
