import Rekey.Proofs.Campaign.Lookup

/-!
# Lookups beside the list of mappings

The list of mappings and a lookup prefer later mappings, but order equally late ones by opposite
ends of their legacy identifiers. So a lookup answers the last of those rows of the list that the
identifier names and that are as late as the first of them. It is the first one itself unless
another is equally late.
-/

namespace Rekey

open Rekey.Text (trim)

instance : Std.LawfulEqOrd Timestamp where
  eq_of_compare {t t'} h := by
    obtain ⟨hseconds, hnanos⟩ := Ordering.then_eq_eq.mp h
    exact congr (congrArg Timestamp.mk (Std.LawfulEqOrd.eq_of_compare hseconds))
      (Std.LawfulEqOrd.eq_of_compare hnanos)

namespace Mapping

variable {m m' : Mapping} {identifier : String}

instance : Decidable (m.IsNamed identifier) :=
  inferInstanceAs (Decidable (_ ∨ _))

/-- The order of the list: the later one, of equally late ones the one with the smaller legacy
identifier. -/
def cmpListed (m m' : Mapping) : Ordering :=
  compareLex (fun m m' => compareOn migratedAt m' m) (compareOn legacyId) m m'

instance transCmpListed : Std.TransCmp cmpListed := by
  unfold cmpListed
  infer_instance

theorem le_trans (m m' m'' : Mapping) (h : le m m' = true) (h' : le m' m'' = true) :
    le m m'' = true := by
  have hfirst : (cmpListed m m').isLE = true := h
  have hsecond : (cmpListed m' m'').isLE = true := h'
  exact transCmpListed.isLE_trans hfirst hsecond

theorem le_total (m m' : Mapping) : (le m m' || le m' m) = true := by
  have hswap : cmpListed m m' = (cmpListed m' m).swap := transCmpListed.eq_swap
  show ((cmpListed m m').isLE || (cmpListed m' m).isLE) = true
  rw [hswap]
  cases cmpListed m' m <;> rfl

/-- A lookup prefers a mapping that the list does not show after another only if it is as late. -/
theorem migratedAt_eq_of_le (hle : le m m' = true) (hcmp : (m.cmp m').isLE = true) :
    m.migratedAt = m'.migratedAt := by
  have hdown : (compare m'.migratedAt m.migratedAt).isLE = true :=
    Ordering.isLE_left_of_isLE_then hle
  have hup : (compare m.migratedAt m'.migratedAt).isLE = true :=
    Ordering.isLE_left_of_isLE_then hcmp
  exact Std.LawfulEqOrd.eq_of_compare (Std.OrientedCmp.isLE_antisymm hup hdown)

/-- Of two equally late mappings the list shows first the one that a lookup does not prefer. -/
theorem legacyId_eq_of_le (htime : m.migratedAt = m'.migratedAt) (hle : le m' m = true)
    (hcmp : (m.cmp m').isLE = true) : m.legacyId = m'.legacyId := by
  have hself : compare m'.migratedAt m'.migratedAt = .eq := Std.ReflCmp.compare_self
  have hdown : ((compare m.migratedAt m'.migratedAt).then
      (compare m'.legacyId m.legacyId)).isLE = true := hle
  have hup : ((compare m.migratedAt m'.migratedAt).then
      (compare m.legacyId m'.legacyId)).isLE = true := hcmp
  rw [htime, hself] at hdown hup
  exact Std.LawfulEqOrd.eq_of_compare (Std.OrientedCmp.isLE_antisymm hup hdown)

end Mapping

/-! ## The rows that an identifier names -/

/-- How a lookup answers by the rows of a list that the identifier names. -/
structure AnswersFrom (rows : List Mapping) (identifier : String) (r : Except Failure Mapping) :
    Prop where
  /-- Nothing is found exactly if there are no rows. -/
  missing : r = .error (.notFound (.mapping identifier)) ↔ rows = []
  /-- Found is the last of the rows that are as late as the first one; those behind it are not. -/
  last : ∀ first rest, rows = first :: rest → ∃ before found after,
    rows = before ++ found :: after ∧ r = .ok found ∧ found.migratedAt = first.migratedAt ∧
      (∀ m ∈ before, m.migratedAt = first.migratedAt) ∧
      ∀ m ∈ after, m.migratedAt ≠ first.migratedAt
  /-- The first row itself is found exactly if it alone is that late. -/
  first : ∀ first rest, rows = first :: rest →
    (r = .ok first ↔ ∀ m ∈ rest, m.migratedAt ≠ first.migratedAt)

namespace MemoryTables

variable {s : MemoryTables} {identifier : String} {found : Mapping}

/-- The rows of the list that an identifier names. -/
def namedRows (s : MemoryTables) (identifier : String) : List Mapping :=
  s.mappingsByAge.filter (·.IsNamed identifier)

theorem mem_namedRows {m : Mapping} :
    m ∈ s.namedRows identifier ↔
      (∃ k : String, s.mappings[k]? = some m) ∧ m.IsNamed identifier := by
  rw [namedRows, List.mem_filter, mem_mappingsByAge, decide_eq_true_iff]

theorem mappingsByAge_sorted (s : MemoryTables) :
    s.mappingsByAge.Pairwise fun m m' => Mapping.le m m' = true :=
  List.pairwise_mergeSort Mapping.le_trans Mapping.le_total _

theorem Consistent.mappingsByAge_distinct (h : s.Consistent) :
    s.mappingsByAge.Pairwise fun m m' => m.legacyId ≠ m'.legacyId := by
  have hvalues : s.mappings.values.Pairwise fun m m' => m.legacyId ≠ m'.legacyId :=
    h.values_sorted.imp fun hlt heq => by
      rw [heq, Std.ReflOrd.compare_self] at hlt
      contradiction
  exact ((List.mergeSort_perm _ _).pairwise_iff fun hne => hne.symm).mpr hvalues

/-- The latest mapping that an identifier names stands in the list behind equally late rows and
before earlier ones. -/
theorem Consistent.latest_among_rows (h : s.Consistent) (hlatest : s.IsLatest identifier found) :
    ∃ before after, s.namedRows identifier = before ++ found :: after ∧
      (∀ m ∈ before, m.migratedAt = found.migratedAt ∧ m.legacyId ≠ found.legacyId) ∧
      ∀ m ∈ after, m.migratedAt ≠ found.migratedAt := by
  have hmem := mem_namedRows.mpr ⟨hlatest.stored, hlatest.named⟩
  obtain ⟨before, after, hrows⟩ := List.append_of_mem hmem
  have hcmp : ∀ m ∈ before ++ found :: after, (m.cmp found).isLE = true := by
    intro m hm
    obtain ⟨⟨k, hk⟩, hname⟩ := mem_namedRows.mp (hrows ▸ hm)
    exact hlatest.latest k m hk hname
  have hsorted := s.mappingsByAge_sorted.filter fun m => decide (m.IsNamed identifier)
  have hdistinct := h.mappingsByAge_distinct.filter fun m => decide (m.IsNamed identifier)
  rw [show s.mappingsByAge.filter _ = _ from hrows] at hsorted hdistinct
  obtain ⟨-, hfoundSorted, hbeforeSorted⟩ := List.pairwise_append.mp hsorted
  obtain ⟨-, hfoundDistinct, hbeforeDistinct⟩ := List.pairwise_append.mp hdistinct
  refine ⟨before, after, hrows, fun m hm => ?_, fun m hm htime => ?_⟩
  -- the list puts `m` first and the lookup prefers the other, so their times are equal
  · exact ⟨Mapping.migratedAt_eq_of_le (hbeforeSorted m hm found List.mem_cons_self)
      (hcmp m (List.mem_append_left _ hm)), hbeforeDistinct m hm found List.mem_cons_self⟩
  -- equally late behind the answer: list and lookup agree on the pair only if it is one row
  · have hid := Mapping.legacyId_eq_of_le htime (List.rel_of_pairwise_cons hfoundSorted hm)
      (hcmp m (List.mem_append_right _ (List.mem_cons_of_mem _ hm)))
    exact List.rel_of_pairwise_cons hfoundDistinct hm hid.symm

/-- The latest mapping comes first among the rows exactly if no other is as late. -/
theorem Consistent.answersFrom (h : s.Consistent) (identifier : String) :
    AnswersFrom (s.namedRows identifier) identifier
      (match s.latestMapping identifier with
        | none => .error (.notFound (.mapping identifier))
        | some m => .ok m) := by
  rcases h.latestMapping_cases identifier with ⟨hnone, hunnamed⟩ | ⟨found, hfound, hlatest⟩
  · rw [hnone]
    have hrows : s.namedRows identifier = [] := List.eq_nil_iff_forall_not_mem.mpr fun m hm => by
      obtain ⟨⟨k, hk⟩, hname⟩ := mem_namedRows.mp hm
      exact hunnamed k m hk hname
    rw [hrows]
    exact ⟨⟨fun _ => rfl, fun _ => rfl⟩, nofun, nofun⟩
  rw [hfound]
  obtain ⟨before, after, hrows, hbefore, hafter⟩ := h.latest_among_rows hlatest
  rw [hrows]
  refine ⟨⟨nofun, fun hnil => by simp at hnil⟩, fun first rest hfirst => ?_,
    fun first rest hfirst => ?_⟩
  · have htime : found.migratedAt = first.migratedAt := by
      cases before with
      | nil => rw [(List.cons.inj hfirst).1]
      | cons b before =>
        obtain rfl := (List.cons.inj hfirst).1
        exact (hbefore b List.mem_cons_self).1.symm
    rw [← htime]
    exact ⟨before, found, after, rfl, rfl, rfl, fun m hm => (hbefore m hm).1, hafter⟩
  · cases before with
    | nil =>
      obtain ⟨rfl, rfl⟩ := List.cons.inj hfirst
      exact ⟨fun _ => hafter, fun _ => rfl⟩
    | cons b before =>
      obtain ⟨rfl, rfl⟩ := List.cons.inj hfirst
      obtain ⟨htime, hid⟩ := hbefore b List.mem_cons_self
      refine ⟨fun heq => ?_, fun hearlier => ?_⟩
      · exact absurd (congrArg Mapping.legacyId (Except.ok.inj heq)).symm hid
      · have hlast : found ∈ before ++ found :: after := List.mem_append_right _ List.mem_cons_self
        exact absurd htime.symm (hearlier found hlast)

end MemoryTables

/-! ## Lookups beside lists -/

variable {φ : Type} {i : Interference φ} {c : Campaign (World φ) Transaction} {w w' : World φ}

/-- A list that is not made to fail shows all mappings of the store and leaves it alone. -/
theorem list_ends (hstore : c.store = Rehearsal.store i) (hready : c.ready = true)
    (hpass : (i.fails .mappingsByAge none w.mind).1 = false) :
    Ends c.list (.start w) fun r run =>
      run.world.store = w.store ∧ r = .ok w.store.mappingsByAge := by
  unfold Campaign.list
  rw [if_pos hready, hstore, ends_bind, ends_call]
  refine (Rehearsal.ends_query_of_passes hpass).mono ?_
  rintro _ _ ⟨rfl, rfl⟩
  exact ⟨rfl, rfl⟩

/-- A list and a lookup of one reachable store agree in what is there. The lookup answers the last
of the rows that the identifier names and that are as late as the first of them, so it answers the
first one exactly if no other is as late. -/
theorem lookup_beside_list (h : Reached w) (hsame : w'.store = w.store)
    (hstore : c.store = Rehearsal.store i) (hready : c.ready = true)
    (hlist : (i.fails .mappingsByAge none w.mind).1 = false)
    (hlookup : (i.fails .latestMapping none w'.mind).1 = false) (identifier : String) :
    Ends c.list (.start w) fun listed run => run.world.store = w.store ∧
      ∃ ms, listed = .ok ms ∧
        Ends (c.lookup identifier) (.start w') fun r run' => run'.world.store = w.store ∧
          AnswersFrom (ms.filter (·.IsNamed (trim identifier))) (trim identifier) r := by
  refine (list_ends hstore hready hlist).mono ?_
  rintro _ run ⟨hkept, rfl⟩
  refine ⟨hkept, _, rfl, (lookup_ends hstore hready hlookup identifier).mono ?_⟩
  rintro _ run' ⟨hkept', rfl⟩
  rw [hsame]
  exact ⟨hkept'.trans hsame, h.consistent.answersFrom (trim identifier)⟩

/-- Mappings that stand in the order of the list as they are. -/
theorem list_of_sorted (hstore : c.store = Rehearsal.store i) (hready : c.ready = true)
    (hpass : (i.fails .mappingsByAge none w.mind).1 = false)
    (hsorted : w.store.mappings.values.Pairwise fun m m' => Mapping.le m m' = true) :
    (c.list (.start w)).1 = .ok w.store.mappings.values :=
  (list_ends hstore hready hpass).2.trans (congrArg _ (List.mergeSort_of_pairwise hsorted))

open Rehearsal in
/-- Of two accounts with one email the later one is listed first and found. -/
theorem lookup_beside_list_stage :
    let w := Stage.migrated [Stage.adaAgain, Stage.ada]
    Reached w ∧ ∃ first rest, (Stage.campaign.list (.start w)).1 = .ok (first :: rest) ∧
      first.legacyId = Stage.ada.legacyId ∧ rest.length = 1 ∧
      (Stage.campaign.lookup Stage.ada.email (.start w)).1 = .ok first := by
  intro w
  obtain ⟨hlist, hlookup, hsorted, hids, hnamed, hearlier⟩ :
      (Script.interference.fails .mappingsByAge none w.mind).1 = false ∧
      (Script.interference.fails .latestMapping none w.mind).1 = false ∧
      (w.store.mappings.values.Pairwise fun m m' => Mapping.le m m' = true) ∧
      w.store.mappings.values.map Mapping.legacyId =
        [Stage.ada.legacyId, Stage.adaAgain.legacyId] ∧
      (∀ m ∈ w.store.mappings.values, decide (m.IsNamed (trim Stage.ada.email)) = true) ∧
      ∀ first ∈ w.store.mappings.values.head?, ∀ m ∈ w.store.mappings.values.tail,
        m.migratedAt ≠ first.migratedAt := by decide +kernel
  have hreached : Reached w := Stage.reached_migrated _
  obtain ⟨-, ms, hlisted, -, hrows⟩ := lookup_beside_list (i := Script.interference)
    (c := Stage.campaign) hreached rfl rfl rfl hlist hlookup Stage.ada.email
  have hvalues := list_of_sorted (i := Script.interference) (c := Stage.campaign) rfl rfl hlist
    hsorted
  obtain rfl := Except.ok.inj (hvalues.symm.trans hlisted)
  obtain ⟨first, rest, hcons, hfirst, hrest⟩ := List.map_eq_cons_iff.mp hids
  rw [List.filter_eq_self.mpr hnamed] at hrows
  rw [hcons] at hearlier
  refine ⟨hreached, first, rest, hcons ▸ hlisted, hfirst, ?_, ?_⟩
  · simpa using congrArg List.length hrest
  · exact (hrows.first first rest hcons).mpr (hearlier first rfl)

open Rehearsal in
/-- Under a clock that stands still two accounts with one email are equally late. The first row of
the list is not the one that is found. -/
theorem lookup_ne_first_listed :
    let stopped : Stage := { Stage.ofUsers [Stage.ada, Stage.adaAgain] with clock := ⟨⟨0, 0⟩, 0⟩ }
    let w := (stopped.afterMigrating Stage.ada).afterMigrating Stage.adaAgain
    Reached w ∧ ∃ first rest, (Stage.campaign.list (.start w)).1 = .ok (first :: rest) ∧
      first.IsNamed (trim Stage.ada.email) ∧
      (Stage.campaign.lookup Stage.ada.email (.start w)).1 ≠ .ok first := by
  intro stopped w
  obtain ⟨hlist, hsorted, hids, hnamed, hfound⟩ :
      (Script.interference.fails .mappingsByAge none w.mind).1 = false ∧
      (w.store.mappings.values.Pairwise fun m m' => Mapping.le m m' = true) ∧
      w.store.mappings.values.map Mapping.legacyId =
        [Stage.ada.legacyId, Stage.adaAgain.legacyId] ∧
      (∀ m ∈ w.store.mappings.values, m.IsNamed (trim Stage.ada.email)) ∧
      ((Stage.campaign.lookup Stage.ada.email (.start w)).1.map Mapping.legacyId).toOption =
        some Stage.adaAgain.legacyId := by decide +kernel
  have hfresh : Reached stopped := .fresh rfl rfl
  have hreached : Reached w :=
    Stage.reached_afterMigrating (Stage.reached_afterMigrating hfresh Stage.ada) Stage.adaAgain
  have hlisted := list_of_sorted (i := Script.interference) (c := Stage.campaign) rfl rfl hlist
    hsorted
  obtain ⟨first, rest, hcons, hfirst, -⟩ := List.map_eq_cons_iff.mp hids
  rw [hcons] at hlisted hnamed
  refine ⟨hreached, first, rest, hlisted, hnamed first List.mem_cons_self, fun heq => ?_⟩
  rw [heq] at hfound
  have hsame : Stage.ada.legacyId = Stage.adaAgain.legacyId := hfirst ▸ Option.some.inj hfound
  exact absurd hsame (by decide)

end Rekey
