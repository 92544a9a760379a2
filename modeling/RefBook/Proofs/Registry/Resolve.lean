import RefBook.Proofs.Registry.InPlace

/-! # Resolution as a whole

A run succeeds exactly when no export dangles. Then each module becomes what its own
exports make of it, and the order in which the modules are visited shows in the
order of the misses only. Otherwise the run names the first export that dangles and
leaves the registry as it was. -/

namespace RefBook.Registry

/-- The first export that dangles when the modules are visited in this order. -/
def FirstDangling (r : Registry) (order : List Module) (m : Module) (exported : String)
    (t : Target) : Prop :=
  r.Dangling m exported t ∧ ∃ before after, order = before ++ m :: after ∧ r.Settled before ∧
    ∃ earlier later, m.exports = earlier ++ exported :: later ∧
      ∀ x ∈ earlier, ∀ u, ¬ r.Dangling m x u

theorem mem_exportsOf {order : List Module} {e : Module × String} :
    e ∈ exportsOf order ↔ e.1 ∈ order ∧ e.2 ∈ e.1.exports := by
  unfold exportsOf
  rw [List.mem_flatMap]
  constructor
  · rintro ⟨m, hm, he⟩
    obtain ⟨x, hx, rfl⟩ := List.mem_map.mp he
    exact ⟨hm, hx⟩
  · rintro ⟨hm, hx⟩
    exact ⟨e.1, hm, List.mem_map.mpr ⟨e.2, hx, rfl⟩⟩

theorem filterMap_exportsOf {α : Type} (f : Module → String → Option α) (order : List Module) :
    (exportsOf order).filterMap (fun e => f e.1 e.2) =
      order.flatMap fun m => m.exports.filterMap (f m) := by
  unfold exportsOf
  rw [List.filterMap_flatMap]
  simp only [List.filterMap_map, Function.comp_def]

theorem exec_resolveInPlace_of_settled {r : Registry} {order : List Module}
    (h : r.Settled order) :
    exec (resolveInPlace order) r =
      (.ok ⟨(r.splice (r.additionsOf order)).2, r.missesOf order⟩,
        (r.splice (r.additionsOf order)).1) := by
  obtain ⟨seen, hs, ha, hm⟩ := lookUps_of_ok (r := r) (l := exportsOf order) (by
    intro e he
    obtain ⟨ho, hx⟩ := mem_exportsOf.mp he
    exact exists_ok_of_not_dangling (h e.1 ho e.2 hx))
  have hadd : additions seen = r.additionsOf order := by
    rw [ha, filterMap_exportsOf fun m x => (r.found? m x).map (m.name, ·)]
    simp only [additionsOf, found, List.map_filterMap]
  have hmiss : misses seen = r.missesOf order := by
    rw [hm, filterMap_exportsOf r.miss?]
    rfl
  unfold resolveInPlace
  rw [exec_bind, exec_mapM_visit, hs]
  simp only []
  rw [exec_bind, exec_foldlM_addOne]
  simp only [Nat.zero_add, hadd, hmiss]
  rfl

theorem exists_first {α : Type} {P : α → Prop} {l : List α} (h : ∃ a ∈ l, P a) :
    ∃ before a after, l = before ++ a :: after ∧ (∀ x ∈ before, ¬ P x) ∧ P a := by
  induction l with
  | nil => obtain ⟨a, ha, _⟩ := h; cases ha
  | cons b l ih =>
    by_cases hb : P b
    · exact ⟨[], b, l, rfl, fun x hx => (by cases hx), hb⟩
    · obtain ⟨a, ha, hp⟩ := h
      rcases List.mem_cons.mp ha with rfl | ha
      · exact absurd hp hb
      · obtain ⟨before, c, after, rfl, hn, hc⟩ := ih ⟨a, ha, hp⟩
        refine ⟨b :: before, c, after, rfl, ?_, hc⟩
        intro x hx
        rcases List.mem_cons.mp hx with rfl | hx
        · exact hb
        · exact hn x hx

theorem exists_firstDangling {r : Registry} {order : List Module} (h : ¬ r.Settled order) :
    ∃ m exported t, r.FirstDangling order m exported t := by
  have hex : ∃ m ∈ order, ∃ x ∈ m.exports, ∃ t, r.Dangling m x t := by
    simpa [Settled] using h
  obtain ⟨before, m, after, ho, hb, hm⟩ := exists_first hex
  obtain ⟨earlier, x, later, he, hn, t, ht⟩ := exists_first hm
  refine ⟨m, x, t, ht, before, after, ho, ?_, earlier, later, he, ?_⟩
  · intro b hmb y hy u hd
    exact hb b hmb ⟨y, hy, u, hd⟩
  · intro y hy u hd
    exact hn y hy ⟨u, hd⟩

theorem exec_resolveInPlace_of_firstDangling {r : Registry} {order : List Module} {m : Module}
    {exported : String} {t : Target} (h : r.FirstDangling order m exported t) :
    exec (resolveInPlace order) r = (.error ⟨t.module, m.name, exported, r.names⟩, r) := by
  obtain ⟨hd, before, after, rfl, hb, earlier, later, he, hn⟩ := h
  have hsplit : exportsOf (before ++ m :: after) =
      (exportsOf before ++ earlier.map (m, ·)) ++ (m, exported) ::
        (later.map (m, ·) ++ exportsOf after) := by
    simp [exportsOf, he]
  have hl : r.lookUps (exportsOf (before ++ m :: after)) =
      .error ⟨t.module, m.name, exported, r.names⟩ := by
    rw [hsplit]
    apply lookUps_of_error
    · intro e hmem
      rcases List.mem_append.mp hmem with hmem | hmem
      · obtain ⟨ho, hx⟩ := mem_exportsOf.mp hmem
        exact exists_ok_of_not_dangling (hb e.1 ho e.2 hx)
      · obtain ⟨x, hx, rfl⟩ := List.mem_map.mp hmem
        exact exists_ok_of_not_dangling (hn x hx)
    · exact (r.resolveExport_eq_error_iff m exported _).mpr ⟨t, hd, rfl⟩
  unfold resolveInPlace
  rw [exec_bind, exec_mapM_visit, hl]

theorem exec_resolveInPlace_toList (r : Registry) :
    exec (resolveInPlace r.toList) r = match r.resolve with
      | .ok (r', report) => (.ok report, r')
      | .error p => (.error p, r) := by
  have hr : r.resolutions = r.lookUps (exportsOf r.toList) := rfl
  unfold resolve resolveInPlace
  rw [exec_bind, exec_mapM_visit, hr]
  cases r.lookUps (exportsOf r.toList) with
  | error p => rfl
  | ok seen =>
    simp only []
    rw [exec_bind, exec_foldlM_addOne]
    simp only [Nat.zero_add]
    rfl

theorem resolve_of_settled {r : Registry} (h : r.Settled r.toList) :
    r.resolve = .ok ((r.splice (r.additionsOf r.toList)).1,
      ⟨(r.splice (r.additionsOf r.toList)).2, r.missesOf r.toList⟩) := by
  have he := r.exec_resolveInPlace_toList
  rw [exec_resolveInPlace_of_settled h] at he
  cases hr : r.resolve with
  | error p => rw [hr] at he; cases he
  | ok out =>
    obtain ⟨r', report⟩ := out
    rw [hr] at he
    cases he
    rfl

theorem resolve_of_firstDangling {r : Registry} {m : Module} {exported : String} {t : Target}
    (h : r.FirstDangling r.toList m exported t) :
    r.resolve = .error ⟨t.module, m.name, exported, r.names⟩ := by
  have he := r.exec_resolveInPlace_toList
  rw [exec_resolveInPlace_of_firstDangling h] at he
  cases hr : r.resolve with
  | error p => rw [hr] at he; cases he; rfl
  | ok x => rw [hr] at he; cases he

theorem settled_of_resolve {r : Registry} {out : Registry × Report} (h : r.resolve = .ok out) :
    r.Settled r.toList := by
  by_cases hs : r.Settled r.toList
  · exact hs
  · obtain ⟨m, x, t, hf⟩ := exists_firstDangling hs
    rw [resolve_of_firstDangling hf] at h
    cases h

theorem firstDangling_of_resolve {r : Registry} {p : UnknownModule} (h : r.resolve = .error p) :
    ∃ m exported t, r.FirstDangling r.toList m exported t ∧
      p = ⟨t.module, m.name, exported, r.names⟩ := by
  by_cases hs : r.Settled r.toList
  · rw [resolve_of_settled hs] at h
    cases h
  · obtain ⟨m, x, t, hf⟩ := exists_firstDangling hs
    rw [resolve_of_firstDangling hf] at h
    cases h
    exact ⟨m, x, t, hf, rfl⟩

/-- Where the modules are visited in the order of their names, every export that
dangles comes after the first in that order, or stands later in the same module. -/
theorem FirstDangling.least {r : Registry} {m : Module} {exported : String} {t : Target}
    (h : r.FirstDangling r.toList m exported t) :
    m ∈ r.toList ∧ ∃ i, m.exports[i]? = some exported ∧
      ∀ m' ∈ r.toList, ∀ (j : Nat) (x : String) (u : Target), m'.exports[j]? = some x →
        r.Dangling m' x u → m.name < m'.name ∨ m' = m ∧ i ≤ j := by
  obtain ⟨hd, before, after, ho, hb, earlier, later, he, hn⟩ := h
  have hasc : (m :: after).Pairwise fun a b => a.name < b.name := by
    have hall := r.names_ascending
    rw [names_eq_map, List.pairwise_map, ho] at hall
    exact (List.pairwise_append.mp hall).2.1
  refine ⟨by rw [ho]; simp, earlier.length, by rw [he]; simp, ?_⟩
  intro m' hm' j x u hx hu
  have hxm : x ∈ m'.exports := List.mem_of_getElem? hx
  rw [ho] at hm'
  rcases List.mem_append.mp hm' with hmem | hmem
  · exact absurd hu (hb m' hmem x hxm u)
  · rcases List.mem_cons.mp hmem with rfl | hmem
    · right
      refine ⟨rfl, ?_⟩
      -- an earlier position is one of those that do not dangle
      rcases Nat.lt_or_ge j earlier.length with hlt | hge
      · rw [he, List.getElem?_append_left hlt] at hx
        exact absurd hu (hn x (List.mem_of_getElem? hx) u)
      · exact hge
    · left
      exact (List.pairwise_cons.mp hasc).1 m' hmem

/-- **When a run fails, and how.** Resolution fails exactly when some export dangles.
The failure names the first of these, by the name of the module and then by the place
among its exports, and all registered names in ascending order; and a run in place
that fails has not touched the registry. -/
theorem resolve_fails_iff_dangling (r : Registry) :
    ((∃ p, r.resolve = .error p) ↔
      ∃ m ∈ r.toList, ∃ exported ∈ m.exports, ∃ t, r.Dangling m exported t) ∧
    ∀ p, r.resolve = .error p →
      (∃ m ∈ r.toList, ∃ i exported t, m.exports[i]? = some exported ∧
        r.Dangling m exported t ∧ p = ⟨t.module, m.name, exported, r.names⟩ ∧
        ∀ m' ∈ r.toList, ∀ (j : Nat) (x : String) (u : Target), m'.exports[j]? = some x →
          r.Dangling m' x u → m.name < m'.name ∨ m' = m ∧ i ≤ j) ∧
      p.known.Pairwise (· < ·) ∧ (∀ name, name ∈ p.known ↔ r.contains name = true) ∧
      exec (resolveInPlace r.toList) r = (.error p, r) := by
  refine ⟨⟨?_, ?_⟩, ?_⟩
  · rintro ⟨p, hp⟩
    obtain ⟨m, x, t, hf, _⟩ := firstDangling_of_resolve hp
    obtain ⟨hm, i, hi, _⟩ := hf.least
    exact ⟨m, hm, x, List.mem_of_getElem? hi, t, hf.1⟩
  · rintro ⟨m, hm, x, hx, t, hd⟩
    have hs : ¬ r.Settled r.toList := fun h => h m hm x hx t hd
    obtain ⟨m', x', t', hf⟩ := exists_firstDangling hs
    exact ⟨_, resolve_of_firstDangling hf⟩
  · intro p hp
    have hrun := r.exec_resolveInPlace_toList
    rw [hp] at hrun
    obtain ⟨m, x, t, hf, rfl⟩ := firstDangling_of_resolve hp
    obtain ⟨hm, i, hi, hleast⟩ := hf.least
    refine ⟨⟨m, hm, i, x, t, hi, hf.1, rfl, hleast⟩, r.names_ascending, ?_, hrun⟩
    intro name
    exact (r.contains_iff_mem_names name).symm

/-- A package whose first export is found before the second one dangles, and a later
module with an export that dangles too. -/
def brokenPackage : Registry := .ofModules
  [⟨"pkg.z", none, [], [], [], [], [.selected (some "lost") [⟨"y", none⟩] 1], ["y"]⟩,
   ⟨"pkg.__init__", none, [], [], [], [],
    [.selected (some "a") [⟨"v", none⟩] 1, .selected (some "gone") [⟨"x", none⟩] 1], ["v", "x"]⟩,
   ⟨"pkg.a", none, [], [], [⟨"v", some "1", none⟩], [], [], []⟩]

theorem brokenPackage_fails :
    brokenPackage.resolve =
      .error ⟨"pkg.gone", "pkg.__init__", "x", ["pkg.__init__", "pkg.a", "pkg.z"]⟩ ∧
    exec (resolveInPlace brokenPackage.toList) brokenPackage =
      (.error ⟨"pkg.gone", "pkg.__init__", "x", ["pkg.__init__", "pkg.a", "pkg.z"]⟩,
        brokenPackage) := by
  have h : brokenPackage.resolve =
      .error ⟨"pkg.gone", "pkg.__init__", "x", ["pkg.__init__", "pkg.a", "pkg.z"]⟩ := rfl
  exact ⟨h, ((resolve_fails_iff_dangling brokenPackage).2 _ h).2.2.2⟩

end RefBook.Registry
