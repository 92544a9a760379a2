import RefBook.Proofs.Registry.Resolve

/-! # The order of the modules does not matter

All additions to all modules stand in one list, and the registry that they change is
the one that was read before. But every symbol is found in the registry as it was at
the start, and an addition touches the module of its name only. So a module gets the
symbols of its own exports in their order, whatever stands between them. -/

namespace RefBook.Registry

theorem symbolsFor_append (name : String) (l l' : List (String × Symbol)) :
    symbolsFor name (l ++ l') = symbolsFor name l ++ symbolsFor name l' :=
  List.filterMap_append

theorem symbolsFor_map_self (name : String) (l : List Symbol) :
    symbolsFor name (l.map (name, ·)) = l := by
  induction l with
  | nil => rfl
  | cons s l ih =>
    unfold symbolsFor at ih ⊢
    simp only [List.map_cons, List.filterMap_cons, if_true]
    rw [ih]

theorem symbolsFor_map_of_ne {name other : String} (h : other ≠ name) (l : List Symbol) :
    symbolsFor name (l.map (other, ·)) = [] := by
  unfold symbolsFor
  rw [List.filterMap_eq_nil_iff]
  intro e he
  obtain ⟨s, _, rfl⟩ := List.mem_map.mp he
  exact if_neg h

theorem symbolsFor_additionsOf_of_forall_ne (r : Registry) {order : List Module} {name : String}
    (h : ∀ a ∈ order, a.name ≠ name) : symbolsFor name (r.additionsOf order) = [] := by
  induction order with
  | nil => rfl
  | cons a rest ih =>
    have ha := h a List.mem_cons_self
    have hrest := ih fun b hb => h b (List.mem_cons_of_mem a hb)
    unfold additionsOf at hrest ⊢
    rw [List.flatMap_cons, symbolsFor_append, symbolsFor_map_of_ne ha, hrest, List.nil_append]

/-- Among modules of different names, a module gets what its own exports find. -/
theorem symbolsFor_additionsOf (r : Registry) {order : List Module} {m : Module}
    (hn : (order.map (·.name)).Nodup) (hm : m ∈ order) :
    symbolsFor m.name (r.additionsOf order) = r.found m := by
  induction order with
  | nil => cases hm
  | cons a rest ih =>
    rw [List.map_cons, List.nodup_cons] at hn
    have hcons : r.additionsOf (a :: rest) =
        (r.found a).map (a.name, ·) ++ r.additionsOf rest := List.flatMap_cons
    rw [hcons, symbolsFor_append]
    rcases List.mem_cons.mp hm with rfl | hm
    · have hrest : symbolsFor m.name (r.additionsOf rest) = [] := by
        apply r.symbolsFor_additionsOf_of_forall_ne
        intro b hb he
        exact hn.1 (List.mem_map.mpr ⟨b, hb, he⟩)
      rw [symbolsFor_map_self, hrest, List.append_nil]
    · have hne : a.name ≠ m.name := fun he => hn.1 (List.mem_map.mpr ⟨m, hm, he.symm⟩)
      rw [symbolsFor_map_of_ne hne, ih hn.2 hm, List.nil_append]

theorem names_toList_nodup (r : Registry) : (r.toList.map (·.name)).Nodup := by
  rw [← names_eq_map]
  exact r.names_nodup

theorem splice_additionsOf_perm {r : Registry} {order : List Module} (h : order.Perm r.toList) :
    r.splice (r.additionsOf order) = r.splice (r.additionsOf r.toList) := by
  apply splice_congr
  intro m hm
  have hn : (order.map (·.name)).Nodup := (h.map _).nodup_iff.mpr r.names_toList_nodup
  rw [r.symbolsFor_additionsOf hn (h.mem_iff.mpr hm),
    r.symbolsFor_additionsOf r.names_toList_nodup hm]

theorem settled_perm {r : Registry} {order order' : List Module} (h : order.Perm order') :
    r.Settled order ↔ r.Settled order' :=
  ⟨fun hs m hm => hs m (h.mem_iff.mpr hm), fun hs m hm => hs m (h.mem_iff.mp hm)⟩

/-- A module after resolution is what the symbols of its exports make of it. -/
theorem get?_resolve {r r' : Registry} {report : Report} (h : r.resolve = .ok (r', report))
    (name : String) :
    r'.get? name = (r.get? name).map fun m => (r.found m).foldl Module.push m := by
  rw [resolve_of_settled (settled_of_resolve h)] at h
  cases h
  rw [get?_splice]
  cases hm : r.get? name with
  | none => rfl
  | some m =>
    have hname := name_of_get? hm
    subst hname
    rw [Option.map_some, Option.map_some,
      r.symbolsFor_additionsOf r.names_toList_nodup (mem_toList_of_get? hm)]

/-- **Modules get the symbols of their exports, in any order of visits.** If
resolution succeeds, each module becomes the fold of its additions, all found in the
registry as it was, and the misses are the exports whose target is neither passed
over nor in any candidate, by module and then by place. A run in place over the
modules in any order leaves the same registry, with the same count and the same
misses up to their order; and it fails in one order if it fails in another, the
registry left as it was. -/
theorem resolve_pushes_found_in_any_order (r : Registry) :
    (∀ r' report, r.resolve = .ok (r', report) →
      r'.names = r.names ∧
      (∀ name, r'.get? name = (r.get? name).map fun m => (r.found m).foldl Module.push m) ∧
      report.misses = (r.toList.flatMap fun m => m.exports.filterMap (r.miss? m)) ∧
      ∀ order, order.Perm r.toList → ∃ l, l.Perm report.misses ∧
        exec (resolveInPlace order) r = (.ok ⟨report.spliced, l⟩, r')) ∧
    (∀ p, r.resolve = .error p → ∀ order, order.Perm r.toList →
      ∃ p', exec (resolveInPlace order) r = (.error p', r)) ∧
    (exec (resolveInPlace r.toList) r = match r.resolve with
      | .ok (r', report) => (.ok report, r')
      | .error p => (.error p, r)) ∧
    r.names = r.toList.map (·.name) ∧ r.names.Pairwise (· < ·) := by
  refine ⟨?_, ?_, r.exec_resolveInPlace_toList, r.names_eq_map, r.names_ascending⟩
  · intro r' report h
    have hs := settled_of_resolve h
    have hget := get?_resolve h
    rw [resolve_of_settled hs] at h
    cases h
    refine ⟨names_splice _ _, hget, rfl, ?_⟩
    intro order hp
    refine ⟨r.missesOf order, hp.flatMap_right _, ?_⟩
    rw [exec_resolveInPlace_of_settled ((settled_perm hp).mpr hs), splice_additionsOf_perm hp]
  · intro p h order hp
    have hns : ¬ r.Settled order := by
      intro hs
      rw [resolve_of_settled ((settled_perm hp).mp hs)] at h
      cases h
    obtain ⟨m, x, t, hf⟩ := exists_firstDangling hns
    exact ⟨_, exec_resolveInPlace_of_firstDangling hf⟩

/-- Two modules that export a class defined in a third one, by way of each other, and
a name that the third one lacks. -/
def chainPackage : Registry := .ofModules
  [⟨"pkg.a", none, [], [], [], [],
    [.selected (some "z") [⟨"Item", none⟩] 1, .selected (some "m") [⟨"gone", none⟩] 1],
    ["Item", "gone"]⟩,
   ⟨"pkg.z", none, [], [], [], [], [.selected (some "m") [⟨"Item", none⟩] 1], ["Item"]⟩,
   ⟨"pkg.m", none, [⟨"Item", [], [], [], [], none⟩], [], [], [], [], []⟩]

theorem chainPackage_in_reverse :
    ∃ r', chainPackage.resolve = .ok (r', ⟨2, [⟨"pkg.a", "gone", "pkg.m.gone"⟩]⟩) ∧
      (r'.get? "pkg.a").map (·.classes) = some [⟨"Item", [], [], [], [], none⟩] ∧
      exec (resolveInPlace chainPackage.toList.reverse) chainPackage =
        (.ok ⟨2, [⟨"pkg.a", "gone", "pkg.m.gone"⟩]⟩, r') := by
  refine ⟨_, rfl, rfl, ?_⟩
  obtain ⟨l, hl, hrun⟩ := ((resolve_pushes_found_in_any_order chainPackage).1 _ _ rfl).2.2.2
    chainPackage.toList.reverse (List.reverse_perm _)
  rw [List.perm_singleton.mp hl] at hrun
  exact hrun

/-- A package that exports a name which it imports from itself and does not have. -/
def selfImport : Registry := .ofModules
  [⟨"pkg.__init__", none, [], [], [], [], [.selected none [⟨"gone", some "g"⟩] 1], ["g"]⟩]

/-- A name that the module imports from itself is passed over, so it is not recorded
as a miss although the only candidate lacks it. -/
theorem lacking_target_not_missed :
    ¬ ∀ (r r' : Registry) (report : Report), r.resolve = .ok (r', report) →
      report.misses = r.toList.flatMap fun m => m.exports.filterMap fun x =>
        (m.resolveImport x).bind fun t =>
          if r.Lacks t then some ⟨m.name, x, t.qualified⟩ else none := by
  intro h
  have hmiss := h selfImport selfImport ⟨0, []⟩ rfl
  revert hmiss
  decide

end RefBook.Registry
