import RefBook.Proofs.Registry.Order

/-! # Exports that need no resolution

An export needs no resolution if the module defines the name itself, if the name is
that of a registered module or package, or if no import binds it. Resolution asks for
less: it looks at the first import that binds the name, and passes over its target
only if that lies in the module itself or is the very name of a registered module. Here
is told exactly which of the exports that need no resolution are resolved all the same,
and what that does to a run. -/

namespace RefBook

/-- Whether the module has a class, function, variable or type alias of that name. -/
def Module.defines (m : Module) (name : String) : Bool :=
  m.classes.any (·.name == name) || m.functions.any (·.name == name) ||
    m.vars.any (·.name == name) || m.aliases.any (·.name == name)

namespace Registry

/-- The target is the name of a registered module, or of a registered package. -/
def NamesModule (r : Registry) (t : Target) : Prop :=
  r.contains t.qualified = true ∨ r.contains (t.qualified ++ Module.packageSuffix) = true

def NeedsNoResolution (r : Registry) (m : Module) (exported : String) : Prop :=
  m.defines exported = true ∨
    (∃ t, m.resolveImport exported = some t ∧ r.NamesModule t) ∨
    ∀ i ∈ m.imports, i.binds exported = false

/-- What a module has become after its first `i` exports. -/
def upTo (r : Registry) (m : Module) (i : Nat) : Module :=
  ((m.exports.take i).filterMap (r.found? m)).foldl Module.push m

/-- The export at place `i` neither ends the run, nor is recorded as a miss, nor adds a
symbol. -/
def LeftAlone (r : Registry) (m : Module) (i : Nat) (exported : String) : Prop :=
  match r.resolveExport m exported with
  | .error _ => False
  | .ok .skip => True
  | .ok (.missing _) => False
  | .ok (.found s) => (r.upTo m i).hasLike s = true

theorem hasLike_upTo_eq_false_iff (r : Registry) (m : Module) (i : Nat) (s : Symbol) :
    (r.upTo m i).hasLike s = false ↔ m.hasLike s = false ∧
      ∀ y ∈ m.exports.take i, ∀ u, r.resolveExport m y = .ok (.found u) → u.alike s = false := by
  unfold upTo
  rw [Module.hasLike_foldl_push, Bool.or_eq_false_iff, List.any_eq_false]
  apply and_congr_right
  intro _
  constructor
  · intro h y hy u hu
    have hmem := List.mem_filterMap.mpr ⟨y, hy, (r.found?_eq_some_iff m y u).mpr hu⟩
    simpa using h u hmem
  · intro h u hu
    obtain ⟨y, hy, hf⟩ := List.mem_filterMap.mp hu
    simpa using h y hy u ((r.found?_eq_some_iff m y u).mp hf)

/-- An export is left alone exactly if the target of its name, where it has one, is
passed over or stands for a symbol that the module has one like of by then. -/
theorem leftAlone_iff (r : Registry) (m : Module) (i : Nat) (exported : String) :
    r.LeftAlone m i exported ↔ ∀ t, m.resolveImport exported = some t →
      r.PassedOver m t ∨ ∃ s, r.definition? t = some s ∧ (r.upTo m i).hasLike s = true := by
  unfold LeftAlone
  obtain ⟨hp, he⟩ | ⟨t, ht, hp, ⟨hc, he⟩ | ⟨s, hs, he⟩ | ⟨hl, he⟩⟩ :=
    r.resolveExport_cases m exported <;> rw [he]
  · simp only [true_iff]
    intro t ht
    exact .inl (hp t ht)
  · simp only [false_iff]
    intro h
    rcases h t ht with h | ⟨s, hs, _⟩
    · exact hp h
    · exact candidates_ne_nil_of_definition? hs hc
  · constructor
    · intro hlike u hu
      rw [ht] at hu
      cases hu
      exact .inr ⟨s, hs, hlike⟩
    · intro h
      rcases h t ht with h | ⟨u, hu, hlike⟩
      · exact absurd h hp
      · rw [hs] at hu
        cases hu
        exact hlike
  · simp only [false_iff]
    intro h
    rcases h t ht with h | ⟨s, hs, _⟩
    · exact hp h
    · rw [definition?_eq_none_of_lacks hl] at hs
      cases hs

/-- Exports that need no resolution and are not left alone: an import binds the name
to a target elsewhere that is not the name of a registered module, and neither the
module nor an earlier export has a symbol like the one that the target stands for. -/
theorem needless_resolution_iff (r : Registry) (m : Module) (i : Nat) (exported : String) :
    r.NeedsNoResolution m exported ∧ ¬ r.LeftAlone m i exported ↔
      ∃ t, m.resolveImport exported = some t ∧ t.module ≠ m.name ∧
        r.contains t.qualified = false ∧
        (m.defines exported = true ∨
          r.contains (t.qualified ++ Module.packageSuffix) = true) ∧
        ∀ s, r.definition? t = some s → (r.upTo m i).hasLike s = false := by
  rw [leftAlone_iff]
  constructor
  · rintro ⟨hneed, hleft⟩
    have hex : ∃ t, m.resolveImport exported = some t ∧ ¬ r.PassedOver m t ∧
        ∀ s, r.definition? t = some s → (r.upTo m i).hasLike s = false := by
      simpa using hleft
    obtain ⟨t, ht, hp, hd⟩ := hex
    obtain ⟨hself, hreg⟩ := not_or.mp hp
    refine ⟨t, ht, hself, by simpa using hreg, ?_, hd⟩
    rcases hneed with hdef | ⟨u, hu, hname⟩ | hnone
    · exact .inl hdef
    · rw [ht] at hu
      cases hu
      rcases hname with hname | hname
      · exact absurd hname hreg
      · exact .inr hname
    · rw [(m.resolveImport_eq_none_iff exported).mpr hnone] at ht
      cases ht
  · rintro ⟨t, ht, hself, hreg, hneed, hd⟩
    refine ⟨?_, ?_⟩
    · rcases hneed with hdef | hname
      · exact .inl hdef
      · exact .inr (.inl ⟨t, ht, .inr hname⟩)
    · intro h
      rcases h t ht with hp | ⟨s, hs, hlike⟩
      · rcases hp with hp | hp
        · exact hself hp
        · rw [hreg] at hp
          cases hp
      · rw [hd s hs] at hlike
        cases hlike

theorem eq_of_name_eq {r : Registry} {m m' : Module} (hm : r.get? m.name = some m)
    (hm' : m' ∈ r.toList) (h : m'.name = m.name) : m' = m := by
  have hget := (r.mem_toList_iff m').mp hm'
  rw [h, hm] at hget
  exact (Option.some.inj hget).symm

theorem mem_missesOf_iff (r : Registry) (order : List Module) (y : Miss) :
    y ∈ r.missesOf order ↔ ∃ m ∈ order, ∃ x ∈ m.exports, r.miss? m x = some y := by
  unfold missesOf
  rw [List.mem_flatMap]
  simp only [List.mem_filterMap]

theorem miss?_eq_some_iff (r : Registry) (m : Module) (exported : String) (y : Miss) :
    r.miss? m exported = some y ↔
      ∃ target, r.resolveExport m exported = .ok (.missing target) ∧
        y = ⟨m.name, exported, target⟩ := by
  rw [miss?_eq]
  split <;> simp_all [eq_comm]

theorem LeftAlone.not_named {r : Registry} {m : Module} {i : Nat} {exported : String}
    {p : UnknownModule} (h : r.LeftAlone m i exported) (hm : r.get? m.name = some m)
    (hp : r.resolve = .error p) : ¬ (p.exporter = m.name ∧ p.exported = exported) := by
  rintro ⟨hexp, rfl⟩
  obtain ⟨m', x, t, hf, rfl⟩ := firstDangling_of_resolve hp
  obtain rfl := eq_of_name_eq hm hf.least.1 hexp
  have he := (r.resolveExport_eq_error_iff m' x _).mpr ⟨t, hf.1, rfl⟩
  rw [LeftAlone, he] at h
  exact h

theorem LeftAlone.not_missed {r r' : Registry} {m : Module} {i : Nat} {exported : String}
    {report : Report} (h : r.LeftAlone m i exported) (hm : r.get? m.name = some m)
    (hr : r.resolve = .ok (r', report)) :
    ∀ y ∈ report.misses, ¬ (y.exporter = m.name ∧ y.exported = exported) := by
  rintro y hy ⟨hexp, rfl⟩
  rw [resolve_of_settled (settled_of_resolve hr)] at hr
  cases hr
  obtain ⟨m', hm', x, _, hmiss⟩ := (r.mem_missesOf_iff r.toList y).mp hy
  obtain ⟨target, he, rfl⟩ := (r.miss?_eq_some_iff m' x y).mp hmiss
  obtain rfl := eq_of_name_eq hm hm' hexp
  rw [LeftAlone, he] at h
  exact h

/-- The fold over the exports of a module, opened at place `i`. -/
theorem get?_resolve_at {r r' : Registry} {m : Module} {i : Nat} {exported : String}
    {report : Report} (hm : r.get? m.name = some m) (hx : m.exports[i]? = some exported)
    (hr : r.resolve = .ok (r', report)) :
    r'.get? m.name = some (((m.exports.drop (i + 1)).filterMap (r.found? m)).foldl Module.push
      ((r.found? m exported).elim (r.upTo m i) (r.upTo m i).push)) := by
  obtain ⟨hlt, hget⟩ := List.getElem?_eq_some_iff.mp hx
  have hsplit : m.exports = m.exports.take i ++ exported :: m.exports.drop (i + 1) := by
    rw [← hget, ← List.drop_eq_getElem_cons hlt, List.take_append_drop]
  have hfound : r.found m = (m.exports.take i).filterMap (r.found? m) ++
      (exported :: m.exports.drop (i + 1)).filterMap (r.found? m) := by
    rw [← List.filterMap_append, ← hsplit, found]
  rw [get?_resolve hr, hm, Option.map_some, hfound, List.foldl_append]
  cases hf : r.found? m exported with
  | none => rw [List.filterMap_cons_none hf]; rfl
  | some s => rw [List.filterMap_cons_some hf]; rfl

/-- The module becomes what its other exports make of it. -/
theorem LeftAlone.get?_resolve {r r' : Registry} {m : Module} {i : Nat} {exported : String}
    {report : Report} (h : r.LeftAlone m i exported) (hm : r.get? m.name = some m)
    (hx : m.exports[i]? = some exported) (hr : r.resolve = .ok (r', report)) :
    r'.get? m.name = some
      (((m.exports.eraseIdx i).filterMap (r.found? m)).foldl Module.push m) := by
  rw [get?_resolve_at hm hx hr, List.eraseIdx_eq_take_drop_succ, List.filterMap_append,
    List.foldl_append]
  cases hf : r.found? m exported with
  | none => rfl
  | some s =>
    rw [LeftAlone, (r.found?_eq_some_iff m exported s).mp hf] at h
    rw [Option.elim_some, Module.push_of_hasLike h]
    rfl

/-- An export that is not left alone leaves a miss of its name, or adds a symbol, if the
run succeeds at all. -/
theorem disturbs_of_not_leftAlone {r r' : Registry} {m : Module} {i : Nat} {exported : String}
    {report : Report} (h : ¬ r.LeftAlone m i exported) (hm : r.get? m.name = some m)
    (hx : m.exports[i]? = some exported) (hr : r.resolve = .ok (r', report)) :
    (∃ y ∈ report.misses, y.exporter = m.name ∧ y.exported = exported) ∨
      ∃ s, r.resolveExport m exported = .ok (.found s) ∧
        r'.get? m.name = some (((m.exports.drop (i + 1)).filterMap (r.found? m)).foldl
          Module.push ((r.upTo m i).append s)) := by
  have hmem := mem_toList_of_get? hm
  have hin : exported ∈ m.exports := List.mem_of_getElem? hx
  have hat := get?_resolve_at hm hx hr
  have hs := settled_of_resolve hr
  obtain ⟨x, he⟩ := exists_ok_of_not_dangling (hs m hmem exported hin)
  rw [LeftAlone, he] at h
  cases x with
  | skip => exact absurd trivial h
  | missing target =>
    left
    rw [resolve_of_settled hs] at hr
    cases hr
    refine ⟨⟨m.name, exported, target⟩, ?_, rfl, rfl⟩
    have hmiss := (r.miss?_eq_some_iff m exported _).mpr ⟨target, he, rfl⟩
    exact (r.mem_missesOf_iff r.toList _).mpr ⟨m, hmem, exported, hin, hmiss⟩
  | found s =>
    right
    refine ⟨s, he, ?_⟩
    have hno : (r.upTo m i).hasLike s = false := by simpa using h
    rw [(r.found?_eq_some_iff m exported s).mpr he, Option.elim_some,
      Module.push_of_not_hasLike hno] at hat
    exact hat

/-- **Which exports that need no resolution are left alone.** All but those with an
imported name whose target lies elsewhere and is not itself the name of a registered
module, while the module defines the name or the target is a package, and neither the
module nor an earlier export has a symbol like the one that is found. Being left alone
means that no failure and no miss names the export and that the module is what its other
exports make of it; and if it is not left alone, a run that succeeds has a miss of its
name or a symbol that it added. -/
theorem exports_left_alone_unless_bound_elsewhere (r : Registry) (m : Module) (i : Nat)
    (exported : String) (hm : r.get? m.name = some m) (hx : m.exports[i]? = some exported) :
    (r.NeedsNoResolution m exported ∧ ¬ r.LeftAlone m i exported ↔
      ∃ t, m.resolveImport exported = some t ∧ t.module ≠ m.name ∧
        r.contains t.qualified = false ∧
        (m.defines exported = true ∨
          r.contains (t.qualified ++ Module.packageSuffix) = true) ∧
        ∀ s, r.definition? t = some s → m.hasLike s = false ∧
          ∀ y ∈ m.exports.take i, ∀ u, r.resolveExport m y = .ok (.found u) →
            u.alike s = false) ∧
    (r.LeftAlone m i exported →
      (∀ p, r.resolve = .error p → ¬ (p.exporter = m.name ∧ p.exported = exported)) ∧
      ∀ r' report, r.resolve = .ok (r', report) →
        (∀ y ∈ report.misses, ¬ (y.exporter = m.name ∧ y.exported = exported)) ∧
        r'.get? m.name = some
          (((m.exports.eraseIdx i).filterMap (r.found? m)).foldl Module.push m)) ∧
    (¬ r.LeftAlone m i exported → ∀ r' report, r.resolve = .ok (r', report) →
      (∃ y ∈ report.misses, y.exporter = m.name ∧ y.exported = exported) ∨
        ∃ s, r.resolveExport m exported = .ok (.found s) ∧
          r'.get? m.name = some (((m.exports.drop (i + 1)).filterMap (r.found? m)).foldl
            Module.push ((r.upTo m i).append s))) := by
  refine ⟨?_, ?_, ?_⟩
  · rw [r.needless_resolution_iff m i exported]
    simp only [hasLike_upTo_eq_false_iff]
  · intro h
    exact ⟨fun p hp => h.not_named hm hp,
      fun r' report hr => ⟨h.not_missed hm hr, h.get?_resolve hm hx hr⟩⟩
  · intro h r' report hr
    exact disturbs_of_not_leftAlone h hm hx hr

/-- A module that exports a package of the run, taken from the package around it. -/
def packageExporter : Module :=
  ⟨"pkg.tools", none, [], [], [], [], [.selected (some "pkg") [⟨"sub", none⟩] 0], ["sub"]⟩

def exportsPackage : Registry := .ofModules
  [⟨"pkg.__init__", none, [], [], [], [], [], []⟩,
   ⟨"pkg.sub.__init__", none, [], [], [], [], [], []⟩, packageExporter]

theorem exportsPackage_not_left_alone :
    exportsPackage.NeedsNoResolution packageExporter "sub" ∧
      ¬ exportsPackage.LeftAlone packageExporter 0 "sub" ∧
      exportsPackage.resolve = .ok (exportsPackage, ⟨0, [⟨"pkg.tools", "sub", "pkg.sub"⟩]⟩) := by
  have h := (exports_left_alone_unless_bound_elsewhere exportsPackage packageExporter 0 "sub" rfl
    rfl).1.mpr ⟨⟨"pkg", "sub"⟩, rfl, by decide, rfl, .inr rfl, fun s hs => (by cases hs)⟩
  exact ⟨h.1, h.2, rfl⟩

/-- A module that defines a name in case its import fails, from a module that is not
part of the run. -/
def fallback : Module :=
  ⟨"pkg.__init__", none, [], [], [⟨"f", some "None", none⟩], [],
    [.selected (some "fast") [⟨"f", none⟩] 0], ["f"]⟩

/-- The export of a name that the module defines can end the run. -/
theorem defined_export_ends_run :
    ¬ ∀ (r : Registry) (m : Module) (exported : String), r.get? m.name = some m →
      exported ∈ m.exports → r.NeedsNoResolution m exported →
      ∀ p, r.resolve = .error p → ¬ (p.exporter = m.name ∧ p.exported = exported) := by
  intro h
  exact h (.ofModules [fallback]) fallback "f" rfl (by decide) (.inl rfl)
    ⟨"fast", "pkg.__init__", "f", ["pkg.__init__"]⟩ rfl ⟨rfl, rfl⟩

end Registry

end RefBook
