import RefBook.Proofs.Registry.Lookup
import RefBook.Registry.Reexport

/-! # What becomes of one export

`Registry.resolveExport` has four endings. `resolveExport_cases` says once which of
them is taken and what it carries, by conditions on the look-ups alone; when it fails
and what it contributes to a run are read off from there, so that no other proof opens
the function. -/

namespace RefBook

theorem Module.targetIn?_eq_none_iff (m : Module) (name : String) (i : Import) :
    m.targetIn? name i = none ↔ i.binds name = false := by
  cases i with
  | whole module asName =>
    unfold Module.targetIn? Import.binds
    cases asName.getD module == name <;> simp
  | selected module names level =>
    unfold Module.targetIn? Import.binds
    rw [Option.map_eq_none_iff, List.find?_eq_none, List.any_eq_false]

/-- A name has a target exactly when some import binds it. -/
theorem Module.resolveImport_eq_none_iff (m : Module) (name : String) :
    m.resolveImport name = none ↔ ∀ i ∈ m.imports, i.binds name = false := by
  unfold Module.resolveImport
  rw [List.findSome?_eq_none_iff]
  simp only [Module.targetIn?_eq_none_iff]

namespace Registry

/-- A target that is passed over: it lies in the importing module itself, or it is
the name of a registered module. -/
def PassedOver (r : Registry) (m : Module) (t : Target) : Prop :=
  t.module = m.name ∨ r.contains t.qualified = true

instance (r : Registry) (m : Module) (t : Target) : Decidable (r.PassedOver m t) :=
  inferInstanceAs (Decidable (_ ∨ _))

/-- The symbol that a target stands for, imports followed as far as they lead. -/
def definition? (r : Registry) (t : Target) : Option Symbol :=
  (r.locate t).map fun e => if e.2.isImport then (r.follow e.1 t.item).getD e.2 else e.2

/-- Some candidate is registered, and no candidate knows the item. -/
def Lacks (r : Registry) (t : Target) : Prop :=
  r.candidates t ≠ [] ∧ ∀ c ∈ r.candidates t, c.lookup t.item = none

instance (r : Registry) (t : Target) : Decidable (r.Lacks t) :=
  inferInstanceAs (Decidable (_ ∧ _))

/-- An export from a module that is not registered, neither as such nor as a package. -/
def Dangling (r : Registry) (m : Module) (exported : String) (t : Target) : Prop :=
  m.resolveImport exported = some t ∧ t.module ≠ m.name ∧ r.contains t.qualified = false ∧
    r.contains t.module = false ∧ r.contains (t.module ++ Module.packageSuffix) = false

theorem candidates_eq_nil_iff (r : Registry) (t : Target) :
    r.candidates t = [] ↔
      r.contains t.module = false ∧ r.contains (t.module ++ Module.packageSuffix) = false := by
  unfold candidates contains get?
  rw [List.filterMap_eq_nil_iff]
  simp [Dict.contains]

theorem locate_eq_none_iff (r : Registry) (t : Target) :
    r.locate t = none ↔ ∀ c ∈ r.candidates t, c.lookup t.item = none := by
  unfold locate
  rw [List.findSome?_eq_none_iff]
  simp

theorem candidates_ne_nil_of_locate {r : Registry} {t : Target} {e : Module × Symbol}
    (h : r.locate t = some e) : r.candidates t ≠ [] := by
  intro hn
  rw [locate, hn] at h
  cases h

theorem dangling_iff (r : Registry) (m : Module) (exported : String) (t : Target) :
    r.Dangling m exported t ↔
      m.resolveImport exported = some t ∧ ¬ r.PassedOver m t ∧ r.candidates t = [] := by
  unfold Dangling PassedOver
  rw [candidates_eq_nil_iff, not_or, Bool.not_eq_true, and_assoc]

theorem resolveExport_eq (r : Registry) (m : Module) (exported : String) (t : Target)
    (h : m.resolveImport exported = some t) :
    r.resolveExport m exported =
      if r.PassedOver m t then .ok .skip
      else if r.candidates t = [] then .error ⟨t.module, m.name, exported, r.names⟩
      else match r.definition? t with
        | some s => .ok (.found s)
        | none => .ok (.missing t.qualified) := by
  unfold resolveExport PassedOver definition?
  rw [h]
  simp only [Bool.or_eq_true, beq_iff_eq, List.isEmpty_iff]
  cases r.locate t <;> rfl

/-- **All that can become of an export.** -/
theorem resolveExport_cases (r : Registry) (m : Module) (exported : String) :
    ((∀ t, m.resolveImport exported = some t → r.PassedOver m t) ∧
      r.resolveExport m exported = .ok .skip) ∨
    ∃ t, m.resolveImport exported = some t ∧ ¬ r.PassedOver m t ∧
      ((r.candidates t = [] ∧
          r.resolveExport m exported = .error ⟨t.module, m.name, exported, r.names⟩) ∨
        (∃ s, r.definition? t = some s ∧ r.resolveExport m exported = .ok (.found s)) ∨
        (r.Lacks t ∧ r.resolveExport m exported = .ok (.missing t.qualified))) := by
  cases ht : m.resolveImport exported with
  | none =>
    left
    refine ⟨fun t h => (by cases h), ?_⟩
    rw [resolveExport, ht]
  | some t =>
    have heq := r.resolveExport_eq m exported t ht
    by_cases hp : r.PassedOver m t
    · left
      rw [if_pos hp] at heq
      exact ⟨fun u hu => by cases hu; exact hp, heq⟩
    · right
      refine ⟨t, rfl, hp, ?_⟩
      rw [if_neg hp] at heq
      by_cases hc : r.candidates t = []
      · rw [if_pos hc] at heq
        exact .inl ⟨hc, heq⟩
      · rw [if_neg hc] at heq
        cases hd : r.definition? t with
        | some s =>
          rw [hd] at heq
          exact .inr (.inl ⟨s, rfl, heq⟩)
        | none =>
          rw [hd] at heq
          have hl : r.locate t = none := Option.map_eq_none_iff.mp hd
          exact .inr (.inr ⟨⟨hc, (r.locate_eq_none_iff t).mp hl⟩, heq⟩)

theorem definition?_eq_none_of_lacks {r : Registry} {t : Target} (h : r.Lacks t) :
    r.definition? t = none := by
  rw [definition?, (r.locate_eq_none_iff t).mpr h.2, Option.map_none]

theorem candidates_ne_nil_of_definition? {r : Registry} {t : Target} {s : Symbol}
    (h : r.definition? t = some s) : r.candidates t ≠ [] := by
  obtain ⟨e, he, _⟩ := Option.map_eq_some_iff.mp h
  exact candidates_ne_nil_of_locate he

theorem resolveExport_eq_error_iff (r : Registry) (m : Module) (exported : String)
    (p : UnknownModule) :
    r.resolveExport m exported = .error p ↔
      ∃ t, r.Dangling m exported t ∧ p = ⟨t.module, m.name, exported, r.names⟩ := by
  constructor
  · intro h
    obtain ⟨_, he⟩ | ⟨t, ht, hp, ⟨hc, he⟩ | ⟨s, _, he⟩ | ⟨_, he⟩⟩ := r.resolveExport_cases m exported
    · rw [h] at he; cases he
    · rw [h] at he; cases he
      exact ⟨t, (r.dangling_iff m exported t).mpr ⟨ht, hp, hc⟩, rfl⟩
    · rw [h] at he; cases he
    · rw [h] at he; cases he
  · rintro ⟨t, hd, rfl⟩
    obtain ⟨ht, hp, hc⟩ := (r.dangling_iff m exported t).mp hd
    rw [r.resolveExport_eq m exported t ht, if_neg hp, if_pos hc]

/-- The symbol that an export brings into its module. -/
def found? (r : Registry) (m : Module) (exported : String) : Option Symbol :=
  match r.resolveExport m exported with
  | .ok (.found s) => some s
  | _ => none

/-- The symbols that the exports of a module bring into it, in the order of the
exports. -/
def found (r : Registry) (m : Module) : List Symbol := m.exports.filterMap (r.found? m)

/-- The miss that an export is recorded as: its target is neither passed over nor in
any of the candidates, of which there is at least one. -/
def miss? (r : Registry) (m : Module) (exported : String) : Option Miss :=
  (m.resolveImport exported).bind fun t =>
    if ¬ r.PassedOver m t ∧ r.Lacks t then some ⟨m.name, exported, t.qualified⟩ else none

theorem found?_eq_some_iff (r : Registry) (m : Module) (exported : String) (s : Symbol) :
    r.found? m exported = some s ↔ r.resolveExport m exported = .ok (.found s) := by
  unfold found?
  split <;> simp_all

theorem mem_found_iff (r : Registry) (m : Module) (s : Symbol) :
    s ∈ r.found m ↔ ∃ x ∈ m.exports, r.resolveExport m x = .ok (.found s) := by
  unfold found
  rw [List.mem_filterMap]
  simp only [found?_eq_some_iff]

theorem miss?_eq (r : Registry) (m : Module) (exported : String) :
    r.miss? m exported = match r.resolveExport m exported with
      | .ok (.missing target) => some ⟨m.name, exported, target⟩
      | _ => none := by
  unfold miss?
  obtain ⟨hp, he⟩ | ⟨t, ht, hp, ⟨hc, he⟩ | ⟨s, hs, he⟩ | ⟨hl, he⟩⟩ :=
    r.resolveExport_cases m exported
  · rw [he]
    cases ht : m.resolveImport exported with
    | none => rfl
    | some t => rw [Option.bind_some, if_neg fun h => h.1 (hp t ht)]
  · rw [he, ht, Option.bind_some, if_neg fun h => h.2.1 hc]
  · have hno : ¬ r.Lacks t := by
      intro hl
      rw [definition?_eq_none_of_lacks hl] at hs
      cases hs
    rw [he, ht, Option.bind_some, if_neg fun h => hno h.2]
  · rw [he, ht, Option.bind_some, if_pos ⟨hp, hl⟩]

theorem exists_ok_of_not_dangling {r : Registry} {m : Module} {exported : String}
    (h : ∀ t, ¬ r.Dangling m exported t) : ∃ x, r.resolveExport m exported = .ok x := by
  cases he : r.resolveExport m exported with
  | ok x => exact ⟨x, rfl⟩
  | error p =>
    obtain ⟨t, ht, _⟩ := (r.resolveExport_eq_error_iff m exported p).mp he
    exact absurd ht (h t)

end Registry

end RefBook
