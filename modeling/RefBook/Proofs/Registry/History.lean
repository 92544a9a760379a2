import Mathlib.Data.List.Induction
import RefBook.Proofs.Module.Growth
import RefBook.Proofs.Registry.Order

/-! # The history of a registry

A registry starts empty and is changed in three ways: a module is inserted, a symbol is
added to a registered module, and all exports are resolved. `perform_cases` says once
what a change does: it registers a new module, or it splices symbols into the modules
that are there, or it fails and does nothing. So a run keeps what was inserted: every
module is the one that was inserted under its name, grown at the ends of its lists. -/

namespace RefBook.Registry

inductive Change
  | insert (m : Module)
  /-- Adds a symbol to the registered module of that name. -/
  | push (name : String) (s : Symbol)
  | resolve

inductive Answer
  | done
  /-- No module of that name is registered. -/
  | unregistered
  | refused (p : Extract.Problem)
  | resolved (report : Report)
  | unresolved (p : UnknownModule)

/-- Whether the change was not made. -/
def Answer.failed : Answer → Bool
  | .done | .resolved _ => false
  | .unregistered | .refused _ | .unresolved _ => true

/-- The registry after a change, and what is answered. Resolution works in place, so
it leaves what its run leaves, also when it fails. -/
def perform (r : Registry) : Change → Registry × Answer
  | .insert m =>
    match r.insert m with
    | .ok r' => (r', .done)
    | .error p => (r, .refused p)
  | .push name s => if r.contains name then (r.push name s, .done) else (r, .unregistered)
  | .resolve =>
    match exec (resolveInPlace r.toList) r with
    | (.ok report, r') => (r', .resolved report)
    | (.error p, r') => (r', .unresolved p)

/-- The registry after a list of changes to the empty one. -/
def after (changes : List Change) : Registry :=
  changes.foldl (fun r change => (r.perform change).1) empty

/-- The module of that name that a change asks to insert. -/
def Change.module? (name : String) : Change → Option Module
  | .insert m => if m.name = name then some m else none
  | .push _ _ | .resolve => none

/-- The module that was inserted under the name: the first of that name, since a later
one is refused. -/
def inserted? (changes : List Change) (name : String) : Option Module :=
  changes.findSome? (·.module? name)

theorem contains_eq_false_iff (r : Registry) (name : String) :
    r.contains name = false ↔ r.get? name = none := by
  unfold contains get? Dict.contains
  rw [Option.isSome_eq_false_iff, Option.isNone_iff_eq_none]

theorem push_eq_splice (r : Registry) (name : String) (s : Symbol) :
    r.push name s = (r.splice [(name, s)]).1 := rfl

/-- **All that a change can do.** It registers a module under a name that was free, it
splices symbols into the registered modules, or it fails and leaves everything as it
is; and the count that a resolution reports is the growth of the registry. -/
theorem perform_cases (r : Registry) (change : Change) :
    (∃ m, change = .insert m ∧ r.get? m.name = none ∧ r.perform change = (r.set m, .done)) ∨
    ((∀ m, change ≠ .insert m) ∧ ∃ l answer, r.perform change = ((r.splice l).1, answer) ∧
      answer.failed = false ∧
      ∀ report, answer = .resolved report →
        (r.splice l).1.symbolCount = r.symbolCount + report.spliced) ∨
    ((∀ m, change = .insert m → r.get? m.name ≠ none) ∧
      ∃ answer, r.perform change = (r, answer) ∧ answer.failed = true) := by
  cases change with
  | insert m =>
    cases hc : r.contains m.name with
    | false =>
      left
      refine ⟨m, rfl, (r.contains_eq_false_iff m.name).mp hc, ?_⟩
      simp only [perform, insert, hc, Bool.false_eq_true, if_false]
    | true =>
      right; right
      refine ⟨?_, .refused (.duplicateModule m.name), ?_, rfl⟩
      · intro m' hm hn
        cases hm
        rw [(r.contains_eq_false_iff m.name).mpr hn] at hc
        cases hc
      · simp only [perform, insert, hc, if_true]
  | push name s =>
    cases hc : r.contains name with
    | false =>
      right; right
      refine ⟨fun m hm => (by cases hm), .unregistered, ?_, rfl⟩
      simp only [perform, hc, Bool.false_eq_true, if_false]
    | true =>
      right; left
      refine ⟨fun m hm => (by cases hm), [(name, s)], .done, ?_, rfl, fun report h => (by cases h)⟩
      simp only [perform, hc, if_true, push_eq_splice]
  | resolve =>
    by_cases hs : r.Settled r.toList
    · right; left
      refine ⟨fun m hm => (by cases hm), r.additionsOf r.toList,
        .resolved ⟨(r.splice (r.additionsOf r.toList)).2, r.missesOf r.toList⟩, ?_, rfl, ?_⟩
      · simp only [perform, exec_resolveInPlace_of_settled hs]
      · intro report h
        cases h
        exact r.symbolCount_splice _
    · right; right
      obtain ⟨m, x, t, hf⟩ := exists_firstDangling hs
      refine ⟨fun m hm => (by cases hm), .unresolved ⟨t.module, m.name, x, r.names⟩, ?_, rfl⟩
      simp only [perform, exec_resolveInPlace_of_firstDangling hf]

theorem names_of_perform {r : Registry} {change : Change} {name : String}
    (h : (r.perform change).1.contains name = true) :
    r.contains name = true ∨ ∃ m, change = .insert m ∧ m.name = name := by
  obtain ⟨m, rfl, _, hp⟩ | ⟨_, l, answer, hp, _⟩ | ⟨_, answer, hp, _⟩ := r.perform_cases change
  · by_cases hn : m.name = name
    · exact .inr ⟨m, rfl, hn⟩
    · left
      rw [hp] at h
      have hg := r.get?_set m name
      rw [if_neg (Ne.symm hn)] at hg
      rw [← Bool.not_eq_false, contains_eq_false_iff] at h ⊢
      rwa [hg] at h
  · rw [hp] at h
    left
    rwa [contains_iff_mem_names, names_splice, ← contains_iff_mem_names] at h
  · rw [hp] at h
    exact .inl h

/-- A change takes no module away, and alters one only at the ends of its lists. -/
theorem grown_of_perform {r : Registry} (change : Change) {name : String} {m : Module}
    (h : r.get? name = some m) :
    ∃ m', (r.perform change).1.get? name = some m' ∧ m.Grown m' ∧
      (m.Distinct → m'.Distinct) := by
  obtain ⟨m₁, rfl, hfree, hp⟩ | ⟨_, l, answer, hp, _⟩ | ⟨_, answer, hp, _⟩ :=
    r.perform_cases change
  · have hne : name ≠ m₁.name := by
      rintro rfl
      rw [hfree] at h
      cases h
    refine ⟨m, ?_, .refl m, id⟩
    rw [hp, get?_set, if_neg hne, h]
  · refine ⟨(symbolsFor name l).foldl Module.push m, ?_, Module.grown_foldl_push _ m,
      fun hd => hd.foldl_push _⟩
    rw [hp, get?_splice, h, Option.map_some]
  · exact ⟨m, by rw [hp, h], .refl m, id⟩

theorem after_concat (changes : List Change) (change : Change) :
    after (changes ++ [change]) = ((after changes).perform change).1 := by
  simp [after]

theorem inserted?_concat (changes : List Change) (change : Change) (name : String) :
    inserted? (changes ++ [change]) name =
      (inserted? changes name).or (change.module? name) := by
  simp [inserted?, List.findSome?_append]

/-- A change that does not insert a module of the name has none of it. -/
theorem Change.module?_eq_none {change : Change} {name : String}
    (h : ∀ m, change = .insert m → m.name ≠ name) : change.module? name = none := by
  cases change with
  | insert m => exact if_neg (h m rfl)
  | push _ _ => rfl
  | resolve => rfl

/-- Every registered module is the one that was inserted under its name, grown. -/
theorem rel_after (changes : List Change) (name : String) :
    Option.Rel (fun m₀ m => m₀.Grown m ∧ (m₀.Distinct → m.Distinct))
      (inserted? changes name) ((after changes).get? name) := by
  induction changes using List.reverseRecOn with
  | nil => exact .none
  | append_singleton changes change ih =>
    rw [inserted?_concat, after_concat]
    generalize inserted? changes name = i at ih
    generalize hg : (after changes).get? name = g at ih
    cases ih with
    | some hrel =>
      -- the module is there, and it only grows
      obtain ⟨m', hm', hgrown, hdistinct⟩ := grown_of_perform change hg
      rw [hm', Option.some_or]
      exact .some ⟨hrel.1.trans hgrown, fun hd => hdistinct (hrel.2 hd)⟩
    | none =>
      rw [Option.none_or]
      obtain ⟨m, rfl, _, hp⟩ | ⟨hno, l, answer, hp, _⟩ | ⟨hfull, answer, hp, _⟩ :=
        (after changes).perform_cases change
      · rw [hp, get?_set, Change.module?]
        by_cases hn : m.name = name
        · rw [if_pos hn, if_pos hn.symm]
          exact .some ⟨.refl m, id⟩
        · rw [if_neg hn, if_neg (Ne.symm hn), hg]
          exact .none
      · rw [Change.module?_eq_none fun m hm => absurd hm (hno m), hp, get?_splice, hg]
        exact .none
      · rw [hp, hg, Change.module?_eq_none ?_]
        · exact .none
        · rintro m hm rfl
          exact hfull m hm hg

/-- Only a resolution that succeeds answers with a report. -/
theorem resolve_of_perform {r r' : Registry} {change : Change} {report : Report}
    (h : r.perform change = (r', .resolved report)) : r.resolve = .ok (r', report) := by
  cases change with
  | insert m =>
    rw [perform] at h
    cases hi : r.insert m <;> rw [hi] at h <;> cases h
  | push name s =>
    rw [perform] at h
    split at h <;> cases h
  | resolve =>
    rw [perform, exec_resolveInPlace_toList] at h
    cases hr : r.resolve with
    | error p => rw [hr] at h; cases h
    | ok out => rw [hr] at h; cases h; rfl

/-- **What every history keeps.** After any changes to the empty registry each module
stands under its own name; it is the module that was inserted there, with the same
documentation and exports and with symbols only added at the ends of its lists; and if
that one had no two symbols of one kind and name, it has none either. A further change
that fails leaves the registry as it is, only an insertion adds a name, no module is
taken away or altered but by growing, and the count that a resolution reports is the
growth of all lists together. -/
theorem history_keeps_inserted (changes : List Change) :
    (∀ name, (after changes).contains name = (inserted? changes name).isSome) ∧
    (∀ name m, (after changes).get? name = some m → m.name = name ∧
      ∃ m₀, inserted? changes name = some m₀ ∧ m₀.Grown m ∧ (m₀.Distinct → m.Distinct)) ∧
    ∀ change r' answer, (after changes).perform change = (r', answer) →
      (answer.failed = true → r' = after changes) ∧
      (∀ name, r'.contains name = true →
        (after changes).contains name = true ∨ ∃ m, change = .insert m ∧ m.name = name) ∧
      (∀ name m, (after changes).get? name = some m →
        ∃ m', r'.get? name = some m' ∧ m.Grown m') ∧
      ∀ report, answer = .resolved report →
        (after changes).resolve = .ok (r', report) ∧
        r'.symbolCount = (after changes).symbolCount + report.spliced := by
  refine ⟨?_, ?_, ?_⟩
  · intro name
    have hrel := rel_after changes name
    change ((after changes).get? name).isSome = _
    generalize inserted? changes name = i, (after changes).get? name = g at hrel ⊢
    cases hrel <;> rfl
  · intro name m hm
    have hrel := rel_after changes name
    rw [hm] at hrel
    generalize inserted? changes name = i at hrel ⊢
    cases hrel with
    | some h => exact ⟨name_of_get? hm, _, rfl, h⟩
  · intro change r' answer hp
    refine ⟨?_, ?_, ?_, ?_⟩
    · intro hf
      obtain ⟨m, _, _, he⟩ | ⟨_, l, a, he, ha, _⟩ | ⟨_, a, he, _⟩ :=
        (after changes).perform_cases change
      · rw [hp] at he; cases he; cases hf
      · rw [hp] at he; cases he; rw [ha] at hf; cases hf
      · rw [hp] at he; cases he; rfl
    · intro name hn
      apply names_of_perform
      rw [hp]
      exact hn
    · intro name m hm
      obtain ⟨m', hm', hg, _⟩ := grown_of_perform change hm
      rw [hp] at hm'
      exact ⟨m', hm', hg⟩
    · rintro report rfl
      refine ⟨resolve_of_perform hp, ?_⟩
      obtain ⟨m, _, _, he⟩ | ⟨_, l, a, he, _, hc⟩ | ⟨_, a, he, ha⟩ :=
        (after changes).perform_cases change
      · rw [hp] at he; cases he
      · rw [hp] at he; cases he; exact hc report rfl
      · rw [hp] at he; cases he; cases ha

/-- Two modules are inserted, one of them twice; then a variable is added that is there
already, and one that is new. -/
def twoInsertions : List Change :=
  [.insert ⟨"pkg.a", some "A.", [], [], [⟨"v", some "1", none⟩], [], [], []⟩,
   .insert ⟨"pkg.__init__", none, [], [], [], [],
    [.selected (some "a") [⟨"u", none⟩, ⟨"v", none⟩] 1], ["u", "v"]⟩,
   .insert ⟨"pkg.a", none, [], [], [], [], [], ["w"]⟩,
   .push "pkg.a" (.variable ⟨"v", some "2", none⟩),
   .push "pkg.a" (.variable ⟨"u", some "3", none⟩)]

theorem twoInsertions_keeps :
    ∃ m r', (after twoInsertions).get? "pkg.a" = some m ∧
      m.vars = [⟨"v", some "1", none⟩, ⟨"u", some "3", none⟩] ∧
      Module.Grown ⟨"pkg.a", some "A.", [], [], [⟨"v", some "1", none⟩], [], [], []⟩ m ∧
      m.Distinct ∧
      (after twoInsertions).perform .resolve = (r', .resolved ⟨2, []⟩) ∧
      r'.symbolCount = (after twoInsertions).symbolCount + 2 := by
  obtain ⟨_, hkeeps, hnext⟩ := history_keeps_inserted twoInsertions
  have hm : (after twoInsertions).get? "pkg.a" = some _ := rfl
  have hp : (after twoInsertions).perform .resolve = (_, .resolved ⟨2, []⟩) := rfl
  obtain ⟨_, m₀, h₀, hgrown, hdistinct⟩ := hkeeps _ _ hm
  cases h₀
  exact ⟨_, _, hm, rfl, hgrown, hdistinct ⟨by decide, by decide, by decide, by decide, by decide⟩,
    hp, ((hnext _ _ _ hp).2.2.2 _ rfl).2⟩

end RefBook.Registry
