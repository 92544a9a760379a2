import RefBook.Proofs.Module.Bindings

/-! # Chains of imports

A chain of imports ends at a definition, or it gets lost: it leaves the registry, names a
module, or runs in a circle. `Registry.follow` keeps the names that it has been sent to
and stops at the second visit. Each step visits another one of the targets that the
imports of the registry have, so it ends after at most as many steps as names are bound
and one more. Where no imported name has a point in it a visited name stands for one
target only. Then what is visited a second time is a circle, and no chain that would have
ended at a definition is given up. -/

namespace RefBook.Registry

/-- Where an imported name leads to: its target is not the name of a module, and `s` is
what the first candidate that knows the item means by it. -/
structure Leads (r : Registry) (m : Module) (item : String) (t : Target) (next : Module)
    (s : Symbol) : Prop where
  bound : m.resolveImport item = some t
  unregistered : r.contains t.qualified = false
  located : r.locate t = some (next, s)

/-- The chain of imports from `item` in `m` ends at `s`, which is no import, after so many
steps. Nothing is remembered on the way. -/
inductive Reaches (r : Registry) : (steps : Nat) → Module → String → Symbol → Prop
  | definition {m next : Module} {item : String} {t : Target} {s : Symbol}
      (h : r.Leads m item t next s) (hs : s.isImport = false) : Reaches r 1 m item s
  | through {m next : Module} {item : String} {t : Target} {i s : Symbol} {steps : Nat}
      (h : r.Leads m item t next i) (hi : i.isImport = true)
      (rest : Reaches r steps next t.item s) : Reaches r (steps + 1) m item s

/-- A run that follows imports and keeps the names it has been sent to, without a bound
on its length: `depth` calls inside one another give the answer. -/
inductive Follows (r : Registry) :
    (visited : List String) → Module → String → (depth : Nat) → (answer : Option Symbol) → Prop
  | lost {visited : List String} {m : Module} {item : String}
      (h : ∀ t next s, r.Leads m item t next s → t.qualified ∈ visited) :
      Follows r visited m item 1 none
  | definition {visited : List String} {m next : Module} {item : String} {t : Target} {s : Symbol}
      (h : r.Leads m item t next s) (hv : t.qualified ∉ visited) (hs : s.isImport = false) :
      Follows r visited m item 1 (some s)
  | through {visited : List String} {m next : Module} {item : String} {t : Target} {i : Symbol}
      {depth : Nat} {answer : Option Symbol}
      (h : r.Leads m item t next i) (hv : t.qualified ∉ visited) (hi : i.isImport = true)
      (rest : Follows r (t.qualified :: visited) next t.item depth answer) :
      Follows r visited m item (depth + 1) answer

variable {r : Registry} {m next : Module} {item : String} {t : Target} {s : Symbol}
  {visited : List String}

theorem Leads.unique {next' : Module} {t' : Target} {s' : Symbol} (h : r.Leads m item t next s)
    (h' : r.Leads m item t' next' s') : t = t' ∧ next = next' ∧ s = s' := by
  have ht : t = t' := Option.some.inj (h.bound.symm.trans h'.bound)
  subst ht
  obtain ⟨hnext, hs⟩ := Prod.mk.inj (Option.some.inj (h.located.symm.trans h'.located))
  exact ⟨rfl, hnext, hs⟩

theorem mem_of_locate (h : r.locate t = some (next, s)) :
    next ∈ r.toList ∧ next.lookup t.item = some s := by
  obtain ⟨c, hc, hlookup⟩ := List.exists_of_findSome?_eq_some h
  obtain ⟨u, hu, he⟩ := Option.map_eq_some_iff.mp hlookup
  cases he
  obtain ⟨name, _, hget⟩ := List.mem_filterMap.mp hc
  exact ⟨mem_toList_of_get? hget, hu⟩

theorem followFrom_of_leads (h : r.Leads m item t next s) (hv : t.qualified ∉ visited)
    (fuel : Nat) :
    r.followFrom (fuel + 1) visited m item =
      if s.isImport then r.followFrom fuel (t.qualified :: visited) next t.item else some s := by
  have hstop : (r.contains t.qualified || visited.contains t.qualified) = false := by
    simp [h.unregistered, hv]
  rw [followFrom, h.bound]
  simp only [hstop, Bool.false_eq_true, if_false, h.located]
  cases s <;> rfl

theorem followFrom_of_lost (h : ∀ t next s, r.Leads m item t next s → t.qualified ∈ visited)
    (fuel : Nat) : r.followFrom fuel visited m item = none := by
  cases fuel with
  | zero => rfl
  | succ fuel =>
    rw [followFrom]
    cases ht : m.resolveImport item with
    | none => rfl
    | some t =>
      simp only []
      split
      · rfl
      · rename_i hstop
        rw [Bool.or_eq_true, not_or, Bool.not_eq_true] at hstop
        cases hl : r.locate t with
        | none => rfl
        | some e =>
          have hmem := h t e.1 e.2 ⟨ht, hstop.1, hl⟩
          exact absurd (List.contains_iff_mem.mpr hmem) hstop.2

/-! ## Every run ends -/

def unvisited (r : Registry) (visited : List String) : List Target :=
  r.targets.filter fun t => t.qualified ∉ visited

theorem length_unvisited_lt (ht : t ∈ r.targets) (hv : t.qualified ∉ visited) :
    (r.unvisited (t.qualified :: visited)).length < (r.unvisited visited).length := by
  have hsub : r.unvisited (t.qualified :: visited) =
      (r.unvisited visited).filter fun u => u.qualified ≠ t.qualified := by
    unfold unvisited
    rw [List.filter_filter]
    congr 1
    funext u
    simp
  rw [hsub, List.length_filter_lt_length_iff_exists]
  exact ⟨t, List.mem_filter.mpr ⟨ht, decide_eq_true hv⟩, by simp⟩

theorem Leads.length_unvisited_lt (h : r.Leads m item t next s) (hm : m ∈ r.toList)
    (hv : t.qualified ∉ visited) :
    (r.unvisited (t.qualified :: visited)).length < (r.unvisited visited).length :=
  Registry.length_unvisited_lt (mem_targets hm h.bound) hv

theorem exists_follows (hm : m ∈ r.toList) (item : String) (visited : List String) :
    ∃ depth answer, r.Follows visited m item depth answer := by
  -- a step leaves fewer targets to be visited
  induction hn : (r.unvisited visited).length using Nat.strong_induction_on
    generalizing m item visited with
  | _ n ih =>
    subst hn
    by_cases hlead : ∃ t next s, r.Leads m item t next s ∧ t.qualified ∉ visited
    · obtain ⟨t, next, s, h, hv⟩ := hlead
      cases hs : s.isImport with
      | false => exact ⟨1, some s, .definition h hv hs⟩
      | true =>
        obtain ⟨depth, answer, hrest⟩ := ih _ (h.length_unvisited_lt hm hv)
          (mem_of_locate h.located).1 t.item _ rfl
        exact ⟨depth + 1, answer, .through h hv hs hrest⟩
    · refine ⟨1, none, .lost ?_⟩
      intro t next s h
      by_contra hv
      exact hlead ⟨t, next, s, h, hv⟩

namespace Follows

variable {depth : Nat} {answer : Option Symbol}

theorem depth_le (h : r.Follows visited m item depth answer) (hm : m ∈ r.toList) :
    depth ≤ (r.unvisited visited).length + 1 := by
  induction h with
  | lost => omega
  | definition => omega
  | through h hv _ _ ih =>
    have hrest := ih (mem_of_locate h.located).1
    have hlt := h.length_unvisited_lt hm hv
    omega

/-- With enough fuel the answer is that of the run. -/
theorem followFrom_eq (h : r.Follows visited m item depth answer) {fuel : Nat}
    (hfuel : depth ≤ fuel) : r.followFrom fuel visited m item = answer := by
  induction h generalizing fuel with
  | lost h => exact followFrom_of_lost h fuel
  | definition h hv hs =>
    obtain ⟨fuel, rfl⟩ : ∃ n, fuel = n + 1 := ⟨fuel - 1, by omega⟩
    rw [followFrom_of_leads h hv, hs, if_neg Bool.false_ne_true]
  | through h hv hi _ ih =>
    obtain ⟨fuel, rfl⟩ : ∃ n, fuel = n + 1 := ⟨fuel - 1, by omega⟩
    rw [followFrom_of_leads h hv, hi, if_pos rfl]
    exact ih (by omega)

/-- What a run answers is where the chain ends. -/
theorem reaches (h : r.Follows visited m item depth (some s)) : r.Reaches depth m item s := by
  generalize hanswer : some s = answer at h
  induction h with
  | lost => cases hanswer
  | definition h _ hs =>
    cases hanswer
    exact .definition h hs
  | through h _ hi _ ih => exact .through h hi (ih hanswer)

end Follows

/-! ## No definition is missed -/

namespace Reaches

variable {steps : Nat}

theorem isImport_eq_false (h : r.Reaches steps m item s) : s.isImport = false := by
  induction h with
  | definition _ hs => exact hs
  | through _ _ _ ih => exact ih

/-- A chain has one length. -/
theorem steps_unique {steps' : Nat} {s' : Symbol} (h : r.Reaches steps m item s)
    (h' : r.Reaches steps' m item s') : steps = steps' := by
  induction h generalizing steps' with
  | definition h hs =>
    cases h' with
    | definition => rfl
    | through h' hi' _ =>
      obtain ⟨_, _, rfl⟩ := h.unique h'
      rw [hs] at hi'
      cases hi'
  | through h hi _ ih =>
    cases h' with
    | definition h' hs' =>
      obtain ⟨_, _, rfl⟩ := h.unique h'
      rw [hi] at hs'
      cases hs'
    | through h' _ rest' =>
      obtain ⟨rfl, rfl, rfl⟩ := h.unique h'
      rw [ih rest']

end Reaches

/-- Each visited name led to an import that is at least so many steps away from `s`. -/
def Behind (r : Registry) (visited : List String) (steps : Nat) (s : Symbol) : Prop :=
  ∀ t : Target, '.' ∉ t.item.toList → t.qualified ∈ visited →
    ∃ next i k, r.locate t = some (next, i) ∧ i.isImport = true ∧ steps ≤ k ∧
      r.Reaches k next t.item s

/-- A chain that ends is not sent to a name that lies behind it. -/
theorem Behind.not_mem {steps : Nat} (hb : r.Behind visited steps s)
    (h : r.Reaches steps m item s) (hbound : m.resolveImport item = some t)
    (ht : '.' ∉ t.item.toList) : t.qualified ∉ visited := by
  intro hv
  obtain ⟨next, i, k, hlocate, hi, hle, hk⟩ := hb t ht hv
  cases h with
  | definition h hs =>
    cases hbound.symm.trans h.bound
    cases hlocate.symm.trans h.located
    rw [hs] at hi
    cases hi
  | through h _ rest =>
    cases hbound.symm.trans h.bound
    cases hlocate.symm.trans h.located
    have hlength := rest.steps_unique hk
    omega

/-- The next step keeps what lies behind. -/
theorem Behind.cons {steps : Nat} {i : Symbol} (hb : r.Behind visited (steps + 1) s)
    (ht : '.' ∉ t.item.toList) (hlocate : r.locate t = some (next, i)) (hi : i.isImport = true)
    (hrest : r.Reaches steps next t.item s) : r.Behind (t.qualified :: visited) steps s := by
  intro u hu hmem
  rcases List.mem_cons.mp hmem with he | hmem
  · cases Target.eq_of_qualified_eq hu ht he
    exact ⟨next, i, steps, hlocate, hi, Nat.le_refl _, hrest⟩
  · obtain ⟨next', i', k, hlocate', hi', hle, hk⟩ := hb u hu hmem
    exact ⟨next', i', k, hlocate', hi', by omega, hk⟩

/-- What the chain starts from lies behind it. -/
theorem behind_start {steps : Nat} (hm : m ∈ r.toList) {i : Import}
    (hi : m.lookup item = some (.imported i)) (hitem : '.' ∉ item.toList)
    (h : r.Reaches steps m item s) : r.Behind [m.name ++ "." ++ item] steps s := by
  intro t ht hmem
  have hname : t.qualified = (⟨m.name, item⟩ : Target).qualified := List.mem_singleton.mp hmem
  cases Target.eq_of_qualified_eq ht hitem hname
  have hlocate : r.locate ⟨m.name, item⟩ = some (m, .imported i) := by
    have hget : r.get? m.name = some m := (r.mem_toList_iff m).mp hm
    simp only [locate, candidates, List.filterMap_cons, hget, List.findSome?_cons, hi,
      Option.map_some]
  exact ⟨m, .imported i, steps, hlocate, rfl, Nat.le_refl _, h⟩

/-- Where a chain ends is what a run answers that has its names behind it. -/
theorem Reaches.follows {steps : Nat} (h : r.Reaches steps m item s)
    (hnames : ∀ c ∈ r.toList, ∀ i ∈ c.imports, i.Undotted) (hm : m ∈ r.toList)
    (hb : r.Behind visited steps s) : r.Follows visited m item steps (some s) := by
  induction h generalizing visited with
  | definition h hs =>
    have ht := Module.undotted_of_resolveImport (hnames _ hm) h.bound
    exact .definition h (hb.not_mem (.definition h hs) h.bound ht) hs
  | through h hi rest ih =>
    have ht := Module.undotted_of_resolveImport (hnames _ hm) h.bound
    exact .through h (hb.not_mem (.through h hi rest) h.bound ht) hi
      (ih (mem_of_locate h.located).1 (hb.cons ht h.located hi rest))

/-- **Imports are followed to their ends.** From an import of a registered module every
run comes to an end, after at most as many calls inside one another as names are bound by
imports and one more, and its answer is that of `follow`. What is answered is no import,
and the chain of imports ends there. And where no imported name has a point in it, every
definition that a chain ends at is answered, so no chain is given up that leads to one. -/
theorem follow_finds_what_imports_reach (r : Registry) (m : Module) (item : String)
    (hnames : ∀ c ∈ r.toList, ∀ i ∈ c.imports, i.Undotted) (hm : m ∈ r.toList)
    (himport : ∃ i, m.lookup item = some (.imported i)) (hitem : '.' ∉ item.toList) :
    (∃ depth, r.Follows [m.name ++ "." ++ item] m item depth (r.follow m item)) ∧
    (∀ depth answer, r.Follows [m.name ++ "." ++ item] m item depth answer →
      depth ≤ r.bindings + 1 ∧ answer = r.follow m item) ∧
    (∀ s, r.follow m item = some s ↔ ∃ steps, r.Reaches steps m item s) ∧
    ∀ s, r.follow m item = some s → s.isImport = false := by
  have hrun : ∀ depth answer, r.Follows [m.name ++ "." ++ item] m item depth answer →
      depth ≤ r.bindings + 1 ∧ answer = r.follow m item := by
    intro depth answer h
    have hdepth : depth ≤ r.bindings + 1 :=
      calc depth ≤ (r.unvisited [m.name ++ "." ++ item]).length + 1 := h.depth_le hm
        _ ≤ r.targets.length + 1 := Nat.succ_le_succ (List.length_filter_le _ _)
        _ ≤ r.bindings + 1 := Nat.succ_le_succ r.length_targets_le
    exact ⟨hdepth, (h.followFrom_eq hdepth).symm⟩
  obtain ⟨depth, answer, hends⟩ := exists_follows hm item [m.name ++ "." ++ item]
  obtain ⟨_, rfl⟩ := hrun depth answer hends
  refine ⟨⟨depth, hends⟩, hrun, ?_, ?_⟩
  · intro s
    constructor
    · intro hs
      rw [hs] at hends
      exact ⟨depth, hends.reaches⟩
    · rintro ⟨steps, hreaches⟩
      obtain ⟨i, hi⟩ := himport
      exact (hrun _ _ (hreaches.follows hnames hm (behind_start hm hi hitem hreaches))).2.symm
  · intro s hs
    rw [hs] at hends
    exact hends.reaches.isImport_eq_false

/-- A package whose name `x` comes from `pkg.a`, and `u` as well. -/
def roundModule : Module :=
  ⟨"pkg.__init__", none, [], [], [], [],
    [.selected (some "a") [⟨"x", none⟩, ⟨"u", none⟩] 1, .selected (some "b") [⟨"v", some "w"⟩] 1],
    ["x", "u"]⟩

/-- The modules of the package: `pkg.a` takes `x` from the package again, under another
name, and it comes in the end from `pkg.b`; the names `u` come from each other. -/
def roundPackage : Registry := .ofModules
  [roundModule,
   ⟨"pkg.a", none, [], [], [], [],
    [.whole "pkg.core" none, .selected (some "pkg") [⟨"w", some "x"⟩, ⟨"u", none⟩] 0], []⟩,
   ⟨"pkg.b", none, [], [], [⟨"v", some "1", none⟩], [], [], []⟩]

theorem roundPackage_follows :
    roundModule ∈ roundPackage.toList ∧ roundPackage.bindings = 6 ∧
    roundPackage.follow roundModule "x" = some (.variable ⟨"v", some "1", none⟩) ∧
    (∃ depth ≤ 7, roundPackage.Follows ["pkg.__init__.x"] roundModule "x" depth
      (some (.variable ⟨"v", some "1", none⟩))) ∧
    ∀ s steps, ¬ roundPackage.Reaches steps roundModule "u" s := by
  have hm : roundModule ∈ roundPackage.toList := (mem_toList_iff _ _).mpr rfl
  have hnames : ∀ c ∈ roundPackage.toList, ∀ i ∈ c.imports, i.Undotted := by decide
  have hreaches : roundPackage.Reaches 3 roundModule "x" (.variable ⟨"v", some "1", none⟩) := by
    refine .through (t := ⟨"pkg.a", "x"⟩) ⟨rfl, rfl, rfl⟩ rfl ?_
    refine .through (t := ⟨"pkg", "w"⟩) ⟨rfl, rfl, rfl⟩ rfl ?_
    exact .definition (t := ⟨"pkg.b", "v"⟩) ⟨rfl, rfl, rfl⟩ rfl
  obtain ⟨⟨depth, hrun⟩, hall, hfound, _⟩ := follow_finds_what_imports_reach roundPackage
    roundModule "x" hnames hm ⟨_, rfl⟩ (by decide)
  obtain ⟨_, _, hround, _⟩ := follow_finds_what_imports_reach roundPackage roundModule "u" hnames
    hm ⟨_, rfl⟩ (by decide)
  have hx := (hfound _).mpr ⟨3, hreaches⟩
  rw [hx] at hrun
  refine ⟨hm, rfl, hx, ⟨depth, (hall _ _ hrun).1, hrun⟩, ?_⟩
  intro s steps hs
  have hnone : roundPackage.follow roundModule "u" = some s := (hround s).mpr ⟨steps, hs⟩
  cases hnone

end RefBook.Registry
