import RefBook.Job
import RefBook.Proofs.Tree.Write

/-! # Runs that finish

A run is put together from the runs of its parts, and it finishes exactly if all of them
do: the template and the modules are read from the files as they were at the start, then
come the file of structured data, the directory, the pages and the summary. -/

namespace RefBook.Job

variable {α β : Type}

/-- What an action answers on files, and the files that it leaves. -/
def exec (a : Action α) (t : Tree) : Except Error α × Tree := a.run.run t

/-- The action, started on `t`, returns `x` and leaves `t'`. -/
def Returns (a : Action α) (t : Tree) (x : α) (t' : Tree) : Prop := exec a t = (.ok x, t')

theorem returns_bind {a : Action α} {f : α → Action β} {t t' : Tree} {y : β} :
    Returns (a >>= f) t y t' ↔ ∃ x t₁, Returns a t x t₁ ∧ Returns (f x) t₁ y t' := by
  unfold Returns exec
  rw [ExceptT.run_bind, StateT.run_bind]
  obtain ⟨e | x, t₁⟩ := a.run.run t
  · constructor
    · intro h
      cases h
    · rintro ⟨_, _, h, _⟩
      cases h
  · constructor
    · exact fun h => ⟨x, t₁, rfl, h⟩
    · rintro ⟨_, _, h, hf⟩
      cases h
      exact hf

theorem returns_pure {x y : α} {t t' : Tree} :
    Returns (pure x) t y t' ↔ x = y ∧ t = t' := by
  change (Except.ok x, t) = (.ok y, t') ↔ _
  rw [Prod.mk.injEq, Except.ok.injEq]

theorem returns_get {t x t' : Tree} : Returns get t x t' ↔ t = x ∧ t = t' := by
  change (Except.ok t, t) = (.ok x, t') ↔ _
  rw [Prod.mk.injEq, Except.ok.injEq]

theorem returns_lift {r : Except Error α} {x : α} {t t' : Tree} :
    Returns (liftM r) t x t' ↔ r = .ok x ∧ t = t' := by
  change (r, t) = (.ok x, t') ↔ _
  rw [Prod.mk.injEq]

theorem returns_attempt {path : String} {change : Tree → Except Fault Tree} {t t' : Tree} :
    Returns (attempt path change) t () t' ↔ change t = .ok t' := by
  unfold attempt
  simp only [returns_bind, returns_get]
  constructor
  · rintro ⟨_, _, ⟨rfl, rfl⟩, h⟩
    cases hc : change t with
    | error f =>
      rw [hc] at h
      cases h
    | ok t₁ =>
      rw [hc] at h
      cases h
      rfl
  · intro hc
    refine ⟨t, t, ⟨rfl, rfl⟩, ?_⟩
    rw [hc]
    rfl

/-- Files are written one after the other. -/
theorem returns_forM_writeFile {files : List (String × String)} {t t' : Tree} :
    Returns (files.forM fun (path, text) => writeFile path text) t () t' ↔
      t.writeAll files = .ok t' := by
  induction files generalizing t with
  | nil =>
    change Returns (pure ()) t () t' ↔ Except.ok t = .ok t'
    simp [returns_pure]
  | cons file files ih =>
    change Returns (writeFile file.1 file.2 >>= fun _ =>
      files.forM fun (path, text) => writeFile path text) t () t' ↔ _
    rw [returns_bind, Tree.writeAll_cons_eq_ok]
    constructor
    · rintro ⟨_, t₁, hfirst, hrest⟩
      exact ⟨t₁, returns_attempt.mp hfirst, ih.mp hrest⟩
    · rintro ⟨t₁, hfirst, hrest⟩
      exact ⟨(), t₁, returns_attempt.mpr hfirst, ih.mpr hrest⟩

/-- What comes last: the directory, the pages and the summary. -/
def writeOut (job : Job) (template : Option String) (r : Registry) (o : Outcome) :
    Action Outcome := do
  attempt job.output (·.createDirectories job.output)
  (job.pages r).forM fun (path, text) => writeFile path text
  writeFile (job.summary template r).1 (job.summary template r).2
  return o

theorem returns_writeOut {job : Job} {template : Option String} {r : Registry} {o x : Outcome}
    {t t' : Tree} :
    Returns (job.writeOut template r o) t x t' ↔
      ∃ t₁, t.createDirectories job.output = .ok t₁ ∧
        t₁.writeAll (job.pages r ++ [job.summary template r]) = .ok t' ∧ x = o := by
  unfold writeOut
  simp only [returns_bind, returns_pure]
  constructor
  · rintro ⟨_, t₁, hdir, _, t₂, hpages, _, t₃, hsummary, rfl, rfl⟩
    refine ⟨t₁, returns_attempt.mp hdir, ?_, rfl⟩
    rw [Tree.writeAll_append_eq_ok]
    refine ⟨t₂, returns_forM_writeFile.mp hpages, ?_⟩
    exact Tree.writeAll_cons_eq_ok.mpr ⟨t₃, returns_attempt.mp hsummary, rfl⟩
  · rintro ⟨t₁, hdir, hwrites, rfl⟩
    obtain ⟨t₂, hpages, hsummary⟩ := Tree.writeAll_append_eq_ok.mp hwrites
    obtain ⟨t₃, hwrite, hnone⟩ := Tree.writeAll_cons_eq_ok.mp hsummary
    exact ⟨(), t₁, returns_attempt.mpr hdir, (), t₂, returns_forM_writeFile.mpr hpages, (), t₃,
      returns_attempt.mpr hwrite, rfl, Except.ok.inj hnone⟩

/-- The file of structured data, if one is asked for. -/
def modelFiles (job : Job) (r : Registry) : List (String × String) :=
  (job.modelFile.map (·, r.toJson.render)).toList

theorem act_eq (job : Job) : job.act = (do
    let template ← job.readTemplate (← get)
    let (r, report) ← Registry.build (← get) job.root job.exclude
    (job.modelFiles r).forM fun (path, text) => writeFile path text
    job.writeOut template r ⟨r.size, (job.pages r).map (·.1), (job.summary template r).1,
      report.spliced, report.misses.length⟩) := by
  unfold act modelFiles
  cases job.modelFile with
  | none => rfl
  | some path => simp [writeOut]

/-- A run finishes exactly if each of its parts does. -/
theorem run_eq_ok_iff {job : Job} {t t' : Tree} {outcome : Outcome} :
    job.run t = (.ok outcome, t') ↔
      ∃ template r report t₁ t₂, job.readTemplate t = .ok template ∧
        Registry.build t job.root job.exclude = .ok (r, report) ∧
        t.writeAll (job.modelFiles r) = .ok t₁ ∧ t₁.createDirectories job.output = .ok t₂ ∧
        t₂.writeAll (job.pages r ++ [job.summary template r]) = .ok t' ∧
        outcome = ⟨r.size, (job.pages r).map (·.1), (job.summary template r).1, report.spliced,
          report.misses.length⟩ := by
  change Returns job.act t outcome t' ↔ _
  simp only [act_eq, returns_bind, returns_get, returns_writeOut]
  constructor
  · rintro ⟨_, _, ⟨rfl, rfl⟩, template, _, hread, _, _, ⟨rfl, rfl⟩, ⟨r, report⟩, _, hbuilt,
      _, t₁, hmodel, t₂, hdir, hwrites, ho⟩
    obtain ⟨htemplate, rfl⟩ := returns_lift.mp hread
    obtain ⟨hbuild, rfl⟩ := returns_lift.mp hbuilt
    exact ⟨template, r, report, t₁, t₂, htemplate, hbuild, returns_forM_writeFile.mp hmodel, hdir,
      hwrites, ho⟩
  · rintro ⟨template, r, report, t₁, t₂, htemplate, hbuild, hmodel, hdir, hwrites, ho⟩
    exact ⟨t, t, ⟨rfl, rfl⟩, template, t, returns_lift.mpr ⟨htemplate, rfl⟩, t, t, ⟨rfl, rfl⟩,
      (r, report), t, returns_lift.mpr ⟨hbuild, rfl⟩, (), t₁, returns_forM_writeFile.mpr hmodel, t₂,
      hdir, hwrites, ho⟩

end RefBook.Job
