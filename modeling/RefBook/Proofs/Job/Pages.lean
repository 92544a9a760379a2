import RefBook.Proofs.Job.Run
import RefBook.Proofs.Registry.Sources

/-! # What the pages hold after a run

The modules of a run have different names, but the file of a page is named without the
mark of a package. So a module and the package of the same name have one file between
them, and so have the summary and a package that is called like it. The files are written
in the order of the names and the summary comes last: the package wins over the module,
and the summary over everything. All other modules have their own page. -/

namespace RefBook

namespace Module

theorem displayNameOf_append (name : String) : displayNameOf (name ++ packageSuffix) = name := by
  obtain ⟨d, hd, hdisplay⟩ | ⟨hnot, _⟩ := displayNameOf_cases (name ++ packageSuffix)
  · rw [hdisplay]
    simpa using hd.symm
  · rw [String.toList_append] at hnot
    exact absurd (List.suffix_append _ _) hnot

/-- Of two names that are displayed alike one is the other with the mark of a package. -/
theorem eq_or_package_of_displayNameOf_eq {a b : String}
    (h : displayNameOf a = displayNameOf b) :
    a = b ∨ (displayNameOf a = a ∧ b = a ++ packageSuffix) ∨
      (displayNameOf b = b ∧ a = b ++ packageSuffix) := by
  obtain ⟨d, ha, hda⟩ | ⟨_, hda⟩ := displayNameOf_cases a <;>
    obtain ⟨d', hb, hdb⟩ | ⟨_, hdb⟩ := displayNameOf_cases b
  · left
    rw [ha, hb, ← hda, ← hdb, h]
  · right; right
    exact ⟨hdb, by rw [ha, ← hda, h, hdb]⟩
  · right; left
    exact ⟨hda, by rw [hb, ← hdb, ← h, hda]⟩
  · left
    rw [← hda, ← hdb, h]

theorem lt_append_packageSuffix (name : String) : name < name ++ packageSuffix := by
  have h : name.toList ++ [] < name.toList ++ packageSuffix.toList :=
    List.append_left_lt (by decide)
  rw [String.lt_iff, String.toList_append]
  simpa using h

theorem mem_of_mem_displayNameOf {c : Char} {name : String}
    (h : c ∈ (displayNameOf name).toList) : c ∈ name.toList := by
  obtain ⟨d, hname, hd⟩ | ⟨_, hd⟩ := displayNameOf_cases name
  · rw [hd] at h
    rw [hname, String.toList_append]
    exact List.mem_append_left _ h
  · rwa [hd] at h

end Module

namespace Page

theorem fileName_inj {a b : String} :
    fileName a = fileName b ↔ Module.displayNameOf a = Module.displayNameOf b := by
  simp [fileName]

theorem isName_of_ending {name : String} (h : '/' ∉ name.toList) : Path.IsName (name ++ ".md") :=
  Path.isName_append (c := 'm') h (by decide) (by decide) (by decide)

theorem isName_fileName {name : String} (h : '/' ∉ name.toList) : Path.IsName (fileName name) :=
  isName_of_ending fun hm => h (Module.mem_of_mem_displayNameOf hm)

end Page

namespace Registry

/-- The module whose page is written last to the file of `m`: the package that is
displayed like it, or else `m`. -/
def pageOwner (r : Registry) (m : Module) : Module :=
  (r.get? (m.displayName ++ Module.packageSuffix)).getD m

theorem pageOwner_cases (r : Registry) (m : Module) :
    (∃ p, r.get? (m.displayName ++ Module.packageSuffix) = some p ∧ r.pageOwner m = p) ∨
      (r.get? (m.displayName ++ Module.packageSuffix) = none ∧ r.pageOwner m = m) := by
  unfold pageOwner
  cases hp : r.get? (m.displayName ++ Module.packageSuffix) with
  | none => exact .inr ⟨rfl, rfl⟩
  | some p => exact .inl ⟨p, rfl, rfl⟩

theorem displayName_pageOwner (r : Registry) (m : Module) :
    (r.pageOwner m).displayName = m.displayName := by
  obtain ⟨p, hp, howner⟩ | ⟨_, howner⟩ := r.pageOwner_cases m
  · rw [howner, Module.displayName, name_of_get? hp, Module.displayNameOf_append]
  · rw [howner]

theorem pageOwner_mem {r : Registry} {m : Module} (hm : m ∈ r.toList) :
    r.pageOwner m ∈ r.toList := by
  obtain ⟨p, hp, howner⟩ | ⟨_, howner⟩ := r.pageOwner_cases m
  · rw [howner]
    exact mem_toList_of_get? hp
  · rwa [howner]

/-- No module with a later name has its page in the same file. -/
theorem displayName_ne_of_pageOwner_lt {r : Registry} {m a : Module} (ha : a ∈ r.toList)
    (hlt : (r.pageOwner m).name < a.name) : a.displayName ≠ m.displayName := by
  intro he
  rw [← r.displayName_pageOwner m] at he
  rcases Module.eq_or_package_of_displayNameOf_eq he with hsame | ⟨_, hp⟩ | ⟨hplain, hp⟩
  · rw [hsame] at hlt
    exact String.lt_irrefl _ hlt
  · rw [hp] at hlt
    exact String.lt_irrefl _ (String.lt_trans hlt (Module.lt_append_packageSuffix _))
  · -- `a` is the package that is displayed like `m`, and so the owner itself
    have hget : r.get? (m.displayName ++ Module.packageSuffix) = some a := by
      rw [← r.displayName_pageOwner m, Module.displayName, hplain, ← hp]
      exact (mem_toList_iff r a).mp ha
    rw [pageOwner, hget] at hlt
    exact String.lt_irrefl _ hlt

/-- The modules after one in the list have later names. -/
theorem lt_of_toList_eq {r : Registry} {before after : List Module} {m a : Module}
    (h : r.toList = before ++ m :: after) (ha : a ∈ after) : m.name < a.name := by
  have hnames := r.names_ascending
  rw [names_eq_map, List.pairwise_map, h, List.pairwise_append] at hnames
  exact (List.pairwise_cons.mp hnames.2.1).1 a ha

end Registry

namespace Job

theorem isName_summary : Path.IsName "SUMMARY.md" :=
  @Page.isName_of_ending "SUMMARY" (by decide)

/-- The file of a module holds the page of its owner, unless the summary takes it. -/
theorem read_page_of_writeAll {job : Job} {template : Option String} {r : Registry} {t t' : Tree}
    (hslash : ∀ m ∈ r.toList, '/' ∉ m.name.toList)
    (h : t.writeAll (job.pages r ++ [job.summary template r]) = .ok t') {m : Module}
    (hm : m ∈ r.toList) (hsummary : m.displayName ≠ "SUMMARY") :
    t'.read (Path.join job.output (Page.fileName m.name)) =
      .ok (Page.render job.options (r.pageOwner m)) := by
  obtain ⟨before, after, hlist⟩ := List.append_of_mem (Registry.pageOwner_mem hm)
  have hfile : Page.fileName (r.pageOwner m).name = Page.fileName m.name :=
    Page.fileName_inj.mpr (r.displayName_pageOwner m)
  rw [pages, hlist, List.map_append, List.map_cons, hfile, List.append_assoc,
    List.cons_append] at h
  refine Tree.read_of_writeAll (Page.isName_fileName (hslash m hm)) ?_ h
  intro file hmem
  rcases List.mem_append.mp hmem with hmem | hmem
  · obtain ⟨a, ha, rfl⟩ := List.mem_map.mp hmem
    have hlater := Registry.lt_of_toList_eq hlist ha
    have hlisted : a ∈ r.toList := by
      rw [hlist]
      exact List.mem_append_right _ (List.mem_cons_of_mem _ ha)
    refine ⟨Page.fileName a.name, Page.isName_fileName (hslash a hlisted), ?_, rfl⟩
    intro he
    exact Registry.displayName_ne_of_pageOwner_lt hlisted hlater (Page.fileName_inj.mp he).symm
  · rw [List.mem_singleton.mp hmem]
    refine ⟨"SUMMARY.md", isName_summary, ?_, rfl⟩
    intro he
    exact hsummary ((String.append_left_inj ".md").mp he)

theorem read_summary_of_writeAll {job : Job} {template : Option String} {r : Registry}
    {t t' : Tree} (h : t.writeAll (job.pages r ++ [job.summary template r]) = .ok t') :
    t'.read (Path.join job.output "SUMMARY.md") = .ok (Summary.render template r.contents) :=
  Tree.read_of_writeAll isName_summary (by simp) h

/-- A run finishes if the modules can be read, the directory of the pages is there and
no file that is to be written is a directory. -/
theorem exists_run {job : Job} {t t₁ t₂ : Tree} {template : Option String} {r : Registry}
    {report : Report} {dir : Place} (htemplate : job.readTemplate t = .ok template)
    (hbuild : Registry.build t job.root job.exclude = .ok (r, report))
    (hmodel : t.writeAll (job.modelFiles r) = .ok t₁)
    (hmade : t₁.createDirectories job.output = .ok t₂)
    (hw : t₂.walk t₂.base.place (Path.allSteps job.output) = .ok dir)
    (hd : t₂.node? dir = some .directory)
    (hfree : ∀ name ∈ "SUMMARY.md" :: r.toList.map (Page.fileName ·.name),
      t₂.node? (dir ++ [name]) ≠ some .directory) :
    ∃ outcome t', job.run t = (.ok outcome, t') := by
  rw [List.forall_mem_cons] at hfree
  have hfiles : ∀ file ∈ job.pages r ++ [job.summary template r], ∃ name, Path.IsName name ∧
      file.1 = Path.join job.output name ∧ t₂.node? (dir ++ [name]) ≠ some .directory := by
    intro file hfile
    rcases List.mem_append.mp hfile with hfile | hfile
    · obtain ⟨m, hm, rfl⟩ := List.mem_map.mp hfile
      have hslash := Registry.slash_not_mem_of_build hbuild hm
      exact ⟨_, Page.isName_fileName hslash, rfl, hfree.2 _ (List.mem_map_of_mem hm)⟩
    · rw [List.mem_singleton.mp hfile]
      exact ⟨_, isName_summary, rfl, hfree.1⟩
  obtain ⟨t', hwrites⟩ := Tree.exists_writeAll hw hd hfiles
  exact ⟨_, t', run_eq_ok_iff.mpr
    ⟨template, r, report, t₁, t₂, htemplate, hbuild, hmodel, hmade, hwrites, rfl⟩⟩

/-- **What the files hold after a run.** A run that finishes leaves the summary in its
file, and in the file of each other module the page of the package that is displayed like
it, or its own page if there is none. So a module has its own page if no other module is
displayed like it, and if it is not displayed like the summary. -/
theorem pages_after_run {job : Job} {t t' : Tree} {outcome : Outcome}
    (h : job.run t = (.ok outcome, t')) :
    ∃ template r report, job.readTemplate t = .ok template ∧
      Registry.build t job.root job.exclude = .ok (r, report) ∧
      t'.read (Path.join job.output "SUMMARY.md") = .ok (Summary.render template r.contents) ∧
      (∀ m ∈ r.toList, t'.read (Path.join job.output (Page.fileName m.name)) =
        .ok (if m.displayName = "SUMMARY" then Summary.render template r.contents
          else Page.render job.options (r.pageOwner m))) ∧
      ∀ m ∈ r.toList, m.displayName ≠ "SUMMARY" →
        (∀ a ∈ r.toList, a.displayName = m.displayName → a = m) →
        t'.read (Path.join job.output (Page.fileName m.name)) =
          .ok (Page.render job.options m) := by
  obtain ⟨template, r, report, _, t₂, htemplate, hbuild, _, _, hwrites, _⟩ := run_eq_ok_iff.mp h
  have hslash : ∀ m ∈ r.toList, '/' ∉ m.name.toList :=
    fun m => Registry.slash_not_mem_of_build hbuild
  have hsummary := read_summary_of_writeAll hwrites
  refine ⟨template, r, report, htemplate, hbuild, hsummary, ?_, ?_⟩
  · intro m hm
    by_cases hname : m.displayName = "SUMMARY"
    · rw [if_pos hname, ← hsummary, Page.fileName, ← Module.displayName, hname]
      rfl
    · rw [if_neg hname]
      exact read_page_of_writeAll hslash hwrites hm hname
  · intro m hm hname honly
    have howner : r.pageOwner m = m :=
      honly _ (Registry.pageOwner_mem hm) (r.displayName_pageOwner m)
    rw [read_page_of_writeAll hslash hwrites hm hname, howner]

/-- A package with a module and a package of the same name, and another module. -/
def twinFiles : Tree := .ofFiles [] [
  (["pkg", "a", "__init__.py"], .file (some "")), (["pkg", "a.py"], .file (some "")),
  (["pkg", "b.py"], .file (some ""))]

def twinJob : Job := ⟨"pkg", "out", none, [], none, .standard⟩

def bareModule (name : String) : Module := ⟨name, none, [], [], [], [], [], []⟩

def twinModules : Registry :=
  .ofModules [bareModule "pkg.a", bareModule "pkg.a.__init__", bareModule "pkg.b"]

theorem build_twinFiles :
    Registry.build twinFiles twinJob.root twinJob.exclude = .ok (twinModules, ⟨0, []⟩) := rfl

theorem twinJob_finishes : ∃ outcome t', twinJob.run twinFiles = (.ok outcome, t') := by
  have hmade : twinFiles.createDirectories "out" = .ok (twinFiles.set ["out"] .directory) := rfl
  exact exists_run rfl build_twinFiles rfl hmade rfl rfl (by decide)

theorem twinJob_pages :
    ∃ outcome t', twinJob.run twinFiles = (.ok outcome, t') ∧
      t'.read "out/pkg.a.md" = .ok "# package `pkg.a`\n\n" ∧
      t'.read "out/pkg.b.md" = .ok "# module `pkg.b`\n\n" ∧
      t'.read "out/SUMMARY.md" = .ok (Summary.render none twinModules.contents) := by
  obtain ⟨outcome, t', hrun⟩ := twinJob_finishes
  obtain ⟨template, r, report, htemplate, hbuild, hsummary, hpages, hown⟩ :=
    pages_after_run hrun
  cases htemplate
  rw [build_twinFiles] at hbuild
  cases hbuild
  refine ⟨outcome, t', hrun, ?_, ?_, hsummary⟩
  · exact hpages (bareModule "pkg.a") (.head _)
  · refine hown (bareModule "pkg.b") (.tail _ (.tail _ (.head _))) (by decide) ?_
    intro a ha hdisplay
    have hlisted : a ∈ [bareModule "pkg.a", bareModule "pkg.a.__init__", bareModule "pkg.b"] := ha
    simp only [List.mem_cons, List.not_mem_nil, or_false] at hlisted
    rcases hlisted with rfl | rfl | rfl
    · exact absurd hdisplay (by decide)
    · exact absurd hdisplay (by decide)
    · rfl

/-- The page of a module is lost if there is a package of the same name. -/
theorem module_page_overwritten :
    ¬ ∀ (job : Job) (t t' : Tree) (outcome : Outcome) (r : Registry) (report : Report),
      job.run t = (.ok outcome, t') →
      Registry.build t job.root job.exclude = .ok (r, report) →
      ∀ m ∈ r.toList, t'.read (Path.join job.output (Page.fileName m.name)) =
        .ok (Page.render job.options m) := by
  intro h
  obtain ⟨outcome, t', hrun⟩ := twinJob_finishes
  have hpage := h twinJob twinFiles t' outcome twinModules ⟨0, []⟩ hrun build_twinFiles
  -- both pages are expected in one file, and their titles differ
  have hmodule : t'.read "out/pkg.a.md" = .ok "# module `pkg.a`\n\n" :=
    hpage (bareModule "pkg.a") (.head _)
  have hpackage : t'.read "out/pkg.a.md" = .ok "# package `pkg.a`\n\n" :=
    hpage (bareModule "pkg.a.__init__") (.tail _ (.head _))
  rw [hmodule] at hpackage
  exact absurd (Except.ok.inj hpackage) (by decide)

end Job

end RefBook
