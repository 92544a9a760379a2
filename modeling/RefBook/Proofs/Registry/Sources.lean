import RefBook.Job
import RefBook.Proofs.Registry.Files
import RefBook.Proofs.Registry.Order
import RefBook.Proofs.Tree.Write

/-! # Names of the modules of a package

A module is called after its file: the name of the package, and then what the path of the
file gives. The name of a package is that of a directory. So the names of modules have no
slashes, and resolution does not change them. -/

namespace RefBook

theorem Path.slash_not_mem_of_fileName? {path name : String} (h : fileName? path = some name) :
    '/' ∉ name.toList := by
  unfold fileName? at h
  split at h
  · rename_i step hlast
    cases h
    exact slash_not_mem_of_down (List.mem_filter.mp (List.mem_of_getLast? hlast)).1
  · cases h

/-- Steps lead to a place whose names have no slashes, if they start at one. -/
theorem Tree.slash_not_mem_of_walk {t : Tree} {steps : List Path.Step} {start place : Place}
    (hstart : ∀ name ∈ start, '/' ∉ name.toList)
    (hsteps : ∀ name, .down name ∈ steps → '/' ∉ name.toList)
    (h : t.walk start steps = .ok place) : ∀ name ∈ place, '/' ∉ name.toList := by
  induction steps generalizing start with
  | nil =>
    cases h
    exact hstart
  | cons s steps ih =>
    simp only [walk] at h
    split at h
    · cases h
    · cases h
    · refine ih ?_ (fun name hn => hsteps name (List.mem_cons_of_mem s hn)) h
      cases s with
      | top => simp [move]
      | here => exact hstart
      | up => exact fun name hn => hstart name (List.dropLast_subset start hn)
      | down name =>
        simp only [move, List.mem_append, List.mem_singleton]
        rintro _ (hn | rfl)
        · exact hstart _ hn
        · exact hsteps _ List.mem_cons_self

theorem Tree.walk_of_find {t : Tree} {path : String} {found : Place × Node}
    (h : t.find path = .ok found) : t.walk t.base.place (Path.allSteps path) = .ok found.1 := by
  unfold find at h
  cases hempty : path.isEmpty with
  | true =>
    rw [hempty] at h
    cases h
  | false =>
    rw [hempty] at h
    cases hw : t.walk t.base.place (Path.allSteps path) with
    | error f =>
      rw [hw] at h
      cases h
    | ok place =>
      simp only [hw, bind, Except.bind, pure, Except.pure, Bool.false_eq_true, if_false] at h
      split at h
      · cases h
      · split at h
        · cases h
        · cases h
          rfl
      · cases h
        rfl

theorem Sources.slash_not_mem_packageName {t : Tree} {root name : String}
    (h : packageName t root = .ok name) : '/' ∉ name.toList := by
  unfold packageName at h
  split at h
  · rename_i hname
    cases h
    exact Path.slash_not_mem_of_fileName? hname
  · split at h
    · cases h
    · rename_i place node hfind
      split at h
      · rename_i hlast
        cases h
        exact Tree.slash_not_mem_of_walk t.base.no_slash (fun _ => Path.slash_not_mem_of_down)
          (Tree.walk_of_find hfind) _ (List.mem_of_getLast? hlast)
      · cases h

namespace Registry

/-- The modules are called after files below the root. -/
def NamedAfterFiles (root : String) (r : Registry) : Prop :=
  ∀ name ∈ r.names, ∃ path, name = Path.moduleName root path

theorem namedAfterFiles_of_ofSources {root : String} {files : List (String × List Char)}
    {r : Registry} (h : ofSources root files = .ok r) : NamedAfterFiles root r := by
  intro name hname
  rw [← contains_iff_mem_names, (madeOf_of_ofSources h).contains_iff, List.mem_map] at hname
  obtain ⟨file, _, rfl⟩ := hname
  exact ⟨file.1, rfl⟩

theorem names_resolve {r r' : Registry} {report : Report} (h : r.resolve = .ok (r', report)) :
    r'.names = r.names := by
  rw [resolve_of_settled (settled_of_resolve h)] at h
  cases h
  exact r.names_splice _

/-- The modules of a run have names without slashes. -/
theorem slash_not_mem_of_build {t : Tree} {root : String} {exclude : List String} {r : Registry}
    {report : Report} (h : build t root exclude = .ok (r, report)) {m : Module}
    (hm : m ∈ r.toList) : '/' ∉ m.name.toList := by
  unfold build at h
  simp only [bind_eq_ok, mapError_eq_ok] at h
  obtain ⟨files, _, package, hpackage, extracted, hsources, hresolve⟩ := h
  have hnames : NamedAfterFiles package extracted := namedAfterFiles_of_ofSources hsources
  have hm' : m.name ∈ extracted.names := by
    rw [← names_resolve hresolve, names_eq_map]
    exact List.mem_map_of_mem hm
  obtain ⟨path, hpath⟩ := hnames _ hm'
  rw [hpath]
  exact Path.slash_not_mem_moduleName (Sources.slash_not_mem_packageName hpackage) path

end Registry

end RefBook
