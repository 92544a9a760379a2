import Mathlib.Data.List.Dedup
import Mathlib.Data.List.Lex
import Mathlib.Data.List.Sort
import Mathlib.Data.String.Basic
import RefBook.Proofs.Contents.Links

/-! # The table of contents as a sorted list

The table of contents is filled one module at a time and printed tree by tree. What comes
out is a list that could be made at once: the paths of the public modules, each of them
once and in ascending order, with one line for each path. So neither the order of the
modules nor how often one is named shows in the table. -/

namespace RefBook.Contents

/-- The paths of the public modules in ascending order, each of them once. A path comes
before those that go on from it. -/
def listing (names : List String) : List (List String) :=
  ((names.map fun n => components (Module.displayNameOf n)).filter
    fun path => !path.any isPrivate).dedup.mergeSort (· ≤ ·)

/-- The line of a path: its last segment, two blanks further in for each segment before
it, with a link to the file of the path. -/
def lineOf (path : List String) : String :=
  String.ofList (List.replicate (2 * (path.length - 1)) ' ') ++
    "- [`" ++ path.getLastD "" ++ "`](" ++ dotted path ++ ".md)\n\n"

theorem mem_listing (names : List String) (p : List String) :
    p ∈ listing names ↔ ∃ n ∈ names, IsPublic n ∧ p = components (Module.displayNameOf n) := by
  simp only [listing, List.mem_mergeSort, List.mem_dedup, List.mem_filter, List.mem_map]
  constructor
  · rintro ⟨⟨n, hn, rfl⟩, hpublic⟩
    exact ⟨n, hn, by simpa [IsPublic] using hpublic, rfl⟩
  · rintro ⟨n, hn, hpublic, rfl⟩
    exact ⟨⟨n, hn, rfl⟩, by simpa [IsPublic] using hpublic⟩

/-- The pages of a table of contents are the listing of its modules, in whatever order and
however often these are named. -/
theorem pages_ofNames {names names' : List String} (h : ∀ n, n ∈ names' ↔ n ∈ names) :
    pages (ofNames names') = listing names := by
  have hordered : Ordered (ofNames names') :=
    (foldl_insert (c := nil) (names'.filterMap pathOf?) trivial).1
  have hnodup : (listing names).Nodup := by
    rw [listing, (List.mergeSort_perm _ _).nodup_iff]
    exact List.nodup_dedup _
  have hperm : (pages (ofNames names')).Perm (listing names) := by
    rw [List.perm_ext_iff_of_nodup (nodup_pages_ofNames names') hnodup]
    intro p
    simp only [mem_pages_ofNames, mem_listing, h]
  exact hperm.eq_of_pairwise (fun _ _ _ _ => le_antisymm)
    (hordered.pairwise_pages.imp le_of_lt) (List.pairwise_mergeSort' (· ≤ ·) _)

/-- A name without the mark of a package starts like the name. -/
theorem head?_displayNameOf {name : String} (h : name.toList.head? ≠ some '.') :
    (Module.displayNameOf name).toList.head? ≠ some '.' := by
  obtain ⟨d, hd, hdisplay⟩ | ⟨_, hdisplay⟩ := Module.displayNameOf_cases name
  · intro hhead
    rw [hdisplay] at hhead
    rw [hd, String.toList_append, List.head?_append, hhead] at h
    exact h rfl
  · rwa [hdisplay]

/-- **The table of contents is a sorted list.** If no name starts with a point, the table
is made of the lines of the public paths, each once, in ascending order. The same modules
in another order, or named several times, give the same table. -/
theorem render_eq_listing (names : List String) (h : ∀ n ∈ names, n.toList.head? ≠ some '.') :
    render names = String.join ((listing names).map lineOf) ∧
    ∀ names', (∀ n, n ∈ names' ↔ n ∈ names) → render names' = render names := by
  have hrender : ∀ names', (∀ n, n ∈ names' ↔ n ∈ names) →
      render names' = String.join ((listing names).map lineOf) := by
    intro names' hsame
    rw [render_eq, entriesOf, entries_eq_map, pages_ofNames hsame, List.map_map]
    congr 1
    refine List.map_congr_left fun p hp => ?_
    obtain ⟨n, hn, _, rfl⟩ := (mem_listing names p).mp hp
    have hpath := undotted_eq_self (head?_displayNameOf (h n hn))
    simp only [Function.comp_apply, Entry.line, Nat.zero_add, link_of_page, hpath, lineOf,
      dotted_components]
    rfl
  have hnames := hrender names fun n => Iff.rfl
  refine ⟨hnames, ?_⟩
  intro names' hsame
  rw [hnames, hrender names' hsame]

/-- Modules in no order, one of them named twice: a package, a module below a package that
is not among them, a private module and another one. -/
def shuffledPackage : List String :=
  ["pkg.tools", "pkg.__init__", "pkg._impl", "pkg.a.b", "pkg.tools"]

theorem shuffledPackage_listed :
    render shuffledPackage =
      "- [`pkg`](pkg.md)\n\n    - [`b`](pkg.a.b.md)\n\n  - [`tools`](pkg.tools.md)\n\n" ∧
    render (shuffledPackage.drop 1).reverse = render shuffledPackage := by
  obtain ⟨hlines, hsame⟩ := render_eq_listing shuffledPackage (by decide)
  have hmem : ∀ n, n ∈ (shuffledPackage.drop 1).reverse ↔ n ∈ shuffledPackage := by
    grind [shuffledPackage]
  refine ⟨hlines.trans ?_, hsame _ hmem⟩
  rw [listing, List.mergeSort_eq_insertionSort]
  decide +kernel

end RefBook.Contents
