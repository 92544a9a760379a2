import Mathlib.Data.List.Nodup
import RefBook.Proofs.Contents.Pages

/-! # Where the table of contents leads

The table puts the path of each page together again while it goes down its trees, and the
file of a page is named after its module without a look at the table. The two agree as
long as the name starts with something: an empty path is taken for the start of the
table, so the points that a name starts with are lost on the way down. All names of a
package start like its root, so either all links are right or none is. -/

namespace RefBook

namespace Contents

/-- A name without the points at its start. -/
def undotted (name : String) : String := String.ofList (name.toList.dropWhile (· == '.'))

def entriesOf (names : List String) : List Entry := entries 0 "" (ofNames names)

/-- The files that the table of contents links to, in its order. -/
def linksOf (names : List String) : List String := (entriesOf names).map Entry.link

theorem render_eq (names : List String) :
    render names = String.join ((entriesOf names).map Entry.line) :=
  renderFrom_eq 0 "" (ofNames names)

theorem foldl_extendPath_of_ne {path : String} (h : path ≠ "") (segments : List String) :
    segments.foldl extendPath path = dotted (path :: segments) := by
  induction segments generalizing path with
  | nil => rw [List.foldl_nil, dotted_singleton]
  | cons s segments ih =>
    have hext : extendPath path s = path ++ "." ++ s := by simp [extendPath, h]
    have hne : path ++ "." ++ s ≠ "" := by simp
    rw [List.foldl_cons, hext, ih hne]
    cases segments with
    | nil => simp [dotted]
    | cons t segments => simp [dotted, String.append_assoc]

theorem undotted_eq_self {name : String} (h : name.toList.head? ≠ some '.') :
    undotted name = name := by
  unfold undotted
  cases hc : name.toList with
  | nil => rw [← String.toList_inj, hc]; rfl
  | cons c t =>
    rw [hc, List.head?_cons, ne_eq, Option.some.injEq] at h
    rw [List.dropWhile_cons, if_neg (by simpa using h), ← hc, String.ofList_toList]

theorem undotted_dot (name : String) : undotted ("." ++ name) = undotted name := by
  simp [undotted]

/-- Going down the trees gives the name of the page back, without points at its start. -/
theorem foldl_extendPath {segments : List String} (h : ∀ s ∈ segments, '.' ∉ s.toList) :
    segments.foldl extendPath "" = undotted (dotted segments) := by
  induction segments with
  | nil => rfl
  | cons s segments ih =>
    rw [List.forall_mem_cons] at h
    have hstart : extendPath "" s = s := by simp [extendPath]
    rw [List.foldl_cons, hstart]
    by_cases hs : s = ""
    · -- nothing was added, so the next segment is taken for the first
      subst hs
      rw [ih h.2]
      cases segments with
      | nil => rfl
      | cons t segments =>
        rw [← undotted_dot]
        simp [dotted]
    · rw [foldl_extendPath_of_ne hs, undotted_eq_self]
      intro hhead
      have hlist : s.toList ≠ [] := fun he => hs (String.toList_eq_nil_iff.mp he)
      obtain ⟨c, t, hc⟩ := List.exists_cons_of_ne_nil hlist
      have hfirst : (dotted (s :: segments)).toList.head? = some c := by
        rw [dotted, String.toList_intercalate, List.map_cons, hc]
        cases segments <;> simp
      rw [hfirst] at hhead
      cases hhead
      exact h.1 (by simp [hc])

theorem link_of_page (name : String) :
    (components name).foldl extendPath "" = undotted name := by
  rw [foldl_extendPath fun s hs => dot_not_mem_of_mem_components hs, dotted_components]

theorem linksOf_eq_map (names : List String) :
    linksOf names = (pages (ofNames names)).map fun p => p.foldl extendPath "" ++ ".md" := by
  rw [linksOf, entriesOf, entries_eq_map, List.map_map]
  rfl

/-- The table of contents links to the public modules, by their names without points
at the start. -/
theorem mem_linksOf_iff (names : List String) (link : String) :
    link ∈ linksOf names ↔
      ∃ n ∈ names, IsPublic n ∧ link = undotted (Module.displayNameOf n) ++ ".md" := by
  rw [linksOf_eq_map, List.mem_map]
  constructor
  · rintro ⟨p, hp, rfl⟩
    obtain ⟨n, hn, hpublic, rfl⟩ := (mem_pages_ofNames names p).mp hp
    exact ⟨n, hn, hpublic, by rw [link_of_page]⟩
  · rintro ⟨n, hn, hpublic, rfl⟩
    refine ⟨components (Module.displayNameOf n), ?_, by rw [link_of_page]⟩
    exact (mem_pages_ofNames names _).mpr ⟨n, hn, hpublic, rfl⟩

/-- No file is linked twice if the names differ by more than the points at their
start. -/
theorem nodup_linksOf {names : List String}
    (h : ∀ a ∈ names, ∀ b ∈ names, undotted (Module.displayNameOf a) =
      undotted (Module.displayNameOf b) → Module.displayNameOf a = Module.displayNameOf b) :
    (linksOf names).Nodup := by
  rw [linksOf_eq_map]
  refine List.Nodup.map_on ?_ (nodup_pages_ofNames names)
  intro p hp q hq he
  obtain ⟨a, ha, _, rfl⟩ := (mem_pages_ofNames names p).mp hp
  obtain ⟨b, hb, _, rfl⟩ := (mem_pages_ofNames names q).mp hq
  rw [link_of_page, link_of_page] at he
  rw [h a ha b hb (String.append_left_inj _ |>.mp he)]

theorem head?_undotted (name : String) : (undotted name).toList.head? ≠ some '.' := by
  rw [undotted, String.toList_ofList]
  intro h
  have hd := List.head?_dropWhile_not (fun c => c == '.') name.toList
  rw [h] at hd
  simp at hd

theorem undotted_of_start {root name : String} (hne : root ≠ "")
    (hroot : root.toList.head? ≠ some '.') (h : root.toList <+: name.toList) :
    undotted name = name := by
  have hlist : root.toList ≠ [] := fun he => hne (String.toList_eq_nil_iff.mp he)
  obtain ⟨t, ht⟩ := h
  apply undotted_eq_self
  rwa [← ht, List.head?_append_of_ne_nil _ hlist]

/-- Names that start alike, and not only with points, are told apart by what follows
the points. -/
theorem eq_of_undotted_eq {root a b : String} (hroot : ∃ c ∈ root.toList, c ≠ '.')
    (ha : root.toList <+: a.toList) (hb : root.toList <+: b.toList)
    (h : undotted a = undotted b) : a = b := by
  have hpoints : ∀ t, (root.toList ++ t).takeWhile (· == '.') =
      root.toList.takeWhile (· == '.') := by
    intro t
    obtain ⟨c, hc, hne⟩ := hroot
    rw [List.takeWhile_append, if_neg]
    intro hlen
    rw [← (List.takeWhile_prefix _).eq_of_length hlen] at hc
    exact hne (by simpa using List.all_eq_true.mp List.all_takeWhile c hc)
  obtain ⟨s, hs⟩ := ha
  obtain ⟨t, ht⟩ := hb
  have hdrop : a.toList.dropWhile (· == '.') = b.toList.dropWhile (· == '.') := by
    have hlist := congrArg String.toList h
    rwa [undotted, undotted, String.toList_ofList, String.toList_ofList] at hlist
  rw [← String.toList_inj, ← List.takeWhile_append_dropWhile (p := (· == '.')) (l := a.toList),
    hdrop, ← hs, hpoints, ← hpoints t, ht, List.takeWhile_append_dropWhile]

/-- **The table of contents links to the public pages if the root has no point at its
start.** The table is the lines of its entries. It links to the public modules, each by
its name without points at the start, and to none of them twice unless the root is all
points. So where the root starts with another character the links are exactly the files of
the public pages; and where it starts with a point, no public page is linked at all. -/
theorem contents_link_public_pages (root : String) (paths names : List String)
    (hroot : root ≠ "") (hpaths : ∀ p ∈ paths, Path.sourceSuffix <:+ p.toList)
    (hnames : names = paths.map (Path.moduleName root)) :
    render names = String.join ((entriesOf names).map Entry.line) ∧
    (∀ link, link ∈ linksOf names ↔
      ∃ n ∈ names, IsPublic n ∧ link = undotted (Module.displayNameOf n) ++ ".md") ∧
    ((∃ c ∈ root.toList, c ≠ '.') → (linksOf names).Nodup) ∧
    (root.toList.head? ≠ some '.' → ∀ link, link ∈ linksOf names ↔
      ∃ n ∈ names, IsPublic n ∧ link = Page.fileName n) ∧
    (root.toList.head? = some '.' → ∀ n ∈ names, Page.fileName n ∉ linksOf names) := by
  have hstart : ∀ n ∈ names, root.toList <+: (Module.displayNameOf n).toList := by
    intro n hn
    rw [hnames] at hn
    obtain ⟨p, hp, rfl⟩ := List.mem_map.mp hn
    exact Path.prefix_displayNameOf root (Path.parts_ne_nil (hpaths p hp))
  refine ⟨render_eq names, mem_linksOf_iff names, ?_, ?_, ?_⟩
  · intro hpoints
    apply nodup_linksOf
    intro a ha b hb he
    exact eq_of_undotted_eq hpoints (hstart a ha) (hstart b hb) he
  · intro hhead link
    rw [mem_linksOf_iff]
    constructor
    · rintro ⟨n, hn, hpublic, rfl⟩
      exact ⟨n, hn, hpublic, by rw [undotted_of_start hroot hhead (hstart n hn), Page.fileName]⟩
    · rintro ⟨n, hn, hpublic, rfl⟩
      exact ⟨n, hn, hpublic, by rw [undotted_of_start hroot hhead (hstart n hn), Page.fileName]⟩
  · intro hhead n hn hlink
    obtain ⟨n', _, _, he⟩ := (mem_linksOf_iff names _).mp hlink
    have hsame : Module.displayNameOf n = undotted (Module.displayNameOf n') :=
      (String.append_left_inj ".md").mp he
    -- the name of the page starts with a point, and no link does
    apply head?_undotted (Module.displayNameOf n')
    obtain ⟨t, ht⟩ := hstart n hn
    have hlist : root.toList ≠ [] := fun he => hroot (String.toList_eq_nil_iff.mp he)
    rw [← hsame, ← ht, List.head?_append_of_ne_nil _ hlist, hhead]

/-- The modules of a package with a package inside it and a private module. -/
def toolsPackage : List String :=
  ["pkg.__init__", "pkg._impl", "pkg.tools.__init__", "pkg.tools.shapes"]

theorem toolsPackage_links :
    toolsPackage = ["__init__.py", "_impl.py", "tools/__init__.py", "tools/shapes.py"].map
      (Path.moduleName "pkg") ∧
    (linksOf toolsPackage).Nodup ∧ "pkg.md" ∈ linksOf toolsPackage ∧
    "pkg.tools.md" ∈ linksOf toolsPackage ∧ "pkg.tools.shapes.md" ∈ linksOf toolsPackage ∧
    "pkg._impl.md" ∉ linksOf toolsPackage := by
  have hnames : toolsPackage =
      ["__init__.py", "_impl.py", "tools/__init__.py", "tools/shapes.py"].map
        (Path.moduleName "pkg") := by decide
  obtain ⟨_, _, hnodup, hlinks, _⟩ := contents_link_public_pages "pkg" _ toolsPackage (by decide)
    (by decide) hnames
  have hmem := hlinks (by decide)
  refine ⟨hnames, hnodup ⟨'p', by simp, by decide⟩, ?_, ?_, ?_, ?_⟩
  · exact (hmem _).mpr (by decide)
  · exact (hmem _).mpr (by decide)
  · exact (hmem _).mpr (by decide)
  · rw [hmem]
    decide

/-- The page of a module in a directory whose name starts with a point is not linked. -/
theorem hidden_root_not_linked :
    ¬ ∀ (root : String) (paths names : List String), root ≠ "" →
      (∀ p ∈ paths, Path.sourceSuffix <:+ p.toList) →
      names = paths.map (Path.moduleName root) →
      (linksOf names).Nodup ∧
        ∀ link, link ∈ linksOf names ↔ ∃ n ∈ names, IsPublic n ∧ link = Page.fileName n := by
  intro h
  have hclaim := (h ".hidden" ["mod.py"] [".hidden.mod"] (by decide) (by decide) (by decide)).2
  have hlinked : ".hidden.mod.md" ∈ linksOf [".hidden.mod"] := (hclaim _).mpr (by decide)
  rw [mem_linksOf_iff] at hlinked
  revert hlinked
  decide

end Contents

end RefBook
