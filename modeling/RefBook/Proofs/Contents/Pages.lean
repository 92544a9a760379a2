import RefBook.Contents
import RefBook.Proofs.Path.Names

/-! # The pages of a table of contents

A table of contents is a row of trees, filled one path at a time. `pages` lists the
paths that end in a page. An insertion adds its own path and no other, and the segments
of each row ascend, so that no path is listed twice. The printed table is the list of its
entries, one for each of these paths in the same order. -/

namespace RefBook.Contents

/-- The paths that end in a page, in the order of the table. -/
def pages : Contents → List (List String)
  | nil => []
  | cons segment page below beside =>
    (if page then [[segment]] else []) ++ (pages below).map (segment :: ·) ++ pages beside

/-- The segments at the top of the trees of a row. -/
def segments : Contents → List String
  | nil => []
  | cons segment _ _ beside => segment :: segments beside

/-- The segments of every row ascend. -/
def Ordered : Contents → Prop
  | nil => True
  | cons segment _ below beside =>
    (∀ t ∈ segments beside, segment < t) ∧ Ordered below ∧ Ordered beside

/-- What the line of a page shows. -/
structure Entry where
  level : Nat
  segment : String
  path : String
deriving DecidableEq, Repr

def Entry.line (e : Entry) : String := entryLine e.level e.segment e.path

/-- The file that the line links to. -/
def Entry.link (e : Entry) : String := e.path ++ ".md"

/-- The entries of a row that starts at a level, below a path. -/
def entries (level : Nat) (path : String) : Contents → List Entry
  | nil => []
  | cons segment page below beside =>
    (if page then [⟨level, segment, extendPath path segment⟩] else []) ++
      entries (level + 1) (extendPath path segment) below ++ entries level path beside

theorem mem_pages_cons {segment : String} {page : Bool} {below beside : Contents}
    {p : List String} :
    p ∈ pages (cons segment page below beside) ↔
      page = true ∧ p = [segment] ∨ (∃ q ∈ pages below, p = segment :: q) ∨
        p ∈ pages beside := by
  cases page <;> simp [pages, eq_comm]

theorem not_mem_pages_nil (p : List String) : p ∉ pages nil := List.not_mem_nil

theorem nil_not_mem_pages (c : Contents) : [] ∉ pages c := by
  induction c with
  | nil => simp [pages]
  | cons segment page below beside _ ih => simp [mem_pages_cons, ih]

theorem head_mem_segments {c : Contents} {s : String} {path : List String}
    (h : s :: path ∈ pages c) : s ∈ segments c := by
  induction c with
  | nil => simp [pages] at h
  | cons segment page below beside _ ih =>
    rw [segments, List.mem_cons]
    rcases mem_pages_cons.mp h with ⟨_, he⟩ | ⟨p, _, he⟩ | h
    · cases he
      exact .inl rfl
    · cases he
      exact .inl rfl
    · exact .inr (ih h)

/-- An insertion adds its own path and no other. -/
theorem mem_pages_insert (path : List String) (c : Contents) (p : List String) :
    p ∈ pages (insert path c) ↔ p = path ∧ path ≠ [] ∨ p ∈ pages c := by
  fun_induction insert path c generalizing p with
  | case1 c => simp
  | case2 s path ih =>
    simp only [mem_pages_cons, ih, not_mem_pages_nil, List.isEmpty_iff]
    grind
  | case3 path t page below beside ih =>
    simp only [mem_pages_cons, ih, Bool.or_eq_true, List.isEmpty_iff]
    grind
  | case4 s path t page below beside hne hlt ih =>
    rw [mem_pages_cons]
    simp only [ih, not_mem_pages_nil, List.isEmpty_iff]
    grind
  | case5 s path t page below beside hne hlt ih =>
    simp only [mem_pages_cons, ih]
    grind

theorem mem_segments_insert {path : List String} {c : Contents} {t : String}
    (h : t ∈ segments (insert path c)) : path.head? = some t ∨ t ∈ segments c := by
  fun_induction insert path c with
  | case1 c => exact .inr h
  | case2 s path _ => simp_all [segments]
  | case3 path s page below beside _ => simp_all [segments]
  | case4 s path u page below beside _ _ _ =>
    rw [segments, List.mem_cons] at h
    rcases h with rfl | h
    · exact .inl rfl
    · exact .inr h
  | case5 s path u page below beside _ _ ih =>
    rw [segments, List.mem_cons] at h ⊢
    rcases h with rfl | h
    · exact .inr (.inl rfl)
    · rcases ih h with h | h
      · exact .inl h
      · exact .inr (.inr h)

theorem Ordered.insert {c : Contents} (h : Ordered c) (path : List String) :
    Ordered (insert path c) := by
  fun_induction Contents.insert path c with
  | case1 c => exact h
  | case2 s path ih => exact ⟨by simp [segments], ih trivial, trivial⟩
  | case3 path t page below beside ih => exact ⟨h.1, ih h.2.1, h.2.2⟩
  | case4 s path t page below beside hne hlt ih =>
    refine ⟨?_, ih trivial, h⟩
    intro u hu
    rcases List.mem_cons.mp hu with rfl | hu
    · exact hlt
    · exact String.lt_trans hlt (h.1 u hu)
  | case5 s path t page below beside hne hlt ih =>
    refine ⟨?_, h.2.1, ih h.2.2⟩
    intro u hu
    rcases mem_segments_insert hu with hs | hu
    · cases hs
      exact Std.lt_of_le_of_ne (String.not_lt.1 hlt) (Ne.symm hne)
    · exact h.1 u hu

/-- The pages of ordered trees are in ascending order. -/
theorem Ordered.pairwise_pages {c : Contents} (h : Ordered c) : (pages c).Pairwise (· < ·) := by
  induction c with
  | nil => exact .nil
  | cons segment page below beside ihBelow ihBeside =>
    obtain ⟨hlt, hbelow, hbeside⟩ := h
    have hmap : ((pages below).map (segment :: ·)).Pairwise (· < ·) :=
      (ihBelow hbelow).map _ fun _ _ hpq => List.cons_lt_cons_iff.mpr (.inr ⟨rfl, hpq⟩)
    have hhere : ∀ p ∈ pages below, [segment] < segment :: p := by
      intro p hp
      obtain ⟨s, q, rfl⟩ := List.exists_cons_of_ne_nil (l := p) fun he =>
        nil_not_mem_pages below (he ▸ hp)
      exact List.cons_lt_cons_iff.mpr (.inr ⟨rfl, List.nil_lt_cons s q⟩)
    -- a path beside starts with a segment that comes after this one
    have hbehind : ∀ p, ∀ q ∈ pages beside, segment :: p < q := by
      intro p q hq
      obtain ⟨s, q, rfl⟩ := List.exists_cons_of_ne_nil (l := q) fun he =>
        nil_not_mem_pages beside (he ▸ hq)
      exact List.cons_lt_cons_iff.mpr (.inl (hlt s (head_mem_segments hq)))
    rw [pages, List.pairwise_append, List.pairwise_append]
    refine ⟨⟨by cases page <;> simp, hmap, ?_⟩, ihBeside hbeside, ?_⟩
    · intro p hp q hq
      obtain ⟨r, hr, rfl⟩ := List.mem_map.mp hq
      cases page with
      | false => cases hp
      | true =>
        cases List.mem_singleton.mp hp
        exact hhere r hr
    · intro p hp q hq
      rcases List.mem_append.mp hp with hp | hp
      · cases page with
        | false => cases hp
        | true =>
          cases List.mem_singleton.mp hp
          exact hbehind [] q hq
      · obtain ⟨r, _, rfl⟩ := List.mem_map.mp hp
        exact hbehind r q hq

theorem Ordered.nodup_pages {c : Contents} (h : Ordered c) : (pages c).Nodup := by
  refine h.pairwise_pages.imp ?_
  rintro p q hlt rfl
  exact List.lt_irrefl p hlt

theorem foldl_insert (paths : List (List String)) {c : Contents} (h : Ordered c) :
    Ordered (paths.foldl (fun c path => c.insert path) c) ∧
      ∀ p, p ∈ pages (paths.foldl (fun c path => c.insert path) c) ↔
        p ∈ paths ∧ p ≠ [] ∨ p ∈ pages c := by
  induction paths generalizing c with
  | nil => simp [h]
  | cons path paths ih =>
    obtain ⟨ho, hp⟩ := ih (h.insert path)
    refine ⟨ho, ?_⟩
    intro p
    rw [List.foldl_cons, hp, mem_pages_insert, List.mem_cons]
    grind

/-- No component of the name, the mark of a package left out, is private. -/
def IsPublic (module : String) : Prop :=
  ∀ part ∈ components (Module.displayNameOf module), isPrivate part = false

instance (module : String) : Decidable (IsPublic module) :=
  inferInstanceAs (Decidable (∀ part ∈ _, _))

theorem pathOf?_eq_some_iff (module : String) (p : List String) :
    pathOf? module = some p ↔ IsPublic module ∧ p = components (Module.displayNameOf module) := by
  unfold pathOf? IsPublic
  simp only []
  split
  · rename_i h
    obtain ⟨part, hpart, hprivate⟩ := List.any_eq_true.mp h
    constructor
    · intro hn; cases hn
    · rintro ⟨hpublic, _⟩
      rw [hpublic part hpart] at hprivate
      cases hprivate
  · rename_i h
    have hpublic : ∀ part ∈ components (Module.displayNameOf module), isPrivate part = false := by
      simpa using h
    constructor
    · intro hp
      cases hp
      exact ⟨hpublic, rfl⟩
    · rintro ⟨_, rfl⟩
      rfl

theorem nodup_pages_ofNames (names : List String) : (pages (ofNames names)).Nodup :=
  (foldl_insert (c := nil) (names.filterMap pathOf?) trivial).1.nodup_pages

/-- The pages of a table of contents are the paths of the public modules. -/
theorem mem_pages_ofNames (names : List String) (p : List String) :
    p ∈ pages (ofNames names) ↔
      ∃ n ∈ names, IsPublic n ∧ p = components (Module.displayNameOf n) := by
  rw [ofNames, (foldl_insert (c := nil) (names.filterMap pathOf?) trivial).2 p, List.mem_filterMap]
  simp only [pathOf?_eq_some_iff]
  constructor
  · rintro (⟨h, _⟩ | h)
    · exact h
    · simp [pages] at h
  · rintro ⟨n, hn, hpublic, rfl⟩
    exact .inl ⟨⟨n, hn, hpublic, rfl⟩, components_ne_nil _⟩

/-- The printed row is the lines of its entries. -/
theorem renderFrom_eq (level : Nat) (path : String) (c : Contents) :
    renderFrom level path c = String.join ((entries level path c).map Entry.line) := by
  induction c generalizing level path with
  | nil => rfl
  | cons segment page below beside ihBelow ihBeside =>
    rw [renderFrom, entries, List.map_append, List.map_append, String.join_append,
      String.join_append, ← ihBelow, ← ihBeside]
    cases page with
    | true => simp [Entry.line]
    | false => simp

/-- There is one entry for each page, and it shows where the page is: how deep, under which
last segment, and under which path. -/
theorem entries_eq_map (level : Nat) (path : String) (c : Contents) :
    entries level path c = (pages c).map fun p =>
      ⟨level + (p.length - 1), p.getLastD "", p.foldl extendPath path⟩ := by
  induction c generalizing level path with
  | nil => rfl
  | cons segment page below beside ihBelow ihBeside =>
    have hbelow : entries (level + 1) (extendPath path segment) below =
        ((pages below).map (segment :: ·)).map fun p =>
          ⟨level + (p.length - 1), p.getLastD "", p.foldl extendPath path⟩ := by
      rw [ihBelow, List.map_map]
      refine List.map_congr_left fun p hp => ?_
      obtain ⟨s, q, rfl⟩ := List.exists_cons_of_ne_nil (l := p) fun he =>
        nil_not_mem_pages below (he ▸ hp)
      simp only [Function.comp_apply, List.length_cons, Nat.add_sub_cancel, List.foldl_cons]
      rw [Nat.add_assoc, Nat.add_comm 1]
      rfl
    rw [entries, pages, List.map_append, List.map_append, ← hbelow, ← ihBeside]
    cases page <;> rfl

end RefBook.Contents
