import RefBook.Proofs.Page.Parts
import RefBook.Proofs.Registry.Order

/-! # Exported symbols on the page of a module

Resolution adds a symbol to a module because of the name that the module exports, and the
page shows a symbol because of the name that it has where it is defined. So the page of a
package has the blocks of the symbols that its exports find, as far as their own names are
public; a symbol with a private name is left out under whatever name it is exported. -/

namespace RefBook

/-- Whether pages show the symbol: a type alias, a function or a class whose own name is
public. -/
def Symbol.isShown : Symbol → Bool
  | .class c => !isPrivate c.name
  | .function f => !isPrivate f.name
  | .typeAlias a => !isPrivate a.name
  | .variable _ | .imported _ => false

namespace Page

/-- The block of a symbol on a page; variables and imports have none. -/
def block? (o : Options) : Symbol → Option String
  | .class c => some (classText o c)
  | .function f => some (functionText o none f)
  | .typeAlias a => some (aliasText a)
  | .variable _ | .imported _ => none

/-- A page has the blocks of all symbols of its module that are shown. -/
theorem has_block {o : Options} {m : Module} {s : Symbol} {text : String} (hs : m.Holds s)
    (hshown : s.isShown = true) (ht : block? o s = some text) : Has (render o m) text := by
  unfold render
  cases s with
  | «class» c =>
    cases ht
    exact (has_listed (List.mem_map_of_mem (List.mem_filter.mpr ⟨hs, hshown⟩))).right _
  | function f =>
    cases ht
    exact ((has_listed (List.mem_map_of_mem (List.mem_filter.mpr ⟨hs, hshown⟩))).right _).left _
  | typeAlias a =>
    cases ht
    exact (((has_listed (List.mem_map_of_mem (List.mem_filter.mpr ⟨hs, hshown⟩))).right _).left
      _).left _
  | «variable» v => cases ht
  | imported i => cases ht

/-- The modules have the same title and documentation, and show the same symbols. -/
structure SameShown (m m' : Module) : Prop where
  name : m.name = m'.name
  docstring : m.docstring = m'.docstring
  aliases : m.aliases.filter (fun a => !isPrivate a.name) =
    m'.aliases.filter (fun a => !isPrivate a.name)
  functions : m.functions.filter (fun f => !isPrivate f.name) =
    m'.functions.filter (fun f => !isPrivate f.name)
  classes : m.classes.filter (fun c => !isPrivate c.name) =
    m'.classes.filter (fun c => !isPrivate c.name)

theorem SameShown.refl (m : Module) : SameShown m m := ⟨rfl, rfl, rfl, rfl, rfl⟩

theorem SameShown.trans {a b c : Module} (h : SameShown a b) (h' : SameShown b c) :
    SameShown a c :=
  ⟨h.name.trans h'.name, h.docstring.trans h'.docstring, h.aliases.trans h'.aliases,
    h.functions.trans h'.functions, h.classes.trans h'.classes⟩

theorem SameShown.render_eq {m m' : Module} (h : SameShown m m') (o : Options) :
    render o m = render o m' := by
  have htitle : titleText m = titleText m' := by
    unfold titleText Module.isPackage Module.displayName
    rw [h.name]
  simp only [render, htitle, h.docstring, h.aliases, h.functions, h.classes]

theorem SameShown.hasLike_eq {m m' : Module} (h : SameShown m m') {s : Symbol}
    (hs : s.isShown = true) : m.hasLike s = m'.hasLike s := by
  cases s with
  | «class» c =>
    have hc : isPrivate c.name = false := by simpa [Symbol.isShown] using hs
    rw [Module.hasLike, Module.hasLike, ← any_filter_public (·.name) m.classes hc, h.classes,
      any_filter_public (·.name) m'.classes hc]
  | function f =>
    have hf : isPrivate f.name = false := by simpa [Symbol.isShown] using hs
    rw [Module.hasLike, Module.hasLike, ← any_filter_public (·.name) m.functions hf, h.functions,
      any_filter_public (·.name) m'.functions hf]
  | typeAlias a =>
    have ha : isPrivate a.name = false := by simpa [Symbol.isShown] using hs
    rw [Module.hasLike, Module.hasLike, ← any_filter_public (·.name) m.aliases ha, h.aliases,
      any_filter_public (·.name) m'.aliases ha]
  | «variable» v => cases hs
  | imported i => cases hs

theorem SameShown.append {m m' : Module} (h : SameShown m m') (s : Symbol) :
    SameShown (m.append s) (m'.append s) := by
  obtain ⟨hn, hd, ha, hf, hc⟩ := h
  cases s <;> exact ⟨hn, hd, by simp [Module.append, ha], by simp [Module.append, hf],
    by simp [Module.append, hc]⟩

theorem SameShown.push {m m' : Module} (h : SameShown m m') {s : Symbol}
    (hs : s.isShown = true) : SameShown (m.push s) (m'.push s) := by
  unfold Module.push
  rw [h.hasLike_eq hs]
  split
  · exact h
  · exact h.append s

theorem sameShown_push_of_hidden (m : Module) {s : Symbol} (hs : s.isShown = false) :
    SameShown (m.push s) m := by
  unfold Module.push
  split
  · exact .refl m
  · cases s <;> constructor <;> simp_all [Module.append, Symbol.isShown]

/-- Symbols that are not shown might as well not have been added. -/
theorem sameShown_foldl_push (l : List Symbol) {m m' : Module} (h : SameShown m m') :
    SameShown (l.foldl Module.push m) ((l.filter (·.isShown)).foldl Module.push m') := by
  induction l generalizing m m' with
  | nil => exact h
  | cons s l ih =>
    rw [List.foldl_cons, List.filter_cons]
    cases hs : s.isShown with
    | true => exact ih (h.push hs)
    | false => exact ih ((sameShown_push_of_hidden m hs).trans h)

end Page

namespace Registry

/-- **The page of a package has the blocks of its public exports.** Where an export
finds a symbol whose own name is public, the module had none like it, and no other
export finds one like it, the page of the resolved module has the block of the symbol,
for all options. Symbols that are not shown make no difference: the page is the one that
the shown symbols make. -/
theorem package_page_has_exported {r r' : Registry} {report : Report} {name : String}
    {m : Module} (h : r.resolve = .ok (r', report)) (hm : r.get? name = some m) :
    ∃ m', r'.get? name = some m' ∧
      (∀ x ∈ m.exports, ∀ s, r.resolveExport m x = .ok (.found s) → s.isShown = true →
        m.hasLike s = false →
        (∀ y ∈ m.exports, y ≠ x → ∀ u, r.resolveExport m y = .ok (.found u) →
          u.alike s = false) →
        ∀ o text, Page.block? o s = some text → Page.Has (Page.render o m') text) ∧
      ∀ o, Page.render o m' =
        Page.render o (((r.found m).filter (·.isShown)).foldl Module.push m) := by
  refine ⟨(r.found m).foldl Module.push m, by rw [get?_resolve h, hm, Option.map_some], ?_, ?_⟩
  · intro x hx s hs hshown hno hother o text ht
    refine Page.has_block ?_ hshown ht
    rw [Module.holds_foldl_push_iff]
    refine .inr ⟨hno, ?_⟩
    -- the first symbol like `s` that is found is found by the same export
    have hmem : s ∈ r.found m := (r.mem_found_iff m s).mpr ⟨x, hx, hs⟩
    cases hf : (r.found m).find? (·.alike s) with
    | none => exact absurd s.alike_refl (List.find?_eq_none.mp hf s hmem)
    | some u =>
      obtain ⟨y, hy, hu⟩ := (r.mem_found_iff m u).mp (List.mem_of_find?_eq_some hf)
      by_cases hyx : y = x
      · rw [hyx, hs] at hu
        cases hu
        rfl
      · have halike := List.find?_some hf
        rw [hother y hy hyx u hu] at halike
        cases halike
  · intro o
    exact (Page.sameShown_foldl_push (r.found m) (.refl m)).render_eq o

def bareFunction (name : String) : Function :=
  ⟨name, [], [], none, none, none, none, [], false, false⟩

/-- A package that exports two functions of a private module under other names; one
of them has a private name where it is defined. -/
def renamingPackage : Registry := .ofModules
  [⟨"pkg.__init__", none, [], [], [], [],
    [.selected (some "_impl") [⟨"helper", some "run"⟩, ⟨"_make", some "make"⟩] 1],
    ["run", "make"]⟩,
   ⟨"pkg._impl", none, [], [bareFunction "helper", bareFunction "_make"], [], [], [], []⟩]

theorem renamingPackage_page_has_helper :
    ∃ r' m', renamingPackage.resolve = .ok (r', ⟨2, []⟩) ∧ r'.get? "pkg.__init__" = some m' ∧
      ∀ o, Page.Has (Page.render o m') (Page.functionText o none (bareFunction "helper")) := by
  have hm : renamingPackage.get? "pkg.__init__" = some _ := rfl
  obtain ⟨m', hm', hpage, _⟩ := package_page_has_exported rfl hm
  refine ⟨_, m', rfl, hm', ?_⟩
  intro o
  refine hpage "run" (by decide) (.function (bareFunction "helper")) rfl (by decide) rfl ?_ o _ rfl
  intro y hy hne u hu
  have hmake : y = "make" := by
    rcases List.mem_cons.mp hy with hy | hy
    · exact absurd hy hne
    · exact List.mem_singleton.mp hy
  subst hmake
  cases hu
  rfl

/-- A package that exports one function of a private module, whose own name is private. -/
def hidingPackage : Registry := .ofModules
  [⟨"pkg.__init__", none, [], [], [], [], [.selected (some "_impl") [⟨"_make", some "make"⟩] 1],
    ["make"]⟩,
   ⟨"pkg._impl", none, [], [bareFunction "_make"], [], [], [], []⟩]

/-- A function that is exported under a public name is not on the page if its own name
is private. -/
theorem privately_named_export_not_on_page :
    ¬ ∀ (r r' : Registry) (report : Report) (name x : String) (m m' : Module) (s : Symbol)
      (o : Page.Options) (text : String),
      r.resolve = .ok (r', report) → r.get? name = some m → r'.get? name = some m' →
      x ∈ m.exports → isPrivate x = false → r.resolveExport m x = .ok (.found s) →
      m.hasLike s = false →
      (∀ y ∈ m.exports, y ≠ x → ∀ u, r.resolveExport m y = .ok (.found u) →
        u.alike s = false) →
      Page.block? o s = some text → Page.Has (Page.render o m') text := by
  intro h
  -- the page is its title, which is shorter than the block
  have hhas : Page.Has "# package `pkg`\n\n"
      (Page.functionText .standard none (bareFunction "_make")) :=
    h hidingPackage _ _ "pkg.__init__" "make" _ _ (.function (bareFunction "_make"))
      .standard _ rfl rfl rfl (List.mem_singleton.mpr rfl) rfl rfl rfl
      (fun y hy hne => absurd (List.mem_singleton.mp hy) hne) rfl
  exact absurd hhas.length_le (by decide)

end Registry

end RefBook
