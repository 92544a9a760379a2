import RefBook.Proofs.Page.Parts

/-! # What a page does not depend on

Variables, imports, exports and private symbols leave no trace on a page: not in the list
of a class's fields, where the documentation may name a field that the class declares as
well, and not in the headings, which stand only over something that is shown. Two modules
with the same shown part have the same page. -/

namespace RefBook

/-- A class without its private attributes and the methods that are not shown. -/
def Class.shownPart (o : Page.Options) (c : Class) : Class :=
  { c with
    attributes := c.attributes.filter fun a => !isPrivate a.name
    methods := c.methods.filter fun f => o.showsMethod f.name }

/-- A module without its variables, imports and exports, its private symbols and the
private parts of its classes. -/
def Module.shownPart (o : Page.Options) (m : Module) : Module :=
  { m with
    vars := []
    imports := []
    exports := []
    aliases := m.aliases.filter fun a => !isPrivate a.name
    functions := m.functions.filter fun f => !isPrivate f.name
    classes := (m.classes.filter fun c => !isPrivate c.name).map (Class.shownPart o) }

namespace Page

/-- To filter once more changes nothing. -/
theorem filter_filter_self {α : Type} (p : α → Bool) (l : List α) :
    (l.filter p).filter p = l.filter p := by
  rw [List.filter_filter]
  simp only [Bool.and_self]

/-- A documented field is compared with all attributes, but for a public field the private
ones make no difference, and a private field is left out before. -/
theorem fieldLines_shownPart (o : Options) (c : Class) :
    fieldLines (c.shownPart o) = fieldLines c := by
  funext detail
  have hdocumented : ∀ f : Field,
      (!isPrivate f.name && !(c.shownPart o).attributes.any (·.name == f.name)) =
        (!isPrivate f.name && !c.attributes.any (·.name == f.name)) := by
    intro f
    cases hf : isPrivate f.name with
    | true => rfl
    | false => rw [Class.shownPart, any_filter_public (·.name) c.attributes hf]
  rw [fieldLines, fieldLines]
  simp only [hdocumented]
  rw [Class.shownPart, filter_filter_self]

theorem classText_shownPart (o : Options) (c : Class) :
    classText o (c.shownPart o) = classText o c := by
  have hmethods : ((c.shownPart o).methods.filter fun f => o.showsMethod f.name) =
      c.methods.filter fun f => o.showsMethod f.name := filter_filter_self _ _
  unfold classText
  rw [fieldLines_shownPart, hmethods]
  rfl

theorem titleText_shownPart (o : Options) (m : Module) :
    titleText (m.shownPart o) = titleText m := rfl

/-- The classes that are shown, with their blocks. -/
theorem classTexts_shownPart (o : Options) (m : Module) :
    ((m.shownPart o).classes.filter fun c => !isPrivate c.name).map (classText o) =
      (m.classes.filter fun c => !isPrivate c.name).map (classText o) := by
  have hpublic : ((m.shownPart o).classes.filter fun c => !isPrivate c.name) =
      (m.shownPart o).classes := by
    rw [List.filter_eq_self]
    intro c hc
    obtain ⟨c', hc', rfl⟩ := List.mem_map.mp hc
    exact (List.mem_filter.mp hc').2
  rw [hpublic, Module.shownPart, List.map_map]
  exact List.map_congr_left fun c _ => classText_shownPart o c

theorem render_shownPart (o : Options) (m : Module) :
    render o (m.shownPart o) = render o m := by
  rw [render, render, classTexts_shownPart, titleText_shownPart]
  simp only [Module.shownPart, filter_filter_self]

/-- **Private symbols never influence a page.** The page of a module is that of its shown
part, for all options, so two modules that differ only in what is not shown have the same
page. -/
theorem page_of_shown_part (o : Options) (m : Module) :
    render o (m.shownPart o) = render o m ∧
      ∀ m', m'.shownPart o = m.shownPart o → render o m' = render o m := by
  refine ⟨render_shownPart o m, fun m' h => ?_⟩
  rw [← render_shownPart o m', h, render_shownPart]

/-- A module with one class, whose documentation tells about a private field as well. -/
def boxModule : Module :=
  ⟨"pkg.box", none,
    [⟨"Box", [], [⟨"size", "int", none⟩], [], [], some ":ivar size: Its size.\n:ivar _seen: How often."⟩],
    [], [], [], [], []⟩

/-- The same module with private symbols, variables, imports and exports. -/
def busyBoxModule : Module :=
  ⟨"pkg.box", none,
    [⟨"_Lid", [], [], [], [], none⟩,
     ⟨"Box", [], [⟨"_seen", "int", some "0"⟩, ⟨"size", "int", none⟩],
      [⟨"_grow", [], [], none, none, none, none, [], false, false⟩], [],
      some ":ivar size: Its size.\n:ivar _seen: How often."⟩],
    [⟨"_pack", [], [], none, none, none, none, [], false, false⟩],
    [⟨"LIMIT", some "3", none⟩], [⟨"_Size", "int"⟩], [.whole "os" none], ["Box"]⟩

theorem busyBoxModule_page :
    busyBoxModule.shownPart .standard = boxModule.shownPart .standard ∧
      render .standard busyBoxModule = render .standard boxModule :=
  ⟨rfl, (page_of_shown_part .standard boxModule).2 busyBoxModule rfl⟩

end Page

end RefBook
