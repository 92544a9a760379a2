import RefBook.Page.Call
import RefBook.Proofs.Text.Commas

/-! # The layout of a call

A call shows its parameters on one line or, if its names are too wide, each on a line of
its own. The list of the parameters is the same either way, and it can be read back from
the text if the types and the defaults close what they open. Only a call without
parameters that is too wide goes wrong: a comma stands alone between its brackets. -/

namespace RefBook

open Text (Nesting Whole elements joinWith)

namespace Page

def oneLine (ps : List String) : String := ", ".intercalate ps

/-- Each parameter on an indented line of its own, with a comma after it. -/
def ownLines (ps : List String) : String :=
  "\n" ++ String.join (ps.map fun p => "    " ++ p ++ ",\n")

/-- The text is a layout of the parameters. Without parameters there is nothing to put on
lines of their own. -/
inductive Layout : List String → String → Prop
  | oneLine (ps : List String) : Layout ps (oneLine ps)
  | ownLines {ps : List String} (h : ps ≠ []) : Layout ps (ownLines ps)

/-- Without parameters there is nothing to lay out. -/
theorem Layout.eq_empty {ps : List String} {t : String} (h : Layout ps t) (hps : ps = []) :
    t = "" := by
  cases h with
  | oneLine => rw [hps]; rfl
  | ownLines hne => exact absurd hps hne

theorem ownLines_cons (p : String) (ps : List String) :
    ownLines (p :: ps) = "\n    " ++ p ++ "," ++ ownLines ps := by
  simp only [ownLines, List.map_cons, String.join_cons, String.append_assoc]
  rfl

/-- Commas with line feeds between the parameters, and one more after them. -/
theorem ownLines_eq_intercalate {ps : List String} (h : ps ≠ []) :
    ownLines ps = "\n    " ++ ",\n    ".intercalate ps ++ ",\n" := by
  induction ps with
  | nil => exact absurd rfl h
  | cons p ps ih =>
    cases ps with
    | nil =>
      rw [ownLines_cons, String.intercalate_singleton, String.append_assoc]
      rfl
    | cons q ps =>
      have hbreak : ",\n    " = "," ++ "\n    " := rfl
      rw [ownLines_cons, ih (List.cons_ne_nil q ps),
        String.intercalate_cons_of_ne_nil (List.cons_ne_nil q ps)]
      simp only [hbreak, String.append_assoc]

theorem paramsText_eq (width : Nat) {f : Function} (h : callParams f ≠ []) :
    paramsText width f =
      if width < callWidth f then ownLines (callParams f) else oneLine (callParams f) := by
  rw [paramsText, ownLines_eq_intercalate h, oneLine]

/-- A call without parameters that is too wide. -/
theorem paramsText_of_nil {width : Nat} {f : Function} (h : callParams f = [])
    (hwide : width < callWidth f) : paramsText width f = "\n    ,\n" := by
  rw [paramsText, if_pos hwide, h]
  rfl

theorem layout_paramsText_iff (width : Nat) (f : Function) :
    Layout (callParams f) (paramsText width f) ↔ callParams f ≠ [] ∨ callWidth f ≤ width := by
  constructor
  · intro h
    by_cases hnil : callParams f = []
    · refine .inr (Nat.le_of_not_lt fun hwide => ?_)
      have hempty := h.eq_empty hnil
      rw [paramsText_of_nil hnil hwide] at hempty
      exact absurd hempty (by decide)
    · exact .inl hnil
  · intro h
    by_cases hnil : callParams f = []
    · have hfits : ¬ width < callWidth f := Nat.not_lt.mpr (h.resolve_left fun hne => hne hnil)
      rw [paramsText, if_neg hfits]
      exact .oneLine _
    · rw [paramsText_eq width hnil]
      split
      · exact .ownLines hnil
      · exact .oneLine _

theorem toList_oneLine (p : String) (ps : List String) :
    (oneLine (p :: ps)).toList =
      joinWith [','] (p.toList :: ps.map fun q => [' '] ++ q.toList) := by
  induction ps generalizing p with
  | nil => rw [oneLine, String.intercalate_singleton]; rfl
  | cons q ps ih =>
    have hrest := ih q
    rw [oneLine] at hrest ⊢
    rw [String.intercalate_cons_of_ne_nil (List.cons_ne_nil q ps), String.toList_append,
      String.toList_append, hrest, List.map_cons, Text.joinWith_cons (List.cons_ne_nil _ _),
      Text.joinWith_append_head]
    simp

theorem toList_ownLines (ps : List String) :
    (ownLines ps).toList =
      joinWith [','] ((ps.map fun p => "\n    ".toList ++ p.toList) ++ [['\n']]) := by
  induction ps with
  | nil => rfl
  | cons p ps ih =>
    rw [ownLines_cons, String.toList_append, ih, List.map_cons, List.cons_append,
      Text.joinWith_cons (List.append_ne_nil_of_right_ne_nil _ (List.cons_ne_nil _ _)),
      String.toList_append, String.toList_append]
    rfl

/-- A whole text with white space before it closes what it opens, and is trimmed to itself. -/
theorem indented_whole {a : List Char} (hclosed : Nesting.outside.after? a = some .outside)
    (ha : Text.isBlank a = true) {ps : List String} (hps : ∀ p ∈ ps, Whole p.toList) :
    (∀ q ∈ ps.map fun p => a ++ p.toList, Nesting.outside.after? q = some .outside) ∧
      (ps.map fun p => a ++ p.toList).map Text.trim = ps.map String.toList := by
  constructor
  · intro q hq
    obtain ⟨p, hp, rfl⟩ := List.mem_map.mp hq
    rw [Nesting.after?_append, hclosed, Option.bind_some, (hps p hp).closed]
  · rw [List.map_map]
    exact List.map_congr_left fun p hp => (hps p hp).trim_append ha

/-- The parameters are read back from every layout of them. -/
theorem Layout.elements_eq {ps : List String} {t : String} (h : Layout ps t)
    (hps : ∀ p ∈ ps, Whole p.toList) : elements t.toList = ps.map String.toList := by
  cases h with
  | oneLine =>
    cases ps with
    | nil => rfl
    | cons p ps =>
      have hlists : ∀ l ∈ (p :: ps).map String.toList, Whole l := by
        intro l hl
        obtain ⟨q, hq, rfl⟩ := List.mem_map.mp hl
        exact hps q hq
      rw [List.forall_mem_cons] at hps
      obtain ⟨hclosed, htrim⟩ := indented_whole (a := [' ']) (by decide) (by decide) hps.2
      rw [toList_oneLine]
      refine Text.elements_joinWith (List.cons_ne_nil _ _) hlists ?_ ?_
      · rw [List.forall_mem_cons]
        exact ⟨hps.1.closed, hclosed⟩
      · rw [List.map_cons, htrim, hps.1.trim_eq, List.map_cons]
  | ownLines hne =>
    obtain ⟨hclosed, htrim⟩ := indented_whole (a := "\n    ".toList) (by decide) (by decide) hps
    rw [toList_ownLines]
    exact Text.elements_joinWith_concat hclosed htrim (by decide) (by decide)

def declared (f : Function) : List Parameter :=
  f.params ++ f.varPositional.toList ++ f.kwonlyParams ++ f.varKeyword.toList

/-- What a parameter is written with can be read back: its name, its type and its default
close what they open, without a comma that separates. -/
structure Readable (p : Parameter) : Prop where
  name : Whole p.name.toList
  type : ∀ t ∈ p.type, Whole t.toList
  default : ∀ d ∈ p.default, Whole d.toList

instance (p : Parameter) : Decidable (Readable p) :=
  decidable_of_iff (Whole p.name.toList ∧ (∀ t ∈ p.type, Whole t.toList) ∧
      ∀ d ∈ p.default, Whole d.toList)
    ⟨fun ⟨hname, htype, hdefault⟩ => ⟨hname, htype, hdefault⟩,
      fun h => ⟨h.name, h.type, h.default⟩⟩

/-- The stars before the names of parameters. -/
theorem closed_stars {stars : String} (h : stars ∈ ["", "*", "**"]) :
    Nesting.outside.after? stars.toList = some .outside ∧
      stars.toList.head?.all (!Text.isSpace ·) = true := by
  simp only [List.mem_cons, List.not_mem_nil, or_false] at h
  rcases h with rfl | rfl | rfl
  · decide
  · decide
  · decide

/-- Only a parameter with nothing to write is written as nothing. -/
theorem paramText_eq_empty_iff (stars : String) (p : Parameter) :
    paramText stars p = "" ↔ stars = "" ∧ p.name = "" ∧ p.type = none ∧ p.default = none := by
  unfold paramText
  cases p.type with
  | none =>
    cases p.default with
    | none => simp
    | some d => simp
  | some a =>
    cases p.default with
    | none => simp
    | some d => simp

theorem whole_paramText {stars : String} (hstars : stars ∈ ["", "*", "**"]) {p : Parameter}
    (h : Readable p) : Whole (paramText stars p).toList := by
  obtain ⟨hclosed, hhead⟩ := closed_stars hstars
  have hname : Whole (stars ++ p.name).toList := by
    rw [String.toList_append]
    exact h.name.prepend hclosed hhead
  have hcolon : Nesting.outside.after? ": ".toList = some .outside := by decide
  have hassign : Nesting.outside.after? " = ".toList = some .outside := by decide
  have hequals : Nesting.outside.after? "=".toList = some .outside := by decide
  unfold paramText
  cases ht : p.type with
  | none =>
    cases hd : p.default with
    | none => exact hname
    | some d => simpa using hname.join (h.default d hd) hequals
  | some a =>
    have htype : Whole (stars ++ p.name ++ ": " ++ a).toList := by
      simpa using hname.join (h.type a ht) hcolon
    cases hd : p.default with
    | none => exact htype
    | some d => simpa using htype.join (h.default d hd) hassign

/-- What stands between the parameters passed by position and those passed by name. -/
theorem mem_starText {f : Function} {t : String} (h : t ∈ starText f) :
    t = "*" ∨ ∃ p, f.varPositional = some p ∧ t = paramText "*" p := by
  unfold starText at h
  split at h
  · next p hp => exact .inr ⟨p, hp, List.mem_singleton.mp h⟩
  · split at h
    · cases h
    · exact .inl (List.mem_singleton.mp h)

/-- Each element of a call is a lone star, or a declared parameter with its stars. -/
theorem mem_callParams {f : Function} {t : String} (h : t ∈ callParams f) :
    t = "*" ∨ ∃ stars ∈ ["", "*", "**"], ∃ p ∈ declared f, t = paramText stars p := by
  simp only [callParams, List.mem_append, List.mem_map, Option.mem_toList, Option.map_eq_some_iff]
    at h
  rcases h with ((⟨p, hp, rfl⟩ | h) | ⟨p, hp, rfl⟩) | ⟨p, hp, rfl⟩
  · exact .inr ⟨"", by decide, p, by simp [declared, hp], rfl⟩
  · rcases mem_starText h with rfl | ⟨p, hp, rfl⟩
    · exact .inl rfl
    · exact .inr ⟨"*", by decide, p, by simp [declared, hp], rfl⟩
  · exact .inr ⟨"", by decide, p, by simp [declared, hp], rfl⟩
  · exact .inr ⟨"**", by decide, p, by simp [declared, hp], rfl⟩

theorem whole_callParams {f : Function} (h : ∀ p ∈ declared f, Readable p) :
    ∀ t ∈ callParams f, Whole t.toList := by
  intro t ht
  rcases mem_callParams ht with rfl | ⟨stars, hstars, p, hp, rfl⟩
  · decide +kernel
  · exact whole_paramText hstars (h p hp)

/-- An element of a call is empty only if a parameter has neither name nor type nor default. -/
theorem empty_mem_callParams_iff (f : Function) :
    "" ∈ callParams f ↔
      ∃ p ∈ f.params ++ f.kwonlyParams, p.name = "" ∧ p.type = none ∧ p.default = none := by
  have hstar : "" ∉ starText f := by
    intro h
    rcases mem_starText h with h | ⟨p, -, h⟩
    · exact absurd h (by decide)
    · exact absurd ((paramText_eq_empty_iff "*" p).mp h.symm).1 (by decide)
  have hplain : ∀ l : List Parameter, "" ∈ l.map (paramText "") ↔
      ∃ p ∈ l, p.name = "" ∧ p.type = none ∧ p.default = none := by
    intro l
    simp only [List.mem_map, paramText_eq_empty_iff, true_and]
  have hstars : "" ∉ (f.varKeyword.map (paramText "**")).toList := by
    rw [Option.mem_toList, Option.map_eq_some_iff]
    rintro ⟨p, -, h⟩
    exact absurd ((paramText_eq_empty_iff "**" p).mp h).1 (by decide)
  simp only [callParams, List.mem_append, hplain, hstar, hstars, or_false, or_and_right, exists_or]

/-- Only a function without parameters has an empty call. -/
theorem callParams_eq_nil_iff (f : Function) : callParams f = [] ↔ declared f = [] := by
  unfold callParams declared starText
  cases f.varPositional with
  | none => simp
  | some p => simp

/-- **The layout of a call does not change its parameters.** Between the brackets of a call
there is a layout of its parameters: on one line or each on its own, for all widths, but
not for a function without parameters that is too wide. The parameters are the positional
ones, the starred one or the lone star that those passed by name need, these, and the one
with two stars. None of them is empty, unless a parameter has no name at all, and whatever
the width, the text is read back as these parameters. -/
theorem call_layout (f : Function) :
    (∀ width, ∃ before, callText width f =
      before ++ "def " ++ f.name ++ "(" ++ paramsText width f ++ ")" ++ returnsText f ++
        "\n```\n\n") ∧
    (∀ width, Layout (callParams f) (paramsText width f) ↔
      declared f ≠ [] ∨ callWidth f ≤ width) ∧
    (∃ star, callParams f = f.params.map (paramText "") ++ star ++
        f.kwonlyParams.map (paramText "") ++ (f.varKeyword.map (paramText "**")).toList ∧
      (∀ p, f.varPositional = some p → star = [paramText "*" p]) ∧
      (f.varPositional = none → star = if f.kwonlyParams = [] then [] else ["*"])) ∧
    ("" ∈ callParams f ↔
      ∃ p ∈ f.params ++ f.kwonlyParams, p.name = "" ∧ p.type = none ∧ p.default = none) ∧
    ((∀ p ∈ declared f, Readable p) → ∀ width, declared f ≠ [] ∨ callWidth f ≤ width →
      elements (paramsText width f).toList = (callParams f).map String.toList) := by
  have hlayout : ∀ width, Layout (callParams f) (paramsText width f) ↔
      declared f ≠ [] ∨ callWidth f ≤ width := by
    intro width
    rw [layout_paramsText_iff, Ne, callParams_eq_nil_iff]
  refine ⟨fun width => ⟨_, rfl⟩, hlayout, ⟨starText f, rfl, ?_, ?_⟩,
    empty_mem_callParams_iff f, ?_⟩
  · intro p hp
    rw [starText, hp]
  · intro hnone
    rw [starText, hnone]
    simp only [List.isEmpty_iff]
  · exact fun hp width hw => ((hlayout width).mpr hw).elements_eq (whole_callParams hp)

/-- A function with parameters of several kinds, and with commas in their texts. -/
def splitCall : Function :=
  ⟨"split", [⟨"text", some "str", none⟩, ⟨"sep", none, some "','"⟩],
    [⟨"limits", some "tuple[int, int]", some "(0, 9)"⟩], none, some ⟨"options", none, none⟩,
    some "list[str]", none, [], false, false⟩

theorem splitCall_layout :
    (∀ p ∈ declared splitCall, Readable p) ∧ declared splitCall ≠ [] ∧
      paramsText 80 splitCall =
        "text: str, sep=',', *, limits: tuple[int, int] = (0, 9), **options" ∧
      paramsText 20 splitCall = "\n    text: str,\n    sep=',',\n    *,\n" ++
        "    limits: tuple[int, int] = (0, 9),\n    **options,\n" ∧
      "" ∉ callParams splitCall ∧
      ∀ width, elements (paramsText width splitCall).toList =
        ["text: str".toList, "sep=','".toList, ['*'],
          "limits: tuple[int, int] = (0, 9)".toList, "**options".toList] := by
  have hreadable : ∀ p ∈ declared splitCall, Readable p := by decide +kernel
  have hne : declared splitCall ≠ [] := List.cons_ne_nil _ _
  obtain ⟨-, -, -, hempty, helements⟩ := call_layout splitCall
  refine ⟨hreadable, hne, by decide, by decide, ?_, fun width => helements hreadable width (.inl hne)⟩
  rw [hempty]
  decide

def mainCall : Function := ⟨"main", [], [], none, none, none, none, [], false, false⟩

/-- A call without parameters that is too wide shows a comma, with no parameter before it. -/
theorem lone_comma_without_parameters :
    callParams mainCall = [] ∧ paramsText 3 mainCall = "\n    ,\n" ∧
      elements (paramsText 3 mainCall).toList = [[]] ∧
      ¬ Layout (callParams mainCall) (paramsText 3 mainCall) := by
  have htext : paramsText 3 mainCall = "\n    ,\n" := by decide
  refine ⟨rfl, htext, by decide, fun h => ?_⟩
  have hempty := h.eq_empty rfl
  rw [htext] at hempty
  exact absurd hempty (by decide)

end Page

end RefBook
