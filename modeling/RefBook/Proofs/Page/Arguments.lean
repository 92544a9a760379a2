import RefBook.Proofs.Dict
import RefBook.Proofs.Page.Parts

/-! # Documented arguments of an initialiser

The page lists the arguments of an initialiser with what its own text and the text of its
class say of them. The two are merged by name, and a starred parameter is looked up under
two names, with its stars and without. So the own text wins, but for one case: it documents
a starred parameter under its bare name only, and the class documents it with its stars. -/

namespace RefBook

namespace Signature

/-- What a documentation says of a parameter under the label of its line, or else under its
bare name. -/
def docOf? (s : Signature) (label name : String) : Option ParamDoc :=
  s.param? label <|> s.param? name

theorem docOf?_of_label {s : Signature} {label : String} {e : ParamDoc}
    (h : s.param? label = some e) (name : String) : s.docOf? label name = some e := by
  rw [docOf?, h]
  rfl

theorem docOf?_of_no_label {s : Signature} {label : String} (h : s.param? label = none)
    (name : String) : s.docOf? label name = s.param? name := by
  rw [docOf?, h]
  rfl

theorem param?_eq {s : Signature} {l : List (String × ParamDoc)} (h : s.params.entries = l)
    (name : String) : s.param? name = (l.find? (·.1 == name)).map (·.2) := by
  rw [param?, Dict.get?, h]

theorem get?_mergedParams (own cls : Signature) (key : String) :
    (own.mergedParams (some cls)).get? key = (own.param? key <|> cls.param? key) :=
  Dict.get?_merge cls.params own.params key

/-- The class documents a parameter with its stars, and the method documents it under its
bare name only. -/
structure Overrules (cls own : Signature) (label name : String) : Prop where
  starred : (cls.param? label).isSome = true
  unstarred : own.param? label = none
  bare : (own.param? name).isSome = true

/-- A parameter without stars is looked up under one name, so nothing overrules. -/
theorem not_overrules_self (cls own : Signature) (name : String) :
    ¬ cls.Overrules own name name := by
  intro h
  have hbare := h.bare
  rw [h.unstarred] at hbare
  cases hbare

/-- Where the entry of a parameter comes from: the own one is taken if there is one and the
class does not overrule it, and the one of the class only if there is none. -/
structure Picks (own cls : Signature) (label name : String) (doc : Option ParamDoc) : Prop where
  ofOwn : ¬ cls.Overrules own label name → (own.docOf? label name).isSome = true →
    doc = own.docOf? label name
  ofOverruling : cls.Overrules own label name → doc = cls.param? label
  ofClass : own.docOf? label name = none → doc = cls.docOf? label name

/-- An own entry under the label is found first. -/
theorem picks_of_label {own cls : Signature} {label name : String} {e : ParamDoc}
    (h : own.param? label = some e) : Picks own cls label name (some e) := by
  have hentry := docOf?_of_label h name
  refine ⟨fun _ _ => hentry.symm, fun ho => ?_, fun hnone => ?_⟩
  · rw [ho.unstarred] at h
    cases h
  · rw [hentry] at hnone
    cases hnone

/-- Without one, the entry of the class under the label comes before the bare name. -/
theorem picks_of_class_label {own cls : Signature} {label name : String} {e : ParamDoc}
    (h : own.param? label = none) (hc : cls.param? label = some e) :
    Picks own cls label name (some e) := by
  have hentry := docOf?_of_no_label h name
  refine ⟨fun ho hsome => ?_, fun _ => hc.symm, fun _ => (docOf?_of_label hc name).symm⟩
  rw [hentry] at hsome
  exact absurd ⟨by rw [hc]; rfl, h, hsome⟩ ho

/-- Under the bare name the own entry comes before that of the class. -/
theorem picks_of_bare {own cls : Signature} {label name : String} (h : own.param? label = none)
    (hc : cls.param? label = none) :
    Picks own cls label name (own.param? name <|> cls.param? name) := by
  have hentry := docOf?_of_no_label h name
  refine ⟨fun _ hsome => ?_, fun ho => ?_, fun hnone => ?_⟩
  · obtain ⟨e, he⟩ := Option.isSome_iff_exists.mp hsome
    rw [he, ← hentry, he]
    rfl
  · have hstarred := ho.starred
    rw [hc] at hstarred
    cases hstarred
  · rw [← hentry, hnone, docOf?_of_no_label hc]
    rfl

/-- The merged documentation is asked for the label first, and then for the bare name. -/
theorem picks_mergedParams (own cls : Signature) (label name : String) :
    Picks own cls label name ((own.mergedParams (some cls)).get? label <|>
      (own.mergedParams (some cls)).get? name) := by
  rw [get?_mergedParams, get?_mergedParams]
  cases h : own.param? label with
  | some e => exact picks_of_label h
  | none =>
    cases hc : cls.param? label with
    | some e => exact picks_of_class_label h hc
    | none => exact picks_of_bare h hc

end Signature

namespace Page

/-- What a function's own text says. -/
def ownDocs (f : Function) : Signature := Signature.parse (f.docstring.getD "")

/-- The line of an argument with the entry `doc`: its type and its default stand in for
those that the source does not declare. -/
def bullet (label : String) (p : Parameter) (doc : Option ParamDoc) : String :=
  "- `" ++ label ++ (p.type <|> doc.bind (·.type)).elim "" (fun t => "(" ++ t ++ ")") ++ "`" ++
    (doc.bind (·.description)).elim "" (": " ++ ·) ++
    (p.default <|> doc.bind (·.default)).elim "" (fun d => " (_default: " ++ d ++ "_)")

theorem argumentLine_eq_bullet (docs : Dict ParamDoc) (label : String) (p : Parameter) :
    argumentLine docs label p = bullet label p (docs.get? label <|> docs.get? p.name) := rfl

/-- The arguments in the order of their lines, each with its label: its name, with its
stars if it has any. -/
def labelled (f : Function) : List (String × Parameter) :=
  (f.arguments ++ f.kwonlyParams).map (fun p => (p.name, p)) ++
    (f.varPositional.map fun p => ("*" ++ p.name, p)).toList ++
    (f.varKeyword.map fun p => ("**" ++ p.name, p)).toList

theorem argumentLines_eq_map (docs : Dict ParamDoc) (f : Function) :
    argumentLines docs f = (labelled f).map fun x => argumentLine docs x.1 x.2 := by
  have hoption : ∀ (star : String) (q : Option Parameter),
      (q.map fun p => argumentLine docs (star ++ p.name) p).toList =
        (q.map fun p => (star ++ p.name, p)).toList.map fun x => argumentLine docs x.1 x.2 := by
    intro star q
    cases q with
    | none => rfl
    | some p => rfl
  rw [argumentLines, labelled]
  simp only [List.map_append, List.map_map, hoption]
  rfl

/-- The block of a method whose class tells about its parameters, up to its arguments. -/
theorem functionText_eq (o : Options) (cls : Signature) (f : Function) :
    ∃ rest, functionText o (some cls) f = callText o.signatureWidth f ++ openBlock ++
      paragraph (ownDocs f).summary ++
      listed "**Arguments**:\n\n"
        ((argumentLines ((ownDocs f).mergedParams (some cls)) f).map (· ++ "\n")) "\n" ++ rest := by
  refine ⟨listed "**Returns**:\n\n" ((ownDocs f).returns.map fun r => "- " ++ r ++ "\n") "\n" ++
    listed "**Raises**:\n\n" ((ownDocs f).raises.map fun r => raisesLine r ++ "\n") "\n" ++
    closeBlock, ?_⟩
  rw [functionText, Option.isSome_some, Bool.or_true, if_pos rfl, docsText]
  simp only [String.append_assoc, ownDocs]

/-- **Where the argument lines of an initialiser come from.** In the block of every
initialiser of a class with a documentation text there is one line for each argument, in
order. It shows the entry of the initialiser's own text if that has one, under the bare
name or with the stars, and the entry of the class only if it has none; but where the own
text documents a starred parameter under its bare name only, an entry of the class with
the stars overrules it. A parameter without stars is never overruled. -/
theorem initialiser_arguments (o : Options) {c : Class} {d : String} {f : Function}
    (hc : c.docstring = some d) (hf : f ∈ c.methods) (hname : f.name = "__init__") :
    ∃ (doc : String → Parameter → Option ParamDoc) (rest : String),
      methodText o (c.docstring.map Signature.parse) f =
        callText o.signatureWidth f ++ openBlock ++ paragraph (ownDocs f).summary ++
          listed "**Arguments**:\n\n"
            ((labelled f).map fun x => bullet x.1 x.2 (doc x.1 x.2) ++ "\n") "\n" ++ rest ∧
      (o.showsMethod f.name = true →
        Has (classText o c) (methodText o (c.docstring.map Signature.parse) f)) ∧
      (∀ x ∈ labelled f,
        (ownDocs f).Picks (Signature.parse d) x.1 x.2.name (doc x.1 x.2)) ∧
      ∀ p ∈ f.arguments ++ f.kwonlyParams,
        ¬ (Signature.parse d).Overrules (ownDocs f) p.name p.name := by
  have htext : methodText o (c.docstring.map Signature.parse) f =
      functionText o (some (Signature.parse d)) f := by
    rw [methodText, if_pos hname, hc]
    rfl
  obtain ⟨rest, hrest⟩ := functionText_eq o (Signature.parse d) f
  refine ⟨fun label p => ((ownDocs f).mergedParams (some (Signature.parse d))).get? label <|>
    ((ownDocs f).mergedParams (some (Signature.parse d))).get? p.name, rest, ?_, ?_, ?_, ?_⟩
  · rw [htext, hrest, argumentLines_eq_map, List.map_map]
    rfl
  · intro hshown
    unfold classText
    refine Has.left (Has.right (has_listed ?_) _) _
    exact List.mem_map_of_mem (List.mem_filter.mpr ⟨hf, hshown⟩)
  · exact fun x _ => Signature.picks_mergedParams _ _ x.1 x.2.name
  · exact fun p _ => Signature.not_overrules_self _ _ p.name

/-- An initialiser that documents one parameter, and a starred one under its bare name. -/
def poolInit : Function :=
  ⟨"__init__", [⟨"self", none, none⟩, ⟨"host", some "str", none⟩, ⟨"port", none, some "80"⟩], [],
    some ⟨"args", none, none⟩, none, none,
    some "Opens it.\n\nArgs:\n    host: Own host.\n    args: Own rest.", [], false, true⟩

/-- The documentation of a class that tells about all parameters of its initialiser. -/
def poolDocs : String :=
  "A pool.\n\n:param host: Class host.\n:param port: Class port.\n:param *args: Class rest."

def poolClass : Class := ⟨"Pool", [], [], [poolInit], [], some poolDocs⟩

theorem poolInit_params : (ownDocs poolInit).params.entries =
    [("args", ⟨"args", none, none, some "Own rest."⟩),
     ("host", ⟨"host", none, none, some "Own host."⟩)] := by
  decide +kernel

theorem poolDocs_params : (Signature.parse poolDocs).params.entries =
    [("*args", ⟨"*args", none, none, some "Class rest."⟩),
     ("host", ⟨"host", none, none, some "Class host."⟩),
     ("port", ⟨"port", none, none, some "Class port."⟩)] := by
  decide +kernel

theorem poolClass_arguments :
    poolClass.docstring = some poolDocs ∧ poolInit ∈ poolClass.methods ∧
      poolInit.name = "__init__" ∧ ∃ rest,
      methodText .standard (poolClass.docstring.map Signature.parse) poolInit =
        callText 80 poolInit ++ openBlock ++ paragraph (ownDocs poolInit).summary ++
          listed "**Arguments**:\n\n" ["- `host(str)`: Own host.\n",
            "- `port`: Class port. (_default: 80_)\n", "- `*args`: Class rest.\n"] "\n" ++ rest := by
  have hmem : poolInit ∈ poolClass.methods := List.mem_singleton.mpr rfl
  refine ⟨rfl, hmem, rfl, ?_⟩
  obtain ⟨doc, rest, htext, -, hpicks, hplain⟩ := initialiser_arguments .standard rfl hmem rfl
  refine ⟨rest, ?_⟩
  have hown := Signature.param?_eq poolInit_params
  have hcls := Signature.param?_eq poolDocs_params
  have hhost : doc "host" ⟨"host", some "str", none⟩ =
      some ⟨"host", none, none, some "Own host."⟩ := by
    have hp := hpicks ("host", ⟨"host", some "str", none⟩) (by decide)
    have he := Signature.docOf?_of_label (hown "host") "host"
    rw [hp.ofOwn (hplain ⟨"host", some "str", none⟩ (by decide)) (by rw [he]; rfl), he]
  have hport : doc "port" ⟨"port", none, some "80"⟩ =
      some ⟨"port", none, none, some "Class port."⟩ := by
    have hp := hpicks ("port", ⟨"port", none, some "80"⟩) (by decide)
    have hnone := Signature.docOf?_of_no_label (hown "port") "port"
    rw [hp.ofClass (hnone.trans (hown "port")), Signature.docOf?_of_label (hcls "port")]
  have hargs : doc "*args" ⟨"args", none, none⟩ =
      some ⟨"*args", none, none, some "Class rest."⟩ := by
    have hp := hpicks ("*args", ⟨"args", none, none⟩) (by decide)
    have ho : (Signature.parse poolDocs).Overrules (ownDocs poolInit) "*args" "args" :=
      ⟨by rw [hcls]; rfl, hown "*args", by rw [hown]; rfl⟩
    rw [hp.ofOverruling ho, hcls]
    rfl
  rw [htext]
  show _ ++ listed _ [bullet "host" _ (doc "host" _) ++ "\n", bullet "port" _ (doc "port" _) ++ "\n",
    bullet "*args" _ (doc "*args" _) ++ "\n"] "\n" ++ rest = _
  rw [hhost, hport, hargs]
  rfl

/-- An own entry under the bare name of a starred parameter is not always shown. -/
theorem own_entry_overruled :
    ¬ ∀ (c : Class) (d : String) (f : Function), c.docstring = some d → f ∈ c.methods →
      f.name = "__init__" → ∀ x ∈ labelled f, ((ownDocs f).docOf? x.1 x.2.name).isSome = true →
      argumentLine ((ownDocs f).mergedParams (some (Signature.parse d))) x.1 x.2 =
        bullet x.1 x.2 ((ownDocs f).docOf? x.1 x.2.name) := by
  intro h
  have hown := Signature.param?_eq poolInit_params
  have hcls := Signature.param?_eq poolDocs_params
  have hentry := Signature.docOf?_of_no_label (hown "*args") "args"
  have hline := h poolClass poolDocs poolInit rfl (List.mem_singleton.mpr rfl) rfl
    ("*args", ⟨"args", none, none⟩) (by decide) (by rw [hentry, hown]; rfl)
  rw [argumentLine_eq_bullet, Signature.get?_mergedParams, Signature.get?_mergedParams, hentry,
    hown, hown, hcls, hcls] at hline
  revert hline
  decide

end Page

end RefBook
