import RefBook.Proofs.Docstring.Marked

/-! # The tags of one name

What is said of one name may stand in several tags. The first of them, the leader, has the
entry, and the texts are collected from all; only the default is read from the leader alone.
Parameters and the result are told apart by their names: the result's is `return`. -/

namespace RefBook.Docstring.Epydoc

/-- A parameter's tag has one argument and a result's has none. -/
structure Tag.WellFormed (g : Tag) : Prop where
  param : g.family = .param → ∃ name, g.args = [name]
  result : g.family = .result → g.args = []

theorem wellFormed_of_tag {chunk : List Char} {g : Tag} (h : Epydoc.tag chunk = .ok g) :
    g.WellFormed := by
  obtain ⟨⟨head, hs, hg⟩, -⟩ := tag_spec h
  obtain ⟨s, -, hfound⟩ := exists_of_search? hs
  have hargs : g.args = head.args.map String.ofList := congrArg Tag.args hg
  constructor
  · intro hf
    rw [hf, headOf?, paramHead?] at hfound
    obtain ⟨⟨key, t⟩, -, hfound⟩ := Option.bind_eq_some_iff.mp hfound
    obtain ⟨⟨arg, t'⟩, -, hfound⟩ := Option.bind_eq_some_iff.mp hfound
    obtain ⟨rest, -, hfound⟩ := Option.bind_eq_some_iff.mp hfound
    cases hfound
    exact ⟨String.ofList arg, hargs⟩
  · intro hf
    rw [hf, headOf?, resultHead?] at hfound
    obtain ⟨⟨key, t⟩, -, hfound⟩ := Option.bind_eq_some_iff.mp hfound
    obtain ⟨rest, -, hfound⟩ := Option.bind_eq_some_iff.mp hfound
    cases hfound
    exact hargs

theorem wellFormed_of_readTags {t : List Char} {tags : List Tag} (h : readTags t = .ok tags) :
    ∀ g ∈ tags, g.WellFormed := by
  rw [readTags] at h
  generalize chunks '@' t = cs at h
  induction cs generalizing tags with
  | nil =>
    cases h
    exact List.forall_mem_nil _
  | cons c cs ih =>
    obtain ⟨g, gs, hg, hgs, rfl⟩ := mapM_cons_eq_ok.mp h
    exact List.forall_mem_cons.mpr ⟨wellFormed_of_tag hg, ih hgs⟩

/-- Two tags that change places in the cleaned text change places among the tags read. -/
theorem readTags_swap {t t' : List Char} {pre mid post : List (List Char)} {c d : List Char}
    {tags : List Tag} (ht : chunks '@' t = pre ++ c :: (mid ++ d :: post))
    (ht' : Text.clean t' = (splitAtMarker '@' (Text.clean t)).1 ++
      Text.unlines (pre ++ d :: (mid ++ c :: post))) (hr : readTags t = .ok tags) :
    ∃ pre' a mid' b post', Epydoc.tag c = .ok a ∧ Epydoc.tag d = .ok b ∧
      tags = pre' ++ a :: (mid' ++ b :: post') ∧
      readTags t' = .ok (pre' ++ b :: (mid' ++ a :: post')) := by
  have hheaded : ∀ x ∈ chunks '@' t, Headed '@' x := fun x hx => headed_of_mem_markerChunks hx
  have hswapped : ∀ x ∈ pre ++ d :: (mid ++ c :: post), Headed '@' x := by
    rw [ht] at hheaded
    simp only [List.forall_mem_append, List.forall_mem_cons] at hheaded ⊢
    obtain ⟨hpre, hc, hmid, hd, hpost⟩ := hheaded
    exact ⟨hpre, hd, hmid, hc, hpost⟩
  have hchunks : chunks '@' t' = pre ++ d :: (mid ++ c :: post) :=
    chunks_of_clean (by simp [ht]) (by simp) hswapped ht'
  rw [readTags, ht] at hr
  obtain ⟨pre', _, hpre, hfrom, rfl⟩ := mapM_append_eq_ok.mp hr
  obtain ⟨a, _, ha, hbelow, rfl⟩ := mapM_cons_eq_ok.mp hfrom
  obtain ⟨mid', _, hmid, hto, rfl⟩ := mapM_append_eq_ok.mp hbelow
  obtain ⟨b, post', hb, hpost, rfl⟩ := mapM_cons_eq_ok.mp hto
  refine ⟨pre', a, mid', b, post', ha, hb, rfl, ?_⟩
  rw [readTags, hchunks]
  exact mapM_append_eq_ok.mpr ⟨pre', _, hpre, mapM_cons_eq_ok.mpr ⟨b, _, hb,
    mapM_append_eq_ok.mpr ⟨mid', _, hmid, mapM_cons_eq_ok.mpr ⟨a, post', ha, hpost, rfl⟩, rfl⟩, rfl⟩,
    rfl⟩

theorem Tag.WellFormed.subject?_result {g : Tag} (h : g.WellFormed) (hf : g.family = .result) :
    g.subject? = some "return" := by
  rw [Tag.subject?, hf, h.result hf]
  rfl

/-- The tags that have entries of their own: those about no name, and the first about each
name that is not `done`. -/
def leaders (done : List String) : List Tag → List Tag
  | [] => []
  | g :: rest =>
    match g.subject? with
    | none => g :: leaders done rest
    | some name => if name ∈ done then leaders done rest else g :: leaders (name :: done) rest

/-- The first tag about a name, if it is of the given family. -/
def leader? (tags : List Tag) (f : Family) (name : String) : Option Tag :=
  (tags.find? (·.subject? = some name)).filter (·.family = f)

theorem leaders_congr {done done' : List String} (h : ∀ name, name ∈ done ↔ name ∈ done')
    (tags : List Tag) : leaders done tags = leaders done' tags := by
  induction tags generalizing done done' with
  | nil => rfl
  | cons g rest ih =>
    rw [leaders, leaders]
    cases g.subject? with
    | none => exact congrArg (g :: ·) (ih h)
    | some name =>
      have hcons : ∀ n, n ∈ name :: done ↔ n ∈ name :: done' := fun n => by
        rw [List.mem_cons, List.mem_cons, h]
      simp only [h, ih h, ih hcons]

theorem leaders_append (done : List String) (l r : List Tag) :
    leaders done (l ++ r) = leaders done l ++ leaders (l.filterMap Tag.subject? ++ done) r := by
  induction l generalizing done with
  | nil => rfl
  | cons g l ih =>
    rw [List.cons_append, leaders, leaders, List.filterMap_cons]
    cases g.subject? with
    | none =>
      dsimp only
      rw [ih, List.cons_append]
    | some name =>
      dsimp only
      split
      · rename_i hdone
        rw [ih]
        congr 1
        refine leaders_congr (fun n => ?_) r
        rw [List.cons_append, List.mem_cons, List.mem_append]
        constructor
        · exact .inr
        · rintro (rfl | h)
          · exact .inr hdone
          · exact h
      · rw [ih, List.cons_append]
        congr 2
        refine leaders_congr (fun n => ?_) r
        rw [List.cons_append, List.mem_cons, List.mem_append, List.mem_append, List.mem_cons]
        exact or_left_comm

/-- Of the tags about a name, the first leads. -/
theorem filter_leaders (done : List String) (tags : List Tag) (name : String) :
    (leaders done tags).filter (·.subject? = some name) =
      if name ∈ done then [] else (tags.find? (·.subject? = some name)).toList := by
  induction tags generalizing done with
  | nil => simp [leaders]
  | cons g rest ih =>
    rw [leaders, List.find?_cons]
    cases hg : g.subject? with
    | none =>
      dsimp only
      rw [List.filter_cons_of_neg (by simp [hg]), ih]
      rfl
    | some n =>
      dsimp only
      by_cases hn : n = name
      · subst hn
        by_cases hdone : n ∈ done
        · rw [if_pos hdone, if_pos hdone, ih, if_pos hdone]
        · rw [if_neg hdone, if_neg hdone, List.filter_cons_of_pos (by simp [hg]), ih,
            if_pos List.mem_cons_self]
          simp
      · have hother : (decide (some n = some name)) = false := by simp [hn]
        rw [hother]
        dsimp only
        split
        · exact ih done
        · rw [List.filter_cons_of_neg (by simp [hg, hn]), ih]
          simp only [List.mem_cons, Ne.symm hn, false_or]

theorem mem_of_mem_leaders {done : List String} {tags : List Tag} :
    ∀ g ∈ leaders done tags, g ∈ tags := by
  induction tags generalizing done with
  | nil => exact List.forall_mem_nil _
  | cons g rest ih =>
    intro x hx
    rw [leaders] at hx
    cases hg : g.subject? with
    | none =>
      rw [hg] at hx
      exact List.mem_cons.mpr ((List.mem_cons.mp hx).imp_right (ih x))
    | some name =>
      rw [hg] at hx
      dsimp only at hx
      split at hx
      · exact List.mem_cons_of_mem g (ih x hx)
      · exact List.mem_cons.mpr ((List.mem_cons.mp hx).imp_right (ih x))

def tagEntry (tags : List Tag) (g : Tag) : Entry :=
  match g.family with
  | .param => paramEntry tags g (g.args.headD "return")
  | .result => resultEntry tags g
  | .raise =>
    .raises
      { args := g.key :: g.args, description := some (String.ofList g.description)
        type := g.args.head? }
  | .note => .note { args := g.key :: g.args, description := some (String.ofList g.description) }

/-- The entries are those of the leaders, in their order. -/
theorem entriesFrom_eq_leaders (tags : List Tag) {rest : List Tag} (done : List String)
    (h : ∀ g ∈ rest, g.WellFormed) :
    entriesFrom tags done rest = (leaders done rest).map (tagEntry tags) := by
  induction rest generalizing done with
  | nil => rfl
  | cons g rest ih =>
    rw [List.forall_mem_cons] at h
    have hwf := h.1
    obtain ⟨family, key, args, description⟩ := g
    cases family with
    | param =>
      rw [entriesFrom, leaders]
      simp only [Tag.subject?, ih _ h.2]
      split
      · rfl
      · rfl
    | raise =>
      rw [entriesFrom, leaders]
      simp only [Tag.subject?, ih _ h.2]
      rfl
    | result =>
      obtain rfl : args = [] := hwf.result rfl
      rw [entriesFrom, leaders]
      simp only [Tag.subject?, List.headD_nil, ih _ h.2]
      split
      · rfl
      · rfl
    | note =>
      rw [entriesFrom, leaders]
      simp only [Tag.subject?, ih _ h.2]
      rfl

/-! ## One entry for each name -/

/-- Every name has one entry at most, that of its leader. -/
structure Merged (tags : List Tag) (es : List Entry) : Prop where
  params : ∀ name, es.filter (·.param?.any (·.name = name)) =
    (leader? tags .param name).toList.map (paramEntry tags · name)
  results : es.filter (·.returns?.isSome) =
    (leader? tags .result "return").toList.map (resultEntry tags)

theorem isParam_tagEntry (tags : List Tag) (g : Tag) (name : String) :
    (tagEntry tags g).param?.any (·.name = name) =
      (decide (g.family = .param) && decide (g.subject? = some name)) := by
  obtain ⟨family, key, args, description⟩ := g
  cases family <;> simp [tagEntry, paramEntry, resultEntry, Entry.param?, Tag.subject?]

theorem isResult_tagEntry (tags : List Tag) {g : Tag} (h : g.WellFormed) :
    (tagEntry tags g).returns?.isSome =
      (decide (g.family = .result) && decide (g.subject? = some "return")) := by
  obtain ⟨family, key, args, description⟩ := g
  cases family with
  | param => rfl
  | raise => rfl
  | note => rfl
  | result =>
    obtain rfl : args = [] := h.result rfl
    rfl

theorem tagEntry_of_param {tags : List Tag} {g : Tag} {name : String} (hf : g.family = .param)
    (hs : g.subject? = some name) : tagEntry tags g = paramEntry tags g name := by
  rw [Tag.subject?, hf] at hs
  rw [tagEntry, hf, ← Option.some.inj hs]

theorem tagEntry_of_result {tags : List Tag} {g : Tag} (hf : g.family = .result) :
    tagEntry tags g = resultEntry tags g := by
  rw [tagEntry, hf]

/-- The leaders of one family about one name. -/
theorem filter_leaders_eq (tags : List Tag) (f : Family) (name : String) :
    (leaders [] tags).filter (fun g => decide (g.family = f) && decide (g.subject? = some name)) =
      (leader? tags f name).toList := by
  rw [← List.filter_filter, filter_leaders, if_neg List.not_mem_nil, leader?]
  cases tags.find? (·.subject? = some name) with
  | none => rfl
  | some g => by_cases hf : g.family = f <;> simp [Option.filter, hf]

theorem leader?_spec {tags : List Tag} {f : Family} {name : String} {g : Tag}
    (h : leader? tags f name = some g) : g ∈ tags ∧ g.family = f ∧ g.subject? = some name := by
  obtain ⟨hfind, hf⟩ := Option.filter_eq_some_iff.mp h
  have hs := List.find?_some hfind
  exact ⟨List.mem_of_find?_eq_some hfind, of_decide_eq_true hf, of_decide_eq_true hs⟩

theorem merged_leaders {tags : List Tag} (h : ∀ g ∈ tags, g.WellFormed) :
    Merged tags ((leaders [] tags).map (tagEntry tags)) where
  params name := by
    simp only [List.filter_map, Function.comp_def, isParam_tagEntry]
    rw [filter_leaders_eq]
    refine List.map_congr_left fun g hg => ?_
    obtain ⟨-, hf, hs⟩ := leader?_spec (Option.mem_toList.mp hg)
    exact tagEntry_of_param hf hs
  results := by
    have hresult : (leaders [] tags).filter (fun g => (tagEntry tags g).returns?.isSome) =
        (leader? tags .result "return").toList := by
      rw [← filter_leaders_eq]
      exact List.filter_congr fun g hg => isResult_tagEntry tags (h g (mem_of_mem_leaders g hg))
    simp only [List.filter_map, Function.comp_def]
    rw [hresult]
    refine List.map_congr_left fun g hg => ?_
    exact tagEntry_of_result (leader?_spec (Option.mem_toList.mp hg)).2.1

/-- Where the tags about a name are of one family, one of them leads. -/
theorem leader?_isSome_iff {tags : List Tag} {f : Family} {name : String}
    (h : ∀ g ∈ tags, g.subject? = some name → g.family = f) :
    (leader? tags f name).isSome = true ↔ ∃ g ∈ tags, g.family = f ∧ g.subject? = some name := by
  constructor
  · intro hsome
    obtain ⟨g, hg⟩ := Option.isSome_iff_exists.mp hsome
    exact ⟨g, leader?_spec hg⟩
  · rintro ⟨g, hmem, -, hs⟩
    have hfind : (tags.find? (·.subject? = some name)).isSome = true := by
      rw [List.find?_isSome]
      exact ⟨g, hmem, decide_eq_true hs⟩
    obtain ⟨x, hx⟩ := Option.isSome_iff_exists.mp hfind
    have hs := List.find?_some hx
    have hf := h x (List.mem_of_find?_eq_some hx) (of_decide_eq_true hs)
    rw [leader?, hx, Option.filter_some, if_pos (decide_eq_true hf)]
    rfl

theorem family_of_subject? {g : Tag} {name : String} (hs : g.subject? = some name) :
    g.family = .param ∨ g.family = .result := by
  obtain ⟨family, key, args, description⟩ := g
  cases family with
  | param => exact .inl rfl
  | result => exact .inr rfl
  | raise => cases hs
  | note => cases hs

/-! ## The order of a name's tags -/

/-- The text that a tag gives for the name. -/
def Tag.text? (type : Bool) (name : String) (g : Tag) : Option (List Char) :=
  if g.subject? = some name ∧ g.isType = type then some g.description else none

theorem textOf?_eq_getLast? (tags : List Tag) (type : Bool) (name : String) :
    textOf? tags type name = (tags.filterMap (Tag.text? type name)).getLast? := by
  rw [← findSome?_reverse]
  rfl

/-- The second list is the first with a parameter's two tags swapped: `a` describes it and
`b` gives its type. No other tag is about the name. -/
inductive Swapped (name : String) (a b : Tag) : List Tag → List Tag → Prop
  | intro (pre mid post : List Tag)
      (hparam : a.family = .param ∧ b.family = .param)
      (hname : a.subject? = some name ∧ b.subject? = some name)
      (htype : a.isType = false ∧ b.isType = true)
      (hother : ∀ g ∈ pre ++ mid ++ post, g.subject? ≠ some name) :
      Swapped name a b (pre ++ a :: (mid ++ b :: post)) (pre ++ b :: (mid ++ a :: post))

/-- The entry of a parameter that `a` describes and `b` gives the type of: the words and the
default are the leader's. -/
def mergedParam (name : String) (a b leader : Tag) : Docstring.Param :=
  { args := [leader.key, name]
    description := some (String.ofList a.description)
    name
    type := some (String.ofList (typeAndOptional b.description).1)
    optional := some (typeAndOptional b.description).2
    default := Rest.trailingDefault? leader.description }

section Swapped

variable {name : String} {a b : Tag} {tags tags' : List Tag}

theorem text?_eq_none {g : Tag} (type : Bool) (h : g.subject? ≠ some name) :
    g.text? type name = none :=
  if_neg fun hg => h hg.1

/-- Where two tags are the only ones about a name, its texts are theirs. -/
theorem filterMap_text?_pair {pre mid post : List Tag}
    (hother : ∀ g ∈ pre ++ mid ++ post, g.subject? ≠ some name) (x y : Tag) (type : Bool) :
    (pre ++ x :: (mid ++ y :: post)).filterMap (Tag.text? type name) =
      (x.text? type name).toList ++ (y.text? type name).toList := by
  have hnone : ∀ l : List Tag, (∀ g ∈ l, g.subject? ≠ some name) →
      l.filterMap (Tag.text? type name) = [] :=
    fun l hl => List.filterMap_eq_nil_iff.mpr fun g hg => text?_eq_none type (hl g hg)
  simp only [List.forall_mem_append] at hother
  simp only [List.filterMap_append, List.filterMap_cons, hnone pre hother.1.1,
    hnone mid hother.1.2, hnone post hother.2]
  cases x.text? type name <;> cases y.text? type name <;> rfl

/-- The tags give the same texts in either order. -/
theorem Swapped.textOf?_eq (h : Swapped name a b tags tags') : textOf? tags = textOf? tags' := by
  obtain ⟨pre, mid, post, hparam, hname, htype, hother⟩ := h
  funext type n
  rw [textOf?_eq_getLast?, textOf?_eq_getLast?]
  by_cases hn : n = name
  · subst hn
    -- one of the two tags gives no text of this kind, so their order does not matter
    rw [filterMap_text?_pair hother, filterMap_text?_pair hother]
    cases type <;> simp [Tag.text?, htype]
  · have hne : some name ≠ some n := fun h => hn (Option.some.inj h).symm
    simp only [List.filterMap_append, List.filterMap_cons, text?_eq_none type (hname.1 ▸ hne),
      text?_eq_none type (hname.2 ▸ hne)]

theorem Swapped.results_eq (h : Swapped name a b tags tags') : results tags = results tags' := by
  obtain ⟨pre, mid, post, hparam, hname, htype, hother⟩ := h
  simp [results, hparam]

theorem Swapped.yielded_eq (h : Swapped name a b tags tags') : yielded tags = yielded tags' := by
  rw [yielded, yielded, h.results_eq]

theorem Swapped.tagEntry_eq (h : Swapped name a b tags tags') :
    tagEntry tags = tagEntry tags' := by
  funext g
  obtain ⟨family, key, args, description⟩ := g
  cases family with
  | param => simp only [tagEntry, paramEntry, h.textOf?_eq]
  | result => simp only [tagEntry, resultEntry, h.textOf?_eq, h.yielded_eq]
  | raise => rfl
  | note => rfl

/-- The first of the two tags leads, and the other leaders stay. -/
theorem Swapped.leaders_eq (h : Swapped name a b tags tags') :
    ∃ l r, leaders [] tags = l ++ a :: r ∧ leaders [] tags' = l ++ b :: r := by
  obtain ⟨pre, mid, post, hparam, hname, htype, hother⟩ := h
  simp only [List.forall_mem_append] at hother
  have hnew : name ∉ pre.filterMap Tag.subject? ++ [] := by
    rw [List.append_nil, List.mem_filterMap]
    rintro ⟨g, hg, hs⟩
    exact hother.1.1 g hg hs
  -- what is done behind the pair is the same, whichever of the two stands first
  have hpair : ∀ x y : Tag, x.subject? = some name → y.subject? = some name →
      leaders [] (pre ++ x :: (mid ++ y :: post)) =
        leaders [] pre ++ x :: (leaders (name :: (pre.filterMap Tag.subject? ++ [])) mid ++
          leaders (mid.filterMap Tag.subject? ++ name :: (pre.filterMap Tag.subject? ++ []))
            post) := by
    intro x y hx hy
    rw [leaders_append, leaders, hx]
    dsimp only
    rw [if_neg hnew, leaders_append, leaders, hy]
    dsimp only
    rw [if_pos (List.mem_append_right _ List.mem_cons_self)]
  exact ⟨_, _, hpair a b hname.1 hname.2, hpair b a hname.2 hname.1⟩

theorem Swapped.tagEntry_leader (h : Swapped name a b tags tags') {g : Tag}
    (hg : g = a ∨ g = b) : tagEntry tags g = .param (mergedParam name a b g) := by
  obtain ⟨pre, mid, post, hparam, hname, htype, hother⟩ := h
  have htext : ∀ type, textOf? (pre ++ a :: (mid ++ b :: post)) type name =
      some (if type then b.description else a.description) := by
    intro type
    rw [textOf?_eq_getLast?, filterMap_text?_pair hother]
    cases type <;> simp [Tag.text?, hname, htype]
  have hf : g.family = .param ∧ g.subject? = some name := by
    obtain rfl | rfl := hg
    · exact ⟨hparam.1, hname.1⟩
    · exact ⟨hparam.2, hname.2⟩
  rw [tagEntry_of_param hf.1 hf.2, paramEntry, htext, htext]
  rfl

/-- Swapping the tags leaves all entries but the parameter's own. -/
theorem Swapped.entries_eq (h : Swapped name a b tags tags') :
    ∃ l r, (leaders [] tags).map (tagEntry tags) = l ++ .param (mergedParam name a b a) :: r ∧
      (leaders [] tags').map (tagEntry tags') = l ++ .param (mergedParam name a b b) :: r := by
  obtain ⟨l, r, hl, hr⟩ := h.leaders_eq
  refine ⟨l.map (tagEntry tags), r.map (tagEntry tags), ?_, ?_⟩
  · rw [hl, List.map_append, List.map_cons, h.tagEntry_leader (.inl rfl)]
  · rw [hr, ← h.tagEntry_eq, List.map_append, List.map_cons, h.tagEntry_leader (.inr rfl)]

end Swapped

theorem entries_of_parse {t : List Char} {tags : List Tag} {d : Docstring}
    (hr : readTags t = .ok tags) (hd : parse t = .ok d) :
    d.entries = (leaders [] tags).map (tagEntry tags) := by
  rw [parse_eq_of_readTags hr] at hd
  split at hd
  · cases hd
    rw [ofDescription_entries,
      entriesFrom_eq_leaders tags [] (wellFormed_of_readTags hr)]
  · cases hd

/-- **The tags of a name are merged**: a name has one entry, where its first tag stands, with
the texts of all its tags. So a parameter that has tags has one entry, and so has the result
if it has tags and no parameter is called `return`. If the tag that describes a parameter and
the tag that gives its type are swapped, the text is refused as before or all entries stay,
but for the words of the parameter's and for its default: the default is only looked for in
the tag that stands first. -/
theorem tags_merged {t : List Char} {tags : List Tag} (hr : readTags t = .ok tags) :
    (∀ d, parse t = .ok d → Merged tags d.entries) ∧
    (∀ name, name ≠ "return" → ((leader? tags .param name).isSome = true ↔
      ∃ g ∈ tags, g.family = .param ∧ g.subject? = some name)) ∧
    ((∀ g ∈ tags, g.family = .param → g.subject? ≠ some "return") →
      ((leader? tags .result "return").isSome = true ↔ ∃ g ∈ tags, g.family = .result)) ∧
    ∀ {name a b t' tags'}, Swapped name a b tags tags' → readTags t' = .ok tags' →
      (∀ cause, parse t = .error cause ↔ parse t' = .error cause) ∧
      ∀ d d', parse t = .ok d → parse t' = .ok d' →
        ∃ l r, d.entries = l ++ .param (mergedParam name a b a) :: r ∧
          d'.entries = l ++ .param (mergedParam name a b b) :: r := by
  have hwf := wellFormed_of_readTags hr
  refine ⟨fun d hd => ?_, fun name hname => ?_, fun hfree => ?_, fun {name a b t' tags'} hs hr' =>
    ⟨fun cause => ?_, fun d d' hd hd' => ?_⟩⟩
  · rw [entries_of_parse hr hd]
    exact merged_leaders hwf
  · refine leader?_isSome_iff fun g hg hsubject => ?_
    obtain hf | hf := family_of_subject? hsubject
    · exact hf
    · rw [(hwf g hg).subject?_result hf] at hsubject
      exact absurd (Option.some.inj hsubject).symm hname
  · have hfamily : ∀ g ∈ tags, g.subject? = some "return" → g.family = .result := by
      intro g hg hsubject
      obtain hf | hf := family_of_subject? hsubject
      · exact absurd hsubject (hfree g hg hf)
      · exact hf
    rw [leader?_isSome_iff hfamily]
    constructor
    · rintro ⟨g, hg, hf, -⟩
      exact ⟨g, hg, hf⟩
    · rintro ⟨g, hg, hf⟩
      exact ⟨g, hg, hf, (hwf g hg).subject?_result hf⟩
  · rw [parse_eq_of_readTags hr, parse_eq_of_readTags hr', hs.results_eq, hs.yielded_eq]
    split
    · constructor <;> exact fun h => nomatch h
    · rfl
  · rw [entries_of_parse hr hd, entries_of_parse hr' hd']
    exact hs.entries_eq

def describedFirst : List Char :=
  "Sums.\n\n@param x: The x, or none.\n@return: The sum\n    of all.\n@type x: int?".toList

def typedFirst : List Char :=
  "Sums.\n\n@type x: int?\n@return: The sum\n    of all.\n@param x: The x, or none.".toList

def xDescribed : Tag := ⟨.param, "param", ["x"], "The x, or none.".toList⟩

def xTyped : Tag := ⟨.param, "type", ["x"], "int?".toList⟩

def sumDescribed : Tag := ⟨.result, "return", [], "The sum\nof all.".toList⟩

theorem typedFirst_merged :
    readTags describedFirst = .ok [xDescribed, sumDescribed, xTyped] ∧
      readTags typedFirst = .ok [xTyped, sumDescribed, xDescribed] ∧
      (parse describedFirst).toOption.isSome = true ∧
      (∀ d, parse describedFirst = .ok d → Merged [xDescribed, sumDescribed, xTyped] d.entries) ∧
      ∀ d d', parse describedFirst = .ok d → parse typedFirst = .ok d' →
        ∃ l r, d.entries = l ++ .param (mergedParam "x" xDescribed xTyped xDescribed) :: r ∧
          d'.entries = l ++ .param (mergedParam "x" xDescribed xTyped xTyped) :: r := by
  have hr : readTags describedFirst = .ok [xDescribed, sumDescribed, xTyped] := by decide +kernel
  have hr' : readTags typedFirst = .ok [xTyped, sumDescribed, xDescribed] := by decide +kernel
  have hs : Swapped "x" xDescribed xTyped [xDescribed, sumDescribed, xTyped]
      [xTyped, sumDescribed, xDescribed] :=
    .intro [] [sumDescribed] [] (by decide) (by decide) (by decide) (by decide)
  have hread : (parse describedFirst).toOption.isSome = true := by
    rw [parse_eq_of_readTags hr]
    rfl
  obtain ⟨hmerged, -, -, hswap⟩ := tags_merged hr
  exact ⟨hr, hr', hread, hmerged, (hswap hs hr').2⟩

/-- A default is not found behind a type, and a parameter may take the place of the result. -/
theorem leader_without_default :
    (parse "@param x: The x, defaults to 3.\n@type x: int".toList).toOption.map
        (·.params.map (·.default)) = some [some "3"] ∧
      (parse "@type x: int\n@param x: The x, defaults to 3.".toList).toOption.map
        (·.params.map (·.default)) = some [none] ∧
      (parse "@param return: The p.\n@return: The r.".toList).toOption.map
        (fun d => (d.params.map (·.description), d.returns)) = some ([some "The r."], none) := by
  decide +kernel

end RefBook.Docstring.Epydoc
