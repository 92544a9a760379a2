import RefBook.Docstring.Epydoc
import RefBook.Proofs.Text.Lines

/-! # The forms of heads

What stands before the colon of a tag is recognised by its form, and looked for everywhere
in the tag. A form is found exactly where it is mentioned: there is no colon and no marker
in it, so it is mentioned in the head of the tag or in the text behind the colon. -/

namespace RefBook.Docstring.Epydoc

open Text (isBlank isSpace)

def isName : List Char → Bool
  | [] => false
  | c :: t => isNameStart c && t.all isNameChar

/-- A name, or a name and a question mark. -/
def isArgument (w : List Char) : Bool :=
  isName w || (w.getLast? == some '?' && isName w.dropLast)

theorem isSpace_of_isNameChar {c : Char} (h : isNameChar c = true) : isSpace c = false := by
  simp only [isNameChar, isNameStart, Char.isDigit, Bool.or_eq_true, Bool.and_eq_true,
    decide_eq_true_eq, Char.le_def, ge_iff_le, UInt32.le_iff_toNat_le, Char.reduceVal,
    UInt32.reduceToNat, Char.toNat_val] at h
  simp only [isSpace, Bool.or_eq_false_iff, Bool.and_eq_false_iff, decide_eq_false_iff_not,
    beq_eq_false_iff_ne]
  omega

theorem isNameChar_of_mem_isName {w : List Char} (h : isName w = true) :
    ∀ c ∈ w, isNameChar c = true := by
  cases w with
  | nil => exact List.forall_mem_nil _
  | cons c t =>
    rw [isName, Bool.and_eq_true, List.all_eq_true] at h
    rw [List.forall_mem_cons]
    exact ⟨by rw [isNameChar, h.1, Bool.true_or], h.2⟩

theorem isArgument_cases {w : List Char} (h : isArgument w = true) :
    ∃ name mark, isName name = true ∧ w = name ++ mark ∧ (mark = [] ∨ mark = ['?']) := by
  rw [isArgument, Bool.or_eq_true, Bool.and_eq_true, beq_iff_eq] at h
  obtain h | ⟨hlast, h⟩ := h
  · exact ⟨w, [], h, (List.append_nil w).symm, .inl rfl⟩
  · exact ⟨w.dropLast, ['?'], h, (List.dropLast_append_getLast? _ hlast).symm, .inr rfl⟩

theorem isArgument_append {name mark : List Char} (h : isName name = true)
    (hmark : mark = [] ∨ mark = ['?']) : isArgument (name ++ mark) = true := by
  obtain rfl | rfl := hmark
  · rw [List.append_nil, isArgument, h, Bool.true_or]
  · rw [isArgument, List.dropLast_concat, h]
    simp

theorem plain_of_isArgument {w : List Char} (h : isArgument w = true) :
    ∀ c ∈ w, isSpace c = false ∧ c ≠ ':' := by
  obtain ⟨name, mark, hname, rfl, hmark⟩ := isArgument_cases h
  intro c hc
  obtain hc | hc := List.mem_append.mp hc
  · have hchar := isNameChar_of_mem_isName hname c hc
    refine ⟨isSpace_of_isNameChar hchar, ?_⟩
    rintro rfl
    exact absurd hchar (by decide)
  · obtain rfl | rfl := hmark
    · cases hc
    · rw [List.mem_singleton.mp hc]
      decide

/-- A blank gap and then a name are an argument, as long as nothing that may belong to the
name follows. -/
theorem argument?_append {gap w rest : List Char} (hgap : isBlank gap = true) (hne : gap ≠ [])
    (hw : isArgument w = true) (hrest : ∀ c ∈ rest.head?, isNameChar c = false ∧ c ≠ '?') :
    argument? (gap ++ (w ++ rest)) = some (w, rest) := by
  obtain ⟨name, mark, hname, rfl, hmark⟩ := isArgument_cases hw
  cases name with
  | nil => cases hname
  | cons c t =>
    rw [isName, Bool.and_eq_true, List.all_eq_true] at hname
    have hspace : isSpace c = false :=
      isSpace_of_isNameChar (by rw [isNameChar, hname.1, Bool.true_or])
    obtain ⟨htake, hdrop⟩ := Text.span_append (b := c :: (t ++ (mark ++ rest)))
      (List.all_eq_true.mp hgap) fun a ha => Option.some.inj ha ▸ hspace
    have hafter : ∀ c ∈ (mark ++ rest).head?, isNameChar c = false := by
      obtain rfl | rfl := hmark
      · exact fun c hc => (hrest c hc).1
      · intro c hc
        cases hc
        decide
    obtain ⟨hnameTake, hnameDrop⟩ := Text.span_append hname.2 hafter
    have heq : gap ++ (c :: t ++ mark ++ rest) = gap ++ c :: (t ++ (mark ++ rest)) := by simp
    rw [heq, argument?, htake, hdrop]
    obtain ⟨g, gap', rfl⟩ := List.exists_cons_of_ne_nil hne
    simp only [hname.1, if_true, hnameTake, hnameDrop]
    obtain rfl | rfl := hmark
    · rw [List.nil_append, List.append_nil]
      split
      · exact absurd rfl (hrest '?' rfl).2
      · rfl
    · rfl

/-- Behind white space, the argument that is found is a name. -/
theorem argument?_spec {t w rest : List Char} (h : argument? t = some (w, rest)) :
    ∃ gap, isBlank gap = true ∧ gap ≠ [] ∧ isArgument w = true ∧ t = gap ++ (w ++ rest) := by
  have hsplit := List.takeWhile_append_dropWhile (p := isSpace) (l := t)
  have hblank : isBlank (t.takeWhile isSpace) = true := List.all_takeWhile
  rw [argument?] at h
  split at h
  · rename_i g gap c t' htake hdrop
    rw [htake, hdrop] at hsplit
    rw [htake] at hblank
    split at h
    · rename_i hstart
      have hname : isName (c :: t'.takeWhile isNameChar) = true := by
        rw [isName, hstart, Bool.true_and]
        exact List.all_takeWhile
      have htail := List.takeWhile_append_dropWhile (p := isNameChar) (l := t')
      split at h
      · rename_i hafter
        cases h
        refine ⟨g :: gap, hblank, List.cons_ne_nil g gap, isArgument_append hname (.inr rfl), ?_⟩
        rw [← hsplit]
        simp only [List.cons_append, List.append_assoc, List.nil_append, ← hafter, htail]
      · cases h
        refine ⟨g :: gap, hblank, List.cons_ne_nil g gap, ?_, ?_⟩
        · rw [isArgument, hname, Bool.true_or]
        · rw [← hsplit]
          simp only [List.cons_append, htail]
    · cases h
  · cases h

def paramKeys : List String := ["param", "keyword", "type"]

def resultKeys : List String := ["return", "rtype", "yield", "ytype"]

/-- The keys that are no note's. -/
def keys : List String := paramKeys ++ "raise" :: resultKeys

theorem mem_keys_of_param {key : String} (h : key ∈ paramKeys) : key ∈ keys :=
  List.mem_append_left _ h

theorem mem_keys_of_result {key : String} (h : key ∈ resultKeys) : key ∈ keys :=
  List.mem_append_right _ (List.mem_cons_of_mem _ h)

/-- The forms by which the families of tags are recognised, notes apart: what stands before
the colon. -/
inductive Form : Family → List Char → Prop
  | param {key : String} {gap arg : List Char} (hkey : key ∈ paramKeys)
      (hgap : isBlank gap = true) (hne : gap ≠ []) (harg : isArgument arg = true) :
      Form .param (key.toList ++ (gap ++ arg))
  | raise : Form .raise "raise".toList
  | raiseOf {gap arg : List Char} (hgap : isBlank gap = true) (hne : gap ≠ [])
      (harg : isArgument arg = true) : Form .raise ("raise".toList ++ (gap ++ arg))
  | result {key : String} (hkey : key ∈ resultKeys) :
      Form .result key.toList

/-- A form and its colon stand somewhere in the text. -/
def Mentions (f : Family) (t : List Char) : Prop :=
  ∃ before form after, t = before ++ (form ++ ':' :: after) ∧ Form f form

def headOf? : Family → List Char → Option Head
  | .param => paramHead?
  | .raise => raiseHead?
  | .result => resultHead?
  | .note => noteHead?

theorem afterColon?_eq_some {t rest : List Char} (h : afterColon? t = some rest) :
    t = ':' :: rest := by
  unfold afterColon? at h
  split at h
  · cases h; rfl
  · cases h

theorem keyed?_eq_some {keys : List String} {t key rest : List Char}
    (h : keyed? keys t = some (key, rest)) :
    ∃ k ∈ keys, k.toList <+: t ∧ rest = t.drop k.length := by
  obtain ⟨k, hk, hsome⟩ := List.exists_of_findSome?_eq_some h
  split at hsome
  · rename_i hpre
    cases hsome
    exact ⟨k, hk, List.isPrefixOf_iff_prefix.mp hpre, rfl⟩
  · cases hsome

theorem eq_append_of_keyed? {keys : List String} {t key rest : List Char}
    (h : keyed? keys t = some (key, rest)) : ∃ k ∈ keys, t = k.toList ++ rest := by
  obtain ⟨k, hk, hpre, rfl⟩ := keyed?_eq_some h
  refine ⟨k, hk, ?_⟩
  rw [← String.length_toList]
  exact (List.prefix_iff_eq_append.mp hpre).symm

/-- What is found is a form, and its arguments are names. -/
theorem headOf?_spec {f : Family} (hf : f ≠ .note) {t : List Char} {h : Head}
    (hh : headOf? f t = some h) :
    (∃ form, Form f form ∧ t = form ++ ':' :: h.rest) ∧ ∀ a ∈ h.args, isArgument a = true := by
  cases f with
  | param =>
    rw [headOf?, paramHead?] at hh
    obtain ⟨⟨key, t'⟩, hkey, hh⟩ := Option.bind_eq_some_iff.mp hh
    obtain ⟨⟨arg, t''⟩, harg, hh⟩ := Option.bind_eq_some_iff.mp hh
    obtain ⟨rest, hrest, hh⟩ := Option.bind_eq_some_iff.mp hh
    cases hh
    obtain ⟨k, hk, rfl⟩ := eq_append_of_keyed? hkey
    obtain ⟨gap, hgap, hne, hname, rfl⟩ := argument?_spec harg
    have hcolon := afterColon?_eq_some hrest
    dsimp only at hcolon hname ⊢
    subst hcolon
    refine ⟨⟨_, Form.param hk hgap hne hname, by simp⟩, ?_⟩
    simpa using hname
  | raise =>
    rw [headOf?, raiseHead?] at hh
    obtain ⟨⟨key, t'⟩, hkey, hfound⟩ := Option.bind_eq_some_iff.mp hh
    obtain ⟨k, hk, rfl⟩ := eq_append_of_keyed? hkey
    obtain rfl := List.mem_singleton.mp hk
    dsimp only at hfound
    split at hfound
    · rename_i arg t'' harg
      obtain ⟨rest, hrest, hhead⟩ := Option.bind_eq_some_iff.mp hfound
      cases hhead
      obtain ⟨gap, hgap, hne, hname, rfl⟩ := argument?_spec harg
      have hcolon := afterColon?_eq_some hrest
      subst hcolon
      refine ⟨⟨_, Form.raiseOf hgap hne hname, by simp⟩, ?_⟩
      simpa using hname
    · obtain ⟨rest, hrest, hhead⟩ := Option.bind_eq_some_iff.mp hfound
      cases hhead
      have hcolon := afterColon?_eq_some hrest
      subst hcolon
      exact ⟨⟨_, Form.raise, rfl⟩, List.forall_mem_nil _⟩
  | result =>
    rw [headOf?, resultHead?] at hh
    obtain ⟨⟨key, t'⟩, hkey, hh⟩ := Option.bind_eq_some_iff.mp hh
    obtain ⟨rest, hrest, hh⟩ := Option.bind_eq_some_iff.mp hh
    cases hh
    obtain ⟨k, hk, rfl⟩ := eq_append_of_keyed? hkey
    have hcolon := afterColon?_eq_some hrest
    dsimp only at hcolon ⊢
    subst hcolon
    exact ⟨⟨_, Form.result hk, rfl⟩, List.forall_mem_nil _⟩
  | note => exact absurd rfl hf

theorem colon_ends_name (rest : List Char) :
    ∀ c ∈ (':' :: rest).head?, isNameChar c = false ∧ c ≠ '?' := by
  intro c hc
  cases hc
  decide

theorem paramHead?_form {key : String} {gap arg : List Char}
    (hkey : key ∈ paramKeys) (hgap : isBlank gap = true) (hne : gap ≠ [])
    (harg : isArgument arg = true) (rest : List Char) :
    paramHead? (key.toList ++ (gap ++ (arg ++ ':' :: rest))) = some ⟨key.toList, [arg], rest⟩ := by
  have hkeyed : ∀ t, keyed? paramKeys (key.toList ++ t) = some (key.toList, t) := by
    simp only [paramKeys, List.mem_cons, List.not_mem_nil, or_false] at hkey
    obtain rfl | rfl | rfl := hkey <;> exact fun _ => rfl
  rw [paramHead?, ← paramKeys, hkeyed]
  simp only [Option.bind_eq_bind, Option.bind_some,
    argument?_append hgap hne harg (colon_ends_name rest)]
  rfl

theorem raiseHead?_form (rest : List Char) :
    raiseHead? ("raise".toList ++ ':' :: rest) = some ⟨[], [], rest⟩ := rfl

theorem raiseHead?_formOf {gap arg : List Char} (hgap : isBlank gap = true) (hne : gap ≠ [])
    (harg : isArgument arg = true) (rest : List Char) :
    raiseHead? ("raise".toList ++ (gap ++ (arg ++ ':' :: rest))) = some ⟨[], [arg], rest⟩ := by
  have hkeyed : keyed? ["raise"] ("raise".toList ++ (gap ++ (arg ++ ':' :: rest))) =
      some ("raise".toList, gap ++ (arg ++ ':' :: rest)) := rfl
  rw [raiseHead?, hkeyed]
  simp only [Option.bind_eq_bind, Option.bind_some,
    argument?_append hgap hne harg (colon_ends_name rest)]
  rfl

theorem resultHead?_form {key : String} (hkey : key ∈ resultKeys) (rest : List Char) :
    resultHead? (key.toList ++ ':' :: rest) = some ⟨key.toList, [], rest⟩ := by
  simp only [resultKeys, List.mem_cons, List.not_mem_nil, or_false] at hkey
  obtain rfl | rfl | rfl | rfl := hkey <;> rfl

/-- Every form is found. -/
theorem Form.found {f : Family} {form : List Char} (h : Form f form) (rest : List Char) :
    (headOf? f (form ++ ':' :: rest)).isSome = true := by
  cases h with
  | param hkey hgap hne harg =>
    rw [List.append_assoc, List.append_assoc, headOf?, paramHead?_form hkey hgap hne harg]
    rfl
  | raise => rfl
  | raiseOf hgap hne harg =>
    rw [List.append_assoc, List.append_assoc, headOf?, raiseHead?_formOf hgap hne harg]
    rfl
  | result hkey =>
    rw [headOf?, resultHead?_form hkey]
    rfl

theorem colon_not_mem_keys : ∀ k ∈ keys, ':' ∉ k.toList := by decide

theorem Form.colon_not_mem {f : Family} {form : List Char} (h : Form f form) : ':' ∉ form := by
  have hspaced : ∀ {gap arg : List Char}, isBlank gap = true → isArgument arg = true →
      ':' ∉ gap ++ arg := by
    intro gap arg hgap harg hm
    obtain hm | hm := List.mem_append.mp hm
    · exact absurd (List.all_eq_true.mp hgap ':' hm) (by decide)
    · exact (plain_of_isArgument harg ':' hm).2 rfl
  cases h with
  | @param key gap arg hkey hgap hne harg =>
    rw [List.mem_append, not_or]
    exact ⟨colon_not_mem_keys key (mem_keys_of_param hkey), hspaced hgap harg⟩
  | raise => decide
  | raiseOf hgap hne harg =>
    rw [List.mem_append, not_or]
    exact ⟨by decide, hspaced hgap harg⟩
  | result hkey => exact colon_not_mem_keys _ (mem_keys_of_result hkey)

theorem Form.exists_key {f : Family} {form : List Char} (h : Form f form) :
    ∃ k ∈ keys, ∃ l, form = k.toList ++ l := by
  cases h with
  | @param key gap arg hkey => exact ⟨key, mem_keys_of_param hkey, gap ++ arg, rfl⟩
  | raise => exact ⟨"raise", by decide, [], rfl⟩
  | @raiseOf gap arg => exact ⟨"raise", by decide, gap ++ arg, rfl⟩
  | @result key hkey => exact ⟨key, mem_keys_of_result hkey, [], (List.append_nil _).symm⟩

theorem exists_of_search? {head? : List Char → Option Head} {t : List Char} {h : Head}
    (hs : search? head? t = some h) : ∃ s, s <:+ t ∧ head? s = some h := by
  induction t with
  | nil => cases hs
  | cons c t ih =>
    rw [search?] at hs
    cases hhead : head? (c :: t) with
    | some h' =>
      rw [hhead] at hs
      cases hs
      exact ⟨c :: t, List.suffix_rfl, hhead⟩
    | none =>
      rw [hhead] at hs
      obtain ⟨s, hsuffix, hfound⟩ := ih hs
      exact ⟨s, hsuffix.trans (List.suffix_cons c t), hfound⟩

theorem isSome_search? {head? : List Char → Option Head} {s t : List Char} (hne : s ≠ [])
    (hsuffix : s <:+ t) (hfound : (head? s).isSome = true) : (search? head? t).isSome = true := by
  induction t with
  | nil => exact absurd (List.suffix_nil.mp hsuffix) hne
  | cons c t ih =>
    rw [search?]
    cases hhead : head? (c :: t) with
    | some h => rfl
    | none =>
      obtain rfl | hsuffix := List.suffix_cons_iff.mp hsuffix
      · rw [hhead] at hfound
        cases hfound
      · exact ih hsuffix

/-- A head right behind the marker is found. -/
theorem search?_behind_marker {head? : List Char → Option Head} {t : List Char} {h : Head}
    (hmark : head? ('@' :: t) = none) (hhead : head? t = some h) (hne : t ≠ []) :
    search? head? ('@' :: t) = some h := by
  obtain ⟨c, t', rfl⟩ := List.exists_cons_of_ne_nil hne
  rw [search?, hmark, search?, hhead]
  rfl

/-- A family's head is found exactly where one of its forms is mentioned. -/
theorem isSome_search?_iff {f : Family} (hf : f ≠ .note) (t : List Char) :
    (search? (headOf? f) t).isSome = true ↔ Mentions f t := by
  constructor
  · intro h
    obtain ⟨head, hs⟩ := Option.isSome_iff_exists.mp h
    obtain ⟨s, ⟨before, rfl⟩, hfound⟩ := exists_of_search? hs
    obtain ⟨⟨form, hform, rfl⟩, -⟩ := headOf?_spec hf hfound
    exact ⟨before, form, head.rest, rfl, hform⟩
  · rintro ⟨before, form, after, rfl, hform⟩
    exact isSome_search? (by simp) (List.suffix_append before _) (hform.found after)

theorem search?_eq_none_iff {f : Family} (hf : f ≠ .note) (t : List Char) :
    search? (headOf? f) t = none ↔ ¬ Mentions f t := by
  rw [← isSome_search?_iff hf, Option.not_isSome_iff_eq_none]

theorem eq_of_colon {a a' b b' : List Char} (ha : ':' ∉ a) (ha' : ':' ∉ a')
    (h : a ++ ':' :: b = a' ++ ':' :: b') : a = a' ∧ b = b' := by
  have hcut := Text.cut?_append ha b
  rw [h, Text.cut?_append ha' b', Option.some.injEq, Prod.mk.injEq] at hcut
  exact ⟨hcut.1.symm, hcut.2.symm⟩

/-- A form stands on one side of a colon, for there is no colon in it. -/
theorem mentions_append {f : Family} {a : List Char} (ha : ':' ∉ a) (b : List Char) :
    Mentions f (a ++ ':' :: b) ↔ Mentions f (a ++ [':']) ∨ Mentions f b := by
  constructor
  · rintro ⟨before, form, after, heq, hform⟩
    by_cases hbefore : ':' ∈ before
    · obtain ⟨x, y, rfl, hx⟩ := List.eq_append_cons_of_mem hbefore
      rw [List.append_assoc, List.cons_append] at heq
      obtain ⟨-, rfl⟩ := eq_of_colon ha hx heq
      exact .inr ⟨y, form, after, rfl, hform⟩
    · have hfront : ':' ∉ before ++ form := by
        rw [List.mem_append, not_or]
        exact ⟨hbefore, hform.colon_not_mem⟩
      rw [← List.append_assoc] at heq
      obtain ⟨rfl, rfl⟩ := eq_of_colon ha hfront heq
      exact .inl ⟨before, form, [], List.append_assoc _ _ _, hform⟩
  · rintro (⟨before, form, after, heq, hform⟩ | ⟨before, form, after, rfl, hform⟩)
    · refine ⟨before, form, after ++ b, ?_, hform⟩
      rw [← List.singleton_append, ← List.append_assoc, heq]
      simp
    · exact ⟨a ++ ':' :: before, form, after, by simp, hform⟩

/-- A character that no key starts with is not the first of a form. -/
theorem mentions_cons {f : Family} {c : Char} (hc : ∀ k ∈ keys, k.toList.head? ≠ some c)
    (t : List Char) : Mentions f (c :: t) ↔ Mentions f t := by
  constructor
  · rintro ⟨before, form, after, heq, hform⟩
    cases before with
    | nil =>
      obtain ⟨k, hk, l, rfl⟩ := hform.exists_key
      rw [List.nil_append, List.append_assoc] at heq
      have hhead : (k.toList ++ (l ++ ':' :: after)).head? = some c := by rw [← heq]; rfl
      have hne : ∀ k ∈ keys, k.toList ≠ [] := by decide
      rw [List.head?_append_of_ne_nil _ (hne k hk)] at hhead
      exact absurd hhead (hc k hk)
    | cons a before =>
      cases heq
      exact ⟨before, form, after, rfl, hform⟩
  · rintro ⟨before, form, after, rfl, hform⟩
    exact ⟨c :: before, form, after, rfl, hform⟩

theorem Mentions.colon_mem {f : Family} {t : List Char} (h : Mentions f t) : ':' ∈ t := by
  obtain ⟨before, form, after, rfl, -⟩ := h
  simp

end RefBook.Docstring.Epydoc
