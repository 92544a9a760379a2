import RefBook.Proofs.Docstring.TagForms

/-! # What a tag is read as

A tag is written as a head, a colon and a text. The forms of heads are tried in a fixed
order, and each is looked for everywhere in the tag. So the head decides what the tag is
read as exactly if its words are names and no form tried before its own stands anywhere in
the tag: in the text, or at the end of the head itself. -/

namespace RefBook.Docstring.Epydoc

open Text (isBlank isSpace)

/-! ## Tags as they are written -/

/-- A word of a head: not empty, without white space and without a colon. -/
structure Word where
  text : List Char
  ne_nil : text ≠ [] := by decide
  plain : ∀ c ∈ text, isSpace c = false ∧ c ≠ ':' := by decide

/-- A head as it is written: a key and its arguments. -/
inductive Header
  /-- A parameter's tag has one argument. -/
  | param (key : String) (arg : Word) (hkey : key ∈ paramKeys)
  /-- An exception's tag has at most one argument. -/
  | raise (arg : Option Word)
  /-- A result's tag has no argument. -/
  | result (key : String) (hkey : key ∈ resultKeys)
  /-- A note's tag has another key, of two characters at least, and any arguments. -/
  | note (key : Word) (args : List Word) (hlen : 2 ≤ key.text.length)
      (hkey : String.ofList key.text ∉ keys)

namespace Header

def family : Header → Family
  | param _ _ _ => .param
  | raise _ => .raise
  | result _ _ => .result
  | note _ _ _ _ => .note

def args : Header → List Word
  | param _ arg _ => [arg]
  | raise arg => arg.toList
  | result _ _ => []
  | note _ args _ _ => args

def keyText : Header → List Char
  | param key _ _ => key.toList
  | raise _ => "raise".toList
  | result key _ => key.toList
  | note key _ _ _ => key.text

/-- The key as it is recorded: none for an exception. -/
def key : Header → List Char
  | raise _ => []
  | h => h.keyText

def text (h : Header) : List Char := h.keyText ++ h.args.flatMap (' ' :: ·.text)

def chunk (h : Header) (description : List Char) : List Char :=
  '@' :: h.text ++ ':' :: description

/-- What the head says, with a description made from the text behind its colon. -/
def tag (h : Header) (description : List Char) : Tag :=
  ⟨h.family, String.ofList h.key, h.args.map (String.ofList ·.text),
    cleanTail (Text.trim description)⟩

/-- The words of the head are names: its arguments, and the key of a note. -/
structure Legible (h : Header) : Prop where
  args : ∀ w ∈ h.args, isArgument w.text = true
  key : h.family = .note → isName h.keyText = true

end Header

/-- The families whose forms are tried before those of a family. -/
def Family.earlier : Family → List Family
  | .param => []
  | .raise => [.param]
  | .result => [.param, .raise]
  | .note => [.param, .raise, .result]

/-- No form that is tried before the head's own stands in the head. -/
def Header.Clear (h : Header) : Prop := ∀ f ∈ h.family.earlier, ¬ Mentions f (h.text ++ [':'])

theorem Header.colon_not_mem (h : Header) : ':' ∉ '@' :: h.text := by
  have hargs : ':' ∉ h.args.flatMap (' ' :: ·.text) := by
    rw [List.mem_flatMap]
    rintro ⟨w, -, hw⟩
    obtain hw | hw := List.mem_cons.mp hw
    · exact absurd hw (by decide)
    · exact (w.plain ':' hw).2 rfl
  have hkey : ':' ∉ h.keyText := by
    cases h with
    | param key arg hkey => exact colon_not_mem_keys key (mem_keys_of_param hkey)
    | raise arg => exact colon_not_mem_keys "raise" (by decide)
    | result key hkey => exact colon_not_mem_keys key (mem_keys_of_result hkey)
    | note key args hlen hkey => exact fun hm => (key.plain ':' hm).2 rfl
  rw [Header.text, List.mem_cons, List.mem_append, not_or, not_or]
  exact ⟨by decide, hkey, hargs⟩

/-- What a tag mentions, it mentions in its head or in the text behind the colon. -/
theorem Header.mentions_chunk_iff (h : Header) (f : Family) (description : List Char) :
    Mentions f (h.chunk description) ↔ Mentions f (h.text ++ [':']) ∨ Mentions f description := by
  rw [Header.chunk, mentions_append h.colon_not_mem, List.cons_append, mentions_cons (by decide)]

/-! ### Reading a legible head -/

theorem arguments_append {ws : List Word} (h : ∀ w ∈ ws, isArgument w.text = true) {n : Nat}
    (hn : ws.length ≤ n) (rest : List Char) :
    arguments n (ws.flatMap (' ' :: ·.text) ++ ':' :: rest) = (ws.map (·.text), ':' :: rest) := by
  induction ws generalizing n with
  | nil =>
    cases n with
    | zero => rfl
    | succ n => rfl
  | cons w ws ih =>
    cases n with
    | zero => cases hn
    | succ n =>
      rw [List.forall_mem_cons] at h
      have hafter : ∀ c ∈ (ws.flatMap (' ' :: ·.text) ++ ':' :: rest).head?,
          isNameChar c = false ∧ c ≠ '?' := by
        intro c hc
        cases ws with
        | nil => cases hc; decide
        | cons w' ws => cases hc; decide
      have harg : argument? ((w :: ws).flatMap (' ' :: ·.text) ++ ':' :: rest) =
          some (w.text, ws.flatMap (' ' :: ·.text) ++ ':' :: rest) := by
        have hgap : argument? ([' '] ++ (w.text ++ (ws.flatMap (' ' :: ·.text) ++ ':' :: rest))) =
            some (w.text, ws.flatMap (' ' :: ·.text) ++ ':' :: rest) :=
          argument?_append (by decide) (by decide) h.1 hafter
        rw [← hgap]
        simp
      rw [arguments, harg]
      dsimp only
      rw [ih h.2 (Nat.le_of_succ_le_succ hn)]
      rfl

theorem length_le_length_words (ws : List Word) :
    ws.length ≤ (ws.flatMap (' ' :: ·.text)).length := by
  induction ws with
  | nil => exact Nat.le_refl 0
  | cons w ws ih =>
    rw [List.flatMap_cons, List.length_append, List.length_cons, List.length_cons]
    omega

theorem noteHead?_eq {key : Word} {args : List Word} (hlen : 2 ≤ key.text.length)
    (hkey : isName key.text = true) (hargs : ∀ w ∈ args, isArgument w.text = true)
    (rest : List Char) :
    noteHead? (key.text ++ (args.flatMap (' ' :: ·.text) ++ ':' :: rest)) =
      some ⟨key.text, args.map (·.text), rest⟩ := by
  cases hk : key.text with
  | nil => exact absurd hk key.ne_nil
  | cons c t =>
    rw [hk, isName, Bool.and_eq_true, List.all_eq_true] at hkey
    rw [hk, List.length_cons] at hlen
    have hstop : ∀ c ∈ (args.flatMap (' ' :: ·.text) ++ ':' :: rest).head?,
        isNameChar c = false := by
      intro c hc
      cases args with
      | nil => cases hc; decide
      | cons w ws => cases hc; decide
    obtain ⟨htake, hdrop⟩ := Text.span_append hkey.2 hstop
    have hnext : (t ++ (args.flatMap (' ' :: ·.text) ++ ':' :: rest)).head?.any isNameChar =
        true := by
      cases t with
      | nil => simp at hlen
      | cons c' t => exact hkey.2 c' List.mem_cons_self
    have hcount : args.length ≤ (t ++ (args.flatMap (' ' :: ·.text) ++ ':' :: rest)).length := by
      have hwords := length_le_length_words args
      rw [List.length_append, List.length_append]
      omega
    rw [List.cons_append, noteHead?, hkey.1, hnext, htake, hdrop, arguments_append hargs hcount]
    rfl

/-- A legible head is read as it is written, behind its marker. -/
theorem Header.headOf?_eq {h : Header} (hh : h.Legible) (description : List Char) :
    headOf? h.family (h.text ++ ':' :: description) =
      some ⟨h.key, h.args.map (·.text), description⟩ := by
  have hblank : isBlank [' '] = true := by decide
  cases h with
  | param key arg hkey =>
    have harg := hh.args arg (List.mem_singleton_self arg)
    have hform := paramHead?_form hkey hblank (List.cons_ne_nil _ _) harg description
    simpa [Header.text, Header.args, Header.keyText, Header.key, headOf?, Header.family] using hform
  | raise arg =>
    cases arg with
    | none => exact raiseHead?_form description
    | some arg =>
      have harg := hh.args arg (List.mem_singleton_self arg)
      have hform := raiseHead?_formOf hblank (List.cons_ne_nil _ _) harg description
      simpa [Header.text, Header.args, Header.keyText, Header.key, headOf?, Header.family]
        using hform
  | result key hkey =>
    have hform := resultHead?_form hkey description
    simpa [Header.text, Header.args, Header.keyText, Header.key, headOf?, Header.family] using hform
  | note key args hlen hkey =>
    have hform := noteHead?_eq hlen (hh.key rfl) hh.args description
    simpa [Header.text, Header.args, Header.keyText, Header.key, headOf?, Header.family] using hform

/-! ### The family of a tag -/

def Head.tag (h : Head) (family : Family) : Tag :=
  ⟨family, String.ofList h.key, h.args.map String.ofList, cleanTail (Text.trim h.rest)⟩

theorem tag_of_param {chunk : List Char} {h : Head} (hp : search? paramHead? chunk = some h) :
    tag chunk = .ok (h.tag .param) := by
  simp only [tag, heads, List.findSome?_cons, hp, Option.map_some]
  rfl

theorem tag_of_raise {chunk : List Char} {h : Head} (hp : search? paramHead? chunk = none)
    (hx : search? raiseHead? chunk = some h) : tag chunk = .ok (h.tag .raise) := by
  simp only [tag, heads, List.findSome?_cons, hp, hx, Option.map_some, Option.map_none]
  rfl

theorem tag_of_result {chunk : List Char} {h : Head} (hp : search? paramHead? chunk = none)
    (hx : search? raiseHead? chunk = none) (hr : search? resultHead? chunk = some h) :
    tag chunk = .ok (h.tag .result) := by
  simp only [tag, heads, List.findSome?_cons, hp, hx, hr, Option.map_some, Option.map_none]
  rfl

/-- A tag is read by the first head that is found in it. -/
theorem tag_of_first {f : Family} {chunk : List Char} {h : Head}
    (hown : search? (headOf? f) chunk = some h)
    (hnone : ∀ g ∈ f.earlier, search? (headOf? g) chunk = none)
    (hkey : f = .note → String.ofList h.key ∉ reserved) : Epydoc.tag chunk = .ok (h.tag f) := by
  cases f with
  | param => exact tag_of_param hown
  | raise => exact tag_of_raise (hnone .param (by decide)) hown
  | result => exact tag_of_result (hnone .param (by decide)) (hnone .raise (by decide)) hown
  | note =>
    have hp : search? paramHead? chunk = none := hnone .param (by decide)
    have hx : search? raiseHead? chunk = none := hnone .raise (by decide)
    have hr : search? resultHead? chunk = none := hnone .result (by decide)
    have hn : search? noteHead? chunk = some h := hown
    simp only [Epydoc.tag, heads, List.findSome?_cons, hp, hx, hr, hn, Option.map_some,
      Option.map_none]
    exact if_neg fun h => hkey rfl h.2

/-- A tag is of the first family whose head is found in it. -/
theorem tag_spec {chunk : List Char} {g : Tag} (h : Epydoc.tag chunk = .ok g) :
    (∃ head, search? (headOf? g.family) chunk = some head ∧ g = head.tag g.family) ∧
      ∀ f ∈ g.family.earlier, search? (headOf? f) chunk = none := by
  cases hp : search? paramHead? chunk with
  | some head =>
    rw [tag_of_param hp] at h
    cases h
    exact ⟨⟨head, hp, rfl⟩, List.forall_mem_nil _⟩
  | none =>
    cases hx : search? raiseHead? chunk with
    | some head =>
      rw [tag_of_raise hp hx] at h
      cases h
      exact ⟨⟨head, hx, rfl⟩, List.forall_mem_singleton.mpr hp⟩
    | none =>
      cases hr : search? resultHead? chunk with
      | some head =>
        rw [tag_of_result hp hx hr] at h
        cases h
        refine ⟨⟨head, hr, rfl⟩, ?_⟩
        rw [Head.tag, Family.earlier, List.forall_mem_cons, List.forall_mem_singleton]
        exact ⟨hp, hx⟩
      | none =>
        have hrest : ∀ f ∈ Family.note.earlier, search? (headOf? f) chunk = none := by
          rw [Family.earlier, List.forall_mem_cons, List.forall_mem_cons, List.forall_mem_singleton]
          exact ⟨hp, hx, hr⟩
        simp only [Epydoc.tag, heads, List.findSome?_cons, hp, hx, hr, Option.map_none] at h
        cases hn : search? noteHead? chunk with
        | none =>
          rw [hn] at h
          cases h
        | some head =>
          rw [hn] at h
          simp only [Option.map_some] at h
          split at h
          · cases h
          · cases h
            exact ⟨⟨head, hn, rfl⟩, hrest⟩

theorem note_notMem_earlier : ∀ f, Family.note ∉ Family.earlier f := by
  intro f
  cases f <;> decide

theorem isArgument_of_mem_arguments {n : Nat} {t : List Char} :
    ∀ w ∈ (arguments n t).1, isArgument w = true := by
  induction n generalizing t with
  | zero => exact List.forall_mem_nil _
  | succ n ih =>
    rw [arguments]
    cases ha : argument? t with
    | none => exact List.forall_mem_nil _
    | some wr =>
      obtain ⟨gap, -, -, hw, -⟩ := argument?_spec ha
      exact List.forall_mem_cons.mpr ⟨hw, ih⟩

theorem noteHead?_spec {t : List Char} {h : Head} (hh : noteHead? t = some h) :
    isName h.key = true ∧ ∀ a ∈ h.args, isArgument a = true := by
  cases t with
  | nil => cases hh
  | cons c t =>
    rw [noteHead?] at hh
    split at hh
    · rename_i hstart
      obtain ⟨rest, -, hh⟩ := Option.bind_eq_some_iff.mp hh
      cases hh
      refine ⟨?_, isArgument_of_mem_arguments⟩
      rw [isName, (Bool.and_eq_true_iff.mp hstart).1, Bool.true_and]
      exact List.all_takeWhile
    · cases hh

theorem headOf?_names {f : Family} {t : List Char} {h : Head} (hh : headOf? f t = some h) :
    (f = .note → isName h.key = true) ∧ ∀ a ∈ h.args, isArgument a = true := by
  by_cases hf : f = .note
  · subst hf
    exact ⟨fun _ => (noteHead?_spec hh).1, (noteHead?_spec hh).2⟩
  · exact ⟨fun h => absurd h hf, (headOf?_spec hf hh).2⟩

/-- A head that is read as it is written is legible. -/
theorem Header.legible_of_tag {h : Header} {description : List Char}
    (hr : Epydoc.tag (h.chunk description) = .ok (h.tag description)) : h.Legible := by
  obtain ⟨⟨head, hs, heq⟩, -⟩ := tag_spec hr
  obtain ⟨s, -, hfound⟩ := exists_of_search? hs
  obtain ⟨hkey, hargs⟩ := headOf?_names hfound
  rw [Header.tag, Head.tag, Tag.mk.injEq] at heq
  obtain ⟨-, hk, ha, -⟩ := heq
  have hk' : h.key = head.key := String.ofList_injective hk
  have ha' : h.args.map (·.text) = head.args := by
    refine List.map_injective_iff.mpr (fun _ _ => String.ofList_injective) ?_
    rw [List.map_map]
    exact ha
  refine ⟨fun w hw => hargs w.text (ha' ▸ List.mem_map_of_mem hw), fun hf => ?_⟩
  rw [← hkey hf, ← hk']
  cases h with
  | note key args hlen hkey => rfl
  | param key arg hkey => cases hf
  | raise arg => cases hf
  | result key hkey => cases hf

theorem Header.tag_eq {h : Header} (hh : h.Legible) (hclear : h.Clear) {description : List Char}
    (hd : ∀ f ∈ h.family.earlier, ¬ Mentions f description) :
    Epydoc.tag (h.chunk description) = .ok (h.tag description) := by
  have hnone : ∀ f ∈ h.family.earlier, search? (headOf? f) (h.chunk description) = none := by
    intro f hf
    rw [← Option.not_isSome_iff_eq_none, isSome_search?_iff, h.mentions_chunk_iff, not_or]
    · exact ⟨hclear f hf, hd f hf⟩
    · rintro rfl
      exact note_notMem_earlier _ hf
  have hmark : headOf? h.family (h.chunk description) = none := by
    cases h <;> rfl
  have hown : search? (headOf? h.family) (h.chunk description) =
      some ⟨h.key, h.args.map (·.text), description⟩ :=
    search?_behind_marker hmark (h.headOf?_eq hh description) (by simp)
  have htag : (⟨h.key, h.args.map (·.text), description⟩ : Head).tag h.family =
      h.tag description := by
    rw [Head.tag, Header.tag, List.map_map]
    rfl
  rw [← htag]
  refine tag_of_first hown hnone fun hf => ?_
  cases h with
  | note key args hlen hkey =>
    have hreserved : ∀ k ∈ reserved, k ∈ keys := by decide
    exact fun hm => hkey (hreserved _ hm)
  | param key arg hkey => cases hf
  | raise arg => cases hf
  | result key hkey => cases hf

/-! ### Heads without other forms -/

theorem exists_form_of_mentions {f : Family} {a : List Char} (ha : ':' ∉ a)
    (h : Mentions f (a ++ [':'])) : ∃ before form, Form f form ∧ a = before ++ form := by
  obtain ⟨before, form, after, heq, hform⟩ := h
  by_cases hbefore : ':' ∈ before
  · obtain ⟨x, y, rfl, hx⟩ := List.eq_append_cons_of_mem hbefore
    rw [List.append_assoc, List.cons_append] at heq
    obtain ⟨-, hnil⟩ := eq_of_colon ha hx heq
    simp at hnil
  · have hfront : ':' ∉ before ++ form := by
      rw [List.mem_append, not_or]
      exact ⟨hbefore, hform.colon_not_mem⟩
    rw [← List.append_assoc] at heq
    exact ⟨before, form, hform, (eq_of_colon ha hfront heq).1⟩

theorem Word.countP_isSpace (w : Word) : w.text.countP isSpace = 0 :=
  List.countP_eq_zero.mpr fun c hc => by simp [(w.plain c hc).1]

/-- In front of the only white space of a text stands what the text starts with. -/
theorem eq_of_single_space {u v l : List Char} {g : Char} (hg : isSpace g = true) {w : Word}
    (hv : v.countP isSpace = 0) (h : v ++ ' ' :: w.text = u ++ g :: l) : u = v := by
  have hcount := congrArg (List.countP isSpace) h
  rw [List.countP_append, List.countP_append, List.countP_cons_of_pos (by decide),
    List.countP_cons_of_pos hg, w.countP_isSpace, hv] at hcount
  have hu : u.countP isSpace = 0 := by omega
  have htake : ∀ {a b : List Char} {c : Char}, a.countP isSpace = 0 → isSpace c = true →
      (a ++ c :: b).takeWhile (!isSpace ·) = a := by
    intro a b c ha hc
    refine (Text.span_append (fun x hx => ?_) fun x hx => ?_).1
    · simpa using List.countP_eq_zero.mp ha x hx
    · cases hx
      simp [hc]
  have hfront := congrArg (List.takeWhile (!isSpace ·)) h
  rw [htake hv (by decide), htake hu hg] at hfront
  exact hfront.symm

theorem exists_space {gap : List Char} (hgap : isBlank gap = true) (hne : gap ≠ []) :
    ∃ g l, gap = g :: l ∧ isSpace g = true := by
  obtain ⟨g, l, rfl⟩ := List.exists_cons_of_ne_nil hne
  exact ⟨g, l, rfl, List.all_eq_true.mp hgap g List.mem_cons_self⟩

/-- A form without white space is a key alone. -/
theorem Form.eq_of_unspaced {f : Family} {before form : List Char} (h : Form f form)
    (hspace : (before ++ form).countP isSpace = 0) :
    (f = .raise ∧ form = "raise".toList) ∨ f = .result := by
  have hunspaced : ∀ c ∈ form, ¬ isSpace c = true :=
    fun c hc => List.countP_eq_zero.mp hspace c (List.mem_append_right before hc)
  cases h with
  | param hkey hgap hne harg =>
    obtain ⟨g, l, rfl, hg⟩ := exists_space hgap hne
    exact absurd hg (hunspaced g (by simp))
  | raise => exact .inl ⟨rfl, rfl⟩
  | raiseOf hgap hne harg =>
    obtain ⟨g, l, rfl, hg⟩ := exists_space hgap hne
    exact absurd hg (hunspaced g (by simp))
  | result hkey => exact .inr rfl

/-- The heads of parameters, exceptions and results hold no form that is tried before
their own. -/
theorem Header.clear_of_ne_note {h : Header} (hf : h.family ≠ .note) : h.Clear := by
  intro f hearlier hm
  have hcolon : ':' ∉ h.text := fun hm => h.colon_not_mem (List.mem_cons_of_mem '@' hm)
  obtain ⟨before, form, hform, htext⟩ := exists_form_of_mentions hcolon hm
  cases h with
  | param key arg hkey => cases hearlier
  | note key args hlen hkey => exact hf rfl
  | raise arg =>
    obtain rfl := List.mem_singleton.mp hearlier
    cases arg with
    | none =>
      have hspace : (before ++ form).countP isSpace = 0 := by
        rw [← htext]
        decide
      obtain ⟨hf, -⟩ | hf := hform.eq_of_unspaced hspace
      · cases hf
      · cases hf
    | some w =>
      cases hform with
      | @param key gap arg hkey hgap hne harg =>
        obtain ⟨g, l, rfl, hg⟩ := exists_space hgap hne
        have hraise : "raise".toList ++ ' ' :: w.text = before ++ key.toList ++ g :: (l ++ arg) := by
          simpa [Header.text, Header.keyText, Header.args] using htext
        have hkeys : ∀ k ∈ paramKeys, ¬ k.toList <:+ "raise".toList := by decide
        have hbefore := eq_of_single_space hg (by decide) hraise
        exact hkeys key hkey ⟨before, hbefore⟩
  | result key hkey =>
    have hkeys : ∀ k ∈ resultKeys, k.toList.countP isSpace = 0 ∧ ¬ "raise".toList <:+ k.toList := by
      decide
    have hkeyText : key.toList = before ++ form := by
      simpa [Header.text, Header.keyText, Header.args] using htext
    obtain ⟨-, rfl⟩ | rfl := hform.eq_of_unspaced (hkeyText ▸ (hkeys key hkey).1)
    · exact (hkeys key hkey).2 ⟨before, hkeyText.symm⟩
    · have hself : Family.result ∉ Family.result.earlier := by decide
      exact hself hearlier

theorem earlier_trans {f g h : Family} (hf : f ∈ g.earlier) (hg : g ∈ h.earlier) :
    f ∈ h.earlier := by
  revert hf hg
  cases f <;> cases g <;> cases h <;> decide

/-- A tag of which a form is the first that is tried and found is of its family. -/
theorem exists_tag_of_first {f : Family} (hf : f ≠ .note) {chunk : List Char}
    (h : Mentions f chunk) (hnone : ∀ g ∈ f.earlier, ¬ Mentions g chunk) :
    ∃ g, Epydoc.tag chunk = .ok g ∧ g.family = f := by
  obtain ⟨head, hown⟩ := Option.isSome_iff_exists.mp ((isSome_search?_iff hf chunk).mpr h)
  refine ⟨head.tag f, tag_of_first hown (fun g hg => ?_) fun hnote => absurd hnote hf, rfl⟩
  rw [search?_eq_none_iff]
  · exact hnone g hg
  · rintro rfl
    exact note_notMem_earlier f hg

/-- A tag that mentions a form is of that form's family or of one that is tried before it,
and mentions a form of its family. -/
theorem exists_tag_of_mentions {f : Family} (hf : f ≠ .note) {chunk : List Char}
    (h : Mentions f chunk) :
    ∃ g, Epydoc.tag chunk = .ok g ∧ g.family ∈ f :: f.earlier ∧ Mentions g.family chunk := by
  by_cases hnone : ∀ g ∈ f.earlier, ¬ Mentions g chunk
  · obtain ⟨g, hg, rfl⟩ := exists_tag_of_first hf h hnone
    exact ⟨g, hg, List.mem_cons_self, h⟩
  · simp only [not_forall, not_not] at hnone
    obtain ⟨k, hk, hm⟩ := hnone
    have hnote : k ≠ .note := by
      rintro rfl
      exact note_notMem_earlier f hk
    -- the first form that is mentioned is found by going back through the earlier ones
    have hshorter : k.earlier.length < f.earlier.length := by
      revert hk
      cases f <;> cases k <;> decide
    obtain ⟨g, hg, hfamily, hmentions⟩ := exists_tag_of_mentions hnote hm
    refine ⟨g, hg, List.mem_cons_of_mem f ?_, hmentions⟩
    obtain hfamily | hfamily := List.mem_cons.mp hfamily
    · rwa [hfamily]
    · exact earlier_trans hfamily hk
termination_by f.earlier.length

/-- **The head decides what a tag is read as** exactly if its words are names and no form
that is tried before its own stands in the tag, in its text or at the end of the head. Then
the tag has the family, the key and the arguments of its head, whatever else the text is; the
heads of parameters, exceptions and results never hold another form. Otherwise a legible
tag is read as what it mentions. -/
theorem header_decides_iff (h : Header) :
    (∀ description, Epydoc.tag (h.chunk description) = .ok (h.tag description) ↔
      h.Legible ∧ h.Clear ∧ ∀ f ∈ h.family.earlier, ¬ Mentions f description) ∧
    (h.family ≠ .note → h.Clear) ∧
    ∀ description, ∀ f ∈ h.family.earlier, Mentions f (h.chunk description) →
      ∃ g, Epydoc.tag (h.chunk description) = .ok g ∧ g.family ∈ h.family.earlier ∧
        Mentions g.family (h.chunk description) := by
  refine ⟨fun description => ⟨fun hr => ⟨h.legible_of_tag hr, ?_⟩, ?_⟩, h.clear_of_ne_note, ?_⟩
  · have hnone : ∀ f ∈ h.family.earlier, ¬ Mentions f (h.chunk description) := by
      intro f hf
      have hsearch := (tag_spec hr).2 f hf
      rwa [search?_eq_none_iff] at hsearch
      rintro rfl
      exact note_notMem_earlier _ hf
    simp only [h.mentions_chunk_iff, not_or] at hnone
    exact ⟨fun f hf => (hnone f hf).1, fun f hf => (hnone f hf).2⟩
  · rintro ⟨hh, hclear, hd⟩
    exact h.tag_eq hh hclear hd
  · intro description f hf hm
    have hne : f ≠ .note := by
      rintro rfl
      exact note_notMem_earlier _ hf
    obtain ⟨g, hg, hfamily, hmentions⟩ := exists_tag_of_mentions hne hm
    refine ⟨g, hg, ?_, hmentions⟩
    obtain hfamily | hfamily := List.mem_cons.mp hfamily
    · rwa [hfamily]
    · exact earlier_trans hfamily hf

/-- The head does not always decide: a result's text may mention a parameter, and the key of a
note may end like one. -/
theorem mentioned_form_outdoes_head :
    Epydoc.tag "@return: Twice the param x: it is doubled.".toList =
        .ok ⟨.param, "param", ["x"], "it is doubled.".toList⟩ ∧
      Epydoc.tag "@subtype x: The x.".toList = .ok ⟨.param, "type", ["x"], "The x.".toList⟩ ∧
      ¬ ∀ (h : Header) description, h.Legible →
        Epydoc.tag (h.chunk description) = .ok (h.tag description) := by
  refine ⟨by decide, by decide, fun hall => ?_⟩
  have hlegible : (Header.result "return" (by decide)).Legible :=
    ⟨List.forall_mem_nil _, fun h => nomatch h⟩
  have hread := hall _ " Twice the param x: it is doubled.".toList hlegible
  exact absurd hread (by decide)

end RefBook.Docstring.Epydoc
