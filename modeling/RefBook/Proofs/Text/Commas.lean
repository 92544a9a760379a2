import RefBook.Proofs.Text.Lines

/-! # Elements between commas

A comma separates two elements if it stands outside of brackets and quoted texts. What is
written element by element, with commas between or after the elements and white space
around them, is read back as these elements, if each of them closes what it opens. -/

namespace RefBook.Text

/-- Where one is in an expression. -/
structure Nesting where
  /-- How many brackets are open. -/
  depth : Nat
  /-- The quote of the text one is in. -/
  quote : Option Char
  /-- Whether a backslash came just before. -/
  escaped : Bool
deriving DecidableEq, Repr

namespace Nesting

def outside : Nesting := ⟨0, none, false⟩

/-- Where one is after one more character. -/
def next (n : Nesting) (c : Char) : Nesting :=
  match n.quote with
  | some q =>
    if n.escaped then { n with escaped := false }
    else if c = '\\' then { n with escaped := true }
    else if c = q then { n with quote := none }
    else n
  | none =>
    if c = '\x22' ∨ c = '\x27' then { n with quote := some c }
    else if c ∈ ['(', '[', '\x7b'] then { n with depth := n.depth + 1 }
    else if c ∈ [')', ']', '\x7d'] then { n with depth := n.depth - 1 }
    else n

/-- Where one is after a text, if no comma in it separates. -/
def after? (n : Nesting) : List Char → Option Nesting
  | [] => some n
  | c :: t => if n = outside ∧ c = ',' then none else (n.next c).after? t

/-- The pieces of a text between the commas that separate. -/
def pieces (n : Nesting) : List Char → List (List Char)
  | [] => [[]]
  | c :: t =>
    if n = outside ∧ c = ',' then [] :: outside.pieces t
    else ((n.next c).pieces t).modifyHead (c :: ·)

theorem after?_append (n : Nesting) (a b : List Char) :
    n.after? (a ++ b) = (n.after? a).bind (·.after? b) := by
  induction a generalizing n with
  | nil => rfl
  | cons c a ih =>
    rw [List.cons_append, after?, after?]
    split
    · rfl
    · exact ih (n.next c)

/-- Without a separating comma, a text is the start of the first piece. -/
theorem pieces_append {n n' : Nesting} {a : List Char} (h : n.after? a = some n')
    (b : List Char) : n.pieces (a ++ b) = (n'.pieces b).modifyHead (a ++ ·) := by
  induction a generalizing n with
  | nil =>
    cases h
    rw [List.nil_append]
    cases n'.pieces b with
    | nil => rfl
    | cons piece rest => rfl
  | cons c a ih =>
    rw [after?] at h
    rw [List.cons_append, pieces]
    by_cases hc : n = outside ∧ c = ','
    · rw [if_pos hc] at h
      cases h
    · rw [if_neg hc] at h ⊢
      rw [ih h, List.modifyHead_modifyHead]
      rfl

/-- Texts without separating commas come back when they are joined by commas. -/
theorem pieces_joinWith {ps : List (List Char)} (hne : ps ≠ [])
    (h : ∀ p ∈ ps, outside.after? p = some outside) :
    outside.pieces (Text.joinWith [','] ps) = ps := by
  induction ps with
  | nil => exact absurd rfl hne
  | cons p ps ih =>
    rw [List.forall_mem_cons] at h
    cases ps with
    | nil =>
      have hp := pieces_append h.1 []
      rwa [List.append_nil, pieces, List.modifyHead_cons, List.append_nil] at hp
    | cons q ps =>
      have hcomma : outside.pieces (',' :: Text.joinWith [','] (q :: ps)) = [] :: q :: ps := by
        rw [pieces, if_pos ⟨rfl, rfl⟩, ih (List.cons_ne_nil q ps) h.2]
      rw [Text.joinWith, List.append_assoc, pieces_append h.1, List.singleton_append, hcomma,
        List.modifyHead_cons, List.append_nil]
      exact List.cons_ne_nil q ps

end Nesting

/-- The elements of a list. A comma may end it. -/
def elements (t : List Char) : List (List Char) :=
  let ps := (Nesting.outside.pieces t).map trim
  if ps.getLast? = some [] then ps.dropLast else ps

/-- A text that can be an element: it closes what it opens, no comma in it separates, and
it has no white space at its ends. -/
structure Whole (p : List Char) : Prop where
  ne_nil : p ≠ []
  closed : Nesting.outside.after? p = some .outside
  head : p.head?.all (!isSpace ·) = true
  last : p.getLast?.all (!isSpace ·) = true

instance (p : List Char) : Decidable (Whole p) :=
  decidable_of_iff (p ≠ [] ∧ Nesting.outside.after? p = some .outside ∧
      p.head?.all (!isSpace ·) = true ∧ p.getLast?.all (!isSpace ·) = true)
    ⟨fun ⟨hne, hclosed, hhead, hlast⟩ => ⟨hne, hclosed, hhead, hlast⟩,
      fun h => ⟨h.ne_nil, h.closed, h.head, h.last⟩⟩

namespace Whole

variable {p q : List Char}

theorem trim_append (h : Whole p) {a : List Char} (ha : isBlank a = true) : trim (a ++ p) = p := by
  have hend : trimEnd p = p := by
    rw [trimEnd_eq_self_iff]
    intro c hc
    have hlast := h.last
    rw [Option.mem_def.mp hc, Option.all_some, Bool.not_eq_true'] at hlast
    exact hlast
  obtain ⟨c, t, rfl⟩ := List.exists_cons_of_ne_nil h.ne_nil
  have hhead := h.head
  rw [List.head?_cons, Option.all_some, Bool.not_eq_true'] at hhead
  rw [trim, trimStart_append_of_isBlank ha, trimStart_of_head hhead, hend]

theorem trim_eq (h : Whole p) : trim p = p := h.trim_append isBlank_nil

/-- What stands before an element, without white space first, becomes part of it. -/
theorem prepend (h : Whole p) {a : List Char} (ha : Nesting.outside.after? a = some .outside)
    (hhead : a.head?.all (!isSpace ·) = true) : Whole (a ++ p) where
  ne_nil := List.append_ne_nil_of_right_ne_nil a h.ne_nil
  closed := by rw [Nesting.after?_append, ha, Option.bind_some, h.closed]
  head := by
    cases a with
    | nil => exact h.head
    | cons c a => exact hhead
  last := by
    rw [List.getLast?_append_of_ne_nil _ h.ne_nil]
    exact h.last

/-- Two elements with a text between them that opens and closes nothing are one. -/
theorem join (hp : Whole p) (hq : Whole q) {m : List Char}
    (hm : Nesting.outside.after? m = some .outside) : Whole (p ++ (m ++ q)) where
  ne_nil := List.append_ne_nil_of_left_ne_nil hp.ne_nil _
  closed := by
    rw [Nesting.after?_append, hp.closed, Option.bind_some, Nesting.after?_append, hm,
      Option.bind_some, hq.closed]
  head := by
    rw [List.head?_append_of_ne_nil _ hp.ne_nil]
    exact hp.head
  last := by
    rw [← List.append_assoc, List.getLast?_append_of_ne_nil _ hq.ne_nil]
    exact hq.last

end Whole

/-- Elements that are joined by commas, with white space around them, are read back. -/
theorem elements_joinWith {ps qs : List (List Char)} (hne : ps ≠ []) (hps : ∀ p ∈ ps, Whole p)
    (hqs : ∀ q ∈ qs, Nesting.outside.after? q = some .outside) (htrim : qs.map trim = ps) :
    elements (joinWith [','] qs) = ps := by
  have hqne : qs ≠ [] := by
    rintro rfl
    exact hne htrim.symm
  rw [elements, Nesting.pieces_joinWith hqne hqs, htrim]
  refine if_neg fun hlast => ?_
  exact (hps [] (List.mem_of_getLast? hlast)).ne_nil rfl

/-- A comma with white space after it may follow. -/
theorem elements_joinWith_concat {ps qs : List (List Char)} {b : List Char}
    (hqs : ∀ q ∈ qs, Nesting.outside.after? q = some .outside) (htrim : qs.map trim = ps)
    (hclosed : Nesting.outside.after? b = some .outside) (hb : isBlank b = true) :
    elements (joinWith [','] (qs ++ [b])) = ps := by
  have hall : ∀ q ∈ qs ++ [b], Nesting.outside.after? q = some .outside := by
    intro q hq
    rcases List.mem_append.mp hq with hq | hq
    · exact hqs q hq
    · rw [List.mem_singleton.mp hq, hclosed]
  have hblank : trim b = [] := by
    rw [trim, (isBlank_iff b).mp hb]
    rfl
  have hne : qs ++ [b] ≠ [] := List.append_ne_nil_of_right_ne_nil qs (List.cons_ne_nil b [])
  rw [elements, Nesting.pieces_joinWith hne hall, List.map_append, htrim, List.map_singleton,
    hblank, List.getLast?_concat, if_pos rfl, List.dropLast_concat]

end RefBook.Text
