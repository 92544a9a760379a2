/-! Grouping a list under its headings. -/

namespace RefBook.Text

/-- Splits a list at the elements that `head` recognises: what precedes the
first heading, and each heading with the elements up to the next one. -/
def groupUnder {α β : Type} (head : α → Option β) : List α → List α × List (β × List α)
  | [] => ([], [])
  | a :: rest =>
    let (lead, groups) := groupUnder head rest
    match head a with
    | some b => ([], (b, lead) :: groups)
    | none => (a :: lead, groups)

/-- Without a heading the whole list precedes the first one. -/
theorem groupUnder_eq_of_forall_none {α β : Type} (head : α → Option β) (l : List α)
    (h : ∀ a ∈ l, head a = none) : groupUnder head l = (l, []) := by
  induction l with
  | nil => rfl
  | cons a l ih =>
    simp [groupUnder, ih (fun b hb => h b (by simp [hb])), h a (by simp)]

theorem groupUnder_append {α β : Type} {head : α → Option β} {a : List α}
    (h : ∀ x ∈ a, head x = none) (b : List α) :
    groupUnder head (a ++ b) = (a ++ (groupUnder head b).1, (groupUnder head b).2) := by
  induction a with
  | nil => rfl
  | cons x a ih =>
    rw [List.forall_mem_cons] at h
    rw [List.cons_append, groupUnder, ih h.2, h.1]
    rfl

theorem groupUnder_cons_some {α β : Type} {head : α → Option β} {x : α} {b : β}
    (h : head x = some b) (l : List α) :
    groupUnder head (x :: l) = ([], (b, (groupUnder head l).1) :: (groupUnder head l).2) := by
  rw [groupUnder, h]

theorem groupUnder_cons_none {α β : Type} {head : α → Option β} {x : α} (h : head x = none)
    (l : List α) :
    groupUnder head (x :: l) = (x :: (groupUnder head l).1, (groupUnder head l).2) := by
  rw [groupUnder, h]

/-- Headings that are put together, each with what stands below it, are told apart again. -/
theorem groupUnder_flatMap {α β γ : Type} {head : α → Option β} {f : γ → α} {g : γ → β}
    {below : γ → List α} {l : List γ}
    (h : ∀ x ∈ l, head (f x) = some (g x) ∧ ∀ a ∈ below x, head a = none) :
    groupUnder head (l.flatMap fun x => f x :: below x) = ([], l.map fun x => (g x, below x)) := by
  induction l with
  | nil => rfl
  | cons x l ih =>
    rw [List.forall_mem_cons] at h
    rw [List.flatMap_cons, List.cons_append, groupUnder_cons_some h.1.1, groupUnder_append h.1.2,
      ih h.2, List.append_nil]
    rfl

/-- Where every element is a heading, nothing stands below one. -/
theorem groupUnder_of_forall_some {α β γ : Type} {head : α → Option β} {f : γ → α} {g : γ → β}
    {l : List γ} (h : ∀ x ∈ l, head (f x) = some (g x)) :
    groupUnder head (l.map f) = ([], l.map fun x => (g x, [])) := by
  rw [List.map_eq_flatMap]
  exact groupUnder_flatMap fun x hx => ⟨h x hx, List.forall_mem_nil _⟩

/-- Elements that are no headings may be left out before or after grouping. -/
theorem groupUnder_filter {α β : Type} {head : α → Option β} {p : α → Bool}
    (h : ∀ x, p x = false → head x = none) (l : List α) :
    groupUnder head (l.filter p) =
      ((groupUnder head l).1.filter p, (groupUnder head l).2.map fun g => (g.1, g.2.filter p)) := by
  induction l with
  | nil => rfl
  | cons x l ih =>
    cases hp : p x with
    | true =>
      rw [List.filter_cons_of_pos hp]
      cases hx : head x with
      | some b =>
        rw [groupUnder_cons_some hx, groupUnder_cons_some hx, ih]
        rfl
      | none =>
        rw [groupUnder_cons_none hx, groupUnder_cons_none hx, ih, List.filter_cons_of_pos hp]
    | false =>
      have hp' : ¬ p x = true := by simp [hp]
      rw [List.filter_cons_of_neg hp', groupUnder_cons_none (h x hp), ih,
        List.filter_cons_of_neg hp']

/-- Every group is under a heading of the list, and its elements are in the list. -/
theorem mem_groupUnder {α β : Type} {head : α → Option β} {l : List α} :
    (∀ x ∈ (groupUnder head l).1, x ∈ l) ∧
      ∀ g ∈ (groupUnder head l).2, (∃ a ∈ l, head a = some g.1) ∧ ∀ x ∈ g.2, x ∈ l := by
  induction l with
  | nil => exact ⟨List.forall_mem_nil _, List.forall_mem_nil _⟩
  | cons a l ih =>
    obtain ⟨hlead, hgroups⟩ := ih
    have hlead' : ∀ x ∈ (groupUnder head l).1, x ∈ a :: l := fun x hx =>
      List.mem_cons_of_mem a (hlead x hx)
    have hgroups' : ∀ g ∈ (groupUnder head l).2,
        (∃ b ∈ a :: l, head b = some g.1) ∧ ∀ x ∈ g.2, x ∈ a :: l := by
      intro g hg
      obtain ⟨⟨b, hb, hhead⟩, hbelow⟩ := hgroups g hg
      exact ⟨⟨b, List.mem_cons_of_mem a hb, hhead⟩, fun x hx => List.mem_cons_of_mem a (hbelow x hx)⟩
    cases ha : head a with
    | some b =>
      rw [groupUnder_cons_some ha]
      exact ⟨List.forall_mem_nil _, List.forall_mem_cons.mpr
        ⟨⟨⟨a, List.mem_cons_self, ha⟩, hlead'⟩, hgroups'⟩⟩
    | none =>
      rw [groupUnder_cons_none ha]
      exact ⟨List.forall_mem_cons.mpr ⟨List.mem_cons_self, hlead'⟩, hgroups'⟩

/-- Nothing below a heading is a heading, and nothing that precedes the first one. -/
theorem head_eq_none_of_mem_groupUnder {α β : Type} {head : α → Option β} {l : List α} :
    (∀ x ∈ (groupUnder head l).1, head x = none) ∧
      ∀ g ∈ (groupUnder head l).2, ∀ x ∈ g.2, head x = none := by
  induction l with
  | nil => exact ⟨List.forall_mem_nil _, List.forall_mem_nil _⟩
  | cons a l ih =>
    cases ha : head a with
    | some b =>
      rw [groupUnder_cons_some ha]
      exact ⟨List.forall_mem_nil _, List.forall_mem_cons.mpr ih⟩
    | none =>
      rw [groupUnder_cons_none ha]
      exact ⟨List.forall_mem_cons.mpr ⟨ha, ih.1⟩, ih.2⟩

/-- Where a heading is told by itself, a list is what precedes the first one and then each
heading with what is below it. -/
theorem groupUnder_append_flatMap {α : Type} {head : α → Option α}
    (h : ∀ a b, head a = some b → b = a) (l : List α) :
    (groupUnder head l).1 ++ (groupUnder head l).2.flatMap (fun g => g.1 :: g.2) = l := by
  induction l with
  | nil => rfl
  | cons a l ih =>
    cases ha : head a with
    | some b =>
      rw [groupUnder_cons_some ha, List.nil_append, List.flatMap_cons, List.cons_append, ih,
        h a b ha]
    | none => rw [groupUnder_cons_none ha, List.cons_append, ih]

end RefBook.Text
