import RefBook.Page.Module

/-! # Parts of a page

A page is put together from blocks under headings, and a block is on the page if it is in
one of its parts. Private names are left out of every part. -/

namespace RefBook.Page

/-- The text has the part somewhere in it. -/
def Has (text part : String) : Prop := ∃ before after, text = before ++ part ++ after

theorem Has.refl (text : String) : Has text text := ⟨"", "", by simp⟩

theorem Has.left {a part : String} (h : Has a part) (b : String) : Has (a ++ b) part := by
  obtain ⟨before, after, rfl⟩ := h
  exact ⟨before, after ++ b, by simp [String.append_assoc]⟩

theorem Has.right {b part : String} (h : Has b part) (a : String) : Has (a ++ b) part := by
  obtain ⟨before, after, rfl⟩ := h
  exact ⟨a ++ before, after, by simp [String.append_assoc]⟩

theorem Has.length_le {text part : String} (h : Has text part) : part.length ≤ text.length := by
  obtain ⟨before, after, rfl⟩ := h
  simp only [String.length_append]
  omega

theorem has_join {items : List String} {item : String} (h : item ∈ items) :
    Has (String.join items) item := by
  induction items with
  | nil => cases h
  | cons a items ih =>
    rw [String.join_cons]
    rcases List.mem_cons.mp h with rfl | h
    · exact (Has.refl item).left _
    · exact (ih h).right a

theorem has_listed {heading ending : String} {items : List String} {item : String}
    (h : item ∈ items) : Has (listed heading items ending) item := by
  have hne : items.isEmpty = false := by
    rw [List.isEmpty_eq_false_iff]
    exact List.ne_nil_of_mem h
  rw [listed, hne]
  exact ((has_join h).right heading).left ending

/-- A public name is taken in a list exactly if it is taken among the public ones. -/
theorem any_filter_public {α : Type} (nameOf : α → String) (l : List α) {name : String}
    (h : isPrivate name = false) :
    (l.filter fun a => !isPrivate (nameOf a)).any (nameOf · == name) =
      l.any (nameOf · == name) := by
  rw [Bool.eq_iff_iff, List.any_eq_true, List.any_eq_true]
  constructor
  · rintro ⟨a, ha, he⟩
    exact ⟨a, (List.mem_filter.mp ha).1, he⟩
  · rintro ⟨a, ha, he⟩
    refine ⟨a, List.mem_filter.mpr ⟨ha, ?_⟩, he⟩
    rw [eq_of_beq he, h]
    rfl

end RefBook.Page
