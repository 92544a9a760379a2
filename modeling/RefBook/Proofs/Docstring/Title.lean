import Mathlib.Data.List.Find
import RefBook.Docstring.Google
import RefBook.Proofs.Text.Margin

/-! # Section titles

A title stands alone on its line: a word of a fixed list, its colon and blanks. Lines
that lack the colon, do not start with a letter, or have white space before the colon
are no titles, and tabs make no difference. -/

namespace RefBook.Docstring.Google

open Text (lines trimStart clean isBlank expandTabsFrom)

theorem all_isTitleBlank_expandTabsFrom (size column : Nat) (t : List Char) :
    (expandTabsFrom size column t).all isTitleBlank = t.all isTitleBlank := by
  induction t generalizing column with
  | nil => rfl
  | cons c t ih =>
    rw [expandTabsFrom]
    split
    · rename_i hc
      rw [List.all_append, ih, List.all_cons, hc]
      simp [isTitleBlank]
    · split
      · rw [List.all_cons, List.all_cons, ih]
      · rw [List.all_cons, List.all_cons, ih]

/-- A title line is the title, its colon and blanks. -/
theorem Section.isTitle_iff (s : Section) (line : List Char) :
    s.isTitle line = true ↔
      ∃ blanks, line = (s.title.toList ++ [':']) ++ blanks ∧ blanks.all isTitleBlank = true := by
  rw [isTitle, Bool.and_eq_true, List.isPrefixOf_iff_prefix]
  constructor
  · rintro ⟨⟨blanks, rfl⟩, hblanks⟩
    exact ⟨blanks, rfl, by simpa only [List.drop_left] using hblanks⟩
  · rintro ⟨blanks, rfl, hblanks⟩
    exact ⟨List.prefix_append _ _, by simpa only [List.drop_left] using hblanks⟩

theorem exists_of_section? {line : List Char} {s : Section} (h : section? line = some s) :
    s ∈ sections ∧ ∃ blanks, line = (s.title.toList ++ [':']) ++ blanks := by
  have htitle := List.find?_some h
  obtain ⟨blanks, hline, -⟩ := (s.isTitle_iff line).mp htitle
  exact ⟨List.mem_of_find?_eq_some h, blanks, hline⟩

theorem title_visible : ∀ s ∈ sections, ∀ c ∈ s.title.toList ++ [':'], Text.isSpace c = false := by
  have hall : ∀ s ∈ sections, (s.title.toList ++ [':']).all (!Text.isSpace ·) = true := by decide
  intro s hs c hc
  simpa using List.all_eq_true.mp (hall s hs) c hc

/-- Expanding tabs makes no title and spoils none. -/
theorem section?_expandTabsFrom (column : Nat) (l : List Char) : section?
      (expandTabsFrom 8 column l) = section? l := by
  refine List.find?_congr fun s hs => ?_
  have hvisible := title_visible s hs
  rw [Bool.eq_iff_iff, s.isTitle_iff, s.isTitle_iff]
  constructor
  · rintro ⟨blanks, heq, hblanks⟩
    obtain ⟨rest, rfl⟩ := Text.prefix_of_prefix_expandTabsFrom hvisible (by decide)
      (heq ▸ List.prefix_append _ _)
    rw [Text.expandTabsFrom_append_visible hvisible, List.append_cancel_left_eq] at heq
    refine ⟨rest, rfl, ?_⟩
    rw [← heq, all_isTitleBlank_expandTabsFrom] at hblanks
    exact hblanks
  · rintro ⟨blanks, rfl, hblanks⟩
    refine ⟨_, Text.expandTabsFrom_append_visible hvisible 8 column blanks, ?_⟩
    rw [all_isTitleBlank_expandTabsFrom]
    exact hblanks

def openingTitle? (t : List Char) : Option Section := section?
  ((trimStart t).takeWhile (· != '\n'))

theorem dedent_of_openingTitle? {t : List Char} (h : (openingTitle? t).isSome = true) :
    dedent t = clean ('\n' :: trimStart t) := if_pos h

theorem dedent_of_untitled {t : List Char} (h : openingTitle? t = none) : dedent t = clean t :=
  if_neg (by rw [← openingTitle?, h]; decide)

theorem openingTitle?_eq {t g : List Char} {below : List (List Char)}
    (h : (lines t).dropWhile isBlank = g :: below) : openingTitle? t = section? (trimStart g) := by
  have hmem : g ∈ lines t := by
    refine (List.dropWhile_suffix isBlank).subset ?_
    rw [h]
    exact List.mem_cons_self
  have hnl : '\n' ∉ trimStart g := fun hm =>
    Text.newline_not_mem_of_mem_lines hmem ((List.dropWhile_suffix Text.isSpace).subset hm)
  rw [openingTitle?, Text.trimStart_eq_unlines h (Text.visible_of_dropWhile h),
    Text.takeWhile_unlines hnl]

theorem openingTitle?_of_blank {t : List Char} (h : (lines t).dropWhile isBlank = []) :
    openingTitle? t = none := by
  have hblank : trimStart t = [] := by
    rw [← Text.isBlank_iff, ← Text.unlines_lines t]
    exact Text.isBlank_unlines (List.dropWhile_eq_nil_iff.mp h)
  rw [openingTitle?, hblank]
  rfl

theorem section?_of_no_colon {l : List Char} (h : ':' ∉ l) : section? l = none := by
  cases hs : section? l with
  | none => rfl
  | some s =>
    obtain ⟨-, blanks, rfl⟩ := exists_of_section? hs
    exact absurd (by simp) h

theorem title_initial : ∀ s ∈ sections, s.title.toList.head?.any Char.isAlpha = true := by
  decide

theorem section?_of_head {l : List Char}
    (h : l.head?.any Char.isAlpha = false) : section? l = none := by
  cases hs : section? l with
  | none => rfl
  | some s =>
    obtain ⟨hmem, blanks, rfl⟩ := exists_of_section? hs
    have htitle := title_initial s hmem
    cases ht : s.title.toList with
    | nil => rw [ht] at htitle; cases htitle
    | cons c t =>
      rw [ht] at htitle h
      exact absurd (htitle.symm.trans h) (by decide)

/-- White space before the first colon. -/
theorem section?_of_spaced {a b : List Char} (hc : ':' ∉ a) {c : Char} (hmem : c ∈ a)
    (hspace : Text.isSpace c = true) : section? (a ++ ':' :: b) = none := by
  cases hs : section? (a ++ ':' :: b) with
  | none => rfl
  | some s =>
    obtain ⟨hs', blanks, heq⟩ := exists_of_section? hs
    have hcolon : ∀ s ∈ sections, ':' ∉ s.title.toList := by decide
    have hcut := Text.cut?_append hc b
    rw [heq, List.append_assoc, List.singleton_append, Text.cut?_append (hcolon s hs')] at hcut
    have htitle : s.title.toList = a := (Prod.mk.inj (Option.some.inj hcut)).1
    have hvisible := title_visible s hs' c (List.mem_append_left _ (htitle ▸ hmem))
    rw [hspace] at hvisible
    cases hvisible

end RefBook.Docstring.Google
