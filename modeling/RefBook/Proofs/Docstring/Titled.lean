import RefBook.Proofs.Docstring.Fields
import RefBook.Proofs.Docstring.Items
import RefBook.Proofs.Docstring.Title

/-! # Reading titled sections

A printed record has a title line for each of its sections and indented items below it.
The sections are found at their titles, their items at their indentation, and each item
is read back from its line. -/

namespace RefBook.Docstring

open Text (isBlank isSpace unlines)
open Record (indented)

namespace Google

theorem itemLine?_indented {t : List Char} (h : StartsWord t) :
    itemLine? (List.replicate 4 ' ') (indented t) = some t := by
  obtain ⟨c, t, rfl, hc⟩ := h.exists_cons
  exact itemLine?_eq_some_iff.mpr ⟨by decide, rfl, c, t, rfl, isSpace_of_isNamePart hc⟩

theorem trimLineFeeds_line {l b : List Char} (hne : l ≠ []) (hnl : '\n' ∉ l)
    (hb : ∀ c ∈ b, c = '\n') : Text.trimLineFeeds (l ++ b) = l :=
  Text.trimLineFeeds_append hne (fun h => hnl (List.mem_of_mem_head? h))
    (fun h => hnl (List.mem_of_mem_getLast? h)) hb

/-- The items of a section are found on their lines. -/
theorem splitItems_unlines (title : String) {items : List (List Char)} (hne : items ≠ [])
    (h : ∀ l ∈ items, StartsWord l ∧ '\n' ∉ l) :
    splitItems title (unlines (items.map indented)) = .ok items := by
  have hnl : ∀ l ∈ items.map indented, '\n' ∉ l := by
    refine List.forall_mem_map.mpr fun l hl => ?_
    rw [indented, List.mem_append, not_or]
    exact ⟨by decide, (h l hl).2⟩
  have hlines : Text.lines (unlines (items.map indented)) = items.map indented :=
    Text.lines_unlines (by simpa using hne) hnl
  have htext : ∀ x ∈ items, Text.trimLineFeeds (unlines [x]) = x := by
    intro x hx
    obtain ⟨hw, hl⟩ := h x hx
    have hline := trimLineFeeds_line hw.ne_nil hl (List.forall_mem_nil (· = '\n'))
    rwa [List.append_nil] at hline
  obtain ⟨l, ls, rfl⟩ := List.exists_cons_of_ne_nil hne
  have hw := (h l List.mem_cons_self).1
  obtain ⟨-, -, c, t, hc, hvisible⟩ := itemLine?_eq_some_iff.mp (itemLine?_indented hw)
  have hl : isBlank (indented l) = false := by
    rw [indented, isBlank, List.all_append, hc, List.all_cons, hvisible, Bool.false_and,
      Bool.and_false]
  have hindent : itemIndent (unlines ((l :: ls).map indented)) = List.replicate 4 ' ' := by
    rw [itemIndent_of_lines hlines hl, indented, hc, takeWhile_isSpace (by decide) hvisible]
  have hopens : Opens (unlines ((l :: ls).map indented)) :=
    opens_unlines (hnl _ List.mem_cons_self) hl _
  rw [splitItems_of_opens title hopens, lineItems, hindent, hlines,
    Text.groupUnder_of_forall_some fun l hl => itemLine?_indented (h l hl).1, List.map_map]
  exact congrArg _ ((List.map_congr_left htext).trans (List.map_id _))

/-! ## Names and types -/

/-- The whole text before the last bracket is the type in it. -/
theorem typeBeforeBracket?_append {t : List Char} (hne : t ≠ []) (hnl : '\n' ∉ t)
    (hlast : ∀ c ∈ t.getLast?, isSpace c = false) : typeBeforeBracket? (t ++ [')']) = some t := by
  induction t with
  | nil => exact absurd rfl hne
  | cons c t ih =>
    rw [List.mem_cons, not_or] at hnl
    rw [List.cons_append, typeBeforeBracket?, if_neg (Ne.symm hnl.1)]
    cases t with
    | nil =>
      have hc : isSpace c = false := hlast c rfl
      have hbracket : (!isSpace c && (Text.trimStart [')']).head? == some ')') = true := by
        rw [hc]
        decide
      exact if_pos hbracket
    | cons c' t =>
      rw [ih (List.cons_ne_nil c' t) hnl.2 hlast]

theorem bracketedType?_eq {t : Phrase} (h : t.Trimmed) :
    bracketedType? (" (".toList ++ t.text ++ [')']) = some t.text := by
  have hstart : Text.trimStart (" (".toList ++ t.text ++ [')']) = '(' :: (t.text ++ [')']) := rfl
  have htrim : Text.trimStart (t.text ++ [')']) = t.text ++ [')'] :=
    (t.startsWord.append [')']).trimStart
  have htype := typeBeforeBracket?_append t.startsWord.ne_nil t.noNewline
    ((Text.trimEnd_eq_self_iff t.text).mp h)
  rw [bracketedType?, hstart]
  exact (congrArg typeBeforeBracket? htrim).trans htype

/-- No type in brackets starts with a word. -/
theorem bracketedType?_of_word {t : List Char} (h : StartsWord t) : bracketedType? t = none := by
  rw [bracketedType?, h.trimStart]
  split
  · exact absurd rfl (h.head?_ne (c := '(') (by decide))
  · rfl

/-- The shortest name that a type follows is the whole name. -/
theorem nameThenType?_append {w : List Char} (rest : List Char) (hne : w ≠ [])
    (hw : ∀ c ∈ w, isNamePart c = true)
    (hnone : bracketedType? rest = none → nameThenType? rest = none) :
    nameThenType? (w ++ rest) = (bracketedType? rest).map fun type => (w, type) := by
  induction w with
  | nil => exact absurd rfl hne
  | cons c w ih =>
    rw [List.forall_mem_cons] at hw
    have hc : c ≠ '\n' := by
      rintro rfl
      exact absurd hw.1 (by decide)
    rw [List.cons_append, nameThenType?, if_neg hc]
    cases w with
    | nil =>
      rw [List.nil_append]
      cases hb : bracketedType? rest with
      | none =>
        dsimp only
        rw [hnone hb]
        rfl
      | some type => rfl
    | cons c' w =>
      have hword : StartsWord (c' :: w ++ rest) := (hw.2 c' List.mem_cons_self)
      rw [bracketedType?_of_word hword]
      dsimp only
      rw [ih (List.cons_ne_nil c' w) hw.2, Option.map_map]
      rfl

theorem nameAndType?_name (i : Identifier) : nameAndType? i.text = none := by
  obtain ⟨c, t, ht, hc⟩ := i.startsWord.exists_cons
  have h := nameThenType?_append [] i.startsWord.ne_nil (List.all_eq_true.mp i.parts) fun _ => rfl
  rw [List.append_nil] at h
  rw [ht] at h ⊢
  rw [nameAndType?, if_neg (by simp [isSpace_of_isNamePart hc]), h]
  rfl

theorem nameAndType?_type (i : Identifier) {t : Phrase} (h : t.Trimmed) :
    nameAndType? (i.text ++ (" (".toList ++ t.text ++ [')'])) = some (i.text, t.text) := by
  obtain ⟨c, l, hl, hc⟩ := i.startsWord.exists_cons
  have hname := nameThenType?_append (" (".toList ++ t.text ++ [')']) i.startsWord.ne_nil
    (List.all_eq_true.mp i.parts) (by rw [bracketedType?_eq h]; exact fun hn => nomatch hn)
  rw [bracketedType?_eq h, Option.map_some] at hname
  rw [hl] at hname ⊢
  rw [List.cons_append, nameAndType?, if_neg (by simp [isSpace_of_isNamePart hc]),
    ← List.cons_append, hname]

theorem item_eq (s : Section) {head : List Char} (hc : ':' ∉ head) (d : Phrase) :
    item s (head ++ ": ".toList ++ d.text) = .ok (itemEntry s head d.text) := by
  have hcut : Text.cut? ':' (head ++ ": ".toList ++ d.text) = some (head, ' ' :: d.text) := by
    rw [List.append_assoc]
    exact Text.cut?_append hc (' ' :: d.text)
  have htext : Text.trimLineFeeds (cleanTail d.text) = d.text := by
    have hline :=
      trimLineFeeds_line d.startsWord.ne_nil d.noNewline (List.forall_mem_nil (· = '\n'))
    rw [List.append_nil] at hline
    rw [cleanTail_of_not_mem d.noNewline, hline]
  rw [item, hcut]
  exact congrArg (fun text => Except.ok (itemEntry s head text)) htext

theorem colon_not_mem_label {p : Record.Param} (h : ∀ t ∈ p.type, t.PlainType) :
    ':' ∉ p.label := by
  rw [Record.Param.label, List.mem_append, not_or]
  refine ⟨p.name.not_mem (by decide), ?_⟩
  cases ht : p.type with
  | none => exact List.not_mem_nil
  | some t =>
    have hcolon := (h t ht).noColon
    simp [hcolon]

theorem dropSuffix?_eq_none {ending t : List Char} (h : ¬ ending <:+ t) :
    dropSuffix? ending t = none := by
  rw [dropSuffix?, if_neg]
  rw [List.isSuffixOf_iff_suffix]
  exact h

theorem typeAndOptional_eq {t : Phrase} (h : t.PlainType) :
    typeAndOptional t.text = (t.text, false) := by
  have hmark : dropSuffix? ['?'] t.text = none :=
    dropSuffix?_eq_none (h.unmarked "?" (by decide))
  rw [typeAndOptional, dropSuffix?_eq_none (h.unmarked ", optional" (by decide)), hmark]

def entryOf (p : Record.Param) : Docstring.Param :=
  { args := ["param", String.ofList p.label]
    description := some (String.ofList p.description.text)
    name := String.ofList p.name.text
    type := p.type.map (String.ofList ·.text)
    optional := p.type.map fun _ => false
    default := default? p.description.text }

def resultOf (t : Phrase) : Returns :=
  { args := ["returns"]
    description := some (String.ofList t.text)
    type := none
    generator := false
    name := none }

def raisesOf (x : Record.Raised) : Raises :=
  { args := ["raises", String.ofList x.type.text]
    description := some (String.ofList x.description.text)
    type := some (String.ofList x.type.text) }

theorem paramEntry_eq {p : Record.Param} (h : ∀ t ∈ p.type, t.PlainType) :
    paramEntry ["param", String.ofList p.label] p.label p.description.text =
      .param (entryOf p) := by
  rw [paramEntry, entryOf]
  cases ht : p.type with
  | none =>
    have hlabel : p.label = p.name.text := by
      rw [Record.Param.label, ht]
      exact List.append_nil _
    rw [hlabel, nameAndType?_name]
    rfl
  | some t =>
    have hlabel : p.label = p.name.text ++ (" (".toList ++ t.text ++ [')']) := by
      rw [Record.Param.label, ht]
      rfl
    rw [hlabel, nameAndType?_type p.name (h t ht).trimmed]
    simp only [typeAndOptional_eq (h t ht)]
    rfl

/-! ## The sections of a record -/

/-- A section with its indented lines and the entries that it stands for. -/
structure Part where
  kind : Section
  lines : List (List Char)
  entries : List Entry

def partsOf (r : Record) : List Part := [
  ⟨⟨"Args", "param", .params⟩, r.params.map (indented ·.item), r.params.map (.param ∘ entryOf)⟩,
  ⟨⟨"Returns", "returns", .results⟩, r.returns.toList.map (indented ·.text),
    r.returns.toList.map (.returns ∘ resultOf)⟩,
  ⟨⟨"Raises", "raises", .raises⟩, r.raises.map (indented ·.item),
    r.raises.map (.raises ∘ raisesOf)⟩]

def Part.title (p : Part) : List Char := p.kind.title.toList ++ [':']

/-- A section that is found at its title and read to its entries. -/
structure Part.Sound (p : Part) : Prop where
  title : section? p.title = some p.kind
  lines : ∀ l ∈ p.lines, l.head? = some ' ' ∧ '\n' ∉ l
  read : p.lines ≠ [] → sectionEntries p.kind (unlines p.lines) = .ok p.entries
  empty : p.lines = [] → p.entries = []

theorem indented_line {l : List Char} (h : '\n' ∉ l) :
    (indented l).head? = some ' ' ∧ '\n' ∉ indented l := by
  refine ⟨rfl, ?_⟩
  rw [indented, List.mem_append, not_or]
  exact ⟨by decide, h⟩

/-- A section of items is read item by item. -/
theorem sectionEntries_items {α : Type} {s : Section}
    (hs : s.subject = .params ∨ s.subject = .raises) {l : List α} {text : α → List Char} {entry : α → Entry}
    (htext : ∀ a ∈ l, StartsWord (text a) ∧ '\n' ∉ text a)
    (hitem : ∀ a ∈ l, item s (text a) = .ok (entry a)) (hne : l ≠ []) :
    sectionEntries s (unlines (l.map fun a => indented (text a))) = .ok (l.map entry) := by
  have hsplit : splitItems s.title (unlines (l.map fun a => indented (text a))) =
      .ok (l.map text) := by
    have hmap : (l.map fun a => indented (text a)) = (l.map text).map indented := by
      rw [List.map_map]
      rfl
    rw [hmap]
    refine splitItems_unlines s.title (by simpa using hne) ?_
    rw [List.forall_mem_map]
    exact htext
  have hentries : sectionEntries s (unlines (l.map fun a => indented (text a))) =
      (do (← splitItems s.title (unlines (l.map fun a => indented (text a)))).mapM (item s)) := by
    obtain hs | hs := hs
    · rw [sectionEntries, hs]
    · rw [sectionEntries, hs]
  rw [hentries, hsplit]
  exact mapM_ok_map hitem

theorem hasTypeHead_of_no_colon {t : List Char} (h : ':' ∉ t) : hasTypeHead t = false := by
  have hhead : ∀ {a : List Char}, (∀ c ∈ a, c ∈ t) → (a.head? == some ':') = false := by
    intro a ha
    rw [beq_eq_false_iff_ne]
    exact fun hc => h (ha ':' (List.mem_of_mem_head? hc))
  have htrim : ∀ c ∈ Text.trimStart t, c ∈ t :=
    fun c hc => (List.dropWhile_suffix isSpace).subset hc
  rw [hasTypeHead, hhead fun c hc => htrim c (List.mem_of_mem_drop hc),
    hhead fun c hc => (List.dropWhile_suffix _).subset hc, Bool.and_false, Bool.false_and]
  rfl

theorem clean_indented (t : Phrase) : Text.clean (indented t.text) = t.text := by
  have hprinted := Record.printed_indented t.printed
  have hl : Text.lines (Text.expandTabs 8 (indented t.text)) = [indented t.text] := by
    rw [Text.expandTabs_eq_self hprinted.noTab, Text.lines_of_not_mem hprinted.noNewline]
  rw [Text.clean_of_single_visible (List.forall_mem_nil _) hprinted.visible
    (List.forall_mem_nil _) hl, Record.trimStart_indented]

theorem section?_title : ∀ s ∈ [(⟨"Args", "param", .params⟩ : Section),
    ⟨"Returns", "returns", .results⟩, ⟨"Raises", "raises", .raises⟩], section?
      (s.title.toList ++ [':']) = some s := by
  decide

theorem sectionEntries_result {s : Section} (hs : s = ⟨"Returns", "returns", .results⟩)
    {t : Phrase} (h : t.PlainResult) :
    sectionEntries s (indented t.text) = .ok [.returns (resultOf t)] := by
  subst hs
  rw [sectionEntries]
  simp only [clean_indented, hasTypeHead_of_no_colon h.noColon]
  rw [wholeEntry, resultOf, Record.nonEmpty?_of_startsWord t.startsWord]
  rfl

theorem sound_partsOf {r : Record} (h : r.Neutral) : ∀ p ∈ partsOf r, p.Sound := by
  intro p hp
  simp only [partsOf, List.mem_cons, List.not_mem_nil, or_false] at hp
  obtain rfl | rfl | rfl := hp
  · refine ⟨section?_title _ (by simp), ?_, fun hne => ?_, fun he => ?_⟩
    · rw [List.forall_mem_map]
      exact fun p _ => indented_line p.printed_item.noNewline
    · refine sectionEntries_items (.inl rfl)
        (fun p _ => ⟨p.startsWord_item, p.printed_item.noNewline⟩) (fun p hp => ?_)
        fun hnil => hne (by rw [hnil]; rfl)
      have htypes := h.types p hp
      exact (item_eq _ (colon_not_mem_label htypes) p.description).trans
        (congrArg Except.ok (paramEntry_eq htypes))
    · exact List.map_eq_nil_iff.mpr (List.map_eq_nil_iff.mp he)
  · refine ⟨section?_title _ (by simp), ?_, fun hne => ?_, fun he => ?_⟩
    · rw [List.forall_mem_map]
      exact fun t _ => indented_line t.noNewline
    · cases hr : r.returns with
      | none =>
        rw [hr] at hne
        exact absurd rfl hne
      | some t => exact sectionEntries_result rfl (h.returns t hr)
    · exact List.map_eq_nil_iff.mpr (List.map_eq_nil_iff.mp he)
  · refine ⟨section?_title _ (by simp), ?_, fun hne => ?_, fun he => ?_⟩
    · rw [List.forall_mem_map]
      exact fun x _ => indented_line x.printed_item.noNewline
    · refine sectionEntries_items (.inr rfl)
        (fun x _ => ⟨x.startsWord_item, x.printed_item.noNewline⟩) (fun x _ => ?_)
        fun hnil => hne (by rw [hnil]; rfl)
      exact item_eq _ (x.type.not_mem (by decide)) x.description
    · exact List.map_eq_nil_iff.mpr (List.map_eq_nil_iff.mp he)

/-! ## Finding the sections -/

/-- The lines of a section with its title, below a blank one. -/
def Part.block (p : Part) : List (List Char) := [] :: p.title :: p.lines

theorem section?_of_blank_head {l : List Char} (h : l.head? = some ' ') : section? l = none := by
  refine section?_of_head ?_
  rw [h]
  decide

/-- The body of a section is its lines; the blank lines before the next title go. -/
theorem sectionBody_append {ls blanks : List (List Char)} (hne : ls ≠ [])
    (h : ∀ l ∈ ls, l.head? = some ' ' ∧ '\n' ∉ l) (hb : ∀ l ∈ blanks, l = []) :
    sectionBody (ls ++ blanks) = unlines ls := by
  have htake : (ls ++ blanks).takeWhile (fun line => !line.head?.any (!isSpace ·)) =
      ls ++ blanks := by
    rw [List.takeWhile_eq_self_iff]
    intro l hl
    obtain hl | hl := List.mem_append.mp hl
    · rw [(h l hl).1]
      decide
    · rw [hb l hl]
      rfl
  rw [sectionBody, htake]
  refine Text.trimLineFeeds_unlines hne (fun l hl => ⟨?_, (h l hl).2⟩) hb
  rintro rfl
  cases (h [] hl).1

/-- The sections are found at their titles, each with its lines. -/
theorem groupUnder_blocks {ps : List Part} (h : ∀ p ∈ ps, p.Sound ∧ p.lines ≠ []) :
    (∀ l ∈ (Text.groupUnder section? (ps.flatMap Part.block)).1, l = []) ∧
      (Text.groupUnder section? (ps.flatMap Part.block)).2.map (fun g => (g.1, sectionBody g.2)) =
        ps.map fun p => (p.kind, unlines p.lines) := by
  induction ps with
  | nil => exact ⟨List.forall_mem_nil _, rfl⟩
  | cons p ps ih =>
    rw [List.forall_mem_cons] at h
    obtain ⟨⟨hp, hne⟩, hps⟩ := h
    obtain ⟨hlead, hgroups⟩ := ih hps
    have hlines : ∀ l ∈ p.lines, section? l = none :=
      fun l hl => section?_of_blank_head (hp.lines l hl).1
    have hblock : Text.groupUnder section? ((p :: ps).flatMap Part.block) =
        ([[]], (p.kind, p.lines ++ (Text.groupUnder section? (ps.flatMap Part.block)).1) ::
          (Text.groupUnder section? (ps.flatMap Part.block)).2) := by
      have hblank : ∀ l ∈ [([] : List Char)], section? l = none := by decide
      rw [List.flatMap_cons, Part.block, List.cons_append, List.cons_append,
        ← List.singleton_append, Text.groupUnder_append hblank,
        Text.groupUnder_cons_some hp.title, Text.groupUnder_append hlines]
      rfl
    rw [hblock]
    refine ⟨fun l hl => List.mem_singleton.mp hl, ?_⟩
    rw [List.map_cons, List.map_cons, hgroups, sectionBody_append hne hp.lines hlead]

/-- Sections with different titles are recorded in their order. -/
theorem foldl_record (gs acc : List (Section × List Char))
    (h : (acc ++ gs).Pairwise fun a b => a.1.title ≠ b.1.title) :
    gs.foldl (fun acc g => record g.1 g.2 acc) acc = acc ++ gs := by
  have hrecord : ∀ (acc : List (Section × List Char)) (g : Section × List Char),
      (∀ a ∈ acc, a.1.title ≠ g.1.title) → record g.1 g.2 acc = acc ++ [g] := by
    intro acc g hacc
    induction acc with
    | nil => rfl
    | cons a acc ih =>
      rw [List.forall_mem_cons] at hacc
      rw [record, if_neg hacc.1, ih hacc.2]
      rfl
  induction gs generalizing acc with
  | nil => exact (List.append_nil acc).symm
  | cons g gs ih =>
    have hacc : ∀ a ∈ acc, a.1.title ≠ g.1.title := fun a ha =>
      (List.pairwise_append.mp h).2.2 a ha g List.mem_cons_self
    rw [List.foldl_cons, hrecord acc g hacc, ih (acc ++ [g]) (by simpa using h), List.append_assoc]
    rfl

theorem parse_eq (t : List Char) (bodies : List (Section × List Char)) {es : List (List Entry)}
    (hbodies : (Text.groupUnder section? (Text.lines (dedent t))).2.map
      (fun g => (g.1, sectionBody g.2)) = bodies)
    (hdistinct : bodies.Pairwise fun a b => a.1.title ≠ b.1.title)
    (hentries : bodies.mapM (fun g => sectionEntries g.1 g.2) = .ok es) :
    parse t = .ok (ofDescription
      (leadText (Text.groupUnder section? (Text.lines (dedent t))).1
        (!(Text.groupUnder section? (Text.lines (dedent t))).2.isEmpty)) es.flatten
      (some .google)) := by
  rw [parse]
  generalize Text.groupUnder section? (Text.lines (dedent t)) = found at hbodies ⊢
  obtain ⟨lead, groups⟩ := found
  dsimp only at hbodies ⊢
  have hfold : groups.foldl (fun acc (g : Section × List (List Char)) =>
      record g.1 (sectionBody g.2) acc) [] = bodies := by
    have hrecord := foldl_record bodies [] hdistinct
    rw [← hbodies, List.foldl_map] at hrecord
    rw [hrecord, ← hbodies]
    rfl
  rw [hfold, hentries]
  rfl

variable {r : Record}

theorem openingTitle?_print (h : Google.section? r.summary.text = none) (style : Style) :
    openingTitle? (r.print style) = none := by
  have hlines : (Text.lines (r.print style)).dropWhile isBlank =
      r.summary.text :: r.below style := by
    rw [r.lines_print, r.lines_eq_cons, List.dropWhile_cons, if_neg]
    rw [r.summary.startsWord.isBlank]
    decide
  rw [openingTitle?_eq hlines, r.summary.startsWord.trimStart, h]

theorem dedent_print (h : Google.section? r.summary.text = none) (style : Style) :
    dedent (r.print style) = r.print style := by
  rw [dedent_of_untitled (openingTitle?_print h style), r.clean_print]

theorem lines_google (r : Record) :
    r.lines .google = r.lead ++ ((partsOf r).filter (!·.lines.isEmpty)).flatMap Part.block := by
  rw [Record.lines, Record.paragraphs]
  have hsections : r.sections .google = (partsOf r).map fun p => (p.kind.title, p.lines) := rfl
  rw [hsections, List.filter_map, List.map_map, List.flatMap_map]
  rfl

theorem untitled_lead (h : r.Neutral) : ∀ l ∈ r.lead, section? l = none :=
  Record.forall_lead rfl h.summary fun b hb => (h.body b hb).untitled

theorem exists_leadText (r : Record) {blanks : List (List Char)} (h : ∀ l ∈ blanks, l = [])
    (titled : Bool) :
    ∃ blanks', (∀ l ∈ blanks', isBlank l = true) ∧
      leadText (r.lead ++ blanks) titled = unlines (r.lead ++ blanks') := by
  have hblank : ∀ l ∈ blanks, isBlank l = true := fun l hl => by rw [h l hl]; rfl
  cases titled with
  | false => exact ⟨blanks, hblank, rfl⟩
  | true =>
    refine ⟨blanks ++ [[]], ?_, ?_⟩
    · rw [List.forall_mem_append]
      exact ⟨hblank, List.forall_mem_singleton.mpr rfl⟩
    · rw [← List.append_assoc, ← Text.terminated_eq_unlines]
      rfl

/-- The sections of a record that have lines. -/
def shown (r : Record) : List Part := (partsOf r).filter (!·.lines.isEmpty)

theorem sound_shown (h : r.Neutral) : ∀ p ∈ shown r, p.Sound ∧ p.lines ≠ [] := by
  intro p hp
  rw [shown, List.mem_filter] at hp
  exact ⟨sound_partsOf h p hp.1, by simpa using hp.2⟩

theorem distinct_shown (r : Record) :
    ((shown r).map fun p => (p.kind, unlines p.lines)).Pairwise fun a b =>
      a.1.title ≠ b.1.title := by
  rw [List.pairwise_map]
  refine List.Pairwise.filter _ ?_
  simp [partsOf]

theorem entries_shown (h : r.Neutral) :
    ((shown r).map Part.entries).flatten =
      Record.entries (r.params.map entryOf) (r.returns.map resultOf) (r.raises.map raisesOf) := by
  have hall : ((shown r).map Part.entries).flatten = (partsOf r).flatMap Part.entries := by
    refine Record.flatten_map_filter fun p hp hshown => (sound_partsOf h p hp).empty ?_
    simpa using hshown
  rw [hall, Record.entries, List.map_map, List.map_map]
  cases hr : r.returns with
  | none => simp [partsOf, hr]
  | some t => simp [partsOf, hr]

/-- The titled section dialect reads a record from its sections. -/
theorem exists_reading (h : r.Neutral) : ∃ d, parse (r.print .google) = .ok d ∧ r.Reads d := by
  obtain ⟨hlead, hgroups⟩ := groupUnder_blocks (sound_shown h)
  have hfound : Text.groupUnder section? (Text.lines (dedent (r.print .google))) =
      (r.lead ++ (Text.groupUnder section? ((shown r).flatMap Part.block)).1,
        (Text.groupUnder section? ((shown r).flatMap Part.block)).2) := by
    rw [dedent_print h.summary, r.lines_print, lines_google, Text.groupUnder_append (untitled_lead h),
      shown]
  have hentries : ((shown r).map fun p => (p.kind, unlines p.lines)).mapM
      (fun g => sectionEntries g.1 g.2) = .ok ((shown r).map Part.entries) :=
    mapM_ok_map fun p hp => (sound_shown h p hp).1.read (sound_shown h p hp).2
  have hparse := parse_eq (r.print .google) _ (by rw [hfound]; exact hgroups)
    (distinct_shown r) hentries
  refine ⟨_, hparse, ?_⟩
  obtain ⟨blanks, hblanks, htext⟩ := exists_leadText r hlead
    (!(Text.groupUnder section? ((shown r).flatMap Part.block)).2.isEmpty)
  rw [hfound, htext, entries_shown h]
  refine r.reads_ofDescription h.body hblanks (some .google) ?_ (fun _ => rfl) fun _ => rfl
  exact fun p hp => Record.paramDoc_eq p rfl rfl (h.descriptions p hp).google rfl

/-- Without title lines the text is all description. -/
theorem blind {style : Style} (hsummary : section? r.summary.text = none)
    (h : ∀ l ∈ r.lines style, section? l = none) : Blind (r.print style) .google := by
  have hfound : Text.groupUnder section? (Text.lines (dedent (r.print style))) =
      (r.lines style, []) := by
    rw [dedent_print hsummary, r.lines_print, Text.groupUnder_eq_of_forall_none section? _ h]
  have hparse := parse_eq (r.print style) [] (by rw [hfound]; rfl)
    List.Pairwise.nil rfl
  exact ⟨_, parseAs_google.mpr hparse, ofDescription_entries _ _ _⟩

end Google

end RefBook.Docstring
