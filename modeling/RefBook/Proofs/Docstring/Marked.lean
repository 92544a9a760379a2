import RefBook.Proofs.Docstring.Tags

/-! # A text divided at its marked lines

The dialects that mark their fields look for the first marked line to cut a text in two,
and then group the lines from there on. The first is done by counting bytes and the second
by looking at lines, so they have to agree: the cut falls between two lines, the description
before it has no marked line, and the fields after it are the rest of the text, line by
line. -/

namespace RefBook.Docstring

open Text (lines unlines terminated)

variable {m : Char}

def byteSize (t : List Char) : Nat := (String.ofList t).utf8ByteSize

@[simp] theorem byteSize_nil : byteSize [] = 0 := rfl

theorem byteSize_append (a b : List Char) : byteSize (a ++ b) = byteSize a + byteSize b := by
  simp [byteSize, String.ofList_append]

/-- Where the first marked line starts, if the lines start at the byte `offset`. -/
def markerByteFrom? (marker : Char) (offset : Nat) : List (List Char) → Option Nat
  | [] => none
  | line :: rest =>
    if isMarked marker line then some offset
    else markerByteFrom? marker (offset + byteSize line + 1) rest

/-- The byte of a text at which its first marked line starts. -/
def markerByte? (marker : Char) (t : List Char) : Option Nat :=
  markerByteFrom? marker 0 (lines t)

theorem markerByteFrom?_eq_none_iff {ls : List (List Char)} (offset : Nat) :
    markerByteFrom? m offset ls = none ↔ ∀ l ∈ ls, isMarked m l = false := by
  induction ls generalizing offset with
  | nil => simp [markerByteFrom?]
  | cons l ls ih =>
    rw [markerByteFrom?, List.forall_mem_cons, ← ih (offset + byteSize l + 1)]
    cases isMarked m l <;> simp

theorem markerByteFrom?_append {lead below : List (List Char)} {f : List Char}
    (h : ∀ l ∈ lead, isMarked m l = false) (hf : isMarked m f = true) (offset : Nat) :
    markerByteFrom? m offset (lead ++ f :: below) = some (offset + byteSize (terminated lead)) := by
  induction lead generalizing offset with
  | nil => rw [List.nil_append, markerByteFrom?, if_pos hf]; rfl
  | cons l lead ih =>
    rw [List.forall_mem_cons] at h
    have hfeed : byteSize ['\n'] = 1 := by decide
    rw [List.cons_append, markerByteFrom?, h.1, if_neg Bool.false_ne_true, ih h.2,
      Text.terminated_cons, byteSize_append, ← List.singleton_append, byteSize_append, hfeed]
    congr 1
    omega

/-- A text has no marked line, or lines without the marker and then a marked one. -/
theorem marked_cases (m : Char) (t : List Char) :
    (∀ l ∈ lines t, isMarked m l = false) ∨
      ∃ lead f below, lines t = lead ++ f :: below ∧ (∀ l ∈ lead, isMarked m l = false) ∧
        isMarked m f = true := by
  cases hfind : (lines t).find? (isMarked m) with
  | none =>
    rw [List.find?_eq_none] at hfind
    exact .inl fun l hl => Bool.eq_false_iff.mpr (hfind l hl)
  | some f =>
    obtain ⟨hf, lead, below, hlines, hlead⟩ := List.find?_eq_some_iff_append.mp hfind
    exact .inr ⟨lead, f, below, hlines, by simpa using hlead, hf⟩

/-- The text of a field: its first line is marked, and no other one is. -/
def Headed (marker : Char) (field : List Char) : Prop :=
  ∃ head below, lines field = head :: below ∧ isMarked marker head = true ∧
    ∀ l ∈ below, isMarked marker l = false

/-- The marked lines head the groups of lines. -/
def markedHead? (marker : Char) (line : List Char) : Option (List Char) :=
  if isMarked marker line then some line else none

theorem markedHead?_eq_some {l l' : List Char} (h : markedHead? m l = some l') :
    l' = l ∧ isMarked m l = true := by
  unfold markedHead? at h
  split at h
  · exact ⟨(Option.some.inj h).symm, ‹_›⟩
  · cases h

theorem markedHead?_eq_none {l : List Char} (h : markedHead? m l = none) :
    isMarked m l = false := by
  unfold markedHead? at h
  split at h
  · cases h
  · exact Bool.eq_false_iff.mpr ‹_›

/-- The lines of the fields, field by field. -/
def fieldLines (marker : Char) (t : List Char) : List (List Char × List (List Char)) :=
  (Text.groupUnder (markedHead? marker) (lines t)).2

theorem markerChunks_eq (t : List Char) :
    markerChunks m t = (fieldLines m t).map fun g => unlines (g.1 :: g.2) := rfl

theorem lines_of_mem_fieldLines {t : List Char} {g : List Char × List (List Char)}
    (hg : g ∈ fieldLines m t) : lines (unlines (g.1 :: g.2)) = g.1 :: g.2 := by
  obtain ⟨⟨l, hl, hhead⟩, hbelow⟩ := Text.mem_groupUnder.2 g hg
  refine Text.lines_unlines (List.cons_ne_nil _ _) (List.forall_mem_cons.mpr ⟨?_, ?_⟩)
  · rw [(markedHead?_eq_some hhead).1]
    exact Text.newline_not_mem_of_mem_lines hl
  · exact fun x hx => Text.newline_not_mem_of_mem_lines (hbelow x hx)

theorem headed_of_mem_markerChunks {t c : List Char} (hc : c ∈ markerChunks m t) :
    Headed m c := by
  rw [markerChunks_eq] at hc
  obtain ⟨g, hg, rfl⟩ := List.mem_map.mp hc
  obtain ⟨⟨l, -, hhead⟩, -⟩ := Text.mem_groupUnder.2 g hg
  obtain ⟨heq, hmarked⟩ := markedHead?_eq_some hhead
  refine ⟨g.1, g.2, lines_of_mem_fieldLines hg, heq ▸ hmarked, fun x hx => ?_⟩
  exact markedHead?_eq_none (Text.head_eq_none_of_mem_groupUnder.2 g hg x hx)

/-- The fields of a text that starts with a marked line have all of its lines. -/
theorem flatMap_fieldLines {t f : List Char} {below : List (List Char)}
    (ht : lines t = f :: below) (hf : isMarked m f = true) :
    (fieldLines m t).flatMap (fun g => g.1 :: g.2) = lines t := by
  have hhead : markedHead? m f = some f := if_pos hf
  have hall := Text.groupUnder_append_flatMap
    (fun _ _ h => (markedHead?_eq_some (m := m) h).1) (lines t)
  rw [ht, Text.groupUnder_cons_some hhead, List.nil_append] at hall
  rw [fieldLines, ht, Text.groupUnder_cons_some hhead]
  exact hall

theorem flatMap_lines_markerChunks {t f : List Char} {below : List (List Char)}
    (ht : lines t = f :: below) (hf : isMarked m f = true) :
    (markerChunks m t).flatMap lines = lines t := by
  rw [markerChunks_eq, List.flatMap_map, ← flatMap_fieldLines ht hf]
  exact List.flatMap_congr fun g hg => lines_of_mem_fieldLines hg

/-- The lines of texts that are put together. -/
theorem lines_unlines_fields {cs : List (List Char)} (hcs : cs ≠ []) :
    lines (unlines cs) = cs.flatMap lines := by
  induction cs with
  | nil => exact absurd rfl hcs
  | cons c cs ih =>
    cases cs with
    | nil => exact (List.append_nil (lines c)).symm
    | cons c' cs =>
      rw [Text.unlines_cons_cons, lines, Text.splitOn_append, List.flatMap_cons,
        ← ih (List.cons_ne_nil c' cs)]
      rfl

theorem markerChunks_ne_nil {t f : List Char} {below : List (List Char)}
    (ht : lines t = f :: below) (hf : isMarked m f = true) : markerChunks m t ≠ [] := by
  intro hnil
  have hall := flatMap_lines_markerChunks ht hf
  rw [hnil, ht] at hall
  cases hall

theorem unlines_markerChunks {t f : List Char} {below : List (List Char)}
    (ht : lines t = f :: below) (hf : isMarked m f = true) : unlines (markerChunks m t) = t := by
  rw [← Text.unlines_lines (unlines (markerChunks m t)),
    lines_unlines_fields (markerChunks_ne_nil ht hf), flatMap_lines_markerChunks ht hf,
    Text.unlines_lines]

/-- Fields that are put together, each with its only marked line at its head, are told apart
again. -/
theorem markerChunks_unlines_of_headed {cs : List (List Char)} (h : ∀ c ∈ cs, Headed m c) :
    markerChunks m (unlines cs) = cs := by
  by_cases hcs : cs = []
  · rw [hcs]
    rfl
  have hlines : ∀ c ∈ cs, lines c = (lines c).headD [] :: (lines c).tail := by
    intro c hc
    obtain ⟨head, below, hl, -, -⟩ := h c hc
    rw [hl]
    rfl
  have hgroups : fieldLines m (unlines cs) = cs.map fun c => ((lines c).headD [], (lines c).tail) := by
    rw [fieldLines, lines_unlines_fields hcs, List.flatMap_congr hlines, Text.groupUnder_flatMap]
    intro c hc
    obtain ⟨head, below, hl, hhead, hbelow⟩ := h c hc
    rw [hl]
    exact ⟨if_pos hhead, fun l hl => if_neg (by simp [hbelow l hl])⟩
  rw [markerChunks_eq, hgroups, List.map_map]
  refine (List.map_congr_left fun c hc => ?_).trans (List.map_id cs)
  rw [Function.comp_apply, ← hlines c hc, Text.unlines_lines]
  rfl

/-- A text in two parts of which the second starts at the byte `k`, with the first marked
line, and is made up of fields. -/
structure StartsAt (marker : Char) (t : List Char) (k : Nat) (lead rest : List Char) : Prop where
  /-- The byte is the first one of a character, or the end. -/
  boundary : (⟨k⟩ : String.Pos.Raw).IsValid (String.ofList t)
  whole : t = lead ++ rest
  offset : markerOffset? marker t = some lead.length
  size : byteSize lead = k
  unmarked : ∀ l ∈ lines lead, isMarked marker l = false
  joined : unlines (markerChunks marker rest) = rest
  headed : ∀ c ∈ markerChunks marker rest, Headed marker c

/-- A text whose lines each belong either to the description or to exactly one field, in
order. The description ends with the line feed before the first field. -/
structure Divided (marker : Char) (t description : List Char) (fields : List (List Char)) :
    Prop where
  lines : ∃ lead, lines t = lead ++ fields.flatMap lines ∧
    (∀ l ∈ lead, isMarked marker l = false) ∧
    description = if fields = [] then unlines lead else terminated lead
  headed : ∀ c ∈ fields, Headed marker c

variable {t : List Char}

theorem isMarked_nil (m : Char) : isMarked m [] = false := rfl

theorem unmarked_terminated {ls : List (List Char)} (hnl : ∀ l ∈ ls, '\n' ∉ l)
    (h : ∀ l ∈ ls, isMarked m l = false) : ∀ l ∈ lines (terminated ls), isMarked m l = false := by
  have hlines : lines (terminated ls) = ls ++ [[]] := by
    rw [Text.terminated_eq_unlines, Text.lines_unlines (by simp)]
    rw [List.forall_mem_append]
    exact ⟨hnl, List.forall_mem_singleton.mpr List.not_mem_nil⟩
  rw [hlines, List.forall_mem_append]
  exact ⟨h, List.forall_mem_singleton.mpr (isMarked_nil m)⟩

/-- A cut after some characters falls on a byte boundary. -/
theorem isValid_byteSize (a b : List Char) :
    (⟨byteSize a⟩ : String.Pos.Raw).IsValid (String.ofList (a ++ b)) := by
  rw [String.Pos.Raw.isValid_iff_exists_append]
  exact ⟨String.ofList a, String.ofList b, String.ofList_append, rfl⟩

theorem splitAtMarker_of_lines {below : List (List Char)} {lead : List (List Char)}
    {f : List Char} (ht : lines t = lead ++ f :: below) (h : ∀ l ∈ lead, isMarked m l = false)
    (hf : isMarked m f = true) :
    splitAtMarker m t = (terminated lead, unlines (f :: below)) ∧
      lines (unlines (f :: below)) = f :: below := by
  have hnl : ∀ l ∈ lead ++ f :: below, '\n' ∉ l := fun l hl =>
    Text.newline_not_mem_of_mem_lines (ht ▸ hl)
  refine ⟨?_, Text.lines_unlines (List.cons_ne_nil _ _) fun l hl =>
    hnl l (List.mem_append_right _ hl)⟩
  rw [← splitAtMarker_append hnl h hf, ← ht, Text.unlines_lines]

theorem startsAt_of_markerByte? {k : Nat} (h : markerByte? m t = some k) :
    StartsAt m t k (splitAtMarker m t).1 (splitAtMarker m t).2 := by
  obtain hun | ⟨lead, f, below, ht, hlead, hf⟩ := marked_cases m t
  · rw [markerByte?, (markerByteFrom?_eq_none_iff 0).mpr hun] at h
    cases h
  · obtain ⟨hsplit, hrest⟩ := splitAtMarker_of_lines ht hlead hf
    have hnl : ∀ l ∈ lead, '\n' ∉ l := fun l hl =>
      Text.newline_not_mem_of_mem_lines (ht ▸ List.mem_append_left _ hl)
    have hwhole : t = terminated lead ++ unlines (f :: below) := by
      rw [← Text.unlines_append (List.cons_ne_nil _ _), ← ht, Text.unlines_lines]
    rw [markerByte?, ht, markerByteFrom?_append hlead hf, Nat.zero_add] at h
    obtain rfl := Option.some.inj h
    rw [hsplit]
    exact
      { boundary := by
          rw [hwhole]
          exact isValid_byteSize _ _
        whole := hwhole
        offset := by rw [markerOffset?, ht, markerOffsetIn?_append hlead hf]
        size := rfl
        unmarked := unmarked_terminated hnl hlead
        joined := unlines_markerChunks hrest hf
        headed := fun c hc => headed_of_mem_markerChunks hc }

theorem divided (m : Char) (t : List Char) :
    Divided m t (splitAtMarker m t).1 (markerChunks m (splitAtMarker m t).2) := by
  refine ⟨?_, fun c hc => headed_of_mem_markerChunks hc⟩
  obtain hun | ⟨lead, f, below, ht, hlead, hf⟩ := marked_cases m t
  · rw [splitAtMarker_of_none hun, markerChunks_nil]
    exact ⟨lines t, (List.append_nil _).symm, hun, (Text.unlines_lines t).symm⟩
  · obtain ⟨hsplit, hrest⟩ := splitAtMarker_of_lines ht hlead hf
    have hfields := flatMap_lines_markerChunks hrest hf
    rw [hsplit]
    exact ⟨lead, by rw [hfields, hrest, ht], hlead, (if_neg (markerChunks_ne_nil hrest hf)).symm⟩

/-- Where fields follow a description, others may stand in their place. -/
theorem splitAtMarker_append_fields {cs : List (List Char)}
    (hne : markerChunks m (splitAtMarker m t).2 ≠ []) (hcs : cs ≠ []) (h : ∀ c ∈ cs, Headed m c) :
    splitAtMarker m ((splitAtMarker m t).1 ++ unlines cs) = ((splitAtMarker m t).1, unlines cs) := by
  obtain hun | ⟨lead, f, below, ht, hlead, hf⟩ := marked_cases m t
  · rw [splitAtMarker_of_none hun] at hne
    exact absurd rfl hne
  obtain ⟨f', below', hlines, hf'⟩ : ∃ f' below', lines (unlines cs) = f' :: below' ∧
      isMarked m f' = true := by
    obtain ⟨c, cs', rfl⟩ := List.exists_cons_of_ne_nil hcs
    obtain ⟨head, below, hl, hhead, -⟩ := h c List.mem_cons_self
    exact ⟨head, below ++ cs'.flatMap lines, by
      rw [lines_unlines_fields hcs, List.flatMap_cons, hl, List.cons_append], hhead⟩
  have hnl : ∀ l ∈ lead ++ f' :: below', '\n' ∉ l := by
    rw [List.forall_mem_append]
    exact ⟨fun l hl => Text.newline_not_mem_of_mem_lines (ht ▸ List.mem_append_left _ hl),
      fun l hl => Text.newline_not_mem_of_mem_lines (hlines ▸ hl)⟩
  have hsplit := splitAtMarker_append hnl hlead hf'
  rw [Text.unlines_append (List.cons_ne_nil _ _), ← hlines, Text.unlines_lines] at hsplit
  rw [(splitAtMarker_of_lines ht hlead hf).1]
  exact hsplit

/-- A text that is cleaned to the description of another one and to fields has these fields. -/
theorem chunks_of_clean {t' : List Char} {cs : List (List Char)} (hne : chunks m t ≠ [])
    (hcs : cs ≠ []) (h : ∀ c ∈ cs, Headed m c)
    (ht' : Text.clean t' = (splitAtMarker m (Text.clean t)).1 ++ unlines cs) :
    chunks m t' = cs := by
  rw [chunks, ht', splitAtMarker_append_fields hne hcs h, markerChunks_unlines_of_headed h]

/-- **The marked lines divide a text.** The first one starts nowhere if and only if there is
none, be it bytes or characters that are counted. At its byte the text can be cut: what precedes it has no marked line, and
the fields after it, put together, are the rest, each with its only marked line at its head.
So each line of a cleaned text is in the description or in exactly one field, in order, and
both dialects read the description and then one field after the other. -/
theorem divided_at_marked_lines (m : Char) (t : List Char) :
    (markerByte? m t = none ↔ ∀ l ∈ lines t, isMarked m l = false) ∧
    (markerOffset? m t = none ↔ ∀ l ∈ lines t, isMarked m l = false) ∧
    (∀ k, markerByte? m t = some k →
      StartsAt m t k (splitAtMarker m t).1 (splitAtMarker m t).2) ∧
    (Divided ':' (Text.clean t) (splitAtMarker ':' (Text.clean t)).1 (chunks ':' t) ∧
      Rest.parse t = ((chunks ':' t).mapM Rest.field).map fun fields =>
        ofDescription (splitAtMarker ':' (Text.clean t)).1 (Rest.entries fields) (some .rest)) ∧
    (Divided '@' (Text.clean t) (splitAtMarker '@' (Text.clean t)).1 (chunks '@' t) ∧
      Epydoc.parse t = ((chunks '@' t).mapM Epydoc.tag).bind fun tags =>
        if (Epydoc.results tags).all (·.isYield == Epydoc.yielded tags) then
          .ok (ofDescription (splitAtMarker '@' (Text.clean t)).1
            (Epydoc.entriesFrom tags [] tags) (some .epydoc))
        else .error (.conflictingResult "return")) :=
  ⟨markerByteFrom?_eq_none_iff 0, markerOffsetIn?_eq_none_iff, fun _ => startsAt_of_markerByte?,
    ⟨divided ':' (Text.clean t), Rest.parse_eq_map t⟩,
    ⟨divided '@' (Text.clean t), rfl⟩⟩

/-- A text with characters of two bytes before its first tag and in it. -/
def umlauts : List Char := "Größe.\n\n@param x: Ü\n  mehr\n@return: y\n".toList

theorem umlauts_divided :
    markerByte? '@' umlauts = some 10 ∧
    StartsAt '@' umlauts 10 "Größe.\n\n".toList
      "@param x: Ü\n  mehr\n@return: y\n".toList ∧
    markerByte? ':' umlauts = none ∧ isMarked ':' "Größe.".toList = false ∧
    chunks '@' umlauts = ["@param x: Ü\n  mehr".toList, "@return: y".toList] := by
  have hbyte : markerByte? '@' umlauts = some 10 := by decide +kernel
  have hnone : markerByte? ':' umlauts = none := by decide +kernel
  have hsplit : splitAtMarker '@' umlauts =
      ("Größe.\n\n".toList, "@param x: Ü\n  mehr\n@return: y\n".toList) := by decide
  have hstarts := (divided_at_marked_lines '@' umlauts).2.2.1 10 hbyte
  rw [hsplit] at hstarts
  exact ⟨hbyte, hstarts, hnone,
    (divided_at_marked_lines ':' umlauts).1.mp hnone "Größe.".toList (by decide), by decide⟩

end RefBook.Docstring
