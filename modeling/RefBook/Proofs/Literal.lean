import RefBook.Literal
import RefBook.Proofs.Text.Lines
import RefBook.Proofs.Text.Utf8

/-! # Literals are read back from their texts

A reader for the texts of literals: it keeps a stack of the items read inside each open
bracket. What a literal is written as puts this literal on top of the innermost items and
leaves what follows, so the text of a literal determines the literal. -/

namespace RefBook.Literal

/-- The character that stands behind a backslash in a quoted text. -/
def unescaped (c : Char) : Char :=
  if c = 'n' then '\n' else if c = 'r' then '\r' else if c = 't' then '\t' else c

/-- The text up to the closing quote, and what follows that. -/
def unquote (quote : Char) : List Char → Option (List Char × List Char)
  | [] => .none
  | '\\' :: c :: t => (unquote quote t).map fun p => (unescaped c :: p.1, p.2)
  | c :: t =>
    if c = quote then some ([], t)
    else (unquote quote t).map fun p => (c :: p.1, p.2)

/-- The number whose digits a text starts with. -/
def leadingNat (t : List Char) : Nat := Nat.ofDigitChars 10 (t.takeWhile Char.isDigit) 0

/-- The literal that a text starts with, if it has no items and starts with no digit, and
what follows it. -/
def marked? : List Char → Option (Literal × List Char)
  | '-' :: t => some (.int (-leadingNat t), t.dropWhile Char.isDigit)
  | '\x27' :: t => (unquote '\x27' t).map fun p => (.str (String.ofList p.1), p.2)
  | '\x22' :: t => (unquote '\x22' t).map fun p => (.str (String.ofList p.1), p.2)
  | 'b' :: quote :: t =>
    (unquote quote t).map fun p => (.bytes (p.1.flatMap String.utf8EncodeChar), p.2)
  | 'N' :: 'o' :: 'n' :: 'e' :: rest => some (.none, rest)
  | 'T' :: 'r' :: 'u' :: 'e' :: rest => some (.bool true, rest)
  | 'F' :: 'a' :: 'l' :: 's' :: 'e' :: rest => some (.bool false, rest)
  | '.' :: '.' :: '.' :: rest => some (.ellipsis, rest)
  | _ => .none

/-- The literal without items that a text starts with, and what follows it. -/
def atom? (t : List Char) : Option (Literal × List Char) :=
  if t.head?.any Char.isDigit then some (.int (leadingNat t), t.dropWhile Char.isDigit)
  else marked? t

/-- The items read so far inside each open bracket, innermost first; the last one read is
the first of its list. -/
abbrev Stack := List (List Literal)

namespace Stack

/-- One more item. -/
def push (l : Literal) : Stack → Stack
  | [] => [[l]]
  | items :: outer => (l :: items) :: outer

/-- The innermost items become one item of those around them. -/
def close (f : List Literal → Literal) : Stack → Stack
  | [] => []
  | items :: outer => push (f items.reverse) outer

end Stack

/-- Reads items and brackets to the end of the text, `skip` counting the characters of an item
still to leave out. Commas and blanks only keep items apart. -/
def readFrom : Nat → List Char → Stack → Option Stack
  | _, [], s => some s
  | skip + 1, _ :: t, s => readFrom skip t s
  | 0, c :: t, s =>
    match atom? (c :: t) with
    | some (l, rest) => readFrom (t.length - rest.length) t (s.push l)
    | .none =>
      if c = '(' ∨ c = '[' then readFrom 0 t ([] :: s)
      else if c = ')' then readFrom 0 t (s.close tuple)
      else if c = ']' then readFrom 0 t (s.close list)
      else if c = ',' ∨ c = ' ' then readFrom 0 t s
      else .none

/-- The literal that a text is written for. -/
def ofText? (s : String) : Option Literal :=
  match readFrom 0 s.toList [] with
  | some [[l]] => some l
  | _ => .none

/-- A literal without floats whose bytes are well formed UTF-8. -/
inductive Textual : Literal → Prop
  | none : Textual none
  | bool (b : Bool) : Textual (bool b)
  | int (n : Int) : Textual (int n)
  | str (s : String) : Textual (str s)
  | bytes {b : List UInt8} (h : b.toByteArray.IsValidUTF8) : Textual (bytes b)
  | ellipsis : Textual ellipsis
  | tuple {items : List Literal} (h : ∀ l ∈ items, Textual l) : Textual (tuple items)
  | list {items : List Literal} (h : ∀ l ∈ items, Textual l) : Textual (list items)

theorem unquote_cons {quote c : Char} (hc : c ≠ '\\') (hq : c ≠ quote) (t : List Char) :
    unquote quote (c :: t) = (unquote quote t).map fun p => (c :: p.1, p.2) := by
  rw [unquote, if_neg hq]
  simp [hc]

/-- A character of a quoted text is read back. -/
theorem unquote_quotedChar {quote : Char} (hq : quote = '\x27' ∨ quote = '\x22') (c : Char)
    (t : List Char) :
    unquote quote (quotedChar quote c ++ t) = (unquote quote t).map fun p => (c :: p.1, p.2) := by
  unfold quotedChar
  split
  · next h => rw [h]; rfl
  split
  · next h => rw [h]; rfl
  split
  · next h => rw [h]; rfl
  split
  · next h => rw [h]; rfl
  split
  · next h =>
    -- a quote is escaped by itself
    rw [h]
    obtain rfl | rfl := hq
    · rfl
    · rfl
  · exact unquote_cons ‹_› ‹_› t

theorem unquote_quoted {quote : Char} (hq : quote = '\x27' ∨ quote = '\x22') (s rest : List Char) :
    unquote quote (s.flatMap (quotedChar quote) ++ quote :: rest) = some (s, rest) := by
  induction s with
  | nil =>
    obtain rfl | rfl := hq
    · rfl
    · rfl
  | cons c s ih => rw [List.flatMap_cons, List.append_assoc, unquote_quotedChar hq, ih]; rfl

theorem quoteFor_cases (t : List Char) : quoteFor t = '\x27' ∨ quoteFor t = '\x22' := by
  unfold quoteFor
  split
  · exact .inr rfl
  · exact .inl rfl

/-- What may follow a number: nothing, or something that is no digit. -/
def Ends (rest : List Char) : Prop := ∀ c ∈ rest.head?, c.isDigit = false

theorem toDigits_span (n : Nat) {rest : List Char} (h : Ends rest) :
    leadingNat (Nat.toDigits 10 n ++ rest) = n ∧
      (Nat.toDigits 10 n ++ rest).dropWhile Char.isDigit = rest := by
  have hdigits : ∀ c ∈ Nat.toDigits 10 n, c.isDigit = true := fun c hc =>
    Nat.isDigit_of_mem_toDigits (by decide) (by decide) hc
  obtain ⟨htake, hdrop⟩ := Text.span_append hdigits h
  rw [leadingNat, htake, hdrop]
  exact ⟨Nat.ofDigitChars_ten_toDigits, rfl⟩

theorem atom?_of_head {c : Char} (h : c.isDigit = false) (t : List Char) :
    atom? (c :: t) = marked? (c :: t) := by
  rw [atom?, if_neg]
  simp [h]

theorem atom?_int (n : Int) {rest : List Char} (h : Ends rest) :
    atom? (intChars n ++ rest) = some (.int n, rest) := by
  obtain ⟨hnat, hrest⟩ := toDigits_span n.natAbs h
  unfold intChars
  split
  · have hneg : -(n.natAbs : Int) = n := by omega
    rw [List.cons_append, atom?_of_head (by decide), marked?, hnat, hrest, hneg]
  · have habs : (n.natAbs : Int) = n := by omega
    have hhead : (Nat.toDigits 10 n.natAbs ++ rest).head?.any Char.isDigit = true := by
      obtain ⟨c, ds, hds⟩ :=
        List.exists_cons_of_ne_nil (Nat.toDigits_ne_nil (n := n.natAbs) (b := 10))
      have hc : c.isDigit = true :=
        Nat.isDigit_of_mem_toDigits (by decide) (by decide) (hds ▸ List.mem_cons_self)
      rw [hds]
      simpa using hc
    rw [atom?, if_pos hhead, hnat, hrest, habs]

theorem marked?_quote {quote : Char} (hq : quote = '\x27' ∨ quote = '\x22') (t : List Char) :
    marked? (quote :: t) = (unquote quote t).map fun p => (.str (String.ofList p.1), p.2) := by
  obtain rfl | rfl := hq
  · rfl
  · rfl

theorem quoted_append (t rest : List Char) :
    quoted t ++ rest =
      quoteFor t :: (t.flatMap (quotedChar (quoteFor t)) ++ quoteFor t :: rest) := by
  simp [quoted]

theorem atom?_str (s : String) (rest : List Char) :
    atom? (quoted s.toList ++ rest) = some (.str s, rest) := by
  have hquote := quoteFor_cases s.toList
  have hdigit : (quoteFor s.toList).isDigit = false := by
    obtain h | h := hquote
    · rw [h]; rfl
    · rw [h]; rfl
  rw [quoted_append, atom?_of_head hdigit, marked?_quote hquote, unquote_quoted hquote,
    Option.map_some, String.ofList_toList]

theorem atom?_bytes {b : List UInt8} (h : b.toByteArray.IsValidUTF8) (rest : List Char) :
    atom? ('b' :: quoted (Text.ofUtf8Lossy b) ++ rest) = some (.bytes b, rest) := by
  obtain ⟨t, ht⟩ := h
  obtain rfl : b = t.flatMap String.utf8EncodeChar := List.toByteArray_inj.mp ht
  rw [Text.ofUtf8Lossy_encoded, List.cons_append, quoted_append, atom?_of_head (by decide), marked?,
    unquote_quoted (quoteFor_cases t), Option.map_some]

theorem readFrom_skip (a rest : List Char) (s : Stack) :
    readFrom a.length (a ++ rest) s = readFrom 0 rest s := by
  induction a with
  | nil => rfl
  | cons c a ih => exact ih

/-- A literal without items is put on the stack. -/
theorem readFrom_atom {l : Literal} {a rest : List Char} (ha : a ≠ [])
    (h : atom? (a ++ rest) = some (l, rest)) (s : Stack) :
    readFrom 0 (a ++ rest) s = readFrom 0 rest (s.push l) := by
  obtain ⟨c, t, rfl⟩ := List.exists_cons_of_ne_nil ha
  have hskip : (t ++ rest).length - rest.length = t.length := by simp
  rw [List.cons_append] at h ⊢
  rw [readFrom, h]
  show readFrom ((t ++ rest).length - rest.length) (t ++ rest) (s.push l) = _
  rw [hskip, readFrom_skip]

/-- A literal is read to its end and put on the stack. -/
def ReadsOn (l : Literal) : Prop :=
  ∀ (rest : List Char) (s : Stack), Ends rest →
    readFrom 0 (l.chars ++ rest) s = readFrom 0 rest (s.push l)

theorem readFrom_comma (t : List Char) (s : Stack) :
    readFrom 0 (',' :: ' ' :: t) s = readFrom 0 t s := rfl

theorem readFrom_items {items : List Literal} (h : ∀ l ∈ items, ReadsOn l) {rest : List Char}
    (hrest : Ends rest) (read : List Literal) (s : Stack) :
    readFrom 0 (Text.joinWith [',', ' '] (itemChars items) ++ rest) (read :: s) =
      readFrom 0 rest ((items.reverse ++ read) :: s) := by
  induction items generalizing read with
  | nil => rfl
  | cons l items ih =>
    rw [List.forall_mem_cons] at h
    cases items with
    | nil => exact h.1 rest (read :: s) hrest
    | cons l' items =>
      have hjoin : Text.joinWith [',', ' '] (itemChars (l :: l' :: items)) ++ rest = l.chars ++
          ',' :: ' ' :: (Text.joinWith [',', ' '] (itemChars (l' :: items)) ++ rest) := by
        simp [itemChars, Text.joinWith]
      have hcomma : ∀ t : List Char, Ends (',' :: t) := by simp [Ends]
      rw [hjoin, h.1 _ _ (hcomma _), readFrom_comma, Stack.push, ih h.2]
      simp only [List.reverse_cons, List.append_assoc, List.cons_append, List.nil_append]

/-- Items inside brackets become one item when the bracket is closed. -/
theorem readFrom_closed {items : List Literal} (h : ∀ l ∈ items, ReadsOn l)
    {f : List Literal → Literal} {closing rest : List Char} (hend : Ends closing)
    (hclose : ∀ s, readFrom 0 closing s = readFrom 0 rest (s.close f)) (s : Stack) :
    readFrom 0 (Text.joinWith [',', ' '] (itemChars items) ++ closing) ([] :: s) =
      readFrom 0 rest (s.push (f items)) := by
  rw [readFrom_items h hend, hclose, List.append_nil, Stack.close, List.reverse_reverse]

theorem readsOn_list {items : List Literal} (h : ∀ l ∈ items, ReadsOn l) :
    ReadsOn (.list items) := by
  intro rest s _
  have hchars : (list items).chars ++ rest =
      '[' :: (Text.joinWith [',', ' '] (itemChars items) ++ ']' :: rest) := by
    simp [chars]
  rw [hchars]
  exact readFrom_closed h (by simp [Ends]) (fun _ => rfl) s

/-- Inside its brackets a tuple is written like a list, up to the comma of a single item. -/
theorem chars_tuple (items : List Literal) :
    ∃ comma, (comma = [] ∨ comma = [',']) ∧ (tuple items).chars =
      '(' :: Text.joinWith [',', ' '] (itemChars items) ++ comma ++ [')'] := by
  match items with
  | [] => exact ⟨[], .inl rfl, by simp [chars]⟩
  | [item] => exact ⟨[','], .inr rfl, by simp [chars, itemChars, Text.joinWith]⟩
  | _ :: _ :: _ => exact ⟨[], .inl rfl, by simp [chars]⟩

theorem readsOn_tuple {items : List Literal} (h : ∀ l ∈ items, ReadsOn l) :
    ReadsOn (.tuple items) := by
  intro rest s _
  obtain ⟨comma, hcomma, hchars⟩ := chars_tuple items
  have hparts : (tuple items).chars ++ rest =
      '(' :: (Text.joinWith [',', ' '] (itemChars items) ++ (comma ++ ')' :: rest)) := by
    simp [hchars]
  rw [hparts]
  obtain rfl | rfl := hcomma
  · exact readFrom_closed h (by simp [Ends]) (fun _ => rfl) s
  · exact readFrom_closed h (by simp [Ends]) (fun _ => rfl) s

theorem intChars_ne_nil (n : Int) : intChars n ≠ [] := by
  unfold intChars
  split
  · exact List.cons_ne_nil _ _
  · exact Nat.toDigits_ne_nil

/-- What a literal is written as is read as this literal, whatever follows. -/
theorem Textual.readsOn {l : Literal} (h : l.Textual) : ReadsOn l := by
  induction h with
  | none => exact fun rest s _ => readFrom_atom (a := "None".toList) (by decide) rfl s
  | bool b =>
    cases b with
    | true => exact fun rest s _ => readFrom_atom (a := "True".toList) (by decide) rfl s
    | false => exact fun rest s _ => readFrom_atom (a := "False".toList) (by decide) rfl s
  | int n => exact fun rest s hrest => readFrom_atom (intChars_ne_nil n) (atom?_int n hrest) s
  | str t => exact fun rest s _ => readFrom_atom (List.cons_ne_nil _ _) (atom?_str t rest) s
  | bytes hb => exact fun rest s _ => readFrom_atom (List.cons_ne_nil _ _) (atom?_bytes hb rest) s
  | ellipsis => exact fun rest s _ => readFrom_atom (a := "...".toList) (by decide) rfl s
  | tuple _ ih => exact readsOn_tuple ih
  | list _ ih => exact readsOn_list ih

theorem Textual.ofText?_text {l : Literal} (h : l.Textual) : ofText? l.text = some l := by
  have hend : Ends [] := by simp [Ends]
  have hread : readFrom 0 l.chars [] = some [[l]] := by
    rw [← List.append_nil l.chars, h.readsOn [] [] hend]
    rfl
  rw [ofText?, text, String.toList_ofList, hread]

/-- **The text of a literal determines the literal**: a literal without floats whose bytes are
well formed is read back from its text, however deep its tuples and lists are nested and
whatever quotes, commas and brackets its texts contain, and no other such literal has that
text. -/
theorem text_determines_literal (l : Literal) (h : l.Textual) :
    ofText? l.text = some l ∧ ∀ l' : Literal, l'.Textual → l'.text = l.text → l' = l := by
  refine ⟨h.ofText?_text, fun l' h' heq => ?_⟩
  have hread := h'.ofText?_text
  rw [heq, h.ofText?_text] at hread
  exact (Option.some.inj hread).symm

def pairOfTexts : Literal := .list [.str "a", .str "b"]

/-- A list of one text, which looks like the items of another list, and of nested tuples. -/
def textOfPair : Literal :=
  .list [.str "a', 'b", .tuple [.str "\\it's \"it\"\n"], .tuple [.int (-3), .tuple [], .list []],
    .bytes [0xC3, 0xA9], .ellipsis, .none]

theorem textual_textOfPair : textOfPair.Textual := by
  have hbytes : ([0xC3, 0xA9] : List UInt8).toByteArray.IsValidUTF8 := ⟨['é'], by decide⟩
  have hone : (tuple [.str "\\it's \"it\"\n"]).Textual := .tuple (by simp [Textual.str])
  have hnested : (tuple [.int (-3), .tuple [], .list []]).Textual := by
    refine .tuple ?_
    simp [Textual.int, Textual.tuple, Textual.list]
  refine .list ?_
  simp [Textual.str, hone, hnested, Textual.bytes hbytes, Textual.ellipsis, Textual.none]

theorem textOfPair_read_back :
    textOfPair.Textual ∧ pairOfTexts.Textual ∧ ofText? textOfPair.text = some textOfPair ∧
      pairOfTexts.text ≠ textOfPair.text := by
  have hpair : pairOfTexts.Textual := .list (by simp [Textual.str])
  obtain ⟨hread, hdetermines⟩ := text_determines_literal textOfPair textual_textOfPair
  refine ⟨textual_textOfPair, hpair, hread, fun heq => ?_⟩
  have hsame := hdetermines pairOfTexts hpair heq
  simp [pairOfTexts, textOfPair] at hsame

/-- Bytes that are no UTF-8 are written with replacement characters, which other bytes encode. -/
example : (bytes [0xFF]).text = (bytes [0xEF, 0xBF, 0xBD]).text := by decide

end RefBook.Literal
