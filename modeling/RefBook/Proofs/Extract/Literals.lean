import Mathlib.Algebra.Group.Int.Defs
import Mathlib.Algebra.Group.Nat.Defs
import Mathlib.Data.List.Forall2
import Mathlib.Data.List.Nodup
import RefBook.Extract.Value
import RefBook.Proofs.Dict

/-! # Expressions that are literals

Which expressions are literals, and which ones, is told by a relation of its own: constants
are, and tuples and lists of literals, and numbers with a minus sign. A decorator keeps the
arguments of a call if every one of them is a literal, and otherwise keeps none. Whole
numbers stay inside words of 128 bits, and as no literal is the least of these words, a
minus sign never leads out of them. -/

namespace RefBook.Extract

open Source (Expr Constant Span)

/-- The greatest whole number that is a literal. -/
def greatestInt : Nat := 2 ^ 127 - 1

/-- The literal that an expression stands for. A complex number stands for none, nor does a
whole number that is too great. -/
inductive Denotes : Expr → Literal → Prop
  | none (s : Span) : Denotes (.constant s .none) .none
  | bool (s : Span) (b : Bool) : Denotes (.constant s (.bool b)) (.bool b)
  | int (s : Span) {n : Nat} (h : n ≤ greatestInt) : Denotes (.constant s (.int n)) (.int n)
  | float (s : Span) (x : Binary64) : Denotes (.constant s (.float x)) (.float x)
  | str (s : Span) (t : List Char) : Denotes (.constant s (.str t)) (.str (String.ofList t))
  | bytes (s : Span) (b : List UInt8) : Denotes (.constant s (.bytes b)) (.bytes b)
  | ellipsis (s : Span) : Denotes (.constant s .ellipsis) .ellipsis
  | tuple (s : Span) {items : List Expr} {ls : List Literal} (h : List.Forall₂ Denotes items ls) :
    Denotes (.tuple s items) (.tuple ls)
  | list (s : Span) {items : List Expr} {ls : List Literal} (h : List.Forall₂ Denotes items ls) :
    Denotes (.list s items) (.list ls)
  | minusInt (s : Span) {e : Expr} {n : Int} (h : Denotes e (.int n)) :
    Denotes (.unary s .minus e) (.int (-n))
  | minusFloat (s : Span) {e : Expr} {x : Binary64} (h : Denotes e (.float x)) :
    Denotes (.unary s .minus e) (.float x.neg)

theorem lt_intLimit_iff (n : Nat) : n < intLimit ↔ n ≤ greatestInt := by
  have hlimit : intLimit = greatestInt + 1 := by decide
  omega

theorem constantLiteral?_eq_some_iff (s : Span) (c : Constant) (l : Literal) :
    constantLiteral? c = some l ↔ Denotes (.constant s c) l := by
  constructor
  · intro h
    cases c with
    | none => cases h; exact .none s
    | bool b => cases h; exact .bool s b
    | int n =>
      rw [constantLiteral?] at h
      split at h
      · cases h
        exact .int s ((lt_intLimit_iff n).mp ‹_›)
      · cases h
    | float x => cases h; exact .float s x
    | complex => cases h
    | str t => cases h; exact .str s t
    | bytes b => cases h; exact .bytes s b
    | ellipsis => cases h; exact .ellipsis s
  · intro h
    cases h with
    | int _ hn => exact if_pos ((lt_intLimit_iff _).mpr hn)
    | _ => rfl

theorem negated?_eq_some_iff (l l' : Literal) :
    negated? l = some l' ↔
      (∃ n, l = .int n ∧ l' = .int (-n)) ∨ ∃ x, l = .float x ∧ l' = .float x.neg := by
  cases l <;> simp [negated?, eq_comm]

mutual

/-- The literal that is read off an expression is the one that it stands for. -/
theorem literal?_eq_some_iff : ∀ (e : Expr) (l : Literal), literal? e = some l ↔ Denotes e l
  | .constant s c, l => by
    rw [literal?]
    exact constantLiteral?_eq_some_iff s c l
  | .tuple s items, l => by
    rw [literal?, Option.map_eq_some_iff]
    constructor
    · rintro ⟨ls, hls, rfl⟩
      exact .tuple s ((literals?_eq_some_iff items ls).mp hls)
    · rintro ⟨⟩
      exact ⟨_, (literals?_eq_some_iff items _).mpr ‹_›, rfl⟩
  | .list s items, l => by
    rw [literal?, Option.map_eq_some_iff]
    constructor
    · rintro ⟨ls, hls, rfl⟩
      exact .list s ((literals?_eq_some_iff items ls).mp hls)
    · rintro ⟨⟩
      exact ⟨_, (literals?_eq_some_iff items _).mpr ‹_›, rfl⟩
  | .unary s .minus operand, l => by
    rw [literal?, Option.bind_eq_some_iff]
    simp only [literal?_eq_some_iff operand, negated?_eq_some_iff]
    constructor
    · rintro ⟨_, h, ⟨n, rfl, rfl⟩ | ⟨x, rfl, rfl⟩⟩
      · exact .minusInt s h
      · exact .minusFloat s h
    · rintro (_ | _)
      · exact ⟨_, ‹_›, .inl ⟨_, rfl, rfl⟩⟩
      · exact ⟨_, ‹_›, .inr ⟨_, rfl, rfl⟩⟩
  | .unary _ .not _, _ | .unary _ .plus _, _ | .unary _ .invert _, _ | .name _ _, _
  | .attribute _ _ _, _ | .call _ _ _ _, _ | .binary _ _ _ _, _ | .starred _ _, _
  | .shaped _ _, _ => ⟨nofun, nofun⟩

theorem literals?_eq_some_iff :
    ∀ (es : List Expr) (ls : List Literal), literals? es = some ls ↔ List.Forall₂ Denotes es ls
  | [], ls => by
    rw [literals?, List.forall₂_nil_left_iff, Option.some.injEq, eq_comm]
  | e :: es, ls => by
    rw [literals?, List.forall₂_cons_left_iff]
    simp only [Option.bind_eq_bind, Option.bind_eq_some_iff, literal?_eq_some_iff e,
      literals?_eq_some_iff es, Option.pure_def, Option.some.injEq]
    grind

end

/-- The whole number `n` behind `k` minus signs. -/
inductive Signed (n : Nat) : Nat → Expr → Prop
  | number (s : Span) : Signed n 0 (.constant s (.int n))
  | minus (s : Span) {k : Nat} {e : Expr} (h : Signed n k e) : Signed n (k + 1) (.unary s .minus e)

theorem exists_signed : ∀ {e : Expr} {v : Int}, Denotes e (.int v) →
    ∃ n k, Signed n k e ∧ n ≤ greatestInt ∧ v = (-1) ^ k * n
  | .constant s _, _, h => by
    cases h with
    | int _ hn => exact ⟨_, 0, .number s, hn, by simp⟩
  | .unary s .minus operand, _, h => by
    cases h with
    | minusInt _ h =>
      obtain ⟨n, k, hsigned, hn, rfl⟩ := exists_signed h
      exact ⟨n, k + 1, .minus s hsigned, hn, by
        rw [Int.pow_succ, Int.mul_neg_one, Int.neg_mul]⟩

theorem Signed.denotes {n k : Nat} {e : Expr} (h : Signed n k e) (hn : n ≤ greatestInt) :
    Denotes e (.int ((-1) ^ k * n)) := by
  induction h with
  | number s =>
    rw [Int.pow_zero, Int.one_mul]
    exact .int s hn
  | minus s h ih =>
    rw [Int.pow_succ, Int.mul_neg_one, Int.neg_mul]
    exact .minusInt s ih

/-- An expression that is read as a whole number is one behind minus signs, and has its
value. -/
theorem literal?_eq_int_iff (e : Expr) (v : Int) :
    literal? e = some (.int v) ↔ ∃ n k, Signed n k e ∧ n ≤ greatestInt ∧ v = (-1) ^ k * n := by
  rw [literal?_eq_some_iff]
  constructor
  · exact exists_signed
  · rintro ⟨n, k, hsigned, hn, rfl⟩
    exact hsigned.denotes hn

theorem natAbs_signed (n k : Nat) : ((-1 : Int) ^ k * n).natAbs = n := by
  rw [Int.natAbs_mul, Int.natAbs_pow]
  simp

theorem natAbs_le_of_literal? {e : Expr} {v : Int} (h : literal? e = some (.int v)) :
    v.natAbs ≤ greatestInt := by
  obtain ⟨n, k, -, hn, rfl⟩ := (literal?_eq_int_iff e v).mp h
  rwa [natAbs_signed]

def word (v : Int) : BitVec 128 := BitVec.ofInt 128 v

/-- Between the greatest literal and its negative, words are the numbers that they stand for,
and can be negated. -/
theorem toInt_word {v : Int} (h : v.natAbs ≤ greatestInt) :
    (word v).toInt = v ∧ (word v).negOverflow = false ∧ (-word v).toInt = -v := by
  have hgreatest : (greatestInt : Int) = 2 ^ (128 - 1) - 1 := by decide
  have hlow : -(2 : Int) ^ (128 - 1) < v := by omega
  have hhigh : v < (2 : Int) ^ (128 - 1) := by omega
  have hword : (word v).toInt = v := BitVec.toInt_ofInt_eq_self (by decide) (Int.le_of_lt hlow) hhigh
  have hover : ¬ (word v).negOverflow = true := by
    rw [BitVec.negOverflow, hword, beq_iff_eq]
    exact Int.ne_of_gt hlow
  exact ⟨hword, Bool.eq_false_iff.mpr hover, by
    rw [BitVec.toInt_neg_of_not_negOverflow hover, hword]⟩

theorem exists_forall₂_iff {α β : Type} {R : α → β → Prop} {l : List α} :
    (∃ l', List.Forall₂ R l l') ↔ ∀ a ∈ l, ∃ b, R a b := by
  induction l with
  | nil => simp
  | cons a l ih =>
    rw [List.forall_mem_cons, ← ih]
    constructor
    · rintro ⟨_, _ | ⟨h, hl⟩⟩
      exact ⟨⟨_, h⟩, _, hl⟩
    · rintro ⟨⟨b, h⟩, l', hl⟩
      exact ⟨b :: l', .cons h hl⟩

theorem mapM_eq_some_iff {α β : Type} {f : α → Option β} {l : List α} {l' : List β} :
    l.mapM f = some l' ↔ List.Forall₂ (fun a b => f a = some b) l l' := by
  induction l generalizing l' with
  | nil => rw [List.mapM_nil, List.forall₂_nil_left_iff, Option.pure_def, Option.some.injEq, eq_comm]
  | cons a l ih =>
    rw [List.mapM_cons, List.forall₂_cons_left_iff]
    simp only [Option.bind_eq_bind, Option.bind_eq_some_iff, ih, Option.pure_def,
      Option.some.injEq]
    grind

/-- A named argument, and the name and the literal that are kept of it. -/
def Named (keyword : Option String × Expr) (entry : String × Literal) : Prop :=
  keyword.1 = some entry.1 ∧ Denotes keyword.2 entry.2

theorem keywordLiteral?_eq_some_iff (keyword : Option String × Expr) (entry : String × Literal) :
    keywordLiteral? keyword = some entry ↔ Named keyword entry := by
  obtain ⟨key, value⟩ := keyword
  obtain ⟨name, l⟩ := entry
  simp only [keywordLiteral?, Option.bind_eq_bind, Option.bind_eq_some_iff, Option.pure_def,
    Option.some.injEq, Prod.mk.injEq, Named, literal?_eq_some_iff]
  grind

theorem keywordLiterals?_eq_some_iff (keywords : List (Option String × Expr)) (d : Dict Literal) :
    keywordLiterals? keywords = some d ↔
      ∃ named, List.Forall₂ Named keywords named ∧ Dict.ofList named = d := by
  rw [keywordLiterals?, Option.map_eq_some_iff]
  simp only [mapM_eq_some_iff, keywordLiteral?_eq_some_iff]

def argumentsByPlace : Expr → List Expr
  | .call _ _ args _ => args
  | _ => []

def argumentsByName : Expr → List (Option String × Expr)
  | .call _ _ _ keywords => keywords
  | _ => []

/-- A call that unpacks no mapping and passes nothing but literals. -/
def LiteralCall : Expr → Prop
  | .call _ _ args keywords => (∀ a ∈ args, ∃ l, Denotes a l) ∧
    ∀ k ∈ keywords, k.1.isSome = true ∧ ∃ l, Denotes k.2 l
  | _ => False

theorem literalCall_iff {s : Span} {func : Expr} {args : List Expr}
    {keywords : List (Option String × Expr)} :
    LiteralCall (.call s func args keywords) ↔
      (∃ ls, List.Forall₂ Denotes args ls) ∧ ∃ named, List.Forall₂ Named keywords named := by
  rw [exists_forall₂_iff, exists_forall₂_iff, LiteralCall]
  simp only [Named, Option.isSome_iff_exists, Prod.exists, exists_and_left, exists_and_right]

/-- What is kept of a call: literal for literal, the arguments in their order and the named ones
under their names, unless two of them have one name. -/
structure Keeps (e : Expr) (args : List Literal) (kwargs : Dict Literal) : Prop where
  args : List.Forall₂ Denotes (argumentsByPlace e) args
  kwargs : ((argumentsByName e).map (·.1)).Nodup →
    ∃ named, List.Forall₂ Named (argumentsByName e) named ∧ kwargs.entries.Perm named

theorem map_fst_of_named {keywords : List (Option String × Expr)} {named : List (String × Literal)}
    (h : List.Forall₂ Named keywords named) :
    keywords.map (·.1) = (named.map (·.1)).map some := by
  induction h with
  | nil => rfl
  | cons h _ ih => rw [List.map_cons, List.map_cons, List.map_cons, ih, h.1]

/-- A decorator keeps all arguments of a call that passes literals only, and else none. -/
theorem decorator_cases (source : List Char) (e : Expr) :
    (LiteralCall e ∧ ∃ args kwargs, (decorator source e).args = some args ∧
      (decorator source e).kwargs = some kwargs ∧ Keeps e args kwargs) ∨
    (¬ LiteralCall e ∧ (decorator source e).args = none ∧ (decorator source e).kwargs = none) := by
  cases e with
  | call s func args keywords =>
    rw [decorator]
    cases hargs : literals? args with
    | none =>
      refine .inr ⟨fun hcall => ?_, rfl, rfl⟩
      obtain ⟨⟨ls, hls⟩, -⟩ := literalCall_iff.mp hcall
      exact nomatch hargs.symm.trans ((literals?_eq_some_iff args ls).mpr hls)
    | some ls =>
      cases hkwargs : keywordLiterals? keywords with
      | none =>
        refine .inr ⟨fun hcall => ?_, rfl, rfl⟩
        obtain ⟨-, named, hnamed⟩ := literalCall_iff.mp hcall
        exact nomatch hkwargs.symm.trans
          ((keywordLiterals?_eq_some_iff keywords _).mpr ⟨named, hnamed, rfl⟩)
      | some d =>
        have hls := (literals?_eq_some_iff args ls).mp hargs
        obtain ⟨named, hnamed, rfl⟩ := (keywordLiterals?_eq_some_iff keywords d).mp hkwargs
        refine .inl ⟨literalCall_iff.mpr ⟨⟨ls, hls⟩, named, hnamed⟩, ls, _, rfl, rfl, hls, ?_⟩
        intro hdistinct
        rw [argumentsByName, map_fst_of_named hnamed] at hdistinct
        exact ⟨named, hnamed, Dict.entries_ofList_perm (List.Nodup.of_map some hdistinct)⟩
  | _ => exact .inr ⟨id, rfl, rfl⟩

/-- **A decorator keeps the arguments of a call if and only if all of them are literals.** It has
both kinds of arguments or neither. Those that it keeps are what the arguments stand for, in
their order, and under exactly the names of the call if these are distinct. A literal that is
a whole number has the value that is written, and neither it nor what a minus sign makes of it
leaves the words of 128 bits. -/
theorem decorator_keeps_literal_calls (source : List Char) (e : Expr) :
    (((decorator source e).args.isSome = true ∧ (decorator source e).kwargs.isSome = true) ↔
      LiteralCall e) ∧
    (¬ LiteralCall e → (decorator source e).args = none ∧ (decorator source e).kwargs = none) ∧
    (∀ args kwargs, (decorator source e).args = some args →
      (decorator source e).kwargs = some kwargs → Keeps e args kwargs) ∧
    (∀ (o : Expr) (l : Literal), literal? o = some l ↔ Denotes o l) ∧
    ∀ (o : Expr) (v : Int), literal? o = some (.int v) →
      (∃ n k, Signed n k o ∧ v = (-1) ^ k * n) ∧ v.natAbs ≤ greatestInt ∧
      (word v).toInt = v ∧ (word v).negOverflow = false ∧ (-word v).toInt = -v := by
  refine ⟨?_, ?_, ?_, literal?_eq_some_iff, ?_⟩
  · obtain ⟨hcall, args, kwargs, hargs, hkwargs, -⟩ | ⟨hcall, hargs, hkwargs⟩ :=
      decorator_cases source e
    · simp [hcall, hargs, hkwargs]
    · simp [hcall, hargs]
  · intro hcall
    obtain ⟨hliteral, -⟩ | ⟨-, hnone⟩ := decorator_cases source e
    · exact absurd hliteral hcall
    · exact hnone
  · intro args kwargs hargs hkwargs
    obtain ⟨-, args', kwargs', hargs', hkwargs', hkeeps⟩ | ⟨-, hnone, -⟩ :=
      decorator_cases source e
    · rw [hargs, Option.some.injEq] at hargs'
      rw [hkwargs, Option.some.injEq] at hkwargs'
      rwa [hargs', hkwargs']
    · exact nomatch hargs.symm.trans hnone
  · intro o v hv
    obtain ⟨n, k, hsigned, -, hvalue⟩ := (literal?_eq_int_iff o v).mp hv
    exact ⟨⟨n, k, hsigned, hvalue⟩, natAbs_le_of_literal? hv, toInt_word (natAbs_le_of_literal? hv)⟩

/-- The greatest literal number behind a minus sign. -/
def leastNumber : Expr := .unary ⟨7, 47⟩ .minus (.constant ⟨8, 47⟩ (.int greatestInt))

/-- A call with a number behind two signs, nested literals and two named arguments. -/
def routeCall : Expr :=
  .call ⟨0, 90⟩ (.name ⟨0, 5⟩ "route")
    [.unary ⟨6, 9⟩ .minus (.unary ⟨7, 9⟩ .minus (.constant ⟨8, 9⟩ (.int 3))),
      .tuple ⟨11, 20⟩ [.constant ⟨12, 15⟩ (.str ['a']), .list ⟨17, 19⟩ []]]
    [(some "low", leastNumber), (some "kind", .constant ⟨60, 64⟩ .none)]

/-- A call with a number that is too great in a list. -/
def greatCall : Expr :=
  .call ⟨0, 48⟩ (.name ⟨0, 5⟩ "route")
    [.list ⟨6, 47⟩ [.constant ⟨7, 46⟩ (.int (greatestInt + 1))]] []

theorem routeCall_kept :
    LiteralCall routeCall ∧ ((argumentsByName routeCall).map (·.1)).Nodup ∧
    (∃ kwargs, (decorator [] routeCall).kwargs = some kwargs ∧
      kwargs.entries = [("kind", .none), ("low", .int (-greatestInt))] ∧
      Keeps routeCall [.int 3, .tuple [.str "a", .list []]] kwargs) ∧
    ¬ LiteralCall greatCall ∧ (decorator [] greatCall).kwargs = none ∧
    literal? leastNumber = some (.int (-greatestInt)) ∧
    (-word (-greatestInt)).toInt = greatestInt := by
  obtain ⟨hboth, -, hkept, -, hint⟩ := decorator_keeps_literal_calls [] routeCall
  obtain ⟨hboth', hbare, -⟩ := decorator_keeps_literal_calls [] greatCall
  have hgreat : ¬ LiteralCall greatCall := fun h => nomatch (hboth'.mpr h).1
  have hleast : literal? leastNumber = some (.int (-greatestInt)) := rfl
  obtain ⟨-, -, -, -, hneg⟩ := hint leastNumber (-greatestInt) hleast
  refine ⟨hboth.mp ⟨rfl, rfl⟩, by decide, ⟨_, rfl, rfl, hkept _ _ rfl rfl⟩, hgreat,
    (hbare hgreat).2, hleast, ?_⟩
  rw [hneg, Int.neg_neg]

end RefBook.Extract
