import RefBook.Registry.Basic

/-! # Adding symbols to a module

`Module.push` adds a symbol unless the module has one of the same kind and name.
What a run of such steps leaves in the module is told here by the list of the
symbols alone: everything that was there, and of the symbols of one kind and name,
if the module had none of these, the first. -/

namespace RefBook

/-- Whether two symbols have the same kind and name; imports have no name and are
alike only if they are equal. -/
def Symbol.alike : Symbol → Symbol → Bool
  | .class a, .class b => a.name == b.name
  | .function a, .function b => a.name == b.name
  | .variable a, .variable b => a.name == b.name
  | .typeAlias a, .typeAlias b => a.name == b.name
  | .imported a, .imported b => a == b
  | _, _ => false

namespace Symbol

theorem alike_refl (s : Symbol) : s.alike s = true := by
  cases s <;> simp [alike]

theorem alike_symm {s t : Symbol} (h : s.alike t = true) : t.alike s = true := by
  cases s <;> cases t <;> simp_all [alike]

theorem alike_trans {s t u : Symbol} (h : s.alike t = true) (h' : t.alike u = true) :
    s.alike u = true := by
  cases s <;> cases t <;> cases u <;> simp_all [alike]

end Symbol

namespace Module

/-- The symbol itself is in the list of its kind. -/
def Holds (m : Module) : Symbol → Prop
  | .class c => c ∈ m.classes
  | .function f => f ∈ m.functions
  | .variable v => v ∈ m.vars
  | .typeAlias a => a ∈ m.aliases
  | .imported i => i ∈ m.imports

def symbolCount (m : Module) : Nat :=
  m.classes.length + m.functions.length + m.vars.length + m.aliases.length + m.imports.length

theorem hasLike_iff (m : Module) (s : Symbol) :
    m.hasLike s = true ↔ ∃ t, m.Holds t ∧ t.alike s = true := by
  constructor
  · intro h
    cases s with
    | «class» c => obtain ⟨a, ha, he⟩ := List.any_eq_true.mp h; exact ⟨.class a, ha, he⟩
    | function f => obtain ⟨a, ha, he⟩ := List.any_eq_true.mp h; exact ⟨.function a, ha, he⟩
    | «variable» v => obtain ⟨a, ha, he⟩ := List.any_eq_true.mp h; exact ⟨.variable a, ha, he⟩
    | typeAlias a => obtain ⟨b, hb, he⟩ := List.any_eq_true.mp h; exact ⟨.typeAlias b, hb, he⟩
    | imported i => exact ⟨.imported i, List.contains_iff_mem.mp h, by simp [Symbol.alike]⟩
  · rintro ⟨t, ht, he⟩
    cases s <;> cases t <;> simp only [Symbol.alike, Bool.false_eq_true] at he
    · exact List.any_eq_true.mpr ⟨_, ht, he⟩
    · exact List.any_eq_true.mpr ⟨_, ht, he⟩
    · exact List.any_eq_true.mpr ⟨_, ht, he⟩
    · exact List.any_eq_true.mpr ⟨_, ht, he⟩
    · rw [← eq_of_beq he]; exact List.contains_iff_mem.mpr ht

/-- Whether a module has a symbol like another one depends on its kind and name only. -/
theorem hasLike_congr (m : Module) {s t : Symbol} (h : s.alike t = true) :
    m.hasLike s = m.hasLike t := by
  rw [Bool.eq_iff_iff, hasLike_iff, hasLike_iff]
  constructor
  · rintro ⟨u, hu, he⟩; exact ⟨u, hu, Symbol.alike_trans he h⟩
  · rintro ⟨u, hu, he⟩; exact ⟨u, hu, Symbol.alike_trans he (Symbol.alike_symm h)⟩

theorem holds_append (m : Module) (t s : Symbol) : (m.append t).Holds s ↔ m.Holds s ∨ s = t := by
  cases s <;> cases t <;> simp [append, Holds]

theorem hasLike_append (m : Module) (t s : Symbol) :
    (m.append t).hasLike s = (m.hasLike s || t.alike s) := by
  rw [Bool.eq_iff_iff, Bool.or_eq_true, hasLike_iff, hasLike_iff]
  constructor
  · rintro ⟨u, hu, he⟩
    rcases (m.holds_append t u).mp hu with hu | rfl
    · exact .inl ⟨u, hu, he⟩
    · exact .inr he
  · rintro (⟨u, hu, he⟩ | he)
    · exact ⟨u, (m.holds_append t u).mpr (.inl hu), he⟩
    · exact ⟨t, (m.holds_append t t).mpr (.inr rfl), he⟩

theorem symbolCount_append (m : Module) (s : Symbol) :
    (m.append s).symbolCount = m.symbolCount + 1 := by
  cases s <;> simp only [append, symbolCount, List.length_append, List.length_singleton] <;> omega

theorem push_of_hasLike {m : Module} {s : Symbol} (h : m.hasLike s = true) : m.push s = m := by
  rw [push, if_pos h]

theorem push_of_not_hasLike {m : Module} {s : Symbol} (h : m.hasLike s = false) :
    m.push s = m.append s := by
  rw [push, if_neg (by simp [h])]

theorem hasLike_push (m : Module) (t s : Symbol) :
    (m.push t).hasLike s = (m.hasLike s || t.alike s) := by
  cases h : m.hasLike t with
  | false => rw [push_of_not_hasLike h, hasLike_append]
  | true =>
    rw [push_of_hasLike h]
    cases ha : t.alike s with
    | false => simp
    | true => rw [← m.hasLike_congr ha, h]; rfl

theorem symbolCount_push (m : Module) (s : Symbol) :
    (m.push s).symbolCount = m.symbolCount + if m.hasLike s then 0 else 1 := by
  cases h : m.hasLike s with
  | false => rw [push_of_not_hasLike h, symbolCount_append]; simp
  | true => rw [push_of_hasLike h]; simp

theorem hasLike_foldl_push (l : List Symbol) (m : Module) (s : Symbol) :
    (l.foldl push m).hasLike s = (m.hasLike s || l.any (·.alike s)) := by
  induction l generalizing m with
  | nil => simp
  | cons t l ih => rw [List.foldl_cons, ih, hasLike_push, List.any_cons, Bool.or_assoc]

theorem hasLike_foldl_push_of_mem {l : List Symbol} {s : Symbol} (h : s ∈ l) (m : Module) :
    (l.foldl push m).hasLike s = true := by
  have hany : l.any (·.alike s) = true := List.any_eq_true.mpr ⟨s, h, s.alike_refl⟩
  rw [hasLike_foldl_push, hany, Bool.or_true]

/-- **What a run of additions leaves.** A symbol is in the module afterwards if it
was there, or if the module had none like it and it is the first of its like that
was added. -/
theorem holds_foldl_push_iff (l : List Symbol) (m : Module) (s : Symbol) :
    (l.foldl push m).Holds s ↔
      m.Holds s ∨ m.hasLike s = false ∧ l.find? (·.alike s) = some s := by
  induction l generalizing m with
  | nil => simp
  | cons t l ih =>
    rw [List.foldl_cons, ih, List.find?_cons]
    cases ha : t.alike s with
    | true =>
      have hts := m.hasLike_congr ha
      cases h : m.hasLike t with
      | true =>
        -- both the module and the first symbol keep `s` out
        rw [push_of_hasLike h]
        simp [← hts, h]
      | false =>
        rw [push_of_not_hasLike h, holds_append, hasLike_append]
        simp [← hts, h, ha, eq_comm]
    | false =>
      have hne : s ≠ t := by
        rintro rfl
        rw [Symbol.alike_refl] at ha
        cases ha
      cases h : m.hasLike t with
      | true => rw [push_of_hasLike h]
      | false =>
        rw [push_of_not_hasLike h, holds_append, hasLike_append]
        simp [ha, hne]

end Module

end RefBook
