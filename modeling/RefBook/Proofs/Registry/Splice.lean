import RefBook.Proofs.Module.Push
import RefBook.Proofs.Registry.Lookup
import RefBook.Registry.Reexport

/-! # Splicing, module by module

`Registry.splice` goes through one list of additions to all modules. Each addition
touches one module only, so what becomes of a module is decided by the additions
to it alone, in their order; and the count that is returned is the number of
symbols by which the registry has grown. -/

namespace RefBook.Registry

/-- The symbols that a list of additions has for the module of that name. -/
def symbolsFor (name : String) (additions : List (String × Symbol)) : List Symbol :=
  additions.filterMap fun e => if e.1 = name then some e.2 else none

def symbolCount (r : Registry) : Nat := r.toList.foldr (fun m n => m.symbolCount + n) 0

theorem modules_push (r : Registry) (name : String) (s : Symbol) :
    (r.push name s).modules =
      r.modules.mapValues fun key m => if key = name then m.push s else m := rfl

theorem foldr_symbolCount_push {l : List (String × Module)}
    (hs : l.Pairwise fun a b => a.1 < b.1) (name : String) (s : Symbol) :
    l.foldr (fun e n => (if e.1 = name then e.2.push s else e.2).symbolCount + n) 0 =
      l.foldr (fun e n => e.2.symbolCount + n) 0 +
        ((l.find? (·.1 == name)).map fun e => if e.2.hasLike s then 0 else 1).getD 0 := by
  induction l with
  | nil => rfl
  | cons a l ih =>
    obtain ⟨ha, hl⟩ := List.pairwise_cons.mp hs
    rw [List.foldr_cons, List.foldr_cons, List.find?_cons, ih hl]
    by_cases hk : a.1 = name
    · -- the later modules have other names, and are left as they are
      have hrest : l.find? (·.1 == name) = none := by
        rw [List.find?_eq_none]
        intro e he
        have hlt := ha e he
        rw [hk] at hlt
        simpa using fun hn : e.1 = name => String.lt_irrefl name (hn ▸ hlt)
      rw [hrest, if_pos hk, Module.symbolCount_push]
      simp only [hk, beq_self_eq_true, Option.map_some, Option.map_none, Option.getD_some,
        Option.getD_none]
      omega
    · rw [if_neg hk]
      simp only [beq_eq_false_iff_ne.mpr hk]
      omega

/-- An addition makes the registry longer by one symbol or not at all. -/
theorem symbolCount_push (r : Registry) (name : String) (s : Symbol) :
    (r.push name s).symbolCount = r.symbolCount + if r.grows name s then 1 else 0 := by
  have h := foldr_symbolCount_push r.modules.sorted name s
  have hpush : (r.push name s).symbolCount = r.modules.entries.foldr
      (fun e n => (if e.1 = name then e.2.push s else e.2).symbolCount + n) 0 := by
    simp only [symbolCount, toList, Dict.values, modules_push, Dict.mapValues, List.foldr_map]
  have hold : r.symbolCount = r.modules.entries.foldr (fun e n => e.2.symbolCount + n) 0 := by
    simp only [symbolCount, toList, Dict.values, List.foldr_map]
  rw [hpush, h, hold]
  unfold grows get? Dict.get?
  cases r.modules.entries.find? (·.1 == name) with
  | none => rfl
  | some e => cases hl : e.2.hasLike s <;> simp [hl]

theorem foldl_splice (l : List (String × Symbol)) (r : Registry) (n : Nat) :
    l.foldl (fun (r, n) e => (r.push e.1 e.2, if r.grows e.1 e.2 then n + 1 else n)) (r, n) =
      ((r.splice l).1, n + (r.splice l).2) := by
  unfold splice
  induction l generalizing r n with
  | nil => rfl
  | cons e l ih =>
    simp only [List.foldl_cons]
    rw [ih, ih (r.push e.1 e.2) (if r.grows e.1 e.2 then 0 + 1 else 0)]
    cases r.grows e.1 e.2 <;> simp [Nat.add_assoc]

theorem splice_nil (r : Registry) : r.splice [] = (r, 0) := rfl

theorem splice_cons (r : Registry) (e : String × Symbol) (l : List (String × Symbol)) :
    r.splice (e :: l) = (((r.push e.1 e.2).splice l).1,
      (if r.grows e.1 e.2 then 1 else 0) + ((r.push e.1 e.2).splice l).2) := by
  rw [splice, List.foldl_cons, foldl_splice]

/-- **Additions act module by module.** After a list of additions each module holds
what the additions to it alone make of it. -/
theorem modules_splice (r : Registry) (l : List (String × Symbol)) :
    (r.splice l).1.modules =
      r.modules.mapValues fun key m => (symbolsFor key l).foldl Module.push m := by
  induction l generalizing r with
  | nil =>
    rw [splice_nil]
    simp [symbolsFor, Dict.mapValues]
  | cons e l ih =>
    rw [splice_cons, ih, modules_push, Dict.mapValues_mapValues]
    apply Dict.mapValues_congr
    intro a _
    by_cases hk : e.1 = a.1
    · simp [symbolsFor, hk]
    · simp [symbolsFor, hk, Ne.symm hk]

/-- **The count is the growth.** -/
theorem symbolCount_splice (r : Registry) (l : List (String × Symbol)) :
    (r.splice l).1.symbolCount = r.symbolCount + (r.splice l).2 := by
  induction l generalizing r with
  | nil => rfl
  | cons e l ih => rw [splice_cons, ih, symbolCount_push]; omega

theorem get?_splice (r : Registry) (l : List (String × Symbol)) (name : String) :
    (r.splice l).1.get? name =
      (r.get? name).map fun m => (symbolsFor name l).foldl Module.push m := by
  unfold get?
  rw [modules_splice, Dict.get?_mapValues]

theorem names_splice (r : Registry) (l : List (String × Symbol)) :
    (r.splice l).1.names = r.names := by
  unfold names
  rw [modules_splice, Dict.keys_mapValues]

/-- Two lists with the same additions to each registered module have the same
effect and the same count. -/
theorem splice_congr {r : Registry} {l l' : List (String × Symbol)}
    (h : ∀ m ∈ r.toList, symbolsFor m.name l = symbolsFor m.name l') :
    r.splice l = r.splice l' := by
  have hr : (r.splice l).1 = (r.splice l').1 := by
    apply Registry.ext
    rw [modules_splice, modules_splice]
    apply Dict.mapValues_congr
    intro e he
    have hm : e.2 ∈ r.toList := List.mem_map_of_mem he
    rw [r.named e he, h e.2 hm]
  have hc := symbolCount_splice r l
  rw [hr, symbolCount_splice r l'] at hc
  exact Prod.ext hr (by omega)

end RefBook.Registry
