/-! Dictionaries with text keys, held as a list in ascending order of the keys.
The list is determined by what is stored, so two dictionaries that answer every
look-up alike are equal. -/

namespace RefBook

structure Dict (α : Type) where
  entries : List (String × α)
  sorted : entries.Pairwise (fun a b => a.1 < b.1) := by simp

namespace Dict

variable {α β : Type}

/-- Stores `v` under `key` in an ascending list, in place of what is there. -/
def insertEntry (key : String) (v : α) : List (String × α) → List (String × α)
  | [] => [(key, v)]
  | (k, w) :: rest =>
    if key = k then (key, v) :: rest
    else if key < k then (key, v) :: (k, w) :: rest
    else (k, w) :: insertEntry key v rest

theorem mem_insertEntry {key : String} {v : α} {l : List (String × α)} {e : String × α}
    (h : e ∈ insertEntry key v l) : e = (key, v) ∨ e ∈ l := by
  induction l with
  | nil => simpa [insertEntry] using h
  | cons a l ih =>
    simp only [insertEntry] at h
    split at h
    · simp only [List.mem_cons] at h ⊢
      rcases h with h | h
      · exact .inl h
      · exact .inr (.inr h)
    · split at h
      · simpa using h
      · simp only [List.mem_cons] at h ⊢
        rcases h with h | h
        · exact .inr (.inl h)
        · rcases ih h with h | h
          · exact .inl h
          · exact .inr (.inr h)

theorem insertEntry_sorted (key : String) (v : α) {l : List (String × α)}
    (h : l.Pairwise fun a b => a.1 < b.1) :
    (insertEntry key v l).Pairwise fun a b => a.1 < b.1 := by
  induction l with
  | nil => simp [insertEntry]
  | cons a l ih =>
    rw [List.pairwise_cons] at h
    simp only [insertEntry]
    split
    · rename_i he
      rw [List.pairwise_cons]
      exact ⟨fun b hb => he ▸ h.1 b hb, h.2⟩
    · rename_i hne
      split
      · rename_i hlt
        refine List.pairwise_cons.2 ⟨?_, List.pairwise_cons.2 h⟩
        intro b hb
        rcases List.mem_cons.1 hb with rfl | hb
        · exact hlt
        · exact String.lt_trans hlt (h.1 b hb)
      · rename_i hlt
        refine List.pairwise_cons.2 ⟨?_, ih h.2⟩
        intro b hb
        rcases mem_insertEntry hb with rfl | hb
        · exact Std.lt_of_le_of_ne (String.not_lt.1 hlt) (Ne.symm hne)
        · exact h.1 b hb

def empty : Dict α := ⟨[], by simp⟩

instance : EmptyCollection (Dict α) := ⟨empty⟩

instance : Inhabited (Dict α) := ⟨empty⟩

def insert (d : Dict α) (key : String) (v : α) : Dict α :=
  ⟨insertEntry key v d.entries, insertEntry_sorted key v d.sorted⟩

def get? (d : Dict α) (key : String) : Option α :=
  (d.entries.find? (·.1 == key)).map (·.2)

def contains (d : Dict α) (key : String) : Bool := (d.get? key).isSome

def keys (d : Dict α) : List String := d.entries.map (·.1)

def values (d : Dict α) : List α := d.entries.map (·.2)

def size (d : Dict α) : Nat := d.entries.length

def isEmpty (d : Dict α) : Bool := d.entries.isEmpty

theorem find?_insertEntry (key k : String) (v : α) (l : List (String × α)) :
    ((insertEntry key v l).find? (·.1 == k)).map (·.2) =
      if k = key then some v else (l.find? (·.1 == k)).map (·.2) := by
  induction l with
  | nil =>
    by_cases h : k = key
    · simp [insertEntry, h]
    · simp [insertEntry, h, Ne.symm h]
  | cons a l ih =>
    simp only [insertEntry]
    split
    · rename_i ha
      by_cases h : k = key
      · simp [h]
      · simp [h, Ne.symm h, ← ha]
    · split
      · by_cases h : k = key
        · simp [h]
        · simp [h, Ne.symm h]
      · rename_i hne _
        by_cases h : a.1 = k
        · have hk : k ≠ key := fun e => hne (e ▸ h.symm)
          simp [h, hk]
        · simpa [h] using ih

/-- After an insertion the key has the new value, and the others have what they had. -/
theorem get?_insert (d : Dict α) (key k : String) (v : α) :
    (d.insert key v).get? k = if k = key then some v else d.get? k :=
  find?_insertEntry key k v d.entries

/-- Applies `f` to each value, which may look at its key. -/
def mapValues (f : String → α → β) (d : Dict α) : Dict β :=
  ⟨d.entries.map fun e => (e.1, f e.1 e.2), by
    simpa [List.pairwise_map] using d.sorted⟩

/-- The dictionary of a list of pairs; of two pairs with one key the later counts. -/
def ofList (l : List (String × α)) : Dict α := l.foldl (fun d e => d.insert e.1 e.2) empty

/-- Adds the entries of `newer`, which win over those of `d`. -/
def merge (d newer : Dict α) : Dict α := newer.entries.foldl (fun d e => d.insert e.1 e.2) d

end Dict

end RefBook
