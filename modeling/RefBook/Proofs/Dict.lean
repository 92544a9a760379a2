import RefBook.Dict

/-! # Dictionaries as what they answer

A dictionary lists no key twice, so it answers with the one entry that it lists under a
key, and two dictionaries with the same answers are equal. -/

namespace RefBook

namespace Dict

variable {α β : Type}

theorem find?_key_iff {l : List (String × α)} (hs : l.Pairwise fun a b => a.1 < b.1)
    (key : String) (v : α) :
    (l.find? (·.1 == key)).map (·.2) = some v ↔ (key, v) ∈ l := by
  induction l with
  | nil => simp
  | cons a l ih =>
    obtain ⟨ha, hl⟩ := List.pairwise_cons.mp hs
    rw [List.find?_cons, List.mem_cons]
    by_cases hk : a.1 = key
    · have hnot : (key, v) ∉ l := fun hm =>
        String.lt_irrefl key (hk ▸ ha (key, v) hm)
      simp only [hk, beq_self_eq_true, Option.map_some, Option.some.injEq, hnot, or_false]
      constructor
      · intro hv; rw [← hk, ← hv]
      · intro he; rw [← he]
    · have hne : (key, v) ≠ a := fun he => hk (by rw [← he])
      simp only [beq_eq_false_iff_ne.mpr hk, ih hl, hne, false_or]

/-- What is found under a key is what the dictionary lists there. -/
theorem get?_eq_some_iff (d : Dict α) (key : String) (v : α) :
    d.get? key = some v ↔ (key, v) ∈ d.entries :=
  find?_key_iff d.sorted key v

theorem entries_nodup (d : Dict α) : d.entries.Nodup := by
  refine d.sorted.imp ?_
  rintro a b hlt rfl
  exact String.lt_irrefl a.1 hlt

/-- Two dictionaries that answer every look-up alike are equal. -/
theorem ext_get? {d d' : Dict α} (h : ∀ key, d.get? key = d'.get? key) : d = d' := by
  have hperm : d.entries.Perm d'.entries := by
    rw [List.perm_ext_iff_of_nodup d.entries_nodup d'.entries_nodup]
    intro e
    rw [← get?_eq_some_iff d e.1 e.2, ← get?_eq_some_iff d' e.1 e.2, h]
  have hentries : d.entries = d'.entries :=
    hperm.eq_of_pairwise (fun a _ _ _ hab hba =>
      absurd (String.lt_trans hab hba) (String.lt_irrefl a.1)) d.sorted d'.sorted
  cases d
  cases d'
  cases hentries
  rfl

theorem find?_key_of_forall_lt {l : List (String × α)} {key : String} (h : ∀ a ∈ l, key < a.1) :
    l.find? (·.1 == key) = none := by
  rw [List.find?_eq_none]
  intro a ha he
  have hlt := h a ha
  rw [beq_iff_eq.mp he] at hlt
  exact String.lt_irrefl _ hlt

/-- Of several insertions under distinct keys, at most one concerns a given key. -/
theorem get?_foldl_insert {l : List (String × α)} (hs : l.Pairwise fun a b => a.1 < b.1)
    (d : Dict α) (key : String) :
    (l.foldl (fun d e => d.insert e.1 e.2) d).get? key =
      ((l.find? (·.1 == key)).map (·.2) <|> d.get? key) := by
  induction l generalizing d with
  | nil => rfl
  | cons a l ih =>
    obtain ⟨ha, hl⟩ := List.pairwise_cons.mp hs
    rw [List.foldl_cons, ih hl, get?_insert, List.find?_cons]
    by_cases hk : key = a.1
    · rw [hk, find?_key_of_forall_lt ha, if_pos rfl, beq_self_eq_true]
      rfl
    · rw [if_neg hk, beq_false_of_ne (Ne.symm hk)]

/-- What is merged in wins over what was there. -/
theorem get?_merge (d newer : Dict α) (key : String) :
    (d.merge newer).get? key = (newer.get? key <|> d.get? key) :=
  get?_foldl_insert newer.sorted d key

theorem insertEntry_perm {key : String} {l : List (String × α)} (h : ∀ e ∈ l, e.1 ≠ key)
    (v : α) : (insertEntry key v l).Perm ((key, v) :: l) := by
  induction l with
  | nil => exact .refl _
  | cons a l ih =>
    rw [List.forall_mem_cons] at h
    rw [insertEntry, if_neg (Ne.symm h.1)]
    split
    · exact .refl _
    · exact ((ih h.2).cons a).trans (.swap (key, v) a l)

theorem foldl_insert_perm {l : List (String × α)} (hkeys : (l.map (·.1)).Nodup) (d : Dict α)
    (h : ∀ e ∈ d.entries, e.1 ∉ l.map (·.1)) :
    (l.foldl (fun d e => d.insert e.1 e.2) d).entries.Perm (d.entries ++ l) := by
  induction l generalizing d with
  | nil => rw [List.append_nil]; exact .refl _
  | cons a l ih =>
    rw [List.map_cons, List.nodup_cons] at hkeys
    have hnew : (d.insert a.1 a.2).entries.Perm (a :: d.entries) :=
      insertEntry_perm (fun e he heq => h e he (heq ▸ List.mem_cons_self)) a.2
    have hdistinct : ∀ e ∈ (d.insert a.1 a.2).entries, e.1 ∉ l.map (·.1) := by
      intro e he
      obtain rfl | he := List.mem_cons.mp (hnew.subset he)
      · exact hkeys.1
      · exact fun hm => h e he (List.mem_cons_of_mem _ hm)
    rw [List.foldl_cons]
    refine (ih hkeys.2 _ hdistinct).trans ((hnew.append_right l).trans ?_)
    exact List.perm_middle.symm

/-- Pairs under distinct keys are the entries of their dictionary. -/
theorem entries_ofList_perm {l : List (String × α)} (h : (l.map (·.1)).Nodup) :
    (ofList l).entries.Perm l :=
  foldl_insert_perm h empty (List.forall_mem_nil _)

theorem contains_iff (d : Dict α) (key : String) : d.contains key = true ↔ key ∈ d.keys := by
  unfold contains keys
  rw [Option.isSome_iff_exists, List.mem_map]
  constructor
  · rintro ⟨v, hv⟩
    exact ⟨(key, v), (d.get?_eq_some_iff key v).mp hv, rfl⟩
  · rintro ⟨⟨k, v⟩, hm, rfl⟩
    exact ⟨v, (d.get?_eq_some_iff k v).mpr hm⟩

theorem get?_mapValues (f : String → α → β) (d : Dict α) (key : String) :
    (d.mapValues f).get? key = (d.get? key).map (f key) := by
  unfold get? mapValues
  rw [List.find?_map, Option.map_map, Option.map_map]
  cases h : d.entries.find? (·.1 == key) with
  | none => simp [Function.comp_def, h]
  | some e =>
    have hk : e.1 = key := by simpa using List.find?_some h
    simp [Function.comp_def, h, hk]

@[simp] theorem keys_mapValues (f : String → α → β) (d : Dict α) :
    (d.mapValues f).keys = d.keys := by
  simp [keys, mapValues, Function.comp_def]

theorem mapValues_mapValues {γ : Type} (f : String → α → β) (g : String → β → γ) (d : Dict α) :
    (d.mapValues f).mapValues g = d.mapValues fun key v => g key (f key v) := by
  simp [mapValues, Function.comp_def]

/-- Two functions that agree on what is stored make the same dictionary. -/
theorem mapValues_congr {f g : String → α → β} {d : Dict α}
    (h : ∀ e ∈ d.entries, f e.1 e.2 = g e.1 e.2) : d.mapValues f = d.mapValues g := by
  unfold mapValues
  congr 1
  exact List.map_congr_left fun e he => by rw [h e he]

end Dict

end RefBook
