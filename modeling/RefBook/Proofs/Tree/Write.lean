import RefBook.Proofs.Outcome
import RefBook.Proofs.Path.Names
import RefBook.Tree

/-! # Files written into one directory

A write changes one file and no directory, so paths lead afterwards where they led
before. Two files in one directory are the same only if they have the same name: what is
written to one of them can be read there, and the other one is left as it is. -/

namespace RefBook

namespace Path

theorem IsName.not_absolute {name : String} (h : IsName name) : isAbsolute name = false := by
  unfold isAbsolute
  rw [beq_eq_false_iff_ne]
  exact fun he => h.no_slash (List.mem_of_head? he)

theorem IsName.toList_ne_nil {name : String} (h : IsName name) : name.toList ≠ [] :=
  fun he => h.ne_empty (String.toList_eq_nil_iff.mp he)

/-- A slash stands between a directory and a name, unless the path of the directory is
empty or ends in one. -/
theorem IsName.join_cases {name : String} (h : IsName name) (dir : String) :
    (dir = "" ∧ join dir name = name) ∨
      (∃ d, dir = d ++ "/" ∧ join dir name = d ++ "/" ++ name) ∨
      (dir ≠ "" ∧ join dir name = dir ++ "/" ++ name) := by
  unfold join
  rw [h.not_absolute, Bool.false_or]
  by_cases hdir : dir = ""
  · exact .inl ⟨hdir, by simp [hdir]⟩
  rw [if_neg (by simpa using hdir)]
  by_cases hslash : dir.toList.getLast? = some '/'
  · obtain ⟨d, hd⟩ := List.getLast?_eq_some_iff.mp hslash
    have hdir' : dir = String.ofList d ++ "/" := by
      rw [← String.toList_inj, hd]
      simp
    exact .inr (.inl ⟨String.ofList d, hdir', by simp [hslash, ← hdir']⟩)
  · exact .inr (.inr ⟨hdir, by simp [hslash]⟩)

theorem isAbsolute_append {dir : String} (h : dir ≠ "") (rest : String) :
    isAbsolute (dir ++ rest) = isAbsolute dir := by
  have hne : dir.toList ≠ [] := fun he => h (String.toList_eq_nil_iff.mp he)
  unfold isAbsolute
  rw [String.toList_append, List.head?_append, List.head?_eq_some_head hne, Option.some_or]

theorem stepsBelow_slash (dir : String) : stepsBelow (dir ++ "/") = stepsBelow dir := by
  have h := stepsBelow_append dir ""
  rwa [String.append_empty, show stepsBelow "" = [] from rfl, List.append_nil] at h

/-- The way to a file in a directory is the way to the directory and one step more. -/
theorem IsName.allSteps_join {name : String} (h : IsName name) (dir : String) :
    allSteps (join dir name) = allSteps dir ++ [.down name] := by
  rw [allSteps_eq, allSteps_eq, List.append_assoc]
  obtain ⟨rfl, hj⟩ | ⟨d, rfl, hj⟩ | ⟨hdir, hj⟩ := h.join_cases dir
  · rw [hj, h.not_absolute, h.stepsBelow]
    rfl
  · rw [hj, isAbsolute_append (by simp), stepsBelow_append, stepsBelow_slash, h.stepsBelow]
  · rw [hj, String.append_assoc, isAbsolute_append hdir, ← String.append_assoc,
      stepsBelow_append, h.stepsBelow]

/-- Such a path ends in the name. -/
theorem IsName.join_eq_append {name : String} (h : IsName name) (dir : String) :
    ∃ before, join dir name = before ++ name := by
  obtain ⟨rfl, hj⟩ | ⟨d, rfl, hj⟩ | ⟨_, hj⟩ := h.join_cases dir
  · exact ⟨"", by rw [hj, String.empty_append]⟩
  · exact ⟨d ++ "/", hj⟩
  · exact ⟨dir ++ "/", hj⟩

theorem IsName.join_ne_empty {name : String} (h : IsName name) (dir : String) :
    (join dir name).isEmpty = false := by
  obtain ⟨before, hj⟩ := h.join_eq_append dir
  rw [hj, ← Bool.not_eq_true, String.isEmpty_iff]
  exact fun he => h.ne_empty (String.append_eq_empty_iff.mp he).2

theorem IsName.join_names_file {name : String} (h : IsName name) (dir : String) :
    Tree.namesDirectory (join dir name) = false := by
  obtain ⟨before, hj⟩ := h.join_eq_append dir
  unfold Tree.namesDirectory
  rw [hj, beq_eq_false_iff_ne, String.toList_append, List.getLast?_append,
    List.getLast?_eq_some_getLast h.toList_ne_nil, Option.some_or]
  intro he
  exact h.no_slash (Option.some.inj he ▸ List.getLast_mem h.toList_ne_nil)

end Path

/-- Names without slashes are kept as they are. -/
theorem Base.place_ofPlace {place : Place} (h : ∀ name ∈ place, '/' ∉ name.toList) :
    (Base.ofPlace place).place = place := by
  induction place with
  | nil => rfl
  | cons name place ih =>
    rw [List.forall_mem_cons] at h
    have hcons : (Base.ofPlace (name :: place)).place =
        (Text.splitOn '/' name.toList).map String.ofList ++ (Base.ofPlace place).place := rfl
    rw [hcons, ih h.2, Text.splitOn_of_not_mem h.1, List.map_singleton, String.ofList_toList,
      List.singleton_append]

namespace Tree

open RefBook.Path (IsName)

theorem walk_append (t : Tree) (place : Place) (steps more : List Path.Step) :
    t.walk place (steps ++ more) = (t.walk place steps).bind (t.walk · more) := by
  induction steps generalizing place with
  | nil => rfl
  | cons s steps ih =>
    simp only [List.cons_append, walk]
    split
    · rfl
    · rfl
    · exact ih _

/-- One step down leads somewhere exactly from a directory. -/
theorem walk_down_eq_ok {t : Tree} {dir place : Place} {name : String} :
    t.walk dir [.down name] = .ok place ↔
      t.node? dir = some .directory ∧ place = dir ++ [name] := by
  simp only [walk, move]
  split
  · simp_all
  · simp_all
  · simp_all [eq_comm]

/-- Where steps lead does not change as long as directories stay. -/
theorem walk_of_directories {t t' : Tree}
    (h : ∀ place, t.node? place = some .directory → t'.node? place = some .directory)
    {steps : List Path.Step} {place dir : Place} (hw : t.walk place steps = .ok dir) :
    t'.walk place steps = .ok dir := by
  induction steps generalizing place with
  | nil => exact hw
  | cons s steps ih =>
    simp only [walk] at hw ⊢
    split at hw
    · cases hw
    · cases hw
    · rename_i hp
      rw [h _ hp]
      exact ih hw

theorem key_concat_inj {dir : Place} {a b : String} :
    key (dir ++ [a]) = key (dir ++ [b]) ↔ a = b := by
  constructor
  · intro h
    by_cases hd : dir = []
    · simpa [key, hd] using h
    · unfold key at h
      rw [String.intercalate_append_of_ne_nil hd (List.cons_ne_nil _ _),
        String.intercalate_append_of_ne_nil hd (List.cons_ne_nil _ _)] at h
      simpa using h
  · rintro rfl
    rfl

theorem node?_concat (t : Tree) (dir : Place) (name : String) :
    t.node? (dir ++ [name]) = t.nodes.get? (key (dir ++ [name])) := by
  simp [node?]

theorem node?_set_concat (t : Tree) (dir : Place) (a b : String) (n : Node) :
    (t.set (dir ++ [a]) n).node? (dir ++ [b]) = if b = a then some n else t.node? (dir ++ [b]) := by
  rw [node?_concat, node?_concat, set, Dict.get?_insert]
  simp only [key_concat_inj]

/-- A file does not take the place of a directory. -/
theorem node?_set_of_directory {t : Tree} {place dir : Place} {n : Node} (hne : place ≠ [])
    (hplace : t.node? place ≠ some .directory) (hdir : t.node? dir = some .directory) :
    (t.set place n).node? dir = some .directory := by
  unfold node? at hplace hdir ⊢
  by_cases hd : dir = []
  · simp [hd]
  · have hp : place.isEmpty = false := by simpa using hne
    have hd' : dir.isEmpty = false := by simpa using hd
    rw [hp] at hplace
    rw [hd'] at hdir ⊢
    simp only [Bool.false_eq_true, if_false] at hplace hdir ⊢
    rw [set, Dict.get?_insert, if_neg]
    · exact hdir
    · intro he
      exact hplace (he ▸ hdir)

/-- Writing a file in a directory succeeds exactly if the directory is there and the
file is none itself. -/
theorem write_join_eq_ok {t t' : Tree} {out name text : String} (hn : IsName name) :
    t.write (Path.join out name) text = .ok t' ↔
      ∃ dir, t.walk t.base.place (Path.allSteps out) = .ok dir ∧ t.node? dir = some .directory ∧
        t.node? (dir ++ [name]) ≠ some .directory ∧
        t' = t.set (dir ++ [name]) (.file (some text)) := by
  unfold write
  rw [hn.allSteps_join, walk_append, hn.join_ne_empty, hn.join_names_file]
  cases hw : t.walk t.base.place (Path.allSteps out) with
  | error f => simp [Except.bind, bind]
  | ok dir =>
    simp only [Except.bind, bind, Except.ok.injEq, exists_eq_left']
    by_cases hd : t.node? dir = some .directory
    · have hplace : t.walk dir [.down name] = .ok (dir ++ [name]) :=
        walk_down_eq_ok.mpr ⟨hd, rfl⟩
      by_cases hfile : t.node? (dir ++ [name]) = some .directory
      · simp [hplace, hd, hfile]
      · simp only [hplace, hd, hfile, pure, Except.pure, Bool.or_false, beq_iff_eq,
          Bool.false_eq_true, if_false, Except.ok.injEq, true_and, ne_eq, not_false_eq_true]
        exact eq_comm
    · cases hplace : t.walk dir [.down name] with
      | error f => simp [hd]
      | ok place => exact absurd (walk_down_eq_ok.mp hplace).1 hd

/-- What can be read where that is. -/
def textOf : Option Node → Except Fault String
  | none => .error .notFound
  | some .directory => .error .isDirectory
  | some (.file none) => .error .notText
  | some (.file (some text)) => .ok text

theorem read_join {t : Tree} {out name : String} {dir : Place} (hn : IsName name)
    (hw : t.walk t.base.place (Path.allSteps out) = .ok dir) (hd : t.node? dir = some .directory) :
    t.read (Path.join out name) = textOf (t.node? (dir ++ [name])) := by
  have hplace : t.walk dir [.down name] = .ok (dir ++ [name]) := walk_down_eq_ok.mpr ⟨hd, rfl⟩
  unfold read find
  rw [hn.allSteps_join, walk_append, hn.join_ne_empty, hn.join_names_file, hw]
  simp only [Except.bind, bind, hplace]
  rcases t.node? (dir ++ [name]) with _ | _ | _ | text <;> rfl

/-- The directory that a file was written into is still there. -/
theorem directory_of_write {t t' : Tree} {out name text : String} (hn : IsName name)
    (h : t.write (Path.join out name) text = .ok t') :
    ∃ dir, (t.walk t.base.place (Path.allSteps out) = .ok dir ∧ t.node? dir = some .directory) ∧
      (t'.walk t'.base.place (Path.allSteps out) = .ok dir ∧ t'.node? dir = some .directory) ∧
      t' = t.set (dir ++ [name]) (.file (some text)) := by
  obtain ⟨dir, hw, hd, hfile, rfl⟩ := (write_join_eq_ok hn).mp h
  have hkept : ∀ place, t.node? place = some .directory →
      (t.set (dir ++ [name]) (.file (some text))).node? place = some .directory :=
    fun place => node?_set_of_directory (by simp) hfile
  exact ⟨dir, ⟨hw, hd⟩, ⟨walk_of_directories hkept hw, hkept dir hd⟩, rfl⟩

/-- What was written to a file can be read there. -/
theorem read_of_write {t t' : Tree} {out name text : String} (hn : IsName name)
    (h : t.write (Path.join out name) text = .ok t') :
    t'.read (Path.join out name) = .ok text := by
  obtain ⟨dir, _, ⟨hw, hd⟩, ht⟩ := directory_of_write hn h
  rw [read_join hn hw hd, ht, node?_set_concat, if_pos rfl, textOf]

/-- The other files of the directory are as they were. -/
theorem read_of_write_other {t t' : Tree} {out name other text : String} (hn : IsName name)
    (ho : IsName other) (hne : other ≠ name)
    (h : t.write (Path.join out name) text = .ok t') :
    t'.read (Path.join out other) = t.read (Path.join out other) := by
  obtain ⟨dir, ⟨hw, hd⟩, ⟨hw', hd'⟩, ht⟩ := directory_of_write hn h
  rw [read_join ho hw' hd', read_join ho hw hd, ht, node?_set_concat, if_neg hne]

/-- Writes files one after the other, each given by its path and its text. -/
def writeAll (t : Tree) (files : List (String × String)) : Except Fault Tree :=
  files.foldlM (fun t file => t.write file.1 file.2) t

theorem writeAll_cons_eq_ok {t t' : Tree} {file : String × String}
    {files : List (String × String)} :
    t.writeAll (file :: files) = .ok t' ↔
      ∃ t₁, t.write file.1 file.2 = .ok t₁ ∧ t₁.writeAll files = .ok t' := by
  unfold writeAll
  rw [List.foldlM_cons, bind_eq_ok]

theorem writeAll_append_eq_ok {t t' : Tree} {files more : List (String × String)} :
    t.writeAll (files ++ more) = .ok t' ↔
      ∃ t₁, t.writeAll files = .ok t₁ ∧ t₁.writeAll more = .ok t' := by
  unfold writeAll
  rw [List.foldlM_append, bind_eq_ok]

/-- A file is left as it is by writes to others in its directory. -/
theorem read_of_writeAll_others {t t' : Tree} {out name : String}
    {files : List (String × String)} (hn : IsName name)
    (hfiles : ∀ file ∈ files, ∃ other, IsName other ∧ name ≠ other ∧ file.1 = Path.join out other)
    (h : t.writeAll files = .ok t') :
    t'.read (Path.join out name) = t.read (Path.join out name) := by
  induction files generalizing t with
  | nil =>
    cases h
    rfl
  | cons file files ih =>
    rw [List.forall_mem_cons] at hfiles
    obtain ⟨t₁, hfirst, hrest⟩ := writeAll_cons_eq_ok.mp h
    obtain ⟨other, ho, hne, hpath⟩ := hfiles.1
    rw [hpath] at hfirst
    rw [ih hfiles.2 hrest, read_of_write_other ho hn hne hfirst]

/-- Of what is written to a file the last stays. -/
theorem read_of_writeAll {t t' : Tree} {out name text : String}
    {before after : List (String × String)} (hn : IsName name)
    (hafter : ∀ file ∈ after, ∃ other, IsName other ∧ name ≠ other ∧ file.1 = Path.join out other)
    (h : t.writeAll (before ++ (Path.join out name, text) :: after) = .ok t') :
    t'.read (Path.join out name) = .ok text := by
  obtain ⟨t₁, _, h₁⟩ := writeAll_append_eq_ok.mp h
  obtain ⟨t₂, hwrite, hrest⟩ := writeAll_cons_eq_ok.mp h₁
  rw [read_of_writeAll_others hn hafter hrest, read_of_write hn hwrite]

/-- Files can be written into a directory that is there, as long as none of them is a
directory itself. -/
theorem exists_writeAll {t : Tree} {out : String} {dir : Place}
    {files : List (String × String)} (hw : t.walk t.base.place (Path.allSteps out) = .ok dir)
    (hd : t.node? dir = some .directory)
    (hfiles : ∀ file ∈ files, ∃ name, IsName name ∧ file.1 = Path.join out name ∧
      t.node? (dir ++ [name]) ≠ some .directory) : ∃ t', t.writeAll files = .ok t' := by
  induction files generalizing t with
  | nil => exact ⟨t, rfl⟩
  | cons file files ih =>
    rw [List.forall_mem_cons] at hfiles
    obtain ⟨name, hn, hpath, hfree⟩ := hfiles.1
    have hwrite : t.write (Path.join out name) file.2 =
        .ok (t.set (dir ++ [name]) (.file (some file.2))) :=
      (write_join_eq_ok hn).mpr ⟨dir, hw, hd, hfree, rfl⟩
    obtain ⟨dir', ⟨hsame, _⟩, ⟨hw', hd'⟩, _⟩ := directory_of_write hn hwrite
    cases hw.symm.trans hsame
    have hrest : ∀ f ∈ files, ∃ n, IsName n ∧ f.1 = Path.join out n ∧
        (t.set (dir ++ [name]) (.file (some file.2))).node? (dir ++ [n]) ≠ some .directory := by
      intro f hf
      obtain ⟨n, hname, hp, hnode⟩ := hfiles.2 f hf
      refine ⟨n, hname, hp, ?_⟩
      rw [node?_set_concat]
      split
      · simp
      · exact hnode
    obtain ⟨t', ht'⟩ := ih hw' hd' hrest
    exact ⟨t', writeAll_cons_eq_ok.mpr ⟨_, hpath ▸ hwrite, ht'⟩⟩

end Tree

end RefBook
