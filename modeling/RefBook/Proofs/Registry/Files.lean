import Mathlib.Data.List.Induction
import Mathlib.Data.List.Nodup
import RefBook.Proofs.Extract.Declared
import RefBook.Proofs.Registry.Lookup

/-! # The registry of a list of files

The files of a package are read one after the other, and each adds its module. A file can
be wrong in two ways: it does not yield a module, or its module has the name of an earlier
one. If no file is wrong, the registry has the modules of all files under their names and
the order of the files does not matter. Otherwise the first file that is wrong decides the
error, whichever way it is wrong. -/

namespace RefBook.Registry

variable {root : String} {files : List (String × List Char)} {file : String × List Char}
  {r : Registry}

def moduleNameOf (root : String) (file : String × List Char) : String :=
  Path.moduleName root file.1

/-- The module in a file, or why there is none. -/
def extractFile (root : String) (file : String × List Char) : Except Extract.Problem Module :=
  Extract.extract (moduleNameOf root file) file.1 file.2

/-- What is wrong with a file that comes after others. -/
def problemAfter? (root : String) (before : List (String × List Char))
    (file : String × List Char) : Option Extract.Problem :=
  match extractFile root file with
  | .error p => some p
  | .ok _ =>
    if moduleNameOf root file ∈ before.map (moduleNameOf root) then
      some (.duplicateModule (moduleNameOf root file))
    else none

/-- What is wrong with the file at a place in the list. -/
def problemAt? (root : String) (files : List (String × List Char)) (i : Nat) :
    Option Extract.Problem :=
  files[i]?.bind (problemAfter? root (files.take i))

/-- All files yield modules, and the registry has just these under their names. -/
structure MadeOf (root : String) (files : List (String × List Char)) (r : Registry) : Prop where
  extracts : ∀ file ∈ files, ∃ m, extractFile root file = .ok m
  get?_iff : ∀ name m, r.get? name = some m ↔
    ∃ file ∈ files, moduleNameOf root file = name ∧ extractFile root file = .ok m

theorem ofSources_concat (root : String) (files : List (String × List Char))
    (file : String × List Char) :
    ofSources root (files ++ [file]) =
      (ofSources root files).bind fun r => (extractFile root file).bind r.insert := by
  rw [ofSources, List.foldlM_append]
  refine congrArg (Except.bind (ofSources root files)) (funext fun r => ?_)
  rw [List.foldlM_cons]
  change ((extractFile root file).bind r.insert).bind _ = _
  cases (extractFile root file).bind r.insert <;> rfl

theorem problemAfter?_eq_none_iff :
    problemAfter? root files file = none ↔
      (∃ m, extractFile root file = .ok m) ∧
        moduleNameOf root file ∉ files.map (moduleNameOf root) := by
  unfold problemAfter?
  cases extractFile root file <;> simp

theorem MadeOf.contains_iff (hr : MadeOf root files r) (name : String) :
    r.contains name = true ↔ name ∈ files.map (moduleNameOf root) := by
  rw [contains, Dict.contains, Option.isSome_iff_exists, List.mem_map]
  constructor
  · rintro ⟨m, hm⟩
    obtain ⟨file, hfile, hname, _⟩ := (hr.get?_iff name m).mp hm
    exact ⟨file, hfile, hname⟩
  · rintro ⟨file, hfile, hname⟩
    obtain ⟨m, hm⟩ := hr.extracts file hfile
    exact ⟨m, (hr.get?_iff name m).mpr ⟨file, hfile, hname, hm⟩⟩

theorem MadeOf.insert_of_problem (hr : MadeOf root files r) {p : Extract.Problem}
    (h : problemAfter? root files file = some p) :
    (extractFile root file).bind r.insert = .error p := by
  unfold problemAfter? at h
  cases hm : extractFile root file with
  | error q =>
    rw [hm] at h
    cases h
    rfl
  | ok m =>
    rw [hm] at h
    have hname : m.name = moduleNameOf root file := Extract.name_of_extract hm
    simp only [Option.ite_none_right_eq_some, Option.some.injEq] at h
    obtain ⟨hmem, rfl⟩ := h
    rw [← hname, ← hr.contains_iff] at hmem
    rw [Except.bind, insert, if_pos hmem, hname]

theorem MadeOf.insert_of_no_problem (hr : MadeOf root files r)
    (h : problemAfter? root files file = none) :
    ∃ r', (extractFile root file).bind r.insert = .ok r' ∧ MadeOf root (files ++ [file]) r' := by
  obtain ⟨⟨m, hm⟩, hnew⟩ := problemAfter?_eq_none_iff.mp h
  have hname : m.name = moduleNameOf root file := Extract.name_of_extract hm
  rw [← hname, ← hr.contains_iff] at hnew
  refine ⟨r.set m, by rw [hm, Except.bind, insert, if_neg hnew], ?_, ?_⟩
  · intro other hother
    rcases List.mem_append.mp hother with hother | hother
    · exact hr.extracts other hother
    · rw [List.mem_singleton.mp hother]
      exact ⟨m, hm⟩
  · intro name m'
    rw [get?_set]
    simp only [List.mem_append, List.mem_singleton, or_and_right, exists_or, exists_eq_left]
    by_cases hkey : name = m.name
    · -- the name was free, so the new file is the only one that has it
      have hfree : r.get? name ≠ some m' := by
        intro hget
        apply hnew
        rw [← hkey, contains, Dict.contains, Option.isSome_iff_exists]
        exact ⟨m', hget⟩
      rw [if_pos hkey, ← hr.get?_iff, hm, ← hname, hkey]
      rw [hkey] at hfree
      simp [hfree]
    · rw [if_neg hkey, ← hr.get?_iff, ← hname]
      simp [Ne.symm hkey]

theorem problemAt?_concat_of_lt {i : Nat} (h : i < files.length) :
    problemAt? root (files ++ [file]) i = problemAt? root files i := by
  rw [problemAt?, problemAt?, List.getElem?_append_left h,
    List.take_append_of_le_length (Nat.le_of_lt h)]

theorem problemAt?_concat_length :
    problemAt? root (files ++ [file]) files.length = problemAfter? root files file := by
  simp [problemAt?]

theorem problemAt?_of_length_le {i : Nat} (h : files.length ≤ i) :
    problemAt? root files i = none := by
  rw [problemAt?, List.getElem?_eq_none h, Option.bind_none]

theorem problemAt?_concat_eq_none_iff :
    (∀ i, problemAt? root (files ++ [file]) i = none) ↔
      (∀ i, problemAt? root files i = none) ∧ problemAfter? root files file = none := by
  constructor
  · intro h
    refine ⟨fun i => ?_, problemAt?_concat_length ▸ h files.length⟩
    rcases Nat.lt_or_ge i files.length with hi | hi
    · exact problemAt?_concat_of_lt hi ▸ h i
    · exact problemAt?_of_length_le hi
  · rintro ⟨h, hfile⟩ i
    rcases Nat.lt_trichotomy i files.length with hi | rfl | hi
    · rw [problemAt?_concat_of_lt hi, h]
    · rw [problemAt?_concat_length, hfile]
    · exact problemAt?_of_length_le (by simpa using Nat.succ_le_of_lt hi)

/-- No file is wrong if all yield modules, of different names. -/
theorem problemAt?_eq_none_iff :
    (∀ i, problemAt? root files i = none) ↔
      (∀ file ∈ files, ∃ m, extractFile root file = .ok m) ∧
        (files.map (moduleNameOf root)).Nodup := by
  induction files using List.reverseRecOn with
  | nil => simp [problemAt?]
  | append_singleton files file ih =>
    rw [problemAt?_concat_eq_none_iff, ih, problemAfter?_eq_none_iff, List.forall_mem_append,
      List.forall_mem_singleton, List.map_append, List.map_singleton, ← List.concat_eq_append,
      List.nodup_concat, and_comm (a := moduleNameOf root file ∉ _)]
    exact and_and_and_comm

/-- Either no file is wrong, or the first that is wrong decides. -/
theorem ofSources_cases (root : String) (files : List (String × List Char)) :
    (∃ r, ofSources root files = .ok r ∧ MadeOf root files r ∧
      ∀ i, problemAt? root files i = none) ∨
    ∃ i p, ofSources root files = .error p ∧ problemAt? root files i = some p ∧
      ∀ j < i, problemAt? root files j = none := by
  induction files using List.reverseRecOn with
  | nil =>
    refine .inl ⟨empty, rfl, ⟨by simp, ?_⟩, by simp [problemAt?]⟩
    intro name m
    simp [get?, empty, Dict.get?, Dict.empty]
  | append_singleton files file ih =>
    rw [ofSources_concat]
    obtain ⟨r, hr, hmade, hnone⟩ | ⟨i, p, hr, hp, hfirst⟩ := ih
    · rw [hr, Except.bind]
      cases hfile : problemAfter? root files file with
      | none =>
        obtain ⟨r', hr', hmade'⟩ := hmade.insert_of_no_problem hfile
        exact .inl ⟨r', hr', hmade', problemAt?_concat_eq_none_iff.mpr ⟨hnone, hfile⟩⟩
      | some p =>
        refine .inr ⟨files.length, p, hmade.insert_of_problem hfile, ?_, ?_⟩
        · rw [problemAt?_concat_length, hfile]
        · intro j hj
          rw [problemAt?_concat_of_lt hj, hnone]
    · have hi : i < files.length := by
        by_contra hle
        rw [problemAt?_of_length_le (Nat.le_of_not_lt hle)] at hp
        cases hp
      refine .inr ⟨i, p, by rw [hr, Except.bind], ?_, ?_⟩
      · rw [problemAt?_concat_of_lt hi, hp]
      · intro j hj
        rw [problemAt?_concat_of_lt (Nat.lt_trans hj hi), hfirst j hj]

theorem madeOf_of_ofSources (h : ofSources root files = .ok r) : MadeOf root files r := by
  obtain ⟨r', hr, hmade, _⟩ | ⟨i, p, hr, _⟩ := ofSources_cases root files
  · rw [h] at hr
    cases hr
    exact hmade
  · rw [h] at hr
    cases hr

theorem exists_ofSources_iff :
    (∃ r, ofSources root files = .ok r) ↔ ∀ i, problemAt? root files i = none := by
  obtain ⟨r, hr, _, hnone⟩ | ⟨i, p, hr, hp, _⟩ := ofSources_cases root files
  · exact iff_of_true ⟨r, hr⟩ hnone
  · refine iff_of_false ?_ fun hnone => ?_
    · rintro ⟨r, hok⟩
      rw [hok] at hr
      cases hr
    · rw [hnone i] at hp
      cases hp

theorem ofSources_eq_error_iff {p : Extract.Problem} :
    ofSources root files = .error p ↔
      ∃ i, problemAt? root files i = some p ∧ ∀ j < i, problemAt? root files j = none := by
  obtain ⟨r, hr, _, hnone⟩ | ⟨i, q, hr, hq, hfirst⟩ := ofSources_cases root files
  · simp [hr, hnone]
  · rw [hr, Except.error.injEq]
    constructor
    · rintro rfl
      exact ⟨i, hq, hfirst⟩
    · rintro ⟨i', hp, hfirst'⟩
      -- of two places without an earlier problem neither is before the other
      have hi : i = i' := by
        rcases Nat.lt_trichotomy i i' with hlt | heq | hlt
        · rw [hfirst' i hlt] at hq
          cases hq
        · exact heq
        · rw [hfirst i' hlt] at hp
          cases hp
      rw [hi, hp] at hq
      exact (Option.some.inj hq).symm

/-- The same files make the same registry. -/
theorem MadeOf.unique {files' : List (String × List Char)} {r' : Registry}
    (hr : MadeOf root files r) (hr' : MadeOf root files' r')
    (h : ∀ file, file ∈ files' ↔ file ∈ files) : r' = r := by
  refine ext (Dict.ext_get? fun name => Option.ext fun m => ?_)
  change r'.get? name = some m ↔ r.get? name = some m
  simp only [hr.get?_iff, hr'.get?_iff, h]

/-- **A list of files makes a registry, or its first wrong file decides the error.** There
is a registry exactly if every file yields a module and the names of these differ. It then
has under each name the module of the file of that name, and nothing else, and the files
make it in every order. Otherwise the error is that of the first file that yields no
module, or whose module has the name of an earlier file. -/
theorem ofSources_registers_or_names_first_problem (root : String)
    (files : List (String × List Char)) :
    ((∃ r, ofSources root files = .ok r) ↔
      (∀ file ∈ files, ∃ m, extractFile root file = .ok m) ∧
        (files.map (moduleNameOf root)).Nodup) ∧
    (∀ r, ofSources root files = .ok r →
      (∀ name m, r.get? name = some m ↔
        ∃ file ∈ files, moduleNameOf root file = name ∧ extractFile root file = .ok m) ∧
      ∀ files', files'.Perm files → ofSources root files' = .ok r) ∧
    ∀ p, ofSources root files = .error p ↔
      ∃ i, problemAt? root files i = some p ∧ ∀ j < i, problemAt? root files j = none := by
  have hmakes : ∀ files, (∃ r, ofSources root files = .ok r) ↔
      (∀ file ∈ files, ∃ m, extractFile root file = .ok m) ∧
        (files.map (moduleNameOf root)).Nodup := by
    intro files
    rw [exists_ofSources_iff, problemAt?_eq_none_iff]
  refine ⟨hmakes files, ?_, fun p => ofSources_eq_error_iff⟩
  intro r hr
  have hmade := madeOf_of_ofSources hr
  refine ⟨hmade.get?_iff, ?_⟩
  intro files' hperm
  obtain ⟨hextracts, hnodup⟩ := (hmakes files).mp ⟨r, hr⟩
  obtain ⟨r', hr'⟩ := (hmakes files').mpr
    ⟨fun file hfile => hextracts file (hperm.mem_iff.mp hfile),
      (hperm.map _).nodup_iff.mpr hnodup⟩
  rw [hr', hmade.unique (madeOf_of_ofSources hr') fun _ => hperm.mem_iff]

/-- A package of two files, and what may come after them: a file that is found again, and
one with a result that is not read. -/
def rereadFiles : List (String × List Char) :=
  [("b.py", "x = 1".toList), ("__init__.py", []), ("./b.py", "y = 2".toList),
   ("a.py", "def f() -> g(): pass".toList)]

theorem rereadFiles_registered :
    (∃ r, ofSources "pkg" (rereadFiles.take 2) = .ok r ∧
      ofSources "pkg" (rereadFiles.take 2).reverse = .ok r ∧ r.contains "pkg.b" = true) ∧
    ofSources "pkg" rereadFiles = .error (.duplicateModule "pkg.b") ∧
    ofSources "pkg" rereadFiles.reverse =
      .error (.unsupportedReturn "pkg.a" "f" "Call") := by
  obtain ⟨hmakes, hmade, _⟩ := ofSources_registers_or_names_first_problem "pkg" (rereadFiles.take 2)
  obtain ⟨_, _, hagain⟩ := ofSources_registers_or_names_first_problem "pkg" rereadFiles
  obtain ⟨_, _, hresult⟩ := ofSources_registers_or_names_first_problem "pkg" rereadFiles.reverse
  have hextracts : ∀ file ∈ rereadFiles.take 2, ∃ m, extractFile "pkg" file = .ok m := by
    have hok : ∀ file ∈ rereadFiles.take 2, (extractFile "pkg" file).isOk = true := by
      decide +kernel
    intro file hfile
    cases hm : extractFile "pkg" file with
    | ok m => exact ⟨m, rfl⟩
    | error p =>
      have hfails := hok file hfile
      rw [hm] at hfails
      cases hfails
  obtain ⟨r, hr⟩ := hmakes.mpr ⟨hextracts, by decide +kernel⟩
  obtain ⟨hget, hperm⟩ := hmade r hr
  refine ⟨⟨r, hr, hperm _ (List.reverse_perm _), ?_⟩, ?_, ?_⟩
  · obtain ⟨m, hm⟩ := hextracts _ (.head _)
    exact Option.isSome_of_mem ((hget "pkg.b" m).mpr ⟨_, .head _, by decide +kernel, hm⟩)
  · exact (hagain _).mpr ⟨2, by decide +kernel, by decide +kernel⟩
  · exact (hresult _).mpr ⟨0, by decide +kernel, by simp⟩

end RefBook.Registry
