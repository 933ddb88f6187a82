import Mathlib.Data.List.Induction
import Mathlib.Data.List.Perm.Subperm
import SourcePress.Proofs.Collection

/-!
# Sets of imports under union

An `ImportSet` is collected by inserting imports one after the other, and an import whose path is
there already is dropped.  What is left of a list are the imports whose path does not occur before
them (`toList_ofList`), and merging puts behind one set what the other has of new paths
(`toList_merge`).

Whether a list is collected as a whole or in two parts makes no difference (`ofList_append`), since
an import that is dropped inside the second part is dropped behind the first part as well
(`extend_toList_extend`).  Merging therefore inherits its laws from the concatenation of lists.  It
is not commutative: the order of the imports changes, and if the two sets ask for different names of
one package, so does the name.  The second is the only thing that `sameImports` can see
(`sameImports_merge_iff`).
-/

namespace SourcePress

namespace ImportSet

theorem ext_toList {s t : ImportSet} (h : s.toList = t.toList) : s = t := by
  cases s
  cases t
  cases h
  rfl

/-! ## First occurrences -/

/-- The imports of a list whose path does not occur earlier in the list, in order. -/
def firstOccurrences (imports : List Import) : List Import :=
  (imports.zipIdx.filter fun p => p.1.path ∉ (imports.take p.2).map Import.path).map Prod.fst

theorem firstOccurrences_concat (imports : List Import) (i : Import) :
    firstOccurrences (imports ++ [i]) =
      if i.path ∈ imports.map Import.path then firstOccurrences imports
      else firstOccurrences imports ++ [i] := by
  -- what stands before an import of the shorter list is the same in both
  have hfront : (imports.zipIdx.filter fun p =>
      p.1.path ∉ ((imports ++ [i]).take p.2).map Import.path) =
        imports.zipIdx.filter fun p => p.1.path ∉ (imports.take p.2).map Import.path := by
    refine List.filter_congr fun p hp => ?_
    have hk : p.2 < imports.length := by simpa using List.snd_lt_of_mem_zipIdx hp
    rw [List.take_append_of_le_length (Nat.le_of_lt hk)]
  have hlast : (imports ++ [i]).take imports.length = imports := List.take_left
  rw [firstOccurrences, List.zipIdx_append, List.filter_append, hfront, List.map_append,
    ← firstOccurrences, List.zipIdx_singleton, Nat.zero_add, List.filter_singleton, hlast]
  by_cases h : i.path ∈ imports.map Import.path
  · simp [h]
  · simp [h]

/-- **A collected set has the first import of every path**, in the order of the list. -/
theorem toList_ofList (imports : List Import) :
    (ofList imports).toList = firstOccurrences imports := by
  induction imports using List.reverseRecOn with
  | nil => rfl
  | append_singleton rest i ih =>
    have hinsert : ofList (rest ++ [i]) = ((ofList rest).insert i).2 :=
      extend_append empty rest [i]
    have hpaths : i.path ∈ (ofList rest).paths ↔ i.path ∈ rest.map Import.path := by
      rw [mem_paths_ofList, List.mem_map]
    rw [hinsert, toList_insert, firstOccurrences_concat, ih]
    simp only [hpaths]

/-! ## Collecting in parts -/

theorem extend_toList_insert (s t : ImportSet) (i : Import) :
    s.extend (t.insert i).2.toList = ((s.extend t.toList).insert i).2 := by
  by_cases h : i.path ∈ t.paths
  · have hmem : i.path ∈ (s.extend t.toList).paths :=
      mem_paths_extend.mpr (Or.inr (mem_paths_iff.mp h))
    rw [insert_of_mem h, insert_of_mem hmem]
  · rw [toList_insert, if_neg h, extend_append]
    rfl

/-- What a set has dropped is dropped behind any other set as well. -/
theorem extend_toList_extend (s t : ImportSet) (imports : List Import) :
    s.extend (t.extend imports).toList = (s.extend t.toList).extend imports := by
  induction imports generalizing t with
  | nil => rfl
  | cons i rest ih => rw [extend_cons, ih, extend_toList_insert, extend_cons]

/-- **Collecting in two parts** is merging what is collected from each. -/
theorem ofList_append (xs ys : List Import) : ofList (xs ++ ys) = (ofList xs).merge (ofList ys) :=
  calc ofList (xs ++ ys) = (ofList xs).extend ys := extend_append empty xs ys
    _ = (ofList xs).extend (ofList ys).toList :=
      (extend_toList_extend (ofList xs) empty ys).symm

theorem merge_assoc (s t u : ImportSet) : (s.merge t).merge u = s.merge (t.merge u) :=
  (extend_toList_extend s t u.toList).symm

theorem ofStatements_append (xs ys : List Statement) :
    ofStatements (xs ++ ys) = (ofStatements xs).merge (ofStatements ys) := by
  rw [ofStatements_eq_ofList, List.flatMap_append, ofList_append, ofStatements_eq_ofList,
    ofStatements_eq_ofList]

/-! ## The list of a merged set -/

/-- Imports with distinct paths are inserted unless their path was there from the beginning. -/
theorem toList_extend_of_nodup {s : ImportSet} {imports : List Import}
    (h : (imports.map Import.path).Nodup) :
    (s.extend imports).toList = s.toList ++ imports.filter (·.path ∉ s.paths) := by
  induction imports generalizing s with
  | nil => simp
  | cons i rest ih =>
    rw [List.map_cons, List.nodup_cons] at h
    rw [extend_cons, ih h.2, toList_insert]
    by_cases hi : i.path ∈ s.paths
    · rw [insert_of_mem hi, if_pos hi, List.filter_cons_of_neg (by simpa using hi)]
    · have hrest : rest.filter (·.path ∉ (s.insert i).2.paths) =
          rest.filter (·.path ∉ s.paths) := by
        refine List.filter_congr fun j hj => ?_
        have hne : j.path ≠ i.path := fun e => h.1 (e ▸ List.mem_map_of_mem hj)
        simp [mem_paths_insert, hne]
      rw [if_neg hi, hrest, List.filter_cons_of_pos (by simpa using hi), List.append_assoc]
      rfl

/-- **Merging puts the imports of new paths behind those that are there.** -/
theorem toList_merge (s t : ImportSet) :
    (s.merge t).toList = s.toList ++ t.toList.filter (·.path ∉ s.paths) :=
  toList_extend_of_nodup t.nodup

theorem mem_toList_merge {s t : ImportSet} {i : Import} :
    i ∈ (s.merge t).toList ↔ i ∈ s.toList ∨ i ∈ t.toList ∧ i.path ∉ s.paths := by
  rw [toList_merge, List.mem_append, List.mem_filter, decide_eq_true_iff]

theorem mem_paths_of_mem {s : ImportSet} {i : Import} (h : i ∈ s.toList) : i.path ∈ s.paths :=
  List.mem_map_of_mem h

theorem merge_self (s : ImportSet) : s.merge s = s := by
  refine ext_toList ?_
  have hnone : s.toList.filter (·.path ∉ s.paths) = [] :=
    List.filter_eq_nil_iff.mpr fun i hi => by simpa using mem_paths_of_mem hi
  rw [toList_merge, hnone, List.append_nil]

theorem empty_merge (s : ImportSet) : empty.merge s = s := by
  refine ext_toList ?_
  rw [toList_merge]
  simp [paths]

/-! ## Sets with the same imports -/

theorem eq_of_path_eq {s : ImportSet} {i j : Import} (hi : i ∈ s.toList) (hj : j ∈ s.toList)
    (h : i.path = j.path) : i = j :=
  List.inj_on_of_nodup_map s.nodup hi hj h

theorem get?_eq_some_iff {s : ImportSet} {path : String} {i : Import} :
    s.get? path = some i ↔ i ∈ s.toList ∧ i.path = path := by
  constructor
  · intro h
    exact ⟨List.mem_of_find?_eq_some h, by simpa using List.find?_some h⟩
  · rintro ⟨hi, rfl⟩
    have hfound : (s.get? i.path).isSome := List.find?_isSome.mpr ⟨i, hi, by simp⟩
    obtain ⟨j, hj⟩ := Option.isSome_iff_exists.mp hfound
    have hpath : j.path = i.path := by simpa using List.find?_some hj
    rw [hj, eq_of_path_eq (List.mem_of_find?_eq_some hj) hi hpath]

/-- **Two sets are taken for the same exactly when they have the same members.** -/
theorem sameImports_iff {s t : ImportSet} :
    s.sameImports t = true ↔ ∀ i, i ∈ s.toList ↔ i ∈ t.toList := by
  have hs : s.toList.Nodup := s.nodup.of_map
  have ht : t.toList.Nodup := t.nodup.of_map
  rw [sameImports, Bool.and_eq_true, beq_iff_eq, List.all_eq_true]
  simp only [beq_iff_eq, get?_eq_some_iff, and_true]
  constructor
  · rintro ⟨hsize, hsub⟩
    -- a set that holds another one of its size holds nothing else
    have hperm : s.toList.Perm t.toList :=
      (List.subperm_of_subset hs hsub).perm_of_length_le (Nat.le_of_eq hsize.symm)
    exact fun i => hperm.mem_iff
  · intro h
    have hperm : s.toList.Perm t.toList := (List.perm_ext_iff_of_nodup hs ht).mpr h
    exact ⟨hperm.length_eq, fun i hi => (h i).mp hi⟩

/-- Imports of one path ask for the same name in both lists. -/
def AgreeOnNames (xs ys : List Import) : Prop :=
  ∀ i ∈ xs, ∀ j ∈ ys, i.path = j.path → i.asName = j.asName

instance (xs ys : List Import) : Decidable (AgreeOnNames xs ys) :=
  inferInstanceAs (Decidable (∀ i ∈ xs, ∀ j ∈ ys, i.path = j.path → i.asName = j.asName))

theorem AgreeOnNames.symm {xs ys : List Import} (h : AgreeOnNames xs ys) : AgreeOnNames ys xs :=
  fun j hj i hi hpath => (h i hi j hj hpath.symm).symm

theorem mem_merge_of_agree {s t : ImportSet} (h : AgreeOnNames s.toList t.toList) {i : Import}
    (hi : i ∈ (s.merge t).toList) : i ∈ (t.merge s).toList := by
  rcases mem_toList_merge.mp hi with hi | ⟨hi, -⟩
  · by_cases hpath : i.path ∈ t.paths
    · obtain ⟨j, hj, hji⟩ := mem_paths_iff.mp hpath
      have hij : i = j := Import.ext hji.symm (h i hi j hj hji.symm)
      exact mem_toList_merge.mpr (Or.inl (hij ▸ hj))
    · exact mem_toList_merge.mpr (Or.inr ⟨hi, hpath⟩)
  · exact mem_toList_merge.mpr (Or.inl hi)

/-- **Merging commutes, up to order, exactly if the sets ask for the same names.** -/
theorem sameImports_merge_iff {s t : ImportSet} :
    (s.merge t).sameImports (t.merge s) = true ↔ AgreeOnNames s.toList t.toList := by
  rw [sameImports_iff]
  constructor
  · intro h i hi j hj hpath
    have hmem : i ∈ (t.merge s).toList := (h i).mp (mem_toList_merge.mpr (Or.inl hi))
    rcases mem_toList_merge.mp hmem with hmem | ⟨-, hnew⟩
    · rw [eq_of_path_eq hmem hj hpath]
    · exact absurd (hpath ▸ mem_paths_of_mem hj) hnew
  · intro h i
    exact ⟨mem_merge_of_agree h, mem_merge_of_agree h.symm⟩

theorem mem_of_mem_ofList {imports : List Import} {i : Import} (h : i ∈ (ofList imports).toList) :
    i ∈ imports := by
  rw [toList_ofList, firstOccurrences] at h
  obtain ⟨p, hp, rfl⟩ := List.mem_map.mp h
  exact List.fst_mem_of_mem_zipIdx (List.mem_filter.mp hp).1

/-- **The first import of a path wins.**  A collected set has distinct paths in order of first
occurrence, each with the name that its first import asks for.  Collecting a concatenation is
merging the two collected sets, and merging is associative and idempotent, with the empty set as
identity.  If two lists ask for the same names, the order of merging is of no account to
`sameImports`; for sets this condition is also necessary.  The imports of statements are collected in
the same way, and a registry cannot tell a collected set from the list that it was collected
from. -/
theorem first_import_wins :
    (∀ imports, (ofList imports).paths.Nodup ∧
      (ofList imports).toList = firstOccurrences imports) ∧
    (∀ xs ys, ofList (xs ++ ys) = (ofList xs).merge (ofList ys)) ∧
    (∀ s t u : ImportSet, (s.merge t).merge u = s.merge (t.merge u) ∧ s.merge s = s ∧
      empty.merge s = s ∧ s.merge empty = s) ∧
    (∀ xs ys, AgreeOnNames xs ys →
      ((ofList xs).merge (ofList ys)).sameImports ((ofList ys).merge (ofList xs)) = true) ∧
    (∀ s t : ImportSet,
      (s.merge t).sameImports (t.merge s) = true ↔ AgreeOnNames s.toList t.toList) ∧
    (∀ xs ys, ofStatements (xs ++ ys) = (ofStatements xs).merge (ofStatements ys)) ∧
    ∀ (r : Registry) imports, r.registerAll (ofList imports).toList = r.registerAll imports := by
  refine ⟨fun imports => ⟨(ofList imports).nodup, toList_ofList imports⟩, ofList_append, ?_, ?_,
    fun s t => sameImports_merge_iff, ofStatements_append, Registry.registerAll_toList_ofList⟩
  · intro s t u
    exact ⟨merge_assoc s t u, merge_self s, empty_merge s, rfl⟩
  · intro xs ys h
    refine sameImports_merge_iff.mpr fun i hi j hj hpath => ?_
    exact h i (mem_of_mem_ofList hi) j (mem_of_mem_ofList hj) hpath

/-- Imports of which one comes twice, and one asks for a name. -/
def repeatedImports : List Import :=
  [⟨"bakery/rye", none, by decide +kernel⟩, ⟨"bakery/oat", some "flakes", by decide +kernel⟩,
    ⟨"bakery/rye", none, by decide +kernel⟩]

/-- Imports of which one is also in `repeatedImports`, with the same name. -/
def overlappingImports : List Import :=
  [⟨"cellar/malt", none, by decide +kernel⟩, ⟨"bakery/oat", some "flakes", by decide +kernel⟩]

/-- The order of merging can be told from the lists, but not by `sameImports`. -/
theorem repeatedImports_merge_overlappingImports :
    AgreeOnNames repeatedImports overlappingImports ∧
      ((ofList repeatedImports).merge (ofList overlappingImports)).paths =
        ["bakery/rye", "bakery/oat", "cellar/malt"] ∧
      ((ofList overlappingImports).merge (ofList repeatedImports)).paths =
        ["cellar/malt", "bakery/oat", "bakery/rye"] ∧
      ((ofList repeatedImports).merge (ofList overlappingImports)).sameImports
        ((ofList overlappingImports).merge (ofList repeatedImports)) = true := by
  have hagree : AgreeOnNames repeatedImports overlappingImports := by decide +kernel
  obtain ⟨-, -, -, hcommute, -⟩ := first_import_wins
  exact ⟨hagree, by decide +kernel, by decide +kernel, hcommute _ _ hagree⟩

end ImportSet

end SourcePress
