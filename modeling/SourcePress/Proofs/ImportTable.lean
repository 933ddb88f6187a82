import SourcePress.Proofs.Naming
import SourcePress.SourceFile

/-!
# The import table of a registry

A registry lists its packages as imports (`Registry.imports`), and an import is printed with a name
only if it asks for one.  What a reader of the printed file sees is a table of entries: a path, and
the name that the file knows the package by.  `ImportEntry` is such an entry, and `ImportEntry.line`
the line it is printed as.

The table of a consistent registry has one entry for each registered path, and the name is the token
of the path (`Registry.Consistent.map_ofImport_imports`).  Sorting the table by path makes the paths
strictly increasing, because no two entries have the same path (`pairwise_lt_sortImports`), and does
not change what a path is called (`Registry.Consistent.nameOf?_sortedEntries`).

The table says all there is to know about the tokens.  Its imports differ in their paths and in the
tokens that they prefer, and none is the home path, so each of them gets the token that it prefers,
whatever is registered before it (`Registry.resolved_registerAll_of_nodup`).  Registering the table
in any order gives every path its token back (`Registry.imports_encode_registry`).
-/

namespace SourcePress

/-- An entry of an import section: a package, and the name that the file knows it by. -/
structure ImportEntry where
  path : String
  name : String
deriving DecidableEq, Repr

namespace ImportEntry

/-- The line of an entry.  The name is left out if it is the one that the path suggests. -/
def line (entry : ImportEntry) : String :=
  if entry.name = defaultToken entry.path then "\"" ++ entry.path ++ "\""
  else entry.name ++ " \"" ++ entry.path ++ "\""

/-- The entry that an import is printed as. -/
def ofImport (i : Import) : ImportEntry := ⟨i.path, i.preferredToken⟩

/-- The name that a list of entries gives to a path. -/
def nameOf? (entries : List ImportEntry) (path : String) : Option String :=
  (entries.find? (·.path = path)).map name

theorem line_ne_empty (entry : ImportEntry) : entry.line ≠ "" := by
  intro h
  have hlist := congrArg String.toList h
  unfold line at hlist
  split at hlist
  · simp at hlist
  · simp at hlist

/-- An import that does not ask for the name it has anyway is printed as its entry. -/
theorem importLine_eq_line {i : Import} (h : i.asName ≠ some i.defaultToken) :
    SourceFile.importLine i = (ofImport i).line := by
  rw [SourceFile.importLine, line, ofImport, Import.preferredToken]
  cases hname : i.asName with
  | none => exact (if_pos rfl).symm
  | some name =>
    rw [hname] at h
    exact (if_neg fun e => h (congrArg some e)).symm

theorem nameOf?_eq_none_iff {entries : List ImportEntry} {path : String} :
    nameOf? entries path = none ↔ path ∉ entries.map ImportEntry.path := by
  simp [nameOf?]

theorem exists_mem_of_mem_paths {entries : List ImportEntry} {path : String}
    (h : path ∈ entries.map ImportEntry.path) :
    ∃ entry ∈ entries, entry.path = path ∧ nameOf? entries path = some entry.name := by
  cases hfind : entries.find? (·.path = path) with
  | none => exact absurd h (nameOf?_eq_none_iff.mp (by rw [nameOf?, hfind, Option.map_none]))
  | some entry =>
    refine ⟨entry, List.mem_of_find?_eq_some hfind, by simpa using List.find?_some hfind, ?_⟩
    rw [nameOf?, hfind, Option.map_some]

/-- With distinct paths, the name of a path is the one in its entry. -/
theorem nameOf?_eq_some_of_mem {entries : List ImportEntry}
    (hnodup : (entries.map ImportEntry.path).Nodup) {entry : ImportEntry} (hmem : entry ∈ entries) :
    nameOf? entries entry.path = some entry.name := by
  obtain ⟨found, hfound, hpath, hname⟩ := exists_mem_of_mem_paths (List.mem_map_of_mem hmem)
  rw [hname, List.inj_on_of_nodup_map hnodup hfound hmem hpath]

end ImportEntry

/-! ## The imports of a registry -/

namespace Registry

/-- The table of a registry, in order of registration. -/
def entries (r : Registry) : List ImportEntry := r.resolved.map fun e => ⟨e.1, e.2⟩

@[simp] theorem map_path_entries (r : Registry) : r.entries.map ImportEntry.path = r.paths :=
  List.map_map

@[simp] theorem map_name_entries (r : Registry) : r.entries.map ImportEntry.name = r.tokens :=
  List.map_map

theorem lookup_map_defaultToken {entries : List (String × String)} {path : String}
    (h : path ∈ entries.map Prod.fst) :
    (entries.map fun entry => (entry.1, defaultToken entry.1)).lookup path =
      some (defaultToken path) := by
  induction entries with
  | nil => cases h
  | cons entry rest ih =>
    rw [List.map_cons, List.lookup_cons]
    by_cases he : path = entry.1
    · rw [he, beq_self_eq_true]
    · rw [beq_false_of_ne he]
      rw [List.map_cons, List.mem_cons] at h
      exact ih (h.resolve_left he)

/-- The suggested token of a registered path is on record. -/
theorem Consistent.lookup_defaults {r : Registry} (h : r.Consistent) {path : String}
    (hpath : path ∈ r.paths) : r.defaults.lookup path = some (defaultToken path) := by
  rw [h.defaults_eq]
  exact lookup_map_defaultToken hpath

/-- The import that an entry of a consistent registry is listed as: its preferred token is the token
of the entry, and it asks for this name only if the path suggests another one. -/
theorem Consistent.exists_import {r : Registry} (h : r.Consistent) {path token : String}
    (hmem : (path, token) ∈ r.resolved) :
    ∃ i : Import, (match Import.ofPath path with
        | .error _ => none
        | .ok i =>
          if r.defaults.lookup path = some token then some i
          else some (i.withName token)) = some i ∧
      i.path = path ∧ i.preferredToken = token ∧ i.asName ≠ some i.defaultToken := by
  have hpath : path ∈ r.paths := List.mem_map_of_mem hmem
  have hok : Import.ofPath path = .ok ⟨path, none, h.valid path hpath⟩ :=
    Import.ofPath_eq_ok_iff.mpr ⟨rfl, rfl⟩
  rw [hok]
  dsimp only
  rw [h.lookup_defaults hpath]
  by_cases htoken : defaultToken path = token
  · rw [if_pos (congrArg some htoken)]
    exact ⟨_, rfl, rfl, htoken, nofun⟩
  · rw [if_neg fun e => htoken (Option.some.inj e)]
    refine ⟨_, rfl, rfl, rfl, fun e => htoken ?_⟩
    exact (Option.some.inj e).symm

/-- **The import table**: one import for each registered path, in order of registration, with the
token of the path as its preferred token. -/
theorem Consistent.map_ofImport_imports {r : Registry} (h : r.Consistent) :
    r.imports.map ImportEntry.ofImport = r.entries := by
  rw [imports, entries, List.map_filterMap, ← List.filterMap_eq_map']
  refine List.filterMap_congr fun e he => ?_
  obtain ⟨i, hi, hpath, htoken, -⟩ := h.exists_import he
  refine (congrArg (Option.map ImportEntry.ofImport) hi).trans ?_
  rw [Option.map_some, ImportEntry.ofImport, hpath, htoken]

theorem Consistent.asName_ne {r : Registry} (h : r.Consistent) {i : Import}
    (hi : i ∈ r.imports) : i.asName ≠ some i.defaultToken := by
  obtain ⟨e, he, heq⟩ := List.mem_filterMap.mp hi
  obtain ⟨i', hi', -, -, hname⟩ := h.exists_import he
  have hii : some i' = some i := hi'.symm.trans heq
  rw [← Option.some.inj hii]
  exact hname

end Registry

/-! ## Registering the table again -/

namespace Registry

/-- Imports with new paths and free tokens, no two of them alike, are entered as they are. -/
theorem resolved_registerAll_of_nodup {r : Registry} {imports : List Import}
    (hhome : ∀ i ∈ imports, r.home ≠ some i.path)
    (hpaths : (r.paths ++ imports.map Import.path).Nodup)
    (htokens : (r.taken ++ imports.map Import.preferredToken).Nodup) :
    (r.registerAll imports).resolved =
      r.resolved ++ imports.map fun i => (i.path, i.preferredToken) := by
  induction imports generalizing r with
  | nil => simp
  | cons i rest ih =>
    obtain ⟨hi, hrest⟩ := List.forall_mem_cons.mp hhome
    rw [List.map_cons] at hpaths htokens
    have hnew : i.path ∉ r.paths := fun hmem =>
      (List.nodup_cons.mp (List.nodup_middle.mp hpaths)).1 (List.mem_append_left _ hmem)
    have hfree : i.preferredToken ∉ r.taken := fun hmem =>
      (List.nodup_cons.mp (List.nodup_middle.mp htokens)).1 (List.mem_append_left _ hmem)
    have hregister : (r.register i).2 = r.add i.path i.preferredToken := by
      rw [register_of_token?_eq_none hi (token?_eq_none_iff.mpr hnew), freeToken_of_notMem hfree]
    -- the first import joins the entries, and the others are new beside it as well
    rw [List.append_cons] at hpaths htokens
    rw [registerAll_cons, hregister, List.map_cons, List.append_cons]
    refine ih hrest ?_ htokens
    rw [paths_add]
    exact hpaths

section Consistent

variable {r : Registry} (h : r.Consistent)

include h

theorem Consistent.map_imports :
    r.imports.map (fun i => (i.path, i.preferredToken)) = r.resolved := by
  have hentries := congrArg (List.map fun e : ImportEntry => (e.path, e.name))
    h.map_ofImport_imports
  rw [entries, List.map_map, List.map_map] at hentries
  exact hentries.trans (List.map_id _)

theorem Consistent.map_path_imports : r.imports.map Import.path = r.paths := by
  rw [paths, ← h.map_imports, List.map_map]
  rfl

theorem Consistent.map_preferredToken_imports :
    r.imports.map Import.preferredToken = r.tokens := by
  rw [tokens, ← h.map_imports, List.map_map]
  rfl

/-- A listed import asks for no name exactly if the token of its path is the suggested one. -/
theorem Consistent.asName_eq_none_iff {i : Import} (hi : i ∈ r.imports) :
    i.asName = none ↔ r.token? i.path = some (defaultToken i.path) := by
  have hmem : (i.path, i.preferredToken) ∈ r.resolved := by
    rw [← h.map_imports]
    exact List.mem_map_of_mem hi
  rw [h.token?_eq_some_iff.mpr hmem, Import.preferredToken]
  cases hname : i.asName with
  | none => exact ⟨fun _ => rfl, fun _ => rfl⟩
  | some name =>
    constructor
    · intro e
      cases e
    · intro e
      exact absurd (hname.trans e) (h.asName_ne hi)

/-- Registries with the same entries give the same tokens, whatever the order of the entries. -/
theorem Consistent.token?_eq_of_perm {r' : Registry} (h' : r'.Consistent)
    (hperm : r'.resolved.Perm r.resolved) (path : String) : r'.token? path = r.token? path := by
  ext token
  rw [h'.token?_eq_some_iff, h.token?_eq_some_iff, hperm.mem_iff]

/-- The table registered in any order, by a unit that is not in it. -/
theorem Consistent.resolved_registerAll_of_perm {home : Option String}
    (hhome : ∀ path ∈ r.paths, home ≠ some path) {listed : List Import}
    (hlisted : listed.Perm r.imports) :
    ((ofHome home).registerAll listed).resolved =
      listed.map fun i => (i.path, i.preferredToken) := by
  have hpaths : (listed.map Import.path).Perm r.paths := by
    rw [← h.map_path_imports]
    exact hlisted.map Import.path
  have htokens : (listed.map Import.preferredToken).Perm r.tokens := by
    rw [← h.map_preferredToken_imports]
    exact hlisted.map Import.preferredToken
  refine resolved_registerAll_of_nodup (fun i hi => ?_) (hpaths.nodup_iff.mpr h.paths_nodup)
    (htokens.nodup_iff.mpr h.tokens_nodup)
  exact hhome i.path (hpaths.mem_iff.mp (List.mem_map_of_mem hi))

end Consistent

/-- **The import table encodes the registry.**  After every run, the table has one import for each
entry, in the order of the entries, which prefers the token of the entry and asks for a name only if
the token is not the suggested one.  A new registry of the same unit, or of none, in which the table
is registered in any order, gives every path the same token; in the order of the table, it has the
same entries. -/
theorem imports_encode_registry (home : Option String) (calls : List Call) :
    let r := (ofHome home).run calls
    r.imports.map (fun i => (i.path, i.preferredToken)) = r.resolved ∧
      (r.imports.map Import.path).Nodup ∧
      (∀ i ∈ r.imports, i.asName = none ↔
        r.token? i.path = some (defaultToken i.path)) ∧
      ∀ home', home' = home ∨ home' = none →
        (∀ listed : List Import, listed.Perm r.imports →
          ∀ path, ((ofHome home').registerAll listed).token? path = r.token? path) ∧
        ((ofHome home').registerAll r.imports).resolved = r.resolved := by
  intro r
  have hr : r.Consistent := (consistent_ofHome home).run calls
  have hhome : r.home = home := home_run home calls
  refine ⟨hr.map_imports, ?_, fun i hi => hr.asName_eq_none_iff hi, ?_⟩
  · rw [hr.map_path_imports]
    exact hr.paths_nodup
  · intro home' hhome'
    have hnotMem : ∀ path ∈ r.paths, home' ≠ some path := by
      intro path hpath
      rcases hhome' with rfl | rfl
      · rw [← hhome]
        exact hr.home_notMem path hpath
      · exact (Option.some_ne_none path).symm
    refine ⟨fun listed hlisted path => ?_, ?_⟩
    · have hregistered := (consistent_ofHome home').registerAll listed
      refine hr.token?_eq_of_perm hregistered ?_ path
      rw [hr.resolved_registerAll_of_perm hnotMem hlisted, ← hr.map_imports]
      exact hlisted.map _
    · rw [hr.resolved_registerAll_of_perm hnotMem (List.Perm.refl _), hr.map_imports]

end Registry

/-! ## Sorting by path -/

namespace Text

/-- The order of texts is the lexicographic order of their characters. -/
theorem lt_of_atMost_of_ne : ∀ {as bs : List Char}, atMost as bs = true → as ≠ bs → as < bs
  | [], [], _, hne => absurd rfl hne
  | [], _ :: _, _, _ => List.nil_lt_cons _ _
  | _ :: _, [], h, _ => by simp [atMost] at h
  | a :: as, b :: bs, h, hne => by
    rw [atMost] at h
    rw [List.cons_lt_cons_iff]
    by_cases hlt : a.toNat < b.toNat
    · exact Or.inl hlt
    · rw [if_neg hlt] at h
      by_cases hgt : b.toNat < a.toNat
      · rw [if_pos hgt] at h
        cases h
      · rw [if_neg hgt] at h
        have hab : a = b := Char.toNat_inj.mp (by omega)
        subst hab
        exact Or.inr ⟨rfl, lt_of_atMost_of_ne h fun e => hne (congrArg _ e)⟩

end Text

namespace SourceFile

theorem sortImports_perm (imports : List Import) : (sortImports imports).Perm imports :=
  List.mergeSort_perm _ _

theorem sortImports_pair {i j : Import} (h : Text.atMost i.path.toList j.path.toList = false) :
    sortImports [i, j] = [j, i] := by
  simp [sortImports, List.mergeSort, h]

/-- Imports with distinct paths are in strictly increasing order of their paths after sorting. -/
theorem pairwise_lt_sortImports {imports : List Import}
    (hnodup : (imports.map Import.path).Nodup) :
    ((sortImports imports).map Import.path).Pairwise (· < ·) := by
  have htrans : ∀ a b c : Import, Text.atMost a.path.toList b.path.toList = true →
      Text.atMost b.path.toList c.path.toList = true →
      Text.atMost a.path.toList c.path.toList = true := fun _ _ _ hab hbc =>
    Text.atMost_trans hab hbc
  have htotal : ∀ a b : Import, (Text.atMost a.path.toList b.path.toList ||
      Text.atMost b.path.toList a.path.toList) = true := fun a b =>
    Bool.or_eq_true_iff.mpr (Text.atMost_total _ _)
  have hle : (sortImports imports).Pairwise fun a b =>
      Text.atMost a.path.toList b.path.toList = true :=
    List.pairwise_mergeSort htrans htotal imports
  have hne : ((sortImports imports).map Import.path).Pairwise (· ≠ ·) :=
    ((sortImports_perm imports).map Import.path).nodup_iff.mpr hnodup
  rw [List.pairwise_map] at hne ⊢
  refine (hle.and hne).imp fun {a b} hab => ?_
  exact Text.lt_of_atMost_of_ne hab.1 fun e => hab.2 (String.toList_inj.mp e)

end SourceFile

/-! ## The sorted table -/

namespace Registry

/-- The table of a registry as it is printed: the entries of its imports, sorted by path. -/
def sortedEntries (r : Registry) : List ImportEntry :=
  (SourceFile.sortImports r.imports).map ImportEntry.ofImport

section Consistent

variable {r : Registry} (h : r.Consistent)

include h

theorem Consistent.sortedEntries_perm : r.sortedEntries.Perm r.entries := by
  rw [← h.map_ofImport_imports]
  exact (SourceFile.sortImports_perm _).map _

theorem Consistent.paths_sortedEntries_perm :
    (r.sortedEntries.map ImportEntry.path).Perm r.paths := by
  rw [← map_path_entries]
  exact h.sortedEntries_perm.map ImportEntry.path

theorem Consistent.pairwise_lt_sortedEntries :
    (r.sortedEntries.map ImportEntry.path).Pairwise (· < ·) := by
  rw [sortedEntries, List.map_map]
  refine SourceFile.pairwise_lt_sortImports ?_
  rw [h.map_path_imports]
  exact h.paths_nodup

theorem Consistent.nodup_names_sortedEntries :
    (r.sortedEntries.map ImportEntry.name).Nodup := by
  rw [(h.sortedEntries_perm.map ImportEntry.name).nodup_iff, map_name_entries]
  exact h.tokens_nodup

/-- **The sorted table names a known path as the registry does.** -/
theorem Consistent.nameOf?_sortedEntries {path : String} (hk : r.Knows path) :
    ImportEntry.nameOf? r.sortedEntries path = r.qualifier? path := by
  by_cases hhome : r.home = some path
  · rw [qualifier?_of_home hhome, ImportEntry.nameOf?_eq_none_iff,
      h.paths_sortedEntries_perm.mem_iff]
    exact fun hmem => h.home_notMem path hmem hhome
  · obtain ⟨token, htoken⟩ := exists_token?_of_mem_paths (hk.resolve_left hhome)
    have hentry : (⟨path, token⟩ : ImportEntry) ∈ r.sortedEntries :=
      h.sortedEntries_perm.mem_iff.mpr (List.mem_map_of_mem (mem_resolved_of_token? htoken))
    rw [qualifier?_of_token? hhome htoken]
    exact ImportEntry.nameOf?_eq_some_of_mem
      (h.paths_sortedEntries_perm.nodup_iff.mpr h.paths_nodup) hentry

end Consistent

end Registry

end SourcePress
