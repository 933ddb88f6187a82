import SourcePress.Proofs.RegistryRun
import SourcePress.TypeRef

/-!
# Names of types, and when they are final

The text of a reference to a type depends on the registry only through the tokens of the packages
that it mentions.  `TypeRef.spell` makes that visible: it prints a reference under any assignment of
tokens to paths, and `TypeRef.text` is the case where the assignment is that of a registry.

A registry *knows* a path when the path is the home path or has an entry.  What a known path is
called never changes again, whatever is registered later (`Extends.qualifier?_eq`).  So a reference
whose packages are all known has its final text (`TypeRef.text_eq_of_extends`).

A path that is not known is called what it would be if it were registered next, without asking for a
name.  `register` and `qualifier?` choose this token each for itself, and they choose the same one
(`register_fst`); in particular no other package has it
(`Registry.qualifier?_agrees_with_register`).

For this the packages that a reference mentions in its text must be among those that it asks to
register.  That holds of every reference that is built from names, pointers, slices and maps
(`TypeRef.isPlain`); a reference that the caller describes may mention one package and ask for
another.
-/

namespace SourcePress

/-! ## Paths of import sets -/

namespace ImportSet

theorem mem_paths_insert {s : ImportSet} {i : Import} {path : String} :
    path ∈ (s.insert i).2.paths ↔ path ∈ s.paths ∨ path = i.path := by
  by_cases h : i.path ∈ s.paths
  · rw [insert_of_mem h]
    constructor
    · exact Or.inl
    · rintro (hp | rfl)
      · exact hp
      · exact h
  · rw [paths, toList_insert, if_neg h, List.map_append, List.mem_append, paths]
    simp

theorem mem_paths_extend {s : ImportSet} {imports : List Import} {path : String} :
    path ∈ (s.extend imports).paths ↔ path ∈ s.paths ∨ ∃ i ∈ imports, i.path = path := by
  induction imports generalizing s with
  | nil => simp
  | cons i rest ih =>
    rw [extend_cons, ih, mem_paths_insert, or_assoc, eq_comm]
    simp

theorem mem_paths_iff {s : ImportSet} {path : String} :
    path ∈ s.paths ↔ ∃ i ∈ s.toList, i.path = path := by
  rw [paths, List.mem_map]

/-- Merging two sets joins their paths. -/
theorem mem_paths_merge {s t : ImportSet} {path : String} :
    path ∈ (s.merge t).paths ↔ path ∈ s.paths ∨ path ∈ t.paths := by
  rw [merge, mem_paths_extend, ← mem_paths_iff]

theorem mem_paths_ofList {imports : List Import} {path : String} :
    path ∈ (ofList imports).paths ↔ ∃ i ∈ imports, i.path = path := by
  rw [ofList, mem_paths_extend]
  simp [paths]

end ImportSet

/-! ## Known paths -/

namespace Registry

/-- The path is the unit itself, or has an entry. -/
def Knows (r : Registry) (path : String) : Prop := r.home = some path ∨ path ∈ r.paths

instance (r : Registry) (path : String) : Decidable (r.Knows path) :=
  inferInstanceAs (Decidable (r.home = some path ∨ path ∈ r.paths))

theorem qualifier?_of_home {r : Registry} {path : String} (h : r.home = some path) :
    r.qualifier? path = none := by
  rw [qualifier?, if_pos (isHome_eq_true_iff.mpr h)]

theorem qualifier?_of_token? {r : Registry} {path token : String} (hhome : r.home ≠ some path)
    (htoken : r.token? path = some token) : r.qualifier? path = some token := by
  rw [qualifier?, if_neg (fun h => hhome (isHome_eq_true_iff.mp h)), htoken]

theorem qualifier?_of_token?_eq_none {r : Registry} {path : String} (hhome : r.home ≠ some path)
    (htoken : r.token? path = none) :
    r.qualifier? path = some (r.freeToken (defaultToken path)) := by
  rw [qualifier?, if_neg (fun h => hhome (isHome_eq_true_iff.mp h)), htoken]

theorem exists_token?_of_mem_paths {r : Registry} {path : String} (h : path ∈ r.paths) :
    ∃ token, r.token? path = some token := by
  refine Option.ne_none_iff_exists'.mp fun hnone => ?_
  exact token?_eq_none_iff.mp hnone h

theorem Extends.knows {r r' : Registry} (h : Extends r r') {path : String} (hk : r.Knows path) :
    r'.Knows path := by
  rcases hk with hhome | hmem
  · exact Or.inl (h.home_eq.trans hhome)
  · exact Or.inr ((h.grows.map Prod.fst).subset hmem)

/-- **What a known path is called never changes.** -/
theorem Extends.qualifier?_eq {r r' : Registry} (h : Extends r r') {path : String}
    (hk : r.Knows path) : r'.qualifier? path = r.qualifier? path := by
  by_cases hhome : r.home = some path
  · rw [qualifier?_of_home hhome, qualifier?_of_home (h.home_eq.trans hhome)]
  · have hmem : path ∈ r.paths := hk.resolve_left hhome
    obtain ⟨token, htoken⟩ := exists_token?_of_mem_paths hmem
    have hhome' : r'.home ≠ some path := fun e => hhome (h.home_eq.symm.trans e)
    rw [qualifier?_of_token? hhome htoken, qualifier?_of_token? hhome' (h.token?_eq htoken)]

/-- A path is known once it is registered. -/
theorem knows_register (r : Registry) (i : Import) : (r.register i).2.Knows i.path := by
  by_cases hhome : r.home = some i.path
  · exact Or.inl (by rw [home_register, hhome])
  · refine Or.inr ?_
    rcases hmem : r.token? i.path with _ | token
    · rw [register_of_token?_eq_none hhome hmem, paths_add]
      exact List.mem_append_right _ (List.mem_singleton.mpr rfl)
    · rw [register_of_token? hhome hmem]
      exact List.mem_map_of_mem (mem_resolved_of_token? hmem)

theorem knows_registerAll (r : Registry) {imports : List Import} {i : Import} (hi : i ∈ imports) :
    (r.registerAll imports).Knows i.path := by
  obtain ⟨before, after, rfl⟩ := List.append_of_mem hi
  rw [registerAll_append, registerAll_cons]
  exact (extends_registerAll _ after).knows (knows_register _ i)

theorem mem_paths_register {r : Registry} {i : Import} {path : String} :
    path ∈ (r.register i).2.paths ↔ path ∈ r.paths ∨ (i.path = path ∧ r.home ≠ some path) := by
  constructor
  · intro hmem
    rcases register_cases r i with h | ⟨hhome, -, h⟩
    · rw [h] at hmem
      exact Or.inl hmem
    · rw [h, paths_add, List.mem_append, List.mem_singleton] at hmem
      rcases hmem with hmem | rfl
      · exact Or.inl hmem
      · exact Or.inr ⟨rfl, hhome⟩
  · rintro (hmem | ⟨rfl, hhome⟩)
    · exact ((extends_register r i).grows.map Prod.fst).subset hmem
    · refine (knows_register r i).resolve_left fun h => hhome ?_
      rw [← home_register r i, h]

/-- **The paths after registering a list**: those from before, and those of the list except for the
home path. -/
theorem mem_paths_registerAll {r : Registry} {imports : List Import} {path : String} :
    path ∈ (r.registerAll imports).paths ↔
      path ∈ r.paths ∨ ((∃ i ∈ imports, i.path = path) ∧ r.home ≠ some path) := by
  induction imports generalizing r with
  | nil => simp
  | cons i rest ih =>
    rw [registerAll_cons, ih, mem_paths_register, home_register, or_assoc, ← or_and_right]
    simp

/-! ## Looking up and registering -/

/-- **What a path can be called**: the token of its entry, or a free one. -/
theorem mem_resolved_or_free {r : Registry} {path token : String}
    (h : r.qualifier? path = some token) :
    (path, token) ∈ r.resolved ∨ token = r.freeToken (defaultToken path) := by
  by_cases hhome : r.home = some path
  · rw [qualifier?_of_home hhome] at h
    cases h
  · cases hfound : r.token? path with
    | some found =>
      rw [qualifier?_of_token? hhome hfound] at h
      rw [← Option.some.inj h]
      exact Or.inl (mem_resolved_of_token? hfound)
    | none =>
      rw [qualifier?_of_token?_eq_none hhome hfound] at h
      exact Or.inr (Option.some.inj h).symm

theorem qualifier?_eq_none_iff {r : Registry} {path : String} :
    r.qualifier? path = none ↔ r.home = some path := by
  refine ⟨fun h => ?_, qualifier?_of_home⟩
  by_contra hhome
  cases hfound : r.token? path with
  | some found =>
    rw [qualifier?_of_token? hhome hfound] at h
    cases h
  | none =>
    rw [qualifier?_of_token?_eq_none hhome hfound] at h
    cases h

/-- Registering without asking for a name gives what looking up gives. -/
theorem register_fst (r : Registry) {i : Import} (hi : i.asName = none) :
    (r.register i).1 = r.qualifier? i.path := by
  by_cases hhome : r.home = some i.path
  · rw [register_of_home hhome, qualifier?_of_home hhome]
  · cases hfound : r.token? i.path with
    | some found => rw [register_of_token? hhome hfound, qualifier?_of_token? hhome hfound]
    | none =>
      rw [register_of_token?_eq_none hhome hfound, qualifier?_of_token?_eq_none hhome hfound,
        Import.preferredToken, hi]
      rfl

/-- After it is registered, a path is called as registering it said. -/
theorem qualifier?_register (r : Registry) (i : Import) :
    (r.register i).2.qualifier? i.path = (r.register i).1 := by
  by_cases hhome : r.home = some i.path
  · rw [register_of_home hhome, qualifier?_of_home hhome]
  · cases hfound : r.token? i.path with
    | some found => rw [register_of_token? hhome hfound, qualifier?_of_token? hhome hfound]
    | none =>
      rw [register_of_token?_eq_none hhome hfound]
      exact qualifier?_of_token? hhome (token?_add hfound _)

/-- A path is never called by the token of another one. -/
theorem Consistent.qualifier?_ne {r : Registry} (h : r.Consistent) {path other token : String}
    (hother : (other, token) ∈ r.resolved) (hne : other ≠ path) :
    r.qualifier? path ≠ some token := by
  intro hcalled
  rcases mem_resolved_or_free hcalled with hmem | hfree
  · exact hne (h.path_eq_of_token_eq hother hmem)
  · have htaken : token ∈ r.taken := by
      rw [h.taken_eq]
      exact List.mem_map_of_mem hother
    rw [hfree] at htaken
    exact r.freeToken_notMem_taken _ htaken

/-- **No path is called like a known one** except for that path itself. -/
theorem Consistent.eq_of_qualifier?_eq {r : Registry} (h : r.Consistent) {p q : String}
    (hk : r.Knows q) (heq : r.qualifier? p = r.qualifier? q) : p = q := by
  rcases hk with hhome | hmem
  · rw [qualifier?_of_home hhome, qualifier?_eq_none_iff] at heq
    exact Option.some.inj (heq.symm.trans hhome)
  · obtain ⟨token, htoken⟩ := exists_token?_of_mem_paths hmem
    have hcalled : r.qualifier? p = some token := by
      rw [heq, qualifier?_of_token? (h.home_notMem q hmem) htoken]
    by_contra hne
    exact h.qualifier?_ne (mem_resolved_of_token? htoken) (Ne.symm hne) hcalled

/-- **Looking a path up agrees with registering it.**  After every run, looking up a valid path gives
the token that registering it gives, if no name is asked for; there is none exactly for the home
path.  So registering the path right away changes no qualified name.  No other registered path has
this token. -/
theorem qualifier?_agrees_with_register (home : Option String) (calls : List Call) (path : String)
    (hpath : pathFault? path = none) :
    let r := (ofHome home).run calls
    ∃ i, Import.ofPath path = .ok i ∧
      (r.register i).1 = r.qualifier? path ∧
      (r.qualifier? path = none ↔ home = some path) ∧
      (∀ name, (r.register i).2.qualify path name = r.qualify path name) ∧
      ∀ other token, (other, token) ∈ r.resolved → other ≠ path →
        r.qualifier? path ≠ some token := by
  intro r
  have hr : r.Consistent := (consistent_ofHome home).run calls
  have hhome : r.home = home := home_run home calls
  let i : Import := ⟨path, none, hpath⟩
  have hregister : (r.register i).1 = r.qualifier? path := r.register_fst rfl
  refine ⟨i, Import.ofPath_eq_ok_iff.mpr ⟨rfl, rfl⟩, hregister, ?_, ?_, ?_⟩
  · rw [qualifier?_eq_none_iff, hhome]
  · intro name
    rw [qualify, qualify, (r.qualifier?_register i).trans hregister]
  · intro other token hother hne
    exact hr.qualifier?_ne hother hne

/-- A run after which the token `dice` and its first number are taken, the number by a package that
asks for it. -/
def crowdedCalls : List Call :=
  [.one ⟨"acme/dice", none, by decide +kernel⟩,
   .several [⟨"acme/table", none, by decide +kernel⟩,
    ⟨"other/tumbler", some "dice2", by decide +kernel⟩]]

theorem crowdedCalls_agree :
    pathFault? "third/dice" = none ∧
      ∃ i, Import.ofPath "third/dice" = .ok i ∧
        (((ofHome (some "acme/table")).run crowdedCalls).register i).1 = some "dice3" := by
  have hpath : pathFault? "third/dice" = none := by decide +kernel
  obtain ⟨i, hi, hregister, -⟩ :=
    qualifier?_agrees_with_register (some "acme/table") crowdedCalls "third/dice" hpath
  refine ⟨hpath, i, hi, ?_⟩
  rw [hregister]
  decide +kernel

end Registry

/-! ## References under an assignment of tokens -/

namespace TypeRef

/-- Is the reference built from names, pointers, slices and maps alone? -/
def isPlain : TypeRef → Bool
  | .named _ => true
  | .declared _ => true
  | .pointer inner => inner.isPlain
  | .slice element => element.isPlain
  | .map key value => key.isPlain && value.isPlain
  | .described _ _ _ => false

/-- The members of packages that the text of the reference mentions: each with the path of its
package and its own name, from left to right. -/
def members : TypeRef → List (String × String)
  | .named t => t.package.toList.map fun i => (i.path, t.name)
  | .declared _ => []
  | .pointer inner => inner.members
  | .slice element => element.members
  | .map key value => key.members ++ value.members
  | .described path name _ => [(path, name)]

/-- A name behind the token of its package, or alone if there is no token. -/
def dotted (token : Option String) (name : String) : String :=
  match token with
  | some token => token ++ "." ++ name
  | none => name

/-- The text of a reference when the package at a path is called `token path`. -/
def spell (token : String → Option String) : TypeRef → String
  | .named t => dotted (t.package.bind fun i => token i.path) t.name
  | .declared name => name
  | .pointer inner => "*" ++ inner.spell token
  | .slice element => "[]" ++ element.spell token
  | .map key value => "map[" ++ key.spell token ++ "]" ++ value.spell token
  | .described path name _ => dotted (token path) name

/-- The text under a registry is the text under the tokens of the registry. -/
theorem text_eq_spell (r : Registry) (t : TypeRef) : t.text r = t.spell r.qualifier? := by
  induction t with
  | named t =>
    rw [text, spell]
    cases t.package with
    | none => rfl
    | some i => rfl
  | declared name => rfl
  | pointer inner ih => rw [text, spell, ih]
  | slice element ih => rw [text, spell, ih]
  | map key value ihk ihv => rw [text, spell, ihk, ihv]
  | described path name needs => rfl

/-- The text depends on the tokens of the mentioned packages only. -/
theorem spell_congr {token token' : String → Option String} {t : TypeRef}
    (h : ∀ m ∈ t.members, token m.1 = token' m.1) : t.spell token = t.spell token' := by
  induction t with
  | named t =>
    rw [spell, spell]
    cases hp : t.package with
    | none => rfl
    | some i =>
      have hi : token i.path = token' i.path := h (i.path, t.name) (by simp [members, hp])
      rw [Option.bind_some, Option.bind_some, hi]
  | declared name => rfl
  | pointer inner ih => rw [spell, spell, ih h]
  | slice element ih => rw [spell, spell, ih h]
  | map key value ihk ihv =>
    have hk := ihk fun m hm => h m (List.mem_append_left _ hm)
    have hv := ihv fun m hm => h m (List.mem_append_right _ hm)
    rw [spell, spell, hk, hv]
  | described path name needs =>
    rw [spell, spell, h (path, name) (List.mem_singleton.mpr rfl)]

/-- A plain reference asks for exactly the packages that its text mentions. -/
theorem mem_paths_imports_iff {t : TypeRef} (ht : t.isPlain = true) {path : String} :
    path ∈ t.imports.paths ↔ ∃ name, (path, name) ∈ t.members := by
  induction t with
  | named t =>
    rw [imports, ImportSet.mem_paths_ofList, members]
    cases t.package with
    | none => simp
    | some i => simp [eq_comm]
  | declared name => simp [imports, members, ImportSet.paths]
  | pointer inner ih => exact ih ht
  | slice element ih => exact ih ht
  | map key value ihk ihv =>
    rw [isPlain, Bool.and_eq_true] at ht
    rw [imports, ImportSet.mem_paths_merge, ihk ht.1, ihv ht.2, ← exists_or]
    simp only [members, List.mem_append]
  | described path name needs => exact absurd ht (by simp [isPlain])

/-- **A plain reference whose packages are known has its final text.** -/
theorem text_eq_of_extends {r r' : Registry} (h : r.Extends r') {t : TypeRef}
    (ht : t.isPlain = true) (hk : ∀ path ∈ t.imports.paths, r.Knows path) :
    t.text r' = t.text r := by
  rw [text_eq_spell, text_eq_spell]
  refine spell_congr fun m hm => h.qualifier?_eq (hk m.1 ?_)
  exact (mem_paths_imports_iff ht).mpr ⟨m.2, hm⟩

end TypeRef

end SourcePress
