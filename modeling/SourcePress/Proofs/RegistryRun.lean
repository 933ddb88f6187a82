import Mathlib.Data.List.Nodup
import SourcePress.Proofs.FreshToken

/-!
# Runs of a registry

A registry keeps three tables: the tokens of the registered paths, the tokens that these paths
suggest by themselves, and the tokens in use.  One operation, `Registry.register`, changes them.
This file says what that operation can do (`register_cases`) and derives two facts about every run
from it.

* `Registry.Consistent`: the tables agree with each other.  No path and no token occurs twice, and
  the home path is in no table.
* `Registry.Extends`: a later registry has the entries of an earlier one, in the same places, and
  perhaps more behind them.

The second fact does not need the first, and neither depends on the names that the imports ask for.
A token with a number behind it may well be the token that a later path suggests, or the name that
it asks for; what keeps the tokens apart is only that a new one is never in use.
-/

namespace SourcePress

namespace Registry

/-- The registered paths, in order of registration. -/
def paths (r : Registry) : List String := r.resolved.map Prod.fst

/-- The tokens of the registered paths, in the same order. -/
def tokens (r : Registry) : List String := r.resolved.map Prod.snd

/-! ## Runs -/

/-- A request to register: one import, or several. -/
inductive Call where
  | one (i : Import)
  | several (imports : List Import)
deriving DecidableEq, Repr

/-- The registry after a request. -/
def call (r : Registry) : Call → Registry
  | .one i => (r.register i).2
  | .several imports => r.registerAll imports

/-- The registry after a sequence of requests. -/
def run (r : Registry) (calls : List Call) : Registry := calls.foldl call r

/-! ## What one registration can do -/

theorem isHome_eq_true_iff {r : Registry} {path : String} :
    r.isHome path = true ↔ r.home = some path := by
  simp [isHome]

theorem token?_eq_none_iff {r : Registry} {path : String} :
    r.token? path = none ↔ path ∉ r.paths := by
  rw [token?, List.lookup_eq_none_iff, paths, List.mem_map]
  constructor
  · rintro h ⟨entry, hentry, rfl⟩
    simpa using h entry hentry
  · intro h entry hentry
    have hne : path ≠ entry.1 := fun e => h ⟨entry, hentry, e.symm⟩
    simpa using hne

theorem mem_resolved_of_token? {r : Registry} {path token : String}
    (h : r.token? path = some token) : (path, token) ∈ r.resolved := by
  obtain ⟨before, after, heq, -⟩ := List.lookup_eq_some_iff.mp h
  rw [heq]
  exact List.mem_append_right _ (List.mem_cons_self ..)

/-- The home path is not registered. -/
theorem register_of_home {r : Registry} {i : Import} (h : r.home = some i.path) :
    r.register i = (none, r) := by
  rw [register, if_pos (isHome_eq_true_iff.mpr h)]

/-- A path that has a token keeps it. -/
theorem register_of_token? {r : Registry} {i : Import} {token : String}
    (hhome : r.home ≠ some i.path) (htoken : r.token? i.path = some token) :
    r.register i = (some token, r) := by
  rw [register, if_neg (fun h => hhome (isHome_eq_true_iff.mp h)), htoken]

/-- A path without a token gets a free one. -/
theorem register_of_token?_eq_none {r : Registry} {i : Import} (hhome : r.home ≠ some i.path)
    (htoken : r.token? i.path = none) :
    r.register i =
      (some (r.freeToken i.preferredToken), r.add i.path (r.freeToken i.preferredToken)) := by
  rw [register, if_neg (fun h => hhome (isHome_eq_true_iff.mp h)), htoken]

/-- **What a registration does to a registry**: nothing, or it adds an entry for a path that is new
and not the home path, with a free token. -/
theorem register_cases (r : Registry) (i : Import) :
    (r.register i).2 = r ∨
      (r.home ≠ some i.path ∧ i.path ∉ r.paths ∧
        (r.register i).2 = r.add i.path (r.freeToken i.preferredToken)) := by
  by_cases hhome : r.home = some i.path
  · exact Or.inl (by rw [register_of_home hhome])
  · cases htoken : r.token? i.path with
    | some token => exact Or.inl (by rw [register_of_token? hhome htoken])
    | none =>
      refine Or.inr ⟨hhome, token?_eq_none_iff.mp htoken, ?_⟩
      rw [register_of_token?_eq_none hhome htoken]

/-! ## Registries only grow -/

/-- The second registry is of the same unit and has the entries of the first in front. -/
structure Extends (r r' : Registry) : Prop where
  home_eq : r'.home = r.home
  grows : r.resolved <+: r'.resolved

theorem Extends.refl (r : Registry) : Extends r r := ⟨rfl, List.prefix_refl _⟩

theorem Extends.trans {r r' r'' : Registry} (h : Extends r r') (h' : Extends r' r'') :
    Extends r r'' :=
  ⟨h'.home_eq.trans h.home_eq, h.grows.trans h'.grows⟩

theorem extends_register (r : Registry) (i : Import) : Extends r (r.register i).2 := by
  rcases register_cases r i with h | ⟨-, -, h⟩
  · rw [h]
    exact Extends.refl r
  · rw [h]
    exact ⟨rfl, List.prefix_append _ _⟩

theorem extends_registerAll (r : Registry) (imports : List Import) :
    Extends r (r.registerAll imports) := by
  induction imports generalizing r with
  | nil => exact Extends.refl r
  | cons i rest ih => exact (extends_register r i).trans (ih _)

theorem home_registerAll (home : Option String) (imports : List Import) :
    ((ofHome home).registerAll imports).home = home :=
  (extends_registerAll (ofHome home) imports).home_eq

theorem extends_call (r : Registry) (c : Call) : Extends r (r.call c) := by
  cases c with
  | one i => exact extends_register r i
  | several imports => exact extends_registerAll r imports

theorem extends_run (r : Registry) (calls : List Call) : Extends r (r.run calls) := by
  induction calls generalizing r with
  | nil => exact Extends.refl r
  | cons c calls ih => exact (extends_call r c).trans (ih _)

theorem home_run (home : Option String) (calls : List Call) :
    ((ofHome home).run calls).home = home :=
  (extends_run (ofHome home) calls).home_eq

/-- A token that is given stays given. -/
theorem Extends.token?_eq {r r' : Registry} (h : Extends r r') {path token : String}
    (htoken : r.token? path = some token) : r'.token? path = some token :=
  List.IsPrefix.lookup_eq_some h.grows htoken

/-! ## The tables agree -/

/-- The tables of the registry agree with each other. -/
structure Consistent (r : Registry) : Prop where
  paths_nodup : r.paths.Nodup
  tokens_nodup : r.tokens.Nodup
  taken_eq : r.taken = r.tokens
  defaults_eq : r.defaults = r.resolved.map fun entry => (entry.1, defaultToken entry.1)
  home_notMem : ∀ path ∈ r.paths, r.home ≠ some path
  valid : ∀ path ∈ r.paths, pathFault? path = none

theorem consistent_ofHome (home : Option String) : (ofHome home).Consistent where
  paths_nodup := List.nodup_nil
  tokens_nodup := List.nodup_nil
  taken_eq := rfl
  defaults_eq := rfl
  home_notMem := by simp [paths, ofHome]
  valid := by simp [paths, ofHome]

theorem paths_add (r : Registry) (path token : String) :
    (r.add path token).paths = r.paths ++ [path] := by
  simp [paths, add]

theorem tokens_add (r : Registry) (path token : String) :
    (r.add path token).tokens = r.tokens ++ [token] := by
  simp [tokens, add]

theorem token?_add {r : Registry} {path : String} (h : r.token? path = none) (token : String) :
    (r.add path token).token? path = some token := by
  rw [token?, add, List.lookup_append, ← token?, h]
  simp

/-- An entry for a new path with a free token keeps the tables in agreement. -/
theorem Consistent.add {r : Registry} (h : r.Consistent) {path token : String}
    (hhome : r.home ≠ some path) (hpath : path ∉ r.paths) (hvalid : pathFault? path = none)
    (htoken : token ∉ r.taken) : (r.add path token).Consistent where
  paths_nodup := by
    rw [paths_add, List.nodup_append_comm, List.singleton_append, List.nodup_cons]
    exact ⟨hpath, h.paths_nodup⟩
  tokens_nodup := by
    rw [tokens_add, List.nodup_append_comm, List.singleton_append, List.nodup_cons]
    exact ⟨h.taken_eq ▸ htoken, h.tokens_nodup⟩
  taken_eq := by
    rw [tokens_add, ← h.taken_eq]
    rfl
  defaults_eq := by
    simp [Registry.add, h.defaults_eq]
  home_notMem := by
    intro p hp
    rw [paths_add, List.mem_append, List.mem_singleton] at hp
    rcases hp with hp | rfl
    · exact h.home_notMem p hp
    · exact hhome
  valid := by
    intro p hp
    rw [paths_add, List.mem_append, List.mem_singleton] at hp
    rcases hp with hp | rfl
    · exact h.valid p hp
    · exact hvalid

theorem Consistent.register {r : Registry} (h : r.Consistent) (i : Import) :
    (r.register i).2.Consistent := by
  rcases register_cases r i with heq | ⟨hhome, hpath, heq⟩
  · rw [heq]
    exact h
  · rw [heq]
    exact h.add hhome hpath i.valid (r.freeToken_notMem_taken _)

theorem Consistent.registerAll {r : Registry} (h : r.Consistent) (imports : List Import) :
    (r.registerAll imports).Consistent := by
  induction imports generalizing r with
  | nil => exact h
  | cons i rest ih => exact ih (h.register i)

theorem Consistent.call {r : Registry} (h : r.Consistent) (c : Call) : (r.call c).Consistent := by
  cases c with
  | one i => exact h.register i
  | several imports => exact h.registerAll imports

theorem Consistent.run {r : Registry} (h : r.Consistent) (calls : List Call) :
    (r.run calls).Consistent := by
  induction calls generalizing r with
  | nil => exact h
  | cons c calls ih => exact ih (h.call c)

/-- In a consistent registry the token of a path is the one that its entry says. -/
theorem Consistent.token?_eq_some_iff {r : Registry} (h : r.Consistent) {path token : String} :
    r.token? path = some token ↔ (path, token) ∈ r.resolved := by
  refine ⟨mem_resolved_of_token?, fun hmem => ?_⟩
  cases hfound : r.token? path with
  | none =>
    exact absurd (List.mem_map_of_mem hmem) (token?_eq_none_iff.mp hfound)
  | some found =>
    -- two entries of one path are the same entry
    have heq := List.inj_on_of_nodup_map h.paths_nodup (mem_resolved_of_token? hfound) hmem rfl
    rw [(Prod.mk.inj heq).2]

/-- Two entries with one token are the same entry. -/
theorem Consistent.path_eq_of_token_eq {r : Registry} (h : r.Consistent) {p q token : String}
    (hp : (p, token) ∈ r.resolved) (hq : (q, token) ∈ r.resolved) : p = q :=
  (Prod.mk.inj (List.inj_on_of_nodup_map h.tokens_nodup hp hq rfl)).1

/-- **The tables of a registry after every run, and after every continuation of it.**  No path and
no token occurs twice, the tokens in use are those of the entries, the suggested tokens are kept for
the same paths, and the home path is nowhere.  Going on only adds entries behind those there are,
and registering a path again gives the token it got first and changes nothing. -/
theorem run_tables (home : Option String) (calls later : List Call) :
    let r := (ofHome home).run calls
    let r' := r.run later
    r.paths.Nodup ∧
      (∀ p q s t, (p, s) ∈ r.resolved → (q, t) ∈ r.resolved → p ≠ q → s ≠ t) ∧
      (∀ token, token ∈ r.taken ↔ ∃ p, (p, token) ∈ r.resolved) ∧
      r.defaults = r.paths.map (fun p => (p, defaultToken p)) ∧
      (∀ p, home = some p → p ∉ r.paths ∧ p ∉ r.defaults.map Prod.fst) ∧
      r.resolved <+: r'.resolved ∧
      ∀ (i : Import) (token : String), (i.path, token) ∈ r.resolved →
        r'.register i = (some token, r') := by
  intro r r'
  have hr : r.Consistent := (consistent_ofHome home).run calls
  have hr' : r'.Consistent := hr.run later
  have hhome : r.home = home := (extends_run (ofHome home) calls).home_eq
  have hext : Extends r r' := extends_run r later
  have hdefaults : r.defaults = r.paths.map (fun p => (p, defaultToken p)) := by
    rw [hr.defaults_eq, paths, List.map_map]
    rfl
  have hpaths : ∀ p, home = some p → p ∉ r.paths := fun p hp hmem =>
    hr.home_notMem p hmem (hhome.trans hp)
  refine ⟨hr.paths_nodup, ?_, ?_, hdefaults, ?_, hext.grows, ?_⟩
  · rintro p q s t hs ht hne rfl
    exact hne (hr.path_eq_of_token_eq hs ht)
  · intro token
    rw [hr.taken_eq, tokens, List.mem_map]
    constructor
    · rintro ⟨⟨p, t⟩, hmem, rfl⟩
      exact ⟨p, hmem⟩
    · rintro ⟨p, hmem⟩
      exact ⟨(p, token), hmem, rfl⟩
  · intro p hp
    refine ⟨hpaths p hp, ?_⟩
    rw [hdefaults, List.map_map]
    simpa using hpaths p hp
  · intro i token hmem
    have hmem' : (i.path, token) ∈ r'.resolved := hext.grows.subset hmem
    refine register_of_token? ?_ (hr'.token?_eq_some_iff.mpr hmem')
    exact hr'.home_notMem i.path (List.mem_map_of_mem hmem')

end Registry

end SourcePress
