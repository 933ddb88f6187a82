import SourcePress.Import.Set

/-!
# The registry of a printed unit

While a unit is printed, a `Registry` remembers which packages its text refers to and which token
each of them is printed with.  It only grows: a path keeps the token it was given when it was first
registered, and a later path whose preferred token is taken gets that token with the first free
number from two on behind it.

The path of the unit itself, its home, is never imported and needs no token.
-/

namespace SourcePress

/-- The packages that a unit refers to, and the tokens they are printed with. -/
structure Registry where
  /-- The path of the unit itself, if it is known. -/
  home : Option String := none
  /-- The registered paths with their tokens, in order of registration. -/
  resolved : List (String × String) := []
  /-- The registered paths with the tokens that they suggest by themselves. -/
  defaults : List (String × String) := []
  /-- The tokens that are in use. -/
  taken : List String := []
deriving DecidableEq, Repr

namespace Registry

/-- The registry of a unit that has registered nothing yet. -/
def ofHome (home : Option String) : Registry := { home }

instance : Inhabited Registry := ⟨ofHome none⟩

/-- Is the path the unit itself? -/
def isHome (r : Registry) (path : String) : Bool := r.home == some path

/-- The token of a registered path. -/
def token? (r : Registry) (path : String) : Option String := r.resolved.lookup path

/-- The number of registered paths. -/
def size (r : Registry) : Nat := r.resolved.length

/-- Is nothing registered? -/
def isEmpty (r : Registry) : Bool := r.resolved.isEmpty

/-- The least number from `n` on that makes `preferred` a token outside of the pool.  A number that is
in use takes its token out of the pool, so `steps` is enough when it is the size of the pool. -/
def searchNumber (preferred : String) : (steps : Nat) → (pool : List String) → (n : Nat) → Nat
  | 0, _, n => n
  | steps + 1, pool, n =>
    let candidate := preferred ++ toString n
    if pool.contains candidate then searchNumber preferred steps (pool.erase candidate) (n + 1)
    else n

/-- The least number from two on that makes `preferred` a free token. -/
def freeNumber (r : Registry) (preferred : String) : Nat :=
  searchNumber preferred r.taken.length r.taken 2

/-- The preferred token if it is free, otherwise the token with the least free number behind it. -/
def freeToken (r : Registry) (preferred : String) : String :=
  if r.taken.contains preferred then preferred ++ toString (r.freeNumber preferred) else preferred

/-- Record a path under a token. -/
def add (r : Registry) (path token : String) : Registry :=
  { r with
    resolved := r.resolved ++ [(path, token)]
    defaults := r.defaults ++ [(path, defaultToken path)]
    taken := r.taken ++ [token] }

/-- Register an import.  The first component is the token to qualify names with; there is none for
the unit itself, which is never imported. -/
def register (r : Registry) (i : Import) : Option String × Registry :=
  if r.isHome i.path then (none, r)
  else match r.token? i.path with
    | some token => (some token, r)
    | none =>
      let token := r.freeToken i.preferredToken
      (some token, r.add i.path token)

/-- Register the imports of a list one after the other. -/
def registerAll (r : Registry) (imports : List Import) : Registry :=
  imports.foldl (fun r i => (r.register i).2) r

/-- The token for a path, without registering it.  A path that is not registered gets the token that
it would be given now, so it never borrows the token of another package. -/
def qualifier? (r : Registry) (path : String) : Option String :=
  if r.isHome path then none
  else match r.token? path with
    | some token => some token
    | none => some (r.freeToken (defaultToken path))

/-- A name of the package at `path`: qualified by its token, or bare in the unit itself. -/
def qualify (r : Registry) (path name : String) : String :=
  match r.qualifier? path with
  | some token => token ++ "." ++ name
  | none => name

/-- The registered packages as imports, with a name only where the token is not the one that the
path suggests. -/
def imports (r : Registry) : List Import :=
  r.resolved.filterMap fun (path, token) =>
    match Import.ofPath path with
    | .error _ => none
    | .ok i => if r.defaults.lookup path = some token then some i else some (i.withName token)

@[simp] theorem registerAll_nil (r : Registry) : r.registerAll [] = r := rfl

@[simp] theorem registerAll_cons (r : Registry) (i : Import) (rest : List Import) :
    r.registerAll (i :: rest) = (r.register i).2.registerAll rest := rfl

theorem registerAll_append (r : Registry) (xs ys : List Import) :
    r.registerAll (xs ++ ys) = (r.registerAll xs).registerAll ys := List.foldl_append

/-- Registering never changes which unit is printed. -/
@[simp] theorem home_register (r : Registry) (i : Import) : (r.register i).2.home = r.home := by
  unfold register
  split
  · rfl
  · split <;> rfl

end Registry

end SourcePress
