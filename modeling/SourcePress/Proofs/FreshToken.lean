import SourcePress.Import.Registry

/-!
# A token that nobody holds

`Registry.freeToken` looks for a token outside of `taken` by putting the numbers 2, 3, ... behind
the preferred one.  It is given as many steps as there are tokens in use.  That this is enough is a
counting argument: each step that fails meets a token in use, and no two steps meet the same one,
because the numbers behind the preferred token differ.

The search itself carries the count.  It takes every token that it meets out of its pool, so the
pool shrinks with the steps, and a search that has used up its steps has an empty pool left
(`searchNumber_notMem`).
-/

namespace SourcePress

namespace Registry

/-- Different numbers behind the same text make different tokens. -/
theorem eq_of_append_toString_eq {preferred : String} {m n : Nat}
    (h : preferred ++ toString m = preferred ++ toString n) : m = n := by
  have hdigits : toString m = toString n := (String.append_right_inj preferred).mp h
  have hvalue := congrArg (fun text : String => Nat.ofDigitChars 10 text.toList 0) hdigits
  simpa using hvalue

/-- The search never goes back behind the number it starts from. -/
theorem le_searchNumber (preferred : String) (steps : Nat) (pool : List String) (n : Nat) :
    n ≤ searchNumber preferred steps pool n := by
  induction steps generalizing pool n with
  | zero => exact Nat.le_refl n
  | succ steps ih =>
    rw [searchNumber]
    split
    · exact Nat.le_trans (Nat.le_succ n) (ih _ _)
    · exact Nat.le_refl n

/-- A search that has as many steps as its pool has tokens ends outside of the pool. -/
theorem searchNumber_notMem (preferred : String) (steps : Nat) (pool : List String) (n : Nat)
    (hsteps : pool.length ≤ steps) :
    preferred ++ toString (searchNumber preferred steps pool n) ∉ pool := by
  induction steps generalizing pool n with
  | zero =>
    rw [List.eq_nil_of_length_eq_zero (Nat.le_zero.mp hsteps)]
    exact List.not_mem_nil
  | succ steps ih =>
    rw [searchNumber]
    split
    · next hcontains =>
      have hmem : preferred ++ toString n ∈ pool := by simpa using hcontains
      have hlength : (pool.erase (preferred ++ toString n)).length ≤ steps := by
        rw [List.length_erase_of_mem hmem]
        omega
      have hrest := ih (pool.erase (preferred ++ toString n)) (n + 1) hlength
      -- the token taken out of the pool has a smaller number than the one found
      have hne : preferred ++ toString (searchNumber preferred steps
          (pool.erase (preferred ++ toString n)) (n + 1)) ≠ preferred ++ toString n := by
        intro h
        have hle := le_searchNumber preferred steps (pool.erase (preferred ++ toString n)) (n + 1)
        rw [eq_of_append_toString_eq h] at hle
        omega
      intro h
      exact hrest ((List.mem_erase_of_ne hne).mpr h)
    · next hcontains => simpa using hcontains

/-- A preferred token that nobody holds is taken as it is. -/
theorem freeToken_of_notMem {r : Registry} {preferred : String} (h : preferred ∉ r.taken) :
    r.freeToken preferred = preferred := by
  rw [freeToken, if_neg (by simpa using h)]

/-- **A free token is not in use**, whatever tokens are in use and whatever token is preferred. -/
theorem freeToken_notMem_taken (r : Registry) (preferred : String) :
    r.freeToken preferred ∉ r.taken := by
  unfold freeToken
  split
  · exact searchNumber_notMem preferred r.taken.length r.taken 2 (Nat.le_refl _)
  · next hfree => simpa using hfree

end Registry

end SourcePress
