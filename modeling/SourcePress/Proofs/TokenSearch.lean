import Mathlib.Order.Bounds.Defs
import SourcePress.Proofs.RegistryRun

/-!
# How far the search for a token goes

A preferred token that is taken gets a number behind it.  Nothing bounds the numbers that may be
tried: the search takes two, three and so on, until it meets a token that is not taken.  That such a
token is found is shown in `FreshToken`; here we see which one it is, and how soon it is found.

All numbers that are passed over belong to taken tokens (`mem_of_lt_searchNumber`), so the search
ends at the least number that makes a free token (`isLeast_freeNumber`).  The tokens passed over
differ from each other, because decimal numerals of different numbers differ, and from the preferred
token, which is shorter.  So together with the preferred token they are at most as many as the taken
tokens (`freeNumber_le`), and of these a registry has one for each of its paths.

The names that imports ask for may be any texts, and in particular numbered variants of the token
that is looked for.  They can make the search longer, but each of them by one number only.

The steps that `searchNumber` counts do not matter for the result.  `numbered` lists the tokens to
be tried, and whoever looks at enough of them, one for each registered path, finds the same token
first (`find?_numbered`).
-/

namespace SourcePress

namespace Registry

/-! ## The tokens to be tried -/

/-- The preferred token with the numbers from two on behind it, `count` of them. -/
def numbered (preferred : String) (count : Nat) : List String :=
  (List.range' 2 count).map (preferred ++ toString ·)

/-- No two of the tokens to be tried are the same, and the preferred token is not among them. -/
theorem nodup_cons_numbered (preferred : String) (count : Nat) :
    (preferred :: numbered preferred count).Nodup := by
  refine List.nodup_cons.mpr ⟨fun hmem => ?_, ?_⟩
  · obtain ⟨n, -, hn⟩ := List.mem_map.mp hmem
    have hempty : toString n = "" := (String.append_right_inj preferred).mp
      (hn.trans String.append_empty.symm)
    exact Nat.repr_ne_empty (Nat.toString_eq_repr.symm.trans hempty)
  · exact (List.nodup_range' 1).map fun _ _ => eq_of_append_toString_eq

/-! ## The least number -/

/-- The search passes over a number only if it makes a token of the pool. -/
theorem mem_of_lt_searchNumber {preferred : String} {steps : Nat} {pool : List String} {n m : Nat}
    (hn : n ≤ m) (hm : m < searchNumber preferred steps pool n) :
    preferred ++ toString m ∈ pool := by
  induction steps generalizing pool n with
  | zero => exact absurd hm (Nat.not_lt.mpr hn)
  | succ steps ih =>
    rw [searchNumber] at hm
    split at hm
    · next hcontains =>
      rcases Nat.eq_or_lt_of_le hn with rfl | hlt
      · simpa using hcontains
      · exact List.mem_of_mem_erase (ih hlt hm)
    · exact absurd hm (Nat.not_lt.mpr hn)

/-- **The number that is found is the least that makes a free token.** -/
theorem isLeast_freeNumber (r : Registry) (preferred : String) :
    IsLeast {n | 2 ≤ n ∧ preferred ++ toString n ∉ r.taken} (r.freeNumber preferred) := by
  refine ⟨⟨le_searchNumber preferred _ _ 2, ?_⟩, ?_⟩
  · exact searchNumber_notMem preferred r.taken.length r.taken 2 (Nat.le_refl _)
  · rintro n ⟨htwo, hfree⟩
    by_contra hlt
    exact hfree (mem_of_lt_searchNumber htwo (Nat.not_le.mp hlt))

/-! ## The distance -/

/-- The tokens that the search passes over are taken. -/
theorem numbered_subset_taken (r : Registry) (preferred : String) :
    numbered preferred (r.freeNumber preferred - 2) ⊆ r.taken := by
  intro token hmem
  obtain ⟨n, hrange, rfl⟩ := List.mem_map.mp hmem
  obtain ⟨htwo, hrange⟩ := List.mem_range'_1.mp hrange
  have hlt : n < r.freeNumber preferred := by omega
  exact mem_of_lt_searchNumber htwo hlt

/-- **A search that is needed ends after at most as many numbers as there are taken tokens.**  The
preferred token is one of these, and all numbers but the last one belong to others. -/
theorem freeNumber_le {r : Registry} {preferred : String} (h : preferred ∈ r.taken) :
    r.freeNumber preferred ≤ r.taken.length + 1 := by
  have hsubset : preferred :: numbered preferred (r.freeNumber preferred - 2) ⊆ r.taken :=
    List.cons_subset.mpr ⟨h, r.numbered_subset_taken preferred⟩
  have hlength := (nodup_cons_numbered preferred _).length_le_of_subset hsubset
  rw [List.length_cons, numbered, List.length_map, List.length_range'] at hlength
  omega

/-- The first free token among those to be tried, provided that enough of them are looked at. -/
theorem find?_numbered {r : Registry} {preferred : String} {count : Nat}
    (hcount : r.freeNumber preferred < 2 + count) :
    (numbered preferred count).find? (· ∉ r.taken) =
      some (preferred ++ toString (r.freeNumber preferred)) := by
  obtain ⟨⟨htwo, hfree⟩, -⟩ := r.isLeast_freeNumber preferred
  obtain ⟨before, hbefore⟩ := Nat.exists_eq_add_of_le htwo
  obtain ⟨after, hafter⟩ := Nat.exists_eq_add_of_lt hcount
  -- the tokens that are passed over, the one that is found, and those behind it
  have hsplit : numbered preferred count = numbered preferred before ++
      (preferred ++ toString (r.freeNumber preferred)) ::
        (List.range' (r.freeNumber preferred + 1) after).map (preferred ++ toString ·) := by
    have hlength : count = before + (after + 1) := by omega
    rw [numbered, hlength, ← List.range'_append_1, List.map_append, ← hbefore, List.range'_succ,
      List.map_cons]
    rfl
  refine List.find?_eq_some_iff_append.mpr ⟨by simpa using hfree, _, _, hsplit, ?_⟩
  intro token hmem
  have htaken : token ∈ r.taken := by
    refine r.numbered_subset_taken preferred ?_
    rwa [hbefore, Nat.add_sub_cancel_left]
  simpa using htaken

theorem Consistent.length_taken {r : Registry} (h : r.Consistent) : r.taken.length = r.size := by
  rw [h.taken_eq, tokens, List.length_map, size]

/-- **The search for a token ends, and what it finds is minimal.**  After every run, and for every
preferred token, the token that is given is not taken.  It is the preferred token if that one is
free.  Otherwise it has the least number from two on behind it that makes a free token; this number
is at most one more than the number of registered paths, and the token is the first free one among
the numbered ones, as soon as one of these is looked at for each registered path. -/
theorem freeToken_takes_least_number (home : Option String) (calls : List Call)
    (preferred : String) :
    let r := (ofHome home).run calls
    r.freeToken preferred ∉ r.taken ∧
      (preferred ∉ r.taken → r.freeToken preferred = preferred) ∧
      (preferred ∈ r.taken →
        ∃ n, IsLeast {k | 2 ≤ k ∧ preferred ++ toString k ∉ r.taken} n ∧
          r.freeToken preferred = preferred ++ toString n ∧
          n ≤ r.size + 1 ∧
          ∀ count, r.size ≤ count →
            (numbered preferred count).find? (· ∉ r.taken) = some (r.freeToken preferred)) := by
  intro r
  have hr : r.Consistent := (consistent_ofHome home).run calls
  refine ⟨r.freeToken_notMem_taken preferred, freeToken_of_notMem, fun htaken => ?_⟩
  have htoken : r.freeToken preferred = preferred ++ toString (r.freeNumber preferred) := by
    rw [freeToken, if_pos (by simpa using htaken)]
  have hbound : r.freeNumber preferred ≤ r.size + 1 := hr.length_taken ▸ freeNumber_le htaken
  refine ⟨r.freeNumber preferred, r.isLeast_freeNumber preferred, htoken, hbound, ?_⟩
  intro count hcount
  rw [htoken]
  exact find?_numbered (by omega)

/-- A package that is called `kite`, and two that ask for its next numbers, the later one first. -/
def consecutiveCalls : List Call :=
  [.several [⟨"hill/kite", none, by decide +kernel⟩,
    ⟨"beach/wing", some "kite3", by decide +kernel⟩],
   .one ⟨"pier/tail", some "kite2", by decide +kernel⟩]

/-- All three tokens are met, so the number is one more than the number of paths. -/
theorem consecutiveCalls_take_four :
    let r := (ofHome none).run consecutiveCalls
    "kite" ∈ r.taken ∧ r.size = 3 ∧ r.freeToken "kite" = "kite4" ∧
      (numbered "kite" 3).find? (· ∉ r.taken) = some "kite4" := by
  intro r
  have htaken : "kite" ∈ r.taken := by decide +kernel
  have hsize : r.size = 3 := by decide +kernel
  have htoken : r.freeToken "kite" = "kite4" := by decide +kernel
  obtain ⟨-, -, hsearch⟩ := freeToken_takes_least_number none consecutiveCalls "kite"
  obtain ⟨n, -, -, -, hfind⟩ := hsearch htaken
  exact ⟨htaken, hsize, htoken, (hfind 3 (Nat.le_of_eq hsize)).trans (congrArg some htoken)⟩

end Registry

end SourcePress
