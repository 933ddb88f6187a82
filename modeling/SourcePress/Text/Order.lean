/-!
# The order of texts

Texts are ordered by their code points, the first difference deciding, and a text comes before all
texts that continue it.  This is also the order of the bytes that the texts are encoded as.
-/

namespace SourcePress.Text

/-- Does the first text come before the second, or is it the same? -/
def atMost : List Char → List Char → Bool
  | [], _ => true
  | _ :: _, [] => false
  | a :: as, b :: bs =>
    if a.toNat < b.toNat then true else if b.toNat < a.toNat then false else atMost as bs

@[simp] theorem atMost_refl : ∀ cs : List Char, atMost cs cs = true
  | [] => rfl
  | c :: cs => by
    rw [atMost, if_neg (Nat.lt_irrefl _), if_neg (Nat.lt_irrefl _)]
    exact atMost_refl cs

/-- Of two texts one comes before the other. -/
theorem atMost_total : ∀ as bs : List Char, atMost as bs = true ∨ atMost bs as = true
  | [], _ => Or.inl rfl
  | _ :: _, [] => Or.inr rfl
  | a :: as, b :: bs => by
    rw [atMost, atMost]
    rcases Nat.lt_trichotomy a.toNat b.toNat with h | h | h
    · exact Or.inl (if_pos h)
    · rw [if_neg (by omega), if_neg (by omega), if_neg (by omega), if_neg (by omega)]
      exact atMost_total as bs
    · exact Or.inr (if_pos h)

theorem atMost_trans : ∀ {as bs cs : List Char},
    atMost as bs = true → atMost bs cs = true → atMost as cs = true
  | [], _, _, _, _ => rfl
  | _ :: _, [], _, h, _ => by simp [atMost] at h
  | _ :: _, _ :: _, [], _, h => by simp [atMost] at h
  | a :: as, b :: bs, c :: cs, hab, hbc => by
    rw [atMost] at hab hbc ⊢
    by_cases h : a.toNat < c.toNat
    · exact if_pos h
    · rw [if_neg h]
      split at hab
      · split at hbc
        · omega
        · split at hbc
          · cases hbc
          · omega
      · split at hab
        · cases hab
        · split at hbc
          · omega
          · split at hbc
            · cases hbc
            · rw [if_neg (by omega)]
              exact atMost_trans hab hbc

/-- Two texts that come before each other are the same. -/
theorem eq_of_atMost_of_atMost : ∀ {as bs : List Char},
    atMost as bs = true → atMost bs as = true → as = bs
  | [], [], _, _ => rfl
  | [], _ :: _, _, h => by simp [atMost] at h
  | _ :: _, [], h, _ => by simp [atMost] at h
  | a :: as, b :: bs, hab, hba => by
    rw [atMost] at hab hba
    have h : a.toNat = b.toNat := by
      by_cases h₁ : a.toNat < b.toNat
      · simp [h₁, Nat.not_lt.mpr (Nat.le_of_lt h₁)] at hba
      · by_cases h₂ : b.toNat < a.toNat
        · simp [h₁, h₂] at hab
        · omega
    rw [h, if_neg (Nat.lt_irrefl _), if_neg (Nat.lt_irrefl _)] at hab hba
    rw [Char.toNat_inj.mp h, eq_of_atMost_of_atMost hab hba]

end SourcePress.Text
