import SourcePress.Proofs.Naming

/-!
# The characters of tokens

A name that an import asks for may be any text.  The tokens that the registry makes up itself are
plainer: the token that a path suggests consists of word characters, since all others are replaced,
and a number behind it adds only digits, which are word characters too.

So if no import asks for a name, all tokens of the registry consist of word characters
(`Registry.HasWordTokens`, with `HasWordTokens.register` for one registration), and so does every
token that a path is called by (`HasWordTokens.isWordChar_of_qualifier?`), registered or not.  In
particular no token has a dot, a bracket or a star in it.

Word characters alone do not make an identifier, since a number may not come first.  A token is
guarded against a leading digit from `0` to `9`, and there are other numbers, of other scripts and
among the superscripts.  So the token of a valid path is an identifier unless the segment that names
the package begins with one of these (`ofLocal_defaultToken`).
-/

namespace SourcePress

theorem Text.isWordChar_of_isDigit {c : Char} (h : c.isDigit = true) : isWordChar c = true := by
  have hrange := Char.isDigit_iff_toNat.mp h
  have hnumeric : isNumeric c = true := Ranges.mem_of_first _ hrange.1 hrange.2
  simp [isWordChar, hnumeric]

theorem Token.isWordChar_of_mem_guardDigit {cs : List Char}
    (h : ∀ c ∈ cs, Text.isWordChar c = true) : ∀ c ∈ guardDigit cs, Text.isWordChar c = true := by
  cases cs with
  | nil => exact h
  | cons a rest =>
    rw [guardDigit]
    split
    · exact List.forall_mem_cons.mpr ⟨Text.isWordChar_underscore, h⟩
    · exact h

/-- The token that a path suggests consists of word characters, whether or not the path is valid. -/
theorem isWordChar_of_mem_defaultToken (path : String) :
    ∀ c ∈ (defaultToken path).toList, Text.isWordChar c = true := by
  rw [toList_defaultToken, Token.derive]
  refine Token.isWordChar_of_mem_guardDigit fun c hc => ?_
  obtain ⟨a, -, rfl⟩ := List.mem_map.mp hc
  exact Token.isWordChar_clean a

namespace Registry

theorem isWordChar_of_mem_freeToken (r : Registry) {preferred : String}
    (h : ∀ c ∈ preferred.toList, Text.isWordChar c = true) :
    ∀ c ∈ (r.freeToken preferred).toList, Text.isWordChar c = true := by
  rw [freeToken]
  split
  · rw [String.toList_append, List.forall_mem_append, Nat.toString_eq_repr, Nat.toList_repr]
    refine ⟨h, fun c hc => Text.isWordChar_of_isDigit ?_⟩
    exact Nat.isDigit_of_mem_toDigits (by decide) (by decide) hc
  · exact h

/-- All tokens of the registry consist of word characters. -/
def HasWordTokens (r : Registry) : Prop :=
  ∀ path token, (path, token) ∈ r.resolved → ∀ c ∈ token.toList, Text.isWordChar c = true

theorem hasWordTokens_ofHome (home : Option String) : (ofHome home).HasWordTokens :=
  fun _ _ hmem => absurd hmem List.not_mem_nil

/-- **One registration.**  An import that asks for no name gets the suggested token, perhaps with a
number. -/
theorem HasWordTokens.register {r : Registry} (h : r.HasWordTokens) {i : Import}
    (hi : i.asName = none) : (r.register i).2.HasWordTokens := by
  rcases register_cases r i with heq | ⟨-, -, heq⟩
  · rw [heq]
    exact h
  · have hpreferred : i.preferredToken = defaultToken i.path := by
      rw [Import.preferredToken, hi]
      rfl
    rw [heq, hpreferred]
    intro path token hmem
    rcases List.mem_append.mp hmem with hmem | hmem
    · exact h path token hmem
    · obtain ⟨-, rfl⟩ := Prod.mk.inj (List.mem_singleton.mp hmem)
      exact r.isWordChar_of_mem_freeToken (isWordChar_of_mem_defaultToken i.path)

theorem HasWordTokens.registerAll {r : Registry} (h : r.HasWordTokens) {imports : List Import}
    (himports : ∀ i ∈ imports, i.asName = none) : (r.registerAll imports).HasWordTokens := by
  induction imports generalizing r with
  | nil => exact h
  | cons i rest ih =>
    obtain ⟨hi, hrest⟩ := List.forall_mem_cons.mp himports
    exact ih (h.register hi) hrest

theorem HasWordTokens.isWordChar_of_qualifier? {r : Registry} (h : r.HasWordTokens)
    {path token : String} (htoken : r.qualifier? path = some token) :
    ∀ c ∈ token.toList, Text.isWordChar c = true := by
  rcases mem_resolved_or_free htoken with hmem | rfl
  · exact h path token hmem
  · exact r.isWordChar_of_mem_freeToken (isWordChar_of_mem_defaultToken path)

end Registry

/-! ## The first character -/

namespace Token

/-- The segment that names a package is one of the segments of its path. -/
theorem namingSegment_mem_segments (path : List Char) :
    namingSegment path ∈ Text.segments '/' path := by
  unfold namingSegment
  split
  · next h => exact absurd (List.reverse_eq_nil_iff.mp h) (Text.segments_ne_nil '/' path)
  · next last before h =>
    have hmem : ∀ s ∈ last :: before, s ∈ Text.segments '/' path := by
      intro s hs
      rw [← h] at hs
      exact List.mem_reverse.mp hs
    split
    · cases before with
      | nil => exact hmem last (List.mem_cons_self ..)
      | cons s more => exact hmem s (List.mem_cons_of_mem _ (List.mem_cons_self ..))
    · exact hmem last (List.mem_cons_self ..)

/-- **What dropping a version does to a segment**: nothing, or it takes away a dot, a `v` and a
number that have something before them. -/
theorem dropVersion_cases (segment : List Char) :
    dropVersion segment = segment ∨
      ∃ front digits, front ≠ [] ∧ digits ≠ [] ∧ (∀ c ∈ digits, c.isDigit = true) ∧
        segment = front ++ '.' :: 'v' :: digits ∧ dropVersion segment = front := by
  unfold dropVersion
  dsimp only
  split
  · next d digits c rest hdigits hrest =>
    have hsplit : segment.reverse = (d :: digits) ++ ('v' :: '.' :: c :: rest) := by
      rw [← hdigits, ← hrest, List.takeWhile_append_dropWhile]
    have hall : ∀ a ∈ (d :: digits).reverse, a.isDigit = true := by
      intro a ha
      rw [List.mem_reverse, ← hdigits] at ha
      exact List.all_eq_true.mp List.all_takeWhile a ha
    refine Or.inr ⟨(c :: rest).reverse, (d :: digits).reverse, by simp, by simp, hall, ?_, rfl⟩
    rw [← List.reverse_reverse segment, hsplit]
    simp
  · exact Or.inl rfl

/-- Dropping a version leaves the first character of a segment alone. -/
theorem head?_dropVersion (segment : List Char) : (dropVersion segment).head? = segment.head? := by
  rcases dropVersion_cases segment with h | ⟨front, digits, hfront, -, -, hsegment, hdrop⟩
  · rw [h]
  · rw [hdrop, hsegment, List.head?_append_of_ne_nil _ hfront]

/-- The token begins with the first character of the segment that names the package, behind the
guard if there is one. -/
theorem exists_derive_eq {path : List Char} {c : Char} {rest : List Char}
    (h : namingSegment path = c :: rest) :
    ∃ more : List Char, derive path = guardDigit (clean c :: more.map clean) := by
  have hhead : (dropVersion (c :: rest)).head? = some c := head?_dropVersion _
  obtain ⟨more, hmore⟩ := List.head?_eq_some_iff.mp hhead
  exact ⟨more, by rw [derive, h, hmore, List.map_cons]⟩

theorem guardDigit_ne_nil (a : Char) (cs : List Char) : guardDigit (a :: cs) ≠ [] := by
  rw [guardDigit]
  split <;> exact List.cons_ne_nil _ _

/-- Behind the guard a text of word characters is an identifier; without it the first character
decides. -/
theorem isWord_guardDigit {a : Char} {cs : List Char}
    (h : ∀ c ∈ a :: cs, Text.isWordChar c = true) :
    Text.isWord (guardDigit (a :: cs)) = (a.isDigit || Text.isWordStart a) := by
  have hall : (a :: cs).all Text.isWordChar = true := List.all_eq_true.mpr h
  rw [guardDigit]
  split
  · next hdigit =>
    rw [Text.isWord, hall, hdigit]
    rfl
  · next hdigit =>
    rw [List.all_cons, Bool.and_eq_true] at hall
    rw [Text.isWord, hall.2, Bool.and_true, Bool.eq_false_iff.mpr hdigit, Bool.false_or]

end Token

/-- Is the character a number that is no letter, other than the digits which tokens are guarded
against? -/
def Text.isUnguardedNumber (c : Char) : Bool := isNumeric c && !isAlphabetic c && !c.isDigit

theorem Token.isDigit_or_isWordStart_clean (c : Char) :
    ((clean c).isDigit || Text.isWordStart (clean c)) = !Text.isUnguardedNumber c := by
  have hunderscore : Text.isNumeric '_' = false := by decide
  by_cases hword : Text.isWordChar c = true
  · rw [clean_of_isWordChar hword, Text.isUnguardedNumber, Text.isWordStart]
    simp only [Text.isWordChar, Bool.or_eq_true, beq_iff_eq] at hword
    rcases hword with (hletter | hnumber) | rfl
    · simp [hletter]
    · have hc : (c == '_') = false := by
        refine beq_false_of_ne ?_
        rintro rfl
        exact Bool.noConfusion (hunderscore.symm.trans hnumber)
      simp [hnumber, hc, Bool.or_comm]
    · decide
  · -- the character is replaced by an underscore, and it is no number
    have hnumber : Text.isNumeric c = false := by
      simp only [Text.isWordChar, Bool.or_eq_true, not_or, Bool.not_eq_true] at hword
      exact hword.1.2
    rw [clean, if_neg hword, Text.isWordStart_underscore, Bool.or_true, Text.isUnguardedNumber,
      hnumber]
    rfl

theorem ne_nil_of_mem_segments {path : String} (h : pathFault? path = none) {segment : List Char}
    (hsegment : segment ∈ Text.segments '/' path.toList) : segment ≠ [] := by
  rintro rfl
  have hany : (Text.segments '/' path.toList).any List.isEmpty = true :=
    List.any_eq_true.mpr ⟨[], hsegment, rfl⟩
  unfold pathFault? at h
  rw [if_pos hany] at h
  split at h
  · cases h
  · split at h <;> cases h

/-- The only fault that word characters can have is the first of them. -/
theorem nameFault?_of_isWordChar {name : String} (hne : name.toList ≠ [])
    (h : ∀ c ∈ name.toList, Text.isWordChar c = true) :
    nameFault? name = if Text.isWord name.toList then none else some (.badStart name) := by
  unfold nameFault?
  split
  · next hnil => exact absurd hnil hne
  · next c rest hcons =>
    rw [hcons] at h ⊢
    have hrest : rest.all Text.isWordChar = true :=
      List.all_eq_true.mpr (List.forall_mem_cons.mp h).2
    rw [Text.isWord, hrest, Bool.and_true]
    cases Text.isWordStart c <;> rfl

namespace TypeName

theorem ofLocal_of_fault {name : String} {fault : ReferenceFault}
    (h : nameFault? name = some fault) : ofLocal name = .error (.reference fault) := by
  unfold ofLocal
  split
  · next hnone =>
    rw [hnone] at h
    cases h
  · next fault' hfault =>
    rw [hfault] at h
    rw [Option.some.inj h]

theorem ofLocal_of_valid {name : String} (h : nameFault? name = none) :
    ofLocal name = .ok ⟨none, name, h⟩ := by
  unfold ofLocal
  split
  · rfl
  · next fault hfault =>
    rw [hfault] at h
    cases h

/-- **Which tokens are identifiers.**  The token of a path that an import accepts is not empty and
consists of word characters.  It is accepted as the name of a type unless the segment that names the
package begins with a number that the token is not guarded against; then it is refused for its first
character. -/
theorem ofLocal_defaultToken (path : String) (i : Import) (hpath : Import.ofPath path = .ok i) :
    defaultToken path ≠ "" ∧ (∀ c ∈ (defaultToken path).toList, Text.isWordChar c = true) ∧
      ∃ c rest, Token.namingSegment path.toList = c :: rest ∧
        (Text.isUnguardedNumber c = false →
          ∃ t, ofLocal (defaultToken path) = .ok t ∧ t.name = defaultToken path) ∧
        (Text.isUnguardedNumber c = true →
          ofLocal (defaultToken path) = .error (.reference (.badStart (defaultToken path)))) := by
  obtain ⟨rfl, -⟩ := Import.ofPath_eq_ok_iff.mp hpath
  have hnaming : Token.namingSegment i.path.toList ≠ [] :=
    ne_nil_of_mem_segments i.valid (Token.namingSegment_mem_segments _)
  obtain ⟨c, rest, hsegment⟩ := List.exists_cons_of_ne_nil hnaming
  obtain ⟨more, hmore⟩ := Token.exists_derive_eq hsegment
  have hwords := isWordChar_of_mem_defaultToken i.path
  have hne : (defaultToken i.path).toList ≠ [] := by
    rw [toList_defaultToken, hmore]
    exact Token.guardDigit_ne_nil _ _
  have hfault := nameFault?_of_isWordChar hne hwords
  have hword : Text.isWord (defaultToken i.path).toList = !Text.isUnguardedNumber c := by
    have hclean : ∀ a ∈ Token.clean c :: more.map Token.clean, Text.isWordChar a = true :=
      List.forall_mem_cons.mpr ⟨Token.isWordChar_clean c,
        List.forall_mem_map.mpr fun a _ => Token.isWordChar_clean a⟩
    rw [toList_defaultToken, hmore, Token.isWord_guardDigit hclean,
      Token.isDigit_or_isWordStart_clean]
  rw [hword] at hfault
  refine ⟨fun hempty => hne (by rw [hempty]; rfl), hwords, c, rest, hsegment, ?_, ?_⟩
  · intro hc
    rw [hc] at hfault
    exact ⟨_, ofLocal_of_valid hfault, rfl⟩
  · intro hc
    rw [hc] at hfault
    exact ofLocal_of_fault hfault

/-- The segment before the version begins with a digit, which gets an underscore in front. -/
theorem guardedToken_accepted :
    ∃ i t, Import.ofPath "tools/3d-π.v2/v4" = .ok i ∧
      ofLocal (defaultToken "tools/3d-π.v2/v4") = .ok t ∧ t.name = "_3d_π" := by
  let i : Import := ⟨"tools/3d-π.v2/v4", none, by decide +kernel⟩
  have hi : Import.ofPath "tools/3d-π.v2/v4" = .ok i := Import.ofPath_eq_ok_iff.mpr ⟨rfl, rfl⟩
  have htoken : defaultToken "tools/3d-π.v2/v4" = "_3d_π" := by decide +kernel
  have hsegment : Token.namingSegment "tools/3d-π.v2/v4".toList = "3d-π.v2".toList := by
    decide +kernel
  obtain ⟨-, -, c, rest, hc, haccepted, -⟩ := ofLocal_defaultToken _ i hi
  have hhead : '3' = c := (List.cons.inj (hsegment.symm.trans hc)).1
  obtain ⟨t, ht, hname⟩ := haccepted (by rw [← hhead]; decide +kernel)
  exact ⟨i, t, hi, ht, hname.trans htoken⟩

/-- A superscript two is a path, and its token, but not the name of a type. -/
theorem superscriptToken_refused :
    (∃ i, Import.ofPath "²" = .ok i) ∧ defaultToken "²" = "²" ∧
      ofLocal (defaultToken "²") = .error (.reference (.badStart "²")) := by
  have htoken : defaultToken "²" = "²" := by decide +kernel
  let i : Import := ⟨"²", none, by decide +kernel⟩
  refine ⟨⟨i, Import.ofPath_eq_ok_iff.mpr ⟨rfl, rfl⟩⟩, htoken, ?_⟩
  rw [htoken]
  exact ofLocal_of_fault (by decide +kernel)

end TypeName

end SourcePress
