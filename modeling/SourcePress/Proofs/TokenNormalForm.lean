import SourcePress.Proofs.TokenCharacters

/-!
# Tokens as normal forms of paths

Many paths suggest the same token, and those that differ in a version should.  A path with a version
as one more segment, or with a version behind its last segment, is called like the path without it.
A token itself is a text that suggests nothing but itself.

Both facts rest on what the stages of `Token.derive` do to their input.  The segment that names a
package is the last one (`namingSegment_of_not_isVersion`), or the last but one if a version comes
behind it (`namingSegment_append_version`).  From that segment a version is dropped if there is one
with something before it (`dropVersion_append`), and nothing else (`dropVersion_ne_self_iff`).  What
is left is made a token, and a token has no character that any of the stages would act on
(`derive_eq_self_iff`).

Only one version is skipped at each place.  So the laws have conditions: a version behind a segment
`v2` makes `v2` the name, which was skipped before, and one behind `x.v1` leaves the first in place.
-/

namespace SourcePress

/-! ## The last segment -/

namespace Text

/-- Text without the separator goes to the end of the last segment. -/
theorem segments_append_of_notMem {sep : Char} {tail : List Char} (h : sep ∉ tail)
    (cs : List Char) :
    ∃ front last, segments sep cs = front ++ [last] ∧
      segments sep (cs ++ tail) = front ++ [last ++ tail] := by
  induction cs with
  | nil => exact ⟨[], [], rfl, segments_of_notMem h⟩
  | cons c rest ih =>
    obtain ⟨front, last, hrest, htail⟩ := ih
    by_cases hc : c = sep
    · subst hc
      refine ⟨[] :: front, last, ?_, ?_⟩
      · rw [segments_cons_sep, hrest, List.cons_append]
      · rw [List.cons_append, segments_cons_sep, htail, List.cons_append]
    · -- the character joins the first segment, which may be the last one as well
      cases front with
      | nil =>
        refine ⟨[], c :: last, ?_, ?_⟩
        · exact segments_cons_of_ne hc hrest
        · exact segments_cons_of_ne hc htail
      | cons first more =>
        refine ⟨(c :: first) :: more, last, ?_, ?_⟩
        · exact segments_cons_of_ne hc hrest
        · exact segments_cons_of_ne hc htail

end Text

namespace Token

/-- The last segment of a path. -/
def lastSegment (path : List Char) : List Char := (Text.segments '/' path).getLastD []

theorem lastSegment_of_segments {path : List Char} {front : List (List Char)} {last : List Char}
    (h : Text.segments '/' path = front ++ [last]) : lastSegment path = last := by
  rw [lastSegment, h, List.getLastD_concat]

theorem exists_segments_eq (path : List Char) :
    ∃ front, Text.segments '/' path = front ++ [lastSegment path] := by
  obtain ⟨front, last, h, -⟩ := Text.segments_append_of_notMem (List.not_mem_nil (a := '/')) path
  exact ⟨front, by rw [lastSegment_of_segments h, h]⟩

theorem lastSegment_append {tail : List Char} (h : '/' ∉ tail) (path : List Char) :
    lastSegment (path ++ tail) = lastSegment path ++ tail := by
  obtain ⟨front, last, hpath, htail⟩ := Text.segments_append_of_notMem h path
  rw [lastSegment_of_segments htail, lastSegment_of_segments hpath]

/-! ## Versions -/

/-- A number in decimal digits. -/
def IsNumber (cs : List Char) : Prop := cs ≠ [] ∧ ∀ c ∈ cs, c.isDigit = true

/-- A `v` and a number. -/
def IsVersion (cs : List Char) : Prop := ∃ number, IsNumber number ∧ cs = 'v' :: number

/-- A dot and a version stand at the end of the segment, with something before them. -/
def EndsInVersion (segment : List Char) : Prop :=
  ∃ front version, front ≠ [] ∧ IsVersion version ∧ segment = front ++ '.' :: version

theorem IsNumber.isVersion {number : List Char} (h : IsNumber number) :
    IsVersion ('v' :: number) :=
  ⟨number, h, rfl⟩

theorem isNumber_iff {cs : List Char} :
    (!cs.isEmpty && cs.all Char.isDigit) = true ↔ IsNumber cs := by
  rw [Bool.and_eq_true, Bool.not_eq_true', List.isEmpty_eq_false_iff, List.all_eq_true, IsNumber]

theorem isMajorVersion_iff {cs : List Char} : isMajorVersion cs = true ↔ IsVersion cs := by
  constructor
  · intro h
    unfold isMajorVersion at h
    split at h
    · exact (isNumber_iff.mp h).isVersion
    · cases h
  · rintro ⟨number, hnumber, rfl⟩
    exact isNumber_iff.mpr hnumber

/-- A character that is no `v` and no digit does not stand in a version. -/
theorem IsVersion.notMem {version : List Char} (h : IsVersion version) {c : Char} (hv : c ≠ 'v')
    (hdigit : c.isDigit = false) : c ∉ version := by
  obtain ⟨number, ⟨-, hdigits⟩, rfl⟩ := h
  rw [List.mem_cons, not_or]
  refine ⟨hv, fun hmem => ?_⟩
  rw [hdigits c hmem] at hdigit
  cases hdigit

theorem IsVersion.slash_notMem {version : List Char} (h : IsVersion version) : '/' ∉ version :=
  h.notMem (by decide) (by decide)

/-- **A version behind a segment is dropped**, whatever the segment is. -/
theorem dropVersion_append {front version : List Char} (hfront : front ≠ [])
    (hversion : IsVersion version) : dropVersion (front ++ '.' :: version) = front := by
  obtain ⟨number, ⟨hne, hdigits⟩, rfl⟩ := hversion
  have hreverse : (front ++ '.' :: 'v' :: number).reverse =
      number.reverse ++ 'v' :: '.' :: front.reverse := by simp
  have hall : ∀ c ∈ number.reverse, c.isDigit = true := fun c hc =>
    hdigits c (List.mem_reverse.mp hc)
  have htake : (number.reverse ++ 'v' :: '.' :: front.reverse).takeWhile Char.isDigit =
      number.reverse := by
    rw [List.takeWhile_append_of_pos hall, List.takeWhile_cons_of_neg (by decide), List.append_nil]
  have hdrop : (number.reverse ++ 'v' :: '.' :: front.reverse).dropWhile Char.isDigit =
      'v' :: '.' :: front.reverse := by
    rw [List.dropWhile_append_of_pos hall, List.dropWhile_cons_of_neg (by decide)]
  obtain ⟨d, ds, hd⟩ := List.exists_cons_of_ne_nil (List.reverse_ne_nil_iff.mpr hne)
  obtain ⟨c, cs, hc⟩ := List.exists_cons_of_ne_nil (List.reverse_ne_nil_iff.mpr hfront)
  rw [dropVersion, hreverse, htake, hdrop, hd, hc]
  show (c :: cs).reverse = front
  rw [← hc, List.reverse_reverse]

/-- Dropping a version changes the segments that end in one, and no others. -/
theorem dropVersion_ne_self_iff {segment : List Char} :
    dropVersion segment ≠ segment ↔ EndsInVersion segment := by
  constructor
  · intro h
    rcases dropVersion_cases segment with hsame | ⟨front, digits, hfront, hne, hdigits, hsegment, -⟩
    · exact absurd hsame h
    · exact ⟨front, 'v' :: digits, hfront, IsNumber.isVersion ⟨hne, hdigits⟩, hsegment⟩
  · rintro ⟨front, version, hfront, hversion, rfl⟩ h
    rw [dropVersion_append hfront hversion, List.self_eq_append_right] at h
    cases h

instance (cs : List Char) : Decidable (IsNumber cs) := decidable_of_iff _ isNumber_iff

instance (cs : List Char) : Decidable (IsVersion cs) := decidable_of_iff _ isMajorVersion_iff

instance (segment : List Char) : Decidable (EndsInVersion segment) :=
  decidable_of_iff _ dropVersion_ne_self_iff

/-! ## The segment that names a package -/

theorem namingSegment_of_not_isVersion {path : List Char} (h : ¬ IsVersion (lastSegment path)) :
    namingSegment path = lastSegment path := by
  obtain ⟨front, hpath⟩ := exists_segments_eq path
  rw [namingSegment, hpath, List.reverse_append, List.reverse_singleton, List.singleton_append]
  exact if_neg fun hmajor => h (isMajorVersion_iff.mp hmajor)

/-- A version as one more segment makes the last segment before it the name, also if that is a
version. -/
theorem namingSegment_append_version (path : List Char) {version : List Char}
    (h : IsVersion version) : namingSegment (path ++ '/' :: version) = lastSegment path := by
  obtain ⟨front, hpath⟩ := exists_segments_eq path
  rw [namingSegment, Text.segments_append_sep, Text.segments_of_notMem h.slash_notMem, hpath,
    List.reverse_append, List.reverse_append, List.reverse_singleton, List.reverse_singleton,
    List.singleton_append, List.singleton_append]
  exact if_pos (isMajorVersion_iff.mpr h)

theorem namingSegment_of_slash_notMem {path : List Char} (h : '/' ∉ path) :
    namingSegment path = path := by
  have hmem := namingSegment_mem_segments path
  rw [Text.segments_of_notMem h] at hmem
  exact List.mem_singleton.mp hmem

/-! ## Normal forms -/

/-- Word characters, the first of which is no decimal digit. -/
def IsToken (cs : List Char) : Prop :=
  (∀ c ∈ cs, Text.isWordChar c = true) ∧ ∀ c ∈ cs.head?, c.isDigit = false

theorem isToken_guardDigit {cs : List Char} (h : ∀ c ∈ cs, Text.isWordChar c = true) :
    IsToken (guardDigit cs) := by
  refine ⟨isWordChar_of_mem_guardDigit h, ?_⟩
  cases cs with
  | nil =>
    intro c hc
    cases hc
  | cons a rest =>
    rw [guardDigit]
    split
    · intro c hc
      rw [← Option.some.inj hc]
      decide
    · next hdigit =>
      intro c hc
      rw [← Option.some.inj hc]
      exact Bool.eq_false_iff.mpr hdigit

theorem guardDigit_of_isToken {cs : List Char} (h : IsToken cs) : guardDigit cs = cs := by
  cases cs with
  | nil => rfl
  | cons a rest =>
    have ha : a.isDigit = false := h.2 a rfl
    rw [guardDigit, if_neg (by simp [ha])]

/-- What is derived from a path is a token, whether or not the path is valid. -/
theorem isToken_derive (path : List Char) : IsToken (derive path) := by
  refine isToken_guardDigit fun c hc => ?_
  obtain ⟨a, -, rfl⟩ := List.mem_map.mp hc
  exact isWordChar_clean a

/-- **A text suggests itself exactly when it is a token.** -/
theorem derive_eq_self_iff {cs : List Char} : derive cs = cs ↔ IsToken cs := by
  constructor
  · intro h
    rw [← h]
    exact isToken_derive cs
  · intro h
    have hnotMem {c : Char} (hc : Text.isWordChar c = false) : c ∉ cs := fun hmem =>
      Bool.noConfusion (hc.symm.trans (h.1 c hmem))
    have hdrop : dropVersion cs = cs := by
      by_contra hne
      obtain ⟨front, version, -, -, hcs⟩ := dropVersion_ne_self_iff.mp hne
      refine hnotMem (c := '.') (by decide) ?_
      rw [hcs]
      exact List.mem_append_right _ (List.mem_cons_self ..)
    have hclean : cs.map clean = cs := by
      rw [List.map_congr_left fun c hc => clean_of_isWordChar (h.1 c hc)]
      exact List.map_id' cs
    rw [derive, namingSegment_of_slash_notMem (hnotMem (by decide)), hdrop, hclean,
      guardDigit_of_isToken h]

theorem derive_append_segment {path version : List Char} (hpath : ¬ IsVersion (lastSegment path))
    (hversion : IsVersion version) : derive (path ++ '/' :: version) = derive path := by
  rw [derive, derive, namingSegment_append_version path hversion,
    namingSegment_of_not_isVersion hpath]

theorem derive_append_suffix {path version : List Char} (hpath : ¬ IsVersion (lastSegment path))
    (hne : lastSegment path ≠ []) (hends : ¬ EndsInVersion (lastSegment path))
    (hversion : IsVersion version) : derive (path ++ '.' :: version) = derive path := by
  have hslash : '/' ∉ '.' :: version := by
    rw [List.mem_cons, not_or]
    exact ⟨by decide, hversion.slash_notMem⟩
  have hlast := lastSegment_append hslash path
  -- the dot keeps the whole from being a version
  have hnot : ¬ IsVersion (lastSegment path ++ '.' :: version) := fun h =>
    h.notMem (c := '.') (by decide) (by decide)
      (List.mem_append_right _ (List.mem_cons_self ..))
  have hsame : dropVersion (lastSegment path) = lastSegment path := by
    by_contra h
    exact hends (dropVersion_ne_self_iff.mp h)
  rw [derive, derive, namingSegment_of_not_isVersion (hlast ▸ hnot), hlast,
    dropVersion_append hne hversion, namingSegment_of_not_isVersion hpath, hsame]

end Token

/-- **Tokens are normal forms, and do not show versions.**  The token of a token is that token, and
the texts that are their own tokens are those of word characters without a leading digit.  If the
last segment of a path is not a version, then a version as one more segment does not change the
token; and neither does a version behind a dot, if that segment has characters and does not end in
such a version already. -/
theorem defaultToken_ignores_versions :
    (∀ path, defaultToken (defaultToken path) = defaultToken path) ∧
    (∀ token, defaultToken token = token ↔ Token.IsToken token.toList) ∧
    ∀ path number : String, Token.IsNumber number.toList →
      ¬ Token.IsVersion (Token.lastSegment path.toList) →
      defaultToken (path ++ "/v" ++ number) = defaultToken path ∧
        (Token.lastSegment path.toList ≠ [] →
          ¬ Token.EndsInVersion (Token.lastSegment path.toList) →
          defaultToken (path ++ ".v" ++ number) = defaultToken path) := by
  have hself (token : String) : defaultToken token = token ↔ Token.IsToken token.toList := by
    rw [← String.toList_inj, toList_defaultToken, Token.derive_eq_self_iff]
  refine ⟨fun path => ?_, hself, ?_⟩
  · rw [hself, toList_defaultToken]
    exact Token.isToken_derive path.toList
  · intro path number hnumber hpath
    rw [← String.toList_inj, ← String.toList_inj]
    simp only [toList_defaultToken, String.toList_append, List.append_assoc]
    exact ⟨Token.derive_append_segment hpath hnumber.isVersion, fun hne hends =>
      Token.derive_append_suffix hpath hne hends hnumber.isVersion⟩

/-- A version that is a whole segment with its dot is not dropped, but one behind it is. -/
theorem dottedVersion_ignored :
    defaultToken "été/.v1" = "_v1" ∧ defaultToken "été/.v1/v20" = "_v1" ∧
      defaultToken "été/.v1.v20" = "_v1" := by
  have htoken : defaultToken "été/.v1" = "_v1" := by decide +kernel
  obtain ⟨hsegment, hsuffix⟩ := defaultToken_ignores_versions.2.2 "été/.v1" "20"
    (by decide +kernel) (by decide +kernel)
  exact ⟨htoken, hsegment.trans htoken,
    (hsuffix (by decide +kernel) (by decide +kernel)).trans htoken⟩

-- neither condition on the last segment can be left out
example : defaultToken "mast/v2" = "mast" ∧ defaultToken "mast/v2/v3" = "v2" ∧
    defaultToken "mast.v2" = "mast" ∧ defaultToken "mast.v2.v3" = "mast_v2" := by
  decide +kernel

end SourcePress
