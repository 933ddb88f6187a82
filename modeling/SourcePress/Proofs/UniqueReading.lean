import SourcePress.Proofs.TokenCharacters

/-!
# A text is the text of one type

A type is printed without parentheses: `*` and `[]` stand in front of what they apply to, and the key
of a map stands between brackets in front of its value.  A name may be `map`, and a token may end in
digits that belong to it or were put behind it.  Still the text of a type determines the type, as far
as the printed unit can tell types apart: a name of the home package is printed like a name of the
unit's own, so these two are the same here (`TypeRef.within`).

The text is read from the left.  What it begins with, a star, a pair of brackets, the word `map` with
a bracket or a whole name, says which constructor the type has (`readOpening_text`), because a name
is never followed by a character that could belong to it, nor by an opening bracket
(`TypeRef.Follows`).  What is left is again the text of a type with something behind it that may
follow a type.  So the induction is over types, with arbitrary texts behind them
(`within_eq_of_text_append_eq`).

Names need more.  Neither a token nor a name has a dot in it, so the dot between them can be found
again (`dotted_inj`), and no two packages have the same token.  The first fails for a package that is
printed under a name that was asked for, which may be any text.
-/

namespace SourcePress

/-! ## Types as the home package sees them -/

namespace TypeName

/-- The name as the unit at `home` sees it: a name of the home package is one of its own. -/
def within (home : Option String) (t : TypeName) : TypeName :=
  { t with package := t.package.filter fun i => home ≠ some i.path }

/-- The token that is printed in front of the name, if there is one. -/
def qualifier? (r : Registry) (t : TypeName) : Option String :=
  t.package.bind fun i => r.qualifier? i.path

theorem package_within_of_eq {home : Option String} {t : TypeName} {i : Import}
    (hi : t.package = some i) (h : home = some i.path) : (t.within home).package = none := by
  simp [within, hi, h, Option.filter_some]

theorem package_within_of_ne {home : Option String} {t : TypeName} {i : Import}
    (hi : t.package = some i) (h : home ≠ some i.path) : (t.within home).package = some i := by
  simp [within, hi, h, Option.filter_some]

theorem package_within_of_none {home : Option String} {t : TypeName} (ht : t.package = none) :
    (t.within home).package = none := by
  simp [within, ht]

/-- The token is that of the package that is left from the home package's point of view. -/
theorem qualifier?_within (r : Registry) (t : TypeName) :
    (t.within r.home).qualifier? r = t.qualifier? r := by
  rw [qualifier?, qualifier?]
  cases hp : t.package with
  | none => rw [package_within_of_none hp]
  | some i =>
    by_cases hhome : r.home = some i.path
    · rw [package_within_of_eq hp hhome]
      exact (Registry.qualifier?_of_home hhome).symm
    · rw [package_within_of_ne hp hhome]

theorem package_within_of_qualifier?_eq_none {r : Registry} {t : TypeName}
    (h : t.qualifier? r = none) : (t.within r.home).package = none := by
  cases hp : t.package with
  | none => exact package_within_of_none hp
  | some i =>
    rw [qualifier?, hp] at h
    exact package_within_of_eq hp (Registry.qualifier?_eq_none_iff.mp h)

theorem isWordChar_of_mem_name (t : TypeName) : ∀ c ∈ t.name.toList, Text.isWordChar c = true :=
  fun _ hc => Text.isWordChar_of_isWord (nameFault?_eq_none_iff.mp t.valid) hc

theorem name_ne_nil (t : TypeName) : t.name.toList ≠ [] := by
  intro h
  have hword := nameFault?_eq_none_iff.mp t.valid
  rw [h] at hword
  cases hword

end TypeName

namespace TypeRef

/-- The reference as the unit at `home` sees it: names of the home package are the unit's own. -/
def within (home : Option String) : TypeRef → TypeRef
  | .named t => .named (t.within home)
  | .declared name => .declared name
  | .pointer inner => .pointer (inner.within home)
  | .slice element => .slice (element.within home)
  | .map key value => .map (key.within home) (value.within home)
  | .described path name needs => .described path name needs

theorem text_named (r : Registry) (t : TypeName) :
    (named t).text r = dotted (t.qualifier? r) t.name :=
  text_eq_spell r (named t)

/-- The text shows nothing but what the home package sees. -/
theorem text_within (r : Registry) (t : TypeRef) : (t.within r.home).text r = t.text r := by
  induction t with
  | named t =>
    rw [within, text_named, text_named, TypeName.qualifier?_within]
    rfl
  | declared name => rfl
  | pointer inner ih => rw [within, text, text, ih]
  | slice element ih => rw [within, text, text, ih]
  | map key value ihk ihv => rw [within, text, text, ihk, ihv]
  | described path name needs => rfl

/-! ## Types whose packages are registered -/

/-- Is the reference built by pointers, slices and maps from names that do not ask for a name of
their package? -/
def isUnaliased : TypeRef → Bool
  | .named t => t.package.all fun i => i.asName = none
  | .declared _ => false
  | .pointer inner => inner.isUnaliased
  | .slice element => element.isUnaliased
  | .map key value => key.isUnaliased && value.isUnaliased
  | .described _ _ _ => false

/-- The reference asks for no names, and the registry knows all packages that it needs. -/
structure Settled (r : Registry) (t : TypeRef) : Prop where
  unaliased : t.isUnaliased = true
  knows : ∀ path ∈ t.imports.paths, r.Knows path

namespace Settled

variable {r : Registry}

theorem inner {t : TypeRef} (h : (pointer t).Settled r) : t.Settled r := ⟨h.unaliased, h.knows⟩

theorem element {t : TypeRef} (h : (slice t).Settled r) : t.Settled r := ⟨h.unaliased, h.knows⟩

theorem key {k v : TypeRef} (h : (map k v).Settled r) : k.Settled r where
  unaliased := (Bool.and_eq_true_iff.mp h.unaliased).1
  knows path hpath := h.knows path (ImportSet.mem_paths_merge.mpr (Or.inl hpath))

theorem value {k v : TypeRef} (h : (map k v).Settled r) : v.Settled r where
  unaliased := (Bool.and_eq_true_iff.mp h.unaliased).2
  knows path hpath := h.knows path (ImportSet.mem_paths_merge.mpr (Or.inr hpath))

theorem package {t : TypeName} (h : (named t).Settled r) {i : Import} (hi : t.package = some i) :
    i.asName = none ∧ r.Knows i.path := by
  have hunaliased := h.unaliased
  rw [isUnaliased, hi] at hunaliased
  refine ⟨by simpa using hunaliased, h.knows i.path ?_⟩
  rw [imports, hi, ImportSet.mem_paths_ofList]
  exact ⟨i, List.mem_singleton.mpr rfl, rfl⟩

end Settled

/-! ## Names -/

theorem dot_notMem {cs : List Char} (h : ∀ c ∈ cs, Text.isWordChar c = true) : '.' ∉ cs := by
  intro hdot
  have hword := h '.' hdot
  revert hword
  decide

theorem segments_dotted {token : Option String} {name : String}
    (htoken : ∀ s ∈ token, '.' ∉ s.toList) (hname : '.' ∉ name.toList) :
    Text.segments '.' (dotted token name).toList =
      token.toList.map String.toList ++ [name.toList] := by
  cases token with
  | none => exact Text.segments_of_notMem hname
  | some s =>
    have hlist : (s ++ "." ++ name).toList = s.toList ++ '.' :: name.toList := by simp
    rw [dotted, hlist, Text.segments_append_sep, Text.segments_of_notMem (htoken s rfl),
      Text.segments_of_notMem hname]
    rfl

/-- The dot between a token and a name can be found again. -/
theorem dotted_inj {token token' : Option String} {name name' : String}
    (htoken : ∀ s ∈ token, '.' ∉ s.toList) (hname : '.' ∉ name.toList)
    (htoken' : ∀ s ∈ token', '.' ∉ s.toList) (hname' : '.' ∉ name'.toList)
    (h : dotted token name = dotted token' name') : token = token' ∧ name = name' := by
  have hsegments := congrArg (fun s : String => Text.segments '.' s.toList) h
  simp only [segments_dotted htoken hname, segments_dotted htoken' hname',
    List.append_singleton_inj] at hsegments
  obtain ⟨htokens, hnames⟩ := hsegments
  refine ⟨?_, String.toList_inj.mp hnames⟩
  cases token with
  | none =>
    cases token' with
    | none => rfl
    | some s' => cases htokens
  | some s =>
    cases token' with
    | none => cases htokens
    | some s' => rw [String.toList_inj.mp (List.cons.inj htokens).1]

/-! ## Reading from the left -/

/-- May the character stand in a name, with or without a token in front? -/
def isNameChar (c : Char) : Bool := Text.isWordChar c || c == '.'

theorem isNameChar_of_isWordChar {c : Char} (h : Text.isWordChar c = true) :
    isNameChar c = true := by
  rw [isNameChar, h, Bool.true_or]

/-- What the text of a type begins with: a whole name, or the mark of a pointer, of a slice or of a
map. -/
inductive Opening where
  | name (cs : List Char)
  | star
  | brackets
  | table
deriving DecidableEq, Repr

/-- Read what a text begins with.  The second component is what stands behind it. -/
def readOpening : List Char → Opening × List Char
  | '*' :: rest => (.star, rest)
  | '[' :: ']' :: rest => (.brackets, rest)
  | cs =>
    match cs.dropWhile isNameChar with
    | '[' :: rest => (.table, rest)
    | rest => (.name (cs.takeWhile isNameChar), rest)

/-- The text may stand behind a type: it is empty, or begins with a character that neither belongs to
a name nor opens a bracket. -/
def Follows (rest : List Char) : Prop := ∀ c ∈ rest.head?, isNameChar c = false ∧ c ≠ '['

theorem follows_nil : Follows [] := by
  intro c hc
  cases hc

theorem follows_closing (rest : List Char) : Follows (']' :: rest) := by
  intro c hc
  rw [← Option.some.inj hc]
  decide

theorem Follows.takeWhile_eq {rest : List Char} (h : Follows rest) :
    rest.takeWhile isNameChar = [] := by
  cases rest with
  | nil => rfl
  | cons c cs =>
    rw [List.takeWhile_cons, (h c rfl).1]
    rfl

theorem Follows.dropWhile_eq {rest : List Char} (h : Follows rest) :
    rest.dropWhile isNameChar = rest := by
  cases rest with
  | nil => rfl
  | cons c cs =>
    rw [List.dropWhile_cons, (h c rfl).1]
    rfl

theorem readOpening_name {cs rest : List Char} (hne : cs ≠ [])
    (hcs : ∀ c ∈ cs, isNameChar c = true) (hrest : Follows rest) :
    readOpening (cs ++ rest) = (.name cs, rest) := by
  have htake : (cs ++ rest).takeWhile isNameChar = cs := by
    rw [List.takeWhile_append_of_pos hcs, hrest.takeWhile_eq, List.append_nil]
  have hdrop : (cs ++ rest).dropWhile isNameChar = rest := by
    rw [List.dropWhile_append_of_pos hcs, hrest.dropWhile_eq]
  obtain ⟨a, tail, rfl⟩ := List.exists_cons_of_ne_nil hne
  have ha : ∀ c, isNameChar c = false → a ≠ c := by
    rintro c hc rfl
    exact Bool.noConfusion (hc.symm.trans (hcs a (List.mem_cons_self ..)))
  rw [readOpening, htake, hdrop]
  · split
    · exact absurd rfl (hrest '[' rfl).2
    · rfl
  · intro _ e
    exact ha '*' (by decide) (List.cons.inj e).1
  · intro _ e
    exact ha '[' (by decide) (List.cons.inj e).1

theorem readOpening_table (rest : List Char) :
    readOpening ('m' :: 'a' :: 'p' :: '[' :: rest) = (.table, rest) := by
  have hdrop : ('m' :: 'a' :: 'p' :: '[' :: rest).dropWhile isNameChar = '[' :: rest := by
    have hword : ['m', 'a', 'p'].all isNameChar = true := by decide
    exact List.dropWhile_append_of_pos (List.all_eq_true.mp hword)
  rw [readOpening]
  · rw [hdrop]
    rfl
  · intro _ e
    exact absurd (List.cons.inj e).1 (by decide)
  · intro _ e
    exact absurd (List.cons.inj e).1 (by decide)

/-- What the text of the reference begins with. -/
def opening (r : Registry) : TypeRef → Opening
  | .pointer _ => .star
  | .slice _ => .brackets
  | .map _ _ => .table
  | t => .name (t.text r).toList

/-- What stands behind the opening. -/
def remainder (r : Registry) : TypeRef → List Char
  | .pointer inner => (inner.text r).toList
  | .slice element => (element.text r).toList
  | .map key value => (key.text r).toList ++ ']' :: (value.text r).toList
  | _ => []

section Openings

variable {r : Registry} {t : TypeRef}

theorem exists_named_of_opening (ht : t.isUnaliased = true) {cs : List Char}
    (h : t.opening r = .name cs) : ∃ name, t = named name := by
  cases t with
  | named name => exact ⟨name, rfl⟩
  | declared name => cases ht
  | described path name needs => cases ht
  | _ => cases h

theorem exists_pointer_of_opening (h : t.opening r = .star) : ∃ inner, t = pointer inner := by
  cases t with
  | pointer inner => exact ⟨inner, rfl⟩
  | _ => cases h

theorem exists_slice_of_opening (h : t.opening r = .brackets) : ∃ element, t = slice element := by
  cases t with
  | slice element => exact ⟨element, rfl⟩
  | _ => cases h

theorem exists_map_of_opening (h : t.opening r = .table) : ∃ key value, t = map key value := by
  cases t with
  | map key value => exact ⟨key, value, rfl⟩
  | _ => cases h

end Openings

theorem text_named_ne_nil (r : Registry) (t : TypeName) : ((named t).text r).toList ≠ [] := by
  rw [text_named]
  cases t.qualifier? r with
  | none => exact t.name_ne_nil
  | some token =>
    rw [dotted, String.toList_append]
    exact List.append_ne_nil_of_right_ne_nil _ t.name_ne_nil

section Reading

variable {r : Registry} (hwords : r.HasWordTokens)

include hwords

theorem isWordChar_of_mem_qualifier? {t : TypeName} {token : String}
    (h : t.qualifier? r = some token) : ∀ c ∈ token.toList, Text.isWordChar c = true := by
  obtain ⟨i, -, hi⟩ := Option.bind_eq_some_iff.mp h
  exact hwords.isWordChar_of_qualifier? hi

theorem isNameChar_of_mem_text (t : TypeName) :
    ∀ c ∈ ((named t).text r).toList, isNameChar c = true := by
  have hname : ∀ c ∈ t.name.toList, isNameChar c = true := fun c hc =>
    isNameChar_of_isWordChar (t.isWordChar_of_mem_name c hc)
  rw [text_named]
  cases htoken : t.qualifier? r with
  | none => exact hname
  | some token =>
    have hdot : ".".toList.all isNameChar = true := by decide
    rw [dotted, String.toList_append, String.toList_append, List.forall_mem_append,
      List.forall_mem_append]
    refine ⟨⟨fun c hc => ?_, List.all_eq_true.mp hdot⟩, hname⟩
    exact isNameChar_of_isWordChar (isWordChar_of_mem_qualifier? hwords htoken c hc)

/-- **Reading off the constructor** of a type from its text, with any text behind it that may stand
there. -/
theorem readOpening_text {t : TypeRef} (ht : t.isUnaliased = true) {rest : List Char}
    (hrest : Follows rest) :
    readOpening ((t.text r).toList ++ rest) = (t.opening r, t.remainder r ++ rest) := by
  cases t with
  | named t => exact readOpening_name (text_named_ne_nil r t) (isNameChar_of_mem_text hwords t) hrest
  | declared name => cases ht
  | pointer inner =>
    rw [text, String.toList_append]
    rfl
  | slice element =>
    rw [text, String.toList_append]
    rfl
  | map key value =>
    have hlist : ((map key value).text r).toList ++ rest =
        'm' :: 'a' :: 'p' :: '[' :: ((map key value).remainder r ++ rest) := by
      rw [text]
      simp [remainder]
    rw [hlist, readOpening_table]
    rfl
  | described path name needs => cases ht

theorem opening_eq_of_text_append_eq {t u : TypeRef} (ht : t.Settled r) (hu : u.Settled r)
    {rest rest' : List Char} (hrest : Follows rest) (hrest' : Follows rest')
    (h : (t.text r).toList ++ rest = (u.text r).toList ++ rest') :
    t.opening r = u.opening r ∧ t.remainder r ++ rest = u.remainder r ++ rest' := by
  have hread := congrArg readOpening h
  rw [readOpening_text hwords ht.unaliased hrest,
    readOpening_text hwords hu.unaliased hrest'] at hread
  exact Prod.mk.inj hread

variable (hr : r.Consistent)

include hr

/-- Names that are printed alike are the same name. -/
theorem within_eq_of_text_named_eq {t u : TypeName} (ht : (named t).Settled r)
    (hu : (named u).Settled r) (h : (named t).text r = (named u).text r) :
    t.within r.home = u.within r.home := by
  have hdot : ∀ v : TypeName, ∀ s ∈ v.qualifier? r, '.' ∉ s.toList := fun v s hs =>
    dot_notMem (isWordChar_of_mem_qualifier? hwords hs)
  rw [text_named, text_named] at h
  obtain ⟨htoken, hname⟩ := dotted_inj (hdot t) (dot_notMem t.isWordChar_of_mem_name) (hdot u)
    (dot_notMem u.isWordChar_of_mem_name) h
  refine TypeName.ext ?_ hname
  cases hq : t.qualifier? r with
  | none =>
    rw [TypeName.package_within_of_qualifier?_eq_none hq,
      TypeName.package_within_of_qualifier?_eq_none (htoken.symm.trans hq)]
  | some token =>
    -- both have a package, and the token leads to its path
    obtain ⟨i, hi, hti⟩ := Option.bind_eq_some_iff.mp hq
    obtain ⟨j, hj, htj⟩ := Option.bind_eq_some_iff.mp (htoken.symm.trans hq)
    obtain ⟨hiname, -⟩ := ht.package hi
    obtain ⟨hjname, hknown⟩ := hu.package hj
    have hpath : i.path = j.path := hr.eq_of_qualifier?_eq hknown (hti.trans htj.symm)
    have hij : i = j := Import.ext hpath (hiname.trans hjname.symm)
    show t.package.filter _ = u.package.filter _
    rw [hi, hj, hij]

/-- **Unique reading.**  If two texts of types are equal with texts behind them that may stand there,
the types are the same, and so are the texts behind them. -/
theorem within_eq_of_text_append_eq {t u : TypeRef} (ht : t.Settled r) (hu : u.Settled r)
    {rest rest' : List Char} (hrest : Follows rest) (hrest' : Follows rest')
    (h : (t.text r).toList ++ rest = (u.text r).toList ++ rest') :
    t.within r.home = u.within r.home ∧ rest = rest' := by
  induction t generalizing u rest rest' with
  | named t =>
    obtain ⟨hopening, hbehind⟩ := opening_eq_of_text_append_eq hwords ht hu hrest hrest' h
    obtain ⟨u, rfl⟩ := exists_named_of_opening hu.unaliased hopening.symm
    have htext : (named t).text r = (named u).text r :=
      String.toList_inj.mp (Opening.name.inj hopening)
    exact ⟨congrArg named (within_eq_of_text_named_eq hwords hr ht hu htext), hbehind⟩
  | declared name => cases ht.unaliased
  | pointer inner ih =>
    obtain ⟨hopening, hbehind⟩ := opening_eq_of_text_append_eq hwords ht hu hrest hrest' h
    obtain ⟨inner', rfl⟩ := exists_pointer_of_opening hopening.symm
    obtain ⟨hinner, hrests⟩ := ih ht.inner hu.inner hrest hrest' hbehind
    exact ⟨congrArg pointer hinner, hrests⟩
  | slice element ih =>
    obtain ⟨hopening, hbehind⟩ := opening_eq_of_text_append_eq hwords ht hu hrest hrest' h
    obtain ⟨element', rfl⟩ := exists_slice_of_opening hopening.symm
    obtain ⟨helement, hrests⟩ := ih ht.element hu.element hrest hrest' hbehind
    exact ⟨congrArg slice helement, hrests⟩
  | map key value ihk ihv =>
    obtain ⟨hopening, hbehind⟩ := opening_eq_of_text_append_eq hwords ht hu hrest hrest' h
    obtain ⟨key', value', rfl⟩ := exists_map_of_opening hopening.symm
    rw [remainder, remainder, List.append_assoc, List.append_assoc] at hbehind
    -- the key ends at the bracket, and the value is read behind it
    obtain ⟨hkey, hbracket⟩ := ihk ht.key hu.key (follows_closing _) (follows_closing _) hbehind
    obtain ⟨hvalue, hrests⟩ := ihv ht.value hu.value hrest hrest' (List.cons.inj hbracket).2
    exact ⟨congrArg₂ map hkey hvalue, hrests⟩
  | described path name needs => cases ht.unaliased

end Reading

/-- **Types are printed alike exactly when they are the same type**: when they are equal once the
names of the home package are taken for the unit's own.  The registry is one in which no import has
asked for a name, and the types are built from names by pointers, slices and maps, ask for no name
either, and have their imports registered. -/
theorem text_eq_text_iff (home : Option String) (imports : List Import)
    (himports : ∀ i ∈ imports, i.asName = none) (t u : TypeRef)
    (ht : t.Settled ((Registry.ofHome home).registerAll imports))
    (hu : u.Settled ((Registry.ofHome home).registerAll imports)) :
    t.text ((Registry.ofHome home).registerAll imports) =
        u.text ((Registry.ofHome home).registerAll imports) ↔
      t.within home = u.within home := by
  have hhome := Registry.home_registerAll home imports
  have hconsistent := (Registry.consistent_ofHome home).registerAll imports
  have hwords := (Registry.hasWordTokens_ofHome home).registerAll himports
  constructor
  · intro h
    have happend := congrArg (fun s : String => s.toList ++ []) h
    have hwithin :=
      (within_eq_of_text_append_eq hwords hconsistent ht hu follows_nil follows_nil happend).1
    rw [hhome] at hwithin
    exact hwithin
  · intro h
    rw [← text_within _ t, ← text_within _ u, hhome, h]

/-- Two packages that suggest the same token. -/
def clashingImports : List Import :=
  [⟨"cogs/wheel", none, by decide +kernel⟩, ⟨"mill/wheel", none, by decide +kernel⟩]

/-- A name in the package that keeps the suggested token. -/
def keptName : TypeName :=
  ⟨some ⟨"cogs/wheel", none, by decide +kernel⟩, "Map", by decide +kernel⟩

/-- The same name in the package whose token gets a number. -/
def numberedName : TypeName :=
  ⟨some ⟨"mill/wheel", none, by decide +kernel⟩, "Map", by decide +kernel⟩

/-- A name without a package, spelled as the word that a map begins with. -/
def bareName : TypeName := ⟨none, "map", by decide +kernel⟩

/-- The same name in the home package, which is printed alike. -/
def homeName : TypeName :=
  ⟨some ⟨"acme/gears", none, by decide +kernel⟩, "map", by decide +kernel⟩

/-- A map from one of the names to pointers to slices of another one. -/
def mapToSlices (key value : TypeName) : TypeRef :=
  .map (.named key) (.pointer (.slice (.named value)))

theorem mapToSlices_read :
    let r := (Registry.ofHome (some "acme/gears")).registerAll clashingImports
    (mapToSlices numberedName bareName).text r = "map[wheel2.Map]*[]map" ∧
      (mapToSlices numberedName bareName).text r = (mapToSlices numberedName homeName).text r ∧
      (mapToSlices numberedName bareName).text r ≠ (mapToSlices keptName bareName).text r := by
  intro r
  have himports : ∀ i ∈ clashingImports, i.asName = none := by decide +kernel
  have hnumbered : (mapToSlices numberedName bareName).Settled r :=
    ⟨by decide +kernel, by decide +kernel⟩
  have hhome : (mapToSlices numberedName homeName).Settled r :=
    ⟨by decide +kernel, by decide +kernel⟩
  have hkept : (mapToSlices keptName bareName).Settled r := ⟨by decide +kernel, by decide +kernel⟩
  refine ⟨by decide +kernel, ?_, fun h => ?_⟩
  · exact (text_eq_text_iff _ clashingImports himports _ _ hnumbered hhome).mpr (by decide +kernel)
  · have hwithin := (text_eq_text_iff _ clashingImports himports _ _ hnumbered hkept).mp h
    revert hwithin
    decide +kernel

end TypeRef

end SourcePress
