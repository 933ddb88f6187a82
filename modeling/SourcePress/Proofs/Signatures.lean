import SourcePress.Proofs.DeclarationImports
import SourcePress.Proofs.SuppliedLines
import SourcePress.Proofs.UniqueReading

/-!
# The text of a signature

A signature is one statement that is joined from many: a name, parentheses, commas, and for each
parameter an optional name, optional dots and a type.  All of them render, so the text of the whole
is the texts of the parts behind one another (`Statement.text_append`), and a signature is printed
as `Func.signatureText` says, whatever names and types it has (`render_signature`).

If the names are identifiers and the types are names, pointers, slices and maps, the signature can
be read back from the text.  A parameter ends at a comma, at a closing parenthesis or at the end of
the text, none of which can stand in it.  It has a name exactly if there is a blank in it, since the
text of a type has none, and no type begins with two dots.  So a parameter is determined by the text
with anything behind it that may stand there (`Parameter.within_eq_of_text_append_eq`); lists of
parameters follow by induction, and the three ways to print results differ in their first two
characters (`readForm_resultText`).
-/

namespace SourcePress

/-! ## The text of joined statements -/

/-- Behind a template that is filled, the rest is read on its own, with the arguments that are
left. -/
theorem Template.Filled.substitute_append {cs : List Char} {args : List Value}
    {ps : List Template.Piece} (h : Template.Filled (Template.items cs) args ps)
    (name : TypeRef → String) (rest : List Char) (more : List Value) :
    Template.substitute name (cs ++ rest) (args ++ more) =
      Template.substitute name cs args ++ Template.substitute name rest more := by
  induction cs using Template.items.induct generalizing args ps with
  | case1 =>
    cases h
    rw [List.nil_append, List.nil_append, Template.substitute, String.empty_append]
  | case2 => cases h
  | case3 c tail ih =>
    rw [Template.items_dollar] at h
    cases h with
    | dollar h =>
      rw [List.cons_append, List.cons_append, Template.substitute, ih h, Template.substitute,
        String.append_assoc]
    | literal s h =>
      rw [List.cons_append, List.cons_append, List.cons_append, Template.substitute, ih h,
        Template.substitute, String.append_assoc]
    | type t h =>
      rw [List.cons_append, List.cons_append, List.cons_append, Template.substitute, ih h,
        Template.substitute, String.append_assoc]
  | case4 c tail hlast hnext ih =>
    have hc : c ≠ '$' := Template.ne_dollar hlast hnext
    rw [Template.items_plain hc] at h
    cases h with
    | plain _ h =>
      rw [List.cons_append, Template.substitute_plain name hc, ih h,
        Template.substitute_plain name hc, String.append_assoc]

namespace Statement

/-- The text of a statement that renders, if types are called as `name` says. -/
def text (name : TypeRef → String) (s : Statement) : String :=
  Template.substitute name s.template.toList s.args

/-- **The texts of joined statements stand behind one another.** -/
theorem text_append {s : Statement} (hs : s.renderError? = none) (name : TypeRef → String)
    (t : Statement) : (s ++ t).text name = s.text name ++ t.text name := by
  obtain ⟨ps, hps⟩ := renderError?_eq_none_iff.mp hs
  rw [text, template_append, args_append, String.toList_append,
    (Template.pieces_eq_ok_iff.mp hps).substitute_append]
  rfl

/-- A statement that renders registers its imports, and is printed under the registry that has
them. -/
theorem render_of_renderError? {s : Statement} (hs : s.renderError? = none) (r : Registry) :
    Template.render s.template s.args r =
      .ok (s.text (TypeRef.text (r.registerAll s.needs))) (r.registerAll s.needs) := by
  obtain ⟨ps, hps⟩ := renderError?_eq_none_iff.mp hs
  have hfilled := Template.pieces_eq_ok_iff.mp hps
  have himports : ps.flatMap Template.Piece.imports = s.needs := hfilled.imports_eq
  rw [Template.render_of_pieces hps, himports, Template.print_eq_substitute hfilled]
  rfl

/-- A statement without directives is its template. -/
theorem text_of_notMem (name : TypeRef → String) {template : String} (h : '$' ∉ template.toList)
    (before after : Int) :
    (⟨template, [], before, after⟩ : Statement).text name = template :=
  Template.substitute_text name h

end Statement

/-! ## Parameters and results -/

open Statement (renderError?_of_accepts renderError?_append)

namespace Parameter

/-- The text of a parameter without its name: dots if it is variadic, and its type. -/
def typeText (name : TypeRef → String) (p : Parameter) : String :=
  (if p.variadic then "..." else "") ++ name p.type

/-- The text of a parameter: its name and a blank if it has one, and what it is. -/
def text (name : TypeRef → String) (p : Parameter) : String :=
  (if p.name = "" then "" else p.name ++ " ") ++ p.typeText name

/-- The texts of parameters with commas between them. -/
def joined (name : TypeRef → String) (ps : List Parameter) : String :=
  ", ".intercalate (ps.map (text name))

theorem text_statement (name : TypeRef → String) (p : Parameter) :
    p.statement.text name = p.text name := by
  have hname := Statement.renderError?_optionalName p.name
  have hdots := Statement.renderError?_dots p.variadic
  rw [statement, Statement.text_append (renderError?_append hname hdots),
    Statement.text_append hname, text, typeText, ← String.append_assoc]
  congr 1
  · congr 1
    · by_cases h : p.name = ""
      · simp [h, Statement.text, Template.substitute]
      · simp [h, Statement.text, Template.substitute]
    · cases p.variadic with
      | false => exact Statement.text_of_notMem name (by decide) 0 0
      | true => exact Statement.text_of_notMem name (by decide) 0 0
  · simp [Statement.text, Template.substitute]

theorem text_listing (name : TypeRef → String) (ps : List Parameter) :
    (listing ps).text name = joined name ps := by
  induction ps using listing.induct with
  | case1 => rfl
  | case2 p =>
    rw [listing, text_statement, joined, List.map_singleton, String.intercalate_singleton]
  | case3 p rest hrest ih =>
    have hcomma : ({ template := ", " } : Statement).renderError? = none :=
      renderError?_of_accepts [] (by decide) rfl
    have hmap : rest.map (text name) ≠ [] := by
      simpa using fun h : rest = [] => hrest h
    rw [listing.eq_3 p rest hrest,
      Statement.text_append (renderError?_append p.renderError?_statement hcomma),
      Statement.text_append p.renderError?_statement, ih, text_statement,
      Statement.text_of_notMem name (by decide), joined, joined, List.map_cons,
      String.intercalate_cons_of_ne_nil hmap]

end Parameter

namespace Func

/-- How the results of a function are printed. -/
inductive ResultForm where
  /-- There is no result. -/
  | absent
  /-- The only result has no name, and stands without parentheses. -/
  | bare
  /-- The results stand in parentheses. -/
  | parenthesized
deriving DecidableEq, Repr

/-- The form of a list of results. -/
def resultForm : List Parameter → ResultForm
  | [] => .absent
  | [only] => if only.name = "" then .bare else .parenthesized
  | _ => .parenthesized

/-- The text of the results with what stands around them. -/
def resultText (name : TypeRef → String) (results : List Parameter) : String :=
  match resultForm results with
  | .absent => ""
  | .bare => " " ++ Parameter.joined name results
  | .parenthesized => " (" ++ Parameter.joined name results ++ ")"

theorem resultText_of_absent (name : TypeRef → String) {results : List Parameter}
    (h : resultForm results = .absent) : resultText name results = "" := by
  rw [resultText, h]

theorem resultText_of_bare (name : TypeRef → String) {results : List Parameter}
    (h : resultForm results = .bare) :
    resultText name results = " " ++ Parameter.joined name results := by
  rw [resultText, h]

theorem resultText_of_parenthesized (name : TypeRef → String) {results : List Parameter}
    (h : resultForm results = .parenthesized) :
    resultText name results = " (" ++ Parameter.joined name results ++ ")" := by
  rw [resultText, h]

/-- The text of the signature. -/
def signatureText (name : TypeRef → String) (f : Func) : String :=
  f.name ++ "(" ++ Parameter.joined name f.params ++ ")" ++ resultText name f.results

/-- In parentheses there is the listing of all results, also of a single one. -/
theorem resultPart_of_parenthesized {results : List Parameter}
    (h : resultForm results = .parenthesized) :
    resultPart results =
      { template := " (" } ++ Parameter.listing results ++ { template := ")" } := by
  match results, h with
  | [only], h =>
    have hname : only.name ≠ "" := by
      intro hname
      rw [resultForm, if_pos hname] at h
      cases h
    rw [resultPart, if_neg (by simpa using hname)]
    rfl
  | p :: q :: rest, _ => rfl

theorem exists_of_bare {results : List Parameter} (h : resultForm results = .bare) :
    ∃ only, results = [only] ∧ only.name = "" := by
  match results, h with
  | [only], h =>
    refine ⟨only, rfl, ?_⟩
    by_contra hname
    rw [resultForm, if_neg hname] at h
    cases h

theorem eq_nil_of_absent {results : List Parameter} (h : resultForm results = .absent) :
    results = [] := by
  match results, h with
  | [], _ => rfl
  | [only], h =>
    rw [resultForm] at h
    split at h <;> cases h

theorem text_resultPart (name : TypeRef → String) (results : List Parameter) :
    (resultPart results).text name = resultText name results := by
  cases h : resultForm results with
  | absent =>
    rw [eq_nil_of_absent h]
    rfl
  | bare =>
    rw [resultText_of_bare name h]
    obtain ⟨only, rfl, hname⟩ := exists_of_bare h
    have hblank : ({ template := " " } : Statement).renderError? = none :=
      renderError?_of_accepts [] (by decide) rfl
    rw [resultPart, if_pos (by simpa using hname), Statement.text_append hblank,
      Parameter.text_statement, Statement.text_of_notMem name (by decide), Parameter.joined,
      List.map_singleton, String.intercalate_singleton]
  | parenthesized =>
    have hopen : ({ template := " (" } : Statement).renderError? = none :=
      renderError?_of_accepts [] (by decide) rfl
    have hlisting := Parameter.renderError?_listing results
    rw [resultText_of_parenthesized name h, resultPart_of_parenthesized h,
      Statement.text_append (renderError?_append hopen hlisting),
      Statement.text_append hopen, Parameter.text_listing,
      Statement.text_of_notMem name (by decide), Statement.text_of_notMem name (by decide)]

/-- **The text of a signature**, whatever its names and types are. -/
theorem text_signature (name : TypeRef → String) (f : Func) :
    f.signature.text name = f.signatureText name := by
  have hname : ({ template := "$L(", args := [.literal f.name] } : Statement).renderError? = none :=
    renderError?_of_accepts [.literal] (by decide) rfl
  have hclose : ({ template := ")" } : Statement).renderError? = none :=
    renderError?_of_accepts [] (by decide) rfl
  have hfront := renderError?_append hname (Parameter.renderError?_listing f.params)
  have hnametext : ({ template := "$L(", args := [.literal f.name] } : Statement).text name =
      f.name ++ "(" := by
    simp [Statement.text, Template.substitute]
  rw [signature, Statement.text_append (renderError?_append hfront hclose),
    Statement.text_append hfront, Statement.text_append hname, hnametext, Parameter.text_listing,
    Statement.text_of_notMem name (by decide), text_resultPart, signatureText]

theorem registerAll_signatureImports (f : Func) (r : Registry) :
    r.registerAll f.signature.needs = r.registerAll f.signatureImports.toList := by
  rw [signatureImports_eq_ofRefs, ImportSet.ofRefs_eq_ofList, Registry.registerAll_toList_ofList]
  rfl

/-- A signature renders under every registry, and its types are called as they are after its imports
have been registered. -/
theorem render_signature (f : Func) (r : Registry) :
    Template.render f.signature.template f.signature.args r =
      .ok (f.signatureText (TypeRef.text (r.registerAll f.signatureImports.toList)))
        (r.registerAll f.signatureImports.toList) := by
  rw [Statement.render_of_renderError? f.renderError?_signature, text_signature,
    registerAll_signatureImports]

end Func

/-! ## Reading a parameter -/

/-- If neither of two texts has the separator in it, it is found at the same place. -/
theorem Text.eq_of_append_sep_eq {sep : Char} {front front' back back' : List Char}
    (hfront : sep ∉ front) (hfront' : sep ∉ front')
    (h : front ++ sep :: back = front' ++ sep :: back') : front = front' ∧ back = back' := by
  induction front generalizing front' with
  | nil =>
    cases front' with
    | nil => exact ⟨rfl, (List.cons.inj h).2⟩
    | cons c cs => exact absurd (List.mem_cons.mpr (Or.inl (List.cons.inj h).1)) hfront'
  | cons c cs ih =>
    cases front' with
    | nil => exact absurd (List.mem_cons.mpr (Or.inl (List.cons.inj h).1.symm)) hfront
    | cons d ds =>
      rw [List.mem_cons, not_or] at hfront hfront'
      obtain ⟨hhead, htail⟩ := List.cons.inj h
      obtain ⟨hrest, hback⟩ := ih hfront.2 hfront'.2 htail
      exact ⟨by rw [hhead, hrest], hback⟩

theorem Text.notMem_of_nameFault? {name : String} (h : nameFault? name = none) {c : Char}
    (hc : Text.isWordChar c = false) : c ∉ name.toList := by
  intro hmem
  have hword := Text.isWordChar_of_isWord (nameFault?_eq_none_iff.mp h) hmem
  exact Bool.noConfusion (hc.symm.trans hword)

namespace TypeRef

instance (r : Registry) (t : TypeRef) : Decidable (t.Settled r) :=
  decidable_of_iff (t.isUnaliased = true ∧ ∀ path ∈ t.imports.paths, r.Knows path)
    ⟨fun h => ⟨h.1, h.2⟩, fun h => ⟨h.unaliased, h.knows⟩⟩

/-- May the text of a type, or of a parameter, begin with the character? -/
def isStart (c : Char) : Bool := isNameChar c || c == '*' || c == '['

section Starts

variable {r : Registry} (hwords : r.HasWordTokens)

include hwords

theorem exists_head_text {t : TypeRef} (ht : t.isUnaliased = true) :
    ∃ c cs, (t.text r).toList = c :: cs ∧ isStart c = true := by
  cases t with
  | named t =>
    obtain ⟨c, cs, hcs⟩ := List.exists_cons_of_ne_nil (text_named_ne_nil r t)
    have hc := isNameChar_of_mem_text hwords t c (by rw [hcs]; exact List.mem_cons_self ..)
    exact ⟨c, cs, hcs, by rw [isStart, hc]; rfl⟩
  | declared name => cases ht
  | pointer inner => exact ⟨'*', (inner.text r).toList, by simp [text], rfl⟩
  | slice element => exact ⟨'[', ']' :: (element.text r).toList, by simp [text], rfl⟩
  | map key value =>
    have hmap : ((map key value).text r).toList =
        'm' :: 'a' :: 'p' :: '[' :: ((key.text r).toList ++ ']' :: (value.text r).toList) := by
      simp [text]
    exact ⟨'m', _, hmap, by decide⟩
  | described path name needs => cases ht

/-- No type begins with two dots. -/
theorem text_ne_dots {t : TypeRef} (ht : t.isUnaliased = true) (rest more : List Char) :
    (t.text r).toList ++ rest ≠ '.' :: '.' :: more := by
  intro h
  cases t with
  | named t =>
    have hname (cs : List Char) : t.name.toList ++ rest ≠ '.' :: cs := by
      intro hdot
      obtain ⟨c, tail, hcons⟩ := List.exists_cons_of_ne_nil t.name_ne_nil
      rw [hcons] at hdot
      refine dot_notMem t.isWordChar_of_mem_name ?_
      rw [hcons, ← (List.cons.inj hdot).1]
      exact List.mem_cons_self ..
    rw [text_named] at h
    cases htoken : t.qualifier? r with
    | none =>
      rw [htoken] at h
      exact hname _ h
    | some token =>
      have hdot := dot_notMem (isWordChar_of_mem_qualifier? hwords htoken)
      rw [htoken, dotted, String.toList_append, String.toList_append, List.append_assoc,
        List.append_assoc] at h
      obtain ⟨-, hbehind⟩ := Text.eq_of_append_sep_eq hdot List.not_mem_nil h
      exact hname _ hbehind
  | declared name => cases ht
  | pointer inner => simp [text] at h
  | slice element => simp [text] at h
  | map key value => simp [text] at h
  | described path name needs => cases ht

end Starts

end TypeRef

namespace Parameter

/-- The parameter as the unit at `home` sees it: names of the home package are the unit's own. -/
def within (home : Option String) (p : Parameter) : Parameter :=
  { p with type := p.type.within home }

/-- The parameter has an identifier for a name, or none, and its type can be read back. -/
def Readable (r : Registry) (p : Parameter) : Prop :=
  (p.name = "" ∨ nameFault? p.name = none) ∧ p.type.Settled r

instance (r : Registry) (p : Parameter) : Decidable (p.Readable r) :=
  inferInstanceAs (Decidable ((p.name = "" ∨ nameFault? p.name = none) ∧ p.type.Settled r))

/-- What stands behind a parameter: nothing, a comma or a closing parenthesis. -/
def Ends (rest : List Char) : Prop := ∀ c ∈ rest.head?, c = ',' ∨ c = ')'

theorem Ends.follows {rest : List Char} (h : Ends rest) : TypeRef.Follows rest := by
  intro c hc
  rcases h c hc with rfl | rfl
  · decide
  · decide

theorem ends_nil : Ends [] := by
  intro c hc
  cases hc

theorem toList_text_of_unnamed (name : TypeRef → String) {p : Parameter} (h : p.name = "") :
    (p.text name).toList = (p.typeText name).toList := by
  rw [text, if_pos h, String.empty_append]

theorem toList_text_of_named (name : TypeRef → String) {p : Parameter} (h : p.name ≠ "") :
    (p.text name).toList = p.name.toList ++ ' ' :: (p.typeText name).toList := by
  rw [text, if_neg h]
  simp

theorem toList_typeText_of_variadic (name : TypeRef → String) {p : Parameter}
    (h : p.variadic = true) :
    (p.typeText name).toList = '.' :: '.' :: '.' :: (name p.type).toList := by
  rw [typeText, h]
  simp

theorem typeText_of_not_variadic (name : TypeRef → String) {p : Parameter}
    (h : p.variadic = false) : p.typeText name = name p.type := by
  rw [typeText, h]
  exact String.empty_append

section Reading

variable {r : Registry} (hwords : r.HasWordTokens)

include hwords

/-- A name with a blank behind it is not the beginning of a parameter without a name. -/
theorem typeText_append_ne {name : String} (hname : nameFault? name = none) {q : Parameter}
    (hq : q.type.Settled r) {rest : List Char} (hrest : Ends rest) (behind : List Char) :
    (q.typeText (TypeRef.text r)).toList ++ rest ≠ name.toList ++ ' ' :: behind := by
  intro h
  have hne : name.toList ≠ [] := TypeName.name_ne_nil ⟨none, name, hname⟩
  have hchars := TypeName.isWordChar_of_mem_name ⟨none, name, hname⟩
  cases hvariadic : q.variadic with
  | true =>
    obtain ⟨c, tail, hcons⟩ := List.exists_cons_of_ne_nil hne
    rw [toList_typeText_of_variadic _ hvariadic, hcons] at h
    refine TypeRef.dot_notMem hchars ?_
    rw [hcons, (List.cons.inj h).1]
    exact List.mem_cons_self ..
  | false =>
    have hfollows : TypeRef.Follows (' ' :: behind) := by
      intro c hc
      rw [← Option.some.inj hc]
      decide
    have hread := congrArg TypeRef.readOpening h
    rw [typeText_of_not_variadic _ hvariadic,
      TypeRef.readOpening_text hwords hq.unaliased hrest.follows,
      TypeRef.readOpening_name hne (fun c hc => TypeRef.isNameChar_of_isWordChar (hchars c hc))
        hfollows] at hread
    -- the type is a name, and the blank would have to end the parameter
    obtain ⟨hopening, hbehind⟩ := Prod.mk.inj hread
    obtain ⟨t, ht⟩ := TypeRef.exists_named_of_opening hq.unaliased hopening
    rw [ht] at hbehind
    have hblank : rest.head? = some ' ' := congrArg List.head? hbehind
    rcases hrest ' ' hblank with hcomma | hparen
    · exact absurd hcomma (by decide)
    · exact absurd hparen (by decide)

variable (hr : r.Consistent)

include hr

theorem typeText_inj {p q : Parameter} (hp : p.type.Settled r) (hq : q.type.Settled r)
    {rest rest' : List Char} (hrest : Ends rest) (hrest' : Ends rest')
    (h : (p.typeText (TypeRef.text r)).toList ++ rest =
      (q.typeText (TypeRef.text r)).toList ++ rest') :
    p.variadic = q.variadic ∧ p.type.within r.home = q.type.within r.home ∧ rest = rest' := by
  have htypes := @TypeRef.within_eq_of_text_append_eq r hwords hr p.type q.type hp hq rest rest'
    hrest.follows hrest'.follows
  cases hvp : p.variadic with
  | true =>
    rw [toList_typeText_of_variadic _ hvp] at h
    cases hvq : q.variadic with
    | true =>
      rw [toList_typeText_of_variadic _ hvq] at h
      simp only [List.cons_append, List.cons.injEq, true_and] at h
      exact ⟨rfl, htypes h⟩
    | false =>
      rw [typeText_of_not_variadic _ hvq] at h
      exact absurd h.symm (TypeRef.text_ne_dots hwords hq.unaliased _ _)
  | false =>
    rw [typeText_of_not_variadic _ hvp] at h
    cases hvq : q.variadic with
    | true =>
      rw [toList_typeText_of_variadic _ hvq] at h
      exact absurd h (TypeRef.text_ne_dots hwords hp.unaliased _ _)
    | false =>
      rw [typeText_of_not_variadic _ hvq] at h
      exact ⟨rfl, htypes h⟩

/-- **Reading a parameter**, with anything behind it that may stand there. -/
theorem within_eq_of_text_append_eq {p q : Parameter} (hp : p.Readable r) (hq : q.Readable r)
    {rest rest' : List Char} (hrest : Ends rest) (hrest' : Ends rest')
    (h : (p.text (TypeRef.text r)).toList ++ rest = (q.text (TypeRef.text r)).toList ++ rest') :
    p.within r.home = q.within r.home ∧ rest = rest' := by
  obtain ⟨hpname, hptype⟩ := hp
  obtain ⟨hqname, hqtype⟩ := hq
  have hsame (hname : p.name = q.name)
      (h : (p.typeText (TypeRef.text r)).toList ++ rest =
        (q.typeText (TypeRef.text r)).toList ++ rest') :
      p.within r.home = q.within r.home ∧ rest = rest' := by
    obtain ⟨hvariadic, htype, hbehind⟩ := typeText_inj hwords hr hptype hqtype hrest hrest' h
    exact ⟨by rw [within, within, hname, hvariadic, htype], hbehind⟩
  by_cases hpe : p.name = ""
  · rw [toList_text_of_unnamed _ hpe] at h
    by_cases hqe : q.name = ""
    · rw [toList_text_of_unnamed _ hqe] at h
      exact hsame (hpe.trans hqe.symm) h
    · rw [toList_text_of_named _ hqe, List.append_assoc] at h
      exact absurd h (typeText_append_ne hwords (hqname.resolve_left hqe) hptype hrest _)
  · rw [toList_text_of_named _ hpe, List.append_assoc] at h
    by_cases hqe : q.name = ""
    · rw [toList_text_of_unnamed _ hqe] at h
      exact absurd h.symm (typeText_append_ne hwords (hpname.resolve_left hpe) hqtype hrest' _)
    · rw [toList_text_of_named _ hqe, List.append_assoc] at h
      -- neither name has a blank in it
      have hblank : Text.isWordChar ' ' = false := by decide
      obtain ⟨hname, hbehind⟩ := Text.eq_of_append_sep_eq
        (Text.notMem_of_nameFault? (hpname.resolve_left hpe) hblank)
        (Text.notMem_of_nameFault? (hqname.resolve_left hqe) hblank) h
      exact hsame (String.toList_inj.mp hname) hbehind

end Reading

/-! ## Reading a list -/

/-- The characters of the parameters behind the first one. -/
def tailChars (name : TypeRef → String) (ps : List Parameter) : List Char :=
  ps.flatMap fun p => ',' :: ' ' :: (p.text name).toList

theorem toList_joined_cons (name : TypeRef → String) (p : Parameter) (ps : List Parameter) :
    (joined name (p :: ps)).toList = (p.text name).toList ++ tailChars name ps := by
  induction ps generalizing p with
  | nil => simp [joined, tailChars]
  | cons q rest ih =>
    have hjoined : joined name (p :: q :: rest) = p.text name ++ ", " ++ joined name (q :: rest) :=
      String.intercalate_cons_cons
    rw [hjoined, String.toList_append, String.toList_append, ih, List.append_assoc]
    rfl

theorem ends_tailChars (name : TypeRef → String) (ps : List Parameter) (rest : List Char) :
    Ends (tailChars name ps ++ ')' :: rest) := by
  intro c hc
  cases ps with
  | nil => exact Or.inr (Option.some.inj hc).symm
  | cons p ps => exact Or.inl (Option.some.inj hc).symm

section Lists

variable {r : Registry} (hwords : r.HasWordTokens)

include hwords

theorem exists_head_text {p : Parameter} (hp : p.Readable r) :
    ∃ c cs, (p.text (TypeRef.text r)).toList = c :: cs ∧ TypeRef.isStart c = true := by
  obtain ⟨hname, htype⟩ := hp
  by_cases hempty : p.name = ""
  · rw [toList_text_of_unnamed _ hempty]
    cases hvariadic : p.variadic with
    | true => exact ⟨'.', _, toList_typeText_of_variadic _ hvariadic, by decide⟩
    | false =>
      rw [typeText_of_not_variadic _ hvariadic]
      exact TypeRef.exists_head_text hwords htype.unaliased
  · let t : TypeName := ⟨none, p.name, hname.resolve_left hempty⟩
    obtain ⟨c, cs, hcons⟩ := List.exists_cons_of_ne_nil t.name_ne_nil
    have hc : Text.isWordChar c = true :=
      t.isWordChar_of_mem_name c (by rw [hcons]; exact List.mem_cons_self ..)
    refine ⟨c, cs ++ ' ' :: (p.typeText (TypeRef.text r)).toList, ?_, ?_⟩
    · rw [toList_text_of_named _ hempty]
      exact congrArg (· ++ _) hcons
    · rw [TypeRef.isStart, TypeRef.isNameChar_of_isWordChar hc]
      rfl

/-- A list with parameters is not followed by its closing parenthesis at once. -/
theorem joined_cons_append_ne {p : Parameter} (hp : p.Readable r) (ps : List Parameter)
    (rest rest' : List Char) :
    (joined (TypeRef.text r) (p :: ps)).toList ++ rest ≠ ')' :: rest' := by
  intro h
  obtain ⟨c, cs, hcons, hc⟩ := exists_head_text hwords hp
  rw [toList_joined_cons, hcons] at h
  rw [(List.cons.inj h).1] at hc
  exact absurd hc (by decide)

variable (hr : r.Consistent)

include hr

/-- Behind a parameter, a comma says that there is another one, and the closing parenthesis that
there is none. -/
theorem map_within_eq_of_tailChars_append_eq {ps qs : List Parameter}
    (hps : ∀ p ∈ ps, p.Readable r) (hqs : ∀ q ∈ qs, q.Readable r) {rest rest' : List Char}
    (h : tailChars (TypeRef.text r) ps ++ ')' :: rest =
      tailChars (TypeRef.text r) qs ++ ')' :: rest') :
    ps.map (within r.home) = qs.map (within r.home) ∧ rest = rest' := by
  induction ps generalizing qs with
  | nil =>
    cases qs with
    | nil => exact ⟨rfl, (List.cons.inj h).2⟩
    | cons q qs => exact absurd (List.cons.inj h).1 (by decide)
  | cons p ps ih =>
    cases qs with
    | nil => exact absurd (List.cons.inj h).1 (by decide)
    | cons q qs =>
      obtain ⟨hp, hps⟩ := List.forall_mem_cons.mp hps
      obtain ⟨hq, hqs⟩ := List.forall_mem_cons.mp hqs
      simp only [tailChars, List.flatMap_cons, List.cons_append, List.append_assoc,
        List.cons.injEq, true_and] at h
      obtain ⟨hpq, hbehind⟩ := within_eq_of_text_append_eq hwords hr hp hq
        (ends_tailChars _ ps rest) (ends_tailChars _ qs rest') h
      obtain ⟨htail, hrest⟩ := ih hps hqs hbehind
      exact ⟨by rw [List.map_cons, List.map_cons, hpq, htail], hrest⟩

/-- **Reading a list of parameters** up to its closing parenthesis. -/
theorem map_within_eq_of_joined_append_eq {ps qs : List Parameter}
    (hps : ∀ p ∈ ps, p.Readable r) (hqs : ∀ q ∈ qs, q.Readable r) {rest rest' : List Char}
    (h : (joined (TypeRef.text r) ps).toList ++ ')' :: rest =
      (joined (TypeRef.text r) qs).toList ++ ')' :: rest') :
    ps.map (within r.home) = qs.map (within r.home) ∧ rest = rest' := by
  cases ps with
  | nil =>
    cases qs with
    | nil => exact ⟨rfl, (List.cons.inj h).2⟩
    | cons q qs =>
      exact absurd h.symm (joined_cons_append_ne hwords (hqs q (List.mem_cons_self ..)) qs _ _)
  | cons p ps =>
    cases qs with
    | nil => exact absurd h (joined_cons_append_ne hwords (hps p (List.mem_cons_self ..)) ps _ _)
    | cons q qs =>
      obtain ⟨hp, hps⟩ := List.forall_mem_cons.mp hps
      obtain ⟨hq, hqs⟩ := List.forall_mem_cons.mp hqs
      rw [toList_joined_cons, toList_joined_cons, List.append_assoc, List.append_assoc] at h
      obtain ⟨hpq, hbehind⟩ := within_eq_of_text_append_eq hwords hr hp hq
        (ends_tailChars _ ps rest) (ends_tailChars _ qs rest') h
      obtain ⟨htail, hrest⟩ := map_within_eq_of_tailChars_append_eq hwords hr hps hqs hbehind
      exact ⟨by rw [List.map_cons, List.map_cons, hpq, htail], hrest⟩

end Lists

end Parameter

/-! ## Reading a signature -/

namespace Func

/-- Read off the form of the results from their text. -/
def readForm : List Char → ResultForm
  | [] => .absent
  | ' ' :: '(' :: _ => .parenthesized
  | _ => .bare

/-- The names of the function are identifiers, except that parameters and results may have none, and
the types can be read back. -/
structure Readable (r : Registry) (f : Func) : Prop where
  name : nameFault? f.name = none
  params : ∀ p ∈ f.params, p.Readable r
  results : ∀ p ∈ f.results, p.Readable r

instance (r : Registry) (f : Func) : Decidable (f.Readable r) :=
  decidable_of_iff (nameFault? f.name = none ∧ (∀ p ∈ f.params, p.Readable r) ∧
      ∀ p ∈ f.results, p.Readable r)
    ⟨fun h => ⟨h.1, h.2.1, h.2.2⟩, fun h => ⟨h.name, h.params, h.results⟩⟩

/-- The imports of a signature that can be read back are registered already. -/
theorem Readable.registerAll_eq {r : Registry} {f : Func} (hf : f.Readable r) :
    r.registerAll f.signatureImports.toList = r := by
  rw [← registerAll_signatureImports]
  refine Registry.registerAll_of_knows fun i hi => ?_
  rw [Statement.needs, refs_signature] at hi
  obtain ⟨t, ht, hi⟩ := List.mem_flatMap.mp hi
  obtain ⟨p, hp, rfl⟩ := List.mem_map.mp ht
  have hsettled : p.type.Settled r := by
    rcases List.mem_append.mp hp with hp | hp
    · exact (hf.params p hp).2
    · exact (hf.results p hp).2
  exact hsettled.knows i.path (ImportSet.mem_paths_iff.mpr ⟨i, hi, rfl⟩)

section Reading

variable {r : Registry} (hwords : r.HasWordTokens)

include hwords

theorem readForm_resultText {results : List Parameter} (h : ∀ p ∈ results, p.Readable r) :
    readForm (resultText (TypeRef.text r) results).toList = resultForm results := by
  cases hform : resultForm results with
  | absent => rw [resultText_of_absent _ hform]; rfl
  | bare =>
    obtain ⟨only, rfl, -⟩ := exists_of_bare hform
    obtain ⟨c, cs, hcons, hc⟩ :=
      Parameter.exists_head_text hwords (h only (List.mem_singleton.mpr rfl))
    rw [resultText_of_bare _ hform, String.toList_append, Parameter.toList_joined_cons, hcons]
    show readForm (' ' :: c :: _) = _
    rw [readForm]
    · intro hnil
      cases hnil
    · intro _ hparen
      rw [(List.cons.inj (List.cons.inj hparen).2).1] at hc
      exact absurd hc (by decide)
  | parenthesized =>
    rw [resultText_of_parenthesized _ hform, String.toList_append, String.toList_append]
    rfl

variable (hr : r.Consistent)

include hr

theorem map_within_eq_of_resultText_eq {ps qs : List Parameter} (hps : ∀ p ∈ ps, p.Readable r)
    (hqs : ∀ q ∈ qs, q.Readable r)
    (h : resultText (TypeRef.text r) ps = resultText (TypeRef.text r) qs) :
    ps.map (Parameter.within r.home) = qs.map (Parameter.within r.home) := by
  have hform : resultForm qs = resultForm ps := by
    rw [← readForm_resultText hwords hqs, ← h, readForm_resultText hwords hps]
  have hchars := congrArg String.toList h
  cases hp : resultForm ps with
  | absent => rw [eq_nil_of_absent hp, eq_nil_of_absent (hform.trans hp)]
  | bare =>
    rw [resultText_of_bare _ hp, resultText_of_bare _ (hform.trans hp), String.toList_append,
      String.toList_append, List.append_cancel_left_eq] at hchars
    obtain ⟨p, rfl, -⟩ := exists_of_bare hp
    obtain ⟨q, rfl, -⟩ := exists_of_bare (hform.trans hp)
    rw [Parameter.toList_joined_cons, Parameter.toList_joined_cons] at hchars
    obtain ⟨hpq, -⟩ := Parameter.within_eq_of_text_append_eq hwords hr
      (hps p (List.mem_singleton.mpr rfl)) (hqs q (List.mem_singleton.mpr rfl))
      Parameter.ends_nil Parameter.ends_nil hchars
    rw [List.map_singleton, List.map_singleton, hpq]
  | parenthesized =>
    rw [resultText_of_parenthesized _ hp, resultText_of_parenthesized _ (hform.trans hp)] at hchars
    simp only [String.toList_append, List.append_assoc, List.append_cancel_left_eq] at hchars
    exact (Parameter.map_within_eq_of_joined_append_eq hwords hr hps hqs hchars).1

/-- **Reading a signature.** -/
theorem within_eq_of_signatureText_eq {f g : Func} (hf : f.Readable r) (hg : g.Readable r)
    (h : f.signatureText (TypeRef.text r) = g.signatureText (TypeRef.text r)) :
    f.name = g.name ∧
      f.params.map (Parameter.within r.home) = g.params.map (Parameter.within r.home) ∧
      f.results.map (Parameter.within r.home) = g.results.map (Parameter.within r.home) := by
  have hchars := congrArg String.toList h
  simp only [signatureText, String.toList_append, List.append_assoc] at hchars
  have hparen : Text.isWordChar '(' = false := by decide
  obtain ⟨hname, hparams⟩ := Text.eq_of_append_sep_eq (Text.notMem_of_nameFault? hf.name hparen)
    (Text.notMem_of_nameFault? hg.name hparen) hchars
  obtain ⟨hparams, hresults⟩ :=
    Parameter.map_within_eq_of_joined_append_eq hwords hr hf.params hg.params hparams
  exact ⟨String.toList_inj.mp hname, hparams,
    map_within_eq_of_resultText_eq hwords hr hf.results hg.results (String.toList_inj.mp hresults)⟩

end Reading

/-! ## What a signature shows -/

theorem joined_map_within (r : Registry) (ps : List Parameter) :
    Parameter.joined (TypeRef.text r) (ps.map (Parameter.within r.home)) =
      Parameter.joined (TypeRef.text r) ps := by
  have htext (p : Parameter) :
      (p.within r.home).text (TypeRef.text r) = p.text (TypeRef.text r) := by
    rw [Parameter.text, Parameter.typeText, Parameter.within, TypeRef.text_within]
    rfl
  rw [Parameter.joined, List.map_map, Parameter.joined]
  exact congrArg _ (List.map_congr_left fun p _ => htext p)

theorem resultForm_map_within (home : Option String) (ps : List Parameter) :
    resultForm (ps.map (Parameter.within home)) = resultForm ps := by
  match ps with
  | [] => rfl
  | [only] => rfl
  | p :: q :: rest => rfl

/-- The text of a signature shows nothing but what the home package sees. -/
theorem signatureText_eq_of_within_eq {r : Registry} {f g : Func} (hname : f.name = g.name)
    (hparams : f.params.map (Parameter.within r.home) = g.params.map (Parameter.within r.home))
    (hresults : f.results.map (Parameter.within r.home) = g.results.map (Parameter.within r.home)) :
    f.signatureText (TypeRef.text r) = g.signatureText (TypeRef.text r) := by
  have hform : resultForm f.results = resultForm g.results := by
    rw [← resultForm_map_within r.home, hresults, resultForm_map_within]
  rw [signatureText, signatureText, resultText, resultText, hname, hform,
    ← joined_map_within r f.params, ← joined_map_within r f.results, hparams, hresults,
    joined_map_within, joined_map_within]

/-- **Signatures are printed, and can be read back.**  Under every registry the signature of a
function renders to `signatureText`, with its types called as they are once its imports are
registered.  If no import has asked for a name, and two functions have identifiers for names and
types whose packages are registered, then their signatures render to the same text exactly when the
functions have the same name, parameters and results, up to names of the home package. -/
theorem signature_printed_and_read_back :
    (∀ (f : Func) (r : Registry),
      Template.render f.signature.template f.signature.args r =
        .ok (f.signatureText (TypeRef.text (r.registerAll f.signatureImports.toList)))
          (r.registerAll f.signatureImports.toList)) ∧
    ∀ (home : Option String) (imports : List Import), (∀ i ∈ imports, i.asName = none) →
      let r := (Registry.ofHome home).registerAll imports
      ∀ f g : Func, f.Readable r → g.Readable r →
        ((∃ text r₁ r₂, Template.render f.signature.template f.signature.args r = .ok text r₁ ∧
            Template.render g.signature.template g.signature.args r = .ok text r₂) ↔
          f.name = g.name ∧
          f.params.map (Parameter.within home) = g.params.map (Parameter.within home) ∧
          f.results.map (Parameter.within home) = g.results.map (Parameter.within home)) := by
  refine ⟨render_signature, ?_⟩
  intro home imports himports r f g hf hg
  have hhome : r.home = home := Registry.home_registerAll home imports
  have hr : r.Consistent := (Registry.consistent_ofHome home).registerAll imports
  have hwords : r.HasWordTokens := (Registry.hasWordTokens_ofHome home).registerAll himports
  rw [render_signature, render_signature, hf.registerAll_eq, hg.registerAll_eq, ← hhome]
  constructor
  · rintro ⟨text, r₁, r₂, hftext, hgtext⟩
    injection hftext with hftext
    injection hgtext with hgtext
    exact within_eq_of_signatureText_eq hwords hr hf hg (hftext.trans hgtext.symm)
  · rintro ⟨hname, hparams, hresults⟩
    exact ⟨_, r, r, rfl, by rw [signatureText_eq_of_within_eq hname hparams hresults]⟩

/-- Two packages that suggest the same token. -/
def clashingPackages : List Import :=
  [⟨"weft/thread", none, by decide +kernel⟩, ⟨"warp/thread", none, by decide +kernel⟩]

/-- A member of the package that keeps the suggested token. -/
def keptMember : TypeName :=
  ⟨some ⟨"weft/thread", none, by decide +kernel⟩, "Spool", by decide +kernel⟩

/-- The member of the same name in the package whose token gets a number. -/
def numberedMember : TypeName :=
  ⟨some ⟨"warp/thread", none, by decide +kernel⟩, "Spool", by decide +kernel⟩

/-- A type without a package. -/
def unpackagedType : TypeName := ⟨none, "Loom", by decide +kernel⟩

/-- The type of the same name in the home package, which is printed alike. -/
def homePackageType : TypeName :=
  ⟨some ⟨"acme/loom", none, by decide +kernel⟩, "Loom", by decide +kernel⟩

/-- A function with a parameter without a name, a variadic one, and a result without a name. -/
def variadicFunc (key element : TypeName) : Func where
  name := "weave"
  params := [
    { name := "", type := .map (.named key) (.pointer (.named keptMember)) },
    { name := "more", type := .slice (.named element), variadic := true }]
  results := [{ name := "", type := .named element }]

theorem variadicFunc_read_back :
    let r := (Registry.ofHome (some "acme/loom")).registerAll clashingPackages
    Template.render (variadicFunc numberedMember unpackagedType).signature.template
        (variadicFunc numberedMember unpackagedType).signature.args r =
      .ok "weave(map[thread2.Spool]*thread.Spool, more ...[]Loom) Loom" r ∧
    (∃ text r₁ r₂,
      Template.render (variadicFunc numberedMember unpackagedType).signature.template
          (variadicFunc numberedMember unpackagedType).signature.args r = .ok text r₁ ∧
        Template.render (variadicFunc numberedMember homePackageType).signature.template
          (variadicFunc numberedMember homePackageType).signature.args r = .ok text r₂) ∧
    ¬ ∃ text r₁ r₂,
      Template.render (variadicFunc numberedMember unpackagedType).signature.template
          (variadicFunc numberedMember unpackagedType).signature.args r = .ok text r₁ ∧
        Template.render (variadicFunc keptMember unpackagedType).signature.template
          (variadicFunc keptMember unpackagedType).signature.args r = .ok text r₂ := by
  intro r
  have himports : ∀ i ∈ clashingPackages, i.asName = none := by decide +kernel
  have hbare : (variadicFunc numberedMember unpackagedType).Readable r := by decide +kernel
  have hhome : (variadicFunc numberedMember homePackageType).Readable r := by decide +kernel
  have hkept : (variadicFunc keptMember unpackagedType).Readable r := by decide +kernel
  have hread := signature_printed_and_read_back.2 (some "acme/loom") clashingPackages himports
  refine ⟨by decide +kernel, (hread _ _ hbare hhome).mpr (by decide +kernel), fun h => ?_⟩
  have hwithin := (hread _ _ hbare hkept).mp h
  revert hwithin
  decide +kernel

end Func

end SourcePress
