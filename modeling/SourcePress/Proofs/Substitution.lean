import SourcePress.Template

/-!
# Templates as substitutions

`Template.render` reads a template into items, matches these with the arguments, registers, and
prints what it matched.  Two descriptions of the result are given here that know nothing of the
three stages.

`Template.Filled` says which pieces belong to which items and arguments, one rule for each kind of
item.  It has no rule for a template that does not fit its arguments, and no positions, since these
are for error messages only; `fill_eq_ok_iff` says that it is what `fill` computes.

`Template.substitute` is the text, read off the characters of the template: every directive is
replaced by what it stands for, and every other character stays.  Printing the pieces of a template
gives this text (`print_eq_substitute`).
-/

namespace SourcePress

namespace Value

@[simp] theorem filterMap_ref?_literal (s : String) (args : List Value) :
    (Value.literal s :: args).filterMap ref? = args.filterMap ref? :=
  List.filterMap_cons_none rfl

@[simp] theorem filterMap_ref?_type (t : TypeRef) (args : List Value) :
    (Value.type t :: args).filterMap ref? = t :: args.filterMap ref? :=
  List.filterMap_cons_some rfl

end Value

namespace Template

/-! ## The rules of filling -/

/-- The pieces that fill a sequence of items from a list of arguments, all of which are used. -/
inductive Filled : List Item → List Value → List Piece → Prop
  | nil : Filled [] [] []
  | plain (c : Char) {its : List Item} {args : List Value} {ps : List Piece} :
      Filled its args ps → Filled (.plain c :: its) args (.text c.toString :: ps)
  | dollar {its : List Item} {args : List Value} {ps : List Piece} :
      Filled its args ps → Filled (.directive (some '$') :: its) args (.text "$" :: ps)
  | literal (s : String) {its : List Item} {args : List Value} {ps : List Piece} :
      Filled its args ps →
        Filled (.directive (some 'L') :: its) (.literal s :: args) (.text s :: ps)
  | type (t : TypeRef) {its : List Item} {args : List Value} {ps : List Piece} :
      Filled its args ps → Filled (.directive (some 'T') :: its) (.type t :: args) (.ref t :: ps)

theorem exists_of_map_eq_ok {rest : Except TemplateFault (List Piece)} {p : Piece}
    {ps : List Piece} (h : rest.map (p :: ·) = .ok ps) : ∃ qs, rest = .ok qs ∧ ps = p :: qs := by
  cases rest with
  | error fault => cases h
  | ok qs =>
    injection h with h
    exact ⟨qs, rfl, h.symm⟩

theorem filled_of_fill {its : List Item} {args : List Value} {index offset : Nat}
    {ps : List Piece} (h : fill its args index offset = .ok ps) : Filled its args ps := by
  fun_induction fill its args index offset generalizing ps with
  | case1 index offset =>
    cases h
    exact Filled.nil
  | case3 c rest args index offset ih =>
    obtain ⟨qs, hqs, rfl⟩ := exists_of_map_eq_ok h
    exact (ih hqs).plain c
  | case4 rest args index offset ih =>
    obtain ⟨qs, hqs, rfl⟩ := exists_of_map_eq_ok h
    exact (ih hqs).dollar
  | case5 rest s args index offset ih =>
    obtain ⟨qs, hqs, rfl⟩ := exists_of_map_eq_ok h
    exact (ih hqs).literal s
  | case8 rest t args index offset ih =>
    obtain ⟨qs, hqs, rfl⟩ := exists_of_map_eq_ok h
    exact (ih hqs).type t
  | _ => cases h

theorem fill_of_filled {its : List Item} {args : List Value} {ps : List Piece}
    (h : Filled its args ps) (index offset : Nat) : fill its args index offset = .ok ps := by
  induction h generalizing index offset with
  | nil => rw [fill]
  | plain c _ ih =>
    rw [fill, ih]
    rfl
  | dollar _ ih =>
    rw [fill, ih]
    rfl
  | literal s _ ih =>
    rw [fill, ih]
    rfl
  | type t _ ih =>
    rw [fill, ih]
    rfl

/-- **Filling succeeds with exactly the pieces that the rules allow**, wherever it starts to count.
-/
theorem fill_eq_ok_iff {its : List Item} {args : List Value} {index offset : Nat}
    {ps : List Piece} : fill its args index offset = .ok ps ↔ Filled its args ps :=
  ⟨filled_of_fill, fun h => fill_of_filled h index offset⟩

theorem pieces_eq_ok_iff {template : String} {args : List Value} {ps : List Piece} :
    pieces template args = .ok ps ↔ Filled (items template.toList) args ps :=
  fill_eq_ok_iff

/-- The pieces ask for the imports of the references among the arguments, in their order. -/
theorem Filled.imports_eq {its : List Item} {args : List Value} {ps : List Piece}
    (h : Filled its args ps) :
    ps.flatMap Piece.imports = (args.filterMap Value.ref?).flatMap fun t => t.imports.toList := by
  induction h with
  | nil => rfl
  | plain c _ ih => simpa [Piece.imports] using ih
  | dollar _ ih => simpa [Piece.imports] using ih
  | literal s _ ih =>
    rw [List.flatMap_cons, ih, Value.filterMap_ref?_literal]
    rfl
  | type t _ ih =>
    rw [List.flatMap_cons, ih, Value.filterMap_ref?_type, List.flatMap_cons]
    rfl

/-! ## The text of a template -/

/-- The characters of a template with every directive replaced: `$L` by the next argument, a
literal, `$T` by the name of the next argument, a reference, and `$$` by a dollar sign. -/
def substitute (name : TypeRef → String) : List Char → List Value → String
  | '$' :: 'L' :: rest, .literal s :: args => s ++ substitute name rest args
  | '$' :: 'T' :: rest, .type t :: args => name t ++ substitute name rest args
  | '$' :: '$' :: rest, args => "$" ++ substitute name rest args
  | c :: rest, args => c.toString ++ substitute name rest args
  | [], _ => ""

theorem substitute_plain (name : TypeRef → String) {c : Char} (hc : c ≠ '$') (rest : List Char)
    (args : List Value) :
    substitute name (c :: rest) args = c.toString ++ substitute name rest args := by
  -- the equation excludes the three directives, each of which begins with a dollar sign
  rw [substitute]
  all_goals
    intros
    exact hc (by assumption)

/-- A character that does not begin a directive, neither at the end nor before another character, is
no dollar sign. -/
theorem ne_dollar {c : Char} {rest : List Char} (hlast : c = '$' → rest = [] → False)
    (hnext : ∀ d rest', c = '$' → rest = d :: rest' → False) : c ≠ '$' := by
  intro hc
  cases rest with
  | nil => exact hlast hc rfl
  | cons d rest => exact hnext d rest hc rfl

/-- **Printing the pieces of a template is substituting in it.** -/
theorem print_eq_substitute {cs : List Char} {args : List Value} {ps : List Piece}
    (h : Filled (items cs) args ps) (r : Registry) :
    print r ps = substitute (TypeRef.text r) cs args := by
  induction cs using items.induct generalizing args ps with
  | case1 =>
    cases h
    rw [print_nil, substitute]
  | case2 => cases h
  | case3 c rest ih =>
    rw [items_dollar] at h
    cases h with
    | dollar h => rw [print_cons, ih h, substitute, Piece.print]
    | literal s h => rw [print_cons, ih h, substitute, Piece.print]
    | type t h => rw [print_cons, ih h, substitute, Piece.print]
  | case4 c rest hlast hnext ih =>
    have hc : c ≠ '$' := ne_dollar hlast hnext
    rw [items_plain hc] at h
    cases h with
    | plain _ h => rw [print_cons, ih h, substitute_plain _ hc, Piece.print]

/-- The text depends on the names of the references among the arguments only. -/
theorem substitute_congr {name name' : TypeRef → String} {cs : List Char} {args : List Value}
    (h : ∀ t ∈ args.filterMap Value.ref?, name t = name' t) :
    substitute name cs args = substitute name' cs args := by
  fun_induction substitute name cs args with
  | case1 rest s args ih =>
    rw [substitute, ih (by simpa using h)]
  | case2 rest t args ih =>
    rw [Value.filterMap_ref?_type, List.forall_mem_cons] at h
    rw [substitute, h.1, ih h.2]
  | case3 rest args ih => rw [substitute, ih h]
  | case4 c rest args hL hT hD ih => rw [substitute, ih h] <;> assumption
  | case5 args => rfl

/-- Text without a dollar sign stays as it is. -/
theorem substitute_append_of_notMem (name : TypeRef → String) {cs : List Char} (h : '$' ∉ cs)
    (rest : List Char) (args : List Value) :
    substitute name (cs ++ rest) args = String.ofList cs ++ substitute name rest args := by
  induction cs with
  | nil => simp
  | cons c cs ih =>
    rw [List.mem_cons, not_or] at h
    rw [List.cons_append, substitute_plain name (Ne.symm h.1), ih h.2, ← String.append_assoc]
    congr 1
    simp

theorem substitute_text (name : TypeRef → String) {text : String} (h : '$' ∉ text.toList) :
    substitute name text.toList [] = text := by
  have happend := substitute_append_of_notMem name h [] []
  rw [List.append_nil, String.ofList_toList] at happend
  rw [happend, substitute, String.append_empty]

theorem substitute_literal (name : TypeRef → String) (front : String) (h : '$' ∉ front.toList)
    (s : String) : substitute name (front ++ "$L").toList [.literal s] = front ++ s := by
  have hdirective : "$L".toList = ['$', 'L'] := by decide
  rw [String.toList_append, substitute_append_of_notMem name h, String.ofList_toList, hdirective,
    substitute, substitute, String.append_empty]

end Template

end SourcePress
