import SourcePress.Declaration.Callable
import SourcePress.Proofs.LayoutAgreement
import SourcePress.Proofs.Page
import SourcePress.Proofs.TemplateLanguage

/-!
# Joined statements

Many lines are joined from several statements: a signature from its parameters, the line of a
variable from its name and the first statement of its value.  Joining puts templates and arguments
behind one another, and the whole could be read in another way than its parts.  A dollar sign at the
end of the first template would take the first character of the second one along, and an argument too
many in the first statement would go to a directive of the second.

A statement that renders has neither.  So behind such a statement another one renders exactly when it
renders on its own (`renderError?_append_eq_none_iff`).

More than that, the two can be rendered one after the other instead (`render_append`).  Filling goes
on in the second template where the first one leaves off (`Filled.fill_append`), so a fault is the
same one with its position moved (`fill_shift`).  The text of the first statement is then printed
after the imports of the second are registered, which does not change it: its own packages are known
by that time.

A fixed template needs no joining: which kinds of arguments it takes can be computed
(`Template.accepts`).
-/

namespace SourcePress

/-- The fault of a template that stands behind `args` arguments and `bytes` bytes of another one. -/
def TemplateFault.shift (args bytes : Nat) : TemplateFault → TemplateFault
  | .missingArgument index => .missingArgument (index + args)
  | .unusedArguments used supplied => .unusedArguments (used + args) (supplied + args)
  | .unknownDirective directive offset => .unknownDirective directive (offset + bytes)
  | .wrongKind index expected => .wrongKind (index + args) expected

namespace Template

theorem slots_append (xs ys : List Item) : slots (xs ++ ys) = slots xs ++ slots ys :=
  List.filterMap_append

/-- A template without unknown directives does not end inside of one, so what is put behind it is
read on its own. -/
theorem items_append {cs : List Char} (h : ∀ it ∈ items cs, it.isKnown = true)
    (rest : List Char) : items (cs ++ rest) = items cs ++ items rest := by
  induction cs using items.induct with
  | case1 => rfl
  | case2 =>
    have hknown := h (.directive none) (List.mem_singleton.mpr rfl)
    cases hknown
  | case3 c tail ih =>
    rw [items_dollar] at h ⊢
    rw [List.cons_append, List.cons_append, items_dollar, ih (List.forall_mem_cons.mp h).2,
      List.cons_append]
  | case4 c tail hlast hnext ih =>
    have hc : c ≠ '$' := ne_dollar hlast hnext
    rw [items_plain hc] at h ⊢
    rw [List.cons_append, items_plain hc, ih (List.forall_mem_cons.mp h).2, List.cons_append]

/-- A template has no unknown directives if it has none with more text behind it, provided that the
text does not begin with the second half of a directive. -/
theorem isKnown_of_items_append {cs : List Char} {c : Char} {rest : List Char}
    (hc : (Item.directive (some c)).isKnown = false)
    (h : ∀ it ∈ items (cs ++ c :: rest), it.isKnown = true) :
    ∀ it ∈ items cs, it.isKnown = true := by
  induction cs using items.induct with
  | case1 => exact fun it hit => absurd hit List.not_mem_nil
  | case2 =>
    -- the last dollar sign would take `c` along
    rw [List.singleton_append, items_dollar] at h
    have hknown := (List.forall_mem_cons.mp h).1
    rw [hc] at hknown
    cases hknown
  | case3 d tail ih =>
    rw [List.cons_append, List.cons_append, items_dollar, List.forall_mem_cons] at h
    rw [items_dollar, List.forall_mem_cons]
    exact ⟨h.1, ih h.2⟩
  | case4 d tail hlast hnext ih =>
    have hd : d ≠ '$' := ne_dollar hlast hnext
    rw [List.cons_append, items_plain hd, List.forall_mem_cons] at h
    rw [items_plain hd, List.forall_mem_cons]
    exact ⟨h.1, ih h.2⟩

/-! ## Filling joined templates -/

theorem bytes_cons (it : Item) (its : List Item) : bytes (it :: its) = it.size + bytes its := by
  rw [← List.singleton_append, bytes_append, bytes_singleton]

theorem bytes_items (template : String) :
    bytes (items template.toList) = template.utf8ByteSize := by
  rw [bytes, (isScan_items template.toList).chars_eq, String.ofList_toList]

theorem map_append_map_cons (rest : Except TemplateFault (List Piece)) (p : Piece)
    (ps : List Piece) : (rest.map (ps ++ ·)).map (p :: ·) = rest.map (p :: ps ++ ·) := by
  cases rest with
  | error fault => rfl
  | ok qs => rfl

/-- **Behind items that are filled, the others are filled from the arguments that are left**, and
count on from where the first ones leave off. -/
theorem Filled.fill_append {xs : List Item} {args : List Value} {ps : List Piece}
    (h : Filled xs args ps) (ys : List Item) (more : List Value) (index offset : Nat) :
    fill (xs ++ ys) (args ++ more) index offset =
      (fill ys more (index + args.length) (offset + bytes xs)).map (ps ++ ·) := by
  induction h generalizing index offset with
  | nil =>
    show fill ys more index offset = (fill ys more index offset).map id
    cases fill ys more index offset with
    | error fault => rfl
    | ok qs => rfl
  | plain c _ ih =>
    rw [List.cons_append, fill, ih, map_append_map_cons, bytes_cons, Nat.add_assoc offset]
    rfl
  | dollar _ ih =>
    rw [List.cons_append, fill, ih, map_append_map_cons, bytes_cons, Nat.add_assoc offset]
    rfl
  | literal s _ ih =>
    rw [List.cons_append, List.cons_append, fill, ih, map_append_map_cons, bytes_cons,
      Nat.add_assoc offset, List.length_cons, Nat.add_right_comm index, Nat.add_assoc index]
    rfl
  | type t _ ih =>
    rw [List.cons_append, List.cons_append, fill, ih, map_append_map_cons, bytes_cons,
      Nat.add_assoc offset, List.length_cons, Nat.add_right_comm index, Nat.add_assoc index]
    rfl

theorem map_mapError (rest : Except TemplateFault (List Piece)) (f : TemplateFault → TemplateFault)
    (g : List Piece → List Piece) : (rest.map g).mapError f = (rest.mapError f).map g := by
  cases rest with
  | error fault => rfl
  | ok ps => rfl

/-- Counting from a later argument and a later byte moves the fault along. -/
theorem fill_shift (its : List Item) (args : List Value) (index offset n m : Nat) :
    fill its args (index + n) (offset + m) =
      (fill its args index offset).mapError (TemplateFault.shift n m) := by
  fun_induction fill its args index offset with
  | case1 => rfl
  | case2 index offset v args =>
    rw [fill, Nat.add_right_comm]
    rfl
  | case3 c rest args index offset ih =>
    rw [fill, map_mapError, ← ih, Nat.add_right_comm]
  | case4 rest args index offset ih =>
    rw [fill, map_mapError, ← ih, Nat.add_right_comm]
  | case5 rest s args index offset ih =>
    rw [fill, map_mapError, ← ih, Nat.add_right_comm index, Nat.add_right_comm offset]
  | case8 rest t args index offset ih =>
    rw [fill, map_mapError, ← ih, Nat.add_right_comm index, Nat.add_right_comm offset]
  | case11 =>
    -- the directive is unknown wherever it stands
    rw [fill]
    · rfl
    all_goals assumption
  | _ =>
    rw [fill]
    rfl

/-- The pieces of two templates that are joined, when the first has no fault. -/
theorem pieces_append {front back : String} {args more : List Value} {ps : List Piece}
    (h : pieces front args = .ok ps) :
    pieces (front ++ back) (args ++ more) =
      ((pieces back more).mapError (TemplateFault.shift args.length front.utf8ByteSize)).map
        (ps ++ ·) := by
  have hfilled : Filled (items front.toList) args ps := pieces_eq_ok_iff.mp h
  rw [pieces, String.toList_append, items_append hfilled.fits.known, hfilled.fill_append,
    bytes_items, fill_shift, pieces]

/-- Counting the directives of a template is counting the arguments that its items take. -/
theorem countDirectives_eq_length_slots (cs : List Char) :
    Statement.countDirectives cs = (slots (items cs)).length := by
  induction cs using items.induct with
  | case1 => rfl
  | case2 => rfl
  | case3 c rest ih =>
    have hslot : (if c = 'L' ∨ c = 'T' then 1 else 0) =
        (Item.directive (some c)).slot?.toList.length := by
      by_cases hL : c = 'L'
      · rw [if_pos (Or.inl hL), hL]
        rfl
      · by_cases hT : c = 'T'
        · rw [if_pos (Or.inr hT), hT]
          rfl
        · rw [if_neg (not_or.mpr ⟨hL, hT⟩), Item.slot?]
          · rfl
          · simpa using hL
          · simpa using hT
    rw [items_dollar, slots_cons, List.length_append, Statement.countDirectives, ih, hslot]
  | case4 c rest hlast hnext ih =>
    have hc : c ≠ '$' := ne_dollar hlast hnext
    rw [items_plain hc, slots_cons, Statement.countDirectives, ih]
    · rfl
    · intro d rest' hc'
      exact absurd hc' hc

/-- Does the template have known directives only, which take arguments of these kinds? -/
def accepts (template : String) (kinds : List ArgumentKind) : Bool :=
  (items template.toList).all Item.isKnown && slots (items template.toList) == kinds

end Template

namespace Statement

open Template

/-- **A statement renders exactly when its template fits its arguments.** -/
theorem renderError?_eq_none_iff_fits {s : Statement} :
    s.renderError? = none ↔ Fits (items s.template.toList) s.args := by
  rw [renderError?_eq_none_iff]
  constructor
  · rintro ⟨ps, hps⟩
    exact (pieces_eq_ok_iff.mp hps).fits
  · intro h
    obtain ⟨ps, hps⟩ := h.exists_filled
    exact ⟨ps, pieces_eq_ok_iff.mpr hps⟩

/-- A fixed template renders with all arguments of the right kinds. -/
theorem renderError?_of_accepts {template : String} {args : List Value} {before after : Int}
    (kinds : List ArgumentKind) (h : accepts template kinds = true)
    (hargs : args.map Value.kind = kinds) :
    (⟨template, args, before, after⟩ : Statement).renderError? = none := by
  rw [accepts, Bool.and_eq_true, List.all_eq_true, beq_iff_eq] at h
  exact renderError?_eq_none_iff_fits.mpr ⟨h.1, h.2.trans hargs.symm⟩

/-- **Behind a statement that renders, another one renders as it does on its own.** -/
theorem renderError?_append_eq_none_iff {s t : Statement} (hs : s.renderError? = none) :
    (s ++ t).renderError? = none ↔ t.renderError? = none := by
  obtain ⟨ps, hps⟩ := renderError?_eq_none_iff.mp hs
  rw [renderError?_eq_none_iff, renderError?_eq_none_iff, template_append, args_append,
    pieces_append hps]
  cases pieces t.template t.args with
  | error fault =>
    constructor
    · rintro ⟨qs, h⟩
      cases h
    · rintro ⟨qs, h⟩
      cases h
  | ok qs => exact ⟨fun _ => ⟨qs, rfl⟩, fun _ => ⟨ps ++ qs, rfl⟩⟩

theorem renderError?_append {s t : Statement} (hs : s.renderError? = none)
    (ht : t.renderError? = none) : (s ++ t).renderError? = none :=
  (renderError?_append_eq_none_iff hs).mpr ht

@[simp] theorem renderError?_blank : blank.renderError? = none :=
  renderError?_of_accepts [] (by decide) rfl

/-! ## Rendering one after the other -/

theorem directiveCount_append {s t : Statement} (hs : s.renderError? = none) :
    (s ++ t).directiveCount = s.directiveCount + t.directiveCount := by
  have hfits : Fits (items s.template.toList) s.args := renderError?_eq_none_iff_fits.mp hs
  simp only [directiveCount, countDirectives_eq_length_slots, template_append,
    String.toList_append, items_append hfits.known, slots_append, List.length_append]

/-- What is registered later does not change the text of a statement whose imports are registered. -/
theorem print_eq_of_extends {s : Statement} (hplain : ∀ t ∈ s.refs, t.isPlain = true)
    {ps : List Piece} (h : pieces s.template s.args = .ok ps) {r r' : Registry}
    (hext : (r.registerAll s.needs).Extends r') :
    print r' ps = print (r.registerAll s.needs) ps := by
  have hfilled : Filled (items s.template.toList) s.args ps := pieces_eq_ok_iff.mp h
  rw [print_eq_substitute hfilled, print_eq_substitute hfilled]
  exact Writer.substitute_eq_of_needs hplain hext

/-- **Joined statements render one after the other.**  When the first statement renders, then the
directives of the two add up, and the second one decides about the whole.  If it renders on the
registry that the first one leaves, the whole renders to both texts together and leaves the registry
that the second one leaves.  If it has a fault, the whole has the same fault, which has moved by the
arguments and the bytes of the first, and the registry is as it was in the beginning. -/
theorem render_append (r r' : Registry) (s t : Statement) (text : String)
    (hplain : ∀ u ∈ s.refs, u.isPlain = true)
    (hs : render s.template s.args r = .ok text r') :
    (s ++ t).directiveCount = s.directiveCount + t.directiveCount ∧
      (∀ more r'', render t.template t.args r' = .ok more r'' →
        render (s ++ t).template (s ++ t).args r = .ok (text ++ more) r'') ∧
      ∀ e r'', render t.template t.args r' = .error e r'' →
        r'' = r' ∧ ∃ fault, e = .template t.template fault ∧
          render (s ++ t).template (s ++ t).args r =
            .error (.template (s ++ t).template
              (fault.shift s.args.length s.template.utf8ByteSize)) r := by
  cases hps : pieces s.template s.args with
  | error fault =>
    rw [render_of_fault hps] at hs
    cases hs
  | ok ps =>
    have himports : ps.flatMap Piece.imports = s.needs := (pieces_eq_ok_iff.mp hps).imports_eq
    rw [render_of_pieces hps, himports] at hs
    injection hs with htext hr
    subst htext hr
    have hjoined : pieces (s ++ t).template (s ++ t).args =
        ((pieces t.template t.args).mapError
          (TemplateFault.shift s.args.length s.template.utf8ByteSize)).map (ps ++ ·) :=
      pieces_append hps
    refine ⟨directiveCount_append (renderError?_of_pieces hps), ?_⟩
    cases hqs : pieces t.template t.args with
    | error fault =>
      rw [hqs] at hjoined
      rw [render_of_fault hqs]
      constructor
      · intro more r'' h
        cases h
      · intro e r'' h
        injection h with he hr
        exact ⟨hr.symm, fault, he.symm, render_of_fault hjoined r⟩
    | ok qs =>
      rw [hqs] at hjoined
      rw [render_of_pieces hqs]
      constructor
      · intro more r'' h
        injection h with hmore hr
        -- the packages of the first statement are known before those of the second are registered
        have hfirst := print_eq_of_extends hplain hps
          (Registry.extends_registerAll (r.registerAll s.needs) (qs.flatMap Piece.imports))
        rw [render_of_pieces hjoined, List.flatMap_append, Registry.registerAll_append, himports,
          print_append, hfirst, hmore, hr]
      · intro e r'' h
        cases h

/-- A line with a type, behind a character of two bytes. -/
def typedHead : Statement where
  template := "é $T = "
  args := [.type (.slice (.named ⟨some ⟨"shop/cart", none, by decide +kernel⟩, "Item",
    by decide +kernel⟩))]

/-- The registry that `typedHead` leaves. -/
def afterTypedHead : Registry where
  resolved := [("shop/cart", "cart")]
  defaults := [("shop/cart", "cart")]
  taken := ["cart"]

/-- A value of a type whose package prefers the token of `typedHead`'s package. -/
def clashingValue : Statement where
  template := "$T($L)"
  args := [.type (.named ⟨some ⟨"depot/carts", some "cart", by decide +kernel⟩, "New",
    by decide +kernel⟩), .literal "$Q"]

/-- A value with a directive that does not exist. -/
def brokenValue : Statement where
  template := "$L$Q"
  args := [.literal "x"]

theorem typedHead_joined :
    render (typedHead ++ clashingValue).template (typedHead ++ clashingValue).args {} =
        .ok "é []cart.Item = cart2.New($Q)" (afterTypedHead.add "depot/carts" "cart2") ∧
      render (typedHead ++ brokenValue).template (typedHead ++ brokenValue).args {} =
        .error (.template "é $T = $L$Q" (.unknownDirective (some 'Q') 10)) {} := by
  have hplain : ∀ u ∈ typedHead.refs, u.isPlain = true := by decide +kernel
  have hhead : render typedHead.template typedHead.args {} =
      .ok "é []cart.Item = " afterTypedHead := by decide +kernel
  have hvalue : render clashingValue.template clashingValue.args afterTypedHead =
      .ok "cart2.New($Q)" (afterTypedHead.add "depot/carts" "cart2") := by decide +kernel
  have hbroken : render brokenValue.template brokenValue.args afterTypedHead =
      .error (.template "$L$Q" (.unknownDirective (some 'Q') 2)) afterTypedHead := by
    decide +kernel
  refine ⟨?_, ?_⟩
  · exact (render_append _ _ typedHead clashingValue _ hplain hhead).2.1 _ _ hvalue
  · obtain ⟨-, fault, hfault, hjoined⟩ :=
      (render_append _ _ typedHead brokenValue _ hplain hhead).2.2 _ _ hbroken
    injection hfault with _ hfault
    rw [hjoined, ← hfault]
    decide +kernel

end Statement

/-- The line that opens a block renders exactly when its header does. -/
theorem Func.renderError?_blockHeader_eq_none_iff {header : Statement} :
    (Func.blockHeader header).renderError? = none ↔ header.renderError? = none := by
  have hbrace : (Statement.opening " \x7b").renderError? = none :=
    Statement.renderError?_of_accepts [] (by decide) rfl
  constructor
  · intro h
    have hfits := Statement.renderError?_eq_none_iff_fits.mp h
    rw [Func.blockHeader, Statement.template_append, Statement.args_append,
      String.toList_append] at hfits
    have hlist : (Statement.opening " \x7b").template.toList = [' ', '\x7b'] := by decide
    rw [hlist] at hfits
    have hknown := Template.isKnown_of_items_append (by decide) hfits.known
    -- the brace takes no argument, so all arguments are those of the header
    have hkinds := hfits.kinds
    have hslots : Template.slots (Template.items [' ', '\x7b']) = [] := by decide
    have hargs : (Statement.opening " \x7b").args = [] := rfl
    rw [Template.items_append hknown, Template.slots_append, hslots, List.append_nil, hargs,
      List.append_nil] at hkinds
    exact Statement.renderError?_eq_none_iff_fits.mpr ⟨hknown, hkinds⟩
  · intro h
    exact Statement.renderError?_append h hbrace

end SourcePress
