import SourcePress.Proofs.Joining

/-!
# Counting directives

How many arguments a template takes is found out by two loops that know nothing of each other.
`Statement.directiveCount` runs over the characters and counts; it sees no arguments and refuses
nothing.  `Template.render` reads the template into items and hands the arguments out one by one, and
it stops at the first fault.

The count is the number of slots among the items (`Template.countDirectives_eq_length_slots`): both
loops take the character behind a dollar sign along, whatever it is, so they stay in step also on
escapes, on runs of dollar signs and at a dollar sign that ends the template.  What remains is about
places.  A fault about an argument belongs to an item with a slot, and the arguments used before this
item are fewer than all slots (`used_lt_length_slots`).  So the numbers in a fault can be compared
with the count, although rendering may have stopped long before the end (`Reported.counts`).
-/

namespace SourcePress

namespace Template

/-! ## The numbers in a fault -/

/-- An item with a slot has fewer slots before it than there are. -/
theorem used_lt_length_slots {its : List Item} {i : Nat} {it : Item} {kind : ArgumentKind}
    (hi : its[i]? = some it) (hslot : it.slot? = some kind) : used its i < (slots its).length := by
  obtain ⟨hlt, rfl⟩ := List.getElem?_eq_some_iff.mp hi
  have hnext : used its (i + 1) = used its i + 1 := by
    rw [used, List.take_succ_eq_append_getElem hlt, slots_concat, List.length_append, hslot, used]
    rfl
  have hle : used its (i + 1) ≤ (slots its).length :=
    ((List.take_sublist (i + 1) its).filterMap Item.slot?).length_le
  omega

/-- What can be wrong with an argument: it is not there, or it is of the other kind. -/
theorem argumentFault?_cases {args : List Value} {index : Nat} {kind : ArgumentKind}
    {fault : TemplateFault} (h : argumentFault? args index kind = some fault) :
    (args.length ≤ index ∧ fault = .missingArgument args.length) ∨
      (index < args.length ∧ fault = .wrongKind index kind) := by
  unfold argumentFault? at h
  split at h
  · next hget =>
    injection h with h
    exact Or.inl ⟨List.getElem?_eq_none_iff.mp hget, h.symm⟩
  · next v hget =>
    obtain ⟨hlt, -⟩ := List.getElem?_eq_some_iff.mp hget
    split at h
    · cases h
    · injection h with h
      exact Or.inr ⟨hlt, h.symm⟩

/-- What can be wrong with an item: something about the argument that it takes, or that it is no
directive. -/
theorem Item.fault?_cases {it : Item} {args : List Value} {used offset : Nat}
    {fault : TemplateFault} (h : it.fault? args used offset = some fault) :
    (∃ kind, it.slot? = some kind ∧ argumentFault? args used kind = some fault) ∨
      (it.isKnown = false ∧ ∃ c, fault = .unknownDirective c offset) := by
  match it with
  | .plain c => cases h
  | .directive c =>
    by_cases hknown : (Item.directive c).isKnown = true
    · rcases Item.isKnown_directive_iff.mp hknown with rfl | rfl | rfl
      · exact Or.inl ⟨.literal, rfl, h⟩
      · exact Or.inl ⟨.type, rfl, h⟩
      · cases h
    · rw [Item.fault?_of_not_isKnown hknown] at h
      injection h with h
      exact Or.inr ⟨Bool.eq_false_iff.mpr hknown, c, h.symm⟩

/-- What the numbers in a fault are, for a template with `slots` slots and a list of `supplied`
arguments.  A directive that is unknown has no such number. -/
def Counts (slots supplied : Nat) : TemplateFault → Prop
  | .unusedArguments used given => used = slots ∧ slots < given ∧ given = supplied
  | .missingArgument index => index = supplied ∧ supplied < slots
  | .wrongKind index _ => index < slots ∧ index < supplied
  | .unknownDirective _ _ => True

/-- **A reported fault compares all slots with all arguments**, wherever it stands. -/
theorem Reported.counts {its : List Item} {args : List Value} {fault : TemplateFault}
    (h : Reported its args fault) : Counts (slots its).length args.length fault := by
  rcases h with ⟨i, hfault, -⟩ | ⟨-, hlt, rfl⟩
  · obtain ⟨it, hi, hit⟩ := Option.bind_eq_some_iff.mp hfault
    rcases Item.fault?_cases hit with ⟨kind, hslot, harg⟩ | ⟨-, c, rfl⟩
    · have hused : used its i < (slots its).length := used_lt_length_slots hi hslot
      rcases argumentFault?_cases harg with ⟨hle, rfl⟩ | ⟨hlt, rfl⟩
      · exact ⟨rfl, Nat.lt_of_le_of_lt hle hused⟩
      · exact ⟨hused, hlt⟩
    · exact True.intro
  · exact ⟨rfl, hlt, rfl⟩

/-- No directive is reported as unknown if all of them are known. -/
theorem Reported.ne_unknownDirective {its : List Item} {args : List Value} {fault : TemplateFault}
    (h : Reported its args fault) (hknown : ∀ it ∈ its, it.isKnown = true) (c : Option Char)
    (offset : Nat) : fault ≠ .unknownDirective c offset := by
  rintro rfl
  rcases h with ⟨i, hfault, -⟩ | ⟨-, -, h⟩
  · obtain ⟨it, hi, hit⟩ := Option.bind_eq_some_iff.mp hfault
    rcases Item.fault?_cases hit with ⟨kind, -, harg⟩ | ⟨hunknown, -⟩
    · rcases argumentFault?_cases harg with ⟨-, h⟩ | ⟨-, h⟩
      · cases h
      · cases h
    · rw [hknown it (List.mem_of_getElem? hi)] at hunknown
      cases hunknown
  · cases h

/-! ## Agreement -/

theorem fits_of_render {template text : String} {args : List Value} {r r' : Registry}
    (h : render template args r = .ok text r') : Fits (items template.toList) args := by
  cases hpieces : pieces template args with
  | error fault =>
    rw [render_of_fault hpieces] at h
    cases h
  | ok ps => exact (pieces_eq_ok_iff.mp hpieces).fits

theorem reported_of_render {template text : String} {args : List Value} {r r' : Registry}
    {fault : TemplateFault} (h : render template args r = .error (.template text fault) r') :
    Reported (items template.toList) args fault := by
  cases hpieces : pieces template args with
  | error fault' =>
    rw [render_of_fault hpieces] at h
    injection h with he
    injection he with _ hfault
    rw [← hfault]
    exact @reported_of_fill [] _ [] args fault' rfl (fun j hj => absurd hj (Nat.not_lt_zero j))
      hpieces
  | ok ps =>
    rw [render_of_pieces hpieces] at h
    cases h

end Template

namespace Statement

open Template (items render)

/-- **Counting directives agrees with rendering.**  A statement that renders has as many arguments as
the count says.  If arguments are left over, the error has the count and the number of arguments,
which is larger; if one is missing, the error has the number of arguments, which is smaller than the
count; and the number of one that is of the wrong kind is below both.  Conversely, if all directives
are known, then none is missing when there are as many as the count says, and when there are more,
the statement fails because one is left over or of the wrong kind. -/
theorem directiveCount_agrees_with_render (s : Statement) (r : Registry) :
    (∀ text r', render s.template s.args r = .ok text r' → s.directiveCount = s.args.length) ∧
    (∀ template used supplied r',
      render s.template s.args r = .error (.template template (.unusedArguments used supplied)) r' →
        used = s.directiveCount ∧ s.directiveCount < supplied ∧ supplied = s.args.length) ∧
    (∀ template index r',
      render s.template s.args r = .error (.template template (.missingArgument index)) r' →
        index = s.args.length ∧ s.args.length < s.directiveCount) ∧
    (∀ template index kind r',
      render s.template s.args r = .error (.template template (.wrongKind index kind)) r' →
        index < s.directiveCount ∧ index < s.args.length) ∧
    ((∀ it ∈ items s.template.toList, it.isKnown = true) →
      (s.directiveCount ≤ s.args.length → ∀ template index r',
        render s.template s.args r ≠ .error (.template template (.missingArgument index)) r') ∧
      (s.directiveCount < s.args.length → ∃ fault r',
        render s.template s.args r = .error (.template s.template fault) r' ∧
          ((∃ used supplied, fault = .unusedArguments used supplied) ∨
            ∃ index kind, fault = .wrongKind index kind))) := by
  have hslots : s.directiveCount = (Template.slots (items s.template.toList)).length :=
    Template.countDirectives_eq_length_slots s.template.toList
  have hcounts : ∀ template fault r',
      render s.template s.args r = .error (.template template fault) r' →
        Template.Counts s.directiveCount s.args.length fault := by
    intro template fault r' h
    rw [hslots]
    exact (Template.reported_of_render h).counts
  have hok : ∀ text r', render s.template s.args r = .ok text r' →
      s.directiveCount = s.args.length := by
    intro text r' h
    rw [hslots, (Template.fits_of_render h).kinds, List.length_map]
  refine ⟨hok, fun template used supplied r' h => hcounts template _ r' h,
    fun template index r' h => hcounts template _ r' h,
    fun template index kind r' h => hcounts template _ r' h, fun hknown => ⟨?_, ?_⟩⟩
  · intro hle template index r' h
    have hmissing : index = s.args.length ∧ s.args.length < s.directiveCount :=
      hcounts template _ r' h
    omega
  · intro hlt
    cases hpieces : Template.pieces s.template s.args with
    | ok ps =>
      have heq := hok _ _ (Template.render_of_pieces hpieces r)
      omega
    | error fault =>
      have herror := Template.render_of_fault hpieces r
      refine ⟨fault, r, herror, ?_⟩
      have hcount := hcounts s.template fault r herror
      match fault with
      | .unusedArguments used supplied => exact Or.inl ⟨used, supplied, rfl⟩
      | .wrongKind index kind => exact Or.inr ⟨index, kind, rfl⟩
      | .missingArgument index =>
        have hmissing : s.args.length < s.directiveCount := hcount.2
        omega
      | .unknownDirective c offset =>
        exact absurd rfl ((Template.reported_of_render herror).ne_unknownDirective hknown c offset)

/-- Dollar signs in runs, of which two stand before letters that would be directives otherwise, and
one argument more than the two directives take. -/
def surplusStatement : Statement where
  template := "$$L $L$$$$T for $T$$"
  args := [.literal "pear", .type (.declared "Basket"), .literal "today"]

theorem surplusStatement_counted :
    surplusStatement.directiveCount = 2 ∧
      render surplusStatement.template surplusStatement.args {} =
        .error (.template surplusStatement.template (.unusedArguments 2 3)) {} ∧
      (∃ fault r', render surplusStatement.template surplusStatement.args {} =
          .error (.template surplusStatement.template fault) r' ∧
        ((∃ used supplied, fault = .unusedArguments used supplied) ∨
          ∃ index kind, fault = .wrongKind index kind)) ∧
      2 = surplusStatement.directiveCount ∧ surplusStatement.directiveCount < 3 ∧
      3 = surplusStatement.args.length := by
  have hrender : render surplusStatement.template surplusStatement.args {} =
      .error (.template surplusStatement.template (.unusedArguments 2 3)) {} := by decide +kernel
  have hknown : (items surplusStatement.template.toList).all Template.Item.isKnown = true := by
    decide +kernel
  obtain ⟨-, hunused, -, -, hmore⟩ := directiveCount_agrees_with_render surplusStatement {}
  exact ⟨by decide +kernel, hrender,
    (hmore (List.all_eq_true.mp hknown)).2 (by decide +kernel), hunused _ _ _ _ hrender⟩

end Statement

end SourcePress
