import SourcePress.Proofs.Substitution

/-!
# The language of templates

Which templates fit which arguments, what they print, and which fault is reported for the others,
each said for an item at its place and not along a traversal.

A template has one reading as items (`IsScan`, `IsScan.eq_items`).  The place of an item determines
everything else about it: the directives before it that take an argument say which argument is its
own (`used`), and the characters before it say how many bytes into the template it stands
(`offset`).  From these follow its text (`Item.print`) and its fault, if it has one (`faultAt?`).

`Template.fill` finds the same, counting arguments and bytes as it goes along.  What it does with
one item is said once, in `fill_cons_cases`; the inductions after that compare the running counts
with the places.
-/

namespace SourcePress

/-- The kind of an argument. -/
def Value.kind : Value → ArgumentKind
  | .literal _ => .literal
  | .type _ => .type

namespace Template

/-! ## Reading a template -/

/-- The characters that an item takes in the template. -/
def Item.chars : Item → List Char
  | .plain c => [c]
  | .directive none => ['$']
  | .directive (some c) => ['$', c]

/-- The items are a reading of the text: put together they are the text, no plain character is a
dollar sign, and a dollar sign without a character behind it is the last item. -/
structure IsScan (cs : List Char) (its : List Item) : Prop where
  chars_eq : its.flatMap Item.chars = cs
  plain_ne : Item.plain '$' ∉ its
  last : ∀ i, its[i]? = some (.directive none) → i + 1 = its.length

theorem IsScan.cons {cs : List Char} {its : List Item} (h : IsScan cs its) (it : Item)
    (hplain : it ≠ .plain '$') (hlast : it ≠ .directive none) :
    IsScan (it.chars ++ cs) (it :: its) where
  chars_eq := by rw [List.flatMap_cons, h.chars_eq]
  plain_ne := by
    rw [List.mem_cons, not_or]
    exact ⟨hplain.symm, h.plain_ne⟩
  last := by
    intro i hi
    cases i with
    | zero => exact absurd (Option.some.inj hi) hlast
    | succ i => rw [h.last i hi, List.length_cons]

theorem IsScan.tail {cs : List Char} {it : Item} {its : List Item} (h : IsScan cs (it :: its)) :
    IsScan (its.flatMap Item.chars) its where
  chars_eq := rfl
  plain_ne := fun hmem => h.plain_ne (List.mem_cons_of_mem it hmem)
  last := by
    intro i hi
    have hlength := h.last (i + 1) hi
    rw [List.length_cons] at hlength
    omega

theorem isScan_items (cs : List Char) : IsScan cs (items cs) := by
  induction cs using items.induct with
  | case1 =>
    refine ⟨rfl, List.not_mem_nil, ?_⟩
    intro i hi
    cases hi
  | case2 =>
    refine ⟨rfl, by decide, ?_⟩
    intro i hi
    cases i with
    | zero => rfl
    | succ i => cases hi
  | case3 c rest ih =>
    rw [items_dollar]
    exact ih.cons (.directive (some c)) (by simp) (by simp)
  | case4 c rest hlast hnext ih =>
    have hc : c ≠ '$' := ne_dollar hlast hnext
    rw [items_plain hc]
    exact ih.cons (.plain c) (by simpa using hc) (by simp)

/-- **A text has one reading.** -/
theorem IsScan.eq_items {cs : List Char} {its : List Item} (h : IsScan cs its) :
    its = items cs := by
  induction its generalizing cs with
  | nil =>
    rw [← h.chars_eq]
    rfl
  | cons it rest ih =>
    have hrest := ih h.tail
    rw [← h.chars_eq, List.flatMap_cons]
    match it with
    | .plain c =>
      have hc : c ≠ '$' := by
        rintro rfl
        exact h.plain_ne (List.mem_cons_self ..)
      show _ = items (c :: rest.flatMap Item.chars)
      rw [items_plain hc, ← hrest]
    | .directive none =>
      have hlength := h.last 0 rfl
      have hnil : rest = [] := List.length_eq_zero_iff.mp (by simpa using hlength.symm)
      rw [hnil]
      rfl
    | .directive (some c) =>
      show _ = items ('$' :: c :: rest.flatMap Item.chars)
      rw [items_dollar, ← hrest]

/-! ## Items at their places -/

/-- Is the item a plain character or one of the three directives? -/
def Item.isKnown : Item → Bool
  | .plain _ => true
  | .directive c => c = some 'L' || c = some 'T' || c = some '$'

/-- The kind of argument that the item takes, if it takes one. -/
def Item.slot? : Item → Option ArgumentKind
  | .directive (some 'L') => some .literal
  | .directive (some 'T') => some .type
  | _ => none

/-- The kinds of arguments that the items take, in order. -/
def slots (its : List Item) : List ArgumentKind := its.filterMap Item.slot?

/-- The number of arguments that are used before item number `i`.  If the item takes an argument,
it takes the one with this number. -/
def used (its : List Item) (i : Nat) : Nat := (slots (its.take i)).length

/-- The number of bytes that the items take in the template. -/
def bytes (its : List Item) : Nat := (String.ofList (its.flatMap Item.chars)).utf8ByteSize

/-- The number of bytes before item number `i`. -/
def offset (its : List Item) (i : Nat) : Nat := bytes (its.take i)

/-- What is printed for an item, if it is given the argument. -/
def Item.print (name : TypeRef → String) : Item → Option Value → String
  | .plain c, _ => c.toString
  | .directive (some '$'), _ => "$"
  | .directive (some 'L'), some (.literal s) => s
  | .directive (some 'T'), some (.type t) => name t
  | _, _ => ""

/-- The texts of all items, each with its own argument. -/
def expand (name : TypeRef → String) (its : List Item) (args : List Value) : String :=
  String.join (its.mapIdx fun i it => it.print name args[used its i]?)

/-- The items fit the arguments: all directives are known, and they take as many arguments as there
are, of the same kinds and in the same order. -/
structure Fits (its : List Item) (args : List Value) : Prop where
  known : ∀ it ∈ its, it.isKnown = true
  kinds : slots its = args.map Value.kind

/-- What is wrong with argument number `index`, for a directive that takes the given kind. -/
def argumentFault? (args : List Value) (index : Nat) (kind : ArgumentKind) :
    Option TemplateFault :=
  match args[index]? with
  | none => some (.missingArgument args.length)
  | some v => if v.kind = kind then none else some (.wrongKind index kind)

/-- What is wrong with an item that has `used` arguments and `offset` bytes before it. -/
def Item.fault? (args : List Value) (used offset : Nat) : Item → Option TemplateFault
  | .plain _ => none
  | .directive (some '$') => none
  | .directive (some 'L') => argumentFault? args used .literal
  | .directive (some 'T') => argumentFault? args used .type
  | .directive c => some (.unknownDirective c offset)

/-- What is wrong with item number `i`. -/
def faultAt? (its : List Item) (args : List Value) (i : Nat) : Option TemplateFault :=
  its[i]?.bind (Item.fault? args (used its i) (offset its i))

/-- The fault that is reported: that of the first item that has one, or, if no item has, that there
are more arguments than the items use. -/
def Reported (its : List Item) (args : List Value) (fault : TemplateFault) : Prop :=
  (∃ i, faultAt? its args i = some fault ∧ ∀ j < i, faultAt? its args j = none) ∨
    ((∀ i, faultAt? its args i = none) ∧ (slots its).length < args.length ∧
      fault = .unusedArguments (slots its).length args.length)

theorem slots_cons (it : Item) (its : List Item) :
    slots (it :: its) = it.slot?.toList ++ slots its := by
  rw [slots, List.filterMap_cons]
  cases it.slot? with
  | none => rfl
  | some kind => rfl

theorem slots_concat (its : List Item) (it : Item) :
    slots (its ++ [it]) = slots its ++ it.slot?.toList := by
  rw [slots, List.filterMap_append, ← slots, ← slots, slots_cons]
  exact congrArg _ (List.append_nil _)

theorem bytes_append (xs ys : List Item) : bytes (xs ++ ys) = bytes xs + bytes ys := by
  rw [bytes, List.flatMap_append, String.ofList_append, String.utf8ByteSize_append, bytes, bytes]

/-- The bytes of an item are those of its characters. -/
theorem bytes_singleton (it : Item) : bytes [it] = it.size := by
  rw [bytes, List.flatMap_singleton]
  match it with
  | .plain c => simp [Item.chars, Item.size]
  | .directive none => rfl
  | .directive (some c) =>
    have hdollar : (String.ofList ['$']).utf8ByteSize = 1 := rfl
    show (String.ofList (['$'] ++ [c])).utf8ByteSize = 1 + c.utf8Size
    rw [String.ofList_append, String.utf8ByteSize_append, hdollar]
    simp

theorem bytes_concat (its : List Item) (it : Item) : bytes (its ++ [it]) = bytes its + it.size := by
  rw [bytes_append, bytes_singleton]

/-! ## The text -/

theorem used_cons_succ (it : Item) (its : List Item) (i : Nat) :
    used (it :: its) (i + 1) = it.slot?.toList.length + used its i := by
  rw [used, List.take_succ_cons, slots_cons, List.length_append, used]

theorem expand_cons (name : TypeRef → String) (it : Item) (its : List Item) (args : List Value) :
    expand name (it :: its) args =
      it.print name args[0]? ++ expand name its (args.drop it.slot?.toList.length) := by
  rw [expand, List.mapIdx_cons, String.join_cons, expand]
  congr 3
  funext i it'
  rw [used_cons_succ, List.getElem?_drop]

/-- Printing the pieces of a template is printing its items in their places. -/
theorem Filled.print_eq_expand {its : List Item} {args : List Value} {ps : List Piece}
    (h : Filled its args ps) (r : Registry) : print r ps = expand (TypeRef.text r) its args := by
  induction h with
  | nil => simp [expand]
  | plain c _ ih =>
    rw [print_cons, expand_cons, ih]
    rfl
  | dollar _ ih =>
    rw [print_cons, expand_cons, ih]
    rfl
  | literal s _ ih =>
    rw [print_cons, expand_cons, ih]
    rfl
  | type t _ ih =>
    rw [print_cons, expand_cons, ih]
    rfl

theorem Filled.fits {its : List Item} {args : List Value} {ps : List Piece}
    (h : Filled its args ps) : Fits its args := by
  induction h with
  | nil => exact ⟨nofun, rfl⟩
  | plain c _ ih => exact ⟨List.forall_mem_cons.mpr ⟨rfl, ih.known⟩, ih.kinds⟩
  | dollar _ ih => exact ⟨List.forall_mem_cons.mpr ⟨rfl, ih.known⟩, ih.kinds⟩
  | literal s _ ih =>
    refine ⟨List.forall_mem_cons.mpr ⟨rfl, ih.known⟩, ?_⟩
    rw [slots_cons, ih.kinds]
    rfl
  | type t _ ih =>
    refine ⟨List.forall_mem_cons.mpr ⟨rfl, ih.known⟩, ?_⟩
    rw [slots_cons, ih.kinds]
    rfl

theorem Item.isKnown_directive_iff {c : Option Char} :
    (Item.directive c).isKnown = true ↔ c = some 'L' ∨ c = some 'T' ∨ c = some '$' := by
  simp [Item.isKnown, or_assoc]

theorem Fits.exists_filled {its : List Item} {args : List Value} (h : Fits its args) :
    ∃ ps, Filled its args ps := by
  induction its generalizing args with
  | nil =>
    have hargs : args = [] := List.map_eq_nil_iff.mp h.kinds.symm
    rw [hargs]
    exact ⟨[], Filled.nil⟩
  | cons it rest ih =>
    obtain ⟨hit, hknown⟩ := List.forall_mem_cons.mp h.known
    have hkinds := h.kinds
    rw [slots_cons] at hkinds
    match it with
    | .plain c =>
      obtain ⟨ps, hps⟩ := ih ⟨hknown, hkinds⟩
      exact ⟨_, hps.plain c⟩
    | .directive c =>
      rcases Item.isKnown_directive_iff.mp hit with rfl | rfl | rfl
      · obtain ⟨v, args', rfl, hv, hrest⟩ := List.map_eq_cons_iff.mp hkinds.symm
        obtain ⟨ps, hps⟩ := ih ⟨hknown, hrest.symm⟩
        cases v with
        | literal s => exact ⟨_, hps.literal s⟩
        | type t => cases hv
      · obtain ⟨v, args', rfl, hv, hrest⟩ := List.map_eq_cons_iff.mp hkinds.symm
        obtain ⟨ps, hps⟩ := ih ⟨hknown, hrest.symm⟩
        cases v with
        | literal s => cases hv
        | type t => exact ⟨_, hps.type t⟩
      · obtain ⟨ps, hps⟩ := ih ⟨hknown, hkinds⟩
        exact ⟨_, hps.dollar⟩

/-! ## The fault -/

theorem argumentFault?_append_nil (done : List Value) (kind : ArgumentKind) :
    argumentFault? (done ++ []) done.length kind = some (.missingArgument done.length) := by
  simp [argumentFault?]

theorem argumentFault?_append_cons (done : List Value) (v : Value) (args : List Value)
    (kind : ArgumentKind) :
    argumentFault? (done ++ v :: args) done.length kind =
      if v.kind = kind then none else some (.wrongKind done.length kind) := by
  simp [argumentFault?]

theorem Item.fault?_of_not_isKnown {c : Option Char} (h : ¬ (Item.directive c).isKnown = true)
    (args : List Value) (used offset : Nat) :
    (Item.directive c).fault? args used offset = some (.unknownDirective c offset) := by
  rw [Item.isKnown_directive_iff, not_or, not_or] at h
  rw [Item.fault?]
  · exact h.2.2
  · exact h.1
  · exact h.2.1

theorem fill_of_not_isKnown {c : Option Char} (h : ¬ (Item.directive c).isKnown = true)
    (rest : List Item) (args : List Value) (index offset : Nat) :
    fill (.directive c :: rest) args index offset = .error (.unknownDirective c offset) := by
  rw [Item.isKnown_directive_iff, not_or, not_or] at h
  -- every other equation of `fill` is about one of the three known directives
  rw [fill]
  · exact h.2.2
  · exact fun _ _ _ => h.1
  · exact fun _ _ _ => h.1
  · exact fun _ => h.1
  · exact fun _ _ _ => h.2.1
  · exact fun _ _ _ => h.2.1
  · exact fun _ => h.2.1

/-- **What filling does with one item**, when the arguments in `done` are used.  If the item has a
fault, that is the result.  Otherwise it takes its arguments off the list, if it needs any, and the
items behind it are filled from the others. -/
theorem fill_cons_cases (it : Item) (rest : List Item) (done args : List Value) (offset : Nat) :
    (∃ fault, it.fault? (done ++ args) done.length offset = some fault ∧
      fill (it :: rest) args done.length offset = .error fault) ∨
    (it.fault? (done ++ args) done.length offset = none ∧
      ∃ p taken left, args = taken ++ left ∧ taken.length = it.slot?.toList.length ∧
        fill (it :: rest) args done.length offset =
          (fill rest left (done ++ taken).length (offset + it.size)).map (p :: ·)) := by
  match it with
  | .plain c =>
    refine Or.inr ⟨rfl, .text c.toString, [], args, rfl, rfl, ?_⟩
    rw [fill, List.append_nil]
    rfl
  | .directive c =>
    by_cases hknown : (Item.directive c).isKnown = true
    · rcases Item.isKnown_directive_iff.mp hknown with rfl | rfl | rfl
      · cases args with
        | nil =>
          refine Or.inl ⟨_, argumentFault?_append_nil done .literal, ?_⟩
          rw [fill]
        | cons v args =>
          cases v with
          | literal s =>
            refine Or.inr ⟨?_, .text s, [.literal s], args, rfl, rfl, ?_⟩
            · exact (argumentFault?_append_cons done _ args .literal).trans (if_pos rfl)
            · rw [fill, List.length_append]
              rfl
          | type t =>
            refine Or.inl ⟨_, (argumentFault?_append_cons done _ args .literal).trans
              (if_neg fun h => ArgumentKind.noConfusion h), ?_⟩
            rw [fill]
      · cases args with
        | nil =>
          refine Or.inl ⟨_, argumentFault?_append_nil done .type, ?_⟩
          rw [fill]
        | cons v args =>
          cases v with
          | literal s =>
            refine Or.inl ⟨_, (argumentFault?_append_cons done _ args .type).trans
              (if_neg fun h => ArgumentKind.noConfusion h), ?_⟩
            rw [fill]
          | type t =>
            refine Or.inr ⟨?_, .ref t, [.type t], args, rfl, rfl, ?_⟩
            · exact (argumentFault?_append_cons done _ args .type).trans (if_pos rfl)
            · rw [fill, List.length_append]
              rfl
      · refine Or.inr ⟨rfl, .text "$", [], args, rfl, rfl, ?_⟩
        rw [fill, List.append_nil]
        rfl
    · exact Or.inl ⟨_, Item.fault?_of_not_isKnown hknown _ _ _, fill_of_not_isKnown hknown _ _ _ _⟩

theorem faultAt?_append_cons (pre : List Item) (it : Item) (rest : List Item) (args : List Value) :
    faultAt? (pre ++ it :: rest) args pre.length =
      it.fault? args (slots pre).length (bytes pre) := by
  rw [faultAt?, used, offset, List.take_left, List.getElem?_append_right (Nat.le_refl _),
    Nat.sub_self]
  rfl

/-- A fault that filling finds behind items without faults is the one to be reported.  The items in
front have used up the arguments in `done`. -/
theorem reported_of_fill {pre rest : List Item} {done args : List Value} {fault : TemplateFault}
    (hused : (slots pre).length = done.length)
    (hclean : ∀ j < pre.length, faultAt? (pre ++ rest) (done ++ args) j = none)
    (h : fill rest args done.length (bytes pre) = .error fault) :
    Reported (pre ++ rest) (done ++ args) fault := by
  induction rest generalizing pre done args with
  | nil =>
    rw [List.append_nil] at hclean ⊢
    cases args with
    | nil => cases h
    | cons v args =>
      rw [fill] at h
      injection h with h
      refine Or.inr ⟨?_, ?_, ?_⟩
      · intro i
        by_cases hi : i < pre.length
        · exact hclean i hi
        · rw [faultAt?, List.getElem?_eq_none (Nat.le_of_not_lt hi)]
          rfl
      · rw [hused, List.length_append, List.length_cons]
        omega
      · rw [← h, hused, List.length_append]
  | cons it rest ih =>
    rcases fill_cons_cases it rest done args (bytes pre) with
      ⟨fault', hfault, herror⟩ | ⟨hnone, p, taken, left, rfl, htaken, hfill⟩
    · rw [herror] at h
      injection h with h
      refine Or.inl ⟨pre.length, ?_, hclean⟩
      rw [faultAt?_append_cons, hused, hfault, h]
    · rw [hfill] at h
      have hleft : fill rest left (done ++ taken).length (bytes (pre ++ [it])) = .error fault := by
        rw [bytes_concat]
        cases hrest : fill rest left (done ++ taken).length (bytes pre + it.size) with
        | error fault' =>
          rw [hrest] at h
          injection h with h
          rw [h]
        | ok ps =>
          rw [hrest] at h
          cases h
      -- the item joins those in front, and its arguments join the used ones
      have hitems : pre ++ it :: rest = (pre ++ [it]) ++ rest := by simp
      rw [hitems] at hclean ⊢
      rw [← List.append_assoc] at hclean ⊢
      refine ih ?_ ?_ hleft
      · rw [slots_concat, List.length_append, List.length_append, hused, htaken]
      · intro j hj
        rw [List.length_append, List.length_singleton] at hj
        by_cases hjp : j < pre.length
        · exact hclean j hjp
        · have hjeq : j = pre.length := by omega
          rw [hjeq, ← hitems, faultAt?_append_cons, hused, List.append_assoc]
          exact hnone

/-! ## Rendering -/

/-- **The language of templates.**  A template has one reading as items.  It renders exactly when
the items fit the arguments, and then the imports of all references are registered, in the order of
the arguments, and each item is printed with its own argument under the registry that results.
Otherwise the error has the fault of the first item with one, or says that arguments are left over,
and the registry is as it was. -/
theorem render_expands_or_reports (template : String) (args : List Value) (r : Registry) :
    ∃ its, IsScan template.toList its ∧ (∀ its', IsScan template.toList its' → its' = its) ∧
      ((∃ text r', render template args r = .ok text r') ↔ Fits its args) ∧
      (∀ text r', render template args r = .ok text r' →
        r' = r.registerAll ((args.filterMap Value.ref?).flatMap fun t => t.imports.toList) ∧
          text = expand (TypeRef.text r') its args) ∧
      ∀ e r', render template args r = .error e r' →
        r' = r ∧ ∃ fault, e = .template template fault ∧ Reported its args fault := by
  refine ⟨items template.toList, isScan_items _, fun its' h => h.eq_items, ?_⟩
  cases hpieces : pieces template args with
  | error fault =>
    rw [render_of_fault hpieces]
    refine ⟨⟨?_, ?_⟩, nofun, ?_⟩
    · rintro ⟨text, r', h⟩
      cases h
    · intro hfits
      obtain ⟨ps, hps⟩ := hfits.exists_filled
      rw [pieces_eq_ok_iff.mpr hps] at hpieces
      cases hpieces
    · intro e r' h
      injection h with he hr
      exact ⟨hr.symm, fault, he.symm, @reported_of_fill [] _ [] args fault rfl nofun hpieces⟩
  | ok ps =>
    have hfilled : Filled (items template.toList) args ps := pieces_eq_ok_iff.mp hpieces
    rw [render_of_pieces hpieces]
    refine ⟨⟨fun _ => hfilled.fits, fun _ => ⟨_, _, rfl⟩⟩, ?_, nofun⟩
    intro text r' h
    injection h with htext hr
    refine ⟨?_, ?_⟩
    · rw [← hr, hfilled.imports_eq]
    · rw [← htext, ← hr, hfilled.print_eq_expand]

end Template

end SourcePress
