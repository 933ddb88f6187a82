import SourcePress.Proofs.Substitution
import SourcePress.Writer

/-!
# What writing does

Writing a statement has three outcomes, and this file gives one equation for each: a step of
indentation that leads below zero, a template that does not fit its arguments, and success.  The two
failures leave the writer as it was, and the first is looked for before the second.  After a success
the writer is `Writer.advance`: one more line, under the registry that already has the imports of
the whole line.

A block is written statement by statement, so writing the concatenation of two lists is writing one
after the other (`writeFrom_append`).  The number of the first statement appears in errors only
(`writeFrom_eq_ok_of_eq_ok`).
-/

namespace SourcePress

/-- The imports that a statement asks to register, in the order of its arguments. -/
def Statement.needs (s : Statement) : List Import := s.refs.flatMap fun t => t.imports.toList

/-! ## Steps of indentation -/

namespace Layout

/-- Both steps of a statement succeed exactly when neither leads below zero. -/
theorem step_eq_ok_iff {depth level next : Nat} {s : Statement} :
    step depth s = .ok (level, next) ↔
      (depth : Int) + s.before = level ∧ (level : Int) + s.after = next := by
  rw [← shift_eq_ok_iff, ← shift_eq_ok_iff, step]
  cases shift depth s.before with
  | error e => simp
  | ok reached =>
    dsimp only
    cases hnext : shift reached s.after with
    | error e =>
      constructor
      · intro h
        cases h
      · rintro ⟨h, h'⟩
        injection h with h
        rw [← h, hnext] at h'
        cases h'
    | ok after =>
      constructor
      · intro h
        injection h with h
        injection h with h h'
        subst h h'
        exact ⟨rfl, hnext⟩
      · rintro ⟨h, h'⟩
        injection h with h
        subst h
        rw [hnext] at h'
        injection h' with h'
        rw [h']

theorem shift_eq_error {depth : Nat} {delta : Int} {e : Error} (h : shift depth delta = .error e) :
    e = .indentUnderflow depth delta := by
  unfold shift at h
  split at h
  · cases h
  · injection h with h
    exact h.symm

/-- A statement whose indentation fails has a step below zero. -/
theorem exists_underflow_of_step_eq_error {depth : Nat} {s : Statement} {e : Error}
    (h : step depth s = .error e) : ∃ d delta, e = .indentUnderflow d delta := by
  unfold step at h
  split at h
  · next e' hbefore =>
    injection h with h
    exact ⟨depth, s.before, h ▸ shift_eq_error hbefore⟩
  · next level _ =>
    split at h
    · next e' hafter =>
      injection h with h
      exact ⟨level, s.after, h ▸ shift_eq_error hafter⟩
    · cases h

end Layout

namespace Writer

open Template (Piece)

-- so that runs on given statements, and what is printed of them, can be compared by evaluation
deriving instance DecidableEq for EStateM.Result
deriving instance DecidableEq for Except

/-! ## One statement -/

/-- The writer after a line of `ps` at `level`, followed by a step to `next`. -/
def advance (w : Writer) (level next : Nat) (ps : List Piece) : Writer :=
  { w with
    depth := next
    buffer := w.buffer ++ line w.indent level
      (Template.print (w.registry.registerAll (ps.flatMap Piece.imports)) ps) ++ "\n"
    registry := w.registry.registerAll (ps.flatMap Piece.imports)
    written := w.written + 1 }

/-- Indentation that fails is reported first, whatever the template. -/
theorem writeStatement_of_step_error {s : Statement} {w : Writer} {e : Error}
    (h : Layout.step w.depth s = .error e) : writeStatement s w = .error e w := by
  rw [writeStatement, h]

theorem writeStatement_of_fault {s : Statement} {w : Writer} {level next : Nat}
    {fault : TemplateFault} (hstep : Layout.step w.depth s = .ok (level, next))
    (hfault : Template.pieces s.template s.args = .error fault) :
    writeStatement s w = .error (.template s.template fault) w := by
  rw [writeStatement, hstep]
  dsimp only
  rw [Template.render_of_fault hfault]

theorem writeStatement_of_pieces {s : Statement} {w : Writer} {level next : Nat}
    {ps : List Piece} (hstep : Layout.step w.depth s = .ok (level, next))
    (hpieces : Template.pieces s.template s.args = .ok ps) :
    writeStatement s w = .ok () (w.advance level next ps) := by
  rw [writeStatement, hstep]
  dsimp only
  rw [Template.render_of_pieces hpieces]
  rfl

/-- **When a statement is written, and what the writer is then.** -/
theorem writeStatement_eq_ok_iff {s : Statement} {w w' : Writer} :
    writeStatement s w = .ok () w' ↔
      ∃ level next ps, Layout.step w.depth s = .ok (level, next) ∧
        Template.pieces s.template s.args = .ok ps ∧ w' = w.advance level next ps := by
  constructor
  · intro h
    cases hstep : Layout.step w.depth s with
    | error e =>
      rw [writeStatement_of_step_error hstep] at h
      cases h
    | ok reached =>
      obtain ⟨level, next⟩ := reached
      cases hpieces : Template.pieces s.template s.args with
      | error fault =>
        rw [writeStatement_of_fault hstep hpieces] at h
        cases h
      | ok ps =>
        rw [writeStatement_of_pieces hstep hpieces] at h
        injection h with _ h
        exact ⟨level, next, ps, rfl, rfl, h.symm⟩
  · rintro ⟨level, next, ps, hstep, hpieces, rfl⟩
    exact writeStatement_of_pieces hstep hpieces

/-! ## Lists of statements -/

theorem writeFrom_cons_eq_ok_iff {index : Nat} {s : Statement} {rest : List Statement}
    {w w' : Writer} :
    writeFrom index (s :: rest) w = .ok () w' ↔
      ∃ v, writeStatement s w = .ok () v ∧ writeFrom (index + 1) rest v = .ok () w' := by
  rw [writeFrom]
  dsimp only
  cases writeStatement s w with
  | error e v => simp
  | ok u v => simp

/-- The first statement of a list that is written has room and renders, and the rest is written
after it. -/
theorem exists_of_writeFrom_cons {index : Nat} {s : Statement} {rest : List Statement}
    {w w' : Writer} (h : writeFrom index (s :: rest) w = .ok () w') :
    ∃ level next ps, Layout.step w.depth s = .ok (level, next) ∧
      Template.pieces s.template s.args = .ok ps ∧
      writeFrom (index + 1) rest (w.advance level next ps) = .ok () w' := by
  obtain ⟨v, hs, hrest⟩ := writeFrom_cons_eq_ok_iff.mp h
  obtain ⟨level, next, ps, hstep, hpieces, rfl⟩ := writeStatement_eq_ok_iff.mp hs
  exact ⟨level, next, ps, hstep, hpieces, hrest⟩

/-- **Writing a concatenation is writing one list after the other.** -/
theorem writeFrom_append (index : Nat) (xs ys : List Statement) (w : Writer) :
    writeFrom index (xs ++ ys) w =
      match writeFrom index xs w with
      | .error e v => .error e v
      | .ok () v => writeFrom (index + xs.length) ys v := by
  induction xs generalizing index w with
  | nil => rfl
  | cons s rest ih =>
    rw [List.cons_append, writeFrom, writeFrom, List.length_cons]
    dsimp only
    cases writeStatement s w with
    | error e v => rfl
    | ok u v =>
      dsimp only
      rw [ih, Nat.add_right_comm, Nat.add_assoc]

theorem writeFrom_append_eq_ok_iff {index : Nat} {xs ys : List Statement} {w w' : Writer} :
    writeFrom index (xs ++ ys) w = .ok () w' ↔
      ∃ v, writeFrom index xs w = .ok () v ∧ writeFrom (index + xs.length) ys v = .ok () w' := by
  rw [writeFrom_append]
  cases writeFrom index xs w with
  | error e v => simp
  | ok u v => simp

/-- Where the numbering starts does not matter for a list that is written. -/
theorem writeFrom_eq_ok_of_eq_ok {index index' : Nat} {xs : List Statement} {w w' : Writer}
    (h : writeFrom index xs w = .ok () w') : writeFrom index' xs w = .ok () w' := by
  induction xs generalizing index index' w with
  | nil => exact h
  | cons s rest ih =>
    obtain ⟨v, hs, hrest⟩ := writeFrom_cons_eq_ok_iff.mp h
    exact writeFrom_cons_eq_ok_iff.mpr ⟨v, hs, ih hrest⟩

/-- A list that is written splits at every statement: the statements before it are written, and then
the statement itself. -/
theorem exists_writeStatement_of_lt {index i : Nat} {xs : List Statement} {w w' : Writer}
    (h : writeFrom index xs w = .ok () w') (hi : i < xs.length) :
    ∃ v v', writeFrom index (xs.take i) w = .ok () v ∧ writeStatement xs[i] v = .ok () v' := by
  rw [← List.take_append_drop i xs, List.drop_eq_getElem_cons hi] at h
  obtain ⟨v, htake, hdrop⟩ := writeFrom_append_eq_ok_iff.mp h
  obtain ⟨v', hstatement, -⟩ := writeFrom_cons_eq_ok_iff.mp hdrop
  exact ⟨v, v', htake, hstatement⟩

/-- If two steps of writing succeed together, they succeed one after the other. -/
theorem exists_of_bind_eq_ok {α β : Type} {x : Write α} {g : α → Write β} {w w' : Writer} {b : β}
    (h : (x >>= g) w = .ok b w') : ∃ a v, x w = .ok a v ∧ g a v = .ok b w' := by
  change EStateM.bind x g w = .ok b w' at h
  unfold EStateM.bind at h
  cases hx : x w with
  | error e v =>
    rw [hx] at h
    cases h
  | ok a v =>
    rw [hx] at h
    exact ⟨a, v, rfl, h⟩

/-- Statements that are written without numbers are written with them as well. -/
theorem writeFrom_of_forM {index : Nat} {xs : List Statement} {w w' : Writer}
    (h : xs.forM writeStatement w = .ok () w') : writeFrom index xs w = .ok () w' := by
  induction xs generalizing index w with
  | nil => exact h
  | cons s rest ih =>
    obtain ⟨u, v, hs, hrest⟩ := exists_of_bind_eq_ok h
    exact writeFrom_cons_eq_ok_iff.mpr ⟨v, hs, ih hrest⟩

/-! ## What a written list leaves behind -/

section Written

variable {index : Nat} {xs : List Statement} {w w' : Writer}

/-- The depth moves by all steps of the list. -/
theorem depth_eq_of_writeFrom (h : writeFrom index xs w = .ok () w') :
    (w'.depth : Int) = w.depth + Layout.netShift xs := by
  induction xs generalizing index w with
  | nil =>
    cases h
    simp
  | cons s rest ih =>
    obtain ⟨level, next, ps, hstep, -, hrest⟩ := exists_of_writeFrom_cons h
    obtain ⟨hbefore, hafter⟩ := Layout.step_eq_ok_iff.mp hstep
    have hih : (w'.depth : Int) = next + Layout.netShift rest := ih hrest
    rw [hih, Layout.netShift_cons]
    omega

theorem written_eq_of_writeFrom (h : writeFrom index xs w = .ok () w') :
    w'.written = w.written + xs.length := by
  induction xs generalizing index w with
  | nil =>
    cases h
    rfl
  | cons s rest ih =>
    obtain ⟨level, next, ps, -, -, hrest⟩ := exists_of_writeFrom_cons h
    have hih : w'.written = w.written + 1 + rest.length := ih hrest
    rw [hih, List.length_cons]
    omega

theorem registry_advance {s : Statement} {level next : Nat} {ps : List Piece}
    (h : Template.pieces s.template s.args = .ok ps) :
    (w.advance level next ps).registry = w.registry.registerAll s.needs := by
  rw [Statement.needs, Statement.refs, ← (Template.pieces_eq_ok_iff.mp h).imports_eq]
  rfl

/-- The registry has the imports of all statements, in their order. -/
theorem registry_eq_of_writeFrom (h : writeFrom index xs w = .ok () w') :
    w'.registry = w.registry.registerAll (xs.flatMap Statement.needs) := by
  induction xs generalizing index w with
  | nil =>
    cases h
    rfl
  | cons s rest ih =>
    obtain ⟨level, next, ps, -, hpieces, hrest⟩ := exists_of_writeFrom_cons h
    rw [ih hrest, registry_advance hpieces, List.flatMap_cons, Registry.registerAll_append]

end Written

end Writer

end SourcePress
