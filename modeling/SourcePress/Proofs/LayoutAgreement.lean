import SourcePress.Proofs.WriterRun

/-!
# The writer and the layout agree

The depths of statements are computed twice: by `Layout.levels`, which looks at nothing but the
steps of indentation, and by the writer, which also fills templates.  Here the two are compared.

The comparison rests on one equivalence: a list of statements is written exactly when its layout
exists and every statement renders (`exists_writeFrom_eq_ok_iff`).  A failure is then found by
cutting the list at the statement that fails.  What stands before the cut is written, by the
equivalence, and leaves the writer at the depth that the layout has there; so the statement at the
cut fails in both in the same way, and only a statement further left that does not render can come
before it.
-/

namespace SourcePress

/-! ## Statements that do not render -/

namespace Statement

/-- The error that rendering the statement gives, if it gives one.  The registry plays no part in it
(`render_eq_error_iff`). -/
def renderError? (s : Statement) : Option Error :=
  match Template.render s.template s.args default with
  | .error e _ => some e
  | .ok _ _ => none

theorem renderError?_of_fault {s : Statement} {fault : TemplateFault}
    (h : Template.pieces s.template s.args = .error fault) :
    s.renderError? = some (.template s.template fault) := by
  rw [renderError?, Template.render_of_fault h]

theorem renderError?_of_pieces {s : Statement} {ps : List Template.Piece}
    (h : Template.pieces s.template s.args = .ok ps) : s.renderError? = none := by
  rw [renderError?, Template.render_of_pieces h]

/-- Whether a statement renders, and which error it gives, is the same under every registry. -/
theorem render_eq_error_iff {s : Statement} {e : Error} {r r' : Registry} :
    Template.render s.template s.args r = .error e r' ↔ s.renderError? = some e ∧ r' = r := by
  cases h : Template.pieces s.template s.args with
  | error fault =>
    rw [Template.render_of_fault h, renderError?_of_fault h, EStateM.Result.error.injEq,
      Option.some.injEq, eq_comm (a := r)]
  | ok ps =>
    rw [Template.render_of_pieces h, renderError?_of_pieces h]
    simp

theorem renderError?_eq_none_iff {s : Statement} :
    s.renderError? = none ↔ ∃ ps, Template.pieces s.template s.args = .ok ps := by
  cases h : Template.pieces s.template s.args with
  | error fault => simp [renderError?_of_fault h]
  | ok ps => simp [renderError?_of_pieces h]

/-- Statement number `j` does not render, for the reason `e`, and all before it do. -/
def FirstFailure (statements : List Statement) (j : Nat) (e : Error) : Prop :=
  statements[j]?.bind renderError? = some e ∧ ∀ s ∈ statements.take j, s.renderError? = none

/-- A list with a first failure, cut there. -/
theorem FirstFailure.exists_split {statements : List Statement} {j : Nat} {e : Error}
    (h : FirstFailure statements j e) :
    ∃ xs s ys, statements = xs ++ s :: ys ∧ xs.length = j ∧ s.renderError? = some e ∧
      ∀ x ∈ xs, x.renderError? = none := by
  obtain ⟨s, hget, hs⟩ := Option.bind_eq_some_iff.mp h.1
  obtain ⟨hlt, rfl⟩ := List.getElem?_eq_some_iff.mp hget
  refine ⟨statements.take j, statements[j], statements.drop (j + 1), ?_, ?_, hs, h.2⟩
  · rw [← List.drop_eq_getElem_cons hlt, List.take_append_drop]
  · rw [List.length_take]
    omega

end Statement

/-! ## The layout of a concatenation -/

namespace Layout

theorem levelsFrom_cons_eq_ok_iff {depth index : Nat} {s : Statement} {rest : List Statement}
    {ls : List Nat} :
    levelsFrom depth index (s :: rest) = .ok ls ↔
      ∃ level next ls', step depth s = .ok (level, next) ∧
        levelsFrom next (index + 1) rest = .ok ls' ∧ ls = level :: ls' := by
  rw [levelsFrom]
  cases step depth s with
  | error e => simp
  | ok reached =>
    obtain ⟨level, next⟩ := reached
    dsimp only
    cases hrest : levelsFrom next (index + 1) rest with
    | error e => simp [Except.map, hrest]
    | ok ls' =>
      constructor
      · intro h
        injection h with h
        exact ⟨level, next, ls', rfl, hrest, h.symm⟩
      · rintro ⟨level', next', ls'', h, h', rfl⟩
        injection h with h
        injection h with h h''
        subst h h''
        rw [hrest] at h'
        injection h' with h'
        rw [← h']
        rfl

/-- The layout of a concatenation is made of the layouts of its parts, the second of which starts
where the first ends. -/
theorem exists_of_levelsFrom_append {depth index : Nat} {xs ys : List Statement} {ls : List Nat}
    (h : levelsFrom depth index (xs ++ ys) = .ok ls) :
    ∃ (ls₁ ls₂ : List Nat) (reached : Nat), levelsFrom depth index xs = .ok ls₁ ∧
      (reached : Int) = depth + netShift xs ∧
      levelsFrom reached (index + xs.length) ys = .ok ls₂ ∧ ls = ls₁ ++ ls₂ := by
  induction xs generalizing depth index ls with
  | nil => exact ⟨[], ls, depth, rfl, by simp, h, rfl⟩
  | cons s rest ih =>
    obtain ⟨level, next, ls', hstep, hrest, rfl⟩ := levelsFrom_cons_eq_ok_iff.mp h
    obtain ⟨hbefore, hafter⟩ := step_eq_ok_iff.mp hstep
    obtain ⟨ls₁, ls₂, reached, h₁, hreached, h₂, rfl⟩ := ih hrest
    refine ⟨level :: ls₁, ls₂, reached, ?_, ?_, ?_, rfl⟩
    · exact levelsFrom_cons_eq_ok_iff.mpr ⟨level, next, ls₁, hstep, h₁, rfl⟩
    · rw [hreached, netShift_cons]
      omega
    · rw [← h₂, List.length_cons, Nat.add_right_comm, Nat.add_assoc]

theorem exists_levelsFrom_take {depth index : Nat} {xs : List Statement} {ls : List Nat}
    (h : levelsFrom depth index xs = .ok ls) (n : Nat) :
    ∃ ls', levelsFrom depth index (xs.take n) = .ok ls' := by
  rw [← List.take_append_drop n xs] at h
  obtain ⟨ls', -, -, hls', -⟩ := exists_of_levelsFrom_append h
  exact ⟨ls', hls'⟩

/-- The layout has one level for each statement: the depth that all steps before it lead to. -/
theorem length_levelsFrom {depth index : Nat} {xs : List Statement} {ls : List Nat}
    (h : levelsFrom depth index xs = .ok ls) : ls.length = xs.length := by
  induction xs generalizing depth index ls with
  | nil =>
    cases h
    rfl
  | cons s rest ih =>
    obtain ⟨level, next, ls', -, hrest, rfl⟩ := levelsFrom_cons_eq_ok_iff.mp h
    rw [List.length_cons, List.length_cons, ih hrest]

theorem getElem?_levelsFrom {depth index i : Nat} {xs : List Statement} {ls : List Nat}
    (h : levelsFrom depth index xs = .ok ls) (hi : i < xs.length) :
    ∃ level, ls[i]? = some level ∧
      (level : Int) = depth + netShift (xs.take i) + xs[i].before := by
  induction xs generalizing depth index i ls with
  | nil => exact absurd hi (Nat.not_lt_zero i)
  | cons s rest ih =>
    obtain ⟨level, next, ls', hstep, hrest, rfl⟩ := levelsFrom_cons_eq_ok_iff.mp h
    obtain ⟨hbefore, hafter⟩ := step_eq_ok_iff.mp hstep
    cases i with
    | zero => exact ⟨level, rfl, by simp [hbefore]⟩
    | succ i =>
      obtain ⟨later, hlater, heq⟩ := ih hrest (Nat.lt_of_succ_lt_succ hi)
      refine ⟨later, hlater, ?_⟩
      rw [heq, List.take_succ_cons, netShift_cons, List.getElem_cons_succ]
      omega

/-- **A layout fails at the first statement with a step below zero.**  The statements before it have
a layout, and the failing step starts from the depth that they lead to. -/
theorem exists_split_of_levelsFrom_eq_error {depth index : Nat} {statements : List Statement}
    {e : Error} (h : levelsFrom depth index statements = .error e) :
    ∃ (xs : List Statement) (s : Statement) (ys : List Statement) (ls : List Nat) (reached : Nat)
      (e' : Error), statements = xs ++ s :: ys ∧ levelsFrom depth index xs = .ok ls ∧
        (reached : Int) = depth + netShift xs ∧ step reached s = .error e' ∧
        e = .statement (index + xs.length) e' := by
  induction statements generalizing depth index e with
  | nil => cases h
  | cons s rest ih =>
    rw [levelsFrom] at h
    cases hstep : step depth s with
    | error e' =>
      rw [hstep] at h
      injection h with h
      exact ⟨[], s, rest, [], depth, e', rfl, rfl, by simp, hstep, h.symm⟩
    | ok reached =>
      obtain ⟨level, next⟩ := reached
      obtain ⟨hbefore, hafter⟩ := step_eq_ok_iff.mp hstep
      rw [hstep] at h
      dsimp only at h
      cases hrest : levelsFrom next (index + 1) rest with
      | ok ls =>
        rw [hrest] at h
        cases h
      | error e'' =>
        rw [hrest] at h
        injection h with h
        obtain ⟨xs, t, ys, ls, reached, e', rfl, hls, hreached, ht, he⟩ := ih hrest
        refine ⟨s :: xs, t, ys, level :: ls, reached, e', rfl, ?_, ?_, ht, ?_⟩
        · exact levelsFrom_cons_eq_ok_iff.mpr ⟨level, next, ls, hstep, hls, rfl⟩
        · rw [hreached, netShift_cons]
          omega
        · rw [← h, he, List.length_cons, Nat.add_right_comm, Nat.add_assoc]

end Layout

/-! ## Agreement -/

namespace Writer

/-- **A list is written exactly when it has a layout and all its statements render.** -/
theorem exists_writeFrom_eq_ok_iff {index : Nat} {xs : List Statement} {w : Writer} :
    (∃ w', writeFrom index xs w = .ok () w') ↔
      (∃ ls, Layout.levelsFrom w.depth index xs = .ok ls) ∧ ∀ s ∈ xs, s.renderError? = none := by
  induction xs generalizing index w with
  | nil => simp
  | cons s rest ih =>
    constructor
    · rintro ⟨w', h⟩
      obtain ⟨level, next, ps, hstep, hpieces, hrest⟩ := exists_of_writeFrom_cons h
      obtain ⟨⟨ls, hls⟩, hrender⟩ := ih.mp ⟨w', hrest⟩
      refine ⟨⟨level :: ls, ?_⟩, ?_⟩
      · exact Layout.levelsFrom_cons_eq_ok_iff.mpr ⟨level, next, ls, hstep, hls, rfl⟩
      · exact List.forall_mem_cons.mpr ⟨Statement.renderError?_of_pieces hpieces, hrender⟩
    · rintro ⟨⟨ls, hls⟩, hrender⟩
      obtain ⟨hs, hrest⟩ := List.forall_mem_cons.mp hrender
      obtain ⟨level, next, ls', hstep, hls', -⟩ := Layout.levelsFrom_cons_eq_ok_iff.mp hls
      obtain ⟨ps, hpieces⟩ := Statement.renderError?_eq_none_iff.mp hs
      have hstatement := writeStatement_of_pieces hstep hpieces
      have hnext : Layout.levelsFrom (w.advance level next ps).depth (index + 1) rest = .ok ls' :=
        hls'
      obtain ⟨w', hw'⟩ := ih.mpr ⟨⟨ls', hnext⟩, hrest⟩
      exact ⟨w', writeFrom_cons_eq_ok_iff.mpr ⟨_, hstatement, hw'⟩⟩

/-- Statements that have a layout and render are written, and leave the writer at the depth that
their steps lead to. -/
theorem exists_writeFrom_to {index reached : Nat} {xs : List Statement} {w : Writer}
    {ls : List Nat} (hls : Layout.levelsFrom w.depth index xs = .ok ls)
    (hreached : (reached : Int) = w.depth + Layout.netShift xs)
    (hrender : ∀ x ∈ xs, x.renderError? = none) :
    ∃ v, writeFrom index xs w = .ok () v ∧ v.depth = reached := by
  obtain ⟨v, hv⟩ := exists_writeFrom_eq_ok_iff.mpr ⟨⟨ls, hls⟩, hrender⟩
  have hdepth := depth_eq_of_writeFrom hv
  refine ⟨v, hv, ?_⟩
  omega

/-- Where the indentation succeeds, the error of a statement is that of rendering it. -/
theorem writeStatement_of_renderError? {s : Statement} {w : Writer} {level next : Nat} {e : Error}
    (hstep : Layout.step w.depth s = .ok (level, next)) (he : s.renderError? = some e) :
    writeStatement s w = .error e w := by
  have hrender : Template.render s.template s.args w.registry = .error e w.registry :=
    Statement.render_eq_error_iff.mpr ⟨he, rfl⟩
  rw [writeStatement, hstep]
  dsimp only
  rw [hrender]

/-- A statement that fails behind statements that are written stops the list. -/
theorem writeFrom_append_of_error {index : Nat} {xs ys : List Statement} {s : Statement}
    {w v v' : Writer} {e : Error} (hxs : writeFrom index xs w = .ok () v)
    (hs : writeStatement s v = .error e v') :
    writeFrom index (xs ++ s :: ys) w = .error (.statement (index + xs.length) e) v' := by
  rw [writeFrom_append, hxs]
  dsimp only
  rw [writeFrom]
  dsimp only
  rw [hs]

/-- The writer stops at the first step below zero if the statements before it render. -/
theorem writeFrom_of_underflow {index reached : Nat} {xs ys : List Statement} {s : Statement}
    {w : Writer} {ls : List Nat} {e : Error}
    (hls : Layout.levelsFrom w.depth index xs = .ok ls)
    (hreached : (reached : Int) = w.depth + Layout.netShift xs)
    (hs : Layout.step reached s = .error e) (hrender : ∀ x ∈ xs, x.renderError? = none) :
    ∃ v, writeFrom index (xs ++ s :: ys) w = .error (.statement (index + xs.length) e) v := by
  obtain ⟨v, hv, rfl⟩ := exists_writeFrom_to hls hreached hrender
  exact ⟨v, writeFrom_append_of_error hv (writeStatement_of_step_error hs)⟩

/-- The writer stops at the first statement that does not render if the layout goes that far. -/
theorem writeBlock_of_firstFailure {statements : List Statement} {j : Nat} {w : Writer}
    {ls : List Nat} {e : Error} (hfail : Statement.FirstFailure statements j e)
    (hls : Layout.levelsFrom w.depth 0 (statements.take (j + 1)) = .ok ls) :
    ∃ w', writeBlock statements w = .error (.statement j e) w' := by
  obtain ⟨xs, s, ys, rfl, rfl, hs, hrender⟩ := hfail.exists_split
  rw [List.take_length_add_append] at hls
  obtain ⟨ls₁, ls₂, reached, h₁, hreached, h₂, -⟩ := Layout.exists_of_levelsFrom_append hls
  obtain ⟨level, next, -, hstep, -, -⟩ := Layout.levelsFrom_cons_eq_ok_iff.mp h₂
  obtain ⟨v, hv, rfl⟩ := exists_writeFrom_to h₁ hreached hrender
  refine ⟨v, ?_⟩
  -- both steps of the statement succeed, so it is the template that fails
  have hstatement : writeStatement s v = .error e v := writeStatement_of_renderError? hstep hs
  rw [writeBlock, writeFrom_append_of_error hv hstatement, Nat.zero_add]

/-- A layout that fails, and what the writer does then. -/
theorem writeBlock_of_levels_error {statements : List Statement} {w : Writer} {e : Error}
    (he : Layout.levelsFrom w.depth 0 statements = .error e) :
    ∃ k depth delta, e = .statement k (.indentUnderflow depth delta) ∧
      ((∀ s ∈ statements.take k, s.renderError? = none) →
        ∃ w', writeBlock statements w = .error e w') ∧
      ∀ j e', j < k → Statement.FirstFailure statements j e' →
        ∃ w', writeBlock statements w = .error (.statement j e') w' := by
  obtain ⟨xs, s, ys, ls, reached, e', rfl, hls, hreached, hs, rfl⟩ :=
    Layout.exists_split_of_levelsFrom_eq_error he
  obtain ⟨depth, delta, rfl⟩ := Layout.exists_underflow_of_step_eq_error hs
  refine ⟨xs.length, depth, delta, by rw [Nat.zero_add], ?_, ?_⟩
  · intro hrender
    rw [List.take_left] at hrender
    exact writeFrom_of_underflow hls hreached hs hrender
  · intro j e' hj hfail
    obtain ⟨ls', hls'⟩ := Layout.exists_levelsFrom_take hls (j + 1)
    have htake : (xs ++ s :: ys).take (j + 1) = xs.take (j + 1) :=
      List.take_append_of_le_length hj
    rw [← htake] at hls'
    exact writeBlock_of_firstFailure hfail hls'

/-- Between the two writers the statement was written at `level`: its first step led there, and the
text grew by one line, its code behind the margin of that level.  A line without code has no
margin. -/
def WrittenAt (s : Statement) (level : Nat) (w w' : Writer) : Prop :=
  (w.depth : Int) + s.before = level ∧
    ∃ code r, Template.render s.template s.args w.registry = .ok code r ∧
      w'.buffer = w.buffer ++ (if code = "" then "" else w.indent.margin level ++ code) ++ "\n"

theorem exists_writtenAt {s : Statement} {w w' : Writer} (h : writeStatement s w = .ok () w') :
    ∃ level, WrittenAt s level w w' := by
  obtain ⟨level, next, ps, hstep, hpieces, rfl⟩ := writeStatement_eq_ok_iff.mp h
  refine ⟨level, (Layout.step_eq_ok_iff.mp hstep).1, _, _, Template.render_of_pieces hpieces _, ?_⟩
  rw [advance, line]
  simp only [String.isEmpty_iff]

/-- The level of a statement in the layout is the depth at which it is written. -/
theorem exists_writtenAt_of_levels {statements : List Statement} {w w' : Writer} {ls : List Nat}
    (h : writeBlock statements w = .ok () w')
    (hls : Layout.levelsFrom w.depth 0 statements = .ok ls) {i : Nat}
    (hi : i < statements.length) :
    ∃ level v v', ls[i]? = some level ∧ writeBlock (statements.take i) w = .ok () v ∧
      writeStatement statements[i] v = .ok () v' ∧ WrittenAt statements[i] level v v' := by
  obtain ⟨v, v', htake, hstatement⟩ := exists_writeStatement_of_lt h hi
  obtain ⟨reached, hreached⟩ := exists_writtenAt hstatement
  obtain ⟨level, hget, hlevel⟩ := Layout.getElem?_levelsFrom hls hi
  have heq : level = reached := by
    have hdepth := depth_eq_of_writeFrom htake
    have hbefore := hreached.1
    omega
  rw [← heq] at hreached
  exact ⟨level, v, v', hget, htake, hstatement, hreached⟩

/-- **The writer and the layout agree**, for a fresh writer and any statements.  If the block is
written, its layout exists and gives the depths at which the statements were written, and the block
is balanced exactly when the writer ends at depth zero.  If the layout fails, the writer fails with
the same error, unless an earlier statement does not render, and then at the first of these; in
particular the step below zero is reported although the statement itself does not render either.  If
the layout exists, the writer fails exactly when some statement does not render, at the first. -/
theorem writeBlock_agrees_with_levels (config : Config) (statements : List Statement) :
    (∀ w', writeBlock statements (ofConfig config) = .ok () w' →
      ∃ ls, Layout.levels statements = .ok ls ∧ ls.length = statements.length ∧
        (∀ (i : Nat) (hi : i < statements.length), ∃ level v v', ls[i]? = some level ∧
          writeBlock (statements.take i) (ofConfig config) = .ok () v ∧
          writeStatement statements[i] v = .ok () v' ∧ WrittenAt statements[i] level v v') ∧
        (Layout.isBalanced statements = true ↔ w'.depth = 0)) ∧
    (∀ e, Layout.levels statements = .error e →
      ∃ k depth delta, e = .statement k (.indentUnderflow depth delta) ∧
        (∃ e' w', writeBlock statements (ofConfig config) = .error e' w') ∧
        ((∀ s ∈ statements.take k, s.renderError? = none) →
          ∃ w', writeBlock statements (ofConfig config) = .error e w') ∧
        (∀ j e', j < k → Statement.FirstFailure statements j e' →
          ∃ w', writeBlock statements (ofConfig config) = .error (.statement j e') w') ∧
        (∀ e', Statement.FirstFailure statements k e' →
          ∃ w', writeBlock statements (ofConfig config) = .error e w')) ∧
    (∀ ls, Layout.levels statements = .ok ls →
      ((∃ e w', writeBlock statements (ofConfig config) = .error e w') ↔
        ∃ s ∈ statements, s.renderError? ≠ none) ∧
      ∀ j e, Statement.FirstFailure statements j e →
        ∃ w', writeBlock statements (ofConfig config) = .error (.statement j e) w') := by
  -- a block either is written or fails
  have hfails : (∃ e w', writeBlock statements (ofConfig config) = .error e w') ↔
      ¬ ∃ w', writeBlock statements (ofConfig config) = .ok () w' := by
    cases writeBlock statements (ofConfig config) <;> simp
  refine ⟨?_, ?_, ?_⟩
  · intro w' h
    obtain ⟨⟨ls, hls⟩, -⟩ := exists_writeFrom_eq_ok_iff.mp ⟨w', h⟩
    refine ⟨ls, hls, Layout.length_levelsFrom hls,
      fun i hi => exists_writtenAt_of_levels h hls hi, ?_⟩
    have hlevels : Layout.levels statements = .ok ls := hls
    have hdepth : (w'.depth : Int) = 0 + Layout.netShift statements := depth_eq_of_writeFrom h
    rw [Layout.isBalanced, hlevels, Bool.and_eq_true, beq_iff_eq]
    simp only [Except.isOk, Except.toBool, and_true]
    omega
  · intro e he
    obtain ⟨k, depth, delta, rfl, hall, hfirst⟩ :=
      writeBlock_of_levels_error (w := ofConfig config) he
    refine ⟨k, depth, delta, rfl, ?_, hall, hfirst, fun e' hfail => hall hfail.2⟩
    rw [hfails]
    intro hwritten
    obtain ⟨⟨ls, hls⟩, -⟩ := exists_writeFrom_eq_ok_iff.mp hwritten
    have hlevels : Layout.levels statements = .ok ls := hls
    rw [he] at hlevels
    cases hlevels
  · intro ls hls
    refine ⟨?_, ?_⟩
    · rw [hfails, writeBlock, exists_writeFrom_eq_ok_iff, not_and]
      constructor
      · intro h
        have hrender := h ⟨ls, hls⟩
        simpa using hrender
      · rintro ⟨s, hs, hfail⟩ - hrender
        exact hfail (hrender s hs)
    · intro j e hfail
      obtain ⟨ls', hls'⟩ := Layout.exists_levelsFrom_take hls (j + 1)
      exact writeBlock_of_firstFailure hfail hls'

end Writer

end SourcePress
