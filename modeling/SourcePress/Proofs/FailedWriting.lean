import SourcePress.Proofs.LayoutAgreement

/-!
# Writing that fails

A statement can fail at its first step of indentation, at its second, or at any directive of its
template, also behind directives that found their arguments.  Whichever it is, nothing has been
written, registered or counted then (`writeStatement_error_cases`).

A block is written statement by statement, and stops where one of them fails.  To say where that is
without mentioning numbers of statements or wrapped errors, `Reaches` follows single statements from
one writer to the next, and `FailsAt` says that the turn of some statement comes and that it fails.
A block fails exactly when this happens somewhere, and there is only one place where it can
(`writeBlock_eq_error_iff`).
-/

namespace SourcePress

namespace Writer

/-! ## One statement -/

/-- **A statement that fails leaves the writer as it was**, and its error is a step below zero or a
fault of its template. -/
theorem writeStatement_error_cases {s : Statement} {w w' : Writer} {e : Error}
    (h : writeStatement s w = .error e w') :
    w' = w ∧ ((∃ depth delta, e = .indentUnderflow depth delta) ∨
      ∃ fault, e = .template s.template fault) := by
  cases hstep : Layout.step w.depth s with
  | error e' =>
    rw [writeStatement_of_step_error hstep] at h
    injection h with he hw
    subst he hw
    exact ⟨rfl, Or.inl (Layout.exists_underflow_of_step_eq_error hstep)⟩
  | ok reached =>
    obtain ⟨level, next⟩ := reached
    cases hpieces : Template.pieces s.template s.args with
    | error fault =>
      rw [writeStatement_of_fault hstep hpieces] at h
      injection h with he hw
      exact ⟨hw.symm, Or.inr ⟨fault, he.symm⟩⟩
    | ok ps =>
      rw [writeStatement_of_pieces hstep hpieces] at h
      cases h

/-- The error of a single statement carries no position. -/
theorem isStatement_of_writeStatement {s : Statement} {w w' : Writer} {e : Error}
    (h : writeStatement s w = .error e w') : e.isStatement = false := by
  rcases (writeStatement_error_cases h).2 with ⟨depth, delta, rfl⟩ | ⟨fault, rfl⟩
  · rfl
  · rfl

/-! ## From writer to writer -/

/-- Writing the statements one after the other leads from the first writer to the second. -/
inductive Reaches : Writer → List Statement → Writer → Prop
  | nil (w : Writer) : Reaches w [] w
  | cons {w v w' : Writer} {s : Statement} {rest : List Statement} :
      writeStatement s w = .ok () v → Reaches v rest w' → Reaches w (s :: rest) w'

/-- The statements before number `k` are written and lead to the writer `v`, and there statement
number `k` fails for the reason `e`. -/
def FailsAt (w : Writer) (statements : List Statement) (k : Nat) (e : Error) (v : Writer) : Prop :=
  Reaches w (statements.take k) v ∧
    ∃ s v', statements[k]? = some s ∧ writeStatement s v = .error e v'

theorem writeFrom_eq_ok_iff_reaches {index : Nat} {xs : List Statement} {w w' : Writer} :
    writeFrom index xs w = .ok () w' ↔ Reaches w xs w' := by
  constructor
  · intro h
    induction xs generalizing index w with
    | nil =>
      cases h
      exact Reaches.nil w'
    | cons s rest ih =>
      obtain ⟨v, hs, hrest⟩ := writeFrom_cons_eq_ok_iff.mp h
      exact Reaches.cons hs (ih hrest)
  · intro h
    induction h generalizing index with
    | nil w => rfl
    | cons hs _ ih => exact writeFrom_cons_eq_ok_iff.mpr ⟨_, hs, ih⟩

theorem FailsAt.writeFrom_eq {w v : Writer} {statements : List Statement} {k : Nat} {e : Error}
    (h : FailsAt w statements k e v) (index : Nat) :
    writeFrom index statements w = .error (.statement (index + k) e) v := by
  obtain ⟨hreach, s, v', hget, hs⟩ := h
  obtain ⟨hlt, rfl⟩ := List.getElem?_eq_some_iff.mp hget
  have hsplit : statements = statements.take k ++ statements[k] :: statements.drop (k + 1) := by
    rw [← List.drop_eq_getElem_cons hlt, List.take_append_drop]
  have hlength : (statements.take k).length = k := by
    rw [List.length_take]
    omega
  -- the statement left the writer as it was
  have hv : v' = v := (writeStatement_error_cases hs).1
  have hbefore : writeFrom index (statements.take k) w = .ok () v :=
    writeFrom_eq_ok_iff_reaches.mpr hreach
  rw [hsplit, writeFrom_append_of_error hbefore hs, hlength, hv]

theorem exists_failsAt_of_writeFrom {index : Nat} {statements : List Statement} {w w' : Writer}
    {e : Error} (h : writeFrom index statements w = .error e w') :
    ∃ k e', e = .statement (index + k) e' ∧ FailsAt w statements k e' w' := by
  induction statements generalizing index w with
  | nil => cases h
  | cons s rest ih =>
    rw [writeFrom] at h
    dsimp only at h
    cases hs : writeStatement s w with
    | error e' v =>
      rw [hs] at h
      injection h with he hw
      subst he hw
      have hv : v = w := (writeStatement_error_cases hs).1
      refine ⟨0, e', rfl, ?_, s, v, rfl, ?_⟩
      · rw [hv]
        exact Reaches.nil w
      · rw [hv] at hs ⊢
        exact hs
    | ok u v =>
      rw [hs] at h
      obtain ⟨k, e', he, hreach, hfail⟩ := ih h
      refine ⟨k + 1, e', ?_, ?_, hfail⟩
      · rw [he, Nat.add_right_comm, Nat.add_assoc]
      · exact Reaches.cons hs hreach

/-- **Where a block fails, why, and what it leaves behind.** -/
theorem writeBlock_eq_error_iff {statements : List Statement} {w w' : Writer} {e : Error} :
    writeBlock statements w = .error e w' ↔
      ∃ k e', e = .statement k e' ∧ FailsAt w statements k e' w' := by
  constructor
  · intro h
    obtain ⟨k, e', he, hfail⟩ := exists_failsAt_of_writeFrom h
    rw [Nat.zero_add] at he
    exact ⟨k, e', he, hfail⟩
  · rintro ⟨k, e', rfl, hfail⟩
    have h := hfail.writeFrom_eq 0
    rw [Nat.zero_add] at h
    exact h

/-- A block fails at one place only. -/
theorem FailsAt.index_eq {w v v' : Writer} {statements : List Statement} {j k : Nat} {e e' : Error}
    (h : FailsAt w statements k e v) (h' : FailsAt w statements j e' v') : j = k := by
  have hk := h.writeFrom_eq 0
  rw [h'.writeFrom_eq 0] at hk
  injection hk with he
  injection he with hindex
  omega

/-- **Failure is atomic.**  A statement that fails changes nothing.  A block fails exactly when one
of its statements does, in its turn; the error names the first such statement and has its own error
inside, wrapped once, and the writer is left as it was before that statement. -/
theorem writeBlock_stops_at_first_failure (w : Writer) :
    (∀ s e w', writeStatement s w = .error e w' → w' = w) ∧
      ∀ statements : List Statement,
        ((∃ e w', writeBlock statements w = .error e w') ↔
          ∃ k e v, FailsAt w statements k e v) ∧
        ∀ e w', writeBlock statements w = .error e w' →
          ∃ k e', e = .statement k e' ∧ e'.isStatement = false ∧ FailsAt w statements k e' w' ∧
            ∀ j < k, ¬ ∃ e'' v, FailsAt w statements j e'' v := by
  refine ⟨fun s e w' h => (writeStatement_error_cases h).1, fun statements => ⟨?_, ?_⟩⟩
  · constructor
    · rintro ⟨e, w', h⟩
      obtain ⟨k, e', -, hfail⟩ := writeBlock_eq_error_iff.mp h
      exact ⟨k, e', w', hfail⟩
    · rintro ⟨k, e, v, hfail⟩
      exact ⟨_, v, writeBlock_eq_error_iff.mpr ⟨k, e, rfl, hfail⟩⟩
  · intro e w' h
    obtain ⟨k, e', rfl, hfail⟩ := writeBlock_eq_error_iff.mp h
    refine ⟨k, e', rfl, ?_, hfail, ?_⟩
    · obtain ⟨-, s, v', -, hs⟩ := hfail
      exact isStatement_of_writeStatement hs
    · rintro j hj ⟨e'', v, hj'⟩
      have hindex := hfail.index_eq hj'
      omega

/-- A block whose second statement fails behind a reference that fits its directive. -/
def halfFilledBlock : List Statement :=
  [{ template := "parse($T)"
     args := [.type (.named ⟨some ⟨"net/url", none, by decide +kernel⟩, "URL", by decide +kernel⟩)]
     after := 1 },
   { template := "$T for $L"
     args := [
      .type (.named ⟨some ⟨"net/http", none, by decide +kernel⟩, "Client", by decide +kernel⟩),
      .type (.declared "Job")]
     before := -1 },
   { template := "never" }]

/-- The writer after the first statement of `halfFilledBlock`. -/
def afterHalfFilledBlock : Writer where
  depth := 1
  buffer := "parse(url.URL)\n"
  registry :=
    { resolved := [("net/url", "url")]
      defaults := [("net/url", "url")]
      taken := ["url"] }
  written := 1

theorem halfFilledBlock_stops :
    writeBlock halfFilledBlock {} =
        .error (.statement 1 (.template "$T for $L" (.wrongKind 1 .literal)))
          afterHalfFilledBlock ∧
      ∃ k e', Error.statement 1 (.template "$T for $L" (.wrongKind 1 .literal)) = .statement k e' ∧
        e'.isStatement = false ∧ FailsAt {} halfFilledBlock k e' afterHalfFilledBlock ∧
          ∀ j < k, ¬ ∃ e'' v, FailsAt {} halfFilledBlock j e'' v := by
  have h : writeBlock halfFilledBlock {} =
      .error (.statement 1 (.template "$T for $L" (.wrongKind 1 .literal)))
        afterHalfFilledBlock := by decide +kernel
  exact ⟨h, ((writeBlock_stops_at_first_failure {}).2 halfFilledBlock).2 _ _ h⟩

end Writer

end SourcePress
