import SourcePress.Proofs.SuppliedLines

/-!
# A file and its declarations in one block

The declarations of a file are not put into one list before they are written.  Each is written as a
block of its own, so that an error has the position of a statement within its declaration, and the
blank lines are written in between.  `attached` is the one list all the same, as `Statement.attach`
makes it.

The two agree for all declarations, also for those that leave the writer at another depth than they
found it at: the next blank line and the next declaration start from that depth in both.  The text
and the imports are the same, and an error has the same cause.  Only its position differs, by the
lengths of the declarations in front and of their blank lines (`renderBody_agrees_with_attached`).

The other half of a file cannot fail: every line of a header renders, and its steps go in and out
once (`exists_header`).
-/

namespace SourcePress

/-! ## Runs over blocks and over one list -/

namespace Writer

/-- What fails fails in front of other statements as well. -/
theorem FailsAt.append {w v : Writer} {xs : List Statement} {k : Nat} {e : Error}
    (h : FailsAt w xs k e v) (ys : List Statement) : FailsAt w (xs ++ ys) k e v := by
  obtain ⟨hreach, s, v', hget, hs⟩ := h
  obtain ⟨hlt, -⟩ := List.getElem?_eq_some_iff.mp hget
  refine ⟨?_, s, v', ?_, hs⟩
  · rw [List.take_append_of_le_length (Nat.le_of_lt hlt)]
    exact hreach
  · rw [List.getElem?_append_left hlt]
    exact hget

theorem bind_of_eq_ok {α β : Type} {x : Write α} {g : α → Write β} {w v : Writer} {a : α}
    (h : x w = .ok a v) : (x >>= g) w = g a v := by
  change EStateM.bind x g w = g a v
  unfold EStateM.bind
  rw [h]

theorem Reaches.forM_eq {w v : Writer} {xs : List Statement} (h : Reaches w xs v) :
    xs.forM writeStatement w = .ok () v := by
  induction h with
  | nil w => rfl
  | cons hs _ ih =>
    rw [← ih]
    exact bind_of_eq_ok hs

end Writer

namespace SourceFile

open Writer (GetsPast FailsAt Reaches)

/-- **A run over blocks that fails, and the run over the one list**, which fails at the same
statement for the same reason, and leaves the same writer behind. -/
theorem exists_failsAt_of_writeBlocks {blocks : List (List Statement)} {w w' : Writer} {e : Error}
    (h : writeBlocks blocks w = .error e w') :
    ∃ front block back v k cause, blocks = front ++ block :: back ∧ GetsPast w front v ∧
      FailsAt v block k cause w' ∧ e = .statement k cause ∧
      Writer.writeFrom 0 (blocks.intersperse [Statement.blank]).flatten w =
        .error (.statement (front.flatten.length + front.length + k) cause) w' := by
  obtain ⟨front, block, back, v, rfl, hpast, hfails⟩ := exists_getsPast_of_writeBlocks_eq_error h
  obtain ⟨k, cause, rfl, hat⟩ := Writer.writeBlock_eq_error_iff.mp hfails
  refine ⟨front, block, back, v, k, cause, rfl, hpast, hat, rfl, ?_⟩
  -- the block comes first in what is left of the list
  obtain ⟨rest, hrest⟩ : ∃ rest, ((block :: back).intersperse [Statement.blank]).flatten =
      block ++ rest := by
    cases back with
    | nil => exact ⟨[], by simp⟩
    | cons next others => exact ⟨_, by rw [List.intersperse_cons_cons, List.flatten_cons]⟩
  rw [flatten_intersperse_append _ _ (List.cons_ne_nil block back), hrest, hpast.writeFrom_eq,
    (hat.append rest).writeFrom_eq, Nat.zero_add]

theorem writeBlocks_eq_ok_iff {blocks : List (List Statement)} {w w' : Writer} :
    writeBlocks blocks w = .ok () w' ↔
      Writer.writeFrom 0 (blocks.intersperse [Statement.blank]).flatten w = .ok () w' := by
  constructor
  · exact writeFrom_of_writeBlocks
  · intro h
    cases hblocks : writeBlocks blocks w with
    | error e v =>
      obtain ⟨front, block, back, v', k, cause, -, -, -, -, herror⟩ :=
        exists_failsAt_of_writeBlocks hblocks
      rw [h] at herror
      cases herror
    | ok u v =>
      have hv := writeFrom_of_writeBlocks hblocks
      rw [h] at hv
      exact hv.symm

end SourceFile

/-- A block of a list of declarations is one of the declarations, and the blocks in front of it are
those of the declarations in front. -/
theorem Declaration.exists_split_of_blocks {ds : List Declaration}
    {front back : List (List Statement)} {block : List Statement} (h : blocks ds = front ++ block :: back) :
    ∃ before d after, ds = before ++ d :: after ∧ blocks before = front ∧ d.statements = block := by
  obtain ⟨kept, others, hsplit, hkept, hothers⟩ := List.filter_eq_append_iff.mp h
  obtain ⟨dropped, rest, rfl, hdropped, -, -⟩ := List.filter_eq_cons_iff.mp hothers
  rw [← List.append_assoc] at hsplit
  obtain ⟨before, after, rfl, hbefore, hafter⟩ := List.map_eq_append_iff.mp hsplit
  obtain ⟨d, after, rfl, hd, -⟩ := List.map_eq_cons_iff.mp hafter
  refine ⟨before, d, after, rfl, ?_, hd⟩
  -- between the last of these blocks and `block` there are only declarations without statements
  have hnone : dropped.filter (!·.isEmpty) = [] := List.filter_eq_nil_iff.mpr hdropped
  rw [blocks, hbefore, List.filter_append, hkept, hnone, List.append_nil]

/-! ## Headers -/

namespace SourceFile

open Writer (GetsPast FailsAt Reaches)
open Statement (renderError?_of_accepts)

theorem leads_importSection (imports : List Import) :
    Layout.Leads 0 (importSection imports) 0 := by
  have hblank : Layout.Leads 0 [Statement.blank] 0 := Layout.leads_blank 0
  match imports with
  | [] => exact Layout.Leads.nil 0
  | [only] => exact hblank.append (Layout.leads_of_level (by simp) 0)
  | i :: j :: rest =>
    have hlines : Layout.Leads 0 ((i :: j :: rest).map fun i =>
        ({ template := "$L", args := [.literal (importLine i)] } : Statement)) 0 :=
      Layout.leads_of_level (by simp) 0
    exact hblank.append (Layout.leads_enclosed ⟨rfl, rfl⟩ ⟨rfl, rfl⟩ hlines)

theorem renderError?_of_mem_importSection (imports : List Import) :
    ∀ s ∈ importSection imports, s.renderError? = none := by
  match imports with
  | [] => exact fun s hs => absurd hs List.not_mem_nil
  | [only] =>
    refine List.forall_mem_cons.mpr ⟨Statement.renderError?_blank, ?_⟩
    exact List.forall_mem_singleton.mpr (renderError?_of_accepts [.literal] (by decide) rfl)
  | i :: j :: rest =>
    rw [importSection_cons_cons]
    refine List.forall_mem_append.mpr ⟨List.forall_mem_cons.mpr
      ⟨Statement.renderError?_blank, List.forall_mem_cons.mpr ⟨?_, ?_⟩⟩, ?_⟩
    · exact renderError?_of_accepts [] (by decide) rfl
    · intro s hs
      obtain ⟨entry, -, rfl⟩ := List.mem_map.mp hs
      exact renderError?_of_accepts [.literal] (by decide) rfl
    · exact List.forall_mem_singleton.mpr Statement.renderError?_closing_paren

theorem leads_headerStatements (f : SourceFile) (imports : List Import) :
    Layout.Leads 0 (f.headerStatements imports) 0 := by
  have hpackage : Layout.Leads 0
      [({ template := "package $L", args := [.literal f.package] } : Statement)] 0 :=
    Layout.leads_of_level (by simp) 0
  exact f.comment.leads_statements.append (hpackage.append (leads_importSection imports))

theorem renderError?_of_mem_headerStatements (f : SourceFile) (imports : List Import) :
    ∀ s ∈ f.headerStatements imports, s.renderError? = none := by
  refine List.forall_mem_append.mpr ⟨f.comment.renderError?_of_mem_statements, ?_⟩
  refine List.forall_mem_cons.mpr ⟨?_, renderError?_of_mem_importSection imports⟩
  exact renderError?_of_accepts [.literal] (by decide) rfl

theorem writeHeader_of_reaches {f : SourceFile} {imports : List Import} {w w' : Writer}
    (h : Reaches w (f.headerStatements imports) w') : f.writeHeader imports w = .ok () w' := by
  obtain ⟨v, hcomment, hrest⟩ := Writer.reaches_append_iff.mp h
  cases hrest with
  | @cons _ u _ _ _ hpackage himports =>
    have hblock : Writer.writeBlock f.comment.statements w = .ok () v :=
      Writer.writeFrom_eq_ok_iff_reaches.mpr hcomment
    rw [writeHeader, Writer.bind_of_eq_ok hblock, Writer.bind_of_eq_ok hpackage]
    exact himports.forM_eq

/-- **A header is always printed**, whatever the comment, the package and the imports are. -/
theorem exists_header (f : SourceFile) (imports : List Import) :
    ∃ text, f.header imports = .ok text := by
  have hlead : Layout.Leads (Writer.ofConfig ⟨f.indent, none⟩).depth
      (f.headerStatements imports) 0 := f.leads_headerStatements imports
  obtain ⟨w, hw⟩ := (Writer.exists_reaches_iff hlead).mpr
    (f.renderError?_of_mem_headerStatements imports)
  refine ⟨w.buffer, ?_⟩
  rw [header, writeHeader_of_reaches hw]

theorem render_eq_error_iff {f : SourceFile} {e : Error} :
    f.render = .error e ↔ f.renderBody = .error e := by
  cases hbody : f.renderBody with
  | error e' =>
    have hrender : f.render = .error e' := by
      unfold render
      rw [hbody]
      rfl
    rw [hrender, Except.error.injEq, Except.error.injEq]
  | ok body =>
    obtain ⟨header, hheader⟩ := f.exists_header (sortImports body.imports)
    rw [render_of_header hbody hheader]
    simp

/-! ## Files -/

/-- All declarations of the file as one block, a blank line between two that have statements. -/
def attached (f : SourceFile) : Fragment :=
  { statements := Statement.attach [] (f.declarations.map Declaration.statements) }

theorem statements_attached (f : SourceFile) : f.attached.statements = f.bodyStatements :=
  Statement.attach_eq_separate [] _

theorem renderBody_eq_ok_iff {f : SourceFile} {body : Rendered} :
    f.renderBody = .ok body ↔
      ∃ w, Writer.writeBlock f.attached.statements f.bodyWriter = .ok () w ∧ w.finish = body := by
  rw [statements_attached, bodyStatements_eq]
  unfold Writer.writeBlock
  simp only [← writeBlocks_eq_ok_iff]
  unfold renderBody
  cases writeBlocks f.blocks f.bodyWriter with
  | error e w => simp
  | ok u w => simp

/-- **A file is printed as the one block of all its declarations is.**  Both succeed together, with
the same text and the same imports.  If they fail, it is in the turn of some declaration, at the same
statement and for the same reason.  The file's error has the position of the statement within the
declaration; the block's error has it further on by the lengths of the declarations in front that
have statements, and one blank line for each.  The header adds no failures: the file fails exactly
when its body does, with the same error, and otherwise it is the header and, behind a blank line, the
body, unless the body has no text. -/
theorem renderBody_agrees_with_attached (f : SourceFile) :
    (∀ body, f.renderBody = .ok body ↔
      ∃ w, Writer.writeBlock f.attached.statements f.bodyWriter = .ok () w ∧ w.finish = body) ∧
    (∀ e, f.renderBody = .error e →
      ∃ front d back v k cause w, f.declarations = front ++ d :: back ∧
        GetsPast f.bodyWriter (Declaration.blocks front) v ∧ FailsAt v d.statements k cause w ∧
        e = .statement k cause ∧ cause.isStatement = false ∧
        Writer.writeBlock f.attached.statements f.bodyWriter =
          .error (.statement ((Declaration.blocks front).flatten.length +
            (Declaration.blocks front).length + k) cause) w) ∧
    (∀ e, f.render = .error e ↔ f.renderBody = .error e) ∧
    (∀ imports, ∃ header, f.header imports = .ok header) ∧
    ∀ body, f.renderBody = .ok body → ∃ header, f.header (sortImports body.imports) = .ok header ∧
      f.render = .ok (header ++ if body.code = "" then "" else "\n" ++ body.code) := by
  refine ⟨fun body => renderBody_eq_ok_iff, ?_, fun e => render_eq_error_iff, f.exists_header, ?_⟩
  · intro e h
    have hblocks : ∃ w, writeBlocks f.blocks f.bodyWriter = .error e w := by
      unfold renderBody at h
      cases hrun : writeBlocks f.blocks f.bodyWriter with
      | error e' w =>
        rw [hrun] at h
        injection h with h
        exact ⟨w, by rw [h]⟩
      | ok u w =>
        rw [hrun] at h
        cases h
    obtain ⟨w, hw⟩ := hblocks
    obtain ⟨fronts, block, backs, v, k, cause, hsplit, hpast, hfails, rfl, hattached⟩ :=
      exists_failsAt_of_writeBlocks hw
    obtain ⟨front, d, back, hds, rfl, rfl⟩ := Declaration.exists_split_of_blocks hsplit
    refine ⟨front, d, back, v, k, cause, w, hds, hpast, hfails, rfl, ?_, ?_⟩
    · obtain ⟨-, s, v', -, hs⟩ := hfails
      exact Writer.isStatement_of_writeStatement hs
    · rw [statements_attached]
      exact hattached
  · intro body hbody
    obtain ⟨header, hheader⟩ := f.exists_header (sortImports body.imports)
    exact ⟨header, hheader, render_of_header hbody hheader⟩

/-- A file whose first declaration leaves the writer one level in.  Its third one steps out twice. -/
def leakingFile : SourceFile where
  package := "valve"
  declarations := [
    .fragment { statements := [{ template := "begin", after := 1 }] },
    .comment {},
    .fragment { statements := [{ template := "flow" }, { template := "end", before := -2 }] }]

/-- The second statement of the last declaration fails, from the depth that the first declaration
left; in the one block it is the fourth. -/
theorem leakingFile_agrees :
    leakingFile.renderBody = .error (.statement 1 (.indentUnderflow 1 (-2))) ∧
      (∃ w, Writer.writeBlock leakingFile.attached.statements leakingFile.bodyWriter =
        .error (.statement 3 (.indentUnderflow 1 (-2))) w) ∧
      ∃ front d back v k cause w, leakingFile.declarations = front ++ d :: back ∧
        GetsPast leakingFile.bodyWriter (Declaration.blocks front) v ∧
        FailsAt v d.statements k cause w ∧
        Error.statement 1 (.indentUnderflow 1 (-2)) = .statement k cause ∧
        cause.isStatement = false ∧
        Writer.writeBlock leakingFile.attached.statements leakingFile.bodyWriter =
          .error (.statement ((Declaration.blocks front).flatten.length +
            (Declaration.blocks front).length + k) cause) w := by
  have h : leakingFile.renderBody = .error (.statement 1 (.indentUnderflow 1 (-2))) := by
    decide +kernel
  refine ⟨h, ?_, (renderBody_agrees_with_attached leakingFile).2.1 _ h⟩
  exact ⟨{ depth := 1, buffer := "begin\n\n\tflow\n", written := 3 }, by decide +kernel⟩

end SourceFile

end SourcePress
