import SourcePress.Proofs.Naming
import SourcePress.Proofs.WriterRun

/-!
# The page of a list of statements

The writer prints while it registers: a line is printed when the imports of later lines are not
known yet.  This file compares it with a printer that works in two phases.  `Page.text` is given the
names of all types from the beginning, and prints every line on its own, at a level that is a sum of
steps of indentation.

The two agree when the names are those under the writer's *last* registry (`writeBlock_eq_page`).
The induction over the statements carries nothing but the registry: the imports of a line are
registered before the line is printed, so all packages that the line mentions are known then, and
what a known package is called does not change any more.
-/

namespace SourcePress

namespace Page

/-- A line at a level: one unit of indentation for each level, unless the line is empty. -/
def line (indent : Indent) (level : Int) (code : String) : String :=
  if code = "" then "" else String.join (List.replicate level.toNat indent.unit) ++ code

/-- The page of a list of statements that starts at `depth`.  A statement stands at the depth that
all steps of the statements before it and its own first step lead to. -/
def text (indent : Indent) (depth : Int) (name : TypeRef → String) (statements : List Statement) :
    String :=
  String.join (statements.mapIdx fun i s =>
    line indent (depth + Layout.netShift (statements.take i) + s.before)
      (Template.substitute name s.template.toList s.args) ++ "\n")

@[simp] theorem text_nil (indent : Indent) (depth : Int) (name : TypeRef → String) :
    text indent depth name [] = "" := by
  simp [text]

/-- The first line, and then the page of the rest at the depth that the first statement leads to. -/
theorem text_cons (indent : Indent) (depth : Int) (name : TypeRef → String) (s : Statement)
    (rest : List Statement) :
    text indent depth name (s :: rest) =
      line indent (depth + s.before) (Template.substitute name s.template.toList s.args) ++ "\n" ++
        text indent (depth + s.before + s.after) name rest := by
  rw [text, List.mapIdx_cons, String.join_cons, List.take_zero, Layout.netShift_nil, Int.add_zero,
    text]
  congr 3
  funext i t
  rw [List.take_succ_cons, Layout.netShift_cons]
  congr 2
  omega

theorem text_append (indent : Indent) (depth : Int) (name : TypeRef → String)
    (xs ys : List Statement) :
    text indent depth name (xs ++ ys) =
      text indent depth name xs ++ text indent (depth + Layout.netShift xs) name ys := by
  induction xs generalizing depth with
  | nil => simp
  | cons s rest ih =>
    have hdepth : depth + s.before + s.after + Layout.netShift rest =
        depth + Layout.netShift (s :: rest) := by
      rw [Layout.netShift_cons]
      omega
    rw [List.cons_append, text_cons, text_cons, ih, hdepth]
    simp only [String.append_assoc]

/-- The page depends on the names of the types that occur in it only. -/
theorem text_congr {indent : Indent} {depth : Int} {name name' : TypeRef → String}
    {statements : List Statement}
    (h : ∀ s ∈ statements, ∀ t ∈ s.refs, name t = name' t) :
    text indent depth name statements = text indent depth name' statements := by
  induction statements generalizing depth with
  | nil => rw [text_nil, text_nil]
  | cons s rest ih =>
    rw [List.forall_mem_cons] at h
    rw [text_cons, text_cons, ih h.2, Template.substitute_congr h.1]

/-- A margin is made of units. -/
theorem margin_eq_join (indent : Indent) (level : Nat) :
    indent.margin level = String.join (List.replicate level indent.unit) := by
  induction level with
  | zero => simp
  | succ level ih => rw [Indent.margin_succ, ih, List.replicate_succ, String.join_cons]

/-- The writer's lines are the lines of the page. -/
theorem line_eq (indent : Indent) (level : Nat) (code : String) :
    Writer.line indent level code = line indent level code := by
  rw [Writer.line, line, margin_eq_join, Int.toNat_natCast]
  simp

end Page

namespace Writer

open Template (Piece)

/-- The text of a line that is written is what substitution gives under the registry then. -/
theorem buffer_advance {s : Statement} {w : Writer} {level next : Nat} {ps : List Piece}
    (h : Template.pieces s.template s.args = .ok ps) :
    (w.advance level next ps).buffer = w.buffer ++ (Page.line w.indent level
      (Template.substitute (TypeRef.text (w.advance level next ps).registry)
        s.template.toList s.args) ++ "\n") := by
  rw [← Page.line_eq, ← Template.print_eq_substitute (Template.pieces_eq_ok_iff.mp h),
    ← String.append_assoc]
  rfl

/-- The types of a statement have their final names once its imports are registered. -/
theorem text_eq_of_needs {s : Statement} (hplain : ∀ t ∈ s.refs, t.isPlain = true)
    {r r' : Registry} (h : (r.registerAll s.needs).Extends r') {t : TypeRef} (ht : t ∈ s.refs) :
    t.text r' = t.text (r.registerAll s.needs) := by
  refine TypeRef.text_eq_of_extends h (hplain t ht) fun path hpath => ?_
  obtain ⟨i, hi, rfl⟩ := ImportSet.mem_paths_iff.mp hpath
  exact Registry.knows_registerAll r (List.mem_flatMap.mpr ⟨t, ht, hi⟩)

theorem substitute_eq_of_needs {s : Statement} (hplain : ∀ t ∈ s.refs, t.isPlain = true)
    {r r' : Registry} (h : (r.registerAll s.needs).Extends r') :
    Template.substitute (TypeRef.text r') s.template.toList s.args =
      Template.substitute (TypeRef.text (r.registerAll s.needs)) s.template.toList s.args :=
  Template.substitute_congr fun _ ht => text_eq_of_needs hplain h ht

/-- A list that is written appends its page, under the names of the last registry. -/
theorem buffer_eq_of_writeFrom {index : Nat} {xs : List Statement} {w w' : Writer}
    (hplain : ∀ s ∈ xs, ∀ t ∈ s.refs, t.isPlain = true) (h : writeFrom index xs w = .ok () w') :
    w'.buffer = w.buffer ++ Page.text w.indent w.depth (TypeRef.text w'.registry) xs := by
  induction xs generalizing index w with
  | nil =>
    cases h
    simp
  | cons s rest ih =>
    rw [List.forall_mem_cons] at hplain
    obtain ⟨level, next, ps, hstep, hpieces, hrest⟩ := exists_of_writeFrom_cons h
    obtain ⟨hbefore, hafter⟩ := Layout.step_eq_ok_iff.mp hstep
    -- the line was printed under an earlier registry; its names have not changed since
    have hext : (w.registry.registerAll s.needs).Extends w'.registry := by
      rw [registry_eq_of_writeFrom hrest, registry_advance hpieces]
      exact Registry.extends_registerAll _ _
    have hline := substitute_eq_of_needs hplain.1 hext
    have hdepth : ((w.advance level next ps).depth : Int) = w.depth + s.before + s.after := by
      rw [hbefore, hafter]
      rfl
    rw [ih hplain.2 hrest, buffer_advance hpieces, registry_advance hpieces, ← hline, hdepth,
      Page.text_cons, hbefore, String.append_assoc]
    rfl

/-- **The writer prints a page.**  When a block is written, what it appends is the page of its
statements, from the depth at which the writer was, with every type named as the registry at the
very end names it.  No level of the page is negative; the writer ends at the depth that all steps
lead to, and has counted every statement. -/
theorem writeBlock_eq_page (w w' : Writer) (statements : List Statement)
    (hplain : ∀ s ∈ statements, ∀ t ∈ s.refs, t.isPlain = true)
    (h : writeBlock statements w = .ok () w') :
    w'.buffer = w.buffer ++ Page.text w.indent w.depth (TypeRef.text w'.registry) statements ∧
      (∀ (i : Nat) (hi : i < statements.length),
        0 ≤ (w.depth : Int) + Layout.netShift (statements.take i) + statements[i].before) ∧
      (w'.depth : Int) = w.depth + Layout.netShift statements ∧
      w'.written = w.written + statements.length := by
  refine ⟨buffer_eq_of_writeFrom hplain h, ?_, depth_eq_of_writeFrom h, written_eq_of_writeFrom h⟩
  intro i hi
  obtain ⟨v, v', htake, hstatement⟩ := exists_writeStatement_of_lt h hi
  obtain ⟨level, next, ps, hstep, -, -⟩ := writeStatement_eq_ok_iff.mp hstatement
  obtain ⟨hbefore, -⟩ := Layout.step_eq_ok_iff.mp hstep
  rw [← depth_eq_of_writeFrom htake, hbefore]
  exact Int.natCast_nonneg level

/-- Two packages that suggest the same token, the first of them mentioned again under another name,
in statements that step out of a block, into two and out of both. -/
def clashingBlock : List Statement :=
  [{ template := "f($T, $T) $L"
     args := [
      .type (.pointer (.named ⟨some ⟨"acme/log", none, by decide +kernel⟩, "Logger",
        by decide +kernel⟩)),
      .type (.slice (.named ⟨some ⟨"other/log", none, by decide +kernel⟩, "Level",
        by decide +kernel⟩)),
      .literal "$T"]
     before := -1
     after := 2 },
   { template := "$T"
     args := [.type (.named ⟨some ⟨"acme/log", some "l", by decide +kernel⟩, "Print",
      by decide +kernel⟩)] },
   { before := -2 }]

/-- The writer after `clashingBlock`, if it stood at depth one with one line written. -/
def afterClashingBlock : Writer where
  depth := 0
  indent := .spaces 2
  buffer := "x\nf(*log.Logger, []log2.Level) $T\n    log.Print\n\n"
  registry :=
    { resolved := [("acme/log", "log"), ("other/log", "log2")]
      defaults := [("acme/log", "log"), ("other/log", "log")]
      taken := ["log", "log2"] }
  written := 4

theorem clashingBlock_page :
    writeBlock clashingBlock { depth := 1, indent := .spaces 2, buffer := "x\n", written := 1 } =
        .ok () afterClashingBlock ∧
      afterClashingBlock.buffer =
        "x\n" ++ Page.text (.spaces 2) 1 (TypeRef.text afterClashingBlock.registry)
          clashingBlock := by
  have h : writeBlock clashingBlock
      { depth := 1, indent := .spaces 2, buffer := "x\n", written := 1 } =
        .ok () afterClashingBlock := by decide +kernel
  exact ⟨h, (writeBlock_eq_page _ _ clashingBlock (by decide +kernel) h).1⟩

end Writer

end SourcePress
