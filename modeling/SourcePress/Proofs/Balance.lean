import SourcePress.Proofs.FileText
import SourcePress.Proofs.Joining
import SourcePress.Proofs.Separation

/-!
# Declarations are balanced

A list of statements is balanced when it has a layout from depth zero and comes back to zero.  Being
balanced is not a matter of the sum of the steps alone, so it is not carried through a declaration by
adding up.  What is carried instead is `Layout.Leads`: from one depth the statements lead to another
one, without going below zero on the way.  This composes (`Leads.append`), and it holds a number of
levels further in as well (`Leads.raise`), which is what a body between braces needs.

A declaration is put together from lists that the caller supplies and lines of its own.  Its own
lines step in once and out once; the caller's lists have to be balanced by themselves.  One line has
two sources: the first statement of a value goes behind the name of its variable, and its step before
the line is lost there.  So this step must be zero (`Variable.hasBalancedValue`).

If all this holds of the declarations of a file, each of them starts and ends at depth zero
(`balanced_parts_keep_level`).
-/

namespace SourcePress

/-! ## From depth to depth -/

namespace Layout

/-- From the first depth the statements have a layout, and they lead to the second depth. -/
inductive Leads : Nat → List Statement → Nat → Prop
  | nil (depth : Nat) : Leads depth [] depth
  | cons {depth level next reached : Nat} {s : Statement} {rest : List Statement} :
      step depth s = .ok (level, next) → Leads next rest reached → Leads depth (s :: rest) reached

/-- There is a layout, and the sum of the steps says where it leads. -/
theorem leads_iff {depth index reached : Nat} {xs : List Statement} :
    Leads depth xs reached ↔
      (∃ ls, levelsFrom depth index xs = .ok ls) ∧ (reached : Int) = depth + netShift xs := by
  constructor
  · intro h
    induction h generalizing index with
    | nil depth => exact ⟨⟨[], rfl⟩, by simp⟩
    | @cons depth level next reached s rest hstep _ ih =>
      obtain ⟨⟨ls, hls⟩, hreached⟩ := @ih (index + 1)
      obtain ⟨hbefore, hafter⟩ := step_eq_ok_iff.mp hstep
      refine ⟨⟨level :: ls, ?_⟩, ?_⟩
      · exact levelsFrom_cons_eq_ok_iff.mpr ⟨level, next, ls, hstep, hls, rfl⟩
      · rw [hreached, netShift_cons]
        omega
  · rintro ⟨⟨ls, hls⟩, hreached⟩
    induction xs generalizing depth index ls with
    | nil =>
      have hdepth : reached = depth := by
        rw [netShift_nil] at hreached
        omega
      rw [hdepth]
      exact Leads.nil depth
    | cons s rest ih =>
      obtain ⟨level, next, ls', hstep, hrest, -⟩ := levelsFrom_cons_eq_ok_iff.mp hls
      obtain ⟨hbefore, hafter⟩ := step_eq_ok_iff.mp hstep
      refine Leads.cons hstep (ih ?_ ls' hrest)
      rw [netShift_cons] at hreached
      omega

theorem Leads.exists_levelsFrom {depth reached : Nat} {xs : List Statement}
    (h : Leads depth xs reached) (index : Nat) : ∃ ls, levelsFrom depth index xs = .ok ls :=
  (leads_iff.mp h).1

theorem Leads.reached_eq {depth reached : Nat} {xs : List Statement} (h : Leads depth xs reached) :
    (reached : Int) = depth + netShift xs :=
  ((@leads_iff depth 0 reached xs).mp h).2

/-- **A list is balanced when it leads from depth zero back to zero.** -/
theorem isBalanced_iff_leads {xs : List Statement} : isBalanced xs = true ↔ Leads 0 xs 0 := by
  have hlayout : (levels xs).isOk = true ↔ ∃ ls, levelsFrom 0 0 xs = .ok ls := by
    rw [levels]
    cases levelsFrom 0 0 xs with
    | error e => simp [Except.isOk, Except.toBool]
    | ok ls => simp [Except.isOk, Except.toBool]
  rw [isBalanced, Bool.and_eq_true, beq_iff_eq, hlayout, @leads_iff 0 0 0 xs]
  constructor
  · rintro ⟨hnet, hls⟩
    exact ⟨hls, by rw [hnet]; rfl⟩
  · rintro ⟨hls, hnet⟩
    exact ⟨by omega, hls⟩

theorem Leads.append {a b c : Nat} {xs ys : List Statement} (hxs : Leads a xs b)
    (hys : Leads b ys c) : Leads a (xs ++ ys) c := by
  induction hxs with
  | nil depth => exact hys
  | cons hstep _ ih => exact Leads.cons hstep (ih hys)

/-- The same some levels further in. -/
theorem Leads.raise {a b : Nat} {xs : List Statement} (h : Leads a xs b) (k : Nat) :
    Leads (a + k) xs (b + k) := by
  induction h with
  | nil depth => exact Leads.nil _
  | @cons depth level next reached s rest hstep _ ih =>
    obtain ⟨hbefore, hafter⟩ := step_eq_ok_iff.mp hstep
    have hraised : step (depth + k) s = .ok (level + k, next + k) := by
      refine step_eq_ok_iff.mpr ⟨?_, ?_⟩
      · omega
      · omega
    exact Leads.cons hraised ih

/-- A statement without steps stays where it is. -/
theorem step_of_level {s : Statement} (hbefore : s.before = 0) (hafter : s.after = 0)
    (depth : Nat) : step depth s = .ok (depth, depth) := by
  refine step_eq_ok_iff.mpr ⟨?_, ?_⟩
  · omega
  · omega

theorem leads_of_level {xs : List Statement} (h : ∀ s ∈ xs, s.before = 0 ∧ s.after = 0)
    (depth : Nat) : Leads depth xs depth := by
  induction xs with
  | nil => exact Leads.nil depth
  | cons s rest ih =>
    obtain ⟨⟨hbefore, hafter⟩, hrest⟩ := List.forall_mem_cons.mp h
    exact Leads.cons (step_of_level hbefore hafter depth) (ih hrest)

theorem leads_blank (depth : Nat) : Leads depth [Statement.blank] depth :=
  leads_of_level (by simp [Statement.blank]) depth

/-- Lists that come back to a depth come back to it together. -/
theorem leads_flatMap {α : Type} {xs : List α} {f : α → List Statement} {depth : Nat}
    (h : ∀ x ∈ xs, Leads depth (f x) depth) : Leads depth (xs.flatMap f) depth := by
  induction xs with
  | nil => exact Leads.nil depth
  | cons x rest ih =>
    obtain ⟨hx, hrest⟩ := List.forall_mem_cons.mp h
    rw [List.flatMap_cons]
    exact hx.append (ih hrest)

/-- **A balanced list between an opening and a closing line.** -/
theorem leads_enclosed {opening closing : Statement} {xs : List Statement}
    (hopening : opening.before = 0 ∧ opening.after = 1)
    (hclosing : closing.before = -1 ∧ closing.after = 0) (hxs : Leads 0 xs 0) :
    Leads 0 (opening :: xs ++ [closing]) 0 := by
  have hfirst : step 0 opening = .ok (0, 1) := by
    refine step_eq_ok_iff.mpr ⟨?_, ?_⟩
    · omega
    · omega
  have hlast : step 1 closing = .ok (0, 0) := by
    refine step_eq_ok_iff.mpr ⟨?_, ?_⟩
    · omega
    · omega
  have hinside : Leads 1 xs 1 := hxs.raise 1
  exact Leads.cons hfirst (hinside.append (Leads.cons hlast (Leads.nil 0)))

/-- Blocks that come back to a depth do so with blank lines between them. -/
theorem leads_separate {blocks : List (List Statement)} {depth : Nat}
    (h : ∀ block ∈ blocks, Leads depth block depth) :
    Leads depth (separate .blank blocks) depth := by
  induction blocks with
  | nil => exact Leads.nil depth
  | cons block rest ih =>
    obtain ⟨hblock, hrest⟩ := List.forall_mem_cons.mp h
    rcases separate_cons_cases Statement.blank block rest with
      ⟨-, heq⟩ | ⟨-, -, heq⟩ | ⟨-, -, heq⟩
    · rw [heq]
      exact ih hrest
    · rw [heq]
      exact hblock
    · rw [heq]
      exact hblock.append ((leads_blank depth).append (ih hrest))

end Layout

/-! ## Writing along a layout -/

namespace Writer

/-- Statements with a layout are written exactly when they render. -/
theorem exists_reaches_iff {w : Writer} {xs : List Statement} {reached : Nat}
    (h : Layout.Leads w.depth xs reached) :
    (∃ v, Reaches w xs v) ↔ ∀ s ∈ xs, s.renderError? = none := by
  have hlayout := h.exists_levelsFrom 0
  simp only [← @writeFrom_eq_ok_iff_reaches 0]
  rw [exists_writeFrom_eq_ok_iff, and_iff_right hlayout]

theorem Reaches.depth_eq {w v : Writer} {xs : List Statement} {reached : Nat} (h : Reaches w xs v)
    (hxs : Layout.Leads w.depth xs reached) : v.depth = reached := by
  have hwritten : writeFrom 0 xs w = .ok () v := writeFrom_eq_ok_iff_reaches.mpr h
  have hnet := hxs.reached_eq
  have hdepth := depth_eq_of_writeFrom hwritten
  omega

/-- A blank line always renders, so blocks with blank lines behind them render when the blocks do. -/
theorem forall_mem_flatMap_blank {blocks : List (List Statement)} :
    (∀ s ∈ blocks.flatMap (· ++ [Statement.blank]), s.renderError? = none) ↔
      ∀ block ∈ blocks, ∀ s ∈ block, s.renderError? = none := by
  have hblank : ∀ s ∈ [Statement.blank], s.renderError? = none :=
    List.forall_mem_singleton.mpr Statement.renderError?_blank
  rw [List.forall_mem_flatMap]
  refine forall₂_congr fun block _ => ?_
  rw [List.forall_mem_append, and_iff_left hblank]

end Writer

/-! ## The parts of a declaration -/

section Parts

open Layout

theorem Comment.leads_statements (c : Comment) : Leads 0 c.statements 0 :=
  leads_of_level c.before_after_of_mem_statements 0

theorem Func.after_resultPart (results : List Parameter) : (Func.resultPart results).after = 0 := by
  match results with
  | [] => rfl
  | [only] =>
    rw [Func.resultPart]
    split
    · rfl
    · rfl
  | p :: q :: rest => rfl

theorem Func.before_after_signature (f : Func) :
    f.signature.before = 0 ∧ f.signature.after = 0 :=
  ⟨rfl, Func.after_resultPart f.results⟩

/-- A function stands between braces, and its body is the caller's. -/
theorem Func.leads_declaration {f : Func} {header : Statement} (hheader : header.before = 0)
    (hbody : isBalanced f.body = true) : Leads 0 (f.declaration header) 0 := by
  have hinside : Leads 0 f.body 0 := isBalanced_iff_leads.mp hbody
  have hbraces : Leads 0 ((header ++ f.signature ++ Statement.opening " \x7b") :: f.body
      ++ [Statement.closing "\x7d"]) 0 :=
    leads_enclosed ⟨hheader, rfl⟩ ⟨rfl, rfl⟩ hinside
  have hcomment : Leads 0 f.comment.statements 0 := f.comment.leads_statements
  rw [Func.declaration, List.append_assoc]
  exact hcomment.append hbraces

theorem Func.leads_statements {f : Func} (hbody : isBalanced f.body = true) :
    Leads 0 f.statements 0 :=
  Func.leads_declaration rfl hbody

theorem Method.leads_statements {m : Method} (hbody : isBalanced m.func.body = true) :
    Leads 0 m.statements 0 :=
  Func.leads_declaration rfl hbody

theorem Field.before_after_statement (f : Field) :
    f.statement.before = 0 ∧ f.statement.after = 0 := by
  have hbefore : f.statement.before = 0 := by
    unfold Field.statement
    split <;> rfl
  have hafter : f.statement.after = 0 := by
    unfold Field.statement
    cases f.tag <;> rfl
  exact ⟨hbefore, hafter⟩

theorem Struct.leads_declaration (s : Struct) : Leads 0 s.declaration 0 := by
  have hcomment : Leads 0 s.comment.statements 0 := s.comment.leads_statements
  refine hcomment.append ?_
  cases s.fields with
  | nil => exact leads_of_level (by simp) 0
  | cons field rest =>
    have hfields : Leads 0 ((field :: rest).map Field.statement) 0 := by
      refine leads_of_level (fun line hline => ?_) 0
      obtain ⟨field', -, rfl⟩ := List.mem_map.mp hline
      exact field'.before_after_statement
    exact leads_enclosed ⟨rfl, rfl⟩ ⟨rfl, rfl⟩ hfields

theorem Struct.leads_statements {s : Struct}
    (hmethods : ∀ m ∈ s.methods, isBalanced m.func.body = true) : Leads 0 s.statements 0 := by
  have hattached : ∀ block ∈ s.methods.map Method.statements, Leads 0 block 0 := by
    intro block hblock
    obtain ⟨m, hm, rfl⟩ := List.mem_map.mp hblock
    exact Method.leads_statements (hmethods m hm)
  rw [Struct.statements, Statement.attach_eq_separate]
  exact leads_separate (List.forall_mem_cons.mpr ⟨s.leads_declaration, hattached⟩)

/-- The lines of an interface have no steps.  The bodies of its methods are not among them. -/
theorem Interface.leads_members (i : Interface) : Leads 0 i.members 0 := by
  have hembedded : Leads 0 (i.embedded.map fun t =>
      ({ template := "$T", args := [.type t] } : Statement)) 0 := leads_of_level (by simp) 0
  refine hembedded.append (leads_flatMap fun m _ => ?_)
  have hsignature : Leads 0 [m.signature] 0 :=
    leads_of_level (List.forall_mem_singleton.mpr m.before_after_signature) 0
  exact m.comment.leads_statements.append hsignature

theorem Interface.leads_statements (i : Interface) : Leads 0 i.statements 0 := by
  have hcomment : Leads 0 i.comment.statements 0 := i.comment.leads_statements
  refine hcomment.append ?_
  split
  · exact leads_of_level (by simp) 0
  · exact leads_enclosed ⟨rfl, rfl⟩ ⟨rfl, rfl⟩ i.leads_members

theorem Definition.leads_statements (d : Definition) : Leads 0 d.statements 0 := by
  have hcomment : Leads 0 d.comment.statements 0 := d.comment.leads_statements
  exact hcomment.append (leads_of_level (by simp) 0)

/-- The value of the variable is balanced, and does not step before its first line, since that line
is joined to the variable's own. -/
def Variable.hasBalancedValue (v : Variable) : Bool :=
  isBalanced v.value.statements && v.value.statements.head?.all (·.before == 0)

theorem Variable.leads_statements {v : Variable} (h : v.hasBalancedValue = true) :
    Leads 0 v.statements 0 := by
  rw [Variable.hasBalancedValue, Bool.and_eq_true] at h
  obtain ⟨hbalanced, hfirst⟩ := h
  have hcomment : Leads 0 v.comment.statements 0 := v.comment.leads_statements
  have hvalue : Leads 0 v.value.statements 0 := isBalanced_iff_leads.mp hbalanced
  refine hcomment.append ?_
  cases hstatements : v.value.statements with
  | nil => exact leads_of_level (by simp [Variable.header]) 0
  | cons first rest =>
    rw [hstatements] at hvalue hfirst
    have hbefore : first.before = 0 := by simpa using hfirst
    cases hvalue with
    | @cons _ level next _ _ _ hstep hrest =>
      -- the joined line has the steps of the first statement of the value
      have hjoined : step 0 (v.header ++ { template := " = " } ++ first) = .ok (level, next) := by
        obtain ⟨hlevel, hnext⟩ := step_eq_ok_iff.mp hstep
        rw [hbefore] at hlevel
        exact step_eq_ok_iff.mpr ⟨hlevel, hnext⟩
      exact Leads.cons hjoined hrest

theorem Group.leads_sectionOf (keyword : String) {members : List Variable}
    (h : ∀ v ∈ members, v.hasBalancedValue = true) :
    Leads 0 (Group.sectionOf keyword members) 0 := by
  have hmembers : Leads 0 (members.flatMap Variable.statements) 0 :=
    leads_flatMap fun v hv => Variable.leads_statements (h v hv)
  cases members with
  | nil => exact Leads.nil 0
  | cons v rest => exact leads_enclosed ⟨rfl, rfl⟩ ⟨rfl, rfl⟩ hmembers

theorem Group.leads_statements {g : Group} (h : ∀ v ∈ g.members, v.hasBalancedValue = true) :
    Leads 0 g.statements 0 := by
  have hconstants : Leads 0 (Group.sectionOf "const" g.constants) 0 :=
    Group.leads_sectionOf "const" fun v hv => h v (List.mem_filter.mp hv).1
  have hvariables : Leads 0 (Group.sectionOf "var" g.nonconstants) 0 :=
    Group.leads_sectionOf "var" fun v hv => h v (List.mem_filter.mp hv).1
  have hattach : g.statements = Statement.attach (Group.sectionOf "const" g.constants)
      [Group.sectionOf "var" g.nonconstants] := rfl
  rw [hattach, Statement.attach_eq_separate]
  refine leads_separate ?_
  simp only [List.forall_mem_cons, List.not_mem_nil, false_imp_iff, implies_true, and_true]
  exact ⟨hconstants, hvariables⟩

end Parts

/-! ## All declarations -/

namespace Declaration

/-- Are the statement lists that the caller supplies balanced?  These are the bodies that are printed
and the values of variables; the first statement of a value must not step before its line. -/
def hasBalancedParts : Declaration → Bool
  | .fragment f => Layout.isBalanced f.statements
  | .comment _ => true
  | .func f => Layout.isBalanced f.body
  | .method m => Layout.isBalanced m.func.body
  | .struct s => s.methods.all fun m => Layout.isBalanced m.func.body
  | .interface _ => true
  | .definition _ => true
  | .binding v => v.hasBalancedValue
  | .group g => g.members.all Variable.hasBalancedValue

theorem leads_statements {d : Declaration} (h : d.hasBalancedParts = true) :
    Layout.Leads 0 d.statements 0 := by
  cases d with
  | fragment f => exact Layout.isBalanced_iff_leads.mp h
  | comment c => exact c.leads_statements
  | func f => exact Func.leads_statements h
  | method m => exact Method.leads_statements h
  | struct s => exact Struct.leads_statements (List.all_eq_true.mp h)
  | interface i => exact i.leads_statements
  | definition d => exact d.leads_statements
  | binding v => exact Variable.leads_statements h
  | group g => exact Group.leads_statements (List.all_eq_true.mp h)

theorem forall_mem_blocks {p : List Statement → Prop} {ds : List Declaration}
    (h : ∀ d ∈ ds, p d.statements) : ∀ block ∈ blocks ds, p block := by
  intro block hblock
  obtain ⟨hmem, -⟩ := List.mem_filter.mp hblock
  obtain ⟨d, hd, rfl⟩ := List.mem_map.mp hmem
  exact h d hd

theorem blocks_append (front back : List Declaration) :
    blocks (front ++ back) = blocks front ++ blocks back := by
  rw [blocks, List.map_append, List.filter_append]
  rfl

theorem blocks_cons_of_ne_nil {d : Declaration} (h : d.statements ≠ []) (ds : List Declaration) :
    blocks (d :: ds) = d.statements :: blocks ds := by
  rw [blocks, List.map_cons, filter_cons_of_ne_nil h]
  rfl

/-- The statements of the blocks are those of the declarations. -/
theorem forall_mem_statements_iff {p : Statement → Prop} {ds : List Declaration} :
    (∀ block ∈ blocks ds, ∀ s ∈ block, p s) ↔ ∀ d ∈ ds, ∀ s ∈ d.statements, p s := by
  constructor
  · intro h d hd s hs
    have hne : d.statements ≠ [] := List.ne_nil_of_mem hs
    have hmem : d.statements ∈ blocks ds :=
      List.mem_filter.mpr ⟨List.mem_map_of_mem hd, by simpa using hne⟩
    exact h d.statements hmem s hs
  · intro h
    exact forall_mem_blocks h

end Declaration

/-! ## Files -/

namespace SourceFile

open Writer (GetsPast)

/-- Balanced declarations, with a blank line behind each, come back to the depth they start from. -/
theorem leads_flatMap_blank {ds : List Declaration} (h : ∀ d ∈ ds, d.hasBalancedParts = true) :
    Layout.Leads 0 ((Declaration.blocks ds).flatMap (· ++ [Statement.blank])) 0 := by
  have hblocks : ∀ block ∈ Declaration.blocks ds, Layout.Leads 0 block 0 :=
    Declaration.forall_mem_blocks fun d hd => Declaration.leads_statements (h d hd)
  refine Layout.leads_flatMap fun block hblock => ?_
  exact (hblocks block hblock).append (Layout.leads_blank 0)

/-- **Balanced parts make balanced declarations, and keep a file level.**  A declaration is balanced
if the statement lists that the caller supplied for it are.  In a file of such declarations the turn
of a declaration comes as soon as the statements before it render; it starts at depth zero, and when
it is written it ends at depth zero. -/
theorem balanced_parts_keep_level :
    (∀ d : Declaration, d.hasBalancedParts = true → Layout.isBalanced d.statements = true) ∧
      ∀ f : SourceFile, (∀ d ∈ f.declarations, d.hasBalancedParts = true) →
        ∀ front d back, f.declarations = front ++ d :: back →
          ((∃ v, GetsPast f.bodyWriter (Declaration.blocks front) v) ↔
            ∀ d' ∈ front, ∀ s ∈ d'.statements, s.renderError? = none) ∧
          ∀ v, GetsPast f.bodyWriter (Declaration.blocks front) v →
            (d.statements ≠ [] → writeBlocks f.blocks f.bodyWriter =
              writeBlocks (d.statements :: Declaration.blocks back) v) ∧
            v.depth = 0 ∧
            ∀ v', Writer.writeBlock d.statements v = .ok () v' → v'.depth = 0 := by
  refine ⟨fun d h => Layout.isBalanced_iff_leads.mpr (Declaration.leads_statements h), ?_⟩
  intro f hparts front d back hsplit
  have hfront : Layout.Leads f.bodyWriter.depth
      ((Declaration.blocks front).flatMap (· ++ [Statement.blank])) 0 :=
    leads_flatMap_blank fun d' hd' => hparts d' (by rw [hsplit]; exact List.mem_append_left _ hd')
  refine ⟨?_, fun v hv => ?_⟩
  · rw [← Declaration.forall_mem_statements_iff, ← Writer.forall_mem_flatMap_blank]
    exact Writer.exists_reaches_iff hfront
  · have hdepth : v.depth = 0 := Writer.Reaches.depth_eq hv hfront
    refine ⟨fun hne => ?_, hdepth, fun v' hv' => ?_⟩
    · rw [blocks, hsplit, Declaration.blocks_append, Declaration.blocks_cons_of_ne_nil hne]
      exact writeBlocks_of_getsPast hv _ _
    · have hd : d.hasBalancedParts = true :=
        hparts d (by rw [hsplit]; exact List.mem_append_right _ (List.mem_cons_self ..))
      have hlead : Layout.Leads v.depth d.statements 0 := by
        rw [hdepth]
        exact Declaration.leads_statements hd
      exact Writer.Reaches.depth_eq (Writer.writeFrom_eq_ok_iff_reaches.mp hv') hlead

/-- A file in which declarations step in and out several times: a method with a branch, an interface
whose method has a body that does not come back, and a constant with a value of three lines that was
put into a group as it was. -/
def nestedFile : SourceFile where
  package := "gate"
  declarations := [
    .struct {
      name := "Gate"
      fields := [{ name := "open", type := .declared "bool" }]
      methods := [⟨
        { name := "Toggle"
          body := [
            { template := "if g.open \x7b", after := 1 },
            { template := "g.Close()" },
            { template := "\x7d else \x7b", before := -1, after := 1 },
            { template := "g.Open()" },
            { template := "\x7d", before := -1 }] }, "g", .pointer (.declared "Gate")⟩] },
    .interface {
      name := "Toggler"
      methods := [{ name := "Toggle", body := [{ template := "\x7d", before := -2 }] }] },
    .comment {},
    .group { members := [
      { name := "initial"
        type := .declared "Gate"
        constant := true
        value := { statements := [
          { template := "Gate\x7b", after := 1 },
          { template := "open: $L,", args := [.literal "true"] },
          { template := "\x7d", before := -1 }] } }] }]

/-- The turn of the group comes, and it starts and ends at depth zero. -/
theorem nestedFile_keeps_level :
    (∀ d ∈ nestedFile.declarations, Layout.isBalanced d.statements = true) ∧
      ∃ v, GetsPast nestedFile.bodyWriter (Declaration.blocks (nestedFile.declarations.take 3)) v ∧
        v.depth = 0 ∧ ∀ d ∈ nestedFile.declarations.drop 3, ∀ v',
          Writer.writeBlock d.statements v = .ok () v' → v'.depth = 0 := by
  have hparts : ∀ d ∈ nestedFile.declarations, d.hasBalancedParts = true := by decide +kernel
  have hrender : ∀ d ∈ nestedFile.declarations.take 3,
      ∀ s ∈ d.statements, s.renderError? = none := by decide +kernel
  obtain ⟨hbalanced, hlevel⟩ := balanced_parts_keep_level
  obtain ⟨hturn, hdepth⟩ := hlevel nestedFile hparts (nestedFile.declarations.take 3) _ [] rfl
  obtain ⟨v, hv⟩ := hturn.mpr hrender
  obtain ⟨-, hstart, hend⟩ := hdepth v hv
  refine ⟨fun d hd => hbalanced d (hparts d hd), v, hv, hstart, fun d hd => ?_⟩
  rw [List.mem_singleton.mp hd]
  exact hend

end SourceFile

end SourcePress
