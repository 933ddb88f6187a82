import SourcePress.Proofs.Signatures

/-!
# Bodies as trees

The body of a function is given line by line: a block is opened by one step, closed by another, and
in between there are lines and further blocks.  So whoever builds a body walks through a tree, of
which the function keeps only a list of statements with steps of indentation.  The writer has a
counter to get the depths back.

A `Body` is such a tree.  Its text is defined by recursion over the tree (`Body.text`): what is
inside a block stands one level further in, and nothing is counted.  The page of the list is this
text (`Body.text_statements`).  The induction is on the tree, for all levels at once, since the lines
inside a block return to the level they started from.

A whole function is a comment and one more block, whose header is the signature
(`Func.declaration_eq_block`).  So nothing has to be said twice about the braces around the body.
-/

namespace SourcePress

/-! ## Trees of lines -/

/-- A line that a block can have as its header: it renders, on the level where it stands, and its
types are built from names, pointers, slices and maps.  A step after it is of no importance. -/
structure Heading where
  statement : Statement
  before_eq : statement.before = 0
  renders : statement.renderError? = none
  plain : ∀ t ∈ statement.refs, t.isPlain = true

/-- A line of its own: there is no step after it either. -/
structure Leaf extends Heading where
  after_eq : statement.after = 0

/-- Lines and blocks behind one another. -/
inductive Body where
  | done
  | line (leaf : Leaf) (next : Body)
  | block (heading : Heading) (inside next : Body)

namespace Body

/-- The steps of building a function that walk through the tree. -/
def steps : Body → List Func.Step
  | done => []
  | line leaf next => .statement leaf.statement :: next.steps
  | block heading inside next =>
    .blockStart heading.statement :: inside.steps ++ .blockEnd :: next.steps

/-- The text of the tree, if its outermost lines stand at `level`. -/
def text (indent : Indent) (name : TypeRef → String) (level : Nat) : Body → String
  | done => ""
  | line leaf next =>
    Page.line indent level (leaf.statement.text name) ++ "\n" ++ next.text indent name level
  | block heading inside next =>
    Page.line indent level (heading.statement.text name ++ " \x7b") ++ "\n" ++
      inside.text indent name (level + 1) ++
      Page.line indent level "\x7d" ++ "\n" ++ next.text indent name level

/-- What the walk leaves of the tree in the body of a function. -/
def statements : Body → List Statement
  | done => []
  | line leaf next => leaf.statement :: next.statements
  | block heading inside next =>
    (Func.blockHeader heading.statement :: inside.statements ++ [Statement.closing "\x7d"]) ++
      next.statements

/-- Every block of the tree is closed. -/
theorem leads_statements (b : Body) : Layout.Leads 0 b.statements 0 := by
  induction b with
  | done => exact Layout.Leads.nil 0
  | line leaf next ih =>
    exact Layout.Leads.cons (Layout.step_of_level leaf.before_eq leaf.after_eq 0) ih
  | block heading inside next ihInside ihNext =>
    have hblock : Layout.Leads 0 (Func.blockHeader heading.statement :: inside.statements ++
        [Statement.closing "\x7d"]) 0 :=
      Layout.leads_enclosed ⟨heading.before_eq, rfl⟩ ⟨rfl, rfl⟩ ihInside
    exact hblock.append ihNext

theorem netShift_statements (b : Body) : Layout.netShift b.statements = 0 := by
  have hreached := b.leads_statements.reached_eq
  omega

/-- What holds of the lines of the tree and of closing braces holds of all statements. -/
theorem forall_mem_statements {p : Statement → Prop} (hleaf : ∀ leaf : Leaf, p leaf.statement)
    (hheading : ∀ heading : Heading, p (Func.blockHeader heading.statement))
    (hclosing : p (Statement.closing "\x7d")) (b : Body) : ∀ s ∈ b.statements, p s := by
  induction b with
  | done => exact fun s hs => absurd hs List.not_mem_nil
  | line leaf next ih => exact List.forall_mem_cons.mpr ⟨hleaf leaf, ih⟩
  | block heading inside next ihInside ihNext =>
    refine List.forall_mem_append.mpr ⟨List.forall_mem_append.mpr ⟨?_, ?_⟩, ihNext⟩
    · exact List.forall_mem_cons.mpr ⟨hheading heading, ihInside⟩
    · exact List.forall_mem_singleton.mpr hclosing

theorem renderError?_of_mem_statements (b : Body) : ∀ s ∈ b.statements, s.renderError? = none :=
  forall_mem_statements (fun leaf => leaf.renders)
    (fun heading => Func.renderError?_blockHeader_eq_none_iff.mpr heading.renders)
    Statement.renderError?_closing_brace b

theorem isPlain_of_mem_statements (b : Body) :
    ∀ s ∈ b.statements, ∀ t ∈ s.refs, t.isPlain = true := by
  refine forall_mem_statements (fun leaf => leaf.plain) (fun heading t ht => ?_) ?_ b
  · rw [Func.blockHeader, Statement.refs_append] at ht
    rcases List.mem_append.mp ht with ht | ht
    · exact heading.plain t ht
    · exact absurd ht List.not_mem_nil
  · exact fun t ht => absurd ht List.not_mem_nil

/-- The header of a block, with the brace behind it. -/
theorem text_blockHeader (name : TypeRef → String) (heading : Heading) :
    (Func.blockHeader heading.statement).text name = heading.statement.text name ++ " \x7b" := by
  rw [Func.blockHeader, Statement.text_append heading.renders, Statement.opening,
    Statement.text_of_notMem name (by decide)]

/-- **The page of the statements is the text of the tree.** -/
theorem text_statements (indent : Indent) (name : TypeRef → String) (b : Body) (level : Nat) :
    Page.text indent level name b.statements = b.text indent name level := by
  induction b generalizing level with
  | done => exact Page.text_nil indent level name
  | line leaf next ih =>
    rw [statements, Page.text_cons, leaf.before_eq, leaf.after_eq, Int.add_zero, Int.add_zero, ih,
      text, Statement.text]
  | block heading inside next ihInside ihNext =>
    have hbefore : (Func.blockHeader heading.statement).before = 0 := heading.before_eq
    have hafter : (Func.blockHeader heading.statement).after = 1 := rfl
    have hdeeper : (level : Int) + 1 = ((level + 1 : Nat) : Int) := by omega
    have hback : ((level + 1 : Nat) : Int) + -1 = level := by omega
    rw [statements, List.append_assoc, List.cons_append, Page.text_cons, ← Statement.text,
      text_blockHeader, hbefore, hafter, Int.add_zero, hdeeper, Page.text_append, ihInside,
      -- the lines inside return to their level, so the closing line stands below the opening one
      inside.netShift_statements, Int.add_zero, List.singleton_append,
      Page.text_closing_cons _ _ _ (by decide), hback, ihNext, text]
    simp only [String.append_assoc]

end Body

/-! ## Walking through a tree -/

namespace Func

namespace Step

/-- Does the step change the body? -/
def isOfBody : Step → Bool
  | .statement _ | .statements _ | .blockStart _ | .blockEnd => true
  | .comment _ | .param _ _ | .variadic _ _ | .result _ _ => false

/-- The lines that the step adds to the body. -/
def added : Step → List Statement
  | .statement s => [s]
  | .statements ss => ss
  | .blockStart header => [blockHeader header]
  | .blockEnd => [Statement.closing "\x7d"]
  | .comment _ | .param _ _ | .variadic _ _ | .result _ _ => []

theorem added_of_not_isOfBody {step : Step} (h : step.isOfBody = false) : step.added = [] := by
  cases step with
  | comment text => rfl
  | param name type => rfl
  | variadic name type => rfl
  | result name type => rfl
  | statement s => cases h
  | statements ss => cases h
  | blockStart header => cases h
  | blockEnd => cases h

/-- The steps that do not change the body add nothing to it. -/
theorem flatMap_added_filter (steps : List Step) :
    (steps.filter isOfBody).flatMap added = steps.flatMap added := by
  induction steps with
  | nil => rfl
  | cons step rest ih =>
    cases h : step.isOfBody with
    | false =>
      rw [List.filter_cons_of_neg (by simp [h]), ih, List.flatMap_cons, added_of_not_isOfBody h,
        List.nil_append]
    | true => rw [List.filter_cons_of_pos h, List.flatMap_cons, List.flatMap_cons, ih]

end Step

theorem body_apply (f : Func) (step : Step) : (f.apply step).body = f.body ++ step.added := by
  cases step with
  | comment text => exact (List.append_nil _).symm
  | param name type => exact (List.append_nil _).symm
  | variadic name type => exact (List.append_nil _).symm
  | result name type => exact (List.append_nil _).symm
  | statement s => rfl
  | statements ss => rfl
  | blockStart header => rfl
  | blockEnd => rfl

theorem body_applyAll (f : Func) (steps : List Step) :
    (f.applyAll steps).body = f.body ++ steps.flatMap Step.added := by
  induction steps generalizing f with
  | nil => exact (List.append_nil _).symm
  | cons step rest ih =>
    have hrest := ih (f.apply step)
    rw [body_apply, List.append_assoc] at hrest
    exact hrest

end Func

theorem Method.applyAll_eq (m : Method) (steps : List Func.Step) :
    m.applyAll steps = { m with func := m.func.applyAll steps } := by
  induction steps generalizing m with
  | nil => rfl
  | cons step rest ih => exact ih (m.apply step)

theorem Body.flatMap_added_steps (b : Body) : b.steps.flatMap Func.Step.added = b.statements := by
  induction b with
  | done => rfl
  | line leaf next ih =>
    rw [steps, List.flatMap_cons, ih]
    rfl
  | block heading inside next ihInside ihNext =>
    rw [steps, List.flatMap_append, List.flatMap_cons, List.flatMap_cons, ihInside, ihNext,
      statements, List.append_assoc, List.append_assoc]
    rfl

/-- A walk through the tree, whatever else is done on the way, leaves its statements. -/
theorem Func.body_of_walk {b : Body} {steps : List Func.Step}
    (hsteps : steps.filter Func.Step.isOfBody = b.steps) {f : Func} (hf : f.body = []) :
    (f.applyAll steps).body = b.statements := by
  rw [body_applyAll, hf, List.nil_append, ← Step.flatMap_added_filter, hsteps,
    b.flatMap_added_steps]

/-! ## Functions and methods -/

/-- The statements are printed, and their text is as `text` says for every unit of indentation and
names of types.  This is so in a unit that consists of them, and when they are rendered on their
own. -/
structure Writer.PrintsAs (statements : List Statement)
    (text : Indent → (TypeRef → String) → String) : Prop where
  written : ∀ config, ∃ w, writeBlock statements (ofConfig config) = .ok () w ∧ w.depth = 0 ∧
    w.buffer = text config.indent (TypeRef.text w.registry)
  rendered : renderBlock statements = .ok (text .tab
    (TypeRef.text (Registry.registerAll {} (ImportSet.ofStatements statements).toList)))

theorem Writer.printsAs_page {statements : List Statement}
    (hleads : Layout.Leads 0 statements 0) (hrenders : ∀ s ∈ statements, s.renderError? = none)
    (hplain : ∀ s ∈ statements, ∀ t ∈ s.refs, t.isPlain = true) :
    PrintsAs statements fun indent name => Page.text indent 0 name statements := by
  have hwritten (config : Config) :
      ∃ w, writeBlock statements (ofConfig config) = .ok () w ∧ w.depth = 0 ∧
        w.buffer = Page.text config.indent 0 (TypeRef.text w.registry) statements := by
    have hstart : Layout.Leads (ofConfig config).depth statements 0 := hleads
    obtain ⟨w, hw⟩ := (exists_reaches_iff hstart).mpr hrenders
    have hblock : writeBlock statements (ofConfig config) = .ok () w :=
      writeFrom_eq_ok_iff_reaches.mpr hw
    refine ⟨w, hblock, hw.depth_eq hstart, ?_⟩
    rw [buffer_eq_of_writeFrom hplain hblock]
    exact String.empty_append
  refine ⟨hwritten, ?_⟩
  obtain ⟨w, hblock, -, hbuffer⟩ := hwritten {}
  have hfresh : writeBlock statements {} = .ok () w := hblock
  have hreach : Reaches {} statements w := writeFrom_eq_ok_iff_reaches.mp hfresh
  rw [renderBlock, hfresh, ← hreach.registry_eq]
  exact congrArg Except.ok hbuffer

/-- The heading, with the signature of a function behind it. -/
def Heading.sign (heading : Heading) (f : Func)
    (hplain : ∀ p ∈ f.params ++ f.results, p.type.isPlain = true) : Heading where
  statement := heading.statement ++ f.signature
  before_eq := heading.before_eq
  renders := Statement.renderError?_append heading.renders f.renderError?_signature
  plain := by
    rw [Statement.refs_append, Func.refs_signature]
    exact List.forall_mem_append.mpr ⟨heading.plain, List.forall_mem_map.mpr hplain⟩

namespace Func

/-- The text of a function with a tree as its body, and `front` before its signature. -/
def treeText (f : Func) (front : String) (b : Body) (indent : Indent) (name : TypeRef → String) :
    String :=
  f.comment.printed indent 0 ++ front ++ f.signatureText name ++ " \x7b\n" ++
    b.text indent name 1 ++ "\x7d\n"

section Declaration

variable {f : Func} (hplain : ∀ p ∈ f.params ++ f.results, p.type.isPlain = true) {b : Body}

/-- A function is a comment and a block. -/
theorem declaration_eq_block (hbody : f.body = b.statements) (heading : Heading) :
    f.declaration heading.statement =
      f.comment.statements ++ (Body.block (heading.sign f hplain) b .done).statements := by
  rw [declaration, List.append_assoc, hbody, Body.statements, Body.statements, List.append_nil]
  rfl

theorem text_block (heading : Heading) (indent : Indent) (name : TypeRef → String) :
    f.comment.printed indent 0 ++ (Body.block (heading.sign f hplain) b .done).text indent name 0 =
      f.treeText (heading.statement.text name) b indent name := by
  have hsign : (heading.sign f hplain).statement.text name =
      heading.statement.text name ++ f.signatureText name := by
    rw [← text_signature]
    exact Statement.text_append heading.renders name f.signature
  have hopening : " \x7b\n" = " \x7b" ++ "\n" := rfl
  have hclosing : "\x7d\n" = "\x7d" ++ "\n" := rfl
  rw [Body.text, Body.text, hsign, Int.natCast_zero, Page.line_zero, Page.line_zero, treeText,
    hopening, hclosing, String.append_empty]
  simp only [String.append_assoc]

include hplain in
theorem printsAs_declaration (hbody : f.body = b.statements) (heading : Heading) :
    Writer.PrintsAs (f.declaration heading.statement) fun indent name =>
      f.treeText (heading.statement.text name) b indent name := by
  have hsplit := declaration_eq_block hplain hbody heading
  have hleads : Layout.Leads 0 (f.declaration heading.statement) 0 := by
    rw [hsplit]
    exact f.comment.leads_statements.append (Body.leads_statements _)
  have hrenders : ∀ s ∈ f.declaration heading.statement, s.renderError? = none := by
    rw [hsplit]
    exact List.forall_mem_append.mpr
      ⟨f.comment.renderError?_of_mem_statements, Body.renderError?_of_mem_statements _⟩
  have hrefs : ∀ s ∈ f.declaration heading.statement, ∀ t ∈ s.refs, t.isPlain = true := by
    rw [hsplit]
    refine List.forall_mem_append.mpr ⟨fun s hs t ht => ?_, Body.isPlain_of_mem_statements _⟩
    rw [Comment.refs_of_mem_statements hs] at ht
    exact absurd ht List.not_mem_nil
  have hpage (indent : Indent) (name : TypeRef → String) :
      Page.text indent 0 name (f.declaration heading.statement) =
        f.treeText (heading.statement.text name) b indent name := by
    have hcomment : Layout.netShift f.comment.statements = 0 :=
      Page.netShift_of_level f.comment.before_after_of_mem_statements
    have htext : Page.text indent 0 name f.comment.statements = f.comment.printed indent 0 :=
      Comment.text_statements indent 0 name f.comment
    rw [hsplit, Page.text_append, htext, hcomment, ← text_block hplain heading]
    exact congrArg _ (Body.text_statements indent name _ 0)
  have hprints := Writer.printsAs_page hleads hrenders hrefs
  simpa only [hpage] using hprints

end Declaration

/-- What stands before the signature of a function. -/
def keyword : Heading where
  statement := { template := "func " }
  before_eq := rfl
  renders := renderError?_keyword
  plain := by simp [Statement.refs]

end Func

/-- What stands before the signature of a method. -/
def Method.heading (m : Method) (hplain : m.receiver.isPlain = true) : Heading where
  statement := m.header
  before_eq := rfl
  renders := m.renderError?_header
  plain := List.forall_mem_singleton.mpr hplain

theorem Method.text_header (m : Method) (name : TypeRef → String) :
    m.header.text name = "func (" ++ m.receiverName ++ " " ++ name m.receiver ++ ") " := by
  have htemplate : "func ($L $T) ".toList = "func (".toList ++ "$L $T) ".toList := by decide
  rw [header, Statement.text, htemplate, Template.substitute_append_of_notMem name (by decide),
    String.ofList_toList]
  simp [Template.substitute, String.append_assoc]

/-- **Nested blocks are printed as the tree they were built from.**  Take a function or a method
without a body, and walk through a tree, in the steps that change the body; other steps may be taken
on the way.  If the types of the signature are built from names, pointers, slices and maps, as those
of the tree are, the result is printed.  Its text is the comment, the line with the signature, the
text of the tree from level one on, and a closing brace. -/
theorem body_printed_as_tree (b : Body) (steps : List Func.Step)
    (hsteps : steps.filter Func.Step.isOfBody = b.steps) :
    (∀ f : Func, f.body = [] →
      (∀ p ∈ (f.applyAll steps).params ++ (f.applyAll steps).results, p.type.isPlain = true) →
      Writer.PrintsAs (f.applyAll steps).statements fun indent name =>
        (f.applyAll steps).treeText "func " b indent name) ∧
    ∀ m : Method, m.func.body = [] → m.receiver.isPlain = true →
      (∀ p ∈ (m.applyAll steps).func.params ++ (m.applyAll steps).func.results,
        p.type.isPlain = true) →
      Writer.PrintsAs (m.applyAll steps).statements fun indent name =>
        (m.applyAll steps).func.treeText
          ("func (" ++ m.receiverName ++ " " ++ name m.receiver ++ ") ") b indent name := by
  constructor
  · intro f hf hplain
    have hprints := Func.printsAs_declaration hplain (Func.body_of_walk hsteps hf) Func.keyword
    have hkeyword (name : TypeRef → String) : Func.keyword.statement.text name = "func " :=
      Statement.text_of_notMem name (by decide) 0 0
    simp only [hkeyword] at hprints
    exact hprints
  · intro m hm hreceiver hplain
    rw [Method.applyAll_eq] at hplain ⊢
    have hprints := Func.printsAs_declaration hplain (Func.body_of_walk hsteps hm)
      (m.heading hreceiver)
    have hheader (name : TypeRef → String) : (m.heading hreceiver).statement.text name =
        "func (" ++ m.receiverName ++ " " ++ name m.receiver ++ ") " := m.text_header name
    simp only [hheader] at hprints
    exact hprints

/-- A pointer to a type of another package, so that the text depends on the names of packages. -/
def importedPointer : TypeRef :=
  .pointer (.named ⟨some ⟨"river/mill", none, by decide +kernel⟩, "Stone", by decide +kernel⟩)

/-- A line, a block with an empty line and an empty block in it, and a block without a header.  One
of the headers asks for a step. -/
def nestedBody : Body :=
  .line ⟨⟨{ template := "var s $T", args := [.type importedPointer] }, rfl, by decide +kernel,
      by decide +kernel⟩, rfl⟩
    (.block ⟨{ template := "for $L", args := [.literal "grain"], after := 3 }, rfl,
        by decide +kernel, by decide +kernel⟩
      (.line ⟨⟨.blank, rfl, by decide +kernel, by decide +kernel⟩, rfl⟩
        (.block ⟨{ template := "if s.Turn()" }, rfl, by decide +kernel, by decide +kernel⟩
          .done .done))
      (.block ⟨.blank, rfl, by decide +kernel, by decide +kernel⟩
        (.line ⟨⟨{ template := "s.Rest()" }, rfl, by decide +kernel, by decide +kernel⟩, rfl⟩ .done)
        .done))

/-- A walk through `nestedBody`, with the signature given before and after it. -/
def scatteredSteps : List Func.Step :=
  .param "grain" (.named (.builtin .bool)) :: nestedBody.steps ++
    [.result "" (.slice importedPointer), .comment "Mill mills."]

theorem scatteredSteps_printed :
    Writer.renderBlock (Func.applyAll { name := "Mill" } scatteredSteps).statements =
      .ok ("// Mill mills.\nfunc Mill(grain bool) []*mill.Stone \x7b\n\tvar s *mill.Stone\n" ++
        "\tfor grain \x7b\n\n\t\tif s.Turn() \x7b\n\t\t\x7d\n\t\x7d\n" ++
        "\t \x7b\n\t\ts.Rest()\n\t\x7d\n\x7d\n") ∧
    Writer.PrintsAs (Func.applyAll { name := "Mill" } scatteredSteps).statements (fun indent name =>
      (Func.applyAll { name := "Mill" } scatteredSteps).treeText "func " nestedBody indent name) ∧
    Writer.PrintsAs ((Method.ofName "Mill" "s" importedPointer).applyAll scatteredSteps).statements
      fun indent name =>
        ((Method.ofName "Mill" "s" importedPointer).applyAll scatteredSteps).func.treeText
          ("func (" ++ "s" ++ " " ++ name importedPointer ++ ") ") nestedBody indent name := by
  have hsteps : scatteredSteps.filter Func.Step.isOfBody = nestedBody.steps := by decide +kernel
  have hprinted := body_printed_as_tree nestedBody scatteredSteps hsteps
  refine ⟨by decide +kernel, hprinted.1 { name := "Mill" } rfl (by decide +kernel), ?_⟩
  exact hprinted.2 (Method.ofName "Mill" "s" importedPointer) rfl (by decide +kernel)
    (by decide +kernel)

end SourcePress
