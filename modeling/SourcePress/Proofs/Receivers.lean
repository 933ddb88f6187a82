import SourcePress.Proofs.BlockTree
import SourcePress.Proofs.CommentLines

/-!
# A method is a function with a receiver

Functions and methods are built by the same steps, and their declarations differ in one statement:
the header of a method has a template of its own, with two arguments in front of those of the
signature.  So printing them takes two different runs of the writer.  A difference on the line of
the header could show anywhere below it: in the positions that errors report, in the indentation, or
in the tokens of packages.

It does not.  The writer never looks at what it has written (`Writer.writeFrom_behind`): with other
text in front, the same statements fail in the same place, or are written behind that text.  What
else a header could change is the registry, and it does not if the receiver's type needs no
packages.  So what follows is the same for all such headers (`Func.renderBlock_declaration`), and
the text of a method is that of its function with the receiver put in behind the keyword, on the
first line below the comment (`Method.prints_func_with_receiver`).
-/

namespace SourcePress

/-! ## Inserting into a line -/

namespace Text

/-- Put `inserted` behind the first `column` characters of a line of the text.  Lines are counted
from zero. -/
def insertInLine (column : Nat) (inserted : List Char) : (line : Nat) → List Char → List Char
  | 0, cs => cs.take column ++ inserted ++ cs.drop column
  | _ + 1, [] => []
  | line + 1, c :: rest =>
    c :: insertInLine column inserted (if c = '\n' then line else line + 1) rest

theorem insertInLine_succ (column : Nat) (inserted : List Char) (line : Nat) {l : List Char}
    (h : '\n' ∉ l) (rest : List Char) :
    insertInLine column inserted (line + 1) (l ++ '\n' :: rest) =
      l ++ '\n' :: insertInLine column inserted line rest := by
  induction l with
  | nil => rw [List.nil_append, insertInLine, if_pos rfl, List.nil_append]
  | cons c cs ih =>
    rw [List.mem_cons, not_or] at h
    rw [List.cons_append, insertInLine, if_neg (Ne.symm h.1), ih h.2, List.cons_append]

/-- **Inserting below some lines** leaves these lines as they are. -/
theorem insertInLine_length (inserted : List Char) {ls : List (List Char)}
    (h : ∀ l ∈ ls, '\n' ∉ l) (front rest : List Char) :
    insertInLine front.length inserted ls.length (ls.flatMap (· ++ ['\n']) ++ (front ++ rest)) =
      ls.flatMap (· ++ ['\n']) ++ (front ++ (inserted ++ rest)) := by
  induction ls with
  | nil =>
    rw [List.flatMap_nil, List.nil_append, List.nil_append, List.length_nil, insertInLine,
      List.take_left, List.drop_left, List.append_assoc]
  | cons l more ih =>
    obtain ⟨hl, hmore⟩ := List.forall_mem_cons.mp h
    rw [List.flatMap_cons, List.append_assoc, List.append_assoc, List.singleton_append,
      List.length_cons, insertInLine_succ _ _ _ hl, ih hmore, List.append_assoc, List.append_assoc,
      List.singleton_append]

/-- What has no separator in it stays at the beginning of the first segment. -/
theorem exists_segments_append {sep : Char} {front : List Char} (h : sep ∉ front)
    (cs : List Char) :
    ∃ rest more, segments sep (front ++ cs) = (front ++ rest) :: more := by
  induction front with
  | nil => exact List.exists_cons_of_ne_nil (segments_ne_nil sep cs)
  | cons c front ih =>
    rw [List.mem_cons, not_or] at h
    obtain ⟨rest, more, hrest⟩ := ih h.2
    exact ⟨rest, more, segments_cons_of_ne (Ne.symm h.1) hrest⟩

end Text

/-! ## Text in front of the writer's -/

namespace Writer

/-- The writer with more text in front of its own. -/
def behind (front : String) (w : Writer) : Writer := { w with buffer := front ++ w.buffer }

/-- **One statement.**  Whether and how it is written does not depend on the text so far. -/
theorem writeStatement_behind (front : String) (s : Statement) (w : Writer) :
    writeStatement s (w.behind front) =
      match writeStatement s w with
      | .error e v => .error e (v.behind front)
      | .ok () v => .ok () (v.behind front) := by
  cases hstep : Layout.step w.depth s with
  | error e =>
    have hstep' : Layout.step (w.behind front).depth s = .error e := hstep
    rw [writeStatement_of_step_error hstep, writeStatement_of_step_error hstep']
  | ok reached =>
    obtain ⟨level, next⟩ := reached
    have hstep' : Layout.step (w.behind front).depth s = .ok (level, next) := hstep
    cases hpieces : Template.pieces s.template s.args with
    | error fault =>
      rw [writeStatement_of_fault hstep hpieces, writeStatement_of_fault hstep' hpieces]
    | ok ps =>
      rw [writeStatement_of_pieces hstep hpieces, writeStatement_of_pieces hstep' hpieces]
      simp only [advance, behind, String.append_assoc]

/-- **A list of statements** fails in the same place with other text in front, or is written behind
it. -/
theorem writeFrom_behind (front : String) (index : Nat) (xs : List Statement) (w : Writer) :
    writeFrom index xs (w.behind front) =
      match writeFrom index xs w with
      | .error e v => .error e (v.behind front)
      | .ok () v => .ok () (v.behind front) := by
  induction xs generalizing index w with
  | nil => rfl
  | cons s rest ih =>
    rw [writeFrom]
    dsimp only
    rw [writeStatement_behind]
    cases writeStatement s w with
    | error e v => rfl
    | ok u v => exact ih (index + 1) v

/-- A statement that renders, and opens a block, at the outermost level. -/
theorem writeStatement_opening {s : Statement} (hs : s.renderError? = none) (hbefore : s.before = 0)
    (hafter : s.after = 1) {w : Writer} (hdepth : w.depth = 0) :
    writeStatement s w = .ok () { w with
      depth := 1
      buffer := w.buffer ++ (s.text (TypeRef.text (w.registry.registerAll s.needs)) ++ "\n")
      registry := w.registry.registerAll s.needs
      written := w.written + 1 } := by
  obtain ⟨ps, hpieces⟩ := Statement.renderError?_eq_none_iff.mp hs
  have hstep : Layout.step w.depth s = .ok (0, 1) :=
    Layout.step_eq_ok_iff.mpr ⟨by rw [hdepth, hbefore]; rfl, by rw [hafter]; rfl⟩
  have hregistry : (w.advance 0 1 ps).registry = w.registry.registerAll s.needs :=
    registry_advance hpieces
  have hbuffer : (w.advance 0 1 ps).buffer = w.buffer ++ (Page.line w.indent (0 : Nat)
      (s.text (TypeRef.text (w.advance 0 1 ps).registry)) ++ "\n") := buffer_advance hpieces
  rw [hregistry, Int.natCast_zero, Page.line_zero] at hbuffer
  rw [writeStatement_of_pieces hstep hpieces, ← hbuffer, ← hregistry]
  rfl

end Writer

/-! ## What follows the header -/

namespace Func

open Writer (renderBlock writeFrom)

/-- The registry once the packages of the signature are registered. -/
def signatureRegistry (f : Func) : Registry := Registry.registerAll {} f.signatureImports.toList

/-- The writer below the line of the signature, without the text that it has written. -/
def writerBelow (f : Func) : Writer :=
  { depth := 1, registry := f.signatureRegistry, written := f.comment.lines.length + 1 }

/-- The text behind the header: the signature, and the body as it is written from there on. -/
def behindHeader (f : Func) : Except Error String :=
  match writeFrom (f.comment.lines.length + 1) (f.body ++ [Statement.closing "\x7d"])
      f.writerBelow with
  | .error e _ => .error e
  | .ok () w => .ok (f.signatureText (TypeRef.text f.signatureRegistry) ++ " \x7b\n" ++ w.buffer)

section FirstLine

variable (f : Func) {header : Statement}

theorem text_firstLine (hrenders : header.renderError? = none) (name : TypeRef → String) :
    (header ++ f.signature ++ Statement.opening " \x7b").text name =
      header.text name ++ f.signatureText name ++ " \x7b" := by
  rw [Statement.text_append (Statement.renderError?_append hrenders f.renderError?_signature),
    Statement.text_append hrenders, text_signature]
  exact congrArg _ (Statement.text_of_notMem name (by decide) 0 1)

theorem needs_firstLine (hneeds : header.needs = []) :
    (header ++ f.signature ++ Statement.opening " \x7b").needs = f.signature.needs := by
  have hheader : header.refs.flatMap (fun t => t.imports.toList) = [] := hneeds
  have hbrace : (Statement.opening " \x7b").refs = [] := rfl
  rw [Statement.needs, Statement.refs_append, Statement.refs_append, hbrace, List.append_nil,
    List.flatMap_append, hheader, List.nil_append, Statement.needs]

variable (hbefore : header.before = 0) (hrenders : header.renderError? = none)
  (hneeds : header.needs = [])

include hbefore hrenders hneeds

/-- The comment and the line of the header are written whatever they are. -/
theorem writeFrom_firstLine (tail : List Statement) :
    writeFrom 0 (f.comment.statements ++
        (header ++ f.signature ++ Statement.opening " \x7b") :: tail) {} =
      writeFrom (f.comment.lines.length + 1) tail (f.writerBelow.behind
        (f.comment.printed .tab 0 ++ header.text (TypeRef.text f.signatureRegistry) ++
          (f.signatureText (TypeRef.text f.signatureRegistry) ++ " \x7b\n"))) := by
  have hregistry : Registry.registerAll {} f.signature.needs = f.signatureRegistry :=
    f.registerAll_signatureImports {}
  have hcomment : writeFrom 0 f.comment.statements {} = .ok () { ({} : Writer) with
      buffer := "" ++ f.comment.printed .tab 0
      written := 0 + f.comment.lines.length } :=
    Comment.writeFrom_of_mem_lines 0 (fun _ hl => hl) {}
  have hlength : f.comment.statements.length = f.comment.lines.length := List.length_map _
  rw [Writer.writeFrom_append, hcomment]
  dsimp only
  -- the comment has changed neither the depth nor the registry
  rw [writeFrom]
  dsimp only
  rw [Writer.writeStatement_opening (f.renderError?_firstLine hrenders) hbefore rfl rfl]
  dsimp only
  rw [f.needs_firstLine hneeds, hregistry, f.text_firstLine hrenders, hlength, Nat.zero_add]
  have hnewline : " \x7b\n" = " \x7b" ++ "\n" := rfl
  simp only [Writer.behind, writerBelow, hnewline, String.empty_append, String.append_empty,
    String.append_assoc]

/-- **Functions and methods alike.**  Behind a header that needs no packages, the text does not
depend on the header, and neither does the error. -/
theorem renderBlock_declaration :
    renderBlock (f.declaration header) = f.behindHeader.map
      (f.comment.printed .tab 0 ++ header.text (TypeRef.text f.signatureRegistry) ++ ·) := by
  rw [declaration, List.append_assoc, List.cons_append, renderBlock, Writer.writeBlock,
    f.writeFrom_firstLine hbefore hrenders hneeds, Writer.writeFrom_behind, behindHeader]
  cases writeFrom (f.comment.lines.length + 1) (f.body ++ [Statement.closing "\x7d"])
      f.writerBelow with
  | error e w => rfl
  | ok u w => exact congrArg Except.ok (String.append_assoc ..)

end FirstLine

end Func

/-! ## Putting the receiver in -/

/-- A reference that is built from names, pointers, slices and maps, and needs no packages, is
printed alike under all registries. -/
theorem TypeRef.text_eq_of_imports_eq_nil {t : TypeRef} (ht : t.isPlain = true)
    (himports : t.imports.toList = []) (r r' : Registry) : t.text r = t.text r' := by
  rw [text_eq_spell, text_eq_spell]
  refine spell_congr fun m hm => ?_
  have hpath : m.1 ∈ t.imports.paths := (mem_paths_imports_iff ht).mpr ⟨m.2, hm⟩
  rw [ImportSet.paths, himports] at hpath
  exact absurd hpath List.not_mem_nil

namespace Comment

/-- What is put into the first line below a comment. -/
theorem insertInLine_printed (c : Comment) (front inserted rest : String) :
    String.ofList (Text.insertInLine front.length inserted.toList c.lines.length
      (c.printed .tab 0 ++ front ++ rest).toList) =
      c.printed .tab 0 ++ (front ++ inserted) ++ rest := by
  have hlength : c.lines.length = (c.printedLines .tab 0).length := (List.length_map _).symm
  have hinsert := Text.insertInLine_length inserted.toList
    (c.newline_notMem_of_mem_printedLines .tab 0) front.toList rest.toList
  rw [← String.toList_inj, String.toList_ofList, String.toList_append, String.toList_append,
    String.toList_append, String.toList_append, String.toList_append, toList_printed, hlength,
    ← String.length_toList, List.append_assoc, hinsert, List.append_assoc, List.append_assoc]

end Comment

open Writer (renderBlock)

theorem Func.renderBlock_statements (f : Func) :
    renderBlock f.statements =
      f.behindHeader.map (f.comment.printed .tab 0 ++ "func " ++ ·) := by
  have hkeyword : ({ template := "func " } : Statement).text (TypeRef.text f.signatureRegistry) =
      "func " := Statement.text_of_notMem _ (by decide) 0 0
  have hprinted := f.renderBlock_declaration rfl renderError?_keyword rfl
  rw [hkeyword] at hprinted
  exact hprinted

/-- The keyword stands at the beginning of the first line below the comment. -/
theorem Func.exists_segments_of_renderBlock {f : Func} {text : String}
    (h : renderBlock f.statements = .ok text) :
    ∃ rest below, Text.segments '\n' text.toList =
      f.comment.printedLines .tab 0 ++ ("func ".toList ++ rest) :: below := by
  rw [f.renderBlock_statements] at h
  cases hbelow : f.behindHeader with
  | error e =>
    rw [hbelow] at h
    cases h
  | ok below =>
    rw [hbelow] at h
    injection h with h
    obtain ⟨rest, more, hrest⟩ := Text.exists_segments_append
      (by decide : '\n' ∉ "func ".toList) below.toList
    refine ⟨rest, more, ?_⟩
    rw [← h, String.toList_append, String.toList_append, List.append_assoc,
      Comment.toList_printed,
      Text.segments_terminated (f.comment.newline_notMem_of_mem_printedLines .tab 0), hrest]

namespace Method

/-- The receiver in parentheses, with the blank behind it.  Its type is called as it is once the
packages of the signature are registered. -/
def receiverText (m : Method) : String :=
  "(" ++ m.receiverName ++ " " ++ m.receiver.text m.func.signatureRegistry ++ ") "

theorem needs_header {m : Method} (h : m.receiver.imports.toList = []) : m.header.needs = [] := by
  have hrefs : m.header.refs = [m.receiver] := rfl
  rw [Statement.needs, hrefs, List.flatMap_singleton, h]

theorem renderBlock_statements {m : Method} (h : m.receiver.imports.toList = []) :
    renderBlock m.statements = m.func.behindHeader.map
      (m.func.comment.printed .tab 0 ++ ("func " ++ m.receiverText) ++ ·) := by
  have hheader : m.header.text (TypeRef.text m.func.signatureRegistry) =
      "func " ++ m.receiverText := by
    have hparen : "func (" = "func " ++ "(" := rfl
    rw [text_header, hparen, receiverText]
    simp only [String.append_assoc]
  rw [← hheader]
  exact m.func.renderBlock_declaration rfl m.renderError?_header (needs_header h)

/-- **A method is its function with a receiver.**  Taking steps on a method without a body gives the
method of the function that the same steps give.  If the type of the receiver needs no packages, the
method is printed exactly when the function is, and fails with the same error otherwise.  Its text
is that of the function with the receiver put in behind the keyword, on the first line below the
comment.  The type is called as it is once the packages of the signature are registered; for names,
pointers, slices and maps this is what it is always called. -/
theorem prints_func_with_receiver (name receiverName : String) (receiver : TypeRef)
    (steps : List Func.Step) :
    let f := Func.applyAll { name } steps
    let m := (ofName name receiverName receiver).applyAll steps
    m = ⟨f, receiverName, receiver⟩ ∧
      (receiver.imports.toList = [] →
        let inserted := "(" ++ receiverName ++ " " ++ receiver.text f.signatureRegistry ++ ") "
        renderBlock m.statements =
            (renderBlock f.statements).map (fun text => String.ofList
              (Text.insertInLine "func ".length inserted.toList f.comment.lines.length
                text.toList)) ∧
          (∀ text, renderBlock f.statements = .ok text →
            ∃ rest below, Text.segments '\n' text.toList =
              f.comment.printedLines .tab 0 ++ ("func ".toList ++ rest) :: below) ∧
          (receiver.isPlain = true →
            ∀ r, receiver.text r = receiver.text f.signatureRegistry)) := by
  intro f m
  have hm : m = ⟨f, receiverName, receiver⟩ := applyAll_eq _ steps
  refine ⟨hm, fun himports => ?_⟩
  intro inserted
  refine ⟨?_, fun text htext => Func.exists_segments_of_renderBlock htext,
    fun hplain r => TypeRef.text_eq_of_imports_eq_nil hplain himports r _⟩
  have hmethod : renderBlock m.statements =
      f.behindHeader.map (f.comment.printed .tab 0 ++ ("func " ++ inserted) ++ ·) := by
    rw [hm]
    exact renderBlock_statements himports
  rw [hmethod, f.renderBlock_statements]
  cases f.behindHeader with
  | error e => simp only [Except.map]
  | ok rest => simp only [Except.map, Comment.insertInLine_printed]

/-- A signature that needs a package, below a comment of two lines. -/
def commentedSteps : List Func.Step :=
  [.comment "Draw draws\nfunc by func.",
   .param "nib" (.pointer (.named ⟨some ⟨"ink/pen", none, by decide +kernel⟩, "Nib",
    by decide +kernel⟩)),
   .blockStart { template := "for $L", args := [.literal "nib.Wet()"] },
   .blockEnd]

/-- The same steps with one block closed too often. -/
def overclosedSteps : List Func.Step := commentedSteps ++ [.blockEnd]

/-- A type of the same package, which does not ask for the package. -/
def silentReceiver : TypeRef := .described "ink/pen" "Sheet" .empty

theorem commentedSteps_with_receiver :
    silentReceiver.imports.toList = [] ∧
      renderBlock ((ofName "Draw" "s" silentReceiver).applyAll commentedSteps).statements =
        .ok ("// Draw draws\n// func by func.\n" ++
          "func (s pen.Sheet) Draw(nib *pen.Nib) \x7b\n\tfor nib.Wet() \x7b\n\t\x7d\n\x7d\n") ∧
      renderBlock ((ofName "Draw" "s" silentReceiver).applyAll overclosedSteps).statements =
        .error (.statement 6 (.indentUnderflow 0 (-1))) := by
  have himports : silentReceiver.imports.toList = [] := rfl
  have hprinted := prints_func_with_receiver "Draw" "s" silentReceiver commentedSteps
  have hfails := prints_func_with_receiver "Draw" "s" silentReceiver overclosedSteps
  exact ⟨himports, (hprinted.2 himports).1.trans (by decide +kernel),
    (hfails.2 himports).1.trans (by decide +kernel)⟩

end Method

end SourcePress
