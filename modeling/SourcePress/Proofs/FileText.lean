import SourcePress.Proofs.ImportTable
import SourcePress.Proofs.Page
import SourcePress.Proofs.Separation

/-!
# The text of a source file

A file is printed in two passes by two writers.  The first prints the declarations and finds out
which packages they need; the second prints the header, from a sorted table of these packages.  Each
pass is a list of statements that is written from an empty buffer, so its text is a page.  This file
says what the two pages are in plain words: the header has the comment, the package clause and the
imports (`header_eq`), and the body is the page of the declarations with one blank line between two
of them (`renderBody_eq`).

Put together this shows that the import section is right (`render_imports_sound`).  The names in the
body can be read off the import section alone, although the body was printed before the section was
known: the table is that of the writer's last registry, and a page does not depend on any other.
-/

namespace SourcePress

/-! ## Pages at one level -/

namespace Page

@[simp] theorem line_zero (indent : Indent) (code : String) : line indent 0 code = code := by
  by_cases h : code = ""
  · simp [line, h]
  · simp [line, h]

theorem line_one {code : String} (indent : Indent) (h : code ≠ "") :
    line indent 1 code = indent.unit ++ code := by
  simp [line, h]

/-- Statements without steps all stand at the same level. -/
theorem text_of_level (indent : Indent) (depth : Int) (name : TypeRef → String)
    {xs : List Statement} (h : ∀ s ∈ xs, s.before = 0 ∧ s.after = 0) :
    text indent depth name xs = String.join (xs.map fun s =>
      line indent depth (Template.substitute name s.template.toList s.args) ++ "\n") := by
  induction xs with
  | nil => simp
  | cons s rest ih =>
    obtain ⟨⟨hbefore, hafter⟩, hrest⟩ := List.forall_mem_cons.mp h
    rw [text_cons, hbefore, hafter, Int.add_zero, Int.add_zero, ih hrest, List.map_cons,
      String.join_cons]

theorem netShift_of_level {xs : List Statement} (h : ∀ s ∈ xs, s.before = 0 ∧ s.after = 0) :
    Layout.netShift xs = 0 := by
  induction xs with
  | nil => rfl
  | cons s rest ih =>
    obtain ⟨⟨hbefore, hafter⟩, hrest⟩ := List.forall_mem_cons.mp h
    rw [Layout.netShift_cons, hbefore, hafter, ih hrest]
    rfl

theorem text_blank_cons (indent : Indent) (depth : Int) (name : TypeRef → String)
    (rest : List Statement) :
    text indent depth name (.blank :: rest) = "\n" ++ text indent depth name rest := by
  have hblank : Template.substitute name "".toList [] = "" :=
    Template.substitute_text name (by decide)
  rw [text_cons, Statement.blank, hblank, Int.add_zero, Int.add_zero]
  rfl

theorem text_literal_cons (indent : Indent) (depth : Int) (name : TypeRef → String)
    (front s : String) (h : '$' ∉ front.toList) (rest : List Statement) :
    text indent depth name ({ template := front ++ "$L", args := [.literal s] } :: rest) =
      line indent depth (front ++ s) ++ "\n" ++ text indent depth name rest := by
  rw [text_cons, Template.substitute_literal name front h s, Int.add_zero, Int.add_zero]

theorem text_opening_cons (indent : Indent) (depth : Int) (name : TypeRef → String)
    {code : String} (h : '$' ∉ code.toList) (rest : List Statement) :
    text indent depth name (.opening code :: rest) =
      line indent depth code ++ "\n" ++ text indent (depth + 1) name rest := by
  rw [text_cons, Statement.opening, Template.substitute_text name h, Int.add_zero]

theorem text_closing_cons (indent : Indent) (depth : Int) (name : TypeRef → String)
    {code : String} (h : '$' ∉ code.toList) (rest : List Statement) :
    text indent depth name (.closing code :: rest) =
      line indent (depth + -1) code ++ "\n" ++ text indent (depth + -1) name rest := by
  rw [text_cons, Statement.closing, Template.substitute_text name h, Int.add_zero]

end Page

/-! ## The header -/

namespace Comment

/-- A line behind two slashes, with a blank between unless it is empty. -/
def marked (line : String) : String := if line = "" then "//" else "// " ++ line

theorem slashes_marked (line : String) : ∃ rest, marked line = "//" ++ rest := by
  by_cases hline : line = ""
  · exact ⟨"", by rw [marked, if_pos hline, String.append_empty]⟩
  · refine ⟨" " ++ line, ?_⟩
    rw [marked, if_neg hline, ← String.append_assoc]
    rfl

theorem marked_ne_empty (line : String) : marked line ≠ "" := by
  obtain ⟨rest, hrest⟩ := slashes_marked line
  rw [hrest]
  intro h
  have hlist := congrArg String.toList h
  rw [String.toList_append] at hlist
  cases hlist

/-- The text of a comment at a depth. -/
def printed (c : Comment) (indent : Indent) (depth : Nat) : String :=
  String.join (c.lines.map fun l => indent.margin depth ++ marked l ++ "\n")

theorem before_after_of_mem_statements (c : Comment) :
    ∀ s ∈ c.statements, s.before = 0 ∧ s.after = 0 := by
  intro s hs
  obtain ⟨l, -, rfl⟩ := List.mem_map.mp hs
  unfold lineStatement
  split <;> exact ⟨rfl, rfl⟩

theorem substitute_lineStatement (name : TypeRef → String) (l : String) :
    Template.substitute name (lineStatement l).template.toList (lineStatement l).args =
      marked l := by
  unfold lineStatement marked
  by_cases hl : l = ""
  · rw [if_pos (by simp [hl]), if_pos hl]
    exact Template.substitute_text name (by decide)
  · rw [if_neg (by simpa using hl), if_neg hl]
    exact Template.substitute_literal name "// " (by decide) l

/-- No line of a comment is empty, so each has the margin in front. -/
theorem line_marked (indent : Indent) (depth : Nat) (l : String) :
    Page.line indent depth (marked l) = indent.margin depth ++ marked l := by
  rw [← Page.line_eq, Writer.line, if_neg (by simpa using marked_ne_empty l)]

theorem text_statements (indent : Indent) (depth : Nat) (name : TypeRef → String) (c : Comment) :
    Page.text indent depth name c.statements = c.printed indent depth := by
  rw [Page.text_of_level indent depth name c.before_after_of_mem_statements, statements,
    List.map_map, printed]
  refine congrArg String.join (List.map_congr_left fun l _ => ?_)
  rw [Function.comp_apply, substitute_lineStatement, line_marked]

end Comment

namespace ImportEntry

/-- The text of an import section, with the blank line above it: nothing, one line, or the entries
between parentheses, indented by one unit. -/
def sectionText (indent : Indent) : List ImportEntry → String
  | [] => ""
  | [only] => "\nimport " ++ only.line ++ "\n"
  | entries =>
    "\nimport (\n" ++ String.join (entries.map fun e => indent.unit ++ e.line ++ "\n") ++ ")\n"

end ImportEntry

namespace SourceFile

theorem importSection_cons_cons (i j : Import) (rest : List Import) :
    importSection (i :: j :: rest) =
      .blank :: .opening "import (" :: ((i :: j :: rest).map fun i =>
        { template := "$L", args := [.literal (importLine i)] }) ++ [.closing ")"] := rfl

/-- The page of the entries of an import section, one level in. -/
theorem text_importLines (indent : Indent) (name : TypeRef → String) {imports : List Import}
    (h : ∀ i ∈ imports, i.asName ≠ some i.defaultToken) :
    Page.text indent 1 name
        (imports.map fun i => { template := "$L", args := [.literal (importLine i)] }) =
      String.join ((imports.map ImportEntry.ofImport).map fun e =>
        indent.unit ++ e.line ++ "\n") := by
  rw [Page.text_of_level indent 1 name (by simp), List.map_map, List.map_map]
  refine congrArg String.join (List.map_congr_left fun i hi => ?_)
  have hline := ImportEntry.importLine_eq_line (h i hi)
  have hsub : Template.substitute name "$L".toList [.literal (importLine i)] = importLine i :=
    Template.substitute_literal name "" (by decide) (importLine i)
  rw [Function.comp_apply, Function.comp_apply, hsub, hline,
    Page.line_one indent (ImportEntry.line_ne_empty _)]

/-- The page of the import section, for imports that do not ask for the names they have anyway. -/
theorem text_importSection (indent : Indent) (name : TypeRef → String) {imports : List Import}
    (h : ∀ i ∈ imports, i.asName ≠ some i.defaultToken) :
    Page.text indent 0 name (importSection imports) =
      ImportEntry.sectionText indent (imports.map ImportEntry.ofImport) := by
  match imports, h with
  | [], _ => exact Page.text_nil indent 0 name
  | [only], h =>
    have hline := ImportEntry.importLine_eq_line (h only (List.mem_singleton.mpr rfl))
    have hsplit : "import $L" = "import " ++ "$L" := rfl
    rw [importSection, Page.text_blank_cons, hsplit, Page.text_literal_cons _ _ _ _ _ (by decide),
      Page.text_nil, Page.line_zero, hline, String.append_empty]
    rfl
  | i :: j :: rest, h =>
    have hentries := text_importLines indent name h
    have hlevel : Layout.netShift ((i :: j :: rest).map fun i =>
        ({ template := "$L", args := [.literal (importLine i)] } : Statement)) = 0 :=
      Page.netShift_of_level (by simp)
    have hsection : ImportEntry.sectionText indent ((i :: j :: rest).map ImportEntry.ofImport) =
        "\nimport (\n" ++ String.join (((i :: j :: rest).map ImportEntry.ofImport).map fun e =>
          indent.unit ++ e.line ++ "\n") ++ ")\n" := rfl
    have hopen : "\nimport (\n" = "\n" ++ ("import (" ++ "\n") := rfl
    have hclose : ")\n" = ")" ++ "\n" := rfl
    rw [importSection_cons_cons, List.cons_append, List.cons_append, Page.text_blank_cons,
      Page.text_opening_cons _ _ _ (by decide), Page.text_append, Int.zero_add, hentries, hlevel,
      Int.add_zero, Page.text_closing_cons _ _ _ (by decide), Page.text_nil, Int.add_right_neg,
      Page.line_zero, Page.line_zero, String.append_empty, hsection, hopen, hclose]
    simp only [String.append_assoc]

/-- The statements of the header. -/
def headerStatements (f : SourceFile) (imports : List Import) : List Statement :=
  f.comment.statements ++
    { template := "package $L", args := [.literal f.package] } :: importSection imports

/-- Nothing in a header refers to a type. -/
theorem refs_of_mem_headerStatements {f : SourceFile} {imports : List Import} {s : Statement}
    (hs : s ∈ f.headerStatements imports) : s.refs = [] := by
  rw [headerStatements, List.mem_append, List.mem_cons] at hs
  rcases hs with hs | rfl | hs
  · exact Comment.refs_of_mem_statements hs
  · rfl
  · match imports, hs with
    | [], hs => cases hs
    | [only], hs =>
      simp only [importSection, List.mem_cons, List.not_mem_nil, or_false] at hs
      rcases hs with rfl | rfl <;> rfl
    | i :: j :: rest, hs =>
      rw [importSection_cons_cons, List.mem_append, List.mem_cons, List.mem_cons,
        List.mem_singleton, List.mem_map] at hs
      rcases hs with (rfl | rfl | ⟨k, -, rfl⟩) | rfl <;> rfl

theorem writeFrom_of_writeHeader {f : SourceFile} {imports : List Import} {w w' : Writer}
    (h : f.writeHeader imports w = .ok () w') :
    Writer.writeFrom 0 (f.headerStatements imports) w = .ok () w' := by
  obtain ⟨_, v, hcomment, h⟩ := Writer.exists_of_bind_eq_ok h
  obtain ⟨_, v', hpackage, h⟩ := Writer.exists_of_bind_eq_ok h
  refine Writer.writeFrom_append_eq_ok_iff.mpr ⟨v, hcomment, ?_⟩
  exact Writer.writeFrom_cons_eq_ok_iff.mpr ⟨v', hpackage, Writer.writeFrom_of_forM h⟩

/-- **The text of a header**: the comment, the package clause, and the import section. -/
theorem header_eq {f : SourceFile} {imports : List Import} {text : String}
    (himports : ∀ i ∈ imports, i.asName ≠ some i.defaultToken)
    (h : f.header imports = .ok text) :
    text = f.comment.printed f.indent 0 ++ "package " ++ f.package ++ "\n" ++
      ImportEntry.sectionText f.indent (imports.map ImportEntry.ofImport) := by
  unfold header at h
  split at h
  · cases h
  · next w hw =>
    injection h with h
    have hbuffer := Writer.buffer_eq_of_writeFrom (fun s hs t ht => by
      rw [refs_of_mem_headerStatements hs] at ht
      cases ht) (writeFrom_of_writeHeader hw)
    have hlevel : Layout.netShift f.comment.statements = 0 :=
      Page.netShift_of_level f.comment.before_after_of_mem_statements
    have hcomment (name : TypeRef → String) :
        Page.text f.indent 0 name f.comment.statements = f.comment.printed f.indent 0 :=
      Comment.text_statements f.indent 0 name f.comment
    have hstart : (Writer.ofConfig ⟨f.indent, none⟩).buffer = "" := rfl
    have hdepth : ((Writer.ofConfig ⟨f.indent, none⟩).depth : Int) = 0 := rfl
    have hindent : (Writer.ofConfig ⟨f.indent, none⟩).indent = f.indent := rfl
    have hsplit : "package $L" = "package " ++ "$L" := rfl
    rw [← h, hbuffer, headerStatements, Page.text_append, hlevel, hsplit, hstart, hdepth, hindent,
      Int.add_zero, hcomment, Page.text_literal_cons _ _ _ _ _ (by decide),
      Page.line_zero, text_importSection _ _ himports, String.empty_append]
    simp only [String.append_assoc]

/-! ## The body -/

/-- The statements of the body: those of the declarations, with a blank line between two
declarations that have statements. -/
def bodyStatements (f : SourceFile) : List Statement :=
  separate .blank (f.declarations.map Declaration.statements)

theorem bodyStatements_eq (f : SourceFile) :
    f.bodyStatements = (f.blocks.intersperse [Statement.blank]).flatten := rfl

/-- The references among the arguments of the declarations' statements. -/
def refs (f : SourceFile) : List TypeRef :=
  (f.declarations.flatMap Declaration.statements).flatMap Statement.refs

theorem writeFrom_of_writeBlocks : ∀ {blocks : List (List Statement)} {w w' : Writer},
    writeBlocks blocks w = .ok () w' →
      Writer.writeFrom 0 (blocks.intersperse [Statement.blank]).flatten w = .ok () w'
  | [], _, _, h => h
  | [block], _, _, h => by
    rw [List.intersperse_singleton, List.flatten_singleton]
    exact h
  | block :: next :: rest, w, w', h => by
    obtain ⟨_, v, hblock, h⟩ := Writer.exists_of_bind_eq_ok h
    obtain ⟨_, v', hblank, h⟩ := Writer.exists_of_bind_eq_ok h
    have hrest := writeFrom_of_writeBlocks h
    rw [List.intersperse_cons_cons, List.flatten_cons, List.flatten_cons]
    refine Writer.writeFrom_append_eq_ok_iff.mpr ⟨v, hblock, ?_⟩
    exact Writer.writeFrom_cons_eq_ok_iff.mpr ⟨v', hblank, Writer.writeFrom_eq_ok_of_eq_ok hrest⟩

theorem exists_of_renderBody {f : SourceFile} {body : Rendered} (h : f.renderBody = .ok body) :
    ∃ w, Writer.writeFrom 0 f.bodyStatements f.bodyWriter = .ok () w ∧ body = w.finish := by
  unfold renderBody at h
  split at h
  · cases h
  · next w hw =>
    injection h with h
    rw [bodyStatements_eq]
    exact ⟨w, writeFrom_of_writeBlocks hw, h.symm⟩

/-- The body refers to the types of the declarations: the blank lines refer to none. -/
theorem flatMap_refs_bodyStatements (f : SourceFile) :
    f.bodyStatements.flatMap Statement.refs = f.refs := by
  have hblank : Statement.blank.refs = [] := rfl
  rw [bodyStatements, flatMap_separate hblank, ← List.flatMap_def, refs]

/-- The imports that the declarations ask for, in order. -/
def neededImports (f : SourceFile) : List Import := f.refs.flatMap fun t => t.imports.toList

theorem mem_neededImports_iff {f : SourceFile} {i : Import} :
    i ∈ f.neededImports ↔ ∃ t ∈ f.refs, i ∈ t.imports.toList := List.mem_flatMap

/-- The registry after the declarations. -/
def bodyRegistry (f : SourceFile) : Registry :=
  (Registry.ofHome f.importPath).registerAll f.neededImports

theorem consistent_bodyRegistry (f : SourceFile) : f.bodyRegistry.Consistent :=
  (Registry.consistent_ofHome _).registerAll _

/-- The registry has the packages that the declarations ask for, except for the file's own. -/
theorem mem_paths_bodyRegistry {f : SourceFile} {path : String} :
    path ∈ f.bodyRegistry.paths ↔
      (∃ t ∈ f.refs, path ∈ t.imports.paths) ∧ f.importPath ≠ some path := by
  have hempty : path ∉ (Registry.ofHome f.importPath).paths := nofun
  have hrefs : (∃ i ∈ f.neededImports, i.path = path) ↔
      ∃ t ∈ f.refs, path ∈ t.imports.paths := by
    simp only [mem_neededImports_iff, ImportSet.mem_paths_iff]
    constructor
    · rintro ⟨i, ⟨t, ht, hi⟩, hpath⟩
      exact ⟨t, ht, i, hi, hpath⟩
    · rintro ⟨t, ht, i, hi, hpath⟩
      exact ⟨i, ⟨t, ht, hi⟩, hpath⟩
  rw [bodyRegistry, Registry.mem_paths_registerAll, hrefs, or_iff_right hempty]
  rfl

theorem knows_bodyRegistry {f : SourceFile} {t : TypeRef} (ht : t ∈ f.refs) {path : String}
    (hpath : path ∈ t.imports.paths) : f.bodyRegistry.Knows path := by
  obtain ⟨i, hi, rfl⟩ := ImportSet.mem_paths_iff.mp hpath
  exact Registry.knows_registerAll _ (mem_neededImports_iff.mpr ⟨t, ht, hi⟩)

/-- The names of types under the registry can be read off the sorted table. -/
theorem text_bodyRegistry {f : SourceFile} {t : TypeRef} (ht : t ∈ f.refs)
    (hplain : t.isPlain = true) :
    t.text f.bodyRegistry = t.spell (ImportEntry.nameOf? f.bodyRegistry.sortedEntries) := by
  rw [TypeRef.text_eq_spell]
  refine TypeRef.spell_congr fun m hm => ?_
  -- a plain reference asks for every package that it mentions
  have hpath : m.1 ∈ t.imports.paths := (TypeRef.mem_paths_imports_iff hplain).mpr ⟨m.2, hm⟩
  exact (f.consistent_bodyRegistry.nameOf?_sortedEntries (knows_bodyRegistry ht hpath)).symm

theorem mem_refs_of_mem_bodyStatements {f : SourceFile} {s : Statement} (hs : s ∈ f.bodyStatements)
    {t : TypeRef} (ht : t ∈ s.refs) : t ∈ f.refs := by
  rw [← flatMap_refs_bodyStatements]
  exact List.mem_flatMap.mpr ⟨s, hs, ht⟩

/-- **The text of a body, and the imports that come with it.** -/
theorem renderBody_eq {f : SourceFile} {body : Rendered}
    (hplain : ∀ t ∈ f.refs, t.isPlain = true) (h : f.renderBody = .ok body) :
    body.code = Page.text f.indent 0 (TypeRef.text f.bodyRegistry) f.bodyStatements ∧
      body.imports = f.bodyRegistry.imports := by
  obtain ⟨w, hw, rfl⟩ := exists_of_renderBody h
  have hregistry : w.registry = f.bodyRegistry := by
    rw [Writer.registry_eq_of_writeFrom hw, bodyRegistry, neededImports,
      ← flatMap_refs_bodyStatements, List.flatMap_assoc]
    rfl
  have hrefs : ∀ s ∈ f.bodyStatements, ∀ t ∈ s.refs, t.isPlain = true := fun s hs t ht =>
    hplain t (mem_refs_of_mem_bodyStatements hs ht)
  have hbuffer := Writer.buffer_eq_of_writeFrom hrefs hw
  rw [← hregistry]
  exact ⟨hbuffer.trans (String.empty_append ..), rfl⟩

/-! ## The whole file -/

/-- The text of a file is its header, and behind a blank line its body, if it has one. -/
theorem render_of_header {f : SourceFile} {body : Rendered} {header : String}
    (hbody : f.renderBody = .ok body)
    (hheader : f.header (sortImports body.imports) = .ok header) :
    f.render = .ok (header ++ if body.code = "" then "" else "\n" ++ body.code) := by
  unfold render
  rw [hbody]
  change (f.header (sortImports body.imports) >>= _) = _
  rw [hheader]
  change Except.ok (if body.code.isEmpty then header else header ++ "\n" ++ body.code) = _
  by_cases hcode : body.code = ""
  · rw [if_pos hcode, if_pos (by simp [hcode]), String.append_empty]
  · rw [if_neg hcode, if_neg (by simpa using hcode), String.append_assoc]

theorem exists_of_render {f : SourceFile} {text : String} (h : f.render = .ok text) :
    ∃ body header, f.renderBody = .ok body ∧ f.header (sortImports body.imports) = .ok header ∧
      text = header ++ if body.code = "" then "" else "\n" ++ body.code := by
  cases hbody : f.renderBody with
  | error e =>
    unfold render at h
    rw [hbody] at h
    cases h
  | ok body =>
    cases hheader : f.header (sortImports body.imports) with
    | error e =>
      unfold render at h
      rw [hbody] at h
      change (f.header (sortImports body.imports) >>= _) = _ at h
      rw [hheader] at h
      cases h
    | ok header =>
      rw [render_of_header hbody hheader] at h
      injection h with h
      exact ⟨body, header, rfl, hheader, h.symm⟩

/-- A text of a file is right about its imports, which are those of a table. -/
structure HasImports (f : SourceFile) (entries : List ImportEntry) (text : String) : Prop where
  /-- The text is the comment, the package clause, the import section of the table, and the body, in
  which a member of a package stands behind the name that the table has for the package. -/
  text_eq : ∃ body,
    body = Page.text f.indent 0 (TypeRef.spell (ImportEntry.nameOf? entries)) f.bodyStatements ∧
    text = f.comment.printed f.indent 0 ++ "package " ++ f.package ++ "\n" ++
      ImportEntry.sectionText f.indent entries ++ if body = "" then "" else "\n" ++ body
  /-- The table has the packages that the declarations ask for, except for the file's own. -/
  mem_paths_iff : ∀ path, path ∈ entries.map ImportEntry.path ↔
    (∃ t ∈ f.refs, path ∈ t.imports.paths) ∧ f.importPath ≠ some path
  /-- The entries are in the order of their paths, without repetition. -/
  increasing : (entries.map ImportEntry.path).Pairwise (· < ·)
  /-- No two entries bind the same name. -/
  names_nodup : (entries.map ImportEntry.name).Nodup
  /-- A member of the file's own package has no name in front of it, and a member of another one has
  the name that the entry of its package binds. -/
  named : ∀ t ∈ f.refs, ∀ path name, (path, name) ∈ t.members →
    (f.importPath = some path ∧ ImportEntry.nameOf? entries path = none) ∨
      ∃ entry ∈ entries, entry.path = path ∧ ImportEntry.nameOf? entries path = some entry.name

/-- **The import section of a file is right.**  Whenever a file is printed whose declarations refer
to types by names, pointers, slices and maps, its text has the imports of some table. -/
theorem render_imports_sound (f : SourceFile) (text : String)
    (hplain : ∀ t ∈ f.refs, t.isPlain = true) (h : f.render = .ok text) :
    ∃ entries, f.HasImports entries text := by
  obtain ⟨body, header, hbody, hheader, rfl⟩ := exists_of_render h
  obtain ⟨hcode, himports⟩ := renderBody_eq hplain hbody
  rw [himports] at hheader
  have hconsistent := f.consistent_bodyRegistry
  have hmem : ∀ path, path ∈ f.bodyRegistry.sortedEntries.map ImportEntry.path ↔
      (∃ t ∈ f.refs, path ∈ t.imports.paths) ∧ f.importPath ≠ some path := by
    intro path
    rw [hconsistent.paths_sortedEntries_perm.mem_iff, mem_paths_bodyRegistry]
  refine ⟨f.bodyRegistry.sortedEntries, ⟨body.code, ?_, ?_⟩, hmem,
    hconsistent.pairwise_lt_sortedEntries, hconsistent.nodup_names_sortedEntries, ?_⟩
  · -- the page has the names of the registry, and the table has the same ones
    rw [hcode]
    refine Page.text_congr fun s hs t ht => ?_
    have href : t ∈ f.refs := mem_refs_of_mem_bodyStatements hs ht
    exact text_bodyRegistry href (hplain t href)
  · have hnames : ∀ i ∈ sortImports f.bodyRegistry.imports, i.asName ≠ some i.defaultToken :=
      fun i hi => hconsistent.asName_ne ((sortImports_perm _).mem_iff.mp hi)
    rw [header_eq hnames hheader]
    rfl
  · intro t ht path name hm
    have hpath : ∃ t ∈ f.refs, path ∈ t.imports.paths :=
      ⟨t, ht, (TypeRef.mem_paths_imports_iff (hplain t ht)).mpr ⟨name, hm⟩⟩
    by_cases hhome : f.importPath = some path
    · refine Or.inl ⟨hhome, ImportEntry.nameOf?_eq_none_iff.mpr fun hin => ?_⟩
      exact ((hmem path).mp hin).2 hhome
    · exact Or.inr (ImportEntry.exists_mem_of_mem_paths ((hmem path).mpr ⟨hpath, hhome⟩))

/-- A file that refers to two packages with the same suggested name, and to its own package. -/
def clashingFile : SourceFile where
  package := "app"
  importPath := some "acme/app"
  declarations := [.fragment { statements := [
    { template := "var peers $T"
      args := [.type (.map (.named ⟨some ⟨"go/net", none, by decide +kernel⟩, "Addr",
          by decide +kernel⟩)
        (.pointer (.named ⟨some ⟨"acme/net", none, by decide +kernel⟩, "Conn",
          by decide +kernel⟩)))] },
    { template := "var self $T"
      args := [.type (.named ⟨some ⟨"acme/app", none, by decide +kernel⟩, "Peer",
        by decide +kernel⟩)] }] }]

/-- The header of `clashingFile`.  The first package that is mentioned keeps the suggested name. -/
def clashingFileHeader : String :=
  "package app\n\nimport (\n\tnet2 \"acme/net\"\n\t\"go/net\"\n)\n"

/-- The body of `clashingFile`. -/
def clashingFileBody : Rendered where
  code := "var peers map[net.Addr]*net2.Conn\nvar self Peer\n"
  imports := [⟨"go/net", none, by decide +kernel⟩, ⟨"acme/net", some "net2", by decide +kernel⟩]

theorem clashingFile_imports_sound :
    clashingFile.render = .ok (clashingFileHeader ++ "\n" ++ clashingFileBody.code) ∧
      ∃ entries, clashingFile.HasImports entries
        (clashingFileHeader ++ "\n" ++ clashingFileBody.code) := by
  have hbody : clashingFile.renderBody = .ok clashingFileBody := by decide +kernel
  have hsort : sortImports clashingFileBody.imports = clashingFileBody.imports.reverse :=
    sortImports_pair (by decide +kernel)
  have hheader : clashingFile.header (sortImports clashingFileBody.imports) =
      .ok clashingFileHeader := by
    rw [hsort]
    decide +kernel
  have h := render_of_header hbody hheader
  rw [if_neg (by decide +kernel), ← String.append_assoc] at h
  exact ⟨h, render_imports_sound _ _ (by decide +kernel) h⟩

end SourceFile

end SourcePress
