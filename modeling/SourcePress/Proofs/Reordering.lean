import SourcePress.Proofs.FileAssembly

/-!
# The order of declarations

In general the text of a declaration depends on what stands in front of it: a package keeps the token
under which it was registered first, and a token that is taken gets a number.  Both happen only if
the imports of a file disagree, one path being asked for under two names or two paths preferring one
token.  Imports that do not disagree are called `Unambiguous` here.

Then every registered package has the token that its import prefers, whatever was registered before
(`Unambiguous.mem_resolved_iff`; the step is `Drawn.register`).  So a type has one name under the
registries of all parts of the file, and registries that differ only by their order have one sorted
table.  Balanced declarations all start at depth zero.  What is left of the order is the order of the
texts: reordering the declarations of a file keeps the header, and puts the texts of the declarations
into the new order (`render_reordered`).
-/

namespace SourcePress

/-! ## Imports that do not disagree -/

/-- Apart from the home path, no path is asked for under two names, and no two paths prefer the same
token. -/
structure Import.Unambiguous (home : Option String) (imports : List Import) : Prop where
  asName_eq : ∀ i ∈ imports, ∀ j ∈ imports, home ≠ some i.path → i.path = j.path →
    i.asName = j.asName
  token_ne : ∀ i ∈ imports, ∀ j ∈ imports, home ≠ some i.path → home ≠ some j.path →
    i.path ≠ j.path → i.preferredToken ≠ j.preferredToken

namespace Registry

open Import (Unambiguous)

/-- Every entry of the registry is one of the imports, under the token that it prefers. -/
def Drawn (r : Registry) (imports : List Import) : Prop :=
  ∀ path token, (path, token) ∈ r.resolved →
    ∃ i ∈ imports, i.path = path ∧ i.preferredToken = token

/-- **One registration.**  The preferred token of a new path is free, since every token in use is
preferred by another path. -/
theorem Drawn.register {r : Registry} {imports : List Import} (h : r.Drawn imports)
    (hconsistent : r.Consistent) (himports : Unambiguous r.home imports) {i : Import}
    (hi : i ∈ imports) : (r.register i).2.Drawn imports := by
  rcases register_cases r i with heq | ⟨hhome, hpath, heq⟩
  · rw [heq]
    exact h
  · have hfree : i.preferredToken ∉ r.taken := by
      rw [hconsistent.taken_eq]
      intro htaken
      obtain ⟨⟨path, token⟩, hmem, htoken⟩ := List.mem_map.mp htaken
      obtain ⟨j, hj, rfl, hj'⟩ := h path token hmem
      have hjpath : j.path ∈ r.paths := List.mem_map_of_mem hmem
      have hne : i.path ≠ j.path := fun e => hpath (e ▸ hjpath)
      have hjhome : r.home ≠ some j.path := hconsistent.home_notMem j.path hjpath
      exact himports.token_ne i hi j hj hhome hjhome hne (hj'.trans htoken).symm
    rw [heq, freeToken_of_notMem hfree]
    intro path token hmem
    rcases List.mem_append.mp hmem with hmem | hmem
    · exact h path token hmem
    · obtain ⟨rfl, rfl⟩ := Prod.mk.inj (List.mem_singleton.mp hmem)
      exact ⟨i, hi, rfl, rfl⟩

theorem Drawn.registerAll {r : Registry} {imports : List Import} (h : r.Drawn imports)
    (hconsistent : r.Consistent) (himports : Unambiguous r.home imports) {requests : List Import}
    (hrequests : ∀ i ∈ requests, i ∈ imports) : (r.registerAll requests).Drawn imports := by
  induction requests generalizing r with
  | nil => exact h
  | cons i rest ih =>
    obtain ⟨hi, hrest⟩ := List.forall_mem_cons.mp hrequests
    have hhome : Unambiguous (r.register i).2.home imports := by
      rw [home_register]
      exact himports
    exact ih (h.register hconsistent himports hi) (hconsistent.register i) hhome hrest

end Registry

namespace Import.Unambiguous

open Registry (ofHome)

variable {home : Option String} {imports : List Import}

theorem mono (h : Unambiguous home imports) {part : List Import}
    (hpart : ∀ i ∈ part, i ∈ imports) : Unambiguous home part where
  asName_eq i hi j hj := h.asName_eq i (hpart i hi) j (hpart j hj)
  token_ne i hi j hj := h.token_ne i (hpart i hi) j (hpart j hj)

theorem preferredToken_eq (h : Unambiguous home imports) {i j : Import} (hi : i ∈ imports)
    (hj : j ∈ imports) (hhome : home ≠ some i.path) (hpath : i.path = j.path) :
    i.preferredToken = j.preferredToken := by
  rw [preferredToken, preferredToken, h.asName_eq i hi j hj hhome hpath, defaultToken, defaultToken,
    hpath]

/-- **The entries after a run**: the imports themselves, in whatever order they came. -/
theorem mem_resolved_iff (h : Unambiguous home imports) {path token : String} :
    (path, token) ∈ ((ofHome home).registerAll imports).resolved ↔
      ∃ i ∈ imports, home ≠ some i.path ∧ i.path = path ∧ i.preferredToken = token := by
  have hconsistent := (Registry.consistent_ofHome home).registerAll imports
  have hdrawn : ((ofHome home).registerAll imports).Drawn imports := by
    have hnone : (ofHome home).Drawn imports := fun _ _ hmem => absurd hmem List.not_mem_nil
    exact hnone.registerAll (Registry.consistent_ofHome home) h fun i hi => hi
  constructor
  · intro hmem
    obtain ⟨i, hi, rfl, rfl⟩ := hdrawn path token hmem
    have hhome := hconsistent.home_notMem i.path (List.mem_map_of_mem hmem)
    rw [Registry.home_registerAll] at hhome
    exact ⟨i, hi, hhome, rfl, rfl⟩
  · rintro ⟨i, hi, hhome, rfl, rfl⟩
    have hpath : i.path ∈ ((ofHome home).registerAll imports).paths :=
      Registry.mem_paths_registerAll.mpr (Or.inr ⟨⟨i, hi, rfl⟩, hhome⟩)
    obtain ⟨token, htoken⟩ := Registry.exists_token?_of_mem_paths hpath
    have hmem := Registry.mem_resolved_of_token? htoken
    obtain ⟨j, hj, hjpath, hjtoken⟩ := hdrawn i.path token hmem
    rw [h.preferredToken_eq hi hj hhome hjpath.symm, hjtoken]
    exact hmem

/-- What a path is called can be said without the registry. -/
theorem qualifier?_eq (h : Unambiguous home imports) {i : Import} (hi : i ∈ imports) :
    ((ofHome home).registerAll imports).qualifier? i.path =
      if home = some i.path then none else some i.preferredToken := by
  by_cases hhome : home = some i.path
  · rw [if_pos hhome]
    exact Registry.qualifier?_of_home ((Registry.home_registerAll home imports).trans hhome)
  · have hconsistent := (Registry.consistent_ofHome home).registerAll imports
    have hmem := h.mem_resolved_iff.mpr ⟨i, hi, hhome, rfl, rfl⟩
    rw [if_neg hhome]
    refine Registry.qualifier?_of_token? ?_ (hconsistent.token?_eq_some_iff.mpr hmem)
    rw [Registry.home_registerAll]
    exact hhome

/-- **A type has the same name under the imports of a part of the file.** -/
theorem text_eq (h : Unambiguous home imports) {part : List Import}
    (hpart : ∀ i ∈ part, i ∈ imports) {t : TypeRef} (ht : t.isPlain = true)
    (hneeds : ∀ i ∈ t.imports.toList, i ∈ part) :
    t.text ((ofHome home).registerAll part) = t.text ((ofHome home).registerAll imports) := by
  rw [TypeRef.text_eq_spell, TypeRef.text_eq_spell]
  refine TypeRef.spell_congr fun m hm => ?_
  have hpath : m.1 ∈ t.imports.paths := (TypeRef.mem_paths_imports_iff ht).mpr ⟨m.2, hm⟩
  obtain ⟨i, hi, hipath⟩ := ImportSet.mem_paths_iff.mp hpath
  have hi' : i ∈ part := hneeds i hi
  rw [← hipath, (h.mono hpart).qualifier?_eq hi', h.qualifier?_eq (hpart i hi')]

/-- **The sorted table does not depend on the order of the imports.** -/
theorem sortedEntries_eq (h : Unambiguous home imports) {others : List Import}
    (hothers : ∀ i, i ∈ others ↔ i ∈ imports) :
    ((ofHome home).registerAll others).sortedEntries =
      ((ofHome home).registerAll imports).sortedEntries := by
  have hmem : ∀ {is : List Import}, Unambiguous home is → ∀ entry : ImportEntry,
      entry ∈ ((ofHome home).registerAll is).sortedEntries ↔
        ∃ i ∈ is, home ≠ some i.path ∧ i.path = entry.path ∧ i.preferredToken = entry.name := by
    intro is his entry
    have hconsistent := (Registry.consistent_ofHome home).registerAll is
    rw [hconsistent.sortedEntries_perm.mem_iff, ← his.mem_resolved_iff, Registry.entries,
      List.mem_map]
    constructor
    · rintro ⟨e, he, rfl⟩
      exact he
    · intro he
      exact ⟨_, he, rfl⟩
  have hlt : ∀ is : List Import, ((ofHome home).registerAll is).sortedEntries.Pairwise
      fun a b => a.path < b.path := fun is =>
    List.pairwise_map.mp ((Registry.consistent_ofHome home).registerAll is).pairwise_lt_sortedEntries
  have hnodup : ∀ is : List Import, ((ofHome home).registerAll is).sortedEntries.Nodup := by
    intro is
    refine (hlt is).imp fun {a b} hab e => ?_
    rw [e] at hab
    exact String.lt_irrefl _ hab
  -- two increasing tables with the same entries
  refine List.Perm.eq_of_pairwise (fun a b _ _ hab hba => absurd hba (String.lt_asymm hab))
    (hlt others) (hlt imports) ?_
  refine (List.perm_ext_iff_of_nodup (hnodup others) (hnodup imports)).mpr fun entry => ?_
  rw [hmem h entry, hmem (h.mono fun i hi => (hothers i).mp hi) entry]
  simp only [hothers]

end Import.Unambiguous

/-! ## Pages of blocks that come back to their depth -/

/-- Separated blocks have their own texts, an empty line between two. -/
theorem Page.text_separate (indent : Indent) (name : TypeRef → String)
    {blocks : List (List Statement)} (h : ∀ block ∈ blocks, Layout.netShift block = 0) :
    text indent 0 name (separate .blank blocks) =
      "\n".intercalate ((blocks.filter (!·.isEmpty)).map (text indent 0 name)) := by
  induction blocks with
  | nil => exact text_nil indent 0 name
  | cons block rest ih =>
    obtain ⟨hnet, hrest⟩ := List.forall_mem_cons.mp h
    rcases separate_cons_cases Statement.blank block rest with
      ⟨hblock, heq⟩ | ⟨hblock, hnone, heq⟩ | ⟨hblock, hsome, heq⟩
    · rw [heq, ih hrest, hblock]
      rfl
    · rw [heq, filter_cons_of_ne_nil hblock, separate_eq_nil_iff.mp hnone, List.map_singleton,
        String.intercalate_singleton]
    · obtain ⟨next, others, hfilter⟩ :=
        List.exists_cons_of_ne_nil (mt separate_eq_nil_iff.mpr hsome)
      rw [heq, text_append, hnet, Int.add_zero, text_blank_cons, ih hrest,
        filter_cons_of_ne_nil hblock, hfilter, List.map_cons, List.map_cons, List.map_cons,
        String.intercalate_cons_cons, String.append_assoc]

/-! ## Parts of a file -/

/-- The declarations of a list that have statements. -/
def Declaration.printed (ds : List Declaration) : List Declaration :=
  ds.filter (!·.statements.isEmpty)

theorem Declaration.blocks_eq_map (ds : List Declaration) :
    blocks ds = (printed ds).map statements :=
  List.filter_map

namespace SourceFile

/-- The file with other declarations. -/
def withDeclarations (f : SourceFile) (ds : List Declaration) : SourceFile :=
  { f with declarations := ds }

/-- The text of the header above the declarations. -/
def headerText (f : SourceFile) : String :=
  f.comment.printed f.indent 0 ++ "package " ++ f.package ++ "\n" ++
    ImportEntry.sectionText f.indent f.bodyRegistry.sortedEntries

/-- The text of a declaration as a part of the file. -/
def page (f : SourceFile) (d : Declaration) : String :=
  Page.text f.indent 0 (TypeRef.text f.bodyRegistry) d.statements

/-- The file is printed as a header and the texts of its declarations, one blank line standing
between two of them. -/
def IsComposed (f : SourceFile) (header : String) (page : Declaration → String) : Prop :=
  ∃ body, f.renderBody = .ok body ∧ f.header (sortImports body.imports) = .ok header ∧
    body.code = "\n".intercalate ((Declaration.printed f.declarations).map page) ∧
    f.render = .ok (header ++ if body.code = "" then "" else "\n" ++ body.code)

theorem mem_refs_iff {f : SourceFile} {t : TypeRef} :
    t ∈ f.refs ↔ ∃ d ∈ f.declarations, ∃ s ∈ d.statements, t ∈ s.refs := by
  simp only [refs, List.mem_flatMap]
  constructor
  · rintro ⟨s, ⟨d, hd, hs⟩, ht⟩
    exact ⟨d, hd, s, hs, ht⟩
  · rintro ⟨d, hd, s, hs, ht⟩
    exact ⟨s, ⟨d, hd, hs⟩, ht⟩

/-- Balanced declarations are printed exactly when their statements render. -/
theorem exists_renderBody_iff {f : SourceFile}
    (hbalanced : ∀ d ∈ f.declarations, Layout.isBalanced d.statements = true) :
    (∃ body, f.renderBody = .ok body) ↔
      ∀ d ∈ f.declarations, ∀ s ∈ d.statements, s.renderError? = none := by
  have hlead : Layout.Leads f.bodyWriter.depth f.bodyStatements 0 := by
    refine Layout.leads_separate fun block hblock => ?_
    obtain ⟨d, hd, rfl⟩ := List.mem_map.mp hblock
    exact Layout.isBalanced_iff_leads.mp (hbalanced d hd)
  have hrender : (∀ s ∈ f.bodyStatements, s.renderError? = none) ↔
      ∀ d ∈ f.declarations, ∀ s ∈ d.statements, s.renderError? = none := by
    refine (forall_mem_separate (fun s : Statement => s.renderError? = none)
      Statement.renderError?_blank).trans ?_
    exact List.forall_mem_map
  rw [← hrender, ← Writer.exists_reaches_iff hlead]
  simp only [renderBody_eq_ok_iff, statements_attached, Writer.writeBlock,
    Writer.writeFrom_eq_ok_iff_reaches]
  constructor
  · rintro ⟨body, w, hw, -⟩
    exact ⟨w, hw⟩
  · rintro ⟨w, hw⟩
    exact ⟨w.finish, w, hw, rfl⟩

theorem exists_render_iff {f : SourceFile} :
    (∃ text, f.render = .ok text) ↔ ∃ body, f.renderBody = .ok body := by
  constructor
  · rintro ⟨text, htext⟩
    obtain ⟨body, -, hbody, -⟩ := exists_of_render htext
    exact ⟨body, hbody⟩
  · rintro ⟨body, hbody⟩
    obtain ⟨header, hheader⟩ := f.exists_header (sortImports body.imports)
    exact ⟨_, render_of_header hbody hheader⟩

theorem eq_headerText {f : SourceFile} {text : String}
    (h : f.header (sortImports f.bodyRegistry.imports) = .ok text) :
    text = f.headerText := by
  refine header_eq (fun i hi => ?_) h
  exact f.consistent_bodyRegistry.asName_ne ((sortImports_perm _).mem_iff.mp hi)

section Parts

variable {f : SourceFile} {ds : List Declaration} (hds : ∀ d ∈ ds, d ∈ f.declarations)

include hds

theorem mem_refs_of_part {t : TypeRef} (ht : t ∈ (f.withDeclarations ds).refs) :
    t ∈ f.refs := by
  obtain ⟨d, hd, s, hs, ht⟩ := mem_refs_iff.mp ht
  exact mem_refs_iff.mpr ⟨d, hds d hd, s, hs, ht⟩

theorem mem_neededImports_of_part {i : Import}
    (hi : i ∈ (f.withDeclarations ds).neededImports) : i ∈ f.neededImports := by
  obtain ⟨t, ht, hi⟩ := mem_neededImports_iff.mp hi
  exact mem_neededImports_iff.mpr ⟨t, mem_refs_of_part hds ht, hi⟩

/-- **Some declarations of a file, printed on their own, have the texts that they have in the
file.** -/
theorem code_eq_of_part (hbalanced : ∀ d ∈ f.declarations, Layout.isBalanced d.statements = true)
    (hplain : ∀ t ∈ f.refs, t.isPlain = true)
    (himports : Import.Unambiguous f.importPath f.neededImports) {body : Rendered}
    (h : (f.withDeclarations ds).renderBody = .ok body) :
    body.code = "\n".intercalate ((Declaration.printed ds).map f.page) := by
  have hplain' : ∀ t ∈ (f.withDeclarations ds).refs, t.isPlain = true := fun t ht =>
    hplain t (mem_refs_of_part hds ht)
  have hnames : ∀ s ∈ (f.withDeclarations ds).bodyStatements, ∀ t ∈ s.refs,
      t.text (f.withDeclarations ds).bodyRegistry = t.text f.bodyRegistry := by
    intro s hs t ht
    have ht' := mem_refs_of_mem_bodyStatements hs ht
    refine himports.text_eq (fun i hi => mem_neededImports_of_part hds hi) (hplain' t ht') ?_
    exact fun i hi => mem_neededImports_iff.mpr ⟨t, ht', hi⟩
  have hlevel : ∀ block ∈ ds.map Declaration.statements, Layout.netShift block = 0 := by
    refine List.forall_mem_map.mpr fun d hd => ?_
    have hnet := (Layout.isBalanced_iff_leads.mp (hbalanced d (hds d hd))).reached_eq
    omega
  rw [(renderBody_eq hplain' h).1, Page.text_congr hnames]
  refine (Page.text_separate f.indent _ hlevel).trans ?_
  rw [← Declaration.blocks, Declaration.blocks_eq_map, List.map_map]
  rfl

end Parts

/-- A file of the same declarations, in any order, has the same header and the same texts. -/
theorem isComposed_of_mem_iff {f : SourceFile} {ds : List Declaration}
    (hds : ∀ d, d ∈ ds ↔ d ∈ f.declarations)
    (hbalanced : ∀ d ∈ f.declarations, Layout.isBalanced d.statements = true)
    (hplain : ∀ t ∈ f.refs, t.isPlain = true)
    (himports : Import.Unambiguous f.importPath f.neededImports) {body : Rendered}
    (h : (f.withDeclarations ds).renderBody = .ok body) :
    (f.withDeclarations ds).IsComposed f.headerText f.page := by
  have hsub : ∀ d ∈ ds, d ∈ f.declarations := fun d hd => (hds d).mp hd
  have hrefs : ∀ t, t ∈ (f.withDeclarations ds).refs ↔ t ∈ f.refs := by
    intro t
    rw [mem_refs_iff, mem_refs_iff]
    exact exists_congr fun d => and_congr_left fun _ => hds d
  have hneeded : ∀ i, i ∈ (f.withDeclarations ds).neededImports ↔ i ∈ f.neededImports := by
    intro i
    rw [mem_neededImports_iff, mem_neededImports_iff]
    exact exists_congr fun t => and_congr_left fun _ => hrefs t
  -- the header is printed from a table that does not depend on the order
  have htable : (f.withDeclarations ds).bodyRegistry.sortedEntries = f.bodyRegistry.sortedEntries :=
    himports.sortedEntries_eq hneeded
  obtain ⟨header, hheader⟩ := (f.withDeclarations ds).exists_header (sortImports body.imports)
  have hsame : header = f.headerText := by
    have hplain' : ∀ t ∈ (f.withDeclarations ds).refs, t.isPlain = true := fun t ht =>
      hplain t ((hrefs t).mp ht)
    rw [(renderBody_eq hplain' h).2] at hheader
    rw [eq_headerText hheader, headerText, headerText, htable]
    rfl
  rw [hsame] at hheader
  exact ⟨body, h, hheader, code_eq_of_part hsub hbalanced hplain himports h,
    render_of_header h hheader⟩

theorem intercalate_printed_singleton (f : SourceFile) (d : Declaration) :
    "\n".intercalate ((Declaration.printed [d]).map f.page) = f.page d := by
  cases hd : d.statements with
  | nil =>
    have hnone : Declaration.printed [d] = [] := by simp [Declaration.printed, hd]
    rw [hnone, page, hd, Page.text_nil]
    rfl
  | cons s rest =>
    have hone : Declaration.printed [d] = [d] := by simp [Declaration.printed, hd]
    rw [hone, List.map_singleton, String.intercalate_singleton]

/-- **Reordering declarations reorders the body, and nothing else.**  Let the declarations of a file
be balanced, refer to types by names, pointers, slices and maps, and ask for imports that do not
disagree.  Then a reordered file is printed exactly when the file is.  Both have the same header, and
both bodies are made of the same texts, one for each declaration that has statements, in the order of
the declarations and with one blank line between two.  The text of a declaration is what is printed
for it on its own. -/
theorem render_reordered (f : SourceFile) (ds : List Declaration) (hperm : ds.Perm f.declarations)
    (hbalanced : ∀ d ∈ f.declarations, Layout.isBalanced d.statements = true)
    (hplain : ∀ t ∈ f.refs, t.isPlain = true)
    (himports : Import.Unambiguous f.importPath f.neededImports) :
    ((∃ text, (f.withDeclarations ds).render = .ok text) ↔ ∃ text, f.render = .ok text) ∧
      ((∃ text, f.render = .ok text) →
        ∃ header page, f.IsComposed header page ∧
          (f.withDeclarations ds).IsComposed header page ∧
          ∀ d ∈ f.declarations, ∃ imports,
            (f.withDeclarations [d]).renderBody = .ok ⟨page d, imports⟩) := by
  have hds : ∀ d ∈ ds, d ∈ f.declarations := fun d hd => hperm.mem_iff.mp hd
  have hbalanced' : ∀ d ∈ ds, Layout.isBalanced d.statements = true := fun d hd =>
    hbalanced d (hds d hd)
  have hprinted : (∃ text, (f.withDeclarations ds).render = .ok text) ↔
      ∃ text, f.render = .ok text := by
    rw [exists_render_iff, exists_render_iff, exists_renderBody_iff hbalanced',
      exists_renderBody_iff hbalanced]
    exact forall_congr' fun d => imp_congr_left hperm.mem_iff
  refine ⟨hprinted, fun hf => ⟨f.headerText, f.page, ?_, ?_, fun d hd => ?_⟩⟩
  · obtain ⟨body, hbody⟩ := exists_render_iff.mp hf
    exact isComposed_of_mem_iff (fun d => Iff.rfl) hbalanced hplain himports hbody
  · obtain ⟨body, hbody⟩ := exists_render_iff.mp (hprinted.mpr hf)
    exact isComposed_of_mem_iff (fun d => hperm.mem_iff) hbalanced hplain himports hbody
  · have hsingle : ∀ d' ∈ [d], d' ∈ f.declarations := List.forall_mem_singleton.mpr hd
    have hrender := (exists_renderBody_iff hbalanced).mp (exists_render_iff.mp hf)
    obtain ⟨body, hbody⟩ : ∃ body, (f.withDeclarations [d]).renderBody = .ok body :=
      (exists_renderBody_iff fun d' hd' => hbalanced d' (hsingle d' hd')).mpr
        fun d' hd' => hrender d' (hsingle d' hd')
    have hcode := code_eq_of_part hsingle hbalanced hplain himports hbody
    rw [intercalate_printed_singleton] at hcode
    refine ⟨body.imports, ?_⟩
    rw [hbody, ← hcode]

/-- A file that refers to two other packages, to one of them under a name, and to its own package.
One of its declarations has no statements. -/
def aliasingFile : SourceFile where
  package := "studio"
  importPath := some "acme/studio"
  declarations := [
    .binding {
      name := "shade"
      type := .pointer (.named ⟨some ⟨"acme/paint", none, by decide +kernel⟩, "Shade",
        by decide +kernel⟩)
      value := { statements := [
        { template := "blend(", after := 1 },
        { template := "$T,", args := [.type (.named ⟨some ⟨"acme/studio", none, by decide +kernel⟩,
          "Easel", by decide +kernel⟩)] },
        { template := ")", before := -1 }] } },
    .comment {},
    .func {
      name := "Dip"
      params := [
        { name := "b"
          type := .slice (.named ⟨some ⟨"tools/bristle", some "br", by decide +kernel⟩, "Brush",
            by decide +kernel⟩) }]
      body := [{ template := "use($T)", args := [.type (.named ⟨some ⟨"acme/paint", none,
        by decide +kernel⟩, "Pot", by decide +kernel⟩)] }] }]

theorem aliasingFile_reordered :
    Import.Unambiguous aliasingFile.importPath aliasingFile.neededImports ∧
      (∃ text,
        (aliasingFile.withDeclarations aliasingFile.declarations.reverse).render = .ok text) ∧
      ∃ header page, aliasingFile.IsComposed header page ∧
        (aliasingFile.withDeclarations aliasingFile.declarations.reverse).IsComposed header page ∧
        ∀ d ∈ aliasingFile.declarations, ∃ imports,
          (aliasingFile.withDeclarations [d]).renderBody = .ok ⟨page d, imports⟩ := by
  have hbalanced : ∀ d ∈ aliasingFile.declarations, Layout.isBalanced d.statements = true := by
    decide +kernel
  have hrender : ∀ d ∈ aliasingFile.declarations, ∀ s ∈ d.statements, s.renderError? = none := by
    decide +kernel
  have himports : Import.Unambiguous aliasingFile.importPath aliasingFile.neededImports :=
    ⟨by decide +kernel, by decide +kernel⟩
  have hprinted : ∃ text, aliasingFile.render = .ok text :=
    exists_render_iff.mpr ((exists_renderBody_iff hbalanced).mpr hrender)
  obtain ⟨hiff, hcomposed⟩ := render_reordered aliasingFile aliasingFile.declarations.reverse
    (List.reverse_perm _) hbalanced (by decide +kernel) himports
  exact ⟨himports, hiff.mpr hprinted, hcomposed hprinted⟩

end SourceFile

end SourcePress
