import SourcePress.Proofs.FailedWriting
import SourcePress.Proofs.Naming

/-!
# Collecting imports

The imports of statements can be gathered in two ways.  `ImportSet.ofStatements` merges the sets of
all references into one set.  The writer never makes such a set: it registers the imports of each
line when it prints the line.

Both keep the first import of a path and pass over the later ones, but at different places.  A set
drops a later import itself, together with the name that it asks for.  A registry is handed all of
them; one whose path it knows already leaves it as it is (`register_of_knows`).  So registering a
set and registering the list that it was collected from give the same registry, in the same order
and with the same tokens (`registerAll_toList_ofList`), whatever the registry held before.

For the writer this means that the registry it ends with can be told from the statements that it has
written, also if it stopped at one of them (`registry_eq_of_writeBlock`).
-/

namespace SourcePress

/-! ## Sets -/

namespace ImportSet

theorem foldl_merge_eq_extend (s : ImportSet) (refs : List TypeRef) :
    refs.foldl (fun s t => s.merge t.imports) s =
      s.extend (refs.flatMap fun t => t.imports.toList) := by
  induction refs generalizing s with
  | nil => rfl
  | cons t rest ih =>
    rw [List.foldl_cons, ih, List.flatMap_cons, extend_append]
    rfl

/-- Merging the sets of references one after the other is collecting all their imports. -/
theorem ofRefs_eq_ofList (refs : List TypeRef) :
    ofRefs refs = ofList (refs.flatMap fun t => t.imports.toList) :=
  foldl_merge_eq_extend empty refs

theorem ofStatements_eq_ofList (statements : List Statement) :
    ofStatements statements = ofList (statements.flatMap Statement.needs) := by
  rw [ofStatements, ofRefs_eq_ofList, List.flatMap_assoc]
  rfl

end ImportSet

/-! ## Registering a set -/

namespace Registry

/-- Registering a known path changes nothing, whatever name the import asks for. -/
theorem register_of_knows {r : Registry} {i : Import} (h : r.Knows i.path) :
    (r.register i).2 = r := by
  rcases register_cases r i with heq | ⟨hhome, hpath, -⟩
  · exact heq
  · rcases h with h | h
    · exact absurd h hhome
    · exact absurd h hpath

theorem registerAll_of_knows {r : Registry} {imports : List Import}
    (h : ∀ i ∈ imports, r.Knows i.path) : r.registerAll imports = r := by
  induction imports with
  | nil => rfl
  | cons i rest ih =>
    obtain ⟨hi, hrest⟩ := List.forall_mem_cons.mp h
    rw [registerAll_cons, register_of_knows hi, ih hrest]

theorem registerAll_toList_insert (r : Registry) (s : ImportSet) (i : Import) :
    r.registerAll (s.insert i).2.toList = ((r.registerAll s.toList).register i).2 := by
  by_cases h : i.path ∈ s.paths
  · -- the set drops the import, and the registry knows its path
    obtain ⟨j, hj, hpath⟩ := ImportSet.mem_paths_iff.mp h
    have hknows : (r.registerAll s.toList).Knows i.path := by
      rw [← hpath]
      exact knows_registerAll r hj
    rw [ImportSet.insert_of_mem h, register_of_knows hknows]
  · rw [ImportSet.toList_insert, if_neg h, registerAll_append]
    rfl

theorem registerAll_toList_extend (r : Registry) (s : ImportSet) (imports : List Import) :
    r.registerAll (s.extend imports).toList = (r.registerAll s.toList).registerAll imports := by
  induction imports generalizing s with
  | nil => rfl
  | cons i rest ih => rw [ImportSet.extend_cons, ih, registerAll_toList_insert, registerAll_cons]

/-- **Registering a collected set is registering the list it was collected from.** -/
theorem registerAll_toList_ofList (r : Registry) (imports : List Import) :
    r.registerAll (ImportSet.ofList imports).toList = r.registerAll imports :=
  registerAll_toList_extend r ImportSet.empty imports

end Registry

/-! ## The registry of a block -/

namespace Writer

/-- The registry after statements that were written has the imports collected from them. -/
theorem Reaches.registry_eq {w w' : Writer} {statements : List Statement}
    (h : Reaches w statements w') :
    w'.registry = w.registry.registerAll (ImportSet.ofStatements statements).toList := by
  have hwritten : writeFrom 0 statements w = .ok () w' := writeFrom_eq_ok_iff_reaches.mpr h
  rw [registry_eq_of_writeFrom hwritten, ImportSet.ofStatements_eq_ofList,
    Registry.registerAll_toList_ofList]

/-- **Printing registers what collecting finds.**  The writer's registry after a block is the one
from before with the imports that are collected from the statements of the block.  If the block
fails at some statement, they are collected from the statements before it. -/
theorem registry_eq_of_writeBlock (w w' : Writer) (statements : List Statement) :
    (writeBlock statements w = .ok () w' →
      w'.registry = w.registry.registerAll (ImportSet.ofStatements statements).toList) ∧
    ∀ e, writeBlock statements w = .error e w' →
      ∃ k e', k < statements.length ∧ e = .statement k e' ∧
        w'.registry =
          w.registry.registerAll (ImportSet.ofStatements (statements.take k)).toList := by
  constructor
  · intro h
    have hreach : Reaches w statements w' := writeFrom_eq_ok_iff_reaches.mp h
    exact hreach.registry_eq
  · intro e h
    obtain ⟨k, e', he, hreach, s, v, hget, -⟩ := writeBlock_eq_error_iff.mp h
    obtain ⟨hlt, -⟩ := List.getElem?_eq_some_iff.mp hget
    exact ⟨k, e', hlt, he, hreach.registry_eq⟩

/-- A block that mentions a package under two names, one of which another package asks for as well,
and then fails. -/
def renamingBlock : List Statement :=
  [{ template := "send($T, $T)"
     args := [
      .type (.described "acme/mail" "Box" (.ofList [
        ⟨"acme/mail", some "m", by decide +kernel⟩, ⟨"acme/post", some "m", by decide +kernel⟩])),
      .type (.described "acme/post" "Office" (.ofList [
        ⟨"acme/post", none, by decide +kernel⟩]))] },
   { template := "$T"
     args := [.type (.described "acme/mail" "Letter" (.ofList [
      ⟨"acme/mail", some "mail", by decide +kernel⟩]))] },
   { template := "$T $Q"
     args := [.type (.described "acme/bin" "Can" (.ofList [
      ⟨"acme/bin", none, by decide +kernel⟩]))] }]

/-- The writer when the last statement of `renamingBlock` fails. -/
def afterRenamingBlock : Writer where
  buffer := "send(m.Box, m2.Office)\nm.Letter\n"
  registry :=
    { resolved := [("acme/mail", "m"), ("acme/post", "m2")]
      defaults := [("acme/mail", "mail"), ("acme/post", "post")]
      taken := ["m", "m2"] }
  written := 2

theorem renamingBlock_registry :
    writeBlock renamingBlock {} =
        .error (.statement 2 (.template "$T $Q" (.unknownDirective (some 'Q') 3)))
          afterRenamingBlock ∧
      ∃ k e', k < renamingBlock.length ∧
        Error.statement 2 (.template "$T $Q" (.unknownDirective (some 'Q') 3)) = .statement k e' ∧
        afterRenamingBlock.registry =
          Registry.registerAll {} (ImportSet.ofStatements (renamingBlock.take k)).toList := by
  have h : writeBlock renamingBlock {} =
      .error (.statement 2 (.template "$T $Q" (.unknownDirective (some 'Q') 3)))
        afterRenamingBlock := by decide +kernel
  exact ⟨h, (registry_eq_of_writeBlock {} afterRenamingBlock renamingBlock).2 _ h⟩

end Writer

end SourcePress
