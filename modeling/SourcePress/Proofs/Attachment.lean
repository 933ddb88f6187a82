import SourcePress.Proofs.Balance

/-!
# The layout of attached blocks

Attaching puts a parent and its blocks into one list with a blank line between two neighbours, and a
block without statements leaves no trace, wherever it stands (`attach_eq_separate`).  Here the
indentation is added.  If the parent and all blocks are balanced, each of them starts where the one
before it started, and so do the blank lines between them.  Hence the layout of the whole is made of
the layouts of the parts in the same way in which the whole is made of the parts, with level zero in
the place of the blank line (`levels_separate`).

Two facts about a running depth carry this.  The layout of a concatenation is put together from two
layouts, the second of which starts at the depth that the first one leads to (`levelsFrom_append`);
and a balanced list leads back to the depth that it started from, with or without blank lines behind
it (`netShift_leading`).
-/

namespace SourcePress

namespace Layout

/-! ## Layouts put together -/

/-- Where the numbering starts does not matter for a list that has a layout. -/
theorem levelsFrom_eq_ok_of_eq_ok {depth index index' : Nat} {xs : List Statement} {ls : List Nat}
    (h : levelsFrom depth index xs = .ok ls) : levelsFrom depth index' xs = .ok ls := by
  induction xs generalizing depth index index' ls with
  | nil => exact h
  | cons s rest ih =>
    obtain ⟨level, next, ls', hstep, hrest, rfl⟩ := levelsFrom_cons_eq_ok_iff.mp h
    exact levelsFrom_cons_eq_ok_iff.mpr ⟨level, next, ls', hstep, ih hrest, rfl⟩

/-- The layout of a concatenation: the second list starts where the first one leads to. -/
theorem levelsFrom_append {depth reached index index' : Nat} {xs ys : List Statement}
    {ls ms : List Nat} (hxs : levelsFrom depth index xs = .ok ls)
    (hreached : (reached : Int) = depth + netShift xs)
    (hys : levelsFrom reached index' ys = .ok ms) :
    levelsFrom depth index (xs ++ ys) = .ok (ls ++ ms) := by
  induction xs generalizing depth index ls with
  | nil =>
    have hdepth : reached = depth := by
      rw [netShift_nil] at hreached
      omega
    cases hxs
    rw [← hdepth]
    exact levelsFrom_eq_ok_of_eq_ok hys
  | cons s rest ih =>
    obtain ⟨level, next, ls', hstep, hrest, rfl⟩ := levelsFrom_cons_eq_ok_iff.mp hxs
    obtain ⟨hbefore, hafter⟩ := step_eq_ok_iff.mp hstep
    have hnext : (reached : Int) = next + netShift rest := by
      rw [netShift_cons] at hreached
      omega
    exact levelsFrom_cons_eq_ok_iff.mpr ⟨level, next, ls' ++ ms, hstep, ih hrest hnext, rfl⟩

/-- Behind a balanced list stands a blank line at level zero, and behind that a list with its own
layout. -/
theorem levels_append_blank_cons {xs ys : List Statement} {ls ms : List Nat}
    (hbalanced : isBalanced xs = true) (hxs : levels xs = .ok ls) (hys : levels ys = .ok ms) :
    levels (xs ++ .blank :: ys) = .ok (ls ++ 0 :: ms) := by
  have hnet := (isBalanced_iff_leads.mp hbalanced).reached_eq
  have hblank : levelsFrom 0 0 (.blank :: ys) = .ok (0 :: ms) :=
    levelsFrom_cons_eq_ok_iff.mpr
      ⟨0, 0, ms, step_of_level rfl rfl 0, levelsFrom_eq_ok_of_eq_ok hys, rfl⟩
  exact levelsFrom_append hxs hnet hblank

theorem exists_levels_of_isBalanced {xs : List Statement} (h : isBalanced xs = true) :
    ∃ ls, levels xs = .ok ls :=
  (isBalanced_iff_leads.mp h).exists_levelsFrom 0

theorem eq_nil_iff_of_levels {xs : List Statement} {ls : List Nat} (h : levels xs = .ok ls) :
    ls = [] ↔ xs = [] := by
  rw [← List.length_eq_zero_iff, ← List.length_eq_zero_iff, length_levelsFrom h]

/-- The lists of levels are the layouts of the blocks. -/
def AreLevels (blocks : List (List Statement)) (lss : List (List Nat)) : Prop :=
  List.Forall₂ (fun block ls => levels block = .ok ls) blocks lss

theorem exists_areLevels {blocks : List (List Statement)}
    (h : ∀ block ∈ blocks, isBalanced block = true) : ∃ lss, AreLevels blocks lss := by
  induction blocks with
  | nil => exact ⟨[], List.Forall₂.nil⟩
  | cons block rest ih =>
    obtain ⟨hblock, hrest⟩ := List.forall_mem_cons.mp h
    obtain ⟨ls, hls⟩ := exists_levels_of_isBalanced hblock
    obtain ⟨lss, hlss⟩ := ih hrest
    exact ⟨ls :: lss, List.Forall₂.cons hls hlss⟩

/-- **The layout of balanced blocks with blank lines between them** is made of their own layouts. -/
theorem levels_separate {blocks : List (List Statement)} {lss : List (List Nat)}
    (h : AreLevels blocks lss) (hbalanced : ∀ block ∈ blocks, isBalanced block = true) :
    levels (separate .blank blocks) = .ok (separate 0 lss) := by
  induction h with
  | nil => rfl
  | @cons block ls rest lss hls _ ih =>
    obtain ⟨hblock, hrest⟩ := List.forall_mem_cons.mp hbalanced
    have hih := ih hrest
    by_cases hempty : block = []
    · rw [hempty, (eq_nil_iff_of_levels hls).mpr hempty, separate_nil_cons, separate_nil_cons]
      exact hih
    · by_cases hlast : separate .blank rest = []
      · rw [separate_cons_of_eq_nil hlast,
          separate_cons_of_eq_nil ((eq_nil_iff_of_levels hih).mpr hlast)]
        exact hls
      · rw [separate_cons_of_ne_nil hempty hlast,
          separate_cons_of_ne_nil (mt (eq_nil_iff_of_levels hls).mp hempty)
            (mt (eq_nil_iff_of_levels hih).mp hlast)]
        exact levels_append_blank_cons hblock hls hih

theorem isBalanced_separate {blocks : List (List Statement)}
    (h : ∀ block ∈ blocks, isBalanced block = true) :
    isBalanced (separate .blank blocks) = true :=
  isBalanced_iff_leads.mpr
    (leads_separate fun block hblock => isBalanced_iff_leads.mp (h block hblock))

end Layout

/-! ## The place of a block -/

namespace Statement

/-- What stands before a block in a list of separated blocks: those in front of it that are not empty,
each with a blank line behind it. -/
def leading (front : List (List Statement)) : List Statement :=
  (front.filter (!·.isEmpty)).flatMap (· ++ [blank])

/-- The place of a block that is not empty. -/
theorem leading_append_isPrefix {block : List Statement} (h : block ≠ [])
    (front back : List (List Statement)) :
    leading front ++ block <+: separate blank (front ++ block :: back) := by
  have hrest : ((block :: back.filter (!·.isEmpty)).intersperse [blank]).flatten =
      separate blank (block :: back) := by
    rw [separate, filter_cons_of_ne_nil h]
  have hblock : block <+: separate blank (block :: back) := by
    by_cases hback : separate blank back = []
    · exact ⟨[], by rw [separate_cons_of_eq_nil hback, List.append_nil]⟩
    · rw [separate_cons_of_ne_nil h hback]
      exact List.prefix_append _ _
  rw [separate, List.filter_append, filter_cons_of_ne_nil h,
    flatten_intersperse_append _ _ (List.cons_ne_nil _ _), hrest]
  exact (List.prefix_append_right_inj _).mpr hblock

theorem netShift_leading {front : List (List Statement)}
    (h : ∀ block ∈ front, Layout.isBalanced block = true) : Layout.netShift (leading front) = 0 := by
  have hleads : Layout.Leads 0 (leading front) 0 := by
    refine Layout.leads_flatMap fun block hblock => ?_
    have hbalanced := h block (List.mem_filter.mp hblock).1
    exact (Layout.isBalanced_iff_leads.mp hbalanced).append (Layout.leads_blank 0)
  have hreached := hleads.reached_eq
  omega

/-- A statement of a block is written at its own level in the block, counted from the depth at which
the writing of all blocks began. -/
theorem writtenAt_of_leading {front : List (List Statement)} {block : List Statement}
    {ls : List Nat} (hfront : ∀ block ∈ front, Layout.isBalanced block = true)
    (hls : Layout.levels block = .ok ls) {i level : Nat} {s : Statement} (hs : block[i]? = some s)
    (hlevel : ls[i]? = some level) {w v v' : Writer}
    (hv : Writer.Reaches w (leading front ++ block.take i) v)
    (hv' : Writer.writeStatement s v = .ok () v') :
    Writer.WrittenAt s (w.depth + level) v v' := by
  obtain ⟨hi, rfl⟩ := List.getElem?_eq_some_iff.mp hs
  obtain ⟨reached, hreached⟩ := Writer.exists_writtenAt hv'
  obtain ⟨level', hget, hown⟩ := Layout.getElem?_levelsFrom hls hi
  have hwritten : Writer.writeFrom 0 (leading front ++ block.take i) w = .ok () v :=
    Writer.writeFrom_eq_ok_iff_reaches.mpr hv
  have hdepth := Writer.depth_eq_of_writeFrom hwritten
  rw [Layout.netShift_append, netShift_leading hfront] at hdepth
  have hbefore := hreached.1
  rw [hlevel] at hget
  injection hget with hget
  have heq : reached = w.depth + level := by omega
  rw [← heq]
  exact hreached

/-- **Attaching is concatenation with blank lines, also for the layout.**  The attached list consists
of the parent and the blocks, as far as they are not empty, with one blank line between two of them.
If they are balanced, so is the list, and its levels are their own levels with level zero for each
blank line; each statement is written at the level that it has in its own block, counted from the
depth at which the writer began. -/
theorem attach_keeps_levels (parent : List Statement) (blocks : List (List Statement)) :
    attach parent blocks = separate blank (parent :: blocks) ∧
    (Layout.isBalanced parent = true → (∀ block ∈ blocks, Layout.isBalanced block = true) →
      Layout.isBalanced (attach parent blocks) = true ∧
      (∃ lss, Layout.AreLevels (parent :: blocks) lss ∧
        Layout.levels (attach parent blocks) = .ok (separate 0 lss)) ∧
      ∀ front block back ls, parent :: blocks = front ++ block :: back →
        Layout.levels block = .ok ls → block ≠ [] →
          leading front ++ block <+: attach parent blocks ∧
          ∀ (i level : Nat) s, block[i]? = some s → ls[i]? = some level →
            ∀ w v v', Writer.Reaches w (leading front ++ block.take i) v →
              Writer.writeStatement s v = .ok () v' →
                Writer.WrittenAt s (w.depth + level) v v') := by
  refine ⟨attach_eq_separate parent blocks, fun hparent hblocks => ?_⟩
  have hall : ∀ block ∈ parent :: blocks, Layout.isBalanced block = true :=
    List.forall_mem_cons.mpr ⟨hparent, hblocks⟩
  obtain ⟨lss, hlss⟩ := Layout.exists_areLevels hall
  rw [attach_eq_separate]
  refine ⟨Layout.isBalanced_separate hall, ⟨lss, hlss, Layout.levels_separate hlss hall⟩, ?_⟩
  intro front block back ls hsplit hls hne
  rw [hsplit] at hall ⊢
  refine ⟨leading_append_isPrefix hne front back, fun i level s hs hlevel w v v' hv hv' => ?_⟩
  have hfront : ∀ block ∈ front, Layout.isBalanced block = true :=
    fun block hblock => hall block (List.mem_append_left _ hblock)
  exact writtenAt_of_leading hfront hls hs hlevel hv hv'

/-- A parent that steps in and comes back. -/
def nestedParent : List Statement := [.opening "orchard:", { template := "pear" }, .closing "gate"]

/-- Blocks of which the first and the last leave no trace, and the other one steps in by two levels
and out by one at a time. -/
def unevenBlocks : List (List Statement) :=
  [[], [{ template := "shed:", after := 2 }, { template := "rake", before := -1 }, { before := -1 }],
    []]

/-- The writer behind the first line of the block that steps in by two, if it began at depth
three. -/
def insideUnevenBlock : Writer where
  depth := 5
  indent := .spaces 1
  buffer := "   orchard:\n    pear\n   gate\n\n   shed:\n"
  written := 5

theorem nestedParent_keeps_levels :
    Layout.levels (attach nestedParent unevenBlocks) = .ok [0, 1, 0, 0, 0, 1, 0] ∧
      Layout.isBalanced (attach nestedParent unevenBlocks) = true ∧
      (∃ lss, Layout.AreLevels (nestedParent :: unevenBlocks) lss ∧
        Layout.levels (attach nestedParent unevenBlocks) = .ok (separate 0 lss)) ∧
      ∃ v', Writer.writeStatement { template := "rake", before := -1 } insideUnevenBlock =
          .ok () v' ∧
        Writer.WrittenAt { template := "rake", before := -1 } (3 + 1) insideUnevenBlock v' := by
  have hblocks : unevenBlocks.all Layout.isBalanced = true := by decide +kernel
  have hlevels : Layout.levels [{ template := "shed:", after := 2 },
      { template := "rake", before := -1 }, { before := -1 }] = .ok [0, 1, 0] := by decide +kernel
  have hreached : Writer.Reaches { depth := 3, indent := .spaces 1 }
      (leading [nestedParent, []] ++ [{ template := "shed:", after := 2 }]) insideUnevenBlock :=
    Writer.writeFrom_eq_ok_iff_reaches.mp
      (by decide +kernel : Writer.writeFrom 0 _ _ = .ok () insideUnevenBlock)
  obtain ⟨-, hattach⟩ := attach_keeps_levels nestedParent unevenBlocks
  obtain ⟨hbalanced, hlss, hwritten⟩ := hattach (by decide +kernel) (List.all_eq_true.mp hblocks)
  obtain ⟨-, hat⟩ := hwritten [nestedParent, []] _ [[]] _ rfl hlevels (List.cons_ne_nil _ _)
  refine ⟨by decide +kernel, hbalanced, hlss, _, rfl, ?_⟩
  exact hat 1 1 _ rfl rfl _ _ _ hreached rfl

end Statement

end SourcePress
