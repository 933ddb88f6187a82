import SourcePress.Proofs.FailedWriting
import SourcePress.SourceFile

/-!
# Blocks with a blank line between two of them

Blocks of statements stand behind one another in two places.  `Statement.attach` puts them into one
list, block by block, and decides at each of them whether a blank line is due.
`SourceFile.writeBlocks` makes no list: it drops the empty blocks first, and then writes the others
and the blank lines in turn.

Both are compared with one list, `separate`.  Attaching gives this list (`attach_eq_separate`).  For
the writer, `GetsPast` names the moment at which the turn of a block comes: everything in front of it
is written, the blank line behind each block included.  From there a run over blocks goes on as if it
started (`writeBlocks_of_getsPast`), and a run over the one list does too, except that its numbers of
statements have moved on (`GetsPast.writeFrom_eq`).
-/

namespace SourcePress

/-! ## Lists -/

section Lists

variable {α : Type}

/-- The blocks that are not empty, behind one another, with `gap` between two of them. -/
def separate (gap : α) (blocks : List (List α)) : List α :=
  ((blocks.filter (!·.isEmpty)).intersperse [gap]).flatten

theorem intersperse_cons_of_ne_nil {gap x : α} {xs : List α} (h : xs ≠ []) :
    (x :: xs).intersperse gap = x :: gap :: xs.intersperse gap := by
  obtain ⟨y, ys, rfl⟩ := List.exists_cons_of_ne_nil h
  exact List.intersperse_cons_cons

/-- Every block in front of another one has a gap behind it. -/
theorem flatten_intersperse_append (gap : α) (front : List (List α)) {back : List (List α)}
    (hback : back ≠ []) :
    ((front ++ back).intersperse [gap]).flatten =
      front.flatMap (· ++ [gap]) ++ (back.intersperse [gap]).flatten := by
  induction front with
  | nil => rfl
  | cons block rest ih =>
    have hrest : rest ++ back ≠ [] := List.append_ne_nil_of_right_ne_nil rest hback
    rw [List.cons_append, intersperse_cons_of_ne_nil hrest, List.flatten_cons, List.flatten_cons, ih,
      List.flatMap_cons, List.append_assoc, List.append_assoc]

/-- Each block with a gap behind it: the blocks count, and one gap for each. -/
theorem length_flatMap_gap (gap : α) (blocks : List (List α)) :
    (blocks.flatMap (· ++ [gap])).length = blocks.flatten.length + blocks.length := by
  induction blocks with
  | nil => rfl
  | cons block rest ih =>
    rw [List.flatMap_cons, List.length_append, List.length_append, List.length_singleton, ih,
      List.flatten_cons, List.length_append, List.length_cons]
    omega

theorem filter_cons_of_ne_nil {block : List α} (h : block ≠ []) (blocks : List (List α)) :
    (block :: blocks).filter (!·.isEmpty) = block :: blocks.filter (!·.isEmpty) :=
  List.filter_cons_of_pos (by simpa using h)

@[simp] theorem separate_nil_cons (gap : α) (blocks : List (List α)) :
    separate gap ([] :: blocks) = separate gap blocks := rfl

theorem separate_eq_nil_iff {gap : α} {blocks : List (List α)} :
    separate gap blocks = [] ↔ blocks.filter (!·.isEmpty) = [] := by
  constructor
  · intro h
    cases hfilter : blocks.filter (!·.isEmpty) with
    | nil => rfl
    | cons block rest =>
      -- the first block of these is not empty, so neither is the whole
      have hblock : block ≠ [] := by
        have hmem : block ∈ blocks.filter (!·.isEmpty) := by
          rw [hfilter]
          exact List.mem_cons_self
        simpa using (List.mem_filter.mp hmem).2
      rw [separate, hfilter] at h
      cases rest with
      | nil => exact absurd (by simpa using h) hblock
      | cons next others => simp at h
  · intro h
    rw [separate, h]
    rfl

/-- A block that nothing follows has no gap behind it. -/
theorem separate_cons_of_eq_nil {gap : α} {blocks : List (List α)} (h : separate gap blocks = [])
    (block : List α) : separate gap (block :: blocks) = block := by
  by_cases hblock : block = []
  · rw [hblock, separate_nil_cons, h]
  · rw [separate, filter_cons_of_ne_nil hblock, separate_eq_nil_iff.mp h, List.intersperse_singleton,
      List.flatten_singleton]

/-- A block that something follows has a gap behind it. -/
theorem separate_cons_of_ne_nil {gap : α} {block : List α} {blocks : List (List α)}
    (hblock : block ≠ []) (h : separate gap blocks ≠ []) :
    separate gap (block :: blocks) = block ++ gap :: separate gap blocks := by
  have hfilter : blocks.filter (!·.isEmpty) ≠ [] := mt separate_eq_nil_iff.mpr h
  rw [separate, filter_cons_of_ne_nil hblock, intersperse_cons_of_ne_nil hfilter, List.flatten_cons,
    List.flatten_cons, List.singleton_append, separate]

/-- What a first block does: it counts for nothing, it is all there is, or a gap stands behind it. -/
theorem separate_cons_cases (gap : α) (block : List α) (blocks : List (List α)) :
    (block = [] ∧ separate gap (block :: blocks) = separate gap blocks) ∨
      (block ≠ [] ∧ separate gap blocks = [] ∧ separate gap (block :: blocks) = block) ∨
      (block ≠ [] ∧ separate gap blocks ≠ [] ∧
        separate gap (block :: blocks) = block ++ gap :: separate gap blocks) := by
  by_cases hblock : block = []
  · exact Or.inl ⟨hblock, by rw [hblock, separate_nil_cons]⟩
  · by_cases hrest : separate gap blocks = []
    · exact Or.inr (Or.inl ⟨hblock, hrest, separate_cons_of_eq_nil hrest block⟩)
    · exact Or.inr (Or.inr ⟨hblock, hrest, separate_cons_of_ne_nil hblock hrest⟩)

/-- Two blocks with a gap between them count as one. -/
theorem separate_cons_cons (gap : α) {xs ys : List α} (hxs : xs ≠ []) (hys : ys ≠ [])
    (blocks : List (List α)) :
    separate gap (xs :: ys :: blocks) = separate gap ((xs ++ gap :: ys) :: blocks) := by
  have hjoined : xs ++ gap :: ys ≠ [] := List.append_ne_nil_of_left_ne_nil hxs _
  by_cases hrest : separate gap blocks = []
  · have hsecond : separate gap (ys :: blocks) = ys := separate_cons_of_eq_nil hrest ys
    rw [separate_cons_of_eq_nil hrest, separate_cons_of_ne_nil hxs (by rw [hsecond]; exact hys),
      hsecond]
  · have hsecond : separate gap (ys :: blocks) = ys ++ gap :: separate gap blocks :=
      separate_cons_of_ne_nil hys hrest
    rw [separate_cons_of_ne_nil hjoined hrest, separate_cons_of_ne_nil hxs (by rw [hsecond]; simp),
      hsecond, List.append_assoc, List.cons_append]

/-- What holds of the gap holds of all elements exactly when it holds of those in the blocks. -/
theorem forall_mem_separate (p : α → Prop) {gap : α} (hgap : p gap) {blocks : List (List α)} :
    (∀ x ∈ separate gap blocks, p x) ↔ ∀ block ∈ blocks, ∀ x ∈ block, p x := by
  induction blocks with
  | nil => simp [separate]
  | cons block rest ih =>
    rw [List.forall_mem_cons, ← ih]
    rcases separate_cons_cases gap block rest with ⟨hblock, heq⟩ | ⟨-, hrest, heq⟩ | ⟨-, -, heq⟩
    · rw [heq, hblock]
      exact (and_iff_right fun x hx => absurd hx List.not_mem_nil).symm
    · rw [heq, hrest]
      exact (and_iff_left fun x hx => absurd hx List.not_mem_nil).symm
    · rw [heq, List.forall_mem_append, List.forall_mem_cons, and_iff_right hgap]

/-- What the gap has nothing of is collected from the blocks alone. -/
theorem flatMap_separate {β : Type} {g : α → List β} {gap : α} (hgap : g gap = [])
    (blocks : List (List α)) : (separate gap blocks).flatMap g = blocks.flatten.flatMap g := by
  induction blocks with
  | nil => rfl
  | cons block rest ih =>
    rw [List.flatten_cons, List.flatMap_append, ← ih]
    rcases separate_cons_cases gap block rest with ⟨hblock, heq⟩ | ⟨-, hrest, heq⟩ | ⟨-, -, heq⟩
    · rw [heq, hblock, List.flatMap_nil, List.nil_append]
    · rw [heq, hrest, List.flatMap_nil, List.append_nil]
    · rw [heq, List.flatMap_append, List.flatMap_cons, hgap, List.nil_append]

end Lists

namespace Statement

theorem separate_attachOne (parent block : List Statement) (blocks : List (List Statement)) :
    separate blank (attachOne parent block :: blocks) =
      separate blank (parent :: block :: blocks) := by
  by_cases hparent : parent = []
  · rw [hparent, nil_attachOne, separate_nil_cons]
  · by_cases hblock : block = []
    · rw [hblock, attachOne_nil]
      rfl
    · rw [attachOne_of_ne_nil hparent hblock, separate_cons_cons blank hparent hblock]

/-- **Attaching blocks separates them**, the parent being the first block. -/
theorem attach_eq_separate (parent : List Statement) (blocks : List (List Statement)) :
    attach parent blocks = separate blank (parent :: blocks) := by
  induction blocks generalizing parent with
  | nil =>
    cases parent with
    | nil => rfl
    | cons s rest => exact (List.append_nil _).symm
  | cons block rest ih =>
    show attach (attachOne parent block) rest = _
    rw [ih, separate_attachOne]

end Statement

/-! ## The turn of a block -/

namespace Writer

/-- The blank line is written at every depth, and changes nothing but the text. -/
theorem writeStatement_blank (w : Writer) :
    writeStatement .blank w = .ok () (w.advance w.depth w.depth []) := by
  have hstep : Layout.step w.depth .blank = .ok (w.depth, w.depth) :=
    Layout.step_eq_ok_iff.mpr ⟨Int.add_zero _, Int.add_zero _⟩
  exact writeStatement_of_pieces hstep rfl

/-- Writing the blocks, each with a blank line behind it, leads from the first writer to the second.
So this is the writer that the next block starts with. -/
def GetsPast (w : Writer) (blocks : List (List Statement)) (v : Writer) : Prop :=
  Reaches w (blocks.flatMap (· ++ [Statement.blank])) v

theorem reaches_append_iff {w w' : Writer} {xs ys : List Statement} :
    Reaches w (xs ++ ys) w' ↔ ∃ v, Reaches w xs v ∧ Reaches v ys w' := by
  constructor
  · intro h
    have hwritten : writeFrom 0 (xs ++ ys) w = .ok () w' := writeFrom_eq_ok_iff_reaches.mpr h
    obtain ⟨v, hxs, hys⟩ := writeFrom_append_eq_ok_iff.mp hwritten
    exact ⟨v, writeFrom_eq_ok_iff_reaches.mp hxs, writeFrom_eq_ok_iff_reaches.mp hys⟩
  · rintro ⟨v, hxs, hys⟩
    have hwritten : writeFrom 0 (xs ++ ys) w = .ok () w' :=
      writeFrom_append_eq_ok_iff.mpr
        ⟨v, writeFrom_eq_ok_iff_reaches.mpr hxs, writeFrom_eq_ok_iff_reaches.mpr hys⟩
    exact writeFrom_eq_ok_iff_reaches.mp hwritten

theorem getsPast_nil (w : Writer) : GetsPast w [] w := Reaches.nil w

/-- One block, its blank line, and then the others. -/
theorem getsPast_cons_iff {w u : Writer} {block : List Statement} {rest : List (List Statement)} :
    GetsPast w (block :: rest) u ↔
      ∃ v, writeBlock block w = .ok () v ∧ GetsPast (v.advance v.depth v.depth []) rest u := by
  rw [GetsPast, List.flatMap_cons, List.append_assoc, reaches_append_iff]
  constructor
  · rintro ⟨v, hblock, hrest⟩
    refine ⟨v, writeFrom_eq_ok_iff_reaches.mpr hblock, ?_⟩
    cases hrest with
    | cons hblank hrest =>
      rw [writeStatement_blank] at hblank
      injection hblank with _ hblank
      rw [GetsPast, hblank]
      exact hrest
  · rintro ⟨v, hblock, hrest⟩
    exact ⟨v, writeFrom_eq_ok_iff_reaches.mp hblock, Reaches.cons (writeStatement_blank v) hrest⟩

/-- A list of statements behind blocks that are written is written from the writer that the blocks
lead to.  Its numbers start behind those of the blocks and of their blank lines. -/
theorem GetsPast.writeFrom_eq {w v : Writer} {front : List (List Statement)}
    (h : GetsPast w front v) (index : Nat) (rest : List Statement) :
    writeFrom index (front.flatMap (· ++ [Statement.blank]) ++ rest) w =
      writeFrom (index + (front.flatten.length + front.length)) rest v := by
  have hfront : writeFrom index (front.flatMap (· ++ [Statement.blank])) w = .ok () v :=
    writeFrom_eq_ok_iff_reaches.mpr h
  rw [writeFrom_append, hfront, length_flatMap_gap]

end Writer

/-! ## Runs over blocks -/

namespace SourceFile

open Writer (GetsPast FailsAt)

/-- What a run does with a block that has others behind it. -/
theorem writeBlocks_cons_cons (block next : List Statement) (rest : List (List Statement))
    (w : Writer) :
    writeBlocks (block :: next :: rest) w =
      match Writer.writeBlock block w with
      | .error e v => .error e v
      | .ok () v => writeBlocks (next :: rest) (v.advance v.depth v.depth []) := by
  show EStateM.bind (Writer.writeBlock block) _ w = _
  unfold EStateM.bind
  cases Writer.writeBlock block w with
  | error e v => rfl
  | ok u v =>
    show EStateM.bind (Writer.writeStatement .blank) _ v = _
    unfold EStateM.bind
    rw [Writer.writeStatement_blank]

/-- **A run that has got past some blocks goes on with the next one.** -/
theorem writeBlocks_of_getsPast {w v : Writer} {front : List (List Statement)}
    (h : GetsPast w front v) (block : List Statement) (back : List (List Statement)) :
    writeBlocks (front ++ block :: back) w = writeBlocks (block :: back) v := by
  induction front generalizing w with
  | nil =>
    cases h
    rfl
  | cons first rest ih =>
    obtain ⟨u, hfirst, hrest⟩ := Writer.getsPast_cons_iff.mp h
    -- the first block has another one behind it
    obtain ⟨next, others, hnext⟩ := List.exists_cons_of_ne_nil
      (List.append_ne_nil_of_right_ne_nil rest (List.cons_ne_nil block back))
    rw [← ih hrest, List.cons_append, hnext, writeBlocks_cons_cons, hfirst]

/-- **A run fails at a block whose turn comes**, with the error of that block. -/
theorem exists_getsPast_of_writeBlocks_eq_error {blocks : List (List Statement)} {w w' : Writer}
    {e : Error} (h : writeBlocks blocks w = .error e w') :
    ∃ front block back v, blocks = front ++ block :: back ∧ GetsPast w front v ∧
      Writer.writeBlock block v = .error e w' := by
  induction blocks generalizing w with
  | nil => cases h
  | cons block rest ih =>
    cases rest with
    | nil => exact ⟨[], block, [], w, rfl, Writer.getsPast_nil w, h⟩
    | cons next rest =>
      rw [writeBlocks_cons_cons] at h
      cases hblock : Writer.writeBlock block w with
      | error e' v =>
        rw [hblock] at h
        exact ⟨[], block, next :: rest, w, rfl, Writer.getsPast_nil w, hblock.trans h⟩
      | ok u v =>
        rw [hblock] at h
        obtain ⟨front, failing, back, v', hsplit, hpast, hfails⟩ := ih h
        refine ⟨block :: front, failing, back, v', ?_, ?_, hfails⟩
        · rw [hsplit, List.cons_append]
        · exact Writer.getsPast_cons_iff.mpr ⟨v, hblock, hpast⟩

end SourceFile

end SourcePress
