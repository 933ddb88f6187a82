import SourcePress.Statement

/-!
# Layout

The depth at which a statement is written follows from the steps of indentation alone.  `shift` takes
one step and refuses to go below zero; `levels` computes the depths of a whole list of statements
without printing any of them.  A list is balanced when it never goes below zero and comes back to the
depth it started from.
-/

namespace SourcePress

namespace Layout

/-- Take a step of `delta` levels from `depth`. -/
def shift (depth : Nat) (delta : Int) : Except Error Nat :=
  if 0 ≤ (depth : Int) + delta then .ok ((depth : Int) + delta).toNat
  else .error (.indentUnderflow depth delta)

/-- The depth of a statement, and the depth after it. -/
def step (depth : Nat) (s : Statement) : Except Error (Nat × Nat) :=
  match shift depth s.before with
  | .error e => .error e
  | .ok level =>
    match shift level s.after with
    | .error e => .error e
    | .ok next => .ok (level, next)

/-- The depths of statements that start at `depth`, the first of them having number `index`. -/
def levelsFrom (depth index : Nat) : List Statement → Except Error (List Nat)
  | [] => .ok []
  | s :: rest =>
    match step depth s with
    | .error e => .error (.statement index e)
    | .ok (level, next) => (levelsFrom next (index + 1) rest).map (level :: ·)

/-- The depth that each statement is written at. -/
def levels (statements : List Statement) : Except Error (List Nat) := levelsFrom 0 0 statements

/-- The sum of all steps of a list of statements. -/
def netShift : List Statement → Int
  | [] => 0
  | s :: rest => s.before + s.after + netShift rest

/-- Do the statements close every block that they open, and never go below zero? -/
def isBalanced (statements : List Statement) : Bool :=
  netShift statements == 0 && (levels statements).isOk

/-- A step succeeds exactly when it does not lead below zero. -/
theorem shift_eq_ok_iff {depth next : Nat} {delta : Int} :
    shift depth delta = .ok next ↔ (depth : Int) + delta = next := by
  unfold shift
  split
  · constructor
    · intro h
      injection h
      omega
    · intro h
      congr
      omega
  · constructor
    · intro h
      cases h
    · intro h
      omega

@[simp] theorem levelsFrom_nil (depth index : Nat) : levelsFrom depth index [] = .ok [] := rfl

@[simp] theorem netShift_nil : netShift [] = 0 := rfl

@[simp] theorem netShift_cons (s : Statement) (rest : List Statement) :
    netShift (s :: rest) = s.before + s.after + netShift rest := rfl

@[simp] theorem netShift_append (xs ys : List Statement) :
    netShift (xs ++ ys) = netShift xs + netShift ys := by
  induction xs with
  | nil => simp
  | cons s rest ih =>
    rw [List.cons_append, netShift_cons, netShift_cons, ih]
    omega

end Layout

end SourcePress
