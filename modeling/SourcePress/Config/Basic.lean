/-!
# Configuration

What can be chosen about the printing of a unit: the indentation, and the path of the unit itself.
Text is indented by one unit for each level: a tab, or a fixed number of spaces, which may be zero.
-/

namespace SourcePress

/-! ## Indentation -/

/-- What one level of indentation is written as. -/
inductive Indent where
  | tab
  | spaces (width : UInt8)
deriving DecidableEq, Repr

namespace Indent

/-- Levels are written as tabs unless the caller says otherwise. -/
instance : Inhabited Indent := ⟨tab⟩

/-- The character that indentation is made of. -/
def fill : Indent → Char
  | tab => '\t'
  | spaces _ => ' '

/-- The number of characters for one level. -/
def width : Indent → Nat
  | tab => 1
  | spaces width => width.toNat

/-- The text of one level. -/
def unit (i : Indent) : String := String.ofList (List.replicate i.width i.fill)

/-- The text of `depth` levels. -/
def margin (i : Indent) (depth : Nat) : String :=
  String.ofList (List.replicate (i.width * depth) i.fill)

@[simp] theorem margin_zero (i : Indent) : i.margin 0 = "" := by
  simp [margin]

/-- One more level is one more unit. -/
theorem margin_succ (i : Indent) (depth : Nat) :
    i.margin (depth + 1) = i.unit ++ i.margin depth := by
  rw [margin, margin, unit, ← String.ofList_append, List.replicate_append_replicate, Nat.mul_succ,
    Nat.add_comm]

end Indent

/-! ## Configuration of a unit -/

/-- How a unit is printed. -/
structure Config where
  /-- What one level of indentation is written as. -/
  indent : Indent := .tab
  /-- The path of the unit itself.  References to it are never imported. -/
  home : Option String := none
deriving DecidableEq, Repr

end SourcePress
