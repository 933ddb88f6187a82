/-!
# Tables of settings

A TOML document defines a table: keys with their entries, in order, some of which are tables again.
The entries that a setting can be made of are texts, whole numbers, empty lists and tables.

A table may be defined in four ways: by a header, by being passed through on the way to the table of
a header, by a dotted key, or between braces.  Which of them decides whether it can be defined or
extended once more, so every table remembers its origin.  `openTable` and `assign` are the two ways in
which a table grows, and they refuse whatever would define something twice.  Both go down along a path
of keys and are instances of `define`.
-/

namespace SourcePress.Toml

/-- How a table was defined. -/
inductive Origin where
  /-- By a header of its own. -/
  | header
  /-- On the way to the table of another header. -/
  | implied
  /-- By a dotted key. -/
  | dotted
  /-- Between braces.  Such a table is complete. -/
  | inline
deriving DecidableEq, Repr

/-- What a key is defined as. -/
inductive Entry where
  | text (s : String)
  | whole (n : Int)
  | emptyList
  | table (origin : Origin) (members : List (String × Entry))

/-- Keys with their entries, in the order of their definition. -/
abbrev Table := List (String × Entry)

namespace Table

/-- The keys of a table. -/
def keys (t : Table) : List String := t.map Prod.fst

/-- The entry of a key. -/
def find? (t : Table) (key : String) : Option Entry := t.lookup key

/-- Give a key an entry: in its place if the key is there, otherwise at the end. -/
def put (key : String) (entry : Entry) : Table → Table
  | [] => [(key, entry)]
  | (k, e) :: rest => if k = key then (k, entry) :: rest else (k, e) :: put key entry rest

/-- Go down along keys and change the entry at the end.  A missing table on the way is made with the
origin `made`; one that is there must have an origin that may be passed. -/
def define (made : Origin) (mayPass : Origin → Bool) (change : Option Entry → Option Entry) :
    List String → Table → Option Table
  | [], _ => none
  | [key], t => (change (t.find? key)).map fun entry => t.put key entry
  | key :: rest, t =>
    match t.find? key with
    | none =>
      (define made mayPass change rest []).map fun inner => t.put key (.table made inner)
    | some (.table origin inner) =>
      if mayPass origin then
        (define made mayPass change rest inner).map fun inner => t.put key (.table origin inner)
      else none
    | some _ => none

/-- Define the table of a header.  It may be there if it was only passed through before. -/
def openTable (path : List String) (t : Table) : Option Table :=
  t.define .implied (· ≠ .inline)
    (fun
      | none => some (.table .header [])
      | some (.table .implied inner) => some (.table .header inner)
      | some _ => none)
    path

/-- Define the entry at a dotted key.  It may not be there yet. -/
def assign (dottedKey : List String) (entry : Entry) (t : Table) : Option Table :=
  t.define .dotted (· = .dotted)
    (fun
      | none => some entry
      | some _ => none)
    dottedKey

/-- Change the table at a path of tables. -/
def within (change : Table → Option Table) : List String → Table → Option Table
  | [], t => change t
  | key :: rest, t =>
    match t.find? key with
    | some (.table origin inner) =>
      (within change rest inner).map fun inner => t.put key (.table origin inner)
    | _ => none

@[simp] theorem find?_nil (key : String) : find? [] key = none := rfl

/-- What is put under a key is found there, and other keys keep their entries. -/
theorem find?_put (key other : String) (entry : Entry) (t : Table) :
    (t.put key entry).find? other = if other = key then some entry else t.find? other := by
  induction t with
  | nil =>
    by_cases h : other = key
    · simp [put, find?, h]
    · have hn : (other == key) = false := beq_eq_false_iff_ne.mpr h
      simp [put, find?, List.lookup_cons, hn, h]
  | cons pair rest ih =>
    obtain ⟨k, e⟩ := pair
    simp only [find?] at ih ⊢
    rw [put]
    by_cases hk : k = key
    · subst hk
      by_cases h : other = k
      · simp [h]
      · have hn : (other == k) = false := beq_eq_false_iff_ne.mpr h
        simp [List.lookup_cons, hn, h]
    · rw [if_neg hk, List.lookup_cons, List.lookup_cons]
      by_cases h : other = k
      · subst h
        simp [hk]
      · have hn : (other == k) = false := beq_eq_false_iff_ne.mpr h
        simp [hn, ih]

end Table

end SourcePress.Toml
