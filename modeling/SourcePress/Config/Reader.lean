import SourcePress.Config.Basic
import SourcePress.Error
import SourcePress.Toml.Reader

/-!
# Reading a configuration

A configuration may be written as a TOML document with two optional keys.  `home` is a text, taken as
it is.  `indent` is the text `tab`, or a table with the one key `spaces` and a width below 256; a table
with the one key `tab` also means tabs if nothing is in it, neither in a table nor in a list.  Any
other key, value or form makes the whole document invalid.
-/

namespace SourcePress.Config

/-- The path of the unit that an entry sets. -/
def homeOf? : Option Toml.Entry → Option (Option String)
  | none => some none
  | some (.text path) => some (some path)
  | some _ => none

/-- The indentation that an entry sets. -/
def indentOf? : Option Toml.Entry → Option Indent
  | none => some .tab
  | some (.text "tab") => some .tab
  | some (.table _ [("spaces", .whole width)]) =>
    if 0 ≤ width ∧ width < 256 then some (.spaces (UInt8.ofNat width.toNat)) else none
  | some (.table _ [("tab", .table _ [])]) => some .tab
  | some (.table _ [("tab", .emptyList)]) => some .tab
  | some _ => none

/-- The configuration that a table describes. -/
def ofTable? (t : Toml.Table) : Option Config := do
  guard (t.keys.all fun key => key = "indent" || key = "home")
  return { indent := ← indentOf? (t.find? "indent"), home := ← homeOf? (t.find? "home") }

/-- Read a configuration. -/
def ofToml (source : String) : Except Error Config :=
  match (Toml.Table.ofText? source).bind ofTable? with
  | some config => .ok config
  | none => .error .config

end SourcePress.Config
