/-!
# Values, and putting tables together

The values of a TOML document. A table keeps its entries in the order of the file,
because that order decides which of several mistakes is reported. A table, or a list of
tables, also remembers how it came to be written. Nothing that reads a finished document asks
for it; it decides, while the document is put together, who may still add to the table.

A table may be written in pieces – under its heading, by dotted keys, by headings of
tables inside it – but it may be *defined* only once. This module adds pieces to a
table, and refuses the ones that would define something twice:

* a key is given a value once;
* a value in braces or brackets is closed, and nothing is added to it;
* a dotted key may pass through a table that was only passed through, not through
  one that has a heading, and it may end only in a table made by dotted keys;
* a heading may open a table that headings further down have passed through, which
  keeps what it has; it may not open one again that has been opened, or one made by
  dotted keys.

A list of tables grows by a heading in double brackets, and whatever passes through
the list means its last table.
-/

namespace PeerTelemetry.Toml

/-! ## Values -/

/-- **How a table came to be written**, or a list of them. -/
inductive Origin
  /-- Within one value, in brackets or braces, which closes it. -/
  | inline
  /-- Under a heading of its own. -/
  | heading
  /-- By a heading further down that passes through it. -/
  | implied
  /-- By a dotted key that passes through it. -/
  | dotted
  deriving DecidableEq, Repr

/-- **A value.** The bits of a floating-point number are those of the 64-bit
format. Of a date or a time only its text is kept. -/
inductive Value
  | string (text : String)
  | integer (n : Int)
  | float (bits : UInt64)
  | boolean (b : Bool)
  | datetime (text : String)
  | array (origin : Origin) (items : List Value)
  | table (origin : Origin) (entries : List (String × Value))

/-- The entries of a table, in the order of the file. -/
abbrev Entries := List (String × Value)

/-- **Why a text is no document**, in the words of what reads it. -/
structure Error where
  message : String
  deriving DecidableEq, Repr

/-- **What reads documents**: it gives the entries of the table that a text says. -/
abbrev Reader := String → Except Error Entries

/-! ## Tables in pieces -/

/-- What passes through a table: a dotted key, or a heading. -/
inductive Passage
  | dottedKey
  | heading
  deriving DecidableEq, Repr

/-- How a table is marked that a passage had to make. -/
def Passage.origin : Passage → Origin
  | dottedKey => .dotted
  | heading => .implied

/-- Whether a passage may go through a table of the given origin. -/
def Passage.mayPass (passage : Passage) (origin : Origin) : Bool :=
  match origin, passage with
  | .inline, _ => false
  | .heading, .dottedKey => false
  | _, _ => true

namespace Entries

/-- Gives a key a value in place of the one it has, where it stands. -/
def replace (entries : Entries) (key : String) (value : Value) : Entries :=
  entries.map fun (k, v) => if k = key then (k, value) else (k, v)

/-- The entries without a key. -/
def erase (entries : Entries) (key : String) : Entries :=
  entries.filter fun (k, _) => k ≠ key

/-- The entries with one more at the end. -/
def append (entries : Entries) (key : String) (value : Value) : Entries :=
  entries ++ [(key, value)]

end Entries

/-- **Changes the table at the end of a path**, and makes the tables on the way that
are missing. The change is told the origin of the table and given its entries. -/
def atPath (passage : Passage) (change : Origin → Entries → Option Entries) :
    List String → Origin → Entries → Option Entries
  | [], origin, entries => change origin entries
  | key :: path, _, entries =>
    match entries.lookup key with
    | none => do
      let inner ← atPath passage change path passage.origin []
      return Entries.append entries key (.table passage.origin inner)
    | some (.table origin inner) =>
      if passage.mayPass origin then do
        let inner ← atPath passage change path origin inner
        return Entries.replace entries key (.table origin inner)
      else none
    | some (.array .heading items) =>
      match items.getLast? with
      | some (.table origin inner) => do
        let inner ← atPath passage change path origin inner
        let items := items.dropLast ++ [.table origin inner]
        return Entries.replace entries key (.array .heading items)
      | _ => none
    | some _ => none

/-- **A key with its value**, as a line of a document or an entry in braces gives it. -/
structure Assignment where
  /-- The keys in front of the last dot. -/
  path : List String
  key : String
  value : Value

/-- The change that gives a key its value. A dotted key ends in a table made by dotted
keys, and a key without dots does not. -/
def Assignment.change (a : Assignment) (origin : Origin) (entries : Entries) : Option Entries :=
  if origin = .dotted ↔ a.path = [] then none
  else match entries.lookup a.key with
    | some _ => none
    | none => some (Entries.append entries a.key a.value)

/-- **Adds assignments**, in order, to a table of the given origin. -/
def addAssignments (origin : Origin) (entries : Entries) (assignments : List Assignment) :
    Option Entries :=
  assignments.foldlM (fun entries a => atPath .dottedKey a.change a.path origin entries) entries

/-- **A heading**, which says where the assignments below it go. -/
structure Heading where
  path : List String
  key : String
  /-- Whether it stands in double brackets, and begins a table of a list. -/
  isElement : Bool

/-- **A section** of a document: a heading and the assignments below it. -/
structure Section where
  heading : Heading
  assignments : List Assignment

/-- The change that a section makes to the table which its heading names a key of. -/
def Section.change (t : Section) (_ : Origin) (entries : Entries) : Option Entries :=
  let key := t.heading.key
  if t.heading.isElement then do
    let element ← addAssignments .heading [] t.assignments
    match entries.lookup key with
    | none => return Entries.append entries key (.array .heading [.table .heading element])
    | some (.array .heading items) =>
      return Entries.replace entries key (.array .heading (items ++ [.table .heading element]))
    | some _ => none
  else
    match entries.lookup key with
    | none => do
      let inner ← addAssignments .heading [] t.assignments
      return Entries.append entries key (.table .heading inner)
    | some (.table .implied inner) => do
      let inner ← addAssignments .heading inner t.assignments
      return Entries.append (Entries.erase entries key) key (.table .heading inner)
    | some _ => none

/-- **The table of a document**: the assignments in front of the first heading, then the
sections. -/
def tableOf (top : List Assignment) (sections : List Section) : Option Entries := do
  let entries ← addAssignments .heading [] top
  sections.foldlM (fun entries t => atPath .heading t.change t.heading.path .heading entries)
    entries

end PeerTelemetry.Toml
