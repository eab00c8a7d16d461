import Mathlib.Data.Nat.Digits.Defs
import PeerTelemetry.Proofs.FloatGrammar
import PeerTelemetry.Toml.Date
import PeerTelemetry.Toml.Table

/-!
# The grammar of documents

Which texts are documents, and what they say. There is a relation for every kind of phrase,
between the characters of the phrase and what it stands for; a phrase is put together from
smaller ones that follow each other. Nothing is said about how a phrase is found in a text, and no
scanner occurs here.

So a value is what `Denotes` relates its characters to, a document is a row of lines
(`Document`), and it says the table that its statements define (`Says`). Where the text of a phrase
is not what the phrase stands for, the difference is in one place each: an escape is one character
(`Escape`), a line end in a string is one line feed, and what a backslash drops is nothing
(`MultilineBasicText`); underscores between digits are nothing (`DigitRow`).

A table that is written in pieces is not a phrase, since its pieces need not follow each other. But
what each of them makes of the table so far is a relation, too (`Assignment.Adds`,
`Section.Opens`), which there is none of where a piece would define something twice. What they
define is what they make of the empty table in turn (`Defines`).

Readers differ in two points that the language leaves to them, and these are a parameter
(`Limits`). A reader that goes by the grammar otherwise `Follows` it.
-/

namespace PeerTelemetry.Toml

/-- **What a reader need not take**, although the language has it. -/
structure Limits where
  /-- How many levels of brackets and braces a value may have, and how many parts a key. -/
  depth : ℕ
  /-- The numbers with a point or an exponent that are taken. -/
  Takes : FloatLiteral → Prop

/-! ## Blanks, lines, comments -/

/-- **A character that text holds as it is**: no control character but the tab. -/
def TextChar (c : Char) : Prop := c = '\t' ∨ ' ' ≤ c ∧ c ≠ '\x7f'

/-- Blanks within a line, or nothing. -/
def Blanks (w : List Char) : Prop := ∀ c ∈ w, c = ' ' ∨ c = '\t'

/-- The end of a line. -/
inductive Newline : List Char → Prop
  | lineFeed : Newline ['\n']
  | carriageReturn : Newline ['\r', '\n']

/-- A comment, or nothing. -/
inductive Comment : List Char → Prop
  | none : Comment []
  | marked {text : List Char} : (∀ c ∈ text, TextChar c) → Comment ('#' :: text)

/-- **What may stand around the items of an array**: blanks, and ends of lines with or without a
comment. -/
inductive Filler : List Char → Prop
  | nil : Filler []
  | blank {c : Char} {w : List Char} : c = ' ' ∨ c = '\t' → Filler w → Filler (c :: w)
  | line {comment newline w : List Char} : Comment comment → Newline newline → Filler w →
    Filler (comment ++ (newline ++ w))

/-! ## Digits -/

/-- The sixteen digits in small letters. -/
def smallDigits : List Char :=
  ['0', '1', '2', '3', '4', '5', '6', '7', '8', '9', 'a', 'b', 'c', 'd', 'e', 'f']

/-- The sixteen digits in capitals. -/
def capitalDigits : List Char :=
  ['0', '1', '2', '3', '4', '5', '6', '7', '8', '9', 'A', 'B', 'C', 'D', 'E', 'F']

/-- **The value of a digit**: its place among the sixteen. -/
def digitValue? (c : Char) : Option ℕ := (smallDigits.idxOf? c).or (capitalDigits.idxOf? c)

/-- A digit of a base. -/
def Digit (base : ℕ) (c : Char) : Prop := ∃ n < base, digitValue? c = some n

/-- **The number that digits denote** in a base. -/
def numeral (base : ℕ) (digits : List Char) : ℕ :=
  Nat.ofDigits base (digits.reverse.map fun c => (digitValue? c).getD 0)

/-! ## Strings -/

/-- **An escape**, without its backslash, and the character that it is. -/
inductive Escape : List Char → Char → Prop
  | backspace : Escape ['b'] '\x08'
  | tab : Escape ['t'] '\t'
  | lineFeed : Escape ['n'] '\n'
  | formFeed : Escape ['f'] '\x0c'
  | carriageReturn : Escape ['r'] '\r'
  | quotationMark : Escape ['"'] '"'
  | backslash : Escape ['\\'] '\\'
  | short {a b c d e : Char} : (∀ digit ∈ [a, b, c, d], Digit 16 digit) →
    numeral 16 [a, b, c, d] = e.toNat → Escape ['u', a, b, c, d] e
  | long {a b c d e f g h i : Char} : (∀ digit ∈ [a, b, c, d, e, f, g, h], Digit 16 digit) →
    numeral 16 [a, b, c, d, e, f, g, h] = i.toNat → Escape ['U', a, b, c, d, e, f, g, h] i

/-- **What stands between quotation marks**, and the text that it is. -/
inductive BasicText : List Char → List Char → Prop
  | nil : BasicText [] []
  | plain {c : Char} {w text : List Char} : TextChar c → c ≠ '"' → c ≠ '\\' → BasicText w text →
    BasicText (c :: w) (c :: text)
  | escaped {escape w text : List Char} {c : Char} : Escape escape c → BasicText w text →
    BasicText ('\\' :: (escape ++ w)) (c :: text)

/-- Blanks and ends of lines. -/
inductive LineSpace : List Char → Prop
  | nil : LineSpace []
  | blank {c : Char} {w : List Char} : c = ' ' ∨ c = '\t' → LineSpace w → LineSpace (c :: w)
  | newline {newline w : List Char} : Newline newline → LineSpace w → LineSpace (newline ++ w)

/-- A text that begins with a blank or with the end of a line. -/
def BeginsWithSpace (w : List Char) : Prop := ∃ c ∈ w.head?, c ∈ [' ', '\t', '\n', '\r']

/-- **What stands between tripled quotation marks**, and the text that it is. There are never three
of them in a row, and a backslash at the end of a line drops all space up to what follows. -/
inductive MultilineBasicText : List Char → List Char → Prop
  | nil : MultilineBasicText [] []
  | plain {c : Char} {w text : List Char} : TextChar c → c ≠ '"' → c ≠ '\\' →
    MultilineBasicText w text → MultilineBasicText (c :: w) (c :: text)
  | escaped {escape w text : List Char} {c : Char} : Escape escape c → MultilineBasicText w text →
    MultilineBasicText ('\\' :: (escape ++ w)) (c :: text)
  | quote {w text : List Char} : ¬['"', '"'] <+: w → MultilineBasicText w text →
    MultilineBasicText ('"' :: w) ('"' :: text)
  | newline {newline w text : List Char} : Newline newline → MultilineBasicText w text →
    MultilineBasicText (newline ++ w) ('\n' :: text)
  | brokenLine {blanks newline space w text : List Char} : Blanks blanks → Newline newline →
    LineSpace space → ¬BeginsWithSpace w → MultilineBasicText w text →
    MultilineBasicText ('\\' :: (blanks ++ (newline ++ (space ++ w)))) text

/-- **What stands between tripled apostrophes**, and the text that it is. -/
inductive MultilineLiteralText : List Char → List Char → Prop
  | nil : MultilineLiteralText [] []
  | plain {c : Char} {w text : List Char} : TextChar c → c ≠ '\'' → MultilineLiteralText w text →
    MultilineLiteralText (c :: w) (c :: text)
  | quote {w text : List Char} : ¬['\'', '\''] <+: w → MultilineLiteralText w text →
    MultilineLiteralText ('\'' :: w) ('\'' :: text)
  | newline {newline w text : List Char} : Newline newline → MultilineLiteralText w text →
    MultilineLiteralText (newline ++ w) ('\n' :: text)

/-- **A string of one line**, and its text. -/
inductive LineString : List Char → String → Prop
  | basic {w text : List Char} : BasicText w text →
    LineString ('"' :: (w ++ ['"'])) (String.ofList text)
  | literal {text : List Char} : (∀ c ∈ text, TextChar c ∧ c ≠ '\'') →
    LineString ('\'' :: (text ++ ['\''])) (String.ofList text)

/-- The end of a line that is dropped from the front of a string, which is there if the string goes
on like one. -/
inductive OpeningLine : List Char → List Char → Prop
  | none {w : List Char} : (∀ newline w', Newline newline → w ≠ newline ++ w') → OpeningLine [] w
  | newline {newline w : List Char} : Newline newline → OpeningLine newline w

/-- **A string**, and its text. -/
inductive StringText : List Char → String → Prop
  | line {w : List Char} {text : String} : LineString w text → StringText w text
  | multilineBasic {opening w text : List Char} : OpeningLine opening w →
    MultilineBasicText w text →
    StringText ('"' :: '"' :: '"' :: (opening ++ (w ++ ['"', '"', '"']))) (String.ofList text)
  | multilineLiteral {opening w text : List Char} : OpeningLine opening w →
    MultilineLiteralText w text →
    StringText ('\'' :: '\'' :: '\'' :: (opening ++ (w ++ ['\'', '\'', '\'']))) (String.ofList text)

/-! ## Numbers -/

/-- **Digits**, at least one, and without the underscores that may stand between them. -/
inductive DigitRow (base : ℕ) : List Char → List Char → Prop
  | last {c : Char} : Digit base c → DigitRow base [c] [c]
  | next {c : Char} {w digits : List Char} : Digit base c → DigitRow base w digits →
    DigitRow base (c :: w) (c :: digits)
  | underscore {c : Char} {w digits : List Char} : Digit base c → DigitRow base w digits →
    DigitRow base (c :: '_' :: w) (c :: digits)

/-- The digits of a decimal number in front of any point: zero, or digits that do not begin with
it. -/
inductive WholeText : List Char → List Char → Prop
  | zero : WholeText ['0'] ['0']
  | digits {c : Char} {w digits : List Char} : c ≠ '0' → DigitRow 10 (c :: w) digits →
    WholeText (c :: w) digits

/-- A number with the sign that it has. -/
def signed (negative : Bool) (n : ℕ) : ℤ := if negative then -(n : ℤ) else n

/-- **An integer**, and the number that it is: decimal, or hexadecimal, octal or binary behind a
mark. -/
inductive IntegerText : List Char → ℤ → Prop
  | decimal {sign w digits : List Char} {negative : Bool} : SignText sign negative →
    WholeText w digits → IntegerText (sign ++ w) (signed negative (numeral 10 digits))
  | marked {mark : Char} {base : ℕ} {w digits : List Char} :
    (mark, base) ∈ [('x', 16), ('o', 8), ('b', 2)] → DigitRow base w digits →
    IntegerText ('0' :: mark :: w) (numeral base digits)

/-- An exponent. -/
inductive Exponent : List Char → ℤ → Prop
  | marked {mark : Char} {sign w digits : List Char} {negative : Bool} :
    mark = 'e' ∨ mark = 'E' → SignText sign negative → DigitRow 10 w digits →
    Exponent (mark :: (sign ++ w)) (signed negative (numeral 10 digits))

/-- The decimals and the exponent of a number, which has one of them. -/
inductive NumberTail : List Char → List Char → ℤ → Prop
  | exponent {w : List Char} {e : ℤ} : Exponent w e → NumberTail w [] e
  | decimals {w digits : List Char} : DigitRow 10 w digits → NumberTail ('.' :: w) digits 0
  | both {w w' digits : List Char} {e : ℤ} : DigitRow 10 w digits → Exponent w' e →
    NumberTail ('.' :: (w ++ w')) digits e

/-- **A floating-point number**, taken apart. -/
inductive LiteralText : List Char → FloatLiteral → Prop
  | finite {sign w tail digits decimals : List Char} {negative : Bool} {e : ℤ} :
    SignText sign negative → WholeText w digits → NumberTail tail decimals e →
    LiteralText (sign ++ (w ++ tail))
      (.finite negative (digits ++ decimals) (e - decimals.length))
  | infinity {sign : List Char} {negative : Bool} : SignText sign negative →
    LiteralText (sign ++ ['i', 'n', 'f']) (.infinity negative)
  | nan {sign : List Char} {negative : Bool} : SignText sign negative →
    LiteralText (sign ++ ['n', 'a', 'n']) (.nan negative)

/-! ## Dates and times -/

/-- **A number of so many digits**, within bounds. -/
structure FixedNumber (count low high : ℕ) (w : List Char) (n : ℕ) : Prop where
  length_eq : w.length = count
  digit_of_mem : ∀ c ∈ w, Digit 10 c
  numeral_eq : numeral 10 w = n
  le : low ≤ n
  ge : n ≤ high

/-- A date of the calendar. -/
inductive DateText : List Char → Prop
  | date {y m d : List Char} {year month day : ℕ} : FixedNumber 4 0 9999 y year →
    FixedNumber 2 1 12 m month → FixedNumber 2 1 (daysOfMonth year month) d day →
    DateText (y ++ '-' :: (m ++ '-' :: d))

/-- What stands behind the seconds of a time. -/
inductive SecondFraction : List Char → Prop
  | none : SecondFraction []
  | digits {c : Char} {w : List Char} : (∀ d ∈ c :: w, Digit 10 d) → SecondFraction ('.' :: c :: w)

/-- A time of day. A minute may have a leap second. -/
inductive TimeText : List Char → Prop
  | time {h m s fraction : List Char} {hour minute second : ℕ} : FixedNumber 2 0 23 h hour →
    FixedNumber 2 0 59 m minute → FixedNumber 2 0 60 s second → SecondFraction fraction →
    TimeText (h ++ ':' :: (m ++ ':' :: (s ++ fraction)))

/-- An offset from universal time, or nothing. -/
inductive OffsetText : List Char → Prop
  | none : OffsetText []
  | universal {c : Char} : c = 'Z' ∨ c = 'z' → OffsetText [c]
  | hours {sign : Char} {h m : List Char} {hour minute : ℕ} : sign = '+' ∨ sign = '-' →
    FixedNumber 2 0 23 h hour → FixedNumber 2 0 59 m minute →
    OffsetText (sign :: (h ++ ':' :: m))

/-- **A date, a time, or both.** -/
inductive DateTimeText : List Char → Prop
  | date {date : List Char} : DateText date → DateTimeText date
  | time {time : List Char} : TimeText time → DateTimeText time
  | both {date time offset : List Char} {mark : Char} : DateText date →
    mark ∈ ['T', 't', ' '] → TimeText time → OffsetText offset →
    DateTimeText (date ++ mark :: (time ++ offset))

/-! ## Keys -/

/-- A character of a key that needs no quotes. -/
def KeyChar (c : Char) : Prop :=
  'a' ≤ c ∧ c ≤ 'z' ∨ 'A' ≤ c ∧ c ≤ 'Z' ∨ '0' ≤ c ∧ c ≤ '9' ∨ c = '-' ∨ c = '_'

/-- One part of a key. -/
inductive SimpleKey : List Char → String → Prop
  | quoted {w : List Char} {text : String} : LineString w text → SimpleKey w text
  | bare {c : Char} {w : List Char} : (∀ d ∈ c :: w, KeyChar d) →
    SimpleKey (c :: w) (String.ofList (c :: w))

/-- **A key**, in its parts, with the blanks around it. -/
inductive KeyText : List Char → List String → Prop
  | last {before w behind : List Char} {part : String} : Blanks before → SimpleKey w part →
    Blanks behind → KeyText (before ++ (w ++ behind)) [part]
  | dotted {before w behind w' : List Char} {part : String} {parts : List String} :
    Blanks before → SimpleKey w part → Blanks behind → KeyText w' parts →
    KeyText (before ++ (w ++ (behind ++ '.' :: w'))) (part :: parts)

/-! ## Tables in pieces -/

/-- How a table is marked that a dotted key or a heading makes on its way. -/
inductive Makes : Passage → Origin → Prop
  | dottedKey : Makes .dottedKey .dotted
  | heading : Makes .heading .implied

/-- **The tables on a way**: none that is closed, and behind a dotted key none that has a
heading. -/
inductive Passes : Passage → Origin → Prop
  | dottedKey {origin : Origin} : origin ≠ .inline → origin ≠ .heading → Passes .dottedKey origin
  | heading {origin : Origin} : origin ≠ .inline → Passes .heading origin

/-- **A change to the table at the end of a path**, with what becomes of the table that the path
starts from. The tables on the way that are missing are made, and through a list of tables it goes
by the last. -/
inductive AtPath (passage : Passage) (change : Origin → Entries → Entries → Prop) :
    List String → Origin → Entries → Entries → Prop
  | here {origin : Origin} {entries changed : Entries} : change origin entries changed →
    AtPath passage change [] origin entries changed
  | made {key : String} {path : List String} {origin made : Origin} {entries inner : Entries} :
    entries.lookup key = none → Makes passage made → AtPath passage change path made [] inner →
    AtPath passage change (key :: path) origin entries
      (Entries.append entries key (.table made inner))
  | table {key : String} {path : List String} {origin found : Origin}
    {entries old inner : Entries} : entries.lookup key = some (.table found old) →
    Passes passage found → AtPath passage change path found old inner →
    AtPath passage change (key :: path) origin entries
      (Entries.replace entries key (.table found inner))
  | element {key : String} {path : List String} {origin found : Origin}
    {entries old inner : Entries} {items : List Value} :
    entries.lookup key = some (.array .heading (items ++ [.table found old])) →
    AtPath passage change path found old inner →
    AtPath passage change (key :: path) origin entries
      (Entries.replace entries key (.array .heading (items ++ [.table found inner])))

/-- **What an assignment does to the table it ends in**: it adds a key that is not there. A dotted
key ends in a table that dotted keys have made, and a key without dots does not. -/
inductive Assignment.Adds (a : Assignment) : Origin → Entries → Entries → Prop
  | added {origin : Origin} {entries : Entries} : (origin = .dotted ↔ a.path ≠ []) →
    entries.lookup a.key = none →
    a.Adds origin entries (Entries.append entries a.key a.value)

/-- Changes to a table, one after the other. -/
inductive InTurn {α : Type} (change : α → Entries → Entries → Prop) :
    List α → Entries → Entries → Prop
  | nil {entries : Entries} : InTurn change [] entries entries
  | cons {a : α} {row : List α} {entries next changed : Entries} : change a entries next →
    InTurn change row next changed → InTurn change (a :: row) entries changed

/-- **What assignments do to a table** of the given origin. -/
def AddInTurn (origin : Origin) : List Assignment → Entries → Entries → Prop :=
  InTurn fun a => AtPath .dottedKey a.Adds a.path origin

/-- **What a section does to the table its heading ends in**: it adds a table under a key that is
not there, or takes the place of one that was only passed through; or it begins a list of tables, or
makes it longer. -/
inductive Section.Opens (t : Section) : Entries → Entries → Prop
  | table {entries inner : Entries} : t.heading.isElement = false →
    entries.lookup t.heading.key = none → AddInTurn .heading t.assignments [] inner →
    t.Opens entries (Entries.append entries t.heading.key (.table .heading inner))
  | passedThrough {entries old inner : Entries} : t.heading.isElement = false →
    entries.lookup t.heading.key = some (.table .implied old) →
    AddInTurn .heading t.assignments old inner →
    t.Opens entries (Entries.append (Entries.erase entries t.heading.key) t.heading.key
      (.table .heading inner))
  | list {entries element : Entries} : t.heading.isElement = true →
    entries.lookup t.heading.key = none → AddInTurn .heading t.assignments [] element →
    t.Opens entries
      (Entries.append entries t.heading.key (.array .heading [.table .heading element]))
  | element {entries element : Entries} {items : List Value} : t.heading.isElement = true →
    entries.lookup t.heading.key = some (.array .heading items) →
    AddInTurn .heading t.assignments [] element →
    t.Opens entries
      (Entries.replace entries t.heading.key (.array .heading (items ++ [.table .heading element])))

/-- **What assignments and the sections behind them define.** -/
def Defines (top : List Assignment) (sections : List Section) (entries : Entries) : Prop :=
  ∃ first, AddInTurn .heading top [] first
    ∧ InTurn (fun t => AtPath .heading (fun _ => t.Opens) t.heading.path .heading) sections first
      entries

/-! ## Values -/

/-- **The items of an array** up to its closing bracket, by the texts of the items. A comma may
follow the last. -/
inductive ItemsText : List (List Char) → List Char → Prop
  | nil {filler : List Char} : Filler filler → ItemsText [] (filler ++ [']'])
  | last {before w behind : List Char} : Filler before → Filler behind →
    ItemsText [w] (before ++ (w ++ (behind ++ [']'])))
  | next {before w behind w' : List Char} {ws : List (List Char)} : Filler before →
    Filler behind → ItemsText ws w' → ItemsText (w :: ws) (before ++ (w ++ (behind ++ ',' :: w')))

/-- **The assignments between braces** up to the closing one, with the texts of their values. All
of it stands on one line, and no comma follows the last. -/
inductive FieldsText (limits : Limits) : List (List Char × Assignment) → List Char → Prop
  | last {key blanks w behind : List Char} {path : List String} {name : String} {v : Value} :
    KeyText key (path ++ [name]) → path.length < limits.depth → Blanks blanks → Blanks behind →
    FieldsText limits [(w, ⟨path, name, v⟩)] (key ++ '=' :: (blanks ++ (w ++ (behind ++ ['}']))))
  | next {key blanks w behind w' : List Char} {path : List String} {name : String} {v : Value}
    {fields : List (List Char × Assignment)} :
    KeyText key (path ++ [name]) → path.length < limits.depth → Blanks blanks → Blanks behind →
    FieldsText limits fields w' → FieldsText limits ((w, ⟨path, name, v⟩) :: fields)
      (key ++ '=' :: (blanks ++ (w ++ (behind ++ ',' :: w'))))

/-- **What a text denotes as a value**, with so many levels of brackets and braces. -/
inductive Denotes (limits : Limits) : ℕ → List Char → Value → Prop
  | string {depth : ℕ} {w : List Char} {text : String} : StringText w text →
    Denotes limits depth w (.string text)
  | true {depth : ℕ} : Denotes limits depth ['t', 'r', 'u', 'e'] (.boolean true)
  | false {depth : ℕ} : Denotes limits depth ['f', 'a', 'l', 's', 'e'] (.boolean false)
  | datetime {depth : ℕ} {w : List Char} : DateTimeText w →
    Denotes limits depth w (.datetime (String.ofList w))
  | float {depth : ℕ} {w : List Char} {literal : FloatLiteral} : LiteralText w literal →
    limits.Takes literal →
    Denotes limits depth w (.float (UInt64.ofNat (literal.pattern Format.double)))
  | integer {depth : ℕ} {w : List Char} {n : ℤ} : IntegerText w n → -0x8000000000000000 ≤ n →
    n < 0x8000000000000000 → Denotes limits depth w (.integer n)
  | array {depth : ℕ} {w : List Char} {items : List (List Char × Value)} :
    (∀ item ∈ items, Denotes limits depth item.1 item.2) → ItemsText (items.map Prod.fst) w →
    Denotes limits (depth + 1) ('[' :: w) (.array .inline (items.map Prod.snd))
  | emptyTable {depth : ℕ} {blanks : List Char} : Blanks blanks →
    Denotes limits (depth + 1) ('{' :: (blanks ++ ['}'])) (.table .inline [])
  | table {depth : ℕ} {w : List Char} {fields : List (List Char × Assignment)}
    {entries : Entries} : (∀ field ∈ fields, Denotes limits depth field.1 field.2.value) →
    FieldsText limits fields w → AddInTurn .inline (fields.map Prod.snd) [] entries →
    Denotes limits (depth + 1) ('{' :: w) (.table .inline entries)

/-! ## Documents -/

/-- **A statement.** -/
inductive Statement
  | assignment (a : Assignment)
  | heading (h : Heading)

/-- The text of a statement. -/
inductive StatementText (limits : Limits) : List Char → Statement → Prop
  | assignment {key blanks w : List Char} {path : List String} {name : String} {v : Value} :
    KeyText key (path ++ [name]) → path.length < limits.depth → Blanks blanks →
    Denotes limits limits.depth w v →
    StatementText limits (key ++ '=' :: (blanks ++ w)) (.assignment ⟨path, name, v⟩)
  | table {key : List Char} {path : List String} {name : String} :
    KeyText key (path ++ [name]) → path.length < limits.depth →
    StatementText limits ('[' :: (key ++ [']'])) (.heading ⟨path, name, false⟩)
  | element {key : List Char} {path : List String} {name : String} :
    KeyText key (path ++ [name]) → path.length < limits.depth →
    StatementText limits ('[' :: '[' :: (key ++ [']', ']'])) (.heading ⟨path, name, true⟩)

/-- **A line**: a statement or none, and a comment or none. -/
inductive Line (limits : Limits) : List Char → List Statement → Prop
  | empty {blanks comment : List Char} : Blanks blanks → Comment comment →
    Line limits (blanks ++ comment) []
  | statement {before w behind comment : List Char} {statement : Statement} : Blanks before →
    StatementText limits w statement → Blanks behind → Comment comment →
    Line limits (before ++ (w ++ (behind ++ comment))) [statement]

/-- **Lines**, of which the last has no end. -/
inductive Lines (limits : Limits) : List Char → List Statement → Prop
  | last {w : List Char} {statements : List Statement} : Line limits w statements →
    Lines limits w statements
  | next {w newline w' : List Char} {statements statements' : List Statement} :
    Line limits w statements → Newline newline → Lines limits w' statements' →
    Lines limits (w ++ (newline ++ w')) (statements ++ statements')

/-- **A document**, with a byte order mark in front or without. -/
inductive Document (limits : Limits) : List Char → List Statement → Prop
  | plain {w : List Char} {statements : List Statement} : Lines limits w statements →
    Document limits w statements
  | marked {w : List Char} {statements : List Statement} : Lines limits w statements →
    Document limits ('\uFEFF' :: w) statements

/-- **The statements by where they go**: the assignments in front of the first heading, and the
sections, each of a heading with the assignments below it. -/
def grouped : List Statement → List Assignment × List Section
  | [] => ([], [])
  | .assignment a :: statements => (a :: (grouped statements).1, (grouped statements).2)
  | .heading h :: statements => ([], ⟨h, (grouped statements).1⟩ :: (grouped statements).2)

/-- **What a text says as a document**: the table that its statements define. -/
def Says (limits : Limits) (text : String) (entries : Entries) : Prop :=
  ∃ statements, Document limits text.toList statements
    ∧ Defines (grouped statements).1 (grouped statements).2 entries

/-- **A reader that follows the grammar** within its limits: it reads the documents there are, and
what it reads is what they say. -/
def Reader.Follows (read : Reader) (limits : Limits) : Prop :=
  ∀ text entries, read text = .ok entries ↔ Says limits text entries

end PeerTelemetry.Toml
