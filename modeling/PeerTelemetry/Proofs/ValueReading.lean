import PeerTelemetry.Proofs.DateReading
import PeerTelemetry.Proofs.StringReading
import PeerTelemetry.Proofs.TableReading
import PeerTelemetry.Toml.Document

/-!
# Values that are read

**What is read as a value is one, and every value is read** (`reads_nested`, `Denotes.isRead`),
within the limits of the reader (`limits`).

A value without brackets is found by trying one kind after the other, so for each kind it has to be
seen that no kind in front of it is found; the first character decides most of that. Values with
brackets are scanned by functions that call each other on a budget. What they read is a value by
induction on the budget, and a value is read by induction on how it is put together, on every budget
that is larger than its text is long.
-/

namespace PeerTelemetry.Toml

open Scanner

/-- **The limits of the reader of documents.** -/
def limits : Limits where
  depth := maxDepth
  Takes := TakesLiteral

/-! ## Keys -/

theorem isKeyChar_iff {c : Char} : isKeyChar c = true ↔ KeyChar c := by
  simp [isKeyChar, KeyChar, Char.isDigit, or_assoc, Char.le_def]

theorem lineString_eq_none {s : List Char} (h : ∀ c ∈ s.head?, c ≠ '"' ∧ c ≠ '\'') :
    lineString s = none := by
  unfold lineString
  split
  · exact absurd rfl (h '"' rfl).1
  · exact absurd rfl (h '\'' rfl).2
  · rfl

theorem reads_simpleKey : simpleKey.Reads SimpleKey := by
  refine (reads_lineString.mono fun w text h => .quoted h).orElse ?_
  refine (reads_takeWhile1 isKeyChar).bind ?_
  rintro w _ ⟨rfl, hne, hw⟩
  refine reads_pure ?_
  obtain ⟨c, w, rfl⟩ := List.exists_cons_of_ne_nil hne
  rw [List.append_nil]
  exact .bare fun d hd => isKeyChar_iff.mp (hw d hd)

/-- What a key begins with. -/
def BeginsKey (c : Char) : Prop := c = '"' ∨ c = '\'' ∨ KeyChar c

theorem BeginsKey.not_mem {c : Char} (h : BeginsKey c) :
    c ∉ [' ', '\t', '\n', '\r', '#', '[', '}', '\uFEFF'] := by
  intro hc
  have hall : ∀ c ∈ [' ', '\t', '\n', '\r', '#', '[', '}', '\uFEFF'],
      c ≠ '"' ∧ c ≠ '\'' ∧ isKeyChar c = false := by simp [isKeyChar]
  obtain ⟨hquotation, happostrophe, hkey⟩ := hall c hc
  rcases h with h | h | h
  · exact hquotation h
  · exact happostrophe h
  · rw [isKeyChar_iff.mpr h] at hkey
    cases hkey

theorem SimpleKey.head {w : List Char} {part : String} (h : SimpleKey w part) :
    ∃ c w', w = c :: w' ∧ BeginsKey c := by
  cases h with
  | quoted hline =>
    cases hline with
    | basic => exact ⟨'"', _, rfl, Or.inl rfl⟩
    | literal => exact ⟨'\'', _, rfl, Or.inr (Or.inl rfl)⟩
  | bare hw => exact ⟨_, _, rfl, Or.inr (Or.inr (hw _ List.mem_cons_self))⟩

theorem simpleKey_append {w : List Char} {part : String} (h : SimpleKey w part) {s : List Char}
    (hs : ∀ c ∈ s.head?, ¬KeyChar c) : simpleKey (w ++ s) = some (part, s) := by
  unfold simpleKey
  cases h with
  | quoted hline => exact orElse_of_eq_some (lineString_append hline s)
  | @bare c w hw =>
    have hkeys : ∀ d ∈ c :: w, isKeyChar d = true := fun d hd => isKeyChar_iff.mpr (hw d hd)
    have hc := hkeys c List.mem_cons_self
    rw [orElse_of_eq_none (lineString_eq_none ?_), bind_of_eq_some
      (takeWhile1_append (List.cons_ne_nil c w) hkeys fun d hd => ?_)]
    · rfl
    · rw [Bool.eq_false_iff, ne_eq, isKeyChar_iff]
      exact hs d hd
    · intro d hd
      obtain rfl := Option.some.inj hd
      constructor <;> rintro rfl <;> cases hc

theorem reads_moreKeys (budget : ℕ) : (moreKeys budget).Reads fun w parts =>
    parts.length < budget ∧ (parts = [] ∧ w = [] ∨ ∃ w', w = '.' :: w' ∧ KeyText w' parts) := by
  induction budget with
  | zero => exact reads_failure
  | succ budget ih =>
    refine (reads_char '.').attempt.bind ?_
    rintro _ _ (⟨⟨⟩, rfl, rfl⟩ | ⟨rfl, rfl⟩)
    · refine reads_blanks.bind fun before _ hbefore => ?_
      refine reads_simpleKey.bind fun w part hw => ?_
      refine reads_blanks.bind fun behind _ hbehind => ?_
      refine ih.bind fun w' parts hmore => reads_pure ?_
      obtain ⟨hlength, ⟨rfl, rfl⟩ | ⟨w', rfl, hw'⟩⟩ := hmore
      · refine ⟨Nat.succ_lt_succ hlength, Or.inr ⟨_, rfl, ?_⟩⟩
        simpa using KeyText.last hbefore hw hbehind
      · refine ⟨Nat.succ_lt_succ hlength, Or.inr ⟨_, rfl, ?_⟩⟩
        simpa using KeyText.dotted hbefore hw hbehind hw'
    · exact reads_pure ⟨Nat.succ_pos _, Or.inl ⟨rfl, rfl⟩⟩

theorem reads_key : key.Reads fun w found =>
    KeyText w (found.1 ++ [found.2]) ∧ found.1.length < limits.depth := by
  refine reads_blanks.bind fun before _ hbefore => ?_
  refine reads_simpleKey.bind fun w part hw => ?_
  refine reads_blanks.bind fun behind _ hbehind => ?_
  refine (reads_moreKeys maxDepth).bind fun w' parts hmore => reads_pure ?_
  obtain ⟨hlength, hmore⟩ := hmore
  have hparts : (part :: parts).dropLast ++ [(part :: parts).getLast?.getD part]
      = part :: parts := by
    rw [List.getLast?_cons, Option.getD_some]
    exact List.dropLast_append_getLast? _ (List.getLast?_cons ..)
  refine ⟨?_, ?_⟩
  · show KeyText _ ((part :: parts).dropLast ++ [(part :: parts).getLast?.getD part])
    rw [hparts]
    rcases hmore with ⟨rfl, rfl⟩ | ⟨w', rfl, hw'⟩
    · simpa using KeyText.last hbefore hw hbehind
    · simpa using KeyText.dotted hbefore hw hbehind hw'
  · show (part :: parts).dropLast.length < maxDepth
    rw [List.length_dropLast]
    exact hlength

/-- What follows a key. -/
def EndsKey (s : List Char) : Prop := ∀ c ∈ s.head?, c = '=' ∨ c = ']'

theorem blanks_simpleKey_blanks {before w behind s : List Char} {part : String}
    (hbefore : Blanks before) (hw : SimpleKey w part) (hbehind : Blanks behind)
    (hs : ∀ c ∈ s.head?, c ∈ ['.', '=', ']']) :
    blanks (before ++ (w ++ (behind ++ s))) = some ((), w ++ (behind ++ s))
      ∧ simpleKey (w ++ (behind ++ s)) = some (part, behind ++ s)
      ∧ blanks (behind ++ s) = some ((), s) := by
  refine ⟨blanks_append hbefore ?_, simpleKey_append hw ?_, blanks_append hbehind ?_⟩
  · obtain ⟨c, w', rfl, hc⟩ := hw.head
    intro d hd
    obtain rfl := Option.some.inj hd
    constructor <;> rintro rfl <;> exact absurd hc.not_mem (by simp)
  · intro c hc hkey
    have hkey := isKeyChar_iff.mpr hkey
    cases behind with
    | nil =>
      have hall : ∀ c ∈ ['.', '=', ']'], isKeyChar c = false := by simp [isKeyChar]
      rw [hall c (hs c hc)] at hkey
      cases hkey
    | cons d behind =>
      obtain rfl := Option.some.inj hc
      rcases hbehind d List.mem_cons_self with rfl | rfl <;> cases hkey
  · have hall : ∀ c ∈ ['.', '=', ']'], c ≠ ' ' ∧ c ≠ '\t' := by simp
    exact fun c hc => hall c (hs c hc)

theorem moreKeys_nil {budget : ℕ} (hbudget : 0 < budget) {s : List Char} (hs : EndsKey s) :
    moreKeys budget s = some ([], s) := by
  obtain ⟨budget, rfl⟩ := Nat.exists_eq_add_one_of_ne_zero hbudget.ne'
  have hpoint : char '.' s = none := char_eq_none '.' fun c hc => by
    rcases hs c hc with rfl | rfl <;> simp
  unfold moreKeys
  rw [bind_of_eq_some (attempt_of_eq_none hpoint)]
  rfl

theorem moreKeys_append {w : List Char} {parts : List String} (h : KeyText w parts)
    {s : List Char} (hs : EndsKey s) :
    ∀ budget, parts.length < budget → moreKeys budget ('.' :: (w ++ s)) = some (parts, s) := by
  have hends : ∀ c ∈ s.head?, c ∈ ['.', '=', ']'] := fun c hc => by
    rcases hs c hc with rfl | rfl <;> simp
  induction h with
  | last hbefore hw hbehind =>
    rintro (_ | _ | budget) hbudget
    · cases hbudget
    · cases Nat.lt_irrefl _ hbudget
    · obtain ⟨hfirst, hkey, hlast⟩ := blanks_simpleKey_blanks hbefore hw hbehind hends
      unfold moreKeys
      rw [bind_of_eq_some (attempt_of_eq_some (char_cons '.' _))]
      dsimp only
      rw [List.append_assoc, List.append_assoc, bind_of_eq_some hfirst, bind_of_eq_some hkey,
        bind_of_eq_some hlast, bind_of_eq_some (moreKeys_nil budget.succ_pos hs)]
      rfl
  | dotted hbefore hw hbehind _ ih =>
    intro budget hbudget
    cases budget with
    | zero => cases hbudget
    | succ budget =>
      have hmore := ih budget (Nat.lt_of_succ_lt_succ hbudget)
      obtain ⟨hfirst, hkey, hlast⟩ := blanks_simpleKey_blanks hbefore hw hbehind
        (s := '.' :: (_ ++ s)) (fun c hc => by obtain rfl := Option.some.inj hc; decide)
      unfold moreKeys
      rw [bind_of_eq_some (attempt_of_eq_some (char_cons '.' _))]
      dsimp only
      rw [List.append_assoc, List.append_assoc, List.append_assoc, List.cons_append,
        bind_of_eq_some hfirst, bind_of_eq_some hkey, bind_of_eq_some hlast, bind_of_eq_some hmore]
      rfl

theorem key_append {w : List Char} {path : List String} {name : String}
    (h : KeyText w (path ++ [name])) (hpath : path.length < maxDepth) {s : List Char}
    (hs : EndsKey s) : key (w ++ s) = some ((path, name), s) := by
  have hends : ∀ c ∈ s.head?, c ∈ ['.', '=', ']'] := fun c hc => by
    rcases hs c hc with rfl | rfl <;> simp
  generalize hparts : path ++ [name] = parts at h
  unfold key
  cases h with
  | last hbefore hw hbehind =>
    obtain ⟨hfirst, hkey, hlast⟩ := blanks_simpleKey_blanks hbefore hw hbehind hends
    rw [List.append_assoc, List.append_assoc, bind_of_eq_some hfirst, bind_of_eq_some hkey,
      bind_of_eq_some hlast, bind_of_eq_some (moreKeys_nil (by decide) hs), ← hparts,
      List.dropLast_concat, List.getLast?_concat]
    rfl
  | dotted hbefore hw hbehind hmore =>
    obtain ⟨hfirst, hkey, hlast⟩ := blanks_simpleKey_blanks hbefore hw hbehind
      (s := '.' :: (_ ++ s)) (fun c hc => by obtain rfl := Option.some.inj hc; decide)
    have hlength := congrArg List.length hparts
    rw [List.length_append, List.length_singleton, List.length_cons] at hlength
    have hrest := moreKeys_append hmore hs maxDepth (Nat.succ.inj hlength ▸ hpath)
    rw [List.append_assoc, List.append_assoc, List.append_assoc, List.cons_append,
      bind_of_eq_some hfirst, bind_of_eq_some hkey, bind_of_eq_some hlast, bind_of_eq_some hrest,
      ← hparts, List.dropLast_concat, List.getLast?_concat]
    rfl

/-! ## Values without brackets -/

/-- What a value begins with. -/
def BeginsValue (c : Char) : Prop :=
  c.isDigit = true ∨ c ∈ ['"', '\'', 't', 'f', '+', '-', 'i', 'n', '[', '{']

theorem BeginsValue.not_mem {c : Char} (h : BeginsValue c) :
    c ∉ [' ', '\t', '\n', '\r', '#', ',', ']', '}'] := by
  intro hc
  have hall : ∀ c ∈ [' ', '\t', '\n', '\r', '#', ',', ']', '}'], c.isDigit = false
      ∧ c ∉ ['"', '\'', 't', 'f', '+', '-', 'i', 'n', '[', '{'] := by simp
  obtain ⟨hdigit, hmark⟩ := hall c hc
  rcases h with h | h
  · rw [hdigit] at h
    cases h
  · exact hmark h

theorem BeginsValue.textChar {c : Char} (h : BeginsValue c) : TextChar c := by
  rcases h with hdigit | hmark
  · obtain ⟨hlow, hhigh⟩ := isDigit_iff_toNat.mp hdigit
    refine Or.inr ⟨UInt32.le_iff_toNat_le.mpr (Nat.le_trans (by simp) hlow), ?_⟩
    rintro rfl
    exact absurd hhigh (by simp)
  · have hall : ∀ c ∈ ['"', '\'', 't', 'f', '+', '-', 'i', 'n', '[', '{'],
        isTextChar c = true := by simp [isTextChar]
    exact isTextChar_iff.mp (hall c hmark)

/-- What a number begins with, or the name of one. -/
def BeginsNumber (c : Char) : Prop := c.isDigit = true ∨ c ∈ ['+', '-', 'i', 'n']

theorem exists_head_sign {sign w : List Char} {negative : Bool} (hsign : SignText sign negative)
    {c : Char} (hc : BeginsNumber c) : ∃ d w', sign ++ c :: w = d :: w' ∧ BeginsNumber d := by
  cases hsign with
  | none => exact ⟨c, w, rfl, hc⟩
  | plus => exact ⟨'+', _, rfl, Or.inr (by simp)⟩
  | minus => exact ⟨'-', _, rfl, Or.inr (by simp)⟩

theorem IntegerText.head {w : List Char} {n : ℤ} (h : IntegerText w n) :
    ∃ c w', w = c :: w' ∧ BeginsNumber c := by
  cases h with
  | marked => exact ⟨'0', _, rfl, Or.inl rfl⟩
  | decimal hsign hw =>
    obtain ⟨c, w', rfl, hc⟩ := hw.head
    exact exists_head_sign hsign (Or.inl hc)

theorem LiteralText.head {w : List Char} {literal : FloatLiteral} (h : LiteralText w literal) :
    ∃ c w', w = c :: w' ∧ BeginsNumber c := by
  cases h with
  | finite hsign hw =>
    obtain ⟨c, w', rfl, hc⟩ := hw.head
    exact exists_head_sign hsign (Or.inl hc)
  | infinity hsign | nan hsign => exact exists_head_sign hsign (Or.inr (by simp))

theorem FixedNumber.head {count low high n : ℕ} {w : List Char} (hcount : count ≠ 0)
    (h : FixedNumber count low high w n) : ∃ c w', w = c :: w' ∧ c.isDigit = true := by
  obtain ⟨c, w', rfl⟩ := List.exists_cons_of_ne_nil (h.ne_nil hcount)
  exact ⟨c, w', rfl, h.digits c List.mem_cons_self⟩

theorem DateTimeText.head {w : List Char} (h : DateTimeText w) :
    ∃ c w', w = c :: w' ∧ c.isDigit = true := by
  have hdate : ∀ {w}, DateText w → ∃ c w', w = c :: w' ∧ c.isDigit = true := by
    rintro _ ⟨hy, -, -⟩
    obtain ⟨c, w', rfl, hc⟩ := hy.head (by simp)
    exact ⟨c, _, rfl, hc⟩
  cases h with
  | date h => exact hdate h
  | time htime =>
    cases htime with
    | time hh =>
      obtain ⟨c, w', rfl, hc⟩ := hh.head (by simp)
      exact ⟨c, _, rfl, hc⟩
  | both h =>
    obtain ⟨c, w', rfl, hc⟩ := hdate h
    exact ⟨c, _, rfl, hc⟩

theorem StringText.head {w : List Char} {text : String} (h : StringText w text) :
    ∃ c w', w = c :: w' ∧ (c = '"' ∨ c = '\'') := by
  cases h with
  | multilineBasic => exact ⟨'"', _, rfl, Or.inl rfl⟩
  | multilineLiteral => exact ⟨'\'', _, rfl, Or.inr rfl⟩
  | line hline =>
    cases hline with
    | basic => exact ⟨'"', _, rfl, Or.inl rfl⟩
    | literal => exact ⟨'\'', _, rfl, Or.inr rfl⟩

theorem Denotes.head {limits : Limits} {depth : ℕ} {w : List Char} {v : Value}
    (h : Denotes limits depth w v) : ∃ c w', w = c :: w' ∧ BeginsValue c := by
  have hnumber : ∀ c ∈ ['+', '-', 'i', 'n'],
      c ∈ ['"', '\'', 't', 'f', '+', '-', 'i', 'n', '[', '{'] := by simp
  cases h with
  | string htext =>
    obtain ⟨c, w', rfl, rfl | rfl⟩ := htext.head
    · exact ⟨_, _, rfl, Or.inr (by simp)⟩
    · exact ⟨_, _, rfl, Or.inr (by simp)⟩
  | true | false => exact ⟨_, _, rfl, Or.inr (by simp)⟩
  | datetime hw =>
    obtain ⟨c, w', rfl, hc⟩ := hw.head
    exact ⟨c, w', rfl, Or.inl hc⟩
  | float hw =>
    obtain ⟨c, w', rfl, hc⟩ := hw.head
    exact ⟨c, w', rfl, hc.imp_right (hnumber c)⟩
  | integer hw =>
    obtain ⟨c, w', rfl, hc⟩ := hw.head
    exact ⟨c, w', rfl, hc.imp_right (hnumber c)⟩
  | array | emptyTable | table => exact ⟨_, _, rfl, Or.inr (by simp)⟩

theorem reads_boolean (depth : ℕ) : boolean.Reads (Denotes limits depth) := by
  refine Reads.orElse ((reads_exactly "true").bind ?_) ((reads_exactly "false").bind ?_)
  · rintro _ _ rfl
    exact reads_pure .true
  · rintro _ _ rfl
    exact reads_pure .false

theorem reads_plainValue (depth : ℕ) : plainValue.Reads (Denotes limits depth) := by
  refine Reads.orElse (reads_anyString.bind fun w text h => reads_pure ?_)
    ((reads_boolean depth).orElse (Reads.orElse (reads_datetime.mono ?_)
      (Reads.orElse (reads_float.mono ?_) (reads_integer.mono ?_))))
  · rw [List.append_nil]
    exact .string h
  · rintro w _ ⟨rfl, hw⟩
    exact .datetime hw
  · rintro w _ ⟨literal, rfl, hw, htaken⟩
    exact .float hw htaken
  · rintro w _ ⟨n, rfl, hw, hlow, hhigh⟩
    exact .integer hw hlow hhigh

/-- A text that goes on with neither a string nor a truth value. -/
theorem plainValue_of_head {s : List Char} (h : ∀ c ∈ s.head?, c ∉ ['"', '\'', 't', 'f']) :
    plainValue s = (datetime <|> float <|> integer : Scanner Value) s := by
  have hstring : anyString s = none := by
    refine eq_none_of_reads reads_anyString fun w text rest hs hw => ?_
    obtain ⟨c, w', rfl, hc⟩ := hw.head
    have hnot := h c (by rw [hs]; rfl)
    rcases hc with rfl | rfl <;> exact absurd hnot (by simp)
  have hword : ∀ {word : String}, (∃ c ∈ word.toList.head?, c = 't' ∨ c = 'f') →
      exactly word s = none := by
    rintro word ⟨c, hc, hmark⟩
    refine exactly_eq_none fun s' hs => ?_
    have hnot := h c (by rw [hs]; exact List.mem_head?_append_of_mem_head? hc)
    rcases hmark with rfl | rfl <;> exact absurd hnot (by simp)
  have hboolean : boolean s = none :=
    (orElse_of_eq_none (bind_of_eq_none (hword ⟨'t', by simp, Or.inl rfl⟩))).trans
      (bind_of_eq_none (hword ⟨'f', by simp, Or.inr rfl⟩))
  unfold plainValue
  rw [orElse_of_eq_none (bind_of_eq_none hstring), orElse_of_eq_none hboolean]

theorem not_mem_of_isDigit {c : Char} (hc : c.isDigit = true) {marks : List Char}
    (hmarks : ∀ d ∈ marks, d.isDigit = false) : c ∉ marks := by
  intro hmem
  rw [hmarks c hmem] at hc
  cases hc

theorem plainValue_string {w : List Char} {text : String} (h : StringText w text)
    {s : List Char} (hs : EndsToken s) : plainValue (w ++ s) = some (.string text, s) := by
  have hstring : anyString (w ++ s) = some (text, s) :=
    anyString_append h fun c hc => ⟨hs.ne (by simp) c hc, hs.ne (by simp) c hc⟩
  refine orElse_of_eq_some ?_
  rw [bind_of_eq_some hstring]
  rfl

theorem plainValue_datetime {w : List Char} (h : DateTimeText w) {s : List Char}
    (hs : EndsValue s) : plainValue (w ++ s) = some (.datetime (String.ofList w), s) := by
  rw [plainValue_of_head, orElse_of_eq_some (datetime_append h hs)]
  obtain ⟨c, w', rfl, hc⟩ := h.head
  intro d hd
  obtain rfl := Option.some.inj hd
  exact not_mem_of_isDigit hc (by simp)

theorem plainValue_of_number {c : Char} (h : BeginsNumber c)
    {s : List Char} (hs : ¬BeginsLikeDate (c :: s)) :
    plainValue (c :: s) = (float <|> integer : Scanner Value) (c :: s) := by
  rw [plainValue_of_head, orElse_of_eq_none (datetime_eq_none hs)]
  intro d hd
  obtain rfl := Option.some.inj hd
  rcases h with hdigit | hmark
  · exact not_mem_of_isDigit hdigit (by simp)
  · have hall : ∀ c ∈ ['+', '-', 'i', 'n'], c ∉ ['"', '\'', 't', 'f'] := by simp
    exact hall c hmark

theorem plainValue_float {w : List Char} {literal : FloatLiteral} (h : LiteralText w literal)
    (htaken : TakesLiteral literal) {s : List Char} (hs : EndsToken s) :
    plainValue (w ++ s) = some (.float (UInt64.ofNat (literal.pattern Format.double)), s) := by
  have hdate := h.not_beginsLikeDate s
  have hfloat := float_append h htaken hs.endsNumber
  obtain ⟨c, w', rfl, hc⟩ := h.head
  exact (plainValue_of_number hc hdate).trans (orElse_of_eq_some hfloat)

theorem plainValue_integer {w : List Char} {n : ℤ} (h : IntegerText w n)
    (hlow : -0x8000000000000000 ≤ n) (hhigh : n < 0x8000000000000000) {s : List Char}
    (hs : EndsToken s) : plainValue (w ++ s) = some (.integer n, s) := by
  have hdate := h.not_beginsLikeDate hs
  have hfloat := float_eq_none h hs
  have hinteger := integer_append h hlow hhigh hs
  obtain ⟨c, w', rfl, hc⟩ := h.head
  exact (plainValue_of_number hc hdate).trans ((orElse_of_eq_none hfloat).trans hinteger)

/-! ## What values with brackets read -/

/-- What the items of an array denote. -/
def ItemsDenote (limits : Limits) (depth : ℕ) (w : List Char) (vs : List Value) : Prop :=
  ∃ items : List (List Char × Value), vs = items.map Prod.snd
    ∧ (∀ item ∈ items, Denotes limits depth item.1 item.2) ∧ ItemsText (items.map Prod.fst) w

/-- What the assignments between braces are. -/
def FieldsDenote (limits : Limits) (depth : ℕ) (w : List Char) (as : List Assignment) : Prop :=
  ∃ fields : List (List Char × Assignment), as = fields.map Prod.snd
    ∧ (∀ field ∈ fields, Denotes limits depth field.1 field.2.value) ∧ FieldsText limits fields w

theorem KeyText.blanks_append {b w : List Char} {parts : List String} (hb : Blanks b)
    (h : KeyText w parts) : KeyText (b ++ w) parts := by
  cases h with
  | last hbefore hw hbehind =>
    rw [← List.append_assoc]
    exact .last (hb.append hbefore) hw hbehind
  | dotted hbefore hw hbehind hmore =>
    rw [← List.append_assoc]
    exact .dotted (hb.append hbefore) hw hbehind hmore

theorem FieldsText.blanks_append {b w : List Char} {fields : List (List Char × Assignment)}
    (hb : Blanks b) (h : FieldsText limits fields w) : FieldsText limits fields (b ++ w) := by
  cases h with
  | last hkey hpath hblanks hbehind =>
    rw [← List.append_assoc]
    exact .last (hkey.blanks_append hb) hpath hblanks hbehind
  | next hkey hpath hblanks hbehind hmore =>
    rw [← List.append_assoc]
    exact .next (hkey.blanks_append hb) hpath hblanks hbehind hmore

section Budget

variable {budget : ℕ}

theorem value_bracket (depth : ℕ) (s : List Char) :
    value (budget + 1) (depth + 1) ('[' :: s) = (do
      return Value.array .inline (← items budget depth) : Scanner Value) s := by
  rw [value]
  rfl

theorem value_brace (depth : ℕ) (s : List Char) :
    value (budget + 1) (depth + 1) ('{' :: s) = (do
      blanks
      match ← attempt (char '}') with
      | some () => return Value.table .inline []
      | none =>
        match addAssignments .inline [] (← assignments budget depth) with
        | some entries => return Value.table .inline entries
        | none => failure : Scanner Value) s := by
  rw [value]
  rfl

theorem value_of_head {depth : ℕ} {s : List Char} (h : ∀ c ∈ s.head?, c ≠ '[' ∧ c ≠ '{') :
    value (budget + 1) depth s = plainValue s := by
  have hpeek : peek? s = some (s.head?, s) := rfl
  rw [value, bind_of_eq_some hpeek]
  generalize s.head? = found at h
  cases found with
  | none => cases depth <;> rfl
  | some c =>
    obtain ⟨hbracket, hbrace⟩ := h c rfl
    refine congrFun ?_ s
    split <;> simp_all

theorem value_bracket_zero {c : Char} (hc : c = '[' ∨ c = '{') (s : List Char) :
    value (budget + 1) 0 (c :: s) = none := by
  rcases hc with rfl | rfl <;> rw [value] <;> rfl

/-- What stands behind an opening bracket. -/
theorem reads_array {depth : ℕ} (hitems : (items budget depth).Reads (ItemsDenote limits depth)) :
    (do return Value.array .inline (← items budget depth) : Scanner Value).Reads
      fun w v => Denotes limits (depth + 1) ('[' :: w) v := by
  refine hitems.bind ?_
  rintro w _ ⟨items, rfl, hdenote, htext⟩
  refine reads_pure ?_
  rw [List.append_nil]
  exact .array hdenote htext

/-- What stands behind an opening brace. -/
theorem reads_table {depth : ℕ}
    (hassignments : (assignments budget depth).Reads (FieldsDenote limits depth)) :
    (do
      blanks
      match ← attempt (char '}') with
      | some () => return Value.table .inline []
      | none =>
        match addAssignments .inline [] (← assignments budget depth) with
        | some entries => return Value.table .inline entries
        | none => failure : Scanner Value).Reads
      fun w v => Denotes limits (depth + 1) ('{' :: w) v := by
  refine reads_blanks.bind fun b _ hb => ?_
  refine (reads_char '}').attempt.bind ?_
  rintro _ _ (⟨⟨⟩, rfl, rfl⟩ | ⟨rfl, rfl⟩)
  · exact reads_pure (.emptyTable hb)
  · refine hassignments.bind ?_
    rintro w _ ⟨fields, rfl, hdenote, htext⟩
    cases hadd : addAssignments .inline [] (fields.map Prod.snd) with
    | none => exact reads_failure
    | some entries =>
      refine reads_pure ?_
      have hadd := addAssignments_eq_some_iff.mp hadd
      simpa using Denotes.table hdenote (htext.blanks_append hb) hadd

theorem reads_value_succ (hitems : ∀ depth, (items budget depth).Reads (ItemsDenote limits depth))
    (hassignments : ∀ depth, (assignments budget depth).Reads (FieldsDenote limits depth))
    (depth : ℕ) : (value (budget + 1) depth).Reads (Denotes limits depth) := by
  intro s v rest h
  by_cases hhead : ∀ c ∈ s.head?, c ≠ '[' ∧ c ≠ '{'
  · rw [value_of_head hhead] at h
    exact reads_plainValue _ _ _ _ h
  have hbracket : ∃ c s', s = c :: s' ∧ (c = '[' ∨ c = '{') := by
    cases s with
    | nil => exact absurd (fun c hc => nomatch hc) hhead
    | cons c s =>
      refine ⟨c, s, rfl, ?_⟩
      by_contra hc
      refine hhead fun d hd => ?_
      obtain rfl := Option.some.inj hd
      exact not_or.mp hc
  obtain ⟨c, s, rfl, hc⟩ := hbracket
  cases depth with
  | zero =>
    rw [value_bracket_zero hc] at h
    cases h
  | succ depth =>
    rcases hc with rfl | rfl
    · rw [value_bracket] at h
      obtain ⟨w, rfl, hw⟩ := reads_array (hitems depth) _ _ _ h
      exact ⟨'[' :: w, rfl, hw⟩
    · rw [value_brace] at h
      obtain ⟨w, rfl, hw⟩ := reads_table (hassignments depth) _ _ _ h
      exact ⟨'{' :: w, rfl, hw⟩

theorem reads_items_succ (hvalue : ∀ depth, (value budget depth).Reads (Denotes limits depth))
    (hitems : ∀ depth, (items budget depth).Reads (ItemsDenote limits depth)) (depth : ℕ) :
    (items (budget + 1) depth).Reads (ItemsDenote limits depth) := by
  rw [items]
  have hdead : ∀ s, Unreadable s → value budget depth s = none := fun s =>
    (hvalue depth).eq_none_of_unreadable fun w v hw => by
      obtain ⟨c, w', rfl, hc⟩ := hw.head
      exact ⟨c, w', rfl, hc.textChar⟩
  refine Reads.filler_bind (fun s hs => ?_) fun before hbefore => ?_
  · rw [bind_of_eq_some (attempt_of_eq_none (hs.char_eq_none (by decide)))]
    exact bind_of_eq_none (hdead s hs)
  refine (reads_char ']').attempt.bind ?_
  rintro _ _ (⟨⟨⟩, rfl, rfl⟩ | ⟨rfl, rfl⟩)
  · exact reads_pure ⟨[], rfl, List.forall_mem_nil _, .nil hbefore⟩
  refine (hvalue depth).bind fun w v hw => ?_
  refine Reads.filler_bind (fun s hs => ?_) fun behind hbehind => ?_
  · rw [bind_of_eq_some (attempt_of_eq_none (hs.char_eq_none (by decide)))]
    exact bind_of_eq_none (hs.char_eq_none (by decide))
  refine (reads_char ',').attempt.bind ?_
  rintro _ _ (⟨⟨⟩, rfl, rfl⟩ | ⟨rfl, rfl⟩)
  · refine (hitems depth).bind ?_
    rintro w' _ ⟨items, rfl, hdenote, htext⟩
    refine reads_pure ⟨(w, v) :: items, rfl, List.forall_mem_cons.mpr ⟨hw, hdenote⟩, ?_⟩
    simpa using ItemsText.next hbefore hbehind htext
  · refine (reads_char ']').bind ?_
    rintro _ _ rfl
    refine reads_pure ⟨[(w, v)], rfl, List.forall_mem_singleton.mpr hw, ?_⟩
    simpa using ItemsText.last hbefore hbehind

theorem reads_assignments_succ
    (hvalue : ∀ depth, (value budget depth).Reads (Denotes limits depth))
    (hassignments : ∀ depth, (assignments budget depth).Reads (FieldsDenote limits depth))
    (depth : ℕ) : (assignments (budget + 1) depth).Reads (FieldsDenote limits depth) := by
  rw [assignments]
  refine reads_key.bind ?_
  rintro key ⟨path, name⟩ ⟨hkey, hpath⟩
  refine (reads_char '=').bind ?_
  rintro _ _ rfl
  refine reads_blanks.bind fun b _ hb => ?_
  refine (hvalue depth).bind fun w v hw => ?_
  refine reads_blanks.bind fun behind _ hbehind => ?_
  refine (reads_char ',').attempt.bind ?_
  rintro _ _ (⟨⟨⟩, rfl, rfl⟩ | ⟨rfl, rfl⟩)
  · refine (hassignments depth).bind ?_
    rintro w' _ ⟨fields, rfl, hdenote, htext⟩
    refine reads_pure
      ⟨(w, ⟨path, name, v⟩) :: fields, rfl, List.forall_mem_cons.mpr ⟨hw, hdenote⟩, ?_⟩
    simpa using (FieldsText.next hkey hpath hb hbehind htext : FieldsText limits _ _)
  · refine (reads_char '}').bind ?_
    rintro _ _ rfl
    refine reads_pure
      ⟨[(w, ⟨path, name, v⟩)], rfl, List.forall_mem_singleton.mpr hw, ?_⟩
    simpa using (FieldsText.last hkey hpath hb hbehind : FieldsText limits _ _)

end Budget

/-- **What is read as a value is one**, and so are the items of an array and the assignments between
braces. -/
theorem reads_nested (budget : ℕ) :
    (∀ depth, (value budget depth).Reads (Denotes limits depth))
      ∧ (∀ depth, (items budget depth).Reads (ItemsDenote limits depth))
      ∧ ∀ depth, (assignments budget depth).Reads (FieldsDenote limits depth) := by
  induction budget with
  | zero => exact ⟨fun _ => reads_failure, fun _ => reads_failure, fun _ => reads_failure⟩
  | succ budget ih =>
    obtain ⟨hvalue, hitems, hassignments⟩ := ih
    exact ⟨reads_value_succ hitems hassignments, reads_items_succ hvalue hitems,
      reads_assignments_succ hvalue hassignments⟩

/-! ## What values with brackets are read -/

theorem Filler.endsValue {w t : List Char} (h : Filler w)
    (ht : ∀ c ∈ t.head?, c ∈ ['\n', '\r', '#', ',', ']', '}']) : EndsValue (w ++ t) := by
  have hstop : ∀ {w}, (∀ c ∈ (w ++ t).head?, c ∈ ['\n', '\r', '#', ',', ']', '}']) →
      EndsValue (w ++ t) := fun hw => ⟨[], _, rfl, Blanks.nil, hw⟩
  induction h with
  | nil => exact hstop ht
  | blank hc _ ih =>
    obtain ⟨b, t', heq, hb, ht'⟩ := ih
    exact ⟨_ :: b, t', congrArg (_ :: ·) heq, List.forall_mem_cons.mpr ⟨hc, hb⟩, ht'⟩
  | line hcomment hnewline =>
    refine hstop fun c hc => ?_
    cases hcomment with
    | none =>
      cases hnewline <;> obtain rfl := Option.some.inj hc <;> simp
    | marked =>
      obtain rfl := Option.some.inj hc
      simp

theorem BeginsValue.endsFiller {c : Char} (h : BeginsValue c) (s : List Char) :
    EndsFiller (c :: s) := by
  intro d hd hmem
  obtain rfl := Option.some.inj hd
  have hall : ∀ c ∈ [' ', '\t', '\n', '\r', '#'],
      c ∈ [' ', '\t', '\n', '\r', '#', ',', ']', '}'] := by simp
  exact h.not_mem (hall c hmem)

theorem BeginsValue.char_eq_none {c d : Char} (h : BeginsValue c)
    (hd : d ∈ [' ', '\t', '\n', '\r', '#', ',', ']', '}']) (s : List Char) :
    char d (c :: s) = none := by
  refine Scanner.char_eq_none d fun e he => ?_
  obtain rfl := Option.some.inj he
  rintro rfl
  exact h.not_mem hd

/-- **What is read as a value**, whatever follows it that may. -/
def IsRead (depth : ℕ) (w : List Char) (v : Value) : Prop :=
  ∀ s, EndsValue s → ∀ budget, w.length < budget → value budget depth (w ++ s) = some (v, s)

theorem isRead_of_plainValue {depth : ℕ} {w : List Char} {v : Value}
    (hhead : ∃ c w', w = c :: w' ∧ c ≠ '[' ∧ c ≠ '{')
    (h : ∀ s, EndsValue s → plainValue (w ++ s) = some (v, s)) : IsRead depth w v := by
  rintro s hs (_ | budget) hbudget
  · cases hbudget
  · obtain ⟨c, w', rfl, hc⟩ := hhead
    rw [value_of_head, h s hs]
    intro d hd
    obtain rfl := Option.some.inj hd
    exact hc

theorem BeginsNumber.ne_bracket {c : Char} (h : BeginsNumber c) : c ≠ '[' ∧ c ≠ '{' := by
  constructor <;> rintro rfl <;> exact absurd h (by simp [BeginsNumber])

/-- An item of an array, and the filler around it. -/
theorem items_item {depth budget : ℕ} {before w behind t : List Char} {v : Value} {mark : Char}
    (hbefore : Filler before) (hdenote : Denotes limits depth w v) (hread : IsRead depth w v)
    (hbehind : Filler behind) (hmark : mark ∈ [',', ']']) (hbudget : w.length < budget) :
    items (budget + 1) depth (before ++ (w ++ (behind ++ mark :: t))) = (do
      match ← attempt (char ',') with
      | some () => return v :: (← items budget depth)
      | none =>
        char ']'
        return [v] : Scanner (List Value)) (mark :: t) := by
  have hends : ∀ c ∈ [',', ']'], c ∉ [' ', '\t', '\n', '\r', '#']
      ∧ c ∈ ['\n', '\r', '#', ',', ']', '}'] := by simp
  obtain ⟨hfiller, hvalue⟩ := hends mark hmark
  have hbehind' : filler (behind ++ mark :: t) = some ((), mark :: t) :=
    filler_append hbehind fun c hc => by
      obtain rfl := Option.some.inj hc
      exact hfiller
  have hvalue := hread (behind ++ mark :: t) (hbehind.endsValue fun c hc => by
    obtain rfl := Option.some.inj hc
    exact hvalue) budget hbudget
  obtain ⟨c, w', rfl, hc⟩ := hdenote.head
  have hbefore' : filler (before ++ (c :: w' ++ (behind ++ mark :: t)))
      = some ((), c :: w' ++ (behind ++ mark :: t)) := filler_append hbefore (hc.endsFiller _)
  have hclosing : char ']' (c :: w' ++ (behind ++ mark :: t)) = none :=
    hc.char_eq_none (by simp) _
  rw [items, bind_of_eq_some hbefore', bind_of_eq_some (attempt_of_eq_none hclosing)]
  dsimp only
  rw [bind_of_eq_some hvalue]
  exact bind_of_eq_some hbehind'

theorem items_append {depth : ℕ} {read : List (List Char × Value)} {w : List Char}
    (hdenote : ∀ item ∈ read, Denotes limits depth item.1 item.2)
    (hread : ∀ item ∈ read, IsRead depth item.1 item.2)
    (h : ItemsText (read.map Prod.fst) w) (s : List Char) :
    ∀ budget, w.length < budget → items budget depth (w ++ s) = some (read.map Prod.snd, s) := by
  generalize hws : read.map Prod.fst = ws at h
  induction h generalizing read with
  | nil hfiller =>
    rintro (_ | budget) hbudget
    · cases hbudget
    obtain rfl := List.map_eq_nil_iff.mp hws
    have hends : EndsFiller (']' :: s) := fun c hc => by
      obtain rfl := Option.some.inj hc
      simp
    rw [items, List.append_assoc, List.singleton_append,
      bind_of_eq_some (filler_append hfiller hends),
      bind_of_eq_some (attempt_of_eq_some (char_cons ']' s))]
    rfl
  | last hbefore hbehind =>
    rintro (_ | budget) hbudget
    · cases hbudget
    obtain ⟨⟨w, v⟩, read, rfl, rfl, hread'⟩ := List.map_eq_cons_iff.mp hws
    obtain rfl := List.map_eq_nil_iff.mp hread'
    simp only [List.length_append, List.length_singleton] at hbudget
    simp only [List.append_assoc, List.singleton_append]
    rw [items_item hbefore (hdenote _ List.mem_cons_self) (hread _ List.mem_cons_self) hbehind
      (by simp) (by dsimp only; omega)]
    rfl
  | next hbefore hbehind _ ih =>
    rintro (_ | budget) hbudget
    · cases hbudget
    obtain ⟨⟨w, v⟩, read, rfl, rfl, rfl⟩ := List.map_eq_cons_iff.mp hws
    obtain ⟨hw, hdenote⟩ := List.forall_mem_cons.mp hdenote
    obtain ⟨hv, hread⟩ := List.forall_mem_cons.mp hread
    simp only [List.length_append, List.length_cons] at hbudget
    have hmore := ih hdenote hread rfl budget (by omega)
    simp only [List.append_assoc, List.cons_append]
    rw [items_item hbefore hw hv hbehind (by simp) (by dsimp only; omega),
      bind_of_eq_some (attempt_of_eq_some (char_cons ',' _))]
    dsimp only
    rw [bind_of_eq_some hmore]
    rfl

/-- A key with the blanks in front of it apart. -/
theorem KeyText.exists_blanks {w : List Char} {parts : List String} (h : KeyText w parts) :
    ∃ b c w', w = b ++ c :: w' ∧ Blanks b ∧ BeginsKey c ∧ KeyText (c :: w') parts := by
  cases h with
  | last hbefore hw hbehind =>
    obtain ⟨c, w', rfl, hc⟩ := hw.head
    exact ⟨_, c, _, rfl, hbefore, hc, .last Blanks.nil hw hbehind⟩
  | dotted hbefore hw hbehind hmore =>
    obtain ⟨c, w', rfl, hc⟩ := hw.head
    exact ⟨_, c, _, rfl, hbefore, hc, .dotted Blanks.nil hw hbehind hmore⟩

theorem FieldsText.exists_blanks {w : List Char} {fields : List (List Char × Assignment)}
    (h : FieldsText limits fields w) :
    ∃ b c w', w = b ++ c :: w' ∧ Blanks b ∧ BeginsKey c ∧ FieldsText limits fields (c :: w') := by
  cases h with
  | last hkey hpath hblanks hbehind =>
    obtain ⟨b, c, w', rfl, hb, hc, hkey⟩ := hkey.exists_blanks
    exact ⟨b, c, _, List.append_assoc _ _ _, hb, hc, .last hkey hpath hblanks hbehind⟩
  | next hkey hpath hblanks hbehind hmore =>
    obtain ⟨b, c, w', rfl, hb, hc, hkey⟩ := hkey.exists_blanks
    exact ⟨b, c, _, List.append_assoc _ _ _, hb, hc, .next hkey hpath hblanks hbehind hmore⟩

/-- **A key with its value**, in front of what ends the value. -/
theorem key_value_append {depth budget : ℕ} {key' b w : List Char} {path : List String}
    {name : String} {v : Value} (hkey : KeyText key' (path ++ [name]))
    (hpath : path.length < limits.depth) (hb : Blanks b) (hdenote : Denotes limits depth w v)
    (hread : IsRead depth w v) (hbudget : w.length < budget) {t : List Char} (ht : EndsValue t) :
    key (key' ++ '=' :: (b ++ (w ++ t))) = some ((path, name), '=' :: (b ++ (w ++ t)))
      ∧ blanks (b ++ (w ++ t)) = some ((), w ++ t)
      ∧ value budget depth (w ++ t) = some (v, t) := by
  refine ⟨key_append hkey hpath fun c hc => Or.inl (Option.some.inj hc).symm,
    blanks_append hb ?_, hread t ht budget hbudget⟩
  obtain ⟨c, w', rfl, hc⟩ := hdenote.head
  intro d hd
  obtain rfl := Option.some.inj hd
  constructor <;> rintro rfl <;> exact absurd hc.not_mem (by simp)

/-- An assignment between braces, and the blanks around it. -/
theorem assignments_field {depth budget : ℕ} {key' b w behind t : List Char} {path : List String}
    {name : String} {v : Value} {mark : Char} (hkey : KeyText key' (path ++ [name]))
    (hpath : path.length < limits.depth) (hb : Blanks b) (hdenote : Denotes limits depth w v)
    (hread : IsRead depth w v) (hbehind : Blanks behind) (hmark : mark ∈ [',', '}'])
    (hbudget : w.length < budget) :
    assignments (budget + 1) depth (key' ++ '=' :: (b ++ (w ++ (behind ++ mark :: t)))) = (do
      match ← attempt (char ',') with
      | some () => return ⟨path, name, v⟩ :: (← assignments budget depth)
      | none =>
        char '}'
        return [⟨path, name, v⟩] : Scanner (List Assignment)) (mark :: t) := by
  have hends : ∀ c ∈ [',', '}'], (c ≠ ' ' ∧ c ≠ '\t')
      ∧ c ∈ ['\n', '\r', '#', ',', ']', '}'] := by simp
  obtain ⟨hnot, hvalue⟩ := hends mark hmark
  have ht : EndsValue (behind ++ mark :: t) := ⟨behind, mark :: t, rfl, hbehind, fun c hc => by
    obtain rfl := Option.some.inj hc
    exact hvalue⟩
  have hbehind' : blanks (behind ++ mark :: t) = some ((), mark :: t) :=
    blanks_append hbehind fun c hc => by
      obtain rfl := Option.some.inj hc
      exact hnot
  obtain ⟨hkey', hb', hv⟩ := key_value_append hkey hpath hb hdenote hread hbudget ht
  rw [assignments, bind_of_eq_some hkey']
  dsimp only
  rw [bind_of_eq_some (char_cons '=' _), bind_of_eq_some hb', bind_of_eq_some hv]
  exact bind_of_eq_some hbehind'

theorem assignments_append {depth : ℕ} {fields : List (List Char × Assignment)} {w : List Char}
    (hdenote : ∀ field ∈ fields, Denotes limits depth field.1 field.2.value)
    (hread : ∀ field ∈ fields, IsRead depth field.1 field.2.value)
    (h : FieldsText limits fields w) (s : List Char) :
    ∀ budget, w.length < budget →
      assignments budget depth (w ++ s) = some (fields.map Prod.snd, s) := by
  induction h with
  | last hkey hpath hb hbehind =>
    rintro (_ | budget) hbudget
    · cases hbudget
    simp only [List.length_append, List.length_cons, List.length_nil] at hbudget
    simp only [List.append_assoc, List.cons_append, List.nil_append]
    rw [assignments_field hkey hpath hb (hdenote _ List.mem_cons_self)
      (hread _ List.mem_cons_self) hbehind (by simp) (by dsimp only; omega)]
    rfl
  | next hkey hpath hb hbehind _ ih =>
    rintro (_ | budget) hbudget
    · cases hbudget
    obtain ⟨hw, hdenote⟩ := List.forall_mem_cons.mp hdenote
    obtain ⟨hv, hread⟩ := List.forall_mem_cons.mp hread
    simp only [List.length_append, List.length_cons] at hbudget
    have hmore := ih hdenote hread budget (by omega)
    simp only [List.append_assoc, List.cons_append]
    rw [assignments_field hkey hpath hb hw hv hbehind (by simp) (by dsimp only; omega),
      bind_of_eq_some (attempt_of_eq_some (char_cons ',' _))]
    dsimp only
    rw [bind_of_eq_some hmore]
    rfl

theorem isRead_array {depth : ℕ} {w : List Char} {read : List (List Char × Value)}
    (hdenote : ∀ item ∈ read, Denotes limits depth item.1 item.2)
    (hread : ∀ item ∈ read, IsRead depth item.1 item.2) (h : ItemsText (read.map Prod.fst) w) :
    IsRead (depth + 1) ('[' :: w) (.array .inline (read.map Prod.snd)) := by
  rintro s hs (_ | budget) hbudget
  · cases hbudget
  have hitems := items_append hdenote hread h s budget (Nat.lt_of_succ_lt_succ hbudget)
  rw [List.cons_append, value_bracket, bind_of_eq_some hitems]
  rfl

theorem isRead_emptyTable {depth : ℕ} {b : List Char} (hb : Blanks b) :
    IsRead (depth + 1) ('{' :: (b ++ ['}'])) (.table .inline []) := by
  rintro s hs (_ | budget) hbudget
  · cases hbudget
  have hclosing : blanks (b ++ '}' :: s) = some ((), '}' :: s) :=
    blanks_append hb fun c hc => by
      obtain rfl := Option.some.inj hc
      simp
  rw [List.cons_append, List.append_assoc, List.singleton_append, value_brace,
    bind_of_eq_some hclosing, bind_of_eq_some (attempt_of_eq_some (char_cons '}' s))]
  rfl

theorem isRead_table {depth : ℕ} {w : List Char} {fields : List (List Char × Assignment)}
    {entries : Entries} (hdenote : ∀ field ∈ fields, Denotes limits depth field.1 field.2.value)
    (hread : ∀ field ∈ fields, IsRead depth field.1 field.2.value)
    (h : FieldsText limits fields w)
    (hadd : AddInTurn .inline (fields.map Prod.snd) [] entries) :
    IsRead (depth + 1) ('{' :: w) (.table .inline entries) := by
  rintro s hs (_ | budget) hbudget
  · cases hbudget
  -- The blanks in front of the first key are passed before it is known that there is one.
  obtain ⟨b, c, w', rfl, hb, hc, htext⟩ := h.exists_blanks
  simp only [List.length_append, List.length_cons] at hbudget
  have hfields := assignments_append hdenote hread htext s budget (by
    rw [List.length_cons]
    omega)
  have hhead : ∀ d ∈ (c :: w' ++ s).head?, d ∉ [' ', '\t', '}'] := fun d hd => by
    obtain rfl := Option.some.inj hd
    exact fun hmem => hc.not_mem (by simp only [List.mem_cons] at hmem ⊢; tauto)
  have hopening : blanks (b ++ (c :: w' ++ s)) = some ((), c :: w' ++ s) :=
    blanks_append hb fun d hd => by
      constructor <;> rintro rfl <;> exact absurd (hhead _ hd) (by simp)
  have hclosing : char '}' (c :: w' ++ s) = none := char_eq_none '}' fun d hd => by
    rintro rfl
    exact absurd (hhead _ hd) (by simp)
  rw [List.cons_append, List.append_assoc, value_brace, bind_of_eq_some hopening,
    bind_of_eq_some (attempt_of_eq_none hclosing)]
  dsimp only
  rw [bind_of_eq_some hfields, addAssignments_eq_some_iff.mpr hadd]
  rfl

/-- **Every value is read**, and as what it denotes. -/
theorem Denotes.isRead {depth : ℕ} {w : List Char} {v : Value} (h : Denotes limits depth w v) :
    IsRead depth w v := by
  induction h with
  | string htext =>
    obtain ⟨c, w', hw, hc⟩ := htext.head
    refine isRead_of_plainValue ⟨c, w', hw, ?_⟩ fun s hs => plainValue_string htext hs.endsToken
    rcases hc with rfl | rfl <;> simp
  | true => exact isRead_of_plainValue ⟨'t', _, rfl, by simp⟩ fun s _ => rfl
  | false => exact isRead_of_plainValue ⟨'f', _, rfl, by simp⟩ fun s _ => rfl
  | datetime hw =>
    obtain ⟨c, w', hhead, hc⟩ := hw.head
    exact isRead_of_plainValue ⟨c, w', hhead, BeginsNumber.ne_bracket (Or.inl hc)⟩
      fun s hs => plainValue_datetime hw hs
  | float hw htaken =>
    obtain ⟨c, w', hhead, hc⟩ := hw.head
    exact isRead_of_plainValue ⟨c, w', hhead, hc.ne_bracket⟩
      fun s hs => plainValue_float hw htaken hs.endsToken
  | integer hw hlow hhigh =>
    obtain ⟨c, w', hhead, hc⟩ := hw.head
    exact isRead_of_plainValue ⟨c, w', hhead, hc.ne_bracket⟩
      fun s hs => plainValue_integer hw hlow hhigh hs.endsToken
  | array hdenote htext ih => exact isRead_array hdenote ih htext
  | emptyTable hb => exact isRead_emptyTable hb
  | table hdenote htext hadd ih => exact isRead_table hdenote ih htext hadd

end PeerTelemetry.Toml
