import PeerTelemetry.Proofs.NumberReading
import PeerTelemetry.Toml.Text

/-!
# Strings that are read

Strings of all four kinds are read as the texts that they denote (`reads_anyString`,
`anyString_append`). The lemmas are about what stands behind an opening delimiter, and where the
string is closed.

A string that spans lines differs in two ways. A backslash at the end of a line drops all space up
to what follows, and what may follow depends on how much of that has been passed
(`LineState.Continues`). And of the quotation marks in front of the closing delimiter up to two
belong to the text, so that of five in a row the last three close the string: where a quotation mark
is taken for text, it has to be seen how the run goes on (`multilineBasicRest_closing`).
-/

namespace PeerTelemetry.Toml

open Scanner

/-! ## Escapes -/

theorem codePoint?_eq_some_iff {digits : List Char} {c : Char} :
    codePoint? digits = some c
      ↔ (∀ d ∈ digits, Digit 16 d) ∧ numeral 16 digits = c.toNat := by
  have hnumeral : numeral 16 digits = ofHexadecimal digits := (foldl_eq_numeral 16 digits).symm
  simp only [digit_sixteen_iff, hnumeral]
  unfold codePoint?
  dsimp only
  split
  case isTrue h =>
    obtain ⟨hdigits, hvalid⟩ := Bool.and_eq_true_iff.mp h
    have hvalid : Nat.isValidChar (ofHexadecimal digits) := of_decide_eq_true hvalid
    have htoNat : (Char.ofNat (ofHexadecimal digits)).toNat = ofHexadecimal digits := by
      unfold Char.ofNat
      rw [dif_pos hvalid]
      rfl
    rw [Option.some.injEq]
    constructor
    · rintro rfl
      exact ⟨List.all_eq_true.mp hdigits, htoNat.symm⟩
    · rintro ⟨-, hvalue⟩
      rw [hvalue, Char.ofNat_toNat]
  case isFalse h =>
    refine iff_of_false (fun h => nomatch h) fun ⟨hdigits, hvalue⟩ => h ?_
    rw [Bool.and_eq_true]
    refine ⟨List.all_eq_true.mpr hdigits, decide_eq_true ?_⟩
    rw [hvalue]
    exact c.valid

theorem simpleEscape?_eq_some_iff {e c : Char} : simpleEscape? e = some c ↔ Escape [e] c := by
  constructor
  · intro h
    unfold simpleEscape? at h
    split at h <;> cases h <;> constructor
  · intro h
    cases h <;> rfl

theorem consChar_eq_some_iff {c : Char} {read : Option (List Char × List Char)}
    {text rest : List Char} :
    consChar c read = some (text, rest)
      ↔ ∃ text', read = some (text', rest) ∧ text = c :: text' := by
  unfold consChar
  rw [Option.map_eq_some_iff]
  constructor
  · rintro ⟨⟨text', rest'⟩, hread, heq⟩
    cases heq
    exact ⟨text', hread, rfl⟩
  · rintro ⟨text', hread, rfl⟩
    exact ⟨(text', rest), hread, rfl⟩

section Behind

variable {read : Option (List Char × List Char)} {s close text rest : List Char}
  {P : List Char → List Char → Prop}
  (ih : ∀ text, read = some (text, rest) → ∃ w, s = w ++ close ∧ P w text)

include ih

/-- What is read behind a character, up to where the string is closed. -/
theorem exists_of_consChar {c : Char} (h : consChar c read = some (text, rest)) :
    ∃ w text', s = w ++ close ∧ P w text' ∧ text = c :: text' := by
  obtain ⟨text', hread, rfl⟩ := consChar_eq_some_iff.mp h
  obtain ⟨w, hs, hw⟩ := ih text' hread
  exact ⟨w, text', hs, hw, rfl⟩

theorem exists_of_codePoint? {digits : List Char}
    (h : (codePoint? digits >>= fun c => consChar c read) = some (text, rest)) :
    ∃ w text' c, s = w ++ close ∧ P w text' ∧ text = c :: text'
      ∧ (∀ d ∈ digits, Digit 16 d) ∧ numeral 16 digits = c.toNat := by
  obtain ⟨c, hc, hcons⟩ := Option.bind_eq_some_iff.mp h
  obtain ⟨w, text', hs, hw, htext⟩ := exists_of_consChar ih hcons
  exact ⟨w, text', c, hs, hw, htext, codePoint?_eq_some_iff.mp hc⟩

theorem exists_of_simpleEscape? {e : Char}
    (h : (simpleEscape? e >>= fun c => consChar c read) = some (text, rest)) :
    ∃ w text' c, s = w ++ close ∧ P w text' ∧ text = c :: text' ∧ Escape [e] c := by
  obtain ⟨c, hc, hcons⟩ := Option.bind_eq_some_iff.mp h
  obtain ⟨w, text', hs, hw, htext⟩ := exists_of_consChar ih hcons
  exact ⟨w, text', c, hs, hw, htext, simpleEscape?_eq_some_iff.mp hc⟩

end Behind

/-! ## Strings of one line -/

theorem basicText_of_basicRest {s rest : List Char} :
    ∀ text, basicRest s = some (text, rest) → ∃ w, s = w ++ '"' :: rest ∧ BasicText w text := by
  fun_induction basicRest s with
  | case1 => exact fun _ h => nomatch h
  | case2 s =>
    rintro _ ⟨⟩
    exact ⟨[], rfl, .nil⟩
  | case3 a b c d s ih =>
    intro text h
    obtain ⟨w, text', e, rfl, hw, rfl, hdigits, hvalue⟩ := exists_of_codePoint? ih h
    exact ⟨'\\' :: 'u' :: a :: b :: c :: d :: w, rfl, .escaped (.short hdigits hvalue) hw⟩
  | case4 a b c d e f g h s ih =>
    intro text hs
    obtain ⟨w, text', e', rfl, hw, rfl, hdigits, hvalue⟩ := exists_of_codePoint? ih hs
    exact ⟨'\\' :: 'U' :: a :: b :: c :: d :: e :: f :: g :: h :: w, rfl,
      .escaped (.long hdigits hvalue) hw⟩
  | case5 e s _ _ ih =>
    intro text h
    obtain ⟨w, text', c, rfl, hw, rfl, hescape⟩ := exists_of_simpleEscape? ih h
    exact ⟨'\\' :: e :: w, rfl, .escaped hescape hw⟩
  | case6 c s hquote _ _ _ hc ih =>
    intro text h
    obtain ⟨w, text', rfl, hw, rfl⟩ := exists_of_consChar ih h
    obtain ⟨htext, hbackslash⟩ := Bool.and_eq_true_iff.mp hc
    exact ⟨c :: w, rfl, .plain (isTextChar_iff.mp htext) hquote (of_decide_eq_true hbackslash) hw⟩
  | case7 => exact fun _ h => nomatch h

theorem basicRest_escape_append {escape : List Char} {c : Char} (h : Escape escape c)
    (s : List Char) : basicRest ('\\' :: (escape ++ s)) = consChar c (basicRest s) := by
  cases h with
  | short hdigits hvalue | long hdigits hvalue =>
    have hc := codePoint?_eq_some_iff.mpr ⟨hdigits, hvalue⟩
    show (codePoint? _ >>= _) = _
    rw [hc]
    rfl
  | _ => rfl

theorem basicRest_append {w text : List Char} (h : BasicText w text) (rest : List Char) :
    basicRest (w ++ '"' :: rest) = some (text, rest) := by
  induction h with
  | nil => rfl
  | @plain c w text hc hquote hbackslash _ ih =>
    have hplain : (isTextChar c && decide (c ≠ '\\')) = true :=
      Bool.and_eq_true_iff.mpr ⟨isTextChar_iff.mpr hc, decide_eq_true hbackslash⟩
    rw [List.cons_append, basicRest, if_pos hplain, ih]
    · rfl
    · exact hquote
    · exact fun _ _ _ _ _ h => absurd h hbackslash
    · exact fun _ _ _ _ _ _ _ _ _ h => absurd h hbackslash
    · exact fun _ _ h => absurd h hbackslash
  | escaped hescape _ ih =>
    rw [List.cons_append, List.append_assoc, basicRest_escape_append hescape, ih]
    rfl

theorem reads_literalRest {s rest : List Char} :
    ∀ text, literalRest s = some (text, rest) →
      s = text ++ '\'' :: rest ∧ ∀ c ∈ text, TextChar c ∧ c ≠ '\'' := by
  fun_induction literalRest s with
  | case1 => exact fun _ h => nomatch h
  | case2 s =>
    rintro _ ⟨⟩
    exact ⟨rfl, List.forall_mem_nil _⟩
  | case3 c s hquote hc ih =>
    intro text h
    obtain ⟨text', hread, rfl⟩ := consChar_eq_some_iff.mp h
    obtain ⟨rfl, htext⟩ := ih text' hread
    exact ⟨rfl, List.forall_mem_cons.mpr ⟨⟨isTextChar_iff.mp hc, hquote⟩, htext⟩⟩
  | case4 => exact fun _ h => nomatch h

theorem literalRest_append {text : List Char} (h : ∀ c ∈ text, TextChar c ∧ c ≠ '\'')
    (rest : List Char) : literalRest (text ++ '\'' :: rest) = some (text, rest) := by
  induction text with
  | nil => rfl
  | cons c text ih =>
    obtain ⟨⟨hc, hquote⟩, htext⟩ := List.forall_mem_cons.mp h
    rw [List.cons_append, literalRest, if_pos (isTextChar_iff.mpr hc), ih htext]
    · rfl
    · exact hquote

theorem reads_lineString : lineString.Reads LineString := by
  intro s text rest h
  unfold lineString at h
  split at h
  case h_1 s =>
    obtain ⟨⟨text', rest'⟩, hread, heq⟩ := Option.map_eq_some_iff.mp h
    cases heq
    obtain ⟨w, rfl, hw⟩ := basicText_of_basicRest _ hread
    exact ⟨'"' :: (w ++ ['"']), by simp, .basic hw⟩
  case h_2 s =>
    obtain ⟨⟨text', rest'⟩, hread, heq⟩ := Option.map_eq_some_iff.mp h
    cases heq
    obtain ⟨rfl, htext⟩ := reads_literalRest _ hread
    exact ⟨'\'' :: (text' ++ ['\'']), by simp, .literal htext⟩
  case h_3 => cases h

theorem lineString_append {w : List Char} {text : String} (h : LineString w text)
    (rest : List Char) : lineString (w ++ rest) = some (text, rest) := by
  cases h with
  | basic hw =>
    rw [List.cons_append, List.append_assoc]
    show (basicRest _).map _ = _
    rw [List.singleton_append, basicRest_append hw]
    rfl
  | literal htext =>
    rw [List.cons_append, List.append_assoc]
    show (literalRest _).map _ = _
    rw [List.singleton_append, literalRest_append htext]
    rfl

/-! ## Strings that span lines -/

/-- **What may follow where the reading of a string stands**, up to its closing delimiter. -/
inductive LineState.Continues : LineState → List Char → List Char → Prop
  | text {w text : List Char} : MultilineBasicText w text → Continues .text w text
  | dropping {space w text : List Char} : LineSpace space → ¬BeginsWithSpace w →
    MultilineBasicText w text → Continues .dropping (space ++ w) text
  | brokenLine {blanks newline w text : List Char} : Blanks blanks → Newline newline →
    Continues .dropping w text → Continues .brokenLine (blanks ++ (newline ++ w)) text

namespace LineState

variable {state : LineState} {w text : List Char}

theorem Continues.multilineBasicText (h : Continues .text w text) : MultilineBasicText w text := by
  cases h with
  | text hw => exact hw

/-- Where no line is broken the string may go on with anything but what is dropped. -/
theorem continues_of_text (hstate : state = .brokenLine → False) (hw : MultilineBasicText w text)
    (hspace : state = .dropping → ¬BeginsWithSpace w) : state.Continues w text := by
  cases state with
  | text => exact .text hw
  | brokenLine => exact absurd rfl hstate
  | dropping => exact .dropping .nil (hspace rfl) hw

theorem not_beginsWithSpace_cons {c : Char} {w : List Char} (h : c ∉ [' ', '\t', '\n', '\r']) :
    ¬BeginsWithSpace (c :: w) := by
  rintro ⟨d, hd, hmem⟩
  obtain rfl := Option.some.inj hd
  exact h hmem

/-- So it may with a character that is no space. -/
theorem continues_of_cons {c : Char} (hstate : state = .brokenLine → False)
    (hc : c ∉ [' ', '\t', '\n', '\r']) (hw : MultilineBasicText (c :: w) text) :
    state.Continues (c :: w) text :=
  continues_of_text hstate hw fun _ => not_beginsWithSpace_cons hc

theorem Continues.blank_dropping {c : Char} (hc : c = ' ' ∨ c = '\t')
    (h : Continues .dropping w text) : Continues .dropping (c :: w) text := by
  cases h with
  | dropping hspace hbegins hw => exact .dropping (.blank hc hspace) hbegins hw

theorem Continues.newline_dropping {newline : List Char} (hnewline : Newline newline)
    (h : Continues .dropping w text) : Continues .dropping (newline ++ w) text := by
  cases h with
  | dropping hspace hbegins hw =>
    rw [← List.append_assoc]
    exact .dropping (.newline hnewline hspace) hbegins hw

theorem Continues.blank_brokenLine {c : Char} (hc : c = ' ' ∨ c = '\t')
    (h : Continues .brokenLine w text) : Continues .brokenLine (c :: w) text := by
  cases h with
  | brokenLine hblanks hnewline hw =>
    have hcons := Continues.brokenLine (List.forall_mem_cons.mpr ⟨hc, hblanks⟩) hnewline hw
    exact hcons

/-- A broken line is part of the text. -/
theorem Continues.backslash (h : Continues .brokenLine w text) :
    MultilineBasicText ('\\' :: w) text := by
  cases h with
  | brokenLine hblanks hnewline hw =>
    cases hw with
    | dropping hspace hbegins hw => exact .brokenLine hblanks hnewline hspace hbegins hw

end LineState

open LineState

theorem continues_of_multilineBasicRest {state : LineState} {s rest : List Char} :
    ∀ text, multilineBasicRest state s = some (text, rest) →
      ∃ w, s = w ++ '"' :: '"' :: '"' :: rest ∧ state.Continues w text := by
  fun_induction multilineBasicRest state s with
  | case1 => exact fun _ h => nomatch h
  -- Behind a backslash, up to the end of its line.
  | case2 s ih =>
    intro text h
    obtain ⟨w, rfl, hw⟩ := ih text h
    exact ⟨' ' :: w, rfl, hw.blank_brokenLine (Or.inl rfl)⟩
  | case3 s ih =>
    intro text h
    obtain ⟨w, rfl, hw⟩ := ih text h
    exact ⟨'\t' :: w, rfl, hw.blank_brokenLine (Or.inr rfl)⟩
  | case4 s ih =>
    intro text h
    obtain ⟨w, rfl, hw⟩ := ih text h
    exact ⟨'\n' :: w, rfl, .brokenLine .nil .lineFeed hw⟩
  | case5 s ih =>
    intro text h
    obtain ⟨w, rfl, hw⟩ := ih text h
    exact ⟨'\r' :: '\n' :: w, rfl, .brokenLine .nil .carriageReturn hw⟩
  | case6 => exact fun _ h => nomatch h
  -- In the space that it drops.
  | case7 s ih =>
    intro text h
    obtain ⟨w, rfl, hw⟩ := ih text h
    exact ⟨' ' :: w, rfl, hw.blank_dropping (Or.inl rfl)⟩
  | case8 s ih =>
    intro text h
    obtain ⟨w, rfl, hw⟩ := ih text h
    exact ⟨'\t' :: w, rfl, hw.blank_dropping (Or.inr rfl)⟩
  | case9 s ih =>
    intro text h
    obtain ⟨w, rfl, hw⟩ := ih text h
    exact ⟨'\n' :: w, rfl, hw.newline_dropping .lineFeed⟩
  | case10 s ih =>
    intro text h
    obtain ⟨w, rfl, hw⟩ := ih text h
    exact ⟨'\r' :: '\n' :: w, rfl, hw.newline_dropping .carriageReturn⟩
  -- At the closing delimiter, with up to two more quotation marks in front.
  | case11 state s hstate =>
    rintro _ ⟨⟩
    exact ⟨['"', '"'], rfl, continues_of_cons hstate (by simp)
      (.quote (by decide) (.quote (by decide) .nil))⟩
  | case12 state s hstate =>
    rintro _ ⟨⟩
    exact ⟨['"'], rfl, continues_of_cons hstate (by simp) (.quote (by decide) .nil)⟩
  | case13 state s hstate =>
    rintro _ ⟨⟩
    exact ⟨[], rfl, continues_of_text hstate .nil fun _ ⟨_, h, _⟩ => nomatch h⟩
  -- In the text.
  | case14 state s hstate _ _ hthree ih =>
    intro text h
    obtain ⟨w, text', rfl, hw, rfl⟩ := exists_of_consChar ih h
    refine ⟨'"' :: w, rfl, continues_of_cons hstate (by simp)
      (.quote ?_ hw.multilineBasicText)⟩
    rintro ⟨w', rfl⟩
    exact hthree _ rfl
  | case15 state s hstate hdropping ih =>
    intro text h
    obtain ⟨w, text', rfl, hw, rfl⟩ := exists_of_consChar ih h
    exact ⟨'\r' :: '\n' :: w, rfl, continues_of_text hstate
      (.newline .carriageReturn hw.multilineBasicText) fun h => (hdropping h).elim⟩
  | case16 state s hstate hdropping ih =>
    intro text h
    obtain ⟨w, text', rfl, hw, rfl⟩ := exists_of_consChar ih h
    exact ⟨'\n' :: w, rfl, continues_of_text hstate
      (.newline .lineFeed hw.multilineBasicText) fun h => (hdropping h).elim⟩
  | case17 state s hstate ih =>
    intro text h
    obtain ⟨w, rfl, hw⟩ := ih text h
    exact ⟨'\\' :: ' ' :: w, rfl, continues_of_cons hstate (by simp)
      (hw.blank_brokenLine (Or.inl rfl)).backslash⟩
  | case18 state s hstate ih =>
    intro text h
    obtain ⟨w, rfl, hw⟩ := ih text h
    exact ⟨'\\' :: '\t' :: w, rfl, continues_of_cons hstate (by simp)
      (hw.blank_brokenLine (Or.inr rfl)).backslash⟩
  | case19 state s hstate ih =>
    intro text h
    obtain ⟨w, rfl, hw⟩ := ih text h
    exact ⟨'\\' :: '\n' :: w, rfl, continues_of_cons hstate (by simp)
      (Continues.brokenLine .nil .lineFeed hw).backslash⟩
  | case20 state s hstate ih =>
    intro text h
    obtain ⟨w, rfl, hw⟩ := ih text h
    exact ⟨'\\' :: '\r' :: '\n' :: w, rfl, continues_of_cons hstate (by simp)
      (Continues.brokenLine .nil .carriageReturn hw).backslash⟩
  | case21 state a b c d s hstate ih =>
    intro text h
    obtain ⟨w, text', e, rfl, hw, rfl, hdigits, hvalue⟩ := exists_of_codePoint? ih h
    exact ⟨'\\' :: 'u' :: a :: b :: c :: d :: w, rfl, continues_of_cons hstate (by simp)
      (.escaped (.short hdigits hvalue) hw.multilineBasicText)⟩
  | case22 state a b c d e f g h s hstate ih =>
    intro text hs
    obtain ⟨w, text', e', rfl, hw, rfl, hdigits, hvalue⟩ := exists_of_codePoint? ih hs
    exact ⟨'\\' :: 'U' :: a :: b :: c :: d :: e :: f :: g :: h :: w, rfl,
      continues_of_cons hstate (by simp) (.escaped (.long hdigits hvalue) hw.multilineBasicText)⟩
  | case23 state e s hstate _ _ _ _ _ _ ih =>
    intro text h
    obtain ⟨w, text', c, rfl, hw, rfl, hescape⟩ := exists_of_simpleEscape? ih h
    exact ⟨'\\' :: e :: w, rfl, continues_of_cons hstate (by simp)
      (.escaped hescape hw.multilineBasicText)⟩
  | case24 state c s _ _ _ _ hstate hspace htab hnewline _ _ _ _ hquote _ _ _ _ _ _ _ _ _ hc ih =>
    intro text h
    obtain ⟨w, text', rfl, hw, rfl⟩ := exists_of_consChar ih h
    obtain ⟨htext, hbackslash⟩ := Bool.and_eq_true_iff.mp hc
    have htext := isTextChar_iff.mp htext
    refine ⟨c :: w, rfl, continues_of_text hstate
      (.plain htext hquote (of_decide_eq_true hbackslash) hw.multilineBasicText)
      fun hdropping => not_beginsWithSpace_cons ?_⟩
    simp only [List.mem_cons, List.not_mem_nil, or_false, not_or]
    exact ⟨hspace hdropping, htab hdropping, hnewline hdropping, htext.ne_newline.2⟩
  | case25 => exact fun _ h => nomatch h

section Append

variable {state : LineState} (hstate : state ≠ .brokenLine)
include hstate

theorem multilineBasicRest_escape_append {escape : List Char} {c : Char} (h : Escape escape c)
    (s : List Char) :
    multilineBasicRest state ('\\' :: (escape ++ s))
      = consChar c (multilineBasicRest .text s) := by
  have hread : ∀ {digits w : List Char}, codePoint? digits = some c →
      multilineBasicRest state w
        = (codePoint? digits >>= fun c => consChar c (multilineBasicRest .text s)) →
      multilineBasicRest state w = consChar c (multilineBasicRest .text s) := by
    intro digits w hc hw
    rw [hw, hc]
    rfl
  cases h with
  | short hdigits hvalue | long hdigits hvalue =>
    refine hread (codePoint?_eq_some_iff.mpr ⟨hdigits, hvalue⟩) ?_
    cases state <;> first | rfl | exact absurd rfl hstate
  | _ => cases state <;> first | rfl | exact absurd rfl hstate

theorem multilineBasicRest_quote {s : List Char} (h : ¬['"', '"'] <+: s) :
    multilineBasicRest state ('"' :: s) = consChar '"' (multilineBasicRest .text s) := by
  have hthree : ∀ s', s = '"' :: '"' :: s' → False := by
    rintro s' rfl
    exact h (List.prefix_append ['"', '"'] s')
  rw [multilineBasicRest]
  · exact fun s' => hthree _
  · exact fun s' => hthree _
  · exact hthree
  · exact hstate

/-- **The closing delimiter is found** behind up to two more quotation marks. -/
theorem multilineBasicRest_closing {rest : List Char} (hrest : ∀ c ∈ rest.head?, c ≠ '"') :
    multilineBasicRest state ('"' :: '"' :: '"' :: rest) = some ([], rest)
      ∧ multilineBasicRest state ('"' :: '"' :: '"' :: '"' :: rest) = some (['"'], rest)
      ∧ multilineBasicRest state ('"' :: '"' :: '"' :: '"' :: '"' :: rest)
        = some (['"', '"'], rest) := by
  have hquote : ∀ s, rest = '"' :: s → False := by
    rintro s rfl
    exact hrest '"' rfl rfl
  refine ⟨?_, ?_, ?_⟩
  · rw [multilineBasicRest]
    · exact fun s => hquote _
    · exact hquote
    · exact hstate
  · rw [multilineBasicRest]
    · exact hquote
    · exact hstate
  · rw [multilineBasicRest]
    exact hstate

theorem multilineBasicRest_plain {c : Char} (hc : TextChar c) (hquote : c ≠ '"')
    (hbackslash : c ≠ '\\') {s : List Char}
    (hspace : state = .dropping → ¬BeginsWithSpace (c :: s)) :
    multilineBasicRest state (c :: s) = consChar c (multilineBasicRest .text s) := by
  have hplain : (isTextChar c && decide (c ≠ '\\')) = true :=
    Bool.and_eq_true_iff.mpr ⟨isTextChar_iff.mpr hc, decide_eq_true hbackslash⟩
  have hdropped : state = .dropping → c ∉ [' ', '\t', '\n', '\r'] := fun hdropping hmem =>
    hspace hdropping ⟨c, rfl, hmem⟩
  rw [multilineBasicRest, if_pos hplain]
  all_goals first
    | exact fun h => absurd h hstate
    | exact fun _ h => absurd h hstate
    | exact fun h => absurd h hquote
    | exact fun _ h => absurd h hquote
    | exact fun _ h => absurd h hbackslash
    | exact fun _ _ h => absurd h hbackslash
    | exact fun _ _ _ _ _ h => absurd h hbackslash
    | exact fun _ _ _ _ _ _ _ _ _ h => absurd h hbackslash
    | exact hc.ne_newline.1
    | exact fun _ h => absurd h hc.ne_newline.2
    | exact fun _ _ h => absurd h hc.ne_newline.2
    | exact fun h h' => hdropped h (by rw [h']; decide)

end Append

theorem multilineBasicRest_brokenLine {blanks newline : List Char} (hblanks : Blanks blanks)
    (hnewline : Newline newline) (s : List Char) :
    multilineBasicRest .brokenLine (blanks ++ (newline ++ s))
      = multilineBasicRest .dropping s := by
  induction blanks with
  | nil => cases hnewline <;> rfl
  | cons c blanks ih =>
    obtain ⟨hc, hrest⟩ := List.forall_mem_cons.mp hblanks
    rcases hc with rfl | rfl <;> exact ih hrest

theorem multilineBasicRest_backslash {state : LineState} (hstate : state ≠ .brokenLine)
    {blanks newline : List Char} (hblanks : Blanks blanks) (hnewline : Newline newline)
    (s : List Char) :
    multilineBasicRest state ('\\' :: (blanks ++ (newline ++ s)))
      = multilineBasicRest .dropping s := by
  cases blanks with
  | nil => cases state <;> first | (cases hnewline <;> rfl) | exact absurd rfl hstate
  | cons c blanks =>
    obtain ⟨hc, hblanks⟩ := List.forall_mem_cons.mp hblanks
    refine Eq.trans ?_ (multilineBasicRest_brokenLine hblanks hnewline s)
    cases state <;> first | (rcases hc with rfl | rfl <;> rfl) | exact absurd rfl hstate

theorem multilineBasicRest_dropping {space : List Char} (h : LineSpace space) (s : List Char) :
    multilineBasicRest .dropping (space ++ s) = multilineBasicRest .dropping s := by
  induction h with
  | nil => rfl
  | blank hc _ ih => rcases hc with rfl | rfl <;> exact ih
  | newline hnewline _ ih =>
    rw [List.append_assoc]
    cases hnewline <;> exact ih

/-- **The text of a string that spans lines is read** up to its closing delimiter, if the string
ends there. -/
theorem multilineBasicRest_append {w text : List Char} (h : MultilineBasicText w text)
    {rest : List Char} (hrest : ∀ c ∈ rest.head?, c ≠ '"') :
    ∀ state : LineState, state ≠ .brokenLine → (state = .dropping → ¬BeginsWithSpace w) →
      multilineBasicRest state (w ++ '"' :: '"' :: '"' :: rest) = some (text, rest) := by
  have hshift : ∀ {c : Char} {w s : List Char}, ¬BeginsWithSpace (c :: w) →
      ¬BeginsWithSpace (c :: s) := fun h h' => h h'
  induction h with
  | nil =>
    intro state hstate _
    exact (multilineBasicRest_closing hstate hrest).1
  | plain hc hquote hbackslash _ ih =>
    intro state hstate hspace
    rw [List.cons_append, multilineBasicRest_plain hstate hc hquote hbackslash
      (fun h => hshift (hspace h)), ih .text nofun nofun]
    rfl
  | escaped hescape _ ih =>
    intro state hstate _
    rw [List.cons_append, List.append_assoc, multilineBasicRest_escape_append hstate hescape,
      ih .text nofun nofun]
    rfl
  | @quote w text hthree _ ih =>
    intro state hstate _
    have hread := ih .text nofun nofun
    have hclosing := @multilineBasicRest_closing .text nofun rest hrest
    -- What is left of the string may be part of the run of quotation marks at its end.
    rcases w with _ | ⟨c, _ | ⟨d, w⟩⟩
    · rw [List.nil_append, hclosing.1] at hread
      cases hread
      exact (multilineBasicRest_closing hstate hrest).2.1
    · by_cases hc : c = '"'
      · rw [hc, List.singleton_append, hclosing.2.1] at hread
        cases hread
        rw [hc]
        exact (multilineBasicRest_closing hstate hrest).2.2
      · rw [List.cons_append, multilineBasicRest_quote hstate, hread]
        · rfl
        · rintro ⟨s, hs⟩
          exact hc (List.cons.inj hs).1.symm
    · rw [List.cons_append, multilineBasicRest_quote hstate, hread]
      · rfl
      · rintro ⟨s, hs⟩
        simp only [List.cons_append, List.nil_append, List.cons.injEq] at hs
        obtain ⟨rfl, rfl, -⟩ := hs
        exact hthree (List.prefix_append ['"', '"'] w)
  | newline hnewline _ ih =>
    intro state hstate hspace
    have hread := ih .text nofun nofun
    cases state with
    | text =>
      rw [List.append_assoc]
      cases hnewline <;> exact consChar_eq_some_iff.mpr ⟨_, hread, rfl⟩
    | brokenLine => exact absurd rfl hstate
    | dropping =>
      refine absurd ?_ (hspace rfl)
      cases hnewline
      · exact ⟨'\n', rfl, by decide⟩
      · exact ⟨'\r', rfl, by decide⟩
  | brokenLine hblanks hnewline hspace hbegins _ ih =>
    intro state hstate _
    rw [List.cons_append, List.append_assoc, List.append_assoc, List.append_assoc,
      multilineBasicRest_backslash hstate hblanks hnewline, multilineBasicRest_dropping hspace]
    exact ih .dropping nofun fun _ => hbegins

theorem multilineLiteralText_of_multilineLiteralRest {s rest : List Char} :
    ∀ text, multilineLiteralRest s = some (text, rest) →
      ∃ w, s = w ++ '\'' :: '\'' :: '\'' :: rest ∧ MultilineLiteralText w text := by
  fun_induction multilineLiteralRest s with
  | case1 => exact fun _ h => nomatch h
  | case2 s =>
    rintro _ ⟨⟩
    exact ⟨['\'', '\''], rfl, .quote (by decide) (.quote (by decide) .nil)⟩
  | case3 s _ =>
    rintro _ ⟨⟩
    exact ⟨['\''], rfl, .quote (by decide) .nil⟩
  | case4 s _ _ =>
    rintro _ ⟨⟩
    exact ⟨[], rfl, .nil⟩
  | case5 s ih =>
    intro text h
    obtain ⟨w, text', rfl, hw, rfl⟩ := exists_of_consChar ih h
    exact ⟨'\r' :: '\n' :: w, rfl, .newline .carriageReturn hw⟩
  | case6 s ih =>
    intro text h
    obtain ⟨w, text', rfl, hw, rfl⟩ := exists_of_consChar ih h
    exact ⟨'\n' :: w, rfl, .newline .lineFeed hw⟩
  | case7 c s _ _ hthree _ _ hc ih =>
    intro text h
    obtain ⟨w, text', rfl, hw, rfl⟩ := exists_of_consChar ih h
    by_cases hquote : c = '\''
    · subst hquote
      refine ⟨'\'' :: w, rfl, .quote ?_ hw⟩
      rintro ⟨w', rfl⟩
      exact hthree _ rfl rfl
    · exact ⟨c :: w, rfl, .plain (isTextChar_iff.mp hc) hquote hw⟩
  | case8 => exact fun _ h => nomatch h

/-- **The closing delimiter is found** behind up to two more apostrophes. -/
theorem multilineLiteralRest_closing {rest : List Char} (hrest : ∀ c ∈ rest.head?, c ≠ '\'') :
    multilineLiteralRest ('\'' :: '\'' :: '\'' :: rest) = some ([], rest)
      ∧ multilineLiteralRest ('\'' :: '\'' :: '\'' :: '\'' :: rest) = some (['\''], rest)
      ∧ multilineLiteralRest ('\'' :: '\'' :: '\'' :: '\'' :: '\'' :: rest)
        = some (['\'', '\''], rest) := by
  have hquote : ∀ s, rest = '\'' :: s → False := by
    rintro s rfl
    exact hrest '\'' rfl rfl
  refine ⟨?_, ?_, rfl⟩
  · rw [multilineLiteralRest]
    · exact fun s => hquote _
    · exact hquote
  · rw [multilineLiteralRest]
    exact hquote

theorem multilineLiteralRest_cons {c : Char} (hc : TextChar c) {s : List Char}
    (hthree : c = '\'' → ¬['\'', '\''] <+: s) :
    multilineLiteralRest (c :: s) = consChar c (multilineLiteralRest s) := by
  have hquotes : ∀ s', c = '\'' → s = '\'' :: '\'' :: s' → False := by
    rintro s' hquote rfl
    exact hthree hquote (List.prefix_append ['\'', '\''] s')
  rw [multilineLiteralRest, if_pos (isTextChar_iff.mpr hc)]
  · exact fun s' => hquotes _
  · exact fun s' => hquotes _
  · exact hquotes
  · exact fun _ h => absurd h hc.ne_newline.2
  · exact hc.ne_newline.1

theorem multilineLiteralRest_append {w text : List Char} (h : MultilineLiteralText w text)
    {rest : List Char} (hrest : ∀ c ∈ rest.head?, c ≠ '\'') :
    multilineLiteralRest (w ++ '\'' :: '\'' :: '\'' :: rest) = some (text, rest) := by
  have hclosing := multilineLiteralRest_closing hrest
  induction h with
  | nil => exact hclosing.1
  | plain hc hquote _ ih =>
    rw [List.cons_append, multilineLiteralRest_cons hc fun h => absurd h hquote, ih]
    rfl
  | @quote w text hthree _ ih =>
    have hc : TextChar '\'' := isTextChar_iff.mp (by decide)
    -- What is left of the string may be part of the run of apostrophes at its end.
    rcases w with _ | ⟨c, _ | ⟨d, w⟩⟩
    · rw [List.nil_append, hclosing.1] at ih
      cases ih
      exact hclosing.2.1
    · by_cases hquote : c = '\''
      · rw [hquote, List.singleton_append, hclosing.2.1] at ih
        cases ih
        rw [hquote]
        exact hclosing.2.2
      · rw [List.cons_append, multilineLiteralRest_cons hc, ih]
        · rfl
        · rintro - ⟨s, hs⟩
          exact hquote (List.cons.inj hs).1.symm
    · rw [List.cons_append, multilineLiteralRest_cons hc, ih]
      · rfl
      · rintro - ⟨s, hs⟩
        simp only [List.cons_append, List.nil_append, List.cons.injEq] at hs
        obtain ⟨rfl, rfl, -⟩ := hs
        exact hthree (List.prefix_append ['\'', '\''] w)
  | newline hnewline _ ih =>
    rw [List.append_assoc]
    cases hnewline <;> exact consChar_eq_some_iff.mpr ⟨_, ih, rfl⟩

/-! ## Strings of any kind -/

theorem dropFirstNewline_append {newline : List Char} (h : Newline newline) (s : List Char) :
    dropFirstNewline (newline ++ s) = s := by
  cases h <;> rfl

theorem dropFirstNewline_of_ne {s : List Char}
    (h : ∀ newline s', Newline newline → s ≠ newline ++ s') : dropFirstNewline s = s := by
  unfold dropFirstNewline
  split
  · exact absurd rfl (h ['\n'] _ .lineFeed)
  · exact absurd rfl (h ['\r', '\n'] _ .carriageReturn)
  · rfl

/-- What is read behind an opening delimiter is read with the end of a line in front, if it is
there. -/
theorem exists_openingLine {s w behind : List Char} (h : dropFirstNewline s = w ++ behind) :
    ∃ opening, s = opening ++ (w ++ behind) ∧ OpeningLine opening w := by
  by_cases hbegins : ∃ newline s', Newline newline ∧ s = newline ++ s'
  · obtain ⟨newline, s', hnewline, rfl⟩ := hbegins
    rw [dropFirstNewline_append hnewline] at h
    exact ⟨newline, by rw [h], .newline hnewline⟩
  · have hne : ∀ newline s', Newline newline → s ≠ newline ++ s' := fun newline s' hnewline hs =>
      hbegins ⟨newline, s', hnewline, hs⟩
    rw [dropFirstNewline_of_ne hne] at h
    refine ⟨[], h, .none ?_⟩
    rintro newline w' hnewline rfl
    exact hne newline (w' ++ behind) hnewline (h.trans (List.append_assoc _ _ _))

theorem OpeningLine.dropFirstNewline_append {opening w : List Char} (h : OpeningLine opening w)
    {c : Char} (hc : TextChar c) (s : List Char) :
    dropFirstNewline (opening ++ (w ++ c :: s)) = w ++ c :: s := by
  cases h with
  | newline hnewline => exact Toml.dropFirstNewline_append hnewline _
  | none hne =>
    refine dropFirstNewline_of_ne fun newline s' hnewline hs => ?_
    -- The end of a line would have to be in front of `c`, which is none of its characters.
    rcases List.append_eq_append_iff.mp ((List.nil_append _).symm.trans hs) with
      ⟨w', hw', hs'⟩ | ⟨w', hw', -⟩
    · cases w' with
      | nil => exact hne newline [] hnewline (by rw [hw', List.append_nil, List.append_nil])
      | cons d w' =>
        obtain ⟨rfl, -⟩ := List.cons.inj hs'
        exact hnewline.not_textChar c (by rw [hw']; simp) hc
    · exact hne newline w' hnewline hw'

theorem reads_anyString : anyString.Reads StringText := by
  intro s text rest h
  unfold anyString at h
  split at h
  case h_1 s =>
    obtain ⟨⟨text', rest'⟩, hread, heq⟩ := Option.map_eq_some_iff.mp h
    cases heq
    obtain ⟨w, hs, hw⟩ := continues_of_multilineBasicRest _ hread
    obtain ⟨opening, rfl, hopening⟩ := exists_openingLine hs
    exact ⟨_, by simp, .multilineBasic hopening hw.multilineBasicText⟩
  case h_2 s =>
    obtain ⟨⟨text', rest'⟩, hread, heq⟩ := Option.map_eq_some_iff.mp h
    cases heq
    obtain ⟨w, hs, hw⟩ := multilineLiteralText_of_multilineLiteralRest _ hread
    obtain ⟨opening, rfl, hopening⟩ := exists_openingLine hs
    exact ⟨_, by simp, .multilineLiteral hopening hw⟩
  case h_3 =>
    obtain ⟨w, hw, htext⟩ := reads_lineString _ _ _ h
    exact ⟨w, hw, .line htext⟩

/-- What may follow a string: not another one. -/
def EndsString (s : List Char) : Prop := ∀ c ∈ s.head?, c ≠ '"' ∧ c ≠ '\''

theorem BasicText.ne_quote {c : Char} {w text : List Char} (h : BasicText (c :: w) text) :
    c ≠ '"' := by
  rintro rfl
  cases h
  contradiction

theorem anyString_of_ne {s : List Char} (hbasic : ∀ s', s ≠ '"' :: '"' :: '"' :: s')
    (hliteral : ∀ s', s ≠ '\'' :: '\'' :: '\'' :: s') : anyString s = lineString s := by
  unfold anyString
  split
  · exact absurd rfl (hbasic _)
  · exact absurd rfl (hliteral _)
  · rfl

/-- A string of one line does not begin like one that spans lines. -/
theorem anyString_eq_lineString {w : List Char} {text : String} (h : LineString w text)
    {rest : List Char} (hrest : EndsString rest) :
    anyString (w ++ rest) = lineString (w ++ rest) := by
  cases h with
  | @basic w text hw =>
    refine anyString_of_ne (fun s' hs => ?_) (fun s' hs => by cases hs)
    cases w with
    | nil =>
      simp only [List.nil_append, List.cons_append, List.cons.injEq, true_and] at hs
      exact absurd rfl (hrest '"' (by rw [hs]; rfl)).1
    | cons c w =>
      simp only [List.cons_append, List.cons.injEq, true_and] at hs
      exact absurd hs.1 hw.ne_quote
  | @literal text htext =>
    refine anyString_of_ne (fun s' hs => by cases hs) (fun s' hs => ?_)
    cases text with
    | nil =>
      simp only [List.nil_append, List.cons_append, List.cons.injEq, true_and] at hs
      exact absurd rfl (hrest '\'' (by rw [hs]; rfl)).2
    | cons c text =>
      simp only [List.cons_append, List.cons.injEq, true_and] at hs
      exact absurd hs.1 (htext c List.mem_cons_self).2

theorem anyString_append {w : List Char} {text : String} (h : StringText w text)
    {rest : List Char} (hrest : EndsString rest) : anyString (w ++ rest) = some (text, rest) := by
  cases h with
  | multilineBasic hopening hw =>
    have hread := multilineBasicRest_append hw (fun c hc => (hrest c hc).1) .text nofun nofun
    have hquote : TextChar '"' := isTextChar_iff.mp (by decide)
    have hdrop := hopening.dropFirstNewline_append hquote ('"' :: '"' :: rest)
    simp only [List.cons_append, List.append_assoc, List.nil_append]
    show (multilineBasicRest .text (dropFirstNewline _)).map _ = _
    rw [hdrop, hread]
    rfl
  | multilineLiteral hopening hw =>
    have hread := multilineLiteralRest_append hw fun c hc => (hrest c hc).2
    have hquote : TextChar '\'' := isTextChar_iff.mp (by decide)
    have hdrop := hopening.dropFirstNewline_append hquote ('\'' :: '\'' :: rest)
    simp only [List.cons_append, List.append_assoc, List.nil_append]
    show (multilineLiteralRest (dropFirstNewline _)).map _ = _
    rw [hdrop, hread]
    rfl
  | line hline =>
    rw [anyString_eq_lineString hline hrest]
    exact lineString_append hline rest

end PeerTelemetry.Toml
