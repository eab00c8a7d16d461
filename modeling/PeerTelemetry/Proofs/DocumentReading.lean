import PeerTelemetry.Proofs.ValueReading

/-!
# Documents that are read

**The reader of documents follows the grammar** (`Toml.read_follows`): a text is read if and only if
it is a document, and as what it says.

Assignments are scanned in blocks, up to the next heading, and each line up to its end, so what is
left behind a statement is either behind a line end or nothing at all (`LineEnd`). What a block
takes are lines of the document whatever the lines behind it are (`lines_of_block`); in the other
direction, a row of lines is read line by line (`Lines.linesRead`).
-/

namespace PeerTelemetry.Toml

open Scanner

/-! ## The rest of a line -/

/-- **What stands behind the statement of a line**: blanks, a comment, and the end of the line or of
the text. -/
inductive LineEnd : List Char → List Char → Prop
  | newline {b comment newline rest : List Char} : Blanks b → Comment comment → Newline newline →
    LineEnd (b ++ (comment ++ (newline ++ rest))) rest
  | text {b comment : List Char} : Blanks b → Comment comment → LineEnd (b ++ comment) []

theorem lineEnd_of_endOfStatement {s rest : List Char} (h : endOfStatement s = some ((), rest)) :
    LineEnd s rest := by
  obtain ⟨_, s₁, hblanks, h⟩ := exists_of_bind_eq_some h
  obtain ⟨_, s₂, hcomment, hend⟩ := exists_of_bind_eq_some h
  obtain ⟨b, rfl, hb⟩ := reads_blanks _ _ _ hblanks
  obtain ⟨comment, rfl, hc⟩ := reads_attempt_comment _ _ _ hcomment
  cases hnewline : newline s₂ with
  | some found =>
    obtain ⟨_, s₃⟩ := found
    have h : some ((), s₃) = some ((), rest) := (orElse_of_eq_some hnewline).symm.trans hend
    cases h
    obtain ⟨newline, rfl, hn⟩ := reads_newline _ _ _ hnewline
    exact .newline hb hc hn
  | none =>
    have h : endOfText s₂ = some ((), rest) := (orElse_of_eq_none hnewline).symm.trans hend
    cases s₂ with
    | nil =>
      cases h
      rw [List.append_nil]
      exact .text hb hc
    | cons => cases h

theorem Newline.head {w : List Char} (h : Newline w) :
    ∃ c w', w = c :: w' ∧ (c = '\n' ∨ c = '\r') := by
  cases h with
  | lineFeed => exact ⟨_, _, rfl, Or.inl rfl⟩
  | carriageReturn => exact ⟨_, _, rfl, Or.inr rfl⟩

theorem Comment.head?_append {comment newline rest : List Char} (hc : Comment comment)
    (hn : Newline newline) :
    ∀ c ∈ (comment ++ (newline ++ rest)).head?, c ∈ ['\n', '\r', '#'] := by
  intro c hmem
  cases hc with
  | none =>
    obtain ⟨d, w, rfl, hd⟩ := hn.head
    obtain rfl := Option.some.inj hmem
    rcases hd with rfl | rfl <;> simp
  | marked =>
    obtain rfl := Option.some.inj hmem
    simp

/-- Behind the blanks at the end of a line. -/
theorem LineEnd.exists_blanks {s rest : List Char} (h : LineEnd s rest) :
    ∃ b comment t, s = b ++ (comment ++ t) ∧ Blanks b ∧ Comment comment
      ∧ (∀ c ∈ (comment ++ t).head?, c ∈ ['\n', '\r', '#'])
      ∧ (t = [] ∧ rest = [] ∨ ∃ newline, Newline newline ∧ t = newline ++ rest) := by
  cases h with
  | @newline b comment newline rest hb hc hn =>
    exact ⟨b, comment, newline ++ rest, rfl, hb, hc, hc.head?_append hn, Or.inr ⟨_, hn, rfl⟩⟩
  | @text b comment hb hc =>
    refine ⟨b, comment, [], by rw [List.append_nil], hb, hc, fun c hmem => ?_, Or.inl ⟨rfl, rfl⟩⟩
    cases hc with
    | none => cases hmem
    | marked =>
      obtain rfl := Option.some.inj hmem
      simp

theorem LineEnd.endOfStatement {s rest : List Char} (h : LineEnd s rest) :
    endOfStatement s = some ((), rest) := by
  obtain ⟨b, comment, t, rfl, hb, hc, hhead, htail⟩ := h.exists_blanks
  have hnot : ∀ c ∈ ['\n', '\r', '#'], c ≠ ' ' ∧ c ≠ '\t' := by simp
  have htext : ∀ c ∈ t.head?, ¬TextChar c := by
    rcases htail with ⟨rfl, -⟩ | ⟨newline, hn, rfl⟩
    · exact fun c hmem => nomatch hmem
    · obtain ⟨d, w, rfl, hd⟩ := hn.head
      intro c hmem
      obtain rfl := Option.some.inj hmem
      exact hn.not_textChar _ List.mem_cons_self
  obtain ⟨found, hcomment⟩ := attempt_comment_append hc htext
  unfold Toml.endOfStatement
  rw [bind_of_eq_some (blanks_append hb fun c hmem => hnot c (hhead c hmem)),
    bind_of_eq_some hcomment]
  rcases htail with ⟨rfl, rfl⟩ | ⟨newline, hn, rfl⟩
  · exact orElse_of_eq_none (newline_eq_none fun c hmem => nomatch hmem)
  · exact orElse_of_eq_some (newline_append hn rest)

theorem LineEnd.endsValue {s rest : List Char} (h : LineEnd s rest) : EndsValue s := by
  obtain ⟨b, comment, t, rfl, hb, -, hhead, -⟩ := h.exists_blanks
  have hall : ∀ c ∈ ['\n', '\r', '#'], c ∈ ['\n', '\r', '#', ',', ']', '}'] := by simp
  exact ⟨b, comment ++ t, rfl, hb, fun c hmem => hall c (hhead c hmem)⟩

theorem Blanks.head?_append {b s : List Char} (hb : Blanks b) {c : Char}
    (hc : c ∈ (b ++ s).head?) : c = ' ' ∨ c = '\t' ∨ c ∈ s.head? := by
  cases b with
  | nil => exact Or.inr (Or.inr hc)
  | cons d b =>
    obtain rfl := Option.some.inj hc
    exact (hb d List.mem_cons_self).imp_right Or.inl

/-! ## Statements -/

/-- What a statement begins with: a bracket if it is a heading, and nothing that may stand on an
empty line. -/
theorem StatementText.head {w : List Char} {statement : Statement}
    (h : StatementText limits w statement) :
    ∃ b c w', w = b ++ c :: w' ∧ Blanks b ∧ StatementText limits (c :: w') statement
      ∧ c ∉ [' ', '\t', '\n', '\r', '#', '\uFEFF']
      ∧ (c = '[' ↔ ∃ found, statement = .heading found) := by
  cases h with
  | assignment hkey hpath hb hw =>
    obtain ⟨b, c, w', rfl, hbefore, hc, hkey⟩ := hkey.exists_blanks
    have hnot := hc.not_mem
    refine ⟨b, c, _, List.append_assoc _ _ _, hbefore, .assignment hkey hpath hb hw, ?_,
      iff_of_false ?_ nofun⟩
    · exact fun hmem => hnot (by simp only [List.mem_cons] at hmem ⊢; tauto)
    · rintro rfl
      exact absurd hnot (by simp)
  | table hkey hpath =>
    exact ⟨[], '[', _, rfl, Blanks.nil, .table hkey hpath, by simp, iff_of_true rfl ⟨_, rfl⟩⟩
  | element hkey hpath =>
    exact ⟨[], '[', _, rfl, Blanks.nil, .element hkey hpath, by simp, iff_of_true rfl ⟨_, rfl⟩⟩

theorem StatementText.ne_nil {w : List Char} {statement : Statement}
    (h : StatementText limits w statement) : w ≠ [] := by
  obtain ⟨b, c, w', rfl, -⟩ := h.head
  exact List.append_ne_nil_of_right_ne_nil b (List.cons_ne_nil c w')

/-- The end of a text states nothing. -/
theorem Lines.eq_nil {statements : List Statement} (h : Lines limits [] statements) :
    statements = [] := by
  generalize hw : ([] : List Char) = w at h
  cases h with
  | last hline =>
    cases hline with
    | empty => rfl
    | statement _ hw' =>
      have hnil := (List.append_eq_nil_iff.mp hw.symm).2
      exact absurd (List.append_eq_nil_iff.mp hnil).1 hw'.ne_nil
  | next _ hn =>
    have hnil := (List.append_eq_nil_iff.mp hw.symm).2
    have hnil := (List.append_eq_nil_iff.mp hnil).1
    obtain ⟨c, w, rfl, -⟩ := hn.head
    cases hnil

theorem lines_nil : Lines limits [] [] := .last (.empty Blanks.nil .none)

theorem Lines.blanks_append {b w : List Char} {statements : List Statement} (hb : Blanks b)
    (h : Lines limits w statements) : Lines limits (b ++ w) statements := by
  have hline : ∀ {w statements}, Line limits w statements → Line limits (b ++ w) statements := by
    intro w statements h
    cases h with
    | empty hblanks hcomment =>
      rw [← List.append_assoc]
      exact .empty (hb.append hblanks) hcomment
    | statement hbefore hw hbehind hcomment =>
      rw [← List.append_assoc]
      exact .statement (hb.append hbefore) hw hbehind hcomment
  cases h with
  | last h => exact .last (hline h)
  | next h hn hrest =>
    rw [← List.append_assoc]
    exact .next (hline h) hn hrest

/-- **A line with what follows it**: nothing does if the text ends there. -/
theorem lines_of_lineEnd {front s rest : List Char} {here statements : List Statement}
    (hline : ∀ b comment, Blanks b → Comment comment → Line limits (front ++ (b ++ comment)) here)
    (hs : LineEnd s rest) (hrest : Lines limits rest statements) :
    Lines limits (front ++ s) (here ++ statements) := by
  cases hs with
  | newline hb hcomment hn =>
    have hlines := Lines.next (hline _ _ hb hcomment) hn hrest
    rwa [List.append_assoc, List.append_assoc] at hlines
  | text hb hcomment =>
    obtain rfl := hrest.eq_nil
    rw [List.append_nil]
    exact .last (hline _ _ hb hcomment)

theorem StatementText.lines {w s rest : List Char} {statement : Statement}
    {statements : List Statement} (hw : StatementText limits w statement) (hs : LineEnd s rest)
    (hrest : Lines limits rest statements) :
    Lines limits (w ++ s) (statement :: statements) := by
  have hline : ∀ b comment, Blanks b → Comment comment →
      Line limits (w ++ (b ++ comment)) [statement] :=
    fun b comment hb hcomment => .statement Blanks.nil hw hb hcomment
  exact lines_of_lineEnd hline hs hrest

theorem assignment_eq_some {budget : ℕ} {s rest : List Char} {a : Assignment}
    (h : assignment budget s = some (a, rest)) :
    ∃ w s', s = w ++ s' ∧ StatementText limits w (.assignment a) ∧ LineEnd s' rest := by
  obtain ⟨⟨path, name⟩, s₁, hfound, h⟩ := exists_of_bind_eq_some h
  obtain ⟨_, s₂, hequals, h⟩ := exists_of_bind_eq_some h
  obtain ⟨_, s₃, hblanks, h⟩ := exists_of_bind_eq_some h
  obtain ⟨v, s₄, hvalue, h⟩ := exists_of_bind_eq_some h
  obtain ⟨_, s₅, hend, h⟩ := exists_of_bind_eq_some h
  cases h
  obtain ⟨key, rfl, hkey, hpath⟩ := reads_key _ _ _ hfound
  obtain ⟨_, rfl, rfl⟩ := reads_char '=' _ _ _ hequals
  obtain ⟨b, rfl, hb⟩ := reads_blanks _ _ _ hblanks
  obtain ⟨w, rfl, hw⟩ := (reads_nested budget).1 maxDepth _ _ _ hvalue
  refine ⟨key ++ '=' :: (b ++ w), s₄, ?_, .assignment hkey hpath hb hw,
    lineEnd_of_endOfStatement hend⟩
  simp only [List.append_assoc, List.cons_append, List.nil_append]

theorem assignment_append {budget : ℕ} {w s rest : List Char} {a : Assignment}
    (h : StatementText limits w (.assignment a)) (hs : LineEnd s rest)
    (hbudget : w.length < budget) :
    assignment budget (w ++ s) = some (a, rest) := by
  cases h with
  | @assignment key' b w path name v hkey hpath hb hw =>
    have hbudget : w.length < budget := by
      simp only [List.length_append, List.length_cons] at hbudget
      omega
    obtain ⟨hkey', hb', hv⟩ :=
      key_value_append hkey hpath hb hw hw.isRead hbudget hs.endsValue
    simp only [List.append_assoc, List.cons_append]
    unfold assignment
    rw [bind_of_eq_some hkey']
    dsimp only
    rw [bind_of_eq_some (char_cons '=' _), bind_of_eq_some hb']
    have hv : value budget maxDepth _ = _ := hv
    rw [bind_of_eq_some hv, bind_of_eq_some hs.endOfStatement]
    rfl

section Brackets

variable {opening closing : Scanner Unit} {o c : List Char} (isElement : Bool)

/-- A key between brackets, and what stands behind them. -/
theorem bracketed_eq_some (hopening : opening.Reads fun w _ => w = o)
    (hclosing : closing.Reads fun w _ => w = c) {s rest : List Char} {found : Heading}
    (h : (do
      opening
      let (path, key) ← key
      closing
      endOfStatement
      return ⟨path, key, isElement⟩ : Scanner Heading) s = some (found, rest)) :
    ∃ w path name s', s = o ++ (w ++ (c ++ s')) ∧ KeyText w (path ++ [name])
      ∧ path.length < limits.depth ∧ LineEnd s' rest ∧ found = ⟨path, name, isElement⟩ := by
  obtain ⟨_, s₁, hopened, h⟩ := exists_of_bind_eq_some h
  obtain ⟨⟨path, name⟩, s₂, hfound, h⟩ := exists_of_bind_eq_some h
  obtain ⟨_, s₃, hclosed, h⟩ := exists_of_bind_eq_some h
  obtain ⟨_, s₄, hend, h⟩ := exists_of_bind_eq_some h
  cases h
  obtain ⟨_, rfl, rfl⟩ := hopening _ _ _ hopened
  obtain ⟨w, rfl, hkey, hpath⟩ := reads_key _ _ _ hfound
  obtain ⟨_, rfl, rfl⟩ := hclosing _ _ _ hclosed
  exact ⟨w, path, name, s₃, rfl, hkey, hpath, lineEnd_of_endOfStatement hend, rfl⟩

theorem bracketed_append (hopening : ∀ s, opening (o ++ s) = some ((), s))
    (hclosing : ∀ s, closing (c ++ s) = some ((), s)) (hc : c.head? = some ']')
    {w s rest : List Char} {path : List String} {name : String}
    (hkey : KeyText w (path ++ [name])) (hpath : path.length < limits.depth)
    (hs : LineEnd s rest) :
    (do
      opening
      let (path, key) ← key
      closing
      endOfStatement
      return ⟨path, key, isElement⟩ : Scanner Heading) (o ++ (w ++ (c ++ s)))
        = some (⟨path, name, isElement⟩, rest) := by
  have hends : EndsKey (c ++ s) := fun d hd => by
    rw [List.head?_append, hc] at hd
    exact Or.inr (Option.some.inj hd).symm
  rw [bind_of_eq_some (hopening _), bind_of_eq_some (key_append hkey hpath hends)]
  dsimp only
  rw [bind_of_eq_some (hclosing s), bind_of_eq_some hs.endOfStatement]
  rfl

end Brackets

theorem heading_eq_some {s rest : List Char} {found : Heading}
    (h : heading s = some (found, rest)) :
    ∃ w s', s = w ++ s' ∧ StatementText limits w (.heading found) ∧ LineEnd s' rest := by
  unfold heading at h
  cases helement : (do
      exactly "[["
      let (path, key) ← key
      exactly "]]"
      endOfStatement
      return ⟨path, key, true⟩ : Scanner Heading) s with
  | some result =>
    obtain ⟨found', rest'⟩ := result
    rw [orElse_of_eq_some helement] at h
    cases h
    obtain ⟨w, path, name, s', rfl, hkey, hpath, hend, rfl⟩ :=
      bracketed_eq_some _ (reads_exactly "[[") (reads_exactly "]]") helement
    exact ⟨'[' :: '[' :: (w ++ [']', ']']), s', by simp, .element hkey hpath, hend⟩
  | none =>
    rw [orElse_of_eq_none helement] at h
    obtain ⟨w, path, name, s', rfl, hkey, hpath, hend, rfl⟩ :=
      bracketed_eq_some _ (reads_char '[') (reads_char ']') h
    exact ⟨'[' :: (w ++ [']']), s', by simp, .table hkey hpath, hend⟩

/-- The key of a table is no bracket. -/
theorem KeyText.ne_bracket {w : List Char} {parts : List String} (h : KeyText w parts)
    (s s' : List Char) : w ++ s ≠ '[' :: s' := by
  intro heq
  obtain ⟨b, c, w', rfl, hb, hc, -⟩ := h.exists_blanks
  have hhead : '[' ∈ (b ++ (c :: w' ++ s)).head? := by
    rw [← List.append_assoc, heq]
    rfl
  rcases hb.head?_append hhead with h | h | h
  · cases h
  · cases h
  · obtain rfl := Option.some.inj h
    exact absurd hc.not_mem (by simp)

theorem heading_append {w s rest : List Char} {found : Heading}
    (h : StatementText limits w (.heading found)) (hs : LineEnd s rest) :
    heading (w ++ s) = some (found, rest) := by
  unfold heading
  cases h with
  | element hkey hpath =>
    refine orElse_of_eq_some ?_
    simpa using bracketed_append true (exactly_append "[[") (exactly_append "]]") rfl
      hkey hpath hs
  | @table key' path name hkey hpath =>
    have hopening : exactly "[[" ('[' :: (key' ++ ([']'] ++ s))) = none :=
      exactly_eq_none fun s' heq => hkey.ne_bracket _ _ (List.cons.inj heq).2
    have hheading := bracketed_append (o := ['[']) (c := [']']) false (char_cons '[')
      (char_cons ']') rfl hkey hpath hs
    rw [List.cons_append, List.append_assoc, orElse_of_eq_none (bind_of_eq_none hopening)]
    exact hheading

/-! ## Lines -/

theorem emptyLine_eq_some {s rest : List Char} (h : emptyLine s = some ((), rest)) :
    ∃ b comment newline, s = b ++ (comment ++ (newline ++ rest)) ∧ Blanks b ∧ Comment comment
      ∧ Newline newline := by
  obtain ⟨_, s₁, hblanks, h⟩ := exists_of_bind_eq_some h
  obtain ⟨_, s₂, hcomment, hend⟩ := exists_of_bind_eq_some h
  obtain ⟨b, rfl, hb⟩ := reads_blanks _ _ _ hblanks
  obtain ⟨comment, rfl, hc⟩ := reads_attempt_comment _ _ _ hcomment
  obtain ⟨newline, rfl, hn⟩ := reads_newline _ _ _ hend
  exact ⟨b, comment, newline, rfl, hb, hc, hn⟩

section Block

variable {budget count : ℕ} {s t : List Char}

theorem block_of_emptyLine (h : emptyLine s = some ((), t)) :
    block budget (count + 1) s = block budget count t := by
  rw [block, bind_of_eq_some (attempt_of_eq_some h)]

variable (hempty : emptyLine s = none) (hb : blanks s = some ((), t))

include hempty hb

/-- A block ends in front of a heading, and at the end of the text. -/
theorem block_of_bracket (ht : ∀ c ∈ t.head?, c = '[') :
    block budget (count + 1) s = some ([], t) := by
  rw [block, bind_of_eq_some (attempt_of_eq_none hempty)]
  dsimp only
  rw [bind_of_eq_some hb]
  cases t with
  | nil => rfl
  | cons c t =>
    obtain rfl := ht c rfl
    rfl

theorem block_of_numberSign (ht : '#' ∈ t.head?) :
    block budget (count + 1) s = (do
      comment
      endOfText
      return [] : Scanner (List Assignment)) t := by
  rw [block, bind_of_eq_some (attempt_of_eq_none hempty)]
  dsimp only
  rw [bind_of_eq_some hb]
  cases t with
  | nil => cases ht
  | cons c t =>
    obtain rfl := Option.some.inj ht
    rfl

theorem block_of_assignment {c : Char} (ht : c ∈ t.head?) (hbracket : c ≠ '[')
    (hsign : c ≠ '#') :
    block budget (count + 1) s = (do
      return (← assignment budget) :: (← block budget count) : Scanner (List Assignment)) t := by
  have hpeek : peek? t = some (some c, t) := congrArg (fun found => some (found, t)) ht
  rw [block, bind_of_eq_some (attempt_of_eq_none hempty)]
  dsimp only
  rw [bind_of_eq_some hb, bind_of_eq_some hpeek]
  refine congrFun ?_ t
  split <;> simp_all

end Block

/-- **What the assignments up to a heading are**: lines in front of those that are left. -/
theorem lines_of_block {budget : ℕ} (count : ℕ) {s rest : List Char} {as : List Assignment}
    (h : block budget count s = some (as, rest)) {statements : List Statement}
    (hrest : Lines limits rest statements) :
    Lines limits s (as.map .assignment ++ statements) := by
  induction count generalizing s as with
  | zero => cases h
  | succ count ih =>
    cases hempty : emptyLine s with
    | some found =>
      obtain ⟨_, s'⟩ := found
      rw [block_of_emptyLine hempty] at h
      obtain ⟨b, comment, newline, rfl, hb, hc, hn⟩ := emptyLine_eq_some hempty
      have hlines := Lines.next (.empty hb hc) hn (ih h)
      rwa [List.append_assoc, List.nil_append] at hlines
    | none =>
      obtain ⟨⟨⟩, t, hblanks⟩ : ∃ u t, blanks s = some (u, t) := ⟨_, _, rfl⟩
      obtain ⟨b, rfl, hb⟩ := reads_blanks _ _ _ hblanks
      refine Lines.blanks_append hb ?_
      by_cases hbracket : ∀ c ∈ t.head?, c = '['
      · rw [block_of_bracket hempty hblanks hbracket] at h
        cases h
        exact hrest
      by_cases hsign : '#' ∈ t.head?
      · rw [block_of_numberSign hempty hblanks hsign] at h
        obtain ⟨_, s₁, hcomment, h⟩ := exists_of_bind_eq_some h
        obtain ⟨_, s₂, hend, h⟩ := exists_of_bind_eq_some h
        cases h
        obtain ⟨comment, rfl, hc⟩ := reads_comment _ _ _ hcomment
        cases s₁ with
        | cons => cases hend
        | nil =>
          cases hend
          obtain rfl := hrest.eq_nil
          rw [List.append_nil]
          exact .last (.empty Blanks.nil hc)
      · have hhead : ∃ c, c ∈ t.head? ∧ c ≠ '[' ∧ c ≠ '#' := by
          push Not at hbracket
          obtain ⟨c, hc, hne⟩ := hbracket
          exact ⟨c, hc, hne, fun heq => hsign (heq ▸ hc)⟩
        obtain ⟨c, hc, hnot, hne⟩ := hhead
        rw [block_of_assignment hempty hblanks hc hnot hne] at h
        obtain ⟨a, s₁, hassignment, h⟩ := exists_of_bind_eq_some h
        obtain ⟨as', s₂, hblock, h⟩ := exists_of_bind_eq_some h
        cases h
        obtain ⟨w, s', rfl, hw, hs'⟩ := assignment_eq_some hassignment
        exact hw.lines hs' (ih hblock)

theorem grouped_append (as : List Assignment) (statements : List Statement) :
    grouped (as.map .assignment ++ statements)
      = (as ++ (grouped statements).1, (grouped statements).2) := by
  induction as with
  | nil => rfl
  | cons a as ih =>
    show (a :: (grouped (as.map .assignment ++ statements)).1,
      (grouped (as.map .assignment ++ statements)).2) = _
    rw [ih]
    rfl

/-- **What the sections are**: the lines that are left, all of them. -/
theorem lines_of_sections {budget : ℕ} (count : ℕ) {s rest : List Char} {found : List Section}
    (h : sections budget count s = some (found, rest)) :
    ∃ statements, Lines limits s statements ∧ grouped statements = ([], found) := by
  induction count generalizing s found with
  | zero => cases h
  | succ count ih =>
    rw [sections] at h
    cases s with
    | nil =>
      cases h
      exact ⟨[], lines_nil, rfl⟩
    | cons c s =>
      have hpeek : peek? (c :: s) = some (some c, c :: s) := rfl
      rw [bind_of_eq_some hpeek] at h
      obtain ⟨found', s₁, hheading, h⟩ := exists_of_bind_eq_some h
      obtain ⟨as, s₂, hblock, h⟩ := exists_of_bind_eq_some h
      obtain ⟨secs, s₃, hsections, h⟩ := exists_of_bind_eq_some h
      cases h
      obtain ⟨statements, hlines, hgrouped⟩ := ih hsections
      obtain ⟨w, s', hs, hw, hend⟩ := heading_eq_some hheading
      refine ⟨.heading found' :: (as.map .assignment ++ statements), ?_, ?_⟩
      · rw [hs]
        exact hw.lines hend (lines_of_block budget hblock hlines)
      · show ([], (⟨found', (grouped (as.map .assignment ++ statements)).1⟩ : Section)
          :: (grouped (as.map .assignment ++ statements)).2) = _
        rw [grouped_append, hgrouped, List.append_nil]

theorem document_of_statements? {text : List Char} {top : List Assignment} {secs : List Section}
    (h : statements? text = some (top, secs)) :
    ∃ statements, Document limits text statements ∧ grouped statements = (top, secs) := by
  have hlines : ∀ {s rest budget}, (do
      let top ← block budget budget
      return (top, ← sections budget budget) : Scanner _) s = some ((top, secs), rest) →
      ∃ statements, Lines limits s statements ∧ grouped statements = (top, secs) := by
    intro s rest budget h
    obtain ⟨top, s₁, hblock, h⟩ := exists_of_bind_eq_some h
    obtain ⟨secs, s₂, hsections, h⟩ := exists_of_bind_eq_some h
    cases h
    obtain ⟨statements, hrest, hgrouped⟩ := lines_of_sections budget hsections
    refine ⟨_, lines_of_block budget hblock hrest, ?_⟩
    rw [grouped_append, hgrouped, List.append_nil]
  unfold statements? at h
  split at h
  case h_2 => cases h
  case h_1 found heq =>
    cases h
    obtain ⟨_, s₁, hmark, h⟩ := exists_of_bind_eq_some heq
    obtain ⟨statements, hstatements, hgrouped⟩ := hlines h
    refine ⟨statements, ?_, hgrouped⟩
    obtain ⟨w, rfl, ⟨-, -, rfl⟩ | ⟨-, rfl⟩⟩ := (reads_char '\uFEFF').attempt _ _ _ hmark
    · exact .marked hstatements
    · exact .plain hstatements

/-! ## Every document is read -/

/-- **What a row of lines is read as**, with bounds on the numbers of lines and sections. -/
def LinesRead (s : List Char) (statements : List Statement) : Prop :=
  ∀ budget count, s.length < budget → s.length < count →
    ∃ rest, block budget count s = some ((grouped statements).1, rest)
      ∧ ∀ count, s.length < count →
        sections budget count rest = some ((grouped statements).2, [])

/-- A line in front of a statement is not empty, and neither is the end of the text. -/
theorem emptyLine_eq_none {b t : List Char} (hb : Blanks b)
    (ht : ∀ c ∈ t.head?, c ∉ [' ', '\t', '\n', '\r', '#']) :
    blanks (b ++ t) = some ((), t) ∧ emptyLine (b ++ t) = none := by
  have hne : ∀ {d : Char}, d ∈ [' ', '\t', '\n', '\r', '#'] → ∀ c ∈ t.head?, c ≠ d := by
    rintro d hd c hc rfl
    exact ht c hc hd
  have hblanks := blanks_append (s := t) hb fun c hc =>
    ⟨hne (by simp) c hc, hne (by simp) c hc⟩
  have hcomment := attempt_comment_of_ne (s := t) (hne (by simp))
  refine ⟨hblanks, (bind_of_eq_some hblanks).trans ((bind_of_eq_some hcomment).trans ?_)⟩
  exact newline_eq_none fun c hc => ⟨hne (by simp) c hc, hne (by simp) c hc⟩

/-- A last line without a statement. -/
theorem linesRead_empty {b comment : List Char} (hb : Blanks b) (hc : Comment comment) :
    LinesRead (b ++ comment) [] := by
  rintro budget (_ | count) - hcount
  · cases hcount
  refine ⟨[], ?_, ?_⟩
  · cases hc with
    | none =>
      obtain ⟨hblanks, hempty⟩ := emptyLine_eq_none (t := []) hb fun c hc => nomatch hc
      exact block_of_bracket hempty hblanks fun c hc => nomatch hc
    | @marked text htext =>
      have hblanks : blanks (b ++ '#' :: text) = some ((), '#' :: text) :=
        blanks_append hb fun c hc => by
          obtain rfl := Option.some.inj hc
          simp
      have hcomment := comment_append (s := []) htext fun c hc => nomatch hc
      rw [List.append_nil] at hcomment
      have hempty : emptyLine (b ++ '#' :: text) = none :=
        (bind_of_eq_some hblanks).trans (bind_of_eq_some (attempt_of_eq_some hcomment))
      rw [block_of_numberSign hempty hblanks rfl, bind_of_eq_some hcomment]
      rfl
  · rintro (_ | count) hcount
    · cases hcount
    · rfl

theorem linesRead_nil : LinesRead [] [] := linesRead_empty Blanks.nil .none

theorem linesRead_emptyLine {b comment newline rest : List Char} {statements : List Statement}
    (hb : Blanks b) (hc : Comment comment) (hn : Newline newline)
    (hrest : LinesRead rest statements) :
    LinesRead (b ++ (comment ++ (newline ++ rest))) statements := by
  obtain ⟨d, w, hnewline, hd⟩ := hn.head
  have hempty : emptyLine (b ++ (comment ++ (newline ++ rest))) = some ((), rest) := by
    have hblanks : blanks (b ++ (comment ++ (newline ++ rest)))
        = some ((), comment ++ (newline ++ rest)) := by
      have hnot : ∀ c ∈ ['\n', '\r', '#'], c ≠ ' ' ∧ c ≠ '\t' := by simp
      exact blanks_append hb fun c hmem => hnot c (hc.head?_append hn c hmem)
    obtain ⟨found, hcomment⟩ := attempt_comment_append (s := newline ++ rest) hc fun c hmem => by
      rw [hnewline] at hmem
      obtain rfl := Option.some.inj hmem
      exact hn.not_textChar _ (hnewline ▸ List.mem_cons_self)
    exact (bind_of_eq_some hblanks).trans
      ((bind_of_eq_some hcomment).trans (newline_append hn rest))
  rintro budget (_ | count) hbudget hcount
  · cases hcount
  simp only [List.length_append, hnewline, List.length_cons] at hbudget hcount
  obtain ⟨rest', hblock, hsections⟩ := hrest budget count (by omega) (by omega)
  refine ⟨rest', (block_of_emptyLine hempty).trans hblock, fun count hcount => ?_⟩
  simp only [List.length_append] at hcount
  exact hsections count (by omega)

theorem LineEnd.length_le {s rest : List Char} (h : LineEnd s rest) : rest.length ≤ s.length := by
  cases h with
  | newline =>
    simp only [List.length_append]
    omega
  | text => exact Nat.zero_le _

section Statement

variable {s rest : List Char} {statements : List Statement}

/-- An assignment, whose line is in front of lines that are read. -/
theorem linesRead_assignment {b w : List Char} {c : Char} {a : Assignment} (hb : Blanks b)
    (hw : StatementText limits (c :: w) (.assignment a)) (hbracket : c ≠ '[')
    (hnot : c ∉ [' ', '\t', '\n', '\r', '#']) (hs : LineEnd s rest)
    (hrest : LinesRead rest statements) :
    LinesRead (b ++ (c :: w ++ s)) (.assignment a :: statements) := by
  obtain ⟨hblanks, hempty⟩ := emptyLine_eq_none (t := c :: w ++ s) hb fun d hd => by
    obtain rfl := Option.some.inj hd
    exact hnot
  have hsign : c ≠ '#' := fun hc => hnot (by simp [hc])
  have hlength := hs.length_le
  rintro budget (_ | count) hbudget hcount
  · cases hcount
  simp only [List.length_append, List.length_cons] at hbudget hcount
  obtain ⟨rest', hblock, hsections⟩ := hrest budget count (by omega) (by omega)
  have hw' : (c :: w).length < budget := by
    rw [List.length_cons]
    omega
  refine ⟨rest', ?_, fun count hcount => hsections count ?_⟩
  · rw [block_of_assignment hempty hblanks rfl hbracket hsign,
      bind_of_eq_some (assignment_append hw hs hw'), bind_of_eq_some hblock]
    rfl
  · simp only [List.length_append, List.length_cons] at hcount
    omega

/-- A heading ends a block, and begins a section. -/
theorem linesRead_heading {b w : List Char} {found : Heading} (hb : Blanks b)
    (hw : StatementText limits ('[' :: w) (.heading found)) (hs : LineEnd s rest)
    (hrest : LinesRead rest statements) :
    LinesRead (b ++ ('[' :: w ++ s)) (.heading found :: statements) := by
  obtain ⟨hblanks, hempty⟩ := emptyLine_eq_none (t := '[' :: w ++ s) hb fun d hd => by
    obtain rfl := Option.some.inj hd
    simp
  have hlength := hs.length_le
  rintro budget (_ | count) hbudget hcount
  · cases hcount
  simp only [List.length_append, List.length_cons] at hbudget
  refine ⟨_, block_of_bracket hempty hblanks fun d hd => (Option.some.inj hd).symm, ?_⟩
  rintro (_ | count) hcount
  · cases hcount
  simp only [List.length_append, List.length_cons] at hcount
  obtain ⟨rest', hblock, hsections⟩ := hrest budget budget (by omega) (by omega)
  have hpeek : peek? ('[' :: w ++ s) = some (some '[', '[' :: w ++ s) := rfl
  rw [sections, bind_of_eq_some hpeek]
  dsimp only
  rw [bind_of_eq_some (heading_append hw hs), bind_of_eq_some hblock,
    bind_of_eq_some (hsections count (by omega))]
  rfl

theorem linesRead_statement {b w : List Char} {statement : Statement} (hb : Blanks b)
    (hw : StatementText limits w statement) (hs : LineEnd s rest)
    (hrest : LinesRead rest statements) :
    LinesRead (b ++ (w ++ s)) (statement :: statements) := by
  obtain ⟨b', c, w', rfl, hb', hw, hnot, hbracket⟩ := hw.head
  have hsplit : b ++ (b' ++ c :: w' ++ s) = b ++ b' ++ (c :: w' ++ s) := by
    rw [List.append_assoc, List.append_assoc]
  rw [hsplit]
  cases statement with
  | assignment a =>
    refine linesRead_assignment (hb.append hb') hw (fun hc => nomatch hbracket.mp hc) ?_ hs hrest
    exact fun hmem => hnot (by simp only [List.mem_cons] at hmem ⊢; tauto)
  | heading found =>
    obtain rfl := hbracket.mpr ⟨found, rfl⟩
    exact linesRead_heading (hb.append hb') hw hs hrest

end Statement

theorem Lines.linesRead {s : List Char} {statements : List Statement}
    (h : Lines limits s statements) : LinesRead s statements := by
  induction h with
  | last hline =>
    cases hline with
    | empty hb hc => exact linesRead_empty hb hc
    | statement hb hw hbehind hc => exact linesRead_statement hb hw (.text hbehind hc) linesRead_nil
  | next hline hn _ ih =>
    cases hline with
    | empty hb hc =>
      rw [List.append_assoc]
      exact linesRead_emptyLine hb hc hn ih
    | statement hb hw hbehind hc =>
      rw [List.append_assoc, List.append_assoc, List.append_assoc]
      exact linesRead_statement hb hw (.newline hbehind hc hn) ih

theorem Line.ne_mark {w t : List Char} {statements : List Statement}
    (h : Line limits w statements) (ht : ∀ c ∈ t.head?, c ≠ '\uFEFF') :
    ∀ c ∈ (w ++ t).head?, c ≠ '\uFEFF' := by
  have hblanks : ∀ {b t : List Char}, Blanks b → (∀ c ∈ t.head?, c ≠ '\uFEFF') →
      ∀ c ∈ (b ++ t).head?, c ≠ '\uFEFF' := by
    intro b t hb ht c hc
    rcases hb.head?_append hc with rfl | rfl | hc
    · simp
    · simp
    · exact ht c hc
  cases h with
  | empty hb hc =>
    rw [List.append_assoc]
    refine hblanks hb ?_
    cases hc with
    | none => exact ht
    | marked =>
      intro c hmem
      obtain rfl := Option.some.inj hmem
      simp
  | statement hb hw =>
    obtain ⟨b', c, w', rfl, hb', -, hnot, -⟩ := hw.head
    rw [List.append_assoc, List.append_assoc, List.append_assoc]
    refine hblanks hb (hblanks hb' fun d hd => ?_)
    obtain rfl := Option.some.inj hd
    exact fun hc => hnot (by simp [hc])

/-- A byte order mark is no part of a line. -/
theorem Lines.ne_mark {s : List Char} {statements : List Statement}
    (h : Lines limits s statements) : ∀ c ∈ s.head?, c ≠ '\uFEFF' := by
  cases h with
  | last h =>
    have hhead := h.ne_mark (t := []) fun c hc => nomatch hc
    rwa [List.append_nil] at hhead
  | next h hn =>
    refine h.ne_mark fun c hc => ?_
    obtain ⟨d, w, rfl, hd⟩ := hn.head
    obtain rfl := Option.some.inj hc
    rcases hd with rfl | rfl <;> simp

theorem statements?_of_document {text : List Char} {found : List Statement}
    (h : Document limits text found) : statements? text = some (grouped found) := by
  have hread : ∀ {w budget}, Lines limits w found → w.length < budget → (do
      let top ← block budget budget
      return (top, ← sections budget budget) : Scanner _) w = some (grouped found, []) := by
    intro w budget hlines hbudget
    obtain ⟨rest, hblock, hsections⟩ := hlines.linesRead budget budget hbudget hbudget
    rw [bind_of_eq_some hblock, bind_of_eq_some (hsections budget hbudget)]
    rfl
  have hstatements : statements (2 * text.length + 2) text = some (grouped found, []) := by
    unfold statements
    cases h with
    | plain hlines =>
      rw [bind_of_eq_some (attempt_of_eq_none (char_eq_none '\uFEFF' hlines.ne_mark))]
      exact hread hlines (by omega)
    | marked hlines =>
      rw [bind_of_eq_some (attempt_of_eq_some (char_cons '\uFEFF' _))]
      exact hread hlines (by
        rw [List.length_cons]
        omega)
  unfold statements?
  rw [hstatements]

/-- **What `read` reads are documents**, and every document is read: as what it says. -/
theorem read_follows : Reader.Follows read limits := by
  intro text entries
  unfold read
  constructor
  · intro h
    split at h
    case h_1 => cases h
    case h_2 top secs hstatements =>
      split at h
      case h_1 => cases h
      case h_2 entries' htable =>
        cases h
        obtain ⟨statements, hdocument, hgrouped⟩ := document_of_statements? hstatements
        exact ⟨statements, hdocument, tableOf_eq_some_iff.mp (by rwa [hgrouped])⟩
  · rintro ⟨statements, hdocument, hdefines⟩
    rw [statements?_of_document hdocument]
    dsimp only
    rw [tableOf_eq_some_iff.mpr hdefines]

end PeerTelemetry.Toml
