import Mathlib.Algebra.Field.Rat
import Mathlib.Data.List.TakeWhile
import Mathlib.Tactic.FieldSimp
import PeerTelemetry.Number.FloatLiteral

/-!
# The grammar of float literals

A reader of literals takes a text apart from its front: a sign if there is one, then digits as
long as there are digits, then whatever the next character asks for. The grammar says what a
literal is put together from, and what it says then, with nothing about order
(`FloatText`). The two agree (`FloatLiteral.floatText_of_read`,
`FloatLiteral.exists_read_of_floatText`), and the reason is the same at every seam: **what comes
next cannot be mistaken for more of the same.** Behind digits there is never a digit, and behind a
sign never a sign.
-/

namespace PeerTelemetry

-- Powers of numbers are the core library's own, whatever algebra is loaded besides.
attribute [local instance (high)] instPowNat

/-- **Decimal digits** and nothing else. -/
def Digits (s : List Char) : Prop := ∀ c ∈ s, c.isDigit = true

instance (s : List Char) : Decidable (Digits s) :=
  decidable_of_iff (s.all Char.isDigit = true) List.all_eq_true

/-! ## The grammar -/

/-- **What a float literal says.** -/
inductive Quantity
  | nan
  | infinity (negative : Bool)
  /-- A rational number, by its sign and its size. -/
  | finite (negative : Bool) (size : ℚ)

/-- An optional sign, and whether it is a minus. -/
inductive SignText : List Char → Bool → Prop
  | none : SignText [] false
  | plus : SignText ['+'] false
  | minus : SignText ['-'] true

/-- An optional point, with digits behind it if there are any. -/
inductive FractionText : List Char → List Char → Prop
  | none : FractionText [] []
  | point {digits : List Char} : Digits digits → FractionText ('.' :: digits) digits

/-- An optional exponent. -/
inductive ExponentText : List Char → ℤ → Prop
  | none : ExponentText [] 0
  | marked {mark : Char} {sign digits : List Char} {negative : Bool} :
    mark = 'e' ∨ mark = 'E' → SignText sign negative → Digits digits → digits ≠ [] →
    ExponentText (mark :: (sign ++ digits))
      (if negative then -(ofDecimal digits : ℤ) else ofDecimal digits)

/-- **A float literal**, and what it says: an optional sign, and then `inf`, `infinity` or `nan` in
any case, or decimal digits with at most one point among them, at least one digit, and an optional
exponent. -/
inductive FloatText : List Char → Quantity → Prop
  | infinity {sign word : List Char} {negative : Bool} : SignText sign negative →
    word.map Char.toLower = "inf".toList ∨ word.map Char.toLower = "infinity".toList →
    FloatText (sign ++ word) (.infinity negative)
  | nan {sign word : List Char} {negative : Bool} : SignText sign negative →
    word.map Char.toLower = "nan".toList → FloatText (sign ++ word) .nan
  | finite {sign whole point fraction exponent : List Char} {negative : Bool} {e : ℤ} :
    SignText sign negative → Digits whole → FractionText point fraction →
    whole ++ fraction ≠ [] → ExponentText exponent e →
    FloatText (sign ++ (whole ++ (point ++ exponent)))
      (.finite negative
        ((ofDecimal whole + ofDecimal fraction / 10 ^ fraction.length) * 10 ^ e))

/-! ## Where a part ends -/

section Digits

variable {s t : List Char}

theorem Digits.append (hs : Digits s) (ht : Digits t) : Digits (s ++ t) := fun c hc =>
  (List.mem_append.mp hc).elim (hs c) (ht c)

theorem digits_takeWhile (s : List Char) : Digits (s.takeWhile Char.isDigit) := fun _ =>
  List.mem_takeWhile_imp

/-- **A part ends where a character follows that it does not keep to.** -/
theorem takeWhile_append_of_head? {kept : Char → Bool} (hs : ∀ c ∈ s, kept c = true)
    (ht : ∀ c ∈ t.head?, kept c = false) :
    (s ++ t).takeWhile kept = s ∧ (s ++ t).dropWhile kept = t := by
  rw [List.takeWhile_append_of_pos hs, List.dropWhile_append_of_pos hs]
  cases t with
  | nil => exact ⟨List.append_nil s, rfl⟩
  | cons c t =>
    have hc : ¬kept c = true := by rw [ht c rfl]; decide
    rw [List.takeWhile_cons_of_neg hc, List.dropWhile_cons_of_neg hc, List.append_nil]
    exact ⟨rfl, rfl⟩

/-- The digits behind other digits count for less. -/
theorem ofDecimal_append (s t : List Char) :
    ofDecimal (s ++ t) = 10 ^ t.length * ofDecimal s + ofDecimal t := by
  rw [ofDecimal, Nat.ofDigitChars_append, Nat.ofDigitChars_eq_ofDigitChars_zero]
  rfl

/-- So many digits denote less than that power of ten, behind zero. -/
theorem Digits.ofDigitChars_lt (hs : Digits s) (n : ℕ) :
    Nat.ofDigitChars 10 s n < 10 ^ s.length * (n + 1) := by
  induction s generalizing n with
  | nil => exact Nat.lt_of_lt_of_eq n.lt_succ_self (Nat.one_mul _).symm
  | cons c s ih =>
    have hdigit : c.toNat - '0'.toNat ≤ 9 := by
      have hc := hs c List.mem_cons_self
      simp only [Char.isDigit, Bool.and_eq_true, decide_eq_true_eq, UInt32.le_iff_toNat_le] at hc
      have hnine : c.toNat ≤ '9'.toNat := hc.2
      have hnine' : '9'.toNat = '0'.toNat + 9 := rfl
      omega
    rw [Nat.ofDigitChars_cons, List.length_cons, Nat.pow_succ, Nat.mul_assoc]
    refine (ih (fun d hd => hs d (List.mem_cons_of_mem c hd)) _).trans_le ?_
    exact Nat.mul_le_mul_left _ (by omega)

theorem Digits.ofDecimal_lt (hs : Digits s) : ofDecimal s < 10 ^ s.length :=
  (hs.ofDigitChars_lt 0).trans_eq (Nat.mul_one _)

end Digits

namespace FloatLiteral

/-- Whether a text begins with a sign. -/
def BeginsWithSign (s : List Char) : Prop := ∃ c ∈ s.head?, c = '+' ∨ c = '-'

/-- A sign is read as a sign, and what follows it is left. -/
theorem exists_signText (s : List Char) :
    ∃ (sign : List Char) (negative : Bool) (rest : List Char),
      readSign s = (negative, rest) ∧ SignText sign negative ∧ s = sign ++ rest := by
  unfold readSign
  split
  · exact ⟨_, _, _, rfl, .plus, rfl⟩
  · exact ⟨_, _, _, rfl, .minus, rfl⟩
  · exact ⟨_, _, _, rfl, .none, rfl⟩

/-- **A sign ends where no sign follows.** -/
theorem readSign_append {sign t : List Char} {negative : Bool} (h : SignText sign negative)
    (ht : ¬BeginsWithSign t) : readSign (sign ++ t) = (negative, t) := by
  cases h with
  | plus => rfl
  | minus => rfl
  | none =>
    show readSign t = (false, t)
    unfold readSign
    split
    · exact absurd ⟨'+', rfl, Or.inl rfl⟩ ht
    · exact absurd ⟨'-', rfl, Or.inr rfl⟩ ht
    · rfl

/-- Digits do not begin with a sign. -/
theorem not_beginsWithSign_of_isDigit {c : Char} (hc : c.isDigit = true) (s : List Char) :
    ¬BeginsWithSign (c :: s) := by
  rintro ⟨d, hd, hsign⟩
  obtain rfl := Option.some.inj hd
  rcases hsign with rfl | rfl <;> cases hc

/-- **What is read as an exponent** is an exponent, and nothing else is. -/
theorem readExponent_eq_some_iff {s : List Char} {e : ℤ} :
    readExponent s = some e ↔ ExponentText s e := by
  constructor
  · intro h
    cases s with
    | nil => exact Option.some.inj h ▸ .none
    | cons mark s =>
      obtain ⟨sign, negative, digits, hread, hsign, rfl⟩ := exists_signText s
      unfold readExponent at h
      dsimp only at h
      rw [hread] at h
      split at h
      case isFalse => cases h
      case isTrue hmark =>
        split at h
        case isFalse => cases h
        case isTrue hdigits =>
          obtain rfl := Option.some.inj h
          exact .marked hmark hsign (List.all_eq_true.mp hdigits.2) hdigits.1
  · rintro (_ | @⟨mark, sign, digits, negative, hmark, hsign, hdigits, hne⟩)
    · rfl
    · obtain ⟨c, digits, rfl⟩ := List.exists_cons_of_ne_nil hne
      have hbegin := not_beginsWithSign_of_isDigit (hdigits c List.mem_cons_self) digits
      unfold readExponent
      dsimp only
      rw [if_pos hmark, readSign_append hsign hbegin, if_pos ⟨hne, List.all_eq_true.mpr hdigits⟩]

theorem fractionText_readFraction (s : List Char) :
    ∃ point, FractionText point (readFraction s).1 ∧ s = point ++ (readFraction s).2 := by
  unfold readFraction
  split
  · rename_i s
    exact ⟨_, .point (digits_takeWhile s), congrArg _ List.takeWhile_append_dropWhile.symm⟩
  · exact ⟨_, .none, rfl⟩

/-- **A fraction ends where neither a digit nor a point follows.** -/
theorem readFraction_append {point fraction t : List Char} (h : FractionText point fraction)
    (ht : ∀ c ∈ t.head?, c.isDigit = false ∧ c ≠ '.') :
    readFraction (point ++ t) = (fraction, t) := by
  cases h with
  | none =>
    show readFraction t = ([], t)
    unfold readFraction
    split
    · exact absurd rfl (ht '.' rfl).2
    · rfl
  | point hdigits =>
    obtain ⟨htake, hdrop⟩ := takeWhile_append_of_head? hdigits fun c hc => (ht c hc).1
    exact Prod.ext htake hdrop

/-- Neither a digit nor a point begins an exponent. -/
theorem isDigit_of_mem_head?_exponent {s : List Char} {e : ℤ} (h : ExponentText s e) :
    ∀ c ∈ s.head?, c.isDigit = false ∧ c ≠ '.' := by
  intro c hc
  cases h with
  | none => cases hc
  | marked hmark =>
    obtain rfl := Option.some.inj hc
    rcases hmark with rfl | rfl <;> decide

/-- No digit begins an optional point and what follows it. -/
theorem isDigit_of_mem_head?_fraction {point fraction t : List Char}
    (h : FractionText point fraction) (ht : ∀ c ∈ t.head?, c.isDigit = false) :
    ∀ c ∈ (point ++ t).head?, c.isDigit = false := by
  cases h with
  | none => exact ht
  | point =>
    intro c hc
    obtain rfl := Option.some.inj hc
    rfl

/-- **What is read as a decimal number** is digits, an optional point with digits, and an optional
exponent, and nothing else is. -/
theorem readDecimal_eq_some_iff {negative : Bool} {s : List Char} {literal : FloatLiteral} :
    readDecimal negative s = some literal
      ↔ ∃ (whole point fraction exponent : List Char) (e : ℤ), Digits whole
        ∧ FractionText point fraction ∧ whole ++ fraction ≠ [] ∧ ExponentText exponent e
        ∧ s = whole ++ (point ++ exponent)
        ∧ literal = .finite negative (whole ++ fraction) (e - fraction.length) := by
  unfold readDecimal
  dsimp only
  constructor
  · intro h
    split at h
    case isTrue => cases h
    case isFalse hne =>
      obtain ⟨e, he, rfl⟩ := Option.map_eq_some_iff.mp h
      obtain ⟨point, hpoint, hrest⟩ := fractionText_readFraction (s.dropWhile Char.isDigit)
      refine ⟨_, point, _, _, e, digits_takeWhile s, hpoint, hne, readExponent_eq_some_iff.mp he,
        ?_, rfl⟩
      rw [← hrest, List.takeWhile_append_dropWhile]
  · rintro ⟨whole, point, fraction, exponent, e, hwhole, hpoint, hne, hexponent, rfl, rfl⟩
    have hend := isDigit_of_mem_head?_exponent hexponent
    obtain ⟨htake, hdrop⟩ := takeWhile_append_of_head? hwhole
      (isDigit_of_mem_head?_fraction hpoint fun c hc => (hend c hc).1)
    rw [htake, hdrop, readFraction_append hpoint hend, if_neg hne,
      readExponent_eq_some_iff.mpr hexponent, Option.map_some]

/-! ## Literals -/

/-- **What a literal says** once it is taken apart. -/
def quantity : FloatLiteral → Quantity
  | nan _ => .nan
  | infinity negative => .infinity negative
  | finite negative digits exponent => .finite negative (ofDecimal digits * 10 ^ exponent)

/-- Digits on both sides of a point are digits in a row, with an exponent that counts those behind
it. -/
theorem ofDecimal_append_mul (whole fraction : List Char) (e : ℤ) :
    (ofDecimal (whole ++ fraction) : ℚ) * 10 ^ (e - fraction.length)
      = (ofDecimal whole + ofDecimal fraction / 10 ^ fraction.length) * 10 ^ e := by
  have hten : (10 : ℚ) ≠ 0 := by norm_num
  rw [ofDecimal_append, zpow_sub₀ hten, zpow_natCast]
  push_cast
  field_simp

/-- A digit has no case. -/
theorem toLower_of_isDigit {c : Char} (h : c.isDigit = true) : c.toLower = c := by
  have hnine : c ≤ '9' := by
    simp only [Char.isDigit, Bool.and_eq_true, decide_eq_true_eq] at h
    exact h.2
  have hlower : ¬(c.val ≥ 'A'.val ∧ c.val ≤ 'Z'.val) := by
    rintro ⟨hle, -⟩
    exact absurd (Char.le_trans hle hnine) (by decide)
  exact dif_neg hlower

/-- What begins with a digit or with a point is no word, in any case. -/
theorem map_toLower_ne {c d : Char} {s word : List Char} (hc : c.isDigit = true ∨ c = '.')
    (hd : d.isDigit = false ∧ d ≠ '.') : (c :: s).map Char.toLower ≠ d :: word := by
  intro heq
  have hhead : c.toLower = d := (List.cons.inj heq).1
  rcases hc with hc | rfl
  · rw [toLower_of_isDigit hc] at hhead
    rw [← hhead, hc] at hd
    cases hd.1
  · exact hd.2 hhead.symm

/-- A word has no sign of its own. -/
theorem not_beginsWithSign_of_map_toLower {c : Char} {s word : List Char}
    (h : s.map Char.toLower = c :: word) (hc : c ≠ '+' ∧ c ≠ '-') : ¬BeginsWithSign s := by
  rintro ⟨d, hd, hsign⟩
  cases s with
  | nil => cases hd
  | cons d' s =>
    obtain rfl := Option.some.inj hd
    have hhead : d'.toLower = c := (List.cons.inj h).1
    rcases hsign with rfl | rfl
    · exact hc.1 hhead.symm
    · exact hc.2 hhead.symm

/-- **A sign, and then what begins with a digit or with a point**, is a decimal number if
anything. -/
theorem read_append {sign s : List Char} {negative : Bool} {c : Char}
    (hsign : SignText sign negative) (hc : c.isDigit = true ∨ c = '.') :
    read (sign ++ c :: s) = readDecimal negative (c :: s) := by
  have hbegin : ¬BeginsWithSign (c :: s) := by
    rcases hc with hc | rfl
    · exact not_beginsWithSign_of_isDigit hc s
    · rintro ⟨d, hd, hsign⟩
      obtain rfl := Option.some.inj hd
      revert hsign
      decide
  have hinf : (c :: s).map Char.toLower ≠ "inf".toList := map_toLower_ne hc (by decide)
  have hinfinity : (c :: s).map Char.toLower ≠ "infinity".toList := map_toLower_ne hc (by decide)
  have hnan : (c :: s).map Char.toLower ≠ "nan".toList := map_toLower_ne hc (by decide)
  unfold read
  rw [readSign_append hsign hbegin]
  dsimp only
  rw [if_neg (not_or.mpr ⟨hinf, hinfinity⟩), if_neg hnan]

/-- **What is read as a literal** is a sign and a word, or a sign and a decimal number. -/
theorem exists_of_read {s : List Char} {literal : FloatLiteral} (h : read s = some literal) :
    ∃ (sign rest : List Char) (negative : Bool), SignText sign negative ∧ s = sign ++ rest
      ∧ ((rest.map Char.toLower = "inf".toList ∨ rest.map Char.toLower = "infinity".toList)
            ∧ literal = infinity negative
          ∨ rest.map Char.toLower = "nan".toList ∧ literal = nan negative
          ∨ readDecimal negative rest = some literal) := by
  obtain ⟨sign, negative, rest, hread, hsign, rfl⟩ := exists_signText s
  refine ⟨sign, rest, negative, hsign, rfl, ?_⟩
  unfold read at h
  rw [hread] at h
  dsimp only at h
  split at h
  case isTrue hword => exact Or.inl ⟨hword, (Option.some.inj h).symm⟩
  case isFalse =>
    split at h
    case isTrue hword => exact Or.inr (Or.inl ⟨hword, (Option.some.inj h).symm⟩)
    case isFalse => exact Or.inr (Or.inr h)

/-- **What is read is a literal**, and says what is read. -/
theorem floatText_of_read {s : List Char} {literal : FloatLiteral} (h : read s = some literal) :
    FloatText s literal.quantity := by
  obtain ⟨sign, rest, negative, hsign, rfl, ⟨hword, rfl⟩ | ⟨hword, rfl⟩ | hdecimal⟩ :=
    exists_of_read h
  · exact .infinity hsign hword
  · exact .nan hsign hword
  · obtain ⟨whole, point, fraction, exponent, e, hwhole, hpoint, hne, hexponent, rfl, rfl⟩ :=
      readDecimal_eq_some_iff.mp hdecimal
    rw [quantity, ofDecimal_append_mul]
    exact .finite hsign hwhole hpoint hne hexponent

theorem digits_of_fractionText {point fraction : List Char} (h : FractionText point fraction) :
    Digits fraction := by
  cases h with
  | none => exact List.forall_mem_nil _
  | point hdigits => exact hdigits

/-- The digits of what is read are digits. -/
theorem digits_of_read {s digits : List Char} {negative : Bool} {exponent : ℤ}
    (h : read s = some (.finite negative digits exponent)) : Digits digits := by
  obtain ⟨-, rest, negative, -, -, ⟨-, heq⟩ | ⟨-, heq⟩ | hdecimal⟩ := exists_of_read h
  · cases heq
  · cases heq
  · obtain ⟨whole, point, fraction, -, e, hwhole, hpoint, -, -, -, heq⟩ :=
      readDecimal_eq_some_iff.mp hdecimal
    cases heq
    exact hwhole.append (digits_of_fractionText hpoint)

/-- A decimal number begins with a digit or with a point. -/
theorem exists_eq_cons_of_fractionText {whole point fraction : List Char} (hwhole : Digits whole)
    (hpoint : FractionText point fraction) (hne : whole ++ fraction ≠ []) (rest : List Char) :
    ∃ c t, whole ++ (point ++ rest) = c :: t ∧ (c.isDigit = true ∨ c = '.') := by
  cases whole with
  | cons c whole => exact ⟨c, _, rfl, Or.inl (hwhole c List.mem_cons_self)⟩
  | nil =>
    cases hpoint with
    | none => exact absurd rfl hne
    | point => exact ⟨'.', _, rfl, Or.inr rfl⟩

/-- **Every literal is read**, as what it says. -/
theorem exists_read_of_floatText {s : List Char} {q : Quantity} (h : FloatText s q) :
    ∃ literal, read s = some literal ∧ literal.quantity = q := by
  cases h with
  | @infinity _ _ negative hsign hword =>
    have hbegin := hword.elim (not_beginsWithSign_of_map_toLower · (by decide))
      (not_beginsWithSign_of_map_toLower · (by decide))
    refine ⟨.infinity negative, ?_, rfl⟩
    unfold read
    rw [readSign_append hsign hbegin]
    exact if_pos hword
  | @nan _ _ negative hsign hword =>
    refine ⟨.nan negative, ?_, rfl⟩
    unfold read
    rw [readSign_append hsign (not_beginsWithSign_of_map_toLower hword (by decide))]
    dsimp only
    rw [if_neg (by rw [hword]; decide), if_pos hword]
  | @finite _ whole _ fraction exponent negative e hsign hwhole hpoint hne hexponent =>
    refine ⟨.finite negative (whole ++ fraction) (e - fraction.length), ?_,
      congrArg (Quantity.finite negative) (ofDecimal_append_mul whole fraction e)⟩
    obtain ⟨c, t, hcons, hc⟩ := exists_eq_cons_of_fractionText hwhole hpoint hne exponent
    rw [hcons, read_append hsign hc, ← hcons]
    exact readDecimal_eq_some_iff.mpr
      ⟨_, _, _, _, _, hwhole, hpoint, hne, hexponent, rfl, rfl⟩

end FloatLiteral

end PeerTelemetry
