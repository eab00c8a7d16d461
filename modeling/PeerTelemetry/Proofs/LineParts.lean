import PeerTelemetry.Report.Text

/-!
# The characters of what is shown

A line is made of numbers, addresses and round-trip times with fixed words between them.
Nothing in it marks where one part ends and the next begins but **the characters themselves**:
each kind of part keeps to a few of them, and the words between the parts begin
with another. This module says which characters those are, for each kind of part.
-/

namespace PeerTelemetry

/-- **A part that keeps to some characters** has no other in it. -/
theorem notMem_of_forall_eq_true {kept : Char → Bool} {part : List Char} {c : Char}
    (hpart : ∀ d ∈ part, kept d = true) (h : kept c = false) : c ∉ part := by
  intro hc
  rw [hpart c hc] at h
  cases h

/-! ## Numbers -/

/-- What is no digit is not in a decimal number. -/
theorem notMem_decimal {c : Char} (h : c.isDigit = false) (n : Nat) : c ∉ decimal n :=
  notMem_of_forall_eq_true (fun _ => isDigit_of_mem_decimal) h

/-- Nor is it in one that is filled up with something else. -/
theorem notMem_leftpad_decimal {c fill : Char} (h : c.isDigit = false) (hfill : c ≠ fill)
    (width n : Nat) : c ∉ (decimal n).leftpad width fill := by
  intro hc
  rcases List.mem_append.mp hc with hc | hc
  · exact hfill (List.eq_of_mem_replicate hc)
  · exact notMem_decimal h n hc

/-- The digits of a number are what is left of it when the filling is taken away. -/
theorem filter_leftpad_decimal {c : Char} (h : c.isDigit = false) (width n : Nat) :
    ((decimal n).leftpad width c).filter Char.isDigit = decimal n := by
  have hdigits : (decimal n).filter Char.isDigit = decimal n :=
    List.filter_eq_self.mpr (fun _ => isDigit_of_mem_decimal)
  rw [List.leftpad, List.filter_append, hdigits, List.filter_replicate_of_neg (by simp [h]),
    List.nil_append]

/-- Equal texts are texts of equal numbers, also where they are filled up. -/
theorem leftpad_decimal_injective {c : Char} (h : c.isDigit = false) {width m n : Nat}
    (heq : (decimal m).leftpad width c = (decimal n).leftpad width c) : m = n := by
  apply decimal_injective
  rw [← filter_leftpad_decimal h width m, heq, filter_leftpad_decimal h width n]

theorem isHexDigit_of_isDigit {c : Char} (h : c.isDigit = true) : isHexDigit c = true := by
  simp [isHexDigit, hexValue?, h]

/-- The digits of a hexadecimal number are hexadecimal digits. -/
theorem isHexDigit_of_mem_hexadecimal {n : Nat} {c : Char} (h : c ∈ hexadecimal n) :
    isHexDigit c = true := by
  have hdigit : ∀ d < 16, isHexDigit (Nat.digitChar d) = true := by
    intro d hd
    rw [isHexDigit, hexValue?_digitChar hd, Option.isSome_some]
  unfold hexadecimal at h
  induction n using Nat.strongRecOn with
  | ind n ih =>
    rw [Nat.toDigits_eq_if (by decide)] at h
    split at h
    · rename_i hlt
      rw [List.mem_singleton.mp h]
      exact hdigit n hlt
    · rename_i hge
      rcases List.mem_append.mp h with h | h
      · exact ih (n / 16) (by omega) h
      · rw [List.mem_singleton.mp h]
        exact hdigit (n % 16) (Nat.mod_lt n (by decide))

/-! ## Addresses -/

/-- **The characters of an address**: hexadecimal digits, points and colons. -/
def isAddressChar (c : Char) : Bool := isHexDigit c || c = '.' || c = ':'

theorem isAddressChar_of_mem_decimal {n : Nat} {c : Char} (h : c ∈ decimal n) :
    isAddressChar c = true := by
  simp [isAddressChar, isHexDigit_of_isDigit (isDigit_of_mem_decimal h)]

theorem Ipv4.isAddressChar_of_mem_text {ip : Ipv4} {c : Char} (h : c ∈ ip.text) :
    isAddressChar c = true := by
  have hpart : ∀ n : Nat, c ∈ '.' :: decimal n → isAddressChar c = true := by
    intro n hc
    rcases List.mem_cons.mp hc with rfl | hc
    · rfl
    · exact isAddressChar_of_mem_decimal hc
  unfold text at h
  rcases List.mem_append.mp h with h | h
  · rcases List.mem_append.mp h with h | h
    · rcases List.mem_append.mp h with h | h
      · exact isAddressChar_of_mem_decimal h
      · exact hpart _ h
    · exact hpart _ h
  · exact hpart _ h

namespace Ipv6

theorem isAddressChar_of_mem_groupsText {groups : List UInt16} {c : Char}
    (h : c ∈ groupsText groups) : isAddressChar c = true := by
  have hgroup : ∀ group : UInt16, c ∈ groupText group → isAddressChar c = true := by
    intro group hc
    simp [isAddressChar, isHexDigit_of_mem_hexadecimal hc]
  unfold groupsText at h
  induction groups with
  | nil => cases h
  | cons group rest ih =>
    cases rest with
    | nil =>
      rw [List.map_singleton, List.intercalate_singleton] at h
      exact hgroup group h
    | cons next rest =>
      rw [List.map_cons, List.map_cons, List.intercalate_cons_cons] at h
      rcases List.mem_append.mp h with h | h
      · rcases List.mem_append.mp h with h | h
        · exact hgroup group h
        · rw [List.mem_singleton.mp h]
          rfl
      · exact ih h

theorem isAddressChar_of_mem_text {ip : Ipv6} {c : Char} (h : c ∈ ip.text) :
    isAddressChar c = true := by
  have hwords : ∀ d ∈ "::ffff:".toList, isAddressChar d = true :=
    List.all_eq_true.mp (by decide)
  unfold text at h
  split at h
  · rcases List.mem_append.mp h with h | h
    · exact hwords c h
    · exact Ipv4.isAddressChar_of_mem_text h
  · dsimp only at h
    split at h
    · rcases List.mem_append.mp h with h | h
      · rcases List.mem_append.mp h with h | h
        · exact isAddressChar_of_mem_groupsText h
        · exact hwords c (List.mem_of_mem_take (i := 2) h)
      · exact isAddressChar_of_mem_groupsText h
    · exact isAddressChar_of_mem_groupsText h

theorem groupsText_ne_nil {groups : List UInt16} (h : groups ≠ []) : groupsText groups ≠ [] := by
  unfold groupsText
  match groups with
  | [] => exact absurd rfl h
  | [group] =>
    rw [List.map_singleton, List.intercalate_singleton]
    exact Nat.toDigits_ne_nil
  | group :: next :: rest =>
    rw [List.map_cons, List.map_cons, List.intercalate_cons_cons]
    simp

theorem text_ne_nil (ip : Ipv6) : ip.text ≠ [] := by
  unfold text
  split
  · exact List.cons_ne_nil _ _
  · dsimp only
    split
    · simp
    · refine groupsText_ne_nil (fun h => ?_)
      have hlen := ip.length_groups
      rw [h] at hlen
      cases hlen

end Ipv6

namespace IpAddress

/-- The text of an address keeps to the characters of an address. -/
theorem isAddressChar_of_mem_text {ip : IpAddress} {c : Char} (h : c ∈ ip.text) :
    isAddressChar c = true := by
  cases ip with
  | v4 ip => exact Ipv4.isAddressChar_of_mem_text h
  | v6 ip => exact Ipv6.isAddressChar_of_mem_text h

/-- What is no character of an address is not in the text of one. -/
theorem notMem_text {c : Char} (h : isAddressChar c = false) (ip : IpAddress) : c ∉ ip.text :=
  notMem_of_forall_eq_true (fun _ => isAddressChar_of_mem_text) h

theorem text_ne_nil (ip : IpAddress) : ip.text ≠ [] := by
  cases ip with
  | v4 ip => simp [text, Ipv4.text]
  | v6 ip => exact Ipv6.text_ne_nil ip

end IpAddress

/-! ## Round-trip times -/

/-- **The characters of a round-trip time**: digits, and those of the sign, the point, the
unit and the words for what is no number. -/
def isRttChar (c : Char) : Bool := c.isDigit || ".-inf us/a".toList.contains c

theorem isRttChar_of_mem_decimal {n : Nat} {c : Char} (h : c ∈ decimal n) :
    isRttChar c = true := by
  rw [isRttChar, isDigit_of_mem_decimal h, Bool.true_or]

theorem isRttChar_of_mem_fixedPoint {places n : Nat} {c : Char} (h : c ∈ fixedPoint places n) :
    isRttChar c = true := by
  simp only [fixedPoint, List.leftpad, List.mem_append, List.mem_cons, List.mem_replicate] at h
  rcases h with h | rfl | ⟨-, rfl⟩ | h
  · exact isRttChar_of_mem_decimal h
  · rfl
  · rfl
  · exact isRttChar_of_mem_decimal h

namespace Rtt

theorem isRttChar_of_mem_numeral {rtt : Rtt} {c : Char} (h : c ∈ rtt.numeral) :
    isRttChar c = true := by
  have hword : ∀ d ∈ "inf".toList, isRttChar d = true :=
    List.all_eq_true.mp (by decide)
  unfold numeral at h
  split at h
  · exact hword c h
  · rcases List.mem_append.mp h with h | h
    · split at h
      · rw [List.mem_singleton.mp h]
        rfl
      · cases h
    · exact isRttChar_of_mem_fixedPoint h

theorem isRttChar_of_mem_text {rtt : Rtt} {c : Char} (h : c ∈ rtt.text) :
    isRttChar c = true := by
  have hunit : ∀ d ∈ " us".toList, isRttChar d = true :=
    List.all_eq_true.mp (by decide)
  have hword : ∀ d ∈ unavailable, isRttChar d = true :=
    List.all_eq_true.mp (by decide)
  unfold text at h
  split at h
  · rcases List.mem_append.mp h with h | h
    · exact isRttChar_of_mem_numeral h
    · exact hunit c h
  · exact hword c h

/-- What is no character of a round-trip time is not in the text of one. -/
theorem notMem_text {c : Char} (h : isRttChar c = false) (rtt : Rtt) : c ∉ rtt.text :=
  notMem_of_forall_eq_true (fun _ => isRttChar_of_mem_text) h

end Rtt

end PeerTelemetry
