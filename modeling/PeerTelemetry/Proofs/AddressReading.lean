import PeerTelemetry.Address.Parser
import PeerTelemetry.Proofs.DecimalReading
import PeerTelemetry.Proofs.LineParts

/-!
# Addresses read back

The text of an IPv6 address leaves out a run of zero groups, and does not say which run it was, nor
how long. The two colons in its place say only that something is left out, and the reader puts
in as many zeros as the other groups are short of eight. **Whichever run of zeros was left out, that
is the right number** (`AddressText.readV6_of_shortForm`). How the run was chosen – the longest, the
first of several, never a single group – makes the text the only one of its address, and is of no
help in reading it. So the choice is summed up once, as the form a text has (`Ipv6.ShortForm`), and
reading goes by the form.

What reading does depend on is where a group ends. The reader tries an IPv4 address in front of
every group, and a group of decimal digits could be the beginning of one. It is not, because a colon
stands behind it, or nothing (`AddressText.readV4_groupText_append`). For the same reason the text
of no IPv6 address is taken for that of an IPv4 address, and an address is read back in its own
family (`IpAddress.parse?_text`).
-/

namespace PeerTelemetry

/-! ## The groups that are left out -/

namespace Ipv6

/-- **The first of the longest runs of zero groups**, among those that start below a bound. -/
structure IsFirstLongest (groups : List UInt16) (bound : Nat) (run : Nat × Nat) : Prop where
  le_zerosFrom : run.2 ≤ zerosFrom groups run.1
  longest : ∀ start < bound, zerosFrom groups start ≤ run.2
  first : ∀ start < run.1, zerosFrom groups start < run.2

/-- The search finds it. -/
theorem isFirstLongest_longestZeroRun (groups : List UInt16) :
    IsFirstLongest groups groups.length (longestZeroRun groups) := by
  unfold longestZeroRun
  generalize groups.length = bound
  -- A run takes the place of the best so far only if it is longer, so every run in front of the
  -- best is shorter.
  induction bound with
  | zero =>
    exact ⟨Nat.zero_le _, fun _ h => absurd h (Nat.not_lt_zero _),
      fun _ h => absurd h (Nat.not_lt_zero _)⟩
  | succ bound ih =>
    rw [List.range_succ, List.foldl_append, List.foldl_cons, List.foldl_nil]
    generalize List.foldl _ (0, 0) (List.range bound) = best at ih ⊢
    split
    case isTrue hmore =>
      refine ⟨Nat.le_refl _, fun start hstart => ?_, fun start hstart => ?_⟩
      · rcases Nat.lt_succ_iff_lt_or_eq.mp hstart with hlt | rfl
        · exact Nat.le_of_lt (Nat.lt_of_le_of_lt (ih.longest start hlt) hmore)
        · exact Nat.le_refl _
      · exact Nat.lt_of_le_of_lt (ih.longest start hstart) hmore
    case isFalse hfew =>
      refine ⟨ih.le_zerosFrom, fun start hstart => ?_, ih.first⟩
      rcases Nat.lt_succ_iff_lt_or_eq.mp hstart with hlt | rfl
      · exact ih.longest start hlt
      · exact Nat.not_lt.mp hfew

/-- There are no zeros behind the last group. -/
theorem zerosFrom_of_length_le {groups : List UInt16} {start : Nat} (h : groups.length ≤ start) :
    zerosFrom groups start = 0 := by
  rw [zerosFrom, List.drop_eq_nil_of_le h]
  rfl

/-- **A run of zeros stands among the groups** between what is in front of it and what is behind. -/
theorem eq_append_of_zerosFrom (groups : List UInt16) (start : Nat) :
    groups = groups.take start ++ List.replicate (zerosFrom groups start) 0
      ++ groups.drop (start + zerosFrom groups start) := by
  have hprefix : (groups.drop start).takeWhile (· = 0)
      = (groups.drop start).take (zerosFrom groups start) :=
    List.prefix_iff_eq_take.mp (List.takeWhile_prefix _)
  have hzeros : (groups.drop start).takeWhile (· = 0)
      = List.replicate (zerosFrom groups start) 0 :=
    List.eq_replicate_iff.mpr ⟨rfl, fun g hg => by simpa using List.mem_takeWhile_imp hg⟩
  calc groups
      = groups.take start ++ groups.drop start := (List.take_append_drop start groups).symm
    _ = groups.take start ++ ((groups.drop start).take (zerosFrom groups start)
          ++ (groups.drop start).drop (zerosFrom groups start)) := by
        rw [List.take_append_drop (zerosFrom groups start)]
    _ = groups.take start ++ List.replicate (zerosFrom groups start) 0
          ++ groups.drop (start + zerosFrom groups start) := by
        rw [← hprefix, hzeros, List.drop_drop, List.append_assoc]

/-- **The recommended form of groups.** They are all there, where no two zero groups stand side by
side; otherwise two colons stand in place of a run of zeros, the first of the longest. -/
inductive ShortForm (groups : List UInt16) : List Char → Prop
  | whole : (∀ start, zerosFrom groups start ≤ 1) → ShortForm groups (groupsText groups)
  | shortened (front back : List UInt16) (count : Nat) :
    groups = front ++ List.replicate count 0 ++ back → 1 < count →
    (∀ start, zerosFrom groups start ≤ count) →
    (∀ start < front.length, zerosFrom groups start < count) →
    ShortForm groups (groupsText front ++ "::".toList ++ groupsText back)

/-- An address is written in the recommended form, unless it maps an IPv4 address. -/
theorem shortForm_text {ip : Ipv6} (h : ip.mapped? = none) : ShortForm ip.groups ip.text := by
  have hrun := isFirstLongest_longestZeroRun ip.groups
  have hlongest : ∀ start, zerosFrom ip.groups start ≤ (longestZeroRun ip.groups).2 := by
    intro start
    rcases Nat.lt_or_ge start ip.groups.length with hlt | hge
    · exact hrun.longest start hlt
    · rw [zerosFrom_of_length_le hge]
      exact Nat.zero_le _
  have hwhole : zerosFrom ip.groups (longestZeroRun ip.groups).1 = (longestZeroRun ip.groups).2 :=
    Nat.le_antisymm (hlongest _) hrun.le_zerosFrom
  unfold text
  rw [h]
  dsimp only
  split
  case isTrue hlong =>
    refine .shortened _ _ _ ?_ hlong hlongest fun start hstart => hrun.first start ?_
    · rw [← hwhole]
      exact eq_append_of_zerosFrom ip.groups _
    · exact Nat.lt_of_lt_of_le hstart (List.length_take_le _ _)
  case isFalse hshort => exact .whole fun start => (hlongest start).trans (Nat.not_lt.mp hshort)

/-- Of two runs of equal length the first is left out. -/
example : text ⟨[1, 0, 0, 2, 0, 0, 3, 4], rfl⟩ = "1::2:0:0:3:4".toList := by decide

/-- **An address that maps an IPv4 address** ends with its four bytes. -/
theorem groups_of_mapped? {ip : Ipv6} {inner : Ipv4} (h : ip.mapped? = some inner) :
    ip.groups = List.replicate 5 0
      ++ [0xFFFF, groupOfBytes inner.a inner.b, groupOfBytes inner.c inner.d] := by
  unfold mapped? at h
  split at h
  case h_1 high low hgroups =>
    obtain rfl := Option.some.inj h
    show ip.groups = List.replicate 5 0
      ++ [0xFFFF, groupOfBytes (bytesOfGroup high).1 (bytesOfGroup high).2,
        groupOfBytes (bytesOfGroup low).1 (bytesOfGroup low).2]
    rw [groupOfBytes_bytesOfGroup, groupOfBytes_bytesOfGroup]
    exact hgroups
  case h_2 => cases h

end Ipv6

/-! ## Reading from the front -/

namespace AddressText

open Ipv6 (groupText groupsText)

section Parts

variable {rest : List Char}

/-- **A byte is read back** where no digit follows it. -/
theorem readByte_decimal_append (byte : UInt8) (h : ∀ c ∈ rest.head?, c.isDigit = false) :
    readByte (decimal byte.toNat ++ rest) = some (byte, rest) := by
  have hlt := byte.toNat_lt
  obtain ⟨htake, hdrop⟩ :=
    takeWhile_append_of_head? (fun _ => isDigit_of_mem_decimal (n := byte.toNat)) h
  have hlength : (decimal byte.toNat).length ≤ 3 :=
    (Nat.length_toDigits_le_iff (by decide) (by decide)).mpr (by omega)
  have hzero : ¬((decimal byte.toNat).head? = some '0' ∧ 1 < (decimal byte.toNat).length) := by
    rintro ⟨hhead, hlong⟩
    rcases Nat.eq_zero_or_pos byte.toNat with hnone | hpos
    · rw [hnone] at hlong
      exact absurd hlong (by decide)
    · obtain ⟨digits, hdigits⟩ := List.head?_eq_some_iff.mp hhead
      exact decimal_ne_zero_cons hpos digits hdigits
  unfold readByte
  simp only [htake, hdrop, ofDecimal_decimal, UInt8.ofNat_toNat]
  refine if_neg ?_
  rintro (hnil | hlong | hlead | hlarge)
  · exact decimal_ne_nil _ hnil
  · omega
  · exact hzero hlead
  · omega

/-- **An IPv4 address is read back** where no digit follows it. -/
theorem readV4_text_append (ip : Ipv4) (h : ∀ c ∈ rest.head?, c.isDigit = false) :
    readV4 (ip.text ++ rest) = some (ip, rest) := by
  have hbyte : ∀ (byte : UInt8) (s : List Char),
      readByte (decimal byte.toNat ++ '.' :: s) = some (byte, '.' :: s) := by
    intro byte s
    refine readByte_decimal_append byte fun c hc => ?_
    obtain rfl := Option.some.inj hc
    rfl
  have hform : ip.text ++ rest = decimal ip.a.toNat ++ '.' :: (decimal ip.b.toNat ++ '.' ::
      (decimal ip.c.toNat ++ '.' :: (decimal ip.d.toNat ++ rest))) := by
    simp only [Ipv4.text, List.append_assoc, List.cons_append]
  have hpoint : ∀ s : List Char, expect '.' ('.' :: s) = some s := fun _ => rfl
  rw [hform]
  unfold readV4
  simp only [hbyte, hpoint, readByte_decimal_append ip.d h, Option.bind_eq_bind, Option.bind_some]
  rfl

theorem readV4_text (ip : Ipv4) : readV4 ip.text = some (ip, []) := by
  have hread : readV4 (ip.text ++ []) = some (ip, []) :=
    readV4_text_append ip fun c hc => nomatch hc
  rwa [List.append_nil] at hread

/-- **A group is read back** where no hexadecimal digit follows it. -/
theorem readGroup_groupText_append (group : UInt16) (h : ∀ c ∈ rest.head?, isHexDigit c = false) :
    readGroup (groupText group ++ rest) = some (group, rest) := by
  have hlt := group.toNat_lt
  obtain ⟨htake, hdrop⟩ :=
    takeWhile_append_of_head? (fun _ => isHexDigit_of_mem_hexadecimal (n := group.toNat)) h
  have hlength : (hexadecimal group.toNat).length ≤ 4 :=
    (Nat.length_toDigits_le_iff (by decide) (by decide)).mpr (by omega)
  unfold readGroup groupText
  simp only [htake, hdrop, ofHexadecimal_hexadecimal, UInt16.ofNat_toNat]
  refine if_neg ?_
  rintro (hnil | hlong)
  · exact Nat.toDigits_ne_nil hnil
  · omega

/-- No IPv4 address begins with something else than a point behind its first digits. -/
theorem readV4_eq_none {s : List Char} (h : '.' ∉ (s.dropWhile Char.isDigit).head?) :
    readV4 s = none := by
  have hpoint : expect '.' (s.dropWhile Char.isDigit) = none := by
    cases hs : s.dropWhile Char.isDigit with
    | nil => rfl
    | cons c t =>
      rw [hs] at h
      refine if_neg ?_
      rintro rfl
      exact h rfl
  unfold readV4 readByte
  dsimp only
  split
  · rfl
  · simp only [Option.bind_eq_bind, Option.bind_some, hpoint, Option.bind_none]

/-- **A group is not the beginning of an IPv4 address**, also where it is made of decimal digits:
a colon follows it, or nothing. -/
theorem readV4_groupText_append (group : UInt16) (h : ∀ c ∈ rest.head?, c = ':') :
    readV4 (groupText group ++ rest) = none := by
  have hdigits : ∀ c ∈ groupText group, isHexDigit c = true :=
    fun _ => isHexDigit_of_mem_hexadecimal
  apply readV4_eq_none
  -- Behind the decimal digits in front stands a letter of the group, if it has one, and else what
  -- follows the group.
  generalize groupText group = digits at hdigits
  induction digits with
  | nil =>
    cases rest with
    | nil => exact fun hc => nomatch hc
    | cons c s =>
      obtain rfl := h c rfl
      exact fun hc => nomatch hc
  | cons d digits ih =>
    rw [List.cons_append, List.dropWhile_cons]
    split
    · exact ih fun c hc => hdigits c (List.mem_cons_of_mem d hc)
    · intro hc
      obtain rfl := Option.some.inj hc
      exact absurd (hdigits '.' List.mem_cons_self) (by decide)

end Parts

/-! ## Runs of groups -/

section Runs

variable {room : Nat} {first : Bool} {s t rest : List Char}

/-- **A group is read in front of the groups behind it.** -/
theorem readGroups_groupText {group : UInt16}
    (hs : separated first s = some (groupText group ++ rest)) (h : ∀ c ∈ rest.head?, c = ':') :
    readGroups (room + 1) first s
      = ⟨group :: (readGroups room false rest).groups, (readGroups room false rest).endsInV4,
        (readGroups room false rest).rest⟩ := by
  have hhex : ∀ c ∈ rest.head?, isHexDigit c = false := by
    intro c hc
    rw [h c hc]
    rfl
  rw [readGroups, hs]
  simp only [Option.bind_some, readV4_groupText_append group h,
    readGroup_groupText_append group hhex, ite_self]

/-- An IPv4 address that is read is two groups, and the last of them. -/
theorem readGroups_of_v4 {ip : Ipv4} (hs : separated first s = some t)
    (hv4 : readV4 t = some (ip, rest)) :
    readGroups (room + 2) first s
      = ⟨[groupOfBytes ip.a ip.b, groupOfBytes ip.c ip.d], true, rest⟩ := by
  rw [readGroups, hs, if_neg (Nat.succ_ne_zero room), Option.bind_some, hv4]

/-- **What may stand behind a run of groups**: nothing, or the two colons. -/
inductive EndsRun : List Char → Prop
  | nothing : EndsRun []
  | colons (s : List Char) : EndsRun (':' :: ':' :: s)

/-- No more groups are read there. -/
theorem readGroups_of_endsRun (h : EndsRun rest) (room : Nat) (first : Bool) :
    readGroups room first rest = ⟨[], false, rest⟩ := by
  have hnone : (separated first rest).bind readV4 = none
      ∧ (separated first rest).bind readGroup = none := by
    cases h <;> cases first <;> exact ⟨rfl, rfl⟩
  cases room with
  | zero => rfl
  | succ room =>
    rw [readGroups, hnone.1, hnone.2]
    simp only [ite_self]

/-- **The text of a run of groups**, with a colon in front of each but the first of all. -/
def runText : (first : Bool) → List UInt16 → List Char
  | _, [] => []
  | first, group :: groups =>
    (if first then [] else [':']) ++ (groupText group ++ runText false groups)

/-- Groups with a colon between each two are such a run. -/
theorem groupsText_eq_runText (groups : List UInt16) : groupsText groups = runText true groups := by
  induction groups with
  | nil => rfl
  | cons group groups ih =>
    cases groups with
    | nil =>
      rw [groupsText, List.map_singleton, List.intercalate_singleton]
      exact (List.append_nil _).symm
    | cons next groups =>
      have hbetween : groupsText (group :: next :: groups)
          = groupText group ++ [':'] ++ groupsText (next :: groups) :=
        List.intercalate_cons_cons
      rw [hbetween, ih, List.append_assoc]
      rfl

/-- Behind a group of a run stands a colon, or nothing. -/
theorem eq_colon_of_mem_head? (h : EndsRun rest) (groups : List UInt16) :
    ∀ c ∈ (runText false groups ++ rest).head?, c = ':' := by
  intro c hc
  cases groups with
  | nil =>
    cases h with
    | nothing => cases hc
    | colons s => exact (Option.some.inj hc).symm
  | cons group groups => exact (Option.some.inj hc).symm

/-- **A run of groups is read back**, where there is room for all of it. -/
theorem readGroups_runText_append {groups : List UInt16} (hroom : groups.length ≤ room)
    (hrest : EndsRun rest) (first : Bool) :
    readGroups room first (runText first groups ++ rest) = ⟨groups, false, rest⟩ := by
  induction groups generalizing room first with
  | nil => exact readGroups_of_endsRun hrest room first
  | cons group groups ih =>
    obtain ⟨room, rfl⟩ := Nat.exists_eq_add_one_of_ne_zero (Nat.ne_zero_of_lt hroom)
    have hseparated : separated first (runText first (group :: groups) ++ rest)
        = some (groupText group ++ (runText false groups ++ rest)) := by
      rw [runText, List.append_assoc, List.append_assoc]
      cases first <;> rfl
    rw [readGroups_groupText hseparated (eq_colon_of_mem_head? hrest groups),
      ih (Nat.le_of_succ_le_succ hroom)]

/-- A run of groups at the end of a text is all that is left of it. -/
theorem readGroups_groupsText {groups : List UInt16} (hroom : groups.length ≤ room) :
    readGroups room true (groupsText groups) = ⟨groups, false, []⟩ := by
  have hread := readGroups_runText_append hroom .nothing true
  rwa [List.append_nil, ← groupsText_eq_runText] at hread

end Runs

/-! ## IPv6 addresses -/

/-- **Two colons stand for the groups that are missing**, if some are. -/
theorem readV6_of_colons {front : List UInt16} {s : List Char} {tail : Groups}
    (hfront : front.length < 8) (htail : readGroups (7 - front.length) true s = tail) :
    readV6 (runText true front ++ ':' :: ':' :: s)
      = (Ipv6.ofGroups? (front ++ List.replicate (8 - front.length - tail.groups.length) 0
        ++ tail.groups)).map (·, tail.rest) := by
  have hhead := readGroups_runText_append (Nat.le_of_lt hfront) (.colons s) true
  unfold readV6
  simp only [hhead, Ipv6.ofGroups?_eq_none (Nat.ne_of_lt hfront), htail, Bool.false_eq_true,
    if_false]

/-- **An address is read from its recommended form.** -/
theorem readV6_of_shortForm {ip : Ipv6} {text : List Char} (h : Ipv6.ShortForm ip.groups text) :
    readV6 text = some (ip, []) := by
  have hlength := ip.length_groups
  cases h with
  | whole _ =>
    unfold readV6
    simp only [readGroups_groupsText (Nat.le_of_eq hlength), Ipv6.ofGroups?_groups]
  | shortened front back count hgroups hcount _ _ =>
    rw [hgroups, List.length_append, List.length_append, List.length_replicate] at hlength
    have htail : readGroups (7 - front.length) true (groupsText back) = ⟨back, false, []⟩ :=
      readGroups_groupsText (by omega)
    -- The text has lost the count, and it comes back as what is missing from eight.
    have hmissing : 8 - front.length - back.length = count := by omega
    have htext : groupsText front ++ "::".toList ++ groupsText back
        = runText true front ++ ':' :: ':' :: groupsText back := by
      rw [groupsText_eq_runText front, List.append_assoc]
      rfl
    rw [htext, readV6_of_colons (by omega) htail, hmissing, ← hgroups, Ipv6.ofGroups?_groups,
      Option.map_some]

/-- **An address that maps an IPv4 address is read back.** The five zero groups in front are left
out, and the last two groups are the IPv4 address. -/
theorem readV6_of_mapped {ip : Ipv6} {inner : Ipv4} (h : ip.mapped? = some inner) :
    readV6 ("::ffff:".toList ++ inner.text) = some (ip, []) := by
  have hlast : readGroups 6 false (':' :: inner.text)
      = ⟨[groupOfBytes inner.a inner.b, groupOfBytes inner.c inner.d], true, []⟩ :=
    readGroups_of_v4 rfl (readV4_text inner)
  have hcolon : ∀ c ∈ (':' :: inner.text).head?, c = ':' := fun c hc => (Option.some.inj hc).symm
  have htail : readGroups 7 true (groupText 0xFFFF ++ ':' :: inner.text)
      = ⟨[0xFFFF, groupOfBytes inner.a inner.b, groupOfBytes inner.c inner.d], true, []⟩ := by
    have hseparated : separated true (groupText 0xFFFF ++ ':' :: inner.text)
        = some (groupText 0xFFFF ++ ':' :: inner.text) := rfl
    rw [readGroups_groupText hseparated hcolon, hlast]
  have htext : "::ffff:".toList ++ inner.text
      = runText true [] ++ ':' :: ':' :: (groupText 0xFFFF ++ ':' :: inner.text) := rfl
  have hgroups : [] ++ List.replicate (8 - 0 - 3) 0
      ++ [0xFFFF, groupOfBytes inner.a inner.b, groupOfBytes inner.c inner.d] = ip.groups :=
    (Ipv6.groups_of_mapped? h).symm
  have hfront : ([] : List UInt16).length < 8 := by decide
  rw [htext, readV6_of_colons hfront htail]
  show (Ipv6.ofGroups? ([] ++ List.replicate (8 - 0 - 3) 0
    ++ [0xFFFF, groupOfBytes inner.a inner.b, groupOfBytes inner.c inner.d])).map _ = _
  rw [hgroups, Ipv6.ofGroups?_groups, Option.map_some]

/-- **The text of an IPv6 address is read as that address.** -/
theorem readV6_text (ip : Ipv6) : readV6 ip.text = some (ip, []) := by
  cases h : ip.mapped? with
  | some inner =>
    have htext : ip.text = "::ffff:".toList ++ inner.text := by
      unfold Ipv6.text
      rw [h]
    rw [htext, readV6_of_mapped h]
  | none => exact readV6_of_shortForm (Ipv6.shortForm_text h)

/-- A run of groups begins, up to the two colons, the text of every IPv6 address. -/
theorem exists_text_eq_runText (ip : Ipv6) :
    ∃ groups rest, ip.text = runText true groups ++ rest ∧ EndsRun rest := by
  cases h : ip.mapped? with
  | some inner =>
    refine ⟨[], _, ?_, .colons ("ffff:".toList ++ inner.text)⟩
    unfold Ipv6.text
    rw [h]
    rfl
  | none =>
    have hform := Ipv6.shortForm_text h
    generalize ip.text = text at hform ⊢
    cases hform with
    | whole _ =>
      refine ⟨ip.groups, [], ?_, .nothing⟩
      rw [List.append_nil, groupsText_eq_runText]
    | shortened front back count _ _ _ _ =>
      refine ⟨front, _, ?_, .colons (groupsText back)⟩
      rw [groupsText_eq_runText front, List.append_assoc]
      rfl

/-- **The text of an IPv6 address is not the beginning of an IPv4 address.** -/
theorem readV4_text_eq_none (ip : Ipv6) : readV4 ip.text = none := by
  obtain ⟨groups, rest, htext, hrest⟩ := exists_text_eq_runText ip
  rw [htext]
  cases groups with
  | nil => cases hrest <;> rfl
  | cons group groups =>
    show readV4 ((groupText group ++ runText false groups) ++ rest) = none
    rw [List.append_assoc]
    exact readV4_groupText_append group (eq_colon_of_mem_head? hrest groups)

end AddressText

/-! ## Addresses of both families -/

namespace IpAddress

/-- **An address is read back from its text**, as an address of its own family. -/
theorem parse?_text (ip : IpAddress) : parse? ip.text = some ip := by
  unfold parse? text
  cases ip with
  | v4 ip =>
    dsimp only
    rw [AddressText.readV4_text ip]
    rfl
  | v6 ip =>
    dsimp only
    rw [AddressText.readV4_text_eq_none ip, AddressText.readV6_text ip]
    rfl

/-- An address that maps an IPv4 address is read as what it is. -/
example : parse? "::ffff:10.0.0.3".toList
    = some (.v6 ⟨[0, 0, 0, 0, 0, 0xFFFF, 0x0A00, 3], rfl⟩) := by
  decide

/-- **Addresses with the same text are the same.** -/
theorem text_inj {ip ip' : IpAddress} : ip.text = ip'.text ↔ ip = ip' := by
  refine ⟨fun h => Option.some.inj ?_, fun h => h ▸ rfl⟩
  rw [← parse?_text ip, h, parse?_text ip']

end IpAddress

end PeerTelemetry
