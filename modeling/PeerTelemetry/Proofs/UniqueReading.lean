import Mathlib.Data.List.Forall2
import PeerTelemetry.Proofs.LineParts
import PeerTelemetry.Proofs.OperatorStream

/-!
# What the operator reads is what was shown

The operator sees one long text, of entries of two kinds and of any length, with no mark where
one ends and the next begins. The text can be read in one way only:
**two rows of entries that read the same were the same**, as far as an entry is
shown at all (`Entry.unique_reading`). An entry is not shown in full. Of the
address of a sender only its text is, and of a round-trip time no more than three decimals;
`Entry.Alike` is what is left.

The text falls apart in three steps. Lines end where their ends are, for no line has one inside
(`lines_eq_of_text_eq`). An entry ends with its lines: a report at the first empty line, since
the line of a peer never is, and any other entry at its first; and the two begin
differently, because no address begins like the word behind the bracket of a
report (`Entry.alike_of_lines_append_eq`). Within a line each part ends where a character
comes that the part cannot have (`append_cons_inj_of_notMem`).
-/

namespace PeerTelemetry

/-! ## Parts between marks -/

/-- **A part ends at the first mark** if the mark is nowhere in it. -/
theorem append_cons_inj_of_notMem {α : Type} {mark : α} {a b rest rest' : List α}
    (ha : mark ∉ a) (hb : mark ∉ b) (h : a ++ mark :: rest = b ++ mark :: rest') :
    a = b ∧ rest = rest' := by
  induction a generalizing b with
  | nil =>
    cases b with
    | nil => exact ⟨rfl, (List.cons.inj h).2⟩
    | cons d b => exact absurd ((List.cons.inj h).1 ▸ List.mem_cons_self) hb
  | cons c a ih =>
    cases b with
    | nil => exact absurd ((List.cons.inj h).1 ▸ List.mem_cons_self) ha
    | cons d b =>
      obtain ⟨rfl, htail⟩ := List.cons.inj h
      obtain ⟨rfl, hrest⟩ := ih (fun hc => ha (List.mem_cons_of_mem _ hc))
        (fun hc => hb (List.mem_cons_of_mem _ hc)) htail
      exact ⟨rfl, hrest⟩

/-- **Lines can be told apart** in a text of lines that have no end of a line in them. -/
theorem lines_eq_of_text_eq {lines lines' : List (List Char)} (hlines : ∀ l ∈ lines, '\n' ∉ l)
    (hlines' : ∀ l ∈ lines', '\n' ∉ l)
    (h : lines.flatMap (· ++ ['\n']) = lines'.flatMap (· ++ ['\n'])) : lines = lines' := by
  induction lines generalizing lines' with
  | nil =>
    cases lines' with
    | nil => rfl
    | cons l' lines' => simp at h
  | cons l lines ih =>
    cases lines' with
    | nil => simp at h
    | cons l' lines' =>
      simp only [List.flatMap_cons, List.append_assoc, List.singleton_append] at h
      obtain ⟨rfl, hrest⟩ := append_cons_inj_of_notMem (hlines l List.mem_cons_self)
        (hlines' l' List.mem_cons_self) h
      rw [ih (fun k hk => hlines k (List.mem_cons_of_mem _ hk))
        (fun k hk => hlines' k (List.mem_cons_of_mem _ hk)) hrest]

/-- Texts of the same bytes are the same. -/
theorem utf8_injective {a b : List Char} (h : utf8 a = utf8 b) : a = b := by
  have hbytes : a.utf8Encode = b.utf8Encode := congrArg List.toByteArray h
  have hread := congrArg ByteArray.utf8Decode? hbytes
  rw [List.utf8Decode?_utf8Encode, List.utf8Decode?_utf8Encode] at hread
  exact congrArg Array.toList (Option.some.inj hread)

/-! ## The line of a peer -/

namespace PeerStat

/-- **Records that are shown alike**: the same id, the same losses, and round-trip times that
are the same to three decimals. -/
structure Alike (p q : PeerStat) : Prop where
  id_eq : p.id = q.id
  losses_eq : p.losses = q.losses
  rtt_text_eq : p.rtt.text = q.rtt.text

theorem line_eq (p : PeerStat) :
    p.line = "  peer ".toList ++ ((decimal p.id.toNat).leftpad 2 ' ' ++ ':' ::
      (" avg ".toList ++ (p.rtt.text ++ ',' :: (" loss ".toList ++ decimal p.losses.toNat)))) := by
  have havg : ": avg ".toList = ':' :: " avg ".toList := rfl
  have hloss : ", loss ".toList = ',' :: " loss ".toList := rfl
  unfold line
  simp only [havg, hloss, List.append_assoc, List.cons_append]

/-- **The line of a peer shows its record** and no more of it than is shown alike. -/
theorem line_eq_line_iff {p q : PeerStat} : p.line = q.line ↔ p.Alike q := by
  have hid : ∀ n : Nat, ':' ∉ (decimal n).leftpad 2 ' ' :=
    notMem_leftpad_decimal (by decide) (by decide) 2
  constructor
  · intro h
    rw [line_eq, line_eq, List.append_right_inj] at h
    obtain ⟨hids, hbehind⟩ := append_cons_inj_of_notMem (hid _) (hid _) h
    rw [List.append_right_inj] at hbehind
    obtain ⟨hrtt, hlosses⟩ := append_cons_inj_of_notMem (Rtt.notMem_text (by decide) _)
      (Rtt.notMem_text (by decide) _) hbehind
    rw [List.append_right_inj] at hlosses
    exact ⟨UInt32.toNat_inj.mp (leftpad_decimal_injective (by decide) hids),
      UInt32.toNat_inj.mp (decimal_injective hlosses), hrtt⟩
  · rintro ⟨hid, hlosses, hrtt⟩
    unfold line
    rw [hid, hlosses, hrtt]

theorem line_ne_nil (p : PeerStat) : p.line ≠ [] := by
  rw [line_eq]
  exact List.append_ne_nil_of_left_ne_nil (by decide) _

/-- No line of a peer is empty. -/
theorem nil_notMem_map_line (peers : List PeerStat) : [] ∉ peers.map line := by
  intro h
  obtain ⟨p, -, hp⟩ := List.mem_map.mp h
  exact p.line_ne_nil hp

/-- Rows of lines are the same when the records are shown alike, one by one. -/
theorem map_line_eq_iff {peers peers' : List PeerStat} :
    peers.map line = peers'.map line ↔ List.Forall₂ Alike peers peers' := by
  have halike : (fun p q : PeerStat => p.line = q.line) = Alike :=
    funext fun p => funext fun q => propext line_eq_line_iff
  rw [← List.forall₂_eq_eq_eq, List.forall₂_map_left_iff, List.forall₂_map_right_iff, halike]

/-- There is no end of a line in the line of a peer. -/
theorem newline_notMem_line (p : PeerStat) : '\n' ∉ p.line := by
  rw [line_eq]
  simp only [List.mem_append, List.mem_cons, not_or]
  exact ⟨by decide, notMem_leftpad_decimal (by decide) (by decide) 2 _, by decide, by decide,
    Rtt.notMem_text (by decide) _, by decide, by decide, notMem_decimal (by decide) _⟩

end PeerStat

/-! ## The first line of an entry -/

theorem Report.headline_eq (r : Report) (sender : IpAddress) :
    r.headline sender = "[seq=".toList ++ (decimal r.sequence.toNat ++ ']' ::
      (" from node ".toList ++ (decimal r.source.toNat ++ ' ' ::
        ("(".toList ++ (sender.text ++ ')' :: []))))) := by
  have hnode : "] from node ".toList = ']' :: " from node ".toList := rfl
  have hopen : " (".toList = ' ' :: "(".toList := rfl
  have hclose : ")".toList = [')'] := rfl
  unfold headline
  simp only [hnode, hopen, hclose, List.append_assoc, List.cons_append]

theorem Report.headline_ne_nil (r : Report) (sender : IpAddress) : r.headline sender ≠ [] := by
  rw [headline_eq]
  exact List.append_ne_nil_of_left_ne_nil (by decide) _

theorem ignoredLine_eq (sender : IpAddress) (length : Nat) :
    ignoredLine sender length = "[".toList ++ (sender.text ++ ']' ::
      (" Ignored packet (len=".toList ++ (decimal length ++ ')' :: []))) := by
  have hword : "] Ignored packet (len=".toList = ']' :: " Ignored packet (len=".toList := rfl
  have hclose : ")".toList = [')'] := rfl
  unfold ignoredLine
  simp only [hword, hclose, List.append_assoc, List.cons_append]

/-- **The first line of a report shows** its sequence number, its source and the
text of the address it came from. -/
theorem Report.headline_eq_headline_iff {r r' : Report} {sender sender' : IpAddress} :
    r.headline sender = r'.headline sender'
      ↔ r.sequence = r'.sequence ∧ r.source = r'.source ∧ sender.text = sender'.text := by
  constructor
  · intro h
    rw [headline_eq, headline_eq, List.append_right_inj] at h
    obtain ⟨hsequence, h⟩ := append_cons_inj_of_notMem (notMem_decimal (by decide) _)
      (notMem_decimal (by decide) _) h
    rw [List.append_right_inj] at h
    obtain ⟨hsource, h⟩ := append_cons_inj_of_notMem (notMem_decimal (by decide) _)
      (notMem_decimal (by decide) _) h
    rw [List.append_right_inj] at h
    obtain ⟨hsender, -⟩ := append_cons_inj_of_notMem (IpAddress.notMem_text (by decide) _)
      (IpAddress.notMem_text (by decide) _) h
    exact ⟨UInt64.toNat_inj.mp (decimal_injective hsequence),
      UInt32.toNat_inj.mp (decimal_injective hsource), hsender⟩
  · rintro ⟨hsequence, hsource, hsender⟩
    unfold headline
    rw [hsequence, hsource, hsender]

/-- **The line of an ignored datagram shows** its length and the text of the address it
came from. -/
theorem ignoredLine_eq_ignoredLine_iff {sender sender' : IpAddress} {m n : Nat} :
    ignoredLine sender m = ignoredLine sender' n ↔ m = n ∧ sender.text = sender'.text := by
  constructor
  · intro h
    rw [ignoredLine_eq, ignoredLine_eq, List.append_right_inj] at h
    obtain ⟨hsender, h⟩ := append_cons_inj_of_notMem (IpAddress.notMem_text (by decide) _)
      (IpAddress.notMem_text (by decide) _) h
    rw [List.append_right_inj] at h
    obtain ⟨hlength, -⟩ := append_cons_inj_of_notMem (notMem_decimal (by decide) _)
      (notMem_decimal (by decide) _) h
    exact ⟨decimal_injective hlength, hsender⟩
  · rintro ⟨rfl, hsender⟩
    unfold ignoredLine
    rw [hsender]

/-- **No address begins like the first line of a report** behind its bracket. -/
theorem Report.headline_ne_ignoredLine (r : Report) (sender sender' : IpAddress) (length : Nat) :
    r.headline sender ≠ ignoredLine sender' length := by
  intro h
  have hseq : "[seq=".toList = "[".toList ++ 's' :: "eq=".toList := rfl
  rw [headline_eq, ignoredLine_eq, hseq, List.append_assoc, List.append_right_inj] at h
  cases htext : sender'.text with
  | nil => exact sender'.text_ne_nil htext
  | cons c text =>
    rw [htext] at h
    have hc : 's' = c := (List.cons.inj h).1
    have hmem : 's' ∈ sender'.text := by
      rw [htext, hc]
      exact List.mem_cons_self
    exact IpAddress.notMem_text (by decide) sender' hmem

/-- There is no end of a line in the first line of a report. -/
theorem Report.newline_notMem_headline (r : Report) (sender : IpAddress) :
    '\n' ∉ r.headline sender := by
  rw [headline_eq]
  simp only [List.mem_append, List.mem_cons, not_or]
  exact ⟨by decide, notMem_decimal (by decide) _, by decide, by decide,
    notMem_decimal (by decide) _, by decide, by decide, IpAddress.notMem_text (by decide) _,
    by decide, List.not_mem_nil⟩

/-- There is no end of a line in the line of an ignored datagram. -/
theorem newline_notMem_ignoredLine (sender : IpAddress) (length : Nat) :
    '\n' ∉ ignoredLine sender length := by
  rw [ignoredLine_eq]
  simp only [List.mem_append, List.mem_cons, not_or]
  exact ⟨by decide, IpAddress.notMem_text (by decide) _, by decide, by decide,
    notMem_decimal (by decide) _, by decide, List.not_mem_nil⟩

/-! ## Entries -/

namespace Entry

/-- **Entries that are shown alike.** They are of the same kind, and the addresses of their
senders have the same text. Of reports the numbers are the same and the peers are shown alike,
one by one; of ignored datagrams the lengths are the same. -/
inductive Alike : Entry → Entry → Prop
  | report {r r' : Report} {sender sender' : IpAddress} (sequence_eq : r.sequence = r'.sequence)
    (source_eq : r.source = r'.source) (sender_eq : sender.text = sender'.text)
    (peers : List.Forall₂ PeerStat.Alike r.peers r'.peers) :
    Alike (.report r sender) (.report r' sender')
  | ignored {length length' : Nat} {sender sender' : IpAddress} (length_eq : length = length')
    (sender_eq : sender.text = sender'.text) :
    Alike (.ignored length sender) (.ignored length' sender')

/-- Every entry has a first line. -/
theorem lines_ne_nil (e : Entry) : e.lines ≠ [] := by
  cases e <;> exact List.cons_ne_nil _ _

/-- **No line has the end of a line inside.** -/
theorem newline_notMem_of_mem_lines {e : Entry} {line : List Char} (h : line ∈ e.lines) :
    '\n' ∉ line := by
  cases e with
  | report r sender =>
    rcases List.mem_append.mp h with h | h
    · rcases List.mem_cons.mp h with rfl | h
      · exact r.newline_notMem_headline sender
      · obtain ⟨p, -, rfl⟩ := List.mem_map.mp h
        exact p.newline_notMem_line
    · rw [List.mem_singleton.mp h]
      exact List.not_mem_nil
  | ignored length sender =>
    rw [List.mem_singleton.mp h]
    exact newline_notMem_ignoredLine sender length

/-- Entries that are shown alike have the same lines. -/
theorem Alike.lines_eq {e f : Entry} (h : e.Alike f) : e.lines = f.lines := by
  cases h with
  | report hsequence hsource hsender hpeers =>
    simp only [lines, Report.lines]
    rw [Report.headline_eq_headline_iff.mpr ⟨hsequence, hsource, hsender⟩,
      PeerStat.map_line_eq_iff.mpr hpeers]
  | ignored hlength hsender =>
    simp only [lines]
    rw [ignoredLine_eq_ignoredLine_iff.mpr ⟨hlength, hsender⟩]

/-- **An entry ends with its lines.** Two entries whose lines begin the same two rows of lines
are shown alike, and what follows them is the same. -/
theorem alike_of_lines_append_eq {e f : Entry} {rest rest' : List (List Char)}
    (h : e.lines ++ rest = f.lines ++ rest') : e.Alike f ∧ rest = rest' := by
  have hform : ∀ (r : Report) (sender : IpAddress) (rest : List (List Char)),
      (Entry.report r sender).lines ++ rest
        = r.headline sender :: (r.peers.map PeerStat.line ++ [] :: rest) := by
    intro r sender rest
    simp only [lines, Report.lines, List.cons_append, List.append_assoc, List.nil_append]
  cases e with
  | report r sender =>
    cases f with
    | report r' sender' =>
      rw [hform, hform] at h
      obtain ⟨hhead, htail⟩ := List.cons.inj h
      -- The empty line at the end of a report is a mark among its lines.
      obtain ⟨hpeers, hrest⟩ := append_cons_inj_of_notMem (PeerStat.nil_notMem_map_line r.peers)
        (PeerStat.nil_notMem_map_line r'.peers) htail
      obtain ⟨hsequence, hsource, hsender⟩ := Report.headline_eq_headline_iff.mp hhead
      exact ⟨.report hsequence hsource hsender (PeerStat.map_line_eq_iff.mp hpeers), hrest⟩
    | ignored length' sender' =>
      rw [hform] at h
      exact absurd (List.cons.inj h).1 (r.headline_ne_ignoredLine sender sender' length')
  | ignored length sender =>
    cases f with
    | report r' sender' =>
      rw [hform] at h
      exact absurd (List.cons.inj h).1.symm (r'.headline_ne_ignoredLine sender' sender length)
    | ignored length' sender' =>
      obtain ⟨hline, hrest⟩ := List.cons.inj h
      obtain ⟨hlength, hsender⟩ := ignoredLine_eq_ignoredLine_iff.mp hline
      exact ⟨.ignored hlength hsender, hrest⟩

/-- **Rows of lines are read in one way**: they are the lines of entries that are shown
alike, one by one. -/
theorem flatMap_lines_eq_iff {es fs : List Entry} :
    es.flatMap lines = fs.flatMap lines ↔ List.Forall₂ Alike es fs := by
  constructor
  · intro h
    induction es generalizing fs with
    | nil =>
      cases fs with
      | nil => exact .nil
      | cons f fs => exact absurd (List.append_eq_nil_iff.mp h.symm).1 f.lines_ne_nil
    | cons e es ih =>
      cases fs with
      | nil => exact absurd (List.append_eq_nil_iff.mp h).1 e.lines_ne_nil
      | cons f fs =>
        obtain ⟨halike, hrest⟩ := alike_of_lines_append_eq h
        exact .cons halike (ih hrest)
  · intro h
    induction h with
    | nil => rfl
    | cons halike _ ih => rw [List.flatMap_cons, List.flatMap_cons, halike.lines_eq, ih]

/-- **What showing an entry writes**, on a stream of its own. -/
def shown (e : Entry) : List UInt8 := (e.show.runOn {}).2.written

/-- What is written of entries one after another is the bytes of all their lines. -/
theorem flatMap_shown (es : List Entry) :
    es.flatMap shown = utf8 ((es.flatMap lines).flatMap (· ++ ['\n'])) := by
  induction es with
  | nil => rfl
  | cons e es ih =>
    have he : e.shown = utf8 e.text := by
      unfold shown
      rw [runOn_show_of_unfailing e ⟨rfl, rfl⟩]
      rfl
    rw [List.flatMap_cons, List.flatMap_cons, List.flatMap_append, utf8_append, ih, he]
    rfl

/-- **What the operator reads is what was shown.**

Two rows of entries of which the same is written, one entry after another, are of the same length
and are shown alike, entry by entry; and entries that are shown alike are written alike. No line of
an entry has the end of a line inside, and the last line of a report is the only empty one. The
text of an address is never empty, and has hexadecimal digits, points and colons in it and
nothing else. -/
theorem unique_reading :
    (∀ es fs : List Entry, es.flatMap shown = fs.flatMap shown ↔ List.Forall₂ Alike es fs)
    ∧ (∀ e : Entry, ∀ line ∈ e.lines, '\n' ∉ line)
    ∧ (∀ (r : Report) (sender : IpAddress), ∃ front : List (List Char),
      (Entry.report r sender).lines = front ++ [[]] ∧ [] ∉ front)
    ∧ ∀ sender : IpAddress, sender.text ≠ []
      ∧ ∀ c ∈ sender.text, isHexDigit c = true ∨ c = '.' ∨ c = ':' := by
  refine ⟨fun es fs => ?_, fun e line => newline_notMem_of_mem_lines, fun r sender => ?_,
    fun sender => ⟨sender.text_ne_nil, fun c hc => ?_⟩⟩
  · rw [flatMap_shown, flatMap_shown, ← flatMap_lines_eq_iff]
    refine ⟨fun h => ?_, fun h => by rw [h]⟩
    have hends : ∀ entries : List Entry, ∀ line ∈ entries.flatMap lines, '\n' ∉ line := by
      intro entries line hline
      obtain ⟨e, -, hline⟩ := List.mem_flatMap.mp hline
      exact newline_notMem_of_mem_lines hline
    exact lines_eq_of_text_eq (hends es) (hends fs) (utf8_injective h)
  · refine ⟨r.headline sender :: r.peers.map PeerStat.line, rfl, fun hnil => ?_⟩
    rcases List.mem_cons.mp hnil with hnil | hnil
    · exact r.headline_ne_nil sender hnil.symm
    · exact PeerStat.nil_notMem_map_line r.peers hnil
  · simpa [isAddressChar, or_assoc] using IpAddress.isAddressChar_of_mem_text hc

/-- A report of one peer with some round-trip time. -/
def onePeer (rtt : Rtt) : Report := ⟨7, 42, [⟨1, rtt, 3⟩], by simp [maxPeers]⟩

/-- One of the addresses such a report may come from. -/
def privateAddress (last : UInt8) : IpAddress := .v4 ⟨10, 0, 0, last⟩

/-- A round-trip time that is not a number and one that was never measured are both shown as not
available, so that the same is written of two rows of entries. -/
theorem unique_reading_of_notAvailable :
    [report (onePeer ⟨0x7FC00001⟩) (privateAddress 3), ignored 3 (privateAddress 4)].flatMap shown
      = [report (onePeer Rtt.unknown) (privateAddress 3), ignored 3 (privateAddress 4)].flatMap
        shown
    ∧ (ignoredLine (privateAddress 4) 3 ∈ (ignored 3 (privateAddress 4)).lines
      ∧ '\n' ∉ ignoredLine (privateAddress 4) 3)
    ∧ '1' ∈ (privateAddress 4).text ∧ (isHexDigit '1' = true ∨ '1' = '.' ∨ '1' = ':') := by
  have hpeers : List.Forall₂ PeerStat.Alike
      (onePeer ⟨0x7FC00001⟩).peers (onePeer Rtt.unknown).peers :=
    .cons ⟨rfl, rfl, rfl⟩ .nil
  have hline : ignoredLine (privateAddress 4) 3 ∈ (ignored 3 (privateAddress 4)).lines :=
    List.mem_singleton_self _
  have hdigit : '1' ∈ (privateAddress 4).text := by decide
  exact ⟨(unique_reading.1 _ _).mpr
      (.cons (.report rfl rfl rfl hpeers) (.cons (.ignored rfl rfl) .nil)),
    ⟨hline, unique_reading.2.1 _ _ hline⟩,
    hdigit, (unique_reading.2.2.2 _).2 _ hdigit⟩

end Entry

end PeerTelemetry
