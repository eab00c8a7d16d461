import PeerTelemetry.Proofs.DocumentGrammar

/-!
# The form of a document

Whoever looks up a key in a table wants to know that it stands there once, and whoever takes an
integer from one that it has 64 bits. Neither can be told from the type of a table. Both hold of
**every table of every document**, at any depth (`Toml.Document.wellFormed`).

For integers that is said where values are. The keys of a table are checked when it is put together,
and a table is put together in pieces: what has to be seen is that no piece is added under a key
that is there, whichever way leads to the table (`Toml.AtPath.wellFormed`).
-/

namespace PeerTelemetry.Toml

/-! ## Well-formed values -/

/-- **A well-formed value**: the integers in it have 64 bits, and no table in it has a key
twice. -/
inductive Value.WellFormed : Value → Prop
  | string {text : String} : WellFormed (.string text)
  | integer {n : Int} : -0x8000000000000000 ≤ n → n < 0x8000000000000000 → WellFormed (.integer n)
  | float {bits : UInt64} : WellFormed (.float bits)
  | boolean {b : Bool} : WellFormed (.boolean b)
  | datetime {text : String} : WellFormed (.datetime text)
  | array {origin : Origin} {items : List Value} : (∀ v ∈ items, WellFormed v) →
    WellFormed (.array origin items)
  | table {origin : Origin} {entries : Entries} : (entries.map Prod.fst).Nodup →
    (∀ p ∈ entries, WellFormed p.2) → WellFormed (.table origin entries)

/-- **Well-formed entries**: those of a well-formed table. -/
structure Entries.WellFormed (entries : Entries) : Prop where
  nodup_keys : (entries.map Prod.fst).Nodup
  wellFormed_of_mem : ∀ p ∈ entries, p.2.WellFormed

theorem Entries.WellFormed.table {entries : Entries} (h : entries.WellFormed) (origin : Origin) :
    (Value.table origin entries).WellFormed :=
  .table h.nodup_keys h.wellFormed_of_mem

theorem Value.WellFormed.items {origin : Origin} {items : List Value}
    (h : (Value.array origin items).WellFormed) : ∀ v ∈ items, v.WellFormed := by
  cases h with
  | array hitems => exact hitems

theorem Value.WellFormed.entries {origin : Origin} {entries : Entries}
    (h : (Value.table origin entries).WellFormed) : Entries.WellFormed entries := by
  cases h with
  | table hnodup hvalues => exact ⟨hnodup, hvalues⟩

/-! ## Entries -/

namespace Entries

variable {entries : Entries} {key : String} {v : Value}

theorem WellFormed.nil : WellFormed [] := ⟨List.nodup_nil, List.forall_mem_nil _⟩

/-- A key cannot be looked up where it does not stand. -/
theorem lookup_eq_none_iff : entries.lookup key = none ↔ key ∉ entries.map Prod.fst := by
  rw [List.lookup_eq_none_iff]
  constructor
  · intro h hmem
    obtain ⟨p, hp, rfl⟩ := List.mem_map.mp hmem
    exact absurd (h p hp) (by simp)
  · exact fun h p hp => bne_iff_ne.mpr fun heq => h (heq ▸ List.mem_map_of_mem hp)

theorem lookup_erase (entries : Entries) (key : String) :
    (Entries.erase entries key).lookup key = none := by
  rw [lookup_eq_none_iff]
  intro hmem
  obtain ⟨p, hp, rfl⟩ := List.mem_map.mp hmem
  exact of_decide_eq_true (List.mem_filter.mp hp).2 rfl

theorem mem_of_lookup (h : entries.lookup key = some v) : (key, v) ∈ entries := by
  induction entries with
  | nil => cases h
  | cons p entries ih =>
    rw [List.lookup_cons] at h
    split at h
    · rename_i heq
      cases h
      rw [eq_of_beq heq]
      exact List.mem_cons_self
    · exact List.mem_cons_of_mem p (ih h)

/-- Where no key stands twice, every entry can be looked up. -/
theorem lookup_of_mem (h : (entries.map Prod.fst).Nodup) (hmem : (key, v) ∈ entries) :
    entries.lookup key = some v := by
  induction entries with
  | nil => cases hmem
  | cons p entries ih =>
    obtain ⟨hkey, hkeys⟩ := List.nodup_cons.mp h
    rw [List.lookup_cons]
    rcases List.mem_cons.mp hmem with rfl | hmem
    · rw [beq_self_eq_true]
    · have hne : key ≠ p.1 := fun heq => hkey (heq ▸ List.mem_map_of_mem hmem)
      rw [beq_false_of_ne hne]
      exact ih hkeys hmem

namespace WellFormed

theorem append (h : entries.WellFormed) (hkey : entries.lookup key = none) (hv : v.WellFormed) :
    (Entries.append entries key v).WellFormed := by
  constructor
  · rw [Entries.append, List.map_append, List.nodup_append]
    refine ⟨h.nodup_keys, List.pairwise_singleton _ _, fun k hk k' hk' heq => ?_⟩
    obtain rfl : k' = key := List.mem_singleton.mp hk'
    exact lookup_eq_none_iff.mp hkey (heq ▸ hk)
  · intro p hp
    rcases List.mem_append.mp hp with hp | hp
    · exact h.wellFormed_of_mem p hp
    · rw [List.mem_singleton.mp hp]
      exact hv

/-- Other values under the same keys. -/
theorem replace (h : entries.WellFormed) (hv : v.WellFormed) :
    (Entries.replace entries key v).WellFormed := by
  constructor
  · have hkeys : (Entries.replace entries key v).map Prod.fst = entries.map Prod.fst := by
      rw [Entries.replace, List.map_map]
      refine List.map_congr_left fun p _ => ?_
      show (if p.1 = key then (p.1, v) else (p.1, p.2)).1 = p.1
      split <;> rfl
    rw [hkeys]
    exact h.nodup_keys
  · intro p hp
    obtain ⟨q, hq, rfl⟩ := List.mem_map.mp hp
    show (if q.1 = key then (q.1, v) else (q.1, q.2)).2.WellFormed
    split
    · exact hv
    · exact h.wellFormed_of_mem q hq

theorem erase (h : entries.WellFormed) : (Entries.erase entries key).WellFormed where
  nodup_keys := h.nodup_keys.sublist (List.filter_sublist.map Prod.fst)
  wellFormed_of_mem p hp := h.wellFormed_of_mem p (List.mem_filter.mp hp).1

theorem lookup (h : entries.WellFormed) (hv : entries.lookup key = some v) : v.WellFormed :=
  h.wellFormed_of_mem _ (mem_of_lookup hv)

theorem lookup_eq_some_iff (h : entries.WellFormed) :
    entries.lookup key = some v ↔ (key, v) ∈ entries :=
  ⟨mem_of_lookup, lookup_of_mem h.nodup_keys⟩

end WellFormed

end Entries

/-! ## Tables that are put together -/

variable {passage : Passage} {change : Origin → Entries → Entries → Prop} {origin : Origin}
  {entries changed : Entries}

/-- **A change that keeps tables well formed.** -/
def KeepsForm (change : Origin → Entries → Entries → Prop) : Prop :=
  ∀ origin entries changed, Entries.WellFormed entries → change origin entries changed →
    Entries.WellFormed changed

/-- One table more makes a list of well-formed values longer. -/
theorem wellFormed_append_table {items : List Value} {element : Entries}
    (hitems : ∀ v ∈ items, v.WellFormed) (helement : element.WellFormed) :
    (Value.array .heading (items ++ [.table origin element])).WellFormed := by
  refine .array fun v hv => ?_
  rcases List.mem_append.mp hv with hv | hv
  · exact hitems v hv
  · rw [List.mem_singleton.mp hv]
    exact helement.table _

/-- **What keeps the form of a table keeps it at the end of a path**: on the way, keys are added
that are not there, and values are replaced. -/
theorem AtPath.wellFormed (hchange : KeepsForm change) {path : List String}
    (h : AtPath passage change path origin entries changed) (hentries : entries.WellFormed) :
    changed.WellFormed := by
  induction h with
  | here h => exact hchange _ _ _ hentries h
  | made hlookup _ _ ih => exact hentries.append hlookup ((ih .nil).table _)
  | table hlookup _ _ ih =>
    exact hentries.replace ((ih (hentries.lookup hlookup).entries).table _)
  | element hlookup _ ih =>
    obtain ⟨hitems, hlast⟩ := List.forall_mem_append.mp (hentries.lookup hlookup).items
    have hinner := ih (hlast _ (List.mem_singleton_self _)).entries
    exact hentries.replace (wellFormed_append_table hitems hinner)

/-- Changes in turn keep what each of them keeps. -/
theorem InTurn.holds {α : Type} {P : Entries → Prop} {change : α → Entries → Entries → Prop}
    {row : List α} (h : InTurn change row entries changed)
    (hchange : ∀ a ∈ row, ∀ entries changed, P entries → change a entries changed → P changed)
    (hentries : P entries) : P changed := by
  induction h with
  | nil => exact hentries
  | cons hnext _ ih =>
    exact ih (fun b hb => hchange b (List.mem_cons_of_mem _ hb))
      (hchange _ List.mem_cons_self _ _ hentries hnext)

theorem keepsForm_assignment {a : Assignment} (ha : a.value.WellFormed) : KeepsForm a.Adds := by
  rintro origin entries _ hentries ⟨-, hlookup⟩
  exact hentries.append hlookup ha

theorem AddInTurn.wellFormed {assignments : List Assignment}
    (h : AddInTurn origin assignments entries changed)
    (ha : ∀ a ∈ assignments, a.value.WellFormed) (hentries : entries.WellFormed) :
    changed.WellFormed :=
  InTurn.holds h (fun a hmem _ _ hentries hchange =>
    hchange.wellFormed (keepsForm_assignment (ha a hmem)) hentries) hentries

theorem keepsForm_section {t : Section} (ht : ∀ a ∈ t.assignments, a.value.WellFormed) :
    KeepsForm fun _ => t.Opens := by
  intro origin entries changed hentries h
  cases h with
  | table _ hlookup hinner => exact hentries.append hlookup ((hinner.wellFormed ht .nil).table _)
  | passedThrough _ hlookup hinner =>
    have hinner := hinner.wellFormed ht (hentries.lookup hlookup).entries
    exact hentries.erase.append (Entries.lookup_erase _ _) (hinner.table _)
  | list _ hlookup helement =>
    have helement := helement.wellFormed ht .nil
    exact hentries.append hlookup (wellFormed_append_table (List.forall_mem_nil _) helement)
  | element _ hlookup helement =>
    have helement := helement.wellFormed ht .nil
    exact hentries.replace (wellFormed_append_table (hentries.lookup hlookup).items helement)

/-- **What is defined is well formed** if the values are. -/
theorem Defines.wellFormed {top : List Assignment} {sections : List Section}
    (h : Defines top sections entries) (htop : ∀ a ∈ top, a.value.WellFormed)
    (hsections : ∀ t ∈ sections, ∀ a ∈ t.assignments, a.value.WellFormed) :
    entries.WellFormed := by
  obtain ⟨first, hfirst, hrest⟩ := h
  exact hrest.holds (fun t ht _ _ hentries hchange =>
    hchange.wellFormed (keepsForm_section (hsections t ht)) hentries) (hfirst.wellFormed htop .nil)

/-! ## Values and documents -/

variable {limits : Limits}

/-- **Every value is well formed.** -/
theorem Denotes.wellFormed {depth : ℕ} {w : List Char} {v : Value} (h : Denotes limits depth w v) :
    v.WellFormed := by
  induction h with
  | string => exact .string
  | true | false => exact .boolean
  | datetime => exact .datetime
  | float => exact .float
  | integer _ hlow hhigh => exact .integer hlow hhigh
  | array _ _ ih =>
    refine .array fun v hv => ?_
    obtain ⟨item, hitem, rfl⟩ := List.mem_map.mp hv
    exact ih item hitem
  | emptyTable => exact Entries.WellFormed.nil.table _
  | table _ _ hadd ih =>
    refine (hadd.wellFormed (fun a ha => ?_) .nil).table _
    obtain ⟨field, hfield, rfl⟩ := List.mem_map.mp ha
    exact ih field hfield

theorem StatementText.wellFormed {w : List Char} {a : Assignment}
    (h : StatementText limits w (.assignment a)) : a.value.WellFormed := by
  cases h with
  | assignment _ _ _ hw => exact hw.wellFormed

theorem Lines.wellFormed {w : List Char} {statements : List Statement}
    (h : Lines limits w statements) : ∀ a, .assignment a ∈ statements → a.value.WellFormed := by
  have hline : ∀ {w here}, Line limits w here → ∀ a, .assignment a ∈ here → a.value.WellFormed := by
    intro w here h a ha
    cases h with
    | empty => cases ha
    | statement _ hw =>
      obtain rfl := List.mem_singleton.mp ha
      exact hw.wellFormed
  induction h with
  | last h => exact hline h
  | next h _ _ ih =>
    intro a ha
    exact (List.mem_append.mp ha).elim (hline h a) (ih a)

/-- What is put in groups are the statements. -/
theorem mem_of_mem_grouped (statements : List Statement) :
    (∀ a ∈ (grouped statements).1, .assignment a ∈ statements)
      ∧ ∀ t ∈ (grouped statements).2, ∀ a ∈ t.assignments, .assignment a ∈ statements := by
  induction statements with
  | nil => exact ⟨List.forall_mem_nil _, List.forall_mem_nil _⟩
  | cons statement statements ih =>
    obtain ⟨htop, hsections⟩ := ih
    have hmem : ∀ a, .assignment a ∈ statements → .assignment a ∈ statement :: statements :=
      fun a => List.mem_cons_of_mem statement
    cases statement with
    | assignment a =>
      refine ⟨List.forall_mem_cons.mpr ⟨List.mem_cons_self, fun b hb => hmem b (htop b hb)⟩, ?_⟩
      exact fun t ht b hb => hmem b (hsections t ht b hb)
    | heading found =>
      refine ⟨List.forall_mem_nil _, List.forall_mem_cons.mpr ⟨?_, ?_⟩⟩
      · exact fun b hb => hmem b (htop b hb)
      · exact fun t ht b hb => hmem b (hsections t ht b hb)

/-- **Every document is well formed**: no table in it has a key twice, and its integers have 64
bits. -/
theorem Document.wellFormed {w : List Char} {statements : List Statement} {entries : Entries}
    (h : Document limits w statements)
    (hdefines : Defines (grouped statements).1 (grouped statements).2 entries) :
    entries.WellFormed := by
  have hvalues : ∀ a, .assignment a ∈ statements → a.value.WellFormed := by
    cases h with
    | plain hlines | marked hlines => exact hlines.wellFormed
  obtain ⟨htop, hsections⟩ := mem_of_mem_grouped statements
  exact hdefines.wellFormed (fun a ha => hvalues a (htop a ha))
    (fun t ht a ha => hvalues a (hsections t ht a ha))

end PeerTelemetry.Toml
