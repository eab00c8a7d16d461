import PeerTelemetry.Proofs.DocumentForm

/-!
# Tables, however they are written

A table of a document stands under its heading, or it is put together by dotted keys, or it is one
value in braces, and statements that are about something else may stand around it and among its
own. Whoever looks it up is not told: **it has its entries, in their order, whichever way it is
written** (`Toml.Defines.hasTable`).

Two facts make it up. A statement changes nothing but what its key or its heading begins with
(`Toml.changesOnly_atPath`), so all others can be left out; and an assignment puts its entry behind
those that the table has.
-/

namespace PeerTelemetry.Toml

/-- The entry of a document that an assignment is about: what its key begins with. -/
def Assignment.root (a : Assignment) : String := a.path.headD a.key

/-- The entry of a document that a section is about: what its heading begins with. -/
def Section.root (t : Section) : String := t.heading.path.headD t.heading.key

/-- **Entries with a table under a name**, or without it if the table has no entries. -/
def Entries.HasTable (entries : Entries) (name : String) (table : Entries) : Prop :=
  entries.lookup name = none ∧ table = []
    ∨ ∃ origin, entries.lookup name = some (.table origin table)

/-- **The ways to write a table** at the top of a document, among statements about other things. -/
inductive Spelled (name : String) (table : Entries) : List Assignment → List Section → Prop
  /-- Under a heading. -/
  | heading {top : List Assignment} {before after : List Section} :
    (∀ a ∈ top, a.root ≠ name) → (∀ t ∈ before, t.root ≠ name) → (∀ t ∈ after, t.root ≠ name) →
    Spelled name table top
      (before ++ ⟨⟨[], name, false⟩, table.map fun p => ⟨[], p.1, p.2⟩⟩ :: after)
  /-- By dotted keys. -/
  | dotted {top : List Assignment} {sections : List Section} :
    (top.filter fun a => a.root = name) = (table.map fun p => ⟨[name], p.1, p.2⟩) →
    (∀ t ∈ sections, t.root ≠ name) → Spelled name table top sections
  /-- As one value in braces. -/
  | inline {before after : List Assignment} {sections : List Section} :
    (∀ a ∈ before, a.root ≠ name) → (∀ a ∈ after, a.root ≠ name) →
    (∀ t ∈ sections, t.root ≠ name) →
    Spelled name table (before ++ ⟨[], name, .table .inline table⟩ :: after) sections

variable {name key : String} {v : Value} {entries changed table done : Entries}

/-! ## What a statement leaves alone -/

namespace Entries

theorem lookup_append_of_ne (h : name ≠ key) (entries : Entries) (v : Value) :
    (Entries.append entries key v).lookup name = entries.lookup name := by
  rw [Entries.append, List.lookup_append, List.lookup_cons, beq_false_of_ne h]
  exact Option.or_none

theorem lookup_append_self (h : entries.lookup key = none) (v : Value) :
    (Entries.append entries key v).lookup key = some v := by
  rw [Entries.append, List.lookup_append, h, List.lookup_cons, beq_self_eq_true]
  rfl

theorem lookup_replace_of_ne (h : name ≠ key) (entries : Entries) (v : Value) :
    (Entries.replace entries key v).lookup name = entries.lookup name := by
  induction entries with
  | nil => rfl
  | cons p entries ih =>
    show List.lookup name ((if p.1 = key then (p.1, v) else (p.1, p.2)) :: _) = _
    by_cases hkey : p.1 = key
    · rw [if_pos hkey, List.lookup_cons, List.lookup_cons, hkey, beq_false_of_ne h]
      exact ih
    · rw [if_neg hkey, List.lookup_cons, List.lookup_cons]
      cases name == p.1 with
      | true => rfl
      | false => exact ih

theorem lookup_replace_self (h : entries.lookup key ≠ none) (v : Value) :
    (Entries.replace entries key v).lookup key = some v := by
  induction entries with
  | nil => exact absurd rfl h
  | cons p entries ih =>
    show List.lookup key ((if p.1 = key then (p.1, v) else (p.1, p.2)) :: _) = _
    by_cases hkey : p.1 = key
    · rw [if_pos hkey, List.lookup_cons, hkey, beq_self_eq_true]
    · have hne := beq_false_of_ne (Ne.symm hkey)
      rw [List.lookup_cons, hne] at h
      rw [if_neg hkey, List.lookup_cons, hne]
      exact ih h

theorem lookup_erase_of_ne (h : name ≠ key) (entries : Entries) :
    (Entries.erase entries key).lookup name = entries.lookup name := by
  induction entries with
  | nil => rfl
  | cons p entries ih =>
    obtain ⟨k, v⟩ := p
    rw [Entries.erase, List.filter_cons]
    by_cases hkey : k = key
    · rw [if_neg (by simpa using hkey), List.lookup_cons, hkey, beq_false_of_ne h]
      exact ih
    · rw [if_pos (decide_eq_true hkey), List.lookup_cons, List.lookup_cons]
      cases name == k with
      | true => rfl
      | false => exact ih

end Entries

/-- **A change to what stands under one key**, and to nothing else. -/
def ChangesOnly (key : String) (change : Origin → Entries → Entries → Prop) : Prop :=
  ∀ origin entries changed, change origin entries changed →
    ∀ name, name ≠ key → changed.lookup name = entries.lookup name

/-- **What is changed at the end of a path is under the first key on it.** -/
theorem changesOnly_atPath {passage : Passage} {change : Origin → Entries → Entries → Prop}
    (hchange : ChangesOnly key change) (path : List String) :
    ChangesOnly (path.headD key) (AtPath passage change path) := by
  intro origin entries changed h name hname
  cases h with
  | here h => exact hchange _ _ _ h name hname
  | made => exact Entries.lookup_append_of_ne hname entries _
  | table | element => exact Entries.lookup_replace_of_ne hname entries _

theorem changesOnly_assignment (a : Assignment) : ChangesOnly a.key a.Adds := by
  rintro origin entries _ ⟨-, -⟩ name hname
  exact Entries.lookup_append_of_ne hname entries _

theorem changesOnly_section (t : Section) : ChangesOnly t.heading.key fun _ => t.Opens := by
  intro origin entries changed h name hname
  cases h with
  | table | list => exact Entries.lookup_append_of_ne hname entries _
  | passedThrough =>
    rw [Entries.lookup_append_of_ne hname, Entries.lookup_erase_of_ne hname]
  | element => exact Entries.lookup_replace_of_ne hname entries _

/-- Assignments that are about other things leave what stands under a name. -/
theorem AddInTurn.lookup_eq {origin : Origin} {assignments : List Assignment}
    (h : AddInTurn origin assignments entries changed)
    (hother : ∀ a ∈ assignments, a.root ≠ name) : changed.lookup name = entries.lookup name :=
  InTurn.holds (P := fun e => e.lookup name = entries.lookup name) h
    (fun a ha e e' he hstep =>
      (changesOnly_atPath (changesOnly_assignment a) a.path origin e e' hstep name
        (hother a ha).symm).trans he)
    rfl

/-- So do sections. -/
theorem lookup_eq_of_sections {sections : List Section}
    (h : InTurn (fun t => AtPath .heading (fun _ => t.Opens) t.heading.path .heading) sections
      entries changed)
    (hother : ∀ t ∈ sections, t.root ≠ name) : changed.lookup name = entries.lookup name :=
  h.holds (P := fun e => e.lookup name = entries.lookup name)
    (fun t ht e e' he hstep =>
      (changesOnly_atPath (changesOnly_section t) t.heading.path .heading e e' hstep name
        (hother t ht).symm).trans he)
    rfl

theorem inTurn_append {α : Type} {change : α → Entries → Entries → Prop} {row row' : List α}
    (h : InTurn change (row ++ row') entries changed) :
    ∃ next, InTurn change row entries next ∧ InTurn change row' next changed := by
  induction row generalizing entries with
  | nil => exact ⟨entries, .nil, h⟩
  | cons a row ih =>
    cases h with
    | cons hnext hrest =>
      obtain ⟨next, hrow, hrow'⟩ := ih hrest
      exact ⟨next, .cons hnext hrow, hrow'⟩

/-! ## What a table is given -/

/-- Assignments without dots are the entries they add. -/
theorem AddInTurn.eq_append {origin : Origin} {table : Entries}
    (h : AddInTurn origin (table.map fun p => ⟨[], p.1, p.2⟩) entries changed) :
    changed = entries ++ table := by
  induction table generalizing entries with
  | nil =>
    cases h with
    | nil => exact (List.append_nil changed).symm
  | cons p table ih =>
    cases h with
    | cons hnext hrest =>
      cases hnext with
      | here hadds =>
        obtain ⟨-, -⟩ := hadds
        rw [ih hrest, Entries.append, List.append_assoc]
        rfl

/-- **A heading opens a table** that has the assignments below it. -/
theorem lookup_of_opened (hnone : entries.lookup name = none)
    (h : Section.Opens ⟨⟨[], name, false⟩, table.map fun p => ⟨[], p.1, p.2⟩⟩ entries changed) :
    changed.lookup name = some (.table .heading table) := by
  cases h with
  | table _ _ hinner =>
    obtain rfl := hinner.eq_append
    exact Entries.lookup_append_self hnone _
  | passedThrough _ hlookup => cases hnone.symm.trans hlookup
  | list hheading | element hheading => cases hheading

/-- **A dotted key puts its entry behind those of the table** it passes through. -/
theorem hasTable_of_dotted {origin : Origin} (hdone : entries.HasTable name done)
    (h : AtPath .dottedKey (Assignment.Adds ⟨[name], key, v⟩) [name] origin entries changed) :
    changed.HasTable name (done ++ [(key, v)]) := by
  cases h with
  | made hlookup _ hinner =>
    obtain ⟨⟨-, -⟩⟩ := hinner
    rcases hdone with ⟨-, rfl⟩ | ⟨origin', hsome⟩
    · exact Or.inr ⟨_, Entries.lookup_append_self hlookup _⟩
    · cases hlookup.symm.trans hsome
  | table hlookup _ hinner =>
    obtain ⟨⟨-, -⟩⟩ := hinner
    rcases hdone with ⟨hnone, -⟩ | ⟨origin', hsome⟩
    · cases hnone.symm.trans hlookup
    · cases hlookup.symm.trans hsome
      refine Or.inr ⟨_, Entries.lookup_replace_self ?_ _⟩
      rw [hsome]
      exact Option.some_ne_none _
  | element hlookup =>
    rcases hdone with ⟨hnone, -⟩ | ⟨origin', hsome⟩
    · cases hnone.symm.trans hlookup
    · cases hlookup.symm.trans hsome

theorem Entries.HasTable.congr (h : entries.HasTable name table)
    (hlookup : changed.lookup name = entries.lookup name) : changed.HasTable name table := by
  unfold Entries.HasTable
  rw [hlookup]
  exact h

/-- **Dotted keys put their entries behind those of the table**, whatever stands among them. -/
theorem AddInTurn.hasTable {origin : Origin} {assignments : List Assignment}
    (h : AddInTurn origin assignments entries changed)
    (hkeys : (assignments.filter fun a => a.root = name) = table.map fun p => ⟨[name], p.1, p.2⟩)
    (hdone : entries.HasTable name done) : changed.HasTable name (done ++ table) := by
  induction assignments generalizing entries done table with
  | nil =>
    cases h
    obtain rfl := List.map_eq_nil_iff.mp hkeys.symm
    rwa [List.append_nil]
  | cons a assignments ih =>
    cases h with
    | cons hnext hrest =>
      by_cases hroot : a.root = name
      · rw [List.filter_cons, if_pos (decide_eq_true hroot)] at hkeys
        obtain ⟨p, table, rfl, rfl, hothers⟩ := List.map_eq_cons_iff.mp hkeys.symm
        have hstep := ih hrest hothers.symm (hasTable_of_dotted hdone hnext)
        rwa [List.append_assoc] at hstep
      · rw [List.filter_cons, if_neg (by simpa using hroot)] at hkeys
        refine ih hrest hkeys (hdone.congr ?_)
        exact changesOnly_atPath (changesOnly_assignment a) a.path origin _ _ hnext name
          (Ne.symm hroot)

/-! ## Documents -/

/-- **A table is what it was written as**, in each of the ways to write it. -/
theorem Defines.hasTable {top : List Assignment} {sections : List Section}
    (h : Defines top sections entries) (hspelled : Spelled name table top sections) :
    entries.HasTable name table := by
  obtain ⟨first, hfirst, hrest⟩ := h
  cases hspelled with
  | heading htop hbefore hafter =>
    obtain ⟨next, hnext, hrest⟩ := inTurn_append hrest
    have hnone : next.lookup name = none :=
      (lookup_eq_of_sections hnext hbefore).trans (hfirst.lookup_eq htop)
    cases hrest with
    | cons hopened hlast =>
      cases hopened with
      | here hopened =>
        refine Or.inr ⟨.heading, ?_⟩
        rw [lookup_eq_of_sections hlast hafter]
        exact lookup_of_opened hnone hopened
  | dotted hkeys hsections =>
    have hkept := lookup_eq_of_sections hrest hsections
    exact (hfirst.hasTable hkeys (Or.inl ⟨rfl, rfl⟩)).congr hkept
  | inline hbefore hafter hsections =>
    obtain ⟨next, hnext, hfirst⟩ := inTurn_append hfirst
    cases hfirst with
    | cons hassigned hlast =>
      cases hassigned with
      | here hadds =>
        obtain ⟨-, hnone⟩ := hadds
        refine Or.inr ⟨.inline, ?_⟩
        rw [lookup_eq_of_sections hrest hsections, AddInTurn.lookup_eq hlast hafter]
        exact Entries.lookup_append_self hnone _

end PeerTelemetry.Toml
