import PeerTelemetry.Proofs.DocumentGrammar

/-!
# Tables that are put together

The pieces of a table are added by functions that say no where something would be defined twice.
**They add what the grammar says that the pieces define** (`Toml.tableOf_eq_some_iff`), and say no
where it defines nothing.

Both go by the same path to the table that a piece changes, so it is enough to see that they change
it alike there (`Toml.Does`).
-/

namespace PeerTelemetry.Toml

variable {passage : Passage} {origin : Origin} {entries changed : Entries}

theorem makes_iff : Makes passage origin ↔ origin = passage.origin := by
  constructor
  · rintro ⟨⟩ <;> rfl
  · rintro rfl
    cases passage
    · exact .dottedKey
    · exact .heading

theorem passes_iff : Passes passage origin ↔ passage.mayPass origin = true := by
  constructor
  · rintro (⟨hinline, hheading⟩ | ⟨hinline⟩)
    · cases origin with
      | inline => exact absurd rfl hinline
      | heading => exact absurd rfl hheading
      | implied | dotted => rfl
    · cases origin with
      | inline => exact absurd rfl hinline
      | heading | implied | dotted => rfl
  · intro h
    cases passage
    · refine .dottedKey ?_ ?_ <;> rintro rfl <;> cases h
    · refine .heading ?_
      rintro rfl
      cases h

/-- **A function that makes a change**, and says no where there is none. -/
def Does (f : Origin → Entries → Option Entries) (change : Origin → Entries → Entries → Prop) :
    Prop :=
  ∀ origin entries changed, f origin entries = some changed ↔ change origin entries changed

/-- **What is done at the end of a path** is done there by either. -/
theorem Does.atPath {f : Origin → Entries → Option Entries}
    {change : Origin → Entries → Entries → Prop} (hf : Does f change) (passage : Passage)
    (path : List String) : Does (Toml.atPath passage f path) (AtPath passage change path) := by
  induction path with
  | nil =>
    intro origin entries changed
    refine (hf origin entries changed).trans ⟨.here, ?_⟩
    rintro ⟨h⟩
    exact h
  | cons key path ih =>
    intro origin entries changed
    rw [Toml.atPath]
    constructor
    · intro h
      split at h
      case h_1 hlookup =>
        obtain ⟨inner, hinner, hchanged⟩ := Option.bind_eq_some_iff.mp h
        obtain rfl := Option.some.inj hchanged
        exact .made hlookup (makes_iff.mpr rfl) ((ih _ _ _).mp hinner)
      case h_2 hlookup =>
        split at h
        case isTrue hpasses =>
          obtain ⟨inner, hinner, hchanged⟩ := Option.bind_eq_some_iff.mp h
          obtain rfl := Option.some.inj hchanged
          exact .table hlookup (passes_iff.mpr hpasses) ((ih _ _ _).mp hinner)
        case isFalse => cases h
      case h_3 items hlookup =>
        split at h
        case h_1 hlast =>
          obtain ⟨inner, hinner, hchanged⟩ := Option.bind_eq_some_iff.mp h
          obtain rfl := Option.some.inj hchanged
          refine .element ?_ ((ih _ _ _).mp hinner)
          rw [hlookup, List.dropLast_append_getLast? _ hlast]
        case h_2 => cases h
      case h_4 => cases h
    · intro h
      cases h with
      | made hlookup hmakes hinner =>
        obtain rfl := makes_iff.mp hmakes
        rw [hlookup]
        dsimp only
        rw [(ih _ _ _).mpr hinner]
        rfl
      | table hlookup hpasses hinner =>
        rw [hlookup]
        dsimp only
        rw [if_pos (passes_iff.mp hpasses), (ih _ _ _).mpr hinner]
        rfl
      | element hlookup hinner =>
        rw [hlookup]
        dsimp only
        rw [List.getLast?_concat]
        dsimp only
        rw [(ih _ _ _).mpr hinner, List.dropLast_concat]
        rfl

/-- What is done in turn. -/
theorem foldlM_eq_some_iff {α : Type} {f : Entries → α → Option Entries}
    {change : α → Entries → Entries → Prop}
    (hf : ∀ a entries changed, f entries a = some changed ↔ change a entries changed)
    {row : List α} : row.foldlM f entries = some changed ↔ InTurn change row entries changed := by
  induction row generalizing entries with
  | nil =>
    constructor
    · intro h
      obtain rfl := Option.some.inj h
      exact .nil
    · rintro ⟨⟩
      rfl
  | cons a row ih =>
    rw [List.foldlM_cons]
    constructor
    · intro h
      obtain ⟨next, hnext, hrow⟩ := Option.bind_eq_some_iff.mp h
      exact .cons ((hf a entries next).mp hnext) (ih.mp hrow)
    · rintro (_ | ⟨hnext, hrow⟩)
      exact Option.bind_eq_some_iff.mpr ⟨_, (hf a entries _).mpr hnext, ih.mpr hrow⟩

theorem does_assignment (a : Assignment) : Does a.change a.Adds := by
  intro origin entries changed
  unfold Assignment.change
  constructor
  · intro h
    split at h
    case isTrue => cases h
    case isFalse hends =>
      split at h
      case h_1 => cases h
      case h_2 hlookup =>
        obtain rfl := Option.some.inj h
        exact .added (by tauto) hlookup
  · rintro ⟨hends, hlookup⟩
    rw [if_neg (by tauto), hlookup]

theorem addAssignments_eq_some_iff {assignments : List Assignment} :
    addAssignments origin entries assignments = some changed
      ↔ AddInTurn origin assignments entries changed :=
  foldlM_eq_some_iff fun a => (does_assignment a).atPath .dottedKey a.path origin

theorem does_section (t : Section) : Does t.change fun _ => t.Opens := by
  intro origin entries changed
  unfold Section.change
  dsimp only
  constructor
  · intro h
    split at h
    case isTrue hheading =>
      obtain ⟨element, helement, h⟩ := Option.bind_eq_some_iff.mp h
      have helement := addAssignments_eq_some_iff.mp helement
      split at h
      case h_1 hlookup =>
        obtain rfl := Option.some.inj h
        exact .list hheading hlookup helement
      case h_2 hlookup =>
        obtain rfl := Option.some.inj h
        exact .element hheading hlookup helement
      case h_3 => cases h
    case isFalse hheading =>
      have hheading := Bool.eq_false_iff.mpr hheading
      split at h
      case h_1 hlookup =>
        obtain ⟨inner, hinner, h⟩ := Option.bind_eq_some_iff.mp h
        obtain rfl := Option.some.inj h
        exact .table hheading hlookup (addAssignments_eq_some_iff.mp hinner)
      case h_2 hlookup =>
        obtain ⟨inner, hinner, h⟩ := Option.bind_eq_some_iff.mp h
        obtain rfl := Option.some.inj h
        exact .passedThrough hheading hlookup (addAssignments_eq_some_iff.mp hinner)
      case h_3 => cases h
  · intro h
    cases h with
    | table hheading hlookup hinner =>
      rw [if_neg (Bool.eq_false_iff.mp hheading), hlookup]
      dsimp only
      rw [addAssignments_eq_some_iff.mpr hinner]
      rfl
    | passedThrough hheading hlookup hinner =>
      rw [if_neg (Bool.eq_false_iff.mp hheading), hlookup]
      dsimp only
      rw [addAssignments_eq_some_iff.mpr hinner]
      rfl
    | list hheading hlookup helement | element hheading hlookup helement =>
      rw [if_pos hheading, addAssignments_eq_some_iff.mpr helement, hlookup]
      rfl

/-- **The table of a document** is what its statements define. -/
theorem tableOf_eq_some_iff {top : List Assignment} {sections : List Section} :
    tableOf top sections = some entries ↔ Defines top sections entries := by
  refine Option.bind_eq_some_iff.trans (exists_congr fun first => ?_)
  refine and_congr addAssignments_eq_some_iff (foldlM_eq_some_iff fun t => ?_)
  exact (does_section t).atPath .heading t.heading.path .heading

end PeerTelemetry.Toml
