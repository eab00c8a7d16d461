import PeerTelemetry.Proofs.DocumentReading
import PeerTelemetry.Proofs.TableSpellings
import PeerTelemetry.Settings.Load

/-!
# Settings, field by field

The settings of a document are set one after the other, in the order in which the document has them.
For what comes out the order does not matter: **each setting has the value that the table has under
its key, or else its default** (`Settings.load_field_by_field`), whatever else is in the table and
however the table is written. That is so because no key stands in a table twice, which is a fact
about documents and not about settings.

Where a value cannot be a setting the order does matter. Nothing is set behind the first such
value, and that is the one the error is about; which values there are that cannot be settings does
not depend on the settings so far.
-/

namespace PeerTelemetry

open Toml (Value Entries)

namespace Settings

/-! ## One setting -/

/-- **What a document has under a key** that says what a setting is. -/
def written (s : Settings) : String → Option Value
  | "host" => some (.string s.host)
  | "port" => some (.integer s.port.toNat)
  | "strict" => some (.boolean s.strict)
  | "recv_buffer_bytes" => s.receiveBuffer.map fun size : Nat => .integer (size : Int)
  | _ => none

/-- **A value that a key can have.** A key that means nothing can have any. -/
inductive Admissible : String → Value → Prop
  | host {text : String} : Admissible "host" (.string text)
  | port {n : Int} : 0 ≤ n → n ≤ 65535 → Admissible "port" (.integer n)
  | strict {b : Bool} : Admissible "strict" (.boolean b)
  | receiveBuffer {n : Int} : 0 ≤ n → n ≤ 0x7FFFFFFFFFFFFFFF →
    Admissible "recv_buffer_bytes" (.integer n)
  | unknown {key : String} {v : Value} : key ∉ fieldNames → Admissible key v

/-- **What is wrong with a value** that a key cannot have: it is of another type than the setting,
or it is an integer out of range. -/
inductive Fault : String → Value → FieldError → Prop
  | host {v : Value} : (∀ text, v ≠ .string text) → Fault "host" v (.wrongType v .text)
  | port {v : Value} : (∀ n, v ≠ .integer n) → Fault "port" v (.wrongType v .port)
  | portRange {n : Int} : ¬(0 ≤ n ∧ n ≤ 65535) → Fault "port" (.integer n) (.outOfRange n .port)
  | strict {v : Value} : (∀ b, v ≠ .boolean b) → Fault "strict" v (.wrongType v .truth)
  | receiveBuffer {v : Value} : (∀ n, v ≠ .integer n) →
    Fault "recv_buffer_bytes" v (.wrongType v .size)
  | receiveBufferRange {n : Int} : ¬0 ≤ n →
    Fault "recv_buffer_bytes" (.integer n) (.outOfRange n .size)

variable {s s' base : Settings} {key : String} {v : Value} {cause : FieldError}

theorem setField_of_notMem (h : key ∉ fieldNames) (s : Settings) (v : Value) :
    s.setField key v = .ok s := by
  unfold setField
  split
  case h_5 => rfl
  all_goals exact absurd (by decide) h

theorem setField_port {n : Int} (hlow : 0 ≤ n) (hhigh : n ≤ 65535) (s : Settings) :
    s.setField "port" (.integer n) = .ok { s with port := UInt16.ofNat n.toNat } := by
  show (if 0 ≤ n ∧ n ≤ 65535 then _ else _ : Except FieldError UInt16).map _ = _
  rw [if_pos ⟨hlow, hhigh⟩]
  rfl

theorem setField_receiveBuffer {n : Int} (hlow : 0 ≤ n) (s : Settings) :
    s.setField "recv_buffer_bytes" (.integer n)
      = .ok { s with receiveBuffer := some n.toNat } := by
  show (if 0 ≤ n then _ else _ : Except FieldError Nat).map _ = _
  rw [if_pos hlow]
  rfl

/-- A value that a key can have is set. -/
theorem exists_setField (h : Admissible key v) (s : Settings) :
    ∃ s', s.setField key v = .ok s' := by
  cases h with
  | host => exact ⟨_, rfl⟩
  | port hlow hhigh => exact ⟨_, setField_port hlow hhigh s⟩
  | strict => exact ⟨_, rfl⟩
  | receiveBuffer hlow => exact ⟨_, setField_receiveBuffer hlow s⟩
  | unknown hkey => exact ⟨s, setField_of_notMem hkey s v⟩

/-- A value that a key cannot have is reported for what is wrong with it. -/
theorem setField_of_fault (h : Fault key v cause) (s : Settings) :
    s.setField key v = .error cause := by
  cases h with
  | host hne =>
    cases v with
    | string text => exact absurd rfl (hne text)
    | _ => rfl
  | port hne =>
    cases v with
    | integer n => exact absurd rfl (hne n)
    | _ => rfl
  | portRange hrange =>
    show (if 0 ≤ _ ∧ _ ≤ 65535 then _ else _ : Except FieldError UInt16).map _ = _
    rw [if_neg hrange]
    rfl
  | strict hne =>
    cases v with
    | boolean b => exact absurd rfl (hne b)
    | _ => rfl
  | receiveBuffer hne =>
    cases v with
    | integer n => exact absurd rfl (hne n)
    | _ => rfl
  | receiveBufferRange hrange =>
    show (if 0 ≤ _ then _ else _ : Except FieldError Nat).map _ = _
    rw [if_neg hrange]
    rfl

/-- **A key either can have a value or there is something wrong with it**, if the value is one of a
document. -/
theorem admissible_or_fault (hv : v.WellFormed) (key : String) :
    Admissible key v ∨ ∃ cause, Fault key v cause := by
  by_cases hkey : key ∈ fieldNames
  · simp only [fieldNames, List.mem_cons, List.not_mem_nil, or_false] at hkey
    rcases hkey with rfl | rfl | rfl | rfl
    · cases v with
      | string text => exact Or.inl .host
      | _ => exact Or.inr ⟨_, .host fun _ h => nomatch h⟩
    · cases v with
      | integer n =>
        by_cases hrange : 0 ≤ n ∧ n ≤ 65535
        · exact Or.inl (.port hrange.1 hrange.2)
        · exact Or.inr ⟨_, .portRange hrange⟩
      | _ => exact Or.inr ⟨_, .port fun _ h => nomatch h⟩
    · cases v with
      | boolean b => exact Or.inl .strict
      | _ => exact Or.inr ⟨_, .strict fun _ h => nomatch h⟩
    · cases v with
      | integer n =>
        cases hv with
        | integer _ hhigh =>
          by_cases hrange : 0 ≤ n
          · exact Or.inl (.receiveBuffer hrange (Int.le_of_lt_add_one hhigh))
          · exact Or.inr ⟨_, .receiveBufferRange hrange⟩
      | _ => exact Or.inr ⟨_, .receiveBuffer fun _ h => nomatch h⟩
  · exact Or.inl (.unknown hkey)

theorem not_admissible_of_fault (h : Fault key v cause) : ¬Admissible key v := by
  intro hadmissible
  obtain ⟨s, hset⟩ := exists_setField hadmissible {}
  rw [setField_of_fault h] at hset
  cases hset

/-- What holds of the four keys. -/
theorem forall_mem_fieldNames {P : String → Prop} :
    (∀ k ∈ fieldNames, P k) ↔ P "host" ∧ P "port" ∧ P "strict" ∧ P "recv_buffer_bytes" := by
  simp [fieldNames]

/-- **What is set is the value under the key**, without any loss, and nothing else is. -/
theorem written_of_setField (h : Admissible key v) (hset : s.setField key v = .ok s') :
    ∀ k ∈ fieldNames, s'.written k = if k = key then some v else s.written k := by
  cases h with
  | host =>
    obtain rfl := Except.ok.inj hset
    simp [forall_mem_fieldNames, written]
  | @port n hlow hhigh =>
    obtain rfl := Except.ok.inj ((setField_port hlow hhigh s).symm.trans hset)
    have hlt : n.toNat < 2 ^ 16 := by omega
    have hvalue : ((UInt16.ofNat n.toNat).toNat : Int) = n := by
      rw [UInt16.toNat_ofNat_of_lt' hlt, Int.toNat_of_nonneg hlow]
    simp only [forall_mem_fieldNames, written, hvalue, String.reduceEq, reduceIte, and_self]
  | strict =>
    obtain rfl := Except.ok.inj hset
    simp [forall_mem_fieldNames, written]
  | receiveBuffer hlow =>
    obtain rfl := Except.ok.inj ((setField_receiveBuffer hlow s).symm.trans hset)
    simp [forall_mem_fieldNames, written, Int.toNat_of_nonneg hlow]
  | unknown hkey =>
    obtain rfl := Except.ok.inj ((setField_of_notMem hkey s v).symm.trans hset)
    intro k hk
    rw [if_neg (fun heq : k = key => hkey (heq ▸ hk))]

/-- **Settings are told apart** by what a document would have for them. -/
theorem eq_of_written_eq (h : ∀ k ∈ fieldNames, s.written k = s'.written k) : s = s' := by
  rw [forall_mem_fieldNames] at h
  obtain ⟨hhost, hport, hstrict, hsize⟩ := h
  simp only [written, Option.some.injEq, Value.string.injEq, Value.integer.injEq,
    Value.boolean.injEq, Int.natCast_inj, UInt16.toNat_inj] at hhost hport hstrict
  have hsize : s.receiveBuffer = s'.receiveBuffer :=
    Option.map_injective (fun m n heq => Int.natCast_inj.mp (Value.integer.inj heq)) hsize
  cases s
  cases s'
  rw [Settings.mk.injEq]
  exact ⟨hhost, hport, hstrict, hsize⟩

/-! ## All settings -/

/-- **A table says what settings are**: each has the value under its key, or else its default. -/
def SaidBy (s : Settings) (table : Entries) : Prop :=
  ∀ key ∈ fieldNames, s.written key = (table.lookup key).or (written {} key)

/-- Settings from others by the entries of a table, in their order. -/
def setAll (base : Settings) (table : Entries) : Except FieldError Settings :=
  table.foldlM (fun s (key, v) => s.setField key v) base

theorem setAll_cons (base : Settings) (key : String) (v : Value) (table : Entries) :
    base.setAll ((key, v) :: table) = base.setField key v >>= fun s => s.setAll table :=
  List.foldlM_cons

/-- Every key can have its value, or one is the first that cannot. -/
theorem admissible_or_first_fault (table : Entries) (hform : ∀ p ∈ table, p.2.WellFormed) :
    (∀ p ∈ table, Admissible p.1 p.2) ∨ ∃ before key v after cause,
      table = before ++ (key, v) :: after ∧ (∀ p ∈ before, Admissible p.1 p.2)
        ∧ Fault key v cause := by
  induction table with
  | nil => exact Or.inl (List.forall_mem_nil _)
  | cons p table ih =>
    obtain ⟨key, v⟩ := p
    obtain ⟨hv, htable⟩ := List.forall_mem_cons.mp hform
    rcases admissible_or_fault hv key with hadmissible | ⟨cause, hfault⟩
    · rcases ih htable with hall | ⟨before, key', v', after, cause, rfl, hbefore, hfault⟩
      · exact Or.inl (List.forall_mem_cons.mpr ⟨hadmissible, hall⟩)
      · exact Or.inr ⟨(key, v) :: before, key', v', after, cause, rfl,
          List.forall_mem_cons.mpr ⟨hadmissible, hbefore⟩, hfault⟩
    · exact Or.inr ⟨[], key, v, table, cause, rfl, List.forall_mem_nil _, hfault⟩

/-- **All entries are set** if every key can have its value. -/
theorem exists_setAll {table : Entries} (h : ∀ p ∈ table, Admissible p.1 p.2) (base : Settings) :
    ∃ s, base.setAll table = .ok s := by
  induction table generalizing base with
  | nil => exact ⟨base, rfl⟩
  | cons p table ih =>
    obtain ⟨hp, htable⟩ := List.forall_mem_cons.mp h
    obtain ⟨next, hset⟩ := exists_setField hp base
    obtain ⟨s, hs⟩ := ih htable next
    refine ⟨s, ?_⟩
    rw [setAll_cons, hset]
    exact hs

/-- **Nothing is set behind a value that its key cannot have**, and that value is reported. -/
theorem setAll_of_fault {before : Entries} (hbefore : ∀ p ∈ before, Admissible p.1 p.2)
    (hfault : Fault key v cause) (after : Entries) (base : Settings) :
    base.setAll (before ++ (key, v) :: after) = .error cause := by
  induction before generalizing base with
  | nil =>
    rw [List.nil_append, setAll_cons, setField_of_fault hfault]
    rfl
  | cons p before ih =>
    obtain ⟨hp, hbefore⟩ := List.forall_mem_cons.mp hbefore
    obtain ⟨next, hset⟩ := exists_setField hp base
    rw [List.cons_append, setAll_cons, hset]
    exact ih hbefore next

/-- **Where all are set, each setting is that of its own entry**, because there is no more than
one. -/
theorem written_of_setAll {table : Entries} (hkeys : (table.map Prod.fst).Nodup)
    (hadmissible : ∀ p ∈ table, Admissible p.1 p.2) (h : base.setAll table = .ok s) :
    ∀ k ∈ fieldNames, s.written k = (table.lookup k).or (base.written k) := by
  induction table generalizing base with
  | nil =>
    obtain rfl := Except.ok.inj h
    exact fun _ _ => rfl
  | cons p table ih =>
    obtain ⟨key, v⟩ := p
    obtain ⟨hv, htable⟩ := List.forall_mem_cons.mp hadmissible
    obtain ⟨hkey, hkeys⟩ := List.nodup_cons.mp hkeys
    obtain ⟨next, hset⟩ := exists_setField hv base
    rw [setAll_cons, hset] at h
    intro k hk
    rw [ih hkeys htable h k hk, written_of_setField hv hset k hk, List.lookup_cons]
    by_cases heq : k = key
    · rw [if_pos heq, heq, Entries.lookup_eq_none_iff.mpr hkey, beq_self_eq_true]
      rfl
    · rw [if_neg heq, beq_false_of_ne heq]

/-- A value that settings would be written with is one that the key can have. -/
theorem admissible_of_written (hv : v.WellFormed) (hkey : key ∈ fieldNames)
    (h : s.written key = some v) : Admissible key v := by
  refine (admissible_or_fault hv key).resolve_right ?_
  rintro ⟨cause, hfault⟩
  cases hfault with
  | host hne => exact hne _ (Option.some.inj h).symm
  | port hne => exact hne _ (Option.some.inj h).symm
  | portRange hrange =>
    have hvalue := Value.integer.inj (Option.some.inj h)
    have hlt := s.port.toNat_lt
    omega
  | strict hne => exact hne _ (Option.some.inj h).symm
  | receiveBuffer hne =>
    obtain ⟨size, -, hvalue⟩ := Option.map_eq_some_iff.mp h
    exact hne _ hvalue.symm
  | receiveBufferRange hrange =>
    obtain ⟨size, -, hvalue⟩ := Option.map_eq_some_iff.mp h
    have hvalue := Value.integer.inj hvalue
    omega

theorem mem_fieldNames_of_fault (h : Fault key v cause) : key ∈ fieldNames := by
  cases h <;> decide

section Table

variable {table table' : Entries} (hform : table.WellFormed)
include hform

/-- **Settings come of a table** if they are what it says, and otherwise not. -/
theorem setAll_eq_ok_iff : setAll {} table = .ok s ↔ s.SaidBy table := by
  rcases admissible_or_first_fault table hform.wellFormed_of_mem with
    hadmissible | ⟨before, key, v, after, cause, rfl, hbefore, hfault⟩
  · obtain ⟨s', hset⟩ := exists_setAll hadmissible {}
    have hsaid : s'.SaidBy table := written_of_setAll hform.nodup_keys hadmissible hset
    rw [hset, Except.ok.injEq]
    constructor
    · rintro rfl
      exact hsaid
    · exact fun h => eq_of_written_eq fun k hk => (hsaid k hk).trans (h k hk).symm
  · rw [setAll_of_fault hbefore hfault]
    refine iff_of_false (fun h => nomatch h) fun h => not_admissible_of_fault hfault ?_
    have hkey := mem_fieldNames_of_fault hfault
    have hmem : (key, v) ∈ before ++ (key, v) :: after :=
      List.mem_append_right before List.mem_cons_self
    have hwritten : s.written key = some v := by
      rw [h key hkey, hform.lookup_eq_some_iff.mpr hmem]
      rfl
    exact admissible_of_written (hform.wellFormed_of_mem _ hmem) hkey hwritten

theorem exists_setAll_iff :
    (∃ s, setAll {} table = .ok s) ↔ ∀ key v, (key, v) ∈ table → Admissible key v := by
  constructor
  · rintro ⟨s, hset⟩ key v hmem
    rcases admissible_or_first_fault table hform.wellFormed_of_mem with
      hadmissible | ⟨before, _, _, after, cause, rfl, hbefore, hfault⟩
    · exact hadmissible _ hmem
    · rw [setAll_of_fault hbefore hfault] at hset
      cases hset
  · exact fun h => exists_setAll (fun p hp => h p.1 p.2 hp) {}

/-- **The first entry that cannot be set is reported.** -/
theorem setAll_eq_error_iff :
    setAll {} table = .error cause ↔ ∃ before key v after, table = before ++ (key, v) :: after
      ∧ (∀ p ∈ before, Admissible p.1 p.2) ∧ Fault key v cause := by
  constructor
  · intro hset
    rcases admissible_or_first_fault table hform.wellFormed_of_mem with
      hadmissible | ⟨before, key, v, after, cause', rfl, hbefore, hfault⟩
    · obtain ⟨s, hs⟩ := exists_setAll hadmissible {}
      rw [hs] at hset
      cases hset
    · rw [setAll_of_fault hbefore hfault] at hset
      obtain rfl := Except.error.inj hset
      exact ⟨before, key, v, after, rfl, hbefore, hfault⟩
  · rintro ⟨before, key, v, after, rfl, hbefore, hfault⟩
    exact setAll_of_fault hbefore hfault after {}

/-- **The order of the entries does not matter** to what comes of them, and neither do those under
other keys. -/
theorem saidBy_congr (hform' : table'.WellFormed)
    (h : ∀ key ∈ fieldNames, ∀ v, (key, v) ∈ table' ↔ (key, v) ∈ table) :
    s.SaidBy table' ↔ s.SaidBy table := by
  have hlookup : ∀ key ∈ fieldNames, table'.lookup key = table.lookup key := fun key hkey => by
    refine Option.ext fun v => ?_
    rw [hform'.lookup_eq_some_iff, hform.lookup_eq_some_iff, h key hkey]
  exact forall₂_congr fun key hkey => by rw [hlookup key hkey]

end Table

/-- Entries under other keys are passed over. -/
theorem setAll_filter (table : Entries) (base : Settings) :
    base.setAll (table.filter fun p => p.1 ∈ fieldNames) = base.setAll table := by
  induction table generalizing base with
  | nil => rfl
  | cons p table ih =>
    obtain ⟨key, v⟩ := p
    by_cases hkey : key ∈ fieldNames
    · rw [List.filter_cons, if_pos (decide_eq_true hkey), setAll_cons, setAll_cons]
      exact bind_congr fun next => ih next
    · rw [List.filter_cons, if_neg (by simpa using hkey), setAll_cons,
        setField_of_notMem hkey, ih]
      rfl

/-! ## Documents -/

section Document

open Toml (Limits Statement grouped)

variable {source : Source} {limits : Limits} {path path' : String}
  {statements statements' : List Statement} {entries entries' table table' : Entries}

/-- **A file that holds the text of a document**, with its statements and the entries that they
define. -/
def IsDocument (source : Source) (limits : Limits) (path : String) (statements : List Statement)
    (entries : Entries) : Prop :=
  ∃ text : String, source.read path = .ok text.toUTF8
    ∧ Toml.Document limits text.toList statements
    ∧ Toml.Defines (grouped statements).1 (grouped statements).2 entries

/-- **The table of the listener** in a document; without entries if there is none. -/
abbrev ListenerTable (entries table : Entries) : Prop := entries.HasTable "listener" table

theorem ofDocument_of_listenerTable (h : ListenerTable entries table) :
    ofDocument entries = setAll {} table := by
  unfold ofDocument
  rcases h with ⟨hnone, rfl⟩ | ⟨origin, hsome⟩
  · rw [hnone]
    rfl
  · rw [hsome]
    rfl

/-- The table of the listener is well formed, as every table of a document. -/
theorem wellFormed_of_listenerTable (h : IsDocument source limits path statements entries)
    (htable : ListenerTable entries table) : table.WellFormed := by
  obtain ⟨text, -, hdocument, hdefines⟩ := h
  rcases htable with ⟨-, rfl⟩ | ⟨origin, hsome⟩
  · exact .nil
  · exact ((hdocument.wellFormed hdefines).lookup hsome).entries

/-- **However the table is written**, it is the table of the listener. -/
theorem listenerTable_of_spelled (h : IsDocument source limits path statements entries)
    (hspelled : Toml.Spelled "listener" table (grouped statements).1 (grouped statements).2) :
    ListenerTable entries table := by
  obtain ⟨-, -, -, hdefines⟩ := h
  exact hdefines.hasTable hspelled

theorem textOf_toUTF8 (text : String) : textOf (.ok text.toUTF8) = .ok text := by
  have hread : String.fromUTF8? text.toUTF8 = some text := dif_pos text.isValidUTF8
  simp only [textOf, bind, Except.bind, hread]
  rfl

section Reader

variable (hreader : source.document.Follows limits)

include hreader

/-- Settings are loaded from the entries of the document. -/
theorem load_of_isDocument (h : IsDocument source limits path statements entries) :
    load source path = (ofDocument entries).mapError .field := by
  obtain ⟨text, hfile, hdocument, hdefines⟩ := h
  have hread : source.document text = .ok entries :=
    (hreader text entries).mpr ⟨statements, hdocument, hdefines⟩
  unfold load
  rw [hfile, textOf_toUTF8]
  dsimp only
  rw [hread]
  dsimp only
  cases ofDocument entries <;> rfl

theorem load_of_listenerTable (h : IsDocument source limits path statements entries)
    (htable : ListenerTable entries table) :
    load source path = (setAll {} table).mapError .field := by
  rw [load_of_isDocument hreader h, ofDocument_of_listenerTable htable]

theorem load_eq_ok_iff (h : IsDocument source limits path statements entries)
    (htable : ListenerTable entries table) :
    load source path = .ok s ↔ setAll {} table = .ok s := by
  rw [load_of_listenerTable hreader h htable]
  cases setAll {} table with
  | ok s' =>
    show (Except.ok s' : Except SettingsError Settings) = .ok s ↔ _
    rw [Except.ok.injEq, Except.ok.injEq]
  | error cause => exact iff_of_false (fun h => nomatch h) (fun h => nomatch h)

theorem load_eq_error_iff {e : SettingsError}
    (h : IsDocument source limits path statements entries) (htable : ListenerTable entries table) :
    load source path = .error e ↔ ∃ cause, setAll {} table = .error cause ∧ e = .field cause := by
  rw [load_of_listenerTable hreader h htable]
  cases setAll {} table with
  | ok s => exact iff_of_false (fun h => nomatch h) (fun ⟨_, h, _⟩ => nomatch h)
  | error cause =>
    constructor
    · intro h
      exact ⟨cause, rfl, (Except.error.inj h).symm⟩
    · rintro ⟨cause', hcause, rfl⟩
      rw [Except.error.inj hcause]
      rfl

/-- **Entries under other keys do not matter**, not even to the error. -/
theorem load_eq_of_filter_eq (h : IsDocument source limits path statements entries)
    (htable : ListenerTable entries table)
    (h' : IsDocument source limits path' statements' entries')
    (htable' : ListenerTable entries' table')
    (heq : (table'.filter fun p => p.1 ∈ fieldNames) = table.filter fun p => p.1 ∈ fieldNames) :
    load source path' = load source path := by
  rw [load_of_listenerTable hreader h htable, load_of_listenerTable hreader h' htable',
    ← setAll_filter table', heq, setAll_filter table]

/-- **An array is loaded as the table** that has its items under the four keys in turn. -/
theorem load_eq_of_array {origin : Toml.Origin} {items : List Value}
    (h : IsDocument source limits path statements entries) (htable : ListenerTable entries table)
    (h' : IsDocument source limits path' statements' entries')
    (hitems : entries'.lookup "listener" = some (.array origin items))
    (heq : (table.filter fun p => p.1 ∈ fieldNames) = fieldNames.zip items) :
    load source path' = load source path := by
  have hvalue : ofDocument entries' = setAll {} (fieldNames.zip items) := by
    unfold ofDocument
    rw [hitems]
    rfl
  rw [load_of_isDocument hreader h', hvalue, load_of_listenerTable hreader h htable, ← heq,
    setAll_filter]

end Reader

/-- **Settings are loaded field by field** from the documents that the grammar has, and so by
whatever reads documents as the grammar says, which `Toml.read` does. Settings can be loaded from a
document if and only if each of the four keys in the table of the listener has a value that it can
have; and then each setting has the value under its key, or its default if there is none. If they
cannot be loaded, the error is about the first entry in the order of the file whose key cannot have
its value.

So no more than the entries under the four keys matters, and where settings are loaded not their
order either. The table may be written under its heading, by dotted keys or in braces, among any
other statements, and has its entries in the order in which they are written; and an array in its
place is loaded as the table that has its items under the four keys in turn. -/
theorem load_field_by_field :
    Toml.Reader.Follows Toml.read Toml.limits
      ∧ (∀ source limits path statements entries table,
        IsDocument source limits path statements entries →
        Toml.Spelled "listener" table (grouped statements).1 (grouped statements).2 →
        ListenerTable entries table)
      ∧ ∀ (source : Source) (limits : Limits), source.document.Follows limits →
      ∀ path statements entries table, IsDocument source limits path statements entries →
        ListenerTable entries table →
        ((∃ s, load source path = .ok s) ↔ ∀ key v, (key, v) ∈ table → Admissible key v)
          ∧ (∀ s, load source path = .ok s ↔ s.SaidBy table)
          ∧ (∀ e, load source path = .error e ↔ ∃ before key v after cause,
            table = before ++ (key, v) :: after ∧ (∀ p ∈ before, Admissible p.1 p.2)
              ∧ Fault key v cause ∧ e = .field cause)
          ∧ (∀ path' statements' entries' table',
            IsDocument source limits path' statements' entries' → ListenerTable entries' table' →
            (∀ key ∈ fieldNames, ∀ v, (key, v) ∈ table' ↔ (key, v) ∈ table) →
            ∀ s, load source path' = .ok s ↔ load source path = .ok s)
          ∧ (∀ path' statements' entries' table',
            IsDocument source limits path' statements' entries' → ListenerTable entries' table' →
            (table'.filter fun p => p.1 ∈ fieldNames) = (table.filter fun p => p.1 ∈ fieldNames) →
            load source path' = load source path)
          ∧ (∀ path' statements' entries',
            IsDocument source limits path' statements' entries' →
            Toml.Spelled "listener" table (grouped statements').1 (grouped statements').2 →
            load source path' = load source path)
          ∧ ∀ path' statements' entries' origin items,
            IsDocument source limits path' statements' entries' →
            entries'.lookup "listener" = some (.array origin items) →
            (table.filter fun p => p.1 ∈ fieldNames) = fieldNames.zip items →
            load source path' = load source path := by
  refine ⟨Toml.read_follows, fun _ _ _ _ _ _ h hspelled => listenerTable_of_spelled h hspelled,
    fun source limits hreader path statements entries table h htable => ?_⟩
  have hform := wellFormed_of_listenerTable h htable
  refine ⟨?_, fun s => ?_, fun e => ?_, fun _ _ _ table' h' htable' hentries s => ?_,
    fun _ _ _ table' h' htable' heq => load_eq_of_filter_eq hreader h htable h' htable' heq,
    fun _ _ _ h' hspelled => ?_,
    fun _ _ _ _ items h' hitems heq => load_eq_of_array hreader h htable h' hitems heq⟩
  · simp only [load_eq_ok_iff hreader h htable]
    exact exists_setAll_iff hform
  · rw [load_eq_ok_iff hreader h htable, setAll_eq_ok_iff hform]
  · rw [load_eq_error_iff hreader h htable]
    simp only [setAll_eq_error_iff hform]
    constructor
    · rintro ⟨cause, ⟨before, key, v, after, hsplit, hbefore, hfault⟩, he⟩
      exact ⟨before, key, v, after, cause, hsplit, hbefore, hfault, he⟩
    · rintro ⟨before, key, v, after, cause, hsplit, hbefore, hfault, he⟩
      exact ⟨cause, ⟨before, key, v, after, hsplit, hbefore, hfault⟩, he⟩
  · have hform' := wellFormed_of_listenerTable h' htable'
    rw [load_eq_ok_iff hreader h htable, load_eq_ok_iff hreader h' htable', setAll_eq_ok_iff hform,
      setAll_eq_ok_iff hform', saidBy_congr hform hform' hentries]
  · have htable' := listenerTable_of_spelled h' hspelled
    rw [load_of_listenerTable hreader h htable, load_of_listenerTable hreader h' htable']

/-- Two settings, written with dotted keys and with escapes, and something that means nothing. -/
def dotted : String :=
  "listener.port = 7000\nlistener.color = 1\nlistener.host = \"\\u0061\\\\\\\"\\tb\"\n"

/-- The table they are in. -/
def dottedTable : Entries :=
  [("port", .integer 7000), ("color", .integer 1), ("host", .string "a\\\"\tb")]

/-- Values have no decidable equality, but whether they fit a pattern is decided. -/
def isDotted : Option Entries → Bool
  | some [("listener", .table .dotted
      [("port", .integer 7000), ("color", .integer 1), ("host", .string "a\\\"\tb")])] => true
  | _ => false

theorem eq_of_isDotted {found : Option Entries} (h : isDotted found = true) :
    found = some [("listener", .table .dotted dottedTable)] := by
  unfold isDotted at h
  split at h
  case h_1 => rfl
  case h_2 => cases h

/-- A source whose every file is that document. -/
def ofDotted : Source := ⟨fun _ => .ok dotted.toUTF8, Toml.read⟩

/-- The host is the text that is meant, the port is the one given, and the rest are the defaults. -/
theorem load_field_by_field_of_dotted :
    (∃ statements, IsDocument ofDotted Toml.limits "" statements
        [("listener", .table .dotted dottedTable)])
      ∧ ListenerTable [("listener", .table .dotted dottedTable)] dottedTable
      ∧ load ofDotted "" = .ok { host := "a\\\"\tb", port := 7000 } := by
  have hread : Toml.read dotted = .ok [("listener", .table .dotted dottedTable)] := by
    have hdotted : isDotted (Toml.read dotted).toOption = true := by decide +kernel
    have hsome := eq_of_isDotted hdotted
    generalize Toml.read dotted = result at hsome ⊢
    cases result with
    | error e => cases hsome
    | ok entries => exact congrArg _ (Option.some.inj hsome)
  obtain ⟨statements, hstatements, hdefines⟩ := (Toml.read_follows dotted _).mp hread
  have hdocument : IsDocument ofDotted Toml.limits "" statements
      [("listener", .table .dotted dottedTable)] :=
    ⟨dotted, rfl, hstatements, hdefines⟩
  have htable : ListenerTable [("listener", .table .dotted dottedTable)] dottedTable :=
    Or.inr ⟨.dotted, rfl⟩
  have hload := load_field_by_field.2.2 ofDotted Toml.limits Toml.read_follows "" statements _ _
    hdocument htable
  refine ⟨⟨statements, hdocument⟩, htable, (hload.2.1 _).mpr ?_⟩
  exact forall_mem_fieldNames.mpr ⟨rfl, rfl, rfl, rfl⟩

end Document

end Settings

end PeerTelemetry
