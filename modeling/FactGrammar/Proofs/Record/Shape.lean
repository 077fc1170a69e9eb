import FactGrammar.Proofs.Outcome
import FactGrammar.Record.Value

/-!
Shapes of facts. A type of facts reads one field after the other from a record, in the order in
which they are declared. A field is a text or another fact, and it is required or optional. This
shape tells what is read from a record, and what is missing from one that cannot be read.
-/

namespace FactGrammar

namespace Record

variable {record record' : Record} {field : String}

/-- The first slot with a name has a value. -/
def Holds (record : Record) (field : String) (value : Value) : Prop :=
  ∃ before behind, record.fields = before ++ (field, value) :: behind ∧
    ∀ slot ∈ before, slot.1 ≠ field

theorem holds_iff_lookup {value : Value} :
    record.Holds field value ↔ record.fields.lookup field = some value := by
  rw [List.lookup_eq_some_iff]
  constructor
  · rintro ⟨before, behind, hfields, hbefore⟩
    refine ⟨before, behind, hfields, ?_⟩
    intro slot hslot
    exact bne_iff_ne.2 (hbefore slot hslot).symm
  · rintro ⟨before, behind, hfields, hbefore⟩
    refine ⟨before, behind, hfields, ?_⟩
    intro slot hslot
    exact (bne_iff_ne.1 (hbefore slot hslot)).symm

theorem text?_eq_some_iff {s : String} :
    record.text? field = some s ↔ record.Holds field (.text s) := by
  rw [holds_iff_lookup, text?, get]
  cases record.fields.lookup field with
  | none => exact ⟨nofun, nofun⟩
  | some value =>
    cases value <;> simp only [Option.getD_some, reduceCtorEq, Option.some.injEq, Value.text.injEq]

theorem record?_eq_some_iff {nested : Record} :
    record.record? field = some nested ↔ record.Holds field (.record nested) := by
  rw [holds_iff_lookup, record?, get]
  cases record.fields.lookup field with
  | none => exact ⟨nofun, nofun⟩
  | some value =>
    cases value <;>
      simp only [Option.getD_some, reduceCtorEq, Option.some.injEq, Value.record.injEq]

theorem text?_eq_none_iff :
    record.text? field = none ↔ ∀ s, ¬ record.Holds field (.text s) := by
  rw [Option.eq_none_iff_forall_ne_some]
  exact forall_congr' fun s => not_congr text?_eq_some_iff

theorem record?_eq_none_iff :
    record.record? field = none ↔ ∀ nested, ¬ record.Holds field (.record nested) := by
  rw [Option.eq_none_iff_forall_ne_some]
  exact forall_congr' fun nested => not_congr record?_eq_some_iff

theorem holds_record_iff {nested inner : Record} (h : record.record? field = some nested) :
    record.Holds field (.record inner) ↔ inner = nested := by
  rw [← record?_eq_some_iff, h, Option.some.injEq]
  exact eq_comm

theorem text?_congr (h : ∀ s, record.Holds field (.text s) ↔ record'.Holds field (.text s)) :
    record.text? field = record'.text? field := by
  apply Option.ext
  intro s
  rw [text?_eq_some_iff, text?_eq_some_iff]
  exact h s

/-- In a field, two records hold records that are related, or neither holds a record. -/
def HoldsAlike (related : Record → Record → Prop) (field : String) (record record' : Record) :
    Prop :=
  (∀ nested, record.Holds field (.record nested) →
    ∃ nested', record'.Holds field (.record nested') ∧ related nested nested') ∧
  ∀ nested', record'.Holds field (.record nested') →
    ∃ nested, record.Holds field (.record nested) ∧ related nested nested'

variable {related : Record → Record → Prop}

theorem HoldsAlike.record? (h : HoldsAlike related field record record') :
    (record.record? field = none ∧ record'.record? field = none) ∨
      ∃ nested nested', record.record? field = some nested ∧
        record'.record? field = some nested' ∧ related nested nested' := by
  obtain ⟨hright, hleft⟩ := h
  cases hrecord : record.record? field with
  | none =>
    refine .inl ⟨rfl, record?_eq_none_iff.2 ?_⟩
    intro nested' hholds'
    obtain ⟨nested, hholds, _⟩ := hleft nested' hholds'
    exact record?_eq_none_iff.1 hrecord nested hholds
  | some nested =>
    obtain ⟨nested', hholds', hrelated⟩ := hright nested (record?_eq_some_iff.1 hrecord)
    exact .inr ⟨nested, nested', rfl, record?_eq_some_iff.2 hholds', hrelated⟩

theorem HoldsAlike.of_holds (hrefl : ∀ nested, related nested nested)
    (h : ∀ value, record.Holds field value ↔ record'.Holds field value) :
    HoldsAlike related field record record' := by
  constructor
  · intro nested hholds
    exact ⟨nested, (h _).1 hholds, hrefl nested⟩
  · intro nested hholds
    exact ⟨nested, (h _).2 hholds, hrefl nested⟩

end Record

/-- How a kind of facts reads its fields, in the order in which they are declared. -/
inductive FactShape where
  | done
  | text (field : String) (rest : FactShape)
  | optionalText (field : String) (rest : FactShape)
  | fact (field kind : String) (inner rest : FactShape)
  | optionalFact (field kind : String) (inner rest : FactShape)

namespace FactShape

@[reducible] def Value : FactShape → Type
  | done => Unit
  | text _ rest => String × rest.Value
  | optionalText _ rest => Option String × rest.Value
  | fact _ _ inner rest => inner.Value × rest.Value
  | optionalFact _ _ inner rest => Option inner.Value × rest.Value

/-- The name of each field, whether it is another fact, and whether a fact must have it. -/
def fields : FactShape → List (String × Bool × Bool)
  | done => []
  | text field rest => (field, false, true) :: rest.fields
  | optionalText field rest => (field, false, false) :: rest.fields
  | fact field _ _ rest => (field, true, true) :: rest.fields
  | optionalFact field _ _ rest => (field, true, false) :: rest.fields

/-- A value has in each field what a record holds there: a text, or what is read from a record. An
optional field has nothing if the record holds nothing of the kind. -/
def Reads (record : Record) : (shape : FactShape) → shape.Value → Prop
  | done, _ => True
  | text field rest, (s, v) => record.Holds field (.text s) ∧ rest.Reads record v
  | optionalText field rest, (some s, v) => record.Holds field (.text s) ∧ rest.Reads record v
  | optionalText field rest, (none, v) =>
    (∀ s, ¬ record.Holds field (.text s)) ∧ rest.Reads record v
  | fact field _ inner rest, (w, v) =>
    (∃ nested, record.Holds field (.record nested) ∧ inner.Reads nested w) ∧ rest.Reads record v
  | optionalFact field _ inner rest, (some w, v) =>
    (∃ nested, record.Holds field (.record nested) ∧ inner.Reads nested w) ∧ rest.Reads record v
  | optionalFact field _ _ rest, (none, v) =>
    (∀ nested, ¬ record.Holds field (.record nested)) ∧ rest.Reads record v

/-- A record has what a fact of the shape must have, and so have the records of facts in its fields,
those in optional fields included. -/
def Decodes (record : Record) : FactShape → Prop
  | done => True
  | text field rest => (∃ s, record.Holds field (.text s)) ∧ rest.Decodes record
  | optionalText _ rest => rest.Decodes record
  | fact field _ inner rest =>
    (∃ nested, record.Holds field (.record nested) ∧ inner.Decodes nested) ∧ rest.Decodes record
  | optionalFact field _ inner rest =>
    (∀ nested, record.Holds field (.record nested) → inner.Decodes nested) ∧ rest.Decodes record

/-- What is missing from a record, in the order in which the fields are declared: each required text
or fact that the record does not hold, with the kind of fact it belongs to. What is missing from a
fact in a field stands in the place of the field. -/
def offences (kind : String) (record : Record) : FactShape → List InterpretError
  | done => []
  | text field rest =>
    (match record.text? field with
      | some _ => []
      | none => [.missingRequiredField kind field]) ++ rest.offences kind record
  | optionalText _ rest => rest.offences kind record
  | fact field innerKind inner rest =>
    (match record.record? field with
      | some nested => inner.offences innerKind nested
      | none => [.missingRequiredField kind field]) ++ rest.offences kind record
  | optionalFact field innerKind inner rest =>
    (match record.record? field with
      | some nested => inner.offences innerKind nested
      | none => []) ++ rest.offences kind record

/-- Two records are the same to a shape: they hold the same texts in its fields, and the records in
the fields for facts are the same to the shapes of these. -/
def Alike : FactShape → Record → Record → Prop
  | done, _, _ => True
  | text field rest, record, record' | optionalText field rest, record, record' =>
    (∀ s, record.Holds field (.text s) ↔ record'.Holds field (.text s)) ∧ rest.Alike record record'
  | fact field _ inner rest, record, record' | optionalFact field _ inner rest, record, record' =>
    Record.HoldsAlike (fun nested nested' => inner.Alike nested nested') field record record' ∧
      rest.Alike record record'

def decode (kind : String) (record : Record) : (shape : FactShape) →
    Except InterpretError shape.Value
  | done => .ok ()
  | text field rest => Prod.mk <$> record.requireText kind field <*> rest.decode kind record
  | optionalText field rest => Prod.mk <$> pure (record.text? field) <*> rest.decode kind record
  | fact field innerKind inner rest =>
    Prod.mk <$> (record.requireRecord kind field >>= fun nested => inner.decode innerKind nested)
      <*> rest.decode kind record
  | optionalFact field innerKind inner rest =>
    Prod.mk <$> (record.record? field).mapM (fun nested => inner.decode innerKind nested)
      <*> rest.decode kind record

end FactShape

namespace Record

variable (record : Record) (kind field : String)

theorem answers_requireText :
    Answers (fun s => record.Holds field (.text s))
      (match record.text? field with
        | some _ => []
        | none => [.missingRequiredField kind field])
      (record.requireText kind field) := by
  rw [requireText]
  cases htext : record.text? field with
  | none => exact .error rfl (text?_eq_none_iff.1 htext)
  | some s =>
    refine .ok rfl ?_
    intro t
    rw [← text?_eq_some_iff, htext, Option.some.injEq]
    exact eq_comm

theorem answers_text? :
    Answers (fun o => match o with
        | some s => record.Holds field (.text s)
        | none => ∀ s, ¬ record.Holds field (.text s))
      ([] : List InterpretError) (.ok (record.text? field)) := by
  refine .ok rfl ?_
  intro o
  cases o with
  | none => exact text?_eq_none_iff.symm.trans eq_comm
  | some s => exact text?_eq_some_iff.symm.trans eq_comm

variable {α : Type} {property : Record → α → Prop} {offences : Record → List InterpretError}
  {read : Record → Except InterpretError α}

theorem answers_requireRecord
    (h : ∀ nested, Answers (property nested) (offences nested) (read nested)) :
    Answers (fun w => ∃ nested, record.Holds field (.record nested) ∧ property nested w)
      (match record.record? field with
        | some nested => offences nested
        | none => [.missingRequiredField kind field])
      (record.requireRecord kind field >>= read) := by
  rw [requireRecord]
  cases hrecord : record.record? field with
  | none =>
    refine .error rfl ?_
    rintro w ⟨nested, hholds, _⟩
    exact record?_eq_none_iff.1 hrecord nested hholds
  | some nested =>
    simp only [holds_record_iff hrecord, exists_eq_left]
    exact h nested

theorem answers_mapM_record?
    (h : ∀ nested, Answers (property nested) (offences nested) (read nested)) :
    Answers (fun o => match o with
        | some w => ∃ nested, record.Holds field (.record nested) ∧ property nested w
        | none => ∀ nested, ¬ record.Holds field (.record nested))
      (match record.record? field with
        | some nested => offences nested
        | none => [])
      ((record.record? field).mapM read) := by
  cases hrecord : record.record? field with
  | none =>
    refine .ok rfl ?_
    intro o
    cases o with
    | none => exact ⟨fun _ => rfl, fun _ => record?_eq_none_iff.1 hrecord⟩
    | some w =>
      refine ⟨?_, nofun⟩
      rintro ⟨nested, hholds, _⟩
      exact absurd hholds (record?_eq_none_iff.1 hrecord nested)
  | some nested =>
    simp only [holds_record_iff hrecord, exists_eq_left, Option.mapM_some]
    have hnested := h nested
    generalize read nested = x at hnested
    cases hnested with
    | error hfirst hvalue =>
      refine .error hfirst ?_
      intro o ho
      cases o with
      | none => exact ho nested rfl
      | some w => exact hvalue w ho
    | ok hnone hvalue =>
      refine .ok hnone ?_
      intro o
      cases o with
      | none => exact ⟨fun ho => absurd rfl (ho nested), nofun⟩
      | some w => exact (hvalue w).trans (Option.some.injEq w _).symm.to_iff

end Record

namespace FactShape

variable {record record' : Record}

theorem answers_decode (shape : FactShape) (kind : String) (record : Record) :
    Answers (shape.Reads record) (shape.offences kind record) (shape.decode kind record) := by
  induction shape generalizing kind record with
  | done => exact .ok rfl fun _ => ⟨fun _ => rfl, fun _ => trivial⟩
  | text field rest ih =>
    exact (record.answers_requireText kind field).pair (ih kind record)
  | optionalText field rest ih =>
    apply ((record.answers_text? field).pair (ih kind record)).of_iff
    rintro ⟨_ | s, v⟩
    · exact Iff.rfl
    · exact Iff.rfl
  | fact field innerKind inner rest ihInner ih =>
    have hinner := record.answers_requireRecord kind field (ihInner innerKind)
    exact hinner.pair (ih kind record)
  | optionalFact field innerKind inner rest ihInner ih =>
    have hinner := record.answers_mapM_record? field (ihInner innerKind)
    apply (hinner.pair (ih kind record)).of_iff
    rintro ⟨_ | w, v⟩
    · exact Iff.rfl
    · exact Iff.rfl

theorem offences_eq_nil_iff (shape : FactShape) (kind : String) (record : Record) :
    shape.offences kind record = [] ↔ shape.Decodes record := by
  induction shape generalizing kind record with
  | done => exact ⟨fun _ => trivial, fun _ => rfl⟩
  | text field rest ih =>
    rw [offences, List.append_eq_nil_iff, ih, Decodes]
    apply and_congr_left'
    cases htext : record.text? field with
    | none => exact ⟨nofun, fun ⟨s, hs⟩ => absurd hs (Record.text?_eq_none_iff.1 htext s)⟩
    | some s => exact ⟨fun _ => ⟨s, Record.text?_eq_some_iff.1 htext⟩, fun _ => rfl⟩
  | optionalText field rest ih => exact ih kind record
  | fact field innerKind inner rest ihInner ih =>
    rw [offences, List.append_eq_nil_iff, ih, Decodes]
    apply and_congr_left'
    cases hrecord : record.record? field with
    | none =>
      have hnone := Record.record?_eq_none_iff.1 hrecord
      exact ⟨nofun, fun ⟨nested, hholds, _⟩ => absurd hholds (hnone nested)⟩
    | some nested =>
      simp only [Record.holds_record_iff hrecord, exists_eq_left]
      exact ihInner innerKind nested
  | optionalFact field innerKind inner rest ihInner ih =>
    rw [offences, List.append_eq_nil_iff, ih, Decodes]
    apply and_congr_left'
    cases hrecord : record.record? field with
    | none =>
      have hnone := Record.record?_eq_none_iff.1 hrecord
      exact ⟨fun _ nested hholds => absurd hholds (hnone nested), fun _ => rfl⟩
    | some nested =>
      simp only [Record.holds_record_iff hrecord, forall_eq]
      exact ihInner innerKind nested

theorem decode_congr {shape : FactShape} (h : shape.Alike record record') (kind : String) :
    shape.decode kind record = shape.decode kind record' := by
  induction shape generalizing kind record record' with
  | done => rfl
  | text field rest ih =>
    obtain ⟨htext, hrest⟩ := h
    rw [decode, decode, ih hrest, Record.requireText, Record.requireText, Record.text?_congr htext]
  | optionalText field rest ih =>
    obtain ⟨htext, hrest⟩ := h
    rw [decode, decode, ih hrest, Record.text?_congr htext]
  | fact field innerKind inner rest ihInner ih =>
    obtain ⟨hfact, hrest⟩ := h
    rw [decode, decode, ih hrest, Record.requireRecord, Record.requireRecord]
    rcases hfact.record? with ⟨hnone, hnone'⟩ | ⟨nested, nested', hsome, hsome', hnested⟩
    · rw [hnone, hnone']
    · rw [hsome, hsome']
      congr 2
      exact ihInner hnested innerKind
  | optionalFact field innerKind inner rest ihInner ih =>
    obtain ⟨hfact, hrest⟩ := h
    rw [decode, decode, ih hrest]
    rcases hfact.record? with ⟨hnone, hnone'⟩ | ⟨nested, nested', hsome, hsome', hnested⟩
    · rw [hnone, hnone']
    · rw [hsome, hsome', Option.mapM_some, Option.mapM_some, ihInner hnested]

/-- Records that hold the same in the fields of a shape are the same to it. -/
theorem alike_of_holds {shape : FactShape}
    (h : ∀ f ∈ shape.fields, ∀ value, record.Holds f.1 value ↔ record'.Holds f.1 value) :
    shape.Alike record record' := by
  induction shape generalizing record record' with
  | done => trivial
  | text field rest ih =>
    obtain ⟨hfield, hrest⟩ := List.forall_mem_cons.1 h
    exact ⟨fun s => hfield (.text s), ih hrest⟩
  | optionalText field rest ih =>
    obtain ⟨hfield, hrest⟩ := List.forall_mem_cons.1 h
    exact ⟨fun s => hfield (.text s), ih hrest⟩
  | fact field kind inner rest ihInner ih =>
    obtain ⟨hfield, hrest⟩ := List.forall_mem_cons.1 h
    exact ⟨.of_holds (fun nested => ihInner fun _ _ _ => Iff.rfl) hfield, ih hrest⟩
  | optionalFact field kind inner rest ihInner ih =>
    obtain ⟨hfield, hrest⟩ := List.forall_mem_cons.1 h
    exact ⟨.of_holds (fun nested => ihInner fun _ _ _ => Iff.rfl) hfield, ih hrest⟩

end FactShape

end FactGrammar
