import FactGrammar.Academic.Department
import FactGrammar.Academic.PersonName
import FactGrammar.Academic.Thesis
import FactGrammar.Proofs.Record.Shape

namespace FactGrammar

/-- A type of facts has the fields of a shape, and reads records by the shape and by nothing else.
-/
structure FactType.ReadsBy (α : Type) [FactType α] (shape : FactShape) (parts : α → shape.Value) :
    Prop where
  declared : shape.fields = (FactType.schema α).fields.map fun spec =>
    (spec.name, spec.mode == .nested, spec.required)
  ofRecord_eq_ok_iff : ∀ (record : Record) (value : α),
    FactType.ofRecord record = .ok value ↔ shape.Reads record (parts value)
  exists_ofRecord_eq_ok_iff : ∀ record : Record,
    (∃ value : α, FactType.ofRecord record = .ok value) ↔ shape.Decodes record
  ofRecord_eq_error_iff : ∀ (record : Record) (e : InterpretError),
    (FactType.ofRecord record : Except InterpretError α) = .error e ↔
      (shape.offences (FactType.schema α).name record).head? = some e
  ofRecord_congr : ∀ record record' : Record, shape.Alike record record' →
    (FactType.ofRecord record : Except InterpretError α) = FactType.ofRecord record'
  ofRecord_congr_of_holds : ∀ record record' : Record,
    (∀ spec ∈ (FactType.schema α).fields, ∀ value,
      record.Holds spec.name value ↔ record'.Holds spec.name value) →
    (FactType.ofRecord record : Except InterpretError α) = FactType.ofRecord record'

theorem FactType.ReadsBy.of_decode [FactType α] {shape : FactShape} {parts : α → shape.Value}
    (hdeclared : shape.fields = (FactType.schema α).fields.map fun spec =>
      (spec.name, spec.mode == .nested, spec.required))
    (hparts : parts.Injective)
    (hdecode : ∀ record : Record, (FactType.ofRecord record).map parts =
      shape.decode (FactType.schema α).name record) : FactType.ReadsBy α shape parts := by
  have hanswers (record : Record) : Answers (fun value => shape.Reads record (parts value))
      (shape.offences (FactType.schema α).name record) (FactType.ofRecord record) := by
    apply Answers.of_map hparts
    rw [hdecode]
    exact shape.answers_decode _ record
  have hcongr (record record' : Record) (halike : shape.Alike record record') :
      (FactType.ofRecord record : Except InterpretError α) = FactType.ofRecord record' := by
    apply eq_of_map_eq hparts
    rw [hdecode, hdecode, FactShape.decode_congr halike]
  refine ⟨hdeclared, ?_, ?_, ?_, hcongr, ?_⟩
  · intro record value
    exact (hanswers record).eq_ok_iff
  · intro record
    exact (hanswers record).exists_ok_iff.trans (shape.offences_eq_nil_iff _ record)
  · intro record e
    exact (hanswers record).eq_error_iff
  · intro record record' hholds
    apply hcongr
    apply FactShape.alike_of_holds
    rw [hdeclared, List.forall_mem_map]
    exact hholds

theorem FactShape.mapM_decode {shape : FactShape} {parts : α → shape.Value}
    {read : Record → Except InterpretError α}
    (h : ∀ record, (read record).map parts = shape.decode kind record) (record? : Option Record) :
    (record?.mapM fun nested => shape.decode kind nested) =
      (record?.mapM read).map (Option.map parts) := by
  cases record? with
  | none => rfl
  | some nested =>
    rw [Option.mapM_some, Option.mapM_some, ← h]
    cases read nested <;> rfl

namespace Academic

namespace PersonName

abbrev shape : FactShape :=
  .optionalText "first" (.optionalText "middle" (.optionalText "last" .done))

def parts (name : PersonName) : shape.Value := (name.first, name.middle, name.last, ())

theorem readsBy : FactType.ReadsBy PersonName shape parts := by
  apply FactType.ReadsBy.of_decode rfl
  · rintro ⟨_, _, _⟩ ⟨_, _, _⟩ ⟨⟩
    rfl
  · intro record
    rfl

end PersonName

namespace Department

abbrev shape : FactShape := .text "definition" (.optionalText "position" .done)

def parts (department : Department) : shape.Value :=
  (department.definition, department.position, ())

theorem map_ofRecord (record : Record) :
    (ofRecord record).map parts = shape.decode schema.name record := by
  rw [ofRecord, FactShape.decode]
  cases record.requireText schema.name "definition" <;> rfl

theorem readsBy : FactType.ReadsBy Department shape parts := by
  apply FactType.ReadsBy.of_decode rfl _ map_ofRecord
  rintro ⟨_, _⟩ ⟨_, _⟩ ⟨⟩
  rfl

end Department

namespace Speciality

abbrev shape : FactShape := .optionalText "code" (.optionalText "hyphen" (.text "name" .done))

def parts (speciality : Speciality) : shape.Value :=
  (speciality.code, speciality.hyphen, speciality.name, ())

theorem parts_injective : parts.Injective := by
  rintro ⟨_, _, _⟩ ⟨_, _, _⟩ ⟨⟩
  rfl

theorem map_ofRecord (record : Record) :
    (ofRecord record).map parts = shape.decode schema.name record := by
  rw [ofRecord, FactShape.decode, FactShape.decode, FactShape.decode]
  cases record.requireText schema.name "name" <;> rfl

theorem readsBy : FactType.ReadsBy Speciality shape parts :=
  .of_decode rfl parts_injective map_ofRecord

end Speciality

namespace Branch

abbrev shape : FactShape := .text "name" .done

def parts (branch : Branch) : shape.Value := (branch.name, ())

theorem parts_injective : parts.Injective := by
  rintro ⟨_⟩ ⟨_⟩ ⟨⟩
  rfl

theorem map_ofRecord (record : Record) :
    (ofRecord record).map parts = shape.decode schema.name record := by
  rw [ofRecord, FactShape.decode]
  cases record.requireText schema.name "name" <;> rfl

theorem readsBy : FactType.ReadsBy Branch shape parts :=
  .of_decode rfl parts_injective map_ofRecord

end Branch

namespace AcademicDegree

abbrev shape : FactShape :=
  .text "degree" (.fact "branch" Branch.schema.name Branch.shape (.text "suffix" .done))

def parts (degree : AcademicDegree) : shape.Value :=
  (degree.degree, degree.branch.parts, degree.suffix, ())

theorem parts_injective : parts.Injective := by
  rintro ⟨degree, branch, suffix⟩ ⟨degree', branch', suffix'⟩ h
  obtain ⟨rfl, hrest⟩ := Prod.mk.inj h
  obtain ⟨hbranch, hsuffix⟩ := Prod.mk.inj hrest
  obtain rfl := Branch.parts_injective hbranch
  obtain ⟨rfl, _⟩ := Prod.mk.inj hsuffix
  rfl

theorem map_ofRecord (record : Record) :
    (ofRecord record).map parts = shape.decode schema.name record := by
  rw [ofRecord, FactShape.decode, FactShape.decode, FactShape.decode]
  simp only [← Branch.map_ofRecord]
  cases record.requireText schema.name "degree" with
  | error e => rfl
  | ok degree =>
    cases record.requireRecord schema.name "branch" with
    | error e => rfl
    | ok nested =>
      dsimp only [bind, Except.bind]
      cases Branch.ofRecord nested with
      | error e => rfl
      | ok branch => cases record.requireText schema.name "suffix" <;> rfl

theorem readsBy : FactType.ReadsBy AcademicDegree shape parts :=
  .of_decode rfl parts_injective map_ofRecord

end AcademicDegree

namespace Thesis

abbrev shape : FactShape :=
  .optionalText "kind" (.text "title"
    (.optionalFact "speciality" Speciality.schema.name Speciality.shape
      (.optionalFact "degree" AcademicDegree.schema.name AcademicDegree.shape .done)))

def parts (thesis : Thesis) : shape.Value :=
  (thesis.kind, thesis.title, thesis.speciality.map Speciality.parts,
    thesis.degree.map AcademicDegree.parts, ())

theorem parts_injective : parts.Injective := by
  rintro ⟨kind, title, speciality, degree⟩ ⟨kind', title', speciality', degree'⟩ h
  obtain ⟨rfl, hrest⟩ := Prod.mk.inj h
  obtain ⟨rfl, hnested⟩ := Prod.mk.inj hrest
  obtain ⟨hspeciality, hlast⟩ := Prod.mk.inj hnested
  obtain ⟨hdegree, _⟩ := Prod.mk.inj hlast
  obtain rfl := Option.map_injective Speciality.parts_injective hspeciality
  obtain rfl := Option.map_injective AcademicDegree.parts_injective hdegree
  rfl

theorem map_ofRecord (record : Record) :
    (ofRecord record).map parts = shape.decode schema.name record := by
  rw [ofRecord, FactShape.decode, FactShape.decode, FactShape.decode, FactShape.decode,
    FactShape.mapM_decode Speciality.map_ofRecord,
    FactShape.mapM_decode AcademicDegree.map_ofRecord]
  cases record.requireText schema.name "title" with
  | error e => rfl
  | ok title =>
    cases (record.record? "speciality").mapM Speciality.ofRecord with
    | error e => rfl
    | ok speciality => cases (record.record? "degree").mapM AcademicDegree.ofRecord <;> rfl

theorem readsBy : FactType.ReadsBy Thesis shape parts :=
  .of_decode rfl parts_injective map_ofRecord

end Thesis

/-- The six types of academic facts read records by their shapes. -/
theorem ofRecord_readsBy :
    FactType.ReadsBy PersonName PersonName.shape PersonName.parts ∧
      FactType.ReadsBy Department Department.shape Department.parts ∧
      FactType.ReadsBy Speciality Speciality.shape Speciality.parts ∧
      FactType.ReadsBy Branch Branch.shape Branch.parts ∧
      FactType.ReadsBy AcademicDegree AcademicDegree.shape AcademicDegree.parts ∧
      FactType.ReadsBy Thesis Thesis.shape Thesis.parts :=
  ⟨PersonName.readsBy, Department.readsBy, Speciality.readsBy, Branch.readsBy,
    AcademicDegree.readsBy, Thesis.readsBy⟩

example (record : Record) (code name : String) :
    Speciality.shape.Reads record (Speciality.parts ⟨some code, none, name⟩) ↔
      record.Holds "code" (.text code) ∧ (∀ s, ¬ record.Holds "hyphen" (.text s)) ∧
        record.Holds "name" (.text name) ∧ True :=
  Iff.rfl

example :
    Thesis.ofRecord ⟨"", [("title", .text "t"), ("kind", .record ⟨"", []⟩),
      ("degree", .record ⟨"Thesis", [("degree", .text "d"), ("branch", .record ⟨"", []⟩)]⟩)]⟩ =
        .error (.missingRequiredField "Branch" "name") :=
  rfl

end Academic

end FactGrammar
