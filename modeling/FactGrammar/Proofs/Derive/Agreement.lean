import FactGrammar.Proofs.Derive.Options
import FactGrammar.Proofs.Derive.Readback

namespace FactGrammar.Derive

variable {explain : Attribute → String} {f : Field} {plan : FieldPlan} {type t : TypeExpr}

namespace TypeExpr

/-- The type of values of another type that may be missing: a plain path that ends in `Option` with
that type as its only argument. -/
def IsOptionOf (type t : TypeExpr) : Prop :=
  ∃ written, type = .path written ⟨"Option", false⟩ (.angled [.type t])

/-- The type of text: a plain path that ends in `String` without arguments. -/
def IsString (type : TypeExpr) : Prop :=
  ∃ written arguments, type = .path written ⟨"String", false⟩ arguments ∧ arguments.isEmpty = true

theorem optional?_eq_some_iff : type.optional? = some t ↔ type.IsOptionOf t := by
  constructor
  · intro h
    rw [optional?.eq_def] at h
    split at h
    · cases h
      exact ⟨_, rfl⟩
    · cases h
  · rintro ⟨written, rfl⟩
    rfl

theorem isText_iff : type.isText = true ↔ type.IsString := by
  constructor
  · intro h
    rw [isText.eq_def] at h
    split at h
    · exact ⟨_, _, rfl, h⟩
    · cases h
  · rintro ⟨written, arguments, rfl, h⟩
    exact h

def valueType (type : TypeExpr) : TypeExpr :=
  type.optional?.getD type

theorem isText_valueType_iff :
    type.valueType.isText = true ↔ type.IsString ∨ ∃ t, type.IsOptionOf t ∧ t.IsString := by
  rw [valueType, isText_iff]
  cases hoption : type.optional? with
  | none =>
    refine ⟨.inl, ?_⟩
    rintro (hstring | ⟨t, ht, _⟩)
    · exact hstring
    · cases hoption.symm.trans (optional?_eq_some_iff.2 ht)
  | some t =>
    refine ⟨fun h => .inr ⟨t, optional?_eq_some_iff.1 hoption, h⟩, ?_⟩
    rintro (⟨_, _, rfl, _⟩ | ⟨t', ht', hstring⟩)
    · cases hoption
    · cases hoption.symm.trans (optional?_eq_some_iff.2 ht')
      exact hstring

theorem isNone_optional?_iff :
    type.optional?.isNone = true ↔ ¬∃ t, type.IsOptionOf t := by
  rw [Option.isNone_iff_eq_none, Option.eq_none_iff_forall_ne_some, not_exists]
  exact forall_congr' fun t => not_congr optional?_eq_some_iff

end TypeExpr

/-- An attribute of the field lists the option for normalized text. -/
def Field.CarriesNormalized (f : Field) : Prop :=
  .word ⟨false, [⟨"normalized", false⟩]⟩ ∈ listedOptions f.attributes

/-- The description of a field and the way its value is made agree with one another and with the
declaration. -/
structure Agree (factName : String) (f : Field) (spec : SpecView) (init : InitView) : Prop where
  ident : init.ident = f.name
  name : spec.name = f.name.name
  lookup : init.name = spec.name
  content : init.isText = spec.isText
  missing : init.missing = if spec.isRequired then some (factName, spec.name) else none
  required : spec.isRequired = true ↔ ¬∃ t, f.type.IsOptionOf t
  text : spec.isText = true ↔ f.type.IsString ∨ ∃ t, f.type.IsOptionOf t ∧ t.IsString
  normalized : spec.isNormalized = true ↔ spec.isText = true ∧ f.CarriesNormalized
  type : init.type = if spec.isText then none else some f.type.valueType.trees

theorem eq_of_requireNormalized (h : requireNormalized option = .ok ()) :
    option = .word ⟨false, [⟨"normalized", false⟩]⟩ := by
  rw [requireNormalized.eq_def] at h
  split at h
  · split at h
    · rename_i hword
      rw [of_decide_eq_true hword]
    · cases h
  · cases h

theorem Field.carriesNormalized_iff (hoptions : factOptions explain f.attributes = .ok options)
    (hall : options.forM requireNormalized = .ok ()) :
    f.CarriesNormalized ↔ (!options.isEmpty) = true := by
  rw [CarriesNormalized, ← eq_listedOptions hoptions]
  constructor
  · intro hmem
    cases options with
    | nil => cases hmem
    | cons option options => rfl
  · intro hne
    cases options with
    | nil => cases hne
    | cons option options =>
      rw [← eq_of_requireNormalized (of_forM_eq_ok hall List.mem_cons_self)]
      exact List.mem_cons_self

theorem Field.plan_eq (h : f.plan explain = .ok plan) :
    plan.ident = f.name ∧ plan.isRequired = f.type.optional?.isNone ∧
      plan.content = (if f.type.valueType.isText then .text else .nested f.type.valueType) ∧
      (plan.isNormalized = true ↔ f.type.valueType.isText = true ∧ f.CarriesNormalized) := by
  obtain ⟨options, hoptions, h⟩ := exists_of_bind_eq_ok h
  obtain ⟨_, hall, h⟩ := exists_of_bind_eq_ok h
  have hcarries := carriesNormalized_iff hoptions hall
  change (if f.type.valueType.isText = true then _ else _) = _ at h
  split at h
  · rename_i htext
    cases h
    exact ⟨rfl, rfl, (if_pos htext).symm, by rw [hcarries, and_iff_right htext]⟩
  · rename_i htext
    split at h
    · cases h
    · cases h
      exact ⟨rfl, rfl, (if_neg htext).symm, nofun, fun hboth => absurd hboth.1 htext⟩

theorem Field.agree_of_plan (factName : String) (h : f.plan explain = .ok plan) :
    Agree factName f plan.specView (plan.initView factName) := by
  obtain ⟨hident, hrequired, hcontent, hnormalized⟩ := plan_eq h
  have htext : plan.isText = f.type.valueType.isText := by
    rw [FieldPlan.isText, hcontent]
    cases f.type.valueType.isText <;> rfl
  exact {
    ident := hident
    name := congrArg Ident.name hident
    lookup := rfl
    content := rfl
    missing := rfl
    required := by
      rw [FieldPlan.specView, hrequired]
      exact TypeExpr.isNone_optional?_iff
    text := by
      rw [FieldPlan.specView, htext]
      exact TypeExpr.isText_valueType_iff
    normalized := by
      rw [FieldPlan.specView, htext]
      exact hnormalized
    type := by
      rw [FieldPlan.specView, htext, FieldPlan.initView, hcontent]
      cases f.type.valueType.isText <;> rfl }

theorem Item.of_implementation {item : Item} (h : item.implementation explain = .ok trees) :
    ∃ (p : Plan) (fields : List Field), trees = p.implementation ∧ item.body = .named fields ∧
      item.factName explain = .ok p.factName ∧ p.ident = item.name ∧
      List.Forall₂ (fun (f : Field) plan => f.plan explain = .ok plan) fields p.fields := by
  cases hplan : item.plan explain with
  | error e =>
    rw [implementation, hplan] at h
    cases h
  | ok p =>
    rw [implementation, hplan] at h
    cases h
    obtain ⟨factName, hname, hplan⟩ := exists_of_bind_eq_ok hplan
    obtain ⟨plans, hplans, hplan⟩ := exists_of_bind_eq_ok hplan
    cases hplan
    cases hbody : item.body with
    | named fields =>
      rw [hbody] at hplans
      exact ⟨_, fields, rfl, rfl, hname, rfl, forall₂_of_mapM_eq_ok hplans⟩
    | unnamed =>
      rw [hbody] at hplans
      cases hplans
    | notStruct =>
      rw [hbody] at hplans
      cases hplans

/-- Schema and decoding of an item agree: both are read back from its implementation, with one entry
for each field that is declared, in that order, and every failure names the fact of the schema. -/
theorem halves_agree (explain : Attribute → String) (item : Item) (trees : List Tree)
    (h : item.implementation explain = .ok trees) :
    ∃ (fields : List Field) (halves : Halves), item.body = .named fields ∧
      readHalves? trees = some halves ∧ item.factName explain = .ok halves.factName ∧
      halves.ident = item.name ∧ halves.specs.length = fields.length ∧
      halves.inits.length = fields.length ∧
      ∀ (i : Nat) (f : Field) (spec : SpecView) (init : InitView), fields[i]? = some f →
        halves.specs[i]? = some spec → halves.inits[i]? = some init →
          Agree halves.factName f spec init := by
  obtain ⟨p, fields, rfl, hbody, hname, hident, hplans⟩ := Item.of_implementation h
  have hlength := hplans.length_eq
  refine ⟨fields, p.halves, hbody, p.readHalves?_implementation, hname, hident,
    (List.length_map _).trans hlength.symm, (List.length_map _).trans hlength.symm, ?_⟩
  intro i f spec init hf hspec hinit
  obtain ⟨hi, rfl⟩ := List.getElem?_eq_some_iff.1 hf
  have hp : i < p.fields.length := hlength ▸ hi
  have hplan := (List.forall₂_iff_get.1 hplans).2 i hi hp
  rw [Plan.halves, List.getElem?_map, List.getElem?_eq_getElem hp] at hspec hinit
  cases hspec
  cases hinit
  exact Field.agree_of_plan p.factName hplan

/-- An item with a name of its own, fields of all kinds and a type with arguments. -/
def personText : String :=
  "#[fact(name = \"Name\")] struct Person<T> \x7b first: Option<String>, " ++
    "#[fact(normalized)] r#type: std::string::String, degree: Option<Degree<fn() -> T>>, \x7d"

theorem halves_agree_person :
    ∃ (item : Item) (trees : List Tree) (fields : List Field) (halves : Halves),
      Item.ofText? personText = some item ∧ item.implementation (fun _ => "") = .ok trees ∧
        item.body = .named fields ∧ readHalves? trees = some halves ∧
        item.factName (fun _ => "") = .ok halves.factName ∧
        halves.specs = [⟨"first", true, false, false⟩, ⟨"type", true, true, true⟩,
          ⟨"degree", false, false, false⟩] ∧
        ∀ (i : Nat) (f : Field) (spec : SpecView) (init : InitView), fields[i]? = some f →
          halves.specs[i]? = some spec → halves.inits[i]? = some init →
            Agree halves.factName f spec init := by
  have hspecs : (Item.ofText? personText).bind (fun item =>
      (item.implementation (fun _ => "")).toOption.bind
        fun trees => (readHalves? trees).map Halves.specs) =
        some [⟨"first", true, false, false⟩, ⟨"type", true, true, true⟩,
          ⟨"degree", false, false, false⟩] := by
    decide +kernel
  obtain ⟨item, hitem, hspecs⟩ := Option.bind_eq_some_iff.1 hspecs
  obtain ⟨trees, htrees, hspecs⟩ := Option.bind_eq_some_iff.1 hspecs
  obtain ⟨halves, hhalves, hspecs⟩ := Option.map_eq_some_iff.1 hspecs
  have h : item.implementation (fun _ => "") = .ok trees := by
    cases himplementation : item.implementation (fun _ => "") with
    | error e =>
      rw [himplementation] at htrees
      cases htrees
    | ok found =>
      rw [himplementation] at htrees
      cases htrees
      rfl
  obtain ⟨fields, _, hbody, hread, hname, _, _, _, hagree⟩ := halves_agree _ item trees h
  cases hhalves.symm.trans hread
  exact ⟨item, trees, fields, _, hitem, h, hbody, hread, hname, hspecs, hagree⟩

end FactGrammar.Derive
