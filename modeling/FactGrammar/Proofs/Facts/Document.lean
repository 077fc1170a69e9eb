import FactGrammar.Proofs.Facts.Layout

namespace FactGrammar

open Reader

namespace Xml

structure FactElement where
  factId : Nat
  leadId : Nat
  attributes : List Attribute
  deriving DecidableEq, Repr

structure Document where
  url : String
  date : String
  facts : List FactElement
  deriving DecidableEq, Repr

def number? (s : String) : Option Nat :=
  if s.toList ≠ [] ∧ s.toList.all Char.isDigit then some (Nat.ofDigitChars 10 s.toList 0) else none

/-- The values of an opening tag that has this name and attributes under these keys. -/
def readOpening (name : String) (keys : List String) : Reader Tag (List String)
  | .opening n attributes :: rest =>
    if n = name ∧ attributes.map (·.1) = keys then some (attributes.map (·.2), rest) else none
  | _ => none

def readValue : Reader Tag Attribute
  | .empty name [(key, value)] :: rest =>
    if key = "val" then (FactKind.ofName? name).map fun kind => (⟨kind, value⟩, rest) else none
  | _ => none

def readFact : Reader Tag FactElement := do
  let [id, lead] ← readOpening "Fact" ["FactID", "LeadID"] | fail
  let attributes ← many readValue
  exactly [.closing "Fact"]
  let (some factId, some leadId) := (number? id, number? lead) | fail
  return ⟨factId, leadId, attributes⟩

def readFacts : Reader Tag (List FactElement) :=
  (do exactly [.empty "facts" []]; return []) <|>
    (do
      exactly [.opening "facts" []]
      let facts ← many readFact
      exactly [.closing "facts"]
      return facts)

def readDocument : Reader Tag Document := do
  exactly [.declaration [("version", "1.0"), ("encoding", "UTF-8")], .opening "fdo_objects" []]
  let [url, date] ← readOpening "document" ["url", "date"] | fail
  let facts ← readFacts
  exactly [.closing "document", .closing "fdo_objects"]
  return ⟨url, date, facts⟩

def readDocument? (text : String) : Option Document := do
  readAll? readDocument (← readTags text)

theorem reads_opening_tag (name : String) (attributes : List (String × String)) :
    AlwaysReads (readOpening name (attributes.map (·.1))) [.opening name attributes]
      (attributes.map (·.2)) := by
  intro rest _
  exact if_pos ⟨rfl, rfl⟩

theorem isDigit_of_mem_toString (n : Nat) : ∀ c ∈ (toString n).toList, c.isDigit = true := by
  intro c hc
  exact Nat.isDigit_of_mem_toDigits (by decide) (by decide) (Nat.toList_repr ▸ hc)

theorem number?_toString (n : Nat) : number? (toString n) = some n := by
  have hne : (toString n).toList ≠ [] := by
    change n.repr.toList ≠ []
    rw [Nat.toList_repr]
    exact Nat.toDigits_ne_nil
  have hvalue : Nat.ofDigitChars 10 (toString n).toList 0 = n := by
    change Nat.ofDigitChars 10 n.repr.toList 0 = n
    rw [Nat.toList_repr, Nat.ofDigitChars_ten_toDigits]
  rw [number?, if_pos ⟨hne, List.all_eq_true.2 (isDigit_of_mem_toString n)⟩, hvalue]

theorem allowed_toString (n : Nat) : allowed (toString n) = toString n := by
  apply allowed_eq_self
  intro c hc
  apply isXmlChar_of_isNameChar
  rw [isNameChar, Char.isAlphanum, isDigit_of_mem_toString n c hc, Bool.or_true, Bool.true_or]

end Xml

/-- The value with a replacement character for each character that XML does not allow. -/
def Attribute.allowed (a : Attribute) : Attribute :=
  { a with value := Xml.allowed a.value }

namespace Xml

def elementOf (fact : Fact) : FactElement :=
  ⟨fact.id, fact.id, fact.attributes.map Attribute.allowed⟩

theorem reads_value (a : Attribute) :
    AlwaysReads readValue [(Tag.empty a.kind.name [("val", a.value)]).allowed] a.allowed := by
  intro rest _
  change (FactKind.ofName? a.kind.name).map _ = _
  rw [FactKind.ofName_name]
  rfl

theorem reads_fact (fact : Fact) :
    AlwaysReads readFact ((factLayout fact).map fun l => l.2.allowed) (elementOf fact) := by
  have hnumber := number?_toString fact.id
  have htags : ((factLayout fact).map fun l => l.2.allowed) =
      [.opening "Fact" [("FactID", toString fact.id), ("LeadID", toString fact.id)]] ++
        (fact.attributes.flatMap (fun a => [(Tag.empty a.kind.name [("val", a.value)]).allowed]) ++
          ([.closing "Fact"] ++ [])) := by
    have hid := allowed_toString fact.id
    rw [← List.map_eq_flatMap]
    simp only [factLayout, List.map_append, List.map_cons, List.map_nil, List.map_map,
      List.append_assoc, Tag.allowed, allowedValues, hid]
    rfl
  have hopening : AlwaysReads (readOpening "Fact" ["FactID", "LeadID"])
      [.opening "Fact" [("FactID", toString fact.id), ("LeadID", toString fact.id)]]
      [toString fact.id, toString fact.id] :=
    reads_opening_tag "Fact" [("FactID", toString fact.id), ("LeadID", toString fact.id)]
  rw [htags]
  apply hopening.bind
  apply (Reads.many (fun a _ => reads_value a) fun a _ => List.cons_ne_nil _ _).bind
  · apply (Reads.exactly [Tag.closing "Fact"]).bind
    rw [hnumber]
    exact Reads.pure _
  · intro rest _
    rfl

theorem reads_facts (collection : FactCollection) :
    AlwaysReads readFacts ((factsLayout collection).map fun l => l.2.allowed)
      (collection.facts.toList.map elementOf) := by
  rw [factsLayout]
  split
  · rename_i hempty
    have hnil : collection.facts.toList = [] :=
      Array.toList_eq_nil_iff.2 (Array.isEmpty_iff.1 hempty)
    rw [hnil]
    change AlwaysReads readFacts ([.empty "facts" []] ++ []) []
    apply Reads.orElse_left
    apply (Reads.exactly [Tag.empty "facts" []]).bind
    exact Reads.pure _
  · have htags : List.map (fun l : Nat × Tag => l.2.allowed)
        ([(2, .opening "facts" [])] ++ collection.facts.toList.flatMap factLayout ++
          [(2, .closing "facts")]) =
        [.opening "facts" []] ++
          (collection.facts.toList.flatMap (fun fact => (factLayout fact).map fun l =>
            l.2.allowed) ++ ([.closing "facts"] ++ [])) := by
      rw [List.map_append, List.map_append, List.map_flatMap, List.append_assoc]
      rfl
    rw [htags]
    apply Reads.orElse_right
    · intro rest
      exact bind_of_eq_none (exactly_of_ne (by decide))
    · apply (Reads.exactly [Tag.opening "facts" []]).bind
      apply (Reads.many (fun fact _ => reads_fact fact) fun fact _ => ?_).bind
      · apply (Reads.exactly [Tag.closing "facts"]).bind
        exact Reads.pure _
      · intro rest _
        rfl
      · exact List.cons_ne_nil _ _

theorem reads_document (collection : FactCollection) (url : String) :
    AlwaysReads readDocument ((layout collection url).map fun l => l.2.allowed)
      ⟨allowed url, "", collection.facts.toList.map elementOf⟩ := by
  have hdeclaration : (Tag.declaration [("version", "1.0"), ("encoding", "UTF-8")]).allowed =
      .declaration [("version", "1.0"), ("encoding", "UTF-8")] := by
    decide +kernel
  have hopening : AlwaysReads (readOpening "document" ["url", "date"])
      [.opening "document" [("url", allowed url), ("date", "")]] [allowed url, ""] :=
    reads_opening_tag "document" [("url", allowed url), ("date", "")]
  have htags : ((layout collection url).map fun l => l.2.allowed) =
      [.declaration [("version", "1.0"), ("encoding", "UTF-8")], .opening "fdo_objects" []] ++
        ([.opening "document" [("url", allowed url), ("date", "")]] ++
          (((factsLayout collection).map fun l => l.2.allowed) ++
            ([.closing "document", .closing "fdo_objects"] ++ []))) := by
    rw [layout, List.map_append, List.map_append, List.append_assoc]
    simp only [List.map_cons, List.map_nil, hdeclaration]
    rfl
  rw [htags]
  apply (Reads.exactly [_, _]).bind
  apply hopening.bind
  apply (reads_facts collection).bind
  apply (Reads.exactly [_, _]).bind
  exact Reads.pure _

theorem readDocument?_toXml (collection : FactCollection) (url : String) :
    readDocument? (collection.toXml url) =
      some ⟨allowed url, "", collection.facts.toList.map elementOf⟩ := by
  rw [readDocument?, readTags_toXml]
  exact (reads_document collection url).readAll trivial

theorem elementOf_eq_self {fact : Fact} (h : ∀ a ∈ fact.attributes, IsXmlText a.value) :
    elementOf fact = ⟨fact.id, fact.id, fact.attributes⟩ := by
  have hself : ∀ a ∈ fact.attributes, a.allowed = id a := by
    intro a ha
    rw [Attribute.allowed, allowed_eq_self (h a ha)]
    rfl
  rw [elementOf, List.map_congr_left hself, List.map_id]

end Xml

namespace FactCollection

def IsXml (collection : FactCollection) : Prop :=
  ∀ fact ∈ collection.facts.toList, ∀ a ∈ fact.attributes, Xml.IsXmlText a.value

theorem toXml_injective {collection collection' : FactCollection} {url url' : String}
    (h : collection.IsXml) (h' : collection'.IsXml) (hurl : Xml.IsXmlText url)
    (hurl' : Xml.IsXmlText url') (heq : collection.toXml url = collection'.toXml url') :
    collection = collection' ∧ url = url' := by
  have hread := congrArg Xml.readDocument? heq
  rw [Xml.readDocument?_toXml, Xml.readDocument?_toXml, Option.some.injEq] at hread
  obtain ⟨hallowed, _, hfacts⟩ := Xml.Document.mk.inj hread
  rw [Xml.allowed_eq_self hurl, Xml.allowed_eq_self hurl'] at hallowed
  rw [List.map_congr_left fun fact hfact => Xml.elementOf_eq_self (h fact hfact),
    List.map_congr_left fun fact hfact => Xml.elementOf_eq_self (h' fact hfact)] at hfacts
  have hinjective {fact fact' : Fact}
      (helement : (⟨fact.id, fact.id, fact.attributes⟩ : Xml.FactElement) =
        ⟨fact'.id, fact'.id, fact'.attributes⟩) : fact = fact' := by
    obtain ⟨hid, _, hattributes⟩ := Xml.FactElement.mk.inj helement
    cases fact
    cases fact'
    cases hid
    cases hattributes
    rfl
  have hlists := (List.map_inj_right fun _ _ => hinjective).1 hfacts
  refine ⟨?_, hallowed⟩
  cases collection
  cases collection'
  exact congrArg mk (Array.toList_inj.1 hlists)

/-- A document holds only characters that XML allows, its tags are those of the collection whatever
the values are, and the address and the facts can be read off it. -/
theorem toXml_reads_back (collection : FactCollection) (url : String) :
    (∀ c ∈ (collection.toXml url).toList, Xml.IsXmlChar c) ∧
      Xml.readTags (collection.toXml url) =
        some ((Xml.layout collection url).map fun l => l.2.allowed) ∧
      Xml.readDocument? (collection.toXml url) =
        some ⟨Xml.allowed url, "", collection.facts.toList.map fun fact =>
          ⟨fact.id, fact.id, fact.attributes.map Attribute.allowed⟩⟩ ∧
      ∀ (collection' : FactCollection) (url' : String), collection.IsXml → Xml.IsXmlText url →
        collection'.IsXml → Xml.IsXmlText url' →
          collection.toXml url = collection'.toXml url' →
            collection = collection' ∧ url = url' := by
  refine ⟨Xml.isXmlChar_of_mem_toXml collection url, Xml.readTags_toXml collection url,
    Xml.readDocument?_toXml collection url, ?_⟩
  intro collection' url' h hurl h' hurl' heq
  exact toXml_injective h h' hurl hurl' heq

theorem toXml_reads_back_markup :
    let plain := (empty.addOne .thesis "\"/><a>").1
    let escaped := (empty.addOne .thesis "\"/>&lt;a>").1
    plain.IsXml ∧ escaped.IsXml ∧ plain.toXml "a&b" ≠ escaped.toXml "a&b" ∧
      Xml.readDocument? (plain.toXml "a&b\u0001\uffff") =
        some ⟨"a&b\ufffd\ufffd", "", [⟨1, 1, [⟨.thesis, "\"/><a>"⟩]⟩]⟩ := by
  intro plain escaped
  have hxml {s : String} (h : s.toList.all Xml.isXmlChar = true) : Xml.IsXmlText s :=
    Xml.isXmlChar_of_all h
  have hplain : plain.IsXml :=
    List.forall_mem_singleton.2 (List.forall_mem_singleton.2 (hxml (by decide)))
  have hescaped : escaped.IsXml :=
    List.forall_mem_singleton.2 (List.forall_mem_singleton.2 (hxml (by decide)))
  have hurl : Xml.IsXmlText "a&b" := hxml (by decide)
  obtain ⟨_, _, _, hinjective⟩ := toXml_reads_back plain "a&b"
  obtain ⟨_, _, hread, _⟩ := toXml_reads_back plain "a&b\u0001\uffff"
  refine ⟨hplain, hescaped, ?_, ?_⟩
  · intro heq
    have hsame := (hinjective escaped "a&b" hplain hurl hescaped hurl heq).1
    revert hsame
    decide
  · rw [hread]
    decide +kernel

end FactCollection

end FactGrammar
