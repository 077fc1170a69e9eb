import FactGrammar.Facts.Xml
import FactGrammar.Proofs.Reading

namespace FactGrammar.Xml

open Reader

inductive Tag where
  | declaration (attributes : List (String × String))
  | opening (name : String) (attributes : List (String × String))
  | empty (name : String) (attributes : List (String × String))
  | closing (name : String)
  deriving DecidableEq, Repr

def isBlank (c : Char) : Bool :=
  c == ' ' || c == '\t' || c == '\r' || c == '\n'

def isNameChar (c : Char) : Bool :=
  c.isAlphanum || c == '_'

def readName : Reader Char String := do
  let name ← takeWhile1 isNameChar
  return String.ofList name

def readEntity (name : String) (c : Char) : Reader Char Char := do
  exactly ('&' :: (name.toList ++ [';']))
  return c

def readChar : Reader Char Char :=
  readEntity "amp" '&' <|> readEntity "lt" '<' <|> readEntity "gt" '>' <|>
    readEntity "quot" '"' <|> readEntity "apos" '\'' <|>
    satisfy fun c => c != '&' && c != '<' && c != '"'

def readAttribute : Reader Char (String × String) := do
  let _ ← takeWhile1 isBlank
  let name ← readName
  exactly ['=', '"']
  let value ← many readChar
  exactly ['"']
  return (name, String.ofList value)

def readDeclaration : Reader Char Tag := do
  exactly ['?', 'x', 'm', 'l']
  let attributes ← many readAttribute
  exactly ['?', '>']
  return .declaration attributes

def readClosing : Reader Char Tag := do
  exactly ['/']
  let name ← readName
  exactly ['>']
  return .closing name

def readElement : Reader Char Tag := do
  let name ← readName
  let attributes ← many readAttribute
  (do exactly ['>']; return .opening name attributes) <|>
    (do exactly ['/', '>']; return .empty name attributes)

def readTag : Reader Char Tag := do
  exactly ['<']
  readDeclaration <|> readClosing <|> readElement

/-- The tags of a text, if it holds nothing but tags with blanks before them. -/
def readTags (text : String) : Option (List Tag) :=
  readAll? (many (do let _ ← takeWhile isBlank; readTag)) text.toList

/-- The characters of XML 1.0, by their code points. -/
def IsXmlChar (c : Char) : Prop :=
  c.toNat ∈ [0x9, 0xA, 0xD] ∨ (0x20 ≤ c.toNat ∧ c.toNat ≤ 0xD7FF) ∨
    (0xE000 ≤ c.toNat ∧ c.toNat ≤ 0xFFFD) ∨ (0x10000 ≤ c.toNat ∧ c.toNat ≤ 0x10FFFF)

instance (c : Char) : Decidable (IsXmlChar c) :=
  inferInstanceAs (Decidable (_ ∨ _))

def IsXmlText (s : String) : Prop :=
  ∀ c ∈ s.toList, IsXmlChar c

/-- A text with U+FFFD in place of each character that XML does not allow. -/
def allowed (s : String) : String :=
  String.ofList (s.toList.map fun c => if IsXmlChar c then c else '\ufffd')

def allowedValues (attributes : List (String × String)) : List (String × String) :=
  attributes.map fun a => (a.1, allowed a.2)

/-- A text that can be the name of an element or of an attribute. -/
structure IsName (name : String) : Prop where
  ne_nil : name.toList ≠ []
  letters : ∀ c ∈ name.toList, isNameChar c = true

instance (name : String) : Decidable (IsName name) :=
  decidable_of_iff (name.toList ≠ [] ∧ name.toList.all isNameChar = true)
    ⟨fun h => ⟨h.1, List.all_eq_true.1 h.2⟩, fun h => ⟨h.ne_nil, List.all_eq_true.2 h.letters⟩⟩

def attributeChars (a : String × String) : List Char :=
  (attributeText a.1 a.2).toList

namespace Tag

def chars : Tag → List Char
  | declaration attributes =>
    ['<', '?', 'x', 'm', 'l'] ++ (attributes.flatMap attributeChars ++ ['?', '>'])
  | opening name attributes =>
    ['<'] ++ (name.toList ++ (attributes.flatMap attributeChars ++ ['>']))
  | empty name attributes =>
    ['<'] ++ (name.toList ++ (attributes.flatMap attributeChars ++ ['/', '>']))
  | closing name => ['<', '/'] ++ (name.toList ++ ['>'])

def allowed : Tag → Tag
  | declaration attributes => declaration (allowedValues attributes)
  | opening name attributes => opening name (allowedValues attributes)
  | empty name attributes => empty name (allowedValues attributes)
  | closing name => closing name

def names : Tag → List String
  | declaration attributes => attributes.map (·.1)
  | opening name attributes => name :: attributes.map (·.1)
  | empty name attributes => name :: attributes.map (·.1)
  | closing name => [name]

def Named (tag : Tag) : Prop :=
  ∀ name ∈ tag.names, IsName name

namespace Named

variable {attributes : List (String × String)}

theorem declaration (h : (Tag.declaration attributes).Named) : ∀ a ∈ attributes, IsName a.1 :=
  List.forall_mem_map.1 h

theorem opening (h : (Tag.opening name attributes).Named) :
    IsName name ∧ ∀ a ∈ attributes, IsName a.1 := by
  obtain ⟨hname, hattributes⟩ := List.forall_mem_cons.1 h
  exact ⟨hname, List.forall_mem_map.1 hattributes⟩

theorem empty (h : (Tag.empty name attributes).Named) :
    IsName name ∧ ∀ a ∈ attributes, IsName a.1 :=
  opening h

theorem closing (h : (Tag.closing name).Named) : IsName name :=
  List.forall_mem_singleton.1 h

end Named

end Tag

theorem isXmlChar_iff : isXmlChar c = true ↔ IsXmlChar c := by
  simp only [isXmlChar, IsXmlChar, Bool.or_eq_true, Bool.and_eq_true, beq_iff_eq,
    decide_eq_true_eq, List.mem_cons, List.not_mem_nil, or_false, or_assoc]

theorem allowed_eq_map (s : String) : allowed s = String.ofList (s.toList.map allowedChar) := by
  refine congrArg String.ofList (List.map_congr_left fun c _ => ?_)
  rw [allowedChar]
  by_cases h : IsXmlChar c
  · rw [if_pos h, if_pos (isXmlChar_iff.2 h)]
  · rw [if_neg h, if_neg fun hc => h (isXmlChar_iff.1 hc)]

theorem isXmlChar_of_isNameChar (h : isNameChar c = true) : IsXmlChar c := by
  have hrange : 0x20 ≤ c.toNat ∧ c.toNat ≤ 0xD7FF := by
    change (decide ('A'.val ≤ c.val ∧ c.val ≤ 'Z'.val) ||
      ('a'.val ≤ c.val && c.val ≤ 'z'.val) || ('0'.val ≤ c.val && c.val ≤ '9'.val) ||
      c == '_') = true at h
    simp only [Bool.or_eq_true, Bool.and_eq_true, decide_eq_true_eq, beq_iff_eq,
      UInt32.le_iff_toNat_le, Char.reduceVal, UInt32.reduceToNat] at h
    rw [Char.toNat]
    rcases h with ((h | h) | h) | rfl
    · omega
    · omega
    · omega
    · decide
  exact .inr (.inl hrange)

theorem isXmlChar_allowedChar (c : Char) : IsXmlChar (allowedChar c) := by
  rw [allowedChar]
  split
  · exact isXmlChar_iff.1 ‹_›
  · decide

theorem allowed_eq_self (h : IsXmlText s) : allowed s = s := by
  have hself : ∀ c ∈ s.toList, (if IsXmlChar c then c else '\ufffd') = id c := by
    intro c hc
    rw [if_pos (h c hc)]
    rfl
  rw [allowed, List.map_congr_left hself, List.map_id, String.ofList_toList]

theorem isXmlChar_of_all {cs : List Char} (h : cs.all isXmlChar = true) : ∀ c ∈ cs, IsXmlChar c :=
  fun c hc => isXmlChar_iff.1 (List.all_eq_true.1 h c hc)

theorem isXmlChar_of_mem_escapeChar (hc : IsXmlChar c) (hd : d ∈ escapeChar c) :
    IsXmlChar d := by
  rw [escapeChar.eq_def] at hd
  split at hd
  · exact isXmlChar_of_all rfl d hd
  · exact isXmlChar_of_all rfl d hd
  · exact isXmlChar_of_all rfl d hd
  · exact isXmlChar_of_all rfl d hd
  · exact isXmlChar_of_all rfl d hd
  · rw [List.mem_singleton.1 hd]
    exact hc

theorem isXmlChar_of_mem_escape (s : String) : IsXmlText (escape s) := by
  intro d hd
  rw [escape, String.toList_ofList] at hd
  obtain ⟨c, hc, hd⟩ := List.mem_flatMap.1 hd
  obtain ⟨c', _, rfl⟩ := List.mem_map.1 hc
  exact isXmlChar_of_mem_escapeChar (isXmlChar_allowedChar c') hd

theorem readEntity_of_ne (h : c ≠ '&') (name : String) (d : Char) (rest : List Char) :
    readEntity name d (c :: rest) = none :=
  bind_of_eq_none (exactly_of_ne h.symm)

theorem reads_escapeChar (c : Char) : AlwaysReads readChar (escapeChar c) c := by
  intro rest _
  rw [escapeChar.eq_def]
  split
  · rfl
  · rfl
  · rfl
  · rfl
  · rfl
  · rename_i hamp hlt hgt hquot hapos
    have hsatisfy : satisfy (fun c => c != '&' && c != '<' && c != '"') (c :: rest) =
        some (c, rest) := by
      rw [satisfy, bne_iff_ne.2 hamp, bne_iff_ne.2 hlt, bne_iff_ne.2 hquot]
      rfl
    have hentity := readEntity_of_ne hamp
    simp only [List.cons_append, List.nil_append, readChar, orElse_apply, hsatisfy, hentity,
      Option.none_or]

theorem escapeChar_ne_nil (c : Char) : escapeChar c ≠ [] := by
  rw [escapeChar.eq_def]
  split
  all_goals exact List.cons_ne_nil _ _

theorem reads_escape (s : String) :
    (many readChar).Reads (escape s).toList (s.toList.map allowedChar)
      fun rest => readChar rest = none := by
  have hread := Reads.many (fun c (_ : c ∈ s.toList.map allowedChar) => reads_escapeChar c)
    fun c _ => escapeChar_ne_nil c
  rw [List.map_id'] at hread
  rw [escape, String.toList_ofList]
  exact hread

theorem not_isBlank_of_isNameChar (h : isNameChar c = true) : isBlank c = false := by
  apply Bool.eq_false_iff.2
  intro hblank
  simp only [isBlank, Bool.or_eq_true, beq_iff_eq] at hblank
  rcases hblank with ((rfl | rfl) | rfl) | rfl
  all_goals exact absurd h (by decide)

namespace IsName

theorem eq_cons (h : IsName name) : ∃ c cs, name.toList = c :: cs ∧ isNameChar c = true := by
  obtain ⟨hne, hletters⟩ := h
  cases hname : name.toList with
  | nil => exact absurd hname hne
  | cons c cs =>
    rw [hname] at hletters
    exact ⟨c, cs, rfl, hletters c List.mem_cons_self⟩

theorem reads (h : IsName name) :
    readName.Reads name.toList name fun rest => rest.takeWhile isNameChar = [] := by
  have hread := (Reads.takeWhile1 h.letters h.ne_nil).map String.ofList
  rw [String.ofList_toList] at hread
  exact hread

theorem takeWhile_isBlank (h : IsName name) (rest : List Char) :
    (name.toList ++ rest).takeWhile isBlank = [] := by
  obtain ⟨c, cs, hname, hc⟩ := h.eq_cons
  rw [hname, List.cons_append, List.takeWhile_cons, not_isBlank_of_isNameChar hc]
  rfl

end IsName

theorem attributeChars_eq (name value : String) : attributeChars (name, value) =
    [' '] ++ (name.toList ++ (['=', '"'] ++ ((escape value).toList ++ (['"'] ++ [])))) := by
  simp [attributeChars, attributeText]

theorem attributeChars_ne_nil (a : String × String) : attributeChars a ≠ [] := by
  rw [attributeChars_eq]
  exact List.cons_ne_nil _ _

theorem reads_attribute (h : IsName name) (value : String) :
    AlwaysReads readAttribute (attributeChars (name, value)) (name, allowed value) := by
  have hblank : (takeWhile1 isBlank).Reads [' '] [' '] fun rest => rest.takeWhile isBlank = [] :=
    Reads.takeWhile1 (List.forall_mem_singleton.2 rfl) (List.cons_ne_nil _ _)
  rw [attributeChars_eq, readAttribute, allowed_eq_map]
  apply hblank.bind
  · apply h.reads.bind
    · apply (Reads.exactly ['=', '"']).bind
      apply (reads_escape value).bind
      · apply (Reads.exactly ['"']).bind
        exact Reads.pure _
      · intro rest _
        rfl
    · intro rest _
      rfl
  · intro rest _
    rw [List.append_assoc]
    exact h.takeWhile_isBlank _

theorem reads_attributes {attributes : List (String × String)}
    (h : ∀ a ∈ attributes, IsName a.1) :
    (many readAttribute).Reads (attributes.flatMap attributeChars) (allowedValues attributes)
      fun rest => readAttribute rest = none := by
  apply Reads.many
  · intro a ha
    exact reads_attribute (h a ha) a.2
  · intro a _
    exact attributeChars_ne_nil a

/-- What stands behind the name of an element does not belong to the name. -/
theorem takeWhile_isNameChar_attributes (attributes : List (String × String))
    (hrest : rest.takeWhile isNameChar = []) :
    (attributes.flatMap attributeChars ++ rest).takeWhile isNameChar = [] := by
  cases attributes with
  | nil => exact hrest
  | cons a attributes =>
    rw [List.flatMap_cons, attributeChars_eq]
    rfl

theorem readDeclaration_of_ne (h : c ≠ '?') (rest : List Char) :
    readDeclaration (c :: rest) = none :=
  bind_of_eq_none (exactly_of_ne h.symm)

theorem readClosing_of_ne (h : c ≠ '/') (rest : List Char) : readClosing (c :: rest) = none :=
  bind_of_eq_none (exactly_of_ne h.symm)

theorem IsName.not_markup (h : IsName name) (rest : List Char) :
    readDeclaration (name.toList ++ rest) = none ∧ readClosing (name.toList ++ rest) = none := by
  obtain ⟨c, cs, hname, hc⟩ := h.eq_cons
  have hne {d : Char} (hd : isNameChar d = false) : c ≠ d := by
    rintro rfl
    rw [hc] at hd
    cases hd
  rw [hname]
  exact ⟨readDeclaration_of_ne (hne rfl) _, readClosing_of_ne (hne rfl) _⟩

theorem reads_declaration {attributes : List (String × String)}
    (h : ∀ a ∈ attributes, IsName a.1) :
    AlwaysReads readDeclaration
      (['?', 'x', 'm', 'l'] ++ (attributes.flatMap attributeChars ++ (['?', '>'] ++ [])))
      (.declaration (allowedValues attributes)) := by
  apply (Reads.exactly ['?', 'x', 'm', 'l']).bind
  apply (reads_attributes h).bind
  · apply (Reads.exactly ['?', '>']).bind
    exact Reads.pure _
  · intro rest _
    rfl

theorem reads_closing (h : IsName name) :
    AlwaysReads readClosing (['/'] ++ (name.toList ++ (['>'] ++ []))) (.closing name) := by
  apply (Reads.exactly ['/']).bind
  apply h.reads.bind
  · apply (Reads.exactly ['>']).bind
    exact Reads.pure _
  · intro rest _
    rfl

/-- The end of the tag of an element tells whether the element is empty. -/
theorem reads_element {attributes : List (String × String)} {tag : Tag} (h : IsName name)
    (hattributes : ∀ a ∈ attributes, IsName a.1)
    (hend : AlwaysReads
      ((do exactly ['>']; return .opening name (allowedValues attributes)) <|>
        (do exactly ['/', '>']; return .empty name (allowedValues attributes)) : Reader Char Tag)
      mark tag)
    (hmark : ∀ rest, (mark ++ rest).takeWhile isNameChar = [] ∧
      readAttribute (mark ++ rest) = none) :
    AlwaysReads readElement (name.toList ++ (attributes.flatMap attributeChars ++ mark)) tag := by
  apply h.reads.bind
  · apply (reads_attributes hattributes).bind hend
    intro rest _
    exact (hmark rest).2
  · intro rest _
    rw [List.append_assoc]
    exact takeWhile_isNameChar_attributes attributes (hmark rest).1

theorem reads_opening {attributes : List (String × String)} (h : IsName name)
    (hattributes : ∀ a ∈ attributes, IsName a.1) :
    AlwaysReads readElement (name.toList ++ (attributes.flatMap attributeChars ++ ['>']))
      (.opening name (allowedValues attributes)) := by
  apply reads_element h hattributes
  · apply Reads.orElse_left
    intro rest _
    rfl
  · intro rest
    exact ⟨rfl, rfl⟩

theorem reads_empty {attributes : List (String × String)} (h : IsName name)
    (hattributes : ∀ a ∈ attributes, IsName a.1) :
    AlwaysReads readElement (name.toList ++ (attributes.flatMap attributeChars ++ ['/', '>']))
      (.empty name (allowedValues attributes)) := by
  apply reads_element h hattributes
  · apply Reads.orElse_right
    · intro rest
      rfl
    · intro rest _
      rfl
  · intro rest
    exact ⟨rfl, rfl⟩

theorem reads_tag {tag : Tag} (h : tag.Named) : AlwaysReads readTag tag.chars tag.allowed := by
  have hopen {symbols : List Char} {tag : Tag}
      (htag : AlwaysReads (readDeclaration <|> readClosing <|> readElement) symbols tag) :
      AlwaysReads readTag (['<'] ++ symbols) tag :=
    (Reads.exactly ['<']).bind htag
  have helement {name : String} {behind : List Char} {tag : Tag} (hname : IsName name)
      (htag : AlwaysReads readElement (name.toList ++ behind) tag) :
      AlwaysReads readTag (['<'] ++ (name.toList ++ behind)) tag := by
    have hnone (rest : List Char) := hname.not_markup (behind ++ rest)
    simp only [← List.append_assoc] at hnone
    apply hopen
    apply Reads.orElse_right
    · intro rest
      exact (hnone rest).1
    · apply Reads.orElse_right
      · intro rest
        exact (hnone rest).2
      · exact htag
  cases tag with
  | declaration attributes =>
    exact hopen (reads_declaration h.declaration).orElse_left
  | opening name attributes =>
    obtain ⟨hname, hattributes⟩ := h.opening
    exact helement hname (reads_opening hname hattributes)
  | empty name attributes =>
    obtain ⟨hname, hattributes⟩ := h.empty
    exact helement hname (reads_empty hname hattributes)
  | closing name =>
    apply hopen
    apply Reads.orElse_right
    · intro rest
      exact readDeclaration_of_ne (by decide) _
    · exact (reads_closing h.closing).orElse_left

theorem IsName.isXmlChar (h : IsName name) : ∀ c ∈ name.toList, IsXmlChar c := by
  intro c hc
  exact isXmlChar_of_isNameChar (h.letters c hc)

theorem isXmlChar_of_mem_attribute (h : IsName name) (value : String) :
    ∀ c ∈ attributeChars (name, value), IsXmlChar c := by
  rw [attributeChars_eq]
  simp only [List.forall_mem_append]
  exact ⟨isXmlChar_of_all rfl, h.isXmlChar, isXmlChar_of_all rfl, isXmlChar_of_mem_escape value,
    isXmlChar_of_all rfl, nofun⟩

theorem isXmlChar_of_mem_attributes {attributes : List (String × String)}
    (h : ∀ a ∈ attributes, IsName a.1) :
    ∀ c ∈ attributes.flatMap attributeChars, IsXmlChar c := by
  intro c hc
  obtain ⟨a, ha, hmem⟩ := List.mem_flatMap.1 hc
  exact isXmlChar_of_mem_attribute (h a ha) a.2 c hmem

theorem Tag.Named.isXmlChar {tag : Tag} (h : tag.Named) :
    ∀ c ∈ tag.chars, IsXmlChar c := by
  cases tag with
  | declaration attributes =>
    simp only [chars, List.forall_mem_append]
    exact ⟨isXmlChar_of_all rfl, isXmlChar_of_mem_attributes h.declaration,
      isXmlChar_of_all rfl⟩
  | opening name attributes =>
    obtain ⟨hname, hattributes⟩ := h.opening
    simp only [chars, List.forall_mem_append]
    exact ⟨isXmlChar_of_all rfl, hname.isXmlChar, isXmlChar_of_mem_attributes hattributes,
      isXmlChar_of_all rfl⟩
  | empty name attributes =>
    obtain ⟨hname, hattributes⟩ := h.empty
    simp only [chars, List.forall_mem_append]
    exact ⟨isXmlChar_of_all rfl, hname.isXmlChar, isXmlChar_of_mem_attributes hattributes,
      isXmlChar_of_all rfl⟩
  | closing name =>
    simp only [chars, List.forall_mem_append]
    exact ⟨isXmlChar_of_all rfl, h.closing.isXmlChar, isXmlChar_of_all rfl⟩

theorem Tag.chars_eq_cons (tag : Tag) : ∃ cs, tag.chars = '<' :: cs := by
  cases tag with
  | declaration attributes => exact ⟨_, rfl⟩
  | opening name attributes => exact ⟨_, rfl⟩
  | empty name attributes => exact ⟨_, rfl⟩
  | closing name => exact ⟨_, rfl⟩

/-- Tags that stand one after the other, with blanks before each, are read back. -/
theorem readTags_eq {lines : List (List Char × Tag)} {text : String}
    (hblank : ∀ l ∈ lines, ∀ c ∈ l.1, isBlank c = true) (hnamed : ∀ l ∈ lines, l.2.Named)
    (htext : text.toList = lines.flatMap fun l => l.1 ++ l.2.chars) :
    readTags text = some (lines.map fun l => l.2.allowed) := by
  rw [readTags, htext]
  have hread : (many (do let _ ← takeWhile isBlank; readTag)).Reads
      (lines.flatMap fun l => l.1 ++ l.2.chars) (lines.map fun l => l.2.allowed)
      fun rest => (do let _ ← takeWhile isBlank; readTag : Reader Char Tag) rest = none := by
    apply Reads.many
    · intro l hl
      apply (Reads.takeWhile (hblank l hl)).bind (reads_tag (hnamed l hl))
      intro rest _
      obtain ⟨cs, hcs⟩ := l.2.chars_eq_cons
      rw [hcs]
      rfl
    · intro l _
      obtain ⟨cs, hcs⟩ := l.2.chars_eq_cons
      rw [hcs]
      exact List.append_ne_nil_of_right_ne_nil _ (List.cons_ne_nil _ _)
  exact hread.readAll rfl

example : readTags "<Surname val=\"A&quot;/&gt;\"/>" =
    some [.empty "Surname" [("val", "A\"/>")]] := by
  decide +kernel

-- A quote that is not escaped ends the value.
example : readTags "<Surname val=\"A\"/>\"/>" = none := by
  decide +kernel

end FactGrammar.Xml
