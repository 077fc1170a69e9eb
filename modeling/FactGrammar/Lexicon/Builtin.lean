import FactGrammar.Lexicon.Basic

namespace FactGrammar

namespace Lexicon

def lexeme (normal pos : String) (grams forms : List String) : Entry where
  forms := forms
  normal := normal
  pos := some pos
  grams := .ofList grams

def organisationalUnits : List Entry := [
  lexeme "кафедра" "NOUN" ["femn", "inan"]
    ["кафедра", "кафедры", "кафедре", "кафедру", "кафедрой", "кафедрою", "кафедр", "кафедрам",
     "кафедрами", "кафедрах"],
  lexeme "отдел" "NOUN" ["masc", "inan"]
    ["отдел", "отдела", "отделу", "отделом", "отделе", "отделы", "отделов", "отделам",
     "отделами", "отделах"]]

def positions : List Entry := [
  lexeme "доцент" "NOUN" ["masc", "anim"]
    ["доцент", "доцента", "доценту", "доцентом", "доценте", "доценты", "доцентов"],
  lexeme "аспирант" "NOUN" ["masc", "anim"]
    ["аспирант", "аспиранта", "аспиранту", "аспирантом", "аспиранте", "аспиранты", "аспирантов",
     "аспирантами"],
  lexeme "ассистент" "NOUN" ["masc", "anim"]
    ["ассистент", "ассистента", "ассистенту", "ассистентом", "ассистенте", "ассистенты",
     "ассистентов"],
  lexeme "профессор" "NOUN" ["masc", "anim"]
    ["профессор", "профессора", "профессору", "профессором", "профессоре", "профессоров"]]

def theses : List Entry := [
  lexeme "диссертация" "NOUN" ["femn", "inan"]
    ["диссертация", "диссертации", "диссертацию", "диссертацией", "диссертаций", "диссертациям",
     "диссертациями", "диссертациях"],
  lexeme "кандидатский" "ADJF" []
    ["кандидатская", "кандидатской", "кандидатскую", "кандидатский", "кандидатского",
     "кандидатских"],
  lexeme "докторский" "ADJF" []
    ["докторская", "докторской", "докторскую", "докторский", "докторского", "докторских"],
  lexeme "магистерский" "ADJF" []
    ["магистерская", "магистерской", "магистерскую", "магистерский", "магистерского",
     "магистерских"]]

def degreesAndBranches : List Entry := [
  lexeme "кандидат" "NOUN" ["masc", "anim"]
    ["кандидат", "кандидата", "кандидату", "кандидатом", "кандидате", "кандидатов"],
  lexeme "доктор" "NOUN" ["masc", "anim"]
    ["доктор", "доктора", "доктору", "доктором", "докторе", "докторов"],
  lexeme "наука" "NOUN" ["femn", "inan"]
    ["наука", "науки", "науке", "науку", "наукой", "наук", "наукам", "науками", "науках"],
  lexeme "математический" "ADJF" []
    ["математический", "математических", "математического", "математическая", "математической",
     "математические"],
  lexeme "технический" "ADJF" []
    ["технический", "технических", "технического", "техническая", "технической", "технические"],
  lexeme "экономический" "ADJF" []
    ["экономический", "экономических", "экономического", "экономическая", "экономической"],
  lexeme "педагогический" "ADJF" []
    ["педагогический", "педагогических", "педагогического", "педагогическая"],
  lexeme "химический" "ADJF" []
    ["химический", "химических", "химического", "химическая"],
  lexeme "биологический" "ADJF" []
    ["биологический", "биологических", "биологического", "биологическая"],
  lexeme "исторический" "ADJF" []
    ["исторический", "исторических", "исторического", "историческая"],
  lexeme "филологический" "ADJF" []
    ["филологический", "филологических", "филологического", "филологическая"]]

def specialityMarkers : List Entry := [
  lexeme "специальность" "NOUN" ["femn", "inan"]
    ["специальность", "специальности", "специальностью", "специальностей", "специальностям"],
  lexeme "направление" "NOUN" ["neut", "inan"]
    ["направление", "направления", "направлению", "направлением", "направлении", "направлений"]]

def givenNames : List Entry := [
  lexeme "татьяна" "NOUN" ["Name", "femn", "anim"]
    ["татьяна", "татьяны", "татьяне", "татьяну", "татьяной"],
  lexeme "анна" "NOUN" ["Name", "femn", "anim"]
    ["анна", "анны", "анне", "анну", "анной"],
  lexeme "мария" "NOUN" ["Name", "femn", "anim"]
    ["мария", "марии", "марию", "марией"],
  lexeme "елена" "NOUN" ["Name", "femn", "anim"]
    ["елена", "елены", "елене", "елену", "еленой"],
  lexeme "иван" "NOUN" ["Name", "masc", "anim"]
    ["иван", "ивана", "ивану", "иваном", "иване"],
  lexeme "сергей" "NOUN" ["Name", "masc", "anim"]
    ["сергей", "сергея", "сергею", "сергеем", "сергее"],
  lexeme "александр" "NOUN" ["Name", "masc", "anim"]
    ["александр", "александра", "александру", "александром", "александре"],
  lexeme "николай" "NOUN" ["Name", "masc", "anim"]
    ["николай", "николая", "николаю", "николаем", "николае"]]

def patronymics : List Entry := [
  lexeme "эриковна" "NOUN" ["Patr", "femn", "anim"]
    ["эриковна", "эриковны", "эриковне", "эриковну", "эриковной"],
  lexeme "ивановна" "NOUN" ["Patr", "femn", "anim"]
    ["ивановна", "ивановны", "ивановне", "ивановну", "ивановной"],
  lexeme "александровна" "NOUN" ["Patr", "femn", "anim"]
    ["александровна", "александровны", "александровне", "александровну"],
  lexeme "иванович" "NOUN" ["Patr", "masc", "anim"]
    ["иванович", "ивановича", "ивановичу", "ивановичем"],
  lexeme "сергеевич" "NOUN" ["Patr", "masc", "anim"]
    ["сергеевич", "сергеевича", "сергеевичу", "сергеевичем"],
  lexeme "петрович" "NOUN" ["Patr", "masc", "anim"]
    ["петрович", "петровича", "петровичу", "петровичем"]]

def surnames : List Entry := [
  lexeme "шульга" "NOUN" ["Surn", "anim"]
    ["шульга", "шульги", "шульге", "шульгу", "шульгой"],
  lexeme "иванов" "NOUN" ["Surn", "anim"]
    ["иванов", "иванова", "иванову", "ивановым"],
  lexeme "петров" "NOUN" ["Surn", "anim"]
    ["петров", "петрова", "петрову", "петровым"],
  lexeme "сытник" "NOUN" ["Surn", "anim"]
    ["сытник", "сытника", "сытнику", "сытником"],
  lexeme "данилов" "NOUN" ["Surn", "anim"]
    ["данилов", "данилова", "данилову", "даниловым"]]

def builtinEntries : List Entry :=
  organisationalUnits ++ positions ++ theses ++ degreesAndBranches ++
    specialityMarkers ++ givenNames ++ patronymics ++ surnames

/-- The vocabulary of academic biographies that every lexicon for extraction starts from. -/
def builtin : Lexicon :=
  builtinEntries.foldl insertOrKeep empty

end Lexicon

end FactGrammar
