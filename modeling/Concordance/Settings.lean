import Concordance.Accent.Directive
import Concordance.Search.Request
import Concordance.Settings.Dotenv
import Concordance.Settings.Value
import Concordance.Store.Http

/-!
The settings of a search: where the store is, how words are compared, how much is pulled at once,
and what is logged. They come from given values, from the environment, from a file and from
defaults, in this order, and are checked all together.
-/

namespace Concordance

open Schema (Checked)

/-- Checked settings. -/
structure Settings where
  graphqlUrl : String := "http://127.0.0.1:4000/graphql"
  /-- seconds until a request is given up -/
  httpTimeout : Float := 30.0
  /-- how often a connection is tried again -/
  httpRetries : Int := 0
  /-- the accent directive, as it was given -/
  accents : String := ""
  /-- what the accent directive says -/
  rules : Accent.Rules := {}
  wholeWords : Bool := false
  /-- how many matches a stream pulls at once -/
  batchSize : Int := 50
  logLevel : String := "info"
  logJson : Bool := true

namespace Settings

/-- An accent directive, and what it says. -/
def directive (v : Json) : Checked (String × Accent.Rules) :=
  (text v).bind fun s =>
    match Accent.Rules.parse s.toList with
    | .ok rules => .ok (s, rules)
    | .error e => Checked.fail (.refused e.message)

/-- A setting, or its default. -/
def setting {α : Type} (name : String) (default : α) (check : Json → Checked α)
    (fields : Schema.Fields) : Checked α :=
  Schema.optional name name default check fields

/-- Settings from values by name. Names that are no setting do not count. -/
def ofFields (fields : Schema.Fields) : Checked Settings :=
  let d : Settings := {}
  (Checked.both (setting "graphql_url" d.graphqlUrl text fields) <|
    Checked.both (setting "http_timeout" d.httpTimeout positive fields) <|
    Checked.both (setting "http_retries" d.httpRetries (intFrom 0) fields) <|
    Checked.both (setting "search_accents_to_remove" (d.accents, d.rules) directive fields) <|
    Checked.both (setting "search_whole_words" d.wholeWords bool fields) <|
    Checked.both (setting "search_batch_size" d.batchSize (intFrom 1) fields) <|
    Checked.both (setting "log_level" d.logLevel text fields)
      (setting "log_json" d.logJson bool fields)).map
    fun (url, timeout, retries, (accents, rules), wholeWords, batchSize, logLevel, logJson) =>
      ⟨url, timeout, retries, accents, rules, wholeWords, batchSize, logLevel, logJson⟩

/-- Where settings come from. -/
structure Origin where
  /-- values given directly, by the exact names of the settings -/
  given : Schema.Fields := []
  /-- the environment; upper and lower case of names do not differ -/
  environment : List (String × String) := []
  /-- the text of a file of settings, if there is one -/
  file : Option String := none

/-- Values by name in lower case. Of two names that differ in case only, the later one counts. -/
def byLowerName {α : Type} (values : List (String × α)) : List (String × α) :=
  values.foldl (fun known (name, v) => Json.setField known (Text.lowerName name) v) []

/-- The values of all origins: those given, the environment's, and the file's. The first one
counts. -/
def Origin.fields (o : Origin) : Schema.Fields :=
  let environment := (byLowerName o.environment).map fun (name, v) => (name, Json.str v)
  let file := (byLowerName ((o.file.map (readDotenv o.environment)).getD [])).filterMap
    fun (name, v) => v.map fun (v : String) => (name, Json.str v)
  o.given ++ environment ++ file

/-- The settings that origins give. -/
def load (o : Origin) : Checked Settings := ofFields o.fields

/-- The settings as data. -/
def toJson (s : Settings) : Json :=
  .obj [("graphql_url", .str s.graphqlUrl), ("http_timeout", .float s.httpTimeout),
    ("http_retries", .int s.httpRetries), ("search_accents_to_remove", .str s.accents),
    ("search_whole_words", .bool s.wholeWords), ("search_batch_size", .int s.batchSize),
    ("log_level", .str s.logLevel), ("log_json", .bool s.logJson)]

/-- The endpoint of the store. -/
def endpoint (s : Settings) : Store.Endpoint := ⟨s.graphqlUrl, s.httpTimeout, s.httpRetries⟩

/-- The search for a phrase in a doc set. Whether whole words are meant can be said for this search
alone. -/
def request (s : Settings) (phrase docSet collection : String) (wholeWords : Option Bool) :
    Search.Request where
  source :=
    { docSet := docSet
      collection := collection
      words := Text.words phrase.toList
      options := ⟨wholeWords.getD s.wholeWords, s.rules.ignore, s.rules.classes⟩ }
  batchSize := s.batchSize

/-- A search of its own for at most `limit` matches, or all if it is zero. -/
def search (s : Settings) (store : Store) (phrase docSet collection : String)
    (wholeWords : Option Bool) (limit : Int) (session : Search.Session) :
    Except Search.Failure (List Corpus.Match) × Search.Session :=
  match (s.request phrase docSet collection wholeWords).getResults store limit {} session with
  | (.error e, _, session) => (.error e, session)
  | (.ok found, _, session) =>
    (.ok found, session.note Search.searchLogger .info
      s!"Search in {docSet} returned {found.length} matches")

end Settings

end Concordance
