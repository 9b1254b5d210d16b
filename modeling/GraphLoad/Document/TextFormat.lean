import GraphLoad.Document.Tree
import GraphLoad.Json.Reader
import GraphLoad.Json.Writer
import GraphLoad.Text.Blank
import GraphLoad.Yaml.Part
import GraphLoad.Yaml.Writer

/-! The text formats that documents are written in. -/

namespace GraphLoad

/-- A text format of documents. -/
inductive TextFormat where
  | json
  | yaml
deriving DecidableEq, Repr

namespace TextFormat

/-- The name of a format. -/
def name : TextFormat → String
  | json => "json"
  | yaml => "yaml"

/-- The format of a file, by the ending of its name: JSON where the name says so, in any case of its
letters, and YAML otherwise. The ending does not count where it is the whole name. -/
def ofPath (path : String) : TextFormat :=
  match (lowerLatin path.toList).reverse with
  | 'n' :: 'o' :: 's' :: 'j' :: '.' :: c :: _ => if c = '/' then yaml else json
  | _ => yaml

/-- Reads typed data from a text. -/
def read? {β : Type}
    (read : ∀ {α : Type} {m : Type → Type} [Format α m] [Monad m] [MonadExceptOf Unit m], α → m β)
    (text : String) : TextFormat → Option β
  | json => (Json.parse? text).bind read
  | yaml => (Yaml.parse? text).bind fun part => (read part).run' part.document.allowance

/-- The text of a document. -/
def render : TextFormat → Value → String
  | json => Json.render
  | yaml => Yaml.render

end TextFormat

end GraphLoad
