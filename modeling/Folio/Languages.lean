import Folio.App
import Folio.Markdown.Html
import Folio.Style.Run
import Folio.Template.Renderer
import Folio.Yaml.Definition

/-!
# The languages of a project

The renderers that projects are set up with, each language as its own modules define it.

* `Renderers.standard`: all of them.
-/

namespace Folio

/-- Structured data from its text. -/
def readData (text : String) : Except Failure Json :=
  (Yaml.parse text).mapError fun e => { cause := .yaml e }

/-- The definition of a resource from its text. -/
def readDefinition (text : String) : Except Failure Definition :=
  (Yaml.readDefinition text).mapError fun e => { cause := .yaml e }

/-- The renderers of a project; `escapes` says whether templates escape what they print. -/
def Renderers.standard (escapes : Bool) : Renderers where
  template name source value :=
    (Template.render escapes name source value).mapError fun e => { cause := .template e }
  markdown := Markdown.render
  style s := (Style.render s).mapError fun reason => { cause := .style reason }
  data := readData

end Folio
