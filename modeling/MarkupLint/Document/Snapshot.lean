import MarkupLint.Url.Basic

/-! A document as it was when something happened to it. -/
namespace MarkupLint

def htmlLanguage : String := "html"

structure Document where
  uri : Url
  text : String
  language : String
  version : Option Int
  deriving DecidableEq, Repr

def Document.isHtml (d : Document) : Bool := d.language = htmlLanguage

end MarkupLint
