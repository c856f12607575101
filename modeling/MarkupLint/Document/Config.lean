import MarkupLint.Settings.Exclude
import MarkupLint.Url.Parse

/-! The configuration of one document: its rules, and whether it is linted at all. -/
namespace MarkupLint

structure DocumentConfig where
  rules : Rule.Configuration
  excluded : Bool

namespace DocumentConfig

instance : BEq DocumentConfig := ⟨fun a b => a.rules == b.rules && a.excluded == b.excluded⟩

/-- Only a file can be excluded. Patterns of which one is bad exclude nothing. -/
def resolve (s : Settings) (uri : Url) : DocumentConfig :=
  let excluded :=
    match s.excludeSet, uri.filePath? with
    | .ok (some set), some path => Settings.matchesAny set path
    | _, _ => false
  ⟨s.configuration, excluded⟩

end DocumentConfig

/-- What a document's configuration is kept under: the file path as it is shown, or the URL. -/
def Url.cacheKey (uri : Url) : String :=
  match uri.filePath? with
  | some path => path.text
  | none => uri.text

end MarkupLint
