import MarkupLint.Proofs.Adapter.Alone
import MarkupLint.Proofs.Url.FilePath

/-! Documents with one key in the cache share what is kept there. The key of a file is its path as
it is shown, and two paths of text that are shown alike are one path. Of what is not text only
replacement characters are shown, and there a document may get the configuration of another one. -/
namespace MarkupLint

namespace Path

variable {p q : Path}

def IsText (p : Path) : Prop := ∃ s, p = .ofText s

theorem text_ofText (s : String) : (ofText s).text = s := by
  rw [text, ofText, Text.utf8, Text.lossyText_bytesOf, String.ofList_toList]

theorem IsText.eq_of_text (hp : p.IsText) (hq : q.IsText) (shown : p.text = q.text) : p = q := by
  obtain ⟨s, rfl⟩ := hp
  obtain ⟨t, rfl⟩ := hq
  rw [text_ofText, text_ofText] at shown
  rw [shown]

end Path

namespace Url

variable {u v : Url} {s t : String}

def PathIsText (u : Url) : Prop := ∀ p, u.filePath? = some p → p.IsText

theorem cacheKey_eq (hu : parse s = .ok u) (hv : parse t = .ok v)
    (shared : u.cacheKey = v.cacheKey) :
    (∃ p q, u.filePath? = some p ∧ v.filePath? = some q ∧ p.text = q.text) ∨
      u.filePath? = none ∧ v.filePath? = none := by
  have apart {u v : Url} {s : String} {p : Path} (file : u.filePath? = some p)
      (read : parse s = .ok v) : p.text ≠ v.text := by
    intro same
    refine parse_text read ?_
    rw [← same]
    exact filePath?_text file
  cases here : u.filePath? with
  | some p =>
    cases there : v.filePath? with
    | some q =>
      simp only [cacheKey, here, there] at shared
      exact .inl ⟨p, q, rfl, rfl, shared⟩
    | none =>
      simp only [cacheKey, here, there] at shared
      exact absurd shared (apart here hv)
  | none =>
    cases there : v.filePath? with
    | some q =>
      simp only [cacheKey, here, there] at shared
      exact absurd shared.symm (apart there hu)
    | none => exact .inr ⟨rfl, rfl⟩

theorem filePath?_of_cacheKey (hu : parse s = .ok u) (hv : parse t = .ok v)
    (shared : u.cacheKey = v.cacheKey) (textU : u.PathIsText) (textV : v.PathIsText) :
    u.filePath? = v.filePath? := by
  rcases cacheKey_eq hu hv shared with ⟨p, q, here, there, shown⟩ | ⟨here, there⟩
  · rw [here, there, (textU p here).eq_of_text (textV q there) shown]
  · rw [here, there]

end Url

theorem DocumentConfig.resolve_of_filePath {u v : Url} (same : u.filePath? = v.filePath?)
    (s : Settings) : resolve s u = resolve s v := by rw [resolve, resolve, same]

namespace TaskPool

variable {L : Type} {x : TaskPool L} {u v : Url}

def resolveAlone (x : TaskPool L) (u : Url) (s : Settings) : TaskPool L :=
  x.alone (.resolve u) [.done, .settings s, .done]

def answer? (x : TaskPool L) : Option DocumentConfig :=
  match x.adapter.history.head? with
  | some (.finished _ (.config c)) => some c
  | _ => none

theorem resolve_unkept (unkept : x.adapter.cache.get? u.cacheKey = none) (s : Settings) :
    (x.resolveAlone u s).answer? = some (.resolve s u) ∧
      (x.resolveAlone u s).adapter.cache.get? u.cacheKey = some (.resolve s u) := by
  have asked : (x.adapter.record (.resolving x.tasks.length u)).cache.get? u.cacheKey = none :=
    unkept
  rw [resolveAlone, alone_eq]
  simp only [resumeAll, List.foldl_cons, List.foldl_nil, Adapter.resumeTask, Adapter.startJob,
    Adapter.lookUp, asked, Adapter.conclude, Adapter.resumeLookup, Adapter.announce, Adapter.keep]
  constructor
  · rfl
  · simp [Adapter.finish, Adapter.record, ConfigCache.insertIfCurrent, ConfigCache.get?]

theorem resolve_kept {c : DocumentConfig} (kept : x.adapter.cache.get? u.cacheKey = some c)
    (s : Settings) : (x.resolveAlone u s).answer? = some c := by
  have asked : (x.adapter.record (.resolving x.tasks.length u)).cache.get? u.cacheKey = some c :=
    kept
  rw [resolveAlone, alone_eq]
  simp only [resumeAll, List.foldl_cons, List.foldl_nil, Adapter.resumeTask, Adapter.startJob,
    Adapter.lookUp, asked, Adapter.conclude]
  rfl

end TaskPool

/-- Under one key there are only files, or none. As long as paths are text, a document gets the
configuration that it would get from an empty cache; and what was kept for another document under
its key is given in any case. -/
theorem shared_key_configuration {a b : String} {u v : Url} (readU : Url.parse a = .ok u)
    (readV : Url.parse b = .ok v) (shared : u.cacheKey = v.cacheKey) :
    u.filePath?.isSome = v.filePath?.isSome ∧
    (u.PathIsText → v.PathIsText → ∀ s : Settings,
      DocumentConfig.resolve s u = .resolve s v ∧
      ∀ {L : Type} (x : TaskPool L), x.adapter.cache.get? u.cacheKey = none →
        ((x.resolveAlone v s).resolveAlone u s).answer? = (x.resolveAlone u s).answer?) ∧
    ∀ (s : Settings) {L : Type} (x : TaskPool L), x.adapter.cache.get? u.cacheKey = none →
      (x.resolveAlone u s).answer? = some (.resolve s u) ∧
        ((x.resolveAlone v s).resolveAlone u s).answer? = some (.resolve s v) := by
  have answers (s : Settings) {L : Type} (x : TaskPool L)
      (unkept : x.adapter.cache.get? u.cacheKey = none) :
      (x.resolveAlone u s).answer? = some (.resolve s u) ∧
        ((x.resolveAlone v s).resolveAlone u s).answer? = some (.resolve s v) := by
    have filled := (TaskPool.resolve_unkept (shared ▸ unkept) s).2
    rw [← shared] at filled
    exact ⟨(TaskPool.resolve_unkept unkept s).1, TaskPool.resolve_kept filled s⟩
  refine ⟨?_, fun textU textV s => ?_, answers⟩
  · rcases Url.cacheKey_eq readU readV shared with ⟨p, q, here, there, _⟩ | ⟨here, there⟩
    · rw [here, there]
      rfl
    · rw [here, there]
  · have same := DocumentConfig.resolve_of_filePath
      (Url.filePath?_of_cacheKey readU readV shared textU textV) s
    refine ⟨same, fun x unkept => ?_⟩
    obtain ⟨direct, filled⟩ := answers s x unkept
    rw [direct, filled, same]

def distSettings : Settings := { Settings.default with exclude := ["**/dist/**"] }

/-- A page of a directory that is left out, in two spellings. -/
theorem escaped_page_shares :
    (fileUrl "/srv/dist/a.html").cacheKey = (fileUrl "/srv/dist/%61.html").cacheKey ∧
      DocumentConfig.resolve distSettings (fileUrl "/srv/dist/a.html") =
        .resolve distSettings (fileUrl "/srv/dist/%61.html") ∧
      (DocumentConfig.resolve distSettings (fileUrl "/srv/dist/a.html")).excluded = true := by
  have first : Url.parse "file:///srv/dist/a.html" = .ok (fileUrl "/srv/dist/a.html") := by
    decide +kernel
  have second : Url.parse "file:///srv/dist/%61.html" = .ok (fileUrl "/srv/dist/%61.html") := by
    decide +kernel
  have path : (fileUrl "/srv/dist/a.html").filePath? = some (.ofText "/srv/dist/a.html") := by
    decide +kernel
  have same : (fileUrl "/srv/dist/%61.html").filePath? = some (.ofText "/srv/dist/a.html") := by
    decide +kernel
  have shared : (fileUrl "/srv/dist/a.html").cacheKey =
      (fileUrl "/srv/dist/%61.html").cacheKey := by rw [Url.cacheKey, Url.cacheKey, path, same]
  have texts {u : Url} (file : u.filePath? = some (.ofText "/srv/dist/a.html")) : u.PathIsText :=
    fun p here => ⟨_, Option.some.inj (here.symm.trans file)⟩
  obtain ⟨_, law, _⟩ := shared_key_configuration first second shared
  exact ⟨shared, (law (texts path) (texts same) distSettings).1, by decide +kernel⟩

def brokenSettings : Settings := { Settings.default with exclude := ["**/\uFFFD.html"] }

/-- Two pages have one key, and only one of them is excluded: the name of the other one is no text.
It is excluded all the same once the first one has been. -/
theorem broken_name_excluded :
    ∃ u v : Url, Url.parse "file:///srv/site/%FF.html" = .ok u ∧
      Url.parse "file:///srv/site/%EF%BF%BD.html" = .ok v ∧ u.cacheKey = v.cacheKey ∧
      (DocumentConfig.resolve brokenSettings u).excluded = false ∧
      (DocumentConfig.resolve brokenSettings v).excluded = true ∧
      (((TaskPool.initial ()).resolveAlone u brokenSettings).answer?.map
        DocumentConfig.excluded) = some false ∧
      ((((TaskPool.initial ()).resolveAlone v brokenSettings).resolveAlone u
        brokenSettings).answer?.map DocumentConfig.excluded) = some true := by
  refine ⟨fileUrl "/srv/site/%FF.html", fileUrl "/srv/site/%EF%BF%BD.html", ?_⟩
  decide +kernel

end MarkupLint
