import Mathlib.Data.List.Destutter
import Mathlib.Data.List.Sort
import Mathlib.Data.Rat.Floor
import PlanWeave.Lib.CodeUnits

namespace PlanWeave
open CodeUnits List

inductive DesktopSearchResultKind where
  | task | block | prompt | runRecord | reviewAttempt | feedback
deriving DecidableEq

inductive DesktopSearchMatchField where
  | title | body
deriving DecidableEq

inductive DesktopSearchDocumentTier where
  | summary | body
deriving DecidableEq

structure DesktopSearchEntry where
  kind : DesktopSearchResultKind
  canvasId : Utf16
  canvasName : Utf16
  ref : Utf16
  targetRef : Option Utf16
  title : Utf16
  path : Option Utf16
  recordId : Option Utf16
deriving DecidableEq

structure DesktopSearchDocumentInput extends DesktopSearchEntry where
  tier : Option DesktopSearchDocumentTier
  body : Utf16

structure DesktopSearchDocument extends DesktopSearchEntry where
  tier : DesktopSearchDocumentTier
  body : Utf16
  normalizedTitle : Utf16
  normalizedBody : Utf16
deriving DecidableEq

structure HighlightableExcerpt where
  excerpt : Utf16
  excerptStart : Nat

structure DesktopSearchMatch extends HighlightableExcerpt where
  field : DesktopSearchMatchField
  start : Nat
  length : Nat

structure DesktopSearchResult extends DesktopSearchEntry where
  excerpt : Utf16
  «match» : Option DesktopSearchMatch

/-- Without kinds all are searched; a limit that is missing or not finite is none. -/
structure DesktopSearchFilters where
  kinds : List DesktopSearchResultKind
  canvasId : Option Utf16
  limit : Option ℚ

structure SearchRank where
  titleExact : Int
  titleIncludes : Int
  primaryKind : Int
  matchIndex : Int
  previewLength : Int

structure RankedSearchResult where
  document : DesktopSearchDocument
  rank : SearchRank
  documentIndex : Int

section
variable (lower : LowerCase) (document : DesktopSearchDocument) (normalizedQuery : Utf16)

def createDesktopSearchDocument (document : DesktopSearchDocumentInput) : DesktopSearchDocument :=
  { document with
    tier := document.tier.getD .summary
    normalizedTitle := toLowerCase lower document.title
    normalizedBody := toLowerCase lower document.body }

def documentMatches : Bool :=
  if document.kind = .prompt then (indexOf document.normalizedBody normalizedQuery).isSome
  else (indexOf document.normalizedTitle normalizedQuery).isSome || (indexOf document.normalizedBody normalizedQuery).isSome

/-- The start of the excerpt, behind the first white space before the match. -/
def trimmedStart (source : Utf16) (excerptStart matchStart : Nat) : Nat :=
  if 0 < excerptStart then ((slice source excerptStart matchStart).findIdx? isSpace).elim excerptStart (excerptStart + · + 1)
  else excerptStart

/-- The end of the excerpt, at the first white space behind the match. -/
def trimmedEnd (source : Utf16) (matchEnd excerptEnd : Nat) : Nat :=
  if excerptEnd < source.length then ((slice source matchEnd excerptEnd).findIdx? isSpace).elim excerptEnd (matchEnd + ·)
  else excerptEnd

def highlightableExcerpt (source : Utf16) (matchStart matchLength : Nat) : HighlightableExcerpt :=
  let leftContext := (120 - matchLength) / 2
  let excerptEnd := min source.length (matchStart - leftContext + 120)
  let excerptStart :=
    if excerptEnd - (matchStart - leftContext) < 120 then excerptEnd - 120 else matchStart - leftContext
  let first := trimmedStart source excerptStart matchStart
  ⟨slice source first (trimmedEnd source (matchStart + matchLength) excerptEnd), first⟩

def buildSearchMatch (source normalizedSource : Utf16) (field : DesktopSearchMatchField) :
    Option DesktopSearchMatch :=
  (indexOf normalizedSource normalizedQuery).map fun start =>
    { highlightableExcerpt source start normalizedQuery.length with
      field, start
      length := normalizedQuery.length }

def findDocumentMatch : Option DesktopSearchMatch :=
  if document.kind = .prompt then buildSearchMatch normalizedQuery document.body document.normalizedBody .body
  else buildSearchMatch normalizedQuery document.title document.normalizedTitle .title <|>
    buildSearchMatch normalizedQuery document.body document.normalizedBody .body

def previewLengthFrom (length : Nat) (hasContent hasPendingWhitespace : Bool) : Utf16 → Nat
  | [] => length
  | character :: rest =>
    if isSpace character then previewLengthFrom length hasContent (hasContent || hasPendingWhitespace) rest
    else
      let length := length + hasPendingWhitespace.toNat + 1
      if 220 ≤ length then 220 else previewLengthFrom length true false rest

def promptPreviewLength (markdown : Utf16) : Nat := previewLengthFrom 0 false false markdown

def promptPreview (markdown : Utf16) : Utf16 :=
  let spaced := markdown.map fun unit => if isSpace unit then 32 else unit
  (trimSpaces (spaced.destutter fun unit next => ¬ (unit = 32 ∧ next = 32))).take 220

def searchLimit (filters : DesktopSearchFilters) : Nat := filters.limit.elim 100 fun limit => min 100 (max 1 ⌊limit⌋.toNat)

def documentKindPriority : Int := if document.kind = .runRecord ∨ document.kind = .reviewAttempt then 1 else 0

def searchRank : SearchRank :=
  let normalizedTitle := trimSpaces document.normalizedTitle
  let titleIndex := indexOf normalizedTitle normalizedQuery
  let bodyIndex := indexOf document.normalizedBody normalizedQuery
  { titleExact := if normalizedTitle = normalizedQuery then 0 else 1
    titleIncludes := if titleIndex.isSome then 0 else 1
    primaryKind := documentKindPriority document
    matchIndex := (titleIndex <|> bodyIndex).elim (-1) Int.ofNat
    previewLength := promptPreviewLength (if titleIndex.isSome then document.title else document.body) }

def compareSearchRank (left right : RankedSearchResult) : Int :=
  ([left.rank.titleExact - right.rank.titleExact, left.rank.titleIncludes - right.rank.titleIncludes,
    left.rank.primaryKind - right.rank.primaryKind, left.rank.matchIndex - right.rank.matchIndex,
    left.rank.previewLength - right.rank.previewLength].find? (· ≠ 0)).getD (left.documentIndex - right.documentIndex)

def searchResultFromDocument : DesktopSearchResult :=
  { document with
    excerpt := promptPreview
      (if (indexOf document.normalizedBody normalizedQuery).isSome then document.body else document.title)
    «match» := findDocumentMatch document normalizedQuery }

variable (documents : List DesktopSearchDocument) (query : Utf16) (filters : DesktopSearchFilters)

def normalized : Utf16 := toLowerCase lower (trimSpaces query)

/-- An empty query is answered before any document is ranked. -/
def rankedResults : List RankedSearchResult :=
  if normalized lower query = [] then []
  else ((documents.zipIdx.filter fun (document, _) => (filters.kinds = [] || document.kind ∈ filters.kinds) &&
    filters.canvasId.all (document.canvasId = ·) && documentMatches document (normalized lower query)).map
      fun (document, documentIndex) => ⟨document, searchRank document (normalized lower query), documentIndex⟩).insertionSort
        (compareSearchRank · · ≤ 0)

def reportedDocuments : List DesktopSearchDocument :=
  ((rankedResults lower documents query filters).take (searchLimit filters)).map (·.document)

def searchDesktopSearchIndexWithTruncation : List DesktopSearchResult × Bool :=
  ((reportedDocuments lower documents query filters).map (searchResultFromDocument · (normalized lower query)),
    searchLimit filters < (rankedResults lower documents query filters).length)

def DesktopSearchDocument.field : DesktopSearchMatchField → Utf16
  | .title => document.title
  | .body => document.body

/-- A prompt is found in its body, another document in its title before its body. -/
def DesktopSearchDocument.searchedField : DesktopSearchMatchField :=
  if document.kind = .prompt ∨ indexOf document.normalizedTitle normalizedQuery = none then .body else .title

/-- The match stands in its field, which spells the query there, and a match of a short query stands in its excerpt. -/
structure DesktopSearchMatch.Located (found : DesktopSearchMatch) : Prop where
  inside : found.start + found.length ≤ (document.field found.field).length
  spelled : toLowerCase lower (slice (document.field found.field) found.start (found.start + found.length)) =
    normalized lower query
  shown : query.length ≤ 120 ∨ (normalized lower query).length ≤ 120 →
    found.excerpt = slice (document.field found.field) found.excerptStart (found.excerptStart + found.excerpt.length) ∧
    found.excerpt.length ≤ 120 ∧ found.excerptStart ≤ found.start ∧
    found.start + found.length ≤ found.excerptStart + found.excerpt.length
end

variable {lower : LowerCase} {documents : List DesktopSearchDocument} {document : DesktopSearchDocument}
  {query source : Utf16} {filters : DesktopSearchFilters} {start length first last : Nat}

theorem findIdx?_slice {space : Nat} (found : (slice source first last).findIdx? isSpace = some space) : first + space < last := by
  have within := (findIdx?_eq_some_iff_findIdx_eq.mp found).1
  rw [slice, length_drop, length_take] at within
  omega

theorem trimmedStart_between (before : first ≤ start) :
    first ≤ trimmedStart source first start ∧ trimmedStart source first start ≤ start := by
  unfold trimmedStart
  split
  · cases found : (slice source first start).findIdx? isSpace with
    | none => exact ⟨Nat.le_refl _, before⟩
    | some space =>
      have earlier := findIdx?_slice found
      simp only [Option.elim_some]
      omega
  · exact ⟨Nat.le_refl _, before⟩

theorem trimmedEnd_between (behind : first ≤ last) :
    first ≤ trimmedEnd source first last ∧ trimmedEnd source first last ≤ last := by
  unfold trimmedEnd
  split
  · cases found : (slice source first last).findIdx? isSpace with
    | none => exact ⟨behind, Nat.le_refl _⟩
    | some space =>
      have earlier := findIdx?_slice found
      simp only [Option.elim_some]
      omega
  · exact ⟨behind, Nat.le_refl _⟩

theorem highlightableExcerpt_window (inside : start + length ≤ source.length) (short : length ≤ 120) :
    ∃ first last, highlightableExcerpt source start length = ⟨slice source first last, first⟩ ∧
      first ≤ start ∧ start + length ≤ last ∧ last ≤ source.length ∧ last ≤ first + 120 := by
  obtain ⟨last, ends⟩ : ∃ last, last = min source.length (start - (120 - length) / 2 + 120) := ⟨_, rfl⟩
  have whole : (if last - (start - (120 - length) / 2) < 120 then last - 120 else start - (120 - length) / 2) = last - 120 := by
    split <;> omega
  refine ⟨trimmedStart source (last - 120) start, trimmedEnd source (start + length) last, ?_, ?_⟩
  · simp only [highlightableExcerpt, ← ends, whole]
  · have left := @trimmedStart_between source start (last - 120) (by omega)
    have right := @trimmedEnd_between source (start + length) last (by omega)
    omega

theorem buildSearchMatch_located {field : DesktopSearchMatchField}
    (steady : Steady lower (document.field field) (normalized lower query))
    (present : (indexOf (toLowerCase lower (document.field field)) (normalized lower query)).isSome) :
    (∀ found ∈ buildSearchMatch (normalized lower query) (document.field field) (toLowerCase lower (document.field field)) field,
        found.Located lower document query) ↔
      Settled lower (document.field field) (normalized lower query) ∧
        (query.length ≤ 120 → (normalized lower query).length ≤ 120) := by
  obtain ⟨start, found⟩ := Option.isSome_iff_exists.mp present
  obtain ⟨inside, spelled⟩ := steady.place found
  simp only [buildSearchMatch, found, Option.map_some, Option.mem_some_iff, forall_eq', Settled, spelled]
  constructor
  · intro located
    refine ⟨located.spelled, fun short => ?_⟩
    obtain ⟨_, window, first, last⟩ := located.shown (.inl short)
    simp only at window first last
    omega
  · rintro ⟨settled, measured⟩
    refine ⟨inside, settled, fun short => ?_⟩
    have short : (normalized lower query).length ≤ 120 := short.elim measured id
    obtain ⟨first, last, shown, before, behind, ends, window⟩ := highlightableExcerpt_window inside short
    have width : (slice (document.field field) first last).length = last - first := by
      rw [slice, length_drop, length_take, Nat.min_eq_left ends]
    simp only [shown, width]
    refine ⟨by rw [Nat.add_sub_cancel' (by omega)], by omega, before, by omega⟩

theorem findDocumentMatch_searched (input : DesktopSearchDocumentInput) (normalizedQuery : Utf16) :
    let document := createDesktopSearchDocument lower input
    let field := document.searchedField normalizedQuery
    findDocumentMatch document normalizedQuery =
      buildSearchMatch normalizedQuery (document.field field) (toLowerCase lower (document.field field)) field := by
  intro document field
  by_cases prompt : document.kind = .prompt
  · have body : field = .body := if_pos (.inl prompt)
    rw [body, findDocumentMatch, if_pos prompt]
    rfl
  · cases titled : indexOf document.normalizedTitle normalizedQuery with
    | none =>
      have body : field = .body := if_pos (.inr titled)
      rw [body, findDocumentMatch, if_neg prompt, buildSearchMatch, titled]
      rfl
    | some start =>
      have title : field = .title := if_neg (by simp [prompt, titled])
      rw [title, findDocumentMatch, if_neg prompt]
      change _ = buildSearchMatch normalizedQuery document.title document.normalizedTitle .title
      rw [buildSearchMatch, titled]
      rfl

theorem findDocumentMatch_isSome (normalizedQuery : Utf16) :
    (findDocumentMatch document normalizedQuery).isSome = documentMatches document normalizedQuery := by
  unfold findDocumentMatch documentMatches
  split <;> simp [buildSearchMatch]

theorem reportedDocuments_sound (reported : document ∈ reportedDocuments lower documents query filters) :
    document ∈ documents ∧ documentMatches document (normalized lower query) = true := by
  obtain ⟨_, taken, rfl⟩ := mem_map.mp reported
  have ranked := mem_of_mem_take taken
  unfold rankedResults at ranked
  split at ranked
  · cases ranked
  · rw [mem_insertionSort, mem_map] at ranked
    obtain ⟨_, kept, rfl⟩ := ranked
    rw [mem_filter, Bool.and_eq_true] at kept
    exact ⟨fst_mem_of_mem_zipIdx kept.1, kept.2.2⟩

/-- Of a field whose units become one each up to the place of the query, a match is reported where it stands exactly
when the query has the same lower case there alone, and a short query stays short. -/
theorem reported_matches_located (inputs : List DesktopSearchDocumentInput) (query : Utf16)
    (filters : DesktopSearchFilters) :
    let documents := inputs.map (createDesktopSearchDocument lower)
    (searchDesktopSearchIndexWithTruncation lower documents query filters).1 =
      (reportedDocuments lower documents query filters).map (searchResultFromDocument · (normalized lower query)) ∧
    ∀ document ∈ reportedDocuments lower documents query filters,
      Steady lower (document.field (document.searchedField (normalized lower query))) (normalized lower query) →
        ((∀ found ∈ (searchResultFromDocument document (normalized lower query)).«match», found.Located lower document query) ↔
          Settled lower (document.field (document.searchedField (normalized lower query))) (normalized lower query) ∧
            (query.length ≤ 120 → (normalized lower query).length ≤ 120)) := by
  refine ⟨rfl, fun document reported steady => ?_⟩
  obtain ⟨member, present⟩ := reportedDocuments_sound reported
  obtain ⟨input, _, rfl⟩ := mem_map.mp member
  rw [← findDocumentMatch_isSome, findDocumentMatch_searched, buildSearchMatch, Option.isSome_map] at present
  rw [searchResultFromDocument, findDocumentMatch_searched]
  exact buildSearchMatch_located steady present

def sampleLower : LowerCase := fun _ unit _ =>
  if unit = 0x130 then [0x69, 0x307] else if 65 ≤ unit ∧ unit ≤ 90 then [unit + 32] else [unit]

def taskInput (title : Utf16) : DesktopSearchDocumentInput := ⟨⟨.task, [], [], [], none, title, none, none⟩, none, title⟩

/-- The query `a` is found behind the title `İa`. -/
theorem match_outside_title : ∃ result ∈ (searchDesktopSearchIndexWithTruncation sampleLower
      [createDesktopSearchDocument sampleLower (taskInput [0x130, 97])] [97] ⟨[], none, none⟩).1,
    ∃ found ∈ result.«match», found.field = .title ∧ result.title.length < found.start + found.length := by
  decide

/-- The query `B` is found behind the `A` of the title `Ab`. -/
theorem reported_matches_located_of_letters :
    ∃ found ∈ (searchResultFromDocument (createDesktopSearchDocument sampleLower (taskInput [65, 98]))
      (normalized sampleLower [66])).«match»,
      found.Located sampleLower (createDesktopSearchDocument sampleLower (taskInput [65, 98])) [66] := by
  have steady : Steady sampleLower [65, 98] [98] := by
    unfold Steady
    decide
  have settled : Settled sampleLower [65, 98] [98] := by
    unfold Settled
    decide
  refine ⟨_, rfl, ((reported_matches_located [taskInput [65, 98]] [66] ⟨[], none, none⟩).2 _ ?_ steady).mpr ⟨settled, ?_⟩ _ rfl⟩
  · decide
  · exact fun _ => by decide

end PlanWeave
