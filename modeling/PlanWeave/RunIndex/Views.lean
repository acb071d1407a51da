import PlanWeave.Lib.Paging
import PlanWeave.RunIndex.Refinement

namespace PlanWeave
open Checked List Option

structure BlockRunIndexReadSnapshot where
  pageCount : Nat
  head : Option BlockRunIndexEntry
  latestArtifact : Option BlockRunIndexEntry
  readPage : Nat → Except String BlockRunPage

structure BlockRunIndexView where
  entries : List BlockRunIndexEntry
  hasMore : Bool
  head : Option BlockRunIndexEntry
  latestArtifact : Option BlockRunIndexEntry

def pageOutOfBounds (pageIndex : Nat) : String := s!"page index {pageIndex} is out of bounds"

variable (host : IndexHost)

def v3ReadSnapshot (pages : List BlockRunPage) (head latestArtifact : Option BlockRunIndexEntry) : BlockRunIndexReadSnapshot where
  pageCount := pages.length
  head := head
  latestArtifact := latestArtifact
  readPage pageIndex := present pages[pageIndex]? (pageOutOfBounds pageIndex)

def v4ReadSnapshot (store : IndexStore) (pages : List PageDescriptor) (head latestArtifact : Option BlockRunIndexEntry) :
    BlockRunIndexReadSnapshot where
  pageCount := pages.length
  head := head
  latestArtifact := latestArtifact
  readPage pageIndex := do
    let descriptor ← present pages[pageIndex]? (pageOutOfBounds pageIndex)
    readV4PageObject host store descriptor

def v5ReadSnapshot (store : IndexStore) (manifest : BlockRunIndexManifest) : BlockRunIndexReadSnapshot where
  pageCount := manifest.pageCount
  head := manifest.head
  latestArtifact := manifest.latestArtifact
  readPage pageIndex := do
    demand (pageIndex < manifest.pageCount) (pageOutOfBounds pageIndex)
    let rootNodeId ← present manifest.rootNodeId "v5 manifest root is missing"
    let descriptor ← readBlockRunIndexV5DescriptorAt host store rootNodeId pageIndex
    readV4PageObject host store descriptor

section View
variable (snapshot : BlockRunIndexReadSnapshot)

/-- The search for the newest eligible page. The range ends before `top`, and the result counts the pages up to that page. -/
def newestEligible (before : BlockRunLogicalCursor) : Nat → Nat → Nat → Nat → Except String Nat
  | 0, _, _, eligible => .ok eligible
  | rounds + 1, low, top, eligible =>
    if top ≤ low then .ok eligible
    else do
      let middle := (low + (top - 1)) / 2
      let entries ← snapshot.readPage middle
      match entries.head?, entries.getLast? with
      | some first, some last =>
        if Before host last.cursor before then newestEligible before rounds (middle + 1) top (middle + 1)
        else if ¬ Before host first.cursor before then newestEligible before rounds low middle eligible
        else return middle + 1
      | _, _ => throw s!"Block run index page {middle} is empty."

def startPages (before : Option BlockRunLogicalCursor) : Except String Nat :=
  match before with
  | some before =>
    if 1 < snapshot.pageCount then newestEligible host snapshot before snapshot.pageCount 0 snapshot.pageCount 0
    else .ok snapshot.pageCount
  | none => .ok snapshot.pageCount

variable (before : Option BlockRunLogicalCursor) (limit : Nat)

def isBefore (entry : BlockRunIndexEntry) : Bool := before.all fun cursor => Before host entry.cursor cursor

def pushEntries : List BlockRunIndexEntry → List BlockRunIndexEntry → List BlockRunIndexEntry
  | newestFirst, [] => newestFirst
  | newestFirst, entry :: older =>
    if !isBefore host before entry then pushEntries newestFirst older
    else if limit < (newestFirst ++ [entry]).length then newestFirst ++ [entry]
    else pushEntries (newestFirst ++ [entry]) older

def readBack : Nat → List BlockRunIndexEntry → Except String (List BlockRunIndexEntry)
  | 0, newestFirst => .ok newestFirst
  | pageNumber + 1, newestFirst =>
    if limit < newestFirst.length then .ok newestFirst
    else do
      let entries ← snapshot.readPage pageNumber
      readBack pageNumber (pushEntries host before limit newestFirst entries.reverse)

end View

def readBlockRunIndexViewOnce (snapshot : Option BlockRunIndexReadSnapshot) (before : Option BlockRunLogicalCursor) (limit : Nat) :
    Except String BlockRunIndexView := do
  let snapshot ← present snapshot "Block run index is missing."
  let startPage ← startPages host snapshot before
  let newestFirst ← readBack host snapshot before limit startPage []
  return {
    entries := newestFirst.take limit, hasMore := limit < newestFirst.length
    head := snapshot.head, latestArtifact := snapshot.latestArtifact }

/-- Follow the next cursors, each that of the last entry of a page. -/
def readHistory (snapshot : Option BlockRunIndexReadSnapshot) (limit : Nat) :
    Nat → Option BlockRunLogicalCursor → Except String (List BlockRunIndexEntry)
  | 0, _ => .ok []
  | rounds + 1, before => do
    let view ← readBlockRunIndexViewOnce host snapshot before limit
    if !view.hasMore then return view.entries
    let older ← readHistory snapshot limit rounds (view.entries.getLast?.map BlockRunIndexEntry.cursor)
    return view.entries ++ older

structure Paged (snapshot : BlockRunIndexReadSnapshot) (pages : List BlockRunPage) : Prop where
  count : snapshot.pageCount = pages.length
  reads : ∀ index page, pages[index]? = some page → snapshot.readPage index = .ok page
  filled : ∀ page ∈ pages, page ≠ []
  ordered : Chronological host pages.flatten

variable {host} {snapshot : BlockRunIndexReadSnapshot} {pages : List BlockRunPage} {store : IndexStore} {limit : Nat}

theorem Paged.v3 (filled : ∀ page ∈ pages, page ≠ []) (ordered : Chronological host pages.flatten)
    (head latestArtifact : Option BlockRunIndexEntry) : Paged host (v3ReadSnapshot pages head latestArtifact) pages where
  count := rfl
  reads := fun _ _ found => present_ok.mpr found
  filled := filled
  ordered := ordered

theorem Paged.v4 (stored : ∀ page ∈ pages, PageFilled page ∧ store.objects.get? (pageObjectId host page) = some (storedPage host page))
    (ordered : Chronological host pages.flatten) (head latestArtifact : Option BlockRunIndexEntry) :
    Paged host (v4ReadSnapshot host store (pages.map (descriptorOf host)) head latestArtifact) pages where
  count := length_map _
  reads := fun index page found => by
    obtain ⟨filled, object⟩ := stored page (mem_of_getElem? found)
    show (present ((pages.map (descriptorOf host))[index]?) _ >>= _) = _
    rw [getElem?_map, found]
    exact readV4PageObject_ok filled object
  filled := fun page member => (stored page member).1.1
  ordered := ordered

theorem IndexTree.paged {manifest : BlockRunIndexManifest} {children : List PageTree}
    (indexed : IndexTree host store manifest.rootNodeId children) (count : manifest.pageCount = (indexPages children).length) :
    Paged host (v5ReadSnapshot host store manifest) (indexPages children) where
  count := count
  reads := fun index page found => by
    have inside : index < manifest.pageCount := count ▸ (List.getElem?_eq_some_iff.mp found).1
    have nonempty : children ≠ [] := fun none => by
      rw [none] at found
      cases found
    show (demand (index < manifest.pageCount) _ >>= fun _ => present manifest.rootNodeId _ >>= _) = _
    rw [demand, if_pos inside, indexed.rootId nonempty]
    show (readBlockRunIndexV5DescriptorAt host store _ index >>= _) = _
    rw [indexed.descriptorAt found]
    exact indexed.readPage (List.mem_of_getElem? found)
  filled := fun page member => (indexed.shape.filled page member).1
  ordered := indexed.shape.ordered

section Search
variable {before : BlockRunLogicalCursor}

theorem newestEligible_ok (paged : Paged host snapshot pages) : ∀ (rounds low top : Nat), low ≤ top → top ≤ pages.length →
    top ≤ low + rounds → (∀ entry ∈ (pages.drop top).flatten, Upto host before entry.cursor) →
    ∃ count, newestEligible host snapshot before rounds low top low = .ok count ∧ count ≤ pages.length ∧
      ∀ entry ∈ (pages.drop count).flatten, Upto host before entry.cursor
  | 0, low, top, ordered, inside, enough, behind => by
    cases Nat.le_antisymm ordered enough
    exact ⟨low, rfl, inside, behind⟩
  | rounds + 1, low, top, ordered, inside, enough, behind => by
    unfold newestEligible
    split
    · rename_i closed
      cases Nat.le_antisymm ordered closed
      exact ⟨low, rfl, inside, behind⟩
    · have within : (low + (top - 1)) / 2 < top := by omega
      have above : low ≤ (low + (top - 1)) / 2 := by omega
      generalize (low + (top - 1)) / 2 = middle at within above
      obtain ⟨page, at_page⟩ : ∃ page, pages[middle]? = some page := ⟨_, getElem?_eq_getElem (by omega)⟩
      have nonempty := paged.filled page (List.mem_of_getElem? at_page)
      obtain ⟨first, last, first_same, last_same⟩ := Parts.exists_ends nonempty
      have tail : pages.drop middle = page :: pages.drop (middle + 1) := by
        obtain ⟨bound, same⟩ := List.getElem?_eq_some_iff.mp at_page
        rw [List.drop_eq_getElem_cons bound, same]
      have chronological : Chronological host (pages.drop middle).flatten :=
        paged.ordered.sublist (List.drop_sublist _ _).flatten
      show ∃ count, (snapshot.readPage middle >>= _) = _ ∧ _
      rw [paged.reads middle page at_page]
      simp only [bind, Except.bind, first_same, last_same]
      split
      · exact newestEligible_ok paged rounds (middle + 1) top within inside (by omega) behind
      rename_i last_late
      split
      · rename_i first_late
        refine newestEligible_ok paged rounds low middle above (by omega) (by omega) fun entry member => ?_
        have earliest : firstCursor (pages.drop middle).flatten = first.cursor := by
          rw [tail]
          simp [firstCursor, first_same]
        exact (not_before.mp first_late).trans (earliest ▸ first_upto chronological member)
      · refine ⟨middle + 1, rfl, by omega, fun entry member => (not_before.mp last_late).trans ?_⟩
        rw [tail, List.flatten_cons] at chronological
        exact (List.pairwise_append.mp chronological).2.2 last (List.mem_of_getLast? last_same) entry member

end Search

variable {before : Option BlockRunLogicalCursor}

/-- The entries that a reader with a cursor has still to read, the newest first. -/
def older (host : IndexHost) (before : Option BlockRunLogicalCursor) (pages : List BlockRunPage) : List BlockRunIndexEntry :=
  pages.flatten.reverse.filter (isBefore host before)

theorem startPages_ok (paged : Paged host snapshot pages) (before : Option BlockRunLogicalCursor) :
    ∃ count, startPages host snapshot before = .ok count ∧ count ≤ pages.length ∧ older host before (pages.take count) = older host before pages := by
  have whole : older host before (pages.take snapshot.pageCount) = older host before pages := by
    rw [paged.count, take_length]
  cases before with
  | none => exact ⟨_, rfl, Nat.le_of_eq paged.count, whole⟩
  | some before =>
    simp only [startPages]
    split
    · obtain ⟨count, searched, inside, behind⟩ := newestEligible_ok paged snapshot.pageCount 0 snapshot.pageCount
        (Nat.zero_le _) (Nat.le_of_eq paged.count) (by omega) (by rw [paged.count, drop_length]; simp)
      refine ⟨count, searched, inside, ?_⟩
      have none : (pages.drop count).flatten.reverse.filter (isBefore host (some before)) = [] :=
        filter_eq_nil_iff.mpr fun entry member => by
          simpa [isBefore] using not_before.mpr (behind entry (mem_reverse.mp member))
      unfold older
      nth_rewrite 2 [← take_append_drop count pages]
      rw [flatten_append, reverse_append, filter_append, none, nil_append]
    · exact ⟨_, rfl, Nat.le_of_eq paged.count, whole⟩

theorem take_append_take {α : Type} (count : Nat) (front back : List α) : (front.take count ++ back).take count = (front ++ back).take count := by
  rw [take_append, take_append, take_take, Nat.min_self, length_take]
  congr 2
  omega

theorem pushEntries_eq : ∀ (entries newestFirst : List BlockRunIndexEntry), newestFirst.length ≤ limit →
    pushEntries host before limit newestFirst entries = (newestFirst ++ entries.filter (isBefore host before)).take (limit + 1)
  | [], newestFirst, short => by
    rw [pushEntries, filter_nil, append_nil, take_of_length_le (Nat.le_succ_of_le short)]
  | entry :: entries, newestFirst, short => by
    unfold pushEntries
    cases eligible : isBefore host before entry with
    | false =>
      rw [filter_cons_of_neg (by rw [eligible]; exact Bool.false_ne_true)]
      exact pushEntries_eq entries newestFirst short
    | true =>
      rw [filter_cons_of_pos eligible, append_cons newestFirst entry (entries.filter _)]
      simp only [Bool.not_true, Bool.false_eq_true, if_false]
      split
      · rename_i full
        rw [length_append, length_singleton] at full
        rw [take_left' (by rw [length_append, length_singleton]; omega)]
      · rename_i room
        exact pushEntries_eq entries _ (Nat.not_lt.mp room)

theorem readBack_ok (paged : Paged host snapshot pages) : ∀ (count : Nat) (newestFirst : List BlockRunIndexEntry),
    count ≤ pages.length → newestFirst.length ≤ limit + 1 →
    readBack host snapshot before limit count newestFirst = .ok ((newestFirst ++ older host before (pages.take count)).take (limit + 1))
  | 0, newestFirst, _, short => by
    rw [readBack, take_zero, show older host before [] = [] from rfl, append_nil, take_of_length_le short]
  | count + 1, newestFirst, inside, short => by
    unfold readBack
    split
    · rename_i full
      rw [take_left' (by omega)]
    rename_i room
    have bound : count < pages.length := inside
    have pushed := @pushEntries_eq host limit before pages[count].reverse newestFirst (Nat.not_lt.mp room)
    rw [paged.reads count _ (getElem?_eq_getElem bound)]
    show readBack host snapshot before limit count (pushEntries host before limit newestFirst _) = _
    rw [pushed, readBack_ok paged count _ (Nat.le_of_succ_le inside) (length_take_le _ _), take_append_take, append_assoc]
    congr 3
    unfold older
    rw [← filter_append, ← reverse_append, ← take_append_getElem (by omega), flatten_append, flatten_singleton]

theorem readView_ok (paged : Paged host snapshot pages) (before : Option BlockRunLogicalCursor) (limit : Nat) :
    readBlockRunIndexViewOnce host (some snapshot) before limit = .ok {
      entries := (older host before pages).take limit, hasMore := limit < (older host before pages).length
      head := snapshot.head, latestArtifact := snapshot.latestArtifact } := by
  obtain ⟨count, started, inside, same⟩ := startPages_ok paged before
  have back := @readBack_ok host snapshot pages limit before paged count [] inside (Nat.zero_le _)
  rw [same, nil_append] at back
  show (startPages host snapshot before >>= fun startPage => readBack host snapshot before limit startPage [] >>= _) = _
  rw [started]
  show (readBack host snapshot before limit count [] >>= _) = _
  rw [back]
  have more : (limit < ((older host before pages).take (limit + 1)).length) = (limit < (older host before pages).length) := by
    rw [length_take, lt_inf_iff, eq_iff_iff, and_iff_right (Nat.lt_succ_self _)]
  simp only [bind, Except.bind, pure, Except.pure, more, take_take, Nat.min_eq_left (Nat.le_succ limit)]

/-- What a cursor at one entry still lets a reader see of another. -/
def standsBehind (host : IndexHost) (last entry : BlockRunIndexEntry) : Bool := Before host entry.cursor last.cursor

theorem older_ordered (paged : Paged host snapshot pages) (before : Option BlockRunLogicalCursor) :
    Paging.Ordered (standsBehind host) (older host before pages) where
  pairwise := by
    refine (pairwise_reverse.mpr (paged.ordered.imp fun upto => ?_)).sublist filter_sublist
    exact decide_eq_false (not_before.mpr upto)
  irrefl := fun entry => decide_eq_false (Before.irrefl _)
  trans := fun first second third behind level =>
    decide_eq_true ((not_before.mp (of_decide_eq_false level)).trans_before (of_decide_eq_true behind))

theorem older_next {last : BlockRunIndexEntry} (member : last ∈ older host before pages) :
    older host (some last.cursor) pages = (older host before pages).filter (standsBehind host last) := by
  unfold older
  rw [List.filter_filter]
  refine List.filter_congr fun entry _ => ?_
  have eligible := (List.mem_filter.mp member).2
  cases before with
  | none => simp [isBefore, standsBehind]
  | some cursor =>
    simp only [isBefore, Option.all_some, decide_eq_true_eq] at eligible
    simp only [isBefore, Option.all_some, standsBehind]
    by_cases behind : Before host entry.cursor last.cursor
    · simp [behind, behind.trans_upto eligible.upto]
    · simp [behind]

theorem readHistory_ok (paged : Paged host snapshot pages) (positive : 0 < limit) : ∀ (rounds : Nat) (before : Option BlockRunLogicalCursor),
    readHistory host (some snapshot) limit rounds before = .ok (Paging.seek (standsBehind host) limit rounds (older host before pages))
  | 0, _ => rfl
  | rounds + 1, before => by
    unfold readHistory Paging.seek
    rw [readView_ok paged before limit]
    show (if (!decide (limit < (older host before pages).length)) = true then _ else _) = _
    by_cases more : limit < (older host before pages).length
    · have filled : (older host before pages).take limit ≠ [] := by
        rw [← length_pos_iff, length_take]
        omega
      have final := getLast?_eq_some_getLast filled
      generalize ((older host before pages).take limit).getLast filled = last at final
      have next := older_next (mem_of_mem_take (mem_of_getLast? final))
      rw [if_neg (by simpa using more), if_pos more]
      rw [final, map_some, readHistory_ok paged positive rounds, next]
      rfl
    · rw [if_pos (by simpa using more), if_neg more, append_nil]
      rfl

/-- Every view is exact, and following the next cursors reads every entry once unless a page ends between entries of one position. -/
theorem views_page_history (paged : Paged host snapshot pages) (positive : 0 < limit) :
    (∀ before, readBlockRunIndexViewOnce host (some snapshot) before limit = .ok {
      entries := (older host before pages).take limit, hasMore := limit < (older host before pages).length
      head := snapshot.head, latestArtifact := snapshot.latestArtifact }) ∧
    ((∀ rounds, pages.flatten.length ≤ rounds → ∃ entries, readHistory host (some snapshot) limit rounds none = .ok entries ∧
        entries.Perm pages.flatten) ↔
      Paging.CleanCuts (standsBehind host) limit pages.flatten.reverse) := by
  have all : older host none pages = pages.flatten.reverse := filter_eq_self.mpr fun _ _ => rfl
  have ordered := older_ordered paged none
  rw [all] at ordered
  have history : ∀ rounds, readHistory host (some snapshot) limit rounds none = .ok (Paging.seek (standsBehind host) limit rounds pages.flatten.reverse) :=
    fun rounds => all ▸ readHistory_ok paged positive rounds none
  refine ⟨fun before => readView_ok paged before limit, ?_⟩
  constructor
  · intro enumerates
    obtain ⟨_, read, every⟩ := enumerates pages.flatten.length (Nat.le_refl _)
    cases (history _).symm.trans read
    refine (Paging.seek_eq_iff positive _ ordered (Nat.le_of_eq (length_reverse))).mp ?_
    exact (Paging.seek_sublist positive _ ordered).eq_of_length (every.length_eq.trans length_reverse.symm)
  · intro clean rounds enough
    refine ⟨_, history rounds, ?_⟩
    rw [(Paging.seek_eq_iff positive rounds ordered (by rw [length_reverse]; exact enough)).mpr clean]
    exact reverse_perm _

theorem views_page_history_many : ∃ manifest, readV5Manifest manyRunsIndexed "generation-1" = .ok manifest ∧
    ∀ before, readBlockRunIndexViewOnce manyRunsHost (some (v5ReadSnapshot manyRunsHost manyRunsIndexed manifest)) before 1 =
      .ok { entries := (older manyRunsHost before [manyRunsEntries.take 64, manyRunsEntries.drop 64]).take 1
            hasMore := 1 < (older manyRunsHost before [manyRunsEntries.take 64, manyRunsEntries.drop 64]).length
            head := manifest.head, latestArtifact := manifest.latestArtifact } := by
  obtain ⟨_, index, pages⟩ := manyRunsIndexed_wellFormed
  have paged := index.indexed.paged index.fields.pageCount
  rw [pages] at paged
  exact ⟨manyRunsManifest, index.read, (views_page_history paged (by decide)).1⟩

/-- The three versions of a stored index show a reader the same. -/
theorem index_versions_read_alike {manifest : BlockRunIndexManifest} {children : List PageTree}
    (indexed : IndexTree host store manifest.rootNodeId children) (count : manifest.pageCount = (indexPages children).length)
    (before : Option BlockRunLogicalCursor) (limit : Nat) :
    ∀ snapshot ∈ [v3ReadSnapshot (indexPages children) manifest.head manifest.latestArtifact,
        v4ReadSnapshot host store ((indexPages children).map (descriptorOf host)) manifest.head manifest.latestArtifact],
      readBlockRunIndexViewOnce host (some snapshot) before limit =
        readBlockRunIndexViewOnce host (some (v5ReadSnapshot host store manifest)) before limit := by
  have tree := indexed.paged count
  have stored := fun page member => And.intro (indexed.shape.filled page member) (indexed.objects page member)
  simp only [forall_mem_cons, readView_ok tree, readView_ok (.v3 tree.filled tree.ordered _ _),
    readView_ok (.v4 stored tree.ordered _ _)]
  exact ⟨rfl, rfl, forall_mem_nil _⟩

theorem index_versions_read_alike_many : ∃ pages, readBlockRunIndexViewOnce manyRunsHost
      (some (v3ReadSnapshot pages manyRunsManifest.head manyRunsManifest.latestArtifact)) none 1 =
    readBlockRunIndexViewOnce manyRunsHost (some (v5ReadSnapshot manyRunsHost manyRunsIndexed manyRunsManifest)) none 1 := by
  obtain ⟨_, index, _⟩ := manyRunsIndexed_wellFormed
  exact ⟨_, index_versions_read_alike index.indexed index.fields.pageCount none 1 _ mem_cons_self⟩

def tiedNextManifest : BlockRunIndexManifest :=
  { tiedManifest with
    generation := "generation-3", total := 2, maxRetryIndex := 2
    rootNodeId := some "sha256-7f3a346378e35dab8e4fe54040e9d4c4dfeab153270efdb254f053a516e7095e" }

def tiedSnapshot : BlockRunIndexReadSnapshot := v5ReadSnapshot tiedHost tiedPublished tiedNextManifest

/-- Of two runs at one position the cursor of the newer one skips the other. -/
theorem tied_entries_are_skipped : readV5Manifest tiedPublished "generation-3" = .ok tiedNextManifest ∧
    Paged tiedHost tiedSnapshot [[tiedEntry, tiedAdded]] ∧
    ∀ rounds, readHistory tiedHost (some tiedSnapshot) 1 (rounds + 2) none = .ok [tiedAdded] := by
  have read : tiedSnapshot.readPage 0 = .ok [tiedEntry, tiedAdded] := by decide +kernel
  have ordered : Chronological tiedHost [[tiedEntry, tiedAdded]].flatten := by
    unfold Chronological
    decide +kernel
  have paged : Paged tiedHost tiedSnapshot [[tiedEntry, tiedAdded]] := by
    refine ⟨rfl, fun index page found => ?_, by simp, ordered⟩
    cases index with
    | zero =>
      cases found
      exact read
    | succ => cases found
  refine ⟨by decide +kernel, paged, fun rounds => ?_⟩
  have level : standsBehind tiedHost tiedAdded tiedEntry = false := by decide +kernel
  have itself : standsBehind tiedHost tiedAdded tiedAdded = false := decide_eq_false (Before.irrefl _)
  have all : older tiedHost none [[tiedEntry, tiedAdded]] = [tiedAdded, tiedEntry] := rfl
  rw [readHistory_ok paged Nat.one_pos, all]
  simp [Paging.seek, level, itself]

end PlanWeave
