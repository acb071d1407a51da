import Mathlib.Data.List.Induction

namespace History
open List
variable {Entry κ : Type} [DecidableEq κ]

inductive Lawful (law : List Entry → Entry → Prop) : List Entry → Prop
  | nil : Lawful law []
  | snoc {log : List Entry} {entry : Entry} (lawful : Lawful law log) (follows : law log entry) : Lawful law (log ++ [entry])

def latest (key : Entry → κ) (log : List Entry) (wanted : κ) : Option Entry := (log.filter (key · = wanted)).getLast?

variable {key : Entry → κ} {log : List Entry} {entry last : Entry} {wanted : κ} {law : List Entry → Entry → Prop}
  {related : Entry → Entry → Prop}

theorem latest_snoc : latest key (log ++ [entry]) wanted = if key entry = wanted then some entry else latest key log wanted := by
  unfold latest
  rw [filter_append]
  by_cases same : key entry = wanted
  · simp [same]
  · simp [same]

theorem latest_spec (found : latest key log wanted = some last) : last ∈ log ∧ key last = wanted := by
  have member := mem_of_getLast? found
  rw [mem_filter] at member
  exact ⟨member.1, of_decide_eq_true member.2⟩

theorem exists_latest (key : Entry → κ) (member : entry ∈ log) : ∃ last, latest key log (key entry) = some last := by
  cases found : latest key log (key entry) with
  | some last => exact ⟨last, rfl⟩
  | none =>
    have empty := getLast?_eq_none_iff.mp found
    have kept : entry ∈ log.filter (key · = key entry) := mem_filter.mpr ⟨member, decide_eq_true rfl⟩
    rw [empty] at kept
    cases kept

theorem related_latest (pairwise : log.Pairwise fun earlier later => key earlier = key later → related earlier later)
    (member : entry ∈ log) (found : latest key log (key entry) = some last) : entry = last ∨ related entry last := by
  obtain ⟨_, split⟩ := getLast?_eq_some_iff.mp found
  have kept : entry ∈ log.filter (key · = key entry) := mem_filter.mpr ⟨member, decide_eq_true rfl⟩
  have ordered := pairwise.filter (key · = key entry)
  rw [split] at kept ordered
  rcases mem_append.mp kept with earlier | final
  · right
    have same := (latest_spec found).2.symm
    exact (pairwise_append.mp ordered).2.2 entry earlier last (mem_singleton.mpr rfl) same
  · exact .inl (mem_singleton.mp final)

theorem Lawful.pairwise (lawful : Lawful law log)
    (trans : ∀ {first second third}, related first second → related second third → related first third)
    (step : ∀ {log entry last}, Lawful law log → law log entry → latest key log (key entry) = some last → related last entry) :
    log.Pairwise fun earlier later => key earlier = key later → related earlier later := by
  induction lawful with
  | nil => exact .nil
  | @snoc _ _ lawful follows ih =>
    rw [pairwise_append]
    refine ⟨ih, pairwise_singleton _ _, fun earlier member later single same => ?_⟩
    rw [mem_singleton.mp single] at same ⊢
    obtain ⟨_, found⟩ := exists_latest key member
    have moved := step lawful follows (same ▸ found)
    rcases related_latest ih member found with rfl | related
    · exact moved
    · exact trans related moved

theorem Lawful.all (holds : Entry → Prop) (lawful : Lawful law log)
    (step : ∀ {log entry}, Lawful law log → (∀ earlier ∈ log, holds earlier) → law log entry → holds entry) :
    ∀ entry ∈ log, holds entry := by
  induction lawful with
  | nil => exact fun entry member => absurd member not_mem_nil
  | snoc lawful follows ih =>
    intro entry member
    rcases mem_append.mp member with earlier | final
    · exact ih entry earlier
    · rw [mem_singleton.mp final]
      exact step lawful ih follows

theorem Lawful.strengthen {holds : Entry → Prop} (lawful : Lawful law log) (every : ∀ entry ∈ log, holds entry) :
    Lawful (fun log entry => law log entry ∧ holds entry) log := by
  induction lawful with
  | nil => exact .nil
  | snoc _ follows ih =>
    exact .snoc (ih fun entry member => every entry (mem_append_left _ member))
      ⟨follows, every _ (mem_append_right _ (mem_singleton.mpr rfl))⟩

theorem Lawful.and {also : List Entry → Entry → Prop} (lawful : Lawful law log) (other : Lawful also log) :
    Lawful (fun log entry => law log entry ∧ also log entry) log := by
  induction lawful with
  | nil => exact .nil
  | @snoc log entry _ follows ih =>
    generalize whole : log ++ [entry] = full at other
    cases other with
    | nil => simp at whole
    | snoc before here =>
      have same := append_inj' whole rfl
      rw [← same.1] at before here
      rw [← singleton_inj.mp same.2] at here ⊢
      rw [← same.1]
      exact .snoc (ih before) ⟨follows, here⟩

theorem lawful_of_pairwise (pairwise : log.Pairwise related) : Lawful (fun log entry => ∀ earlier ∈ log, related earlier entry) log := by
  induction log using List.reverseRecOn with
  | nil => exact .nil
  | append_singleton _ entry ih =>
    have split := pairwise_append.mp pairwise
    exact .snoc (ih split.1) fun earlier member => split.2.2 earlier member entry (mem_singleton.mpr rfl)

theorem lawful_of_take (follows : ∀ index, (bound : index < log.length) → law (log.take index) log[index]) : Lawful law log := by
  induction log using List.reverseRecOn with
  | nil => exact .nil
  | append_singleton log _ ih =>
    refine .snoc (ih fun index bound => ?_) ?_
    · have inside := follows index (by simp; omega)
      rw [take_append_of_le_length (Nat.le_of_lt bound), getElem_append_left bound] at inside
      exact inside
    · have final := follows log.length (by simp)
      simpa using final

end History
