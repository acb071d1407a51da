import PlanWeave.WorkspaceExecution.SessionPrograms

namespace PlanWeave.WorkspaceExecution
open List Option OrderedMap

namespace SessionRecord

def awaits (record : SessionRecord) (key : InteractionIdentity) : Bool :=
  (record.interactions.get? key).all (·.status = .pending)

def pendingKeys (record : SessionRecord) : List InteractionIdentity :=
  record.interactions.keys.filter fun key => (record.interactions.get? key).any (·.status = .pending)

end SessionRecord

/-- The interactions that a write expires of itself: those over by the clock of the caller, and those that are left pending
at the end of the session. -/
def WriteCause.expires (before : SessionRecord) : WriteCause → List InteractionIdentity
  | .observation _ snapshot => if snapshot.terminal.terminal then before.pendingKeys else []
  | .interactions _ page now =>
    let waiting := page.filter fun view => view.status = .pending && before.awaits view.key
    let late := waiting.filter (·.request.expiresAt ≤ now)
    let left := (before.pendingKeys ++ waiting.map InteractionView.key).filter fun key =>
      !page.any fun view => view.key = key && view.status ≠ .pending
    late.map InteractionView.key ++ if before.phase.terminal then left else []
  | _ => []

inductive Recorded (cause : WriteCause) (before : SessionRecord) (key : InteractionIdentity) : InteractionRecord → Prop
  | kept {record : InteractionRecord} (found : before.interactions.get? key = some record) : Recorded cause before key record
  | viewed {view : InteractionView} (among : view ∈ cause.page) (same : view.key = key) :
    Recorded cause before key ⟨view.status, none⟩
  | expired {intent : Option ResponseIntent} (ended : key ∈ cause.expires before)
      (known : intent = none ∨ ∃ record, before.interactions.get? key = some record ∧ record.responseIntent = intent) :
    Recorded cause before key ⟨.expired, intent⟩
  | intended {intent : ResponseIntent} (same : cause = .responseIntent key intent)
      (identity : intent.request.identity key.operationId = key) : Recorded cause before key ⟨.pending, some intent⟩

section Records
variable {records : InteractionRecords} {key : InteractionIdentity} {record : InteractionRecord} {view : InteractionView}
  {views page : List InteractionView} {before : SessionRecord} {now : Nat}

theorem recordView_cases (found : (recordView records view).get? key = some record) :
    records.get? key = some record ∨ view.key = key ∧ record = ⟨view.status, none⟩ := by
  unfold recordView at found
  by_cases same : key = view.key
  · rw [same] at found ⊢
    cases stood : records.get? view.key with
    | none =>
      rw [stood] at found
      simp only [get?_set_self, Option.some.injEq] at found
      exact .inr ⟨rfl, found.symm⟩
    | some previous =>
      rw [stood] at found
      by_cases pending : previous.status = .pending
      · simp only [pending, if_true, get?_set_self, Option.some.injEq] at found
        by_cases waits : view.status = .pending
        · left
          simp only [waits, if_true] at found
          rw [← found, ← pending]
        · right
          simp only [waits, if_false] at found
          exact ⟨rfl, found.symm⟩
      · simp only [pending, if_false, stood] at found
        exact .inl found
  · left
    cases stood : records.get? view.key with
    | none =>
      rw [stood] at found
      simpa only [get?_set_of_ne _ _ same] using found
    | some =>
      rw [stood] at found
      simp only at found
      split at found
      · simpa only [get?_set_of_ne _ _ same] using found
      · exact found

theorem interactionRecords_cases (found : (interactionRecords records views).get? key = some record) :
    records.get? key = some record ∨ ∃ view ∈ views, view.key = key ∧ record = ⟨view.status, none⟩ := by
  induction views generalizing records with
  | nil => exact .inl found
  | cons view _ ih =>
    rcases ih found with stood | ⟨other, among, same⟩
    · rcases recordView_cases stood with earlier | new
      · exact .inl earlier
      · exact .inr ⟨view, mem_cons_self, new⟩
    · exact .inr ⟨other, mem_cons_of_mem _ among, same⟩

theorem interactionRecords_final (among : view ∈ views) (done : view.status ≠ .pending)
    (found : (interactionRecords records views).get? view.key = some record) : record.status ≠ .pending := by
  unfold interactionRecords at found
  induction views generalizing records with
  | nil => cases among
  | cons _ rest ih =>
    rcases mem_cons.mp among with rfl | later
    · -- the view itself leaves a final record, which the rest of the page does not touch
      have final : ∃ stood, (recordView records view).get? view.key = some stood ∧ stood.status ≠ .pending := by
        unfold recordView
        cases old : records.get? view.key with
        | none => exact ⟨_, get?_set_self _ _ _, done⟩
        | some previous =>
          simp only
          split
          · exact ⟨_, get?_set_self _ _ _, done⟩
          · rename_i ended
            exact ⟨previous, old, ended⟩
      obtain ⟨stood, there, ended⟩ := final
      obtain ⟨_, reached, leads⟩ := RecordsLead.interactionRecords (recordView records view) rest view.key stood there
      unfold interactionRecords at reached
      rw [foldl_cons, reached] at found
      cases found
      rw [leads.final ended]
      exact ended
    · exact ih later found

theorem expireView_key (now : Nat) (view : InteractionView) : (expireView now view).key = view.key := by
  unfold expireView
  split <;> rfl

theorem mem_pendingKeys (found : before.interactions.get? key = some record) (pending : record.status = .pending) :
    key ∈ before.pendingKeys := by
  unfold SessionRecord.pendingKeys
  rw [mem_filter]
  refine ⟨?_, by simp [found, pending]⟩
  rw [← has_iff, OrderedMap.has, found]
  rfl

variable {handle : RemoteHandle}

theorem recorded_of_page
    (found : (interactionRecords before.interactions (page.map (expireView now))).get? key = some record) :
    Recorded (.interactions handle page now) before key record := by
  rcases interactionRecords_cases found with stood | ⟨_, member, same, equal⟩
  · exact .kept stood
  obtain ⟨_, among, rfl⟩ := List.mem_map.mp member
  rw [expireView_key] at same
  cases awaited : before.awaits key with
  | false =>
    -- the record was final before, and is still
    unfold SessionRecord.awaits at awaited
    cases old : before.interactions.get? key with
    | none =>
      rw [old] at awaited
      cases awaited
    | some previous =>
      rw [old] at awaited
      have ended : previous.status ≠ .pending := of_decide_eq_false awaited
      obtain ⟨_, reached, leads⟩ := RecordsLead.interactionRecords _ (page.map (expireView now)) key previous old
      rw [found] at reached
      cases reached
      rw [leads.final ended]
      exact .kept old
  | true =>
    rw [equal]
    unfold expireView
    split
    · rename_i ended
      simp only [Bool.and_eq_true, decide_eq_true_eq] at ended
      refine .expired ?_ (.inl rfl)
      apply List.mem_append_left
      rw [← same]
      apply List.mem_map_of_mem
      simp only [List.mem_filter, Bool.and_eq_true, decide_eq_true_eq]
      exact ⟨⟨among, ended.1, by rw [same]; exact awaited⟩, ended.2⟩
    · exact .viewed among same

theorem expireView_status (done : view.status ≠ .pending) : (expireView now view).status ≠ .pending := by
  unfold expireView
  split
  · intro absurd_
    cases absurd_
  · exact done

theorem expireView_of_pending (pending : (expireView now view).status = .pending) : expireView now view = view := by
  unfold expireView at *
  split
  · rename_i ended
    rw [if_pos ended] at pending
    cases pending
  · rfl

theorem left_of_page (terminal : before.phase.terminal = true)
    (found : (interactionRecords before.interactions (page.map (expireView now))).get? key = some record)
    (pending : record.status = .pending) : key ∈ WriteCause.expires before (.interactions handle page now) := by
  apply List.mem_append_right
  simp only [terminal, if_true, List.mem_filter, List.mem_append, Bool.not_eq_true', List.any_eq_false,
    Bool.and_eq_true, decide_eq_true_eq, not_and, Decidable.not_not]
  constructor
  · rcases interactionRecords_cases found with stood | ⟨_, member, same, equal⟩
    · exact .inl (mem_pendingKeys stood pending)
    right
    obtain ⟨view, among, rfl⟩ := List.mem_map.mp member
    have waits : (expireView now view).status = .pending := by
      rw [equal] at pending
      exact pending
    have awaiting : view.status = .pending := by
      rw [← expireView_of_pending waits]
      exact waits
    rw [expireView_key] at same
    rw [← same]
    apply List.mem_map_of_mem
    simp only [List.mem_filter, Bool.and_eq_true, decide_eq_true_eq]
    refine ⟨among, awaiting, ?_⟩
    unfold SessionRecord.awaits
    rw [same]
    cases old : before.interactions.get? key with
    | none => rfl
    | some previous =>
      obtain ⟨_, reached, leads⟩ := RecordsLead.interactionRecords _ (page.map (expireView now)) key previous old
      rw [found] at reached
      cases reached
      simp only [Option.all_some, decide_eq_true_eq]
      by_contra ended
      rw [leads.final ended] at pending
      exact ended pending
  · intro view among same
    by_contra done
    have member : expireView now view ∈ page.map (expireView now) := List.mem_map_of_mem among
    rw [← same, ← expireView_key now view] at found
    exact interactionRecords_final member (expireView_status done) found pending

end Records

variable {cause : WriteCause} {before : SessionRecord}

theorem recorded_of_terminal {records : InteractionRecords}
    {key : InteractionIdentity} {record : InteractionRecord} (found : (terminalInteractions records).get? key = some record)
    (recorded : ∀ old, records.get? key = some old → Recorded cause before key old)
    (left : ∀ old, records.get? key = some old → old.status = .pending → key ∈ cause.expires before) :
    Recorded cause before key record := by
  rw [terminalInteractions, get?_mapValues] at found
  obtain ⟨old, stood, rfl⟩ := map_eq_some_iff.mp found
  unfold expirePending
  split
  · rename_i pending
    have ended := left old stood pending
    cases recorded old stood with
    | kept there => exact .expired ended (.inr ⟨old, there, rfl⟩)
    | viewed _ _ => exact .expired ended (.inl rfl)
    | expired _ known => exact .expired ended known
    | intended same _ =>
      rw [same] at ended
      cases ended
  · exact recorded old stood

theorem PatchLaw.recorded {after : SessionRecord} {key : InteractionIdentity}
    {record : InteractionRecord} (law : PatchLaw cause before after) (found : after.interactions.get? key = some record) :
    Recorded cause before key record := by
  have follows := law.follows
  cases cause with
  | dispatching => exact absurd follows id
  | observing => exact absurd follows id
  | observation original snapshot =>
    have observed : ObservationLaw original snapshot before after := follows
    rw [observed.interactions] at found
    split at found
    · rename_i ends
      apply recorded_of_terminal found fun _ stood => .kept stood
      intro old stood pending
      simp only [WriteCause.expires, ends, if_true]
      exact mem_pendingKeys stood pending
    · exact .kept found
  | evidence handle views =>
    have collected : EvidenceLaw handle views before after := follows
    rw [collected.interactions] at found
    rcases interactionRecords_cases found with stood | ⟨_, among, same, rfl⟩
    · exact .kept stood
    · exact .viewed among same
  | diagnostic =>
    have kept : InteractionsLaw before.interactions before after := follows
    rw [kept.interactions] at found
    exact .kept found
  | interaction view =>
    have shown : InteractionsLaw (interactionRecords before.interactions [view]) before after := follows.1
    rw [shown.interactions] at found
    rcases interactionRecords_cases found with stood | ⟨_, among, same, rfl⟩
    · exact .kept stood
    · exact .viewed among same
  | interactions =>
    have paged : InteractionsLaw _ before after := follows
    rw [paged.interactions] at found
    split at found
    · rename_i terminal
      exact recorded_of_terminal found (fun _ stood => recorded_of_page stood)
        fun _ stood pending => left_of_page terminal stood pending
    · exact recorded_of_page found
  | responseIntent other intent =>
    have stored : InteractionsLaw (setResponseIntent before.interactions other intent) before after := follows.1
    have awaits : AwaitsResponse other intent before := follows.2
    rw [stored.interactions] at found
    unfold setResponseIntent at found
    simp only [awaits.pending] at found
    by_cases same : key = other
    · rw [same, get?_set_self] at found
      cases found
      rw [same]
      exact .intended rfl awaits.identity
    · rw [get?_set_of_ne _ _ same] at found
      exact .kept found

namespace ExecutionStore
variable {store : ExecutionStore} {record : SessionRecord} {key : InteractionIdentity} {interaction : InteractionRecord}

theorem Valid.interactions_all (valid : store.Valid) (holds : InteractionIdentity → InteractionRecord → Prop)
    (step : ∀ write ∈ store.writes, ∀ before, write.before = some before →
      (∀ key record, before.interactions.get? key = some record → holds key record) →
      ∀ key record, Recorded write.cause before key record → holds key record)
    (known : store.Known record) (found : record.interactions.get? key = some interaction) : holds key interaction := by
  obtain ⟨write, member, rfl⟩ := known
  have lawful := valid.lawful.strengthen step
  apply lawful.all (fun write => ∀ key interaction, write.after.interactions.get? key = some interaction → holds key interaction)
    _ write member key interaction found
  intro log entry _ earlier follows key interaction found
  obtain ⟨follows, stepped⟩ := follows
  cases follows with
  | creation law =>
    simp only [law.interactions] at found
    cases found
  | @patch _ before _ present law =>
    apply stepped before rfl _ key interaction (law.recorded found)
    intro key record stood
    obtain ⟨last, reached, rfl⟩ := map_eq_some_iff.mp present
    exact earlier last (History.latest_spec reached).1 key record stood

def Asked (store : ExecutionStore) (key : InteractionIdentity) (intent : ResponseIntent) : Prop :=
  intent.request.identity key.operationId = key ∧ store.Shown ⟨key.operationId, intent.request, .pending, none⟩

theorem Valid.asked (valid : store.Valid) (known : store.Known record)
    (found : record.interactions.get? key = some interaction) {intent : ResponseIntent}
    (intends : interaction.responseIntent = some intent) : store.Asked key intent := by
  apply valid.interactions_all (fun key record => ∀ intent, record.responseIntent = some intent → store.Asked key intent)
    _ known found intent intends
  intro write member before _ earlier key record recorded intent intends
  cases recorded with
  | kept stood => exact earlier key record stood intent intends
  | viewed _ _ => cases intends
  | expired _ known =>
    rcases known with none_ | ⟨old, stood, same⟩
    · rw [none_] at intends
      cases intends
    · exact earlier key old stood intent (same.trans intends)
  | intended same identity =>
    cases intends
    refine ⟨identity, valid.shown write member _ ?_⟩
    rw [same]
    exact mem_singleton.mpr rfl

end ExecutionStore
end PlanWeave.WorkspaceExecution
