import Mathlib.Data.List.Basic
import Mathlib.Logic.Relation

/-- An operation over a durable store: the store after each of its writes, in order, and how it
ends. A crash leaves the store of some prefix of the writes. -/
def Durable (σ ε α : Type) : Type := σ → List σ × Except ε α

namespace Durable
open List
variable {σ ε α β ι : Type}

def writes (action : Durable σ ε α) (store : σ) : List σ := (action store).1

def result (action : Durable σ ε α) (store : σ) : Except ε α := (action store).2

def final (action : Durable σ ε α) (store : σ) : σ := (action.writes store).getLastD store

instance : Monad (Durable σ ε) where
  pure value := fun _ => ([], .ok value)
  bind action next := fun store =>
    match action store with
    | (written, .error reason) => (written, .error reason)
    | (written, .ok value) =>
      let rest := next value (written.getLastD store)
      (written ++ rest.1, rest.2)

def read : Durable σ ε σ := fun store => ([], .ok store)

def write (change : σ → σ) : Durable σ ε Unit := fun store => ([change store], .ok ())

def fail (reason : ε) : Durable σ ε α := fun _ => ([], .error reason)

def lift (value : Except ε α) : Durable σ ε α := fun _ => ([], value)

def when (needed : Bool) (action : Durable σ ε Unit) : Durable σ ε Unit := if needed then action else pure ()

def forEach (items : List ι) (action : ι → Durable σ ε Unit) : Durable σ ε Unit :=
  match items with
  | [] => pure ()
  | item :: rest => do
    action item
    forEach rest action

/-- Run the handler on the store that a failed operation leaves, as `catch` does. -/
def recover (action : Durable σ ε α) (handler : ε → Durable σ ε α) : Durable σ ε α := fun store =>
  match action store with
  | (written, .error reason) =>
    let rest := handler reason (written.getLastD store)
    (written ++ rest.1, rest.2)
  | (written, .ok value) => (written, .ok value)

def Keeps (action : Durable σ ε α) (store : σ) (holds : σ → Prop) : Prop :=
  ∀ reached ∈ action.writes store, holds reached

def Returns (action : Durable σ ε α) (store : σ) (value : α) (left : σ) : Prop :=
  action.result store = .ok value ∧ action.final store = left

def Fails (action : Durable σ ε α) (store : σ) (reason : ε) (left : σ) : Prop :=
  action.result store = .error reason ∧ action.final store = left

variable {action : Durable σ ε α} {next : α → Durable σ ε β} {store left : σ} {holds : σ → Prop}

theorem Keeps.mono {weaker : σ → Prop} (kept : action.Keeps store holds)
    (implies : ∀ reached, holds reached → weaker reached) : action.Keeps store weaker :=
  fun reached member => implies reached (kept reached member)

theorem Keeps.final_holds (kept : action.Keeps store holds) (start : holds store) : holds (action.final store) := by
  unfold final
  cases written : action.writes store with
  | nil => exact start
  | cons first rest =>
    rw [getLastD_cons]
    have member := getLast_mem (cons_ne_nil first rest)
    rw [getLast_eq_getLastD] at member
    exact kept _ (written ▸ member)

@[simp] theorem keeps_pure (value : α) : (pure value : Durable σ ε α).Keeps store holds := by
  intro reached member
  cases member

variable {value : α} {step : Durable σ ε Unit} {reason : ε} {rest : σ → Durable σ ε β}

@[simp] theorem returns_pure {given : α} :
    (pure given : Durable σ ε α).Returns store value left ↔ given = value ∧ store = left := by
  show Except.ok given = Except.ok value ∧ store = left ↔ _
  rw [Except.ok.injEq]

@[simp] theorem keeps_read : (read : Durable σ ε σ).Keeps store holds := by
  intro reached member
  cases member

@[simp] theorem returns_read {value : σ} :
    (read : Durable σ ε σ).Returns store value left ↔ store = value ∧ store = left := by
  show Except.ok store = Except.ok value ∧ store = left ↔ _
  rw [Except.ok.injEq]

@[simp] theorem keeps_write (change : σ → σ) :
    (write change : Durable σ ε Unit).Keeps store holds ↔ holds (change store) := by
  show (∀ reached ∈ [change store], holds reached) ↔ _
  simp

@[simp] theorem returns_write {value : Unit} (change : σ → σ) :
    (write change : Durable σ ε Unit).Returns store value left ↔ change store = left := by
  show Except.ok () = Except.ok value ∧ change store = left ↔ _
  simp

@[simp] theorem keeps_fail (reason : ε) : (fail reason : Durable σ ε α).Keeps store holds := by
  intro reached member
  cases member

@[simp] theorem returns_fail (reason : ε) : (fail reason : Durable σ ε α).Returns store value left ↔ False := by
  show Except.error reason = Except.ok value ∧ store = left ↔ _
  simp

@[simp] theorem keeps_lift (value : Except ε α) : (lift value : Durable σ ε α).Keeps store holds := by
  intro reached member
  cases member

@[simp] theorem returns_lift (given : Except ε α) :
    (lift given : Durable σ ε α).Returns store value left ↔ given = .ok value ∧ store = left := Iff.rfl

variable {needed : Bool} {handler : ε → Durable σ ε α} {given : Except ε α} {change : σ → σ} {items : List ι}
variable {allowed : σ → ι → Prop} {perform : ι → Durable σ ε Unit}

@[simp] theorem keeps_when : (when needed step).Keeps store holds ↔ (needed = true → step.Keeps store holds) := by
  cases needed <;> simp [when]

@[simp] theorem returns_when {value : Unit} : (when needed step).Returns store value left ↔
      if needed then step.Returns store value left else store = left := by
  cases needed <;> simp [when]

theorem bind_error {written : List σ} (ran : action store = (written, .error reason)) :
    (action >>= next) store = (written, .error reason) := by
  simp only [Bind.bind, ran]

theorem bind_ok {written : List σ} (ran : action store = (written, .ok value)) : (action >>= next) store =
      (written ++ (next value (written.getLastD store)).1, (next value (written.getLastD store)).2) := by
  simp only [Bind.bind, ran]

theorem keeps_bind : (action >>= next).Keeps store holds ↔
    action.Keeps store holds ∧ ∀ value reached, action.Returns store value reached →
      (next value).Keeps reached holds := by
  unfold Keeps Returns result final writes
  cases ran : action store with
  | mk _ ended =>
    cases ended with
    | error => simp [bind_error ran]
    | ok => simp [bind_ok ran, or_imp, forall_and]

theorem returns_bind {value : β} : (action >>= next).Returns store value left ↔
    ∃ middle reached, action.Returns store middle reached ∧ (next middle).Returns reached value left := by
  unfold Returns result final writes
  cases ran : action store with
  | mk _ ended =>
    cases ended with
    | error => simp [bind_error ran]
    | ok => simp [bind_ok ran]

theorem keeps_recover : (action.recover handler).Keeps store holds ↔
    action.Keeps store holds ∧ ∀ reason reached, action.Fails store reason reached →
      (handler reason).Keeps reached holds := by
  unfold Keeps Fails result final writes recover
  cases ran : action store with
  | mk _ ended =>
    cases ended with
    | error => simp [or_imp, forall_and]
    | ok => simp

theorem keeps_lift_bind : (lift given >>= next).Keeps store holds ↔
    ∀ value, given = .ok value → (next value).Keeps store holds := by
  simp [keeps_bind]

theorem keeps_write_bind {rest : Unit → Durable σ ε β} : (write change >>= rest).Keeps store holds ↔
    holds (change store) ∧ (rest ()).Keeps (change store) holds := by
  simp only [keeps_bind, keeps_write, returns_write, and_congr_right_iff]
  intro _
  exact ⟨fun all => all () _ rfl, fun kept _ _ same => same ▸ kept⟩

theorem keeps_read_bind : (read >>= rest).Keeps store holds ↔ (rest store).Keeps store holds := by
  simp [keeps_bind]

theorem fails_read_bind (failed : (rest store).Fails store reason left) : (read >>= rest).Fails store reason left := failed

theorem fails_lift_bind (failed : given = .error reason) : (lift given >>= next).Fails store reason store := by
  subst failed
  exact ⟨rfl, rfl⟩

/-- Every store written along the way keeps the invariant, and an operation that ends with a value leaves what is asked. -/
structure Ensures (action : Durable σ ε α) (store : σ) (invariant : σ → Prop) (post : α → σ → Prop) : Prop where
  keeps : action.Keeps store invariant
  returns : ∀ value left, action.Returns store value left → post value left

section Ensures
variable {invariant : σ → Prop} {post weaker : α → σ → Prop}

theorem Ensures.mono (ensured : action.Ensures store invariant post) (implies : ∀ value left, post value left → weaker value left) :
    action.Ensures store invariant weaker where
  keeps := ensured.keeps
  returns := fun value left returned => implies value left (ensured.returns value left returned)

variable {last : β → σ → Prop}

theorem Ensures.bind (first : action.Ensures store invariant post)
    (rest : ∀ value reached, post value reached → (next value).Ensures reached invariant last) :
    (action >>= next).Ensures store invariant last where
  keeps := keeps_bind.mpr ⟨first.keeps, fun value reached returned => (rest value reached (first.returns value reached returned)).keeps⟩
  returns := fun value left returned => by
    obtain ⟨middle, reached, began, ended⟩ := returns_bind.mp returned
    exact (rest middle reached (first.returns middle reached began)).returns value left ended

theorem Ensures.keeps_then {value : β} (ensured : action.Ensures store invariant post) :
    (action >>= fun _ => (pure value : Durable σ ε β)).Keeps store invariant :=
  keeps_bind.mpr ⟨ensured.keeps, fun _ _ _ => keeps_pure value⟩

theorem ensures_pure (holds : post value store) : (pure value : Durable σ ε α).Ensures store invariant post where
  keeps := keeps_pure value
  returns := fun _ _ returned => by
    obtain ⟨rfl, rfl⟩ := returns_pure.mp returned
    exact holds

theorem ensures_read {last : σ → σ → Prop} (holds : last store store) :
    (read : Durable σ ε σ).Ensures store invariant last where
  keeps := keeps_read
  returns := fun _ _ returned => by
    obtain ⟨rfl, rfl⟩ := returns_read.mp returned
    exact holds

theorem ensures_write {last : Unit → σ → Prop} (kept : invariant (change store)) (holds : last () (change store)) :
    (write change : Durable σ ε Unit).Ensures store invariant last where
  keeps := (keeps_write change).mpr kept
  returns := fun _ _ returned => by
    rw [← (returns_write change).mp returned]
    exact holds

theorem ensures_lift (holds : ∀ value, given = .ok value → post value store) :
    (lift given : Durable σ ε α).Ensures store invariant post where
  keeps := keeps_lift given
  returns := fun value _ returned => by
    obtain ⟨same, rfl⟩ := (returns_lift given).mp returned
    exact holds value same

theorem ensures_fail (reason : ε) : (fail reason : Durable σ ε α).Ensures store invariant post where
  keeps := keeps_fail reason
  returns := fun _ _ returned => False.elim ((returns_fail reason).mp returned)

theorem ensures_read_bind (continues : (rest store).Ensures store invariant last) :
    (read >>= rest).Ensures store invariant last := by
  refine (ensures_read ⟨rfl, rfl⟩ : Ensures _ _ _ fun value left => value = store ∧ left = store).bind ?_
  rintro _ _ ⟨same, unchanged⟩
  rw [same, unchanged]
  exact continues

theorem ensures_lift_bind (continues : ∀ value, given = .ok value → (next value).Ensures store invariant last) :
    (lift given >>= next).Ensures store invariant last := by
  refine (ensures_lift fun _ same => ⟨same, rfl⟩ : Ensures _ _ _ fun value left => given = .ok value ∧ left = store).bind ?_
  rintro value _ ⟨same, unchanged⟩
  rw [unchanged]
  exact continues value same

theorem ensures_write_bind {rest : Unit → Durable σ ε β}
    (kept : invariant (change store)) (continues : (rest ()).Ensures (change store) invariant last) :
    (write change >>= rest).Ensures store invariant last := by
  refine (ensures_write kept rfl : Ensures _ _ _ fun _ left => left = change store).bind ?_
  intro _ reached same
  rw [same]
  exact continues

theorem ensures_when {last : Unit → σ → Prop}
    (run : needed = true → step.Ensures store invariant last) (skip : needed = false → last () store) :
    (when needed step).Ensures store invariant last := by
  cases needed with
  | true => exact run rfl
  | false => exact ensures_pure (skip rfl)

theorem Ensures.recover_fail {reasons : ε → ε} (ensured : action.Ensures store invariant post) :
    (action.recover fun reason => fail (reasons reason)).Ensures store invariant post where
  keeps := keeps_recover.mpr ⟨ensured.keeps, fun reason reached _ => keeps_fail (reasons reason)⟩
  returns := fun value left returned => by
    refine ensured.returns value left ?_
    unfold Returns result final writes recover at returned
    unfold Returns result final writes
    cases ran : action store with
    | mk _ ended =>
      rw [ran] at returned
      cases ended with
      | error => exact absurd returned.1 (by simp [fail])
      | ok => exact returned

end Ensures

def Succeeds (action : Durable σ ε α) (store : σ) : Prop := ∃ value, action.result store = .ok value

section Succeeds
variable {invariant : σ → Prop} {post : α → σ → Prop}

theorem Succeeds.returns (succeeded : action.Succeeds store) : ∃ value, action.Returns store value (action.final store) := by
  obtain ⟨value, ended⟩ := succeeded
  exact ⟨value, ended, rfl⟩

theorem Succeeds.ensures (succeeded : action.Succeeds store) (ensured : action.Ensures store invariant post) :
    ∃ value, post value (action.final store) := by
  obtain ⟨value, returned⟩ := succeeded.returns
  exact ⟨value, ensured.returns value _ returned⟩

theorem Succeeds.bind (first : action.Succeeds store) (ensured : action.Ensures store invariant post)
    (rest : ∀ value reached, post value reached → (next value).Succeeds reached) : (action >>= next).Succeeds store := by
  obtain ⟨value, returned⟩ := first.returns
  obtain ⟨last, ended⟩ := (rest value _ (ensured.returns value _ returned)).returns
  exact ⟨last, (returns_bind.mpr ⟨value, _, returned, ended⟩).1⟩

theorem recover_of_succeeds (succeeded : action.Succeeds store) : action.recover handler store = action store := by
  obtain ⟨_, ended⟩ := succeeded
  unfold result at ended
  unfold recover
  cases ran : action store with
  | mk _ outcome =>
    rw [ran] at ended
    cases outcome with
    | error => cases ended
    | ok => rfl

end Succeeds

/-- As `Ensures`, and under the condition the operation ends with a value. -/
structure Completes (condition : Prop) (action : Durable σ ε α) (store : σ) (invariant : σ → Prop) (post : α → σ → Prop) : Prop
    extends action.Ensures store invariant post where
  succeeds : condition → action.Succeeds store

section Completes
variable {condition : Prop} {invariant : σ → Prop} {post weaker : α → σ → Prop} {last : β → σ → Prop}

theorem Completes.mono (ends : action.Completes condition store invariant post)
    (implies : ∀ value left, post value left → weaker value left) : action.Completes condition store invariant weaker :=
  ⟨ends.toEnsures.mono implies, ends.succeeds⟩

theorem Completes.bind (first : action.Completes condition store invariant post)
    (rest : ∀ value reached, post value reached → (next value).Completes condition reached invariant last) :
    (action >>= next).Completes condition store invariant last where
  toEnsures := first.toEnsures.bind fun value reached after => (rest value reached after).toEnsures
  succeeds := fun holds => (first.succeeds holds).bind first.toEnsures fun value reached after => (rest value reached after).succeeds holds

theorem Completes.recover (ends : action.Completes True store invariant post) :
    (action.recover handler).Completes True store invariant post := by
  have same : action.recover handler store = action store := recover_of_succeeds (ends.succeeds trivial)
  obtain ⟨⟨keeps, returns⟩, succeeds⟩ := ends
  unfold Keeps Returns Succeeds result final writes at *
  rw [← same] at keeps returns succeeds
  exact ⟨⟨keeps, returns⟩, succeeds⟩

theorem Completes.recover_fail {reasons : ε → ε} (ends : action.Completes condition store invariant post) :
    (action.recover fun reason => fail (reasons reason)).Completes condition store invariant post where
  toEnsures := ends.toEnsures.recover_fail
  succeeds := fun holds => by
    unfold Succeeds result
    rw [recover_of_succeeds (ends.succeeds holds)]
    exact ends.succeeds holds

theorem completes_pure (holds : post value store) : (pure value : Durable σ ε α).Completes condition store invariant post :=
  ⟨ensures_pure holds, fun _ => ⟨value, rfl⟩⟩

theorem completes_write {last : Unit → σ → Prop} (kept : invariant (change store)) (holds : last () (change store)) :
    (write change : Durable σ ε Unit).Completes condition store invariant last :=
  ⟨ensures_write kept holds, fun _ => ⟨(), rfl⟩⟩

theorem completes_lift_bind (total : condition → ∃ value, given = .ok value)
    (continues : ∀ value, given = .ok value → (next value).Completes condition store invariant last) :
    (lift given >>= next).Completes condition store invariant last where
  toEnsures := ensures_lift_bind fun value same => (continues value same).toEnsures
  succeeds := fun holds => by
    obtain ⟨value, same⟩ := total holds
    have rest := (continues value same).succeeds holds
    subst same
    exact rest

theorem completes_read_bind (continues : (rest store).Completes condition store invariant last) :
    (read >>= rest).Completes condition store invariant last :=
  ⟨ensures_read_bind continues.toEnsures, continues.succeeds⟩

theorem completes_write_bind {rest : Unit → Durable σ ε β} (kept : invariant (change store))
    (continues : (rest ()).Completes condition (change store) invariant last) :
    (write change >>= rest).Completes condition store invariant last :=
  ⟨ensures_write_bind kept continues.toEnsures, continues.succeeds⟩

theorem completes_when {last : Unit → σ → Prop} (run : needed = true → step.Completes condition store invariant last)
    (skip : needed = false → last () store) : (when needed step).Completes condition store invariant last := by
  cases needed with
  | true => exact run rfl
  | false => exact completes_pure (skip rfl)

theorem completes_forEach_each {step : ι → Durable σ ε Unit} (during : σ → Prop) (growth : σ → σ → Prop)
    (done : ι → σ → Prop) (start : during store) (refl : ∀ reached, growth reached reached)
    (trans : ∀ first second third, growth first second → growth second third → growth first third)
    (stable : ∀ item first second, done item first → growth first second → done item second)
    (steps : ∀ item ∈ items, ∀ reached, during reached →
      (step item).Completes condition reached invariant fun _ left => during left ∧ done item left ∧ growth reached left) :
    (forEach items step).Completes condition store invariant fun _ left =>
      during left ∧ (∀ item ∈ items, done item left) ∧ growth store left := by
  induction items generalizing store with
  | nil => exact completes_pure ⟨start, fun item member => absurd member not_mem_nil, refl store⟩
  | cons item _ ih =>
    refine (steps item (by simp) store start).bind fun _ reached ⟨holds, here, extended⟩ => ?_
    refine (ih holds fun other member => steps other (mem_cons_of_mem _ member)).mono ?_
    rintro _ left ⟨kept, others, further⟩
    refine ⟨kept, ?_, trans _ _ _ extended further⟩
    intro other member
    rcases mem_cons.mp member with same | later
    · rw [same]
      exact stable item reached left here further
    · exact others other later

theorem completes_forEach {step : ι → Durable σ ε Unit} (during : σ → Prop) (start : during store)
    (steps : ∀ item ∈ items, ∀ reached, during reached →
      (step item).Completes condition reached invariant fun _ left => during left) :
    (forEach items step).Completes condition store invariant fun _ left => during left := by
  refine (completes_forEach_each during (fun _ _ => True) (fun _ _ => True) start (fun _ => trivial) (fun _ _ _ _ _ => trivial)
    (fun _ _ _ _ _ => trivial) fun item member reached holds => ?_).mono fun _ _ kept => kept.1
  exact (steps item member reached holds).mono fun _ _ kept => ⟨kept, trivial, trivial⟩

end Completes

def Step (perform : ι → Durable σ ε Unit) (allowed : σ → ι → Prop) (store reached : σ) : Prop :=
  ∃ operation, allowed store operation ∧ reached ∈ (perform operation).writes store

def Reaches (perform : ι → Durable σ ε Unit) (allowed : σ → ι → Prop) : σ → σ → Prop :=
  Relation.ReflTransGen (Step perform allowed)

theorem Reaches.final {operation : ι}
    (admitted : allowed store operation) : Reaches perform allowed store ((perform operation).final store) := by
  unfold Durable.final
  cases written : (perform operation).writes store with
  | nil => exact Relation.ReflTransGen.refl
  | cons first rest =>
    apply Relation.ReflTransGen.single
    refine ⟨operation, admitted, ?_⟩
    rw [getLastD_cons, written, ← getLast_eq_getLastD (cons_ne_nil first rest)]
    exact getLast_mem (cons_ne_nil first rest)

def runAll (perform : ι → Durable σ ε Unit) (operations : List ι) (store : σ) : σ :=
  operations.foldl (fun reached operation => (perform operation).final reached) store

def AllowedRun (perform : ι → Durable σ ε Unit) (allowed : σ → ι → Prop) : List ι → σ → Prop
  | [], _ => True
  | operation :: rest, store => allowed store operation ∧ AllowedRun perform allowed rest ((perform operation).final store)

instance decidableAllowedRun {perform : ι → Durable σ ε Unit} {allowed : σ → ι → Prop}
    [∀ store operation, Decidable (allowed store operation)] :
    ∀ operations store, Decidable (AllowedRun perform allowed operations store)
  | [], _ => isTrue trivial
  | operation :: rest, store =>
    @instDecidableAnd _ _ _ (decidableAllowedRun rest ((perform operation).final store))

theorem AllowedRun.reaches {operations : List ι}
    (run : AllowedRun perform allowed operations store) : Reaches perform allowed store (runAll perform operations store) := by
  induction operations generalizing store with
  | nil => exact Relation.ReflTransGen.refl
  | cons _ _ ih => exact (Reaches.final run.1).trans (ih run.2)

theorem Reaches.holds_of_keeps {start : σ} (run : Reaches perform allowed start left) (initially : holds start)
    (keeps : ∀ store operation, holds store → allowed store operation → (perform operation).Keeps store holds) :
    holds left := by
  induction run with
  | refl => exact initially
  | tail _ step ih =>
    obtain ⟨operation, admitted, written⟩ := step
    exact keeps _ operation ih admitted _ written

end Durable
