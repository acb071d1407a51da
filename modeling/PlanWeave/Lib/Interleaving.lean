import Mathlib.Logic.Basic
import PlanWeave.Lib.Runs

/-- A program over a shared store. `either` leaves to the scheduler which of two programs goes on. -/
inductive Process (σ ε α : Type) where
  | returns (value : α)
  | throws (reason : ε)
  | step (effect : σ → σ) (next : σ → Process σ ε α)
  | either (left right : Process σ ε α)

namespace Process
variable {σ ε α β : Type}

def bind (first : Process σ ε α) (rest : α → Process σ ε β) : Process σ ε β :=
  match first with
  | returns value => rest value
  | throws reason => throws reason
  | step effect next => step effect fun store => (next store).bind rest
  | either left right => either (left.bind rest) (right.bind rest)

instance : Monad (Process σ ε) where
  pure := returns
  bind := bind

def observe (look : σ → Except ε α) : Process σ ε α :=
  step id fun store => match look store with
    | .ok value => returns value
    | .error reason => throws reason

def change (effect : σ → σ) : Process σ ε Unit := step effect fun _ => returns ()

def lift (value : Except ε α) : Process σ ε α :=
  match value with
  | .ok value => returns value
  | .error reason => throws reason

/-- `Promise.all` of two programs of one step each. -/
def both (left : Process σ ε α) (right : Process σ ε β) : Process σ ε (α × β) :=
  either (do
    let first ← left
    let second ← right
    pure (first, second)) (do
    let second ← right
    let first ← left
    pure (first, second))

def advance (choice : Bool) (store : σ) : Process σ ε α → σ × Process σ ε α
  | returns value => (store, returns value)
  | throws reason => (store, throws reason)
  | step effect next => (effect store, next store)
  | either left right => (store, if choice then left else right)

end Process

/-- What every step of every caller keeps, and how a step may change the store. -/
structure Discipline (σ : Type) where
  valid : σ → Prop
  grows : σ → σ → Prop
  refl : ∀ store, grows store store
  trans : ∀ {first second third}, grows first second → grows second third → grows first third

namespace Discipline
variable {σ ε α β : Type} (rules : Discipline σ)

/-- Whatever the others do in between, each step of the program keeps the discipline, and it ends as it says. -/
def Safe (returned : α → σ → Prop) (thrown : ε → σ → Prop) : Process σ ε α → σ → Prop
  | .returns value, store => ∀ later, rules.valid later → rules.grows store later → returned value later
  | .throws reason, store => ∀ later, rules.valid later → rules.grows store later → thrown reason later
  | .step effect next, store => ∀ later, rules.valid later → rules.grows store later →
      (rules.valid (effect later) ∧ rules.grows later (effect later)) ∧ Safe returned thrown (next later) (effect later)
  | .either left right, store => Safe returned thrown left store ∧ Safe returned thrown right store

variable {rules} {returned weaker : α → σ → Prop} {thrown also : ε → σ → Prop} {store reached : σ}
  {program : Process σ ε α}

theorem Safe.later (safe : rules.Safe returned thrown program store) (grown : rules.grows store reached) :
    rules.Safe returned thrown program reached := by
  induction program with
  | returns => exact fun last kept further => safe last kept (rules.trans grown further)
  | throws => exact fun last kept further => safe last kept (rules.trans grown further)
  | step => exact fun last kept further => safe last kept (rules.trans grown further)
  | either _ _ first second => exact ⟨first safe.1, second safe.2⟩

theorem Safe.mono (safe : rules.Safe returned thrown program store)
    (returns : ∀ value last, rules.valid last → returned value last → weaker value last)
    (throws : ∀ reason last, rules.valid last → thrown reason last → also reason last) :
    rules.Safe weaker also program store := by
  induction program generalizing store with
  | returns value => exact fun last kept further => returns value last kept (safe last kept further)
  | throws reason => exact fun last kept further => throws reason last kept (safe last kept further)
  | step _ _ ih =>
    intro last kept further
    obtain ⟨moved, rest⟩ := safe last kept further
    exact ⟨moved, ih last rest⟩
  | either _ _ first second => exact ⟨first safe.1, second safe.2⟩

theorem Safe.bind {middle : α → σ → Prop} {returned : β → σ → Prop} {rest : α → Process σ ε β}
    (first : rules.Safe middle thrown program store) (kept : rules.valid store)
    (continues : ∀ value last, rules.valid last → rules.grows store last → middle value last →
      rules.Safe returned thrown (rest value) last) :
    rules.Safe returned thrown (program >>= rest) store := by
  induction program generalizing store with
  | returns value => exact continues value store kept (rules.refl store) (first store kept (rules.refl store))
  | throws => exact first
  | step _ _ ih =>
    intro last valid further
    obtain ⟨moved, safe⟩ := first last valid further
    refine ⟨moved, ih last safe moved.1 ?_⟩
    intro value final holds grown
    exact continues value final holds (rules.trans further (rules.trans moved.2 grown))
  | either _ _ ihl ihr => exact ⟨ihl first.1 kept continues, ihr first.2 kept continues⟩

theorem Safe.map {wrap : α → β} {result : β → σ → Prop} (safe : rules.Safe returned thrown program store)
    (maps : ∀ value last, rules.valid last → rules.grows store last → returned value last → result (wrap value) last)
    (fails : ∀ reason last, rules.valid last → thrown reason last → also reason last) :
    rules.Safe result also (program >>= fun value => pure (wrap value)) store := by
  induction program generalizing store with
  | returns value => exact fun last kept further => maps value last kept further (safe last kept further)
  | throws reason => exact fun last kept further => fails reason last kept (safe last kept further)
  | step _ _ ih =>
    intro last kept further
    have moves := safe last kept further
    refine ⟨moves.1, ih last moves.2 fun value final valid grown => ?_⟩
    exact maps value final valid (rules.trans further (rules.trans moves.1.2 grown))
  | either _ _ first second => exact ⟨first safe.1 maps, second safe.2 maps⟩

theorem safe_lift {value : Except ε α} (ends : ∀ result, value = .ok result → ∀ last, rules.valid last →
      rules.grows store last → returned result last)
    (fails : ∀ reason, value = .error reason → ∀ last, rules.valid last → rules.grows store last → thrown reason last) :
    rules.Safe returned thrown (Process.lift value) store := by
  cases value with
  | ok result => exact ends result rfl
  | error reason => exact fails reason rfl

theorem safe_observe {look : σ → Except ε α}
    (sees : ∀ seen, rules.valid seen → rules.grows store seen → ∀ value, look seen = .ok value →
      ∀ last, rules.valid last → rules.grows seen last → returned value last)
    (fails : ∀ seen, rules.valid seen → rules.grows store seen → ∀ reason, look seen = .error reason →
      ∀ last, rules.valid last → rules.grows seen last → thrown reason last) :
    rules.Safe returned thrown (Process.observe look) store := by
  intro seen kept grown
  refine ⟨⟨kept, rules.refl seen⟩, ?_⟩
  cases looked : look seen with
  | ok value =>
    simp only [looked]
    exact sees seen kept grown value looked
  | error reason =>
    simp only [looked]
    exact fails seen kept grown reason looked

theorem safe_both {left : Process σ ε α} {right : Process σ ε β} {returned : α × β → σ → Prop} (seenLeft : α → σ → Prop)
    (seenRight : β → σ → Prop) (kept : rules.valid store)
    (first : ∀ last, rules.valid last → rules.grows store last → rules.Safe seenLeft thrown left last)
    (second : ∀ last, rules.valid last → rules.grows store last → rules.Safe seenRight thrown right last)
    (stableLeft : ∀ value middle last, rules.grows middle last → seenLeft value middle → seenLeft value last)
    (stableRight : ∀ value middle last, rules.grows middle last → seenRight value middle → seenRight value last)
    (ends : ∀ value other last, rules.valid last → rules.grows store last → seenLeft value last → seenRight other last →
      returned (value, other) last) :
    rules.Safe returned thrown (Process.both left right) store := by
  constructor
  · refine (first store kept (rules.refl store)).bind kept fun value middle valid grown seen => ?_
    refine (second middle valid grown).bind valid fun other final _ further found => ?_
    intro last still end_
    exact ends value other last still (rules.trans grown (rules.trans further end_))
      (stableLeft value middle last (rules.trans further end_) seen) (stableRight other final last end_ found)
  · refine (second store kept (rules.refl store)).bind kept fun other middle valid grown found => ?_
    refine (first middle valid grown).bind valid fun value final _ further seen => ?_
    intro last still end_
    exact ends value other last still (rules.trans grown (rules.trans further end_))
      (stableLeft value final last end_ seen) (stableRight other middle last (rules.trans further end_) found)

theorem Safe.advance (safe : rules.Safe returned thrown program store) (kept : rules.valid store) (choice : Bool) :
    (rules.valid (program.advance choice store).1 ∧ rules.grows store (program.advance choice store).1) ∧
      rules.Safe returned thrown (program.advance choice store).2 (program.advance choice store).1 := by
  cases program with
  | returns => exact ⟨⟨kept, rules.refl store⟩, safe⟩
  | throws => exact ⟨⟨kept, rules.refl store⟩, safe⟩
  | step => exact safe store kept (rules.refl store)
  | either =>
    refine ⟨⟨kept, rules.refl store⟩, ?_⟩
    cases choice with
    | true => exact safe.1
    | false => exact safe.2

end Discipline

/-- A call of an operation; `rest` is what is left of it, none after a crash. -/
structure ProcessCall (Op σ ε α : Type) where
  operation : Op
  rest : Option (Process σ ε α)

structure SharedRun (Op σ ε α : Type) where
  store : σ
  calls : List (ProcessCall Op σ ε α)

inductive SharedEvent (Op : Type) where
  | call (operation : Op)
  | advance (index : Nat) (choice : Bool)
  | crash (index : Nat)

namespace SharedRun
variable {Op σ ε α : Type} (body : Nat → Op → Process σ ε α)

def start (store : σ) : SharedRun Op σ ε α := ⟨store, []⟩

def setRest (run : SharedRun Op σ ε α) (index : Nat) (rest : Option (Process σ ε α)) : SharedRun Op σ ε α :=
  { run with calls := run.calls.modify index fun call => { call with rest } }

def remaining (run : SharedRun Op σ ε α) (index : Nat) : Option (Process σ ε α) := run.calls[index]?.bind (·.rest)

def step (run : SharedRun Op σ ε α) : SharedEvent Op → SharedRun Op σ ε α
  | .call operation => { run with calls := run.calls ++ [⟨operation, some (body run.calls.length operation)⟩] }
  | .crash index => run.setRest index none
  | .advance index choice =>
    match run.remaining index with
    | none => run
    | some program =>
      let (store, rest) := program.advance choice run.store
      { run.setRest index (some rest) with store }

def Returned (run : SharedRun Op σ ε α) (index : Nat) (operation : Op) (value : α) : Prop :=
  run.calls[index]? = some ⟨operation, some (.returns value)⟩

def Threw (run : SharedRun Op σ ε α) (index : Nat) (operation : Op) (reason : ε) : Prop :=
  run.calls[index]? = some ⟨operation, some (.throws reason)⟩

variable {rules : Discipline σ} {returned : Nat → Op → α → σ → Prop} {thrown : Nat → Op → ε → σ → Prop}
  {state : SharedRun Op σ ε α} {base : σ} {body} {event : SharedEvent Op} {index : Nat}

/-- The store is valid and has grown from the base, and every call is safe. -/
structure Sound (rules : Discipline σ) (returned : Nat → Op → α → σ → Prop) (thrown : Nat → Op → ε → σ → Prop) (base : σ)
    (state : SharedRun Op σ ε α) : Prop where
  valid : rules.valid state.store
  grown : rules.grows base state.store
  safe : ∀ index operation program, state.calls[index]? = some ⟨operation, some program⟩ →
    rules.Safe (returned index operation) (thrown index operation) program state.store

def Admits (body : Nat → Op → Process σ ε α) (rules : Discipline σ) (returned : Nat → Op → α → σ → Prop)
    (thrown : Nat → Op → ε → σ → Prop) (base : σ) (calls : Nat) : Prop :=
  ∀ index operation store, calls ≤ index → rules.valid store → rules.grows base store →
    rules.Safe (returned index operation) (thrown index operation) (body index operation) store

theorem calls_setRest {rest : Option (Process σ ε α)} {other : Nat} :
    (state.setRest index rest).calls[other]? =
      if index = other then state.calls[other]?.map fun call => { call with rest } else state.calls[other]? := by
  unfold setRest
  rw [List.getElem?_modify]
  split <;> simp

def Every (holds : Nat → Op → Process σ ε α → σ → Prop) (state : SharedRun Op σ ε α) : Prop :=
  ∀ index operation program, state.calls[index]? = some ⟨operation, some program⟩ → holds index operation program state.store

section Every
variable {holds : Nat → Op → Process σ ε α → σ → Prop} (every : state.Every holds)
include every

theorem Every.call {operation : Op} (begins : holds state.calls.length operation (body state.calls.length operation) state.store) :
    (state.step body (.call operation)).Every holds := by
  intro index other program found
  simp only [SharedRun.step, List.getElem?_append] at found
  split at found
  · exact every index other program found
  rw [List.getElem?_singleton] at found
  split at found
  · have same : index = state.calls.length := by omega
    cases found
    rw [same]
    exact begins
  · cases found

theorem Every.setRest {rest : Option (Process σ ε α)} {store : σ}
    (here : ∀ call program, state.calls[index]? = some call → rest = some program → holds index call.operation program store)
    (others : ∀ other operation program, index ≠ other → holds other operation program state.store →
      holds other operation program store) : Every holds { state.setRest index rest with store } := by
  intro other operation program found
  simp only [calls_setRest] at found
  split at found
  · rename_i same
    obtain ⟨call, present, shape⟩ := Option.map_eq_some_iff.mp found
    cases shape
    exact same ▸ here call program (same ▸ present) rfl
  · exact others other operation program ‹_› (every other operation program found)

theorem Every.remaining {program : Process σ ε α} (left : state.remaining index = some program) :
    ∃ call, state.calls[index]? = some call ∧ holds index call.operation program state.store := by
  obtain ⟨call, present, rest⟩ := Option.bind_eq_some_iff.mp left
  exact ⟨call, present, every index call.operation program (present.trans (congrArg some (by rw [← rest])))⟩
end Every

theorem Sound.step (sound : Sound rules returned thrown base state)
    (admits : Admits body rules returned thrown base state.calls.length) :
    Sound rules returned thrown base (state.step body event) := by
  have every : state.Every _ := sound.safe
  cases event with
  | call operation =>
    exact ⟨sound.valid, sound.grown, every.call (admits _ operation state.store (Nat.le_refl _) sound.valid sound.grown)⟩
  | crash =>
    exact ⟨sound.valid, sound.grown, every.setRest (fun _ _ _ none => by cases none) fun _ _ _ _ safe => safe⟩
  | advance moved choice =>
    cases left : state.remaining moved with
    | none => simp only [SharedRun.step, left]; exact sound
    | some program =>
      obtain ⟨call, present, safe⟩ := every.remaining left
      obtain ⟨⟨kept, grows⟩, further⟩ := safe.advance sound.valid choice
      simp only [SharedRun.step, left]
      refine ⟨kept, rules.trans sound.grown grows, every.setRest ?_ fun _ _ _ _ safe => safe.later grows⟩
      intro other program same ended
      cases present.symm.trans same
      cases ended
      exact further

theorem calls_length_le : state.calls.length ≤ (state.step body event).calls.length := by
  cases event with
  | call => simp [step]
  | crash => simp [step, setRest]
  | advance index =>
    cases left : state.remaining index with
    | none => simp [step, left]
    | some => simp [step, left, setRest]

section
variable (sound : Sound rules returned thrown base state)
include sound

theorem Sound.run (admits : Admits body rules returned thrown base state.calls.length) (events : List (SharedEvent Op)) :
    Sound rules returned thrown base (Runs.run (SharedRun.step body) events state) := by
  induction events generalizing state with
  | nil => exact sound
  | cons _ _ ih =>
    refine ih (sound.step admits) fun index operation store beyond => ?_
    exact admits index operation store (Nat.le_trans calls_length_le beyond)

theorem Sound.returns {operation : Op} {value : α}
    (ended : state.Returned index operation value) : returned index operation value state.store :=
  sound.safe index operation _ ended state.store sound.valid (rules.refl state.store)

theorem Sound.throws {operation : Op} {reason : ε}
    (ended : state.Threw index operation reason) : thrown index operation reason state.store :=
  sound.safe index operation _ ended state.store sound.valid (rules.refl state.store)

/-- From a sound state on, the calls made before are only known to keep the discipline, the later ones end as they say. -/
theorem Sound.rebase {later : Nat → Op → α → σ → Prop} {failed : Nat → Op → ε → σ → Prop}
    :
    Sound rules (fun index operation value store => state.calls.length ≤ index → later index operation value store)
      (fun index operation reason store => state.calls.length ≤ index → failed index operation reason store) state.store state where
  valid := sound.valid
  grown := rules.refl state.store
  safe index operation program found := by
    have inside : index < state.calls.length := (List.getElem?_eq_some_iff.mp found).1
    refine (sound.safe index operation program found).mono ?_ ?_
    · exact fun _ _ _ _ beyond => absurd inside (Nat.not_lt.mpr beyond)
    · exact fun _ _ _ _ beyond => absurd inside (Nat.not_lt.mpr beyond)
end
end SharedRun
