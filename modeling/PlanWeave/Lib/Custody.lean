import PlanWeave.Lib.Interleaving

namespace Process
variable {σ ε α : Type}

def tryCatch (program : Process σ ε α) (handler : ε → Process σ ε α) : Process σ ε α :=
  match program with
  | returns value => returns value
  | throws reason => handler reason
  | step effect next => step effect fun store => (next store).tryCatch handler
  | either left right => either (left.tryCatch handler) (right.tryCatch handler)

def ensuring (program : Process σ ε α) (effect : σ → σ) : Process σ ε α :=
  match program with
  | returns value => step effect fun _ => returns value
  | throws reason => step effect fun _ => throws reason
  | step change next => step change fun store => (next store).ensuring effect
  | either left right => either (left.ensuring effect) (right.ensuring effect)

def orFail (reason : ε) (program : Process σ ε α) : Process σ ε α := either program (throws reason)

def Quiet : Process σ ε α → Prop
  | returns _ | throws _ => True
  | step effect next => effect = id ∧ ∀ store, (next store).Quiet
  | either left right => left.Quiet ∧ right.Quiet

variable {β : Type} {program : Process σ ε α} {look : σ → Except ε α} {store last : σ} {value : α}

theorem Quiet.bind {rest : α → Process σ ε β} (quiet : program.Quiet)
    (follows : ∀ value, (rest value).Quiet) : (program >>= rest).Quiet := by
  induction program with
  | returns value => exact follows value
  | throws => exact trivial
  | step _ _ ih => exact ⟨quiet.1, fun store => ih store (quiet.2 store)⟩
  | either _ _ first second => exact ⟨first quiet.1, second quiet.2⟩

theorem quiet_observe : (observe look).Quiet := by
  refine ⟨rfl, fun store => ?_⟩
  simp only
  cases look store with
  | ok => exact trivial
  | error => exact trivial

def alone (program : Process σ ε α) (store : σ) : Except ε α × σ :=
  match program with
  | returns value => (.ok value, store)
  | throws reason => (.error reason, store)
  | step effect next => (next store).alone (effect store)
  | either left _ => left.alone store

theorem alone_bind {rest : α → Process σ ε β}
    (ran : program.alone store = (.ok value, last)) : (program >>= rest).alone store = (rest value).alone last := by
  induction program generalizing store with
  | returns =>
    cases ran
    rfl
  | throws => cases ran
  | step _ _ ih => exact ih store ran
  | either _ _ first => exact first ran

theorem alone_tryCatch {handler : ε → Process σ ε α}
    (ran : program.alone store = (.ok value, last)) : (program.tryCatch handler).alone store = (.ok value, last) := by
  induction program generalizing store with
  | returns => exact ran
  | throws => cases ran
  | step _ _ ih => exact ih store ran
  | either _ _ first => exact first ran

theorem alone_observe : (observe look).alone store = (look store, store) := by
  simp only [observe, alone]
  cases look store with
  | ok => rfl
  | error => rfl

theorem alone_orFail {reason : ε} :
    (program.orFail reason).alone store = program.alone store := rfl

end Process

structure Custody (σ : Type) extends Discipline σ where
  spares : Nat → σ → σ → Prop
  spares_refl : ∀ caller store, spares caller store store
  spares_trans : ∀ {caller first second third}, spares caller first second → spares caller second third → spares caller first third

namespace Custody
variable {σ ε α β : Type} (rules : Custody σ)

/-- What may happen between two steps of a caller. -/
structure Rely (caller : Nat) (store later : σ) : Prop where
  valid : rules.valid later
  grows : rules.grows store later
  spares : rules.spares caller store later

structure Moves (caller : Nat) (store left : σ) : Prop where
  valid : rules.valid left
  grows : rules.grows store left
  spares : ∀ other, other ≠ caller → rules.spares other store left

def Safe (caller : Nat) (returned : α → σ → Prop) (thrown : ε → σ → Prop) : Process σ ε α → σ → Prop
  | .returns value, store => ∀ later, rules.Rely caller store later → returned value later
  | .throws reason, store => ∀ later, rules.Rely caller store later → thrown reason later
  | .step effect next, store => ∀ later, rules.Rely caller store later →
      rules.Moves caller later (effect later) ∧ Safe caller returned thrown (next later) (effect later)
  | .either left right, store => Safe caller returned thrown left store ∧ Safe caller returned thrown right store

variable {rules} {caller : Nat} {returned weaker : α → σ → Prop} {thrown also : ε → σ → Prop} {store reached : σ}
  {program : Process σ ε α}

theorem Rely.refl (valid : rules.valid store) : rules.Rely caller store store :=
  ⟨valid, rules.refl store, rules.spares_refl caller store⟩

theorem Rely.trans {last : σ} (first : rules.Rely caller store reached) (second : rules.Rely caller reached last) :
    rules.Rely caller store last :=
  ⟨second.valid, rules.trans first.grows second.grows, rules.spares_trans first.spares second.spares⟩

theorem Moves.refl (valid : rules.valid store) : rules.Moves caller store store :=
  ⟨valid, rules.refl store, fun other _ => rules.spares_refl other store⟩

theorem Moves.rely {other : Nat} (moves : rules.Moves caller store reached) (apart : other ≠ caller) :
    rules.Rely other store reached :=
  ⟨moves.valid, moves.grows, moves.spares other apart⟩

section
variable (safe : rules.Safe caller returned thrown program store)
include safe

theorem Safe.later (between : rules.Rely caller store reached) : rules.Safe caller returned thrown program reached := by
  induction program with
  | returns => exact fun last further => safe last (between.trans further)
  | throws => exact fun last further => safe last (between.trans further)
  | step => exact fun last further => safe last (between.trans further)
  | either _ _ first second => exact ⟨first safe.1, second safe.2⟩

theorem Safe.mono (returns : ∀ value last, rules.valid last → returned value last → weaker value last)
    (throws : ∀ reason last, rules.valid last → thrown reason last → also reason last) :
    rules.Safe caller weaker also program store := by
  induction program generalizing store with
  | returns value => exact fun last further => returns value last further.valid (safe last further)
  | throws reason => exact fun last further => throws reason last further.valid (safe last further)
  | step _ _ ih =>
    intro last further
    have moved := safe last further
    exact ⟨moved.1, ih last moved.2⟩
  | either _ _ first second => exact ⟨first safe.1, second safe.2⟩
end

theorem Safe.bind {middle : α → σ → Prop} {returned : β → σ → Prop} {rest : α → Process σ ε β}
    (first : rules.Safe caller middle thrown program store) (valid : rules.valid store)
    (continues : ∀ value last, rules.valid last → rules.grows store last → middle value last →
      rules.Safe caller returned thrown (rest value) last) :
    rules.Safe caller returned thrown (program >>= rest) store := by
  induction program generalizing store with
  | returns value => exact continues value store valid (rules.refl store) (first store (.refl valid))
  | throws => exact first
  | step _ _ ih =>
    intro last further
    have moved := first last further
    apply And.intro moved.1
    apply ih last moved.2 moved.1.valid
    intro value final kept grown
    exact continues value final kept (rules.trans further.grows (rules.trans moved.1.grows grown))
  | either _ _ ihl ihr => exact ⟨ihl first.1 valid continues, ihr first.2 valid continues⟩

theorem Safe.tryCatch {handler : ε → Process σ ε α} (caught : ε → σ → Prop)
    (tried : rules.Safe caller returned caught program store) (valid : rules.valid store)
    (handles : ∀ reason last, rules.valid last → rules.grows store last → caught reason last →
      rules.Safe caller returned thrown (handler reason) last) :
    rules.Safe caller returned thrown (program.tryCatch handler) store := by
  induction program generalizing store with
  | returns => exact tried
  | throws reason => exact handles reason store valid (rules.refl store) (tried store (.refl valid))
  | step _ _ ih =>
    intro last further
    have moved := tried last further
    apply And.intro moved.1
    apply ih last moved.2 moved.1.valid
    intro reason final kept grown
    exact handles reason final kept (rules.trans further.grows (rules.trans moved.1.grows grown))
  | either _ _ ihl ihr => exact ⟨ihl tried.1 valid handles, ihr tried.2 valid handles⟩

theorem Safe.ensuring {effect : σ → σ} {ended : α → σ → Prop} {failed : ε → σ → Prop}
    (safe : rules.Safe caller ended failed program store) (valid : rules.valid store)
    (moves : ∀ last, rules.valid last → rules.Moves caller last (effect last))
    (returns : ∀ value last, ended value last → ∀ later, rules.Rely caller (effect last) later → returned value later)
    (throws : ∀ reason last, failed reason last → ∀ later, rules.Rely caller (effect last) later → thrown reason later) :
    rules.Safe caller returned thrown (program.ensuring effect) store := by
  induction program generalizing store with
  | returns value => exact fun last further => ⟨moves last further.valid, returns value last (safe last further)⟩
  | throws reason => exact fun last further => ⟨moves last further.valid, throws reason last (safe last further)⟩
  | step _ _ ih =>
    intro last further
    have moved := safe last further
    exact ⟨moved.1, ih last moved.2 moved.1.valid⟩
  | either _ _ ihl ihr => exact ⟨ihl safe.1 valid, ihr safe.2 valid⟩

theorem Safe.orFail {reason : ε} (safe : rules.Safe caller returned thrown program store)
    (fails : ∀ last, rules.Rely caller store last → thrown reason last) :
    rules.Safe caller returned thrown (program.orFail reason) store := ⟨safe, fails⟩

theorem safe_observe {look : σ → Except ε α}
    (sees : ∀ seen, rules.Rely caller store seen → ∀ value, look seen = .ok value →
      ∀ last, rules.Rely caller seen last → returned value last)
    (fails : ∀ seen, rules.Rely caller store seen → ∀ reason, look seen = .error reason →
      ∀ last, rules.Rely caller seen last → thrown reason last) :
    rules.Safe caller returned thrown (Process.observe look) store := by
  intro seen between
  apply And.intro (.refl between.valid)
  cases looked : look seen with
  | ok value =>
    simp only [looked]
    exact sees seen between value looked
  | error reason =>
    simp only [looked]
    exact fails seen between reason looked

/-- Between the start and the end of a program that only looks, only the others have moved. -/
theorem Safe.quiet (safe : rules.Safe caller returned thrown program store) (quiet : program.Quiet) (valid : rules.valid store) :
    rules.Safe caller (fun value last => rules.Rely caller store last ∧ returned value last) thrown program store := by
  induction program generalizing store with
  | returns => exact fun last further => ⟨further, safe last further⟩
  | throws => exact safe
  | step effect _ ih =>
    intro last further
    have moved := safe last further
    have still : effect last = last := congrFun quiet.1 last
    refine ⟨moved.1, ?_⟩
    apply (ih last moved.2 (quiet.2 last) moved.1.valid).mono
    · rw [still]
      exact fun value final _ ends => ⟨further.trans ends.1, ends.2⟩
    · exact fun _ _ _ ends => ends
  | either _ _ first second => exact ⟨first safe.1 quiet.1 valid, second safe.2 quiet.2 valid⟩

theorem Safe.advance (safe : rules.Safe caller returned thrown program store) (valid : rules.valid store) (choice : Bool) :
    rules.Moves caller store (program.advance choice store).1 ∧
      rules.Safe caller returned thrown (program.advance choice store).2 (program.advance choice store).1 := by
  cases program with
  | returns => exact ⟨.refl valid, safe⟩
  | throws => exact ⟨.refl valid, safe⟩
  | step => exact safe store (.refl valid)
  | either =>
    apply And.intro (.refl valid)
    cases choice with
    | true => exact safe.1
    | false => exact safe.2

end Custody

namespace CustodyRun
variable {Op σ ε α : Type} (body : Nat → Op → Process σ ε α) (abandon : Nat → σ → σ)

/-- A crash takes from the caller what it holds in the store. -/
def step (run : SharedRun Op σ ε α) : SharedEvent Op → SharedRun Op σ ε α
  | .crash index => { run.setRest index none with store := abandon index run.store }
  | .call operation => SharedRun.step body run (.call operation)
  | .advance index choice => SharedRun.step body run (.advance index choice)

variable {rules : Custody σ} {returned : Nat → Op → α → σ → Prop} {thrown : Nat → Op → ε → σ → Prop}
  {state : SharedRun Op σ ε α} {base : σ} {body} {abandon} {event : SharedEvent Op} {index : Nat}

/-- The store is valid, and every call that has not crashed is safe. -/
structure Sound (rules : Custody σ) (returned : Nat → Op → α → σ → Prop) (thrown : Nat → Op → ε → σ → Prop) (base : σ)
    (state : SharedRun Op σ ε α) : Prop where
  valid : rules.valid state.store
  grown : rules.grows base state.store
  safe : ∀ index operation program, state.calls[index]? = some ⟨operation, some program⟩ →
    rules.Safe index (returned index operation) (thrown index operation) program state.store

/-- Each operation is safe wherever it is called, and a crash spares the other callers. -/
structure Admits (body : Nat → Op → Process σ ε α) (abandon : Nat → σ → σ) (rules : Custody σ)
    (returned : Nat → Op → α → σ → Prop) (thrown : Nat → Op → ε → σ → Prop) (base : σ) : Prop where
  calls : ∀ index operation store, rules.valid store → rules.grows base store →
    rules.Safe index (returned index operation) (thrown index operation) (body index operation) store
  crashes : ∀ index store, rules.valid store → rules.Moves index store (abandon index store)

theorem Sound.step (sound : Sound rules returned thrown base state) (admits : Admits body abandon rules returned thrown base)
    (event : SharedEvent Op) : Sound rules returned thrown base (step body abandon state event) := by
  have every : state.Every _ := sound.safe
  cases event with
  | call operation => exact ⟨sound.valid, sound.grown, every.call (admits.calls _ operation state.store sound.valid sound.grown)⟩
  | crash crashed =>
    have moves := admits.crashes crashed state.store sound.valid
    refine ⟨moves.valid, rules.trans sound.grown moves.grows, every.setRest (fun _ _ _ none => by cases none) ?_⟩
    exact fun _ _ _ apart safe => safe.later (moves.rely (Ne.symm apart))
  | advance moved choice =>
    cases left : state.remaining moved with
    | none =>
      simp only [CustodyRun.step, SharedRun.step, left]
      exact sound
    | some program =>
      obtain ⟨call, present, safe⟩ := every.remaining left
      obtain ⟨moves, further⟩ := safe.advance sound.valid choice
      simp only [CustodyRun.step, SharedRun.step, left]
      refine ⟨moves.valid, rules.trans sound.grown moves.grows, every.setRest ?_ ?_⟩
      · intro other program same ended
        cases present.symm.trans same
        cases ended
        exact further
      · exact fun _ _ _ apart safe => safe.later (moves.rely (Ne.symm apart))

theorem Sound.run (sound : Sound rules returned thrown base state) (admits : Admits body abandon rules returned thrown base)
    (events : List (SharedEvent Op)) : Sound rules returned thrown base (Runs.run (CustodyRun.step body abandon) events state) :=
  Runs.Along.invariant (Sound rules returned thrown base) (fun _ event sound _ => sound.step admits event)
    (Runs.along_all events state) sound

theorem sound_start (valid : rules.valid base) : Sound rules returned thrown base (SharedRun.start base) where
  valid := valid
  grown := rules.refl base
  safe index operation program found := by simp [SharedRun.start] at found

theorem Sound.throws (sound : Sound rules returned thrown base state) {operation : Op} {reason : ε}
    (ended : state.Threw index operation reason) : thrown index operation reason state.store :=
  sound.safe index operation _ ended state.store (.refl sound.valid)

end CustodyRun
