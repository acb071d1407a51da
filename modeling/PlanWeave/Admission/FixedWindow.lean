import PlanWeave.Lib.OrderedMap
import PlanWeave.Lib.Runs

namespace PlanWeave
open List OrderedMap

/-- A number as `Number.isSafeInteger` sees it: an integer, or a fraction, a NaN or an infinity. -/
inductive Number where
  | integer (value : Int)
  | other

/-- Sums of two safe integers past this bound are rounded, but never back below it. -/
def SafeInteger (value : Int) : Prop := -9007199254740991 ≤ value ∧ value ≤ 9007199254740991

instance (value : Int) : Decidable (SafeInteger value) := inferInstanceAs (Decidable (_ ∧ _))

inductive FixedWindowAdmissionResult where
  | allowed
  | refused (retryAfterSeconds : Int)
  deriving DecidableEq

structure BoundedFixedWindowAdmissionOptions where
  windowMs : Number
  maxRequests : Number
  maxBuckets : Number

structure FixedWindowBucket where
  windowStartedAt : Int
  count : Int

def requirePositiveInteger (value : Number) (name : String) : Except String { value : Int // 0 < value } :=
  match value with
  | .integer value =>
    if positive : SafeInteger value ∧ 0 < value then .ok ⟨value, positive.2⟩
    else .error (name ++ "_must_be_a_positive_safe_integer")
  | .other => .error (name ++ "_must_be_a_positive_safe_integer")

def requireTimestamp (now : Number) (windowMs : Int) : Except String Int :=
  match now with
  | .integer now =>
    if ¬ SafeInteger now then .error "fixed_window_now_must_be_a_safe_integer"
    else if ¬ SafeInteger (now + windowMs) then .error "fixed_window_expiry_must_be_a_safe_integer"
    else .ok now
  | .other => .error "fixed_window_now_must_be_a_safe_integer"

def retryAfterSeconds (expiresAt now : Int) : Int :=
  -- below 2^53 the quotient is rounded by less than a thousandth, so its ceiling is exact
  max 1 ((expiresAt - now + 999) / 1000)

structure BoundedFixedWindowAdmission where
  windowMs : { value : Int // 0 < value }
  maxRequests : { value : Int // 0 < value }
  maxBuckets : { value : Int // 0 < value }

namespace BoundedFixedWindowAdmission

def create (options : BoundedFixedWindowAdmissionOptions) : Except String BoundedFixedWindowAdmission := do
  let windowMs ← requirePositiveInteger options.windowMs "fixed_window_window_ms"
  let maxRequests ← requirePositiveInteger options.maxRequests "fixed_window_max_requests"
  let maxBuckets ← requirePositiveInteger options.maxBuckets "fixed_window_max_buckets"
  return ⟨windowMs, maxRequests, maxBuckets⟩

variable {Key : Type} [DecidableEq Key]
variable (gate : BoundedFixedWindowAdmission)

abbrev Buckets (Key : Type) := OrderedMap Key FixedWindowBucket

abbrev Answer := Except String FixedWindowAdmissionResult

def expiresAt (bucket : FixedWindowBucket) : Int := bucket.windowStartedAt + gate.windowMs.1

def activeBucket (buckets : Buckets Key) (key : Key) (now : Int) : Option FixedWindowBucket :=
  (buckets.get? key).filter fun bucket => now < gate.expiresAt bucket

/-- The loop over the buckets: what is left of them and the earliest expiry of an active one. -/
def sweep (now : Int) : List (Key × FixedWindowBucket) → Buckets Key → Option Int → Buckets Key × Option Int
  | [], buckets, earliestActiveExpiry => (buckets, earliestActiveExpiry)
  | (candidateKey, bucket) :: rest, buckets, earliestActiveExpiry =>
    if gate.expiresAt bucket ≤ now then sweep now rest (buckets.erase candidateKey) earliestActiveExpiry
    else if earliestActiveExpiry.all fun earliest => gate.expiresAt bucket < earliest then
      sweep now rest buckets (some (gate.expiresAt bucket))
    else sweep now rest buckets earliestActiveExpiry

def openWindow (key : Key) (now : Int) (buckets : Buckets Key) : Answer × Buckets Key :=
  let (buckets, earliestActiveExpiry) := gate.sweep now buckets.entries buckets none
  if gate.maxBuckets.1 ≤ buckets.size then
    match earliestActiveExpiry.filter fun earliest => SafeInteger earliest with
    | some earliest => (.ok (.refused (retryAfterSeconds earliest now)), buckets)
    | none => (.error "fixed_window_active_expiry_unavailable", buckets)
  else (.ok .allowed, buckets.set key ⟨now, 1⟩)

def admitAt (key : Key) (now : Int) (buckets : Buckets Key) : Answer × Buckets Key :=
  match gate.activeBucket buckets key now with
  | some current =>
    if gate.maxRequests.1 ≤ current.count then
      (.ok (.refused (retryAfterSeconds (gate.expiresAt current) now)), buckets)
    else (.ok .allowed, buckets.set key { current with count := current.count + 1 })
  | none => gate.openWindow key now buckets

def admitCall (call : Key × Number) (buckets : Buckets Key) : Answer × Buckets Key :=
  match requireTimestamp call.2 gate.windowMs.1 with
  | .ok now => gate.admitAt call.1 now buckets
  | .error reason => (.error reason, buckets)

def swept (now : Int) (buckets : Buckets Key) : Buckets Key :=
  buckets.filter fun _ bucket => now < gate.expiresAt bucket

variable {gate} {buckets : Buckets Key} {key other : Key} {now later : Int} {bucket : FixedWindowBucket}

theorem sweep_entries (rest : List (Key × FixedWindowBucket)) (buckets : Buckets Key) (earliest : Option Int) :
    (gate.sweep now rest buckets earliest).1.entries =
      buckets.entries.filter fun entry => rest.all fun swept => swept.1 ≠ entry.1 ∨ now < gate.expiresAt swept.2 := by
  induction rest generalizing buckets earliest with
  | nil => simp [sweep]
  | cons head rest ih =>
    unfold sweep
    split
    · rename_i expired
      have gone : ¬ now < gate.expiresAt head.2 := by omega
      rw [ih]
      simp [OrderedMap.erase, OrderedMap.filter, filter_filter, gone, eq_comm, Bool.and_comm]
    · rename_i active
      have kept : now < gate.expiresAt head.2 := by omega
      split <;> simp [ih, kept]

theorem sweep_swept (earliest : Option Int) : (gate.sweep now buckets.entries buckets earliest).1 = gate.swept now buckets := by
  have entries : (gate.sweep now buckets.entries buckets earliest).1.entries = (gate.swept now buckets).entries := by
    rw [sweep_entries]
    apply filter_congr
    intro entry inside
    rw [Bool.eq_iff_iff, all_eq_true]
    constructor
    · intro kept
      simpa using kept entry inside
    · intro active other member
      by_cases same : other.1 = entry.1
      · have found : buckets.get? entry.1 = some entry.2 := buckets.get?_eq_some_iff.mpr inside
        have also : buckets.get? other.1 = some other.2 := buckets.get?_eq_some_iff.mpr member
        rw [same, found] at also
        rw [← Option.some.inj also]
        simpa [same] using active
      · simp [same]
  revert entries
  generalize (gate.sweep now buckets.entries buckets earliest).1 = left
  intro entries
  cases left
  cases entries
  rfl

omit [DecidableEq Key] in
theorem mem_swept {entry : Key × FixedWindowBucket} : entry ∈ (gate.swept now buckets).entries ↔
    entry ∈ buckets.entries ∧ now < gate.expiresAt entry.2 := by
  simp [swept, OrderedMap.filter]

theorem sweep_earliest (rest : List (Key × FixedWindowBucket)) (start : Buckets Key) (earliest : Option Int)
    (present : earliest.isSome ∨ ∃ entry ∈ rest, now < gate.expiresAt entry.2) :
    ∃ time, (gate.sweep now rest start earliest).2 = some time ∧
      (earliest = some time ∨ ∃ entry ∈ rest, now < gate.expiresAt entry.2 ∧ gate.expiresAt entry.2 = time) := by
  induction rest generalizing start earliest with
  | nil =>
    obtain ⟨time, rfl⟩ := Option.isSome_iff_exists.mp (present.resolve_right (by simp))
    exact ⟨time, rfl, .inl rfl⟩
  | cons head rest ih =>
    unfold sweep
    simp only [mem_cons, exists_eq_or_imp] at present ⊢
    split
    · have gone : ¬ now < gate.expiresAt head.2 := by omega
      obtain ⟨time, found, source⟩ := ih _ earliest (present.imp_right fun inside => inside.resolve_left gone)
      exact ⟨time, found, source.imp_right .inr⟩
    · have active : now < gate.expiresAt head.2 := by omega
      split
      · obtain ⟨time, found, source⟩ := ih start (some (gate.expiresAt head.2)) (.inl rfl)
        refine ⟨time, found, .inr ?_⟩
        exact source.imp_left fun same => ⟨active, Option.some.inj same⟩
      · rename_i kept
        have known : earliest.isSome := by
          cases earliest with
          | none => exact absurd rfl kept
          | some => rfl
        obtain ⟨time, found, source⟩ := ih start earliest (.inl known)
        exact ⟨time, found, source.imp_right .inr⟩

structure Held (gate : BoundedFixedWindowAdmission) (buckets : Buckets Key) : Prop where
  bounded : (buckets.size : Int) ≤ gate.maxBuckets.1
  safe : ∀ key bucket, buckets.get? key = some bucket → SafeInteger (gate.expiresAt bucket)

/-- No bucket of the key's own is active, and no room is left for a new one. -/
def LacksBucket (gate : BoundedFixedWindowAdmission) (buckets : Buckets Key) (key : Key) (now : Int) : Prop :=
  gate.activeBucket buckets key now = none ∧ gate.maxBuckets.1 ≤ (gate.swept now buckets).size

inductive Answered (gate : BoundedFixedWindowAdmission) (buckets : Buckets Key) (key : Key) (now : Int) :
    Answer × Buckets Key → Prop
  | exhausted (current : FixedWindowBucket) (active : gate.activeBucket buckets key now = some current)
      (full : gate.maxRequests.1 ≤ current.count) :
      Answered gate buckets key now (.ok (.refused (retryAfterSeconds (gate.expiresAt current) now)), buckets)
  | counted (current : FixedWindowBucket) (active : gate.activeBucket buckets key now = some current)
      (room : current.count < gate.maxRequests.1) :
      Answered gate buckets key now (.ok .allowed, buckets.set key { current with count := current.count + 1 })
  | lacking (lacks : gate.LacksBucket buckets key now) (entry : Key × FixedWindowBucket)
      (inside : entry ∈ (gate.swept now buckets).entries) :
      Answered gate buckets key now
        (.ok (.refused (retryAfterSeconds (gate.expiresAt entry.2) now)), gate.swept now buckets)
  | opened (idle : gate.activeBucket buckets key now = none)
      (room : ((gate.swept now buckets).size : Int) < gate.maxBuckets.1) :
      Answered gate buckets key now (.ok .allowed, (gate.swept now buckets).set key ⟨now, 1⟩)

theorem admitAt_active {current : FixedWindowBucket} (active : gate.activeBucket buckets key now = some current) :
    gate.admitAt key now buckets = if gate.maxRequests.1 ≤ current.count then
        (.ok (.refused (retryAfterSeconds (gate.expiresAt current) now)), buckets)
      else (.ok .allowed, buckets.set key { current with count := current.count + 1 }) := by
  rw [admitAt, active]

theorem admitAt_idle (idle : gate.activeBucket buckets key now = none)
    (room : ((gate.swept now buckets).size : Int) < gate.maxBuckets.1) :
    gate.admitAt key now buckets = (.ok .allowed, (gate.swept now buckets).set key ⟨now, 1⟩) := by
  have notFull : ¬ gate.maxBuckets.1 ≤ (gate.swept now buckets).size := by omega
  simp only [admitAt, idle, openWindow, sweep_swept, if_neg notFull]

theorem admitAt_answered (held : gate.Held buckets) (key : Key) (now : Int) :
    gate.Answered buckets key now (gate.admitAt key now buckets) := by
  cases active : gate.activeBucket buckets key now with
  | some current =>
    rw [admitAt_active active]
    split
    · rename_i full
      exact .exhausted current active full
    · exact .counted current active (by omega)
  | none =>
    by_cases full : gate.maxBuckets.1 ≤ (gate.swept now buckets).size
    · -- a full map is not empty, and the sweep kept only active buckets
      have inhabited : (gate.swept now buckets).entries ≠ [] := by
        intro empty
        have positive := gate.maxBuckets.2
        simp only [size, empty, length_nil] at full
        omega
      obtain ⟨witness, member⟩ := exists_mem_of_ne_nil _ inhabited
      obtain ⟨time, found, source⟩ := sweep_earliest buckets.entries buckets none (.inr ⟨witness, mem_swept.mp member⟩)
      obtain ⟨entry, inside, live, rfl⟩ := source.resolve_left (by simp)
      have safe := held.safe entry.1 entry.2 (buckets.get?_eq_some_iff.mpr inside)
      simp only [admitAt, active, openWindow, sweep_swept, if_pos full, found, Option.filter_some, decide_eq_true_eq, if_pos safe]
      exact .lacking ⟨active, full⟩ entry (mem_swept.mpr ⟨inside, live⟩)
    · have room : ((gate.swept now buckets).size : Int) < gate.maxBuckets.1 := by omega
      rw [admitAt_idle active room]
      exact .opened active room

theorem filter_active (before : now ≤ later) (found : Option FixedWindowBucket) :
    (found.filter fun bucket => now < gate.expiresAt bucket).filter (fun bucket => later < gate.expiresAt bucket) =
      found.filter fun bucket => later < gate.expiresAt bucket := by
  rw [Option.filter_filter]
  congr 1
  funext bucket
  rw [Bool.eq_iff_iff, Bool.and_eq_true, decide_eq_true_eq, decide_eq_true_eq]
  omega

theorem activeBucket_later (before : now ≤ later) (idle : gate.activeBucket buckets key now = none) :
    gate.activeBucket buckets key later = none := by
  unfold activeBucket at idle ⊢
  rw [← filter_active before, idle]
  rfl

theorem activeBucket_swept (before : now ≤ later) :
    gate.activeBucket (gate.swept now buckets) key later = gate.activeBucket buckets key later := by
  unfold activeBucket swept
  rw [get?_filter, filter_active before]

theorem activeBucket_set : gate.activeBucket (buckets.set key bucket) other later =
    if other = key then (some bucket).filter fun bucket => later < gate.expiresAt bucket
    else gate.activeBucket buckets other later := by
  unfold activeBucket
  rw [get?_set]
  split <;> rfl

theorem Held.empty : gate.Held (∅ : Buckets Key) := by
  have positive := gate.maxBuckets.2
  exact ⟨by show ((0 : Nat) : Int) ≤ _; omega, fun _ _ found => by cases found⟩

theorem active_some (active : gate.activeBucket buckets key now = some bucket) :
    buckets.get? key = some bucket ∧ now < gate.expiresAt bucket := by
  simpa [activeBucket, Option.filter_eq_some_iff] using active

theorem Held.swept (held : gate.Held buckets) : gate.Held (gate.swept now buckets) := by
  constructor
  · have shorter : (gate.swept now buckets).size ≤ buckets.size := length_filter_le _ _
    have bounded := held.bounded
    omega
  · intro key bucket found
    rw [BoundedFixedWindowAdmission.swept, get?_filter, Option.filter_eq_some_iff] at found
    exact held.safe key bucket found.1

theorem Held.set (held : gate.Held buckets) (safe : SafeInteger (gate.expiresAt bucket))
    (room : buckets.has key = true ∨ (buckets.size : Int) < gate.maxBuckets.1) :
    gate.Held (buckets.set key bucket) := by
  constructor
  · have keys := congrArg length (buckets.keys_set key bucket)
    simp only [OrderedMap.keys, length_map] at keys
    have bounded := held.bounded
    rw [size] at bounded room ⊢
    rw [keys]
    split
    · simpa using bounded
    · rename_i absent
      have fits := room.resolve_left absent
      simp only [length_append, length_map, length_singleton]
      omega
  · intro other stored found
    rw [get?_set] at found
    split at found
    · cases found
      exact safe
    · exact held.safe other stored found

variable {result : Answer × Buckets Key}

theorem Answered.held (answered : gate.Answered buckets key now result) (held : gate.Held buckets)
    (safe : SafeInteger (now + gate.windowMs.1)) : gate.Held result.2 := by
  cases answered with
  | exhausted => exact held
  | counted current active =>
    have found := (active_some active).1
    exact held.set (held.safe key current found) (.inl (by rw [has, found]; rfl))
  | lacking => exact held.swept
  | opened _ room => exact held.swept.set safe (.inr room)

theorem Answered.others (answered : gate.Answered buckets key now result) (different : other ≠ key)
    (before : now ≤ later) : gate.activeBucket result.2 other later = gate.activeBucket buckets other later := by
  cases answered with
  | exhausted => rfl
  | counted => rw [activeBucket_set, if_neg different]
  | lacking => exact activeBucket_swept before
  | opened => rw [activeBucket_set, if_neg different, activeBucket_swept before]

section Calls
variable (gate)

def acceptedTime (call : Key × Number) : Option Int := (requireTimestamp call.2 gate.windowMs.1).toOption

def Ordered (calls : List (Key × Number)) : Prop := (calls.filterMap gate.acceptedTime).Pairwise (· ≤ ·)

instance (calls : List (Key × Number)) : Decidable (gate.Ordered calls) :=
  inferInstanceAs (Decidable (Pairwise _ _))

def after (buckets : Buckets Key) (call : Key × Number) : Buckets Key := (gate.admitCall call buckets).2

def history : List (Key × Number) → Buckets Key → List ((Key × Number) × Answer)
  | [], _ => []
  | call :: rest, buckets => (call, (gate.admitCall call buckets).1) :: history rest (gate.after buckets call)

def admittedTime (key : Key) : (Key × Number) × Answer → Option Int
  | (call, .ok .allowed) => if call.1 = key then gate.acceptedTime call else none
  | _ => none

/-- An admitted call is counted in the latest window until that ends, and opens a window then. -/
def record (windows : List FixedWindowBucket) (now : Int) : List FixedWindowBucket :=
  match windows.head?.filter fun latest => now < gate.expiresAt latest with
  | some latest => { latest with count := latest.count + 1 } :: windows.tail
  | none => ⟨now, 1⟩ :: windows

def windows (key : Key) (history : List ((Key × Number) × Answer)) : List FixedWindowBucket :=
  (history.filterMap (gate.admittedTime key)).foldl gate.record []

end Calls

variable {call : Key × Number} {calls : List (Key × Number)} {windows : List FixedWindowBucket}

/-- Whether a call is accepted does not depend on the buckets. -/
theorem admit_cases (gate : BoundedFixedWindowAdmission) (call : Key × Number) :
    (∃ now, gate.acceptedTime call = some now ∧ SafeInteger (now + gate.windowMs.1) ∧
      ∀ buckets, gate.admitCall call buckets = gate.admitAt call.1 now buckets) ∨
    (gate.acceptedTime call = none ∧ ∃ reason, reason ≠ "fixed_window_active_expiry_unavailable" ∧
      ∀ buckets, gate.admitCall call buckets = (.error reason, buckets)) := by
  obtain ⟨key, number⟩ := call
  unfold acceptedTime admitCall requireTimestamp
  cases number with
  | other => exact .inr ⟨rfl, _, by decide, fun _ => rfl⟩
  | integer value =>
    by_cases safe : SafeInteger value
    · by_cases ends : SafeInteger (value + gate.windowMs.1)
      · simp [safe, ends, Except.toOption]
      · simp [safe, ends, Except.toOption]
    · simp [safe, Except.toOption]

omit [DecidableEq Key] in
theorem acceptedTime_integer (accepted : gate.acceptedTime (key, .integer now) = some later) : later = now := by
  simp only [acceptedTime, requireTimestamp] at accepted
  split_ifs at accepted <;> cases accepted
  rfl

theorem Held.after (held : gate.Held buckets) : gate.Held (gate.after buckets call) := by
  unfold BoundedFixedWindowAdmission.after
  obtain ⟨now, _, safe, admitted⟩ | ⟨_, _, _, rejected⟩ := admit_cases gate call
  · rw [admitted]
    exact (admitAt_answered held call.1 now).held held safe
  · rw [rejected]
    exact held

theorem Held.run (held : gate.Held buckets) : gate.Held (Runs.run gate.after calls buckets) :=
  Runs.Along.invariant _ (fun _ _ held _ => held.after) (Runs.along_all calls buckets) held

/-- From now on the key's active bucket is the latest of its windows. -/
def Tracks (gate : BoundedFixedWindowAdmission) (buckets : Buckets Key) (windows : List FixedWindowBucket)
    (key : Key) (now : Int) : Prop :=
  ∀ later, now ≤ later → gate.activeBucket buckets key later =
    windows.head?.filter fun latest => later < gate.expiresAt latest

theorem Answered.tracks (answered : gate.Answered buckets call.1 now result)
    (accepted : gate.acceptedTime call = some now) (tracks : gate.Tracks buckets windows key now)
    (bounded : ∀ window ∈ windows, window.count ≤ gate.maxRequests.1) :
    let recorded := (gate.admittedTime key (call, result.1)).elim windows (gate.record windows)
    gate.Tracks result.2 recorded key now ∧ ∀ window ∈ recorded, window.count ≤ gate.maxRequests.1 := by
  intro recorded
  by_cases mine : call.1 = key
  · subst mine
    have latest := tracks now (Int.le_refl now)
    cases answered with
    | exhausted => exact ⟨tracks, bounded⟩
    | counted current active room =>
      have same : recorded = { current with count := current.count + 1 } :: windows.tail := by
        simp [recorded, admittedTime, accepted, record, ← latest, active]
      rw [same]
      constructor
      · intro later _
        rw [activeBucket_set, if_pos rfl, head?_cons]
      · rintro window (_ | ⟨_, inside⟩)
        · exact Int.add_one_le_of_lt room
        · exact bounded window (mem_of_mem_tail inside)
    | lacking => exact ⟨fun later before => (activeBucket_swept before).trans (tracks later before), bounded⟩
    | opened idle =>
      have same : recorded = ⟨now, 1⟩ :: windows := by
        simp [recorded, admittedTime, accepted, record, ← latest, idle]
      rw [same]
      constructor
      · intro later _
        rw [activeBucket_set, if_pos rfl, head?_cons]
      · rintro window (_ | ⟨_, inside⟩)
        · have positive := gate.maxRequests.2
          show (1 : Int) ≤ _
          omega
        · exact bounded window inside
  · have same : recorded = windows := by
      unfold recorded admittedTime
      split <;> simp_all
    rw [same]
    exact ⟨fun later before => (answered.others (fun same => mine same.symm) before).trans (tracks later before), bounded⟩

omit [DecidableEq Key] in
theorem Ordered.tail (ordered : gate.Ordered (call :: calls)) : gate.Ordered calls :=
  ordered.sublist ((sublist_cons_self call calls).filterMap _)

omit [DecidableEq Key] in
theorem Ordered.head (ordered : gate.Ordered (call :: calls)) (accepted : gate.acceptedTime call = some now)
    (inside : later ∈ calls.filterMap gate.acceptedTime) : now ≤ later := by
  unfold Ordered at ordered
  rw [filterMap_cons_some accepted, pairwise_cons] at ordered
  exact ordered.1 later inside

theorem windows_bounded (held : gate.Held buckets) (ordered : gate.Ordered calls)
    (tracks : ∀ now ∈ calls.filterMap gate.acceptedTime, gate.Tracks buckets windows key now)
    (bounded : ∀ window ∈ windows, window.count ≤ gate.maxRequests.1) :
    ∀ window ∈ ((gate.history calls buckets).filterMap (gate.admittedTime key)).foldl gate.record windows,
      window.count ≤ gate.maxRequests.1 := by
  induction calls generalizing buckets windows with
  | nil => exact bounded
  | cons call rest ih =>
    unfold history
    rw [filterMap_cons]
    obtain ⟨now, accepted, _, admitted⟩ | ⟨refused, _, _, rejected⟩ := admit_cases gate call
    · have step := (admitAt_answered held call.1 now).tracks accepted
        (tracks now (by rw [filterMap_cons_some accepted]; exact mem_cons_self)) bounded
      rw [← admitted] at step
      have rest := ih held.after ordered.tail
        (fun later inside time after => step.1 time (Int.le_trans (ordered.head accepted inside) after)) step.2
      cases counted : gate.admittedTime key (call, (gate.admitCall call buckets).1) <;> rw [counted] at rest <;> exact rest
    · have same : gate.after buckets call = buckets := by rw [after, rejected]
      have unseen : gate.admittedTime key (call, (gate.admitCall call buckets).1) = none := by
        rw [rejected]
        rfl
      rw [filterMap_cons_none refused] at tracks
      rw [unseen, same]
      exact ih held ordered.tail tracks bounded

/-- The call is refused although no bucket of its key is used up. -/
def RefusedForRoom (gate : BoundedFixedWindowAdmission) (buckets : Buckets Key) (call : Key × Number) : Prop :=
  ∃ now, gate.acceptedTime call = some now ∧ gate.LacksBucket buckets call.1 now

theorem swept_alone (only : ∀ other, other ≠ key → buckets.get? other = none)
    (idle : gate.activeBucket buckets key now = none) : (gate.swept now buckets).size = 0 := by
  unfold size
  rw [length_eq_zero_iff, eq_nil_iff_forall_not_mem]
  intro entry inside
  have found := (get?_eq_some_iff _).mpr inside
  rw [swept, get?_filter] at found
  by_cases mine : entry.1 = key
  · rw [mine] at found
    exact absurd (idle.symm.trans found) (by simp)
  · rw [only _ mine] at found
    cases found

theorem Answered.alone {alone : Buckets Key} (answered : gate.Answered buckets key now result)
    (roomy : ¬ gate.LacksBucket buckets key now) (only : ∀ other, other ≠ key → alone.get? other = none)
    (same : ∀ later, now ≤ later → gate.activeBucket buckets key later = gate.activeBucket alone key later) :
    ∃ next, gate.admitAt key now alone = (result.1, next) ∧
      (∀ later, now ≤ later → gate.activeBucket result.2 key later = gate.activeBucket next key later) ∧
      ∀ other, other ≠ key → next.get? other = none := by
  have agree := (same now (Int.le_refl now)).symm
  cases answered with
  | exhausted current active full =>
    exact ⟨alone, by rw [admitAt_active (agree.trans active), if_pos full], same, only⟩
  | counted current active room =>
    refine ⟨_, by rw [admitAt_active (agree.trans active), if_neg (Int.not_le.mpr room)], ?_, ?_⟩
    · intro later _
      rw [activeBucket_set, activeBucket_set, if_pos rfl, if_pos rfl]
    · intro other different
      rw [get?_set, if_neg different, only other different]
  | lacking lacks => exact absurd lacks roomy
  | opened idle =>
    have positive := gate.maxBuckets.2
    refine ⟨_, admitAt_idle (agree.trans idle) ?_, ?_, ?_⟩
    · rw [swept_alone only (agree.trans idle)]
      exact positive
    · intro later _
      rw [activeBucket_set, activeBucket_set, if_pos rfl, if_pos rfl]
    · intro other different
      rw [get?_set, if_neg different, swept, get?_filter, only other different, Option.filter_none]

/-- The answers to one key's calls are those of an admission that sees no other calls. -/
theorem history_alone {alone : Buckets Key} (ordered : gate.Ordered calls)
    (roomy : Runs.Along gate.after (fun buckets call => ¬ gate.RefusedForRoom buckets call) calls buckets)
    (same : ∀ now ∈ calls.filterMap gate.acceptedTime, ∀ later, now ≤ later →
      gate.activeBucket buckets key later = gate.activeBucket alone key later)
    (only : ∀ other, other ≠ key → alone.get? other = none) (held : gate.Held buckets) :
    (gate.history calls buckets).filter (fun answered => answered.1.1 = key) =
      gate.history (calls.filter fun call => call.1 = key) alone := by
  induction calls generalizing buckets alone with
  | nil => rfl
  | cons call rest ih =>
    obtain ⟨now, accepted, _, admitted⟩ | ⟨refused, _, _, rejected⟩ := admit_cases gate call
    · rw [filterMap_cons_some accepted] at same
      by_cases mine : call.1 = key
      · subst mine
        have fits : ¬ gate.LacksBucket buckets call.1 now := fun lacks => roomy.1 ⟨now, accepted, lacks⟩
        obtain ⟨next, answer, agree, absent⟩ := (admitAt_answered held call.1 now).alone fits only (same now mem_cons_self)
        rw [← admitted, ← admitted] at answer
        have rest := ih ordered.tail roomy.2 ?_ absent held.after
        · rw [history, filter_cons_of_pos (by simp), filter_cons_of_pos (by simp), history, rest, after, answer]
        · intro time inside later before
          rw [after, admitted]
          exact agree later (Int.le_trans (ordered.head accepted inside) before)
      · have others : ∀ now ∈ rest.filterMap gate.acceptedTime, ∀ later, now ≤ later →
            gate.activeBucket (gate.after buckets call) key later = gate.activeBucket alone key later := by
          intro time inside later before
          rw [after, admitted]
          rw [(admitAt_answered held call.1 now).others (fun same => mine same.symm)
            (Int.le_trans (ordered.head accepted inside) before)]
          exact same time (mem_cons_of_mem _ inside) later before
        rw [history, filter_cons_of_neg (by simpa using mine), filter_cons_of_neg (by simpa using mine)]
        exact ih ordered.tail roomy.2 others only held.after
    · rw [filterMap_cons_none refused] at same
      have unchanged : ∀ buckets, gate.after buckets call = buckets := fun buckets => by rw [after, rejected]
      have rest := @ih buckets alone ordered.tail (unchanged buckets ▸ roomy.2) same only held
      by_cases mine : call.1 = key
      · rw [history, filter_cons_of_pos (by simpa using mine), filter_cons_of_pos (by simpa using mine), history,
          rejected, rejected, unchanged, unchanged, rest]
      · rw [history, filter_cons_of_neg (by simpa using mine), filter_cons_of_neg (by simpa using mine), unchanged, rest]

theorem admitAt_expired {entry : Key × FixedWindowBucket} (held : gate.Held buckets) (inside : entry ∈ buckets.entries)
    (expired : gate.expiresAt entry.2 ≤ now) (idle : gate.activeBucket buckets key now = none) :
    (gate.admitAt key now buckets).1 = .ok .allowed := by
  have fewer : (gate.swept now buckets).size < buckets.size :=
    length_filter_lt_length_iff_exists.mpr ⟨entry, inside, by simpa using expired⟩
  have bounded := held.bounded
  rw [admitAt_idle idle (by omega)]

theorem Answered.retried {seconds : Int} (answered : gate.Answered buckets key now result) (held : gate.Held buckets)
    (safe : SafeInteger (now + gate.windowMs.1)) (refused : result.1 = .ok (.refused seconds)) :
    (gate.admitAt key (now + 1000 * seconds) result.2).1 = .ok .allowed := by
  have kept := answered.held held safe
  have reached : ∀ expiry, seconds = retryAfterSeconds expiry now → expiry ≤ now + 1000 * seconds := by
    rintro _ rfl
    unfold retryAfterSeconds
    omega
  cases answered with
  | exhausted current active =>
    cases refused
    have expired := reached _ rfl
    have found := (active_some active).1
    have inside : (key, current) ∈ buckets.entries := buckets.get?_eq_some_iff.mp found
    refine admitAt_expired held inside expired ?_
    rw [activeBucket, found, Option.filter_eq_none_iff]
    rintro _ same
    cases same
    simpa using expired
  | counted => cases refused
  | lacking lacks entry inside =>
    cases refused
    refine admitAt_expired kept inside (reached _ rfl) ?_
    have live := (mem_swept.mp inside).2
    have expired := reached _ rfl
    have sooner : now ≤ now + 1000 * retryAfterSeconds (gate.expiresAt entry.2) now := by omega
    exact activeBucket_later sooner ((activeBucket_swept (Int.le_refl now)).trans lacks.1)
  | opened => cases refused

/-- Counts and buckets stay within their bounds, keys without a lack of buckets do not interfere, and a refusal's hint is kept. -/
theorem fixed_window_admission_bounded (calls : List (Key × Number)) (ordered : gate.Ordered calls) :
    let buckets := Runs.run gate.after calls (∅ : Buckets Key)
    (buckets.size : Int) ≤ gate.maxBuckets.1 ∧
    (∀ key, ∀ window ∈ gate.windows key (gate.history calls ∅), window.count ≤ gate.maxRequests.1) ∧
    (Runs.Along gate.after (fun buckets call => ¬ gate.RefusedForRoom buckets call) calls ∅ → ∀ key,
      (gate.history calls ∅).filter (fun answered => answered.1.1 = key) =
        gate.history (calls.filter fun call => call.1 = key) ∅) ∧
    (∀ call now, gate.acceptedTime call = some now → gate.LacksBucket buckets call.1 now → ∀ other, other ≠ call.1 →
      ∀ later, now ≤ later → gate.activeBucket (gate.after buckets call) other later =
        gate.activeBucket buckets other later) ∧
    (∀ key now seconds, (gate.admitCall (key, .integer now) buckets).1 = .ok (.refused seconds) →
      (gate.acceptedTime (key, .integer (now + 1000 * seconds))).isSome →
      (gate.admitCall (key, .integer (now + 1000 * seconds)) (gate.after buckets (key, .integer now))).1 = .ok .allowed) ∧
    ∀ call, (gate.admitCall call buckets).1 ≠ .error "fixed_window_active_expiry_unavailable" := by
  intro buckets
  have held : gate.Held buckets := Held.empty.run
  refine ⟨held.bounded, ?_, ?_, ?_, ?_, ?_⟩
  · intro key
    exact windows_bounded Held.empty ordered (fun _ _ _ _ => rfl) (by simp)
  · intro roomy key
    exact history_alone ordered roomy (fun _ _ _ _ => rfl) (fun _ _ => rfl) Held.empty
  · intro call now accepted _ other different later before
    obtain ⟨time, admitted⟩ := (admit_cases gate call).resolve_right fun rejected =>
      absurd (accepted.symm.trans rejected.1) (by simp)
    cases accepted.symm.trans admitted.1
    rw [after, admitted.2.2]
    exact (admitAt_answered held call.1 now).others different before
  · intro key now seconds refused accepted
    obtain ⟨time, same, safe, admitted⟩ | ⟨_, _, _, rejected⟩ := admit_cases gate (key, Number.integer now)
    · cases acceptedTime_integer same
      obtain ⟨later, same, _, repeated⟩ := (admit_cases gate (key, Number.integer (now + 1000 * seconds))).resolve_right
        fun rejected => by simp [rejected.1] at accepted
      cases acceptedTime_integer same
      rw [admitted] at refused
      rw [repeated, after, admitted]
      exact (admitAt_answered held key now).retried held safe refused
    · rw [rejected] at refused
      cases refused
  · intro call
    obtain ⟨now, _, _, admitted⟩ | ⟨_, _, unlike, rejected⟩ := admit_cases gate call
    · rw [admitted]
      have answered := admitAt_answered held call.1 now
      generalize gate.admitAt call.1 now buckets = result at answered ⊢
      cases answered <;> simp
    · rw [rejected]
      simpa using unlike

def sampleAdmission : BoundedFixedWindowAdmission := ⟨⟨1000, by decide⟩, ⟨2, by decide⟩, ⟨1, by decide⟩⟩

def sampleCalls : List (String × Number) := [("earliest", .integer 0), ("earliest", .integer 5)]

theorem fixed_window_admission_sample :
    (sampleAdmission.admitCall ("new", .integer 1010) (Runs.run sampleAdmission.after sampleCalls ∅)).1 = .ok .allowed :=
  (fixed_window_admission_bounded sampleCalls (by decide : sampleAdmission.Ordered sampleCalls)).2.2.2.2.1 "new" 10 1
    (by decide) (by decide)

end BoundedFixedWindowAdmission
end PlanWeave
