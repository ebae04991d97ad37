import Fanout.Proofs.Retry.Exclusion

namespace Fanout

/-- Half of what a word can count; the times that clocks show are meant to lie below it. -/
def horizon : Nat := 2 ^ 63

theorem horizon_add_horizon : horizon + horizon = UInt64.size := rfl

theorem horizon_pos : 0 < horizon := Nat.two_pow_pos 63

theorem last_lt_horizon : horizon - 1 < horizon := Nat.sub_one_lt horizon_pos.ne'

/-- The one time of a record that goes into a sum lies below the horizon. -/
def RetryRecord.Timely (r : RetryRecord) : Prop :=
  ∀ time, r.inactiveSince = some time → time < horizon

/-- Settings under which a delay, even with the largest random addition, and the time for which a
record is kept leave room for every time below the horizon. -/
structure RetryConfig.Moderate (c : RetryConfig) : Prop where
  keeps : c.inactiveTtlMs.toNat ≤ horizon
  delays : ∀ attempt, 1 ≤ attempt → attempt < c.maxAttempts.toNat →
    c.baseBackoff attempt + c.jitterBound (c.baseBackoff attempt) ≤ horizon

theorem RetryConfig.Moderate.delay_le {c : RetryConfig} (moderate : c.Moderate)
    {attempt delay : Nat} (first : 1 ≤ attempt) (left : attempt < c.maxAttempts.toNat)
    (allowed : c.allowsDelay attempt delay = true) : delay ≤ horizon := by
  have room := moderate.delays attempt first left
  simp only [RetryConfig.allowsDelay, decide_eq_true_eq] at allowed
  omega

namespace RetryQueue

variable {ω : Type} {host : Host ω} {config : RetryConfig} {q : RetryQueue}
  {s : Held RetryQueue ω} {r r' : RetryRecord} {error : String} {now : Nat}

def Timely (q : RetryQueue) : Prop := ∀ id r, q.get? id = some r → r.Timely

def Request.Timely : Request → Prop
  | enqueue r => r.Timely
  | due now | claim _ now | fail _ _ now | purge now => now < horizon
  | remove _ => True

/-- What booking a failed attempt adds up: the delay with its random addition, and the time with the
delay. A record that is given up needs neither. -/
def bookingSums (host : Host ω) (s : Held RetryQueue ω) (r : RetryRecord) (error : String)
    (now : Nat) : List Nat :=
  if s.own.config.maxAttempts.toNat ≤ r.attemptCount + 1 then []
  else
    match failed host r error now s with
    | .ok booked _ => [booked.delayMs, booked.nextAttemptAt]
    | .error _ _ => []

/-- The sums that a request makes. A purge asks when each record that was given up expires. -/
def Request.sums (host : Host ω) (s : Held RetryQueue ω) : Request → List Nat
  | fail id error now => (s.own.get? id).elim [] fun r => bookingSums host s r error now
  | purge _ => s.own.records.values.filterMap fun r => r.inactiveSince.map s.own.expiry
  | enqueue _ | due _ | claim _ _ | remove _ => []

/-- The queues that requests lead to while every time lies below the horizon. What state the host
and the store are in is open anew at each of them. -/
inductive Clocked (host : Host ω) (config : RetryConfig) : RetryQueue → Prop
  | new : Clocked host config (.new config)
  | restored {home : String} {w w' : World ω} {q : RetryQueue}
    (h : restore host config home w = .ok q w') (timely : q.Timely) : Clocked host config q
  | request {q : RetryQueue} (before : Clocked host config q) (request : Request)
    (timely : request.Timely) (w : World ω) : Clocked host config (request.after host ⟨q, w⟩)

/-- Every sum that is made while every time lies below the horizon fits a word. -/
def SumsFit (config : RetryConfig) : Prop :=
  ∀ (ω : Type) (host : Host ω) (q : RetryQueue), Clocked host config q →
    ∀ (request : Request), request.Timely → ∀ (w : World ω),
      ∀ sum ∈ request.sums host ⟨q, w⟩, sum < UInt64.size

theorem Timely.put (timely : q.Timely) (h : r.Timely) : (q.put r).Timely := by
  intro id found there
  rw [get?_put] at there
  split at there
  next => exact Option.some.inj there ▸ h
  next => exact timely id found there

theorem Fails.timely (fails : Fails config error now r r') (h : r.Timely) (soon : now < horizon) :
    r'.Timely := by
  cases fails with
  | givenUp =>
    intro time since
    cases since
    exact soon
  | delayed => exact h

/-- The sums of a booking fit, if it comes before the horizon and there is room for one more count. -/
theorem Fails.fits (fails : Fails config error now r r') (moderate : config.Moderate)
    (soon : now < horizon) (h : r.Fits) (room : r.attemptCount + 1 < UInt32.size) : r'.Fits := by
  have sizes := horizon_add_horizon
  cases fails with
  | givenUp =>
    refine ⟨room, h.nextAttemptAt, h.delayMs, fun since marked => ?_, h.createdAt⟩
    obtain rfl := Option.some.inj marked
    omega
  | delayed left delay allowed =>
    have within : delay ≤ horizon := moderate.delay_le (Nat.le_add_left 1 _) left allowed
    have positive := horizon_pos
    refine ⟨room, ?_, ?_, h.inactiveSince, h.createdAt⟩
    · change now + delay < UInt64.size
      omega
    · change delay < UInt64.size
      omega

/-- No record of a timely queue expires at a time that is no word. -/
theorem Timely.expiriesFit (timely : q.Timely) (keeps : q.config.inactiveTtlMs.toNat ≤ horizon) :
    q.expiriesFit = true := by
  refine List.all_eq_true.mpr fun r there => ?_
  obtain ⟨id, found⟩ := Dict.mem_values_iff.mp there
  cases marked : r.inactiveSince with
  | none => rfl
  | some since =>
    have early := timely id r found since marked
    refine decide_eq_true ?_
    rw [expiry, ← horizon_add_horizon]
    omega

/-- A record is marked as given up only with the time of the request. -/
theorem Request.timely_after (timely : s.own.Timely) {request : Request} (h : request.Timely) :
    (request.after host s).Timely := by
  have yields := request.yields host s
  generalize request.after host s = q at yields
  cases yields with
  | still => exact timely
  | enrolled r => exact timely.put h
  | @taken id now r found =>
    have marked : r.Timely := timely id r found
    exact timely.put marked
  | @booked id error now r r' found fails =>
    exact timely.put (fails.timely (timely id r found) h)
  | dropped gone =>
    intro id r there
    rw [get?_drop] at there
    split at there
    next => cases there
    next => exact timely id r there
  | purged now =>
    intro id r there
    rw [get?_fresh, Option.filter_eq_some_iff] at there
    exact timely id r there.1

theorem Request.config_after (host : Host ω) (s : Held RetryQueue ω) (request : Request) :
    (request.after host s).config = s.own.config := by
  have yields := request.yields host s
  generalize request.after host s = q at yields
  cases yields <;> rfl

theorem Clocked.timely (run : Clocked host config q) : q.Timely := by
  induction run with
  | new => exact fun _ _ none => (nomatch none)
  | restored _ timely => exact timely
  | request _ request timely w ih => exact Request.timely_after (s := ⟨_, w⟩) ih timely

theorem Clocked.configured (run : Clocked host config q) : q.config = config := by
  induction run with
  | new => rfl
  | restored h => exact (restore_eq_ok h).1
  | request _ request _ w ih => exact (request.config_after host ⟨_, w⟩).trans ih

/-- However the random addition turns out, the delay is in its range. -/
theorem lt_of_mem_bookingSums (moderate : s.own.config.Moderate) (soon : now < horizon) {sum : Nat}
    (mem : sum ∈ bookingSums host s r error now) : sum < UInt64.size := by
  unfold bookingSums at mem
  split at mem
  next => cases mem
  next left =>
    obtain ⟨r', w, done, _, fails⟩ := failed_apply host r error now s
    rw [done] at mem
    cases fails with
    -- an attempt is left, so the record is not given up
    | givenUp spent => omega
    | delayed left delay allowed =>
      have within := moderate.delay_le (Nat.le_add_left 1 _) left allowed
      simp only [List.mem_cons, List.not_mem_nil, or_false] at mem
      rw [← horizon_add_horizon]
      omega

theorem lt_of_mem_sums (moderate : s.own.config.Moderate) (timely : s.own.Timely)
    {request : Request} (h : request.Timely) {sum : Nat} (mem : sum ∈ request.sums host s) :
    sum < UInt64.size := by
  cases request with
  | fail id error now =>
    rw [Request.sums] at mem
    cases found : s.own.get? id with
    | none =>
      rw [found] at mem
      cases mem
    | some r =>
      rw [found] at mem
      exact lt_of_mem_bookingSums moderate h mem
  | purge now =>
    obtain ⟨r, there, expires⟩ := List.mem_filterMap.mp mem
    obtain ⟨since, marked, rfl⟩ := Option.map_eq_some_iff.mp expires
    obtain ⟨id, found⟩ := Dict.mem_values_iff.mp there
    have early := timely id r found since marked
    have keeps := moderate.keeps
    rw [expiry, ← horizon_add_horizon]
    omega
  | enqueue r => cases mem
  | due now => cases mem
  | claim id now => cases mem
  | remove id => cases mem

section Exact

variable {delay : Nat} {w' : World ω}

/-- The largest random addition, on a host whose noise is just that. -/
theorem backoff_of_noise (host : Host ω) (config : RetryConfig) (attempt : Nat) (w : World ω)
    (noise : (host.noise w.host).1 = config.jitterBound (config.baseBackoff attempt)) :
    ∃ w', backoff host config attempt w =
      .ok (config.baseBackoff attempt + config.jitterBound (config.baseBackoff attempt)) w' := by
  cases bound : config.jitterBound (config.baseBackoff attempt) with
  | zero => exact ⟨w, by simp [backoff, bound, Act.pure_apply]⟩
  | succ n =>
    have drawn : World.below host (n + 1 + 1) w =
        .ok (n + 1) { w with host := (host.noise w.host).2 } := by
      have small : n + 1 < n + 1 + 1 := by omega
      rw [bound] at noise
      simp only [World.below, World.inHost, Act.zoom, noise, Nat.mod_eq_of_lt small]
    refine ⟨{ w with host := (host.noise w.host).2 }, ?_⟩
    simp only [backoff, bound, Nat.succ_ne_zero, if_false]
    exact Act.bind_of_ok drawn

/-- A record that is tried again waits for the delay that was drawn. -/
theorem bookingSums_of_backoff (left : r.attemptCount + 1 < s.own.config.maxAttempts.toNat)
    (drawn : backoff host s.own.config (r.attemptCount + 1) s.world = .ok delay w') :
    bookingSums host s r error now = [delay, now + delay] := by
  have left : ¬s.own.config.maxAttempts.toNat ≤ r.attemptCount + 1 := by omega
  simp [bookingSums, failed, Held.getOwn, Held.inWorld, Act.zoom, Act.get_apply, bind, EStateM.bind,
    pure, EStateM.pure, left, drawn]

end Exact

/-- A host whose noise is always the same. -/
def drawing (noise : Nat) : Host Stage := { Stage.smooth with noise := fun s => (noise, s) }

/-- A record with some failed attempts behind it, given up at a time or not. -/
def worn (attempts : Nat) (since : Option Nat) : RetryRecord :=
  { RetryRecord.new "1" Stage.friend (.text "hi") {} 0 with
    attemptCount := attempts, inactiveSince := since, inFlight := true }

def onlyWorn (config : RetryConfig) (attempts : Nat) (since : Option Nat) : RetryQueue :=
  (RetryQueue.new config).put (worn attempts since)

theorem clocked_onlyWorn (host : Host Stage) (config : RetryConfig) (attempts : Nat)
    (since : Option Nat) (early : ∀ time, since = some time → time < horizon) :
    Clocked host config (onlyWorn config attempts since) :=
  Clocked.new.request (.enqueue (worn attempts since)) early ⟨∅, Stage.opening⟩

theorem get?_onlyWorn (config : RetryConfig) (attempts : Nat) (since : Option Nat) :
    (onlyWorn config attempts since).get? "1" = some (worn attempts since) :=
  (get?_put _ _ _).trans (if_pos rfl)

/-- A record given up at the last time before the horizon is asked when it expires. -/
theorem inactiveTtl_le_of_sumsFit (fit : SumsFit config) :
    config.inactiveTtlMs.toNat ≤ horizon := by
  have run := clocked_onlyWorn Stage.smooth config 0 (some (horizon - 1))
    fun time same => Option.some.inj same ▸ last_lt_horizon
  have held := Dict.mem_values_iff.mpr ⟨"1", get?_onlyWorn config 0 (some (horizon - 1))⟩
  have small := fit Stage Stage.smooth _ run (.purge 0) horizon_pos ⟨∅, Stage.opening⟩
    (horizon - 1 + config.inactiveTtlMs.toNat) (List.mem_filterMap.mpr ⟨_, held, rfl⟩)
  rw [← horizon_add_horizon] at small
  omega

/-- A failure is booked at the last time before the horizon, with the largest random addition. -/
theorem delay_le_of_sumsFit (fit : SumsFit config) {attempt : Nat} (first : 1 ≤ attempt)
    (left : attempt < config.maxAttempts.toNat) :
    config.baseBackoff attempt + config.jitterBound (config.baseBackoff attempt) ≤ horizon := by
  obtain ⟨before, rfl⟩ := Nat.exists_eq_add_of_le' first
  let host := drawing (config.jitterBound (config.baseBackoff (before + 1)))
  let s : Held RetryQueue Stage := ⟨onlyWorn config before none, ⟨∅, Stage.opening⟩⟩
  have run := clocked_onlyWorn host config before none fun _ none => (nomatch none)
  obtain ⟨w', drawn⟩ := backoff_of_noise host config (before + 1) s.world rfl
  have sums : Request.sums host s (.fail "1" "reset" (horizon - 1)) =
      [config.baseBackoff (before + 1) + config.jitterBound (config.baseBackoff (before + 1)),
        horizon - 1 + (config.baseBackoff (before + 1) +
          config.jitterBound (config.baseBackoff (before + 1)))] := by
    rw [Request.sums, get?_onlyWorn]
    exact bookingSums_of_backoff left drawn
  have small := fit Stage host _ run (.fail "1" "reset" (horizon - 1)) last_lt_horizon s.world _
    (sums ▸ List.mem_cons_of_mem _ List.mem_cons_self)
  rw [← horizon_add_horizon] at small
  omega

theorem sumsFit_iff (config : RetryConfig) : SumsFit config ↔ config.Moderate := by
  constructor
  · intro fit
    exact ⟨inactiveTtl_le_of_sumsFit fit, fun attempt => delay_le_of_sumsFit fit⟩
  · intro moderate ω host q run request timely w sum mem
    rw [← run.configured] at moderate
    exact lt_of_mem_sums (s := ⟨q, w⟩) moderate run.timely timely mem

end RetryQueue

end Fanout
