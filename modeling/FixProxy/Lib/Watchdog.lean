import FixProxy.Lib.Run
import Mathlib.Order.Lattice

/-! A watchdog inside any transition relation. It probes at the first tick past its
deadline; at the next such tick it gives alarm, unless there was a reply in between.
Its deadline and its flag are told apart by the past of the run alone. -/

namespace FixProxy

/-- What a watchdog takes notice of. -/
inductive Signal (τ : Type w) where
  | tick (now : τ)
  | reply
  | idle

def Signal.time : Signal τ → Option τ
  | .tick now => some now
  | .reply | .idle => none

theorem Signal.time_eq_some {signal : Signal τ} {now : τ} : signal.time = some now ↔ signal = .tick now := by
  cases signal <;> simp [time]

structure Watchdog (τ : Type w) where
  deadline : τ
  waiting : Bool

namespace Watchdog
section
variable {τ : Type w} [LinearOrder τ]

def heed (renew : τ → τ) (dog : Watchdog τ) : Signal τ → Watchdog τ
  | .tick now => if dog.deadline < now then ⟨renew now, true⟩ else dog
  | .reply => { dog with waiting := false }
  | .idle => dog

def Probes (dog : Watchdog τ) (now : τ) : Prop := dog.deadline < now ∧ dog.waiting = false

def Alarms (dog : Watchdog τ) (now : τ) : Prop := dog.deadline < now ∧ dog.waiting = true

theorem heed_probes {renew : τ → τ} {dog : Watchdog τ} {now : τ} (probes : dog.Probes now) :
    dog.heed renew (.tick now) = ⟨renew now, true⟩ := if_pos probes.1

end

variable {σ : Type u} {ε : Type v} {τ : Type w} [LinearOrder τ] {step : σ → ε → σ → Prop} {renew : τ → τ}
  {signal : ε → Signal τ} {watchdog : σ → Option (Watchdog τ)} {ended : σ → Prop} {first before after last : σ}
  {event : ε} {events between : List ε} {dog : Watchdog τ} {start : τ}

/-- The watchdog of a system: it is set up once, follows its signals, and after an alarm it is gone for good. -/
structure Guards (step : σ → ε → σ → Prop) (renew : τ → τ) (signal : ε → Signal τ)
    (watchdog : σ → Option (Watchdog τ)) (ended : σ → Prop) : Prop where
  starts : ∀ {before event after dog}, step before event after → watchdog before = none → watchdog after = some dog →
    dog.waiting = false
  follows : ∀ {before event after dog next}, step before event after → watchdog before = some dog →
    watchdog after = some next → next = dog.heed renew (signal event)
  alarmed : ∀ {before event after dog now}, step before event after → watchdog before = some dog →
    signal event = .tick now → dog.Alarms now → watchdog after = none
  ends : ∀ {before event after dog}, step before event after → watchdog before = some dog → watchdog after = none →
    ended after
  remains : ∀ {before event after}, step before event after → ended before → ended after
  gone : ∀ {state}, ended state → watchdog state = none

/-- A probe in the past of a run, without a reply since. -/
def Unanswered (step : σ → ε → σ → Prop) (signal : ε → Signal τ) (watchdog : σ → Option (Watchdog τ)) (first : σ)
    (events : List ε) (last : σ) (start : τ) (between : List ε) : Prop :=
  ∃ earlier event before after dog, events = earlier ++ event :: between ∧ Run step first earlier before ∧
    step before event after ∧ Run step after between last ∧ signal event = .tick start ∧
    watchdog before = some dog ∧ dog.Probes start ∧ ∀ later ∈ between, signal later ≠ .reply

theorem Unanswered.snoc (unanswered : Unanswered step signal watchdog first events before start between)
    (performed : step before event after) (silent : signal event ≠ .reply) :
    Unanswered step signal watchdog first (events ++ [event]) after start (between ++ [event]) := by
  obtain ⟨earlier, probe, old, new, dog, rfl, head, probed, rest, tick, held, probes, silence⟩ := unanswered
  refine ⟨earlier, probe, old, new, dog, by simp, head, probed, rest.snoc performed, tick, held, probes, ?_⟩
  intro later member
  rcases List.mem_append.mp member with old | new
  · exact silence later old
  · exact List.mem_singleton.mp new ▸ silent

/-- What a watchdog that waits goes back to: its last probe, which set its deadline. -/
theorem Guards.unanswered (guards : Guards step renew signal watchdog ended) (run : Run step first events last)
    (fresh : watchdog first = none) (held : watchdog last = some dog) (waiting : dog.waiting = true) :
    ∃ start between, Unanswered step signal watchdog first events last start between ∧ dog.deadline = renew start ∧
      ∀ event ∈ between, ∀ now, signal event = .tick now → now ≤ renew start := by
  revert dog
  refine run.history (fun events last => ∀ {dog}, watchdog last = some dog → dog.waiting = true → ∃ start between,
    Unanswered step signal watchdog first events last start between ∧ dog.deadline = renew start ∧
      ∀ event ∈ between, ∀ now, signal event = .tick now → now ≤ renew start) ?_ ?_
  · intro dog held
    rw [fresh] at held
    cases held
  · intro events event middle last past performed ih dog held waiting
    cases earlier : watchdog middle with
    | none =>
      rw [guards.starts performed earlier held] at waiting
      cases waiting
    | some old =>
      have next := guards.follows performed earlier held
      -- the deadline is an old one: the probe is the one that the history so far goes back to
      have kept (same : dog = old) (silent : signal event ≠ .reply)
          (early : ∀ now, signal event = .tick now → now ≤ old.deadline) : ∃ start between,
          Unanswered step signal watchdog first (events ++ [event]) last start between ∧ dog.deadline = renew start ∧
            ∀ event ∈ between, ∀ now, signal event = .tick now → now ≤ renew start := by
        subst same
        obtain ⟨start, between, unanswered, deadline, ticks⟩ := ih earlier waiting
        refine ⟨start, between ++ [event], unanswered.snoc performed silent, deadline, fun later member now tick => ?_⟩
        rcases List.mem_append.mp member with before | final
        · exact ticks later before now tick
        · exact deadline ▸ early now (List.mem_singleton.mp final ▸ tick)
      cases heard : signal event with
      | reply =>
        rw [next, heard] at waiting
        cases waiting
      | idle => exact kept (by rw [next, heard]; rfl) (by simp [heard]) (by simp [heard])
      | tick now =>
        by_cases due : old.deadline < now
        · cases flag : old.waiting with
          | true =>
            rw [guards.alarmed performed earlier heard ⟨due, flag⟩] at held
            cases held
          | false =>
            rw [heard, heed_probes ⟨due, flag⟩] at next
            refine ⟨now, [], ⟨events, event, middle, last, old, rfl, past, performed, .nil _, heard, earlier, ⟨due, flag⟩,
              by simp⟩, next ▸ rfl, by simp⟩
        · refine kept (by rw [next, heard]; exact if_neg due) (by simp [heard]) fun time tick => ?_
          rw [heard] at tick
          cases tick
          exact not_lt.mp due

/-- A watchdog that was set off, and has had no reply, waits as it did. -/
theorem Guards.waits (guards : Guards step renew signal watchdog ended)
    (unanswered : Unanswered step signal watchdog first events last start between) (held : watchdog last = some dog) :
    dog = ⟨renew start, true⟩ := by
  obtain ⟨earlier, probe, before, after, old, rfl, head, probed, rest, tick, was, probes, silence⟩ := unanswered
  have reached : watchdog last = some ⟨renew start, true⟩ ∨ ended last := by
    refine rest.preserves_of (fun state => watchdog state = some ⟨renew start, true⟩ ∨ ended state) ?_ silence ?_
    · rintro before event after silent performed (waits | ended)
      · cases next : watchdog after with
        | none => exact Or.inr (guards.ends performed waits next)
        | some following =>
          left
          have same := guards.follows performed waits next
          cases heard : signal event with
          | reply => exact absurd heard silent
          | idle => rw [same, heard, heed]
          | tick now =>
            by_cases due : renew start < now
            · rw [guards.alarmed performed waits heard ⟨due, rfl⟩] at next
              cases next
            · rw [same, heard, heed, if_neg due]
      · exact Or.inr (guards.remains performed ended)
    · cases next : watchdog after with
      | none => exact Or.inr (guards.ends probed was next)
      | some following => exact Or.inl (by rw [guards.follows probed was next, tick, heed_probes probes])
  rcases reached with waits | ended
  · rw [held] at waits
    exact Option.some.inj waits
  · rw [guards.gone ended] at held
    cases held

/-- When a watchdog gives alarm, told by the past of the run: at a tick past the deadline of a
probe that had no reply since, and no tick in between was past that deadline. -/
theorem Guards.alarms_iff (guards : Guards step renew signal watchdog ended) (run : Run step first events last)
    (fresh : watchdog first = none) (later : ∀ time, time ≤ renew time)
    (forward : (events.filterMap fun event => (signal event).time).Pairwise (· ≤ ·)) (held : watchdog last = some dog)
    (now : τ) : dog.Alarms now ↔ ∃ start between, Unanswered step signal watchdog first events last start between ∧ renew start < now ∧
      ∀ event ∈ events, ∀ time, signal event = .tick time → ¬ (renew start < time ∧ time < now) := by
  constructor
  · rintro ⟨due, waiting⟩
    obtain ⟨start, between, unanswered, deadline, ticks⟩ := guards.unanswered run fresh held waiting
    refine ⟨start, between, unanswered, deadline ▸ due, fun event member time tick => ?_⟩
    rintro ⟨past, -⟩
    obtain ⟨earlier, probe, -, -, -, rfl, -, -, -, probed, -⟩ := unanswered
    refine absurd past (not_lt.mpr ?_)
    rw [List.filterMap_append, List.pairwise_append] at forward
    rcases List.mem_append.mp member with before | after
    · refine le_trans (forward.2.2 time ?_ start ?_) (later start)
      · exact List.mem_filterMap.mpr ⟨event, before, Signal.time_eq_some.mpr tick⟩
      · exact List.mem_filterMap.mpr ⟨probe, List.mem_cons_self, Signal.time_eq_some.mpr probed⟩
    · rcases List.mem_cons.mp after with rfl | after
      · rw [probed] at tick
        cases tick
        exact later start
      · exact ticks event after time tick
  · rintro ⟨start, between, unanswered, due, -⟩
    rw [guards.waits unanswered held]
    exact ⟨due, rfl⟩

end Watchdog
end FixProxy
