import Mathlib.Logic.Basic
import Mathlib.Order.Defs.Unbundled

/-! How a call ends, and what its caller makes of that. -/

namespace FixProxy

/-- How a call ends: it returns, it throws (keeping the writes made so far), or the
process is gone. -/
inductive Outcome (σ : Type u) where
  | done (state : σ)
  | thrown (what : String) (state : σ)
  | fatal (what : String)

namespace Outcome
variable {σ : Type u} {τ : Type v} {ι : Type w}

def andThen (outcome : Outcome σ) (next : σ → Outcome σ) : Outcome σ :=
  match outcome with
  | .done state => next state
  | .thrown what state => .thrown what state
  | .fatal what => .fatal what

def recover (outcome : Outcome σ) (handler : String → σ → Outcome σ) : Outcome σ :=
  match outcome with
  | .done state => .done state
  | .thrown what state => handler what state
  | .fatal what => .fatal what

/-- A `for` loop: the first iteration that does not return ends it. -/
def forEach (items : List ι) (body : ι → σ → Outcome σ) (state : σ) : Outcome σ :=
  match items with
  | [] => .done state
  | item :: rest => (body item state).andThen (forEach rest body)

def map (f : σ → τ) (outcome : Outcome σ) : Outcome τ :=
  match outcome with
  | .done state => .done (f state)
  | .thrown what state => .thrown what (f state)
  | .fatal what => .fatal what

/-- The state of a call that returns. -/
def returned : Outcome σ → Option σ
  | .done state => some state
  | _ => none

def isFatal : Outcome σ → Bool
  | .fatal _ => true
  | _ => false

theorem isFatal_iff {outcome : Outcome σ} : outcome.isFatal = true ↔ ∃ what, outcome = .fatal what := by
  cases outcome <;> simp [isFatal]

@[simp] theorem andThen_done (state : σ) (next : σ → Outcome σ) : (done state).andThen next = next state := rfl

@[simp] theorem recover_done (state : σ) (handler : String → σ → Outcome σ) :
    (done state).recover handler = .done state := rfl

@[simp] theorem andThen_eq_done {outcome : Outcome σ} {next : σ → Outcome σ} {last : σ} :
    outcome.andThen next = .done last ↔ ∃ middle, outcome = .done middle ∧ next middle = .done last := by
  cases outcome <;> simp [andThen]

@[simp] theorem returned_eq_some {outcome : Outcome σ} {last : σ} :
    outcome.returned = some last ↔ outcome = .done last := by
  cases outcome <;> simp [returned]

@[simp] theorem map_done (f : σ → τ) (state : σ) : (done state).map f = done (f state) := rfl

theorem andThen_assoc (outcome : Outcome σ) (next later : σ → Outcome σ) :
    (outcome.andThen next).andThen later = outcome.andThen fun state => (next state).andThen later := by
  cases outcome <;> rfl

theorem forEach_append (items later : List ι) (body : ι → σ → Outcome σ) (state : σ) :
    forEach (items ++ later) body state = (forEach items body state).andThen (forEach later body) := by
  induction items generalizing state with
  | nil => rfl
  | cons item items ih =>
    simp only [List.cons_append, forEach, andThen_assoc]
    congr 1
    funext state
    exact ih state

theorem forEach_idle {items : List ι} {body : ι → σ → Outcome σ} {state : σ}
    (idle : ∀ item ∈ items, body item state = .done state) : forEach items body state = .done state := by
  induction items with
  | nil => rfl
  | cons item items ih =>
    rw [forEach, idle item (List.mem_cons_self ..), andThen_done]
    exact ih fun other member => idle other (List.mem_cons_of_mem _ member)

/-- However a call ends, this holds of the state it leaves. -/
def Every (holds : σ → Prop) : Outcome σ → Prop
  | .done state => holds state
  | .thrown _ state => holds state
  | .fatal _ => True

/-- A call that relates the state it begins with to the state it leaves. -/
def Keeping (R : σ → σ → Prop) (call : σ → Outcome σ) : Prop := ∀ state, (call state).Every (R state)

theorem Every.mono {holds other : σ → Prop} {outcome : Outcome σ} (weaker : ∀ state, holds state → other state)
    (every : outcome.Every holds) : outcome.Every other := by
  cases outcome with
  | done state => exact weaker state every
  | thrown what state => exact weaker state every
  | fatal what => trivial

theorem Every.recover_of {holds : σ → Prop} {outcome : Outcome σ} {handler : String → σ → Outcome σ}
    (every : outcome.Every holds) (handles : ∀ what state, holds state → (handler what state).Every holds) :
    (outcome.recover handler).Every holds := by
  cases outcome with
  | done state => exact every
  | thrown what state => exact handles what state every
  | fatal what => trivial

section
variable {R : σ → σ → Prop} [IsTrans σ R] {first middle : σ} {outcome : Outcome σ}

theorem Every.before (head : R first middle) (every : outcome.Every (R middle)) : outcome.Every (R first) := by
  cases outcome with
  | done after => exact IsTrans.trans _ _ _ head every
  | thrown what after => exact IsTrans.trans _ _ _ head every
  | fatal what => trivial

theorem Every.andThen {next : σ → Outcome σ} (every : outcome.Every (R first))
    (continues : ∀ after, (next after).Every (R after)) : (outcome.andThen next).Every (R first) := by
  cases outcome with
  | done after => exact .before every (continues after)
  | thrown what after => exact every
  | fatal what => trivial

theorem Every.recover {handler : String → σ → Outcome σ} (every : outcome.Every (R first))
    (handles : ∀ what, Keeping R (handler what)) : (outcome.recover handler).Every (R first) :=
  every.recover_of fun what after kept => .before kept (handles what after)

theorem Keeping.forEach {items : List ι} {body : ι → σ → Outcome σ} (refl : ∀ state, R state state)
    (kept : ∀ item, Keeping R (body item)) : Keeping R (Outcome.forEach items body) := by
  intro state
  induction items generalizing state with
  | nil => exact refl state
  | cons item rest ih => exact (kept item state).andThen ih

end

end Outcome
end FixProxy
