import Mathlib.Data.List.Basic

/-! Keys that are taken and given back over a connection on which requests are answered in
their order. Each key goes through three phases; where no exchange is out of turn, every
request to take a key that is followed by another one was refused or its key given back
exactly once. -/

namespace FixProxy

/-- A request to take a key, a request to give it back, or the answer to a request. -/
inductive Exchange (κ : Type u) (ι : Type v) where
  | take (key : κ) (id : ι)
  | give (key : κ) (id : ι)
  | answer (id : ι) (granted : Bool)
  deriving DecidableEq

namespace Exchange

/-- Who has a key, as far as the exchanges tell. -/
inductive Phase (ι : Type v) where
  | free
  | asked (id : ι)
  | held
  deriving DecidableEq

variable {κ : Type u} {ι : Type v}

def id : Exchange κ ι → ι
  | take _ id | give _ id | answer id _ => id

def Takes (key : κ) : Exchange κ ι → Prop
  | take other _ => other = key
  | _ => False

def Gives (key : κ) : Exchange κ ι → Prop
  | give other _ => other = key
  | _ => False

def About (key : κ) : Exchange κ ι → Prop
  | take other _ | give other _ => other = key
  | answer _ _ => False

@[simp] theorem takes_take {key other : κ} {id : ι} : (take other id).Takes key ↔ other = key := Iff.rfl
@[simp] theorem takes_give {key other : κ} {id : ι} : ¬ (give other id).Takes key := False.elim
@[simp] theorem takes_answer {key : κ} {id : ι} {granted : Bool} : ¬ (answer id granted).Takes key := False.elim
@[simp] theorem gives_take {key other : κ} {id : ι} : ¬ (take other id).Gives key := False.elim
@[simp] theorem gives_give {key other : κ} {id : ι} : (give other id).Gives key ↔ other = key := Iff.rfl
@[simp] theorem gives_answer {key : κ} {id : ι} {granted : Bool} : ¬ (answer id granted).Gives key := False.elim

private theorem about_of_takes {key : κ} {request : Exchange κ ι} (takes : request.Takes key) : request.About key := by
  cases request with
  | take => exact takes
  | _ => exact takes.elim

section Queue
variable [DecidableEq ι]

/-- The requests that wait for their answers, oldest first. -/
def queue (talk : List (Exchange κ ι)) : List (Exchange κ ι) :=
  talk.foldl (fun waiting exchange =>
    match exchange with
    | answer id _ => waiting.filter fun request => request.id ≠ id
    | request => waiting ++ [request]) []

@[simp] theorem queue_take (talk : List (Exchange κ ι)) (other : κ) (id : ι) :
    queue (talk ++ [take other id]) = queue talk ++ [take other id] := by
  simp [queue]

@[simp] theorem queue_give (talk : List (Exchange κ ι)) (other : κ) (id : ι) :
    queue (talk ++ [give other id]) = queue talk ++ [give other id] := by
  simp [queue]

@[simp] theorem queue_answer (talk : List (Exchange κ ι)) (id : ι) (granted : Bool) :
    queue (talk ++ [answer id granted]) = (queue talk).filter fun request => request.id ≠ id := by
  simp [queue]

end Queue

variable [DecidableEq κ] [DecidableEq ι]

instance (key : κ) : DecidablePred (@Takes κ ι key) := fun exchange => by
  unfold Takes
  split <;> infer_instance

instance (key : κ) : DecidablePred (@Gives κ ι key) := fun exchange => by
  unfold Gives
  split <;> infer_instance

instance (key : κ) : DecidablePred (@About κ ι key) := fun exchange => by
  unfold About
  split <;> infer_instance

/-- Between a request to take the key and the next one, the first is refused or the key is
given back exactly once. -/
def Paired (key : κ) (talk : List (Exchange κ ι)) : Prop :=
  ∀ earlier id between next later, talk = earlier ++ take key id :: (between ++ take key next :: later) →
    (∀ exchange ∈ between, ¬ exchange.Takes key) →
    answer id false ∈ between ∨ between.countP (fun exchange => exchange.Gives key) = 1

/-- What an answer makes of a phase. -/
def Phase.settled (id : ι) (granted : Bool) (phase : Phase ι) : Phase ι :=
  if phase = .asked id then if granted then .held else .free else phase

/-- The phase after one more exchange, unless that is out of turn. -/
def next (key : κ) (phase : Phase ι) : Exchange κ ι → Option (Phase ι)
  | take other id => if other = key then if phase = .free then some (.asked id) else none else some phase
  | give other _ => if other = key then if phase = .held then some .free else none else some phase
  | answer id granted => some (phase.settled id granted)

def phase (key : κ) (talk : List (Exchange κ ι)) : Option (Phase ι) := talk.foldlM (next key) .free

theorem phase_snoc (key : κ) (talk : List (Exchange κ ι)) (exchange : Exchange κ ι) :
    phase key (talk ++ [exchange]) = (phase key talk).bind fun phase => next key phase exchange := by
  simp [phase, List.foldlM_append]

section Paired
variable {key : κ} {between : List (Exchange κ ι)}

private theorem count_of_free (silent : ∀ exchange ∈ between, ¬ exchange.Takes key)
    (free : between.foldlM (next key) .free = some .free) :
    between.countP (fun exchange => exchange.Gives key) = 0 := by
  induction between with
  | nil => rfl
  | cons exchange rest ih =>
    have mute := fun other member => silent other (List.mem_cons_of_mem _ member)
    rw [List.foldlM_cons] at free
    cases exchange with
    | take other id =>
      have different : other ≠ key := silent _ (List.mem_cons_self ..)
      simp only [next, different, if_false] at free
      simpa [List.countP_cons] using ih mute free
    | give other id =>
      by_cases same : other = key
      · simp [next, same] at free
      · simp only [next, same, if_false] at free
        simpa [List.countP_cons, same] using ih mute free
    | answer id granted => simpa [List.countP_cons] using ih mute free

private theorem count_of_held (silent : ∀ exchange ∈ between, ¬ exchange.Takes key)
    (free : between.foldlM (next key) .held = some .free) :
    between.countP (fun exchange => exchange.Gives key) = 1 := by
  induction between with
  | nil => cases free
  | cons exchange rest ih =>
    have mute := fun other member => silent other (List.mem_cons_of_mem _ member)
    rw [List.foldlM_cons] at free
    cases exchange with
    | take other id =>
      have different : other ≠ key := silent _ (List.mem_cons_self ..)
      simp only [next, different, if_false] at free
      simpa [List.countP_cons] using ih mute free
    | give other id =>
      by_cases same : other = key
      · simp only [next, same, if_true] at free
        simpa [List.countP_cons, same] using count_of_free mute free
      · simp only [next, same, if_false] at free
        simpa [List.countP_cons, same] using ih mute free
    | answer id granted => simpa [List.countP_cons] using ih mute free

private theorem refused_or_count_of_asked {id : ι} (silent : ∀ exchange ∈ between, ¬ exchange.Takes key)
    (free : between.foldlM (next key) (.asked id) = some .free) :
    answer id false ∈ between ∨ between.countP (fun exchange => exchange.Gives key) = 1 := by
  induction between with
  | nil => cases free
  | cons exchange rest ih =>
    have mute := fun other member => silent other (List.mem_cons_of_mem _ member)
    rw [List.foldlM_cons] at free
    cases exchange with
    | take other id =>
      have different : other ≠ key := silent _ (List.mem_cons_self ..)
      simp only [next, different, if_false] at free
      exact (ih mute free).imp (List.mem_cons_of_mem _) fun count => by simpa [List.countP_cons] using count
    | give other id =>
      by_cases same : other = key
      · simp [next, same] at free
      · simp only [next, same, if_false] at free
        exact (ih mute free).imp (List.mem_cons_of_mem _) fun count => by
          simpa [List.countP_cons, same] using count
    | answer other granted =>
      by_cases same : other = id
      · subst other
        cases granted with
        | true =>
          have held : next key (.asked id) (answer id true : Exchange κ ι) = some .held := by simp [next, Phase.settled]
          rw [held] at free
          exact Or.inr (by simpa [List.countP_cons] using count_of_held mute free)
        | false => exact Or.inl (List.mem_cons_self ..)
      · have kept : next key (.asked id) (answer other granted : Exchange κ ι) = some (.asked id) := by
          simp [next, Phase.settled, Ne.symm same]
        rw [kept] at free
        exact (ih mute free).imp (List.mem_cons_of_mem _) fun count => by simpa [List.countP_cons] using count

/-- Where nothing is out of turn, what is taken is refused or given back once. -/
theorem paired_of_phase {talk : List (Exchange κ ι)} (orderly : phase key talk ≠ none) : Paired key talk := by
  rintro earlier id between following later rfl silent
  have taken (phase : Phase ι) (other : ι) (defined : next key phase (take key other : Exchange κ ι) ≠ none) :
      phase = .free := by
    by_contra busy
    simp [next, busy] at defined
  unfold phase at orderly
  rw [List.foldlM_append] at orderly
  cases first : earlier.foldlM (next key) .free with
  | none => simp [first] at orderly
  | some start =>
    simp only [first, Option.bind_eq_bind, Option.bind_some, List.foldlM_cons] at orderly
    cases second : next key start (take key id : Exchange κ ι) with
    | none => simp [second] at orderly
    | some asked =>
      obtain rfl := taken start id (by simp [second])
      obtain rfl : .asked id = asked := by simpa [next] using second
      simp only [second, Option.bind_some, List.foldlM_append] at orderly
      cases third : between.foldlM (next key) (.asked id) with
      | none => simp [third] at orderly
      | some last =>
        obtain rfl := taken last following (fun wrong => orderly (by simp [third, wrong]))
        exact refused_or_count_of_asked silent third

end Paired
section Standing
variable {key : κ} {talk : List (Exchange κ ι)} {phase : Phase ι}

/-- What waits for an answer in each phase of a key: while it is asked for, that request and
before it only the giving back of the key; while it is held, nothing about it. -/
def Phase.Clear (key : κ) (waiting : List (Exchange κ ι)) : Phase ι → Prop
  | .free => ∀ request ∈ waiting, ¬ request.Takes key
  | .asked id => ∃ earlier, waiting.filter (fun request => request.About key) = earlier ++ [take key id] ∧
      ∀ request ∈ earlier, ¬ request.Takes key
  | .held => ∀ request ∈ waiting, ¬ request.About key

structure Standing (key : κ) (talk : List (Exchange κ ι)) (phase : Phase ι) : Prop where
  reached : Exchange.phase key talk = some phase
  clear : phase.Clear key (queue talk)

theorem standing_nil (key : κ) : Standing key ([] : List (Exchange κ ι)) .free :=
  ⟨rfl, fun _ member => absurd member List.not_mem_nil⟩

/-- Who asks for a key in the queue is the one the phase names. -/
theorem Standing.takes (standing : Standing key talk phase) {request : Exchange κ ι} (waiting : request ∈ queue talk)
    (takes : request.Takes key) : phase = .asked request.id := by
  have clear := standing.clear
  cases phase with
  | free => exact absurd takes (clear request waiting)
  | held => exact absurd (about_of_takes takes) (clear request waiting)
  | asked id =>
    obtain ⟨earlier, about, gives⟩ := clear
    have member : request ∈ (queue talk).filter fun request => request.About key :=
      List.mem_filter.mpr ⟨waiting, decide_eq_true (about_of_takes takes)⟩
    rw [about] at member
    rcases List.mem_append.mp member with early | last
    · exact absurd takes (gives request early)
    · rw [List.mem_singleton.mp last]
      rfl

theorem Standing.asking {id : ι} (standing : Standing key talk (.asked id)) : take key id ∈ queue talk := by
  obtain ⟨earlier, about, -⟩ := standing.clear
  refine List.mem_of_mem_filter (p := fun request => request.About key) ?_
  rw [about]
  exact List.mem_append_right _ (List.mem_singleton.mpr rfl)

theorem standing_take (standing : Standing key talk .free) (id : ι) : Standing key (talk ++ [take key id]) (.asked id) := by
  refine ⟨by simp [phase_snoc, standing.reached, next], (queue talk).filter fun request => request.About key, ?_, ?_⟩
  · simp [List.filter_append, About]
  · exact fun request member => standing.clear request (List.mem_of_mem_filter member)

theorem standing_give (standing : Standing key talk .held) (id : ι) : Standing key (talk ++ [give key id]) .free := by
  refine ⟨by simp [phase_snoc, standing.reached, next], fun request member takes => ?_⟩
  rw [queue_give] at member
  rcases List.mem_append.mp member with waiting | last
  · exact standing.clear request waiting (about_of_takes takes)
  · rw [List.mem_singleton.mp last] at takes
    exact takes

omit [DecidableEq ι] in
theorem Phase.Clear.append {waiting : List (Exchange κ ι)} (clear : phase.Clear key waiting) {request : Exchange κ ι}
    (apart : ¬ request.About key) : phase.Clear key (waiting ++ [request]) := by
  have both {property : Exchange κ ι → Prop} (all : ∀ request ∈ waiting, property request) (last : property request) :
      ∀ other ∈ waiting ++ [request], property other := by
    intro other member
    rcases List.mem_append.mp member with old | new
    · exact all other old
    · exact List.mem_singleton.mp new ▸ last
  cases phase with
  | free => exact both clear fun takes => apart (about_of_takes takes)
  | held => exact both clear apart
  | asked id =>
    obtain ⟨earlier, about, gives⟩ := clear
    exact ⟨earlier, by simpa [List.filter_append, apart] using about, gives⟩

theorem standing_apart (standing : Standing key talk phase) {other : κ} (different : other ≠ key) (id : ι) :
    Standing key (talk ++ [take other id]) phase ∧ Standing key (talk ++ [give other id]) phase := by
  refine ⟨⟨?_, ?_⟩, ?_, ?_⟩
  · simp [phase_snoc, standing.reached, next, different]
  · exact queue_take talk other id ▸ standing.clear.append different
  · simp [phase_snoc, standing.reached, next, different]
  · exact queue_give talk other id ▸ standing.clear.append different

theorem standing_answer (standing : Standing key talk phase) {request : Exchange κ ι} {rest : List (Exchange κ ι)}
    (oldest : queue talk = request :: rest) (distinct : ∀ other ∈ rest, other.id ≠ request.id) (granted : Bool) :
    Standing key (talk ++ [answer request.id granted]) (phase.settled request.id granted) := by
  have settled : queue (talk ++ [answer request.id granted]) = rest := by
    rw [queue_answer, oldest, List.filter_cons_of_neg (by simp), List.filter_eq_self]
    exact fun other member => decide_eq_true (distinct other member)
  refine ⟨by simp [phase_snoc, standing.reached, next], ?_⟩
  rw [settled]
  have clear := standing.clear
  rw [oldest] at clear
  cases phase with
  | free => exact fun other member => clear other (List.mem_cons_of_mem _ member)
  | held => exact fun other member => clear other (List.mem_cons_of_mem _ member)
  | asked id =>
    obtain ⟨earlier, about, gives⟩ := clear
    by_cases same : id = request.id
    · -- the request to take the key was the oldest, and it was the last one about it
      subst id
      have asking : take key request.id ∈ request :: rest := oldest ▸ standing.asking
      have first : request = take key request.id := by
        rcases List.mem_cons.mp asking with here | later
        · exact here.symm
        · exact absurd rfl (distinct (take key request.id) later)
      have mine : request.About key := by
        rw [first]
        exact rfl
      rw [List.filter_cons_of_pos (by simpa using mine)] at about
      have silent : ∀ other ∈ rest, ¬ other.About key := by
        cases earlier with
        | nil =>
          have none := (List.cons.inj about).2
          exact fun other member => by simpa using List.filter_eq_nil_iff.mp none other member
        | cons other earlier =>
          have taken := gives other (List.mem_cons_self ..)
          rw [← (List.cons.inj about).1, first] at taken
          exact absurd rfl taken
      cases granted with
      | true =>
        simp only [Phase.settled, if_true]
        exact silent
      | false =>
        simp only [Phase.settled, if_true, Bool.false_eq_true, if_false]
        exact fun other member takes => silent other member (about_of_takes takes)
    · have kept : (Phase.asked id).settled request.id granted = .asked id := by simp [Phase.settled, same]
      rw [kept]
      by_cases mine : request.About key
      · rw [List.filter_cons_of_pos (by simpa using mine)] at about
        cases earlier with
        | nil =>
          have last := (List.cons.inj about).1
          exact absurd (congrArg Exchange.id last).symm same
        | cons other earlier =>
          exact ⟨earlier, (List.cons.inj about).2, fun other member => gives other (List.mem_cons_of_mem _ member)⟩
      · rw [List.filter_cons_of_neg (by simpa using mine)] at about
        exact ⟨earlier, about, gives⟩

end Standing
end Exchange
end FixProxy
