import FixProxy.Lib.Outcome

/-! Messages in a stream that arrives in pieces. A loop takes the complete messages off
the front of what has arrived and keeps the rest for the next piece; what is handled does
not depend on where the stream was cut. -/

namespace FixProxy
variable {β : Type u} {μ : Type v} {σ : Type w}

/-- Which strings are complete messages, and what they say. -/
structure Format (β : Type u) (μ : Type v) where
  decode : List β → Option μ
  nonempty : decode [] = none
  prefixFree : ∀ {bytes more message other}, decode bytes = some message → decode (bytes ++ more) = some other → more = []

namespace Format
variable {format : Format β μ} {bytes stream more rest rest' : List β} {message : μ} {messages messages' : List μ}

/-- A buffer that does not begin with a complete message. -/
def Incomplete (format : Format β μ) (buffer : List β) : Prop :=
  ∀ bytes rest, buffer = bytes ++ rest → format.decode bytes = none

/-- The messages of a stream, and what is left after the last. -/
inductive Splits (format : Format β μ) : List β → List μ → List β → Prop where
  | rest {buffer : List β} (incomplete : format.Incomplete buffer) : Splits format buffer [] buffer
  | message {bytes stream rest : List β} {message : μ} {messages : List μ} (complete : format.decode bytes = some message)
      (splits : Splits format stream messages rest) : Splits format (bytes ++ stream) (message :: messages) rest

/-- A reader passes on the first message of a buffer and returns its length. On a buffer
that does not begin with a complete message it calls nothing and returns 0. -/
structure Reads (format : Format β μ) (dispatch : List β → Option μ × Nat) : Prop where
  nothing : ∀ {buffer}, format.Incomplete buffer → dispatch buffer = (none, 0)
  first : ∀ {bytes message} (rest), format.decode bytes = some message → dispatch (bytes ++ rest) = (some message, bytes.length)

theorem ne_nil_of_decode (complete : format.decode bytes = some message) : bytes ≠ [] := by
  rintro rfl
  rw [format.nonempty] at complete
  cases complete

theorem incomplete_nil (format : Format β μ) : format.Incomplete [] := by
  intro bytes rest same
  rw [(List.append_eq_nil_iff.mp same.symm).1, format.nonempty]

/-- A buffer begins with at most one complete message. -/
theorem first_unique {bytes' stream' : List β} {message' : μ} (same : bytes ++ stream = bytes' ++ stream')
    (complete : format.decode bytes = some message) (complete' : format.decode bytes' = some message') :
    bytes = bytes' ∧ message = message' ∧ stream = stream' := by
  obtain rfl : bytes = bytes' := by
    obtain ⟨more, rfl, -⟩ | ⟨more, rfl, -⟩ := List.append_eq_append_iff.mp same
    · rw [format.prefixFree complete complete', List.append_nil]
    · rw [format.prefixFree complete' complete, List.append_nil]
  exact ⟨rfl, Option.some.inj (complete.symm.trans complete'), List.append_cancel_left same⟩

theorem Splits.exists (format : Format β μ) (stream : List β) : ∃ messages rest, format.Splits stream messages rest := by
  classical
  by_cases incomplete : format.Incomplete stream
  · exact ⟨[], stream, .rest incomplete⟩
  · simp only [Incomplete, not_forall] at incomplete
    obtain ⟨bytes, stream, rfl, complete⟩ := incomplete
    obtain ⟨message, complete⟩ := Option.ne_none_iff_exists'.mp complete
    have shorter : stream.length < (bytes ++ stream).length := by
      have := List.length_pos_iff.mpr (ne_nil_of_decode complete)
      rw [List.length_append]
      omega
    obtain ⟨messages, rest, splits⟩ := Splits.exists format stream
    exact ⟨message :: messages, rest, .message complete splits⟩
termination_by stream.length

theorem Splits.unique (splits : format.Splits stream messages rest) (splits' : format.Splits stream messages' rest') :
    messages = messages' ∧ rest = rest' := by
  induction splits generalizing messages' rest' with
  | rest incomplete =>
    cases splits' with
    | rest => exact ⟨rfl, rfl⟩
    | message complete =>
      rw [incomplete _ _ rfl] at complete
      cases complete
  | @message bytes stream rest message messages complete splits ih =>
    generalize whole : bytes ++ stream = buffer at splits'
    cases splits' with
    | rest incomplete =>
      rw [incomplete bytes stream whole.symm] at complete
      cases complete
    | message complete' splits' =>
      obtain ⟨rfl, rfl, rfl⟩ := first_unique whole complete complete'
      obtain ⟨rfl, rfl⟩ := ih splits'
      exact ⟨rfl, rfl⟩

theorem Splits.incomplete (splits : format.Splits stream messages rest) : format.Incomplete rest := by
  induction splits with
  | rest incomplete => exact incomplete
  | message _ _ ih => exact ih

theorem Splits.append (splits : format.Splits stream messages rest) (later : format.Splits (rest ++ more) messages' rest') :
    format.Splits (stream ++ more) (messages ++ messages') rest' := by
  induction splits with
  | rest => exact later
  | message complete _ ih =>
    rw [List.append_assoc, List.cons_append]
    exact .message complete (ih later)

end Format

/-- What a connection keeps from one read to the next. -/
structure Inbound (β : Type u) (σ : Type w) where
  buffer : List β
  state : σ

namespace Reader

section Loop
variable (dispatch : List β → Option μ × Nat) (parser : μ → σ → Outcome σ) (ended : σ → Bool)
  (handler : String → σ → Outcome σ)

/-- The loop of a read. Of the buffer, `total` was taken and `span` is left; at the end the
buffer is drained by what was taken. An exception of the parser leaves the loop without that. -/
def loop (buffer : List β) (total : Nat) (span : List β) (state : σ) : Outcome (Inbound β σ) :=
  if span = [] then .done ⟨buffer.drop total, state⟩ else
  match (dispatch span).1.elim (.done state) fun message => parser message state with
  | .thrown what state => .thrown what ⟨buffer, state⟩
  | .fatal what => .fatal what
  | .done state =>
    let bytes := (dispatch span).2
    if bytes = 0 then .done ⟨buffer.drop total, state⟩
    else if ended state then .done ⟨buffer.drop (total + bytes), state⟩
    else loop buffer (total + bytes) (span.drop bytes) state
termination_by span.length
decreasing_by
  have := List.length_pos_iff.mpr ‹_›
  rw [List.length_drop]
  omega

/-- The exceptions of a loop go to a handler. -/
def guarded (outcome : Outcome (Inbound β σ)) : Outcome (Inbound β σ) :=
  outcome.recover fun what inbound => (handler what inbound.state).map fun state => { inbound with state }

/-- A read of what has arrived: nothing once the state has ended, else the loop. -/
def read (arrived : List β) (inbound : Inbound β σ) : Outcome (Inbound β σ) :=
  if ended inbound.state then .done inbound else
  guarded handler
    (loop dispatch parser ended (inbound.buffer ++ arrived) 0 (inbound.buffer ++ arrived) inbound.state)

/-- One message handled: nothing once the state has ended, else the parser, with the same handler. -/
def receive (message : μ) (state : σ) : Outcome σ :=
  if ended state then .done state else (parser message state).recover handler

end Loop

variable {format : Format β μ} {dispatch : List β → Option μ × Nat} {parser : μ → σ → Outcome σ} {ended : σ → Bool}
  {handler : String → σ → Outcome σ} {messages : List μ} {rest : List β} {state last : σ} {pieces : List (List β)}

theorem receive_ended (done : ended state = true) :
    Outcome.forEach messages (receive parser ended handler) state = .done state :=
  Outcome.forEach_idle fun _ _ => if_pos done

private theorem reads_ended {inbound : Inbound β σ} (done : ended inbound.state = true) :
    Outcome.forEach pieces (read dispatch parser ended handler) inbound = .done inbound :=
  Outcome.forEach_idle fun _ _ => if_pos done

private theorem loop_handles (parser : μ → σ → Outcome σ) (reads : format.Reads dispatch)
    (closed : ∀ what state last, handler what state = .done last → ended last = true)
    {span : List β} (splits : format.Splits span messages rest) {buffer : List β} {total : Nat}
    (taken : buffer.drop total = span) (alive : ended state = false) :
    (guarded handler (loop dispatch parser ended buffer total span state)).map Inbound.state =
        Outcome.forEach messages (receive parser ended handler) state ∧
      ∀ last, guarded handler (loop dispatch parser ended buffer total span state) = .done last →
        ended last.state = false → last.buffer = rest := by
  induction splits generalizing total state with
  | rest incomplete =>
    have stops : loop dispatch parser ended buffer total (buffer.drop total) state = .done ⟨buffer.drop total, state⟩ := by
      rw [loop, taken, reads.nothing incomplete]
      split <;> rfl
    subst taken
    rw [stops]
    refine ⟨rfl, fun last same _ => ?_⟩
    cases same
    rfl
  | @message bytes stream rest message messages complete splits ih =>
    have filled : bytes ++ stream ≠ [] := List.append_ne_nil_of_left_ne_nil (Format.ne_nil_of_decode complete) _
    have moves : bytes.length ≠ 0 := fun none => Format.ne_nil_of_decode complete (List.length_eq_zero_iff.mp none)
    rw [loop, if_neg filled, reads.first stream complete]
    simp only [Option.elim_some, Outcome.forEach, receive, alive, Bool.false_eq_true, if_false]
    cases called : parser message state with
    | done state =>
      simp only [moves, if_false, Outcome.recover_done, Outcome.andThen_done]
      cases stop : ended state with
      | true =>
        simp only [if_true]
        rw [receive_ended stop]
        refine ⟨rfl, fun last same still => ?_⟩
        cases same
        rw [stop] at still
        cases still
      | false =>
        simp only [Bool.false_eq_true, if_false, List.drop_left]
        refine ih ?_ stop
        rw [← List.drop_drop, taken, List.drop_left]
    | thrown what state =>
      simp only [guarded, Outcome.recover]
      cases after : handler what state with
      | done last =>
        have stop := closed what state last after
        simp only [Outcome.map_done, Outcome.andThen_done]
        rw [receive_ended stop]
        refine ⟨rfl, fun inbound same still => ?_⟩
        cases same
        rw [stop] at still
        cases still
      | thrown =>
        refine ⟨rfl, fun inbound same => ?_⟩
        cases same
      | fatal =>
        refine ⟨rfl, fun inbound same => ?_⟩
        cases same
    | fatal what =>
      refine ⟨rfl, fun inbound same => ?_⟩
      cases same

/-- A read handles the messages that it completes, and keeps what is left after them unless the
state has ended. -/
theorem read_handles (reads : format.Reads dispatch)
    (closed : ∀ what state last, handler what state = .done last → ended last = true)
    {inbound : Inbound β σ} {arrived : List β} (splits : format.Splits (inbound.buffer ++ arrived) messages rest) :
    (read dispatch parser ended handler arrived inbound).map Inbound.state =
        Outcome.forEach messages (receive parser ended handler) inbound.state ∧
      ∀ last, read dispatch parser ended handler arrived inbound = .done last → ended last.state = false →
        last.buffer = rest := by
  unfold read
  cases alive : ended inbound.state with
  | true =>
    rw [receive_ended alive, if_pos rfl]
    refine ⟨rfl, fun last same still => ?_⟩
    cases same
    cases still.symm.trans alive
  | false =>
    rw [if_neg Bool.false_ne_true]
    exact loop_handles parser reads closed splits List.drop_zero alive

/-- However a stream is cut, its messages are handled one after another, and what is left
after them is kept unless the state has ended. -/
theorem reads_handle (reads : format.Reads dispatch)
    (closed : ∀ what state last, handler what state = .done last → ended last = true)
    {inbound : Inbound β σ} (incomplete : format.Incomplete inbound.buffer)
    (splits : format.Splits (inbound.buffer ++ pieces.flatten) messages rest) :
    (Outcome.forEach pieces (read dispatch parser ended handler) inbound).map Inbound.state =
        Outcome.forEach messages (receive parser ended handler) inbound.state ∧
      ∀ last, Outcome.forEach pieces (read dispatch parser ended handler) inbound = .done last →
        ended last.state = false → last.buffer = rest := by
  induction pieces generalizing inbound messages rest with
  | nil =>
    rw [List.flatten_nil, List.append_nil] at splits
    obtain ⟨rfl, rfl⟩ := splits.unique (.rest incomplete)
    refine ⟨rfl, fun last same _ => ?_⟩
    cases same
    rfl
  | cons piece pieces ih =>
    -- what this piece completes is handled first, and the rest of it comes before the other pieces
    obtain ⟨now, left, here⟩ := Format.Splits.exists format (inbound.buffer ++ piece)
    obtain ⟨next, last, there⟩ := Format.Splits.exists format (left ++ pieces.flatten)
    rw [List.flatten_cons, ← List.append_assoc] at splits
    obtain ⟨rfl, rfl⟩ := splits.unique (here.append there)
    obtain ⟨handled, kept⟩ := @read_handles _ _ _ _ _ parser _ _ _ _ reads closed _ _ here
    rw [Outcome.forEach, Outcome.forEach_append, ← handled]
    cases reading : read dispatch parser ended handler piece inbound with
    | done after =>
      simp only [Outcome.map_done, Outcome.andThen_done]
      cases stop : ended after.state with
      | true =>
        rw [reads_ended stop, receive_ended stop]
        refine ⟨rfl, fun last same still => ?_⟩
        cases same
        cases still.symm.trans stop
      | false =>
        have buffer := kept after reading stop
        exact ih (buffer ▸ here.incomplete) (buffer ▸ there)
    | thrown =>
      refine ⟨rfl, fun last same => ?_⟩
      cases same
    | fatal =>
      refine ⟨rfl, fun last same => ?_⟩
      cases same

/-- The messages of a list are handled in their order, each once, up to one after which the
state has ended, or all of them. -/
structure HandledUntil (parser : μ → σ → Outcome σ) (ended : σ → Bool) (handler : String → σ → Outcome σ)
    (record : σ → List μ) (messages : List μ) (state last : σ) : Prop where
  split : ∃ handled later, messages = handled ++ later ∧ record last = record state ++ handled ∧
    (later ≠ [] → ended last = true) ∧
    ∀ earlier message more, handled = earlier ++ message :: more → ∃ middle,
      Outcome.forEach earlier (receive parser ended handler) state = .done middle ∧ ended middle = false

/-- A message is recorded by the parser, whether it returns or not, and not by the handler. -/
structure Records (parser : μ → σ → Outcome σ) (handler : String → σ → Outcome σ) (record : σ → List μ) : Prop where
  returned : ∀ message state last, parser message state = .done last → record last = record state ++ [message]
  thrown : ∀ message state what last, parser message state = .thrown what last → record last = record state ++ [message]
  handled : ∀ what state last, handler what state = .done last → record last = record state

theorem receive_records {record : σ → List μ} (records : Records parser handler record) {message : μ}
    (alive : ended state = false) (received : receive parser ended handler message state = .done last) :
    record last = record state ++ [message] := by
  rw [receive, if_neg (by simp [alive])] at received
  cases called : parser message state with
  | done after =>
    rw [called, Outcome.recover_done] at received
    cases received
    exact records.returned message state last called
  | thrown what after =>
    rw [called, Outcome.recover] at received
    rw [records.handled what after last received, records.thrown message state what after called]
  | fatal =>
    rw [called] at received
    cases received

theorem handled_until {record : σ → List μ} (records : Records parser handler record)
    (received : Outcome.forEach messages (receive parser ended handler) state = .done last) :
    HandledUntil parser ended handler record messages state last := by
  induction messages generalizing state with
  | nil =>
    cases received
    exact ⟨[], [], rfl, by simp, fun later => absurd rfl later, fun earlier message more same => by simp at same⟩
  | cons message messages ih =>
    cases alive : ended state with
    | true =>
      rw [receive_ended alive] at received
      cases received
      exact ⟨[], message :: messages, rfl, by simp, fun _ => alive, fun earlier message more same => by simp at same⟩
    | false =>
      obtain ⟨middle, first, rest⟩ := Outcome.andThen_eq_done.mp received
      obtain ⟨handled, later, rfl, record, until_, each⟩ := ih rest
      refine ⟨message :: handled, later, rfl, ?_, until_, fun earlier other more same => ?_⟩
      · rw [record, receive_records records alive first, List.append_assoc, List.singleton_append]
      · cases earlier with
        | nil => exact ⟨state, rfl, alive⟩
        | cons head earlier =>
          obtain ⟨rfl, tail⟩ := List.cons.inj same
          obtain ⟨between, reached, going⟩ := each earlier other more tail
          exact ⟨between, Outcome.andThen_eq_done.mpr ⟨middle, first, reached⟩, going⟩

end Reader
end FixProxy
