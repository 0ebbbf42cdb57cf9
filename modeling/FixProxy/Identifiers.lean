import Std.Data.String.ToNat
import FixProxy.Controller.Utilities

/-! The two kinds of server id. An id from the counter determines its number; an id
made of a client's party and the client's own id determines both, because a
party has no colon. -/

namespace FixProxy

private theorem prefix_inj {left right : String} (same : "proxy-" ++ left = "proxy-" ++ right) : left = right := by
  exact String.toList_inj.mp (by simpa using congrArg String.toList same)

theorem Shared.requestId_inj {left right : Nat} (same : Shared.requestId left = Shared.requestId right) :
    left = right :=
  Nat.repr_inj.mp (prefix_inj same)

theorem Shared.requestId_ne_empty (counter : Nat) : Shared.requestId counter ≠ "" := by
  intro empty
  simpa [requestId] using congrArg String.toList empty

/-- An id that the counter has handed out when it stands at `last`. -/
def Issued (last : Nat) (id : String) : Prop := ∃ counter ≤ last, id = Shared.requestId counter

@[grind →] theorem Issued.mono {last : Nat} {id : String} (issued : Issued last id) : Issued (last + 1) id := by
  obtain ⟨counter, bound, rfl⟩ := issued
  exact ⟨counter, by omega, rfl⟩

@[grind .] theorem issued_next (last : Nat) : Issued (last + 1) (Shared.requestId (last + 1)) :=
  ⟨last + 1, Nat.le_refl _, rfl⟩

@[grind .] theorem not_issued_next (last : Nat) : ¬ Issued last (Shared.requestId (last + 1)) := by
  rintro ⟨counter, bound, same⟩
  have := Shared.requestId_inj same
  omega

/-- A party that can be read back from an id it is part of. -/
def Plain (party : String) : Prop := ':' ∉ party.toList

theorem plain_toString (number : Nat) : Plain (toString number) := by
  intro colon
  have member : ':' ∈ Nat.toDigits 10 number := by simpa [Nat.repr] using colon
  have digit : ':'.isDigit := Nat.isDigit_of_mem_toDigits (by decide) (by decide) member
  exact absurd digit (by decide)

private theorem split_at_colon {left right left' right' : List Char} (plain : ':' ∉ left) (plain' : ':' ∉ left')
    (same : left ++ ':' :: right = left' ++ ':' :: right') : left = left' ∧ right = right' := by
  induction left generalizing left' with
  | nil =>
    cases left' with
    | nil => simpa using same
    | cons head tail =>
      obtain ⟨rfl, -⟩ := List.cons.inj same
      exact absurd (List.mem_cons_self ..) plain'
  | cons head tail ih =>
    cases left' with
    | nil =>
      obtain ⟨rfl, -⟩ := List.cons.inj same
      exact absurd (List.mem_cons_self ..) plain
    | cons head' tail' =>
      simp only [List.cons_append, List.cons.injEq] at same
      obtain ⟨rfl, rest⟩ := same
      obtain ⟨rfl, rfl⟩ := ih (fun h => plain (by simp [h])) (fun h => plain' (by simp [h])) rest
      exact ⟨rfl, rfl⟩

theorem createRequestId_inj {party party' clientId clientId' : String} (plain : Plain party) (plain' : Plain party')
    (same : createRequestId party clientId = createRequestId party' clientId') :
    party = party' ∧ clientId = clientId' := by
  have chars : party.toList ++ ':' :: clientId.toList = party'.toList ++ ':' :: clientId'.toList := by
    simpa [createRequestId] using congrArg String.toList same
  obtain ⟨left, right⟩ := split_at_colon plain plain' chars
  exact ⟨String.toList_inj.mp left, String.toList_inj.mp right⟩

theorem createRequestId_ne_empty (party clientId : String) : createRequestId party clientId ≠ "" := by
  intro empty
  simpa [createRequestId] using congrArg String.toList empty

theorem getClientClOrdId_createRequestId {party : String} (plain : Plain party) (clientId : String) :
    getClientClOrdId (createRequestId party clientId) = clientId := by
  have before : ∀ char ∈ "proxy-".toList ++ party.toList, decide (char ≠ ':') = true := by
    intro char member
    rcases List.mem_append.mp member with fixed | own
    · have none : ∀ char ∈ "proxy-".toList, decide (char ≠ ':') = true := by simp
      exact none char fixed
    · exact decide_eq_true fun colon => plain (colon ▸ own)
  have chars : (createRequestId party clientId).toList =
      ("proxy-".toList ++ party.toList) ++ ':' :: clientId.toList := by
    simp [createRequestId]
  unfold getClientClOrdId
  rw [if_pos (by rw [chars]; simp), chars, List.dropWhile_append_of_pos before]
  simp

end FixProxy
