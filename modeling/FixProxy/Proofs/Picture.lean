import FixProxy.Proofs.Farewells
import FixProxy.Proofs.Fates
import Mathlib.Algebra.Order.Group.Multiset
import Mathlib.Data.Multiset.FinsetOps

/-! The process as it looks to who cannot tell in which order things were done about different
sessions, and that these things may be done in any order. -/

namespace FixProxy
open Codec

/-- A message to upstream, but for the id that is drawn for a user request. -/
def Codec.ToServer.anonymous : ToServer → ToServer
  | .userRequest value => .userRequest { value with userRequestId := "" }
  | message => message

def Output.upward : Output → Option ToServer
  | .toServer _ message => some message.anonymous
  | _ => none

/-- The process, as it looks to who cannot tell in which order upstream was told something. The
pending user requests, which are known by their ids, are left out. -/
@[ext] structure Picture where
  session : Nat → Option Client.Session
  heard : Nat → List Output
  holder : String → Option Nat
  username : Nat → Option String
  doomed : Multiset Nat
  signalled : Multiset Nat
  index : MappingName → Index Nat String String Bool
  subscribed : Nat → List String
  owner : Nat → Option String
  route : String → Option Nat
  told : Multiset ToServer
  upstream : Server.Session
  ready : Bool
  users : Map String (String × Nat)
  orders : Map String OrdStatus
  reports : Nat
  lastRequest : Nat
  lastSession : Nat
  nextGarbageCollection : Nanoseconds

namespace Controller

def picture (controller : Controller) : Picture where
  session := controller.sessions.find
  heard session := controller.roster.heard session
  holder := controller.shared.usernameToSession.find
  username := controller.shared.sessionToUsername.find
  doomed := controller.shared.sessionsToRemove
  signalled := controller.disconnects
  index := (controller.view []).index
  subscribed session := controller.serverIds .mdReqId session
  owner := (controller.view []).owner
  route := (controller.view []).route
  told := controller.log.filterMap Output.upward
  upstream := controller.serverSession
  ready := controller.ready
  users := controller.shared.usernameToPasswordAndStrategyId
  orders := controller.clOrdId
  reports := controller.totalNumPosReports
  lastRequest := controller.shared.nextRequestId
  lastSession := controller.shared.nextSessionId
  nextGarbageCollection := controller.nextGarbageCollection

end Controller

/-- What becomes of one session when it is visited. -/
structure Upshot where
  client : Option Client.Session
  outputs : List Output := []
  /-- it is dead now, and its username is free -/
  buried : Bool := false
  /-- the controller has learnt of its end -/
  parted : Bool := false

namespace Picture
variable {picture : Picture} {session other : Nat} {client client' : Option Client.Session} {outputs outputs' : List Output}

def record (session : Nat) (client : Option Client.Session) (outputs : List Output) (picture : Picture) : Picture :=
  { picture with
    session := Function.update picture.session session client
    heard := Function.update picture.heard session (picture.heard session ++ outputs) }

def bury (session : Nat) (picture : Picture) : Picture :=
  { picture with
    holder := fun username => if picture.username session = some username then none else picture.holder username
    username := Function.update picture.username session none
    doomed := picture.doomed.ndinsert session }

/-- What upstream is told when a session goes. -/
def partings (session : Nat) (picture : Picture) : List ToServer :=
  if picture.ready then
    (picture.subscribed session).map Controller.unsubscribes ++
      ((picture.owner session).map fun username => ToServer.userRequest ⟨"", .logOffUser, username⟩).toList
  else []

noncomputable def part (session : Nat) (picture : Picture) : Picture :=
  { picture with
    signalled := session ::ₘ picture.signalled
    index := fun name => (picture.index name).clear session
    subscribed := Function.update picture.subscribed session []
    owner := Function.update picture.owner session none
    route := fun username => if picture.owner session = some username then none else picture.route username
    told := picture.told + ↑(picture.partings session)
    upstream := { picture.upstream with
      outboundMsgSeqNum := picture.upstream.outboundMsgSeqNum + (picture.partings session).length }
    lastRequest := picture.lastRequest + if picture.ready ∧ (picture.owner session).isSome then 1 else 0 }

noncomputable def patch (session : Nat) (upshot : Upshot) (picture : Picture) : Picture :=
  let recorded := picture.record session upshot.client upshot.outputs
  let buried := if upshot.buried then recorded.bury session else recorded
  if upshot.parted then buried.part session else buried

/-! What is done about two sessions may be done in either order. -/

private theorem record_comm (different : other ≠ session) :
    (picture.record session client outputs).record other client' outputs' =
      (picture.record other client' outputs').record session client outputs := by
  unfold record
  simp only [Function.update_of_ne different, Function.update_of_ne (Ne.symm different)]
  rw [Function.update_comm different, Function.update_comm different]

private theorem bury_comm (different : other ≠ session) :
    (picture.bury session).bury other = (picture.bury other).bury session := by
  unfold bury
  simp only [Function.update_of_ne different, Function.update_of_ne (Ne.symm different)]
  congr 1
  · funext username
    split <;> split <;> rfl
  · exact Function.update_comm (Ne.symm different) ..
  · refine Quotient.inductionOn picture.doomed fun doomed => ?_
    exact Multiset.coe_eq_coe.mpr (List.perm_insert_swap other session doomed)

private theorem partings_part (different : other ≠ session) :
    (picture.part session).partings other = picture.partings other := by
  unfold partings part
  simp only [Function.update_of_ne different]

private theorem part_comm (different : other ≠ session) :
    (picture.part session).part other = (picture.part other).part session := by
  have first := @partings_part picture _ _ different
  have second := @partings_part picture _ _ (Ne.symm different)
  unfold part at first second ⊢
  simp only [first, second, Function.update_of_ne different, Function.update_of_ne (Ne.symm different)]
  congr 1
  · exact Multiset.cons_swap ..
  · funext name
    exact Index.clear_comm different _
  · exact Function.update_comm (Ne.symm different) ..
  · exact Function.update_comm (Ne.symm different) ..
  · funext username
    split <;> split <;> rfl
  · exact add_right_comm ..
  · simp only [Server.Session.mk.injEq, true_and, and_true]
    exact Nat.add_right_comm ..
  · exact Nat.add_right_comm ..

/-! The three touch different things. -/

private theorem bury_record :
    (picture.record session client outputs).bury other = (picture.bury other).record session client outputs := rfl

private theorem part_record :
    (picture.record session client outputs).part other = (picture.part other).record session client outputs := rfl

private theorem part_bury : (picture.bury session).part other = (picture.part other).bury session := rfl

private theorem patch_comm (different : other ≠ session) (upshot upshot' : Upshot) :
    (picture.patch session upshot).patch other upshot' = (picture.patch other upshot').patch session upshot := by
  obtain ⟨client, outputs, buried, parted⟩ := upshot
  obtain ⟨client', outputs', buried', parted'⟩ := upshot'
  unfold patch
  cases buried <;> cases parted <;> cases buried' <;> cases parted' <;>
    simp only [if_true, if_false, Bool.false_eq_true, bury_record, part_record, part_bury, record_comm different,
      bury_comm different, part_comm different]

private theorem session_patch (upshot : Upshot) :
    (picture.patch session upshot).session = Function.update picture.session session upshot.client := by
  unfold patch
  simp only
  split <;> split <;> rfl

theorem record_record : (picture.record session client outputs).record session client' outputs' =
    picture.record session client' (outputs ++ outputs') := by
  simp [record]

@[simp] theorem record_self : picture.record session (picture.session session) [] = picture := by
  simp [record]

def Prepared (picture : Picture) : Prop := picture.ready = true → picture.upstream.state = .ready

theorem Prepared.patch (prepared : picture.Prepared) (upshot : Upshot) : (picture.patch session upshot).Prepared := by
  unfold Picture.patch
  simp only
  split <;> split <;> exact prepared

/-- A visit to one of the sessions. -/
noncomputable def visit (upshot : Nat → Client.Session → Upshot) (picture : Picture) (session : Nat) : Picture :=
  match picture.session session with
  | none => picture
  | some client => picture.patch session (upshot session client)

instance (upshot : Nat → Client.Session → Upshot) : RightCommutative (visit upshot) where
  right_comm picture session other := by
    by_cases same : other = session
    · rw [same]
    · unfold visit
      cases first : picture.session session with
      | none =>
        cases second : picture.session other with
        | none => simp [first]
        | some client' => simp [session_patch, Ne.symm same, first]
      | some client =>
        cases second : picture.session other with
        | none => simp [session_patch, same, first, second]
        | some client' =>
          simp only [session_patch, Function.update_of_ne same, Function.update_of_ne (Ne.symm same), first, second]
          exact patch_comm same ..

def collect (picture : Picture) (session : Nat) : Picture :=
  { picture with
    session := Function.update picture.session session none
    holder := fun username => if picture.username session = some username then none else picture.holder username
    username := Function.update picture.username session none }

instance : RightCommutative collect where
  right_comm picture session other := by
    by_cases same : other = session
    · rw [same]
    · unfold collect
      simp only [Function.update_of_ne same, Function.update_of_ne (Ne.symm same)]
      congr 1
      · exact Function.update_comm (Ne.symm same) ..
      · funext username
        split <;> split <;> rfl
      · exact Function.update_comm (Ne.symm same) ..

end Picture
end FixProxy
