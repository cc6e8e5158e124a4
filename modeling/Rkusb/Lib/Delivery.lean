/-
**Deliveries that stop at the first failure.**

A computation has a list of items to put into a log that the environment keeps, one after another,
and it stops at the first one that fails. `Ends` says what is then in the log and how the computation
ends; `Io.Delivers` says that it runs in this way, wherever it starts.
-/

import Rkusb.Lib.Program

namespace Interaction

variable {τ ε ε' : Type}

/-- What is sent of a plan, and with which outcome: `failure index item` is what goes wrong with the
item at an index of the log. -/
inductive Ends (failure : Nat → τ → Option ε) (start : Nat) (plan : List τ) :
    List τ → Except ε Unit → Prop
  | complete
      (succeeds : ∀ index item, plan[index]? = some item → failure (start + index) item = none) :
      Ends failure start plan plan (.ok ())
  | stopped (index : Nat) (item : τ) (error : ε)
      (planned : plan[index]? = some item) (fails : failure (start + index) item = some error)
      (before : ∀ earlier item, earlier < index → plan[earlier]? = some item →
        failure (start + earlier) item = none) :
      Ends failure start plan (plan.take (index + 1)) (.error error)

namespace Ends

variable {failure : Nat → τ → Option ε} {start : Nat} {first rest sent : List τ}

theorem single_ok {item : τ} (succeeds : failure start item = none) :
    Ends failure start [item] [item] (.ok ()) := by
  refine .complete fun index other planned => ?_
  cases index with
  | zero =>
    cases planned
    exact succeeds
  | succ index => cases planned

theorem single_error {item : τ} {error : ε} (fails : failure start item = some error) :
    Ends failure start [item] [item] (.error error) :=
  .stopped 0 item error rfl fails fun _ _ sooner => absurd sooner (Nat.not_lt_zero _)

/-- A failure ends the whole, whatever was to follow. -/
theorem append_of_error {error : ε} (ends : Ends failure start first sent (.error error)) :
    Ends failure start (first ++ rest) sent (.error error) := by
  cases ends with
  | stopped index item error planned fails before =>
    have inside := (List.getElem?_eq_some_iff.mp planned).1
    rw [← @List.take_append_of_le_length _ first rest _ (Nat.succ_le_of_lt inside)]
    refine .stopped index item error ?_ fails fun earlier item' sooner planned' => ?_
    · rwa [List.getElem?_append_left inside]
    · rw [List.getElem?_append_left (sooner.trans inside)] at planned'
      exact before earlier item' sooner planned'

/-- What follows a complete delivery. -/
theorem append_of_ok {outcome : Except ε Unit} {sent' : List τ}
    (ends : Ends failure start first sent (.ok ()))
    (ends' : Ends failure (start + first.length) rest sent' outcome) :
    Ends failure start (first ++ rest) (sent ++ sent') outcome := by
  cases ends with
  | complete succeeds =>
    have earlierSucceeds (index : Nat) (item : τ) (inside : index < first.length)
        (planned : (first ++ rest)[index]? = some item) : failure (start + index) item = none := by
      rw [List.getElem?_append_left inside] at planned
      exact succeeds index item planned
    have shifted {index : Nat} (past : first.length ≤ index) :
        start + first.length + (index - first.length) = start + index := by omega
    cases ends' with
    | complete succeeds' =>
      refine .complete fun index item planned => ?_
      by_cases inside : index < first.length
      · exact earlierSucceeds index item inside planned
      · rw [List.getElem?_append_right (not_lt.mp inside)] at planned
        rw [← shifted (not_lt.mp inside)]
        exact succeeds' _ item planned
    | stopped index item error planned fails before =>
      have reached : first ++ rest.take (index + 1) =
          (first ++ rest).take (first.length + index + 1) := by
        rw [Nat.add_assoc, List.take_length_add_append]
      rw [reached]
      refine .stopped _ item error ?_ ?_ fun earlier item' sooner planned' => ?_
      · rw [List.getElem?_append_right (Nat.le_add_right _ _), Nat.add_sub_cancel_left]
        exact planned
      · rwa [← Nat.add_assoc]
      · by_cases inside : earlier < first.length
        · exact earlierSucceeds earlier item' inside planned'
        · rw [List.getElem?_append_right (not_lt.mp inside)] at planned'
          rw [← shifted (not_lt.mp inside)]
          exact before _ item' (by omega) planned'

/-- The errors, translated. -/
theorem map {outcome : Except ε Unit} (translate : ε → ε')
    (ends : Ends failure start first sent outcome) :
    Ends (fun index item => (failure index item).map translate) start first sent
      (outcome.mapError translate) := by
  cases ends with
  | complete succeeds =>
    refine .complete fun index item planned => ?_
    rw [succeeds index item planned]
    rfl
  | stopped index item error planned fails before =>
    refine .stopped index item (translate error) planned ?_ fun earlier item' sooner planned' => ?_
    · rw [fails]
      rfl
    · rw [before earlier item' sooner planned']
      rfl

end Ends

namespace Io

variable {Query δ σ : Type} {Answer : Query → Type}

/-- The computation puts the plan into the log, up to the first item that fails. -/
def Delivers (handler : Handler Answer σ) (observe : σ → List τ) (failure : Nat → τ → Option ε)
    (plan : List τ) (computation : Io Answer δ ε Unit) : Prop :=
  ∀ own state, After handler computation own state fun outcome _ reached =>
    ∃ sent, observe reached = observe state ++ sent ∧
      Ends failure (observe state).length plan sent outcome

namespace Delivers

variable {handler : Handler Answer σ} {observe : σ → List τ} {failure : Nat → τ → Option ε}
  {plan plan' : List τ}

/-- Nothing is to be sent. -/
theorem pure : Delivers handler observe failure [] (Pure.pure () : Io Answer δ ε Unit) := by
  intro own state
  refine after_pure.mpr ⟨[], (List.append_nil _).symm, .complete fun index item planned => ?_⟩
  cases planned

/-- **One delivery after another.** -/
theorem bind {first : Io Answer δ ε Unit} {next : Unit → Io Answer δ ε Unit}
    (here : Delivers handler observe failure plan first)
    (there : Delivers handler observe failure plan' (next ())) :
    Delivers handler observe failure (plan ++ plan') (first >>= next) := by
  intro own state
  refine (here own state).bind (fun error own reached moved => ?_) fun _ own reached moved => ?_
  · obtain ⟨sent, logged, ends⟩ := moved
    exact ⟨sent, logged, ends.append_of_error⟩
  · obtain ⟨sent, logged, ends⟩ := moved
    refine (there own reached).imp ?_
    intro outcome own last moved'
    obtain ⟨sent', logged', ends'⟩ := moved'
    obtain rfl : sent = plan := by cases ends; rfl
    refine ⟨sent ++ sent', by rw [logged', logged, List.append_assoc], ends.append_of_ok ?_⟩
    rwa [logged, List.length_append] at ends'

theorem mapErr {translate : ε → ε'} {computation : Io Answer δ ε Unit}
    (delivers : Delivers handler observe failure plan computation) :
    Delivers handler observe (fun index item => (failure index item).map translate) plan
      (Io.mapErr translate computation) := by
  intro own state
  refine after_mapErr.mpr ((delivers own state).imp fun outcome own reached moved => ?_)
  obtain ⟨sent, logged, ends⟩ := moved
  exact ⟨sent, logged, ends.map translate⟩

/-- A delivery that succeeds has put the whole plan into the log. -/
theorem of_ok {computation : Io Answer δ ε Unit}
    (delivers : Delivers handler observe failure plan computation) (own : δ) (state : σ) :
    After handler computation own state fun outcome _ reached =>
      outcome = .ok () → observe reached = observe state ++ plan := by
  refine (delivers own state).imp ?_
  intro outcome own reached moved success
  obtain ⟨sent, logged, ends⟩ := moved
  cases ends with
  | complete => exact logged
  | stopped => cases success

/-- Where no item fails, the delivery succeeds. -/
theorem completes {computation : Io Answer δ ε Unit}
    (delivers : Delivers handler observe failure plan computation)
    (never : ∀ index item, failure index item = none) (own : δ) (state : σ) :
    After handler computation own state fun outcome _ _ => outcome = .ok () := by
  refine (delivers own state).imp ?_
  intro outcome own reached moved
  obtain ⟨sent, logged, ends⟩ := moved
  cases ends with
  | complete => rfl
  | stopped index item error planned fails => cases (never _ item).symm.trans fails

end Delivers

end Io

end Interaction
