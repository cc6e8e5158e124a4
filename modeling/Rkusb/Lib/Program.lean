/-
**Programs that talk to an environment through queries.**

A `Program` is a tree: it returns, or it asks the environment a query and goes on with the answer.
`Io` adds what an imperative function needs on top of that, a local state of its own and errors
(an error keeps the local state it met). A `Handler` plays the environment on a state of its own;
`Program.run` plays a program against it.

* `Io.After handler p own state post` says that `post` holds of the outcome, the local state and
  the environment's state once `p` has run. `after_bind`, `after_ask` and the other rules below
  take a program apart along its syntax; `After.imp` weakens the postcondition.
* `Program.run_induct`: a reflexive and transitive relation that every single query respects is
  respected by every program, whatever it asks.
* `Io.Emits handler observe plan p` says that `p` appends to a log kept by the environment the
  beginning of a word of the language `plan`, and a whole word when it succeeds.
* `Io.Keeps handler view p` says that `p` leaves a view of its local state alone.
* `Io.Avoids handler bad p` says that `p` does not fail with an error that is `bad`.
-/

import Mathlib.Computability.Language

namespace Interaction

/-- A tree of queries to an environment, with a value at each leaf. -/
inductive Program {Query : Type} (Answer : Query → Type) (α : Type) : Type
  | pure (value : α)
  | query (request : Query) (next : Answer request → Program Answer α)

/-- An environment: it answers every query and moves on to a new state. -/
abbrev Handler {Query : Type} (Answer : Query → Type) (σ : Type) : Type :=
  (request : Query) → σ → Answer request × σ

variable {Query : Type} {Answer : Query → Type} {α β σ : Type}

namespace Program

/-- Go on with `next` at every leaf. -/
def bind : Program Answer α → (α → Program Answer β) → Program Answer β
  | .pure value, next => next value
  | .query request rest, next => .query request fun answer => (rest answer).bind next

/-- Play a program against an environment. -/
def run (handler : Handler Answer σ) : Program Answer α → σ → α × σ
  | .pure value, state => (value, state)
  | .query request next, state =>
      (next (handler request state).1).run handler (handler request state).2

theorem run_bind (handler : Handler Answer σ) (program : Program Answer α)
    (next : α → Program Answer β) (state : σ) :
    (program.bind next).run handler state =
      (next (program.run handler state).1).run handler (program.run handler state).2 := by
  induction program generalizing state with
  | pure value => rfl
  | query request rest ih => exact ih _ _

theorem bind_pure (program : Program Answer α) : program.bind .pure = program := by
  induction program with
  | pure value => rfl
  | query request rest ih => exact congrArg (Program.query request) (funext ih)

theorem bind_assoc {γ : Type} (program : Program Answer α) (next : α → Program Answer β)
    (last : β → Program Answer γ) :
    (program.bind next).bind last = program.bind fun value => (next value).bind last := by
  induction program with
  | pure value => rfl
  | query request rest ih => exact congrArg (Program.query request) (funext ih)

/-- **What every query respects, every program respects.** -/
theorem run_induct (handler : Handler Answer σ) (related : σ → σ → Prop)
    (refl : ∀ state, related state state)
    (trans : ∀ first middle last, related first middle → related middle last → related first last)
    (step : ∀ request state, related state (handler request state).2)
    (program : Program Answer α) (state : σ) :
    related state (program.run handler state).2 := by
  induction program generalizing state with
  | pure value => exact refl state
  | query request next ih => exact trans _ _ _ (step request state) (ih _ _)

end Program

/-- What a sequence of two fallible functions returns is what the second makes of the first. -/
theorem bind_eq_ok_iff {ε α β : Type} {first : Except ε α} {next : α → Except ε β} {result : β} :
    first >>= next = .ok result ↔ ∃ value, first = .ok value ∧ next value = .ok result := by
  cases first with
  | error error => exact ⟨fun fails => (by cases fails), fun ⟨_, fails, _⟩ => (by cases fails)⟩
  | ok value => exact ⟨fun ok => ⟨value, rfl, ok⟩, fun ⟨_, same, ok⟩ => (by cases same; exact ok)⟩

/-- A translated error is still one. -/
theorem mapError_eq_ok_iff {ε ε' α : Type} {result : Except ε α} {translate : ε → ε'} {value : α} :
    result.mapError translate = .ok value ↔ result = .ok value := by
  cases result with
  | error error => exact ⟨fun fails => (by cases fails), fun fails => (by cases fails)⟩
  | ok other => exact ⟨fun same => (by cases same; rfl), fun same => (by cases same; rfl)⟩

/-- A computation with local state `δ`, errors in `ε` and queries to an environment. -/
def Io {Query : Type} (Answer : Query → Type) (δ ε α : Type) : Type :=
  δ → Program Answer (Except ε α × δ)

namespace Io

variable {δ ε ε' : Type}

instance : Monad (Io Answer δ ε) where
  pure value := fun own => .pure (.ok value, own)
  bind first next := fun own => (first own).bind fun outcome =>
    match outcome with
    | (.ok value, own) => next value own
    | (.error error, own) => .pure (.error error, own)

instance : LawfulMonad (Io Answer δ ε) := LawfulMonad.mk' _
  (fun computation => funext fun own => by
    refine Eq.trans ?_ (Program.bind_pure (computation own))
    exact congrArg (Program.bind (computation own)) (funext fun outcome => by
      rcases outcome with ⟨_ | _, _⟩ <;> rfl))
  (fun value next => rfl)
  (fun first next last => funext fun own => by
    refine (Program.bind_assoc (first own) _ _).trans ?_
    exact congrArg (Program.bind (first own)) (funext fun outcome => by
      rcases outcome with ⟨_ | _, _⟩ <;> rfl))

/-- Stop with an error. -/
def throw (error : ε) : Io Answer δ ε α := fun own => .pure (.error error, own)

/-- The value of a pure fallible function, or its error. -/
def ofExcept : Except ε α → Io Answer δ ε α
  | .ok value => Pure.pure value
  | .error error => throw error

/-- Ask the environment. -/
def ask (request : Query) : Io Answer δ ε (Answer request) :=
  fun own => .query request fun answer => .pure (.ok answer, own)

/-- Read the local state. -/
def get : Io Answer δ ε δ := fun own => .pure (.ok own, own)

/-- Change the local state. -/
def modify (change : δ → δ) : Io Answer δ ε Unit := fun own => .pure (.ok (), change own)

/-- Translate the error of a computation. -/
def mapErr (translate : ε → ε') (computation : Io Answer δ ε α) : Io Answer δ ε' α :=
  fun own => (computation own).bind fun outcome => .pure (outcome.1.mapError translate, outcome.2)

/-- Run a computation that has no local state inside one that has. -/
def lift (computation : Io Answer Unit ε α) : Io Answer δ ε α :=
  fun own => (computation ()).bind fun outcome => .pure (outcome.1, own)

/-- Run a computation on a local state of its own, and return that state. -/
def start {γ : Type} (computation : Io Answer γ ε α) (own : γ) : Io Answer δ ε (α × γ) :=
  fun outer => (computation own).bind fun outcome =>
    .pure (outcome.1.map fun value => (value, outcome.2), outer)

/-- Run a computation that may fail, and return its outcome. -/
def attempt (computation : Io Answer δ ε α) : Io Answer δ ε' (Except ε α) :=
  fun own => (computation own).bind fun outcome => .pure (.ok outcome.1, outcome.2)

/-- Play a computation against an environment from a local state. -/
def run (handler : Handler Answer σ) (computation : Io Answer δ ε α) (own : δ) (state : σ) :
    (Except ε α × δ) × σ :=
  (computation own).run handler state

/-- `post` holds of the outcome, the local state and the environment after the run. -/
def After (handler : Handler Answer σ) (computation : Io Answer δ ε α) (own : δ) (state : σ)
    (post : Except ε α → δ → σ → Prop) : Prop :=
  post (computation.run handler own state).1.1 (computation.run handler own state).1.2
    (computation.run handler own state).2

section Rules

variable {handler : Handler Answer σ} {own : δ} {state : σ}

theorem After.imp {computation : Io Answer δ ε α} {post post' : Except ε α → δ → σ → Prop}
    (holds : After handler computation own state post)
    (weaker : ∀ outcome own state, post outcome own state → post' outcome own state) :
    After handler computation own state post' :=
  weaker _ _ _ holds

theorem After.and {computation : Io Answer δ ε α} {post post' : Except ε α → δ → σ → Prop}
    (left : After handler computation own state post)
    (right : After handler computation own state post') :
    After handler computation own state fun outcome own state =>
      post outcome own state ∧ post' outcome own state :=
  ⟨left, right⟩

/-- A postcondition under a hypothesis. -/
theorem after_imp {computation : Io Answer δ ε α} {hypothesis : Prop}
    {post : Except ε α → δ → σ → Prop} :
    (After handler computation own state fun outcome own state => hypothesis → post outcome own state) ↔
      (hypothesis → After handler computation own state post) := Iff.rfl

@[simp] theorem after_pure {value : α} {post : Except ε α → δ → σ → Prop} :
    After handler (Pure.pure value) own state post ↔ post (.ok value) own state := Iff.rfl

@[simp] theorem after_throw {error : ε} {post : Except ε α → δ → σ → Prop} :
    After handler (throw error) own state post ↔ post (.error error) own state := Iff.rfl

@[simp] theorem after_ask {request : Query} {post : Except ε (Answer request) → δ → σ → Prop} :
    After handler (ask request) own state post ↔
      post (.ok (handler request state).1) own (handler request state).2 := Iff.rfl

/-- **The sequencing rule.** -/
theorem after_bind {first : Io Answer δ ε α} {next : α → Io Answer δ ε β}
    {post : Except ε β → δ → σ → Prop} :
    After handler (first >>= next) own state post ↔
      After handler first own state fun outcome own state =>
        match outcome with
        | .ok value => After handler (next value) own state post
        | .error error => post (.error error) own state := by
  have split : (first >>= next).run handler own state =
      match first.run handler own state with
      | ((.ok value, own), state) => (next value).run handler own state
      | ((.error error, own), state) => ((.error error, own), state) := by
    show ((first own).bind _).run handler state = _
    rw [Program.run_bind]
    rcases outcome : (first own).run handler state with ⟨⟨_ | _, _⟩, _⟩
    · simp only [run, outcome]
      rfl
    · simp only [run, outcome]
  unfold After
  rw [split]
  rcases first.run handler own state with ⟨⟨_ | _, _⟩, _⟩ <;> exact Iff.rfl

@[simp] theorem after_ofExcept {result : Except ε α} {post : Except ε α → δ → σ → Prop} :
    After handler (ofExcept result) own state post ↔ post result own state := by
  cases result <;> exact Iff.rfl

theorem after_get_bind {next : δ → Io Answer δ ε β} {post : Except ε β → δ → σ → Prop} :
    After handler (get >>= next) own state post ↔ After handler (next own) own state post :=
  after_bind

theorem after_ofExcept_bind {result : Except ε α} {next : α → Io Answer δ ε β}
    {post : Except ε β → δ → σ → Prop} :
    After handler (ofExcept result >>= next) own state post ↔
      match result with
      | .ok value => After handler (next value) own state post
      | .error error => post (.error error) own state :=
  after_bind.trans after_ofExcept

theorem after_modify_bind {change : δ → δ} {next : Unit → Io Answer δ ε β}
    {post : Except ε β → δ → σ → Prop} :
    After handler (modify change >>= next) own state post ↔
      After handler (next ()) (change own) state post :=
  after_bind

@[simp] theorem after_mapErr {translate : ε → ε'} {computation : Io Answer δ ε α}
    {post : Except ε' α → δ → σ → Prop} :
    After handler (mapErr translate computation) own state post ↔
      After handler computation own state fun outcome own state =>
        post (outcome.mapError translate) own state := by
  unfold After run mapErr
  rw [Program.run_bind]
  exact Iff.rfl

@[simp] theorem after_lift {computation : Io Answer Unit ε α}
    {post : Except ε α → δ → σ → Prop} :
    After handler (lift computation) own state post ↔
      After handler computation () state fun outcome _ state => post outcome own state := by
  unfold After run lift
  rw [Program.run_bind]
  exact Iff.rfl

@[simp] theorem after_start {γ : Type} {computation : Io Answer γ ε α} {inner : γ}
    {post : Except ε (α × γ) → δ → σ → Prop} :
    After handler (start computation inner) own state post ↔
      After handler computation inner state fun outcome inner state =>
        post (outcome.map fun value => (value, inner)) own state := by
  unfold After run start
  rw [Program.run_bind]
  exact Iff.rfl

@[simp] theorem after_attempt {computation : Io Answer δ ε α}
    {post : Except ε' (Except ε α) → δ → σ → Prop} :
    After handler (attempt computation) own state post ↔
      After handler computation own state fun outcome own state => post (.ok outcome) own state := by
  unfold After run attempt
  rw [Program.run_bind]
  exact Iff.rfl

/-- Sequencing after a computation whose effect is known: every outcome it can have is followed. -/
theorem After.bind {first : Io Answer δ ε α} {next : α → Io Answer δ ε β}
    {middle : Except ε α → δ → σ → Prop} {post : Except ε β → δ → σ → Prop}
    (holds : After handler first own state middle)
    (failed : ∀ error own state, middle (.error error) own state → post (.error error) own state)
    (succeeded : ∀ value own state, middle (.ok value) own state →
      After handler (next value) own state post) :
    After handler (first >>= next) own state post := by
  refine after_bind.mpr (holds.imp fun outcome own state reached => ?_)
  cases outcome with
  | ok value => exact succeeded value own state reached
  | error error => exact failed error own state reached

/-- Sequencing after a computation that cannot fail here. -/
theorem After.bind_ok {first : Io Answer δ ε α} {next : α → Io Answer δ ε β}
    {middle : Except ε α → δ → σ → Prop} {post : Except ε β → δ → σ → Prop}
    (holds : After handler first own state middle)
    (succeeds : ∀ outcome own state, middle outcome own state →
      ∃ value, outcome = .ok value ∧ After handler (next value) own state post) :
    After handler (first >>= next) own state post := by
  refine after_bind.mpr (holds.imp fun outcome own state reached => ?_)
  obtain ⟨value, rfl, rest⟩ := succeeds outcome own state reached
  exact rest

/-- Sequencing after a pure function, where its errors are fine. -/
theorem After.ofExcept_bind {result : Except ε α} {next : α → Io Answer δ ε β}
    {post : Except ε β → δ → σ → Prop} (failed : ∀ error, post (.error error) own state)
    (succeeded : ∀ value, result = .ok value → After handler (next value) own state post) :
    After handler (ofExcept result >>= next) own state post := by
  refine after_ofExcept_bind.mpr ?_
  cases result with
  | ok value => exact succeeded value rfl
  | error error => exact failed error

/-- A relation that every query respects holds between the environment's states before and after
the run. -/
theorem after_related (related : σ → σ → Prop) (refl : ∀ state, related state state)
    (trans : ∀ first middle last, related first middle → related middle last → related first last)
    (step : ∀ request state, related state (handler request state).2)
    (computation : Io Answer δ ε α) (own : δ) (state : σ) :
    After handler computation own state fun _ _ reached => related state reached :=
  Program.run_induct handler related refl trans step (computation own) state

end Rules

/-! ### The local state -/

/-- The computation leaves a view of its local state alone, whatever its environment answers. -/
def Keeps {γ : Type} (handler : Handler Answer σ) (view : δ → γ) (computation : Io Answer δ ε α) :
    Prop :=
  ∀ own state, After handler computation own state fun _ own' _ => view own' = view own

namespace Keeps

variable {γ : Type} {handler : Handler Answer σ} {view : δ → γ}

theorem pure (value : α) : Keeps handler view (Pure.pure value : Io Answer δ ε α) :=
  fun _ _ => rfl

theorem throw (error : ε) : Keeps handler view (Io.throw error : Io Answer δ ε α) :=
  fun _ _ => rfl

theorem ofExcept (result : Except ε α) :
    Keeps handler view (Io.ofExcept result : Io Answer δ ε α) :=
  fun _ _ => after_ofExcept.mpr rfl

theorem get : Keeps handler view (Io.get : Io Answer δ ε δ) :=
  fun _ _ => rfl

theorem modify {change : δ → δ} (same : ∀ own, view (change own) = view own) :
    Keeps handler view (Io.modify change : Io Answer δ ε Unit) :=
  fun own _ => same own

theorem lift (computation : Io Answer Unit ε α) :
    Keeps handler view (Io.lift computation : Io Answer δ ε α) :=
  fun _ _ => after_lift.mpr rfl

theorem mapErr {computation : Io Answer δ ε α} (keeps : Keeps handler view computation)
    (translate : ε → ε') : Keeps handler view (Io.mapErr translate computation) :=
  fun own state => after_mapErr.mpr (keeps own state)

theorem bind {first : Io Answer δ ε α} {next : α → Io Answer δ ε β}
    (here : Keeps handler view first) (there : ∀ value, Keeps handler view (next value)) :
    Keeps handler view (first >>= next) := by
  intro own state
  refine (here own state).bind (fun _ _ _ same => same) fun value own' reached same => ?_
  exact (there value own' reached).imp fun _ _ _ same' => same'.trans same

theorem ite {condition : Prop} [Decidable condition] {first second : Io Answer δ ε α}
    (yes : Keeps handler view first) (no : Keeps handler view second) :
    Keeps handler view (if condition then first else second) := by
  by_cases holds : condition
  · rw [if_pos holds]
    exact yes
  · rw [if_neg holds]
    exact no

end Keeps

/-! ### Errors that do not occur -/

/-- The computation does not fail with an error that is `bad`. -/
def Avoids (handler : Handler Answer σ) (bad : ε → Prop) (computation : Io Answer δ ε α) : Prop :=
  ∀ own state, After handler computation own state fun outcome _ _ =>
    ∀ error, outcome = .error error → ¬bad error

namespace Avoids

variable {handler : Handler Answer σ} {bad : ε → Prop}

theorem pure (value : α) : Avoids handler bad (Pure.pure value : Io Answer δ ε α) :=
  fun _ _ _ fails => by cases fails

theorem throw {error : ε} (fine : ¬bad error) :
    Avoids handler bad (Io.throw error : Io Answer δ ε α) := by
  intro own state other same
  cases same
  exact fine

theorem ofExcept {result : Except ε α} (fine : ∀ error, result = .error error → ¬bad error) :
    Avoids handler bad (Io.ofExcept result : Io Answer δ ε α) :=
  fun _ _ => after_ofExcept.mpr fine

theorem ask (request : Query) :
    Avoids handler bad (Io.ask request : Io Answer δ ε (Answer request)) :=
  fun _ _ _ fails => by cases fails

theorem bind {first : Io Answer δ ε α} {next : α → Io Answer δ ε β}
    (here : Avoids handler bad first) (there : ∀ value, Avoids handler bad (next value)) :
    Avoids handler bad (first >>= next) := by
  intro own state
  refine (here own state).bind (fun error own reached fine error' same => ?_)
    fun value own reached _ => there value own reached
  cases same
  exact fine error rfl

/-- Translated errors are not bad. -/
theorem mapErr {bad' : ε' → Prop} {translate : ε → ε'} (fine : ∀ error, ¬bad' (translate error))
    (computation : Io Answer δ ε α) : Avoids handler bad' (Io.mapErr translate computation) := by
  intro own state
  refine after_mapErr.mpr ?_
  show ∀ error, (computation.run handler own state).1.1.mapError translate = .error error → _
  cases (computation.run handler own state).1.1 with
  | ok value =>
    intro error fails
    cases fails
  | error error' =>
    intro error fails
    cases fails
    exact fine error'

end Avoids

/-! ### What a computation appends to a log -/

/-- Whatever its outcome, the computation appends to the log the beginning of a word of `plan`, and
all of it if it succeeds. -/
def Emits {τ : Type} (handler : Handler Answer σ) (observe : σ → List τ) (plan : Language τ)
    (computation : Io Answer δ ε α) : Prop :=
  ∀ own state, After handler computation own state fun outcome _ reached =>
    ∃ sent rest, observe reached = observe state ++ sent ∧ sent ++ rest ∈ plan ∧
      ∀ value, outcome = .ok value → rest = []

namespace Emits

variable {τ : Type} {handler : Handler Answer σ} {observe : σ → List τ} {plan plan' : Language τ}

/-- A computation that leaves the log alone. -/
theorem of_silent {computation : Io Answer δ ε α}
    (silent : ∀ own state, After handler computation own state fun _ _ reached =>
      observe reached = observe state) : Emits handler observe 1 computation := by
  intro own state
  refine (silent own state).imp ?_
  intro _ _ reached same
  exact ⟨[], [], by rw [same, List.append_nil], Language.nil_mem_one, fun _ _ => rfl⟩

theorem pure (value : α) :
    Emits handler observe 1 (Pure.pure value : Io Answer δ ε α) :=
  of_silent fun _ _ => rfl

theorem ofExcept (result : Except ε α) :
    Emits handler observe 1 (Io.ofExcept result : Io Answer δ ε α) :=
  of_silent fun _ _ => after_ofExcept.mpr rfl

/-- An error may come before any plan that has a word. -/
theorem throw (error : ε) (possible : ∃ full, full ∈ plan) :
    Emits handler observe plan (Io.throw error : Io Answer δ ε α) := by
  intro own state
  obtain ⟨full, planned⟩ := possible
  refine after_throw.mpr ⟨[], full, by rw [List.append_nil], planned, fun value same => ?_⟩
  cases same

theorem mono {computation : Io Answer δ ε α} (emits : Emits handler observe plan computation)
    (le : ∀ full, full ∈ plan → full ∈ plan') : Emits handler observe plan' computation := by
  intro own state
  refine (emits own state).imp ?_
  intro outcome own reached moved
  obtain ⟨sent, rest, logged, planned, whole⟩ := moved
  exact ⟨sent, rest, logged, le _ planned, whole⟩

/-- Words follow each other where what the first computation returns is known. -/
theorem bind_where {first : Io Answer δ ε α} {next : α → Io Answer δ ε β} {good : α → Prop}
    (here : Emits handler observe plan first)
    (returns : ∀ own state, After handler first own state fun outcome _ _ =>
      ∀ value, outcome = .ok value → good value)
    (there : ∀ value, good value → Emits handler observe plan' (next value))
    (possible : ∃ full, full ∈ plan') : Emits handler observe (plan * plan') (first >>= next) := by
  intro own state
  refine ((here own state).and (returns own state)).bind (fun error own reached both => ?_)
    fun value own reached both => ?_
  · obtain ⟨sent, rest, logged, planned, -⟩ := both.1
    obtain ⟨full, planned'⟩ := possible
    refine ⟨sent, rest ++ full, logged, ?_, fun value same => by cases same⟩
    rw [← List.append_assoc]
    exact Language.append_mem_mul planned planned'
  · obtain ⟨sent, rest, logged, planned, whole⟩ := both.1
    obtain rfl := whole value rfl
    rw [List.append_nil] at planned
    refine (there value (both.2 value rfl) own reached).imp ?_
    intro outcome own last moved
    obtain ⟨sent', rest, logged', planned', whole'⟩ := moved
    refine ⟨sent ++ sent', rest, ?_, ?_, whole'⟩
    · rw [logged', logged, List.append_assoc]
    · rw [List.append_assoc]
      exact Language.append_mem_mul planned planned'

/-- **Words follow each other as the computations do.** -/
theorem bind {first : Io Answer δ ε α} {next : α → Io Answer δ ε β}
    (here : Emits handler observe plan first) (there : ∀ value, Emits handler observe plan' (next value))
    (possible : ∃ full, full ∈ plan') : Emits handler observe (plan * plan') (first >>= next) :=
  here.bind_where (fun _ _ => fun _ _ => trivial) (fun value _ => there value) possible

/-- What comes before leaves the log alone. -/
theorem bind_of_silent {first : Io Answer δ ε α} {next : α → Io Answer δ ε β}
    (here : Emits handler observe 1 first) (there : ∀ value, Emits handler observe plan (next value))
    (possible : ∃ full, full ∈ plan) : Emits handler observe plan (first >>= next) := by
  have both := here.bind there possible
  rwa [one_mul] at both

/-- What comes after leaves the log alone. -/
theorem bind_silent {first : Io Answer δ ε α} {next : α → Io Answer δ ε β}
    (here : Emits handler observe plan first)
    (there : ∀ value, Emits handler observe 1 (next value)) :
    Emits handler observe plan (first >>= next) := by
  have both := here.bind there ⟨[], Language.nil_mem_one⟩
  rwa [mul_one] at both

theorem mapErr {translate : ε → ε'} {computation : Io Answer δ ε α}
    (emits : Emits handler observe plan computation) :
    Emits handler observe plan (Io.mapErr translate computation) := by
  intro own state
  refine after_mapErr.mpr ((emits own state).imp fun outcome own reached moved => ?_)
  obtain ⟨sent, rest, logged, planned, whole⟩ := moved
  refine ⟨sent, rest, logged, planned, fun value same => ?_⟩
  cases outcome with
  | ok value => exact whole value rfl
  | error error => cases same

theorem lift {computation : Io Answer Unit ε α}
    (emits : Emits handler observe plan computation) :
    Emits handler observe plan (Io.lift computation : Io Answer δ ε α) :=
  fun _ state => after_lift.mpr (emits () state)

end Emits

/-- A word for each part makes a word for the whole. -/
theorem nonempty_mul {τ : Type} {first second : Language τ} (here : ∃ word, word ∈ first)
    (there : ∃ word, word ∈ second) : ∃ word, word ∈ first * second := by
  obtain ⟨word, mem⟩ := here
  obtain ⟨word', mem'⟩ := there
  exact ⟨word ++ word', Language.append_mem_mul mem mem'⟩

end Io

end Interaction
