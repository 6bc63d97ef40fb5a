import Mathlib.Data.List.Basic

/-!
# Programs whose calls can fail

A program runs over a state and makes calls to the outside. The environment
gives a verdict on every call: it proceeds, it fails part of the way, or the
whole program crashes there. A program is specified by where it can end, from a
given state and whatever the verdicts are; the rules below follow its syntax.
-/

namespace Faulty

/-- What the environment does with a call; `progress` says how far the call got. -/
inductive Verdict
  | proceed
  | fail (progress : Nat)
  | crash (progress : Nat)
  deriving DecidableEq

inductive Outcome (Error Value : Type)
  | returned (value : Value)
  | raised (error : Error)
  | crashed
  deriving DecidableEq

def Program (State Error Value : Type) : Type :=
  State → List Verdict → Outcome Error Value × State × List Verdict

namespace Program

variable {State Error Error' Value Value' : Type}

protected def pure (value : Value) : Program State Error Value :=
  fun state verdicts => (.returned value, state, verdicts)

def raise (error : Error) : Program State Error Value :=
  fun state verdicts => (.raised error, state, verdicts)

protected def bind (first : Program State Error Value)
    (next : Value → Program State Error Value') : Program State Error Value' :=
  fun state verdicts =>
    match first state verdicts with
    | (.returned value, state, verdicts) => next value state verdicts
    | (.raised error, state, verdicts) => (.raised error, state, verdicts)
    | (.crashed, state, verdicts) => (.crashed, state, verdicts)

instance : Monad (Program State Error) where
  pure := Program.pure
  bind := Program.bind

def mapError (f : Error → Error') (program : Program State Error Value) :
    Program State Error' Value :=
  fun state verdicts =>
    match program state verdicts with
    | (.returned value, state, verdicts) => (.returned value, state, verdicts)
    | (.raised error, state, verdicts) => (.raised (f error), state, verdicts)
    | (.crashed, state, verdicts) => (.crashed, state, verdicts)

def attempt (program : Program State Error Value) : Program State Error' (Option Value) :=
  fun state verdicts =>
    match program state verdicts with
    | (.returned value, state, verdicts) => (.returned (some value), state, verdicts)
    | (.raised _, state, verdicts) => (.returned none, state, verdicts)
    | (.crashed, state, verdicts) => (.crashed, state, verdicts)

def ofExcept (result : Except Error Value) : Program State Error Value :=
  match result with
  | .ok value => Program.pure value
  | .error error => raise error

def demand (condition : Prop) [Decidable condition] (error : Error) : Program State Error Unit :=
  if condition then Program.pure () else raise error

/-- The value, or `error` when there is none. -/
def orRaise (found : Option Value) (error : Error) : Program State Error Value :=
  match found with
  | some value => Program.pure value
  | none => raise error

/-- A `for` loop. -/
def forEach {Item : Type} (body : Item → Program State Error Unit) :
    List Item → Program State Error Unit
  | [] => Program.pure ()
  | item :: rest => Program.bind (body item) fun _ => forEach body rest

/-- One call. `failing` and `crashing` are the states it leaves when it does not
complete; a call that fails raises `refused`. -/
def call (refused : Error) (perform : State → Except Error (Value × State))
    (failing crashing : Nat → State → State) : Program State Error Value
  | state, [] =>
    match perform state with
    | .ok (value, state) => (.returned value, state, [])
    | .error error => (.raised error, state, [])
  | state, .proceed :: verdicts =>
    match perform state with
    | .ok (value, state) => (.returned value, state, verdicts)
    | .error error => (.raised error, state, verdicts)
  | state, .fail progress :: verdicts => (.raised refused, failing progress state, verdicts)
  | state, .crash progress :: verdicts => (.crashed, crashing progress state, verdicts)

def inspect (refused : Error) (look : State → Except Error Value) : Program State Error Value :=
  call refused (fun state => (look state).map fun value => (value, state))
    (fun _ state => state) (fun _ state => state)

/-- A call that takes effect at once or not at all. A crash can fall on either side. -/
def atomic (refused : Error) (change : State → State) : Program State Error Unit :=
  call refused (fun state => .ok ((), change state))
    (fun _ state => state) (fun progress state => if progress = 0 then state else change state)

def gradual (refused : Error) (change : State → State) (part : Nat → State → State) :
    Program State Error Unit :=
  call refused (fun state => .ok ((), change state)) part part

end Program

structure Post (State Error Value : Type) where
  returned : Value → State → Prop
  raised : Error → State → Prop
  crashed : State → Prop

def Post.Holds {State Error Value : Type} (post : Post State Error Value) :
    Outcome Error Value → State → Prop
  | .returned value, state => post.returned value state
  | .raised error, state => post.raised error state
  | .crashed, state => post.crashed state

variable {State Error Error' Value Value' : Type}

def Ends (program : Program State Error Value) (state : State)
    (post : Post State Error Value) : Prop :=
  ∀ verdicts, post.Holds (program state verdicts).1 (program state verdicts).2.1

variable {program : Program State Error Value} {state : State} {post : Post State Error Value}

theorem Ends.mono {post' : Post State Error Value} (h : Ends program state post)
    (returned : ∀ value t, post.returned value t → post'.returned value t)
    (raised : ∀ error t, post.raised error t → post'.raised error t)
    (crashed : ∀ t, post.crashed t → post'.crashed t) : Ends program state post' := by
  intro verdicts
  have := h verdicts
  revert this
  cases (program state verdicts).1 with
  | returned value => exact returned value _
  | raised error => exact raised error _
  | crashed => exact crashed _

theorem ends_of_always (returned : ∀ value t, post.returned value t)
    (raised : ∀ error t, post.raised error t) (crashed : ∀ t, post.crashed t) :
    Ends program state post := by
  intro verdicts
  cases (program state verdicts).1 with
  | returned value => exact returned value _
  | raised error => exact raised error _
  | crashed => exact crashed _

variable {value : Value}

theorem ends_pure (h : post.returned value state) : Ends (pure value) state post :=
  fun _ => h

variable {error : Error}

theorem ends_raise (h : post.raised error state) : Ends (Program.raise error) state post :=
  fun _ => h

variable {first : Program State Error Value} {next : Value → Program State Error Value'}

theorem Ends.bind {mid : Post State Error Value} {post : Post State Error Value'}
    (hfst : Ends first state mid)
    (hn : ∀ value t, mid.returned value t → Ends (next value) t post)
    (raised : ∀ error t, mid.raised error t → post.raised error t)
    (crashed : ∀ t, mid.crashed t → post.crashed t) : Ends (first >>= next) state post := by
  intro verdicts
  have hmid := hfst verdicts
  show post.Holds (Program.bind first next state verdicts).1
    (Program.bind first next state verdicts).2.1
  unfold Program.bind
  revert hmid
  generalize first state verdicts = result
  obtain ⟨outcome, t, rest⟩ := result
  cases outcome with
  | returned value => exact fun hmid => hn value t hmid rest
  | raised error => exact raised error t
  | crashed => exact crashed t

theorem Ends.mapError {f : Error → Error'} {post' : Post State Error' Value}
    (h : Ends program state post)
    (returned : ∀ value t, post.returned value t → post'.returned value t)
    (raised : ∀ error t, post.raised error t → post'.raised (f error) t)
    (crashed : ∀ t, post.crashed t → post'.crashed t) : Ends (program.mapError f) state post' := by
  intro verdicts
  have hmid := h verdicts
  unfold Program.mapError
  revert hmid
  generalize program state verdicts = result
  obtain ⟨outcome, t, rest⟩ := result
  cases outcome with
  | returned value => exact returned value t
  | raised error => exact raised error t
  | crashed => exact crashed t

variable {refused : Error}

theorem ends_call {perform : State → Except Error (Value × State)}
    {failing crashing : Nat → State → State}
    (returned : ∀ value t, perform state = .ok (value, t) → post.returned value t)
    (raised : ∀ error, perform state = .error error → post.raised error state)
    (failed : ∀ progress, post.raised refused (failing progress state))
    (crashed : ∀ progress, post.crashed (crashing progress state)) :
    Ends (Program.call refused perform failing crashing) state post := by
  have hperform : ∀ rest : List Verdict, post.Holds
      (match perform state with
        | .ok (value, t) => ((.returned value, t, rest) : Outcome Error Value × State × List Verdict)
        | .error error => (.raised error, state, rest)).1
      (match perform state with
        | .ok (value, t) => ((.returned value, t, rest) : Outcome Error Value × State × List Verdict)
        | .error error => (.raised error, state, rest)).2.1 := by
    intro rest
    cases hres : perform state with
    | ok result => exact returned result.1 result.2 hres
    | error error => exact raised error hres
  intro verdicts
  cases verdicts with
  | nil => exact hperform []
  | cons verdict rest =>
    cases verdict with
    | proceed => exact hperform rest
    | fail progress => exact failed progress
    | crash progress => exact crashed progress

variable {change : State → State}

theorem ends_atomic {post : Post State Error Unit} (returned : post.returned () (change state))
    (failed : post.raised refused state) (before : post.crashed state)
    (after : post.crashed (change state)) : Ends (Program.atomic refused change) state post := by
  refine ends_call (fun value t h => ?_) (fun error h => ?_) (fun _ => failed) (fun progress => ?_)
  · cases h
    exact returned
  · cases h
  · show post.crashed (if progress = 0 then state else change state)
    split
    · exact before
    · exact after

theorem ends_gradual {part : Nat → State → State} {post : Post State Error Unit}
    (returned : post.returned () (change state))
    (failed : ∀ progress, post.raised refused (part progress state))
    (crashed : ∀ progress, post.crashed (part progress state)) :
    Ends (Program.gradual refused change part) state post := by
  refine ends_call (fun value t h => ?_) (fun error h => ?_) failed crashed
  · cases h
    exact returned
  · cases h

variable {Item : Type}

/-- A loop keeps an invariant that knows which items are done. -/
theorem Ends.forEach {body : Item → Program State Error Unit}
    {inv : List Item → State → Prop} {post : Post State Error Unit} {items : List Item}
    (hbody : ∀ before item after, items = before ++ item :: after → ∀ t, inv before t →
      Ends (body item) t ⟨fun _ t => inv (before ++ [item]) t, post.raised, post.crashed⟩)
    (returned : ∀ t, inv items t → post.returned () t) (h : inv [] state) :
    Ends (Program.forEach body items) state post := by
  suffices hr : ∀ after before t, items = before ++ after → inv before t →
      Ends (Program.forEach body after) t post from hr items [] state rfl h
  intro after
  induction after with
  | nil =>
    intro before t hitems hinv
    rw [List.append_nil] at hitems
    exact ends_pure (returned t (hitems ▸ hinv))
  | cons item after ih =>
    intro before t hitems hinv
    refine Ends.bind (hbody before item after hitems t hinv) (fun _ t hinv => ?_)
      (fun _ _ h => h) (fun _ h => h)
    exact ih (before ++ [item]) t (by simpa using hitems) hinv

/-- The program changes nothing, returns only values of `values` and raises only
errors of `errors`. -/
def Inspects (program : Program State Error Value) (state : State) (values : Value → Prop)
    (errors : Error → Prop) : Prop :=
  Ends program state
    ⟨fun value t => t = state ∧ values value, fun error t => t = state ∧ errors error,
      fun t => t = state⟩

variable {values : Value → Prop} {errors : Error → Prop} (h : Inspects program state values errors)

include h in
theorem Inspects.state_eq (verdicts : List Verdict) : (program state verdicts).2.1 = state := by
  have hends := h verdicts
  revert hends
  cases (program state verdicts).1 with
  | returned value | raised error => exact fun hends => hends.1
  | crashed => exact fun hends => hends

theorem inspects_pure (h : values value) : Inspects (pure value) state values errors :=
  ends_pure ⟨rfl, h⟩

theorem inspects_raise (h : errors error) :
    Inspects (Program.raise error : Program State Error Value) state values errors :=
  ends_raise ⟨rfl, h⟩

variable {look : State → Except Error Value}

theorem inspects_inspect (returned : ∀ value, look state = .ok value → values value)
    (raised : ∀ error, look state = .error error → errors error) (failed : errors refused) :
    Inspects (Program.inspect refused look) state values errors := by
  refine ends_call (fun value t h => ?_) (fun error h => ?_) (fun _ => ⟨rfl, failed⟩) (fun _ => rfl)
  · cases hl : look state with
    | error error =>
      rw [hl] at h
      cases h
    | ok found =>
      rw [hl] at h
      cases h
      exact ⟨rfl, returned value hl⟩
  · cases hl : look state with
    | error found =>
      rw [hl] at h
      cases h
      exact ⟨rfl, raised error hl⟩
    | ok found =>
      rw [hl] at h
      cases h

theorem inspects_demand {condition : Prop} [Decidable condition] (h : errors error) :
    Inspects (Program.demand condition error) state (fun _ => condition) errors := by
  unfold Program.demand
  split
  · exact inspects_pure ‹_›
  · exact inspects_raise h

theorem inspects_orRaise {found : Option Value} (h : errors error) :
    Inspects (Program.orRaise found error) state (fun value => found = some value) errors := by
  cases found with
  | none => exact inspects_raise h
  | some value => exact inspects_pure rfl

variable {result : Except Error Value}

theorem inspects_ofExcept (h : ∀ error, result = .error error → errors error) :
    Inspects (Program.ofExcept result) state (fun value => result = .ok value) errors := by
  cases result with
  | error error => exact inspects_raise (h error rfl)
  | ok value => exact inspects_pure rfl

theorem inspects_forEach {body : Item → Program State Error Unit}
    {items : List Item} {seen : Item → Prop}
    (h : ∀ item ∈ items, Inspects (body item) state (fun _ => seen item) errors) :
    Inspects (Program.forEach body items) state (fun _ => ∀ item ∈ items, seen item) errors := by
  induction items with
  | nil => exact inspects_pure (by simp)
  | cons item rest ih =>
    refine Ends.bind (h item (by simp)) ?_ (fun _ _ h => h) (fun _ h => h)
    rintro _ t ⟨rfl, hi⟩
    refine Ends.mono (ih fun other ho => h other (by simp [ho])) ?_ (fun _ _ h => h)
      (fun _ h => h)
    rintro _ t ⟨rfl, hr⟩
    exact ⟨rfl, by simpa using ⟨hi, hr⟩⟩

theorem Inspects.bind {values' : Value' → Prop} (hfst : Inspects first state values errors)
    (hn : ∀ value, values value → Inspects (next value) state values' errors) :
    Inspects (first >>= next) state values' errors := by
  refine Ends.bind hfst ?_ (fun _ _ h => h) (fun _ h => h)
  rintro value t ⟨rfl, h⟩
  exact hn value h

include h in
theorem Inspects.mono {values' : Value → Prop} {errors' : Error → Prop}
    (hvalues : ∀ value, values value → values' value)
    (herrors : ∀ error, errors error → errors' error) : Inspects program state values' errors' :=
  Ends.mono h (fun value _ h => ⟨h.1, hvalues value h.2⟩)
    (fun error _ h => ⟨h.1, herrors error h.2⟩) (fun _ h => h)

variable {errors' : Error' → Prop}

include h

theorem Inspects.mapError {f : Error → Error'} (herrors : ∀ error, errors error → errors' (f error))
    : Inspects (program.mapError f) state values errors' :=
  Ends.mapError h (fun _ _ h => h) (fun error _ h => ⟨h.1, herrors error h.2⟩) (fun _ h => h)

theorem inspects_attempt :
    Inspects program.attempt state (fun found => ∀ value, found = some value → values value)
      errors' := by
  intro verdicts
  have hends := h verdicts
  unfold Program.attempt
  revert hends
  generalize program state verdicts = result
  obtain ⟨outcome, t, rest⟩ := result
  cases outcome with
  | returned value =>
    rintro ⟨rfl, hvalue⟩
    refine ⟨rfl, ?_⟩
    rintro _ ⟨⟩
    exact hvalue
  | raised error =>
    rintro ⟨rfl, -⟩
    refine ⟨rfl, ?_⟩
    rintro _ ⟨⟩
  | crashed => exact fun hends => hends

theorem Inspects.and {values' : Value → Prop} {errors' : Error → Prop}
    (h' : Inspects program state values' errors') :
    Inspects program state (fun value => values value ∧ values' value) errors := by
  intro verdicts
  have hends := h verdicts
  have hends' := h' verdicts
  revert hends hends'
  cases (program state verdicts).1 with
  | returned value => exact fun hends hends' => ⟨hends.1, hends.2, hends'.2⟩
  | raised error | crashed => exact fun hends _ => hends

omit h

theorem Ends.bind_inspects {post : Post State Error Value'}
    (hfst : Inspects first state values errors)
    (hn : ∀ value, values value → Ends (next value) state post)
    (raised : ∀ error, errors error → post.raised error state) (crashed : post.crashed state) :
    Ends (first >>= next) state post := by
  refine Ends.bind hfst ?_ ?_ ?_
  · rintro value t ⟨rfl, h⟩
    exact hn value h
  · rintro error t ⟨rfl, h⟩
    exact raised error h
  · rintro t rfl
    exact crashed

theorem Inspects.bind_congr
    {next next' : Value → Program State Error Value'} (hfst : Inspects first state values errors)
    (hs : ∀ value, values value → ∀ verdicts, next value state verdicts = next' value state verdicts)
    (verdicts : List Verdict) :
    (first >>= next) state verdicts = (first >>= next') state verdicts := by
  have hends := hfst verdicts
  show Program.bind first next state verdicts = Program.bind first next' state verdicts
  unfold Program.bind
  revert hends
  generalize first state verdicts = result
  obtain ⟨outcome, t, rest⟩ := result
  cases outcome with
  | returned value =>
    rintro ⟨rfl, hvalue⟩
    exact hs value hvalue rest
  | raised error | crashed => exact fun _ => rfl

def Keeps (inv : State → Prop) (program : Program State Error Value) : Prop :=
  ∀ state, inv state → Ends program state ⟨fun _ => inv, fun _ => inv, inv⟩

section

variable {inv : State → Prop}

theorem keeps_pure (value : Value) : Keeps inv (pure value : Program State Error Value) :=
  fun _ h => ends_pure h

theorem keeps_raise (error : Error) : Keeps inv (Program.raise error : Program State Error Value) :=
  fun _ h => ends_raise h

theorem Keeps.bind (hfst : Keeps inv first)
    (hn : ∀ value, Keeps inv (next value)) : Keeps inv (first >>= next) :=
  fun state h => Ends.bind (hfst state h) (fun value t ht => hn value t ht)
    (fun _ _ ht => ht) fun _ ht => ht

theorem keeps_inspect (refused : Error) (look : State → Except Error Value) :
    Keeps inv (Program.inspect refused look) := by
  intro state h
  have hl : Inspects (Program.inspect refused look) state (fun _ => True) fun _ => True :=
    inspects_inspect (fun _ _ => trivial) (fun _ _ => trivial) trivial
  exact Ends.mono hl (fun _ _ ht => ht.1 ▸ h) (fun _ _ ht => ht.1 ▸ h) fun _ ht => ht ▸ h

theorem keeps_atomic (hchange : ∀ state, inv state → inv (change state)) :
    Keeps inv (Program.atomic refused change) :=
  fun state h => ends_atomic (hchange state h) h h (hchange state h)

theorem keeps_gradual {part : Nat → State → State}
    (hchange : ∀ state, inv state → inv (change state))
    (hpart : ∀ progress state, inv state → inv (part progress state)) :
    Keeps inv (Program.gradual refused change part) :=
  fun state h => ends_gradual (hchange state h) (fun progress => hpart progress state h)
    fun progress => hpart progress state h

theorem keeps_forEach {body : Item → Program State Error Unit}
    (hbody : ∀ item, Keeps inv (body item)) (items : List Item) :
    Keeps inv (Program.forEach body items) := by
  induction items with
  | nil => exact keeps_pure ()
  | cons item rest ih => exact Keeps.bind (hbody item) fun _ => ih

theorem Keeps.attempt (h : Keeps inv program) :
    Keeps inv (program.attempt : Program State Error' (Option Value)) := by
  intro state hs verdicts
  have hends := h state hs verdicts
  unfold Program.attempt
  revert hends
  generalize program state verdicts = result
  obtain ⟨outcome, t, rest⟩ := result
  cases outcome with
  | returned value | raised error | crashed => exact fun hends => hends

end

/-- With no verdict against it, the program returns `value` and leaves `after`. -/
def Completes (program : Program State Error Value) (before : State) (value : Value)
    (after : State) : Prop :=
  program before [] = (.returned value, after, [])

/-- With no verdict against it, the program raises `error` and leaves `after`. -/
def Refuses (program : Program State Error Value) (before : State) (error : Error)
    (after : State) : Prop :=
  program before [] = (.raised error, after, [])

variable {before after : State}

theorem Ends.of_completes (h : Ends program before post)
    (hcompls : Completes program before value after) : post.returned value after := by
  have hends := h []
  rw [hcompls] at hends
  exact hends

theorem Completes.state_eq {after' : State} {value' : Value}
    (h : Completes program before value after) (h' : Completes program before value' after') :
    after = after' := by
  have hs := h.symm.trans h'
  simp only [Prod.mk.injEq] at hs
  exact hs.2.1

theorem completes_pure (value : Value) (state : State) :
    Completes (pure value : Program State Error Value) state value state := rfl

theorem completes_inspect (h : look state = .ok value) :
    Completes (Program.inspect refused look) state value state := by
  unfold Completes Program.inspect Program.call
  simp only [h]
  rfl

theorem completes_demand {condition : Prop} [Decidable condition] (h : condition) :
    Completes (Program.demand condition error) state () state := by
  unfold Completes Program.demand
  rw [if_pos h]
  rfl

theorem completes_atomic :
    Completes (Program.atomic refused change) state () (change state) := rfl

theorem completes_orRaise :
    Completes (Program.orRaise (some value) error) state value state := rfl

theorem completes_ofExcept (h : result = .ok value) :
    Completes (Program.ofExcept result) state value state := by
  rw [h]
  rfl

theorem completes_attempt_inspect :
    Completes (Program.attempt (Program.inspect refused look) : Program State Error' _) state
      (look state).toOption state := by
  unfold Completes Program.attempt Program.inspect Program.call
  cases hl : look state with
  | error error | ok value => simp [hl, Except.map, Except.toOption]

/-- The second part goes on where the first one ended. -/
theorem Completes.bind_apply {mid : State} (hfst : Completes first before value mid) :
    (first >>= next) before [] = next value mid [] := by
  show Program.bind first next before [] = _
  unfold Program.bind
  rw [hfst]

theorem Completes.bind {mid : State} {value' : Value'} (hfst : Completes first before value mid)
    (hn : Completes (next value) mid value' after) :
    Completes (first >>= next) before value' after :=
  hfst.bind_apply.trans hn

theorem Refuses.bind (hfst : Refuses first before error after) :
    Refuses (first >>= next) before error after := by
  show Program.bind first next before [] = _
  unfold Program.bind
  rw [hfst]

theorem completes_forEach {body : Item → Program State Error Unit}
    {items : List Item} (h : ∀ item ∈ items, Completes (body item) state () state) :
    Completes (Program.forEach body items) state () state := by
  induction items with
  | nil => exact completes_pure () state
  | cons item rest ih =>
    exact Completes.bind (h item List.mem_cons_self)
      (ih fun other ho => h other (List.mem_cons_of_mem _ ho))

end Faulty
