set_option autoImplicit false

namespace WalletKit.Process

variable {State Event Answer : Type}

/-- The answers to events, the first one first. -/
def answers (handle : State → Event → Answer × State) : State → List Event → List Answer
  | _, [] => []
  | state, event :: rest => (handle state event).1 :: answers handle (handle state event).2 rest

def after (handle : State → Event → Answer × State) (state : State) (events : List Event) : State :=
  events.foldl (fun state event => (handle state event).2) state

variable (handle : State → Event → Answer × State)

theorem after_append (state : State) (front back : List Event) :
    after handle state (front ++ back) = after handle (after handle state front) back :=
  List.foldl_append

theorem after_concat (state : State) (front : List Event) (event : Event) :
    after handle state (front ++ [event]) = (handle (after handle state front) event).2 :=
  after_append handle state front [event]

/-- The answer to an event is what the handler says in the state that the events before it leave. -/
theorem getElem?_answers (state : State) (front : List Event) (event : Event) (back : List Event) :
    (answers handle state (front ++ event :: back))[front.length]? =
      some (handle (after handle state front) event).1 := by
  induction front generalizing state with
  | nil => rfl
  | cons first front ih => exact ih (handle state first).2

/-- What every event keeps is kept by all of them together. -/
theorem after_invariant {handle : State → Event → Answer × State} (kept : State → Prop)
    (step : ∀ state event, kept state → kept (handle state event).2) {state : State}
    (start : kept state) (events : List Event) : kept (after handle state events) := by
  induction events generalizing state with
  | nil => exact start
  | cons event events ih => exact ih (step state event start)

end WalletKit.Process
