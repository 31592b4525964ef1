import Mathlib.Data.List.Forall2
import ViewTree.Proofs.Handler.Calls

/-!
# Handler — handlers that share an event

An event of the host may have several handlers.  They are invoked in turn, and each finds the event
as the one before it left it, so once one of them has prevented the default action the later ones
see that it is prevented.  A handler prevents it before it makes its call, whatever the host then
answers.

* `Event.met_all_eq`: what some handlers make of an event.
* `invokeInTurn_recording`: invoking handlers in turn makes one call for each, which depends on the
  event and the handlers alone.
* `invokeInTurn_prevented`: what every call shows of the event.
-/

namespace ViewTree

/-! ### An event and its handlers -/

namespace Event

/-- The event once a handler is invoked on it. -/
def met (e : Event) (h : Handler) : Event :=
  if h.preventsDefault then e.prevent else e

/-- A handler changes nothing but whether the default action is prevented. -/
theorem met_eq (e : Event) (h : Handler) :
    e.met h = { e with prevented := e.prevented || (e.cancelable && h.preventsDefault) } := by
  obtain ⟨kind, value, detail, cancelable, prevented⟩ := e
  rw [met]
  cases h.preventsDefault with
  | false => simp
  | true => cases cancelable <;> simp [prevent]

/-- Handlers one after the other prevent the default action if there is one and one of them does. -/
theorem met_all_eq (e : Event) (hs : List Handler) :
    hs.foldl met e =
      { e with prevented := e.prevented || (e.cancelable && hs.any Handler.preventsDefault) } := by
  induction hs generalizing e with
  | nil => simp
  | cons h hs ih =>
      rw [List.foldl_cons, ih, met_eq, List.any_cons]
      simp only [Bool.and_or_distrib_left, Bool.or_assoc]

end Event

namespace Handler

theorem received_event (h : Handler) (e : Event) : h.received (.event e) = .event (e.met h) := by
  rw [received, Event.met]
  split <;> rfl

/-! ### Invoking in turn -/

/-- What handlers leave that are invoked in turn. -/
structure Turns (σ : Type) where
  /-- How the invocations ended, the first one first. -/
  outcomes : List Outcome
  /-- The input, with the default action of its event maybe prevented. -/
  input : Input
  state : σ

variable {σ : Type}

/-- Invokes handlers in turn on one input, each on what the one before it left of the input. -/
def invokeInTurn (runner : Runner σ) : List Handler → Input → σ → Turns σ
  | [], input, s => ⟨[], input, s⟩
  | h :: hs, input, s =>
    let invocation := h.invoke runner input s
    let rest := invokeInTurn runner hs invocation.input invocation.state
    { rest with outcomes := invocation.outcome :: rest.outcomes }

/-- The calls that handlers make that are invoked in turn. -/
def callsInTurn : List Handler → Input → List Call
  | [], _ => []
  | h :: hs, input => h.call input :: callsInTurn hs (h.received input)

/-- What handlers leave, with the calls written down. -/
def Turns.withCalls (turns : Turns σ) (calls : List Call) : Turns (σ × List Call) :=
  ⟨turns.outcomes, turns.input, (turns.state, calls)⟩

/-- Whatever the host answers, it is called once for each handler. -/
theorem invokeInTurn_recording (runner : Runner σ) (hs : List Handler) (input : Input) (s : σ)
    (calls : List Call) :
    invokeInTurn runner.recording hs input (s, calls) =
      (invokeInTurn runner hs input s).withCalls (calls ++ callsInTurn hs input) := by
  induction hs generalizing input s calls with
  | nil =>
      rw [callsInTurn, List.append_nil]
      rfl
  | cons h hs ih =>
      have hfirst : h.invoke runner.recording input (s, calls) =
          ⟨(h.invoke runner input s).outcome, h.received input,
            (h.invoke runner input s).state, calls ++ [h.call input]⟩ := rfl
      rw [invokeInTurn, hfirst]
      simp only [ih, callsInTurn, List.append_assoc, List.singleton_append]
      rfl

/-- What is left of the event does not depend on what the host answers. -/
theorem input_invokeInTurn (runner : Runner σ) (hs : List Handler) (e : Event) (s : σ) :
    (invokeInTurn runner hs (.event e) s).input = .event (hs.foldl Event.met e) := by
  induction hs generalizing e s with
  | nil => rfl
  | cons h hs ih =>
      have hfirst : (h.invoke runner (.event e) s).input = .event (e.met h) := received_event h e
      rw [invokeInTurn, List.foldl_cons, ← ih (e.met h), ← hfirst]

/-- Each handler makes its own call. -/
theorem descriptor_callsInTurn (hs : List Handler) (input : Input) :
    List.Forall₂ (fun h call => call.descriptor = h.descriptor) hs (callsInTurn hs input) := by
  induction hs generalizing input with
  | nil => exact .nil
  | cons h hs ih => exact .cons rfl (ih _)

/-- Each call is made on the event as the handlers before it leave it. -/
theorem getElem?_callsInTurn (hs : List Handler) (e : Event) (i : Nat) :
    (callsInTurn hs (.event e))[i]? =
      hs[i]?.map fun h => h.call (.event ((hs.take i).foldl Event.met e)) := by
  induction hs generalizing e i with
  | nil => rfl
  | cons h hs ih =>
      rw [callsInTurn, received_event]
      cases i with
      | zero => rfl
      | succ i => rw [List.getElem?_cons_succ, ih]; rfl

end Handler

/-! ### What a call shows of an event -/

/-- A call shows an event as it is but for one field, which says whether its default action is
prevented, and has its value among the arguments. -/
structure Call.Shows (call : Call) (e : Event) (prevented : Bool) : Prop where
  event : ∃ record, call.scope.get? eventName = some record ∧
    record.get? "default_prevented" = some (.bool prevented) ∧
    ∀ name, name ≠ "default_prevented" → record.get? name = e.toValue.get? name
  value : ∃ args, call.scope.get? argsName = some (.record args) ∧
    Fields.get? args valueName = some e.value

theorem Call.Shows.unique {call : Call} {e : Event} {b c : Bool} (hb : call.Shows e b)
    (hc : call.Shows e c) : b = c := by
  obtain ⟨record, hrecord, hflag, -⟩ := hb.event
  obtain ⟨other, hother, hsecond, -⟩ := hc.event
  cases hrecord.symm.trans hother
  cases hflag.symm.trans hsecond
  rfl

theorem Event.get?_toValue (e : Event) (name : String) :
    e.toValue.get? name =
      if "default_prevented" = name then some (.bool e.prevented)
      else if "detail" = name then some e.detail
      else if valueName = name then some e.value
      else if "type" = name then some (.text e.kind)
      else none :=
  Fields.get?_ofList _ name

/-- A handler that meets an event makes a call that shows it, with the flag as the handler leaves
it. -/
theorem Handler.shows_call (h : Handler) (e : Event) (prevented : Bool) :
    (h.call (.event { e with prevented := prevented })).Shows e
      (prevented || (e.cancelable && h.preventsDefault)) := by
  let seen : Event := { e with prevented := prevented || (e.cancelable && h.preventsDefault) }
  have hcall : h.call (.event { e with prevented := prevented }) =
      ⟨h.descriptor, h.runScope (.event seen)⟩ := by
    rw [call, received_event, Event.met_eq]
  rw [hcall]
  refine ⟨⟨seen.toValue, ?_, ?_, ?_⟩, Fields.insert valueName e.value h.captured, ?_, ?_⟩
  · rw [get?_runScope, if_neg (by decide), if_pos rfl]
    rfl
  · rw [Event.get?_toValue, if_pos rfl]
  · intro name hname
    rw [Event.get?_toValue, Event.get?_toValue, if_neg (Ne.symm hname), if_neg (Ne.symm hname)]
  · rw [get?_runScope, if_pos rfl]
    rfl
  · rw [Fields.get?_insert, if_pos rfl]

namespace Handler

variable {σ : Type}

/-- The call of each handler shows the event with the flag that it and those before it leave. -/
theorem shows_of_getElem?_callsInTurn {hs : List Handler} {e : Event} {i : Nat} {call : Call}
    (hcall : (callsInTurn hs (.event e))[i]? = some call) :
    call.Shows e (e.prevented || (e.cancelable && (hs.take (i + 1)).any preventsDefault)) := by
  rw [getElem?_callsInTurn] at hcall
  obtain ⟨h, hi, rfl⟩ := Option.map_eq_some_iff.1 hcall
  have hany : (hs.take (i + 1)).any preventsDefault =
      ((hs.take i).any preventsDefault || h.preventsDefault) := by
    rw [List.take_add_one, hi, List.any_append, Option.toList_some, List.any_cons, List.any_nil,
      Bool.or_false]
  rw [Event.met_all_eq, hany, Bool.and_or_distrib_left, ← Bool.or_assoc]
  exact shows_call h e _

/-- One of the handlers up to a position prevents a default action. -/
theorem any_take_iff {hs : List Handler} {i : Nat} :
    (hs.take (i + 1)).any preventsDefault = true ↔
      ∃ j ≤ i, ∃ h, hs[j]? = some h ∧ h.preventsDefault = true := by
  rw [List.any_eq_true]
  constructor
  · rintro ⟨h, hm, hp⟩
    obtain ⟨j, hj⟩ := List.mem_iff_getElem?.1 hm
    rw [List.getElem?_take] at hj
    split at hj
    · next hlt => exact ⟨j, Nat.le_of_lt_succ hlt, h, hj, hp⟩
    · cases hj
  · rintro ⟨j, hle, h, hj, hp⟩
    refine ⟨h, List.mem_iff_getElem?.2 ⟨j, ?_⟩, hp⟩
    rw [List.getElem?_take, if_pos (Nat.lt_succ_of_le hle), hj]

/-- The default action of an event is prevented from the start, or there is one and a handler up to
a position prevents it. -/
def PreventedUpTo (e : Event) (hs : List Handler) (i : Nat) : Prop :=
  e.prevented = true ∨
    e.cancelable = true ∧ ∃ j ≤ i, ∃ h, hs[j]? = some h ∧ h.preventsDefault = true

theorem PreventedUpTo.mono {e : Event} {hs : List Handler} {i j : Nat}
    (h : PreventedUpTo e hs i) (hle : i ≤ j) : PreventedUpTo e hs j :=
  h.imp_right fun ⟨hc, k, hk, hp⟩ => ⟨hc, k, Nat.le_trans hk hle, hp⟩

theorem exists_shows_of_getElem?_callsInTurn {hs : List Handler} {e : Event} {i : Nat} {call : Call}
    (hcall : (callsInTurn hs (.event e))[i]? = some call) :
    ∃ prevented, call.Shows e prevented ∧ (prevented = true ↔ PreventedUpTo e hs i) := by
  refine ⟨_, shows_of_getElem?_callsInTurn hcall, ?_⟩
  rw [Bool.or_eq_true, Bool.and_eq_true, any_take_iff, PreventedUpTo]

/-- **A default action stays prevented.**  Handlers are invoked in turn on one event, on a host that
may answer each call in any way.  It is called once for each handler; the event that the call shows
is the one that the handlers were invoked on, with its default action prevented exactly if it was
from the start or there is one and this handler or an earlier one prevents it; once a call showed it
prevented all later ones do; and the event is left with nothing else changed. -/
theorem invokeInTurn_prevented (runner : Runner σ) (hs : List Handler) (e : Event) (s : σ) :
    ∃ calls, invokeInTurn runner.recording hs (.event e) (s, []) =
        (invokeInTurn runner hs (.event e) s).withCalls calls ∧
      List.Forall₂ (fun h call => call.descriptor = h.descriptor) hs calls ∧
      (∀ (i : Nat) (call : Call), calls[i]? = some call →
        ∃ prevented, call.Shows e prevented ∧ (prevented = true ↔ PreventedUpTo e hs i)) ∧
      calls.Pairwise (fun earlier later => earlier.Shows e true → later.Shows e true) ∧
      (invokeInTurn runner hs (.event e) s).input =
        .event { e with prevented := e.prevented || (e.cancelable && hs.any preventsDefault) } := by
  refine ⟨callsInTurn hs (.event e), invokeInTurn_recording runner hs (.event e) s [],
    descriptor_callsInTurn hs _, fun i call => exists_shows_of_getElem?_callsInTurn, ?_, ?_⟩
  · rw [List.pairwise_iff_getElem]
    intro i j hi hj hlt hshown
    obtain ⟨first, hfirst, hup⟩ :=
      exists_shows_of_getElem?_callsInTurn (List.getElem?_eq_getElem hi)
    obtain ⟨second, hsecond, hlater⟩ :=
      exists_shows_of_getElem?_callsInTurn (List.getElem?_eq_getElem hj)
    have hprevented : second = true :=
      hlater.2 ((hup.1 (hfirst.unique hshown)).mono (Nat.le_of_lt hlt))
    exact hprevented ▸ hsecond
  · rw [input_invokeInTurn, Event.met_all_eq]

/-- A host that refuses the first call, crashes at the second one and runs all others. -/
def moodyRunner : Runner Nat :=
  fun _ _ n => (match n with
    | 0 => .refused (.unknown "log")
    | 1 => .crashed .unnamed
    | _ => .done, n + 1)

/-- A handler under the default policy. -/
def logged (name : String) : Handler :=
  bind .default .empty name (.named "log")

/-- Three handlers, the second of which prevents default actions. -/
def focusClickBlur : List Handler :=
  [logged "onFocus", logged "onClick", logged "onBlur"]

/-- A click with a value. -/
def click : Event := .create "click" (.text "now") .null true

theorem invokeInTurn_prevented_focusClickBlur :
    ∃ first second third : Call,
      first.Shows click false ∧ second.Shows click true ∧ third.Shows click true ∧
      invokeInTurn moodyRunner.recording focusClickBlur (.event click) (0, []) =
        ⟨[.failed "unknown action 'log'", .failed "panicked", .completed],
          .event { click with prevented := true }, (3, [first, second, third])⟩ := by
  obtain ⟨calls, hrun, hown, hshows, hstays, -⟩ :=
    invokeInTurn_prevented moodyRunner focusClickBlur click 0
  obtain ⟨first, second, third, rfl⟩ : ∃ first second third, calls = [first, second, third] :=
    List.length_eq_three.1 hown.length_eq.symm
  obtain ⟨atFirst, hfirst, hiff⟩ := hshows 0 first rfl
  obtain ⟨atSecond, hsecond, hlater⟩ := hshows 1 second rfl
  have hnone : ¬ PreventedUpTo click focusClickBlur 0 := by
    rintro (h | ⟨-, j, hj, h, hget, hp⟩)
    · cases h
    · cases Nat.le_zero.1 hj
      cases hget
      exact absurd hp (by decide)
  have hone : PreventedUpTo click focusClickBlur 1 :=
    .inr ⟨rfl, 1, Nat.le_refl 1, logged "onClick", rfl, by decide⟩
  have hfalse : atFirst = false := Bool.eq_false_iff.2 fun h => hnone (hiff.1 h)
  have htrue : atSecond = true := hlater.2 hone
  rw [hfalse] at hfirst
  rw [htrue] at hsecond
  have hthird := (List.pairwise_cons.1 (List.pairwise_cons.1 hstays).2).1 third (.head _)
  exact ⟨first, second, third, hfirst, hsecond, hthird hsecond, hrun.trans rfl⟩

end Handler

end ViewTree
