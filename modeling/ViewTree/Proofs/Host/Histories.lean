import ViewTree.Host
import ViewTree.Proofs.Render.Reached

/-!
# Host — sessions and what was called before

A session answers by its settings and by what its cache has under each key, and under a key there
is what the last call left that had an effect on it.  Calls that came earlier, and calls that were
refused, leave no trace, nor does the order of calls on different keys.

* `Call.leaves?`: what a call leaves under a key, if it has an effect on it.
* `get?_call`, `get?_run`: what is known of a key after one call and after any number of them.
* `responses_congr`: sessions that know the same answer every further call in the same way.
* `run_history`: so histories with the same last calls cannot be told apart.
-/

namespace ViewTree.Host.Session

/-! ### Calls -/

/-- A call of a host on a session. -/
inductive Call where
  | render (node scope : String)
  | answer (key result : String)
  | giveUp (key message : String)
  | forget (key : String)
  | forgetAll

/-- What a host gets for a call. -/
inductive Response where
  /-- The text of a render. -/
  | rendered (text : String)
  | done
  | refused (why : Refusal)
  /-- Whether there was anything to forget. -/
  | forgotten (known : Bool)

/-- A session after a call, with what the host got for it. -/
structure Called where
  response : Response
  session : Session

/-- What a call gives and leaves. -/
def call (s : Session) : Call → Called
  | .render node scope => ⟨.rendered (write (s.surface node scope)), s⟩
  | .answer key result => match s.answer key result with
    | .ok after => ⟨.done, after⟩
    | .error why => ⟨.refused why, s⟩
  | .giveUp key message => ⟨.done, s.giveUp key message⟩
  | .forget key => ⟨.forgotten (s.knows key), s.forget key⟩
  | .forgetAll => ⟨.done, s.forgetAll⟩

/-- The session after some calls. -/
def run (s : Session) (calls : List Call) : Session :=
  calls.foldl (fun s c => (s.call c).session) s

/-- What a host gets for some calls. -/
def responses (s : Session) : List Call → List Response
  | [] => []
  | c :: cs => (s.call c).response :: responses (s.call c).session cs

/-- What a call leaves under a key, an entry or none, if it has an effect on it.  An answer that
cannot be read has none. -/
def Call.leaves? (key : String) : Call → Option (Option Entry)
  | .render _ _ => none
  | .answer other result =>
    if other = key then (read .result result).toOption.map fun v => some (.ready v) else none
  | .giveUp other message => if other = key then some (some (.failed message)) else none
  | .forget other => if other = key then some none else none
  | .forgetAll => some none

/-- What the last of some calls with an effect on a key left under it, and nothing if there was no
such call. -/
def lastLeft (key : String) (calls : List Call) : Option Entry :=
  ((calls.filterMap (Call.leaves? key)).getLast?).join

/-! ### What is known after some calls -/

/-- A text is refused if it is neither blank nor a document. -/
theorem read_eq_error_iff (argument : Argument) {text : String} :
    (∃ why, read argument text = .error why) ↔
      Text.allBlank text.toList = false ∧ Json.parse? Json.maxLevels text = none := by
  rw [read]
  split
  · next hblank => exact ⟨nofun, fun h => absurd (hblank.symm.trans h.1) nofun⟩
  · next hblank =>
      split
      · next hparse => exact ⟨nofun, fun h => absurd (hparse.symm.trans h.2) nofun⟩
      · next hparse => exact ⟨fun _ => ⟨Bool.eq_false_iff.2 hblank, hparse⟩, fun _ => ⟨_, rfl⟩⟩

theorem answer_of_read {key result : String} {v : Value} (h : read .result result = .ok v)
    (s : Session) :
    s.call (.answer key result) = ⟨.done, s.settings, s.cache.insert key (.ready v)⟩ := by
  rw [call, answer, h]
  rfl

theorem answer_of_not_read {key result : String} {why : Refusal}
    (h : read .result result = .error why) (s : Session) :
    s.call (.answer key result) = ⟨.refused why, s⟩ := by
  rw [call, answer, h]
  rfl

theorem settings_call (s : Session) (c : Call) : (s.call c).session.settings = s.settings := by
  cases c with
  | answer key result =>
      cases h : read .result result with
      | ok v => rw [answer_of_read h]
      | error why => rw [answer_of_not_read h]
  | render _ _ | giveUp _ _ | forget _ | forgetAll => rfl

/-- **One call.**  Under each key there is what the call left, or what there was before. -/
theorem get?_call (s : Session) (c : Call) (key : String) :
    (s.call c).session.cache.get? key = (c.leaves? key).getD (s.cache.get? key) := by
  cases c with
  | render node scope => rfl
  | answer other result =>
      cases h : read .result result with
      | ok v =>
          rw [answer_of_read h, Call.leaves?, h, Cache.get?_insert]
          split <;> rfl
      | error why =>
          rw [answer_of_not_read h, Call.leaves?, h]
          split <;> rfl
  | giveUp other message =>
      rw [call, giveUp, Call.leaves?, Cache.get?_insert]
      split <;> rfl
  | forget other =>
      rw [call, forget, Call.leaves?, Cache.get?_forget]
      split <;> rfl
  | forgetAll => rfl

/-- **Any number of calls.**  Under each key there is what the last call with an effect on it left,
or what there was before. -/
theorem get?_run (s : Session) (calls : List Call) (key : String) :
    (s.run calls).cache.get? key =
      ((calls.filterMap (Call.leaves? key)).getLast?).getD (s.cache.get? key) := by
  induction calls generalizing s with
  | nil => rfl
  | cons c cs ih =>
      rw [run, List.foldl_cons]
      refine (ih (s.call c).session).trans ?_
      rw [get?_call, List.filterMap_cons]
      cases c.leaves? key with
      | none => rfl
      | some left =>
          rw [List.getLast?_cons, Option.getD_some, Option.getD_some]

theorem settings_run (s : Session) (calls : List Call) : (s.run calls).settings = s.settings := by
  induction calls generalizing s with
  | nil => rfl
  | cons c cs ih => exact (ih (s.call c).session).trans (settings_call s c)

theorem start_eq_ok {settings : String} {s : Session} (h : start settings = .ok s) :
    s.cache = .empty := by
  rw [start] at h
  split at h
  · cases h
    rfl
  · cases hr : readSettings settings with
    | ok c => rw [hr] at h; cases h; rfl
    | error why => rw [hr] at h; cases h

theorem get?_run_start {settings : String} {s : Session} (h : start settings = .ok s)
    (calls : List Call) (key : String) :
    (s.run calls).cache.get? key = lastLeft key calls := by
  rw [get?_run, start_eq_ok h, lastLeft, Cache.get?_empty]
  cases (calls.filterMap (Call.leaves? key)).getLast? <;> rfl

/-! ### Sessions that know the same -/

/-- Sessions with the same settings that know the same under each key. -/
structure Alike (s t : Session) : Prop where
  settings : s.settings = t.settings
  known : ∀ key, s.cache.get? key = t.cache.get? key

section Alike

variable {s t : Session} (h : s.Alike t)

include h

theorem surface_congr (node scope : String) : s.surface node scope = t.surface node scope := by
  rw [surface, surface, surfaceBy, surfaceBy]
  cases read .node node with
  | error why => rfl
  | ok v =>
      cases readScope scope with
      | error why => rfl
      | ok context =>
          have hrender : (Renderer.plain s.settings).render s.cache v context =
              (Renderer.plain s.settings).render t.cache v context :=
            Renderer.renderAt_eq_of_agree fun request _ => h.known request.key
          exact congrArg Except.ok (hrender.trans (by rw [h.settings]))

/-- Sessions that know the same give the same for a call. -/
theorem response_congr (c : Call) : (s.call c).response = (t.call c).response := by
  cases c with
  | render node scope => rw [call, call, surface_congr h]
  | answer key result =>
      cases hr : read .result result with
      | ok v => rw [answer_of_read hr, answer_of_read hr]
      | error why => rw [answer_of_not_read hr, answer_of_not_read hr]
  | forget key => rw [call, call, knows, knows, Cache.isFree, Cache.isFree, h.known key]
  | giveUp _ _ | forgetAll => rfl

/-- Sessions that know the same do so after a call. -/
theorem Alike.call (c : Call) : (s.call c).session.Alike (t.call c).session where
  settings := by rw [settings_call, settings_call, h.settings]
  known key := by rw [get?_call, get?_call, h.known key]

/-- Sessions that know the same cannot be told apart by any calls. -/
theorem responses_congr (calls : List Call) : s.responses calls = t.responses calls := by
  induction calls generalizing s t with
  | nil => rfl
  | cons c cs ih => rw [responses, responses, response_congr h, ih (h.call c)]

end Alike

theorem knows_iff {s : Session} {key : String} :
    s.knows key = true ↔ ∃ entry, s.cache.get? key = some entry := by
  rw [knows, Cache.isFree]
  cases s.cache.get? key with
  | none => simp
  | some entry => simp

/-! ### Histories -/

/-- **What was called before shows only in the last calls.**  Of two histories of sessions with the
same settings, where for each key the last calls with an effect on it left the same, no further
calls get different responses.  A render leaves the session as it is, and so does an answer that is
refused, which is one that is neither blank nor a document.  Forgetting says whether anything was
known, which is what the last call with an effect left. -/
theorem run_history (settings : String) (s : Session) (hs : start settings = .ok s)
    (calls others : List Call) (h : ∀ key, lastLeft key calls = lastLeft key others) :
    (∀ node scope, write ((s.run calls).surface node scope) =
      write ((s.run others).surface node scope)) ∧
    (∀ later, (s.run calls).responses later = (s.run others).responses later) ∧
    (∀ (t : Session) (node scope : String), (t.call (.render node scope)).session = t) ∧
    (∀ (t : Session) (key result : String) (why : Refusal),
      (t.call (.answer key result)).response = .refused why →
        (t.call (.answer key result)).session = t) ∧
    (∀ (t : Session) (key result : String),
      (∃ why, (t.call (.answer key result)).response = .refused why) ↔
        Text.allBlank result.toList = false ∧ Json.parse? Json.maxLevels result = none) ∧
    (∀ (t : Session) (key : String), ∃ known,
      (t.call (.forget key)).response = .forgotten known ∧
        (known = true ↔ ∃ entry, t.cache.get? key = some entry)) ∧
    ∀ key, (s.run calls).cache.get? key = lastLeft key calls := by
  have halike : (s.run calls).Alike (s.run others) := by
    refine ⟨by rw [settings_run, settings_run], fun key => ?_⟩
    rw [get?_run_start hs, get?_run_start hs, h key]
  refine ⟨?_, responses_congr halike, fun t node scope => rfl, ?_, ?_, ?_,
    get?_run_start hs calls⟩
  · intro node scope
    rw [surface_congr halike]
  · intro t key result why hwhy
    cases hr : read .result result with
    | ok v => rw [answer_of_read hr] at hwhy; cases hwhy
    | error other => rw [answer_of_not_read hr]
  · intro t key result
    rw [← read_eq_error_iff .result]
    cases hr : read .result result with
    | ok v => rw [answer_of_read hr]; exact ⟨nofun, nofun⟩
    | error why => rw [answer_of_not_read hr]; exact ⟨fun _ => ⟨why, rfl⟩, fun _ => ⟨why, rfl⟩⟩
  · intro t key
    exact ⟨t.knows key, rfl, knows_iff⟩

/-- A key is given up, answered by a blank text and then by one that is cut off, and another one
was known for a while. -/
def manyCalls : List Call :=
  [.answer "b" "null", .giveUp "a" "gone", .render "x" "", .answer "a" " ", .forget "b",
    .answer "a" "\x7b"]

/-- The same is known at once. -/
def fewCalls : List Call := [.forgetAll, .answer "a" ""]

theorem lastLeft_manyCalls (key : String) : lastLeft key manyCalls = lastLeft key fewCalls := by
  have hnull : read .result "null" = .ok .null := by with_unfolding_all rfl
  have hspace : read .result " " = .ok .undefined := by with_unfolding_all rfl
  have hnone : read .result "" = .ok .undefined := by with_unfolding_all rfl
  have hcut : read .result "\x7b" = .error (.badArgument .result) := by with_unfolding_all rfl
  by_cases ha : "a" = key
  · subst ha
    simp [lastLeft, manyCalls, fewCalls, List.filterMap_cons, Call.leaves?, hspace, hnone, hcut,
      Except.toOption]
  · by_cases hb : "b" = key
    · subst hb
      simp [lastLeft, manyCalls, fewCalls, List.filterMap_cons, Call.leaves?, hnull,
        Except.toOption]
    · simp [lastLeft, manyCalls, fewCalls, List.filterMap_cons, Call.leaves?, ha, hb]

theorem run_history_manyCalls :
    start "" = .ok ⟨.default, .empty⟩ ∧
    (∀ key, lastLeft key manyCalls = lastLeft key fewCalls) ∧
    ∀ later, ((⟨.default, .empty⟩ : Session).run manyCalls).responses later =
      ((⟨.default, .empty⟩ : Session).run fewCalls).responses later := by
  have hstart : start "" = .ok ⟨.default, .empty⟩ := by with_unfolding_all rfl
  exact ⟨hstart, lastLeft_manyCalls,
    (run_history "" _ hstart manyCalls fewCalls lastLeft_manyCalls).2.1⟩

end ViewTree.Host.Session
