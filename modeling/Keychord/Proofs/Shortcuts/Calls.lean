import Keychord.Proofs.Shortcuts.Dispatch
import Keychord.Proofs.Shortcuts.Registry

/-!
# When callbacks are called

Every registration brings a callback of its own. It is current until its pattern is registered anew
or unregistered. Over any history of requests, a callback has been called once for each dispatch
that succeeded while its registration was current and whose event triggered its pattern, and at no
other time. What carries this from one request to the next is that an entry of the registry stands
for a current registration, whatever places the entries have come to.
-/
namespace Keychord.Shortcuts
open Accelerator

/-- What is asked of a registry in use. Matching and dispatching are done on the platform as it is
at the time. -/
inductive Request where
  | register (pattern : String)
  | unregister (pattern : String)
  | matching (p : Platform) (e : KeyEvent)
  | dispatch (p : Platform) (e : KeyEvent)

namespace Request

/-- The request is to register or unregister this pattern. -/
def concerns (pattern : String) : Request → Bool
  | register other => other = pattern
  | unregister other => other = pattern
  | matching _ _ => false
  | dispatch _ _ => false

def isRegistration : Request → Bool
  | register _ => true
  | _ => false

end Request

/-- The pattern of the `n`-th registration, if this is current: nothing that has been asked since
concerns the pattern. -/
def current? : ℕ → List Request → Option String
  | _, [] => none
  | n, .register pattern :: later =>
    match n with
    | 0 => if later.any (·.concerns pattern) then none else some pattern
    | n + 1 => current? n later
  | n, _ :: later => current? n later

/-- How many registrations there have been. -/
def registrations (history : List Request) : ℕ := history.countP Request.isRegistration

lemma registrations_concat (history : List Request) (request : Request) :
    registrations (history ++ [request]) =
      registrations history + if request.isRegistration then 1 else 0 := by
  simp [registrations, List.countP_append]

lemma registrations_register (pattern : String) (later : List Request) :
    registrations (.register pattern :: later) = registrations later + 1 :=
  List.countP_cons_of_pos rfl

lemma registrations_cons_of_ne {request : Request} (h : ∀ pattern, request ≠ .register pattern)
    (later : List Request) : registrations (request :: later) = registrations later := by
  cases request with
  | register pattern => exact absurd rfl (h pattern)
  | _ => exact List.countP_cons_of_neg Bool.false_ne_true

/-- What has not been registered is not current. -/
lemma current?_eq_none {n : ℕ} {history : List Request} (h : registrations history ≤ n) :
    current? n history = none := by
  fun_induction current? n history with
  | case1 => rfl
  | case2 pattern later => simp [registrations_register] at h
  | case3 pattern later => simp [registrations_register] at h
  | case4 pattern later n ih => exact ih (by simpa [registrations_register] using h)
  | case5 n request later hne ih => exact ih (by rwa [registrations_cons_of_ne hne] at h)

/-- Only what concerns its pattern makes a registration another than the current one. -/
lemma current?_concat {n : ℕ} {history : List Request} {request : Request}
    (h : request.isRegistration = true → n ≠ registrations history) :
    current? n (history ++ [request]) =
      (current? n history).filter fun pattern => !request.concerns pattern := by
  fun_induction current? n history with
  | case1 n =>
      cases request with
      | register pattern =>
          cases n with
          | zero => exact absurd rfl (h rfl)
          | succ n => rfl
      | _ => rfl
  | case2 pattern later hany => simp [current?, hany]
  | case3 pattern later hany =>
      rw [Bool.not_eq_true] at hany
      rw [List.cons_append, current?, List.any_append, hany]
      cases hconcerns : request.concerns pattern <;> simp [Option.filter, hconcerns]
  | case4 pattern later n ih =>
      rw [List.cons_append, current?]
      refine ih fun hrequest heq => h hrequest ?_
      rw [registrations_register, heq]
  | case5 n other later hne ih =>
      rw [List.cons_append, current?]
      · rw [registrations_cons_of_ne hne] at h
        exact ih h
      · exact hne

lemma current?_concat_eq_some_iff {n : ℕ} {history : List Request} {request : Request}
    {pattern : String} (h : request.isRegistration = true → n ≠ registrations history) :
    current? n (history ++ [request]) = some pattern ↔
      current? n history = some pattern ∧ request.concerns pattern = false := by
  rw [current?_concat h, Option.filter_eq_some_iff, Bool.not_eq_true']

lemma current?_concat_register (history : List Request) (pattern : String) :
    current? (registrations history) (history ++ [.register pattern]) = some pattern := by
  induction history with
  | nil => rfl
  | cons request history ih =>
      cases request with
      | register other => rwa [registrations_register, List.cons_append, current?]
      | _ =>
          rw [registrations_cons_of_ne (by simp), List.cons_append, current?]
          · exact ih
          · simp

namespace Session

/-- The session after a request. Its answer is left aside. -/
def serve (w : Session) : Request → Session
  | .register pattern => w.register pattern
  | .unregister pattern => (w.unregister pattern).2
  | .matching p e => (w.matching p e).2
  | .dispatch p e => (w.dispatch p e).2

/-- The session after these requests. In the beginning the registry is empty. -/
def after (history : List Request) : Session := history.foldl serve {}

@[simp] lemma after_concat (history : List Request) (request : Request) :
    after (history ++ [request]) = (after history).serve request := by
  rw [after, List.foldl_append]
  rfl

/-- The request is to dispatch an event, and this succeeds. -/
def succeeds (w : Session) : Request → Bool
  | .dispatch p e => (w.dispatch p e).1.isOk
  | _ => false

/-- The entries whose patterns an event triggers. -/
def triggered (p : Platform) (e : KeyEvent) (w : Session) : List (Shortcut ℕ) :=
  w.shortcuts.entries.filter fun entry => (e.triggers entry.pattern).on p = .ok true

lemma triggered_eq {w : Session} (h : firstFault? w.shortcuts.patterns = none) (p : Platform)
    (e : KeyEvent) : w.triggered p e = w.shortcuts.entries.filter (fires p e) := by
  refine List.filter_congr fun entry hentry => ?_
  have hfault := List.findSome?_eq_none_iff.mp h _ (List.mem_map_of_mem hentry)
  rw [KeyEvent.triggers_on_eq, hfault, fires]
  cases (described p entry.pattern).isTriggeredBy e <;> rfl

/-- Either all callbacks of triggered entries are called, or none. -/
lemma calls_dispatch (p : Platform) (e : KeyEvent) (w : Session) :
    (w.dispatch p e).2.calls =
      if (w.dispatch p e).1.isOk then w.calls ++ callsOf e (w.triggered p e) else w.calls := by
  unfold dispatch
  rw [dispatch_eq]
  cases hfault : firstFault? w.shortcuts.patterns with
  | some fault => rfl
  | none =>
      rw [triggered_eq hfault]
      exact run_forM_call e _ w.calls

lemma callbacks_serve (w : Session) (request : Request) :
    (w.serve request).callbacks = w.callbacks + if request.isRegistration then 1 else 0 := by
  cases request <;> rfl

lemma distinct_serve {w : Session} (h : w.shortcuts.Distinct) (request : Request) :
    (w.serve request).shortcuts.Distinct := by
  cases request with
  | register pattern => exact h.register pattern w.callbacks
  | unregister pattern => exact h.unregister pattern
  | matching p e => exact h
  | dispatch p e => exact h

/-- A request puts a new callback in the place of its pattern's, or takes this out, and leaves the
other patterns their callbacks. -/
lemma mem_serve {w : Session} (h : w.shortcuts.Distinct) {request : Request} {pattern : String}
    {n : ℕ} :
    ⟨pattern, n⟩ ∈ (w.serve request).shortcuts.entries ↔
      request = .register pattern ∧ n = w.callbacks ∨
      ⟨pattern, n⟩ ∈ w.shortcuts.entries ∧ request.concerns pattern = false := by
  cases request with
  | register other =>
      refine h.mem_register.trans ?_
      simp [Request.concerns, eq_comm]
  | unregister other =>
      refine mem_unregister.trans ?_
      simp [Request.concerns, eq_comm]
  | matching p e => exact ((or_iff_right (by simp)).trans (and_iff_left rfl)).symm
  | dispatch p e => exact ((or_iff_right (by simp)).trans (and_iff_left rfl)).symm

end Session

open Session

/-- The registry has kept up with the history. -/
structure KeptUp (history : List Request) : Prop where
  callbacks : (after history).callbacks = registrations history
  distinct : (after history).shortcuts.Distinct
  held : ∀ pattern n,
    ⟨pattern, n⟩ ∈ (after history).shortcuts.entries ↔ current? n history = some pattern

lemma KeptUp.concat {history : List Request} (h : KeptUp history) (request : Request) :
    KeptUp (history ++ [request]) := by
  refine ⟨?_, ?_, fun pattern n => ?_⟩
  · rw [after_concat, callbacks_serve, registrations_concat, h.callbacks]
  · rw [after_concat]
    exact distinct_serve h.distinct request
  · rw [after_concat, mem_serve h.distinct, h.callbacks, h.held]
    -- the number of registrations so far is the number of the next one
    by_cases hnew : request.isRegistration = true → n ≠ registrations history
    · rw [current?_concat_eq_some_iff hnew]
      refine or_iff_right ?_
      rintro ⟨rfl, hn⟩
      exact hnew rfl hn
    · cases request with
      | register other =>
          obtain rfl : n = registrations history := by simpa [Request.isRegistration] using hnew
          rw [current?_concat_register, current?_eq_none (Nat.le_refl _)]
          simp
      | _ => simp [Request.isRegistration] at hnew

lemma keptUp (history : List Request) : KeptUp history := by
  induction history using List.reverseRecOn with
  | nil => exact ⟨rfl, distinct_empty, fun pattern n => by simp [after, current?]⟩
  | append_singleton history request ih => exact ih.concat request

/-- Each request of the history with those made before it. -/
def momentsAfter (earlier : List Request) : List Request → List (List Request × Request)
  | [] => []
  | request :: later => (earlier, request) :: momentsAfter (earlier ++ [request]) later

def moments (history : List Request) : List (List Request × Request) := momentsAfter [] history

lemma moments_concat (history : List Request) (request : Request) :
    moments (history ++ [request]) = moments history ++ [(history, request)] := by
  have hafter : ∀ earlier, momentsAfter earlier (history ++ [request]) =
      momentsAfter earlier history ++ [(earlier ++ history, request)] := by
    induction history with
    | nil => simp [momentsAfter]
    | cons first history ih => simp [momentsAfter, ih]
  exact hafter []

/-- At this moment the callback of the `n`-th registration is to be called: the request is to
dispatch an event, this succeeds, the registration is current and the event triggers its pattern. -/
def hears (n : ℕ) (moment : List Request × Request) : Bool :=
  match moment.2 with
  | .dispatch p e =>
    ((after moment.1).dispatch p e).1.isOk &&
      (current? n moment.1).any fun pattern => (e.triggers pattern).on p = .ok true
  | _ => false

/-- The one entry with a callback is that of its registration, if this is current. -/
lemma KeptUp.filter_action {history : List Request} (h : KeptUp history) (n : ℕ) :
    (after history).shortcuts.entries.filter (·.action == n) =
      (current? n history).toList.map fun pattern => ⟨pattern, n⟩ := by
  have hmem : ∀ pattern action,
      (⟨pattern, action⟩ : Shortcut ℕ) ∈ (after history).shortcuts.entries.filter (·.action == n) ↔
        current? n history = some pattern ∧ action = n := by
    intro pattern action
    rw [List.mem_filter, h.held, beq_iff_eq]
    exact and_congr_left fun hn => hn ▸ Iff.rfl
  have hnodup : ((after history).shortcuts.entries.filter (·.action == n)).Nodup :=
    (List.Nodup.of_map _ h.distinct).filter _
  -- the entries have distinct patterns, so that there are no two with one pattern and callback
  cases hcurrent : current? n history with
  | none =>
      refine List.eq_nil_iff_forall_not_mem.mpr ?_
      rintro ⟨pattern, action⟩ hentry
      simpa [hcurrent] using (hmem pattern action).mp hentry
  | some pattern =>
      refine List.perm_singleton.mp ?_
      refine (List.perm_ext_iff_of_nodup hnodup (List.nodup_singleton _)).mpr ?_
      rintro ⟨other, action⟩
      rw [hmem, hcurrent, List.mem_singleton, Shortcut.mk.injEq, Option.some.injEq, eq_comm]

lemma KeptUp.countP_action {history : List Request} (h : KeptUp history) (n : ℕ)
    (q : String → Bool) :
    (after history).shortcuts.entries.countP (fun entry => entry.action == n && q entry.pattern) =
      if (current? n history).any q then 1 else 0 := by
  have hfilter : (after history).shortcuts.entries.countP
      (fun entry => q entry.pattern && entry.action == n) =
      ((after history).shortcuts.entries.filter (·.action == n)).countP fun entry =>
        q entry.pattern := List.countP_filter.symm
  simp only [Bool.and_comm (_ == n), hfilter, h.filter_action n]
  cases current? n history with
  | none => rfl
  | some pattern => cases hq : q pattern <;> simp [hq]

/-- Each dispatch adds one call of a callback or none. -/
lemma callCount_concat {history : List Request} (h : KeptUp history) (request : Request) (n : ℕ) :
    (after (history ++ [request])).callCount n =
      (after history).callCount n + if hears n (history, request) then 1 else 0 := by
  cases request with
  | dispatch p e =>
      rw [after_concat, serve, callCount, calls_dispatch]
      cases hok : ((after history).dispatch p e).1.isOk with
      | false => simp [hears, hok, callCount]
      | true =>
          have hcalled : (callsOf e ((after history).triggered p e)).countP (·.1 == n) =
              if hears n (history, .dispatch p e) then 1 else 0 := by
            rw [callsOf, List.countP_map, triggered, List.countP_filter]
            simp only [hears, hok, Bool.true_and]
            exact h.countP_action n fun pattern => (e.triggers pattern).on p = .ok true
          rw [if_pos rfl, List.countP_append, hcalled]
          rfl
  | _ => rw [after_concat]; rfl

/-- How the callbacks fare that a history of requests brings into the registry. -/
structure CalledWhileCurrent (history : List Request) : Prop where
  /-- A pattern has the callback of its current registration. -/
  held : ∀ pattern n,
    ⟨pattern, n⟩ ∈ (after history).shortcuts.entries ↔ current? n history = some pattern
  /-- A callback has been called once at each moment when it was to hear an event. -/
  counted : ∀ n, (after history).callCount n = (moments history).countP (hears n)
  /-- If a dispatch succeeds, it calls the callbacks of the entries that are triggered, in the order
  of the registry. -/
  ordered : ∀ p e, ((after history).dispatch p e).1.isOk = true →
    ((after history).dispatch p e).2.calls =
      (after history).calls ++ callsOf e ((after history).triggered p e)
  /-- Nothing else calls a callback. -/
  silent : ∀ request, (after history).succeeds request = false →
    ((after history).serve request).calls = (after history).calls
  /-- A pattern keeps its callback unless it is registered or unregistered itself. -/
  kept : ∀ request pattern n, request.concerns pattern = false →
    (⟨pattern, n⟩ ∈ ((after history).serve request).shortcuts.entries ↔
      ⟨pattern, n⟩ ∈ (after history).shortcuts.entries)

/-- Over any history of registering, unregistering, matching and dispatching, a callback is called
as often as a dispatch succeeds while its registration is current and its pattern is triggered. In
each dispatch callbacks are called in the order of the registry. Matching, dispatches that fail, and
requests about other patterns neither call a callback nor replace it. -/
theorem callbacks_called_while_current (history : List Request) : CalledWhileCurrent history where
  held := (keptUp history).held
  counted := by
    intro n
    induction history using List.reverseRecOn with
    | nil => rfl
    | append_singleton history request ih =>
        rw [callCount_concat (keptUp history), ih, moments_concat, List.countP_append]
        simp
  ordered := by
    intro p e hok
    rw [calls_dispatch, if_pos hok]
  silent := by
    intro request hfailed
    cases request with
    | dispatch p e =>
        have hcalls := calls_dispatch p e (after history)
        rwa [show ((after history).dispatch p e).1.isOk = false from hfailed] at hcalls
    | _ => rfl
  kept := by
    intro request pattern n hother
    rw [mem_serve (keptUp history).distinct, hother]
    refine (or_iff_right ?_).trans (and_iff_left rfl)
    rintro ⟨rfl, -⟩
    simp [Request.concerns] at hother

/-- A pattern that is registered again keeps its place and gets a new callback. -/
example :
    let tab : KeyEvent := { label := "Tab" }
    (after [.register "Tab", .register "Tab or F1", .dispatch .other tab, .register "Tab",
      .matching .other tab, .dispatch .other tab]).calls.map Prod.fst = [0, 1, 2, 1] := by
  decide +kernel

end Keychord.Shortcuts
