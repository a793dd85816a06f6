import Keychord.Proofs.Bus.Calls
import Keychord.Proofs.Bus.Subscriptions
import Keychord.Proofs.Shortcuts.Dispatch

/-!
# Registries that are released

A registry on a bus starts its callbacks when it is called: first it finds the shortcuts that the
event triggers, then it starts their callbacks one after another. The bus asks whether the registry
is still there before it calls it, but not before every callback. So if the subscription is released
by one of the callbacks, those that are still to come in the same dispatch are started all the same.
That is all: whoever else releases it, and whenever, no callback is started afterwards.
-/
namespace Keychord.Shortcuts
open Bus Happening

variable {σ β κ α : Type}

/-- The start of a callback, with the world in which it is started. -/
structure Start (κ σ β : Type) where
  callback : κ
  world : World σ KeyEvent β

section Starts

variable (detect : Program σ KeyEvent β Platform)
  (take : κ → KeyEvent → Program σ KeyEvent β Unit)

/-- Runs a callback and notes down that it was started. -/
def runNoted (k : κ) (e : KeyEvent) : StateM (World σ KeyEvent β × List (Start κ σ β)) Unit :=
  fun (w, starts) => ((), ((take k e).run w).2, starts ++ [⟨k, w⟩])

/-- Asks the detector. Nothing is started by this. -/
def askNoted : StateM (World σ KeyEvent β × List (Start κ σ β)) Platform :=
  fun (w, starts) => ((detect.run w).1, (detect.run w).2, starts)

/-- The callbacks that are started when the event is dispatched in a world, in order. -/
def starts (s : Shortcuts κ) (e : KeyEvent) (w : World σ KeyEvent β) : List (Start κ σ β) :=
  ((s.dispatchVia (askNoted detect) (runNoted take) e).run (w, [])).2.2

/-- The starts of these entries' callbacks, each in the world that the ones before it leave. -/
def startsOf (e : KeyEvent) : List (Shortcut κ) → World σ KeyEvent β → List (Start κ σ β)
  | [], _ => []
  | entry :: entries, w =>
    ⟨entry.action, w⟩ :: startsOf e entries ((take entry.action e).run w).2

/-- Noting the starts down changes nothing about what the callbacks do. -/
lemma run_takeAll (e : KeyEvent) (entries : List (Shortcut κ)) (w : World σ KeyEvent β)
    (earlier : List (Start κ σ β)) :
    (takeAll (runNoted take) e entries).run (w, earlier) =
      ((), ((takeAll take e entries).run w).2, earlier ++ startsOf take e entries w) := by
  induction entries generalizing w earlier with
  | nil => simp [takeAll, startsOf, List.forM_nil, Program.run]; rfl
  | cons entry entries ih =>
      have hfirst : (takeAll (runNoted take) e (entry :: entries)).run (w, earlier) =
          (takeAll (runNoted take) e entries).run
            (((take entry.action e).run w).2, earlier ++ [⟨entry.action, w⟩]) := rfl
      have hprogram : (takeAll take e (entry :: entries)).run w =
          (takeAll take e entries).run ((take entry.action e).run w).2 :=
        Program.run_bind (take entry.action e) (fun _ => takeAll take e entries) w
      rw [hfirst, ih, hprogram, startsOf, List.append_assoc, List.singleton_append]

lemma run_via (inquiry : Inquiry α) (w : World σ KeyEvent β) (earlier : List (Start κ σ β)) :
    (inquiry.via (askNoted detect)).run (w, earlier) =
      (((inquiry.via detect).run w).1, ((inquiry.via detect).run w).2, earlier) := by
  induction inquiry generalizing w with
  | done a => rfl
  | ask next ih =>
      have hprogram : ((Inquiry.ask next).via detect).run w =
          ((next (detect.run w).1).via detect).run (detect.run w).2 :=
        Program.run_bind detect (fun p => (next p).via detect) w
      rw [hprogram]
      exact ih _ _

lemma all_run_via {P : α → Prop} {inquiry : Inquiry α} (h : inquiry.All P)
    (w : World σ KeyEvent β) : P ((inquiry.via detect).run w).1 := by
  induction inquiry generalizing w with
  | done a => exact h
  | ask next ih =>
      have hprogram : ((Inquiry.ask next).via detect).run w =
          ((next (detect.run w).1).via detect).run (detect.run w).2 :=
        Program.run_bind detect (fun p => (next p).via detect) w
      rw [hprogram]
      exact ih _ (h _) _

/-- What is found when the detector is asked in a world, and the world after the questions. -/
def look (s : Shortcuts κ) (e : KeyEvent) (w : World σ KeyEvent β) :
    Except InvalidAccelerator (List (Shortcut κ × ℕ)) × World σ KeyEvent β :=
  ((s.found e).via detect).run w

lemma sublist_of_look {s : Shortcuts κ} {e : KeyEvent} {w : World σ KeyEvent β}
    {found : List (Shortcut κ × ℕ)} (h : (look detect s e w).1 = .ok found) :
    found.Sublist s.entries.zipIdx :=
  all_run_via detect (foundIn_all e s.entries.zipIdx) w found h

lemma run_matching (s : Shortcuts κ) (e : KeyEvent) (w : World σ KeyEvent β) :
    (((s.matching e).via detect).run w).1 =
      (look detect s e w).1.map (List.map fun entry => entry.1.pattern) := by
  rw [matching_eq, Inquiry.via_map, ← bind_pure_comp, Program.run_bind]
  rfl

lemma run_dispatchVia (s : Shortcuts κ) (e : KeyEvent) (w : World σ KeyEvent β) :
    (s.dispatchVia detect take e).run w =
      (s.conclude take e ((look detect s e w).1.map (List.map Prod.snd))).run
        (look detect s e w).2 := by
  rw [dispatchVia, hits_eq, Inquiry.via_map, bind_map_left, Program.run_bind]
  rfl

lemma run_dispatchVia_noted (s : Shortcuts κ) (e : KeyEvent) (w : World σ KeyEvent β) :
    (s.dispatchVia (askNoted detect) (runNoted take) e).run (w, []) =
      (s.conclude (runNoted take) e ((look detect s e w).1.map (List.map Prod.snd))).run
        ((look detect s e w).2, []) := by
  rw [dispatchVia, hits_eq, Inquiry.via_map, bind_map_left, StateT.run_bind, run_via]
  rfl

section Outcome

variable {s : Shortcuts κ} {e : KeyEvent} {w : World σ KeyEvent β}

/-- If a pattern is malformed, the questions that were asked by then are all that happens. -/
lemma noted_of_error {problem : InvalidAccelerator} (h : (look detect s e w).1 = .error problem) :
    ((s.dispatchVia (askNoted detect) (runNoted take) e).run (w, [])).2 =
      ((look detect s e w).2, []) := by
  rw [run_dispatchVia_noted, h]
  rfl

/-- Else the callbacks of the entries that were found are started after the questions. -/
lemma noted_of_ok {found : List (Shortcut κ × ℕ)} (h : (look detect s e w).1 = .ok found) :
    ((s.dispatchVia (askNoted detect) (runNoted take) e).run (w, [])).2 =
      (((takeAll take e (found.map Prod.fst)).run (look detect s e w).2).2,
        startsOf take e (found.map Prod.fst) (look detect s e w).2) := by
  rw [run_dispatchVia_noted, h]
  change ((s.conclude (runNoted take) e (.ok (found.map Prod.snd))).run _).2 = _
  rw [conclude_of_found _ e s (sublist_of_look detect h), StateT.run_bind, run_takeAll]
  rfl

lemma run_discard_dispatchVia :
    ((discard (s.dispatchVia detect take e) : Program σ KeyEvent β Unit).run w).2 =
      ((s.dispatchVia (askNoted detect) (runNoted take) e).run (w, [])).2.1 := by
  rw [Program.run_discard, run_dispatchVia]
  cases h : (look detect s e w).1 with
  | error problem =>
      rw [noted_of_error detect take h]
      rfl
  | ok found =>
      rw [noted_of_ok detect take h]
      change ((s.conclude take e (.ok (found.map Prod.snd))).run _).2 = _
      rw [conclude_of_found take e s (sublist_of_look detect h), Program.run_bind]
      rfl

end Outcome

lemma map_callback_startsOf (e : KeyEvent) (entries : List (Shortcut κ))
    (w : World σ KeyEvent β) :
    (startsOf take e entries w).map Start.callback = entries.map Shortcut.action := by
  induction entries generalizing w with
  | nil => rfl
  | cons entry entries ih => simp [startsOf, ih]

/-- Between the beginning of the dispatch and the start of a callback there is nothing but requests,
which the callbacks before it made. -/
lemma requests_of_mem_startsOf {e : KeyEvent} {entries : List (Shortcut κ)}
    {w : World σ KeyEvent β} {start : Start κ σ β} (h : start ∈ startsOf take e entries w) :
    ∃ made, start.world.happenings = w.happenings ++ made ∧ ∀ x ∈ made, x.isRequest = true := by
  induction entries generalizing w with
  | nil => cases h
  | cons entry entries ih =>
      rcases List.mem_cons.mp h with rfl | h
      · exact ⟨[], (List.append_nil _).symm, by simp⟩
      · obtain ⟨made, heq, hmade⟩ := Program.run_requests (take entry.action e) w
        obtain ⟨more, hmore, hrequests⟩ := ih h
        refine ⟨made ++ more, by rw [hmore, heq, List.append_assoc], fun x hx => ?_⟩
        exact (List.mem_append.mp hx).elim (hmade x) (hrequests x)

/-- The same with the questions that are asked first. -/
lemma requests_of_mem_starts {s : Shortcuts κ} {e : KeyEvent} {w : World σ KeyEvent β}
    {start : Start κ σ β} (h : start ∈ starts detect take s e w) :
    ∃ made, start.world.happenings = w.happenings ++ made ∧ ∀ x ∈ made, x.isRequest = true := by
  cases hlook : (look detect s e w).1 with
  | error problem =>
      rw [starts, noted_of_error detect take hlook] at h
      cases h
  | ok found =>
      rw [starts, noted_of_ok detect take hlook] at h
      obtain ⟨asked, hasked, hquestions⟩ := Program.run_requests ((s.found e).via detect) w
      obtain ⟨made, hmade, hrequests⟩ := requests_of_mem_startsOf take h
      refine ⟨asked ++ made, ?_, fun x hx => ?_⟩
      · rw [hmade, look, hasked, List.append_assoc]
      · exact (List.mem_append.mp hx).elim (hquestions x) (hrequests x)

end Starts

/-- If the subscription was released before a callback is started, it was released in the same call,
after the call had begun. -/
lemma released_in_call {c : Call σ KeyEvent β} {memory : σ}
    (hbegins : BeginsFrom (.outside, { memory }) c) {made before after : List (Happening KeyEvent)}
    (heq : c.world.happenings ++ made = before ++ .released c.listener.id :: after)
    (hsubscribed : .subscribed c.listener.id ∈ before) :
    c.world.happenings <+: before ∧ after <:+ made := by
  obtain ⟨v, waiting, hsteps, hstays, hworld⟩ := hbegins
  have hrecorded : Recorded False (.inside c.event c.listener waiting, c.world) := by
    rw [hworld]
    exact (hsteps.preserve Recorded.step (Recorded.start memory)).step (.call hstays)
  have hcalled : c.world.happenings = v.happenings ++ [.called c.listener.id c.event] := by
    rw [hworld, World.happenings_note]
  rcases List.append_eq_append_iff.mp heq with ⟨rest, hbefore, hmade⟩ | ⟨rest, hworld', hrest⟩
  · exact ⟨⟨rest, hbefore.symm⟩, rest ++ [.released c.listener.id], by simp [hmade]⟩
  · cases rest with
    | nil =>
        rw [List.append_nil] at hworld'
        exact ⟨hworld' ▸ List.prefix_rfl, [.released c.listener.id], hrest⟩
    | cons x rest =>
        -- the release would have come before the call
        obtain ⟨rfl, -⟩ := List.cons.inj hrest
        have hsilent := hrecorded.tornDown.silent hworld' hsubscribed c.event
        rcases concat_eq_append_cons (hcalled.symm.trans hworld') with
          ⟨-, hcall, -⟩ | ⟨earlier, rfl, -⟩
        · cases hcall
        · exact absurd (List.mem_append_right earlier List.mem_cons_self) hsilent

/-- Let a bus be used in whatever way, with a registry of shortcuts among its listeners, of which the
callbacks may use the bus in whatever way, too, and so may the detector, which is asked anew for
every event and every pattern. The journal tells of all calls. When the registry is called, the
callbacks of the patterns that match are started, each once and in order, or none if a pattern is
malformed, and that is all it does. If its subscription was released before one of these callbacks
is started, then by what was done in the same call: at the release the call had begun, and there
have only been requests since. So nothing is started in a call that begins after the release. -/
theorem callbacks_after_release {b : β}
    (respond : β → KeyEvent → Program σ KeyEvent β Unit)
    (detect : Program σ KeyEvent β Platform)
    (take : κ → KeyEvent → Program σ KeyEvent β Unit) (s : Shortcuts κ)
    (hb : ∀ e, respond b e = discard (s.dispatchVia detect take e)) (limit : ℕ)
    (q : Program σ KeyEvent β α) (memory : σ) :
    let calls := q.performCalls respond limit { memory }
    (World.reached (q.perform respond limit { memory })).happenings.filterMap call? =
      calls.map Call.entry ∧
    ∀ c ∈ calls, c.listener.body = b →
      ((respond b c.event).run c.world).2 =
        ((s.dispatchVia (askNoted detect) (runNoted take) c.event).run (c.world, [])).2.1 ∧
      (match (((s.matching c.event).via detect).run c.world).1 with
      | .ok listed =>
        ∃ fired : List (Shortcut κ), fired.Sublist s.entries ∧
          fired.map Shortcut.pattern = listed ∧
          (starts detect take s c.event c.world).map Start.callback = fired.map Shortcut.action
      | .error _ => starts detect take s c.event c.world = []) ∧
      ∀ start ∈ starts detect take s c.event c.world, ∀ before after,
        start.world.happenings = before ++ .released c.listener.id :: after →
        .subscribed c.listener.id ∈ before →
          c.world.happenings <+: before ∧ ∀ x ∈ after, x.isRequest = true := by
  intro calls
  refine ⟨told_perform respond limit q { memory }, fun c hc hbody => ⟨?_, ?_, ?_⟩⟩
  · rw [hb, run_discard_dispatchVia]
  · rw [run_matching]
    cases hlook : (look detect s c.event c.world).1 with
    | error problem => exact congrArg Prod.snd (noted_of_error detect take hlook)
    | ok found =>
        have hfired := (sublist_of_look detect hlook).map Prod.fst
        rw [List.zipIdx_map_fst] at hfired
        refine ⟨found.map Prod.fst, hfired, List.map_map, ?_⟩
        rw [starts, noted_of_ok detect take hlook, map_callback_startsOf]
  · intro start hstart before after heq hsubscribed
    have hbegins := Program.performCalls_begin respond hc
    obtain ⟨made, hworld, hrequests⟩ := requests_of_mem_starts detect take hstart
    obtain ⟨hcall, hafter⟩ := released_in_call hbegins (hworld.symm.trans heq) hsubscribed
    exact ⟨hcall, fun x hx => hrequests x (hafter.subset hx)⟩

/-- The first callback takes the subscription out of the memory and releases it. -/
def letGo : Bool → KeyEvent → Program (Option Subscription) KeyEvent Unit Unit
  | true, _ => do
    match ← Program.load with
    | some held =>
      Program.store none
      Program.release held
    | none => pure ()
  | false, _ => pure ()

/-- Two shortcuts that go with the same key. -/
def enterTwice : Shortcuts Bool := ⟨[⟨"Enter", true⟩, ⟨"EnterOrSpace", false⟩]⟩

/-- Whenever the platform is asked for, it is not one of Apple's. -/
def elsewhere : Program (Option Subscription) KeyEvent Unit Platform := pure .other

def respondEnter (_ : Unit) (e : KeyEvent) : Program (Option Subscription) KeyEvent Unit Unit :=
  discard (enterTwice.dispatchVia elsewhere letGo e)

/-- The registry is subscribed, and the key is pressed twice. -/
def pressTwice : Program (Option Subscription) KeyEvent Unit Unit := do
  let held ← Program.subscribe ()
  Program.store (some held)
  Program.emit { label := "Enter" }
  Program.emit { label := "Enter" }

/-- Both callbacks are started with the first event, and none with the second. -/
theorem both_callbacks_in_one_call :
    ∃ c, pressTwice.performCalls respondEnter 0 { memory := none } = [c] ∧
      (World.reached (pressTwice.perform respondEnter 0 { memory := none })).happenings.filterMap
        call? = [(⟨0⟩, { label := "Enter" })] ∧
      (starts elsewhere letGo enterTwice c.event c.world).map Start.callback = [true, false] := by
  obtain ⟨hcalls, hstarts⟩ := callbacks_after_release (b := ()) respondEnter elsewhere letGo
    enterTwice (fun _ => rfl) 0 pressTwice none
  obtain ⟨c, hc⟩ : ∃ c, pressTwice.performCalls respondEnter 0 { memory := none } = [c] :=
    ⟨_, rfl⟩
  have hevent : c.event = { label := "Enter" } := by
    have hevents := congrArg (List.map Call.event) hc
    exact (List.singleton_inj.mp hevents).symm
  have hmatching : (((enterTwice.matching c.event).via elsewhere).run c.world).1 =
      .ok ["Enter", "EnterOrSpace"] := by
    rw [hevent, elsewhere, Inquiry.via_pure]
    change (enterTwice.matching { label := "Enter" }).on .other = _
    decide +kernel
  refine ⟨c, hc, ?_, ?_⟩
  · rw [hcalls]
    rfl
  · obtain ⟨-, hcallbacks, -⟩ := hstarts c (by simp [hc]) rfl
    rw [hmatching] at hcallbacks
    obtain ⟨fired, hfired, hpatterns, hactions⟩ := hcallbacks
    have hlength : fired.length = enterTwice.entries.length := by
      simpa [enterTwice] using congrArg List.length hpatterns
    rw [hactions, hfired.eq_of_length hlength]
    rfl

/-- It is not so that no callback is started after the release. -/
theorem second_callback_after_release :
    ¬ ∀ c ∈ pressTwice.performCalls respondEnter 0 { memory := none },
      ∀ start ∈ starts elsewhere letGo enterTwice c.event c.world, ∀ before after,
        start.world.happenings = before ++ .released c.listener.id :: after →
          .subscribed c.listener.id ∉ before := by
  intro h
  have hsecond := h _ List.mem_cons_self _ (List.mem_cons_of_mem _ List.mem_cons_self)
    [.subscribed ⟨0⟩, .emitted { label := "Enter" }, .roundBegan { label := "Enter" },
      .called ⟨0⟩ { label := "Enter" }] [] rfl
  exact hsecond (by simp)

end Keychord.Shortcuts
