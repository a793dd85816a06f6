import Keychord.Shortcuts.Session
import Keychord.Proofs.Accelerator.Faults
import Mathlib.Data.List.Basic

/-!
# All actions or none

Matching an event and dispatching it go through the registry separately: the one collects
patterns, the other places, whose actions are taken afterwards. They agree nevertheless. If every
pattern is well formed, the actions taken are those of the patterns that matching lists, in the
order of the registry. If one is malformed, both give the first fault in that order, which depends
on the patterns alone, and no action is taken.
-/
namespace Keychord.Shortcuts
open Accelerator

variable {κ : Type}

/-- The fault of the first malformed pattern, in this order. -/
def firstFault? (patterns : List String) : Option InvalidAccelerator := patterns.findSome? fault?

/-- The event triggers what the entry's pattern describes on a platform. -/
def fires (p : Platform) (e : KeyEvent) (entry : Shortcut κ) : Bool :=
  (described p entry.pattern).isTriggeredBy e

/-- Of these entries, each with its place, the ones that the event triggers. -/
def foundIn (e : KeyEvent) :
    List (Shortcut κ × ℕ) → Inquiry (Except InvalidAccelerator (List (Shortcut κ × ℕ)))
  | [] => .done (.ok [])
  | entry :: placed => do
    match ← e.triggers entry.1.pattern with
    | .error problem => return .error problem
    | .ok hit =>
      let others ← foundIn e placed
      return others.map fun found => if hit then entry :: found else found

/-- The entries that the event triggers, each with its place. -/
def found (e : KeyEvent) (s : Shortcuts κ) :
    Inquiry (Except InvalidAccelerator (List (Shortcut κ × ℕ))) :=
  foundIn e s.entries.zipIdx

/-- What is asked for one entry more, and what becomes of the answer, if only a part of what was
found is of interest. -/
lemma foundIn_cons_map {γ : Type} (f : Shortcut κ × ℕ → γ) (e : KeyEvent)
    (entry : Shortcut κ × ℕ) (placed : List (Shortcut κ × ℕ)) :
    Except.map (List.map f) <$> foundIn e (entry :: placed) = do
      match ← e.triggers entry.1.pattern with
      | .error problem => return .error problem
      | .ok hit =>
        let others ← Except.map (List.map f) <$> foundIn e placed
        return others.map fun xs => if hit then f entry :: xs else xs := by
  rw [foundIn, map_bind]
  refine bind_congr fun answer => ?_
  cases answer with
  | error problem => rfl
  | ok hit =>
      simp only [map_bind, bind_map_left]
      refine bind_congr fun others => ?_
      cases others with
      | error problem => rfl
      | ok found => cases hit <;> rfl

lemma matchingIn_eq (e : KeyEvent) (placed : List (Shortcut κ × ℕ)) :
    matchingIn e (placed.map Prod.fst) =
      Except.map (List.map fun entry => entry.1.pattern) <$> foundIn e placed := by
  induction placed with
  | nil => rfl
  | cons entry placed ih => rw [foundIn_cons_map, ← ih]; rfl

lemma hitsFrom_eq (e : KeyEvent) (n : ℕ) (entries : List (Shortcut κ)) :
    hitsFrom e n entries = Except.map (List.map Prod.snd) <$> foundIn e (entries.zipIdx n) := by
  induction entries generalizing n with
  | nil => rfl
  | cons entry entries ih => rw [List.zipIdx_cons, foundIn_cons_map, ← ih]; rfl

/-- Matching and dispatching find the same, though they look for it separately. -/
theorem matching_eq (e : KeyEvent) (s : Shortcuts κ) :
    s.matching e = Except.map (List.map fun entry => entry.1.pattern) <$> s.found e := by
  rw [found, ← matchingIn_eq, List.zipIdx_map_fst, matching]

theorem hits_eq (e : KeyEvent) (s : Shortcuts κ) :
    s.hits e = Except.map (List.map Prod.snd) <$> s.found e :=
  hitsFrom_eq e 0 s.entries

lemma foundIn_all (e : KeyEvent) (placed : List (Shortcut κ × ℕ)) :
    (foundIn e placed).All fun answer => ∀ found, answer = .ok found → found.Sublist placed := by
  induction placed with
  | nil =>
      rintro found ⟨⟩
      exact List.Sublist.refl []
  | cons entry placed ih =>
      refine Inquiry.All.bind fun answer => ?_
      cases answer with
      | error problem => exact nofun
      | ok hit =>
          refine ih.map fun others hothers found hfound => ?_
          cases others with
          | error problem => cases hfound
          | ok rest =>
              have hrest := hothers rest rfl
              obtain rfl : (if hit then entry :: rest else rest) = found := by
                simpa [Except.map] using hfound
              cases hit with
              | true => exact hrest.cons_cons entry
              | false => exact hrest.cons entry

lemma foundIn_on (p : Platform) (e : KeyEvent) (placed : List (Shortcut κ × ℕ)) :
    (foundIn e placed).on p =
      match firstFault? (placed.map fun entry => entry.1.pattern) with
      | some fault => .error fault
      | none => .ok (placed.filter fun entry => fires p e entry.1) := by
  induction placed with
  | nil => rfl
  | cons entry placed ih =>
      rw [foundIn, Inquiry.on_bind, KeyEvent.triggers_on_eq]
      simp only [firstFault?, List.map_cons, List.findSome?_cons, List.filter_cons] at ih ⊢
      cases fault? entry.1.pattern with
      | some fault => rfl
      | none =>
          refine (Inquiry.on_bind p (foundIn e placed) _).trans ?_
          rw [ih]
          cases (placed.map fun entry => entry.1.pattern).findSome? fault? with
          | some fault => rfl
          | none =>
              unfold fires
              cases (described p entry.1.pattern).isTriggeredBy e <;> rfl

theorem found_on (p : Platform) (e : KeyEvent) (s : Shortcuts κ) :
    (s.found e).on p =
      match firstFault? s.patterns with
      | some fault => .error fault
      | none => .ok (s.entries.zipIdx.filter fun entry => fires p e entry.1) := by
  have hpatterns : (s.entries.zipIdx.map fun entry => entry.1.pattern) = s.patterns := by
    calc s.entries.zipIdx.map (Shortcut.pattern ∘ Prod.fst)
        = (s.entries.zipIdx.map Prod.fst).map Shortcut.pattern := List.map_map.symm
      _ = s.patterns := by rw [List.zipIdx_map_fst, patterns]
  rw [found, foundIn_on, hpatterns]

lemma map_fst_filter_fires (p : Platform) (e : KeyEvent) (s : Shortcuts κ) :
    (s.entries.zipIdx.filter fun entry => fires p e entry.1).map Prod.fst =
      s.entries.filter (fires p e) := by
  calc (s.entries.zipIdx.filter (fires p e ∘ Prod.fst)).map Prod.fst
      = (s.entries.zipIdx.map Prod.fst).filter (fires p e) := List.filter_map.symm
    _ = s.entries.filter (fires p e) := by rw [List.zipIdx_map_fst]

theorem matching_on (p : Platform) (e : KeyEvent) (s : Shortcuts κ) :
    (s.matching e).on p =
      match firstFault? s.patterns with
      | some fault => .error fault
      | none => .ok ((s.entries.filter (fires p e)).map Shortcut.pattern) := by
  rw [matching_eq, Inquiry.on_map, found_on, ← map_fst_filter_fires, List.map_map]
  cases firstFault? s.patterns <;> rfl

section Actions

variable {m : Type → Type} [Monad m] (take : κ → KeyEvent → m Unit)

/-- Takes the actions of these entries, in turn. -/
def takeAll (e : KeyEvent) (entries : List (Shortcut κ)) : m Unit :=
  entries.forM fun entry => take entry.action e

/-- At the places where entries stand, their actions are taken. -/
lemma takeActions_eq (e : KeyEvent) (s : Shortcuts κ) {placed : List (Shortcut κ × ℕ)}
    (h : ∀ x ∈ placed, s.entries[x.2]? = some x.1) :
    takeActions take e s (placed.map Prod.snd) = takeAll take e (placed.map Prod.fst) := by
  induction placed with
  | nil => rfl
  | cons x placed ih =>
      rw [List.forall_mem_cons] at h
      have hrest := ih h.2
      unfold takeActions takeAll at hrest ⊢
      simp only [List.map_cons, List.forM, h.1, hrest]

/-- If certain entries were found, it is their actions that are taken. -/
lemma conclude_of_found (e : KeyEvent) (s : Shortcuts κ) {found : List (Shortcut κ × ℕ)}
    (h : found.Sublist s.entries.zipIdx) :
    s.conclude take e (.ok (found.map Prod.snd)) = do
      takeAll take e (found.map Prod.fst)
      return .ok found.length := by
  have hplaces : ∀ x ∈ found, s.entries[x.2]? = some x.1 := by
    intro x hx
    simpa using List.mem_zipIdx_iff_getElem?.mp (h.subset hx)
  rw [conclude, takeActions_eq take e s hplaces, List.length_map]

theorem dispatch_eq (p : Platform) (e : KeyEvent) (s : Shortcuts κ) :
    s.dispatch p take e =
      match firstFault? s.patterns with
      | some fault => pure (.error fault)
      | none => do
        takeAll take e (s.entries.filter (fires p e))
        return .ok (s.entries.filter (fires p e)).length := by
  rw [dispatch, hits_eq, Inquiry.on_map, found_on, ← map_fst_filter_fires, List.length_map]
  cases firstFault? s.patterns with
  | some fault => rfl
  | none => exact conclude_of_found take e s List.filter_sublist

end Actions

lemma matching_on_eq_error_iff {p : Platform} {e : KeyEvent} {s : Shortcuts κ}
    {problem : InvalidAccelerator} :
    (s.matching e).on p = .error problem ↔ firstFault? s.patterns = some problem := by
  rw [matching_on]
  cases firstFault? s.patterns <;> simp

lemma matching_on_eq_ok_iff {p : Platform} {e : KeyEvent} {s : Shortcuts κ}
    {listed : List String} :
    (s.matching e).on p = .ok listed ↔
      firstFault? s.patterns = none ∧
        (s.entries.filter (fires p e)).map Shortcut.pattern = listed := by
  rw [matching_on]
  cases firstFault? s.patterns <;> simp

/-- Entries with one pattern fire together, so a list of patterns tells which entries fired. -/
lemma filter_mem_listed (p : Platform) (e : KeyEvent) (entries : List (Shortcut κ)) :
    entries.filter (·.pattern ∈ (entries.filter (fires p e)).map Shortcut.pattern) =
      entries.filter (fires p e) := by
  refine List.filter_congr fun entry hentry => ?_
  rw [Bool.eq_iff_iff, decide_eq_true_iff]
  constructor
  · intro hlisted
    obtain ⟨other, hother, hpattern⟩ := List.mem_map.mp hlisted
    have hfires := (List.mem_filter.mp hother).2
    rwa [fires, hpattern] at hfires
  · intro hfires
    exact List.mem_map_of_mem (List.mem_filter.mpr ⟨hentry, hfires⟩)

lemma firstFault?_eq_some_iff {patterns : List String} {problem : InvalidAccelerator} :
    firstFault? patterns = some problem ↔
      ∃ before pattern after, patterns = before ++ pattern :: after ∧
        (∀ earlier ∈ before, fault? earlier = none) ∧ fault? pattern = some problem := by
  simp only [firstFault?, List.findSome?_eq_some_iff]
  constructor
  · rintro ⟨before, pattern, after, heq, hfault, hbefore⟩
    exact ⟨before, pattern, after, heq, hbefore, hfault⟩
  · rintro ⟨before, pattern, after, heq, hbefore, hfault⟩
    exact ⟨before, pattern, after, heq, hfault, hbefore⟩

/-- The pattern is malformed, for this reason, on whatever platform it is read. -/
def Malformed (pattern : String) (problem : InvalidAccelerator) : Prop :=
  ∀ p, (read pattern).on p = .error problem

/-- The pattern is well formed on every platform. -/
def WellFormed (pattern : String) : Prop :=
  ∀ p, ∃ a, (read pattern).on p = .ok a

lemma malformed_iff {pattern : String} {problem : InvalidAccelerator} :
    Malformed pattern problem ↔ fault? pattern = some problem :=
  ⟨fun h => read_on_eq_error_iff.mp (h .other), fun h _ => read_on_eq_error_iff.mpr h⟩

lemma wellFormed_iff {pattern : String} : WellFormed pattern ↔ fault? pattern = none := by
  constructor
  · intro h
    obtain ⟨a, ha⟩ := h .other
    exact (read_on_eq_ok_iff.mp ha).1
  · exact fun h p => ⟨_, read_on_eq_ok_iff.mpr ⟨h, rfl⟩⟩

/-- What becomes of an event in a registry: all that fires is done, or nothing is. -/
structure AllOrNothing (p : Platform) (e : KeyEvent) (s : Shortcuts κ) : Prop where
  /-- The patterns listed are those of certain entries, in the order of the registry. To dispatch
  the event is to take the actions of these entries, each once and in this order, and to count
  them. -/
  all : ∀ {listed}, (s.matching e).on p = .ok listed →
    (s.entries.filter (·.pattern ∈ listed)).map Shortcut.pattern = listed ∧
    ∀ {m : Type → Type} [Monad m] (take : κ → KeyEvent → m Unit),
      s.dispatch p take e = do
        (s.entries.filter (·.pattern ∈ listed)).forM fun entry => take entry.action e
        return .ok listed.length
  /-- If nothing is listed because of a fault, to dispatch the event is to report it. -/
  nothing : ∀ {problem}, (s.matching e).on p = .error problem →
    ∀ {m : Type → Type} [Monad m] (take : κ → KeyEvent → m Unit),
      s.dispatch p take e = pure (.error problem)
  /-- The fault is that of the first malformed pattern; neither event nor platform matter. -/
  fault : ∀ {problem}, (s.matching e).on p = .error problem ↔
    ∃ before pattern after, s.patterns = before ++ pattern :: after ∧
      (∀ earlier ∈ before, WellFormed earlier) ∧ Malformed pattern problem
  /-- One malformed pattern is enough. -/
  answered : (∃ listed, (s.matching e).on p = .ok listed) ↔
    ∀ pattern ∈ s.patterns, WellFormed pattern

lemma allOrNothing (p : Platform) (e : KeyEvent) (s : Shortcuts κ) : AllOrNothing p e s where
  all := by
    intro listed hlisted
    obtain ⟨hfault, rfl⟩ := matching_on_eq_ok_iff.mp hlisted
    rw [filter_mem_listed]
    refine ⟨rfl, fun take => ?_⟩
    rw [dispatch_eq, hfault, List.length_map]
    rfl
  nothing := by
    intro problem hproblem m _ take
    rw [dispatch_eq, matching_on_eq_error_iff.mp hproblem]
  fault := by
    intro problem
    simp only [matching_on_eq_error_iff, firstFault?_eq_some_iff, wellFormed_iff, malformed_iff]
  answered := by
    simp only [matching_on_eq_ok_iff, exists_and_left, exists_eq', and_true, firstFault?,
      List.findSome?_eq_none_iff, wellFormed_iff]

namespace Session

/-- The calls of the callbacks of these entries. -/
def callsOf (e : KeyEvent) (entries : List (Shortcut ℕ)) : List (ℕ × KeyEvent) :=
  entries.map fun entry => (entry.action, e)

lemma run_forM_call (e : KeyEvent) (entries : List (Shortcut ℕ)) (calls : List (ℕ × KeyEvent)) :
    ((entries.forM fun entry => call entry.action e).run calls).2 = calls ++ callsOf e entries := by
  induction entries generalizing calls with
  | nil => exact (List.append_nil calls).symm
  | cons entry entries ih =>
      have hcalls : calls ++ callsOf e (entry :: entries) =
          calls ++ [(entry.action, e)] ++ callsOf e entries := by
        simp [callsOf]
      rw [hcalls]
      exact ih _

lemma calls_dispatch_of_ok {p : Platform} {e : KeyEvent} {w : Session} {listed : List String}
    (h : (w.shortcuts.matching e).on p = .ok listed) :
    (w.dispatch p e).1 = .ok listed.length ∧
      (w.dispatch p e).2.calls =
        w.calls ++ callsOf e (w.shortcuts.entries.filter (·.pattern ∈ listed)) := by
  unfold dispatch
  rw [((allOrNothing p e w.shortcuts).all h).2 call]
  exact ⟨rfl, run_forM_call e _ w.calls⟩

lemma calls_dispatch_of_error {p : Platform} {e : KeyEvent} {w : Session}
    {problem : InvalidAccelerator} (h : (w.shortcuts.matching e).on p = .error problem) :
    (w.dispatch p e).1 = .error problem ∧ (w.dispatch p e).2.calls = w.calls := by
  unfold dispatch
  rw [(allOrNothing p e w.shortcuts).nothing h call]
  exact ⟨rfl, rfl⟩

end Session

/-- Matching and dispatching an event agree, and dispatching is all or nothing, whatever the
actions are and wherever they have their effect. In a session both give the same answer, but for
the patterns' being counted, and leave the registry as it is; the callbacks that are called are
those of the listed patterns, in the order of the registry, or none if a pattern is malformed. -/
theorem dispatch_all_or_nothing (p : Platform) (e : KeyEvent) :
    (∀ {κ : Type} (s : Shortcuts κ), AllOrNothing p e s) ∧
    ∀ w : Session,
      (w.dispatch p e).1 = (w.matching p e).1.map List.length ∧
      (w.dispatch p e).2.shortcuts = w.shortcuts ∧ (w.matching p e).2.shortcuts = w.shortcuts ∧
      (w.matching p e).2.calls = w.calls ∧
      (w.dispatch p e).2.calls =
        match (w.matching p e).1 with
        | .ok listed =>
          w.calls ++ Session.callsOf e (w.shortcuts.entries.filter (·.pattern ∈ listed))
        | .error _ => w.calls := by
  refine ⟨allOrNothing p e, fun w => ?_⟩
  have hmatching : (w.matching p e).1 = (w.shortcuts.matching e).on p := rfl
  rw [hmatching]
  cases h : (w.shortcuts.matching e).on p with
  | ok listed =>
      obtain ⟨hanswer, hcalls⟩ := Session.calls_dispatch_of_ok h
      exact ⟨hanswer, rfl, rfl, rfl, hcalls⟩
  | error problem =>
      obtain ⟨hanswer, hcalls⟩ := Session.calls_dispatch_of_error h
      exact ⟨hanswer, rfl, rfl, rfl, hcalls⟩

/-- Of three shortcuts the event triggers the first two, until a malformed one is registered
behind them. -/
theorem dispatch_of_three_and_four :
    let three := ((({} : Session).register "Enter").register "EnterOrSpace").register "Ctrl+Enter"
    let four := three.register "Alt+"
    let e : KeyEvent := { label := "Enter" }
    ((three.shortcuts.matching e).on .other = .ok ["Enter", "EnterOrSpace"] ∧
      (three.shortcuts.dispatch .other Session.call e).run [] = (.ok 2, [(0, e), (1, e)])) ∧
    ((four.shortcuts.matching e).on .other = .error ⟨"Alt+"⟩ ∧
      (four.shortcuts.dispatch .other Session.call e).run [] = (.error ⟨"Alt+"⟩, [])) := by
  intro three four e
  have hthree : (three.shortcuts.matching e).on .other = .ok ["Enter", "EnterOrSpace"] := by
    decide +kernel
  have hfour : (four.shortcuts.matching e).on .other = .error ⟨"Alt+"⟩ := by decide +kernel
  have hall := (dispatch_all_or_nothing .other e).1 three.shortcuts
  have hnothing := (dispatch_all_or_nothing .other e).1 four.shortcuts
  refine ⟨⟨hthree, ?_⟩, hfour, ?_⟩
  · rw [(hall.all hthree).2]
    rfl
  · rw [hnothing.nothing hfour]
    rfl

end Keychord.Shortcuts
