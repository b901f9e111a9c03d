import Stencil.Logging.Console
import Mathlib.Data.List.Induction
import Mathlib.Tactic.Push

/-!
# Setting the console up

The first request that asks for a level sets the console up, and from then on requests change
nothing.  Until then a request whose name stands for something other than a level is refused, after
the receiver of the records has been replaced and the asked kind of lines has been noted.

Main results:

- Theorem `readLevel_eq_ok_iff`: which names ask for a level.
- Theorems `Request.perform_of_named` and `Request.exists_perform_of_misnamed`: what one request
  does before the console is set up.
- Theorems `run_of_misnamed` and `run_of_named`: what a run of requests leaves.
- Theorem `set_up_once`: every request of a run, and when it does all of its work or none.
- Theorem `misnamed_request_replaces_receiver`: a refused request that leaves something behind.
-/

namespace Stencil.Logging

/-- A request to set the console up: the name of the level that is asked for, the one in the
environment, and whether lines of JSON are asked for. -/
structure Request where
  asked : Option Text
  environment : Option Text
  json : Option Bool
deriving DecidableEq, Repr

variable {r : Request} {requests refused later : List Request} {c : Console}

namespace Request

/-- The name of the level that is asked for, in capitals. -/
def name (r : Request) : Text := (requestedName r.asked r.environment).flatMap capital

/-- The level with that name; without one it is the usual level. -/
def level (r : Request) : Nat := (namedLevels.lookup r.name).getD 20

/-- The name stands for something that is no level. -/
def Misnamed (r : Request) : Prop :=
  r.name = "BASIC_FORMAT".toList ∨ r.name = "_STYLES".toList

instance : DecidablePred Misnamed := fun _ => inferInstanceAs (Decidable (_ ∨ _))

/-- Whether lines of JSON are asked for, now or by the last request that said so. -/
def mode (r : Request) (c : Console) : Bool := r.json.getD c.jsonMode

/-- The console with the asked kind of receiver. -/
def equip (r : Request) (c : Console) : Console :=
  { c with jsonMode := r.mode c, sink := some (if r.mode c then .json else .display) }

/-- The console that is set up as asked for. -/
def finish (r : Request) (c : Console) : Console :=
  { r.equip c with threshold := r.level, ready := true }

/-- Carries the request out. -/
def perform (r : Request) (c : Console) : Except LevelFault Unit × Console :=
  c.setUp r.asked r.environment r.json

/-- The request does all of its work, or it is refused and changes nothing. -/
def Whole (r : Request) (c : Console) : Prop :=
  r.perform c = (.ok (), r.finish c) ∨ ∃ fault, r.perform c = (.error fault, c)

@[simp] theorem equip_ready (r : Request) (c : Console) : (r.equip c).ready = c.ready := rfl

@[simp] theorem equip_threshold (r : Request) (c : Console) :
    (r.equip c).threshold = c.threshold := rfl

@[simp] theorem equip_jsonMode (r : Request) (c : Console) : (r.equip c).jsonMode = r.mode c := rfl

@[simp] theorem finish_ready (r : Request) (c : Console) : (r.finish c).ready = true := rfl

end Request

/-! ## One request -/

/-- A name asks for a level unless it stands for something else. -/
theorem readLevel_eq_ok_iff {name : Text} {n : Nat} :
    readLevel name = .ok n ↔
      name.flatMap capital ≠ "BASIC_FORMAT".toList ∧ name.flatMap capital ≠ "_STYLES".toList ∧
        (namedLevels.lookup (name.flatMap capital)).getD 20 = n := by
  unfold readLevel
  dsimp only
  split
  · simp_all
  · split
    · simp_all
    · simp_all

/-- A request that is not misnamed has a level. -/
theorem readLevel_of_not_misnamed (h : ¬ r.Misnamed) :
    readLevel (requestedName r.asked r.environment) = .ok r.level :=
  readLevel_eq_ok_iff.2 ⟨fun hname => h (.inl hname), fun hname => h (.inr hname), rfl⟩

/-- A misnamed one is refused, with a fault for its name. -/
theorem exists_readLevel_of_misnamed (h : r.Misnamed) :
    ∃ fault, readLevel (requestedName r.asked r.environment) = .error fault := by
  cases hread : readLevel (requestedName r.asked r.environment) with
  | error fault => exact ⟨fault, rfl⟩
  | ok n =>
      obtain ⟨hlayout, htable, -⟩ := readLevel_eq_ok_iff.1 hread
      exact absurd h (not_or.2 ⟨hlayout, htable⟩)

/-- A console that is set up stays as it is. -/
theorem Request.perform_of_ready (h : c.ready = true) : r.perform c = (.ok (), c) :=
  Console.setUp_of_ready _ _ _ h

/-- A request that is not misnamed sets the console up. -/
theorem Request.perform_of_named (hready : c.ready = false) (h : ¬ r.Misnamed) :
    r.perform c = (.ok (), r.finish c) := by
  rw [perform, Console.setUp, if_neg (by simp [hready])]
  simp only [readLevel_of_not_misnamed h]
  rfl

/-- A misnamed one is refused after it has changed receiver and mode. -/
theorem Request.exists_perform_of_misnamed (hready : c.ready = false) (h : r.Misnamed) :
    ∃ fault, r.perform c = (.error fault, r.equip c) := by
  obtain ⟨fault, hfault⟩ := exists_readLevel_of_misnamed h
  refine ⟨fault, ?_⟩
  rw [perform, Console.setUp, if_neg (by simp [hready])]
  simp only [hfault]
  rfl

/-- Before the console is set up, a request does all of its work or none if, and only if, its name
is no misnomer or it asks for what the console has already. -/
theorem Request.whole_iff (hready : c.ready = false) :
    r.Whole c ↔ ¬ r.Misnamed ∨ r.equip c = c := by
  by_cases h : r.Misnamed
  · obtain ⟨fault, hperform⟩ := exists_perform_of_misnamed hready h
    simp [Whole, hperform, h]
  · simp [Whole, perform_of_named hready h, h]

/-! ## Runs of requests -/

/-- Carries requests out one after the other, whether or not they are refused. -/
def run (requests : List Request) (c : Console) : Console :=
  requests.foldl (fun c r => (r.perform c).2) c

@[simp] theorem run_nil (c : Console) : run [] c = c := rfl

theorem run_cons (r : Request) (requests : List Request) (c : Console) :
    run (r :: requests) c = run requests (r.perform c).2 := rfl

theorem run_append (requests later : List Request) (c : Console) :
    run (requests ++ later) c = run later (run requests c) := List.foldl_append

/-- No run changes a console that is set up. -/
theorem run_of_ready (h : c.ready = true) : run requests c = c := by
  induction requests with
  | nil => rfl
  | cons r requests ih => rw [run_cons, Request.perform_of_ready h, ih]

/-- Whether lines of JSON have been asked for after requests have been carried out. -/
def lastMode (requests : List Request) (start : Bool) : Bool :=
  requests.foldl (fun mode r => r.json.getD mode) start

/-- Requests that are all refused leave nothing but the receiver of the last one and the mode that
was asked for last. -/
theorem run_of_misnamed (hready : c.ready = false) (h : ∀ r ∈ requests, r.Misnamed) :
    run requests c =
      { c with
        jsonMode := lastMode requests c.jsonMode
        sink := if requests = [] then c.sink
          else some (if lastMode requests c.jsonMode then .json else .display) } := by
  induction requests using List.reverseRecOn with
  | nil => rfl
  | append_singleton requests r ih =>
      obtain ⟨hrequests, hr⟩ := List.forall_mem_append.1 h
      have hbefore := ih hrequests
      obtain ⟨fault, hperform⟩ :=
        Request.exists_perform_of_misnamed (c := run requests c) (by rw [hbefore, hready])
          (hr r (List.mem_singleton_self r))
      have hlast : lastMode (requests ++ [r]) c.jsonMode = r.mode (run requests c) := by
        rw [lastMode, List.foldl_append, hbefore]
        rfl
      rw [run_append, run_cons, run_nil, hperform, hlast, if_neg (by simp)]
      simp only [Request.equip, hbefore]

/-- The first request that is not refused sets the console up for good. -/
theorem run_of_named (hready : c.ready = false) (hrefused : ∀ q ∈ refused, q.Misnamed)
    (h : ¬ r.Misnamed) :
    run (refused ++ r :: later) c =
      { c with
        jsonMode := lastMode (refused ++ [r]) c.jsonMode
        sink := some (if lastMode (refused ++ [r]) c.jsonMode then .json else .display)
        threshold := r.level
        ready := true } := by
  have hbefore := run_of_misnamed hready hrefused
  have hlast : lastMode (refused ++ [r]) c.jsonMode = r.mode (run refused c) := by
    rw [lastMode, List.foldl_append, hbefore]
    rfl
  rw [run_append, run_cons,
    Request.perform_of_named (c := run refused c) (by rw [hbefore, hready]) h,
    run_of_ready (Request.finish_ready r _), hlast]
  simp only [Request.finish, Request.equip, hbefore]

/-- Requests that are not all refused begin with some that are, up to the first that is not. -/
theorem exists_first_named (h : ∃ r ∈ requests, ¬ r.Misnamed) :
    ∃ refused r later, requests = refused ++ r :: later ∧ (∀ q ∈ refused, q.Misnamed) ∧
      ¬ r.Misnamed := by
  have hfound : (requests.find? fun r => !decide r.Misnamed).isSome := by
    simpa [List.find?_isSome] using h
  obtain ⟨r, hr⟩ := Option.isSome_iff_exists.1 hfound
  obtain ⟨hnamed, refused, later, hrequests, hrefused⟩ := List.find?_eq_some_iff_append.1 hr
  exact ⟨refused, r, later, hrequests, by simpa using hrefused, by simpa using hnamed⟩

/-- The console is set up just when some request is not misnamed. -/
theorem run_ready_iff (hready : c.ready = false) :
    (run requests c).ready = true ↔ ∃ r ∈ requests, ¬ r.Misnamed := by
  constructor
  · contrapose!
    intro h
    rw [run_of_misnamed hready h, hready]
    simp
  · intro hnamed
    obtain ⟨refused, r, later, rfl, hrefused, hr⟩ := exists_first_named hnamed
    rw [run_of_named hready hrefused hr]

/-- Every request of a run, after whatever others.  Once one of them has been carried out the
console stays as it is.  Until then a request either sets the console up as asked for, or it is
refused for its name, with the receiver and the mode replaced; so it does all of its work or none
if, and only if, its name is no misnomer or receiver and mode are already those that it asks for. -/
theorem set_up_once (hready : c.ready = false) (requests : List Request) (r : Request) :
    let before := run requests c
    (before.ready = true ↔ ∃ q ∈ requests, ¬ q.Misnamed) ∧
      (before.ready = true →
        r.perform before = (.ok (), before) ∧ ∀ later, run later before = before) ∧
      (before.ready = false →
        before.threshold = c.threshold ∧
        (¬ r.Misnamed → r.perform before = (.ok (), r.finish before)) ∧
        (r.Misnamed → ∃ fault, r.perform before = (.error fault, r.equip before)) ∧
        (r.Whole before ↔ ¬ r.Misnamed ∨ r.equip before = before)) := by
  intro before
  refine ⟨run_ready_iff hready, fun h => ⟨Request.perform_of_ready h, fun later => run_of_ready h⟩,
    fun h => ⟨?_, Request.perform_of_named h, Request.exists_perform_of_misnamed h,
      Request.whole_iff h⟩⟩
  have hrefused : ∀ q ∈ requests, q.Misnamed := by
    by_contra hnot
    push Not at hnot
    rw [(run_ready_iff hready).2 hnot] at h
    cases h
  have hbefore := run_of_misnamed hready hrefused
  exact (congrArg Console.threshold hbefore).trans rfl

/-- A request that names a level, after one that names a layout. -/
theorem set_up_once_debug :
    let refused : Request := ⟨some "basic_format", none, some true⟩
    let r : Request := ⟨none, some "debug", none⟩
    Console.initial.ready = false ∧
      r.perform (run [refused] .initial) =
        (.ok (), { Console.initial with
          jsonMode := true, sink := some .json, threshold := 10, ready := true }) := by
  intro refused r
  have hready : Console.initial.ready = false := rfl
  have hbefore : run [refused] .initial =
      { Console.initial with jsonMode := true, sink := some .json } := by decide
  obtain ⟨-, -, hopen⟩ := set_up_once hready [refused] r
  obtain ⟨-, hnamed, -⟩ := hopen (by rw [hbefore]; rfl)
  refine ⟨hready, (hnamed (by decide)).trans ?_⟩
  rw [hbefore]
  rfl

/-- A layout is asked for as a level: the request is refused, and yet the console has got a receiver
and another mode. -/
theorem misnamed_request_replaces_receiver :
    let r : Request := ⟨some "BASIC_FORMAT", none, some true⟩
    r.perform .initial =
        (.error .layout, { Console.initial with jsonMode := true, sink := some .json }) ∧
      Console.initial.sink = none ∧ Console.initial.jsonMode = false ∧ ¬ r.Whole .initial := by
  intro r
  refine ⟨rfl, rfl, rfl, ?_⟩
  rw [Request.whole_iff rfl]
  decide

end Stencil.Logging
