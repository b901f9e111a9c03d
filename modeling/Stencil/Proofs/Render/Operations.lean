import Stencil.Proofs.Render.Transparency
import Stencil.Proofs.Render.Upkeep

/-!
# Runs of operations

A session is asked for one thing after the other, and meanwhile others change the files and
time goes on.  What the stages of rendering keep is kept by every request, and the history
only grows, by events that tell the truth about the files at the time.

Main results:

- Definitions `Operation`, `Operation.perform` and `Session.run`: what can happen to a
  session, and the session after it.
- Theorem `within_perform`: a request keeps what the stages keep.
- Theorem `within_run`: so does a run, if clearing the cache keeps it too.
- Theorem `exists_events_perform`: what an operation adds to the history.
- Theorem `exists_operation_of_event`: every event comes from an operation and tells the
  truth about the files before it.
-/

namespace Stencil
namespace Render

open Stencil.Render.Action

/-! ## Operations -/

/-- What can happen to a session. -/
inductive Operation where
  /-- It is asked for something. -/
  | ask (request : Request)
  /-- Others change the files. -/
  | change (how : File.Tree → File.Tree)
  /-- Time goes on. -/
  | wait (now : Text)

namespace Operation

/-- Others write a file, where that is possible. -/
def write (path : File.Path) (bytes : List UInt8) : Operation :=
  .change fun tree => (tree.write path bytes).toOption.getD tree

/-- Others delete a file, where there is one. -/
def delete (path : File.Path) : Operation :=
  .change fun tree => (tree.delete path).toOption.getD tree

/-- The session after an operation, whether it succeeds or fails. -/
def perform : Operation → Session → Session
  | ask request, s => (request.perform s).2
  | change how, s => { s with tree := how s.tree }
  | wait now, s => { s with now := now }

end Operation

/-- The session after one operation and then the next. -/
def Session.run (operations : List Operation) (s : Session) : Session :=
  operations.foldl (fun s operation => operation.perform s) s

theorem Session.run_append (first second : List Operation) (s : Session) :
    s.run (first ++ second) = (s.run first).run second :=
  List.foldl_append

@[simp]
theorem Session.run_concat (operations : List Operation) (operation : Operation) (s : Session) :
    s.run (operations ++ [operation]) = operation.perform (s.run operations) := by
  rw [run_append]
  rfl

/-! ## What requests keep -/

variable {α β : Type} {c : Config} {disk : File.Tree} {I : Cache Key Item → List Event → Prop}
  {P : Failure → Prop} {s : Session}

theorem map_run (f : α → β) (a : Action α) (s : Session) :
    (f <$> a) s = ((a s).1.map f, (a s).2) := by
  rw [map_eq_pure_bind, bind_run]
  rcases a s with ⟨e | v, s'⟩ <;> rfl

/-- Blind actions leave the cache and the history alone. -/
theorem Blind.within {a : Action α} (ha : Blind a) (hs : Within c disk I s) :
    Within c (a s).2.tree I (a s).2 := by
  obtain ⟨effect, heffect⟩ := ha
  rw [heffect s]
  exact ⟨hs.config, rfl, hs.kept⟩

theorem Proceeds.within {a : Action α} (ha : Proceeds I P a s) (hs : Within c disk I s) :
    Within c (a s).2.tree I (a s).2 := by
  obtain ⟨r, -, s', hsteady, hkept, hrun⟩ := ha
  rw [hrun]
  exact (blind_settle r).within (hs.steady hsteady hkept)

/-- Whatever comes of an action, what is blind may follow. -/
theorem Proceeds.within_attempt_bind {a : Action α} (ha : Proceeds I P a s)
    (hs : Within c disk I s) {f : Except Failure α → Action β} (hf : ∀ r, Blind (f r)) :
    Within c ((attempt a >>= f) s).2.tree I ((attempt a >>= f) s).2 := by
  rw [bind_run]
  exact (hf _).within (ha.within hs)

/-- A request keeps what the stages keep, unless the cache is to be cleared. -/
theorem within_perform (hI : Upkeep disk I) (hc : c.Valid) (hs : Within c disk I s)
    {request : Request} (hrequest : request ≠ .clearCache) :
    Within c (request.perform s).2.tree I (request.perform s).2 := by
  have hload : ∀ identifier, Proceeds I (fun _ => True) (load identifier) s :=
    fun identifier => proceeds_load hI hs (fun _ _ => trivial) fun _ => trivial
  cases request with
  | render identifier data =>
      rw [Request.perform, map_run]
      refine (proceeds_prepare hI hc identifier hs).within_attempt_bind hs fun result => ?_
      cases result with
      | error failure => exact blind_failed identifier failure
      | ok prepared => exact blind_invoke identifier prepared.2 data
  | prepare identifier =>
      rw [Request.perform, map_run]
      exact (proceeds_prepare hI hc identifier hs).within hs
  | load identifier =>
      rw [Request.perform, map_run]
      exact (hload identifier).within hs
  | loadOrEmpty identifier =>
      rw [Request.perform, map_run]
      refine (hload identifier).within_attempt_bind hs fun result => ?_
      split
      · exact blind_pure _
      · exact blind_pure _
      · exact blind_throw _
  | inline text depth identifier =>
      rw [Request.perform, map_run]
      exact (proceeds_inline hI hc [] hs).within hs
  | clearCache => exact absurd rfl hrequest

/-- An operation keeps what the stages keep over every file tree, unless it clears the
cache. -/
theorem within_operation_of_ne (hI : ∀ disk, Upkeep disk I) (hc : c.Valid)
    (hs : Within c disk I s) {operation : Operation} (hoperation : operation ≠ .ask .clearCache) :
    Within c (operation.perform s).tree I (operation.perform s) := by
  cases operation with
  | ask request => exact within_perform (hI disk) hc hs fun h => hoperation (h ▸ rfl)
  | change how => exact ⟨hs.config, rfl, hs.kept⟩
  | wait now => exact ⟨hs.config, rfl, hs.kept⟩

/-- An operation keeps what the stages keep over every file tree and clearing keeps too. -/
theorem within_operation (hI : ∀ disk, Upkeep disk I) (hc : c.Valid) (hs : Within c disk I s)
    (hclear : ∀ {cache events}, I cache events → I cache.clear (events ++ [.cleared]))
    (operation : Operation) :
    Within c (operation.perform s).tree I (operation.perform s) := by
  by_cases hoperation : operation = .ask .clearCache
  · subst hoperation
    exact ⟨hs.config, rfl, hclear hs.kept⟩
  · exact within_operation_of_ne hI hc hs hoperation

/-- A run keeps it as well. -/
theorem within_run (hI : ∀ disk, Upkeep disk I) (hc : c.Valid) (hs : Within c disk I s)
    (hclear : ∀ {cache events}, I cache events → I cache.clear (events ++ [.cleared]))
    (operations : List Operation) :
    Within c (s.run operations).tree I (s.run operations) := by
  induction operations generalizing s disk with
  | nil => exact ⟨hs.config, rfl, hs.kept⟩
  | cons operation operations ih => exact ih (within_operation hI hc hs hclear operation)

/-- A run without clearing keeps what the stages keep. -/
theorem within_run_of_not_mem (hI : ∀ disk, Upkeep disk I) (hc : c.Valid)
    (hs : Within c disk I s) {operations : List Operation}
    (hclear : .ask .clearCache ∉ operations) :
    Within c (s.run operations).tree I (s.run operations) := by
  induction operations generalizing s disk with
  | nil => exact ⟨hs.config, rfl, hs.kept⟩
  | cons operation operations ih =>
      rw [List.mem_cons, not_or] at hclear
      exact ih (within_operation_of_ne hI hc hs (Ne.symm hclear.1)) hclear.2

theorem config_run (hc : s.config.Valid) (operations : List Operation) :
    (s.run operations).config = s.config :=
  (within_run upkeep_trivial hc ⟨rfl, rfl, trivial⟩ (fun _ => trivial) operations).config

/-! ## What is added to the history -/

/-- A history that goes on from an older one, with the truth about the files and without
clearing. -/
def Extends (disk : File.Tree) (old events : List Event) : Prop :=
  ∃ new, events = old ++ new ∧ ∀ event ∈ new, event.Truthful disk ∧ event ≠ .cleared

theorem extends_refl (disk : File.Tree) (old : List Event) : Extends disk old old :=
  ⟨[], (List.append_nil old).symm, by simp⟩

theorem Extends.concat {old events : List Event} {event : Event} (h : Extends disk old events)
    (htruthful : event.Truthful disk) (hcleared : event ≠ .cleared) :
    Extends disk old (events ++ [event]) := by
  obtain ⟨new, rfl, hnew⟩ := h
  refine ⟨new ++ [event], List.append_assoc .., fun e he => ?_⟩
  rcases List.mem_append.1 he with hold | hlast
  · exact hnew e hold
  · rw [List.mem_singleton.1 hlast]
    exact ⟨htruthful, hcleared⟩

theorem upkeep_extends (disk : File.Tree) (old : List Event) :
    Upkeep disk fun _ events => Extends disk old events where
  use _ h := h
  fail _ hnone hcleared h := h.concat (Event.truthful_of_entry?_eq_none hnone) hcleared
  make _ _ _ hentry htruthful _ h := h.concat htruthful (Event.ne_cleared_of_entry? hentry)

/-- What an operation adds to the history: clearing adds itself, and everything else the
truth about the files before it. -/
theorem exists_events_perform (hc : s.config.Valid) (operation : Operation) :
    ∃ new, (operation.perform s).events = s.events ++ new ∧
      (∀ event ∈ new, event.Truthful s.tree) ∧
      (.cleared ∈ new → operation = .ask .clearCache) := by
  by_cases hclear : operation = .ask .clearCache
  · subst hclear
    exact ⟨[.cleared], rfl, by simp [Event.Truthful], fun _ => rfl⟩
  · have hextends : Extends s.tree s.events (operation.perform s).events := by
      cases operation with
      | ask request =>
          have hs : Within s.config s.tree (fun _ events => Extends s.tree s.events events) s :=
            ⟨rfl, rfl, extends_refl _ _⟩
          exact (within_perform (upkeep_extends _ _) hc hs fun h => hclear (h ▸ rfl)).kept
      | change how => exact extends_refl _ _
      | wait now => exact extends_refl _ _
    obtain ⟨new, hnew, hall⟩ := hextends
    exact ⟨new, hnew, fun event he => (hall event he).1,
      fun hcleared => absurd rfl (hall _ hcleared).2⟩

/-- Without clearing, a history only grows by what is read and compiled. -/
theorem exists_events_run (hc : s.config.Valid) {operations : List Operation}
    (hclear : .ask .clearCache ∉ operations) :
    ∃ later, (s.run operations).events = s.events ++ later ∧ .cleared ∉ later := by
  induction operations generalizing s with
  | nil => exact ⟨[], (List.append_nil _).symm, by simp⟩
  | cons operation operations ih =>
      rw [List.mem_cons, not_or] at hclear
      have hvalid : (operation.perform s).config.Valid := by
        rw [show (operation.perform s).config = s.config from config_run hc [operation]]
        exact hc
      obtain ⟨new, hnew, -, hcleared⟩ := exists_events_perform hc operation
      obtain ⟨later, hlater, hrest⟩ := ih hvalid hclear.2
      refine ⟨new ++ later, ?_, ?_⟩
      · rw [← List.append_assoc, ← hnew]
        exact hlater
      · rw [List.mem_append, not_or]
        exact ⟨fun h => hclear.1 (hcleared h).symm, hrest⟩

/-- Every event of a run was added by some operation, over whose files it tells the truth. -/
theorem exists_operation_of_event {tree : File.Tree} {now : Text} (hc : c.Valid)
    {operations : List Operation} {n : Nat} {event : Event}
    (h : ((Session.start c tree now).run operations).events[n]? = some event) :
    ∃ before operation later, operations = before ++ operation :: later ∧
      ((Session.start c tree now).run before).events.length ≤ n ∧
      n < (operation.perform ((Session.start c tree now).run before)).events.length ∧
      event.Truthful ((Session.start c tree now).run before).tree := by
  induction operations using List.reverseRecOn with
  | nil => simp [Session.run, Session.start] at h
  | append_singleton operations operation ih =>
      have hvalid : ((Session.start c tree now).run operations).config.Valid := by
        rw [config_run hc]
        exact hc
      obtain ⟨new, hnew, htruthful, -⟩ := exists_events_perform hvalid operation
      rw [Session.run_concat] at h
      by_cases hold : n < ((Session.start c tree now).run operations).events.length
      · rw [hnew, List.getElem?_append_left hold] at h
        obtain ⟨before, operation', later, hoperations, hbounds⟩ := ih h
        refine ⟨before, operation', later ++ [operation], ?_, hbounds⟩
        rw [hoperations, List.append_assoc, List.cons_append]
      · have hbound := (List.getElem?_eq_some_iff.1 h).1
        rw [hnew, List.getElem?_append_right (not_lt.1 hold)] at h
        exact ⟨operations, operation, [], rfl, not_lt.1 hold, hbound,
          htruthful event (List.mem_of_getElem? h)⟩

end Render
end Stencil
