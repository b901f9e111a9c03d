import Stencil.Proofs.Render.Coherence

/-!
# The cache is transparent

Requests to a session are answered as a session without a past would answer them, whatever
the cache holds by then and has given up before, as long as the files that templates are
read from stay as they are.  Only the history tells the difference.

Main results:

- Definitions `Request`, `Request.perform` and `after`: what a session is asked for, and
  the session after a sequence of requests.
- Definition `Stable`: the files concerned stay as they are during a sequence of requests.
- Theorem `answers_perform`: how a request is answered does not depend on the cache.
- Theorem `coherent_after`: every session that is reached has a coherent cache.
- Theorem `perform_eq_perform_start`: the answer, the files and the messages after a
  request are those of a session that starts there.
-/

namespace Stencil
namespace Render

open Stencil.Render.Action Template

/-! ## Requests -/

/-- What a session is asked for. -/
inductive Request where
  | render (identifier : Text) (data : Data)
  | prepare (identifier : Text)
  | load (identifier : Text)
  /-- Loads a template, or nothing when there is no file. -/
  | loadOrEmpty (identifier : Text)
  | inline (text : Text) (depth : Int) (identifier : Text)
  | clearCache

/-- What a session answers. -/
inductive Reply where
  | rendered (result : Result)
  | prepared (program : Program) (template : Compiled)
  | text (t : Text)
  | done
deriving DecidableEq

namespace Request

/-- Does what is asked for. -/
def perform : Request → Action Reply
  | render identifier data => Reply.rendered <$> Render.render identifier data
  | prepare identifier => (fun (program, template) => .prepared program template) <$>
      Render.prepare identifier
  | load identifier => Reply.text <$> Render.load identifier
  | loadOrEmpty identifier => Reply.text <$> Render.loadOrEmpty identifier
  | inline text depth identifier => Reply.text <$> Render.inline text depth identifier
  | clearCache => (fun _ => .done) <$> Render.clearCache

/-- The template that is read for a request. -/
def identifier? : Request → Option Text
  | render identifier _ => some identifier
  | prepare identifier => some identifier
  | load identifier => some identifier
  | loadOrEmpty identifier => some identifier
  | inline .. => none
  | clearCache => none

end Request

/-- The session after a sequence of requests, whether they succeed or fail. -/
def after (requests : List Request) (s : Session) : Session :=
  requests.foldl (fun s request => (request.perform s).2) s

/-! ## The files concerned -/

/-- The paths that the templates of requests are read from: the templates asked for, the
components in given texts, and the components in files that are concerned already. -/
inductive Concerned (c : Config) (disk : File.Tree) (requests : List Request) :
    File.Path → Prop where
  | asked {request : Request} {identifier : Text} (hrequest : request ∈ requests)
      (hidentifier : request.identifier? = some identifier) :
      Concerned c disk requests (.ofText identifier)
  | given {text identifier name : Text} {depth : Int}
      (hrequest : .inline text depth identifier ∈ requests)
      (hname : name ∈ components c.delimiters text) :
      Concerned c disk requests (c.componentPath name)
  | included {path : File.Path} {text name : Text} (hpath : Concerned c disk requests path)
      (hread : readTree disk path = .ok text) (hname : name ∈ components c.delimiters text) :
      Concerned c disk requests (c.componentPath name)

/-- The files concerned stay as they are while a session that starts over a file tree is
asked one request after the other. -/
def Stable (c : Config) (disk : File.Tree) (now : Text) (requests : List Request) : Prop :=
  ∀ earlier, earlier <+: requests →
    Agree (Concerned c disk requests) disk (after earlier (.start c disk now)).tree

/-- What the requests concern includes what its files include. -/
theorem closed_concerned (c : Config) (disk : File.Tree) (requests : List Request) :
    Closed c (Concerned c disk requests) disk :=
  fun _ _ hpath hread _ hname => .included hpath hread hname

/-! ## One request -/

/-- An action that does steady work over every session with a coherent cache, and then
what a blind action does.  The blind action is the same for all of these sessions. -/
def Answers {α : Type} (c : Config) (concerned : File.Path → Prop) (disk : File.Tree)
    (a : Action α) : Prop :=
  ∃ answer : Action α, Blind answer ∧ ∀ s, Coherent c concerned disk s →
    ∃ s', Steady s s' ∧ Coherent c concerned disk s' ∧ a s = answer s'

variable {α β : Type} {c : Config} {concerned : File.Path → Prop} {disk : File.Tree}

/-- An action that settles in coherent sessions gives one answer in all of them. -/
theorem answers_of_settles {a : Action α} {r : Except Failure α}
    (h : ∀ s, Coherent c concerned disk s → Settles (Coherent c concerned disk) a s r) :
    Answers c concerned disk a :=
  ⟨settle r, blind_settle r, h⟩

/-- What comes after the answer may write logs, and the answer stands. -/
theorem Answers.bind {a : Action α} {f : α → Action β} (ha : Answers c concerned disk a)
    (hf : ∀ v, Blind (f v)) : Answers c concerned disk (a >>= f) := by
  obtain ⟨answer, hblind, hanswer⟩ := ha
  refine ⟨answer >>= f, hblind.bind hf, fun s hs => ?_⟩
  obtain ⟨s', hsteady, hs', hrun⟩ := hanswer s hs
  exact ⟨s', hsteady, hs', by rw [bind_run, bind_run, hrun]⟩

theorem Answers.map {a : Action α} (ha : Answers c concerned disk a) (f : α → β) :
    Answers c concerned disk (f <$> a) :=
  ha.bind fun v => blind_pure (f v)

/-- Catching a failure needs no cache. -/
theorem Blind.attempt {a : Action α} (ha : Blind a) : Blind (attempt a) := by
  obtain ⟨effect, heffect⟩ := ha
  refine ⟨fun config tree now => (.ok (effect config tree now).1, (effect config tree now).2),
    fun s => ?_⟩
  unfold Action.attempt
  rw [heffect s]

/-- A failure that is caught is part of the answer. -/
theorem Answers.attempt {a : Action α} (ha : Answers c concerned disk a) :
    Answers c concerned disk (attempt a) := by
  obtain ⟨answer, hblind, hanswer⟩ := ha
  refine ⟨Action.attempt answer, hblind.attempt, fun s hs => ?_⟩
  obtain ⟨s', hsteady, hs', hrun⟩ := hanswer s hs
  refine ⟨s', hsteady, hs', ?_⟩
  unfold Action.attempt
  rw [hrun]

/-- Giving up all entries is answered alike everywhere. -/
theorem answers_clearCache : Answers c concerned disk clearCache := by
  refine ⟨pure (), blind_pure (), fun s hs => ?_⟩
  exact ⟨{ s with cache := s.cache.clear, events := s.events ++ [.cleared] },
    ⟨rfl, rfl, rfl, rfl⟩, ⟨hs.clear.config, hs.clear.agree, hs.clear.faithful⟩, rfl⟩

/-- How a request is answered does not depend on what a coherent cache holds. -/
theorem answers_perform {requests : List Request} {request : Request} (hc : c.Valid)
    (hrequest : request ∈ requests) :
    Answers c (Concerned c disk requests) disk request.perform := by
  have hclosed := closed_concerned c disk requests
  have hload : ∀ identifier, request.identifier? = some identifier →
      Answers c (Concerned c disk requests) disk (load identifier) :=
    fun identifier hidentifier => answers_of_settles fun s hs =>
      settles_load hs (.asked hrequest hidentifier)
  have hprepare : ∀ identifier, request.identifier? = some identifier →
      Answers c (Concerned c disk requests) disk (prepare identifier) :=
    fun identifier hidentifier => answers_of_settles fun s hs =>
      settles_prepare hc hclosed hs (.asked hrequest hidentifier)
  cases request with
  | render identifier data =>
      refine ((hprepare identifier rfl).attempt.bind fun result => ?_).map _
      cases result with
      | error failure => exact blind_failed identifier failure
      | ok prepared => exact blind_invoke identifier prepared.2 data
  | prepare identifier => exact (hprepare identifier rfl).map _
  | load identifier => exact (hload identifier rfl).map _
  | loadOrEmpty identifier =>
      refine ((hload identifier rfl).attempt.bind fun result => ?_).map _
      split
      · exact blind_pure _
      · exact blind_pure _
      · exact blind_throw _
  | inline text depth identifier =>
      have hsettles : Answers c (Concerned c disk requests) disk (inline text depth identifier) :=
        answers_of_settles fun s hs =>
          settles_inline hc hclosed hs text depth identifier fun name hname =>
            .given hrequest hname
      exact hsettles.map _
  | clearCache => exact answers_clearCache.map _

/-- Sessions that differ only in a coherent cache and the past are answered alike. -/
theorem Answers.eq_of_steady {a : Action α} (ha : Answers c concerned disk a) {s t : Session}
    (hs : Coherent c concerned disk s) (ht : Coherent c concerned disk t)
    (htree : s.tree = t.tree) (hnow : s.now = t.now) :
    (a s).1 = (a t).1 ∧ (a s).2.tree = (a t).2.tree ∧
      ∃ told, (a s).2.messages = s.messages ++ told ∧ (a t).2.messages = t.messages ++ told := by
  obtain ⟨answer, ⟨effect, heffect⟩, hanswer⟩ := ha
  obtain ⟨s', hsteady, hs', hrun⟩ := hanswer s hs
  obtain ⟨t', hsteady', ht', hrun'⟩ := hanswer t ht
  have hsame : effect s'.config s'.tree s'.now = effect t'.config t'.tree t'.now := by
    rw [hs'.config, ht'.config, hsteady.tree, hsteady'.tree, hsteady.now, hsteady'.now, htree, hnow]
  rw [hrun, hrun', heffect s', heffect t', hsame]
  refine ⟨rfl, rfl, (effect t'.config t'.tree t'.now).2.2, ?_, ?_⟩
  · rw [← hsteady.messages]
  · rw [← hsteady'.messages]

/-- A request keeps the cache coherent, if it leaves the files concerned as they are. -/
theorem Answers.coherent {a : Action α} (ha : Answers c concerned disk a) {s : Session}
    (hs : Coherent c concerned disk s) (hagree : Agree concerned disk (a s).2.tree) :
    Coherent c concerned disk (a s).2 ∧ (a s).2.now = s.now := by
  obtain ⟨answer, ⟨effect, heffect⟩, hanswer⟩ := ha
  obtain ⟨s', hsteady, hs', hrun⟩ := hanswer s hs
  rw [hrun, heffect s'] at hagree ⊢
  exact ⟨⟨hs'.config, hagree, hs'.faithful⟩, hsteady.now⟩

/-! ## Sequences of requests -/

theorem after_cons (request : Request) (requests : List Request) (s : Session) :
    after (request :: requests) s = after requests (request.perform s).2 := rfl

/-- Every session that is reached has a coherent cache. -/
theorem coherent_after {requests done : List Request} {s : Session} (hc : c.Valid)
    (hdone : ∀ request ∈ done, request ∈ requests)
    (hs : Coherent c (Concerned c disk requests) disk s)
    (hstable : ∀ earlier, earlier <+: done →
      Agree (Concerned c disk requests) disk (after earlier s).tree) :
    Coherent c (Concerned c disk requests) disk (after done s) ∧ (after done s).now = s.now := by
  induction done generalizing s with
  | nil => exact ⟨hs, rfl⟩
  | cons request done ih =>
      obtain ⟨hnext, hnow⟩ := (answers_perform hc (hdone request (List.mem_cons_self ..))).coherent
        hs (hstable [request] (by simp))
      rw [after_cons, ← hnow]
      refine ih (fun r hr => hdone r (List.mem_cons_of_mem _ hr)) hnext fun earlier hearlier => ?_
      exact hstable (request :: earlier) (List.cons_prefix_cons.2 ⟨rfl, hearlier⟩)

/-- After any requests, a request is answered as by a session that starts there: it gives
the same answer or failure, leaves the same files with the same lines in the logs, and
tells the operator the same.  The files concerned have to stay as they are. -/
theorem perform_eq_perform_start {c : Config} (hc : c.Valid) (disk : File.Tree) (now : Text)
    (requests : List Request) (hstable : Stable c disk now requests)
    (earlier later : List Request) (request : Request)
    (hrequests : requests = earlier ++ request :: later) :
    let s := after earlier (.start c disk now)
    let fresh := Session.start c s.tree now
    (request.perform s).1 = (request.perform fresh).1 ∧
      (request.perform s).2.tree = (request.perform fresh).2.tree ∧
      (request.perform s).2.messages = s.messages ++ (request.perform fresh).2.messages := by
  intro s fresh
  have hstart : Coherent c (Concerned c disk requests) disk (.start c disk now) :=
    coherent_of_entries_eq_nil rfl (.refl _ _) rfl
  have hreached : Coherent c (Concerned c disk requests) disk s ∧ s.now = now := by
    refine coherent_after hc (fun r hr => ?_) hstart fun prior hprior => hstable prior ?_
    · rw [hrequests]
      exact List.mem_append_left _ hr
    · rw [hrequests]
      exact hprior.trans (List.prefix_append ..)
  obtain ⟨hs, hnow⟩ := hreached
  have hfresh : Coherent c (Concerned c disk requests) disk fresh :=
    coherent_of_entries_eq_nil rfl hs.agree rfl
  have hrequest : request ∈ requests := by
    rw [hrequests]
    exact List.mem_append_right _ (List.mem_cons_self ..)
  obtain ⟨hanswer, htree, told, htold, htold'⟩ :=
    (answers_perform hc hrequest).eq_of_steady hs hfresh rfl hnow
  refine ⟨hanswer, htree, ?_⟩
  rw [htold, htold']
  rfl

/-- A session that gives up the page while its component is loaded. -/
def crampedConfig : Config := { Config.standard with cacheSize := some 1 }

/-- A page and its component. -/
def pageTree : File.Tree :=
  ⟨[], [(["page"], .file (Text.Utf8.encode "x\x7b\x7bcomponent(a)\x7d\x7d")),
    (["components"], .directory),
    (["components", "a.mizui"], .file (Text.Utf8.encode "\x7b\x7by.z\x7d\x7d!"))]⟩

/-- The page is rendered, another one is missing, and the page is rendered again. -/
def pageRequests : List Request :=
  [.render "page" (.ofTree .null), .load "gone", .render "page" (.ofTree .null)]

/-- The paths that these requests read from. -/
def pagePaths : List File.Path :=
  [.ofText "page", .ofText "gone", crampedConfig.componentPath "a"]

/-- The requests of the example concern the page and its component. -/
theorem concerned_pageRequests {path : File.Path}
    (h : Concerned crampedConfig pageTree pageRequests path) : path ∈ pagePaths := by
  have hcomponents : ∀ p ∈ pagePaths, ∀ text ∈ (readTree pageTree p).toOption,
      ∀ name ∈ components crampedConfig.delimiters text,
        crampedConfig.componentPath name ∈ pagePaths := by decide +kernel
  induction h with
  | asked hrequest hidentifier =>
      have hall : ∀ request ∈ pageRequests, ∀ identifier ∈ request.identifier?,
          File.Path.ofText identifier ∈ pagePaths := by
        unfold pageRequests
        simp only [List.forall_mem_cons, Request.identifier?]
        decide +kernel
      exact hall _ hrequest _ hidentifier
  | given hrequest hname => simp [pageRequests] at hrequest
  | included _ hread hname ih => exact hcomponents _ ih _ (by simp [hread, Except.toOption]) _ hname

/-- In the cramped cache, after a failure, the page is answered as for the first time. -/
theorem perform_eq_perform_start_cramped :
    let s := after (pageRequests.take 2) (.start crampedConfig pageTree "now")
    s.cache.size = 1 ∧ s.tree.nodes.length = 4 ∧
      (Request.perform (.render "page" (.ofTree .null)) s).1 =
        (Request.perform (.render "page" (.ofTree .null))
          (.start crampedConfig s.tree "now")).1 := by
  have hvalid : crampedConfig.Valid :=
    ⟨Config.valid_standard.proper, Config.valid_standard.basePath, by simp [crampedConfig]⟩
  have hstable : Stable crampedConfig pageTree "now" pageRequests := by
    intro earlier hearlier path hpath
    have hall : ∀ n < 4, ∀ p ∈ pagePaths,
        (after (pageRequests.take n) (.start crampedConfig pageTree "now")).tree.isFile p =
            pageTree.isFile p ∧
          (after (pageRequests.take n) (.start crampedConfig pageTree "now")).tree.read p =
            pageTree.read p := by decide +kernel
    have hlength := hearlier.length_le
    rw [List.prefix_iff_eq_take.1 hearlier]
    exact hall earlier.length (by simp [pageRequests] at hlength; omega) path
      (concerned_pageRequests hpath)
  exact ⟨by decide +kernel, by decide +kernel,
    (perform_eq_perform_start hvalid pageTree "now" pageRequests hstable (pageRequests.take 2) []
      (.render "page" (.ofTree .null)) rfl).1⟩

end Render
end Stencil
