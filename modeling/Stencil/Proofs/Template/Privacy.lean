import Stencil.Proofs.Template.Position
import Stencil.Proofs.Value.Redaction

/-!
# Privacy of attributes

A template sees nothing of the private attributes of objects, wherever in its data the objects
stand: the same text comes of data in which these attributes are removed, or the same exception
is raised.  A name that begins with a low line leads into a mapping like any other key, and into
an object it leads nowhere.

Main results:

- Theorem `apply_redact`: removing private attributes changes no outcome.
- Theorem `private_attributes_never_show`: outcomes do not depend on private attributes, and the
  keys of mappings can be read all the same.
-/

namespace Stencil
namespace Template

open Value

variable {v w : Value} {pool : Pool} {name : Text} {front : List Text}

/-! ## Outcomes -/

/-- At the end of a path, a template finds the same. -/
theorem look_redact (data : Data) (path : List Text) : data.redact.look path = data.look path := by
  have hresolve := resolve_redact data.root data.pool path
  unfold Data.look
  change (data.root.redact.resolve data.pool.redact path).map _ = _
  rw [hresolve]
  cases data.root.resolve data.pool path with
  | error raised => rfl
  | ok v =>
      have hdisplay := display_redact v data.pool
      cases v with
      | null => rfl
      | _ => exact congrArg (fun shown => Except.ok (some shown)) hdisplay

/-- Removing private attributes changes no outcome. -/
theorem apply_redact (c : Compiled) (data : Data) : c.apply data.redact = c.apply data := by
  by_cases hroot : data.root = .null
  · have hredacted : data.redact.root = .null := redact_eq_null_iff.2 hroot
    rw [apply_of_root_eq_null c hroot, apply_of_root_eq_null c hredacted]
  · have hredacted : data.redact.root ≠ .null := fun h => hroot (redact_eq_null_iff.1 h)
    rw [apply_of_root_ne_null c hroot, apply_of_root_ne_null c hredacted]
    exact renderPartsWith_congr fun path _ => look_redact data path

/-! ## Keys and attributes -/

/-- A mapping is entered by any of its keys. -/
theorem resolve_of_key {entries : Entries} (hv : pool.reveal v = .mapping entries)
    (hdistinct : (entries.map Prod.fst).Nodup) (hentry : (.text name, w) ∈ entries) :
    v.resolve pool [name] = .ok w := by
  have hstep : v.step pool name = .ok (some w) := by
    rw [step, hv]
    exact congrArg Except.ok (find?_of_mem hdistinct hentry)
  rw [resolve_cons (ne_null_of_reveal hv (by simp)), hstep]
  exact resolve_nil w pool

/-- An object is not entered by a private name. -/
theorem resolve_of_private {attributes : List (Text × Except Raised Value)}
    {display form : Except Raised Text}
    (hv : pool.reveal v = .object attributes display form) (hname : isPrivate name = true)
    (back : List Text) : v.resolve pool (name :: back) = .ok .null := by
  have hstep : v.step pool name = .ok none := by
    rw [step, hv]
    exact if_pos hname
  rw [resolve_cons (ne_null_of_reveal hv (by simp)), hstep]

/-- Private attributes never influence what comes of a template: with all of them removed, from
every object in the data, the outcome is the same, and so it is with any data that differ in them
only.  The keys of mappings can be read all the same, also when they begin with a low line, while
the same name leads nowhere in an object. -/
theorem private_attributes_never_show (data : Data) :
    (∀ c : Compiled, c.apply data.redact = c.apply data) ∧
    (∀ (c : Compiled) (other : Data), other.redact = data.redact →
      c.apply other = c.apply data) ∧
    ∀ front v name, data.root.resolve data.pool front = .ok v → isPrivate name = true →
      (∀ entries w, data.pool.reveal v = .mapping entries → (entries.map Prod.fst).Nodup →
        (.text name, w) ∈ entries →
        (w = .null → (⟨[.path (front ++ [name])]⟩ : Compiled).apply data.redact = .ok []) ∧
        (w ≠ .null → (⟨[.path (front ++ [name])]⟩ : Compiled).apply data.redact =
          w.display data.pool)) ∧
      ∀ attributes display form back, data.pool.reveal v = .object attributes display form →
        (⟨[.path (front ++ name :: back)]⟩ : Compiled).apply data = .ok [] := by
  refine ⟨fun c => apply_redact c data, ?_, ?_⟩
  · intro c other hsame
    rw [← apply_redact c other, hsame, apply_redact c data]
  · intro front v name hfront hname
    constructor
    · intro entries w hv hdistinct hentry
      have hresolve : data.root.resolve data.pool (front ++ [name]) = .ok w := by
        rw [resolve_append hfront, resolve_of_key hv hdistinct hentry]
      rw [apply_redact]
      exact apply_path (by simp) hresolve
    · intro attributes display form back hv
      have hresolve : data.root.resolve data.pool (front ++ name :: back) = .ok .null := by
        rw [resolve_append hfront, resolve_of_private hv hname]
      exact (apply_path (by simp) hresolve).1 rfl

/-- A user with a token, an attribute that raises and a name, in a list beside an entry whose key
begins with a low line. -/
def guardedData : Data :=
  .ofTree (.mapping [
    (.text "users", .list [.object [("_token", .ok (.text "t")),
      ("_age", .error ⟨"ValueError", "unknown"⟩), ("name", .ok (.text "Ada"))]
      (.ok "<user>") "<User>"]),
    (.text "_id", .text "u7")])

/-- The user keeps a name only, the entry can be read, and the token cannot. -/
theorem private_attributes_never_show_guarded :
    guardedData.redact.root = .mapping [
      (.text "users", .list [.object [("name", .ok (.text "Ada"))] (.ok "<user>") "<User>"]),
      (.text "_id", .text "u7")] ∧
    (⟨[.path ["_id"]]⟩ : Compiled).apply guardedData.redact = .ok "u7" ∧
    (⟨[.path ["users", "0", "_token"]]⟩ : Compiled).apply guardedData = .ok [] := by
  rcases private_attributes_never_show guardedData with ⟨-, -, hkeys⟩
  have hid := (hkeys [] _ "_id" (resolve_nil _ _) rfl).1 _ (.text "u7") rfl (by simp) (by simp)
  have huser : guardedData.root.resolve guardedData.pool ["users", "0"] = .ok (.object
      [("_token", .ok (.text "t")), ("_age", .error ⟨"ValueError", "unknown"⟩),
        ("name", .ok (.text "Ada"))] (.ok "<user>") "<User>") := by
    rfl
  refine ⟨by rfl, hid.2 (by simp), ?_⟩
  exact (hkeys ["users", "0"] _ "_token" huser rfl).2 _ _ _ [] rfl

end Template
end Stencil
