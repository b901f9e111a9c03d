import Mathlib.Data.List.Lex
import Stencil.Proofs.Render.Coherence
import Stencil.Proofs.Render.Inclusion

/-!
# Bounded expansion

Expansion has a result exactly when everything that a text includes can be read and goes
no deeper than allowed; the result is the full expansion.  Otherwise expansion fails at
the first offending marker, where a marker comes before the markers in its own file, and
those come before the markers to its right.

Main results:

- Definitions `Site`, `siteAt?` and `FirstOffence`: the markers of a text and of the files
  below it, by address, and the first one that offends.
- Theorem `firstOffence_of_expand`: plain expansion fails with the first offence.
- Theorem `inline_eq_bounded_expansion`: expansion in a session with an empty cache.
-/

namespace Stencil
namespace Render

open Stencil.Render.Action Outcome Template

variable {c : Config} {tree : File.Tree} {text identifier : Text} {depth : Int}

/-! ## Markers and their offences -/

/-- A component marker: the template that it stands in, how deep that is, and its name. -/
structure Site where
  identifier : Text
  depth : Int
  name : Text
deriving DecidableEq

/-- What is wrong with a marker: it stands too deep, its file is missing, or its file
cannot be read. -/
def Site.offence? (c : Config) (tree : File.Tree) (site : Site) : Option Failure :=
  let path := c.componentPath site.name
  if c.maxDepth < site.depth then some (.template (.recursionTooDeep site.identifier))
  else match Plain.isFile tree path with
    | .error f => some f
    | .ok false => some (.template (.componentNotFound path.text site.identifier))
    | .ok true => match readTree tree path with
      | .error f => some f
      | .ok _ => none

/-- The marker at an address: which marker it is in the text, then which one in the file
of that, and so on. -/
def siteAt? (c : Config) (tree : File.Tree) :
    (text : Text) → (depth : Int) → (identifier : Text) → List Nat → Option Site
  | _, _, _, [] => none
  | text, depth, identifier, i :: below =>
    match (components c.delimiters text)[i]? with
    | none => none
    | some name =>
      if below = [] then some ⟨identifier, depth, name⟩
      else match readTree tree (c.componentPath name) with
        | .error _ => none
        | .ok inner => siteAt? c tree inner (depth + 1) (c.componentPath name).text below

/-- The first offence in a text and the files below it.  Addresses are ordered as in a
dictionary, so that a marker comes before those in its file and those to its right. -/
def FirstOffence (c : Config) (tree : File.Tree) (text : Text) (depth : Int)
    (identifier : Text) (f : Failure) : Prop :=
  ∃ address site, siteAt? c tree text depth identifier address = some site ∧
    site.offence? c tree = some f ∧
    ∀ earlier site', earlier < address → siteAt? c tree text depth identifier earlier = some site' →
      site'.offence? c tree = none

/-- No marker in a text or the files below it offends. -/
def Faultless (c : Config) (tree : File.Tree) (text : Text) (depth : Int)
    (identifier : Text) : Prop :=
  ∀ address site, siteAt? c tree text depth identifier address = some site →
    site.offence? c tree = none

theorem siteAt?_cons_iff {i : Nat} {below : List Nat} {site : Site} :
    siteAt? c tree text depth identifier (i :: below) = some site ↔
      ∃ name, (components c.delimiters text)[i]? = some name ∧
        (below = [] ∧ site = ⟨identifier, depth, name⟩ ∨
          ∃ inner, readTree tree (c.componentPath name) = .ok inner ∧
            siteAt? c tree inner (depth + 1) (c.componentPath name).text below = some site) := by
  rw [siteAt?]
  cases (components c.delimiters text)[i]? with
  | none => simp
  | some name =>
      cases below with
      | nil => simp [siteAt?, eq_comm]
      | cons j below => cases hread : readTree tree (c.componentPath name) <;> simp [hread]

theorem offence?_eq_none_iff {site : Site} :
    site.offence? c tree = none ↔ site.depth ≤ c.maxDepth ∧ Readable c tree site.name := by
  unfold Site.offence? Readable
  dsimp only
  split
  · rename_i hdeep
    simp only [reduceCtorEq, false_iff, not_and]
    omega
  · rename_i hdepth
    constructor
    · intro h
      refine ⟨by omega, ?_⟩
      cases hfile : Plain.isFile tree (c.componentPath site.name) with
      | error f => simp [hfile] at h
      | ok found =>
          cases found with
          | false => simp [hfile] at h
          | true =>
              cases hread : readTree tree (c.componentPath site.name) with
              | error f => simp [hfile, hread] at h
              | ok inner => exact ⟨inner, rfl⟩
    · rintro ⟨-, inner, hread⟩
      rw [Plain.isFile_of_readTree hread, hread]

/-- There is only one first offence. -/
theorem FirstOffence.unique {f g : Failure} (hf : FirstOffence c tree text depth identifier f)
    (hg : FirstOffence c tree text depth identifier g) : f = g := by
  obtain ⟨address, site, hsite, hoffence, hfirst⟩ := hf
  obtain ⟨address', site', hsite', hoffence', hfirst'⟩ := hg
  rcases lt_trichotomy address address' with hlt | rfl | hlt
  · rw [hfirst' address site hlt hsite] at hoffence
    cases hoffence
  · obtain rfl := Option.some.inj (hsite.symm.trans hsite')
    exact Option.some.inj (hoffence.symm.trans hoffence')
  · rw [hfirst address' site' hlt hsite'] at hoffence'
    cases hoffence'

/-! ## Depth -/

theorem remainingDepth_eq_zero_iff : remainingDepth c depth = 0 ↔ c.maxDepth < depth := by
  unfold remainingDepth
  omega

theorem depth_le_of_remainingDepth {n : Nat} (h : n + 1 = remainingDepth c depth) :
    depth ≤ c.maxDepth ∧ n = remainingDepth c (depth + 1) := by
  unfold remainingDepth at h ⊢
  omega

/-- The bound on the height is one more than the bound on the depth of markers. -/
theorem height_le_remainingDepth_iff :
    height c tree text ≤ remainingDepth c depth ↔
      height c tree text = 0 ∨ ∃ h : ℕ, height c tree text = h ∧ depth + h ≤ c.maxDepth + 1 := by
  unfold remainingDepth
  constructor
  · intro hle
    have hfinite := ne_top_of_le_ne_top (ENat.natCast_ne_top _) hle
    obtain ⟨h, hheight⟩ := ENat.ne_top_iff_exists.1 hfinite
    rw [← hheight] at hle ⊢
    have := Nat.cast_le.1 hle
    rcases Nat.eq_zero_or_pos h with rfl | hpos
    · exact Or.inl rfl
    · exact Or.inr ⟨h, rfl, by omega⟩
  · rintro (hzero | ⟨h, hheight, hle⟩)
    · rw [hzero]
      exact zero_le
    · rw [hheight]
      exact Nat.cast_le.2 (by omega)

/-! ## Where plain expansion fails -/

/-- Expansion of tokens fails as the first component does that has no expansion. -/
theorem expandTokens_eq_error {expand : Text → Except Failure Text} {tokens : List Token}
    {f : Failure} (h : Plain.expandTokens expand tokens = .error f) :
    ∃ before name after, componentNames tokens = before ++ name :: after ∧
      expand name = .error f ∧ ∀ earlier ∈ before, ∃ out, expand earlier = .ok out := by
  induction tokens with
  | nil => cases h
  | cons token tokens ih =>
      rw [Plain.expandTokens] at h
      rcases bind_eq_error_iff.1 h with hfirst | ⟨text, hfirst, h⟩
      · cases token with
        | component name raw => exact ⟨[], name, _, rfl, hfirst, by simp⟩
        | literal t => cases hfirst
        | placeholder expression raw => cases hfirst
      · rcases bind_eq_error_iff.1 h with hrest | ⟨rest, -, h⟩
        · obtain ⟨before, name, after, hnames, hname, hbefore⟩ := ih hrest
          cases token with
          | component first raw =>
              refine ⟨first :: before, name, after, by simp [hnames], hname, ?_⟩
              exact List.forall_mem_cons.2 ⟨⟨text, hfirst⟩, hbefore⟩
          | literal t => exact ⟨before, name, after, hnames, hname, hbefore⟩
          | placeholder expression raw => exact ⟨before, name, after, hnames, hname, hbefore⟩
        · exact absurd h pure_ne_error

/-- A marker does not offend when its file can be read, and nothing below it does when
nothing in the file does. -/
theorem offence?_eq_none_of_below {i : Nat} {name inner : Text} {below : List Nat} {site : Site}
    (hname : (components c.delimiters text)[i]? = some name) (hdepth : depth ≤ c.maxDepth)
    (hread : readTree tree (c.componentPath name) = .ok inner)
    (hbelow : Faultless c tree inner (depth + 1) (c.componentPath name).text)
    (hsite : siteAt? c tree text depth identifier (i :: below) = some site) :
    site.offence? c tree = none := by
  obtain ⟨name', hname', hplace⟩ := siteAt?_cons_iff.1 hsite
  obtain rfl := Option.some.inj (hname.symm.trans hname')
  rcases hplace with ⟨-, rfl⟩ | ⟨inner', hread', hsite⟩
  · exact offence?_eq_none_iff.2 ⟨hdepth, inner, hread⟩
  · obtain rfl := Except.ok.inj (hread.symm.trans hread')
    exact hbelow below site hsite

/-- Where expansion has a result, nothing offends. -/
theorem faultless_of_expand {n : Nat} {out : Text} (hn : n = remainingDepth c depth)
    (h : Plain.expand c tree n identifier text = .ok out) :
    Faultless c tree text depth identifier := by
  induction n generalizing text depth identifier out with
  | zero =>
      have hnone := (Plain.exists_expand_iff.1 ⟨out, h⟩).2
      rw [Nat.cast_zero, height_le_zero_iff] at hnone
      intro address site hsite
      cases address with
      | nil => cases hsite
      | cons i below =>
          obtain ⟨name, hname, -⟩ := siteAt?_cons_iff.1 hsite
          rw [hnone] at hname
          cases hname
  | succ n ih =>
      obtain ⟨hdepth, hn⟩ := depth_le_of_remainingDepth hn
      intro address site hsite
      cases address with
      | nil => cases hsite
      | cons i below =>
          obtain ⟨name, hname, -⟩ := siteAt?_cons_iff.1 hsite
          obtain ⟨out', hout⟩ := Plain.exists_expandTokens_iff.1 ⟨out, h⟩ name
            (List.mem_of_getElem? hname)
          obtain ⟨inner, hread, hout⟩ := Plain.expandComponent_eq_ok_iff.1 hout
          exact offence?_eq_none_of_below hname hdepth hread (ih hn hout) hsite

/-- A component without an expansion offends itself, or something below it does. -/
theorem expandComponent_eq_error {n : Nat} {name : Text} {f : Failure}
    (hdepth : depth ≤ c.maxDepth)
    (h : Plain.expandComponent c tree (some (Plain.expand c tree n)) identifier name = .error f) :
    Site.offence? c tree ⟨identifier, depth, name⟩ = some f ∨
      ∃ inner, readTree tree (c.componentPath name) = .ok inner ∧
        Plain.expand c tree n (c.componentPath name).text inner = .error f := by
  unfold Site.offence?
  dsimp only
  rw [if_neg (by omega)]
  unfold Plain.expandComponent at h
  rcases bind_eq_error_iff.1 h with hfile | ⟨found, hfile, h⟩
  · left
    rw [hfile]
  · rw [hfile]
    cases found with
    | false => exact Or.inl (congrArg some (Except.error.inj h))
    | true =>
        rcases bind_eq_error_iff.1 h with hread | ⟨inner, hread, h⟩
        · left
          rw [hread]
        · exact Or.inr ⟨inner, hread, h⟩

/-- An offence is the first one when nothing offends to the left of its marker, and
nothing before it below that marker. -/
theorem firstOffence_of_left {i : Nat} {below : List Nat} {site : Site} {f : Failure}
    (hsite : siteAt? c tree text depth identifier (i :: below) = some site)
    (hoffence : site.offence? c tree = some f)
    (hleft : ∀ j below' site', j < i →
      siteAt? c tree text depth identifier (j :: below') = some site' →
        site'.offence? c tree = none)
    (hbelow : ∀ earlier site', earlier < below →
      siteAt? c tree text depth identifier (i :: earlier) = some site' →
        site'.offence? c tree = none) : FirstOffence c tree text depth identifier f := by
  refine ⟨i :: below, site, hsite, hoffence, fun earlier site' hlt hsite' => ?_⟩
  cases earlier with
  | nil => cases hsite'
  | cons j earlier =>
      rcases List.cons_lt_cons_iff.1 hlt with hless | ⟨rfl, hless⟩
      · exact hleft j earlier site' hless hsite'
      · exact hbelow earlier site' hless hsite'

/-- Plain expansion fails with the first offence. -/
theorem firstOffence_of_expand {n : Nat} {f : Failure} (hn : n = remainingDepth c depth)
    (h : Plain.expand c tree n identifier text = .error f) :
    FirstOffence c tree text depth identifier f := by
  induction n generalizing text depth identifier with
  | zero =>
      obtain ⟨before, name, after, hnames, hname, hbefore⟩ := expandTokens_eq_error h
      obtain rfl : before = [] := by
        refine List.eq_nil_iff_forall_not_mem.2 fun earlier hearlier => ?_
        obtain ⟨out, hout⟩ := hbefore earlier hearlier
        cases hout
      have hhere : (components c.delimiters text)[0]? = some name := by
        rw [components, hnames]
        rfl
      have hoffence : Site.offence? c tree ⟨identifier, depth, name⟩ = some f := by
        rw [← Except.error.inj hname]
        exact if_pos (remainingDepth_eq_zero_iff.1 hn.symm)
      exact firstOffence_of_left (siteAt?_cons_iff.2 ⟨name, hhere, Or.inl ⟨rfl, rfl⟩⟩) hoffence
        (fun j _ _ hj => absurd hj (Nat.not_lt_zero j))
        (fun earlier _ hlt => absurd hlt (List.not_lt_nil earlier))
  | succ n ih =>
      obtain ⟨hdepth, hn⟩ := depth_le_of_remainingDepth hn
      obtain ⟨before, name, after, hnames, hname, hbefore⟩ := expandTokens_eq_error h
      have hhere : (components c.delimiters text)[before.length]? = some name := by
        rw [components, hnames]
        simp
      -- Markers to the left have an expansion, so nothing offends there or below.
      have hleft : ∀ j below site, j < before.length →
          siteAt? c tree text depth identifier (j :: below) = some site →
            site.offence? c tree = none := by
        intro j below site hj hsite
        have hearlier : (components c.delimiters text)[j]? = some before[j] := by
          rw [components, hnames, List.getElem?_append_left hj, List.getElem?_eq_getElem hj]
        obtain ⟨out, hout⟩ := hbefore before[j] (List.getElem_mem hj)
        obtain ⟨inner, hread, hout⟩ := Plain.expandComponent_eq_ok_iff.1 hout
        exact offence?_eq_none_of_below hearlier hdepth hread (faultless_of_expand hn hout) hsite
      rcases expandComponent_eq_error hdepth hname with hoffence | ⟨inner, hread, hinner⟩
      · exact firstOffence_of_left (siteAt?_cons_iff.2 ⟨name, hhere, Or.inl ⟨rfl, rfl⟩⟩) hoffence
          hleft (fun earlier _ hlt => absurd hlt (List.not_lt_nil earlier))
      · obtain ⟨address, site, hsite, hoffence, hfirst⟩ := ih hn hinner
        refine firstOffence_of_left (siteAt?_cons_iff.2 ⟨name, hhere, Or.inr ⟨inner, hread, hsite⟩⟩)
          hoffence hleft fun earlier site' hlt hsite' => ?_
        obtain ⟨name', hname', hplace⟩ := siteAt?_cons_iff.1 hsite'
        obtain rfl := Option.some.inj (hhere.symm.trans hname')
        rcases hplace with ⟨-, rfl⟩ | ⟨inner', hread', hsite'⟩
        · exact offence?_eq_none_iff.2 ⟨hdepth, inner, hread⟩
        · obtain rfl := Except.ok.inj (hread.symm.trans hread')
          exact hfirst earlier site' hlt hsite'

/-- Plain expansion fails exactly where there is a first offence, and with it. -/
theorem expand_eq_error_iff {f : Failure} :
    Plain.expand c tree (remainingDepth c depth) identifier text = .error f ↔
      FirstOffence c tree text depth identifier f := by
  constructor
  · exact firstOffence_of_expand rfl
  · intro hfirst
    cases hexpand : Plain.expand c tree (remainingDepth c depth) identifier text with
    | error f => rw [(firstOffence_of_expand rfl hexpand).unique hfirst]
    | ok out =>
        obtain ⟨address, site, hsite, hoffence, -⟩ := hfirst
        rw [faultless_of_expand rfl hexpand address site hsite] at hoffence
        cases hoffence

/-! ## Expansion in a session -/

/-- Expansion with an empty cache.  It has a result exactly when everything that is
included can be read and the height fits below the depth; the result is the full
expansion.  Otherwise there is a first offence.  The caller sees that failure, unless it
is an error of a template that cannot be announced: then the caller sees the fault of the
error log, whose path cannot be one.  A text that includes a component inside itself has infinite
height. -/
theorem inline_eq_bounded_expansion (s : Session) (hc : s.config.Valid)
    (hcache : s.cache.entries = []) (text : Text) (depth : Int) (identifier : Text) :
    let result := (inline text depth identifier s).1
    ((∃ out, result = .ok out) ↔
      (∀ name, Includes s.config s.tree text name → Readable s.config s.tree name) ∧
        (height s.config s.tree text = 0 ∨
          ∃ h : ℕ, height s.config s.tree text = h ∧ depth + h ≤ s.config.maxDepth + 1)) ∧
    (∀ out, result = .ok out →
      Expands s.config s.tree (scan s.config.delimiters text) out) ∧
    (∀ f, result = .error f ↔
      ∃ offence, FirstOffence s.config s.tree text depth identifier offence ∧
        f = s.escaping offence) ∧
    (∀ offence, FirstOffence s.config s.tree text depth identifier offence →
      (result = .error offence ↔ offence.kind? = none ∨ s.logFault? = none)) ∧
    ('\x00' ∉ s.config.errorLog.text → s.logFault? = none) ∧
    (∀ name inner, Includes s.config s.tree text name →
      readTree s.tree (s.config.componentPath name) = .ok inner →
      Includes s.config s.tree inner name → height s.config s.tree text = ⊤) := by
  intro result
  have hresult : result = (Plain.expand s.config s.tree (remainingDepth s.config depth) identifier
      text).mapError s.escaping :=
    inline_run_fst hc (coherent_of_entries_eq_nil rfl (.refl _ _) hcache) text depth identifier
  clear_value result
  have hok : ∀ out, result = .ok out ↔
      Plain.expand s.config s.tree (remainingDepth s.config depth) identifier text = .ok out := by
    intro out
    rw [hresult, mapError_eq_ok_iff]
  have herror : ∀ f, result = .error f ↔
      ∃ offence, FirstOffence s.config s.tree text depth identifier offence ∧
        f = s.escaping offence := by
    intro f
    rw [hresult, mapError_eq_error_iff]
    simp only [expand_eq_error_iff, @eq_comm _ f]
  refine ⟨?_, ?_, herror, ?_, logFault?_eq_none, fun name inner => height_eq_top⟩
  · simp only [hok]
    rw [Plain.exists_expand_iff, height_le_remainingDepth_iff]
  · intro out hout
    exact Plain.expands_of_expand ((hok out).1 hout)
  · intro offence hfirst
    rw [herror, ← escaping_eq_iff]
    constructor
    · rintro ⟨offence', hfirst', hseen⟩
      rw [hfirst.unique hfirst']
      rw [hfirst.unique hfirst'] at hseen
      exact hseen.symm
    · intro h
      exact ⟨offence, hfirst, h.symm⟩

/-- A component in the file of another one, where markers may stand one component deep. -/
def nestedSession : Session :=
  .start { Config.standard with maxDepth := 1 }
    ⟨[], [(["components"], .directory),
      (["components", "a.mizui"], .file (Text.Utf8.encode "<\x7b\x7bcomponent( b )\x7d\x7d>")),
      (["components", "b.mizui"], .file (Text.Utf8.encode "\x7b\x7bx\x7d\x7d"))]⟩ "now"

/-- The height of the page is two, which fits below the depth zero but no deeper. -/
theorem inline_eq_bounded_expansion_nested :
    nestedSession.config.Valid ∧ nestedSession.cache.entries = [] ∧
      (inline "\x7b\x7bcomponent(a)\x7d\x7d!" 0 "page" nestedSession).1 =
        .ok "<\x7b\x7bx\x7d\x7d>!" ∧
      (∃ h : ℕ, height nestedSession.config nestedSession.tree
        "\x7b\x7bcomponent(a)\x7d\x7d!" = h ∧ h ≤ 2) ∧
      FirstOffence nestedSession.config nestedSession.tree "\x7b\x7bcomponent(a)\x7d\x7d!" 1
        "page" (.template (.recursionTooDeep "components/a.mizui")) := by
  have hvalid : nestedSession.config.Valid :=
    ⟨Config.valid_standard.proper, Config.valid_standard.basePath,
      Config.valid_standard.cacheSize⟩
  have hrun : (inline "\x7b\x7bcomponent(a)\x7d\x7d!" 0 "page" nestedSession).1 =
      .ok "<\x7b\x7bx\x7d\x7d>!" := by decide +kernel
  have hdeep : (inline "\x7b\x7bcomponent(a)\x7d\x7d!" 1 "page" nestedSession).1 =
      .error (.template (.recursionTooDeep "components/a.mizui")) := by decide +kernel
  refine ⟨hvalid, rfl, hrun, ?_, ?_⟩
  · obtain ⟨hiff, -⟩ := inline_eq_bounded_expansion nestedSession hvalid rfl
      "\x7b\x7bcomponent(a)\x7d\x7d!" 0 "page"
    rcases (hiff.1 ⟨_, hrun⟩).2 with hzero | ⟨h, hheight, hle⟩
    · exact ⟨0, hzero, by decide⟩
    · refine ⟨h, hheight, ?_⟩
      change (0 : ℤ) + h ≤ 1 + 1 at hle
      omega
  · obtain ⟨-, -, herror, -, hlog, -⟩ := inline_eq_bounded_expansion nestedSession hvalid rfl
      "\x7b\x7bcomponent(a)\x7d\x7d!" 1 "page"
    obtain ⟨offence, hfirst, hseen⟩ := (herror _).1 hdeep
    rw [escaping_eq_self_iff.2 (hlog (by decide +kernel))] at hseen
    rwa [hseen]

/-- A session whose error log has a path that is none. -/
def unloggedSession : Session :=
  .start { Config.standard with errorLog := ⟨.relative, ["a\x00b"]⟩ } (.bare []) "now"

/-- The first offence is a missing component, and the caller sees the path of the log. -/
theorem inline_error_of_zero_in_log_path :
    unloggedSession.config.Valid ∧ unloggedSession.cache.entries = [] ∧
      FirstOffence unloggedSession.config unloggedSession.tree
        "\x7b\x7bcomponent(x)\x7d\x7d" 0 "p"
        (.template (.componentNotFound "components/x.mizui" "p")) ∧
      (inline "\x7b\x7bcomponent(x)\x7d\x7d" 0 "p" unloggedSession).1 =
        .error (.file ⟨.zeroCharacter, ⟨.relative, ["a\x00b"]⟩⟩) := by
  refine ⟨⟨Config.valid_standard.proper, Config.valid_standard.basePath,
    Config.valid_standard.cacheSize⟩, rfl, ?_, by decide +kernel⟩
  have hsite : siteAt? unloggedSession.config unloggedSession.tree
      "\x7b\x7bcomponent(x)\x7d\x7d" 0 "p" [0] = some ⟨"p", 0, "x"⟩ := by decide +kernel
  exact firstOffence_of_left hsite (by decide +kernel)
    (fun j _ _ hj => absurd hj (Nat.not_lt_zero j))
    (fun earlier _ hlt => absurd hlt (List.not_lt_nil earlier))

end Render
end Stencil
