import Mathlib.Data.List.Forall2
import Stencil.Proofs.Template.Looking
import Stencil.Proofs.Value.Addressing

/-!
# Rendering JSON data

Applied to JSON data, a compiled template shows what its lookups address, and nothing where they
address nothing.  It raises an exception only where a lookup stumbles: where a part of digits that
spells no index stands in a list.  A program none of whose parts is misread is rendered with all
JSON data, and no other program is.

Main results:

- Relation `Shows`: what a segment shows of JSON data.
- Definition `FirstFault`: the lookup that stumbles first, and its fault.
- Theorem `apply_json`: what comes of JSON data, and when it is a text.
-/

namespace Stencil
namespace Template

open Text Outcome Value

variable {data : Data} {identifier expression : Text}

/-! ## Segments -/

/-- What a segment of a program shows of JSON data: the value that a lookup addresses, and nothing
when there is none or when it is null. -/
inductive Shows (data : Data) : Segment → Text → Prop where
  | text (t : Text) : Shows data (.text t) t
  | nothing {expression : Text}
      (hnone : (data.root.descend? (split '.' expression)).getD .null = .null) :
      Shows data (.lookup expression) []
  | value {expression t : Text} {v : Value}
      (hvalue : data.root.descend? (split '.' expression) = some v) (hv : v ≠ .null)
      (ht : v.display data.pool = .ok t) : Shows data (.lookup expression) t

/-- Whether the path of an expression stumbles in the data. -/
def Stumbles (data : Data) (expression : Text) : Prop :=
  ∃ part, data.root.StumblesOver (split '.' expression) part

/-- The fault of the first lookup that stumbles. -/
def FirstFault (data : Data) (segments : List Segment) (fault : Number.IntegerFault) : Prop :=
  ∃ before expression after part, segments = before ++ .lookup expression :: after ∧
    (∀ other, .lookup other ∈ before → ¬ Stumbles data other) ∧
    data.root.StumblesOver (split '.' expression) part ∧ Number.readNatural part = .error fault

theorem isJson_of_descend? {v w : Value} {path : List Text} (hv : v.IsJson)
    (h : v.descend? path = some w) : w.IsJson := by
  induction path generalizing v with
  | nil =>
      obtain rfl := Option.some.inj h
      exact hv
  | cons part path ih =>
      rw [descend?_cons] at h
      rcases Option.bind_eq_some_iff.1 h with ⟨u, hchild, hbelow⟩
      exact ih (isJson_of_child? hv hchild) hbelow

/-- A lookup that does not stumble shows something, if only nothing. -/
theorem exists_shows (hdata : data.root.IsJson) (h : ¬ Stumbles data expression) :
    ∃ t, Shows data (.lookup expression) t ∧
      (Part.path (split '.' expression)).render data = .ok t := by
  have hresolve : data.root.resolve data.pool (split '.' expression) =
      .ok ((data.root.descend? (split '.' expression)).getD .null) :=
    resolve_of_not_stumblesOver hdata (not_exists.1 h)
  by_cases hnull : (data.root.descend? (split '.' expression)).getD .null = .null
  · refine ⟨[], .nothing hnull, ?_⟩
    rw [Part.render, hresolve, hnull]
    rfl
  · cases hvalue : data.root.descend? (split '.' expression) with
    | none =>
        rw [hvalue] at hnull
        exact absurd rfl hnull
    | some v =>
        rw [hvalue, Option.getD_some] at hnull hresolve
        rcases (isJson_of_descend? hdata hvalue).exists_display data.pool with ⟨t, ht⟩
        refine ⟨t, .value hvalue hnull ht, ?_⟩
        rw [render_eq_renderWith, Part.renderWith, look_of_resolve hresolve hnull, ht]
        rfl

/-- A lookup that stumbles raises the fault of its digits. -/
theorem render_of_stumblesOver {part : Text} (hdata : data.root.IsJson)
    (h : data.root.StumblesOver (split '.' expression) part) :
    ∃ fault, Number.readNatural part = .error fault ∧
      (Part.path (split '.' expression)).render data = .error (Raised.ofInteger fault) := by
  have hresolve : ∃ fault, Number.readNatural part = .error fault ∧
      data.root.resolve data.pool (split '.' expression) = .error (Raised.ofInteger fault) :=
    resolve_of_stumblesOver hdata h
  rcases hresolve with ⟨fault, hfault, hraised⟩
  refine ⟨fault, hfault, ?_⟩
  rw [Part.render, hraised]
  rfl

/-! ## Programs -/

/-- The part of a segment shows something, or it is a lookup that stumbles. -/
theorem render_compileSegment {segment : Segment} {part : Part}
    (h : compileSegment identifier segment = .ok part) (hdata : data.root.IsJson) :
    ((∀ expression, segment = .lookup expression → ¬ Stumbles data expression) ∧
      ∃ t, Shows data segment t ∧ part.render data = .ok t) ∨
    ∃ expression word fault, segment = .lookup expression ∧
      data.root.StumblesOver (split '.' expression) word ∧
      Number.readNatural word = .error fault ∧
      part.render data = .error (Raised.ofInteger fault) := by
  cases segment with
  | text t =>
      cases h
      left
      refine ⟨?_, t, .text t, rfl⟩
      intro expression hlookup
      cases hlookup
  | lookup expression =>
      rw [compileSegment] at h
      split at h
      · cases h
        by_cases hstumbles : Stumbles data expression
        · right
          rcases hstumbles with ⟨word, hword⟩
          rcases render_of_stumblesOver hdata hword with ⟨fault, hfault, hrender⟩
          exact ⟨expression, word, fault, rfl, hword, hfault, hrender⟩
        · left
          refine ⟨?_, exists_shows hdata hstumbles⟩
          intro other hlookup
          cases hlookup
          exact hstumbles
      · cases h

/-- The segments of a program show something one after the other, or the first one that stumbles
raises its fault. -/
theorem renderParts_json {segments : List Segment} {parts : List Part}
    (h : compileSegments identifier segments = .ok parts) (hdata : data.root.IsJson) :
    ((∀ expression, .lookup expression ∈ segments → ¬ Stumbles data expression) ∧
      ∃ texts, List.Forall₂ (Shows data) segments texts ∧
        renderParts data parts = .ok texts.flatten) ∨
    ∃ fault, FirstFault data segments fault ∧
      renderParts data parts = .error (Raised.ofInteger fault) := by
  induction segments generalizing parts with
  | nil =>
      cases h
      left
      exact ⟨by simp, [], .nil, rfl⟩
  | cons segment segments ih =>
      rw [compileSegments] at h
      rcases bind_eq_ok_iff.1 h with ⟨part, hpart, h⟩
      rcases bind_eq_ok_iff.1 h with ⟨rest, hrest, h⟩
      cases h
      rcases render_compileSegment hpart hdata with
        ⟨hfree, t, hshows, hrender⟩ | ⟨expression, word, fault, rfl, hword, hfault, hrender⟩
      · rcases ih hrest with ⟨hrestFree, texts, htexts, hparts⟩ | ⟨fault, hfirst, hparts⟩
        · left
          refine ⟨?_, t :: texts, .cons hshows htexts, ?_⟩
          · intro expression hmem
            rcases List.mem_cons.1 hmem with heq | hmem
            · exact hfree expression heq.symm
            · exact hrestFree expression hmem
          · rw [renderParts, hrender, hparts]
            rfl
        · right
          rcases hfirst with ⟨before, expression, after, word, rfl, hbefore, hword, hfault⟩
          refine ⟨fault, ⟨segment :: before, expression, after, word, rfl, ?_, hword, hfault⟩, ?_⟩
          · intro other hmem
            rcases List.mem_cons.1 hmem with heq | hmem
            · exact hfree other heq.symm
            · exact hbefore other hmem
          · rw [renderParts, hrender, hparts]
            rfl
      · right
        refine ⟨fault, ⟨[], expression, segments, word, rfl, by simp, hword, hfault⟩, ?_⟩
        rw [renderParts, hrender]
        rfl

/-! ## Programs that are rendered with all JSON data -/

/-- Mappings inside one another, one for each key, around a value. -/
def nest (v : Value) : List Text → Value
  | [] => v
  | key :: keys => .mapping [(.text key, nest v keys)]

theorem isJson_nest {v : Value} (hv : v.IsJson) (keys : List Text) : (nest v keys).IsJson := by
  induction keys with
  | nil => exact hv
  | cons key keys ih =>
      have hnone : JsonEntries [] := by simp [JsonEntries]
      exact (hnone.cons key ih).isJson

/-- The keys lead back to the value. -/
theorem descend?_nest (v : Value) (keys : List Text) : (nest v keys).descend? keys = some v := by
  induction keys with
  | nil => rfl
  | cons key keys ih => simp [nest, child?, Entries.find?, Value.isText, ih]

theorem mem_lookups {p : Program} : expression ∈ p.lookups ↔ .lookup expression ∈ p.segments := by
  rw [Program.lookups, List.mem_filterMap]
  constructor
  · rintro ⟨segment, hmem, hlookup⟩
    cases segment with
    | text t => cases hlookup
    | lookup other =>
        cases hlookup
        exact hmem
  · intro hmem
    exact ⟨.lookup expression, hmem, rfl⟩

theorem not_stumbles_of_not_misread (h : ∀ part ∈ split '.' expression, ¬ Misread part) :
    ¬ Stumbles data expression := by
  rintro ⟨part, front, back, items, hsplit, -, hmisread⟩
  apply h part
  · rw [hsplit]
    simp
  · exact hmisread

/-- A part that is misread is stumbled over in some JSON data: in a list that the keys in front of
the part lead to. -/
theorem exists_stumbles {part : Text} (hpart : part ∈ split '.' expression)
    (hmisread : Misread part) : ∃ data : Data, data.root.IsJson ∧ Stumbles data expression := by
  rcases List.append_of_mem hpart with ⟨front, back, hsplit⟩
  refine ⟨.ofTree (nest (.list []) front), isJson_nest (.list (by simp)) front, part, ?_⟩
  exact ⟨front, back, [], hsplit, descend?_nest (.list []) front, hmisread⟩

/-- A compiled program is applied to data part by part, also where there are no data. -/
theorem apply_eq_renderParts {p : Program} {c : Compiled} (h : compile p identifier = .ok c)
    (data : Data) : c.apply data = renderParts data c.parts := by
  rw [renderParts_eq_renderPartsWith]
  apply apply_eq_renderWith
  intro path hpath
  rw [← Compiled.mem_lookups, (lookups_of_compile h).1, List.mem_map] at hpath
  rcases hpath with ⟨expression, -, rfl⟩
  exact split_ne_nil '.' expression

/-- A compiled program shows what its segments show of JSON data, one after the other, or the first
lookup that stumbles raises its fault. -/
theorem apply_json_cases {p : Program} {c : Compiled} (h : compile p identifier = .ok c)
    (hdata : data.root.IsJson) :
    ((∀ expression ∈ p.lookups, ¬ Stumbles data expression) ∧
      ∃ texts, List.Forall₂ (Shows data) p.segments texts ∧ c.apply data = .ok texts.flatten) ∨
    ∃ fault, FirstFault data p.segments fault ∧
      c.apply data = .error (Raised.ofInteger fault) := by
  rcases map_eq_ok_iff.1 h with ⟨parts, hparts, hc⟩
  have hrun : c.apply data = renderParts data parts := by rw [apply_eq_renderParts h, ← hc]
  rw [hrun]
  rcases renderParts_json hparts hdata with ⟨hfree, hshown⟩ | hfault
  · left
    refine ⟨?_, hshown⟩
    intro expression hmem
    exact hfree expression (mem_lookups.1 hmem)
  · right
    exact hfault

theorem FirstFault.exists_stumbles {p : Program} {fault : Number.IntegerFault}
    (h : FirstFault data p.segments fault) :
    ∃ expression ∈ p.lookups, Stumbles data expression := by
  rcases h with ⟨before, expression, after, word, hsplit, -, hword, -⟩
  refine ⟨expression, ?_, word, hword⟩
  rw [mem_lookups, hsplit]
  simp

/-- What comes of JSON data.  A compiled program whose lookups do not stumble gives the text that
its segments show, one after the other; otherwise the first lookup that stumbles raises the fault
of its digits.  So the programs that give a text for all JSON data are those in whose lookups no
part is misread. -/
theorem apply_json {p : Program} {c : Compiled} (h : compile p identifier = .ok c) :
    (∀ data : Data, data.root.IsJson →
      ((∃ t, c.apply data = .ok t) ↔ ∀ expression ∈ p.lookups, ¬ Stumbles data expression) ∧
      (∀ t, c.apply data = .ok t →
        ∃ texts, List.Forall₂ (Shows data) p.segments texts ∧ t = texts.flatten) ∧
      ∀ raised, c.apply data = .error raised →
        ∃ fault, FirstFault data p.segments fault ∧ raised = Raised.ofInteger fault) ∧
    ((∀ data : Data, data.root.IsJson → ∃ t, c.apply data = .ok t) ↔
      ∀ expression ∈ p.lookups, ∀ part ∈ split '.' expression, ¬ Misread part) := by
  have hiff : ∀ data : Data, data.root.IsJson →
      ((∃ t, c.apply data = .ok t) ↔ ∀ expression ∈ p.lookups, ¬ Stumbles data expression) := by
    intro data hdata
    rcases apply_json_cases h hdata with ⟨hfree, texts, -, hok⟩ | ⟨fault, hfirst, herror⟩
    · exact ⟨fun _ => hfree, fun _ => ⟨texts.flatten, hok⟩⟩
    · rcases hfirst.exists_stumbles with ⟨expression, hmem, hstumbles⟩
      constructor
      · rintro ⟨t, ht⟩
        rw [herror] at ht
        cases ht
      · intro hfree
        exact absurd hstumbles (hfree expression hmem)
  refine ⟨?_, ?_, ?_⟩
  · intro data hdata
    refine ⟨hiff data hdata, ?_, ?_⟩
    · intro t ht
      rcases apply_json_cases h hdata with ⟨-, texts, htexts, hok⟩ | ⟨fault, -, herror⟩
      · exact ⟨texts, htexts, Except.ok.inj (ht.symm.trans hok)⟩
      · rw [herror] at ht
        cases ht
    · intro raised hraised
      rcases apply_json_cases h hdata with ⟨-, texts, -, hok⟩ | ⟨fault, hfirst, herror⟩
      · rw [hok] at hraised
        cases hraised
      · exact ⟨fault, hfirst, Except.error.inj (hraised.symm.trans herror)⟩
  · intro hall expression hmem part hpart hmisread
    rcases exists_stumbles hpart hmisread with ⟨data, hdata, hstumbles⟩
    exact (hiff data hdata).1 (hall data hdata) expression hmem hstumbles
  · intro hparts data hdata
    apply (hiff data hdata).2
    intro expression hmem
    exact not_stumbles_of_not_misread (hparts expression hmem)

/-- A program that looks for items of a list. -/
def itemProgram : Program := ⟨[.lookup "items.1", .text "/", .lookup "items.٢.real"]⟩

/-- What this program is compiled to. -/
def itemTemplate : Compiled :=
  ⟨[.path ["items".toList, "1".toList], .text "/",
    .path ["items".toList, "٢".toList, "real".toList]]⟩

/-- The program is rendered with all JSON data.  The data of a document show one item, and nothing
for the item that is null. -/
theorem apply_json_items :
    let document := Utf8.encode "\x7b\"items\": [\"a\", null, 7]\x7d"
    compile itemProgram "page" = .ok itemTemplate ∧
      (∀ data : Data, data.root.IsJson → ∃ t, itemTemplate.apply data = .ok t) ∧
      (Json.read? document).isSome = true ∧
      ∀ root, Json.read? document = some root → root.IsJson ∧
        itemTemplate.apply (.ofTree root) = .ok "/7" ∧
        ∃ texts, List.Forall₂ (Shows (.ofTree root)) itemProgram.segments texts ∧
          "/7".toList = texts.flatten := by
  intro document
  have hcompiled : compile itemProgram "page" = .ok itemTemplate := by decide +kernel
  have hindices : ∀ expression ∈ itemProgram.lookups, ∀ part ∈ split '.' expression,
      ¬ Misread part := by decide +kernel
  rcases apply_json hcompiled with ⟨houtcome, hall⟩
  refine ⟨hcompiled, hall.2 hindices, by decide +kernel, ?_⟩
  intro root hroot
  have hshown : (Json.read? document).map (fun root => itemTemplate.apply (.ofTree root)) =
      some (.ok "/7") := by decide +kernel
  rw [hroot] at hshown
  have happly := Option.some.inj hshown
  have hjson : root.IsJson := isJson_of_read? hroot
  exact ⟨hjson, happly, (houtcome (.ofTree root) hjson).2.1 "/7" happly⟩

/-- A superscript is a digit and a character of words, but it has no decimal value: in a list it
raises an exception. -/
theorem apply_json_superscript :
    let data : Data := .ofTree (.mapping [(.text "items", .list [.text "a"])])
    data.root.IsJson ∧
      (compile ⟨[.lookup "items.²"]⟩ "page").map (·.apply data) =
        .ok (.error ⟨"ValueError", "invalid literal for int() with base 10: '²'"⟩) := by
  intro data
  have hitems : (Value.list [.text "a"]).IsJson := by
    apply IsJson.list
    intro v hv
    rw [List.mem_singleton.1 hv]
    exact .text _
  have hnone : JsonEntries [] := by simp [JsonEntries]
  exact ⟨(hnone.cons "items" hitems).isJson, by decide +kernel⟩

end Template
end Stencil
