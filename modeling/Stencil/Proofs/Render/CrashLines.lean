import Stencil.Proofs.Json.Legible
import Stencil.Proofs.Render.Chronicle

/-!
# The lines of the crash log

Every crash whose data can be written as JSON is one line of the crash log, whatever characters its
identifier, its report and its data hold, and the line is a JSON object that names the template and
the error.  Other crashes leave no line.  The log holds nothing else when the errors are logged
elsewhere.

Main results:

- Definition `crashesOf`: the crashes of a chronicle.
- Structure `Records` and definition `Framed`: the line of a crash, and lines one after the other.
- Theorem `exists_records`: what is written about a crash is one line that records it.
- Theorem `crash_log_is_framed`: the crash log of a run, at every point.
- Theorem `error_in_crash_log`: errors and crashes in one file.
-/

namespace Stencil
namespace Render

/-! ## Crashes -/

/-- A template that failed on its data, and what was reported. -/
structure Crash where
  identifier : Text
  data : Data
  report : Text

namespace Dated

/-- The crash that an entry is, if it is one. -/
def crash? : Dated Entry → Option (Dated Crash)
  | ⟨now, .crash identifier data report⟩ => some ⟨now, ⟨identifier, data, report⟩⟩
  | _ => none

/-- The line of a crash, with its end. -/
def line (c : Dated Crash) : Except Json.Fault Text :=
  crashLine c.now c.what.identifier c.what.report c.what.data

/-- Whether the data of a crash can be written. -/
def encodable (c : Dated Crash) : Bool := c.line.toOption.isSome

/-- What the line of a crash is read as. -/
def record (c : Dated Crash) (data : Value) : Entries :=
  [(.text "timestamp", .text c.now), (.text "template_path", .text c.what.identifier),
    (.text "error", .text c.what.report), (.text "data", data)]

end Dated

/-- The crashes among entries, with their times. -/
def crashesOf (entries : List (Dated Entry)) : List (Dated Crash) :=
  entries.filterMap Dated.crash?

/-! ## Lines -/

/-- A line without its end that records a crash: it holds no line feed, and it is a JSON object with
the identifier and the report of the crash. -/
structure Records (c : Dated Crash) (line : List UInt8) : Prop where
  unbroken : 10 ∉ line
  read : ∃ data, Json.read? line = some (.mapping (c.record data))

/-- Bytes that are lines, one for each crash, each ended by one line feed. -/
def Framed (crashes : List (Dated Crash)) (bytes : List UInt8) : Prop :=
  ∃ lines, bytes = lines.flatMap (· ++ [10]) ∧ List.Forall₂ Records crashes lines

variable {c : Dated Crash} {crashes : List (Dated Crash)} {bytes : List UInt8} {t : Text}

theorem framed_nil : Framed [] [] := ⟨[], rfl, .nil⟩

theorem Framed.cons {line : List UInt8} (hline : Records c line) (h : Framed crashes bytes) :
    Framed (c :: crashes) (line ++ [10] ++ bytes) := by
  obtain ⟨lines, rfl, hlines⟩ := h
  exact ⟨line :: lines, rfl, .cons hline hlines⟩

/-- There are as many line feeds as crashes. -/
theorem Framed.count_eq (h : Framed crashes bytes) : bytes.count 10 = crashes.length := by
  obtain ⟨lines, rfl, hlines⟩ := h
  induction hlines with
  | nil => rfl
  | cons hline _ ih =>
      rw [List.flatMap_cons, List.count_append, List.count_append, ih,
        List.count_eq_zero_of_not_mem hline.unbroken, List.length_cons]
      simp [Nat.add_comm]

/-- A line feed in bytes is one in the text. -/
theorem not_mem_encode_of_isPlain (h : Json.IsPlain t) : 10 ∉ Text.Utf8.encode t := by
  have hfeed : '\n' ∉ t := fun hmem => absurd (h '\n' hmem) (by decide)
  exact mt (Text.Utf8.mem_encode_iff (c := '\n') (by decide)).1 hfeed

/-- The object that is written about a crash is read as its record. -/
theorem legible_record {depth : Nat} {v : Value} (c : Dated Crash)
    (hv : Json.Legible depth t v) :
    Json.Legible (depth + 1)
      (Json.object ["timestamp", "template_path", "error", "data"]
        [Json.string c.now, Json.string c.what.identifier, Json.string c.what.report, t])
      (.mapping (c.record v)) :=
  .object (.cons (Json.legible_string c.now) (.cons (Json.legible_string c.what.identifier)
    (.cons (Json.legible_string c.what.report) (.cons hv .nil)))) rfl

/-- What is written about a crash is one line that records it. -/
theorem exists_records (hfits : c.what.data.fits = true) (h : c.line = .ok t) :
    ∃ line, Text.Utf8.encode t = line ++ [10] ∧ Records c line := by
  obtain ⟨hroot, hpool⟩ := Bool.and_eq_true_iff.1 hfits
  obtain ⟨data, hdata, h⟩ := Outcome.bind_eq_ok_iff.1 h
  obtain rfl := Outcome.pure_eq_ok_iff.1 h
  obtain ⟨v, hv⟩ := Json.exists_legible_of_write (List.all_eq_true.1 hpool) hroot hdata
  have hrecord := legible_record c hv
  exact ⟨Text.Utf8.encode _, List.flatMap_append, not_mem_encode_of_isPlain hrecord.plain, v,
    hrecord.read? (by decide)⟩

/-! ## The crash log of a run -/

/-- The bytes that a crash leaves in the log. -/
def Dated.crashBytes (c : Dated Crash) : List UInt8 :=
  match c.line with
  | .ok line => Text.Utf8.encode line
  | .error _ => []

theorem framed_flatMap (hfits : ∀ c ∈ crashes, c.what.data.fits = true) :
    Framed (crashes.filter Dated.encodable) (crashes.flatMap Dated.crashBytes) := by
  induction crashes with
  | nil => exact framed_nil
  | cons c crashes ih =>
      obtain ⟨hc, hrest⟩ := List.forall_mem_cons.1 hfits
      rw [List.flatMap_cons, Dated.crashBytes]
      cases hline : c.line with
      | error fault =>
          have hnone : ¬ c.encodable = true := by simp [Dated.encodable, hline, Except.toOption]
          rw [List.filter_cons_of_neg hnone]
          exact ih hrest
      | ok t =>
          have hsome : c.encodable = true := by simp [Dated.encodable, hline, Except.toOption]
          obtain ⟨line, hbytes, hrecords⟩ := exists_records hc hline
          rw [List.filter_cons_of_pos hsome]
          dsimp only
          rw [hbytes]
          exact (ih hrest).cons hrecords

variable {config : Config} {tree : File.Tree} {l : File.Location} {entries : List (Dated Entry)}
  {s : Session} {errands : List (Dated Errand)}

/-- The crash log holds the crashes, when it is a file of its own. -/
theorem chronicled_crashLog (hl : tree.locate config.crashLog = .ok l)
    (hother : tree.locate config.errorLog ≠ .ok l) :
    chronicled config tree entries l = (crashesOf entries).flatMap Dated.crashBytes := by
  refine chronicled_eq entries fun e => ?_
  obtain ⟨now, message | ⟨identifier, data, report⟩⟩ := e
  · exact if_neg hother
  · exact if_pos hl

/-- Whether the floating-point numbers in the data of an errand have 64 bits. -/
def Errand.fits : Errand → Bool
  | render _ data => data.fits
  | logError _ => true
  | logCrash _ data _ => data.fits

/-- The data of a crash are those that raised. -/
theorem data_of_mem_crashEntries {page identifier report : Text} {data context : Data}
    {raised : Raised} (hmem : .crash identifier data report ∈ crashEntries page context raised) :
    data = context := by
  unfold crashEntries at hmem
  split at hmem
  · cases hmem
  · simp only [List.mem_cons, Entry.crash.injEq, List.not_mem_nil, or_false, reduceCtorEq] at hmem
    exact hmem.2.1

/-- The data of a crash are those of the errand that it comes from. -/
theorem fits_of_mem_entries {errand : Errand} {identifier report : Text} {data : Data}
    (h : errand.fits = true) (hmem : .crash identifier data report ∈ errand.entries s) :
    data.fits = true := by
  cases errand with
  | render page context =>
      change _ ∈ renderEntries page context (prepare page s).1 at hmem
      suffices heq : data = context by
        rw [heq]
        exact h
      unfold renderEntries at hmem
      split at hmem
      · simp at hmem
      · split at hmem
        · simp at hmem
        · exact data_of_mem_crashEntries hmem
  | logError message => cases List.mem_singleton.1 hmem
  | logCrash page context message =>
      cases List.mem_singleton.1 hmem
      exact h

theorem fits_of_mem_crashesOf (h : ∀ d ∈ errands, d.what.fits = true)
    (hmem : c ∈ crashesOf (chronicle errands s)) : c.what.data.fits = true := by
  induction errands generalizing s with
  | nil => cases hmem
  | cons d errands ih =>
      obtain ⟨hfirst, hrest⟩ := List.forall_mem_cons.1 h
      rw [chronicle, crashesOf, List.filterMap_append] at hmem
      obtain hmem | hmem := List.mem_append.1 hmem
      · obtain ⟨entry, hentry, hcrash⟩ := List.mem_filterMap.1 hmem
        obtain ⟨e, he, rfl⟩ := List.mem_map.1 hentry
        cases e with
        | error message => cases hcrash
        | crash identifier data report =>
            cases hcrash
            exact fits_of_mem_entries hfirst he
      · exact ih hrest hmem

/-- The crash log of a run, which is not there before and is another file than the error log, holds
at every point one line for each crash so far whose data can be written, in their order. -/
theorem crash_log_is_framed (hc : s.config.Valid) (hlogged : AllLogged errands s)
    (hfits : ∀ d ∈ errands, d.what.fits = true) (n : Nat) :
    let after := (performAll (errands.take n) s).tree
    let crashes := crashesOf (chronicle (errands.take n) s)
    (crashes ≠ [] → ∃ l, after.locate s.config.crashLog = .ok l) ∧
    ∀ l, after.locate s.config.crashLog = .ok l → after.locate s.config.errorLog ≠ .ok l →
      s.tree.contents l = [] → Framed (crashes.filter Dated.encodable) (after.contents l) := by
  intro after crashes
  have hpast := hlogged.take n
  refine ⟨fun hne => ?_, fun l hl hother habsent => ?_⟩
  · obtain ⟨c, hmem⟩ := List.exists_mem_of_ne_nil crashes hne
    obtain ⟨⟨now, entry⟩, hentry, hcrash⟩ := List.mem_filterMap.1 hmem
    cases entry with
    | error message => cases hcrash
    | crash identifier data report => exact exists_locate_of_mem_chronicle hc hpast hentry
  · rw [contents_performAll hc hpast l, habsent, List.nil_append, chronicled_crashLog hl hother]
    exact framed_flatMap fun c hmem =>
      fits_of_mem_crashesOf (fun d hd => hfits d (List.mem_of_mem_take hd)) hmem

/-- A rendering that crashes with line feeds in its report, a crash whose data have an integer that
is too large, and one with line feeds and control characters everywhere. -/
def hostileErrands : List (Dated Errand) :=
  [⟨"one", .render "page" (.ofTree (.mapping
      [(.text "x", .object [] (.error ⟨"ValueError", "a\n\x7b\x7d\n"⟩) "thing\n")]))⟩,
    ⟨"two", .logCrash "page" (.ofTree (.list [.int (twoTo 64)])) "lost"⟩,
    ⟨"three", .logCrash "pa\n\"ge"
      (.ofTree (.list [.text "\x00\n", .float (.ofDecimal false 15 (-1))])) "b\r\n"⟩]

/-- The crash log of these errands has two lines. -/
theorem crash_log_is_framed_hostile :
    let s := Session.start .standard fragileTree ""
    let after := (performAll hostileErrands s).tree
    let crashes := (crashesOf (chronicle hostileErrands s)).filter Dated.encodable
    (s.config.Valid ∧ AllLogged hostileErrands s ∧ ∀ d ∈ hostileErrands, d.what.fits = true) ∧
      crashes.map (fun c => (c.what.identifier, c.what.report)) =
        [(("page" : Text), ("ValueError: a\n\x7b\x7d\n" : Text)), ("pa\n\"ge", "b\r\n")] ∧
      Framed crashes (after.contents ["crash.log"]) := by
  intro s after crashes
  have hc : s.config.Valid := Config.valid_standard
  have hrun : AllLogged hostileErrands s ∧ (∀ d ∈ hostileErrands, d.what.fits = true) ∧
      crashes.map (fun c => (c.what.identifier, c.what.report)) =
        [(("page" : Text), ("ValueError: a\n\x7b\x7d\n" : Text)), ("pa\n\"ge", "b\r\n")] ∧
      after.locate s.config.crashLog = .ok ["crash.log"] ∧
      after.locate s.config.errorLog ≠ .ok ["crash.log"] ∧ s.tree.contents ["crash.log"] = [] := by
    decide +kernel
  obtain ⟨hlogged, hfits, hcrashes, hl, hother, habsent⟩ := hrun
  have hlog := (crash_log_is_framed hc hlogged hfits hostileErrands.length).2
  rw [List.take_length] at hlog
  exact ⟨⟨hc, hlogged, hfits⟩, hcrashes, hlog _ hl hother habsent⟩

/-- A rendering of a template that is not there. -/
def missingErrands : List (Dated Errand) := [⟨"T", .render "gone" (.ofTree .null)⟩]

/-- Where both logs are one file, a rendering that fails leaves lines in it that record no crash. -/
theorem error_in_crash_log :
    let s := Session.start mergedConfig (.bare []) ""
    let after := (performAll missingErrands s).tree
    let crashes := (crashesOf (chronicle missingErrands s)).filter Dated.encodable
    AllLogged missingErrands s ∧ s.tree.contents ["log"] = [] ∧
      after.locate s.config.crashLog = .ok ["log"] ∧
      after.contents ["log"] = Text.Utf8.encode ("[T] ERROR: Template file not found: gone\n" ++
        "[T] ERROR: Rendering error in gone: Template file not found: gone\n") ∧
      crashes.length = 0 ∧ ¬ Framed crashes (after.contents ["log"]) := by
  intro s after crashes
  have hrun : AllLogged missingErrands s ∧ s.tree.contents ["log"] = [] ∧
      after.locate s.config.crashLog = .ok ["log"] ∧
      after.contents ["log"] = Text.Utf8.encode ("[T] ERROR: Template file not found: gone\n" ++
        "[T] ERROR: Rendering error in gone: Template file not found: gone\n") ∧
      (after.contents ["log"]).count 10 = 2 ∧ crashes.length = 0 := by
    decide +kernel
  obtain ⟨hlogged, habsent, hl, hcontents, hfeeds, hnone⟩ := hrun
  refine ⟨hlogged, habsent, hl, hcontents, hnone, fun hframed => ?_⟩
  have hcount := hframed.count_eq
  omega

end Render
end Stencil
