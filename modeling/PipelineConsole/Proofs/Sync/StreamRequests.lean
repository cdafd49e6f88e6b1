import PipelineConsole.Console.Routes
import PipelineConsole.Orchestrator.Pipelines
import PipelineConsole.Proofs.Backend.Calls
import PipelineConsole.Proofs.Console.IdList
import PipelineConsole.Proofs.Orchestrator.Waiting
import PipelineConsole.Proofs.Sync.Delivery
import PipelineConsole.Sync.HttpSource
import Mathlib.Data.String.Basic

/-!
# Streams watch the ids that are asked for

Whoever asks for a stream names the pipelines in one parameter, with commas between their ids, and
the console reads the ids from there. The orchestrator takes any id that is not blank, and neither
side looks for separators within an id. So the stream watches the pipelines that were asked for just
when none of their ids can be mistaken.

## Main definitions

* `Orchestrator.Accepts` — an id that pipelines can be created under
* `HttpSource.AtRoot` — a source with the address of the console itself

## Main results

* `Orchestrator.accepts_iff` — every id that is not blank is taken
* `Console.handle_stream_eq` — which stream a request is answered with
* `HttpSource.watches_asked_ids_iff` — when the stream watches the ids that are asked for
* `HttpSource.separators_reshape_ids` — ids for which it watches others
-/

namespace PipelineConsole

open Http (Outgoing Request Route)

/-! ### Ids that are taken -/

namespace Orchestrator

/-- The orchestrator takes an id: it creates the first of its pipelines under it. -/
def Accepts (id : String) : Prop :=
  ∀ (o : Occasion) (config : PipelineConfig), config.id = id → config.check = .ok () →
    ∃ s, create {} o config {} = (.ok id, s)

/-- It takes every id that is not blank. -/
theorem accepts_iff {id : String} : Accepts id ↔ Text.isBlankText id = false := by
  constructor
  · intro h
    by_contra hne
    have hblank := eq_true_of_ne_false hne
    have hcheck : orders.check = .ok () := by decide
    obtain ⟨s, hs⟩ := h ⟨0, newYear, id ++ "x", []⟩ { orders with id } rfl hcheck
    have hid := (create_steps hs).2.1
    simp only [hblank, if_true] at hid
    simpa using congrArg String.length hid
  · intro hblank o config hid hcheck
    subst hid
    have hroom : ({} : Orchestrator).ensureRoom {} o config.id = .ok () :=
      ensureRoom_eq_ok.2 ⟨rfl, fun _ => active?_eq_none_iff.2 fun _ _ hp => nomatch hp⟩
    exact ⟨_, create_of_ensureRoom hcheck hblank hroom⟩

end Orchestrator

/-! ### The request and its answer -/

namespace HttpSource

/-- The address of the source is that of the console itself. -/
def AtRoot (c : HttpSource) : Prop :=
  ∃ url ∈ (Url.read c.baseUrl).toOption, url.path = .segments [""] ∧ url.query = none

instance (c : HttpSource) : Decidable c.AtRoot :=
  inferInstanceAs (Decidable (∃ url ∈ (Url.read c.baseUrl).toOption, _))

/-- The way to the stream. -/
theorem streamPath (special : Bool) :
    (Url.Path.segments
      (Url.addSegments special [""] ["api", "pipeline", "status", "stream"])).text =
      "/api/pipeline/status/stream" := by
  cases special <;> decide

theorem streamRequest_of_atRoot {c : HttpSource} (h : c.AtRoot) (ids : List String) :
    ∃ out, c.streamRequest ids = .ok out ∧ out.request.method = .get ∧
      out.request.path = "/api/pipeline/status/stream" ∧
      Http.Query.pairs out.request.query = [("pipeline_ids", String.intercalate "," ids)] := by
  obtain ⟨url, hurl, hpath, hquery⟩ := h
  have hread := toOption_eq_some.1 hurl
  let asked := [("pipeline_ids", String.intercalate "," ids)]
  let under : Url :=
    { url with
      path := .segments (Url.addSegments (Url.isSpecial url.scheme) [""]
        ["api", "pipeline", "status", "stream"]) }
  have hget : c.get ["api", "pipeline", "status", "stream"] =
      .ok (({ method := .get, url := under, timeLimit := c.timeLimit } : Outgoing).onBehalfOf
        c.token) := by
    simp only [get, hread, Url.under?, hpath, under]
  refine ⟨_, congrArg (· >>= _) hget, rfl, ?_, ?_⟩
  · show (under.withQuery asked).path.text = _
    rw [Remote.path_withQuery]
    exact streamPath _
  · have hnone : under.query = none := hquery
    show Http.Query.pairs ((under.withQuery asked).query.getD "") = asked
    rw [Remote.query_withQuery hnone, Http.Query.pairs_write]

end HttpSource

namespace Console

variable {σ : Type}

/-- The ids of a query that has nothing else. -/
theorem readStreamIds_of_pairs {r : Request} {raw : String}
    (h : Http.Query.pairs r.query = [("pipeline_ids", raw)]) :
    readStreamIds r =
      if IdList.read raw = [] then .error (Probe.badRequest "pipeline_ids is required").response
      else .ok (IdList.read raw) := by
  have hread : r.queryParameters [("pipeline_ids", .text)] =
      .ok [("pipeline_ids", .text raw)] := by
    simp only [Request.queryParameters, Http.Query.read, h]
    rfl
  have htext : (Http.Query.text? [("pipeline_ids", .text raw)] "pipeline_ids").getD "" = raw := rfl
  simp only [readStreamIds, Operation.Kind.readQuery, hread, Except.mapError, bind, Except.bind,
    htext]
  cases IdList.read raw <;> rfl

/-- The request for a stream is answered with the stream of the ids that are read. -/
theorem handle_stream_eq (c : Console σ) {r : Request} {raw : String} (hmethod : r.method = .get)
    (hpath : r.path = "/api/pipeline/status/stream")
    (hquery : Http.Query.pairs r.query = [("pipeline_ids", raw)])
    (hauth : c.settings.authEnabled = true → r.bearer?.isSome) (o : Occasion) (s : σ) (w : Watch) :
    (c.handle o r s).1 = .stream w ↔ IdList.read raw ≠ [] ∧ w = ⟨IdList.read raw, r.bearer?⟩ := by
  have hdispatch : Route.dispatch routes r.method r.path = .endpoint .statusStream [] := by
    rw [hmethod, hpath]
    rfl
  have hauthorize : authorize c.settings r = .ok () := by
    refine if_neg fun h => ?_
    obtain ⟨hon, hnone⟩ := (Bool.and_eq_true _ _).mp h
    rw [Option.isNone_iff_eq_none] at hnone
    simpa [hnone] using hauth hon
  have hread : read c.settings .statusStream r [] = (readStreamIds r).map .stream := by
    simp only [read, hauthorize]
    cases readStreamIds r <;> rfl
  have hhead : r.method ≠ .head := by
    rw [hmethod]
    nofun
  rw [readStreamIds_of_pairs hquery] at hread
  simp only [handle, hdispatch, hread, if_neg hhead]
  by_cases hnil : IdList.read raw = []
  · simp [hnil, Except.map]
  · simp [hnil, Except.map, answer, eq_comm]

end Console

/-! ### What the stream watches -/

namespace HttpSource

variable {source : HttpSource} {ids : List String}

/-- The console watches the ids that it reads from the joined ones. -/
theorem watched_of_atRoot (hroot : source.AtRoot) (ids : List String) :
    ∃ out, source.streamRequest (IdSet.ofList ids) = .ok out ∧
      ∀ {σ : Type} (c : Console σ) (o : Occasion) (s : σ) (w : Console.Watch),
        (c.settings.authEnabled = true → out.request.bearer?.isSome) →
        ((c.handle o out.request s).1 = .stream w ↔
          IdList.read (String.intercalate "," (IdSet.ofList ids)) ≠ [] ∧
            w =
              ⟨IdList.read (String.intercalate "," (IdSet.ofList ids)), out.request.bearer?⟩) := by
  obtain ⟨out, hout, hmethod, hpath, hquery⟩ := streamRequest_of_atRoot hroot (IdSet.ofList ids)
  exact ⟨out, hout, fun c o s w hauth => c.handle_stream_eq hmethod hpath hquery hauth o s w⟩

/-- A source asks a console for the stream of some pipelines, all of them under ids that the
orchestrator takes. The console answers with a stream that watches just these pipelines if and only
if none of the ids has a comma in it or blanks around it. -/
theorem watches_asked_ids_iff (hroot : source.AtRoot) (hne : ids ≠ [])
    (haccepted : ∀ id ∈ ids, Orchestrator.Accepts id) :
    ∃ out, source.streamRequest (IdSet.ofList ids) = .ok out ∧
      ∀ {σ : Type} (c : Console σ) (o : Occasion) (s : σ),
        (c.settings.authEnabled = true → out.request.bearer?.isSome) →
        ((∃ w, (c.handle o out.request s).1 = .stream w ∧ ∀ id, id ∈ w.ids ↔ id ∈ ids) ↔
          ∀ id ∈ ids, ',' ∉ id.toList ∧ Text.trim id = id) := by
  obtain ⟨out, hout, hwatched⟩ := watched_of_atRoot hroot ids
  refine ⟨out, hout, fun c o s hauth => ?_⟩
  have hplain : (∀ id ∈ IdSet.ofList ids, IdList.Plain id) ↔
      ∀ id ∈ ids, ',' ∉ id.toList ∧ Text.trim id = id := by
    refine forall_congr' fun id => ?_
    rw [IdSet.mem_ofList]
    refine forall_congr' fun hid => ⟨fun h => ⟨h.noComma, h.trimmed⟩, fun h => ?_⟩
    exact ⟨Orchestrator.accepts_iff.1 (haccepted id hid), h.2, h.1⟩
  rw [← hplain, ← IdList.mem_read_intercalate_iff (IdSet.nodup_ofList ids)]
  simp only [hwatched c o s _ hauth, IdSet.mem_ofList]
  constructor
  · rintro ⟨w, ⟨-, rfl⟩, hids⟩
    exact hids
  · intro hids
    obtain ⟨id, hid⟩ := List.exists_mem_of_ne_nil ids hne
    exact ⟨_, ⟨List.ne_nil_of_mem ((hids id).2 hid), rfl⟩, hids⟩

/-- A source at the root of an address. -/
def sampleSource : HttpSource := { baseUrl := "http://console:8080" }

theorem atRoot_sampleSource : sampleSource.AtRoot := by decide +kernel

/-- Ids with other marks in them are watched as they are. -/
theorem marks_are_watched :
    let ids := ["orders", "a/b?c#d&e=f+g h"]
    ∃ out w, sampleSource.streamRequest (IdSet.ofList ids) = .ok out ∧
      ((Console.inMemory {} {}).handle ⟨0, Orchestrator.newYear, "fresh", []⟩ out.request {}).1 =
        .stream w ∧ ∀ id, id ∈ w.ids ↔ id ∈ ids := by
  intro ids
  have haccepted : ∀ id ∈ ids, Orchestrator.Accepts id := fun id hid =>
    Orchestrator.accepts_iff.2 ((by decide : ∀ id ∈ ids, Text.isBlankText id = false) id hid)
  obtain ⟨out, hout, hiff⟩ := watches_asked_ids_iff atRoot_sampleSource (by decide) haccepted
  obtain ⟨w, hw, hids⟩ := (hiff (Console.inMemory {} {}) ⟨0, Orchestrator.newYear, "fresh", []⟩ {}
    nofun).2 (by decide)
  exact ⟨out, w, hout, hw, hids⟩

/-- An id with a comma in it is watched as two others, and one behind a space without the space. So
a stream does not watch just the ids that were asked for, even though pipelines have them. -/
theorem separators_reshape_ids :
    let o : Occasion := ⟨0, Orchestrator.newYear, "fresh", []⟩
    (∀ id ∈ ["a,b", " c"], Orchestrator.Accepts id) ∧
      (∃ out w, sampleSource.streamRequest (IdSet.ofList ["a,b", " c"]) = .ok out ∧
        ((Console.inMemory {} {}).handle o out.request {}).1 = .stream w ∧
          w.ids = ["c", "a", "b"]) ∧
      ¬ ∀ ids : List String, ids ≠ [] → (∀ id ∈ ids, Orchestrator.Accepts id) →
        ∃ out w, sampleSource.streamRequest (IdSet.ofList ids) = .ok out ∧
          ((Console.inMemory {} {}).handle o out.request {}).1 = .stream w ∧
          ∀ id, id ∈ w.ids ↔ id ∈ ids := by
  intro o
  have haccepted : ∀ id ∈ ["a,b", " c"], Orchestrator.Accepts id := fun id hid =>
    Orchestrator.accepts_iff.2
      ((by decide : ∀ id ∈ ["a,b", " c"], Text.isBlankText id = false) id hid)
  obtain ⟨out, hout, hwatched⟩ := watched_of_atRoot atRoot_sampleSource ["a,b", " c"]
  have hread : IdList.read (String.intercalate "," (IdSet.ofList ["a,b", " c"])) =
      ["c", "a", "b"] := by decide +kernel
  have hstream := (hwatched (Console.inMemory {} {}) o {} _ nofun).2 ⟨by rw [hread]; nofun, rfl⟩
  refine ⟨haccepted, ⟨out, _, hout, hstream, hread⟩, fun h => ?_⟩
  obtain ⟨out', w, hout', hw, hids⟩ := h _ (by decide) haccepted
  obtain rfl := Except.ok.inj (hout.symm.trans hout')
  obtain rfl := Console.Answer.stream.inj (hstream.symm.trans hw)
  have ha : "a" ∈ ["a,b", " c"] := (hids "a").1 (by simp only [hread]; decide)
  exact absurd ha (by decide)

end HttpSource

end PipelineConsole
