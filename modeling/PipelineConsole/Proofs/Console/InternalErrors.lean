import Mathlib.Data.List.Forall2
import PipelineConsole.Proofs.Console.InUse

/-!
# Internal errors of services do not show

What a service says of an internal error of its own is nobody else's business. Two runs of a console
are compared, over services that give the same answers but for what they say of internal errors.
Callers are told the same in both runs, and the services are asked for the same things: the
difference shows neither in an answer nor in the events of a stream, and no later request depends on
it.

The servers that are probed are no services of the console; they answer the same in both runs.

## Main definitions

* `Http.Outgoing.IsStatement` — a request that is made of a probed server
* `Http.Network.AgreeButInternal` — what is assumed of the two runs
* `Http.Network.scripted` — services that answer by a script

## Main results

* `Probe.live_together` — probes have the same results
* `Console.internal_errors_do_not_show` — callers are told the same, and services are asked the same
-/

namespace PipelineConsole

open Http (Failure Incoming Network Outgoing Request SameUnlessInternal)

variable {σ τ α : Type} {R : σ → τ → Prop} {n : Network σ} {m : Network τ}
  {cluster : Kafka.Cluster σ} {cluster' : Kafka.Cluster τ}

/-- A request with a statement for a probed server, which the name of its user tells from a request
to a service. -/
def Http.Outgoing.IsStatement (out : Outgoing) : Prop :=
  "x-clickhouse-user" ∈ out.headers.map Prod.fst

instance (out : Outgoing) : Decidable out.IsStatement :=
  inferInstanceAs (Decidable (_ ∈ _))

/-- Services and probed servers of two runs answer the same from related states, but what services
say of internal errors may differ. -/
structure Http.Network.AgreeButInternal (R : σ → τ → Prop) (n : Network σ)
    (cluster : Kafka.Cluster σ) (m : Network τ) (cluster' : Kafka.Cluster τ) : Prop where
  services : n.AgreeOn (fun out => ¬out.IsStatement) R m
  servers : ∀ o out, out.IsStatement → Together R (n.exchange o out) (m.exchange o out)
  clusters : ∀ settings, Together R (cluster.topics settings) (cluster'.topics settings)

/-- What is sent to a service is no statement. -/
theorem Remote.not_isStatement_of_sends {r : Remote} {token : Option String} {out : Outgoing}
    (h : r.Sends token out) : ¬out.IsStatement := by
  unfold Outgoing.IsStatement
  rcases headers_of_sends h with h | h <;> rw [h] <;> cases token <;> simp [Outgoing.bearer]

/-! ### Probes -/

section Probes

variable (h : Network.AgreeButInternal R n cluster m cluster')

include h

/-- A statement has the same result. -/
theorem ClickHouse.execute_together (timeLimit : Nat) (o : Occasion) (p : ClickHouseParams)
    (statement : Statement) :
    Together R (execute n timeLimit o p statement) (execute m timeLimit o p statement) := by
  intro s t hst
  unfold execute
  cases Probe.requireHost p with
  | error e => exact ⟨rfl, hst⟩
  | ok _ =>
    cases hout : outgoing timeLimit p statement with
    | error f => exact ⟨rfl, hst⟩
    | ok out =>
      have hstatement : out.IsStatement := by
        unfold outgoing at hout
        split at hout
        · cases hout
        · obtain rfl := Except.ok.inj hout
          exact List.mem_cons_self
      dsimp only [Network.send]
      split
      · obtain ⟨answer, s', t', hs, ht, hst'⟩ := (h.servers o out hstatement).exists_result hst
        simp only [hs, ht]
        exact ⟨trivial, hst'⟩
      · exact ⟨rfl, hst⟩

/-- So do the rows of a result. -/
theorem ClickHouse.rows_together (timeLimit : Nat) (row : Json.Codec α) (o : Occasion)
    (p : ClickHouseParams) (statement : Statement) :
    Together R (rows n timeLimit row o p statement) (rows m timeLimit row o p statement) := by
  intro s t hst
  obtain ⟨result, s', t', hs, ht, hst'⟩ :=
    (execute_together h timeLimit o p statement).exists_result hst
  simp only [rows, hs, ht]
  exact ⟨trivial, hst'⟩

/-- So do the topics of a cluster. -/
theorem Kafka.topics_together (timeLimit : Nat) (p : KafkaParams) :
    Together R (topics cluster timeLimit p) (topics cluster' timeLimit p) := by
  intro s t hst
  unfold topics
  cases Probe.requireBroker p with
  | error e => exact ⟨rfl, hst⟩
  | ok _ =>
    obtain ⟨names, s', t', hs, ht, hst'⟩ := (h.clusters (settings timeLimit p)).exists_result hst
    simp only [hs, ht]
    cases names <;> exact ⟨rfl, hst'⟩

/-- A probe has the same result. -/
theorem Probe.live_together (timeLimit : Nat) (o : Occasion) (p : Probe) :
    Together R (live n cluster timeLimit o p) (live m cluster' timeLimit o p) := by
  cases p with
  | pingClickHouse p =>
    intro s t hst
    obtain ⟨result, s', t', hs, ht, hst'⟩ :=
      (ClickHouse.execute_together h timeLimit o p .ping).exists_result hst
    simp only [live, hs, ht]
    exact ⟨trivial, hst'⟩
  | databases p => exact ClickHouse.rows_together h timeLimit _ o p .databases
  | tables p =>
    intro s t hst
    simp only [live]
    cases requireText "database" p.database with
    | error e => exact ⟨rfl, hst⟩
    | ok database => exact ClickHouse.rows_together h timeLimit _ o p (.tables database) s t hst
  | columns p =>
    intro s t hst
    simp only [live]
    cases requireText "database" p.database with
    | error e => exact ⟨rfl, hst⟩
    | ok database =>
      cases requireText "table" p.table with
      | error e => exact ⟨rfl, hst⟩
      | ok table =>
        exact ClickHouse.rows_together h timeLimit _ o p (.columns database table) s t hst
  | pingKafka p =>
    intro s t hst
    obtain ⟨names, s', t', hs, ht, hst'⟩ := (Kafka.topics_together h timeLimit p).exists_result hst
    simp only [live, hs, ht]
    exact ⟨trivial, hst'⟩
  | topics p => exact Kafka.topics_together h timeLimit p

end Probes

namespace Console

/-- When something happens, the same is told and the same is sent. -/
theorem happen_agree (h : Network.AgreeButInternal R n cluster m cluster') (settings : Settings)
    {u : InUse σ} {v : InUse τ} (huv : u.Related R v) (e : Happening) :
    let left := (remote settings n cluster).happen u e
    let right := (remote settings m cluster').happen v e
    left.1 = right.1 ∧ left.2.Related R right.2 ∧
      asks settings n cluster u e = asks settings m cluster' v e := by
  have hservices (token : Option String) :
      n.AgreeOn ((Remote.ofSettings settings).Sends token) R m := fun o out s t hout hst =>
    h.services o out s t (Remote.not_isStatement_of_sends hout) hst
  have hprobe (o : Occasion) (p : Probe) := Probe.live_together h settings.requestTimeout o p
  obtain ⟨htold, hstates⟩ := happen_together (remote_agree (hservices (u.token? e)) hprobe) huv
  exact ⟨htold, hstates, (asks_together (hservices _) hprobe huv).1⟩

/-- What services say of internal errors does not show: in two runs in which they answer the same
otherwise, callers are told the same and the services are asked for the same things. -/
theorem internal_errors_do_not_show (h : Network.AgreeButInternal R n cluster m cluster')
    (settings : Settings) (events : List Happening) (u : InUse σ) (v : InUse τ)
    (huv : u.Related R v) :
    let left := (remote settings n cluster).serve events u
    let right := (remote settings m cluster').serve events v
    left.1 = right.1 ∧
      exchanged settings n cluster events u = exchanged settings m cluster' events v ∧
      left.2.Related R right.2 := by
  -- What is sent for one event depends on the streams that are open then, so answers, requests and
  -- states go through one induction.
  induction events generalizing u v with
  | nil => exact ⟨rfl, rfl, huv⟩
  | cons e rest ih =>
    obtain ⟨htold, hstates, hasks⟩ := happen_agree h settings huv e
    obtain ⟨hlater, hexchanged, hlast⟩ := ih _ _ hstates
    have hserved : u.served? e = v.served? e := by
      cases e <;> simp only [InUse.served?, huv.streams]
    refine ⟨?_, ?_, hlast⟩
    · simp only [serve, htold, hlater]
    · simp only [exchanged, hasks, hserved, hexchanged]

end Console

/-! ### Scripted services -/

namespace Http.Network

/-- Services that answer by a script, one request after the other, until it is over. No server that
is probed is there. -/
def scripted : Network (List (Except Failure Incoming)) where
  exchange _ out script :=
    if out.IsStatement then (.error .unreachable, script)
    else
      match script with
      | [] => (.error .unreachable, [])
      | answer :: rest => (answer, rest)

/-- Scripts that differ only in what they say of internal errors make for such services. -/
theorem scripted_agreeButInternal :
    AgreeButInternal (List.Forall₂ SameUnlessInternal) scripted .deserted scripted .deserted where
  services o out script script' hout h := by
    simp only [scripted, if_neg hout]
    cases h with
    | nil => exact ⟨.refl _, .nil⟩
    | cons hanswer hrest => exact ⟨hanswer, hrest⟩
  servers o out hout script script' h := by
    simp only [scripted, if_pos hout]
    exact ⟨trivial, h⟩
  clusters settings script script' h := ⟨rfl, h⟩

end Http.Network

namespace Console

/-- A pipeline is looked up, all are terminated and one is followed, and each time the orchestrator
has an error of its own. Only the first of two orchestrators tells why. -/
theorem reasons_do_not_show :
    let o : Occasion := ⟨0, ⟨⟨2025, 3, 5, by decide⟩, 36000, 0, by decide⟩, "fresh", []⟩
    let events : List Happening :=
      [.request o { method := .get, path := "/api/pipeline/orders" },
        .request o { method := .delete, path := "/api/pipeline" },
        .request o {
          method := .get, path := "/api/pipeline/status/stream", query := "pipeline_ids=orders" },
        .round o (fun _ => o.time) 0]
    let reason := Text.Utf8.encode (Json.Value.object [("message", .string "disk full")]).text
    let telling : List (Except Failure Incoming) :=
      List.replicate 3 (.ok { status := 500, pieces := [reason] })
    let silent : List (Except Failure Incoming) := List.replicate 3 (.ok { status := 500 })
    let told := (remote {} .scripted .deserted).serve events { state := telling }
    let told' := (remote {} .scripted .deserted).serve events { state := silent }
    told.1.length = 4 ∧ told.2.state = [] ∧ told.1 = told'.1 ∧
      exchanged {} .scripted .deserted events { state := telling } =
        exchanged {} .scripted .deserted events { state := silent } := by
  intro o events reason telling silent told told'
  have hscripts : List.Forall₂ SameUnlessInternal telling silent :=
    .cons (.internal rfl rfl) (.cons (.internal rfl rfl) (.cons (.internal rfl rfl) .nil))
  obtain ⟨htold, hexchanged, -⟩ := internal_errors_do_not_show Network.scripted_agreeButInternal {}
    events { state := telling } { state := silent } ⟨rfl, hscripts⟩
  have hserved : told.1.length = 4 ∧ told.2.state = [] := by decide +kernel
  exact ⟨hserved.1, hserved.2, htold, hexchanged⟩

end Console

end PipelineConsole
