import Mathlib.Data.List.Forall2
import ServiceRouter.Main.Replay

/-!
# What is replayed

The counters always add up.  The requests sent are those of the file when each
method is one that the client is asked for by name and each URL is read back as
the proxy and the path of the entry; another method is sent as `GET`.
-/

namespace ServiceRouter

open Foundation

/-! ## Entries and their requests -/

/-- The request is that of the entry, at the proxy. -/
structure ReplaysEntry (P : Platform) (baseUrl : String) (entry : ReplayEntry)
    (req : ClientRequest) : Prop where
  method : req.method = P.caseMapping.toUppercase entry.method
  url : req.url = { origin := baseUrl, target := entry.path }
  headers : List.Forall₂ (fun header pair =>
      P.headerName header.1 = some pair.1 ∧
        P.headerValue header.2 = some pair.2)
    entry.headers.entries req.headers.pairs
  body : req.body = entry.body

def ReplayEntry.ValidHeaders (P : Platform) (entry : ReplayEntry) : Prop :=
  ∀ header ∈ entry.headers.entries,
    (P.headerName header.1).isSome = true ∧
      (P.headerValue header.2).isSome = true

def knownMethods : List String :=
  ["GET", "POST", "PUT", "DELETE", "PATCH", "HEAD"]

/-- The method is known, and the URL is read back as the proxy and the path. -/
def ReplayEntry.Kept (P : Platform) (parseUrl : String → Option ParsedUrl)
    (baseUrl : String) (entry : ReplayEntry) : Prop :=
  P.caseMapping.toUppercase entry.method ∈ knownMethods ∧
    parseUrl (baseUrl ++ entry.path) =
      some { origin := baseUrl, target := entry.path }

theorem requestMethod_eq_self_iff {method : String} :
    requestMethod method = method ↔ method ∈ knownMethods := by
  constructor
  · intro h
    rw [← h]
    unfold requestMethod
    split <;> decide
  · intro h
    simp only [knownMethods, List.mem_cons, List.not_mem_nil, or_false] at h
    rcases h with rfl | rfl | rfl | rfl | rfl | rfl <;> rfl

section Requests

variable {P : Platform} {parseUrl : String → Option ParsedUrl}
  {baseUrl : String} {entry : ReplayEntry}

theorem foldl_header_error (headers : List (Sigma fun _ : String => String))
    (e : String) :
    headers.foldl (fun req header =>
      RequestBuilder.header P req header.1 header.2) (.error e) =
        .error e := by
  induction headers with
  | nil => rfl
  | cons header headers ih => exact ih

/-- Valid headers are appended one after the other. -/
theorem foldl_header_ok {headers : List (Sigma fun _ : String => String)}
    (hvalid : ∀ header ∈ headers, (P.headerName header.1).isSome = true ∧
      (P.headerValue header.2).isSome = true) (req : ClientRequest) :
    ∃ pairs, List.Forall₂ (fun header pair =>
        P.headerName header.1 = some pair.1 ∧
          P.headerValue header.2 = some pair.2) headers pairs ∧
      headers.foldl (fun req header =>
        RequestBuilder.header P req header.1 header.2) (.ok req) =
          .ok { req with headers := ⟨req.headers.pairs ++ pairs⟩ } := by
  induction headers generalizing req with
  | nil => exact ⟨[], .nil, by simp⟩
  | cons header headers ih =>
      rw [List.forall_mem_cons] at hvalid
      obtain ⟨name, hname⟩ := Option.isSome_iff_exists.mp hvalid.1.1
      obtain ⟨value, hvalue⟩ := Option.isSome_iff_exists.mp hvalid.1.2
      obtain ⟨pairs, hpairs, hrest⟩ :=
        ih hvalid.2 { req with headers := req.headers.append name value }
      refine ⟨(name, value) :: pairs, .cons ⟨hname, hvalue⟩ hpairs, ?_⟩
      have hstep : RequestBuilder.header P (.ok req) header.1 header.2 =
          .ok { req with headers := req.headers.append name value } := by
        simp only [RequestBuilder.header, hname, hvalue]
      rw [List.foldl_cons, hstep, hrest]
      simp [MultiMap.append]

theorem entryRequest_of_parse_none
    (hparse : parseUrl (baseUrl ++ entry.path) = none) :
    entryRequest P parseUrl baseUrl entry = .error P.builderError := by
  simp only [entryRequest, buildReqwestRequest, clientRequest, hparse,
    foldl_header_error, RequestBuilder.setBody]
  cases entry.body <;> rfl

theorem entryRequest_of_parse_some {url : ParsedUrl}
    (hvalid : entry.ValidHeaders P)
    (hparse : parseUrl (baseUrl ++ entry.path) = some url) :
    ∃ pairs, List.Forall₂ (fun header pair =>
        P.headerName header.1 = some pair.1 ∧
          P.headerValue header.2 = some pair.2) entry.headers.entries pairs ∧
      entryRequest P parseUrl baseUrl entry = .ok {
        method := requestMethod (P.caseMapping.toUppercase entry.method)
        url := url
        headers := ⟨pairs⟩
        body := entry.body } := by
  obtain ⟨pairs, hpairs, hfold⟩ := foldl_header_ok hvalid {
    method := requestMethod (P.caseMapping.toUppercase entry.method)
    url := url }
  refine ⟨pairs, hpairs, ?_⟩
  simp only [entryRequest, buildReqwestRequest, clientRequest, hparse, hfold,
    RequestBuilder.setBody]
  cases entry.body <;> rfl

/-- The request for an entry is that of the entry exactly if it is kept. -/
theorem replaysEntry_iff (hvalid : entry.ValidHeaders P) :
    (∃ req, entryRequest P parseUrl baseUrl entry = .ok req ∧
      ReplaysEntry P baseUrl entry req) ↔ entry.Kept P parseUrl baseUrl := by
  constructor
  · rintro ⟨req, hreq, hreplays⟩
    cases hparse : parseUrl (baseUrl ++ entry.path) with
    | none =>
        rw [entryRequest_of_parse_none hparse] at hreq
        cases hreq
    | some url =>
        obtain ⟨pairs, -, hrequest⟩ :=
          entryRequest_of_parse_some hvalid hparse
        rw [hrequest] at hreq
        cases hreq
        exact ⟨requestMethod_eq_self_iff.mp hreplays.method,
          hparse.trans (congrArg some hreplays.url)⟩
  · rintro ⟨hmethod, hparse⟩
    obtain ⟨pairs, hpairs, hrequest⟩ :=
      entryRequest_of_parse_some hvalid hparse
    exact ⟨_, hrequest, requestMethod_eq_self_iff.mpr hmethod, rfl, hpairs,
      rfl⟩

end Requests

/-! ## Counting -/

/-- The transport failed, or a status was expected and is not the one
received. -/
def entryFailed (entry : ReplayEntry) : Except String Nat → Bool
  | .ok status => entry.expectStatus.any fun e => e ≠ status
  | .error _ => true

/-- An answer is counted once, as failed or as passed. -/
theorem count_counters (state : ReplayState) (position total : Nat)
    (entry : ReplayEntry) (method : String) (reply : Except String Nat) :
    (state.count position total entry method reply).failed =
        state.failed + (if entryFailed entry reply then 1 else 0) ∧
      (state.count position total entry method reply).passed =
        state.passed + if entryFailed entry reply then 0 else 1 := by
  cases reply with
  | error e => exact ⟨rfl, rfl⟩
  | ok status =>
      unfold ReplayState.count entryFailed
      cases entry.expectStatus with
      | none => exact ⟨rfl, rfl⟩
      | some e => by_cases he : e = status <;> simp [he]

/-! ## Runs of the loop -/

section Runs

variable {P : Platform} {parseUrl : String → Option ParsedUrl}
  {baseUrl : String} {total : Nat}

theorem returns_replayRequests_cons {entry : ReplayEntry} {position : Nat}
    {entries : List (ReplayEntry × Nat)} {state out : ReplayState}
    {log : List ClientExchange} :
    (replayRequests P parseUrl baseUrl total ((entry, position) :: entries)
        state).Returns log out ↔
      ∃ first reply rest, log = first ++ rest ∧
        (sendRequest (entryRequest P parseUrl baseUrl entry)).Returns first
          reply ∧
        (replayRequests P parseUrl baseUrl total entries
          (state.count position total entry
            (P.caseMapping.toUppercase entry.method) reply)).Returns rest
              out :=
  Program.returns_bind

theorem returns_sendRequest_ok {req : ClientRequest}
    {log : List ClientExchange} {reply : Except String Nat} :
    (sendRequest (.ok req)).Returns log reply ↔
      log = [⟨req, reply⟩] := by
  constructor
  · intro h
    obtain ⟨reply', rest, rfl, hrest⟩ := Program.returns_call.mp h
    obtain ⟨rfl, rfl⟩ := Program.returns_done.mp hrest
    rfl
  · rintro rfl
    exact Program.returns_call.mpr ⟨reply, [], rfl, .refl _⟩

/-- No entry is sent twice. -/
theorem length_le_of_returns {entries : List (ReplayEntry × Nat)}
    {state out : ReplayState} {log : List ClientExchange}
    (h : (replayRequests P parseUrl baseUrl total entries state).Returns log
      out) : log.length ≤ entries.length := by
  induction entries generalizing state log with
  | nil =>
      obtain ⟨rfl, -⟩ := Program.returns_done.mp h
      exact Nat.le_refl 0
  | cons entry entries ih =>
      obtain ⟨entry, position⟩ := entry
      obtain ⟨first, reply, rest, rfl, hsend, hrest⟩ :=
        returns_replayRequests_cons.mp h
      have hfirst : first.length ≤ 1 := by
        cases hreq : entryRequest P parseUrl baseUrl entry with
        | error e =>
            rw [hreq] at hsend
            obtain ⟨rfl, -⟩ := Program.returns_done.mp hsend
            exact Nat.zero_le 1
        | ok req =>
            rw [hreq] at hsend
            rw [returns_sendRequest_ok.mp hsend]
            exact Nat.le_refl 1
      have htail := ih hrest
      rw [List.length_append, List.length_cons]
      omega

/-- Where a run has sent the request of each entry, each entry is kept. -/
theorem kept_of_returns {entries : List (ReplayEntry × Nat)}
    (hvalid : ∀ entry ∈ entries, entry.1.ValidHeaders P)
    {state out : ReplayState} {log : List ClientExchange}
    (h : (replayRequests P parseUrl baseUrl total entries state).Returns log
      out)
    (hsent : List.Forall₂ (fun entry exchange =>
      ReplaysEntry P baseUrl entry.1 exchange.op) entries log) :
    ∀ entry ∈ entries, entry.1.Kept P parseUrl baseUrl := by
  induction entries generalizing state log with
  | nil => simp
  | cons entry entries ih =>
      obtain ⟨entry, position⟩ := entry
      rw [List.forall_mem_cons] at hvalid ⊢
      obtain ⟨first, reply, rest, rfl, hsend, hrest⟩ :=
        returns_replayRequests_cons.mp h
      cases hreq : entryRequest P parseUrl baseUrl entry with
      | error e =>
          -- Nothing was sent for this entry, so the log is too short.
          rw [hreq] at hsend
          obtain ⟨rfl, -⟩ := Program.returns_done.mp hsend
          have hlength := hsent.length_eq
          have hshort := length_le_of_returns hrest
          rw [List.nil_append, List.length_cons] at hlength
          omega
      | ok req =>
          rw [hreq] at hsend
          rw [returns_sendRequest_ok.mp hsend, List.singleton_append] at hsent
          cases hsent with
          | cons hfirst hsent =>
              exact ⟨(replaysEntry_iff hvalid.1).mp ⟨req, hreq, hfirst⟩,
                ih hvalid.2 hrest hsent⟩

/-- What a run of the loop has sent and counted. -/
structure LoopRun (P : Platform) (baseUrl : String)
    (entries : List (ReplayEntry × Nat)) (log : List ClientExchange)
    (state out : ReplayState) : Prop where
  sent : List.Forall₂ (fun entry exchange =>
    ReplaysEntry P baseUrl entry.1 exchange.op) entries log
  total : out.passed + out.failed =
    state.passed + state.failed + entries.length
  failed : out.failed = state.failed + (entries.zip log).countP fun e =>
    entryFailed e.1.1 e.2.reply

theorem loopRun_of_returns {entries : List (ReplayEntry × Nat)}
    (hvalid : ∀ entry ∈ entries, entry.1.ValidHeaders P)
    (hkept : ∀ entry ∈ entries, entry.1.Kept P parseUrl baseUrl)
    {state out : ReplayState} {log : List ClientExchange}
    (h : (replayRequests P parseUrl baseUrl total entries state).Returns log
      out) : LoopRun P baseUrl entries log state out := by
  induction entries generalizing state log with
  | nil =>
      obtain ⟨rfl, rfl⟩ := Program.returns_done.mp h
      exact ⟨.nil, rfl, rfl⟩
  | cons entry entries ih =>
      obtain ⟨entry, position⟩ := entry
      rw [List.forall_mem_cons] at hvalid hkept
      obtain ⟨first, reply, rest, rfl, hsend, hrest⟩ :=
        returns_replayRequests_cons.mp h
      obtain ⟨req, hreq, hreplays⟩ := (replaysEntry_iff hvalid.1).mpr hkept.1
      rw [hreq] at hsend
      obtain rfl := returns_sendRequest_ok.mp hsend
      have hloop := ih hvalid.2 hkept.2 hrest
      obtain ⟨hfailed, hpassed⟩ := count_counters state position total entry
        (P.caseMapping.toUppercase entry.method) reply
      refine ⟨.cons hreplays hloop.sent, ?_, ?_⟩
      · rw [hloop.total, hpassed, hfailed, List.length_cons]
        split <;> omega
      · rw [hloop.failed, hfailed, List.singleton_append,
          List.zip_cons_cons, List.countP_cons, Nat.add_right_comm,
          Nat.add_assoc]

/-- Every sequence of replies has a run. -/
theorem exists_returns {entries : List (ReplayEntry × Nat)}
    (hvalid : ∀ entry ∈ entries, entry.1.ValidHeaders P)
    (hkept : ∀ entry ∈ entries, entry.1.Kept P parseUrl baseUrl)
    {replies : List (Except String Nat)}
    (hlength : replies.length = entries.length) (state : ReplayState) :
    ∃ log out, (replayRequests P parseUrl baseUrl total entries state).Returns
        log out ∧ log.map Exchange.reply = replies := by
  induction entries generalizing replies state with
  | nil =>
      rw [List.length_nil, List.length_eq_zero_iff] at hlength
      subst hlength
      exact ⟨[], state, .refl _, rfl⟩
  | cons entry entries ih =>
      obtain ⟨entry, position⟩ := entry
      rw [List.forall_mem_cons] at hvalid hkept
      cases replies with
      | nil => cases hlength
      | cons reply replies =>
          obtain ⟨req, hreq, -⟩ := (replaysEntry_iff hvalid.1).mpr hkept.1
          obtain ⟨log, out, hrest, hreplies⟩ := ih hvalid.2 hkept.2
            (Nat.succ.inj hlength) (state.count position total entry
              (P.caseMapping.toUppercase entry.method) reply)
          refine ⟨⟨req, reply⟩ :: log, out, ?_, congrArg _ hreplies⟩
          refine returns_replayRequests_cons.mpr
            ⟨[⟨req, reply⟩], reply, log, rfl, ?_, hrest⟩
          rw [hreq]
          exact returns_sendRequest_ok.mpr rfl

end Runs

/-! ## The command -/

/-- The requests of the file have been sent in order, the counters add up, and
the failed entries are counted and decide the exit code. -/
structure FaithfulRun (P : Platform) (baseUrl : String)
    (requests : List ReplayEntry) (log : List ClientExchange)
    (report : ReplayReport) : Prop where
  sent : List.Forall₂ (fun entry exchange =>
    ReplaysEntry P baseUrl entry exchange.op) requests log
  total : report.passed + report.failed = requests.length
  failed : report.failed = (requests.zip log).countP fun e =>
    entryFailed e.1 e.2.reply
  exitCode : report.exitCode = 0 ↔
    ∀ e ∈ requests.zip log, entryFailed e.1 e.2.reply = false

/-- Every run is faithful, and every sequence of replies has a run. -/
def FaithfulReplay (P : Platform) (parseUrl : String → Option ParsedUrl)
    (replayFile localAddr : String) (requests : List ReplayEntry) : Prop :=
  (∀ log result, (replay P parseUrl replayFile (.ok requests)
      (.ok localAddr)).Returns log result →
    ∃ report, result = .ok report ∧
      FaithfulRun P s!"http://{localAddr}" requests log report) ∧
  ∀ replies : List (Except String Nat), replies.length = requests.length →
    ∃ log result, (replay P parseUrl replayFile (.ok requests)
        (.ok localAddr)).Returns log result ∧
      log.map Exchange.reply = replies

section Command

variable {P : Platform} {parseUrl : String → Option ParsedUrl}
  {replayFile localAddr : String} {requests : List ReplayEntry}

def summarize (total : Nat) (state : ReplayState) : ReplayReport where
  passed := state.passed
  failed := state.failed
  exitCode := if state.failed > 0 then 1 else 0
  stdout := state.stdout ++ [s!"\nreplay summary: " ++
    s!"{state.passed}/{total} passed, {state.failed} failed"]

theorem returns_replay (hsome : requests ≠ []) {log : List ClientExchange}
    {result : Except ReplayError ReplayReport} :
    (replay P parseUrl replayFile (.ok requests) (.ok localAddr)).Returns log
        result ↔
      ∃ state, (replayRequests P parseUrl s!"http://{localAddr}"
          requests.length requests.zipIdx {}).Returns log state ∧
        result = .ok (summarize requests.length state) := by
  have hempty : requests.isEmpty = false :=
    List.isEmpty_eq_false_iff.mpr hsome
  simp only [replay, hempty, Bool.false_eq_true, if_false, Program.bind_eq,
    Program.returns_bind, Program.pure_eq, Program.returns_done]
  constructor
  · rintro ⟨first, state, rest, rfl, hloop, rfl, hresult⟩
    rw [List.append_nil]
    exact ⟨state, hloop, hresult.symm⟩
  · rintro ⟨state, hloop, rfl⟩
    exact ⟨log, state, [], (List.append_nil log).symm, hloop, rfl, rfl⟩

theorem forall_mem_zipIdx {p : ReplayEntry → Prop} :
    (∀ entry ∈ requests.zipIdx, p entry.1) ↔ ∀ entry ∈ requests, p entry := by
  conv_rhs => rw [← List.zipIdx_map_fst 0 requests]
  rw [List.forall_mem_map]

theorem forall₂_zipIdx {R : ReplayEntry → ClientExchange → Prop}
    {log : List ClientExchange} :
    List.Forall₂ (fun entry exchange => R entry.1 exchange) requests.zipIdx
        log ↔ List.Forall₂ R requests log := by
  conv_rhs => rw [← List.zipIdx_map_fst 0 requests]
  rw [List.forall₂_map_left_iff]

theorem faithfulRun_of_loopRun {baseUrl : String} {log : List ClientExchange}
    {state : ReplayState}
    (h : LoopRun P baseUrl requests.zipIdx log {} state) :
    FaithfulRun P baseUrl requests log
      (summarize requests.length state) := by
  have hfailed : state.failed = (requests.zip log).countP fun e =>
      entryFailed e.1 e.2.reply := by
    have hzip : requests.zip log =
        (requests.zipIdx.zip log).map fun e => (e.1.1, e.2) := by
      conv_lhs => rw [← List.zipIdx_map_fst 0 requests, List.zip_map_left]
      rfl
    rw [h.failed, hzip, List.countP_map]
    exact Nat.zero_add _
  refine ⟨forall₂_zipIdx.mp h.sent, ?_, hfailed, ?_⟩
  · have htotal := h.total
    rw [List.length_zipIdx] at htotal
    simpa [summarize] using htotal
  · have hexit : (summarize requests.length state).exitCode = 0 ↔
        state.failed = 0 := by
      simp [summarize]
    rw [hexit, hfailed, List.countP_eq_zero]
    simp

end Command

/-- A file is replayed faithfully exactly if the method of each entry is known
and its URL is read back as the proxy and the path. -/
theorem replay_faithful_iff {P : Platform}
    {parseUrl : String → Option ParsedUrl} (replayFile localAddr : String)
    {requests : List ReplayEntry} (hsome : requests ≠ [])
    (hvalid : ∀ entry ∈ requests, entry.ValidHeaders P) :
    FaithfulReplay P parseUrl replayFile localAddr requests ↔
      ∀ entry ∈ requests, entry.Kept P parseUrl s!"http://{localAddr}" := by
  have hvalid' := forall_mem_zipIdx.mpr hvalid
  constructor
  · rintro ⟨hruns, hreplies⟩
    obtain ⟨log, result, hreturns, -⟩ :=
      hreplies (requests.map fun _ => .ok 200) (List.length_map _)
    obtain ⟨report, -, hrun⟩ := hruns log result hreturns
    obtain ⟨state, hloop, -⟩ := (returns_replay hsome).mp hreturns
    exact forall_mem_zipIdx.mp
      (kept_of_returns hvalid' hloop (forall₂_zipIdx.mpr hrun.sent))
  · intro hkept
    have hkept' := forall_mem_zipIdx.mpr hkept
    constructor
    · intro log result hreturns
      obtain ⟨state, hloop, rfl⟩ := (returns_replay hsome).mp hreturns
      exact ⟨_, rfl,
        faithfulRun_of_loopRun (loopRun_of_returns hvalid' hkept' hloop)⟩
    · intro replies hlength
      have hlength' : replies.length = requests.zipIdx.length := by
        rw [hlength, List.length_zipIdx]
      obtain ⟨log, state, hloop, hlog⟩ :=
        exists_returns hvalid' hkept' hlength' {}
      exact ⟨log, _, (returns_replay hsome).mpr ⟨state, hloop, rfl⟩, hlog⟩

/-- What the URL library makes of a URL at the address of the proxy. -/
def localParseUrl (url : String) : Option ParsedUrl :=
  (stripPrefix? url "http://127.0.0.1:8080").map fun target =>
    { origin := "http://127.0.0.1:8080", target := target }

def createEntry : ReplayEntry :=
  { path := "/orders"
    method := "post"
    headers := (AList.singleton "x-tag" "a").insert "Accept" "text/plain"
    body := some "first"
    expectStatus := some 201 }

def changeEntry : ReplayEntry :=
  { path := "/orders/1?notify=no"
    method := "PUT"
    headers := AList.singleton "x-tag" "b"
    body := some "second" }

theorem replay_faithful_iff_orders :
    FaithfulReplay Platform.plain localParseUrl "replay.yaml" "127.0.0.1:8080"
      [createEntry, changeEntry] := by
  have hvalid : ∀ entry ∈ [createEntry, changeEntry],
      entry.ValidHeaders .plain := by
    unfold ReplayEntry.ValidHeaders
    decide
  have hkept : ∀ entry ∈ [createEntry, changeEntry],
      entry.Kept .plain localParseUrl "http://127.0.0.1:8080" := by
    unfold ReplayEntry.Kept
    decide
  exact (replay_faithful_iff "replay.yaml" "127.0.0.1:8080"
    (List.cons_ne_nil _ _) hvalid).mpr hkept

def ordersEntry (method : String) : ReplayEntry :=
  { path := "/orders", method := method, expectStatus := some 200 }

/-- `OPTIONS` is replayed as `GET`. -/
theorem replay_options :
    (∃ req report, req.method = "GET" ∧
      (replay Platform.plain localParseUrl "replay.yaml"
        (.ok [ordersEntry "OPTIONS"]) (.ok "127.0.0.1:8080")).Returns
          [⟨req, .ok 200⟩] (.ok report)) ∧
    ¬ FaithfulReplay Platform.plain localParseUrl "replay.yaml"
        "127.0.0.1:8080" [ordersEntry "OPTIONS"] := by
  have hrun : ∃ req report, req.method = "GET" ∧
      (replay Platform.plain localParseUrl "replay.yaml"
        (.ok [ordersEntry "OPTIONS"]) (.ok "127.0.0.1:8080")).Returns
          [⟨req, .ok 200⟩] (.ok report) := by
    let req : ClientRequest :=
      { method := "GET", url := ⟨"http://127.0.0.1:8080", "/orders"⟩ }
    have hreq : sendRequest (entryRequest Platform.plain localParseUrl
        "http://127.0.0.1:8080" (ordersEntry "OPTIONS")) =
          sendRequest (.ok req) :=
      congrArg sendRequest (by decide)
    have hloop : ∃ state, (replayRequests Platform.plain localParseUrl
        "http://127.0.0.1:8080" 1 [(ordersEntry "OPTIONS", 0)]
          {}).Returns [⟨req, .ok 200⟩] state :=
      ⟨_, returns_replayRequests_cons.mpr ⟨[⟨req, .ok 200⟩], .ok 200, [], rfl,
        hreq ▸ returns_sendRequest_ok.mpr rfl, .refl _⟩⟩
    obtain ⟨state, hloop⟩ := hloop
    exact ⟨req, _, rfl,
      (returns_replay (List.cons_ne_nil _ _)).mpr ⟨state, hloop, rfl⟩⟩
  refine ⟨hrun, fun hfaithful => ?_⟩
  obtain ⟨req, report, hget, hreturns⟩ := hrun
  obtain ⟨report', -, hfaithfulRun⟩ := hfaithful.1 _ _ hreturns
  obtain ⟨hreplays, -⟩ := List.forall₂_cons.mp hfaithfulRun.sent
  have hmethod := hreplays.method
  rw [hget] at hmethod
  exact absurd hmethod (by decide)

end ServiceRouter
