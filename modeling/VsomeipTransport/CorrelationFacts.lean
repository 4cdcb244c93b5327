/-
The correlation of requests and responses over the whole life of a
transport.

A run converts requests and responses on their way out and messages on their
way in, in any order. Seen from one of the two tables, every conversion
issues a ticket, redeems one, or does neither: `ueRequestCorrelation` holds
the requests sent and not answered (`ue_step`), `meRequestCorrelation` those
received and not answered (`me_step`). What is known of tickets then holds
of the conversions, whatever session ids come back and whatever ids the
message builder gives.
-/
import VsomeipTransport.Lib.Tickets
import VsomeipTransport.TransportEngine

namespace VsomeipTransport

open UMessageToVsomeipMessage VsomeipMessageToUMessage

/-- What all conversions of a transport are given. -/
structure ConversionEnv extends Deps where
  authorityName : AuthorityName
  selfUuri : TransportUri
  mechatronicsAuthorityName : AuthorityName

inductive Conversion
  | request (umsg : UMessage) (app : VsomeipApplication)
  | response (umsg : UMessage)
  | inbound (m : VsomeipMessage) (id : UUID)

inductive Converted
  | request (res : Outcome (Except UStatus VsomeipMessage))
  | response (res : Except UStatus VsomeipMessage)
  | inbound (res : Except UStatus UMessage)

namespace ConversionEnv

def step (env : ConversionEnv) (rpc : InMemoryRpcCorrelationRegistry) :
    Conversion → InMemoryRpcCorrelationRegistry × Converted
  | .request umsg app =>
    let (res, rpc) := umsgRequestToVsomeipMessage env.up env.rt env.checks umsg rpc app
    (rpc, .request res)
  | .response umsg =>
    let (res, rpc) := umsgResponseToVsomeipMessage env.up env.rt umsg rpc
    (rpc, .response res)
  | .inbound m id =>
    let (res, rpc) := convertVsomeipMsgToUmsg env.up env.authorityName env.selfUuri env.mechatronicsAuthorityName id
      m rpc
    (rpc, .inbound res)

/-- The registry before conversion `j` of the run. -/
def before (env : ConversionEnv) (run : List Conversion) (j : ℕ) : InMemoryRpcCorrelationRegistry :=
  Runs.after env.step .new (run.take j)

/-- Conversion `j` of the run is `c`, with result `o`. -/
def At (env : ConversionEnv) (run : List Conversion) (j : ℕ) (c : Conversion) (o : Converted) : Prop :=
  run[j]? = some c ∧ (env.step (env.before run j) c).2 = o

variable {env : ConversionEnv} {rpc : InMemoryRpcCorrelationRegistry} {run : List Conversion}

theorem before_succ {j : ℕ} {c : Conversion} (h : run[j]? = some c) :
    env.before run (j + 1) = (env.step (env.before run j) c).1 := Runs.after_take_succ h

/-! ## The client side -/

/-- Conversion `j` sent a request and stored its id and source under `k`,
which was vacant. -/
def Stores (env : ConversionEnv) (run : List Conversion) (j : ℕ) (k : SomeIpRequestId) (id : UUID) (source : UUri) :
    Prop :=
  (∃ umsg app m, env.At run j (.request umsg app) (.request (.returned (.ok m))) ∧
    umsg.attrs.id = some id ∧ umsg.attrs.source = some source) ∧
  (env.before run j).ueRequestCorrelation k = none ∧
  (env.before run (j + 1)).ueRequestCorrelation k = some (id, source)

/-- Conversion `j` produced the response `umsg` from the inbound `m`. -/
def Responds (env : ConversionEnv) (run : List Conversion) (j : ℕ) (m : VsomeipMessage) (umsg : UMessage) : Prop :=
  (∃ id, env.At run j (.inbound m id) (.inbound (.ok umsg))) ∧ umsg.attrs.type = .known .response

/-- What a ticket says of the conversion that was its operation. -/
structure UeAgrees (env : ConversionEnv) (rpc : InMemoryRpcCorrelationRegistry) (c : Conversion)
    (out : Tickets.Out SomeIpRequestId (UUID × UUri)) : Prop where
  issued : ∀ k v, out = .issued k v → rpc.ueRequestCorrelation k = none ∧
    (env.step rpc c).1.ueRequestCorrelation k = some v ∧
    ∃ umsg app m, c = .request umsg app ∧ (env.step rpc c).2 = .request (.returned (.ok m)) ∧
      umsg.attrs.id = some v.1 ∧ umsg.attrs.source = some v.2
  responds : ∀ m id umsg, c = .inbound m id → (env.step rpc c).2 = .inbound (.ok umsg) →
    umsg.attrs.type = .known .response →
    ∃ reqId sink, out = .redeemed m.getRequest (reqId, sink) ∧
      umsg.attrs.reqid = some reqId ∧ umsg.attrs.sink = some sink

/-- An outbound conversion that stores nothing is no operation on tickets. -/
theorem UeAgrees.idle {c : Conversion} (hin : ∀ m id, c ≠ .inbound m id) : UeAgrees env rpc c .refused where
  issued := by intro _ _ h; cases h
  responds := fun m id _ h => absurd h (hin m id)

theorem UeAgrees.idle_inbound {m : VsomeipMessage} {id : UUID}
    (hres : ∀ umsg, (env.step rpc (.inbound m id)).2 = .inbound (.ok umsg) → umsg.attrs.type ≠ .known .response) :
    UeAgrees env rpc (.inbound m id) .refused where
  issued := by intro _ _ h; cases h
  responds := fun _ _ umsg h ho ht => absurd ht (hres umsg ho)

theorem ue_step_request (umsg : UMessage) (app : VsomeipApplication) :
    ∃ op, (env.step rpc (.request umsg app)).1.ueRequestCorrelation =
        (Tickets.step rpc.ueRequestCorrelation op).1 ∧
      UeAgrees env rpc (.request umsg app) (Tickets.step rpc.ueRequestCorrelation op).2 := by
  cases h : umsgRequestToVsomeipMessage env.up env.rt env.checks umsg rpc app with
  | mk res rpc' =>
  have hstep : env.step rpc (.request umsg app) = (rpc', .request res) := by simp only [step, h]
  have hidle : rpc'.ueRequestCorrelation = rpc.ueRequestCorrelation →
      ∃ op, (env.step rpc (.request umsg app)).1.ueRequestCorrelation =
          (Tickets.step rpc.ueRequestCorrelation op).1 ∧
        UeAgrees env rpc (.request umsg app) (Tickets.step rpc.ueRequestCorrelation op).2 :=
    fun he => ⟨.idle, by rw [hstep]; exact he, .idle (by simp)⟩
  rcases umsgRequestToVsomeipMessage_cases h with
    ⟨_, -, rfl, -⟩ | ⟨id, source, sink, hreq, ⟨_, -, hr⟩ | ⟨s, rpc₁, hr, ⟨_, _, -, -, rfl⟩ | ⟨m, rfl, -, hk, rfl⟩⟩⟩
  · exact hidle rfl
  · exact hidle (InMemoryRpcCorrelationRegistry.retrieveSessionId_frame hr).1
  · exact hidle (InMemoryRpcCorrelationRegistry.retrieveSessionId_frame hr).1
  · refine ⟨.issue (createRequestId app.client s) (id, source), ?_, ?_, by simp⟩
    · rw [hstep]
      simp [Tickets.step, hk]
    · intro k v hout
      simp only [Tickets.step, hk, Tickets.Out.issued.injEq] at hout
      obtain ⟨rfl, rfl⟩ := hout
      refine ⟨hk, ?_, umsg, app, m, rfl, ?_, hreq.id, hreq.source⟩
      · rw [hstep]; simp
      · rw [hstep]

/-- A request leaves the entries of the others alone. -/
theorem request_keeps (umsg : UMessage) (app : VsomeipApplication) {k : SomeIpRequestId} {entry : UUID × UUri}
    (hk : rpc.ueRequestCorrelation k = some entry) :
    (env.step rpc (.request umsg app)).1.ueRequestCorrelation k = some entry := by
  cases h : umsgRequestToVsomeipMessage env.up env.rt env.checks umsg rpc app with
  | mk res rpc' =>
  simp only [step, h]
  rcases umsgRequestToVsomeipMessage_cases h with
    ⟨_, -, rfl, -⟩ | ⟨id, source, _, -, ⟨_, -, hr⟩ | ⟨s, rpc₁, hr, ⟨_, _, -, -, rfl⟩ | ⟨m, -, -, hvacant, rfl⟩⟩⟩
  · exact hk
  · rw [(InMemoryRpcCorrelationRegistry.retrieveSessionId_frame hr).1, hk]
  · rw [(InMemoryRpcCorrelationRegistry.retrieveSessionId_frame hr).1, hk]
  · have hne : k ≠ createRequestId app.client s := by
      intro hgiven
      subst hgiven
      rw [hvacant] at hk
      cases hk
    simp only [PartialMap.insert_of_ne hne]
    exact hk

theorem ue_step_inbound (hup : env.up.Carries) (m : VsomeipMessage) (id : UUID) :
    ∃ op, (env.step rpc (.inbound m id)).1.ueRequestCorrelation = (Tickets.step rpc.ueRequestCorrelation op).1 ∧
      UeAgrees env rpc (.inbound m id) (Tickets.step rpc.ueRequestCorrelation op).2 := by
  cases h : convertVsomeipMsgToUmsg env.up env.authorityName env.selfUuri env.mechatronicsAuthorityName id m rpc with
  | mk res rpc' =>
  have hstep : env.step rpc (.inbound m id) = (rpc', .inbound res) := by simp only [step, h]
  -- Only a reply hands out a response.
  have hidle : rpc'.ueRequestCorrelation = rpc.ueRequestCorrelation →
      (∀ umsg, res = .ok umsg → umsg.attrs.type ≠ .known .response) →
      ∃ op, (env.step rpc (.inbound m id)).1.ueRequestCorrelation = (Tickets.step rpc.ueRequestCorrelation op).1 ∧
        UeAgrees env rpc (.inbound m id) (Tickets.step rpc.ueRequestCorrelation op).2 := by
    intro hsame hno
    refine ⟨.idle, by rw [hstep]; exact hsame, .idle_inbound fun umsg ho => hno umsg ?_⟩
    simpa only [hstep, Converted.inbound.injEq] using ho
  rcases convertVsomeipMsgToUmsg_cases h with
    ⟨umsg, _, _, _, rfl, hb, -, -, rfl⟩ | ⟨payload, source, reqId, sink, -, hk, rfl, rfl⟩ |
    ⟨umsg, _, _, rfl, rfl, -, -, -, hbuilt⟩ | ⟨_, rfl, rfl⟩
  · obtain ⟨payload, -, hbuilt⟩ := hb.built
    refine hidle rfl fun umsg' ho => ?_
    cases ho
    simp [hup.attrs hbuilt, UMessageBuilder.attributes]
  · refine ⟨.redeem m.getRequest, by rw [hstep]; simp [Tickets.step, hk], ?_, ?_⟩
    · intro k v hout
      simp [Tickets.step, hk] at hout
    · intro m' id' umsg hc ho _
      obtain ⟨rfl, rfl⟩ := Conversion.inbound.inj hc
      simp only [hstep, Converted.inbound.injEq, buildUMessage_ok_iff] at ho
      have hreqid : umsg.attrs.reqid = some reqId := by simp [hup.attrs ho, UMessageBuilder.attributes]
      have hsink : umsg.attrs.sink = some sink := by simp [hup.attrs ho, UMessageBuilder.attributes]
      exact ⟨reqId, sink, by simp [Tickets.step, hk], hreqid, hsink⟩
  · refine hidle rfl fun umsg' ho => ?_
    cases ho
    simp [hup.attrs hbuilt, UMessageBuilder.attributes]
  · exact hidle rfl fun umsg' ho => by cases ho

/-- Seen from the stored requests, a conversion is an operation on tickets. -/
theorem ue_step (hup : env.up.Carries) (c : Conversion) :
    ∃ op, (env.step rpc c).1.ueRequestCorrelation = (Tickets.step rpc.ueRequestCorrelation op).1 ∧
      UeAgrees env rpc c (Tickets.step rpc.ueRequestCorrelation op).2 := by
  cases c with
  | request umsg app => exact ue_step_request umsg app
  | response umsg =>
    refine ⟨.idle, ?_, .idle (by simp)⟩
    cases h : umsgResponseToVsomeipMessage env.up env.rt umsg rpc with
    | mk res rpc' =>
    simp only [step, h, Tickets.step]
    rcases umsgResponseToVsomeipMessage_cases h with ⟨_, -, rfl, -⟩ | ⟨_, _, _, _, -, -, -, -, -, -, rfl⟩
    · rfl
    · rfl
  | inbound m id => exact ue_step_inbound hup m id

/-- A run of conversions is a run of tickets, position by position. -/
theorem ue_run (hup : env.up.Carries) (run : List Conversion) :
    ∃ ops, ∀ j c, run[j]? = some c → ∃ out,
      (Runs.outputs Tickets.step PartialMap.empty ops)[j]? = some out ∧ UeAgrees env (env.before run j) c out := by
  have hstep : ∀ rpc table c, rpc.ueRequestCorrelation = table → ∃ op,
      (env.step rpc c).1.ueRequestCorrelation = (Tickets.step table op).1 ∧
      UeAgrees env rpc c (Tickets.step table op).2 := by
    intro rpc _ c hgiven
    subst hgiven
    exact ue_step hup c
  obtain ⟨ops, -, -, hout⟩ := Runs.simulate hstep (s := .new) (t := PartialMap.empty) rfl run
  exact ⟨ops, hout⟩

/-- **Every response answers an earlier request of its own**: one stored
under the request id it came in with, whose id and source it carries. And no
request takes the entry of another. -/
theorem responses_answer_requests (env : ConversionEnv) (hup : env.up.Carries) (run : List Conversion) :
    (∃ request : ℕ → ℕ,
      (∀ j m umsg, Responds env run j m umsg → request j < j ∧ ∃ id source,
        Stores env run (request j) m.getRequest id source ∧
        umsg.attrs.reqid = some id ∧ umsg.attrs.sink = some source) ∧
      ∀ j j' m m' umsg umsg', Responds env run j m umsg → Responds env run j' m' umsg' →
        request j = request j' → j = j') ∧
    ∀ j umsg app k entry, run[j]? = some (.request umsg app) →
      (env.before run j).ueRequestCorrelation k = some entry →
      (env.before run (j + 1)).ueRequestCorrelation k = some entry := by
  obtain ⟨ops, hout⟩ := ue_run hup run
  obtain ⟨request, hmatch⟩ := Tickets.redeemed_once ops
  -- A response is a redemption.
  have hred : ∀ j m umsg, Responds env run j m umsg → ∃ id source,
      (Runs.outputs Tickets.step PartialMap.empty ops)[j]? = some (.redeemed m.getRequest (id, source)) ∧
      umsg.attrs.reqid = some id ∧ umsg.attrs.sink = some source := by
    intro j m umsg hgiven
    obtain ⟨⟨id, hat⟩, ht⟩ := hgiven
    obtain ⟨out, hj, hag⟩ := hout j _ hat.1
    obtain ⟨reqId, sink, rfl, hattrs⟩ := hag.responds m id umsg rfl hat.2 ht
    exact ⟨reqId, sink, hj, hattrs⟩
  refine ⟨⟨request, fun j m umsg hr => ?_, fun j j' m m' umsg umsg' hr hr' he => ?_⟩, ?_⟩
  · obtain ⟨id, source, hj, hattrs⟩ := hred j m umsg hr
    obtain ⟨hlt, hissued⟩ := hmatch.earlier hj
    refine ⟨hlt, id, source, ?_, hattrs⟩
    -- The issue it redeems is a conversion that stored its request.
    have hrun : request j < run.length := by
      obtain ⟨h, -⟩ := List.getElem?_eq_some_iff.1 hr.1.choose_spec.1
      omega
    have hc := List.getElem?_eq_getElem hrun
    obtain ⟨out, ho, hag⟩ := hout (request j) _ hc
    have hout : out = .issued m.getRequest (id, source) := Option.some.inj (ho.symm.trans hissued)
    obtain ⟨hvacant, hstored, umsg', app, m', hreq, hres, hid, hsource⟩ := hag.issued _ _ hout
    refine ⟨⟨umsg', app, m', ⟨hreq ▸ hc, hreq ▸ hres⟩, hid, hsource⟩, hvacant, ?_⟩
    rw [before_succ hc]
    exact hstored
  · obtain ⟨_, _, hj, -⟩ := hred j m umsg hr
    obtain ⟨_, _, hj', -⟩ := hred j' m' umsg' hr'
    exact hmatch.injective hj hj' he
  · intro j umsg app k entry hc hk
    rw [before_succ hc]
    exact request_keeps umsg app hk

/-- A request from one port to another. -/
def sampleRequest : UMessage where
  attributes := some { id := some (.sample 1), type := .known .request, source := some ⟨"local", 1, 1, 0⟩,
                       sink := some ⟨"remote", 2, 1, 3⟩ }
  payload := none

def sampleEnv (checks : OverflowChecks) : ConversionEnv where
  up := .accepting
  rt := .zeroed
  checks := checks
  authorityName := "local"
  selfUuri := ⟨⟨"local", 1, 1, 0⟩, by decide⟩
  mechatronicsAuthorityName := "remote"

def sampleResponse : VsomeipMessage := ⟨.response, 2, 1, 3, 7, 1, 1, .ok, some []⟩

theorem responses_answer_requests_sample :
    let run : List Conversion := [.request sampleRequest (.started 7), .inbound sampleResponse (.sample 2)]
    ∃ (umsg : UMessage) (request : ℕ) (id : UUID) (source : UUri),
      Responds (sampleEnv false) run 1 sampleResponse umsg ∧ request < 1 ∧
      Stores (sampleEnv false) run request sampleResponse.getRequest id source ∧
      umsg.attrs.reqid = some id ∧ umsg.attrs.sink = some source := by
  intro run
  obtain ⟨⟨request, hmatch, -⟩, -⟩ := responses_answer_requests (sampleEnv false) UpRust.accepting_carries run
  have hr : Responds (sampleEnv false) run 1 sampleResponse _ := ⟨⟨.sample 2, rfl, rfl⟩, rfl⟩
  obtain ⟨hlt, id, source, hs, hattrs⟩ := hmatch 1 _ _ hr
  exact ⟨_, request 1, id, source, hr, hlt, hs, hattrs⟩

/-! ## The service side -/

/-- The conversion received a request with id `r` from the client and session
of `k`. -/
def Requested (c : Conversion) (o : Converted) (r : UUID) (k : SomeIpRequestId) : Prop :=
  ∃ m id umsg, c = .inbound m id ∧ o = .inbound (.ok umsg) ∧ m.messageType = .request ∧
    umsg.attrs.id = some r ∧ k = m.getRequest

/-- The conversion sent a response to the request with id `r`. -/
def Responded (c : Conversion) (o : Converted) (r : UUID) : Prop :=
  ∃ umsg m, c = .response umsg ∧ o = .response (.ok m) ∧ umsg.attrs.reqid = some r

/-- Conversion `i` received `m` as the request with id `r`, and no response
consumed it since. -/
def Unanswered (env : ConversionEnv) (run : List Conversion) (i : ℕ) (m : VsomeipMessage) (r : UUID) : Prop :=
  (∃ id umsg, env.At run i (.inbound m id) (.inbound (.ok umsg)) ∧ m.messageType = .request ∧
    umsg.attrs.id = some r) ∧
  ∀ j umsg m', i < j → env.At run j (.response umsg) (.response (.ok m')) → umsg.attrs.reqid ≠ some r

/-- What a ticket says of the conversion that was its operation. -/
structure MeAgrees (env : ConversionEnv) (rpc : InMemoryRpcCorrelationRegistry) (c : Conversion)
    (out : Tickets.Out UUID SomeIpRequestId) : Prop where
  issued : ∀ r k, out = .issued r k ↔ Requested c (env.step rpc c).2 r k
  redeemed : ∀ r, (∃ k, out = .redeemed r k) ↔ Responded c (env.step rpc c).2 r

theorem MeAgrees.idle {c : Conversion} (hreq : ∀ r k, ¬ Requested c (env.step rpc c).2 r k)
    (hres : ∀ r, ¬ Responded c (env.step rpc c).2 r) : MeAgrees env rpc c .refused where
  issued := by simpa using hreq
  redeemed := by simpa using hres

theorem me_step_response (umsg : UMessage) :
    ∃ op, (env.step rpc (.response umsg)).1.meRequestCorrelation = (Tickets.step rpc.meRequestCorrelation op).1 ∧
      MeAgrees env rpc (.response umsg) (Tickets.step rpc.meRequestCorrelation op).2 := by
  cases h : umsgResponseToVsomeipMessage env.up env.rt umsg rpc with
  | mk res rpc' =>
  have hstep : env.step rpc (.response umsg) = (rpc', .response res) := by simp only [step, h]
  rcases umsgResponseToVsomeipMessage_cases h with ⟨_, rfl, rfl, -⟩ | ⟨m, source, r, k, rfl, -, hr, hk, -, -, rfl⟩
  · refine ⟨.idle, by rw [hstep]; rfl, .idle ?_ ?_⟩
    · intro r k hgiven
      obtain ⟨_, _, _, hc, -⟩ := hgiven
      cases hc
    · intro r hgiven
      obtain ⟨_, _, -, ho, -⟩ := hgiven
      rw [hstep] at ho
      cases ho
  · refine ⟨.redeem r, by rw [hstep]; simp [Tickets.step, hk], fun r' k' => ?_, fun r' => ?_⟩
    · simp [Tickets.step, hk, Requested]
    · simp only [Tickets.step, hk, Tickets.Out.redeemed.injEq, Responded, hstep]
      constructor
      · intro hgiven
        obtain ⟨_, rfl, -⟩ := hgiven
        exact ⟨umsg, m, rfl, rfl, hr⟩
      · intro hgiven
        obtain ⟨_, _, hc, -, hr'⟩ := hgiven
        cases hc
        exact ⟨k, Option.some.inj (hr.symm.trans hr'), rfl⟩

theorem me_step_inbound (m : VsomeipMessage) (id : UUID) :
    ∃ op, (env.step rpc (.inbound m id)).1.meRequestCorrelation = (Tickets.step rpc.meRequestCorrelation op).1 ∧
      MeAgrees env rpc (.inbound m id) (Tickets.step rpc.meRequestCorrelation op).2 := by
  cases h : convertVsomeipMsgToUmsg env.up env.authorityName env.selfUuri env.mechatronicsAuthorityName id m rpc with
  | mk res rpc' =>
  have hstep : env.step rpc (.inbound m id) = (rpc', .inbound res) := by simp only [step, h]
  have hout : ∀ r, ¬ Responded (.inbound m id) (env.step rpc (.inbound m id)).2 r := by
    intro r hgiven
    obtain ⟨_, _, hc, -⟩ := hgiven
    cases hc
  -- Only a request is received as one.
  have hidle : rpc'.meRequestCorrelation = rpc.meRequestCorrelation →
      (∀ umsg, res = .ok umsg → m.messageType ≠ .request) →
      ∃ op, (env.step rpc (.inbound m id)).1.meRequestCorrelation = (Tickets.step rpc.meRequestCorrelation op).1 ∧
        MeAgrees env rpc (.inbound m id) (Tickets.step rpc.meRequestCorrelation op).2 := by
    intro hsame hno
    refine ⟨.idle, by rw [hstep]; exact hsame, .idle ?_ hout⟩
    intro r k hreq
    obtain ⟨_, _, umsg, hc, ho, ht, -⟩ := hreq
    cases hc
    rw [hstep] at ho
    exact hno umsg (Converted.inbound.inj ho) ht
  rcases convertVsomeipMsgToUmsg_cases h with
    ⟨umsg, _, _, r, rfl, hb, hi, hk, rfl⟩ | ⟨_, _, _, _, hb, -, rfl, -⟩ | ⟨_, _, _, rfl, rfl, hn, -⟩ | ⟨_, rfl, rfl⟩
  · refine ⟨.issue r m.getRequest, by rw [hstep]; simp [Tickets.step, hk], fun r' k' => ?_, fun r' => ?_⟩
    · simp only [Tickets.step, hk, Tickets.Out.issued.injEq, Requested, hstep]
      constructor
      · intro he
        obtain ⟨rfl, rfl⟩ := he
        exact ⟨m, id, umsg, rfl, rfl, hb.type, hi, rfl⟩
      · intro hreq
        obtain ⟨_, _, _, hc, ho, -, hi', rfl⟩ := hreq
        cases hc; cases ho
        exact ⟨Option.some.inj (hi.symm.trans hi'), rfl⟩
    · simpa [Tickets.step, hk] using hout r'
  · refine hidle rfl fun _ _ hq => ?_
    rcases hb.type with ht | ht <;> cases ht.symm.trans hq
  · exact hidle rfl fun _ _ hq => by cases hn.symm.trans hq
  · exact hidle rfl fun _ ho => by cases ho

/-- Seen from the received requests, a conversion is an operation on tickets. -/
theorem me_step (c : Conversion) :
    ∃ op, (env.step rpc c).1.meRequestCorrelation = (Tickets.step rpc.meRequestCorrelation op).1 ∧
      MeAgrees env rpc c (Tickets.step rpc.meRequestCorrelation op).2 := by
  cases c with
  | request umsg app =>
    refine ⟨.idle, ?_, .idle ?_ ?_⟩
    · cases h : umsgRequestToVsomeipMessage env.up env.rt env.checks umsg rpc app with
      | mk res rpc' =>
      simp only [step, h, Tickets.step]
      rcases umsgRequestToVsomeipMessage_cases h with
        ⟨_, -, rfl, -⟩ | ⟨_, _, _, -, ⟨_, -, hr⟩ | ⟨_, _, hr, ⟨_, _, -, -, rfl⟩ | ⟨_, -, -, -, rfl⟩⟩⟩
      · rfl
      all_goals exact (InMemoryRpcCorrelationRegistry.retrieveSessionId_frame hr).2
    · intro r k hgiven
      obtain ⟨_, _, _, hc, -⟩ := hgiven
      cases hc
    · intro r hgiven
      obtain ⟨_, _, hc, -⟩ := hgiven
      cases hc
  | response umsg => exact me_step_response umsg
  | inbound m id => exact me_step_inbound m id

/-- The received requests that are stored are those without a response. -/
theorem stored_iff_unanswered (env : ConversionEnv) (run : List Conversion) (r : UUID) (k : SomeIpRequestId) :
    (Runs.after env.step .new run).meRequestCorrelation r = some k ↔
      ∃ i m, Unanswered env run i m r ∧ k = m.getRequest := by
  have hstep : ∀ rpc table c, rpc.meRequestCorrelation = table → ∃ op,
      (env.step rpc c).1.meRequestCorrelation = (Tickets.step table op).1 ∧
      MeAgrees env rpc c (Tickets.step table op).2 := by
    intro rpc _ c hgiven
    subst hgiven
    exact me_step c
  obtain ⟨ops, hend, hlen, hout⟩ := Runs.simulate hstep (s := .new) (t := PartialMap.empty) rfl run
  rw [hend, Tickets.held_iff_open ops r k, Tickets.open_iff_getElem?]
  -- An output of the tickets has its conversion, and the other way round.
  have hpos : ∀ {j : ℕ} {out}, (Runs.outputs Tickets.step PartialMap.empty ops)[j]? = some out →
      ∃ c, run[j]? = some c ∧ MeAgrees env (env.before run j) c out := by
    intro j out hj
    obtain ⟨hlt, -⟩ := List.getElem?_eq_some_iff.1 hj
    have hc := List.getElem?_eq_getElem (hlen ▸ hlt)
    obtain ⟨out', hj', hag⟩ := hout j _ hc
    obtain rfl := Option.some.inj (hj.symm.trans hj')
    exact ⟨_, hc, hag⟩
  constructor
  · intro hgiven
    obtain ⟨i, hi, hr⟩ := hgiven
    obtain ⟨c, hc, hag⟩ := hpos hi
    obtain ⟨m, id, umsg, rfl, ho, ht, hid, rfl⟩ := (hag.issued r k).1 rfl
    refine ⟨i, m, ⟨⟨id, umsg, ⟨hc, ho⟩, ht, hid⟩, fun j umsg' m' hij hat hreqid => ?_⟩, rfl⟩
    obtain ⟨out, hj, hag'⟩ := hout j _ hat.1
    obtain ⟨k', rfl⟩ := (hag'.redeemed r).2 ⟨umsg', m', rfl, hat.2, hreqid⟩
    exact hr j k' hij hj
  · intro hgiven
    obtain ⟨i, m, ⟨⟨id, umsg, hat, ht, hid⟩, hno⟩, rfl⟩ := hgiven
    obtain ⟨out, hi, hag⟩ := hout i _ hat.1
    obtain rfl := (hag.issued r m.getRequest).2 ⟨m, id, umsg, rfl, hat.2, ht, hid, rfl⟩
    refine ⟨i, hi, fun j k' hij hj => ?_⟩
    obtain ⟨c, hc, hag'⟩ := hpos hj
    obtain ⟨umsg', m', rfl, ho, hreqid⟩ := (hag'.redeemed r).1 ⟨k', rfl⟩
    exact hno j umsg' m' hij ⟨hc, ho⟩ hreqid

/-- **A response goes out exactly if its request was received and not
answered**, with the client and session of that request; otherwise nothing
changes. -/
theorem responses_echo_requests (env : ConversionEnv) (run : List Conversion) (umsg : UMessage) :
    let rpc := Runs.after env.step .new run
    let sent := umsgResponseToVsomeipMessage env.up env.rt umsg rpc
    (∀ source r, umsg.attrs.source = some source → umsg.attrs.reqid = some r →
      ((∃ m, sent.1 = .ok m) ↔ ∃ i m, Unanswered env run i m r)) ∧
    (∀ m r i m', sent.1 = .ok m → umsg.attrs.reqid = some r → Unanswered env run i m' r →
      m.client = m'.client ∧ m.session = m'.session) ∧
    ∀ e, sent.1 = .error e → sent.2 = rpc := by
  intro rpc sent
  have hstored := stored_iff_unanswered env run
  rcases umsgResponseToVsomeipMessage_cases (Prod.mk.eta.symm : sent = (sent.1, sent.2)) with
    ⟨e, he, hsame, hnone⟩ | ⟨m, source, r, k, hm, hsource, hr, hk, hsplit, -, -⟩
  · have hfailed : ∀ m, sent.1 ≠ .ok m := fun m hm => by rw [he] at hm; cases hm
    refine ⟨fun source r hs hr => ⟨fun hm => absurd hm.choose_spec (hfailed _), ?_⟩,
      fun m _ _ _ hm => absurd hm (hfailed m), fun _ _ => hsame⟩
    intro hgiven
    obtain ⟨i, m, hun⟩ := hgiven
    have hk := (hstored r m.getRequest).2 ⟨i, m, hun, rfl⟩
    have hvacant : (Runs.after env.step .new run).meRequestCorrelation r = none := hnone source r hs hr
    rw [hvacant] at hk
    cases hk
  · refine ⟨fun source' r' _ hr' => ⟨fun _ => ?_, fun _ => ⟨m, hm⟩⟩, fun m' r' i m₀ hm' hr' hun => ?_,
      fun e he => by rw [hm] at he; cases he⟩
    · cases hr.symm.trans hr'
      obtain ⟨i, m₀, hun, -⟩ := (hstored r k).1 hk
      exact ⟨i, m₀, hun⟩
    · cases hr.symm.trans hr'
      cases hm.symm.trans hm'
      have hk' := (hstored r m₀.getRequest).2 ⟨i, m₀, hun, rfl⟩
      obtain rfl : k = m₀.getRequest := Option.some.inj (hk.symm.trans hk')
      rw [VsomeipMessage.getRequest, split_createRequestId] at hsplit
      exact Prod.mk.inj hsplit

end ConversionEnv

end VsomeipTransport
