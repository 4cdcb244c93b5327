/-
How many handlers the way back of requests takes.

A transport with a listener for point-to-point messages registers it for the
response to each request it sends, and finds the registration again when it
sends another one between the same two entities. Sending never gives such a
handler back. `requests_share_paths`: along every run an accepted request has a
handler for its response, and all requests take no more handlers than there are
pairs of source and sink. `paths_run_out`: so the requests that the transports
of a process get accepted are between at most 10000 pairs, and with the last
handler gone none is accepted any more.
-/
import VsomeipTransport.GetMessageHandlerFacts
import VsomeipTransport.PointToPointFacts
import VsomeipTransport.RoundTripFacts

namespace VsomeipTransport

/-- A request, by its source and sink. -/
structure UMessage.SentAsRequest (up : UpRust) (message : UMessage) (source sink : UUri) : Prop where
  fromSource : message.attrs.source = some source
  toSink : message.attrs.sink = some sink
  asRequest : determineType up source (some sink) = .ok .request

namespace Process

variable {T L : Type} [DecidableEq T] [DecidableEq L] {d : Deps} {p p' : Process T L} {t : T} {message : UMessage}
  {moments : ℕ → Moment}

/-- What the listener of a transport is registered under for the responses to
its requests. -/
def pathConfig (listener : L) (source sink : UUri) : ListenerConfig L := ⟨sink, some source, listener⟩

/-- What sending may do to the handlers: take one for the response. -/
def TakesPath (p p' : Process T L) (t : T) (listener : L) (source sink : UUri) : Prop :=
  ∃ order id maps, (p.handlers.lock t).Available order (pathConfig listener source sink) id ∧
    (p.handlers.lock t).Binds maps t (pathConfig listener source sink) id ∧ p'.handlers = p.handlers.unlock t maps

/-- A registration that finds its configuration there was refused for it. -/
theorem registerConfig_exists {cfg : ListenerConfig L} {type : RegistrationType} {now : Moment}
    {handler : MessageHandlerFnPtr}
    (h : registerConfig d p t cfg type now = (.refused (.listenerConfigAlreadyExists handler), p')) :
    ∃ id, p.handlers.Bound t id cfg := by
  unfold registerConfig at h
  split at h
  · cases h
  · next hget =>
    cases h
    exact MessageHandlers.getMessageHandler_exists hget
  · cases h

/-- A handler is taken only for a request, and one that may be sent has one. -/
theorem registerForReturningResponse_paths (hI : PoolInvariant p.handlers) {source : UUri} {sink : Option UUri}
    {type : RegistrationType} {now : Moment} {r}
    (h : registerForReturningResponse d p t source sink type now = (r, p')) :
    (p'.handlers = p.handlers ∨ ∃ listener sink', (p.transports t).pointToPointListener = some listener ∧
      type = .request ∧ sink = some sink' ∧ TakesPath p p' t listener source sink') ∧
    ((∃ b, r = .returned (.ok b)) → type = .request → ∀ listener sink', sink = some sink' →
      (p.transports t).pointToPointListener = some listener →
      ∃ id, p'.handlers.Bound t id (pathConfig listener source sink')) := by
  unfold registerForReturningResponse at h
  split at h
  · next hslot =>
    cases h
    exact ⟨.inl rfl, fun _ _ _ _ _ hl => by rw [hslot] at hl; cases hl⟩
  next listener hslot =>
  split at h
  · next hreq =>
    cases h
    exact ⟨.inl rfl, fun _ ht => absurd ht hreq⟩
  next hreq =>
  have hreq : type = .request := not_not.1 hreq
  split at h
  · cases h
    refine ⟨.inl rfl, fun hok => ?_⟩
    obtain ⟨b, hb⟩ := hok
    cases hb
  next sink' =>
  cases hreg : registerConfig d p t ⟨sink', some source, listener⟩ .response now with
  | mk reg p₁ =>
  rw [hreg] at h
  rcases registerConfig_cases hI hreg with ⟨e, rfl, rfl⟩ | ⟨fn, maps, answer, engine, rfl, ha, hb, -, hp₁⟩
  · cases e with
    | listenerConfigAlreadyExists handler =>
      cases h
      refine ⟨.inl rfl, fun _ _ listener' sink'' hs hl => ?_⟩
      rw [hslot] at hl
      cases hl
      cases hs
      exact registerConfig_exists hreg
    | listenerIdAlreadyExists id =>
      cases h
      refine ⟨.inl rfl, fun hok => ?_⟩
      obtain ⟨b, hb⟩ := hok
      cases hb
    | otherError s =>
      cases h
      refine ⟨.inl rfl, fun hok => ?_⟩
      obtain ⟨b, hb⟩ := hok
      cases hb
  · have hp' : p' = p₁ := by
      simp only at h
      split at h
      · cases h; rfl
      · cases h; rfl
      · cases h; rfl
    have hhandlers : p'.handlers = p.handlers.unlock t maps := by rw [hp', hp₁]
    refine ⟨.inr ⟨listener, sink', hslot, hreq, rfl, now.order, fn.id, maps, ha, hb, hhandlers⟩, ?_⟩
    intro _ _ listener' sink'' hs hl
    rw [hslot] at hl
    cases hl
    cases hs
    refine ⟨fn.id, ?_⟩
    rw [hhandlers]
    exact (MessageHandlers.bound_of_binds hb).2 (by simp [pathConfig])

/-- **What sending does to the handlers.** -/
theorem send_paths (hI : PoolInvariant p.handlers) {r} (h : send d p t message moments = (r, p')) :
    (p'.handlers = p.handlers ∨ ∃ listener source sink, (p.transports t).pointToPointListener = some listener ∧
      message.SentAsRequest d.up source sink ∧ TakesPath p p' t listener source sink) ∧
    (r = .returned (.ok ()) → ∀ listener source sink, (p.transports t).pointToPointListener = some listener →
      message.SentAsRequest d.up source sink → ∃ id, p'.handlers.Bound t id (pathConfig listener source sink)) := by
  unfold send at h
  split at h
  · cases h
    exact ⟨.inl rfl, fun hr => by cases hr⟩
  next attributes hattrs =>
  have hattrs' : message.attrs = attributes := by simp [UMessage.attrs, hattrs]
  split at h
  · cases h
    exact ⟨.inl rfl, fun hr => by cases hr⟩
  split at h
  · cases h
    exact ⟨.inl rfl, fun hr => by cases hr⟩
  next source hsource =>
  split at h
  · cases h
    exact ⟨.inl rfl, fun hr => by cases hr⟩
  next type htype =>
  -- A handler that is taken is one for the request that is sent.
  have htakes : ∀ {p₁ : Process T L}, (p₁.handlers = p.handlers ∨ ∃ listener sink',
      (p.transports t).pointToPointListener = some listener ∧ type = .request ∧ attributes.sink = some sink' ∧
        TakesPath p p₁ t listener source sink') → p₁.handlers = p.handlers ∨ ∃ listener source sink,
      (p.transports t).pointToPointListener = some listener ∧ message.SentAsRequest d.up source sink ∧
        TakesPath p p₁ t listener source sink := by
    intro p₁ hgiven
    rcases hgiven with hsame | ⟨listener, sink', hslot, rfl, hsink, htakes⟩
    · exact .inl hsame
    · rw [hsink] at htype
      exact .inr ⟨listener, source, sink', hslot, ⟨hattrs' ▸ hsource, hattrs' ▸ hsink, htype⟩, htakes⟩
  split at h
  · next hreg =>
    cases h
    exact ⟨htakes (registerForReturningResponse_paths hI hreg).1, fun hr => by cases hr⟩
  · next hreg =>
    cases h
    exact ⟨htakes (registerForReturningResponse_paths hI hreg).1, fun hr => by cases hr⟩
  · next p₁ hreg =>
    obtain ⟨hone, hbound⟩ := registerForReturningResponse_paths hI hreg
    simp only [Prod.mk.injEq] at h
    obtain ⟨-, rfl⟩ := h
    refine ⟨htakes hone, fun _ listener source' sink hslot hrequest => ?_⟩
    have hs : source' = source := by
      have := hrequest.fromSource
      rw [hattrs', hsource] at this
      exact (Option.some.inj this).symm
    subst hs
    have hsink : attributes.sink = some sink := hattrs' ▸ hrequest.toSink
    have hreq : type = .request := by
      have := hrequest.asRequest
      rw [← hsink, htype] at this
      exact Except.ok.inj this
    exact hbound ⟨_, rfl⟩ hreq listener sink hsink hslot

/-! ## Runs -/

/-- A request between them is sent. -/
def Sends (d : Deps) (es : List (Later T)) (t : T) (source sink : UUri) : Prop :=
  ∃ message moments, .send t message moments ∈ es ∧ message.SentAsRequest d.up source sink

/-- It is sent, and accepted. -/
def Accepted (d : Deps) (p : Process T L) (es : List (Later T)) (t : T) (source sink : UUri) : Prop :=
  ∃ es₁ message moments es₂, es = es₁ ++ .send t message moments :: es₂ ∧ message.SentAsRequest d.up source sink ∧
    (send d (es₁.foldl (laterStep d) p) t message moments).1 = .returned (.ok ())

/-- What a run does to the handlers: what is bound stays, what is new is for the
response to a request, and a request that is accepted has one. -/
structure TakesPaths (d : Deps) (p : Process T L) (es : List (Later T)) (p' : Process T L) : Prop where
  pool : PoolInvariant p'.handlers
  stays : ∀ t id cfg, p.handlers.Bound t id cfg → p'.handlers.Bound t id cfg
  taken : ∀ t id cfg, p'.handlers.Bound t id cfg → p.handlers.Bound t id cfg ∨ ∃ listener source sink,
    (p.transports t).pointToPointListener = some listener ∧ Sends d es t source sink ∧
      cfg = pathConfig listener source sink
  accepted : ∀ t listener source sink, (p.transports t).pointToPointListener = some listener →
    Accepted d p es t source sink → ∃ id, p'.handlers.Bound t id (pathConfig listener source sink)

theorem Accepted.cons {e : Later T} {es : List (Later T)} {source sink : UUri}
    (h : Accepted d p (e :: es) t source sink) :
    Accepted d p [e] t source sink ∨ Accepted d (laterStep d p e) es t source sink := by
  obtain ⟨es₁, message, moments, es₂, he, hrequest, hok⟩ := h
  cases es₁ with
  | nil =>
    simp only [List.nil_append, List.cons.injEq] at he
    obtain ⟨rfl, -⟩ := he
    exact .inl ⟨[], message, moments, [], rfl, hrequest, hok⟩
  | cons e' es₁ =>
    simp only [List.cons_append, List.cons.injEq] at he
    obtain ⟨rfl, rfl⟩ := he
    exact .inr ⟨es₁, message, moments, es₂, rfl, hrequest, hok⟩

/-- A step that binds nothing. -/
theorem TakesPaths.of_handlers {e : Later T} (hI : PoolInvariant p.handlers) (h : p'.handlers = p.handlers)
    (hno : ∀ t source sink, ¬ Accepted d p [e] t source sink) : TakesPaths d p [e] p' where
  pool := by rwa [h]
  stays t id cfg hb := by rwa [h]
  taken t id cfg hb := by rw [h] at hb; exact .inl hb
  accepted t listener source sink _ ha := absurd ha (hno t source sink)

theorem laterStep_takes (hI : PoolInvariant p.handlers) (e : Later T) : TakesPaths d p [e] (laterStep d p e) := by
  have hno : ∀ {t' : T} {source sink : UUri} (_ : Accepted d p [e] t' source sink), ∃ message moments,
      e = .send t' message moments ∧ message.SentAsRequest d.up source sink ∧
        (send d p t' message moments).1 = .returned (.ok ()) := by
    intro t' source sink h
    obtain ⟨es₁, message, moments, es₂, he, hrequest, hok⟩ := h
    cases es₁ with
    | nil =>
      cases he
      exact ⟨message, moments, rfl, hrequest, hok⟩
    | cons _ es₁ => simp at he
  cases e with
  | engineTurn t =>
    refine .of_handlers hI rfl fun t' source sink h => ?_
    obtain ⟨_, _, he, -⟩ := hno h
    cases he
  | applicationLost t =>
    refine .of_handlers hI rfl fun t' source sink h => ?_
    obtain ⟨_, _, he, -⟩ := hno h
    cases he
  | send t message moments =>
    show TakesPaths d p _ (send d p t message moments).2
    cases hsend : send d p t message moments with
    | mk r p' =>
    obtain ⟨hone, hbound⟩ := send_paths hI hsend
    have haccepted : ∀ t' listener source sink, (p.transports t').pointToPointListener = some listener →
        Accepted d p [.send t message moments] t' source sink →
        ∃ id, p'.handlers.Bound t' id (pathConfig listener source sink) := by
      intro t' listener source sink hslot h
      obtain ⟨_, _, he, hrequest, hok⟩ := hno h
      cases he
      rw [hsend] at hok
      exact hbound hok listener source sink hslot hrequest
    rcases hone with hsame | ⟨listener, source, sink, hslot, hrequest, order, id, maps, ha, hb, hp'⟩
    · refine ⟨by rwa [hsame], fun t' id cfg hbd => by rwa [hsame], fun t' id cfg hbd => ?_, haccepted⟩
      rw [hsame] at hbd
      exact .inl hbd
    · have hfree : id ∈ p.handlers.freeMessageHandlerIds := order.next_mem ha.picked
      have hI' : PoolInvariant p'.handlers := hp' ▸ MessageHandlers.pool_of_binds hI ha hb
      refine ⟨hI', fun t' id' cfg hbd => ?_, fun t' id' cfg hbd => ?_, haccepted⟩
      · have hother : ¬ (t' = t ∧ id' = id) := fun hc => hI.disjoint hbd (hc.2 ▸ hfree)
        rw [hp', MessageHandlers.bound_of_binds hb, if_neg hother]
        exact hbd
      · rw [hp', MessageHandlers.bound_of_binds hb] at hbd
        split at hbd
        · next hthis =>
          obtain ⟨rfl, rfl⟩ := hthis
          exact .inr ⟨listener, source, sink, hslot, ⟨message, moments, by simp, hrequest⟩, hbd⟩
        · exact .inl hbd

/-- **What a run of sends takes.** -/
theorem run_takes (hI : PoolInvariant p.handlers) (es : List (Later T)) :
    TakesPaths d p es (es.foldl (laterStep d) p) := by
  induction es generalizing p with
  | nil =>
    refine ⟨hI, fun t id cfg hb => hb, fun t id cfg hb => .inl hb, fun t listener source sink _ h => ?_⟩
    obtain ⟨es₁, _, _, _, he, -⟩ := h
    simp at he
  | cons e es ih =>
    rw [List.foldl_cons]
    have hone := laterStep_takes (d := d) hI e
    have hrest := ih hone.pool
    -- The listener that is registered stays the same.
    have hslot : ∀ t, ((laterStep d p e).transports t).pointToPointListener = (p.transports t).pointToPointListener :=
      fun t => congrArg Prod.snd (congrFun (later_kept [e]) t)
    refine ⟨hrest.pool, fun t id cfg hb => hrest.stays t id cfg (hone.stays t id cfg hb), fun t id cfg hb => ?_,
      fun t listener source sink hl h => ?_⟩
    · rcases hrest.taken t id cfg hb with hb | ⟨listener, source, sink, hl, ⟨message, moments, hm, hrequest⟩, hcfg⟩
      · rcases hone.taken t id cfg hb with hb | ⟨listener, source, sink, hl, ⟨message, moments, hm, hrequest⟩, hcfg⟩
        · exact .inl hb
        · obtain rfl := List.mem_singleton.1 hm
          exact .inr ⟨listener, source, sink, hl, ⟨message, moments, by simp, hrequest⟩, hcfg⟩
      · exact .inr ⟨listener, source, sink, (hslot t).symm.trans hl, ⟨message, moments, by simp [hm], hrequest⟩, hcfg⟩
    · rcases h.cons with h | h
      · obtain ⟨id, hb⟩ := hone.accepted t listener source sink hl h
        exact ⟨id, hrest.stays t id _ hb⟩
      · exact hrest.accepted t listener source sink ((hslot t).trans hl) h

/-! ## How many there are -/

omit [DecidableEq L] in
/-- A configuration tells its path. -/
theorem pathConfig_inj {listener listener' : L} {source source' sink sink' : UUri}
    (h : pathConfig listener source sink = pathConfig listener' source' sink') : source = source' ∧ sink = sink' := by
  simp only [pathConfig, ListenerConfig.mk.injEq, Option.some.injEq] at h
  exact ⟨h.2.1, h.1⟩

/-- There is a handler for its response. -/
def HasPath (p : Process T L) (x : T × UUri × UUri) (id : MessageHandlerId) : Prop :=
  ∃ listener, (p.transports x.1).pointToPointListener = some listener ∧
    p.handlers.Bound x.1 id (pathConfig listener x.2.1 x.2.2)

omit [DecidableEq T] [DecidableEq L] in
theorem HasPath.id_unique {x : T × UUri × UUri} {id id' : MessageHandlerId} (h : p.HasPath x id)
    (h' : p.HasPath x id') : id = id' := by
  obtain ⟨listener, hl, hb⟩ := h
  obtain ⟨listener', hl', hb'⟩ := h'
  rw [hl] at hl'
  cases hl'
  exact BiMap.left_unique hb hb'

omit [DecidableEq T] [DecidableEq L] in
theorem HasPath.path_unique (hI : PoolInvariant p.handlers) {x x' : T × UUri × UUri} {id : MessageHandlerId}
    (h : p.HasPath x id) (h' : p.HasPath x' id) : x = x' := by
  obtain ⟨t, source, sink⟩ := x
  obtain ⟨t', source', sink'⟩ := x'
  obtain ⟨listener, -, hb⟩ := h
  obtain ⟨listener', -, hb'⟩ := h'
  obtain rfl : t = t' := hI.bound_once hb hb'
  obtain ⟨rfl, rfl⟩ := pathConfig_inj (Option.some.inj (hb.symm.trans hb'))
  rfl

omit [DecidableEq T] [DecidableEq L] in
/-- Two paths never have one handler. -/
theorem paths_card_le (hI : PoolInvariant p.handlers) (paths : Finset (T × UUri × UUri))
    (hall : ∀ x ∈ paths, ∃ id, p.HasPath x id) :
    paths.card + p.handlers.freeMessageHandlerIds.card ≤ numMessageHandlers := by
  choose id hid using hall
  let ids : Finset MessageHandlerId := paths.attach.image fun x => id x.1 x.2
  have hcard : ids.card = paths.card := by
    rw [Finset.card_image_of_injective, Finset.card_attach]
    intro x y hxy
    have hy : p.HasPath y.1 (id x.1 x.2) := by
      simp only at hxy
      rw [hxy]
      exact hid y.1 y.2
    exact Subtype.ext ((hid x.1 x.2).path_unique hI hy)
  have hbound : ∀ i ∈ ids, ∃ t cfg, p.handlers.Bound t i cfg := by
    intro i hi
    obtain ⟨x, -, rfl⟩ := Finset.mem_image.1 hi
    obtain ⟨listener, -, hb⟩ := hid x.1 x.2
    exact ⟨_, _, hb⟩
  have hdisjoint : Disjoint ids p.handlers.freeMessageHandlerIds := by
    rw [Finset.disjoint_left]
    intro i hi
    obtain ⟨t, cfg, hb⟩ := hbound i hi
    exact hI.disjoint hb
  have hrange : ids ∪ p.handlers.freeMessageHandlerIds ⊆ Finset.range numMessageHandlers := by
    intro i hi
    rw [Finset.mem_range, hI.ids]
    rcases Finset.mem_union.1 hi with hi | hi
    · exact .inr (hbound i hi)
    · exact .inl hi
  have hle := Finset.card_le_card hrange
  rw [Finset.card_union_of_disjoint hdisjoint, Finset.card_range, hcard] at hle
  exact hle

/-- A run takes no more handlers than there are paths. -/
theorem TakesPaths.card_le {es : List (Later T)} (hI : PoolInvariant p.handlers) (h : TakesPaths d p es p')
    (hkept : p'.kept = p.kept) (paths : Finset (T × UUri × UUri))
    (hall : ∀ t source sink, (p.transports t).pointToPointListener.isSome → Sends d es t source sink →
      (t, source, sink) ∈ paths) :
    p.handlers.freeMessageHandlerIds.card ≤ p'.handlers.freeMessageHandlerIds.card + paths.card := by
  have hpath : ∀ id ∈ p.handlers.freeMessageHandlerIds \ p'.handlers.freeMessageHandlerIds,
      ∃ x ∈ paths, p'.HasPath x id := by
    intro id hid
    obtain ⟨hfree, hgone⟩ := Finset.mem_sdiff.1 hid
    obtain ⟨t, cfg, hb⟩ := ((h.pool.ids id).1 ((hI.ids id).2 (.inl hfree))).resolve_left hgone
    rcases h.taken t id cfg hb with hb | ⟨listener, source, sink, hl, hsends, rfl⟩
    · exact absurd hfree (hI.disjoint hb)
    · have hl' : (p'.transports t).pointToPointListener = some listener :=
        (congrArg Prod.snd (congrFun hkept t)).trans hl
      exact ⟨(t, source, sink), hall t source sink (by rw [hl]; rfl) hsends, listener, hl', hb⟩
  have hle : (p.handlers.freeMessageHandlerIds \ p'.handlers.freeMessageHandlerIds).card ≤ paths.card := by
    choose path hmem hhas using hpath
    rw [← Finset.card_attach]
    refine Finset.card_le_card_of_injOn (fun id => path id.1 id.2) (fun id _ => hmem id.1 id.2) fun id _ id' _ he => ?_
    have hthis : p'.HasPath (path id.1 id.2) id'.1 := by
      simp only at he
      rw [he]
      exact hhas id'.1 id'.2
    exact Subtype.ext ((hhas id.1 id.2).id_unique hthis)
  have hsplit := Finset.card_le_card_sdiff_add_card (s := p.handlers.freeMessageHandlerIds)
    (t := p'.handlers.freeMessageHandlerIds)
  omega

omit [DecidableEq T] [DecidableEq L] in
theorem hasPath_of_kept (hkept : p'.kept = p.kept) {listener : L} {source sink : UUri} {id : MessageHandlerId}
    (hl : (p.transports t).pointToPointListener = some listener)
    (hb : p'.handlers.Bound t id (pathConfig listener source sink)) : p'.HasPath (t, source, sink) id :=
  ⟨listener, (congrArg Prod.snd (congrFun hkept t)).trans hl, hb⟩

/-! ## When none is left -/

/-- With an empty pool a request is refused, also one that has a handler for its
response: the pool is looked at first. -/
theorem send_exhausted (hI : PoolInvariant p.handlers) (hnone : p.handlers.freeMessageHandlerIds = ∅)
    (hslot : (p.transports t).pointToPointListener.isSome) {source sink : UUri}
    (hrequest : message.SentAsRequest d.up source sink) (moments : ℕ → Moment) :
    ∃ err, send d p t message moments = (.returned (.error err), p) := by
  obtain ⟨listener, hslot⟩ := Option.isSome_iff_exists.1 hslot
  obtain ⟨hfrom, hto, htype⟩ := hrequest
  have hregister : ∃ err, registerForReturningResponse d p t source (some sink) .request (moments 0) =
      (.returned (.error err), p) := by
    unfold registerForReturningResponse registerConfig
    simp only [hslot, ne_eq, not_true_eq_false, if_false]
    cases hget : p.handlers.getMessageHandler d.up (moments 0).order t t ⟨sink, some source, listener⟩ with
    | mk res handlers =>
    rcases MessageHandlers.getMessageHandler_pool hI hget with
      ⟨fn, _, -, ha, -⟩ | ⟨fn, _, rfl, -⟩ | ⟨err, rfl, -, rfl⟩
    · have hfree : fn.id ∈ p.handlers.freeMessageHandlerIds := (moments 0).order.next_mem ha.picked
      rw [hnone] at hfree
      simp at hfree
    · have hoffered := (MessageHandlers.duplicate_offered hget).1
      have hfree := (moments 0).order.next_mem hoffered
      rw [hnone] at hfree
      simp at hfree
    · exact ⟨_, rfl⟩
  obtain ⟨err, hregister⟩ := hregister
  unfold send
  split
  · exact ⟨_, rfl⟩
  next attributes hattrs =>
  have hattrs' : message.attrs = attributes := by simp [UMessage.attrs, hattrs]
  rw [hattrs'] at hfrom hto
  split
  · exact ⟨_, rfl⟩
  simp only [hfrom, hto, htype, hregister]
  exact ⟨_, rfl⟩

/-- A pool that is empty stays empty. -/
theorem TakesPaths.exhausted {es : List (Later T)} (hI : PoolInvariant p.handlers) (h : TakesPaths d p es p')
    (hnone : p.handlers.freeMessageHandlerIds = ∅) : p'.handlers.freeMessageHandlerIds = ∅ := by
  rw [Finset.eq_empty_iff_forall_notMem]
  intro id hfree
  have hbound := (hI.ids id).1 ((h.pool.ids id).2 (.inl hfree))
  rw [hnone] at hbound
  rcases hbound with hid | ⟨t, cfg, hb⟩
  · simp at hid
  · exact h.pool.disjoint (h.stays t id cfg hb) hfree

/-! ## The handlers of a whole run -/

/-- **Requests between the same two entities share a handler**: an accepted
request has one for its response, and only one, and all requests together take
no more handlers than there are transports with a listener, sources and
sinks. -/
theorem requests_share_paths (hr : p.handlers.Reachable d.up) (es : List (Later T)) :
    let p' := es.foldl (laterStep d) p
    (∀ t listener source sink, (p.transports t).pointToPointListener = some listener →
      Accepted d p es t source sink → ∃! id, p'.handlers.Bound t id (pathConfig listener source sink)) ∧
    (∀ t id cfg, p'.handlers.Bound t id cfg → p.handlers.Bound t id cfg ∨ ∃ listener source sink,
      (p.transports t).pointToPointListener = some listener ∧ Sends d es t source sink ∧
        cfg = pathConfig listener source sink) ∧
    ∀ paths : Finset (T × UUri × UUri),
      (∀ t source sink, (p.transports t).pointToPointListener.isSome → Sends d es t source sink →
        (t, source, sink) ∈ paths) →
      p.handlers.freeMessageHandlerIds.card ≤ p'.handlers.freeMessageHandlerIds.card + paths.card := by
  intro p'
  have htakes : TakesPaths d p es p' := run_takes hr.pool es
  refine ⟨fun t listener source sink hl haccepted => ?_, htakes.taken, htakes.card_le hr.pool (later_kept es)⟩
  obtain ⟨id, hb⟩ := htakes.accepted t listener source sink hl haccepted
  exact ⟨id, hb, fun id' hb' => BiMap.left_unique hb' hb⟩

/-- **A process has handlers for the responses of 10000 pairs at most**: those
whose requests were accepted, of all transports together, and the handlers that
are free are no more than 10000. Once none is free no request of a transport
with a listener is accepted again, also not between a pair that has one. -/
theorem paths_run_out (hr : p.handlers.Reachable d.up) (es : List (Later T)) (paths : Finset (T × UUri × UUri))
    (hall : ∀ x ∈ paths, (p.transports x.1).pointToPointListener.isSome ∧ Accepted d p es x.1 x.2.1 x.2.2) :
    let p' := es.foldl (laterStep d) p
    paths.card + p'.handlers.freeMessageHandlerIds.card ≤ numMessageHandlers ∧
    (p'.handlers.freeMessageHandlerIds = ∅ → ∀ (es' : List (Later T)) t message source sink moments,
      (p.transports t).pointToPointListener.isSome → message.SentAsRequest d.up source sink →
      let q := es'.foldl (laterStep d) p'
      ∃ err, send d q t message moments = (.returned (.error err), q)) := by
  intro p'
  have htakes : TakesPaths d p es p' := run_takes hr.pool es
  have hkept : p'.kept = p.kept := later_kept es
  refine ⟨paths_card_le htakes.pool paths fun x hx => ?_,
    fun hnone es' t message source sink moments hslot hrequest => ?_⟩
  · obtain ⟨hslot, haccepted⟩ := hall x hx
    obtain ⟨listener, hl⟩ := Option.isSome_iff_exists.1 hslot
    obtain ⟨id, hb⟩ := htakes.accepted x.1 listener x.2.1 x.2.2 hl haccepted
    exact ⟨id, hasPath_of_kept hkept hl hb⟩
  · have hrest : TakesPaths d p' es' (es'.foldl (laterStep d) p') := run_takes htakes.pool es'
    have hslot' : ((es'.foldl (laterStep d) p').transports t).pointToPointListener.isSome := by
      have hsame := congrArg Prod.snd (congrFun ((later_kept (d := d) es').trans hkept) t)
      simp only [kept] at hsame
      rwa [hsame]
    exact send_exhausted hrest.pool (hrest.exhausted htakes.pool hnone) hslot' hrequest moments

/-- A transport with a listener for point-to-point messages. -/
def sampleListening : Process Unit Unit := (sample : Process Unit Unit).withListener () ()

theorem sampleListening_reachable : sampleListening.handlers.Reachable Deps.accepting.up := ⟨[], rfl⟩

theorem sampleCall_sent : sampleCall.SentAsRequest Deps.accepting.up ⟨"me", 5, 1, 0⟩ ⟨"foo", 0x20001, 3, 1⟩ :=
  ⟨rfl, rfl, by decide⟩

/-- An idle engine registers the listener for the response. -/
theorem registerForReturningResponse_idle {listener : L} {source sink : UUri} {now : Moment} {id : MessageHandlerId}
    (hslot : (p.transports t).pointToPointListener = some listener) (hidle : (p.transports t).engine.Idle)
    (htime : now.inTime = true) (ha : (p.handlers.lock t).Available now.order (pathConfig listener source sink) id)
    (hid : id < numMessageHandlers) :
    ∃ p₁, registerForReturningResponse d p t source (some sink) .request now = (.returned (.ok true), p₁) ∧
      (p₁.transports t).engine = ⟨(processCommand d (p.transports t).engine.state
        (.registerListener sink (some source) .response ⟨id, hid⟩)).2, true, []⟩ := by
  obtain ⟨maps, answer, engine, -, hask, hreg⟩ := registerConfig_available d .response ha hid
  obtain ⟨res, hres, hidle'⟩ := Engine.ask_idle d (.registerListener sink (some source) .response ⟨id, hid⟩)
    hidle.running hidle.queue (by simp)
  rw [htime] at hask
  obtain ⟨rfl, rfl⟩ := Prod.mk.inj (hask.symm.trans hidle')
  obtain rfl : res = .ok () := (processCommand_register (Prod.ext hres rfl)).2 ⟨hidle.application, _, rfl⟩
  obtain ⟨p₁, hp₁, hreg⟩ : ∃ p₁, (p₁.transports t).engine = ⟨(processCommand d (p.transports t).engine.state
        (.registerListener sink (some source) .response ⟨id, hid⟩)).2, true, []⟩ ∧
      registerConfig d p t ⟨sink, some source, listener⟩ .response now = (.asked (.replied (.ok ())), p₁) :=
    ⟨_, by simp only [setEngine_engine, if_true], hreg⟩
  refine ⟨p₁, ?_, hp₁⟩
  simp [registerForReturningResponse, hslot, hreg, awaitEngine]

/-- Its request is accepted wherever a handler is offered. -/
theorem sampleCall_accepted {p : Process Unit Unit}
    (hengine : (p.transports ()).engine = ((sample : Process Unit Unit).transports ()).engine)
    (hslot : (p.transports ()).pointToPointListener = some ())
    (ha : (p.handlers.lock ()).Available .least (pathConfig () ⟨"me", 5, 1, 0⟩ ⟨"foo", 0x20001, 3, 1⟩) 0) :
    (send .accepting p () sampleCall fun _ => .first).1 = .returned (.ok ()) := by
  have hidle : (p.transports ()).engine.Idle := by
    rw [hengine]
    exact sample_idle
  have htime : Moment.first.inTime = true := rfl
  obtain ⟨p₁, hregister, hengine₁⟩ := registerForReturningResponse_idle (d := .accepting) hslot hidle htime ha
    (by decide)
  have hask : ((p₁.transports ()).engine.ask .accepting (.send sampleCall) true).1 = .replied (.ok ()) := by
    rw [hengine₁, hengine]
    rfl
  have htype : determineType Deps.accepting.up ⟨"me", 5, 1, 0⟩ (some ⟨"foo", 0x20001, 3, 1⟩) = .ok .request := by decide
  have hvalid : ∀ attributes, Deps.accepting.up.validate attributes = .ok () := fun _ => rfl
  simp only [send, sampleCall, hvalid, htype, hregister, ask]
  simp only [sampleCall] at hask
  simp only [Moment.first, hask]
  rfl

theorem sampleListening_accepts (es : List (Later Unit)) :
    Accepted .accepting sampleListening (.send () sampleCall (fun _ => .first) :: es) ()
      ⟨"me", 5, 1, 0⟩ ⟨"foo", 0x20001, 3, 1⟩ := by
  refine ⟨[], sampleCall, _, es, rfl, sampleCall_sent, ?_⟩
  have hhandlers : sampleListening.handlers = MessageHandlers.new := rfl
  have ha := MessageHandlers.available_new () (pathConfig () ⟨"me", 5, 1, 0⟩ ⟨"foo", 0x20001, 3, 1⟩)
  rw [← hhandlers] at ha
  rw [List.foldl_nil]
  exact sampleCall_accepted rfl rfl ha

/-- Two requests between one pair take one handler. -/
theorem requests_share_paths_sample : ∃ p', p' = [Later.send () sampleCall fun _ => .first,
      .send () sampleCall fun _ => .first].foldl (laterStep .accepting) sampleListening ∧
    (∃! id, p'.handlers.Bound () id (pathConfig () ⟨"me", 5, 1, 0⟩ ⟨"foo", 0x20001, 3, 1⟩)) ∧
    sampleListening.handlers.freeMessageHandlerIds.card ≤ p'.handlers.freeMessageHandlerIds.card + 1 := by
  obtain ⟨es, hes⟩ : ∃ es : List (Later Unit), es = [.send () sampleCall fun _ => .first,
    .send () sampleCall fun _ => .first] := ⟨_, rfl⟩
  rw [← hes]
  obtain ⟨hone, -, hcard⟩ := requests_share_paths (d := .accepting) sampleListening_reachable es
  refine ⟨_, rfl, hone () () _ _ rfl (hes ▸ sampleListening_accepts _), ?_⟩
  have hpair : ∀ t source sink, (sampleListening.transports t).pointToPointListener.isSome →
      Sends .accepting es t source sink →
      (t, source, sink) ∈ ({((), ⟨"me", 5, 1, 0⟩, ⟨"foo", 0x20001, 3, 1⟩)} : Finset (Unit × UUri × UUri)) := by
    intro t source sink _ hsends
    obtain ⟨message, moments, hm, hrequest⟩ := hsends
    have hmessage : message = sampleCall := by
      simp only [hes, List.mem_cons, Later.send.injEq, List.not_mem_nil, or_false, or_self] at hm
      exact hm.2.1
    subst hmessage
    cases hrequest.fromSource
    cases hrequest.toSink
    exact Finset.mem_singleton_self _
  have hle := hcard _ hpair
  rwa [Finset.card_singleton] at hle

theorem paths_run_out_sample :
    1 + ([Later.send () sampleCall fun _ => .first].foldl (laterStep .accepting)
      sampleListening).handlers.freeMessageHandlerIds.card ≤ numMessageHandlers := by
  have hone : ∀ x ∈ ({((), ⟨"me", 5, 1, 0⟩, ⟨"foo", 0x20001, 3, 1⟩)} : Finset (Unit × UUri × UUri)),
      (sampleListening.transports x.1).pointToPointListener.isSome ∧
      Accepted .accepting sampleListening [.send () sampleCall fun _ => .first] x.1 x.2.1 x.2.2 := by
    intro x hx
    obtain rfl := Finset.mem_singleton.1 hx
    exact ⟨rfl, sampleListening_accepts _⟩
  have hle := (paths_run_out sampleListening_reachable [.send () sampleCall fun _ => .first] _ hone).1
  rwa [Finset.card_singleton] at hle

end Process

end VsomeipTransport
