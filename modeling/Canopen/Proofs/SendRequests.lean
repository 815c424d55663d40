import Canopen.Proofs.DoubleBuffering

/-! # Requests for a transmission

A transmit PDO holds one request for a transmission, however often it is made: by the application, by
a change of state, and by the end of the event time if the PDO is event driven (`Triggers`).  Handing
the PDO to the transport answers the request, whether the frame is accepted or not, and while the PDO
is valid on an operational node nothing else takes the request back.  So there is a request exactly if
something has triggered one since the PDO was handed to the transport last (`requested_run`), and
`attempted_iff_asked` says at which ticks it is answered. -/

namespace Canopen

/-! ### The request of a PDO -/

namespace Tpdo

/-- The event time of an event driven PDO is over. -/
structure Expires (t : Tpdo) : Prop where
  eventDriven : t.params.transmissionType.isEventDriven = true
  eventTime : t.eventTime ≠ 0
  eventTimer : t.eventTimer = 0

theorem sendRequested_noticeChange (t : Tpdo) (objects : Dictionary) :
    (Device.noticeChange t objects).sendRequested = true ↔
      t.sendRequested = true ∨ t.isChangeOfState objects = true := by
  unfold Device.noticeChange
  cases hrequested : t.sendRequested with
  | true => simp [hrequested]
  | false =>
      cases t.isChangeOfState objects with
      | true => simp [requestSend]
      | false => simp [hrequested]

theorem eventTimer_noticeChange (t : Tpdo) (objects : Dictionary) :
    (Device.noticeChange t objects).eventTimer = t.eventTimer := by
  unfold Device.noticeChange
  split
  · rfl
  · rfl

theorem expires_noticeChange (t : Tpdo) (objects : Dictionary) :
    (Device.noticeChange t objects).Expires ↔ t.Expires := by
  have hs := t.sameSetup_noticeChange objects
  have htimer := t.eventTimer_noticeChange objects
  constructor
  · rintro ⟨htype, htime, hzero⟩
    rw [hs.params] at htype
    rw [hs.eventTime] at htime
    exact ⟨htype, htime, htimer.symm.trans hzero⟩
  · rintro ⟨htype, htime, hzero⟩
    refine ⟨?_, ?_, htimer.trans hzero⟩
    · rwa [hs.params]
    · rwa [hs.eventTime]

theorem isDemanded_iff {t : Tpdo} (htype : t.params.transmissionType.isEventDriven = true) :
    t.isDemanded = true ↔ t.sendRequested = true ∨ t.Expires := by
  unfold isDemanded
  rw [Bool.or_eq_true, Bool.and_eq_true, bne_iff_ne, beq_iff_eq]
  exact or_congr_right ⟨fun h => ⟨htype, h.1, h.2⟩, fun h => ⟨h.eventTime, h.eventTimer⟩⟩

theorem sendRequested_settle (t : Tpdo) (outcome : Transmission) (elapsed : Micros) :
    (t.settle outcome elapsed).sendRequested = t.sendRequested := by
  unfold settle restartTimers
  split
  · split
    · rfl
    · rfl
  · rfl

theorem not_expires {t : Tpdo} (htype : t.params.transmissionType.isEventDriven = false) :
    ¬ t.Expires := fun h => Bool.false_ne_true (htype.symm.trans h.eventDriven)

theorem schedule_synchronous {t : Tpdo} (hv : t.valid = true)
    (htype : t.params.transmissionType.isEventDriven = false) (sync : SyncState)
    (syncOccurred : Bool) : t.schedule sync syncOccurred .operational =
      if syncOccurred then
        if t.params.transmissionType = 0 then (t.sendRequested, t)
        else ((t.countSync sync).1, { t with syncCounter := (t.countSync sync).2 })
      else (false, t) := by
  have hactive : (t.valid && NmtState.operational == .operational) = true := by
    rw [hv]
    rfl
  unfold schedule
  dsimp only
  rw [if_pos hactive, htype, if_neg Bool.false_ne_true]

/-- The end of the event time is a request too. -/
theorem sendRequested_schedule {t : Tpdo} (hv : t.valid = true) (sync : SyncState)
    (syncOccurred : Bool) : (t.schedule sync syncOccurred .operational).2.sendRequested = true ↔
      t.sendRequested = true ∨ t.Expires := by
  cases htype : t.params.transmissionType.isEventDriven with
  | true =>
      rw [schedule_eventDriven hv htype]
      exact isDemanded_iff htype
  | false =>
      rw [schedule_synchronous hv htype, or_iff_left (not_expires htype)]
      split
      · split
        · exact Iff.rfl
        · exact Iff.rfl
      · exact Iff.rfl

/-- A request is kept until the PDO is handed to the transport. -/
theorem sendRequested_process {σ : Type} [Transport σ] (t : Tpdo) (objects : Dictionary)
    (sync : SyncState) (syncOccurred : Bool) (elapsed : Micros) (nmt : NmtState) (link : σ) :
    (t.process objects sync syncOccurred elapsed nmt link).2.1.sendRequested = true ↔
      (t.process objects sync syncOccurred elapsed nmt link).1 = .idle ∧
        (t.schedule sync syncOccurred nmt).2.sendRequested = true := by
  unfold process
  generalize t.schedule sync syncOccurred nmt = scheduled
  obtain ⟨due, t₁⟩ := scheduled
  dsimp only
  rw [sendRequested_settle]
  cases due with
  | false => exact ⟨fun h => ⟨rfl, h⟩, fun h => h.2⟩
  | true =>
      rw [if_pos rfl]
      have hne := Transmission.ne_idle_of_frame? (t₁.frame?_send objects link)
      exact iff_of_false Bool.false_ne_true fun h => hne h.1

/-- When a valid PDO of an operational node is handed to the transport, unless it is cyclic. -/
theorem process_ne_idle_iff {σ : Type} [Transport σ] {t : Tpdo} (hv : t.valid = true)
    (objects : Dictionary) (sync : SyncState) (syncOccurred : Bool) (elapsed : Micros) (link : σ) :
    (t.params.transmissionType.isEventDriven = true →
        ((t.process objects sync syncOccurred elapsed .operational link).1 ≠ .idle ↔
          (t.sendRequested = true ∨ t.Expires) ∧ t.inhibitTimer = 0)) ∧
      (t.params.transmissionType = 0 →
        ((t.process objects sync syncOccurred elapsed .operational link).1 ≠ .idle ↔
          syncOccurred = true ∧ (t.sendRequested = true ∨ t.Expires))) := by
  have hdue := (t.process_schedule objects sync syncOccurred elapsed .operational link).1
  refine ⟨fun htype => ?_, fun htype => ?_⟩
  · rw [hdue, schedule_eventDriven hv htype, Bool.and_eq_true, isDemanded_iff htype, beq_iff_eq]
  · have hdriven : t.params.transmissionType.isEventDriven = false := by
      rw [htype]
      decide
    rw [hdue, or_iff_left (not_expires hdriven), schedule_synchronous hv hdriven, if_pos htype]
    cases syncOccurred with
    | true => exact (and_iff_right rfl).symm
    | false => exact iff_of_false Bool.false_ne_true fun h => Bool.false_ne_true h.1

/-- The tick itself gives rise to a request: by a change of state while there is no request, or by the
end of the event time. -/
def IsTriggered (t : Tpdo) (objects : Dictionary) : Prop :=
  t.sendRequested = false ∧ t.isChangeOfState objects = true ∨ t.Expires

theorem noticeChange_asked (t : Tpdo) (objects : Dictionary) :
    (Device.noticeChange t objects).sendRequested = true ∨
        (Device.noticeChange t objects).Expires ↔
      t.sendRequested = true ∨ t.IsTriggered objects := by
  rw [sendRequested_noticeChange, expires_noticeChange]
  unfold IsTriggered
  cases t.sendRequested with
  | true => simp
  | false => simp

theorem process_requests {σ : Type} [Transport σ] {t : Tpdo} (hv : t.valid = true)
    (objects : Dictionary) (sync : SyncState) (syncOccurred : Bool) (elapsed : Micros) (link : σ) :
    let ticked := (Device.noticeChange t objects).process objects sync syncOccurred elapsed
      .operational link
    (ticked.2.1.sendRequested = true ↔
        ticked.1 = .idle ∧ (t.sendRequested = true ∨ t.IsTriggered objects)) ∧
      (t.params.transmissionType.isEventDriven = true → (ticked.1 ≠ .idle ↔
        (t.sendRequested = true ∨ t.IsTriggered objects) ∧ t.inhibitTimer = 0)) ∧
      (t.params.transmissionType = 0 → (ticked.1 ≠ .idle ↔
        syncOccurred = true ∧ (t.sendRequested = true ∨ t.IsTriggered objects))) := by
  intro ticked
  have hs := t.sameSetup_noticeChange objects
  have hv' := hs.valid.trans hv
  have hrequested := (Device.noticeChange t objects).sendRequested_process objects sync syncOccurred
    elapsed .operational link
  have hattempted := process_ne_idle_iff hv' objects sync syncOccurred elapsed link
  rw [sendRequested_schedule hv', t.noticeChange_asked] at hrequested
  rw [hs.params, t.noticeChange_asked, t.inhibitTimer_noticeChange] at hattempted
  exact ⟨hrequested, hattempted⟩

end Tpdo

/-! ### Triggers -/

namespace Node

variable {σ : Type}

theorem LeavesParameters.not_isReset {n : Node} {e : Event σ} (he : n.LeavesParameters e) :
    ¬ e.IsReset := by
  cases e with
  | write id data => exact not_false
  | writeLeading id data => exact not_false
  | _ => exact he

variable [Transport σ]

/-- A valid transmit PDO of an operational node. -/
structure Active (n : Node) (k : Nat) (t : Tpdo) : Prop where
  nmt : n.device.nmt = .operational
  tpdo : n.device.tpdos[k]? = some t
  valid : t.valid = true

/-- The event gives rise to a request of the PDO: a call of the application, a change of state while
there is no request, or the end of the event time. -/
def Triggers (k : Nat) (n : Node) : Event σ → Prop
  | .requestSend i => i = k
  | .tick now link =>
    ∃ t, n.device.tpdos[k]? = some t ∧ t.IsTriggered (n.tick now link).2.1.device.dictionary
  | _ => False

/-- Something has triggered a request since the PDO was handed to the transport last, or there was a
request at the beginning. -/
def Asked (k : Nat) (n : Node) (es : List (Event σ)) : Prop :=
  ((∃ t, n.device.tpdos[k]? = some t ∧ t.sendRequested = true) ∧ n.attempted k es = []) ∨
    ∃ past e rest, es = past ++ e :: rest ∧ (n.run past).Triggers k e ∧
      (n.run past).attempted k (e :: rest) = []

/-- The node stays operational, and its parameters are left alone. -/
abbrev Operates (n : Node) (e : Event σ) : Prop := n.Stays (· = .operational) e

variable {n : Node} {k : Nat} {t : Tpdo} {e : Event σ} {es : List (Event σ)}

theorem asked_concat : n.Asked k (es ++ [e]) ↔
    (n.run es).attemptedBy k e = [] ∧ (n.Asked k es ∨ (n.run es).Triggers k e) := by
  constructor
  · rintro (⟨hpending, hnone⟩ | ⟨past, e', rest, hes, htriggers, hnone⟩)
    · rw [attempted_concat] at hnone
      obtain ⟨hnone, hlast⟩ := List.append_eq_nil_iff.mp hnone
      exact ⟨hlast, .inl (.inl ⟨hpending, hnone⟩)⟩
    · rcases List.eq_nil_or_concat rest with rfl | ⟨rest, e'', rfl⟩
      · obtain ⟨rfl, hlast⟩ := List.append_inj' hes rfl
        obtain rfl := (List.cons.inj hlast).1
        exact ⟨(List.append_eq_nil_iff.mp hnone).1, .inr htriggers⟩
      · rw [List.concat_eq_append] at hes hnone
        rw [← List.cons_append, ← List.append_assoc] at hes
        obtain ⟨rfl, hlast⟩ := List.append_inj' hes rfl
        obtain rfl := (List.cons.inj hlast).1
        rw [← List.cons_append, attempted_concat, ← run_append] at hnone
        obtain ⟨hnone, hlast⟩ := List.append_eq_nil_iff.mp hnone
        exact ⟨hlast, .inl (.inr ⟨past, e', rest, rfl, htriggers, hnone⟩)⟩
  · rintro ⟨hlast, (⟨hpending, hnone⟩ | ⟨past, e', rest, rfl, htriggers, hnone⟩) | htriggers⟩
    · refine .inl ⟨hpending, ?_⟩
      rw [attempted_concat, hnone, hlast]
      rfl
    · refine .inr ⟨past, e', rest ++ [e], ?_, htriggers, ?_⟩
      · rw [List.append_assoc, List.cons_append]
      · rw [← List.cons_append, attempted_concat, hnone, ← run_append, hlast]
        rfl
    · refine .inr ⟨es, e, [], rfl, htriggers, ?_⟩
      show (n.run es).attemptedBy k e ++ [] = []
      rw [hlast]
      rfl

/-- Where parameters are left alone, nothing but ticks and requests concerns a valid PDO. -/
theorem LeavesParameters.eq_of_stepped {t' : Tpdo} (he : n.LeavesParameters e)
    (h : t.Stepped n k e t') (hv : t.valid = true) (htick : ∀ now link, e ≠ .tick now link)
    (hrequest : e ≠ .requestSend k) : t' = t := by
  cases h with
  | same => rfl
  | requested hevent => exact absurd hevent hrequest
  | processed now link _ hevent => exact absurd hevent (htick now link)
  | comm hwrites _ =>
      cases hwrites with
      | whole ho _ _ => exact absurd ho (he _)
      | leading ho _ _ _ _ => exact absurd ho (he _)
  | map hw => exact absurd ((valid_of_checkMappingWrite hw).symm.trans hv) Bool.false_ne_true
  | reset _ _ _ _ _ hreset => exact absurd hreset he.not_isReset

theorem LeavesParameters.tpdo_quiet (he : n.LeavesParameters e) (h : n.device.tpdos[k]? = some t)
    (hv : t.valid = true) (htick : ∀ now link, e ≠ .tick now link) :
    (e = .requestSend k ∧ (n.step e).device.tpdos[k]? = some t.requestSend) ∨
      (e ≠ .requestSend k ∧ (n.step e).device.tpdos[k]? = some t) := by
  by_cases hrequest : e = .requestSend k
  · subst hrequest
    refine .inl ⟨rfl, ?_⟩
    show (n.device.requestSend k).tpdos[k]? = _
    simp only [Device.requestSend, Device.modifyTpdo, List.getElem?_modify, h]
    simp
  · obtain ⟨t', ht', hstep⟩ := exists_tpdo_step h e
    rw [he.eq_of_stepped hstep hv htick hrequest] at ht'
    exact .inr ⟨hrequest, ht'⟩

theorem attemptedBy_eq_nil_iff (now : UInt64) (link : σ) {outcome : Transmission}
    (h : (n.tick now link).1.transmissions[k]? = some outcome) :
    n.attemptedBy k (.tick now link) = [] ↔ outcome = .idle := by
  rw [attemptedBy_tick now link h]
  split
  · rename_i hidle
    exact iff_of_true rfl hidle
  · rename_i hne
    exact iff_of_false (List.cons_ne_nil _ _) hne

theorem Active.triggers_tick (h : n.Active k t) (now : UInt64) (link : σ) :
    n.Triggers k (.tick now link) ↔ t.IsTriggered (n.tick now link).2.1.device.dictionary := by
  constructor
  · rintro ⟨t₀, ht₀, htriggered⟩
    obtain rfl := Option.some.inj (h.tpdo.symm.trans ht₀)
    exact htriggered
  · intro htriggered
    exact ⟨t, h.tpdo, htriggered⟩

/-- What a tick makes of a request. -/
theorem active_tick (h : n.Active k t) (now : UInt64) (link : σ) :
    ∃ t', (n.tick now link).2.1.device.tpdos[k]? = some t' ∧ t.SameSetup t' ∧
      (t'.sendRequested = true ↔ n.attemptedBy k (.tick now link) = [] ∧
        (t.sendRequested = true ∨ n.Triggers k (.tick now link))) ∧
      (t.params.transmissionType.isEventDriven = true →
        (n.attemptedBy k (.tick now link) ≠ [] ↔
          (t.sendRequested = true ∨ n.Triggers k (.tick now link)) ∧ t.inhibitTimer = 0)) ∧
      (t.params.transmissionType = 0 →
        (n.attemptedBy k (.tick now link) ≠ [] ↔ (n.tick now link).1.event = .sync ∧
          (t.sendRequested = true ∨ n.Triggers k (.tick now link)))) := by
  obtain ⟨link', hsent, htpdos⟩ := n.device.tick_tpdos (Micros.elapsed n.lastTick now) link k
  rw [h.tpdo, Option.map_some, h.nmt] at hsent htpdos
  have hoccurs : n.device.syncOccurs (Micros.elapsed n.lastTick now) = true ↔
      (n.tick now link).1.event = .sync := beq_iff_eq
  have hrequests := Tpdo.process_requests h.valid (n.tick now link).2.1.device.dictionary
    (n.device.syncTick (Micros.elapsed n.lastTick now)).next
    (n.device.syncOccurs (Micros.elapsed n.lastTick now)) (Micros.elapsed n.lastTick now) link'
  rw [hoccurs] at hrequests
  rw [ne_eq, attemptedBy_eq_nil_iff now link hsent, h.triggers_tick]
  exact ⟨_, htpdos, t.sameSetup_tick _ _ _ _ _ _, hrequests⟩

theorem active_quiet (h : n.Active k t) (he : n.LeavesParameters e)
    (htick : ∀ now link, e ≠ .tick now link) :
    ∃ t', (n.step e).device.tpdos[k]? = some t' ∧ t.SameSetup t' ∧
      (t'.sendRequested = true ↔ n.attemptedBy k e = [] ∧
        (t.sendRequested = true ∨ n.Triggers k e)) := by
  have hnone : n.attemptedBy k e = [] := by
    cases e with
    | tick now link => exact absurd rfl (htick now link)
    | _ => rfl
  rcases he.tpdo_quiet h.tpdo h.valid htick with ⟨rfl, ht'⟩ | ⟨hrequest, ht'⟩
  · exact ⟨_, ht', t.sameSetup_requestSend, iff_of_true rfl ⟨hnone, .inr rfl⟩⟩
  · have htriggers : ¬ n.Triggers k e := by
      cases e with
      | tick now link => exact absurd rfl (htick now link)
      | requestSend i => exact fun hi => hrequest (congrArg Event.requestSend hi)
      | _ => exact not_false
    refine ⟨t, ht', .refl t, ?_⟩
    rw [or_iff_left htriggers, and_iff_right hnone]

/-- A request is pending after an event if it was before or the event has triggered one, unless the
event has handed the PDO to the transport. -/
theorem requested_step (h : n.Active k t) (he : n.Operates e) :
    ∃ t', (n.step e).Active k t' ∧ t.SameSetup t' ∧
      (t'.sendRequested = true ↔ n.attemptedBy k e = [] ∧
        (t.sendRequested = true ∨ n.Triggers k e)) := by
  have hnmt : (n.step e).device.nmt = .operational := he.nmt h.nmt
  obtain ⟨t', ht', hs, hrequested⟩ : ∃ t', (n.step e).device.tpdos[k]? = some t' ∧ t.SameSetup t' ∧
      (t'.sendRequested = true ↔ n.attemptedBy k e = [] ∧
        (t.sendRequested = true ∨ n.Triggers k e)) := by
    by_cases htick : ∃ now link, e = .tick now link
    · obtain ⟨now, link, rfl⟩ := htick
      obtain ⟨t', ht', hs, hrequested, _⟩ := active_tick h now link
      exact ⟨t', ht', hs, hrequested⟩
    · exact active_quiet h he.1 fun now link hn => htick ⟨now, link, hn⟩
  exact ⟨t', ⟨hnmt, ht', hs.valid.trans h.valid⟩, hs, hrequested⟩

/-- After a run a request is pending exactly if one was asked for since the last attempt. -/
theorem requested_run (h : n.Active k t) (hes : n.Along Operates es) :
    ∃ t', (n.run es).Active k t' ∧ t.SameSetup t' ∧
      (t'.sendRequested = true ↔ n.Asked k es) := by
  refine run_history (I := fun (es : List (Event σ)) m => n.Along Operates es →
    ∃ t', m.Active k t' ∧ t.SameSetup t' ∧ (t'.sendRequested = true ↔ n.Asked k es)) ?_ ?_ es hes
  · intro _
    refine ⟨t, h, .refl t, fun hrequested => .inl ⟨⟨t, h.tpdo, hrequested⟩, rfl⟩, ?_⟩
    rintro (⟨⟨t₀, ht₀, hrequested⟩, _⟩ | ⟨past, e, rest, hes, _⟩)
    · obtain rfl := Option.some.inj (h.tpdo.symm.trans ht₀)
      exact hrequested
    · exact absurd hes (List.append_ne_nil_of_right_ne_nil past (List.cons_ne_nil e rest)).symm
  · intro es e ih hes
    obtain ⟨hes, he⟩ := (along_append _ _ _).mp hes
    obtain ⟨t₁, h₁, hs₁, hrequested₁⟩ := ih hes
    obtain ⟨t₂, h₂, hs₂, hrequested₂⟩ := requested_step h₁ he.1
    rw [← run_concat] at h₂
    refine ⟨t₂, h₂, hs₁.trans hs₂, ?_⟩
    rw [hrequested₂, hrequested₁, asked_concat]

/-- A PDO that is not cyclic is not handed to the transport before something triggers a request. -/
theorem attempted_of_not_triggered (h : n.Active k t)
    (htype : t.params.transmissionType.isEventDriven = true ∨ t.params.transmissionType = 0)
    (hrequested : t.sendRequested = false) (hes : n.Along Operates es)
    (hquiet : n.Along (fun m e => ¬ m.Triggers k e) es) : n.attempted k es = [] := by
  induction es generalizing n t with
  | nil => rfl
  | cons e es ih =>
      have hasked : ¬ (t.sendRequested = true ∨ n.Triggers k e) := by
        rintro (hyes | htriggers)
        · exact Bool.false_ne_true (hrequested.symm.trans hyes)
        · exact hquiet.1 htriggers
      have hnone : n.attemptedBy k e = [] := by
        cases e with
        | tick now link =>
            obtain ⟨_, _, _, _, hdriven, hacyclic⟩ := active_tick h now link
            refine Decidable.not_not.mp fun hne => ?_
            rcases htype with htype | htype
            · exact hasked ((hdriven htype).mp hne).1
            · exact hasked ((hacyclic htype).mp hne).2
        | _ => rfl
      obtain ⟨t', h', hs, hrequested'⟩ := requested_step h hes.1
      have htype' : t'.params.transmissionType.isEventDriven = true ∨
          t'.params.transmissionType = 0 := by
        rw [hs.params]
        exact htype
      have hstill : t'.sendRequested = false :=
        Bool.eq_false_iff.mpr fun hyes => hasked (hrequested'.mp hyes).2
      show n.attemptedBy k e ++ (n.step e).attempted k es = []
      rw [hnone, ih h' htype' hstill hes.2 hquiet.2]
      rfl

/-- **Requests are neither lost nor answered twice.**  The transmit PDO stays valid on a node that
stays operational, and no parameter is written.  After any run, a tick hands an event driven PDO to the
transport exactly if a request was triggered since the last time, or is by this tick, and the inhibit
timer has run down.  An acyclic PDO is handed to the transport exactly at a tick that reports a SYNC,
under the same condition.  Whether the frame is accepted or not, the PDO is not handed to the transport
again before a further request is triggered.  Every attempt is on record with the transport. -/
theorem attempted_iff_asked (h : n.Active k t) (hes : n.Along Operates es) (now : UInt64)
    (link : σ) :
    let m := n.run es
    let asked := n.Asked k es ∨ m.Triggers k (.tick now link)
    ∃ t', m.device.tpdos[k]? = some t' ∧
      (t.params.transmissionType.isEventDriven = true →
        (m.attemptedBy k (.tick now link) ≠ [] ↔ asked ∧ t'.inhibitTimer = 0)) ∧
      (t.params.transmissionType = 0 → (m.attemptedBy k (.tick now link) ≠ [] ↔
        (m.tick now link).1.event = .sync ∧ asked)) ∧
      (t.params.transmissionType.isEventDriven = true ∨ t.params.transmissionType = 0 →
        m.attemptedBy k (.tick now link) ≠ [] → ∀ es' : List (Event σ),
          (m.step (.tick now link)).Along Operates es' →
            (m.step (.tick now link)).Along (fun m' e => ¬ m'.Triggers k e) es' →
              (m.step (.tick now link)).attempted k es' = []) ∧
      ∀ es' : List (Event σ), n.Along OnRecord (es ++ .tick now link :: es') := by
  intro m asked
  obtain ⟨t', h', hs, hrequested⟩ := requested_run h hes
  obtain ⟨_, _, _, _, hdriven, hacyclic⟩ := active_tick h' now link
  rw [hs.params, hrequested] at hdriven hacyclic
  refine ⟨t', h'.tpdo, hdriven, hacyclic, fun htype hattempted es' hes' hquiet => ?_,
    fun es' => along_onRecord n _⟩
  obtain ⟨t'', h'', hs', hanswered⟩ := requested_step (e := .tick now link) h' ⟨not_false, nofun⟩
  refine attempted_of_not_triggered h'' ?_ ?_ hes' hquiet
  · rw [hs'.params, hs.params]
    exact htype
  · exact Bool.eq_false_iff.mpr fun hyes => hattempted (hanswered.mp hyes).1

/-- Two requests are answered by one frame, although the transport refuses it. -/
theorem attempted_iff_asked_watcher :
    let m := watcher.run [watcherTick 0 1, .requestSend 0, .requestSend 0]
    m.attemptedBy 0 (watcherTick 10 0) ≠ [] ∧
      (m.step (watcherTick 10 0)).attempted 0 [watcherTick 20 1] = [] ∧
      m.answers (watcherTick 10 0) = [.refused (.carrying (.std 0x181) [17])] := by
  intro m
  have hes : watcher.Along Operates [watcherTick 0 1, .requestSend 0, .requestSend 0] :=
    ⟨⟨not_false, nofun⟩, ⟨not_false, nofun⟩, ⟨not_false, nofun⟩, trivial⟩
  obtain ⟨t', ht', hdriven, _, hanswered, hrecord⟩ :=
    attempted_iff_asked (k := 0) ⟨rfl, rfl, rfl⟩ hes 10 (.ofCapacity 0)
  have hasked : watcher.Asked 0 [watcherTick 0 1, .requestSend 0, .requestSend 0] :=
    .inr ⟨[watcherTick 0 1], .requestSend 0, [.requestSend 0], rfl, rfl, rfl⟩
  have htimer : t'.inhibitTimer = 0 := by
    obtain rfl := Option.some.inj ht'
    rfl
  have hattempted := (hdriven rfl).mpr ⟨.inl hasked, htimer⟩
  have hquiet : ¬ (m.step (watcherTick 10 0)).Triggers 0 (watcherTick 20 1) := by
    rintro ⟨t, ht, ⟨_, hchange⟩ | hexpires⟩
    · obtain rfl := Option.some.inj ht
      exact absurd hchange (by decide)
    · obtain rfl := Option.some.inj ht
      exact hexpires.eventTime rfl
  refine ⟨hattempted, hanswered (.inl rfl) hattempted _ ⟨⟨not_false, nofun⟩, trivial⟩
    ⟨hquiet, trivial⟩, ?_⟩
  have hlast := ((along_append _ _ _).mp (hrecord [])).2.1
  exact hlast.trans (by decide)

end Node

end Canopen
