import Canopen.Proofs.InhibitTime

/-! # Changes of state

A mapped byte that is watched for changes asks for a transmission when it differs from the frame of
the PDO.  That frame is filled before it is handed to the transport, and keeps its data when it is
refused.  So the comparison is not with the last frame that was sent, but with the last one that was
to be sent (`data_run`).

`change_attempted_iff` says what follows: a value that differs from the last accepted frame makes the
PDO be sent as soon as the inhibit time has passed, unless a frame with that value has been refused
since.  A refused change is forgotten until something else asks for a transmission
(`watcher_forgets`). -/

namespace Canopen

/-- The frame, if the transport has accepted it. -/
def Transmission.accepted? : Transmission → Option Frame
  | sent f => some f
  | idle | refused _ => none

theorem Transmission.ne_idle_of_frame? {outcome : Transmission} {f : Frame}
    (h : outcome.frame? = some f) : outcome ≠ .idle := by
  rintro rfl
  cases h

theorem Transmission.ne_idle_iff {outcome : Transmission} :
    outcome ≠ .idle ↔ outcome.frame?.isSome = true := by
  cases outcome with
  | idle => exact iff_of_false (fun h => h rfl) nofun
  | sent f => exact iff_of_true nofun rfl
  | refused f => exact iff_of_true nofun rfl

theorem Transmission.eq_idle_of_frame? {outcome : Transmission} (h : outcome.frame? = none) :
    outcome = .idle := by
  cases outcome with
  | idle => rfl
  | sent f => cases h
  | refused f => cases h

namespace Tpdo

/-- Does a mapped byte that is watched for changes differ from the given data? -/
def Differs (t : Tpdo) (objects : Dictionary) (data : Payload) : Prop :=
  ∃ i < t.mapping.dataLen, t.mapping.changeFlags.testBit i = true ∧
    (t.live objects).bytes[i]? ≠ data.bytes[i]?

/-- The comparison is with the frame as it was filled last. -/
theorem isChangeOfState_iff (t : Tpdo) (objects : Dictionary) :
    t.isChangeOfState objects = true ↔ t.Differs objects t.frame.data := by
  simp only [isChangeOfState, Differs, List.any_eq_true, List.mem_range, Bool.and_eq_true,
    bne_iff_ne, and_comm (b := _ = true)]

/-! ### The frame of the PDO -/

theorem frame_noticeChange (t : Tpdo) (objects : Dictionary) :
    (Device.noticeChange t objects).frame = t.frame := by
  unfold Device.noticeChange
  split
  · rfl
  · rfl

theorem frame_schedule (t : Tpdo) (sync : SyncState) (syncOccurred : Bool) (nmt : NmtState) :
    (t.schedule sync syncOccurred nmt).2.frame = t.frame := by
  obtain ⟨counter, requested, h⟩ := t.exists_schedule sync syncOccurred nmt
  rw [h]

theorem frame_settle (t : Tpdo) (outcome : Transmission) (elapsed : Micros) :
    (t.settle outcome elapsed).frame = t.frame := by
  unfold settle restartTimers
  split
  · split
    · rfl
    · rfl
  · rfl

theorem frame?_send {σ : Type} [Transport σ] (t : Tpdo) (objects : Dictionary) (link : σ) :
    (t.send objects link).1.frame? = some (t.load objects).frame := by
  unfold send
  dsimp only
  split
  · rfl
  · rfl

/-- A tick leaves the frame alone or hands it to the transport.  Whether it is accepted makes no
difference to the frame. -/
theorem process_frame {σ : Type} [Transport σ] (t : Tpdo) (objects : Dictionary) (sync : SyncState)
    (syncOccurred : Bool) (elapsed : Micros) (nmt : NmtState) (link : σ) :
    ((t.process objects sync syncOccurred elapsed nmt link).1 = .idle ∧
        (t.process objects sync syncOccurred elapsed nmt link).2.1.frame = t.frame) ∨
      (t.process objects sync syncOccurred elapsed nmt link).1.frame? =
        some (t.process objects sync syncOccurred elapsed nmt link).2.1.frame := by
  have hscheduled := t.frame_schedule sync syncOccurred nmt
  unfold process
  generalize t.schedule sync syncOccurred nmt = scheduled at hscheduled
  obtain ⟨due, t₁⟩ := scheduled
  dsimp only at hscheduled ⊢
  rw [frame_settle]
  cases due with
  | false => exact .inl ⟨rfl, hscheduled⟩
  | true =>
      rw [if_pos rfl]
      exact .inr (t₁.frame?_send objects link)

/-- Nothing but a tick fills the frame. -/
theorem Stepped.data {σ : Type} [Transport σ] {n : Node} {k : Nat} {e : Event σ} {t t' : Tpdo}
    (h : t.Stepped n k e t') (he : ∀ now link, e ≠ .tick now link) :
    t'.frame.data = t.frame.data := by
  cases h with
  | same => rfl
  | requested _ => rfl
  | processed now link link' hevent => exact absurd hevent (he now link)
  | comm _ hw =>
      rcases writeComm_ok hw with ⟨_, w, stored, _, _, rfl⟩ | ⟨type, _, rfl⟩ | ⟨_, time, rfl⟩ |
        ⟨time, rfl⟩ | ⟨_, start, _, rfl⟩
      · rfl
      · rfl
      · rfl
      · rfl
      · rfl
  | @map _ _ w hw =>
      cases w with
      | entry i w => rfl
      | count count =>
          obtain ⟨_, hpdo⟩ := t.exists_applyMapping_count n.device.attributes n.device.errors count
          rw [hpdo]
          rfl
  | reset params inhibitTime eventTime syncStart attributes _ =>
      unfold restart Tpdo.reset
      simp only [configureMapping_pdo]
      rfl

theorem process_eq_idle_iff {σ : Type} [Transport σ] {t : Tpdo} (hv : t.valid = true)
    (htype : t.params.transmissionType.isEventDriven = true) (htimer : t.inhibitTimer = 0)
    (objects : Dictionary) (sync : SyncState) (syncOccurred : Bool) (elapsed : Micros) (link : σ) :
    (t.process objects sync syncOccurred elapsed .operational link).1 = .idle ↔
      t.isDemanded = false := by
  unfold process
  rw [schedule_eventDriven hv htype, htimer]
  dsimp only
  cases t.isDemanded with
  | false => exact iff_of_true rfl rfl
  | true =>
      rw [Bool.true_and, if_pos (by rfl)]
      exact iff_of_false (Transmission.ne_idle_of_frame? (frame?_send _ objects link)) nofun

theorem isDemanded_noticeChange (t : Tpdo) (objects : Dictionary) :
    (Device.noticeChange t objects).isDemanded = true ↔
      t.isDemanded = true ∨ t.Differs objects t.frame.data := by
  rw [← isChangeOfState_iff]
  unfold Device.noticeChange isDemanded
  cases hrequested : t.sendRequested with
  | true => simp [hrequested]
  | false =>
      cases t.isChangeOfState objects with
      | true => simp [requestSend]
      | false => simp [hrequested]

end Tpdo

namespace Node

variable {σ : Type} [Transport σ]

/-- What became of a transmit PDO at an event, if it was handed to the transport. -/
def attemptedBy (k : Nat) (n : Node) : Event σ → List Transmission
  | .tick now link => (n.tick now link).1.transmissions[k]?.toList.filter (· != .idle)
  | _ => []

/-- What became of a transmit PDO each time that it was handed to the transport, in order. -/
def attempted (k : Nat) (n : Node) (es : List (Event σ)) : List Transmission :=
  n.trace (attemptedBy k) es

/-- The frame of a transmit PDO that the transport has accepted last, if there is one. -/
def lastAccepted (k : Nat) (n : Node) (es : List (Event σ)) : Option Frame :=
  ((n.attempted k es).filterMap Transmission.accepted?).getLast?

variable {n : Node} {k : Nat} {t : Tpdo} {e : Event σ} {es : List (Event σ)}

theorem attempted_concat : n.attempted k (es ++ [e]) =
    n.attempted k es ++ (n.run es).attemptedBy k e := by
  unfold attempted
  rw [trace_append]
  exact congrArg _ (List.append_nil _)

/-- An event that hands a PDO to the transport leaves it with the data of that frame.  Every other
event leaves it with the data that it had. -/
theorem data_step {t' : Tpdo} (h : (n.step e).device.tpdos[k]? = some t') :
    (n.attemptedBy k e = [] ∧
        ∃ t, n.device.tpdos[k]? = some t ∧ t'.frame.data = t.frame.data) ∨
      ∃ outcome f, n.attemptedBy k e = [outcome] ∧ outcome.frame? = some f ∧
        t'.frame.data = f.data := by
  by_cases htick : ∃ now link, e = .tick now link
  · obtain ⟨now, link, rfl⟩ := htick
    obtain ⟨link', houtcome, htpdos⟩ := n.device.tick_tpdos (Micros.elapsed n.lastTick now) link k
    replace h : (n.device.tick (Micros.elapsed n.lastTick now) link).2.1.tpdos[k]? = some t' := h
    rw [htpdos] at h
    obtain ⟨t, ht, rfl⟩ := Option.map_eq_some_iff.mp h
    rw [ht, Option.map_some] at houtcome
    have hattempted : n.attemptedBy k (.tick now link) =
        (n.device.tick (Micros.elapsed n.lastTick now) link).1.transmissions[k]?.toList.filter
          (· != .idle) := rfl
    rw [houtcome] at hattempted
    rcases Tpdo.process_frame (Device.noticeChange t _) _ _ _ _ _ link' with
      ⟨hidle, hframe⟩ | hframe
    · refine .inl ⟨?_, t, ht, ?_⟩
      · rw [hattempted, hidle]
        rfl
      · rw [hframe, Tpdo.frame_noticeChange]
    · refine .inr ⟨_, _, ?_, hframe, rfl⟩
      rw [hattempted]
      exact List.filter_cons_of_pos (bne_iff_ne.mpr (Transmission.ne_idle_of_frame? hframe))
  · obtain ⟨t, ht, hstep⟩ := tpdo_step h
    have hne : ∀ now link, e ≠ .tick now link := fun now link he => htick ⟨now, link, he⟩
    refine .inl ⟨?_, t, ht, hstep.data hne⟩
    cases e with
    | tick now link => exact absurd rfl (hne now link)
    | _ => rfl

/-- The data of a PDO are those of the last frame that was handed to the transport, whether it was
accepted or not. -/
theorem data_run (n : Node) (k : Nat) (es : List (Event σ)) : ∀ t last,
    (n.run es).device.tpdos[k]? = some t → (n.attempted k es).getLast? = some last →
      ∃ f, last.frame? = some f ∧ t.frame.data = f.data := by
  refine run_history (I := fun (es : List (Event σ)) m => ∀ t last, m.device.tpdos[k]? = some t →
    (n.attempted k es).getLast? = some last → ∃ f, last.frame? = some f ∧ t.frame.data = f.data)
    ?_ ?_ es
  · intro t last _ hlast
    cases hlast
  · intro es e ih t' last ht' hlast
    rw [run_concat] at ht'
    rw [attempted_concat] at hlast
    rcases data_step ht' with ⟨hnone, t, ht, hdata⟩ | ⟨outcome, f, hone, hf, hdata⟩
    · rw [hnone, List.append_nil] at hlast
      rw [hdata]
      exact ih t last ht hlast
    · rw [hone, List.getLast?_concat] at hlast
      obtain rfl := Option.some.inj hlast
      exact ⟨f, hf, hdata⟩

theorem attemptedBy_ne_nil_iff (h : n.Drives k t) (htimer : t.inhibitTimer = 0) (now : UInt64)
    (link : σ) : n.attemptedBy k (.tick now link) ≠ [] ↔ t.isDemanded = true ∨
      t.Differs (n.tick now link).2.1.device.dictionary t.frame.data := by
  obtain ⟨link', houtcome, _⟩ := n.device.tick_tpdos (Micros.elapsed n.lastTick now) link k
  rw [h.tpdo, Option.map_some, h.nmt] at houtcome
  have hattempted : n.attemptedBy k (.tick now link) =
      (n.device.tick (Micros.elapsed n.lastTick now) link).1.transmissions[k]?.toList.filter
        (· != .idle) := rfl
  rw [houtcome] at hattempted
  show _ ↔ _ ∨ t.Differs (n.device.tick (Micros.elapsed n.lastTick now) link).2.1.dictionary _
  generalize (n.device.tick (Micros.elapsed n.lastTick now) link).2.1.dictionary = objects
    at hattempted ⊢
  have hnotice := t.sameSetup_noticeChange objects
  have htype : (Device.noticeChange t objects).params.transmissionType.isEventDriven = true := by
    rw [hnotice.params]
    exact h.eventDriven
  have hidle := Tpdo.process_eq_idle_iff (hnotice.valid.trans h.valid) htype
    ((t.inhibitTimer_noticeChange objects).trans htimer) objects
    (n.device.syncTick (Micros.elapsed n.lastTick now)).next
    (n.device.syncOccurs (Micros.elapsed n.lastTick now)) (Micros.elapsed n.lastTick now) link'
  rw [hattempted, ← Tpdo.isDemanded_noticeChange, ← Bool.not_eq_false, ← hidle]
  simp [Option.toList]

/-- If the last frame that was handed to the transport was accepted, it is the last accepted one. -/
theorem eq_of_lastAccepted {f g : Frame} (hlast : (n.attempted k es).getLast? = some (.sent f))
    (hg : n.lastAccepted k es = some g) : f = g := by
  obtain ⟨before, hbefore⟩ := List.getLast?_eq_some_iff.mp hlast
  have hsent : List.filterMap Transmission.accepted? [.sent f] = [f] := rfl
  unfold lastAccepted at hg
  rw [hbefore, List.filterMap_append, hsent, List.getLast?_concat] at hg
  exact Option.some.inj hg

theorem exists_getLast?_attempted {g : Frame} (hg : n.lastAccepted k es = some g) :
    ∃ last, (n.attempted k es).getLast? = some last := by
  cases hlast : (n.attempted k es).getLast? with
  | some last => exact ⟨last, rfl⟩
  | none =>
      unfold lastAccepted at hg
      rw [List.getLast?_eq_none_iff.mp hlast] at hg
      cases hg

/-- **A change of state is attempted as soon as the inhibit time has passed, unless a frame with the
new value has been refused.**  The transmit PDO is event driven and valid on an operational node,
after any run, and its inhibit time has passed; `g` is the last of its frames that the transport has
accepted, and the values at the tick differ from it in a byte that is watched for changes.  The tick
hands the PDO to the transport exactly if no frame was refused since `g`, or a transmission is asked
for, or the values also differ from the refused frame. -/
theorem change_attempted_iff (n : Node) (es : List (Event σ)) {now : UInt64} {link : σ}
    {g : Frame} (h : (n.run es).Drives k t) (htimer : t.inhibitTimer = 0)
    (hg : n.lastAccepted k es = some g)
    (hdiffers : t.Differs ((n.run es).tick now link).2.1.device.dictionary g.data) :
    (n.run es).attemptedBy k (.tick now link) ≠ [] ↔
      (n.attempted k es).getLast? = some (.sent g) ∨ t.isDemanded = true ∨
        ∃ f, (n.attempted k es).getLast? = some (.refused f) ∧
          t.Differs ((n.run es).tick now link).2.1.device.dictionary f.data := by
  obtain ⟨last, hlast⟩ := exists_getLast?_attempted hg
  obtain ⟨f, hf, hdata⟩ := data_run n k es t last h.tpdo hlast
  rw [attemptedBy_ne_nil_iff h htimer, hdata]
  cases last with
  | idle => cases hf
  | sent f' =>
      obtain rfl := Option.some.inj hf
      obtain rfl := eq_of_lastAccepted hlast hg
      exact iff_of_true (.inr hdiffers) (.inl hlast)
  | refused f' =>
      obtain rfl := Option.some.inj hf
      constructor
      · rintro (hdemanded | hnew)
        · exact .inr (.inl hdemanded)
        · exact .inr (.inr ⟨f', hlast, hnew⟩)
      · rintro (hsent | hdemanded | ⟨f, hrefused, hnew⟩)
        · rw [hlast] at hsent
          cases hsent
        · exact .inl hdemanded
        · rw [hlast] at hrefused
          cases hrefused
          exact .inr hnew

/-! ### A change that is forgotten -/

/-- An operational node with one event driven transmit PDO, whose byte is watched for changes. -/
def watcher : Node :=
  let byte := AppObject.var (SubInfo.u8.readWrite.mappable .tpdo).detectingChange
    (.ofNumber .u8 0x11)
  let config := { DeviceConfig.initial with
    nodeId := 1
    tpdos := [⟨some 0x181, 254, 0, 0, 0, [0x20000008], 0⟩] }
  (Node.start .unconfigured (Device.fresh 0 1 ⟨[⟨0x2000, .application byte⟩]⟩)).run
    ([.loadConfig config, .setNmt .operational] : List (Event Bus))

/-- A tick of the watcher, with room for a frame or without. -/
def watcherTick (now : UInt64) (room : Nat) : Event Bus := .tick now (.ofCapacity room)

/-- The application of the watcher sets its byte. -/
def watcherStore (value : Int) : Event Bus := .store 0x2000 0 (.number value)

/-- After a refused change, a further change is attempted. -/
theorem change_attempted_iff_watcher :
    (watcher.run [watcherTick 0 1, watcherStore 0x22, watcherTick 10 0,
      watcherStore 0x33]).attemptedBy 0 (watcherTick 20 1) ≠ [] := by
  refine (change_attempted_iff watcher _ ⟨rfl, rfl, rfl, rfl⟩ rfl rfl ?_).mpr
    (.inr (.inr ⟨_, rfl, ?_⟩))
  · exact ⟨0, by decide, by decide, by decide⟩
  · exact ⟨0, by decide, by decide, by decide⟩

/-- The first frame is accepted, the frame with the new value is refused, and the next tick does not
attempt to send it. -/
theorem watcher_forgets :
    let n := watcher.run [watcherTick 0 1, watcherStore 0x22, watcherTick 10 0]
    ∃ t g, n.Drives 0 t ∧ t.inhibitTimer = 0 ∧
      watcher.lastAccepted 0 [watcherTick 0 1, watcherStore 0x22, watcherTick 10 0] = some g ∧
      t.Differs (n.tick 20 (Bus.ofCapacity 1)).2.1.device.dictionary g.data ∧
      n.attemptedBy 0 (watcherTick 20 1) = [] :=
  ⟨_, _, ⟨rfl, rfl, rfl, rfl⟩, rfl, rfl, ⟨0, by decide, by decide, by decide⟩, rfl⟩

end Node

end Canopen
