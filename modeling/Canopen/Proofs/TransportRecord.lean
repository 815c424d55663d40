import Canopen.Proofs.TransmitQueue

/-! # The record of a transport

The report of a tick says which frames were handed to the transport and how it answered.  A transport
that keeps a record of its answers, and leaves them to the transport inside it (`Tapped`), sees for
itself.  `Node.onRecord` says that the two agree: on record are the SYNC message, if there is one, and
behind it the attempts of the transmit PDOs in the order of their numbers. -/

namespace Canopen

/-- A transport with the list of its answers. -/
structure Tapped (σ : Type) where
  link : σ
  answers : List Transmission

namespace Tapped

variable {σ : Type} [Transport σ]

/-- The frames that were handed to the transport, whether it has accepted them or not. -/
def handed (t : Tapped σ) : List Frame := t.answers.filterMap Transmission.frame?

instance : Transport (Tapped σ) where
  send f t :=
    let (accepted, link) := Transport.send f t.link
    (accepted, ⟨link, t.answers ++ [.answered f accepted]⟩)
  sendSync f t :=
    let (accepted, link) := Transport.sendSync f t.link
    (accepted, ⟨link, t.answers ++ [.answered f accepted]⟩)
  clearPendingSync t := { t with link := Transport.clearPendingSync t.link }

theorem filter_answered (f : Frame) (accepted : Bool) :
    [Transmission.answered f accepted].filter (· != .idle) = [.answered f accepted] := by
  cases accepted with
  | false => rfl
  | true => rfl

theorem follows : Transport.Follows fun t outcomes (t' : Tapped σ) =>
    t'.answers = t.answers ++ outcomes.filter (· != .idle) where
  nil _ := (List.append_nil _).symm
  idle _ := (List.append_nil _).symm
  cons h h' := by
    rw [h', h, List.append_assoc, ← List.filter_append, List.singleton_append]
  send f t := by
    rw [filter_answered]
    rfl
  sendSync f t := by
    rw [filter_answered]
    rfl
  clear h := h

theorem shows_link : Transport.Shows (Tapped.link (σ := σ)) where
  send _ _ := rfl
  sendSync _ _ := rfl
  clear _ := rfl

theorem handed_tick (d : Device) (elapsed : Micros) (t : Tapped σ) :
    (d.tick elapsed t).2.2.handed = t.handed ++ (d.tick elapsed t).1.handed := by
  have hidle : ∀ outcomes : List Transmission,
      (outcomes.filter (· != .idle)).filterMap Transmission.frame? =
        outcomes.filterMap Transmission.frame? := by
    intro outcomes
    rw [List.filterMap_filter]
    refine congrArg (outcomes.filterMap ·) (funext fun outcome => ?_)
    cases outcome with
    | idle => rfl
    | sent f => rfl
    | refused f => rfl
  unfold handed
  rw [follows.tick d elapsed t, List.filterMap_append, hidle]
  rfl

/-- A transport that keeps a record sees the outcomes that the tick reports without it. -/
theorem answers_tick (d : Device) (elapsed : Micros) (link : σ) :
    (d.tick elapsed (Tapped.mk link [])).2.2.answers =
      (d.tick elapsed link).1.outcomes.filter (· != .idle) := by
  have hshows := shows_link.tick d elapsed ⟨link, []⟩
  have hfollows := follows.tick d elapsed ⟨link, []⟩
  rw [← congrArg Prod.fst hshows] at hfollows
  exact hfollows

end Tapped

namespace Node

variable {σ : Type} [Transport σ]

/-- What the transport answers at an event, to one frame after the other. -/
def answers (n : Node) : Event σ → List Transmission
  | .tick now link => (n.tick now (Tapped.mk link [])).2.2.answers
  | _ => []

/-- What became of the SYNC message at an event, if it was handed to the transport. -/
def syncAttempt (n : Node) : Event σ → List Transmission
  | .tick now link => [(n.tick now link).1.sync].filter (· != .idle)
  | _ => []

/-- The transport answers what the attempts tell of it, and nothing else. -/
def OnRecord (n : Node) (e : Event σ) : Prop :=
  n.answers e = n.syncAttempt e ++
    (List.range n.device.tpdos.length).flatMap fun k => n.attemptedBy k e

theorem flatMap_attemptedBy (n : Node) (now : UInt64) (link : σ) :
    ((List.range n.device.tpdos.length).flatMap fun k => n.attemptedBy k (.tick now link)) =
      (n.tick now link).1.transmissions.filter (· != .idle) := by
  have hlength := congrArg List.length
    (n.device.tick_frames (Micros.elapsed n.lastTick now) link).2
  rw [List.length_map, List.length_map] at hlength
  have hone : ∀ k outcome, (n.tick now link).1.transmissions[k]? = some outcome →
      n.attemptedBy k (.tick now link) = [outcome].filter (· != .idle) := by
    intro k outcome houtcome
    unfold attemptedBy
    dsimp only
    rw [houtcome]
    rfl
  rw [← hlength]
  refine (flatMap_range hone).trans ?_
  rw [← List.filter_flatMap, List.flatMap_singleton']

theorem onRecord (n : Node) (e : Event σ) : n.OnRecord e := by
  unfold OnRecord
  cases e with
  | tick now link =>
      rw [flatMap_attemptedBy]
      refine (Tapped.answers_tick n.device (Micros.elapsed n.lastTick now) link).trans ?_
      exact List.filter_append [(n.tick now link).1.sync] _
  | _ => exact (List.flatMap_eq_nil_iff.mpr fun _ _ => rfl).symm

theorem along_onRecord (n : Node) (es : List (Event σ)) : n.Along OnRecord es :=
  (along_iff n es).mpr fun _ _ _ => onRecord _ _

end Node

end Canopen
